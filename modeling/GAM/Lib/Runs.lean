import Mathlib.Data.List.DropRight
import Mathlib.Data.List.Induction

/-!
# Runs

The runs of a list are its maximal parts without a separator. A list is taken apart from the left into
separators and runs, which is how the facts about runs are proved; runs that are joined by a separator
are read back, so that a list of runs and its joined form determine each other.
-/

namespace GAM.Lib

variable {α β : Type} {sep : α → Bool}

/-- A part of a list that is not empty and has no separator. -/
def IsRun (sep : α → Bool) (r : List α) : Prop := r ≠ [] ∧ ∀ a ∈ r, sep a = false

/-- The maximal runs of a list. -/
def runs (sep : α → Bool) (l : List α) : List (List α) :=
  (l.splitOnP sep).filter fun r => !r.isEmpty

@[simp] lemma runs_nil : runs sep [] = [] := rfl

/-- A separator parts the runs before it from the runs after it. -/
lemma runs_append_sep {a : α} (h : sep a = true) (l l' : List α) :
    runs sep (l ++ a :: l') = runs sep l ++ runs sep l' := by
  rw [runs, List.splitOnP_append_cons _ _ h, List.filter_append]
  rfl

/-- A separator in front starts no run. -/
lemma runs_sep {a : α} (h : sep a = true) (l : List α) : runs sep (a :: l) = runs sep l :=
  runs_append_sep h [] l

/-- A run is its own only run. -/
lemma IsRun.runs {r : List α} (h : IsRun sep r) : runs sep r = [r] := by
  rw [Lib.runs, List.splitOnP_eq_singleton h.2, List.filter_singleton]
  have nonempty : (!r.isEmpty) = true := by simpa using h.1
  rw [nonempty]
  rfl

/-- A run before a separator is the first run. -/
lemma IsRun.runs_append {r : List α} (h : IsRun sep r) {a : α} (ha : sep a = true) (l : List α) :
    Lib.runs sep (r ++ a :: l) = r :: Lib.runs sep l := by
  rw [runs_append_sep ha, h.runs]
  rfl

/-- A list is empty, or starts with a separator, or is a run, or is a run before a separator and
another list. -/
theorem runInduction (sep : α → Bool) {P : List α → Prop} (nil : P [])
    (step : ∀ a l, sep a = true → P l → P (a :: l)) (last : ∀ r, IsRun sep r → P r)
    (run : ∀ r a l, IsRun sep r → sep a = true → P l → P (r ++ a :: l)) (l : List α) : P l := by
  -- the induction is on the length: a run and its separator are taken off together
  induction h : l.length using Nat.strong_induction_on generalizing l with
  | _ n ih =>
    cases l with
    | nil => exact nil
    | cons a l =>
      cases ha : sep a with
      | true => exact step a l ha (ih l.length (by simp [← h]) l rfl)
      | false =>
        let r := (a :: l).takeWhile fun a => !sep a
        have split : r ++ (a :: l).dropWhile (fun a => !sep a) = a :: l := List.takeWhile_append_dropWhile
        have isRun : IsRun sep r := by
          refine ⟨by simp [r, ha], fun b hb => ?_⟩
          simpa using List.mem_takeWhile_imp hb
        cases hd : (a :: l).dropWhile fun a => !sep a with
        | nil =>
          rw [hd, List.append_nil] at split
          exact split ▸ last r isRun
        | cons b l' =>
          have hb : sep b = true := by
            have stop := List.head?_dropWhile_not (fun a => !sep a) (a :: l)
            rw [hd] at stop
            simpa using stop
          rw [hd] at split
          rw [← split] at h ⊢
          refine run r b l' isRun hb (ih l'.length ?_ l' rfl)
          rw [List.length_append, List.length_cons] at h
          omega

/-- What is listed as a run is one. -/
lemma isRun_of_mem {l r : List α} (h : r ∈ runs sep l) : IsRun sep r := by
  induction l using runInduction sep with
  | nil => exact absurd h List.not_mem_nil
  | step a l ha ih => exact ih (runs_sep ha l ▸ h)
  | last r' hr =>
    rw [hr.runs] at h
    exact List.mem_singleton.mp h ▸ hr
  | run r' a l hr ha ih =>
    rw [hr.runs_append ha] at h
    cases List.mem_cons.mp h with
    | inl e => exact e ▸ hr
    | inr h => exact ih h

/-- The elements of a run are elements of the list. -/
lemma mem_of_mem_runs {l r : List α} (h : r ∈ runs sep l) : ∀ a ∈ r, a ∈ l := by
  induction l using runInduction sep with
  | nil => exact absurd h List.not_mem_nil
  | step b l hb ih => exact fun a ha => List.mem_cons_of_mem _ (ih (runs_sep hb l ▸ h) a ha)
  | last r' hr =>
    rw [hr.runs] at h
    exact fun a ha => List.mem_singleton.mp h ▸ ha
  | run r' b l hr hb ih =>
    rw [hr.runs_append hb] at h
    intro a ha
    cases List.mem_cons.mp h with
    | inl e => exact List.mem_append_left _ (e ▸ ha)
    | inr h => exact List.mem_append_right _ (List.mem_cons_of_mem _ (ih h a ha))

/-- A list has no runs when it is made of separators. -/
lemma runs_eq_nil {l : List α} : runs sep l = [] ↔ ∀ a ∈ l, sep a = true := by
  induction l using runInduction sep with
  | nil => simp
  | step a l ha ih => rw [runs_sep ha, ih, List.forall_mem_cons, and_iff_right ha]
  | last r hr =>
    rw [hr.runs]
    obtain ⟨a, l, rfl⟩ := List.exists_cons_of_ne_nil hr.1
    refine iff_of_false (List.cons_ne_nil _ _) fun all => ?_
    exact Bool.false_ne_true ((hr.2 a List.mem_cons_self).symm.trans (all a List.mem_cons_self))
  | run r a l hr ha ih =>
    rw [hr.runs_append ha]
    obtain ⟨b, r, rfl⟩ := List.exists_cons_of_ne_nil hr.1
    refine iff_of_false (List.cons_ne_nil _ _) fun all => ?_
    exact Bool.false_ne_true ((hr.2 b List.mem_cons_self).symm.trans (all b List.mem_cons_self))

/-- Separators at the end add no run. -/
lemma runs_append_seps {l t : List α} (h : ∀ a ∈ t, sep a = true) :
    runs sep (l ++ t) = runs sep l := by
  cases t with
  | nil => rw [List.append_nil]
  | cons a t =>
    rw [runs_append_sep (h a List.mem_cons_self),
      runs_eq_nil.mpr fun b hb => h b (List.mem_cons_of_mem _ hb), List.append_nil]

/-- Leading separators do not count. -/
lemma runs_dropWhile (l : List α) : runs sep (l.dropWhile sep) = runs sep l := by
  induction l with
  | nil => rfl
  | cons a l ih =>
    cases ha : sep a with
    | true => rw [List.dropWhile_cons_of_pos ha, ih, runs_sep ha]
    | false => rw [List.dropWhile_cons_of_neg (by simp [ha])]

/-- Trailing separators do not count. -/
lemma runs_rdropWhile (l : List α) : runs sep (l.rdropWhile sep) = runs sep l := by
  conv_rhs => rw [← @List.rdropWhile_append_rtakeWhile _ sep l]
  exact (runs_append_seps fun a ha => List.mem_rtakeWhile_imp ha).symm

/-- What is joined by a separator is made of the separator and of what was joined. -/
lemma mem_intercalate {a b : α} {rs : List (List α)} (h : b ∈ [a].intercalate rs) :
    b = a ∨ ∃ r ∈ rs, b ∈ r := by
  induction rs with
  | nil => exact absurd h List.not_mem_nil
  | cons r rs ih =>
    cases rs with
    | nil => exact .inr ⟨r, List.mem_cons_self, by simpa using h⟩
    | cons r' rs =>
      rw [List.intercalate_cons_cons, List.append_assoc, List.mem_append, List.mem_append,
        List.mem_singleton] at h
      rcases h with h | h | h
      · exact .inr ⟨r, List.mem_cons_self, h⟩
      · exact .inl h
      · exact (ih h).imp id fun ⟨q, hq, hb⟩ => ⟨q, List.mem_cons_of_mem _ hq, hb⟩

/-- Runs that are joined by a separator are read back. -/
lemma runs_intercalate {a : α} (ha : sep a = true) {rs : List (List α)} (h : ∀ r ∈ rs, IsRun sep r) :
    runs sep ([a].intercalate rs) = rs := by
  induction rs with
  | nil => rfl
  | cons r rs ih =>
    have hr := h r List.mem_cons_self
    cases rs with
    | nil => rw [List.intercalate_singleton, hr.runs]
    | cons r' rs =>
      rw [List.intercalate_cons_cons, List.append_assoc, List.singleton_append, hr.runs_append ha,
        ih fun q hq => h q (List.mem_cons_of_mem _ hq)]

end GAM.Lib
