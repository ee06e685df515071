import Mathlib.Data.List.Forall2

/-!
# Checks in the exception monad

`ensure p e` is the statement `if not p: raise e`. The simp set below turns "this sequence of checks
went through" into the conjunction of what was checked, one conjunct for each statement.
-/

namespace GAM.Lib

section
variable {ε α β : Type} {p : Prop} [Decidable p] {e : ε}

/-- Go on when the condition holds, raise otherwise. -/
def ensure (p : Prop) [Decidable p] (e : ε) : Except ε Unit := if p then .ok () else .error e

@[simp] lemma ensure_eq_ok {u : Unit} : ensure p e = .ok u ↔ p := by
  unfold ensure
  split <;> simp_all

@[simp] lemma ensure_eq_error {e' : ε} : ensure p e = .error e' ↔ ¬p ∧ e = e' := by
  unfold ensure
  split <;> simp_all

lemma ensure_pos (h : p) : ensure p e = .ok () := ensure_eq_ok.mpr h

lemma ensure_neg (h : ¬p) : ensure p e = .error e := ensure_eq_error.mpr ⟨h, rfl⟩

@[simp] lemma bind_eq_ok {x : Except ε α} {f : α → Except ε β} {b : β} :
    (x >>= f) = .ok b ↔ ∃ a, x = .ok a ∧ f a = .ok b := by
  cases x <;> simp [bind, Except.bind]

/-- A sequence fails where its first part does, or its second part on the first's answer. -/
lemma bind_eq_error {x : Except ε α} {f : α → Except ε β} {e : ε} :
    (x >>= f) = .error e ↔ x = .error e ∨ ∃ a, x = .ok a ∧ f a = .error e := by
  cases x <;> simp [bind, Except.bind]

@[simp] lemma ok_bind {a : α} {f : α → Except ε β} :
    ((Except.ok a : Except ε α) >>= f) = f a := rfl

@[simp] lemma error_bind {f : α → Except ε β} :
    ((Except.error e : Except ε α) >>= f) = .error e := rfl

@[simp] lemma pure_eq_ok {a : α} : (pure a : Except ε α) = .ok a := rfl

@[simp] lemma map_eq_ok {x : Except ε α} {f : α → β} {b : β} :
    f <$> x = .ok b ↔ ∃ a, x = .ok a ∧ f a = b := by
  cases x <;> simp [Functor.map, Except.map]

@[simp] lemma except_map_ok {f : α → β} {a : α} : (Except.ok a : Except ε α).map f = .ok (f a) := rfl

@[simp] lemma except_map_error {f : α → β} {e : ε} :
    (Except.error e : Except ε α).map f = .error e := rfl

@[simp] lemma except_map_eq_ok {x : Except ε α} {f : α → β} {b : β} :
    x.map f = .ok b ↔ ∃ a, x = .ok a ∧ f a = b := by
  cases x <;> simp

@[simp] lemma mapError_eq_ok {ε' : Type} {x : Except ε α} {f : ε → ε'} {a : α} :
    x.mapError f = .ok a ↔ x = .ok a := by
  cases x <;> simp [Except.mapError]

@[simp] lemma exists_unit {q : Unit → Prop} : (∃ u, q u) ↔ q () :=
  ⟨fun ⟨_, h⟩ => h, fun h => ⟨_, h⟩⟩

/-- Run a check when a flag is set. -/
def checkWhen (b : Bool) (x : Except ε Unit) : Except ε Unit := if b then x else .ok ()

@[simp] lemma checkWhen_true {x : Except ε Unit} : checkWhen true x = x := rfl

@[simp] lemma checkWhen_false {x : Except ε Unit} : checkWhen false x = .ok () := rfl

/-- Run a check when there is a value to check. -/
def checkSome (check : α → Except ε Unit) : Option α → Except ε Unit
  | none => .ok ()
  | some a => check a

@[simp] lemma checkSome_none {check : α → Except ε Unit} : checkSome check none = .ok () := rfl

@[simp] lemma checkSome_some {check : α → Except ε Unit} {a : α} :
    checkSome check (some a) = check a := rfl

/-- Run a check on every member, in order. -/
def forAll (check : α → Except ε Unit) : List α → Except ε Unit
  | [] => .ok ()
  | a :: l => do
    check a
    forAll check l

@[simp] lemma forAll_eq_ok {check : α → Except ε Unit} {l : List α} {u : Unit} :
    forAll check l = .ok u ↔ ∀ a ∈ l, check a = .ok () := by
  induction l with
  | nil => simp [forAll]
  | cons a l ih => simp [forAll, ih]

/-- Map a fallible function over a list, in order. -/
def mapAll (f : α → Except ε β) : List α → Except ε (List β)
  | [] => .ok []
  | a :: l => do
    let b ← f a
    let bs ← mapAll f l
    return b :: bs

/-- All elements are accepted exactly with the answers read off one by one. -/
lemma mapAll_eq_ok {f : α → Except ε β} {l : List α} {bs : List β} :
    mapAll f l = .ok bs ↔ List.Forall₂ (fun a b => f a = .ok b) l bs := by
  induction l generalizing bs with
  | nil => cases bs <;> simp [mapAll]
  | cons a l ih =>
    cases bs with
    | nil => simp [mapAll]
    | cons b bs => simp [mapAll, ih]

/-- A function that succeeds on every member maps the whole list. -/
lemma mapAll_of_ok {f : α → Except ε β} {g : α → β} {l : List α} (h : ∀ a ∈ l, f a = .ok (g a)) :
    mapAll f l = .ok (l.map g) := by
  induction l with
  | nil => rfl
  | cons a l ih =>
    simp [mapAll, h a (by simp), ih fun a ha => h a (by simp [ha])]

/-- A call that succeeds on a member under a condition maps the list under the condition. -/
lemma mapAll_iff {f : α → Except ε β} {P : α → Prop} {g : α → β} {l : List α} {bs : List β}
    (h : ∀ a ∈ l, ∀ b, f a = .ok b ↔ P a ∧ b = g a) :
    mapAll f l = .ok bs ↔ (∀ a ∈ l, P a) ∧ bs = l.map g := by
  induction l generalizing bs with
  | nil => simp [mapAll, eq_comm]
  | cons a l ih =>
    rw [List.forall_mem_cons] at h
    simp only [mapAll, bind_eq_ok, pure_eq_ok, Except.ok.injEq, h.1, ih h.2, List.forall_mem_cons,
      List.map_cons]
    constructor
    · rintro ⟨_, ⟨head, rfl⟩, _, ⟨tail, rfl⟩, rfl⟩
      exact ⟨⟨head, tail⟩, rfl⟩
    · rintro ⟨⟨head, tail⟩, rfl⟩
      exact ⟨_, ⟨head, rfl⟩, _, ⟨tail, rfl⟩, rfl⟩

/-- Mapping before the checks is checking the mapped elements. -/
lemma mapAll_map {γ : Type} {f : α → Except ε β} {h : γ → α} {l : List γ} :
    mapAll f (l.map h) = mapAll (fun c => f (h c)) l := by
  induction l with
  | nil => rfl
  | cons c l ih => rw [List.map_cons, mapAll, mapAll, ih]

/-- A call that succeeds on every member maps the whole list. -/
lemma mapAll_ok {f : α → Except ε β} {l : List α} (h : ∀ a ∈ l, ∃ b, f a = .ok b) :
    ∃ bs, mapAll f l = .ok bs := by
  induction l with
  | nil => exact ⟨[], rfl⟩
  | cons a l ih =>
    obtain ⟨b, hb⟩ := h a (by simp)
    obtain ⟨bs, hl⟩ := ih fun a' h' => h a' (by simp [h'])
    exact ⟨b :: bs, by simp [mapAll, hb, hl]⟩

/-- A list that was mapped had the call succeed on every member. -/
lemma mapAll_mem {f : α → Except ε β} {l : List α} {bs} (h : mapAll f l = .ok bs) :
    ∀ a ∈ l, ∃ b, f a = .ok b := by
  induction l generalizing bs with
  | nil => simp
  | cons a l ih =>
    simp only [mapAll, bind_eq_ok] at h
    obtain ⟨b, hb, bs', hl, _⟩ := h
    intro a' ha'
    cases ha' with
    | head => exact ⟨b, hb⟩
    | tail _ ha' => exact ih hl a' ha'

/-- A list that was mapped is the image of the results. -/
lemma mapAll_results [Inhabited β] {f : α → Except ε β} {l : List α} {bs : List β}
    (h : mapAll f l = .ok bs) : ∃ g, bs = l.map g ∧ ∀ a ∈ l, f a = .ok (g a) := by
  have each (a : α) (ha : a ∈ l) : f a = .ok (f a).toOption.get! := by
    obtain ⟨b, hb⟩ := mapAll_mem h a ha
    rw [hb]
    rfl
  refine ⟨fun a => (f a).toOption.get!, ?_, each⟩
  rw [mapAll_of_ok each] at h
  exact (Except.ok.inj h).symm

/-- A member on the right of a relation of lists has a partner on the left. -/
lemma forall₂_mem_right {R : α → β → Prop} {l : List α} {bs : List β} (h : List.Forall₂ R l bs) :
    ∀ b ∈ bs, ∃ a ∈ l, R a b := by
  induction h with
  | nil => simp
  | cons hab _ ih =>
    rw [List.forall_mem_cons]
    exact ⟨⟨_, by simp, hab⟩, fun b hb => (ih b hb).imp fun a h => ⟨by simp [h.1], h.2⟩⟩

/-- A member on the left of a relation of lists has a partner on the right. -/
lemma forall₂_mem_left {R : α → β → Prop} {l : List α} {bs : List β} (h : List.Forall₂ R l bs) :
    ∀ a ∈ l, ∃ b ∈ bs, R a b := by
  induction h with
  | nil => simp
  | cons hab _ ih =>
    rw [List.forall_mem_cons]
    exact ⟨⟨_, by simp, hab⟩, fun a ha => (ih a ha).imp fun b h => ⟨by simp [h.1], h.2⟩⟩

/-- A relation between members carries over to the results. -/
lemma mapAll_pairwise {f : α → Except ε β} {R : α → α → Prop} {S : β → β → Prop} {l : List α}
    {bs : List β} (h : mapAll f l = .ok bs) (ordered : l.Pairwise R)
    (keeps : ∀ a a' b b', f a = .ok b → f a' = .ok b' → R a a' → S b b') : bs.Pairwise S := by
  have each := mapAll_eq_ok.mp h
  clear h
  induction each with
  | nil => exact .nil
  | cons hab tail ih =>
    rw [List.pairwise_cons] at ordered ⊢
    refine ⟨fun b' hb' => ?_, ih ordered.2⟩
    obtain ⟨a', ha', ha'b'⟩ := forall₂_mem_right tail b' hb'
    exact keeps _ a' _ b' hab ha'b' (ordered.1 a' ha')

/-! ### What a computation can raise -/

/-- Every exception the computation raises is in a class. -/
def OnlyRaises (P : ε → Prop) : Except ε α → Prop
  | .ok _ => True
  | .error e => P e

variable {P Q : ε → Prop} {x : Except ε α} {f : α → Except ε β}

@[simp] lemma onlyRaises_ok {a : α} : OnlyRaises P (.ok a) := trivial

@[simp] lemma onlyRaises_error : OnlyRaises P (.error e : Except ε α) ↔ P e := .rfl

@[simp] lemma onlyRaises_map {f : α → β} {x : Except ε α} :
    OnlyRaises P (x.map f) ↔ OnlyRaises P x := by
  cases x <;> exact .rfl

@[simp] lemma onlyRaises_ensure : OnlyRaises P (ensure p e) ↔ (¬p → P e) := by
  unfold ensure
  split <;> simp_all

@[simp] lemma onlyRaises_bind :
    OnlyRaises P (x >>= f) ↔ OnlyRaises P x ∧ ∀ a, x = .ok a → OnlyRaises P (f a) := by
  cases x <;> simp

@[simp] lemma onlyRaises_checkWhen {b : Bool} {x : Except ε Unit} :
    OnlyRaises P (checkWhen b x) ↔ (b = true → OnlyRaises P x) := by
  cases b <;> simp

@[simp] lemma onlyRaises_checkSome {check : α → Except ε Unit} {o : Option α} :
    OnlyRaises P (checkSome check o) ↔ ∀ a ∈ o, OnlyRaises P (check a) := by
  cases o <;> simp

/-- A weaker condition on the errors still holds. -/
lemma OnlyRaises.mono (h : OnlyRaises P x) (hPQ : ∀ e, P e → Q e) : OnlyRaises Q x := by
  cases x with
  | ok a => trivial
  | error e => exact hPQ e h

/-- The error a computation raised meets the condition. -/
lemma OnlyRaises.of_error (h : OnlyRaises P x) (hx : x = .error e) : P e := by
  subst hx
  exact h

/-- A loop of checks raises what one check can raise. -/
lemma onlyRaises_forAll {check : α → Except ε Unit} {l : List α}
    (h : ∀ a ∈ l, OnlyRaises P (check a)) : OnlyRaises P (forAll check l) := by
  induction l with
  | nil => trivial
  | cons a l ih =>
    simp only [forAll, onlyRaises_bind]
    exact ⟨h a (by simp), fun _ _ => ih fun b hb => h b (by simp [hb])⟩

/-- A loop of calls raises what one call can raise. -/
lemma onlyRaises_mapAll {l : List α} (h : ∀ a ∈ l, OnlyRaises P (f a)) :
    OnlyRaises P (mapAll f l) := by
  induction l with
  | nil => trivial
  | cons a l ih =>
    simp only [mapAll, onlyRaises_bind, pure_eq_ok, onlyRaises_ok, implies_true, and_true]
    exact ⟨h a (by simp), fun _ _ => ih fun b hb => h b (by simp [hb])⟩

end

end GAM.Lib
