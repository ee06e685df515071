import Mathlib.Data.List.Nodup
import Mathlib.Data.List.Infix
import Mathlib.Data.List.MinMax

/-!
# Append-only tables

A table is a list of rows in commit order, and a later table has an earlier one as a prefix. A row that
answers a lookup goes on answering it, and where a column is a key the row of a value is found. In a
chain every row is related to the row before it.
-/

namespace GAM.Lib
variable {α β : Type} {rows later : List α} {row : α}

/-- The row that answers a lookup from its commit on. -/
lemma find_appended {p : α → Bool} (unused : ∀ r ∈ rows, p r = false) (hit : p row = true)
    (grown : rows ++ [row] <+: later) : later.find? p = some row := by
  apply grown.find?_eq_some
  have before : rows.find? p = none := by
    refine List.find?_eq_none.mpr fun r hr => ?_
    rw [unused r hr]
    exact Bool.false_ne_true
  rw [List.find?_append, before, Option.none_or, List.find?_singleton, if_pos hit]

/-- A row is found by its key. -/
lemma find_key [DecidableEq β] {key : α → β} (keys : (rows.map key).Nodup) (mem : row ∈ rows) :
    rows.find? (fun r => key r = key row) = some row := by
  cases found : rows.find? (fun r => key r = key row) with
  | none =>
    have missed := List.find?_eq_none.mp found row mem
    rw [decide_eq_true_eq] at missed
    exact absurd rfl missed
  | some r =>
    have same : key r = key row := by simpa using List.find?_some found
    rw [List.inj_on_of_nodup_map keys (List.mem_of_find?_eq_some found) mem same]

/-- A row with a new key leaves the keys distinct. -/
lemma keys_append {key : α → β} (keys : (rows.map key).Nodup) (fresh : ∀ r ∈ rows, key r ≠ key row) :
    ((rows ++ [row]).map key).Nodup := by
  rw [List.map_append, List.map_singleton, List.nodup_append]
  refine ⟨keys, List.nodup_singleton _, ?_⟩
  intro a ha b hb e
  obtain ⟨r, hr, rfl⟩ := List.mem_map.mp ha
  exact fresh r hr (e.trans (List.mem_singleton.mp hb))

/-- At most one row has a key. -/
lemma length_filter_key [DecidableEq β] {key : α → β} (keys : (rows.map key).Nodup) (k : β) :
    (rows.filter fun r => key r = k).length ≤ 1 := by
  have once : (rows.map key).count k ≤ 1 := List.nodup_iff_count_le_one.mp keys k
  rw [List.count, List.countP_map, List.countP_eq_length_filter] at once
  exact once

/-! ### Chains -/

/-- Every row is related to the row before it, the first one to `prior`. -/
def Chained (R : Option α → α → Prop) : Option α → List α → Prop
  | _, [] => True
  | prior, a :: l => R prior a ∧ Chained R (some a) l

/-- A chain is extended by a row that is related to its last one. -/
lemma chained_concat {R : Option α → α → Prop} {l : List α} {a : α} {prior : Option α} :
    Chained R prior (l ++ [a]) ↔ Chained R prior l ∧ R (l.getLast?.or prior) a := by
  induction l generalizing prior with
  | nil => simp [Chained]
  | cons b l ih =>
    have last : (b :: l).getLast?.or prior = l.getLast?.or (some b) := by
      rw [List.getLast?_cons]
      cases l.getLast? <;> rfl
    rw [List.cons_append, Chained, Chained, ih, and_assoc, last]

/-- Position by position: a row is related to the row before it. -/
lemma Chained.next {R : Option α → α → Prop} {l : List α} {prior : Option α}
    (h : Chained R prior l) : ∀ i (hi : i + 1 < l.length), R (some l[i]) l[i + 1] := by
  induction l generalizing prior with
  | nil =>
    intro i hi
    simp at hi
  | cons a l ih =>
    intro i hi
    cases i with
    | zero =>
      cases l with
      | nil => simp at hi
      | cons b l => exact h.2.1
    | succ i => exact ih h.2 i (by simpa using hi)

/-- Numbers that count on from the row before are consecutive. -/
lemma Chained.numbers {R : Option α → α → Prop} {number : α → Nat} {l : List α}
    (counts : ∀ prior a, R prior a → number a = prior.elim 1 fun b => number b + 1)
    {prior : Option α} (h : Chained R prior l) :
    l.map number = List.range' (prior.elim 1 fun b => number b + 1) l.length := by
  induction l generalizing prior with
  | nil => rfl
  | cons a l ih =>
    rw [List.map_cons, List.length_cons, List.range'_succ, ih h.2, Option.elim_some,
      counts prior a h.1]

/-- The row with the greatest number is the last one. -/
lemma Chained.argmax {R : Option α → α → Prop} {number : α → Nat}
    (counts : ∀ prior a, R prior a → number a = prior.elim 1 fun b => number b + 1) {l : List α}
    (h : Chained R none l) : List.argmax number l = l.getLast? := by
  induction l using List.reverseRecOn with
  | nil => rfl
  | append_singleton l a ih =>
    obtain ⟨before, last⟩ := chained_concat.mp h
    rw [Option.or_none] at last
    rw [List.argmax_concat, ih before, List.getLast?_concat]
    cases found : l.getLast? with
    | none => rfl
    | some b =>
      have number := counts _ _ last
      rw [found, Option.elim_some] at number
      exact if_pos (number ▸ Nat.lt_succ_self _)

end GAM.Lib
