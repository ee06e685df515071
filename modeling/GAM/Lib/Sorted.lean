import Mathlib.Data.List.Sort
import Mathlib.Data.String.Basic
import Mathlib.Data.Prod.Lex

/-!
# Stable sorting by a key

`sortedBy key l` is Python's `sorted(l, key=key)`: ascending and stable. The lemmas say what later
proofs need of it: it permutes its input, its output is ordered by the key, an ordered list is left
alone, and two permutations of one list sort to the same list when the key separates their members.
-/

namespace GAM.Lib

section
variable {α β : Type*} [LinearOrder β]

/-- The stable sort of a list by a key, ascending. -/
def sortedBy (key : α → β) (l : List α) : List α :=
  l.insertionSort fun a b => key a ≤ key b

variable {key : α → β} {l l' : List α} {a : α}

/-- Sorting permutes. -/
lemma sortedBy_perm : (sortedBy key l).Perm l :=
  List.perm_insertionSort _ l

@[simp] lemma mem_sortedBy : a ∈ sortedBy key l ↔ a ∈ l :=
  sortedBy_perm.mem_iff

@[simp] lemma length_sortedBy : (sortedBy key l).length = l.length :=
  sortedBy_perm.length_eq

@[simp] lemma sortedBy_nil : sortedBy key ([] : List α) = [] := rfl

@[simp] lemma sortedBy_singleton : sortedBy key [a] = [a] := rfl

/-- The output is ordered by the key. -/
lemma sortedBy_pairwise : (sortedBy key l).Pairwise fun a b => key a ≤ key b := by
  have : Std.Total fun a b : α => key a ≤ key b := ⟨fun a b => le_total _ _⟩
  have : IsTrans α fun a b => key a ≤ key b := ⟨fun _ _ _ => le_trans⟩
  exact List.pairwise_insertionSort _ l

/-- An ordered list is left alone. -/
lemma sortedBy_eq_self (h : l.Pairwise fun a b => key a ≤ key b) : sortedBy key l = l :=
  h.insertionSort_eq

/-- Sorting twice is sorting once. -/
@[simp] lemma sortedBy_idem : sortedBy key (sortedBy key l) = sortedBy key l :=
  sortedBy_eq_self sortedBy_pairwise

/-- Permutations sort to one list when the key tells their members apart. -/
lemma sortedBy_eq_of_perm (p : l.Perm l') (inj : ∀ a ∈ l, ∀ b ∈ l, key a = key b → a = b) :
    sortedBy key l = sortedBy key l' := by
  have q : (sortedBy key l).Perm (sortedBy key l') :=
    sortedBy_perm.trans (p.trans sortedBy_perm.symm)
  apply List.Perm.eq_of_pairwise _ sortedBy_pairwise sortedBy_pairwise q
  intro a b ha hb hab hba
  have hb : b ∈ l := p.mem_iff.mpr (mem_sortedBy.mp hb)
  exact inj a (mem_sortedBy.mp ha) b hb (le_antisymm hab hba)

/-- A map that keeps the key can be applied before sorting. -/
lemma sortedBy_map {γ : Type*} {key' : γ → β} (f : α → γ) (h : ∀ a, key' (f a) = key a) :
    sortedBy key' (l.map f) = (sortedBy key l).map f := by
  refine (List.map_insertionSort _ _ f l fun a _ b _ => ?_).symm
  rw [h a, h b]

/-- Lists whose items become the same, in another order, sort to the same list when the keys differ. -/
lemma map_sortedBy_eq (f : α → α) (h : ∀ a, key (f a) = key a) (nd : (l.map key).Nodup)
    (p : (l.map f).Perm (l'.map f)) : (sortedBy key l).map f = (sortedBy key l').map f := by
  rw [← sortedBy_map f h, ← sortedBy_map f h]
  apply sortedBy_eq_of_perm p
  have keys : ((l.map f).map key).Nodup := by
    rw [List.map_map]
    exact (List.map_congr_left fun a _ => (h a).symm : l.map key = _) ▸ nd
  intro a ha b hb e
  exact List.inj_on_of_nodup_map keys ha hb e

end

end GAM.Lib
