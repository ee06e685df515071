import GAM.Lib.Sorted
import Mathlib.Data.Finset.Card

/-!
# Joined and grouped rows

The outer join of a query keeps each of its left rows, with the right rows that match or with none,
and a program that groups rows by a key has one group for each key, none of them empty.
-/

namespace GAM.Lib

section
variable {α β : Type}

/-- `l LEFT JOIN r ON matched`: a left row without a match stays, with nothing on its right. -/
def leftJoin (matched : α → List β) (l : List α) : List (α × Option β) :=
  l.flatMap fun a =>
    match matched a with
    | [] => [(a, none)]
    | b :: bs => (b :: bs).map fun b => (a, some b)

variable {matched : α → List β} {l : List α} {a : α}

/-- The left rows of an outer join are those that were joined. -/
lemma leftJoin_left : (∃ row ∈ leftJoin matched l, row.1 = a) ↔ a ∈ l := by
  simp only [leftJoin, List.mem_flatMap]
  constructor
  · rintro ⟨row, ⟨a', ha, hrow⟩, rfl⟩
    cases hm : matched a' with
    | nil =>
      rw [hm, List.mem_singleton] at hrow
      rwa [hrow]
    | cons b bs =>
      rw [hm] at hrow
      obtain ⟨b', -, rfl⟩ := List.mem_map.mp hrow
      exact ha
  · intro ha
    cases hm : matched a with
    | nil => exact ⟨(a, none), ⟨a, ha, by rw [hm]; exact List.mem_singleton_self _⟩, rfl⟩
    | cons b bs =>
      refine ⟨(a, some b), ⟨a, ha, ?_⟩, rfl⟩
      rw [hm]
      exact List.mem_map_of_mem List.mem_cons_self

/-- What stands on the right of an outer join matched. -/
lemma leftJoin_right {row : α × Option β} {b : β} (h : row ∈ leftJoin matched l)
    (right : row.2 = some b) : b ∈ matched row.1 := by
  obtain ⟨a, -, hrow⟩ := List.mem_flatMap.mp h
  cases hm : matched a with
  | nil =>
    rw [hm, List.mem_singleton] at hrow
    rw [hrow] at right
    cases right
  | cons b' bs =>
    rw [hm] at hrow
    obtain ⟨c, hc, rfl⟩ := List.mem_map.mp hrow
    cases right
    exact hm ▸ hc

/-- An outer join keeps the keys of its left rows and adds none. -/
lemma leftJoin_keys {γ : Type} [DecidableEq γ] (f : α → γ) :
    ((leftJoin matched l).map fun row => f row.1).toFinset = (l.map f).toFinset := by
  ext k
  simp only [List.mem_toFinset, List.mem_map]
  constructor
  · rintro ⟨row, hrow, rfl⟩
    exact ⟨row.1, leftJoin_left.mp ⟨row, hrow, rfl⟩, rfl⟩
  · rintro ⟨a, ha, rfl⟩
    have kept : ∃ row ∈ leftJoin matched l, row.1 = a := leftJoin_left.mpr ha
    obtain ⟨row, hrow, rfl⟩ := kept
    exact ⟨row, hrow, rfl⟩

end

section
variable {α β : Type} [LinearOrder β]

/-- The rows of one key. -/
structure Group (α β : Type) where
  key : β
  rows : List α
  nonempty : rows ≠ []

/-- The first row of a group. -/
def Group.first (g : Group α β) : α := g.rows.head g.nonempty

/-- The rows of each key, the keys ascending. -/
def groupedBy (key : α → β) (rows : List α) : List (Group α β) :=
  (sortedBy id (rows.map key).dedup).attach.map fun k =>
    { key := k.val
      rows := rows.filter fun row => key row = k.val
      nonempty := by
        obtain ⟨row, hrow, e⟩ := List.mem_map.mp (List.mem_dedup.mp (mem_sortedBy.mp k.property))
        refine List.ne_nil_of_mem (a := row) (List.mem_filter.mpr ⟨hrow, ?_⟩)
        rw [e, decide_eq_true_eq] }

variable {key : α → β} {rows : List α}

/-- The rows of a group are rows of the list. -/
lemma groupedBy_rows {g : Group α β} {row : α} (h : g ∈ groupedBy key rows) (hrow : row ∈ g.rows) :
    row ∈ rows := by
  obtain ⟨k, -, rfl⟩ := List.mem_map.mp h
  exact List.mem_of_mem_filter hrow

/-- The rows of a group have its key. -/
lemma groupedBy_key {g : Group α β} {row : α} (h : g ∈ groupedBy key rows) (hrow : row ∈ g.rows) :
    key row = g.key := by
  obtain ⟨k, -, rfl⟩ := List.mem_map.mp h
  have same : row ∈ rows.filter fun row => key row = k.val := hrow
  exact of_decide_eq_true (List.mem_filter.mp same).2

/-- The rows of a group stand in the order of the list. -/
lemma groupedBy_ordered {R : α → α → Prop} {g : Group α β} (h : g ∈ groupedBy key rows)
    (ordered : rows.Pairwise R) : g.rows.Pairwise R := by
  obtain ⟨k, -, rfl⟩ := List.mem_map.mp h
  exact ordered.filter _

/-- The groups stand in the order of their keys. -/
lemma groupedBy_pairwise : (groupedBy key rows).Pairwise fun g g' => g.key ≤ g'.key := by
  have keys : (groupedBy key rows).map Group.key = sortedBy id (rows.map key).dedup := by
    rw [groupedBy, List.map_map]
    exact List.attach_map_subtype_val _
  have ascending : (sortedBy id (rows.map key).dedup).Pairwise fun a b => a ≤ b := sortedBy_pairwise
  rwa [← keys, List.pairwise_map] at ascending

/-- There is one group for each key. -/
lemma length_groupedBy : (groupedBy key rows).length = (rows.map key).toFinset.card := by
  rw [groupedBy, List.length_map, List.length_attach, length_sortedBy, List.card_toFinset]

end

end GAM.Lib
