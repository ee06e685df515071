import GAM.Consequences.Divergence
import GAM.Lib.NumberText
import GAM.Lib.Pointer

/-!
# The addresses of leaves

A leaf names its place by a JSON pointer. The pointers of a comparison are apart from one another,
each resolves in the values that the leaf reports as present, and what the two values hold lies at or
below them. An empty container that faces one with members is the exception: its leaves are the missing
members, which lie below it.
-/

namespace GAM
open Lib

/-- The index that a reference token names: digits without a leading zero. -/
def arrayIndex (token : String) : Option Nat :=
  let cs := token.toList
  if cs.all Char.isDigit ∧ (cs = ['0'] ∨ cs ≠ [] ∧ cs.head? ≠ some '0') then
    some (Nat.ofDigitChars 10 cs 0)
  else none

/-- The member or element of a value under a reference token. -/
def childAt (token : String) : Value → Option Value
  | .dict l => l.lookup token
  | .tuple l => (arrayIndex token).bind fun i => l[i]?
  | _ => none

/-- The value at an address (RFC 6901). -/
def resolve : List String → Value → Option Value
  | [], v => some v
  | token :: ts, v => (childAt token v).bind (resolve ts)

/-- The value at a pointer. -/
def resolvePointer (text : String) (v : Value) : Option Value :=
  (Pointer.parse text).bind fun ts => resolve ts v

/-- A scalar or an empty container. -/
def IsAtom : Value → Prop
  | .dict l => l = []
  | .tuple l => l = []
  | _ => True

/-- An empty container faces one of its kind that has members. -/
inductive Outgrown : Value → Value → Prop where
  | object {m : String × Value} {l : List (String × Value)} : Outgrown (.dict []) (.dict (m :: l))
  | array {v : Value} {l : List Value} : Outgrown (.tuple []) (.tuple (v :: l))

/-- A token names an index exactly when it is written as one. -/
lemma arrayIndex_iff {token : String} {i : Nat} :
    arrayIndex token = some i ↔ token = String.ofList (natChars i) := by
  rw [arrayIndex]
  constructor
  · intro h
    split at h
    · rename_i digits
      obtain ⟨digits, shape⟩ := digits
      cases h
      have leading : Leading token.toList := by
        refine ⟨List.all_eq_true.mp digits, shape.imp id ?_⟩
        rintro ⟨ne, first⟩
        obtain ⟨c, cs, e⟩ := List.exists_cons_of_ne_nil ne
        rw [e, List.head?_cons, ne_eq, Option.some.injEq] at first
        exact ⟨c, cs, e, first⟩
      rw [leading.natChars, String.ofList_toList]
    · cases h
  · rintro rfl
    obtain ⟨digits, shape⟩ := natChars_leading (n := i)
    rw [String.toList_ofList, if_pos, natChars, Nat.ofDigitChars_toDigits (by decide) (by decide)]
    refine ⟨List.all_eq_true.mpr digits, shape.imp id ?_⟩
    rintro ⟨c, cs, e, hc⟩
    rw [e]
    exact ⟨List.cons_ne_nil c cs, fun first => hc (Option.some.inj first)⟩

/-- Elements are found under the text of their index. -/
lemma childAt_index {l : List Value} {i : Nat} :
    childAt (String.ofList (natChars i)) (.tuple l) = l[i]? := by
  rw [childAt, arrayIndex_iff.mpr rfl, Option.bind_some]

lemma escape_eq : escapePointer = Pointer.escape := rfl

lemma pointer_print {base : List String} {component : String} :
    pointer (Pointer.print base) component = Pointer.print (base ++ [component]) := by
  rw [pointer, escape_eq, Pointer.print_append]

/-- What the leaves below a pointer have in common. The values are those of the two sides there. -/
structure Addresses (p a : Option Value) (base : List String) (leaves : List DivergenceLeaf) :
    Prop where
  nonempty : leaves ≠ []
  located : ∀ leaf ∈ leaves, ∃ ts, leaf.jsonPointer = Pointer.print (base ++ ts) ∧
    leaf.predictedPresent = (p.bind (resolve ts)).isSome ∧
    leaf.actualPresent = (a.bind (resolve ts)).isSome
  apart : leaves.Pairwise fun x y => Pointer.Apart x.jsonPointer y.jsonPointer
  covered : ∀ ts v, p.bind (resolve ts) = some v → IsAtom v →
    (∃ leaf ∈ leaves, Pointer.AtOrBelow leaf.jsonPointer (base ++ ts)) ∨
    ∃ w, a.bind (resolve ts) = some w ∧ Outgrown v w ∧ ∃ leaf ∈ leaves, ∃ us,
      leaf.jsonPointer = Pointer.print us ∧ base ++ ts <+: us

section
variable {ctx : Context} {p a : Option Value} {base : List String} {leaves : List DivergenceLeaf}

/-- One leaf for everything below a pointer. -/
lemma addresses_single {kind : LeafKind} {score : ℚ} {predicted actual : Bool}
    (left : predicted = p.isSome) (right : actual = a.isSome) :
    Addresses p a base [⟨Pointer.print base, predicted, actual, kind, score⟩] where
  nonempty := List.cons_ne_nil _ _
  located := by
    intro leaf hleaf
    rw [List.mem_singleton.mp hleaf]
    refine ⟨[], by rw [List.append_nil], ?_⟩
    cases p <;> cases a <;> exact ⟨left, right⟩
  apart := List.pairwise_singleton _ _
  covered := by
    intro ts v _ _
    exact .inl ⟨_, List.mem_singleton_self _, Pointer.atOrBelow_print.mpr (List.prefix_append _ _)⟩

/-- The leaves of a member that may be missing on either side. -/
lemma childLeaves_addresses (present : p ≠ none ∨ a ≠ none)
    (h : childLeaves ctx p a (Pointer.print base) = .ok leaves)
    (ih : ∀ v, p = some v → ∀ w leaves, compare ctx v w (Pointer.print base) = .ok leaves →
      Addresses (some v) (some w) base leaves) : Addresses p a base leaves := by
  cases p with
  | none =>
    cases h
    cases a with
    | none => exact absurd rfl (present.resolve_left (absurd rfl))
    | some w => exact addresses_single rfl rfl
  | some v =>
    cases a with
    | none =>
      cases h
      exact addresses_single rfl rfl
    | some w => exact ih v rfl w leaves h

/-- How the members of two containers are walked: under distinct tokens, all those of the first. -/
structure Walked {α : Type} (p a : Value) (l : List α) (token : α → String) : Prop where
  nonempty : l ≠ []
  distinct : l.Pairwise fun x y => token x ≠ token y
  complete : ∀ t v, childAt t p = some v → ∃ x ∈ l, token x = t
  /-- Only a container without members is an atom, and it faces one with members. -/
  atom : IsAtom p → Outgrown p a

/-- The leaves of the members are those of the containers. -/
lemma addresses_flatten {α : Type} {f : α → Except PyError (List DivergenceLeaf)} {l : List α}
    {token : α → String} {p a : Value} {parts : List (List DivergenceLeaf)}
    (walked : Walked p a l token) (h : mapAll f l = .ok parts)
    (each : ∀ x ∈ l, ∀ leaves, f x = .ok leaves →
      Addresses (childAt (token x) p) (childAt (token x) a) (base ++ [token x]) leaves) :
    Addresses (some p) (some a) base parts.flatten := by
  obtain ⟨g, rfl, results⟩ := mapAll_results h
  have each (x) (hx : x ∈ l) := each x hx (g x) (results x hx)
  rw [← List.flatMap_def]
  have nonempty : l.flatMap g ≠ [] := by
    obtain ⟨x, rest, rfl⟩ := List.exists_cons_of_ne_nil walked.nonempty
    rw [List.flatMap_cons]
    exact fun none => (each x List.mem_cons_self).nonempty (List.append_eq_nil_iff.mp none).1
  have located (x) (hx : x ∈ l) (leaf) (hleaf : leaf ∈ g x) : ∃ ts,
      leaf.jsonPointer = Pointer.print (base ++ token x :: ts) ∧
        leaf.predictedPresent = ((childAt (token x) p).bind (resolve ts)).isSome ∧
        leaf.actualPresent = ((childAt (token x) a).bind (resolve ts)).isSome := by
    obtain ⟨ts, place, present⟩ := (each x hx).located leaf hleaf
    refine ⟨ts, ?_, present⟩
    rw [place, List.append_assoc, List.singleton_append]
  constructor
  case nonempty => exact nonempty
  case located =>
    intro leaf hleaf
    obtain ⟨x, hx, mem⟩ := List.mem_flatMap.mp hleaf
    obtain ⟨ts, place, present⟩ := located x hx leaf mem
    exact ⟨token x :: ts, place, present⟩
  case apart =>
    refine List.pairwise_flatMap.mpr ⟨fun x hx => (each x hx).apart, ?_⟩
    refine walked.distinct.imp_of_mem fun {x y} hx hy ne left hleft right hright => ?_
    obtain ⟨ts, hts, -⟩ := located x hx left hleft
    obtain ⟨us, hus, -⟩ := located y hy right hright
    rw [hts, hus, Pointer.apart_print]
    exact ⟨Pointer.not_prefix_of_ne ne, Pointer.not_prefix_of_ne ne.symm⟩
  case covered =>
    intro ts v found atom
    cases ts with
    | nil =>
      cases found
      -- the container itself: every leaf is below it
      obtain ⟨leaf, hleaf⟩ := List.exists_mem_of_ne_nil _ nonempty
      obtain ⟨x, hx, mem⟩ := List.mem_flatMap.mp hleaf
      obtain ⟨ts, place, -⟩ := located x hx leaf mem
      refine .inr ⟨a, rfl, walked.atom atom, leaf, hleaf, _, place, ?_⟩
      rw [List.append_nil]
      exact List.prefix_append _ _
    | cons t ts =>
      have found : (childAt t p).bind (resolve ts) = some v := found
      obtain ⟨child, hchild, value⟩ := Option.bind_eq_some_iff.mp found
      obtain ⟨x, hx, rfl⟩ := walked.complete t child hchild
      have below := (each x hx).covered ts v found atom
      rw [List.append_assoc, List.singleton_append] at below
      rcases below with ⟨leaf, mem, place⟩ | ⟨w, hw, outgrown, leaf, mem, place⟩
      · exact .inl ⟨leaf, List.mem_flatMap.mpr ⟨x, hx, mem⟩, place⟩
      · exact .inr ⟨w, hw, outgrown, leaf, List.mem_flatMap.mpr ⟨x, hx, mem⟩, place⟩

/-- The walk over two objects. -/
lemma walked_dict {pMap aMap : List (String × Value)} (nonempty : ¬(pMap = [] ∧ aMap = [])) :
    Walked (.dict pMap) (.dict aMap) (unionKeys pMap aMap) id where
  nonempty := unionKeys_ne_nil nonempty
  distinct := sortedBy_perm.nodup_iff.mpr (List.nodup_dedup _)
  complete := by
    intro key v found
    refine ⟨key, ?_, rfl⟩
    rw [unionKeys, mem_sortedBy, List.mem_dedup, List.mem_append]
    by_contra absent
    rw [not_or] at absent
    rw [childAt, lookup_of_notMem absent.1] at found
    cases found
  atom := by
    intro empty
    cases empty
    cases aMap with
    | nil => exact absurd ⟨rfl, rfl⟩ nonempty
    | cons => exact .object

/-- The walk over two arrays. -/
lemma walked_tuple {pItems aItems : List Value} (nonempty : ¬(pItems = [] ∧ aItems = [])) :
    Walked (.tuple pItems) (.tuple aItems) (List.range (max pItems.length aItems.length))
      fun i => String.ofList (natChars i) where
  nonempty := range_ne_nil nonempty
  distinct := by
    refine List.nodup_range.imp fun {i j} ne e => ne ?_
    have first := arrayIndex_iff.mpr e
    have second : arrayIndex (String.ofList (natChars i)) = some i := arrayIndex_iff.mpr rfl
    exact Option.some.inj (second.symm.trans first)
  complete := by
    intro token v found
    obtain ⟨i, hi, element⟩ := Option.bind_eq_some_iff.mp found
    refine ⟨i, ?_, (arrayIndex_iff.mp hi).symm⟩
    have := (List.getElem?_eq_some_iff.mp element).1
    rw [List.mem_range]
    omega
  atom := by
    intro empty
    cases empty
    cases aItems with
    | nil => exact absurd ⟨rfl, rfl⟩ nonempty
    | cons => exact .array

/-- Where the leaves of a comparison are. -/
lemma compare_addresses {p a : Value} {path : String} (h : compare ctx p a path = .ok leaves)
    (at_base : path = Pointer.print base) : Addresses (some p) (some a) base leaves := by
  induction p, a, path using compare.induct generalizing base leaves with
  | case1 path p a =>
    simp only [compare, bind_eq_ok, pure_eq_ok, Except.ok.injEq] at h
    obtain ⟨score, -, rfl⟩ := h
    subst at_base
    exact addresses_single rfl rfl
  | case2 path p a | case3 path p a | case4 path =>
    rw [compare] at h
    cases h
    subst at_base
    exact addresses_single rfl rfl
  | case5 path pMap aMap empty | case7 path pItems aItems empty =>
    rw [compare, if_pos empty] at h
    cases h
    subst at_base
    exact addresses_single rfl rfl
  -- a member's leaves are below its pointer, printed from the base and the key
  | case6 path pMap aMap nonempty ih =>
    rw [compare_dict nonempty] at h
    simp only [bind_eq_ok, pure_eq_ok, Except.ok.injEq] at h
    obtain ⟨parts, hparts, rfl⟩ := h
    refine addresses_flatten (walked_dict nonempty) hparts fun key hkey leaves hleaves => ?_
    rw [at_base, pointer_print] at hleaves
    refine childLeaves_addresses (lookup_unionKeys hkey) hleaves fun v hv w leaves h => ?_
    rw [← pointer_print, ← at_base] at h
    exact ih key v w hv h (at_base ▸ pointer_print)
  | case8 path pItems aItems nonempty ih =>
    rw [compare_tuple nonempty] at h
    simp only [bind_eq_ok, pure_eq_ok, Except.ok.injEq] at h
    obtain ⟨parts, hparts, rfl⟩ := h
    refine addresses_flatten (walked_tuple nonempty) hparts fun i hi leaves hleaves => ?_
    rw [childAt_index, childAt_index]
    rw [elementPointer, at_base, pointer_print] at hleaves
    refine childLeaves_addresses (getElem?_range hi) hleaves fun v hv w leaves h => ?_
    rw [← pointer_print, ← at_base] at h
    exact ih i v w hv h (at_base ▸ pointer_print)
  | case9 path p a decimals bools strs nones dicts tuples =>
    rw [compare.eq_7 _ p a path decimals bools strs nones dicts tuples] at h
    simp only [bind_eq_ok, pure_eq_ok] at h
    obtain ⟨pKind, -, aKind, -, h⟩ := h
    have single : ∃ kind score, leaves = [⟨path, true, true, kind, score⟩] := by
      split at h
      · exact ⟨_, _, (Except.ok.inj h).symm⟩
      split at h
      · cases h
      · exact ⟨_, _, (Except.ok.inj h).symm⟩
    obtain ⟨kind, score, rfl⟩ := single
    subst at_base
    exact addresses_single rfl rfl

end

/-- What the first value holds lies at or below exactly one leaf pointer, or is an empty container
that the other value outgrows, with leaves below it. -/
def Covers (leaves : List DivergenceLeaf) (v w : Value) : Prop :=
  ∀ ts x, resolve ts v = some x → IsAtom x →
    (∃! leaf, leaf ∈ leaves ∧ Pointer.AtOrBelow leaf.jsonPointer ts) ∨
    ∃ y, resolve ts w = some y ∧ Outgrown x y ∧
      ∃ leaf ∈ leaves, ∃ us, Pointer.parse leaf.jsonPointer = some us ∧ ts <+: us

section
variable {leaves : List DivergenceLeaf}

/-- Leaves that are apart cover an address at most once. -/
lemma covers_unique (apart : leaves.Pairwise fun x y => Pointer.Apart x.jsonPointer y.jsonPointer)
    {ts : List String} {leaf : DivergenceLeaf} (mem : leaf ∈ leaves)
    (below : Pointer.AtOrBelow leaf.jsonPointer ts) :
    ∃! leaf, leaf ∈ leaves ∧ Pointer.AtOrBelow leaf.jsonPointer ts := by
  refine ⟨leaf, ⟨mem, below⟩, fun other ⟨hother, below'⟩ => ?_⟩
  have symm : Std.Symm fun x y : DivergenceLeaf => Pointer.Apart x.jsonPointer y.jsonPointer :=
    ⟨fun _ _ h => h.symm⟩
  by_contra ne
  exact (apart.forall hother mem ne).disjoint below' below

/-- Leaves with the pointers of a comparison cover what the comparison covers. -/
lemma Addresses.covers {p a : Value} {leaves' : List DivergenceLeaf}
    (h : Addresses (some p) (some a) [] leaves')
    (apart : leaves.Pairwise fun x y => Pointer.Apart x.jsonPointer y.jsonPointer)
    (same : ∀ leaf ∈ leaves', ∃ leaf' ∈ leaves, leaf'.jsonPointer = leaf.jsonPointer) :
    Covers leaves p a := by
  intro ts x found atom
  rcases h.covered ts x found atom with ⟨leaf, mem, below⟩ | ⟨w, hw, outgrown, leaf, mem, us, hus, below⟩
  · obtain ⟨leaf', mem', e⟩ := same leaf mem
    exact .inl (covers_unique apart mem' (e ▸ below))
  · obtain ⟨leaf', mem', e⟩ := same leaf mem
    refine .inr ⟨w, hw, outgrown, leaf', mem', us, ?_, below⟩
    rw [e, hus, Pointer.parse_print]

end

section
variable [Platform]

/-- The leaves of an accepted comparison are addresses: they are apart from one another, each resolves
in the values where it is reported as present, and every scalar and every empty container of either
value is covered by exactly one of them, or is an empty container with its leaves below. -/
theorem compareJson_addresses {ctx : Context} {predictedJson actualJson : String}
    {threshold : Decimal} {r : DivergenceResult}
    (h : compareJson ctx predictedJson actualJson threshold = .ok r) :
    ∃ p a, parseOutcome predictedJson = .ok p ∧ parseOutcome actualJson = .ok a ∧
      r.leaves.Pairwise (fun x y => Pointer.Apart x.jsonPointer y.jsonPointer) ∧
      (∀ leaf ∈ r.leaves,
        leaf.predictedPresent = (resolvePointer leaf.jsonPointer p).isSome ∧
        leaf.actualPresent = (resolvePointer leaf.jsonPointer a).isSome) ∧
      Covers r.leaves p a ∧ Covers r.leaves a p := by
  obtain ⟨-, p, a, hp, ha, compared, -⟩ := compareJson_ok.mp h
  have addresses : Addresses (some p) (some a) [] r.leaves := compare_addresses compared rfl
  have swapped := compare_swap.trans (congrArg _ compared)
  refine ⟨p, a, hp, ha, addresses.apart, fun leaf hleaf => ?_, ?_, ?_⟩
  · obtain ⟨ts, place, present⟩ := addresses.located leaf hleaf
    rw [resolvePointer, resolvePointer, place, List.nil_append, Pointer.parse_print]
    exact present
  · exact addresses.covers addresses.apart fun leaf mem => ⟨leaf, mem, rfl⟩
  · -- the comparison the other way has the same pointers
    have exchanged : Addresses (some a) (some p) [] _ := compare_addresses swapped rfl
    refine exchanged.covers addresses.apart fun leaf mem => ?_
    obtain ⟨leaf', mem', rfl⟩ := List.mem_map.mp mem
    exact ⟨leaf', mem', rfl⟩

end

/-- The theorem at an empty array and an array of one element. -/
theorem compareJson_addresses_element :
    let _ := asciiPlatform
    ∃ r p a, compareJson .default "[]" "[null]" (.finite false 5 (-1)) = .ok r ∧
      parseOutcome "[]" = .ok p ∧ parseOutcome "[null]" = .ok a ∧
      r.leaves.Pairwise (fun x y => Pointer.Apart x.jsonPointer y.jsonPointer) ∧
      Covers r.leaves p a ∧ Covers r.leaves a p := by
  intro _
  obtain ⟨r, accepted, -⟩ := compareJson_element
  obtain ⟨p, a, hp, ha, apart, -, covers⟩ := compareJson_addresses accepted
  exact ⟨r, p, a, accepted, hp, ha, apart, covers⟩

/-- Against an array of one element the empty array has no leaf at or above it: the one leaf is the
missing element. -/
theorem compareJson_addresses_empty :
    let _ := asciiPlatform
    ∃ r, compareJson .default "[]" "[null]" (.finite false 5 (-1)) = .ok r ∧
      parseOutcome "[]" = .ok (.tuple []) ∧ resolve [] (.tuple []) = some (.tuple []) ∧
      IsAtom (.tuple []) ∧ ¬∃ leaf ∈ r.leaves, Pointer.AtOrBelow leaf.jsonPointer [] := by
  intro _
  obtain ⟨r, accepted, leaves⟩ := compareJson_element
  refine ⟨r, accepted, parse_element.1, rfl, rfl, ?_⟩
  rw [leaves]
  rintro ⟨leaf, mem, below⟩
  rw [List.mem_singleton.mp mem] at below
  have pointer : "/0" = Pointer.print ["0"] := rfl
  rw [pointer, Pointer.atOrBelow_print] at below
  exact absurd (List.prefix_nil.mp below) (List.cons_ne_nil _ _)

end GAM
