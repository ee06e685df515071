import Mathlib.Algebra.Order.BigOperators.Group.List
import GAM.Consequences.Compare

/-!
# What the divergence measures

Two properties of the comparison, each by induction on the two values walked together. It is
symmetric: exchanging the texts exchanges the presence flags of the leaves and nothing else. With
exact arithmetic it is bounded and separates: every score is between zero and one, and all of them
are zero exactly when the values are the same.
-/

namespace GAM
open Lib

/-! ### Symmetry -/

/-- The kind of a leaf when the values are exchanged. -/
def LeafKind.swap : LeafKind → LeafKind
  | .missingPredicted => .missingActual
  | .missingActual => .missingPredicted
  | kind => kind

/-- A leaf when the values are exchanged. -/
def DivergenceLeaf.swap (leaf : DivergenceLeaf) : DivergenceLeaf :=
  { leaf with
    predictedPresent := leaf.actualPresent
    actualPresent := leaf.predictedPresent
    kind := leaf.kind.swap }

/-- A result when the texts are exchanged. -/
def DivergenceResult.swap (r : DivergenceResult) : DivergenceResult :=
  { r with
    predictedDigest := r.actualDigest
    actualDigest := r.predictedDigest
    leaves := r.leaves.map DivergenceLeaf.swap }

section
variable {ctx : Context}

lemma abs_comm {a : ℚ} : ctx.abs (-a) = ctx.abs a := by
  rw [Context.abs, Context.abs, abs_neg]

/-- The distance of two numbers is symmetric. -/
lemma numberScore_comm {p a : ℚ} : numberScore ctx a p = numberScore ctx p a := by
  rw [numberScore, numberScore, Context.sub_comm]
  cases ctx.sub p a with
  | none => rfl
  | some difference =>
    simp only [Option.map_some, Option.bind_eq_bind, Option.bind_some, abs_comm]
    cases ctx.abs difference with
    | none => rfl
    | some distance =>
      cases ctx.abs p with
      | none => cases ctx.abs a <;> rfl
      | some pAbs =>
        cases ctx.abs a with
        | none => rfl
        | some aAbs => simp only [Option.bind_some, max_comm aAbs pAbs]

lemma unionKeys_comm {pMap aMap : List (String × Value)} :
    unionKeys aMap pMap = unionKeys pMap aMap := by
  refine sortedBy_eq_of_perm (List.perm_append_comm.dedup) fun a _ b _ e => ?_
  exact le_antisymm (utf8Key_le.mp e.le) (utf8Key_le.mp e.ge)

/-- Objects with a member have a key between them. -/
lemma unionKeys_ne_nil {pMap aMap : List (String × Value)} (h : ¬(pMap = [] ∧ aMap = [])) :
    unionKeys pMap aMap ≠ [] := by
  intro e
  have none := (List.perm_nil.mp (e ▸ sortedBy_perm.symm :
    (pMap.map Prod.fst ++ aMap.map Prod.fst).dedup.Perm []))
  rw [List.dedup_eq_nil, List.append_eq_nil_iff, List.map_eq_nil_iff, List.map_eq_nil_iff] at none
  exact h none

/-- Arrays with an element have an index between them. -/
lemma range_ne_nil {pItems aItems : List Value} (h : ¬(pItems = [] ∧ aItems = [])) :
    List.range (max pItems.length aItems.length) ≠ [] := by
  rw [ne_eq, List.range_eq_nil, Nat.max_eq_zero_iff, List.length_eq_zero_iff, List.length_eq_zero_iff]
  exact h

/-- A key of the union is a key of one side. -/
lemma lookup_unionKeys {pMap aMap : List (String × Value)} {key : String}
    (h : key ∈ unionKeys pMap aMap) : pMap.lookup key ≠ none ∨ aMap.lookup key ≠ none := by
  rw [unionKeys, mem_sortedBy, List.mem_dedup, List.mem_append] at h
  simp only [ne_eq, List.lookup_eq_none_iff, List.mem_map] at h ⊢
  rcases h with ⟨m, hm, rfl⟩ | ⟨m, hm, rfl⟩
  · exact .inl fun none => by simpa using none m hm
  · exact .inr fun none => by simpa using none m hm

/-- An index below the greater length is an index of one side. -/
lemma getElem?_range {pItems aItems : List Value} {index : Nat}
    (h : index ∈ List.range (max pItems.length aItems.length)) :
    pItems[index]? ≠ none ∨ aItems[index]? ≠ none := by
  rw [List.mem_range, lt_max_iff] at h
  simpa using h

/-- Mapping every result of a loop maps the result of the loop. -/
lemma flatten_results {α β : Type} {f g : α → Except PyError (List β)} {s : β → β} {l : List α}
    (h : ∀ a ∈ l, g a = List.map s <$> f a) :
    (do
      let xs ← mapAll g l
      return xs.flatten) = List.map s <$> (do
        let xs ← mapAll f l
        return xs.flatten) := by
  induction l with
  | nil => rfl
  | cons a l ih =>
    rw [List.forall_mem_cons] at h
    rw [mapAll, mapAll, h.1]
    specialize ih h.2
    cases f a with
    | error e => rfl
    | ok x =>
      cases hg : mapAll g l with
      | error e =>
        cases hf : mapAll f l with
        | error e' =>
          rw [hg, hf] at ih
          cases ih
          rfl
        | ok xs =>
          rw [hg, hf] at ih
          cases ih
      | ok ys =>
        cases hf : mapAll f l with
        | error e' =>
          rw [hg, hf] at ih
          cases ih
        | ok xs =>
          rw [hg, hf] at ih
          have tail : ys.flatten = xs.flatten.map s := Except.ok.inj ih
          change Except.ok _ = Except.ok _
          simp only [List.flatten_cons, tail, List.map_append]

lemma childLeaves_swap {p a : Option Value} {child : String} (some : p ≠ none ∨ a ≠ none)
    (h : ∀ v, p = .some v → ∀ w, compare ctx w v child =
      List.map DivergenceLeaf.swap <$> compare ctx v w child) :
    childLeaves ctx a p child = List.map DivergenceLeaf.swap <$> childLeaves ctx p a child := by
  cases p with
  | none =>
    cases a with
    | none => simp at some
    | some w => rfl
  | some v =>
    cases a with
    | none => rfl
    | some w => exact h v rfl w

lemma valueKind_error {v : Value} {e : PyError} (h : valueKind v = .error e) :
    e = .integrity "unsupported JSON value" := by
  cases v <;> cases h <;> rfl

/-- Exchanging the values exchanges the sides of the leaves. -/
lemma compare_swap {predicted actual : Value} {path : String} :
    compare ctx actual predicted path =
      List.map DivergenceLeaf.swap <$> compare ctx predicted actual path := by
  induction predicted, actual, path using compare.induct with
  | case1 path p a =>
    rw [compare, compare, numberScore_comm]
    cases numberScore ctx p.value a.value <;> rfl
  | case2 path p a =>
    rw [compare, compare]
    simp only [eq_comm (a := a)]
    rfl
  | case3 path p a =>
    rw [compare, compare]
    simp only [eq_comm (a := a)]
    rfl
  | case4 path =>
    rw [compare]
    rfl
  | case5 path pMap aMap empty =>
    rw [compare, compare, if_pos empty, if_pos empty.symm]
    rfl
  | case6 path pMap aMap nonempty ih =>
    rw [compare_dict nonempty, compare_dict fun h => nonempty h.symm, unionKeys_comm]
    refine flatten_results fun key hkey => ?_
    exact childLeaves_swap (lookup_unionKeys hkey) fun v hv w => ih key v w hv
  | case7 path pItems aItems empty =>
    rw [compare, compare, if_pos empty, if_pos empty.symm]
    rfl
  | case8 path pItems aItems nonempty ih =>
    rw [compare_tuple nonempty, compare_tuple fun h => nonempty h.symm, max_comm]
    refine flatten_results fun index hindex => ?_
    exact childLeaves_swap (getElem?_range hindex) fun v hv w => ih index v w hv
  | case9 path p a decimals bools strs nones dicts tuples =>
    -- the fallback applies to both orders; its leaf is the same but for the kinds
    rw [compare.eq_7 ctx p a path decimals bools strs nones dicts tuples,
      compare.eq_7 ctx a p path (fun x y ha hp => decimals y x hp ha)
        (fun x y ha hp => bools y x hp ha) (fun x y ha hp => strs y x hp ha)
        (fun ha hp => nones hp ha) (fun x y ha hp => dicts y x hp ha)
        (fun x y ha hp => tuples y x hp ha)]
    cases hp : valueKind p with
    | error e =>
      rw [valueKind_error hp]
      cases ha : valueKind a with
      | error e =>
        rw [valueKind_error ha]
        rfl
      | ok k => rfl
    | ok k =>
      cases ha : valueKind a with
      | error e => rfl
      | ok k' =>
        simp only [ok_bind]
        by_cases same : k = k'
        · subst same
          simp only [ne_eq, not_true_eq_false, if_false]
          by_cases object : k = .object
          · simp only [object, if_true]
            rfl
          · simp only [object, if_false, eq_comm (a := a.codePoints?)]
            rfl
        · simp only [ne_eq, same, Ne.symm same, not_false_eq_true, if_true]
          rfl

end

section
variable [Platform] {ctx : Context} {predictedJson actualJson : String} {threshold : Decimal}

/-- The divergence is symmetric: exchanging the texts gives the same score, and the same leaves in
the same order with their sides exchanged. -/
theorem compareJson_swap {r : DivergenceResult}
    (h : compareJson ctx predictedJson actualJson threshold = .ok r) :
    compareJson ctx actualJson predictedJson threshold = .ok r.swap := by
  obtain ⟨range, p, a, hp, ha, leaves, score, predicted, actual, version⟩ := compareJson_ok.mp h
  have scores : (r.leaves.map DivergenceLeaf.swap).map DivergenceLeaf.score =
      r.leaves.map DivergenceLeaf.score := List.map_map
  refine compareJson_ok.mpr ⟨range, a, p, ha, hp, ?_, ?_, actual, predicted, version⟩
  · rw [compare_swap, leaves]
    rfl
  · exact (congrArg (averageScore ctx) scores).trans score

end

lemma averageScore_one : averageScore .default [1] = some 1 := by
  have mean : Context.default.quantize 6 1 = some 1 := by
    have digits : Context.halfEven 1000000 = 1000000 := rfl
    norm_num [Context.quantize, digits, Context.default, Decimal.precision]
  simp [averageScore, Context.sum, Context.add, Context.div, Context.round_one, mean]

/-- The parsed texts of an empty array and of an array of one element. -/
lemma parse_element [Platform] : parseOutcome "[]" = .ok (.tuple []) ∧
    parseOutcome "[null]" = .ok (.tuple [.none]) := by
  constructor
  · exact parseOutcome_tree (Json.parse_print (.arr [])) (by simp [Json.parts, Keyed, partsElems])
      (by simp [Json.parts, partsElems])
  · exact parseOutcome_tree (Json.parse_print (.arr [.null]))
      (by simp [Json.parts, Keyed, partsElems]) (by simp [Json.parts, partsElems])

/-- The comparison of an empty array with an array of one element. -/
lemma compareJson_element [Platform] :
    ∃ r, compareJson .default "[]" "[null]" (.finite false 5 (-1)) = .ok r ∧
      r.leaves = [⟨"/0", false, true, .missingPredicted, 1⟩] := by
  have leaves : compare .default (.tuple []) (.tuple [.none]) "" =
      .ok [⟨"/0", false, true, .missingPredicted, 1⟩] := by
    rw [compare_tuple (by simp)]
    rfl
  obtain ⟨d, hd⟩ := @Encodes.digest _ (.tuple []) (by simp)
  obtain ⟨e, he⟩ := @Encodes.digest _ (.tuple [.none]) (by simp)
  have accepted : compareJson .default "[]" "[null]" (.finite false 5 (-1)) =
      .ok ⟨"json-divergence-v1", d, e, _, 1, .finite false 5 (-1)⟩ :=
    compareJson_ok.mpr ⟨⟨rfl, by norm_num [Decimal.value, Decimal.signed]⟩, _, _, parse_element.1,
      parse_element.2, leaves, averageScore_one, hd, he, rfl, rfl⟩
  exact ⟨_, accepted, rfl⟩

/-- An empty array and an array of one element: the element is missing on the one side or the
other. -/
theorem compareJson_swap_element :
    let _ := asciiPlatform
    ∃ r, r.leaves = [⟨"/0", false, true, .missingPredicted, 1⟩] ∧
      compareJson .default "[]" "[null]" (.finite false 5 (-1)) = .ok r ∧
      compareJson .default "[null]" "[]" (.finite false 5 (-1)) = .ok r.swap := by
  intro _
  obtain ⟨r, accepted, leaves⟩ := compareJson_element
  exact ⟨r, leaves, accepted, compareJson_swap accepted⟩

/-! ### Separation -/

/-- The values are the same: strings and keys alike, numbers of one value, arrays element by
element, objects as maps. -/
inductive SameOutcome : Value → Value → Prop where
  | null : SameOutcome .none .none
  | bool {b} : SameOutcome (.bool b) (.bool b)
  | str {s} : SameOutcome (.str s) (.str s)
  | number {p a : Decimal} :
    p.value = a.value →
    SameOutcome (.decimal p) (.decimal a)
  | array {pItems aItems : List Value} :
    (∀ i : Nat, pItems[i]? = none ↔ aItems[i]? = none) →
    (∀ (i : Nat) v w, pItems[i]? = some v → aItems[i]? = some w → SameOutcome v w) →
    SameOutcome (.tuple pItems) (.tuple aItems)
  | object {pMap aMap : List (String × Value)} :
    (∀ key, pMap.lookup key = none ↔ aMap.lookup key = none) →
    (∀ key v w, pMap.lookup key = some v → aMap.lookup key = some w → SameOutcome v w) →
    SameOutcome (.dict pMap) (.dict aMap)

/-- The leaves of two values, or of two members, separate them: there are some, their scores are
between zero and one, and all are zero exactly when `same` holds. -/
structure Separates (leaves : List DivergenceLeaf) (same : Prop) : Prop where
  nonempty : leaves ≠ []
  range : ∀ leaf ∈ leaves, 0 ≤ leaf.score ∧ leaf.score ≤ 1
  zero : (∀ leaf ∈ leaves, leaf.score = 0) ↔ same

section
variable {path : String}

/-- A single leaf separates when its score does. -/
lemma separates_single {leaf : DivergenceLeaf} {same : Prop} (lower : 0 ≤ leaf.score)
    (upper : leaf.score ≤ 1) (zero : leaf.score = 0 ↔ same) : Separates [leaf] same := by
  refine ⟨List.cons_ne_nil _ _, ?_, ?_⟩
  · simpa using ⟨lower, upper⟩
  · simpa using zero

/-- The exact relative distance is between zero and one, and zero for equal numbers only. -/
lemma numberScore_exact (p a : ℚ) :
    ∃ score, numberScore .exact p a = some score ∧ 0 ≤ score ∧ score ≤ 1 ∧ (score = 0 ↔ p = a) := by
  have positive : 0 < max (max |p| |a|) 1 := lt_max_of_lt_right one_pos
  refine ⟨min 1 (|p - a| / max (max |p| |a|) 1), rfl, ?_, min_le_left _ _, ?_⟩
  · exact le_min zero_le_one (div_nonneg (abs_nonneg _) positive.le)
  constructor
  · intro h
    have quotient : |p - a| / max (max |p| |a|) 1 = 0 := by
      rcases min_choice 1 (|p - a| / max (max |p| |a|) 1) with e | e
      · rw [e] at h
        exact absurd h one_ne_zero
      · rwa [e] at h
    rcases div_eq_zero_iff.mp quotient with e | e
    · exact sub_eq_zero.mp (abs_eq_zero.mp e)
    · exact absurd e positive.ne'
  · rintro rfl
    simp

/-- What the leaves of a member say: it is on both sides, with the same value. -/
def SameChild (p a : Option Value) : Prop :=
  (p = none ↔ a = none) ∧ ∀ v w, p = some v → a = some w → SameOutcome v w

lemma childLeaves_separates {p a : Option Value} {child : String} {leaves : List DivergenceLeaf}
    (present : p ≠ none ∨ a ≠ none) (h : childLeaves .exact p a child = .ok leaves)
    (ih : ∀ v, p = some v → ∀ w, a = some w → ∀ leaves, compare .exact v w child = .ok leaves →
      Separates leaves (SameOutcome v w)) : Separates leaves (SameChild p a) := by
  cases p with
  | none =>
    cases h
    have absent : a ≠ none := by simpa using present
    refine separates_single zero_le_one le_rfl ⟨fun e => absurd e one_ne_zero, fun same => ?_⟩
    exact absurd (same.1.mp rfl) absent
  | some v =>
    cases a with
    | none =>
      cases h
      refine separates_single zero_le_one le_rfl ⟨fun e => absurd e one_ne_zero, fun same => ?_⟩
      cases same.1.mpr rfl
    | some w =>
      obtain ⟨nonempty, range, zero⟩ := ih v rfl w rfl leaves h
      refine ⟨nonempty, range, zero.trans ⟨fun same => ⟨by simp, ?_⟩, fun same => same.2 v w rfl rfl⟩⟩
      intro v' w' hv hw
      cases hv
      cases hw
      exact same

/-- The leaves of all members separate the members together. -/
lemma separates_flatten {α : Type} {f : α → Except PyError (List DivergenceLeaf)} {l : List α}
    {leaves : List (List DivergenceLeaf)} {same : α → Prop} (ne : l ≠ [])
    (h : mapAll f l = .ok leaves)
    (each : ∀ a ∈ l, ∀ x, f a = .ok x → Separates x (same a)) :
    Separates leaves.flatten (∀ a ∈ l, same a) := by
  have related := mapAll_eq_ok.mp h
  refine ⟨?_, ?_, ?_⟩
  · cases related with
    | nil => exact absurd rfl ne
    | @cons a x l leaves hx _ =>
      have first := (each a List.mem_cons_self x hx).nonempty
      simp [first]
  · intro leaf hleaf
    obtain ⟨x, hx, mem⟩ := List.mem_flatten.mp hleaf
    obtain ⟨a, ha, e⟩ := forall₂_mem_right related x hx
    exact (each a ha x e).range leaf mem
  · constructor
    · intro zero a ha
      obtain ⟨x, hx, e⟩ := forall₂_mem_left related a ha
      refine (each a ha x e).zero.mp fun leaf hleaf => zero leaf ?_
      exact List.mem_flatten.mpr ⟨x, hx, hleaf⟩
    · intro same leaf hleaf
      obtain ⟨x, hx, mem⟩ := List.mem_flatten.mp hleaf
      obtain ⟨a, ha, e⟩ := forall₂_mem_right related x hx
      exact (each a ha x e).zero.mpr (same a ha) leaf mem

end

/-- The leaves of a comparison separate the values. -/
lemma compare_separates {p a : Value} {path : String} {leaves : List DivergenceLeaf}
    (h : compare .exact p a path = .ok leaves)
    (unicode : p.isUnicode = true ∧ a.isUnicode = true) : Separates leaves (SameOutcome p a) := by
  induction p, a, path using compare.induct generalizing leaves with
  | case1 path p a =>
    obtain ⟨score, e, lower, upper, zero⟩ := numberScore_exact p.value a.value
    rw [compare, e] at h
    cases h
    refine separates_single lower upper (zero.trans ⟨.number, fun same => ?_⟩)
    cases same with
    | number e => exact e
  | case2 path p a =>
    rw [compare] at h
    cases h
    by_cases e : p = a
    · subst e
      exact separates_single (by simp) (by simp) (by simpa using .bool)
    · refine separates_single (by simp [e]) (by simp [e]) ?_
      simp only [e, if_false, one_ne_zero, false_iff]
      rintro ⟨⟩
      exact e rfl
  | case3 path p a =>
    rw [compare] at h
    cases h
    by_cases e : p = a
    · subst e
      exact separates_single (by simp) (by simp) (by simpa using .str)
    · refine separates_single (by simp [e]) (by simp [e]) ?_
      simp only [e, if_false, one_ne_zero, false_iff]
      rintro ⟨⟩
      exact e rfl
  | case4 path =>
    rw [compare] at h
    cases h
    exact separates_single le_rfl zero_le_one (by simpa using .null)
  | case5 path pMap aMap empty =>
    rw [compare, if_pos empty] at h
    cases h
    obtain ⟨rfl, rfl⟩ := empty
    refine separates_single le_rfl zero_le_one (by simpa using .object (by simp) (by simp))
  -- members are compared over the union of the keys; outside of it both are absent
  | case6 path pMap aMap nonempty ih =>
    rw [compare_dict nonempty] at h
    simp only [bind_eq_ok, pure_eq_ok, Except.ok.injEq] at h
    obtain ⟨parts, hparts, rfl⟩ := h
    simp only [Value.isUnicode_dict] at unicode
    have children := separates_flatten (unionKeys_ne_nil nonempty) hparts fun key hkey x hx =>
      childLeaves_separates (lookup_unionKeys hkey) hx fun v hv w hw leaves h =>
        ih key v w hv h ⟨unicode.1 _ (mem_of_lookup hv), unicode.2 _ (mem_of_lookup hw)⟩
    refine ⟨children.nonempty, children.range, children.zero.trans ⟨fun same => ?_, ?_⟩⟩
    · have every (key : String) : SameChild (pMap.lookup key) (aMap.lookup key) := by
        by_cases hkey : key ∈ unionKeys pMap aMap
        · exact same key hkey
        · rw [unionKeys, mem_sortedBy, List.mem_dedup, List.mem_append, not_or] at hkey
          rw [lookup_of_notMem hkey.1, lookup_of_notMem hkey.2]
          exact ⟨.rfl, fun v w hv => by cases hv⟩
      exact .object (fun key => (every key).1) fun key => (every key).2
    · intro same key _
      cases same with
      | object keys members => exact ⟨keys key, members key⟩
  | case7 path pItems aItems empty =>
    rw [compare, if_pos empty] at h
    cases h
    obtain ⟨rfl, rfl⟩ := empty
    refine separates_single le_rfl zero_le_one (by simpa using .array (by simp) (by simp))
  -- elements are compared up to the longer list; from there on both are absent
  | case8 path pItems aItems nonempty ih =>
    rw [compare_tuple nonempty] at h
    simp only [bind_eq_ok, pure_eq_ok, Except.ok.injEq] at h
    obtain ⟨parts, hparts, rfl⟩ := h
    simp only [Value.isUnicode_tuple] at unicode
    have children := separates_flatten (range_ne_nil nonempty) hparts fun index hindex x hx =>
      childLeaves_separates (getElem?_range hindex) hx fun v hv w hw leaves h =>
        ih index v w hv h
          ⟨unicode.1 _ (List.mem_of_getElem? hv), unicode.2 _ (List.mem_of_getElem? hw)⟩
    refine ⟨children.nonempty, children.range, children.zero.trans ⟨fun same => ?_, ?_⟩⟩
    · have every (index : Nat) : SameChild pItems[index]? aItems[index]? := by
        by_cases hindex : index ∈ List.range (max pItems.length aItems.length)
        · exact same index hindex
        · rw [List.mem_range, lt_max_iff, not_or, not_lt, not_lt] at hindex
          rw [List.getElem?_eq_none hindex.1, List.getElem?_eq_none hindex.2]
          exact ⟨.rfl, fun v w hv => by cases hv⟩
      exact .array (fun index => (every index).1) fun index => (every index).2
    · intro same index _
      cases same with
      | array lengths elements => exact ⟨lengths index, elements index⟩
  -- values of two types are one leaf of score one
  | case9 path p a decimals bools strs nones dicts tuples =>
    rw [compare_mismatch decimals bools strs nones dicts tuples unicode] at h
    simp only [bind_eq_ok, pure_eq_ok, Except.ok.injEq] at h
    obtain ⟨-, -, -, -, rfl⟩ := h
    refine separates_single zero_le_one le_rfl ⟨fun e => absurd e one_ne_zero, fun same => ?_⟩
    cases same with
    | null => exact (nones rfl rfl).elim
    | bool => exact (bools _ _ rfl rfl).elim
    | str => exact (strs _ _ rfl rfl).elim
    | number _ => exact (decimals _ _ rfl rfl).elim
    | array _ _ => exact (tuples _ _ rfl rfl).elim
    | object _ _ => exact (dicts _ _ rfl rfl).elim

/-- The mean of scores between zero and one, to six places, is between zero and one. -/
lemma averageScore_exact {scores : List ℚ} {score : ℚ} (h : averageScore .exact scores = some score)
    (range : ∀ s ∈ scores, 0 ≤ s ∧ s ≤ 1) : 0 ≤ score ∧ score ≤ 1 := by
  rw [averageScore, Context.sum_exact, zero_add] at h
  by_cases empty : scores = []
  · simp [empty] at h
  have count : (0 : ℚ) < scores.length := by
    exact_mod_cast List.length_pos_iff.mpr empty
  have total : 0 ≤ scores.sum ∧ scores.sum ≤ scores.length := by
    refine ⟨List.sum_nonneg fun s hs => (range s hs).1, ?_⟩
    have bound := List.sum_le_card_nsmul scores 1 fun s hs => (range s hs).2
    simpa using bound
  have mean : 0 ≤ scores.sum / scores.length ∧ scores.sum / scores.length ≤ 1 :=
    ⟨div_nonneg total.1 count.le, (div_le_one count).mpr total.2⟩
  have digits := @Context.halfEven_range (scores.sum / scores.length * 10 ^ 6) 1000000
    (mul_nonneg mean.1 (by positivity)) (by norm_num; linarith [mean.2])
  have quantized : score =
      (Context.halfEven (scores.sum / scores.length * 10 ^ 6) : ℚ) / 10 ^ 6 := by
    simpa [empty, Context.div, Context.quantize, Context.exact, Context.round, eq_comm] using h
  have lower : (0 : ℚ) ≤ Context.halfEven (scores.sum / scores.length * 10 ^ 6) := by
    exact_mod_cast digits.1
  have upper : (Context.halfEven (scores.sum / scores.length * 10 ^ 6) : ℚ) ≤ 1000000 := by
    exact_mod_cast digits.2
  rw [quantized]
  exact ⟨div_nonneg lower (by positivity), (div_le_one (by positivity)).mpr (by linarith)⟩

section
variable [Platform]

/-- The divergence is bounded and separates, with exact arithmetic: there is a leaf, every score and
their rounded mean are between zero and one, and all leaves score zero exactly when the two texts
are of the same value. -/
theorem compareJson_separates {predictedJson actualJson : String} {threshold : Decimal}
    {r : DivergenceResult} (h : compareJson .exact predictedJson actualJson threshold = .ok r) :
    r.leaves ≠ [] ∧ (∀ leaf ∈ r.leaves, 0 ≤ leaf.score ∧ leaf.score ≤ 1) ∧
      (0 ≤ r.score ∧ r.score ≤ 1) ∧
      ∃ predicted actual, parseOutcome predictedJson = .ok predicted ∧
        parseOutcome actualJson = .ok actual ∧
        ((∀ leaf ∈ r.leaves, leaf.score = 0) ↔ SameOutcome predicted actual) := by
  obtain ⟨-, p, a, hp, ha, leaves, score, predicted, actual, -⟩ := compareJson_ok.mp h
  obtain ⟨nonempty, range, zero⟩ :=
    compare_separates leaves
      ⟨(canonicalSha256_eq_ok.mp predicted).1, (canonicalSha256_eq_ok.mp actual).1⟩
  refine ⟨nonempty, range, averageScore_exact score fun s hs => ?_, p, a, hp, ha, zero⟩
  obtain ⟨leaf, hleaf, rfl⟩ := List.mem_map.mp hs
  exact range leaf hleaf

end

/-- The numbers one and two: one leaf with the score one half. -/
theorem compareJson_separates_numbers :
    let _ := asciiPlatform
    ∃ r, compareJson .exact "1" "2" (.finite false 5 (-1)) = .ok r ∧
      r.leaves = [⟨"", true, true, .number, 1 / 2⟩] ∧ r.score = 1 / 2 ∧ r.leaves ≠ [] ∧
      ∃ predicted actual, parseOutcome "1" = .ok predicted ∧ parseOutcome "2" = .ok actual ∧
        ¬SameOutcome predicted actual := by
  intro _
  have number (i : Nat) (accepted : Decimal.accepts (.ofInt i) = true) :
      parseOutcome (String.ofList (Json.int i).print) = .ok (.decimal (.ofNumber (.ofInt i))) :=
    parseOutcome_tree (Json.parse_print (.int i)) (by simp [Json.int, Json.parts, Keyed])
      (by simpa [Json.int, Json.parts] using accepted)
  have value (i : Nat) : (Decimal.ofNumber (.ofInt i)).value = i := by
    simp [Decimal.ofNumber, Number.ofInt, Decimal.value, Decimal.signed]
  have leaves : compare .exact (.decimal (.ofNumber (.ofInt (1 : Nat))))
      (.decimal (.ofNumber (.ofInt (2 : Nat)))) "" = .ok [⟨"", true, true, .number, 1 / 2⟩] := by
    have score : numberScore .exact 1 2 = some (1 / 2) := by
      norm_num [numberScore, Context.sub, Context.abs, Context.div]
    rw [compare, value, value]
    norm_cast
    rw [score]
    rfl
  have score : averageScore .exact [1 / 2] = some (1 / 2) := by
    have digits : Context.halfEven 500000 = 500000 := rfl
    norm_num [averageScore, Context.sum, Context.add, Context.div, Context.quantize, Context.exact,
      Context.round, digits]
  obtain ⟨d, hd⟩ := (encodes_decimal (d := .ofNumber (.ofInt (1 : Nat))) rfl (by decide)).digest
  obtain ⟨e, he⟩ := (encodes_decimal (d := .ofNumber (.ofInt (2 : Nat))) rfl (by decide)).digest
  have accepted : compareJson .exact "1" "2" (.finite false 5 (-1)) =
      .ok ⟨"json-divergence-v1", d, e, _, 1 / 2, .finite false 5 (-1)⟩ :=
    compareJson_ok.mpr ⟨⟨rfl, by norm_num [Decimal.value, Decimal.signed]⟩, _, _,
      number 1 (by decide), number 2 (by decide), leaves, score, hd, he, rfl, rfl⟩
  obtain ⟨nonempty, -, -, p, a, hp, ha, zero⟩ := compareJson_separates accepted
  exact ⟨_, accepted, rfl, rfl, nonempty, p, a, hp, ha, by simpa using zero.not⟩

end GAM
