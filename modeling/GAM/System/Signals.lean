import GAM.Lib.DecimalRange
import GAM.System.PrintedValues

/-!
# The exceptions of a comparison

`compare_json` refuses a text or a threshold with `MemoryIntegrityError`. Its arithmetic runs in the
default context, whose signals are exceptions of their own: a number that is too large to be normalized,
and two numbers at one place whose difference is too large, make it raise one of these. Everything after
the leaves stays in range.
-/

namespace GAM
open Lib

/-- Python `MemoryIntegrityError`. -/
@[simp] def PyError.IsIntegrity : PyError → Prop
  | .integrity _ | .conflict _ => True
  | _ => False

section
variable [Platform]

/-- The parser refuses the text, with `MemoryIntegrityError`. -/
def RefusedText (text : String) : Prop := ∃ e, parseOutcome text = .error e ∧ e.IsIntegrity

/-- The text is read as a value without lone surrogates: it has a tree whose objects have no two keys of
one normal form and whose numbers are finite and within the limits of the constructor. -/
def ReadAs (text : String) (v : Value) : Prop :=
  ∃ j, Json.parse text = some j ∧ (∀ p ∈ j.parts, Keyed p) ∧
    (∀ n, .num n ∈ j.parts → Decimal.accepts n = true) ∧ v = decimalValue (outcomeTree j)

/-- A text is read as what the parser answers without surrogates. -/
lemma readAs_iff {text : String} {v : Value} :
    ReadAs text v ↔ parseOutcome text = .ok v ∧ v.isUnicode = true := parseOutcome_ok.symm

/-- What the parser gives. -/
inductive IsParsed : Value → Prop where
  | null : IsParsed .none
  | bool {b} : IsParsed (.bool b)
  | number {d} : IsParsed (.decimal d)
  | str {s} : IsParsed (.str s)
  | points {t} : IsParsed (.points t)
  | array {l : List Value} :
    (∀ v ∈ l, IsParsed v) →
    IsParsed (.tuple l)
  | object {l : List (String × Value)} :
    (∀ m ∈ l, IsParsed m.2) →
    IsParsed (.dict l)
  | texts {l} : IsParsed (.textDict l)

mutual

/-- Normalizing gives a parsed value. -/
lemma normalizeOutcome_parsed : ∀ {v w : Value}, normalizeOutcome v = .ok w → IsParsed w
  | .none, _, h | .bool _, _, h | .decimal _, _, h | .str _, _, h | .points _, _, h => by
    cases h
    constructor
  | .list l, w, h => by
    simp only [normalizeOutcome, bind_eq_ok, pure_eq_ok, Except.ok.injEq] at h
    obtain ⟨vs, h, rfl⟩ := h
    exact .array (normalizeOutcomes_parsed h)
  | .dict l, w, h => by
    simp only [normalizeOutcome, bind_eq_ok, pure_eq_ok, Except.ok.injEq] at h
    obtain ⟨ms, h, rfl⟩ := h
    exact .object (normalizeOutcomeMembers_parsed h)
  | .textDict l, w, h => by
    simp only [normalizeOutcome, bind_eq_ok, pure_eq_ok, Except.ok.injEq] at h
    obtain ⟨ms, -, rfl⟩ := h
    exact .texts
  | .int _, _, h | .float _, _, h | .enum .., _, h | .tuple _, _, h | .record _, _, h => by cases h

lemma normalizeOutcomes_parsed : ∀ {l ws : List Value}, normalizeOutcomes l = .ok ws →
    ∀ w ∈ ws, IsParsed w
  | [], _, h => by
    cases h
    exact fun _ h => absurd h List.not_mem_nil
  | v :: l, ws, h => by
    simp only [normalizeOutcomes, bind_eq_ok, pure_eq_ok, Except.ok.injEq] at h
    obtain ⟨w, hv, ws, hl, rfl⟩ := h
    exact List.forall_mem_cons.mpr ⟨normalizeOutcome_parsed hv, normalizeOutcomes_parsed hl⟩

lemma normalizeOutcomeMembers_parsed : ∀ {l ms : List (String × Value)},
    normalizeOutcomeMembers l = .ok ms → ∀ m ∈ ms, IsParsed m.2
  | [], _, h => by
    cases h
    exact fun _ h => absurd h List.not_mem_nil
  | (k, v) :: l, ms, h => by
    simp only [normalizeOutcomeMembers, bind_eq_ok, pure_eq_ok, Except.ok.injEq] at h
    obtain ⟨w, hv, ms, hl, rfl⟩ := h
    exact List.forall_mem_cons.mpr ⟨normalizeOutcome_parsed hv, normalizeOutcomeMembers_parsed hl⟩

end

/-- Parsing gives a parsed value. -/
lemma parseOutcome_parsed {text : String} {v : Value} (h : parseOutcome text = .ok v) : IsParsed v := by
  rw [parseOutcome, bind_eq_ok] at h
  obtain ⟨w, -, h⟩ := h
  exact normalizeOutcome_parsed h

end

/-! ### Two numbers -/

/-- Rounding keeps a value from becoming negative. -/
lemma round_nonneg {q r : ℚ} (h : 0 ≤ q) (rounded : Context.default.round q = some r) : 0 ≤ r := by
  rcases h.eq_or_lt with rfl | hq
  · rw [Context.round] at rounded
    simp only [Context.default, if_true, Option.some.injEq] at rounded
    exact rounded.le
  · rcases Context.round_cases hq with ⟨-, r', rounded', nonneg, -⟩ | ⟨-, overflow⟩
    · cases rounded.symm.trans rounded'
      exact nonneg
    · cases rounded.symm.trans overflow

/-- A value that is not too large is rounded. -/
lemma round_of_fits {q : ℚ} (h : ¬TooLarge q) : ∃ r, Context.default.round q = some r :=
  Option.ne_none_iff_exists'.mp fun overflow => h (Context.round_none.mp overflow)

/-- Being too large does not depend on the sign. -/
lemma tooLarge_abs {q : ℚ} : TooLarge |q| ↔ TooLarge q := by
  rw [TooLarge, TooLarge, abs_abs]

/-- Two numbers in range have a score exactly when their difference is in range. -/
lemma numberScore_range {p a : ℚ} (hp : ¬TooLarge p) (ha : ¬TooLarge a) (h : ¬TooLarge (p - a)) :
    ∃ s, numberScore .default p a = some s ∧ 0 ≤ s ∧ s ≤ 1 := by
  obtain ⟨d, difference⟩ := round_of_fits h
  obtain ⟨t, distance⟩ := round_of_fits (tooLarge_abs.not.mpr (Context.round_fits difference))
  obtain ⟨p', pAbs⟩ := round_of_fits (tooLarge_abs.not.mpr hp)
  obtain ⟨a', aAbs⟩ := round_of_fits (tooLarge_abs.not.mpr ha)
  have nonneg : 0 ≤ t := round_nonneg (abs_nonneg d) distance
  have one : 1 ≤ max (max p' a') 1 := le_max_right _ _
  have quotient : 0 ≤ t / max (max p' a') 1 := div_nonneg nonneg (zero_le_one.trans one)
  have fits : ¬TooLarge (t / max (max p' a') 1) := by
    have less := Context.round_fits distance
    rw [TooLarge, abs_of_nonneg nonneg] at less
    rw [TooLarge, abs_of_nonneg quotient]
    exact fun large => less (large.trans (div_le_self nonneg one))
  obtain ⟨s, score⟩ := round_of_fits fits
  refine ⟨min 1 s, ?_, le_min zero_le_one (round_nonneg quotient score), min_le_left 1 s⟩
  simp only [numberScore, Context.sub, Context.abs, Context.div, difference, distance, pAbs, aAbs, score,
    Option.bind_eq_bind, Option.bind_some, Option.pure_def]

/-- Two numbers with a score have a difference in range. -/
lemma numberScore_difference {p a s : ℚ} (h : numberScore .default p a = some s) : ¬TooLarge (p - a) := by
  intro large
  rw [numberScore, Context.sub, Context.round_none.mpr large] at h
  cases h

/-! ### The comparison -/

/-- Two numbers are compared: they are at one place of the two values. -/
inductive Meets : Value → Value → Decimal → Decimal → Prop where
  | number {p a : Decimal} : Meets (.decimal p) (.decimal a) p a
  | element {pItems aItems : List Value} {i : Nat} {v w : Value} {x y : Decimal} :
    pItems[i]? = some v →
    aItems[i]? = some w →
    Meets v w x y →
    Meets (.tuple pItems) (.tuple aItems) x y
  | member {pMap aMap : List (String × Value)} {key : String} {v w : Value} {x y : Decimal} :
    pMap.lookup key = some v →
    aMap.lookup key = some w →
    Meets v w x y →
    Meets (.dict pMap) (.dict aMap) x y

/-- The leaves of a comparison: there is one, and the scores are between zero and one. -/
def Scored (leaves : List DivergenceLeaf) : Prop :=
  leaves ≠ [] ∧ ∀ leaf ∈ leaves, 0 ≤ leaf.score ∧ leaf.score ≤ 1

/-- One score between zero and one. -/
lemma scored_single {leaf : DivergenceLeaf} (lower : 0 ≤ leaf.score) (upper : leaf.score ≤ 1) :
    Scored [leaf] :=
  ⟨List.cons_ne_nil _ _, fun _ h => List.mem_singleton.mp h ▸ ⟨lower, upper⟩⟩

/-- Scored lists, one after the other. -/
lemma scored_flatten {α : Type} {f : α → Except PyError (List DivergenceLeaf)} {l : List α}
    (ne : l ≠ []) (each : ∀ a ∈ l, ∃ x, f a = .ok x ∧ Scored x) :
    ∃ xs, mapAll f l = .ok xs ∧ Scored xs.flatten := by
  obtain ⟨xs, all⟩ := mapAll_ok fun a ha => (each a ha).imp fun _ h => h.1
  have rel := mapAll_eq_ok.mp all
  have scored (x : List DivergenceLeaf) (hx : x ∈ xs) : Scored x := by
    obtain ⟨a, ha, e⟩ := forall₂_mem_right rel x hx
    obtain ⟨x', e', h⟩ := each a ha
    cases e.symm.trans e'
    exact h
  refine ⟨xs, all, fun empty => ?_, fun leaf hleaf => ?_⟩
  · obtain ⟨a, ha⟩ := List.exists_mem_of_ne_nil l ne
    obtain ⟨x, hx, -⟩ := forall₂_mem_left rel a ha
    exact (scored x hx).1 (List.flatten_eq_nil_iff.mp empty x hx)
  · obtain ⟨x, hx, hleaf⟩ := List.mem_flatten.mp hleaf
    exact (scored x hx).2 leaf hleaf

/-- Every number in the value is in range. -/
def InRange (v : Value) : Prop := ∀ d ∈ decimalsOf v, ¬TooLarge d.value

/-- An element of a value in range is in range. -/
lemma inRange_elem {l : List Value} {v : Value} (h : InRange (.tuple l)) (hv : v ∈ l) : InRange v :=
  fun d hd => h d (mem_decimalsOfElems.mpr ⟨v, hv, hd⟩)

/-- A member of a value in range is in range. -/
lemma inRange_member {l : List (String × Value)} {m : String × Value} (h : InRange (.dict l))
    (hm : m ∈ l) : InRange m.2 :=
  fun d hd => h d (mem_decimalsOfMembers.mpr ⟨m, hm, hd⟩)

section
variable [Platform] {p a : Value} {path : String}

omit [Platform] in
/-- What was parsed has a kind. -/
lemma IsParsed.kind {v : Value} (h : IsParsed v) : ∃ k, valueKind v = .ok k := by
  cases h with
  | null | bool | number | str | points | array | object | texts => exact ⟨_, rfl⟩

/-- An outcome is what the parser gives. -/
lemma IsOutcome.parsed {v : Value} (h : IsOutcome v) : IsParsed v := by
  induction h with
  | null => exact .null
  | bool => exact .bool
  | number _ => exact .number
  | str _ => exact .str
  | array _ ih => exact .array ih
  | object _ _ _ ih => exact .object ih

omit [Platform] in
/-- A member or an element has scored leaves, when it is compared. -/
lemma childLeaves_runs (path : String) {p a : Option Value}
    (h : ∀ v w, p = some v → a = some w →
      ∃ leaves, compare .default v w path = .ok leaves ∧ Scored leaves) :
    ∃ leaves, childLeaves .default p a path = .ok leaves ∧ Scored leaves := by
  cases p with
  | none => exact ⟨_, rfl, scored_single zero_le_one le_rfl⟩
  | some v =>
    cases a with
    | none => exact ⟨_, rfl, scored_single zero_le_one le_rfl⟩
    | some w => exact h v w rfl rfl

/-- Outcomes in range are compared, when the numbers at one place have differences in range. -/
lemma compare_runs (hp : IsOutcome p) (ha : IsOutcome a) (rp : InRange p) (ra : InRange a)
    (unicode : p.isUnicode = true ∧ a.isUnicode = true)
    (meets : ∀ x y, Meets p a x y → ¬TooLarge (x.value - y.value)) :
    ∃ leaves, compare .default p a path = .ok leaves ∧ Scored leaves := by
  induction p, a, path using compare.induct with
  | case1 path p a =>
    obtain ⟨s, score, lower, upper⟩ := numberScore_range (rp p (List.mem_singleton.mpr rfl))
      (ra a (List.mem_singleton.mpr rfl)) (meets p a .number)
    refine ⟨[⟨path, true, true, .number, s⟩], ?_, scored_single lower upper⟩
    rw [compare, score]
    rfl
  | case2 path p a =>
    refine ⟨_, by rw [compare], scored_single ?_ ?_⟩
    · dsimp only
      split <;> norm_num
    · dsimp only
      split <;> norm_num
  | case3 path p a =>
    refine ⟨_, by rw [compare], scored_single ?_ ?_⟩
    · dsimp only
      split <;> norm_num
    · dsimp only
      split <;> norm_num
  | case4 path => exact ⟨_, by rw [compare], scored_single le_rfl zero_le_one⟩
  | case5 path pMap aMap empty =>
    exact ⟨_, by rw [compare, if_pos empty], scored_single le_rfl zero_le_one⟩
  -- what meets at a member meets in the whole
  | case6 path pMap aMap nonempty ih =>
    cases hp with
    | object nd _ outcomes =>
    cases ha with
    | object nd' _ outcomes' =>
    obtain ⟨xs, all, scored⟩ := scored_flatten (unionKeys_ne_nil nonempty) fun key _ =>
      childLeaves_runs (pointer path key) fun v w hv hw =>
        have mv := mem_of_lookup hv
        have mw := mem_of_lookup hw
        ih key v w hv (outcomes _ mv) (outcomes' _ mw) (inRange_member rp mv) (inRange_member ra mw)
          ⟨Value.isUnicode_dict.mp unicode.1 _ mv, Value.isUnicode_dict.mp unicode.2 _ mw⟩
          fun x y h => meets x y (.member hv hw h)
    exact ⟨_, by rw [compare_dict nonempty, all]; rfl, scored⟩
  | case7 path pItems aItems empty =>
    exact ⟨_, by rw [compare, if_pos empty], scored_single le_rfl zero_le_one⟩
  | case8 path pItems aItems nonempty ih =>
    cases hp with
    | array outcomes =>
    cases ha with
    | array outcomes' =>
    obtain ⟨xs, all, scored⟩ := scored_flatten (range_ne_nil nonempty) fun index _ =>
      childLeaves_runs (elementPointer path index) fun v w hv hw =>
        have mv := List.mem_of_getElem? hv
        have mw := List.mem_of_getElem? hw
        ih index v w hv (outcomes _ mv) (outcomes' _ mw) (inRange_elem rp mv) (inRange_elem ra mw)
          ⟨Value.isUnicode_tuple.mp unicode.1 _ mv, Value.isUnicode_tuple.mp unicode.2 _ mw⟩
          fun x y h => meets x y (.element hv hw h)
    exact ⟨_, by rw [compare_tuple nonempty, all]; rfl, scored⟩
  | case9 path p a decimals bools strs nones dicts tuples =>
    obtain ⟨k, hk⟩ := hp.parsed.kind
    obtain ⟨k', hk'⟩ := ha.parsed.kind
    refine ⟨[⟨path, true, true, .typeMismatch, 1⟩], ?_, scored_single zero_le_one le_rfl⟩
    rw [compare_mismatch decimals bools strs nones dicts tuples unicode, hk, hk']
    rfl

omit [Platform] in
/-- Numbers that were compared have differences in range. -/
lemma compare_meets {x y : Decimal} (h : Meets p a x y) {leaves : List DivergenceLeaf}
    (run : compare .default p a path = .ok leaves) : ¬TooLarge (x.value - y.value) := by
  induction h generalizing path leaves with
  | @number p a =>
    rw [compare] at run
    cases score : numberScore .default p.value a.value with
    | none =>
      rw [score] at run
      cases run
    | some s => exact numberScore_difference score
  | @element pItems aItems i v w x y hv hw _ ih =>
    have nonempty : ¬(pItems = [] ∧ aItems = []) := by
      rintro ⟨rfl, -⟩
      cases hv
    rw [compare_tuple nonempty] at run
    simp only [bind_eq_ok] at run
    obtain ⟨xs, all, -⟩ := run
    have index : i ∈ List.range (max pItems.length aItems.length) :=
      List.mem_range.mpr (lt_max_of_lt_left (List.getElem?_eq_some_iff.mp hv).1)
    obtain ⟨leaves, child⟩ := mapAll_mem all i index
    rw [hv, hw] at child
    exact ih child
  | @member pMap aMap key v w x y hv hw _ ih =>
    have nonempty : ¬(pMap = [] ∧ aMap = []) := by
      rintro ⟨rfl, -⟩
      cases hv
    rw [compare_dict nonempty] at run
    simp only [bind_eq_ok] at run
    obtain ⟨xs, all, -⟩ := run
    have found : key ∈ unionKeys pMap aMap := by
      rw [unionKeys, mem_sortedBy, List.mem_dedup, List.mem_append]
      refine .inl (by_contra fun absent => ?_)
      rw [lookup_of_notMem absent] at hv
      cases hv
    obtain ⟨leaves, child⟩ := mapAll_mem all key found
    rw [hv, hw] at child
    exact ih child

omit [Platform] in
/-- A child raises what its comparison does. -/
lemma childLeaves_raises {p a : Option Value}
    (h : ∀ v w, p = some v → a = some w → OnlyRaises (¬·.IsIntegrity) (compare .default v w path)) :
    OnlyRaises (¬·.IsIntegrity) (childLeaves .default p a path) := by
  cases p with
  | none => trivial
  | some v =>
    cases a with
    | none => trivial
    | some w => exact h v w rfl rfl

omit [Platform] in
/-- Comparing what was parsed raises no integrity error: only signals of the arithmetic, and the error of
a key that has no encoding. -/
lemma compare_raises (hp : IsParsed p) (ha : IsParsed a) :
    OnlyRaises (¬·.IsIntegrity) (compare .default p a path) := by
  induction p, a, path using compare.induct with
  | case1 path p a =>
    rw [compare]
    cases numberScore .default p.value a.value with
    | none => exact not_false
    | some s => trivial
  | case2 path p a | case3 path p a | case4 path =>
    rw [compare]
    trivial
  | case5 path pMap aMap empty | case7 path pItems aItems empty =>
    rw [compare, if_pos empty]
    trivial
  | case6 path pMap aMap nonempty ih =>
    cases hp with
    | object parsed =>
    cases ha with
    | object parsed' =>
    rw [compare_dict nonempty, onlyRaises_bind]
    refine ⟨onlyRaises_mapAll fun key _ => childLeaves_raises fun v w hv hw => ?_, fun _ _ => trivial⟩
    exact ih key v w hv (parsed _ (mem_of_lookup hv)) (parsed' _ (mem_of_lookup hw))
  | case8 path pItems aItems nonempty ih =>
    cases hp with
    | array parsed =>
    cases ha with
    | array parsed' =>
    rw [compare_tuple nonempty, onlyRaises_bind]
    refine ⟨onlyRaises_mapAll fun i _ => childLeaves_raises fun v w hv hw => ?_, fun _ _ => trivial⟩
    exact ih i v w hv (parsed _ (List.mem_of_getElem? hv)) (parsed' _ (List.mem_of_getElem? hw))
  | case9 path p a decimals bools strs nones dicts tuples =>
    obtain ⟨k, hk⟩ := hp.kind
    obtain ⟨k', hk'⟩ := ha.kind
    rw [compare.eq_7 _ p a path decimals bools strs nones dicts tuples, hk, hk']
    simp only [ok_bind]
    split
    · trivial
    split
    · exact not_false
    · trivial

/-! ### What comes after the leaves -/

omit [Platform] in
/-- The mean of the leaves has a score. -/
lemma averageScore_runs {leaves : List DivergenceLeaf} (h : Scored leaves) :
    ∃ s, averageScore .default (leaves.map DivergenceLeaf.score) = some s := by
  obtain ⟨ne, range⟩ := h
  have scores : ∀ s ∈ leaves.map DivergenceLeaf.score, 0 ≤ s ∧ s ≤ 1 := List.forall_mem_map.mpr range
  generalize hl : leaves.map DivergenceLeaf.score = l at scores
  have nonempty : l ≠ [] := by
    rw [← hl]
    exact fun e => ne (List.map_eq_nil_iff.mp e)
  have count : (0 : ℚ) < l.length := by exact_mod_cast List.length_pos_iff.mpr nonempty
  obtain ⟨total, sum, lower, upper⟩ :=
    Context.sum_bounded scores (s := 0) (k := 0) le_rfl le_rfl (by norm_num)
  rw [zero_add] at upper
  obtain ⟨mean, rounded, nonneg, one⟩ := Context.round_le (q := total / l.length) (k := 1)
    (div_nonneg lower count.le) (by rw [Nat.cast_one]; exact (div_le_one count).mpr upper) (by decide)
  obtain ⟨s, quantized⟩ := Context.quantize_bounded nonneg (by exact_mod_cast one)
  refine ⟨s, ?_⟩
  rw [averageScore, sum]
  simp only [Option.bind_eq_bind, Option.bind_some, nonempty, if_false, Context.div, rounded, quantized]

/-- An outcome is hashed exactly when its numbers are in range. -/
lemma encodes_outcome {v : Value} (h : IsOutcome v) : Encodes v ↔ InRange v := by
  induction h with
  | null | bool | str => simp [InRange, decimalsOf]
  | @number d finite =>
    have text : d.canonicalChars.isSome = true ↔ ¬TooLarge d.value := by
      rw [← Decimal.canonicalChars_none finite, Option.isSome_iff_ne_none]
    simp only [InRange, decimalsOf, List.mem_singleton, forall_eq, ← text]
    refine ⟨fun e => ?_, encodes_decimal finite⟩
    obtain ⟨cs, hcs, -⟩ := code_decimal e
    rw [hcs]
    rfl
  | @array l _ ih =>
    rw [encodes_tuple]
    refine ⟨fun e d hd => ?_, fun range v hv => (ih v hv).mpr (inRange_elem range hv)⟩
    obtain ⟨v, hv, hd⟩ := mem_decimalsOfElems.mp hd
    exact (ih v hv).mp (e v hv) d hd
  | @object l nd fixed _ ih =>
    have keys : (l.map fun m => nfc m.1) = l.map Prod.fst := List.map_congr_left fixed
    have mapping := encodes_mapping l []
    simp only [keys, nd, List.not_mem_nil, not_false_eq_true, implies_true, true_and] at mapping
    have encodes : Encodes (.dict l) ↔ ∀ m ∈ l, Encodes m.2 := by
      rw [← mapping]
      simp only [Encodes, canonicalValue, bind_eq_ok, pure_eq_ok, Except.ok.injEq]
      constructor
      · rintro ⟨unicode, _, js, h, -⟩
        exact ⟨Value.isUnicode_dict.mp unicode, js, h⟩
      · rintro ⟨unicode, js, h⟩
        exact ⟨Value.isUnicode_dict.mpr unicode, _, js, h, rfl⟩
    rw [encodes]
    refine ⟨fun e d hd => ?_, fun range m hm => (ih m hm).mpr (inRange_member range hm)⟩
    obtain ⟨m, hm, hd⟩ := mem_decimalsOfMembers.mp hd
    exact (ih m hm).mp (e m hm) d hd

/-- A comparison returns or raises an integrity error exactly when its threshold or a text is refused, or
both texts are read without lone surrogates, every number is in range and so is the difference of every
two numbers that are compared. -/
theorem compareJson_raises {predictedJson actualJson : String} {threshold : Decimal} :
    OnlyRaises PyError.IsIntegrity (compareJson .default predictedJson actualJson threshold) ↔
      (threshold.isFinite = true → 0 ≤ threshold.value → threshold.value ≤ 1 →
        RefusedText predictedJson ∨
        ((∃ p, parseOutcome predictedJson = .ok p) ∧ RefusedText actualJson) ∨
        ∃ p a, ReadAs predictedJson p ∧ ReadAs actualJson a ∧ InRange p ∧ InRange a ∧
          ∀ x y, Meets p a x y → ¬TooLarge (x.value - y.value)) := by
  -- what is hashed has no lone surrogate, and a refusal to hash is no integrity error
  have digests {v : Value} (raises : OnlyRaises PyError.IsIntegrity (canonicalSha256 v)) : Encodes v := by
    cases digest : canonicalSha256 v with
    | ok d =>
      obtain ⟨unicode, j, encoded, -⟩ := canonicalSha256_eq_ok.mp digest
      exact ⟨unicode, j, encoded⟩
    | error e =>
      rw [digest] at raises
      have other := canonicalSha256_raises.of_error digest
      cases e <;> simp_all
  simp only [compareJson, onlyRaises_bind, onlyRaises_ensure, PyError.IsIntegrity, implies_true, true_and]
  constructor
  · intro raises finite lower upper
    obtain ⟨predicted, raises⟩ := raises () (ensure_pos finite) () (ensure_pos ⟨lower, upper⟩)
    -- in the order in which the code fails: the texts, the leaves, the score, the digests
    cases hp : parseOutcome predictedJson with
    | error e =>
      rw [hp] at predicted
      exact .inl ⟨e, hp, predicted⟩
    | ok p =>
    obtain ⟨actual, raises⟩ := raises p hp
    cases ha : parseOutcome actualJson with
    | error e =>
      rw [ha] at actual
      exact .inr (.inl ⟨⟨p, rfl⟩, e, ha, actual⟩)
    | ok a =>
    obtain ⟨run, rest⟩ := raises a ha
    cases leaves : compare .default p a "" with
    | error e =>
      rw [leaves] at run
      exact absurd run ((compare_raises (parseOutcome_parsed hp) (parseOutcome_parsed ha)).of_error leaves)
    | ok l =>
    obtain ⟨average, rest⟩ := rest l leaves
    cases score : averageScore .default (l.map DivergenceLeaf.score) with
    | none =>
      rw [score] at average
      exact average.elim
    | some s =>
    obtain ⟨digestP, rest⟩ := rest s (arithmetic_ok.mpr score)
    have encodesP := digests digestP
    obtain ⟨d, hd⟩ := encodesP.digest
    have encodesA := digests (rest d hd).1
    exact .inr (.inr ⟨p, a, readAs_iff.mpr ⟨hp, encodesP.1⟩, readAs_iff.mpr ⟨ha, encodesA.1⟩,
      (encodes_outcome (parseOutcome_isOutcome hp encodesP.1)).mp encodesP,
      (encodes_outcome (parseOutcome_isOutcome ha encodesA.1)).mp encodesA,
      fun x y h => compare_meets h leaves⟩)
  · intro holds _ finite _ range
    rw [ensure_eq_ok] at finite range
    rcases holds finite range.1 range.2 with ⟨e, hp, refused⟩ | ⟨⟨p, hp⟩, e, ha, refused⟩ |
      ⟨p, a, readP, readA, rangeP, rangeA, meets⟩
    · rw [hp]
      refine ⟨refused, fun p' e' => ?_⟩
      cases e'
    · rw [hp, ha]
      refine ⟨trivial, fun p' _ => ⟨refused, fun a' e' => ?_⟩⟩
      cases e'
    · obtain ⟨hp, unicodeP⟩ := readAs_iff.mp readP
      obtain ⟨ha, unicodeA⟩ := readAs_iff.mp readA
      have outcomeP := parseOutcome_isOutcome hp unicodeP
      have outcomeA := parseOutcome_isOutcome ha unicodeA
      -- in range, the leaves are computed and their scores average without a signal
      obtain ⟨l, leaves, scored⟩ :=
        @compare_runs _ _ _ "" outcomeP outcomeA rangeP rangeA ⟨unicodeP, unicodeA⟩ meets
      obtain ⟨s, score⟩ := averageScore_runs scored
      obtain ⟨d, hd⟩ := ((encodes_outcome outcomeP).mpr rangeP).digest
      obtain ⟨e, he⟩ := ((encodes_outcome outcomeA).mpr rangeA).digest
      rw [hp, ha]
      refine ⟨trivial, fun p' e' => ?_⟩
      cases e'
      refine ⟨trivial, fun a' e' => ?_⟩
      cases e'
      refine ⟨by rw [leaves]; trivial, fun l' hl => ?_⟩
      cases leaves.symm.trans hl
      refine ⟨by rw [score]; trivial, fun s' _ => ⟨by rw [hd]; trivial, fun d' _ => ?_⟩⟩
      exact ⟨by rw [he]; trivial, fun _ _ => trivial⟩

end

/-- A number with an exponent of seven digits makes the comparison raise a signal. -/
theorem compareJson_raises_large :
    let _ := asciiPlatform
    compareJson .default "1e1000000" "0" (.finite false 0 0) = .error .arithmeticError := by
  intro _
  let n : Number := ⟨false, 1, [], some 1000000⟩
  have text : String.ofList n.print = "1e1000000" := by decide +kernel
  have parsed : Json.parse "1e1000000" = some (.num n) := text ▸ Json.parse_print (.num n)
  have parsed' : Json.parse "0" = some (.num ⟨false, 0, [], none⟩) :=
    Json.parse_print (.num ⟨false, 0, [], none⟩)
  have value : (Decimal.ofNumber n).value = 10 ^ (1000000 : ℤ) := by
    change (((1 : Int) : ℚ)) * 10 ^ ((1000000 : ℤ) - 0) = 10 ^ (1000000 : ℤ)
    rw [Int.cast_one, one_mul, sub_zero]
  have large : TooLarge ((Decimal.ofNumber n).value - 0) := by
    rw [sub_zero, value, TooLarge, abs_of_pos Decimal.ten_zpow_pos]
    exact Context.bound_between.2.le
  have only (n : Number) : ∀ p ∈ (Json.num n).parts, Keyed p := by
    intro p hp
    obtain rfl := List.mem_singleton.mp hp
    trivial
  have predicted : parseOutcome "1e1000000" = .ok (.decimal (.ofNumber n)) :=
    parseOutcome_tree parsed (only n) (by simpa [Json.parts] using by decide)
  have actual : parseOutcome "0" = .ok (.decimal (.ofNumber ⟨false, 0, [], none⟩)) :=
    parseOutcome_tree parsed' (only _) (by simpa [Json.parts] using by decide)
  have zero : (Decimal.ofNumber ⟨false, 0, [], none⟩).value = 0 := by
    norm_num [Decimal.ofNumber, Decimal.value, Decimal.signed]
  have score : numberScore .default (Decimal.ofNumber n).value 0 = none := by
    rw [numberScore, Context.sub, Context.round_none.mpr large]
    rfl
  have threshold : 0 ≤ (Decimal.finite false 0 0).value ∧ (Decimal.finite false 0 0).value ≤ 1 := by
    norm_num [Decimal.value, Decimal.signed]
  have finite : (Decimal.finite false 0 0).isFinite = true := rfl
  rw [compareJson, ensure_pos finite, ok_bind, ensure_pos threshold, ok_bind, predicted, ok_bind, actual,
    ok_bind, compare, zero, score]
  rfl

end GAM
