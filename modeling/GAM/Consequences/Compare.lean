import GAM.Consequences.Outcome
import GAM.Lib.DecimalContext

/-!
# The divergence of two outcomes

The recursive comparison of `consequences.py`. Two values are walked together: values of different
kinds, members and elements that only one side has, and scalars each give one leaf with a score, and
the divergence is the mean of the scores, to six places. Decimal arithmetic is by value, in a given
context.
-/

namespace GAM
open Lib

/-- The kinds of JSON values (Python `_kind`). -/
inductive JsonKind where
  | null
  | boolean
  | number
  | string
  | array
  | object
deriving DecidableEq, Repr

/-- Python `_kind`. -/
def valueKind : Value → Except PyError JsonKind
  | .none => .ok .null
  | .bool _ => .ok .boolean
  | .decimal _ => .ok .number
  | .str _ | .points _ => .ok .string
  | .tuple _ => .ok .array
  | .dict _ | .textDict _ => .ok .object
  | _ => corrupt "unsupported JSON value"

/-- What a leaf reports. -/
inductive LeafKind where
  | typeMismatch
  | number
  | boolean
  | string
  | null
  | emptyObject
  | emptyArray
  | missingPredicted
  | missingActual
deriving DecidableEq, Repr

/-- The text of a kind of leaf. -/
def LeafKind.text : LeafKind → String
  | .typeMismatch => "type_mismatch"
  | .number => "number"
  | .boolean => "boolean"
  | .string => "string"
  | .null => "null"
  | .emptyObject => "empty_object"
  | .emptyArray => "empty_array"
  | .missingPredicted => "missing_predicted"
  | .missingActual => "missing_actual"

/-- Python `DivergenceLeaf`. -/
structure DivergenceLeaf where
  jsonPointer : String
  predictedPresent : Bool
  actualPresent : Bool
  kind : LeafKind
  score : ℚ
deriving DecidableEq

/-- Python `DivergenceResult`. -/
structure DivergenceResult where
  comparisonVersion : String
  predictedDigest : String
  actualDigest : String
  leaves : List DivergenceLeaf
  score : ℚ
  threshold : Decimal

/-- One character of a pointer component. -/
def escapePointer (c : Char) : List Char :=
  if c = '~' then ['~', '0'] else if c = '/' then ['~', '1'] else [c]

/-- Python `_pointer`. -/
def pointer (path component : String) : String :=
  path ++ "/" ++ String.ofList (component.toList.flatMap escapePointer)

/-- A result of decimal arithmetic; no result is a trapped signal. -/
def arithmetic {α : Type} : Option α → Except PyError α
  | some a => .ok a
  | none => .error .arithmeticError

@[simp] lemma arithmetic_ok {α : Type} {o : Option α} {a : α} :
    arithmetic o = .ok a ↔ o = some a := by
  cases o <;> simp [arithmetic]

/-- The relative distance of two numbers, at most one. -/
def numberScore (ctx : Context) (p a : ℚ) : Option ℚ := do
  let difference ← ctx.sub p a
  let distance ← ctx.abs difference
  let pAbs ← ctx.abs p
  let aAbs ← ctx.abs a
  let quotient ← ctx.div distance (max (max pAbs aAbs) 1)
  return min 1 quotient

/-- The keys of two objects, each once and in the order of their encoding. -/
def unionKeys (pMap aMap : List (String × Value)) : List String :=
  sortedBy utf8Key (pMap.map Prod.fst ++ aMap.map Prod.fst).dedup

/-- A member is smaller than its object. -/
lemma sizeOf_lookup {l : List (String × Value)} {key : String} {v : Value}
    (h : l.lookup key = some v) : sizeOf v < sizeOf (Value.dict l) := by
  have member := List.sizeOf_lt_of_mem (mem_of_lookup h)
  simp only [Prod.mk.sizeOf_spec] at member
  simp only [Value.dict.sizeOf_spec]
  omega

/-- An element is smaller than its array. -/
lemma sizeOf_getElem? {l : List Value} {i : Nat} {v : Value} (h : l[i]? = some v) :
    sizeOf v < sizeOf (Value.tuple l) := by
  have := List.sizeOf_lt_of_mem (List.mem_of_getElem? h)
  simp only [Value.tuple.sizeOf_spec]
  omega

/-- Python `_compare`. -/
def compare (ctx : Context) (predicted actual : Value) (path : String) :
    Except PyError (List DivergenceLeaf) :=
  match predicted, actual with
  | .decimal p, .decimal a => do
    let score ← arithmetic (numberScore ctx p.value a.value)
    return [⟨path, true, true, .number, score⟩]
  | .bool p, .bool a => .ok [⟨path, true, true, .boolean, if p = a then 0 else 1⟩]
  | .str p, .str a => .ok [⟨path, true, true, .string, if p = a then 0 else 1⟩]
  | .none, .none => .ok [⟨path, true, true, .null, 0⟩]
  | .dict pMap, .dict aMap =>
    if pMap = [] ∧ aMap = [] then .ok [⟨path, true, true, .emptyObject, 0⟩]
    else do
      let leaves ← mapAll (fun key =>
        match _ : pMap.lookup key, aMap.lookup key with
        | none, _ => .ok [⟨pointer path key, false, true, .missingPredicted, 1⟩]
        | some _, none => .ok [⟨pointer path key, true, false, .missingActual, 1⟩]
        | some p, some a => compare ctx p a (pointer path key)) (unionKeys pMap aMap)
      return leaves.flatten
  | .tuple pItems, .tuple aItems =>
    if pItems = [] ∧ aItems = [] then .ok [⟨path, true, true, .emptyArray, 0⟩]
    else do
      let leaves ← mapAll (fun index : Nat =>
        let child := pointer path (String.ofList (natChars index))
        match _ : pItems[index]?, aItems[index]? with
        | none, _ => .ok [⟨child, false, true, .missingPredicted, 1⟩]
        | some _, none => .ok [⟨child, true, false, .missingActual, 1⟩]
        | some p, some a => compare ctx p a child)
        (List.range (max pItems.length aItems.length))
      return leaves.flatten
  | p, a => do
    let pKind ← valueKind p
    let aKind ← valueKind a
    if pKind ≠ aKind then return [⟨path, true, true, .typeMismatch, 1⟩]
    -- of one kind and none of the above: a lone surrogate is in one of two texts, or in a key of one
    -- of two objects, whose keys then have no order by their encoding
    else if pKind = .object then .error .valueError
    else return [⟨path, true, true, .string, if p.codePoints? = a.codePoints? then 0 else 1⟩]
termination_by predicted
decreasing_by
  · exact sizeOf_lookup ‹_›
  · exact sizeOf_getElem? ‹_›

/-- The leaves of one member or element, which may be missing on either side. -/
def childLeaves (ctx : Context) (p a : Option Value) (child : String) :
    Except PyError (List DivergenceLeaf) :=
  match p, a with
  | none, _ => .ok [⟨child, false, true, .missingPredicted, 1⟩]
  | some _, none => .ok [⟨child, true, false, .missingActual, 1⟩]
  | some p, some a => compare ctx p a child

/-- Where an element is reported. -/
def elementPointer (path : String) (index : Nat) : String :=
  pointer path (String.ofList (natChars index))

section
variable {ctx : Context} {path : String}

/-- Objects are compared member by member. -/
lemma compare_dict {pMap aMap : List (String × Value)} (h : ¬(pMap = [] ∧ aMap = [])) :
    compare ctx (.dict pMap) (.dict aMap) path = (do
      let leaves ← mapAll (fun key =>
        childLeaves ctx (pMap.lookup key) (aMap.lookup key) (pointer path key)) (unionKeys pMap aMap)
      return leaves.flatten) := by
  rw [compare, if_neg h]
  congr 2
  funext key
  cases pMap.lookup key with
  | none => rfl
  | some p => cases aMap.lookup key <;> rfl

/-- Arrays are compared element by element. -/
lemma compare_tuple {pItems aItems : List Value} (h : ¬(pItems = [] ∧ aItems = [])) :
    compare ctx (.tuple pItems) (.tuple aItems) path = (do
      let leaves ← mapAll (fun index =>
        childLeaves ctx pItems[index]? aItems[index]? (elementPointer path index))
        (List.range (max pItems.length aItems.length))
      return leaves.flatten) := by
  rw [compare, if_neg h]
  congr 2
  funext index
  cases pItems[index]? with
  | none => rfl
  | some p => cases aItems[index]? <;> rfl

end

/-- Without lone surrogates, values that no earlier case takes are of different kinds. -/
lemma compare_mismatch {ctx : Context} {path : String} {p a : Value}
    (decimals : ∀ x y, p = .decimal x → a = .decimal y → False)
    (bools : ∀ x y, p = .bool x → a = .bool y → False)
    (strs : ∀ x y, p = .str x → a = .str y → False) (nones : p = .none → a = .none → False)
    (dicts : ∀ x y, p = .dict x → a = .dict y → False)
    (tuples : ∀ x y, p = .tuple x → a = .tuple y → False)
    (unicode : p.isUnicode = true ∧ a.isUnicode = true) :
    compare ctx p a path = (do
      let _ ← valueKind p
      let _ ← valueKind a
      return [⟨path, true, true, .typeMismatch, 1⟩]) := by
  have differ {k : JsonKind} (hp : valueKind p = .ok k) : valueKind a ≠ .ok k := by
    cases p <;> cases hp <;> cases a <;> simp_all [valueKind, corrupt]
  rw [compare.eq_7 _ p a path decimals bools strs nones dicts tuples]
  cases hp : valueKind p with
  | error e => rfl
  | ok k =>
    cases ha : valueKind a with
    | error e => rfl
    | ok k' =>
      have apart : k ≠ k' := fun e => differ hp (e ▸ ha)
      simp only [ok_bind, ne_eq, apart, not_false_eq_true, if_true]

/-- The mean of the leaf scores, to six places. -/
def averageScore (ctx : Context) (scores : List ℚ) : Option ℚ := do
  let total ← ctx.sum 0 scores
  -- the division by an empty list is an invalid operation
  if scores = [] then none
  else
    let mean ← ctx.div total scores.length
    ctx.quantize 6 mean

section
variable [Platform]

/-- Python `compare_json`. -/
def compareJson (ctx : Context) (predictedJson actualJson : String) (threshold : Decimal) :
    Except PyError DivergenceResult := do
  ensure (threshold.isFinite = true) (.integrity "divergence threshold must be a finite Decimal")
  ensure (0 ≤ threshold.value ∧ threshold.value ≤ 1)
    (.integrity "divergence threshold is outside [0,1]")
  let predicted ← parseOutcome predictedJson
  let actual ← parseOutcome actualJson
  let leaves ← compare ctx predicted actual ""
  let score ← arithmetic (averageScore ctx (leaves.map DivergenceLeaf.score))
  let predictedDigest ← canonicalSha256 predicted
  let actualDigest ← canonicalSha256 actual
  return { comparisonVersion := "json-divergence-v1", predictedDigest, actualDigest, leaves, score,
           threshold }

/-- What an accepted comparison went through. -/
lemma compareJson_ok {ctx : Context} {predictedJson actualJson : String} {threshold : Decimal}
    {r : DivergenceResult} : compareJson ctx predictedJson actualJson threshold = .ok r ↔
      (threshold.isFinite = true ∧ 0 ≤ threshold.value ∧ threshold.value ≤ 1) ∧
      ∃ predicted actual, parseOutcome predictedJson = .ok predicted ∧
        parseOutcome actualJson = .ok actual ∧ compare ctx predicted actual "" = .ok r.leaves ∧
        averageScore ctx (r.leaves.map DivergenceLeaf.score) = some r.score ∧
        canonicalSha256 predicted = .ok r.predictedDigest ∧
        canonicalSha256 actual = .ok r.actualDigest ∧
        r.comparisonVersion = "json-divergence-v1" ∧ r.threshold = threshold := by
  simp only [compareJson, bind_eq_ok, ensure_eq_ok, exists_unit, pure_eq_ok, Except.ok.injEq,
    arithmetic_ok]
  constructor
  · rintro ⟨finite, range, p, hp, a, ha, leaves, hl, score, hs, pd, hpd, ad, had, rfl⟩
    exact ⟨⟨finite, range⟩, p, a, hp, ha, hl, hs, hpd, had, rfl, rfl⟩
  · rintro ⟨⟨finite, range⟩, p, a, hp, ha, hl, hs, hpd, had, version, rfl⟩
    refine ⟨finite, range, p, hp, a, ha, _, hl, _, hs, _, hpd, _, had, ?_⟩
    rw [← version]

end

end GAM
