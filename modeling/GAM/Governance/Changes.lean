import GAM.Governance.Facts
import GAM.Traces.PlainTexts

/-!
# Changed facts

What a re-evaluation reports as changed: every step of a trace is projected to the part of its
result that has meaning across evaluations, the projections are grouped by rule, and a rule is
changed when its groups differ. The results are read back with `json.loads` without hooks, so a
prior trace with an unreadable result makes the evaluation raise.
-/

namespace GAM
open Lib

/-- The last item under a key wins; the rest of the mapping is kept. -/
def lastWins {κ : Type} [DecidableEq κ] : List (κ × Value) → List (κ × Value)
  | [] => []
  | (k, v) :: l => if k ∈ l.map Prod.fst then lastWins l else (k, v) :: lastWins l

section
variable {κ : Type} [DecidableEq κ] {l : List (κ × Value)}

/-- A mapping without repeated keys is kept as it is. -/
lemma lastWins_of_nodup (nd : (l.map Prod.fst).Nodup) : lastWins l = l := by
  induction l with
  | nil => rfl
  | cons m l ih =>
    obtain ⟨k, v⟩ := m
    rw [List.map_cons, List.nodup_cons] at nd
    rw [lastWins, if_neg nd.1, ih nd.2]

/-- What is kept was there. -/
lemma mem_of_lastWins {m : κ × Value} (h : m ∈ lastWins l) : m ∈ l := by
  induction l with
  | nil => exact h
  | cons a l ih =>
    obtain ⟨k, v⟩ := a
    rw [lastWins] at h
    split at h
    · exact List.mem_cons_of_mem _ (ih h)
    · exact List.mem_cons.mpr ((List.mem_cons.mp h).imp id ih)

/-- What is kept has no repeated keys. -/
lemma lastWins_nodup : ((lastWins l).map Prod.fst).Nodup := by
  induction l with
  | nil => exact List.nodup_nil
  | cons a l ih =>
    obtain ⟨k, v⟩ := a
    rw [lastWins]
    split
    · exact ih
    · rename_i absent
      refine List.nodup_cons.mpr ⟨fun h => absent ?_, ih⟩
      obtain ⟨m, hm, rfl⟩ := List.mem_map.mp h
      exact List.mem_map_of_mem (mem_of_lastWins hm)

end

/-- The constants, as floats. -/
def loadConstant : Constant → Value
  | .nan => .float .nan
  | .infinity => .float (.infinity false)
  | .negInfinity => .float (.infinity true)

/-- `json.loads` without hooks of its own: a repeated key keeps its last item. -/
def defaultHooks : Hooks PyError Value where
  invalid := .valueError
  null := .none
  bool := .bool
  constant := fun c => .ok (loadConstant c)
  number := loadNumber
  str := fun t => .ok (.text t)
  arr := .list
  obj := fun l => .ok (.ofMembers (lastWins l))

mutual

/-- `json.loads` of a tree. -/
def loadValue : Json → Except PyError Value
  | .null => .ok .none
  | .bool b => .ok (.bool b)
  | .constant c => .ok (loadConstant c)
  | .num n => loadNumber n
  | .str s => .ok (.str s)
  | .arr l => do
    let vs ← loadElems l
    return .list vs
  | .obj l => do
    let ms ← loadMembers l
    return .dict (lastWins ms)

/-- The items of an array. -/
def loadElems : List Json → Except PyError (List Value)
  | [] => .ok []
  | j :: l => do
    let v ← loadValue j
    let vs ← loadElems l
    return v :: vs

/-- The members of an object, in the order of the text. -/
def loadMembers : List (String × Json) → Except PyError (List (String × Value))
  | [] => .ok []
  | (k, j) :: l => do
    let v ← loadValue j
    let vs ← loadMembers l
    return (k, v) :: vs

end

/-- `json.loads` of a text. -/
def jsonLoads (text : String) : Except PyError Value := defaultHooks.scan text

/-- On strings the keys are those of strings. -/
lemma lastWins_textMembers (l : List (String × Value)) :
    lastWins (textMembers l) = textMembers (lastWins l) := by
  induction l with
  | nil => rfl
  | cons m l ih =>
    obtain ⟨k, v⟩ := m
    have keys : textOf k ∈ (textMembers l).map Prod.fst ↔ k ∈ l.map Prod.fst := by
      simp [textMembers]
    rw [textMembers_cons, lastWins, lastWins, ih]
    by_cases h : k ∈ l.map Prod.fst
    · rw [if_pos (keys.mpr h), if_pos h]
    · rw [if_neg (mt keys.mp h), if_neg h, textMembers_cons]

mutual

/-- The hooks make of a tree what `loadValue` does. -/
lemma load_default : ∀ j : Json, j.load defaultHooks = loadValue j
  | .null | .bool _ | .constant _ | .num _ => rfl
  | .str s => by simp [Json.load, defaultHooks, loadValue]
  | .arr l => by
    rw [Json.load, load_defaultElems l, loadValue]
    rfl
  | .obj l => by
    rw [Json.load, load_defaultMembers l, loadValue]
    cases loadMembers l with
    | error e => rfl
    | ok ms => simp [defaultHooks, lastWins_textMembers]

/-- Elements are loaded by the default hooks as by the loader. -/
lemma load_defaultElems : ∀ l : List Json, loadItems defaultHooks l = loadElems l
  | [] => rfl
  | j :: l => by rw [loadItems, load_default j, load_defaultElems l, loadElems]

/-- Members are loaded by the default hooks as by the loader. -/
lemma load_defaultMembers : ∀ l : List (String × Json),
    loadPairs defaultHooks l = (loadMembers l).map textMembers
  | [] => rfl
  | (k, j) :: l => by
    rw [loadPairs, load_default j, load_defaultMembers l, loadMembers]
    cases loadValue j with
    | error e => rfl
    | ok v => cases loadMembers l <;> rfl

end

/-- A text with a tree is read as the tree is. -/
lemma jsonLoads_parse {text : String} {j : Json} (h : Json.parse text = some j) :
    jsonLoads text = loadValue j := by
  rw [jsonLoads, defaultHooks.scan_parse h, load_default]

/-- The value of a number, for comparison across the numeric types. -/
def numericValue : Value → Option ℚ
  | .bool b => some (if b then 1 else 0)
  | .int i => some i
  | .float (.finite neg e f) =>
    some (Decimal.signed neg (Binary64.mant e f) * 2 ^ Binary64.scale e)
  | _ => none

mutual

/-- `==` on loaded values and the tuples made of them. -/
def valueEq : Value → Value → Bool
  | .none, .none => true
  | .str a, .str b => a == b
  | .points a, .points b => a == b
  | .float (.infinity a), .float (.infinity b) => a == b
  | .list a, .list b => valuesEq a b
  | .tuple a, .tuple b => valuesEq a b
  | .dict a, .dict b => a.length == b.length && membersIn a b
  | .textDict a, .textDict b => a.length == b.length && textMembersIn a b
  | a, b =>
    match numericValue a, numericValue b with
    | some x, some y => x == y
    | _, _ => false
termination_by structural v => v

/-- Lists are equal item by item. -/
def valuesEq : List Value → List Value → Bool
  | [], [] => true
  | a :: l, b :: l' => valueEq a b && valuesEq l l'
  | _, _ => false
termination_by structural l => l

/-- Every member of the first mapping is in the second. -/
def membersIn : List (String × Value) → List (String × Value) → Bool
  | [], _ => true
  | (k, v) :: l, m => (match m.lookup k with
      | some w => valueEq v w
      | none => false) && membersIn l m
termination_by structural l => l

/-- The members of one mapping are in the other. -/
def textMembersIn : List (Text × Value) → List (Text × Value) → Bool
  | [], _ => true
  | (k, v) :: l, m => (match m.lookup k with
      | some w => valueEq v w
      | none => false) && textMembersIn l m
termination_by structural l => l

end

/-- The keys of the F01 result that identify the evaluation rather than the facts. -/
def bindingKeys : List String :=
  ["snapshot_id", "snapshot_digest", "profile_version", "prior_evaluation_id",
    "prior_trace_digest", "captured_at"]

/-- The keys of a fact's result that a projection keeps. -/
def projectionKeys (ruleId : String) : List String :=
  if ruleId = F02 then ["has_allow", "has_deny"]
  else if ruleId = F03 then ["some_same"]
  else if ruleId = F04 then ["some_near", "some_unresolved", "all_unresolved"]
  else if ruleId = F05 then ["some_qualifying"]
  else if ruleId = F06 then ["approved", "rejected", "modified", "undecided", "conflict"]
  else if ruleId = F07 then ["all_satisfied"]
  else if ruleId = F08 then ["some_more", "some_missing_consequence"]
  else if ruleId = F09 then ["some_false", "some_unresolved", "some_missing"]
  else if ruleId = F10 then
    ["dependency_id", "state", "necessary_for_yes", "sufficient_if_true", "predicate_satisfied"]
  else if ruleId = F11 then ["triggered_predicate_ids"]
  else []

/-- `result.pop(key, None)` over the binding keys. -/
def popBindingKeys : Value → Except PyError Value
  | .dict l => .ok (.dict (l.filter fun m => m.1 ∉ bindingKeys))
  | .textDict l => .ok (.textDict (l.filter fun m => m.1 ∉ bindingKeys.map textOf))
  | .list _ => .error .typeError
  | _ => .error .attributeError

/-- `{key: result.get(key) for key in keys}`. -/
def selectKeys (keys : List String) : Value → Except PyError Value
  | .dict l => .ok (.dict (keys.map fun k => (k, (l.lookup k).getD .none)))
  | .textDict l => .ok (.dict (keys.map fun k => (k, (l.lookup (textOf k)).getD .none)))
  | _ => if keys = [] then .ok (.dict []) else .error .attributeError

/-- Python `_fact_projection`. -/
def factProjection (step : OperatorTraceStep) : Except PyError Value := do
  let result ← jsonLoads step.resultJson
  let kept ←
    if step.ruleId = F01 then popBindingKeys result
    else selectKeys (projectionKeys step.ruleId) result
  return .tuple [.str step.family.value, .str step.pole, kept]

/-- `result[key]`. -/
def subscript (key : String) : Value → Except PyError Value
  | .dict l =>
    match l.lookup key with
    | some v => .ok v
    | none => .error (.keyError key)
  | .textDict l =>
    match l.lookup (textOf key) with
    | some v => .ok v
    | none => .error (.keyError key)
  | _ => .error .typeError

/-- The rule of a step identifier (Python `by_id`): the last step under it. -/
def ruleOfStep (trace : List TraceStep) (stepId : String) : Option String :=
  (trace.reverse.find? fun step => step.stepId == stepId).map TraceStep.ruleId

/-- What a gap asks, without its identifier. -/
def gapTuple (g : EvidenceGap) : String ×ₗ String ×ₗ String ×ₗ String ×ₗ String :=
  toLex (g.witness.value, toLex (g.subjectRef, toLex (g.question, toLex (g.needed,
    g.resolutionRuleId))))

/-- The signature of a gap, as a tuple value. -/
def gapValue (g : EvidenceGap) : Value :=
  .tuple [.str g.witness.value, .str g.subjectRef, .str g.question, .str g.needed,
    .str g.resolutionRuleId]

/-- Python `_because_projection`. -/
def becauseProjection (step : OperatorTraceStep) (trace : List TraceStep)
    (gaps : List EvidenceGap) : Except PyError Value := do
  let result ← jsonLoads step.resultJson
  let verdict ← subscript "verdict" result
  let risk ← subscript "risk" result
  return .dict
    [("family", .str step.family.value), ("pole", .str step.pole), ("verdict", verdict),
      ("risk", risk),
      ("decisive_rule_ids",
        .list ((sortedBy id (step.objectRefs.filterMap (ruleOfStep trace))).map .str)),
      ("gap_signatures", .list ((sortedBy gapTuple gaps).map gapValue))]

/-- The projection of one step of a trace. -/
def projection (trace : List TraceStep) (gaps : List EvidenceGap) (step : OperatorTraceStep) :
    Except PyError (String × Value) := do
  let value ←
    if step.ruleId = F12 then becauseProjection step trace gaps else factProjection step
  return (step.ruleId, value)

/-- The operator step, if it is one. -/
def TraceStep.operator? : TraceStep → Option OperatorTraceStep
  | .operator step => some step
  | .reducer _ => none

/-- Python `_projections`: the projections in the order of the trace, each under its rule. -/
def projections (trace : List TraceStep) (gaps : List EvidenceGap) :
    Except PyError (List (String × Value)) :=
  mapAll (projection trace gaps) (trace.filterMap TraceStep.operator?)

/-- The group of a rule. -/
def projectionGroup (l : List (String × Value)) (ruleId : String) : List Value :=
  (l.filter fun entry => entry.1 == ruleId).map Prod.snd

/-- The rules whose groups differ, sorted. A rule with no step has no group, which differs from
every group of a rule with steps. -/
def changedRules (before after : List (String × Value)) : List String :=
  (sortedBy id ((before ++ after).map Prod.fst).dedup).filter fun ruleId =>
    !valuesEq (projectionGroup before ruleId) (projectionGroup after ruleId)

/-- Python `_changed_fact_ids`. -/
def changedFactIds (trace : List TraceStep) (gaps : List EvidenceGap) (s : EvaluationSnapshot) :
    Except PyError (List String) :=
  match s.priorEvaluation with
  | none => .ok []
  | some prior => do
    let before ← projections prior.operatorTrace prior.evidenceGaps
    let after ← projections trace gaps
    return changedRules before after

/-! ### What change reporting raises -/

/-- Reading a text raises on its syntax and on the size of its integers. -/
lemma jsonLoads_raises {text : String} : OnlyRaises (· = PyError.valueError) (jsonLoads text) := by
  have raises : defaultHooks.Raise (· = PyError.valueError) :=
    { invalid := rfl
      constant := fun _ => trivial
      number := fun n => by
        simp only [defaultHooks, loadNumber]
        split
        · split <;> simp
        · simp
      str := fun _ => trivial
      obj := fun _ => trivial }
  exact Hooks.scan_raises raises

/-- A projection raises nothing but a failed lookup. -/
lemma projection_raises {trace gaps step} :
    OnlyRaises PyError.IsLookup (projection trace gaps step) := by
  have loads (text) : OnlyRaises PyError.IsLookup (jsonLoads text) :=
    jsonLoads_raises.mono fun _ e => e ▸ trivial
  have sub (key v) : OnlyRaises PyError.IsLookup (subscript key v) := by
    unfold subscript
    split
    · split <;> simp
    · split <;> simp
    · simp
  have pop (v) : OnlyRaises PyError.IsLookup (popBindingKeys v) := by
    unfold popBindingKeys
    split <;> simp
  have select (keys v) : OnlyRaises PyError.IsLookup (selectKeys keys v) := by
    unfold selectKeys
    split
    · simp
    · simp
    · split <;> simp
  have because (trace gaps step) :
      OnlyRaises PyError.IsLookup (becauseProjection step trace gaps) := by
    simp [becauseProjection, loads, sub]
  have fact (step) : OnlyRaises PyError.IsLookup (factProjection step) := by
    simp only [factProjection, onlyRaises_bind, loads, true_and]
    intro v _
    split
    · simp [pop]
    · simp [select]
  unfold projection
  split
  · simp [because]
  · simp [fact]

/-- The comparison raises nothing but a failed lookup. -/
lemma changedFactIds_raises {trace gaps s} :
    OnlyRaises PyError.IsLookup (changedFactIds trace gaps s) := by
  unfold changedFactIds
  split
  · trivial
  · simp [projections, onlyRaises_mapAll, projection_raises]

/-! ### Texts that are read back -/

/-- The value is read back by `json.loads`. -/
def Loads (j : Json) : Prop := ∃ v, loadValue j = .ok v

/-- The members of an object are read back. -/
def MembersLoad (ms : List (String × Json)) : Prop := ∀ m ∈ ms, Loads m.2

section
variable {l : List Json} {ms ms' : List (String × Json)}

@[simp] lemma membersLoad_nil : MembersLoad [] := by simp [MembersLoad]

@[simp] lemma membersLoad_cons {k : String} {j : Json} :
    MembersLoad ((k, j) :: ms) ↔ Loads j ∧ MembersLoad ms := by
  simp only [MembersLoad, List.forall_mem_cons]

@[simp] lemma membersLoad_append :
    MembersLoad (ms ++ ms') ↔ MembersLoad ms ∧ MembersLoad ms' := by
  simp only [MembersLoad, List.forall_mem_append]

/-- The elements load exactly where each of them does. -/
lemma loads_elems : (∃ vs, loadElems l = .ok vs) ↔ ∀ j ∈ l, Loads j := by
  induction l with
  | nil => simp [loadElems]
  | cons j l ih =>
    rw [List.forall_mem_cons, ← ih]
    simp only [loadElems, bind_eq_ok, pure_eq_ok, Except.ok.injEq, Loads]
    constructor
    · rintro ⟨_, v, hv, vs, hvs, -⟩
      exact ⟨⟨v, hv⟩, vs, hvs⟩
    · rintro ⟨⟨v, hv⟩, vs, hvs⟩
      exact ⟨_, v, hv, vs, hvs, rfl⟩

/-- The members load exactly where each of them does. -/
lemma loads_members : (∃ vs, loadMembers ms = .ok vs) ↔ MembersLoad ms := by
  induction ms with
  | nil => simp [loadMembers]
  | cons m ms ih =>
    obtain ⟨k, j⟩ := m
    rw [membersLoad_cons, ← ih]
    simp only [loadMembers, bind_eq_ok, pure_eq_ok, Except.ok.injEq, Loads]
    constructor
    · rintro ⟨_, v, hv, vs, hvs, -⟩
      exact ⟨⟨v, hv⟩, vs, hvs⟩
    · rintro ⟨⟨v, hv⟩, vs, hvs⟩
      exact ⟨_, v, hv, vs, hvs, rfl⟩

@[simp] lemma loads_null : Loads .null := ⟨_, rfl⟩
@[simp] lemma loads_bool {b : Bool} : Loads (.bool b) := ⟨_, rfl⟩
@[simp] lemma loads_str {s : String} : Loads (.str s) := ⟨_, rfl⟩

@[simp] lemma loads_int {i : Int} : Loads (.int i) ↔ (natChars i.natAbs).length ≤ maxIntDigits := by
  simp only [Loads, Json.int, Number.ofInt, loadValue, loadNumber, and_self, if_true]
  split
  · rename_i h
    simp [h]
  · rename_i h
    simp [not_lt.mp h]

@[simp] lemma loads_arr : Loads (.arr l) ↔ ∀ j ∈ l, Loads j := by
  rw [← loads_elems]
  simp only [Loads, loadValue, bind_eq_ok, pure_eq_ok, Except.ok.injEq]
  constructor
  · rintro ⟨_, vs, h, -⟩
    exact ⟨vs, h⟩
  · rintro ⟨vs, h⟩
    exact ⟨_, vs, h, rfl⟩

@[simp] lemma loads_obj : Loads (.obj ms) ↔ MembersLoad ms := by
  rw [← loads_members]
  simp only [Loads, loadValue, bind_eq_ok, pure_eq_ok, Except.ok.injEq]
  constructor
  · rintro ⟨_, vs, h, -⟩
    exact ⟨vs, h⟩
  · rintro ⟨vs, h⟩
    exact ⟨_, vs, h, rfl⟩

@[simp] lemma loads_strs {l : List String} : Loads (jsonStrs l) := by simp [jsonStrs]

@[simp] lemma loads_opt {o : Option String} : Loads (jsonOpt o) := by cases o <;> simp [jsonOpt]

end

mutual

/-- Ordering the keys does not change whether a value is read back. -/
lemma loads_sortKeys : ∀ j : Json, Loads j.sortKeys ↔ Loads j
  | .null | .bool _ | .constant _ | .num _ | .str _ => by simp [Json.sortKeys]
  | .arr l => by simp [Json.sortKeys, loads_sortElems l]
  | .obj l => by
    have h : MembersLoad (sortedBy Prod.fst (sortMembers l)) ↔ MembersLoad (sortMembers l) := by
      simp only [MembersLoad, mem_sortedBy]
    rw [Json.sortKeys, loads_obj, loads_obj, h, loads_sortMembers l]

/-- Sorted elements load exactly where the elements do. -/
lemma loads_sortElems : ∀ l, (∀ j ∈ sortElems l, Loads j) ↔ ∀ j ∈ l, Loads j
  | [] => by simp [sortElems]
  | j :: l => by
    rw [sortElems, List.forall_mem_cons, List.forall_mem_cons, loads_sortKeys j, loads_sortElems l]

/-- Sorted members load exactly where the members do. -/
lemma loads_sortMembers : ∀ l, MembersLoad (sortMembers l) ↔ MembersLoad l
  | [] => by simp [sortMembers]
  | (k, j) :: l => by
    rw [sortMembers, membersLoad_cons, membersLoad_cons, loads_sortKeys j, loads_sortMembers l]

end

mutual

/-- A tidy value is read back. -/
lemma Tidy.loads : ∀ {j : Json}, Tidy j → Loads j
  | .null, _ => loads_null
  | .bool _, _ => loads_bool
  | .str _, _ => loads_str
  | .constant _, h => absurd (h _ (Json.mem_parts _)) not_false
  | .num n, h => by
    have render : renderNumber n = .ok n.print := h _ (Json.mem_parts _)
    obtain ⟨v, hv, -⟩ := bind_eq_ok.mp render
    exact ⟨v, hv⟩
  | .arr _, h => loads_arr.mpr (tidyElems_load (tidy_arr.mp h))
  | .obj _, h => loads_obj.mpr (tidyMembers_load (tidy_obj.mp h).2)

/-- Tidy elements load. -/
lemma tidyElems_load : ∀ {l : List Json}, (∀ j ∈ l, Tidy j) → ∀ j ∈ l, Loads j
  | [], _ => fun _ h => absurd h List.not_mem_nil
  | j :: l, h => by
    rw [List.forall_mem_cons] at h ⊢
    exact ⟨h.1.loads, tidyElems_load h.2⟩

/-- Tidy members load. -/
lemma tidyMembers_load : ∀ {ms : List (String × Json)}, MembersTidy ms → MembersLoad ms
  | [], _ => membersLoad_nil
  | (_, j) :: ms, h => by
    rw [membersTidy_cons] at h
    exact membersLoad_cons.mpr ⟨h.1.loads, tidyMembers_load h.2⟩

end

/-- Reading a written value. -/
lemma jsonLoads_dumps {j : Json} : jsonLoads j.dumps = loadValue j.sortKeys :=
  jsonLoads_parse j.parse_dumps

/-- A written object is read back exactly when its members are, and as a mapping. -/
lemma jsonLoads_obj {ms : List (String × Json)} :
    (∃ v, jsonLoads (Json.obj ms).dumps = .ok v) ↔ MembersLoad ms := by
  rw [← loads_obj, ← loads_sortKeys, jsonLoads_dumps, Loads]

/-- The text of an object whose members load is read as a dictionary. -/
lemma jsonLoads_dict {ms : List (String × Json)} (h : MembersLoad ms) :
    ∃ vs, jsonLoads (Json.obj ms).dumps = .ok (.dict vs) := by
  obtain ⟨v, hv⟩ := jsonLoads_obj.mpr h
  have hd := hv
  simp only [jsonLoads_dumps, Json.sortKeys, loadValue, bind_eq_ok, pure_eq_ok,
    Except.ok.injEq] at hd
  obtain ⟨vs, -, rfl⟩ := hd
  exact ⟨_, hv⟩

end GAM
