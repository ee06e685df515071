import GAM.Memory.Access
import GAM.Traces.DecimalJson

/-!
# Decoding stored records

The decoders of `memory.py`. JSONB columns arrive as text or as loaded values; `_dump` writes
records generically, and each decoder reads its record field by field in the order of the source,
so that the first missing or malformed field decides which exception is raised.
-/

namespace GAM
open Lib

section
variable [Platform]

/-- Python `MemoryIntegrityError`, raised. -/
def corrupt {α : Type} (message : String) : Except PyError α := .error (.integrity message)

/-- Python `_dump`. -/
def dump (v : Value) : Except PyError String := canonicalJson v

/-- Python `_loaded`. -/
def loaded : Value → Except PyError Value
  | .str text => jsonLoads text
  | v => .ok v

/-- The hooks of `json.loads(.., parse_float=Decimal, parse_int=Decimal)`; `invalid` is raised for a
text that is no JSON. -/
def decimalHooks (invalid : PyError) : Hooks PyError Value :=
  { defaultHooks with invalid, number := decimalNumber }

mutual

/-- What these hooks make of a tree whose numbers the constructor takes. -/
def loadDecimal : Json → Value
  | .null => .none
  | .bool b => .bool b
  | .constant .nan => .float .nan
  | .constant .infinity => .float (.infinity false)
  | .constant .negInfinity => .float (.infinity true)
  | .num n => .decimal (.ofNumber n)
  | .str s => .str s
  | .arr l => .list (loadDecimals l)
  | .obj l => .dict (lastWins (loadDecimalMembers l))

/-- The items of an array. -/
def loadDecimals : List Json → List Value
  | [] => []
  | j :: l => loadDecimal j :: loadDecimals l

/-- The members of an object. -/
def loadDecimalMembers : List (String × Json) → List (String × Value)
  | [] => []
  | (k, j) :: l => (k, loadDecimal j) :: loadDecimalMembers l

end

/-- The plain text of a decimal; a normalization that overflows raises. -/
def plainDecimal (d : Decimal) : Except PyError (List Char) :=
  match d.canonicalChars with
  | some cs => .ok cs
  | none => .error .arithmeticError

/-- The members of an object in the order of their keys, each evaluated when it is reached. -/
def plainMembers (ms : List (String × Except PyError (List Char))) :
    Except PyError (List (List Char)) :=
  mapAll (fun m : String × Except PyError (List Char) => do
    let text ← m.2
    return stringChars m.1 ++ ':' :: text) (sortedBy Prod.fst ms)

mutual

/-- Python `_plain_json_value`. -/
def plainJsonValue : Value → Except PyError (List Char)
  | .none => .ok ['n', 'u', 'l', 'l']
  | .bool true => .ok ['t', 'r', 'u', 'e']
  | .bool false => .ok ['f', 'a', 'l', 's', 'e']
  | .str s => .ok (stringChars s)
  | .int i => .ok (intChars i)
  | .decimal d => if d.isFinite then plainDecimal d else corrupt "stored JSON number is non-finite"
  | .float f => if f.isFinite then .ok f.repr else corrupt "stored JSON number is non-finite"
  | .list l => do
    let xs ← plainElems l
    return commaSeparated '[' ']' xs
  | .tuple l => do
    let xs ← plainElems l
    return commaSeparated '[' ']' xs
  | .dict l => do
    let xs ← plainMembers (plainMemberTexts l)
    return commaSeparated '\x7b' '\x7d' xs
  -- no column and no digest takes a lone surrogate: the exception that follows is raised here
  | .points _ | .textDict _ => .error .valueError
  | _ => corrupt "stored JSON value is invalid"

/-- The items of a list. -/
def plainElems : List Value → Except PyError (List (List Char))
  | [] => .ok []
  | v :: l => do
    let x ← plainJsonValue v
    let xs ← plainElems l
    return x :: xs

/-- The keys of a mapping with the texts of their values. -/
def plainMemberTexts : List (String × Value) → List (String × Except PyError (List Char))
  | [] => []
  | (k, v) :: l => (k, plainJsonValue v) :: plainMemberTexts l

end

/-- Python `_plain_json`. -/
def plainJson (v : Value) : Except PyError String := do
  let value ← match v with
    | .str text => (decimalHooks (.integrity "stored JSON is invalid")).scan text
    | v => .ok v
  let cs ← plainJsonValue value
  return String.ofList cs

/-- An enumeration as the decoder sees it: names, values and members. -/
structure EnumType (α : Type) where
  members : List (String × Value × α)

/-- The member of a name. -/
def EnumType.byName {α : Type} (type : EnumType α) (name : String) : Option α :=
  (type.members.lookup name).map Prod.snd

/-- The member of a value. -/
def EnumType.byValue {α : Type} (type : EnumType α) (v : Value) : Option α :=
  (type.members.find? fun m => valueEq v m.2.1).map fun m => m.2.2

/-- `enum_type[name]`. -/
def EnumType.subscript {α : Type} (type : EnumType α) : Value → Except PyError α
  | .str name =>
    match type.byName name with
    | some a => .ok a
    | none => .error (.keyError name)
  | .list _ | .dict _ | .textDict _ => .error .typeError
  | v => .error (.keyError (pyStr v))

/-- The end of `_enum`, on a raw value. -/
def enumOfRaw {α : Type} (type : EnumType α) (raw : Value) : Except PyError α := do
  let tagged := match raw with
    | .dict l => (l.map Prod.fst).contains "$enum"
    | .textDict l => (l.map Prod.fst).contains (textOf "$enum")
    | _ => false
  if tagged then
    let member ← subscript "member" raw
    type.subscript member
  else
    let named := match raw with
      | .str name => type.byName name
      | _ => none
    match named with
    | some a => .ok a
    | none =>
      match type.byValue raw with
      | some a => .ok a
      | none => corrupt "stored enum member is invalid"

/-- The hooks of `_enum`. -/
def enumHooks : Hooks PyError Value :=
  { defaultHooks with invalid := .integrity "stored enum member is invalid" }

/-- Python `_enum`. -/
def enumOf {α : Type} (type : EnumType α) : Value → Except PyError α
  | .str text =>
    match type.byName text with
    | some a => .ok a
    | none => do
      let raw ← enumHooks.scan text
      enumOfRaw type raw
  | raw => enumOfRaw type raw

end

/-- The enumeration of the verdicts. -/
def verdictType : EnumType Verdict :=
  ⟨[("NO", .int 0, .no), ("YES", .int 1, .yes), ("MAYBE", .int 2, .maybe), ("IFF", .int 3, .iff)]⟩

/-- An enumeration whose members list their names and text values. -/
def textType {α : Type} (name value : α → String) (members : List α) : EnumType α :=
  ⟨members.map fun a => (name a, .str (value a), a)⟩

/-- The enumeration of the risks. -/
def riskType : EnumType Risk := textType Risk.name Risk.value [.low, .medium, .high]

/-- The enumeration of the witnesses. -/
def witnessType : EnumType Witness :=
  textType Witness.name Witness.value [.what, .place, .which, .when, .forWhat, .how, .whence]

/-- The enumeration of the operator families. -/
def operatorFamilyType : EnumType OperatorFamily :=
  textType OperatorFamily.name OperatorFamily.value
    [.this, .sameNotSame, .ifThen, .because, .insideOutside, .nearFar, .canCannot, .togetherAlone,
      .moreLess, .everySome]

/-- The enumeration of the states of a dependency. -/
def dependencyStateType : EnumType DependencyState :=
  textType DependencyState.name DependencyState.value [.true, .false, .unresolved]

/-- The enumeration of the decisions. -/
def decisionValueType : EnumType DecisionValue :=
  textType DecisionValue.name DecisionValue.value [.approve, .reject, .modify]

/-- The enumeration of the policy effects. -/
def policyEffectType : EnumType PolicyEffect :=
  textType PolicyEffect.name PolicyEffect.value [.allow, .deny]

section
variable [Platform]

/-- `str(raw[key])`. -/
def textField (key : String) (raw : Value) : Except PyError String := do
  let v ← subscript key raw
  return pyStr v

/-- `str(raw[key]) if raw.get(key) is not None else None`. -/
def optTextField (key : String) (raw : Value) : Except PyError (Option String) := do
  match ← getKey key raw with
  | .none => return none
  | _ =>
    let text ← textField key raw
    return some text

/-- `_enum(raw[key], type)`. -/
def enumField {α : Type} (type : EnumType α) (key : String) (raw : Value) : Except PyError α := do
  let v ← subscript key raw
  enumOf type v

/-- `bool(raw[key])`. -/
def boolField (key : String) (raw : Value) : Except PyError Bool := do
  let v ← subscript key raw
  return truthy v

/-- Python `_tuple`. -/
def tupleOf (v : Value) : Except PyError (List Value) := do
  match ← loaded v with
  | .list l => return l
  | _ => corrupt "stored array is invalid"

/-- `tuple(decode(item) for item in _tuple(raw[key]))`. -/
def listField {α : Type} (decode : Value → Except PyError α) (key : String) (raw : Value) :
    Except PyError (List α) := do
  let v ← subscript key raw
  let items ← tupleOf v
  mapAll decode items

/-- `tuple(str(item) for item in _tuple(raw[key]))`. -/
def textsField (key : String) (raw : Value) : Except PyError (List String) :=
  listField (fun v => .ok (pyStr v)) key raw

/-- Python `_evidence`. -/
def evidenceOf (raw : Value) : Except PyError EvidenceRef := do
  return { refId := ← textField "ref_id" raw, kind := ← textField "kind" raw,
           digest := ← textField "digest" raw }

/-- Python `_gap` of `memory.py`. -/
def gapOf (raw : Value) : Except PyError EvidenceGap := do
  return { gapId := ← textField "gap_id" raw, witness := ← enumField witnessType "witness" raw,
           subjectRef := ← textField "subject_ref" raw, question := ← textField "question" raw,
           needed := ← textField "needed" raw,
           resolutionRuleId := ← textField "resolution_rule_id" raw }

/-- Python `_dependency`. -/
def dependencyOf (raw : Value) : Except PyError DependencyRef := do
  return { dependencyId := ← textField "dependency_id" raw,
           subjectRef := ← textField "subject_ref" raw, predicate := ← textField "predicate" raw,
           expectedJson := ← textField "expected_json" raw,
           observedJson := ← optTextField "observed_json" raw,
           state := ← enumField dependencyStateType "state" raw,
           snapshotDigest := ← textField "snapshot_digest" raw,
           evidenceRefs := ← listField evidenceOf "evidence_refs" raw,
           necessaryForYes := ← boolField "necessary_for_yes" raw,
           sufficientIfTrue := ← boolField "sufficient_if_true" raw }

/-- Python `_trace_step`. -/
def traceStepOf (raw : Value) : Except PyError TraceStep := do
  if ← containsKey "decisive_fact_step_ids" raw then
    return .reducer
      { stepId := ← textField "step_id" raw, ruleId := ← textField "rule_id" raw,
        family := ← enumField operatorFamilyType "family" raw, pole := ← textField "pole" raw,
        decisiveFactStepIds := ← textsField "decisive_fact_step_ids" raw,
        resultJson := ← textField "result_json" raw }
  else
    return .operator
      { stepId := ← textField "step_id" raw, ruleId := ← textField "rule_id" raw,
        family := ← enumField operatorFamilyType "family" raw, pole := ← textField "pole" raw,
        subjectRef := ← textField "subject_ref" raw, objectRefs := ← textsField "object_refs" raw,
        resultJson := ← textField "result_json" raw,
        evidenceRefs := ← listField evidenceOf "evidence_refs" raw }

/-- A requirement, as `_policy_rule` reads it. -/
def requirementOf (raw : Value) : Except PyError EvidenceRequirement := do
  return { requirementId := ← textField "requirement_id" raw, kind := ← textField "kind" raw,
           witness := ← enumField witnessType "witness" raw,
           subjectRef := ← textField "subject_ref" raw,
           resolutionRuleId := ← textField "resolution_rule_id" raw }

/-- Python `_policy_rule`. -/
def policyRuleOf (raw : Value) : Except PyError PolicyRule := do
  let requirements ← listField requirementOf "required_evidence" raw
  return { ruleId := ← textField "rule_id" raw,
           actionTypeKey := ← textField "action_type_key" raw,
           targetKey := ← optTextField "target_key" raw,
           effect := ← enumField policyEffectType "effect" raw,
           because := ← textField "because" raw, requiredEvidence := requirements,
           requiredCapabilityIds := ← textsField "required_capability_ids" raw,
           requireConsequence := ← boolField "require_consequence" raw }

/-- Python `_float`. -/
def floatOf (v : Value) : Except PyError Binary64 := do
  let raw ← loaded v
  let raw ← match raw with
    | .dict l => if (l.map Prod.fst).contains "$float" then subscript "$float" raw else .ok raw
    | raw => .ok raw
  let result ← pyFloat raw
  if result.isFinite then return result else corrupt "stored float is non-finite"

/-- A number that is no `bool`. -/
def isNumber : Value → Bool
  | .int _ | .float _ => true
  | _ => false

/-- One round of the loop of `normalize_embedding_vector`. -/
def normalizeComponent (v : Value) : Except PyError Binary64 := do
  ensure (isNumber v = true) (.embedding "embedding response contains an invalid value")
  let candidate ← pyFloat v
  match candidate.toSingle with
  | some persisted => .ok persisted
  | none => .error (.embedding "embedding response contains an invalid value")

/-- Python `normalize_embedding_vector`. -/
def normalizeResponse (vector : List Value) : Except PyError (List Binary64) := do
  ensure (vector.length = pinnedEmbeddingDimensions)
    (.embedding "embedding response dimensions mismatch")
  mapAll normalizeComponent vector

/-- Python `normalize_embedding_vector` on floats. -/
def normalizeEmbeddingVector (vector : List Binary64) : Except PyError (List Binary64) :=
  normalizeResponse (vector.map .float)

omit [Platform] in
lemma normalizeComponent_float {x y : Binary64} :
    normalizeComponent (.float x) = .ok y ↔ x.toSingle = some y := by
  have number : isNumber (.float x) = true := rfl
  rw [normalizeComponent, ensure_pos number, ok_bind, pyFloat, ok_bind]
  cases x.toSingle with
  | none => simp
  | some z => simp

omit [Platform] in
/-- A vector of floats is rounded to single precision, component by component. -/
lemma normalizeEmbeddingVector_ok {vector l : List Binary64} : normalizeEmbeddingVector vector = .ok l ↔
    vector.length = pinnedEmbeddingDimensions ∧ List.Forall₂ (fun x y => x.toSingle = some y) vector l := by
  simp only [normalizeEmbeddingVector, normalizeResponse, bind_eq_ok, exists_unit, ensure_eq_ok,
    List.length_map, mapAll_eq_ok, List.forall₂_map_left_iff, normalizeComponent_float]

/-- The items a value yields when it is iterated; a mapping yields its keys. -/
def iterate : Value → Except PyError (List Value)
  | .list l | .tuple l => .ok l
  | .dict l => .ok (l.map fun m => .str m.1)
  | .str s => .ok (s.toList.map fun c => .str (String.ofList [c]))
  | _ => .error .typeError

/-- `_enum(raw[key], type) if raw.get(key) is not None else None`. -/
def optEnumField {α : Type} (type : EnumType α) (key : String) (raw : Value) :
    Except PyError (Option α) := do
  match ← getKey key raw with
  | .none => return none
  | _ =>
    let a ← enumField type key raw
    return some a

/-- `_plain_json(raw[key])`. -/
def plainField (key : String) (raw : Value) : Except PyError String := do
  let v ← subscript key raw
  plainJson v

/-- The embedding column, loaded once more when it is a JSON text in a JSON text. -/
def embeddingOf (raw : Value) : Except PyError Value := do
  let v ← subscript "embedding" raw
  let v ← loaded v
  match v with
  | .str text => jsonLoads text
  | v => return v

/-- Python `_proposal_from_mapping`. -/
def proposalFromMapping (raw : Value) : Except PyError Proposal := do
  let embeddingRaw ← embeddingOf raw
  let default ← getKey "id" raw
  let proposalId ← getKeyOr "proposal_id" default raw
  return { proposalId := pyStr proposalId,
           parentProposalId := ← optTextField "parent_proposal_id" raw,
           sourceModifyDecisionId := ← optTextField "source_modify_decision_id" raw,
           sourceModifyDecisionValue :=
            ← optEnumField decisionValueType "source_modify_decision_value" raw,
           agentId := ← textField "agent_id" raw, sessionId := ← textField "session_id" raw,
           actionType := ← textField "action_type" raw,
           actionTypeKey := ← textField "action_type_key" raw,
           target := ← textField "target" raw, targetKey := ← textField "target_key" raw,
           reasoning := ← textField "reasoning" raw, purpose := ← textField "purpose" raw,
           parametersJson := ← plainField "parameters" raw,
           impactAssessmentJson := ← plainField "impact_assessment" raw,
           predictedOutcomeJson := ← plainField "predicted_outcome" raw,
           evidenceRefs := ← listField evidenceOf "evidence" raw,
           dependencies := ← listField dependencyOf "dependencies" raw,
           embedding := ← (do
            let items ← iterate embeddingRaw
            let floats ← mapAll floatOf items
            normalizeEmbeddingVector floats),
           embeddingModel := ← textField "embedding_model" raw,
           embeddingInputDigest := ← textField "embedding_input_digest" raw,
           actionDigest := ← textField "action_digest" raw,
           proposalDigest := ← textField "proposal_digest" raw }

/-- Python `_prior` of `memory.py`. -/
def priorOf (raw : Value) : Except PyError PriorEvaluationTrace := do
  return { evaluationId := ← textField "evaluation_id" raw,
           proposalId := ← textField "proposal_id" raw,
           verdict := ← enumField verdictType "verdict" raw,
           risk := ← enumField riskType "risk" raw,
           operatorTrace := ← listField traceStepOf "operator_trace" raw,
           evidenceGaps := ← listField gapOf "evidence_gaps" raw,
           dependencies := ← listField dependencyOf "dependencies" raw,
           precedentRefs := ← textsField "precedent_refs" raw,
           consequenceWarningRefs := ← textsField "consequence_warning_refs" raw,
           becauseStepId := ← textField "because_step_id" raw,
           profileVersion := ← optTextField "profile_version" raw,
           priorEvaluationId := ← optTextField "prior_evaluation_id" raw,
           changedFactRuleIds := ← textsField "changed_fact_rule_ids" raw,
           evaluatorVersion := ← textField "evaluator_version" raw,
           ruleConfigDigest := ← textField "rule_config_digest" raw,
           inputSnapshotDigest := ← textField "input_snapshot_digest" raw,
           policyDigest := ← textField "policy_digest" raw,
           traceDigest := ← textField "trace_digest" raw }

/-- A capability, as `_snapshot_from_json` reads it. -/
def capabilityOf (raw : Value) : Except PyError CapabilityFact := do
  return { capabilityId := ← textField "capability_id" raw,
           subjectRef := ← textField "subject_ref" raw,
           state := ← enumField dependencyStateType "state" raw,
           snapshotDigest := ← textField "snapshot_digest" raw,
           evidenceRefs := ← listField evidenceOf "evidence_refs" raw }

/-- The prior evaluation of a stored snapshot, when there is one. -/
def optPriorField (raw : Value) : Except PyError (Option PriorEvaluationTrace) := do
  match ← getKey "prior_evaluation" raw with
  | .none => return none
  | _ =>
    let v ← subscript "prior_evaluation" raw
    let prior ← priorOf v
    return some prior

/-- Python `_snapshot_from_json`. The precedents and exclusions of the stored snapshot are not
read. -/
def snapshotFromJson (value : Value) : Except PyError EvaluationSnapshot := do
  let raw ← loaded value
  let proposalRaw ← subscript "proposal" raw
  let proposal ← proposalFromMapping proposalRaw
  let policyRaw ← subscript "policy" raw
  let policy : PolicyInput ← (do
    return { policyVersion := ← textField "policy_version" policyRaw,
             policyDigest := ← textField "policy_digest" policyRaw,
             rules := ← listField policyRuleOf "rules" policyRaw })
  let capabilities ← listField capabilityOf "capabilities" raw
  return { evaluationId := ← textField "evaluation_id" raw,
           snapshotId := ← textField "snapshot_id" raw,
           profileVersion := ← optTextField "profile_version" raw,
           proposal := proposal, policy := policy, precedents := [], exclusions := [],
           capabilities := capabilities,
           dependencies := ← listField dependencyOf "dependencies" raw,
           priorEvaluation := ← optPriorField raw,
           capturedAt := ← textField "captured_at" raw,
           snapshotDigest := ← textField "snapshot_digest" raw }

/-- `text.partition(":")`: what is before the first colon and what is after it, if there is one. -/
def partitionColon (text : String) : Option (String × String) :=
  let cs := text.toList
  if ':' ∈ cs then
    some (String.ofList (cs.takeWhile (· ≠ ':')), String.ofList ((cs.dropWhile (· ≠ ':')).drop 1))
  else none

/-- The step of a BLOCKED trace; the decoder does not look at the kind of a step. -/
def operatorOf : TraceStep → Except PyError OperatorTraceStep
  | .operator step => .ok step
  | .reducer _ => reject "BLOCKED trace contains a reducer"

/-- Python `_result_from_row`. -/
def resultFromRow (row : Value) : Except PyError EvaluationResult := do
  let default ← getKey "id" row
  let id ← getKeyOr "evaluation_id" default row
  let evaluationId := pyStr id
  let profileVersion ← optTextField "profile_version" row
  let priorEvaluationId ← optTextField "prior_evaluation_id" row
  let changed ← textsField "changed_fact_rule_ids" row
  let trace ← listField traceStepOf "operator_trace" row
  let gaps ← listField gapOf "evidence_gaps" row
  let dependencies ← listField dependencyOf "dependencies" row
  let status ← textField "status" row
  if status = "BLOCKED" then
    let blockedReason ← textField "blocked_reason" row
    match partitionColon blockedReason with
    | none => corrupt "stored BLOCKED reason is malformed"
    | some (errorCode, safeMessage) =>
      ensure (errorCode ≠ "" ∧ safeMessage ≠ "")
        (.integrity "stored BLOCKED reason is malformed")
      let evaluatorVersion ← textField "evaluator_version" row
      let ruleConfigDigest ← textField "rule_config_digest" row
      let inputSnapshotDigest ← textField "input_snapshot_digest" row
      let policyDigest ← textField "policy_digest" row
      let traceDigest ← textField "trace_digest" row
      let steps ← mapAll operatorOf trace
      let blocked ← validateBlockedResult
        { evaluationId, profileVersion, priorEvaluationId, changedFactRuleIds := changed, errorCode,
          safeMessage, operatorTrace := steps, evidenceGaps := gaps, dependencies,
          evaluatorVersion, ruleConfigDigest, inputSnapshotDigest, policyDigest, traceDigest }
      return .blocked blocked
  else
    let verdict ← enumField verdictType "verdict" row
    let risk ← enumField riskType "risk" row
    let precedentRefs ← textsField "precedent_refs" row
    let consequenceWarningRefs ← textsField "consequence_warning_refs" row
    let becauseStepId ← textField "because_step_id" row
    let evaluatorVersion ← textField "evaluator_version" row
    let ruleConfigDigest ← textField "rule_config_digest" row
    let inputSnapshotDigest ← textField "input_snapshot_digest" row
    let policyDigest ← textField "policy_digest" row
    let traceDigest ← textField "trace_digest" row
    let checked ← validateCheckResult
      { verdict, risk, operatorTrace := trace, evidenceGaps := gaps, dependencies, precedentRefs,
        consequenceWarningRefs, becauseStepId, evaluationId, profileVersion, priorEvaluationId,
        changedFactRuleIds := changed, evaluatorVersion, ruleConfigDigest, inputSnapshotDigest,
        policyDigest, traceDigest }
    return .check checked

end

end GAM
