import GAM.Governance.Changes

/-!
# The evaluator

`evaluateProposal` with its reducer R1 to R4, the trace it builds and the handler that turns
exceptions into BLOCKED results.
-/

namespace GAM
open Lib

/-- Python `_predicate_rule_id`. -/
def predicateRuleId (predicate : String) : Except PyError String :=
  match predicate.toList.take 3 with
  | ['F', '0', '2'] => .ok F02
  | ['F', '0', '3'] => .ok F03
  | ['F', '0', '4'] => .ok F04
  | ['F', '0', '5'] => .ok F05
  | ['F', '0', '6'] => .ok F06
  | ['F', '0', '7'] => .ok F07
  | ['F', '0', '8'] => .ok F08
  | ['F', '0', '9'] => .ok F09
  | ['F', '1', '0'] => .ok F10
  | cs => .error (.keyError (String.ofList cs))

/-- Whether a text starts with a prefix. -/
def hasPrefix (start text : String) : Bool := start.toList.isPrefixOf text.toList

/-- What the reducer decides. -/
structure Reduction where
  reducerId : String
  verdict : Verdict
  risk : Risk
  gaps : List EvidenceGap
  decisiveRules : List String

section
variable [Platform]

/-- Every required capability is TRUE; a missing one raises. -/
def capabilitiesTrue (s : EvaluationSnapshot) : List String → Except PyError Bool
  | [] => .ok true
  | id :: ids =>
    match capabilityState s id with
    | none => .error (.keyError id)
    | some .true => capabilitiesTrue s ids
    | some _ => .ok false

/-- The conditions of the R4 branch before the capabilities. -/
def yesConditions (s : EvaluationSnapshot) (c : RuleConfig) : Bool :=
  !(allowRules s).isEmpty && !(approvedPrecedents s c).isEmpty &&
    (requirements s).all (satisfied s) &&
    (!consequenceRequired s c ||
      (approvedPrecedents s c).all fun p => !p.consequenceRefs.isEmpty) &&
    (approvedPrecedents s c).all fun p => p.consequenceRefs.all fun r =>
      r.divergence.lt c.divergenceThreshold

/-- The condition of the R4 branch, evaluated from left to right. -/
def yesBranch (s : EvaluationSnapshot) (c : RuleConfig) : Except PyError Bool :=
  if yesConditions s c then do
    let capabilities ← capabilitiesTrue s (requiredCapabilityIds s)
    return capabilities && (sortedDependencies s).all fun d => d.state == .true
  else .ok false

/-- The reducer: R1 before R2 before R3 before R4. -/
def reduceFindings (s : EvaluationSnapshot) (c : RuleConfig) (f : Findings) :
    Except PyError Reduction :=
  if f.rawR1 ≠ [] then do
    let rules ← mapAll predicateRuleId f.rawR1
    return ⟨"R1_NO", .no, .high, [], f.decisiveRules ++ rules⟩
  else if f.rawR2 ≠ [] then do
    let risk := if f.rawR2.any (hasPrefix "F08_HIGH") then Risk.high else Risk.medium
    let gaps := sortedBy EvidenceGap.gapId f.candidateGaps.dedup
    let rules ← mapAll predicateRuleId f.rawR2
    return ⟨"R2_MAYBE", .maybe, risk, gaps,
      f.decisiveRules ++ gaps.map EvidenceGap.resolutionRuleId ++ rules⟩
  else if f.rawR3 ≠ [] then
    .ok ⟨"R3_IFF", .iff, .medium, [], f.decisiveRules ++ [F10]⟩
  else do
    let yes ← yesBranch s c
    if yes then
      return ⟨"R4_YES", .yes, .low, [],
        f.decisiveRules ++ [F02, F04, F05, F06, F07] ++
          (if approvedPrecedents s c ≠ [] then [F08] else []) ++
          (if requiredCapabilityIds s ≠ [] then [F09] else []) ++
          (if sortedDependencies s ≠ [] then [F10] else [])⟩
    else stop "REDUCER_NON_TOTAL" "validated inputs reached no reducer branch"

/-- Python `_build_operator_steps`, from an ordinal on. -/
def buildOperatorSteps (evaluationId : String) :
    Nat → List FactStep → Except PyError (List OperatorTraceStep)
  | _, [] => .ok []
  | ordinal, item :: items => do
    let stepId ← makeStepId evaluationId ordinal item.ruleId
    let steps ← buildOperatorSteps evaluationId (ordinal + 1) items
    return {
      stepId := stepId
      ruleId := item.ruleId
      family := item.family
      pole := item.pole
      subjectRef := item.subjectRef
      objectRefs := item.objectRefs
      resultJson := item.result.dumps
      evidenceRefs := sortedBy EvidenceRef.refId item.evidenceRefs } :: steps

/-- The reducer step. -/
def reducerStep (stepId : String) (r : Reduction) (decisive : List String) : ReducerTraceStep where
  stepId := stepId
  ruleId := r.reducerId
  family := .everySome
  pole := if r.reducerId = "R4_YES" then "EVERY" else "SOME"
  decisiveFactStepIds := decisive
  resultJson := (Json.obj
    [("verdict", .str r.verdict.name), ("risk", .str r.risk.value),
      ("decisive_fact_step_ids", jsonStrs decisive)]).dumps

/-- The terminal BECAUSE step. -/
def becauseStep (s : EvaluationSnapshot) (stepId reducerStepId : String) (r : Reduction)
    (decisive : List String) : OperatorTraceStep where
  stepId := stepId
  ruleId := F12
  family := .because
  pole := "BECAUSE"
  subjectRef := s.proposal.proposalId
  objectRefs := reducerStepId :: (decisive ++ r.gaps.map EvidenceGap.gapId ++
    ((sortedDependencies s).filter fun d => d.state == .unresolved).map DependencyRef.dependencyId)
  resultJson := (Json.obj [("verdict", .str r.verdict.name), ("risk", .str r.risk.value)]).dumps
  evidenceRefs := []

/-- The trace of a finalized evaluation, and its terminal step. -/
structure BuiltTrace where
  facts : List OperatorTraceStep
  reducer : ReducerTraceStep
  because : OperatorTraceStep

/-- The steps in order. -/
def BuiltTrace.steps (t : BuiltTrace) : List TraceStep :=
  t.facts.map .operator ++ [.reducer t.reducer, .operator t.because]

/-- The trace of the facts and the reduction. -/
def buildTrace (s : EvaluationSnapshot) (f : Findings) (r : Reduction) :
    Except PyError BuiltTrace := do
  let facts ← buildOperatorSteps s.evaluationId 1 f.descriptors
  let decisive :=
    (facts.filter fun step => step.ruleId ∈ r.decisiveRules).map OperatorTraceStep.stepId
  let reducerId ← makeStepId s.evaluationId (facts.length + 1) r.reducerId
  let becauseId ← makeStepId s.evaluationId (facts.length + 2) F12
  return ⟨facts, reducerStep reducerId r decisive, becauseStep s becauseId reducerId r decisive⟩

/-- The result before its digest. -/
def provisionalResult (s : EvaluationSnapshot) (c : RuleConfig) (priorId : Option String)
    (r : Reduction) (t : BuiltTrace) (changed : List String) : CheckResult where
  verdict := r.verdict
  risk := r.risk
  operatorTrace := t.steps
  evidenceGaps := r.gaps
  dependencies := sortedDependencies s
  precedentRefs := (sortedPrecedents s.precedents).map PrecedentRef.proposalId
  consequenceWarningRefs := sortedBy id (consequenceWarnings s c)
  becauseStepId := t.because.stepId
  evaluationId := s.evaluationId
  profileVersion := s.profileVersion
  priorEvaluationId := priorId
  changedFactRuleIds := changed
  evaluatorVersion := c.evaluatorVersion
  ruleConfigDigest := c.ruleConfigDigest
  inputSnapshotDigest := s.snapshotDigest
  policyDigest := s.policy.policyDigest
  traceDigest := zeroDigest

/-- `evaluate_proposal` on an admitted snapshot. -/
def evaluateAdmitted (s : EvaluationSnapshot) (c : RuleConfig) (priorId : Option String) :
    Except PyError CheckResult := do
  let f ← collectFindings s c priorId
  let r ← reduceFindings s c f
  ensure (f.descriptors.length + 2 ≤ 99)
    (.blocked "TRACE_LIMIT_EXCEEDED" "sparse trace exceeds 99 steps")
  let t ← buildTrace s f r
  let changed ← changedFactIds t.steps r.gaps s
  let provisional := provisionalResult s c priorId r t changed
  let digest ← checkResultDigest provisional
  return { provisional with traceDigest := digest }

/-- `value or default`. -/
def orElse (value default : String) : String := if value = "" then default else value

/-- Python `_safe_digest`. -/
def safeDigest (value : String) : String := if isHex64 value then value else zeroDigest

/-- Python `_blocked_result`. -/
def blockedResult (s : EvaluationSnapshot) (c : RuleConfig) (code message : String)
    (priorId : Option String) : Except PyError BlockedResult := do
  let evaluationId := orElse s.evaluationId "blocked-evaluation"
  let stepId ← makeStepId evaluationId 1 F01
  let partialStep : OperatorTraceStep :=
    { stepId := stepId
      ruleId := F01
      family := .this
      pole := "THIS"
      subjectRef := orElse s.proposal.proposalId "unbound-proposal"
      objectRefs := []
      resultJson := (Json.obj [("blocked_before_finalization", .bool true)]).dumps
      evidenceRefs := [] }
  finalizeBlockedResult
    { evaluationId := evaluationId
      profileVersion := none
      priorEvaluationId := priorId
      changedFactRuleIds := []
      errorCode := code
      safeMessage := message
      operatorTrace := [partialStep]
      evidenceGaps := []
      dependencies := []
      evaluatorVersion := orElse c.evaluatorVersion "gam-gate/1.1"
      ruleConfigDigest := safeDigest c.ruleConfigDigest
      inputSnapshotDigest := safeDigest s.snapshotDigest
      policyDigest := safeDigest s.policy.policyDigest
      traceDigest := zeroDigest }

/-- The handlers of `evaluate_proposal`: a stop becomes a BLOCKED result with its code, a
`ValueError`, `TypeError` or `KeyError` one with the internal code, and the rest is raised on. -/
def handle (s : EvaluationSnapshot) (c : RuleConfig) (priorId : Option String) :
    PyError → Except PyError EvaluationResult
  | .blocked code message => .blocked <$> blockedResult s c code message priorId
  | .attributeError => .error .attributeError
  | .arithmeticError => .error .arithmeticError
  | .executionBlocked message => .error (.executionBlocked message)
  | .cliBlocked message => .error (.cliBlocked message)
  | .sqlError sqlstate => .error (.sqlError sqlstate)
  | .contractViolation _ | .integrity _ | .conflict _ | .embedding _ | .valueError | .typeError
  | .keyError _ =>
    .blocked <$> blockedResult s c "INTERNAL_EVALUATOR_ERROR"
      "deterministic evaluator rejected malformed input" priorId

/-- `evaluate_proposal` on a snapshot in canonical order. -/
def evaluateCanonical (s : EvaluationSnapshot) (c : RuleConfig) :
    Except PyError EvaluationResult :=
  match admission s c with
  | .error e => handle s c none e
  | .ok priorId =>
    match evaluateAdmitted s c priorId with
    | .error e => handle s c priorId e
    | .ok r => .ok (.check r)

/-- Python `evaluate_proposal`. -/
def evaluateProposal (s : EvaluationSnapshot) (c : RuleConfig) : Except PyError EvaluationResult :=
  evaluateCanonical (canonicalSnapshot s) c

end

end GAM
