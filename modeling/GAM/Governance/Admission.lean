import GAM.Governance.Config

/-!
# Admission of a snapshot

The part of `evaluate_proposal` before the first fact: the snapshot is put into canonical order
(`canonicalSnapshot`), checked (`validateInput`) and its prior evaluation is bound (`bindPrior`).
A snapshot that `validateSnapshot` refuses is still admitted when it has a prior evaluation and
`validateSnapshotWithExactReducers` accepts it.
-/

namespace GAM
open Lib

section
variable [Platform]

/-- A precedent with its consequences in canonical order. -/
def canonicalPrecedent (p : PrecedentRef) : PrecedentRef :=
  { p with
    consequenceRefs :=
      sortedBy (fun item => toLex (item.receiptId, item.consequenceId)) p.consequenceRefs }

/-- Precedents in canonical order. -/
def sortedPrecedents (l : List PrecedentRef) : List PrecedentRef :=
  sortedBy (fun item => toLex (item.proposalId, item.evaluationId)) l

/-- Exclusions in canonical order. -/
def sortedExclusions (l : List ExclusionRef) : List ExclusionRef :=
  sortedBy (fun item => toLex (item.actionTypeKey, toLex (item.targetKey, item.exclusionId))) l

/-- Python `_canonical_snapshot`. -/
def canonicalSnapshot (s : EvaluationSnapshot) : EvaluationSnapshot :=
  { s with
    proposal :=
      { s.proposal with
        evidenceRefs := sortedBy EvidenceRef.refId s.proposal.evidenceRefs
        dependencies := sortedBy DependencyRef.dependencyId s.proposal.dependencies }
    policy := { s.policy with rules := canonicalRules s.policy.rules }
    precedents := (sortedPrecedents s.precedents).map canonicalPrecedent
    exclusions := sortedExclusions s.exclusions
    capabilities := sortedBy CapabilityFact.capabilityId s.capabilities
    dependencies := sortedBy DependencyRef.dependencyId s.dependencies }

/-- The result a prior trace stands for. -/
def priorResult (p : PriorEvaluationTrace) : CheckResult where
  verdict := p.verdict
  risk := p.risk
  operatorTrace := p.operatorTrace
  evidenceGaps := p.evidenceGaps
  dependencies := p.dependencies
  precedentRefs := p.precedentRefs
  consequenceWarningRefs := p.consequenceWarningRefs
  becauseStepId := p.becauseStepId
  evaluationId := p.evaluationId
  profileVersion := p.profileVersion
  priorEvaluationId := p.priorEvaluationId
  changedFactRuleIds := p.changedFactRuleIds
  evaluatorVersion := p.evaluatorVersion
  ruleConfigDigest := p.ruleConfigDigest
  inputSnapshotDigest := p.inputSnapshotDigest
  policyDigest := p.policyDigest
  traceDigest := p.traceDigest

/-- Python `_prior_digest`. -/
def priorDigest (p : PriorEvaluationTrace) : Except PyError String :=
  checkResultDigest (priorResult p)

/-- Every step carries the identifier of its ordinal. -/
def validateOrdinals (evaluationId : String) : Nat → List TraceStep → Except PyError Unit
  | _, [] => .ok ()
  | ordinal, step :: steps => do
    let expected ← makeStepId evaluationId ordinal step.ruleId
    ensure (step.stepId = expected)
      (.blocked "INVALID_PRIOR_TRACE" "prior step ordinal is invalid")
    validateOrdinals evaluationId (ordinal + 1) steps

/-- The trace ends in the F12 step that the record names. -/
def EndsInBecause (p : PriorEvaluationTrace) : Option TraceStep → Prop
  | some step => p.becauseStepId = step.stepId ∧ step.ruleId = "F12_FINAL_BECAUSE"
  | none => False

instance (p : PriorEvaluationTrace) : (step : Option TraceStep) → Decidable (EndsInBecause p step)
  | some step => inferInstanceAs
      (Decidable (p.becauseStepId = step.stepId ∧ step.ruleId = "F12_FINAL_BECAUSE"))
  | none => inferInstanceAs (Decidable False)

/-- The rule identifiers of reducers. -/
def reducerIds : List String := ["R1_NO", "R2_MAYBE", "R3_IFF", "R4_YES"]

/-- The trace has one reducer step, under a reducer's identifier. -/
def HasOneReducer (trace : List TraceStep) : Prop :=
  match trace.filterMap TraceStep.reducer? with
  | [step] => step.ruleId ∈ reducerIds
  | _ => False

instance (trace : List TraceStep) : Decidable (HasOneReducer trace) := by
  unfold HasOneReducer
  split <;> infer_instance

/-- The checks of `_validate_exact_prior` on a prior evaluation of a proposal. -/
def validateExactTrace (proposalId : String) (prior : PriorEvaluationTrace) :
    Except PyError Unit := do
  let digest ← priorDigest prior
  ensure (prior.proposalId = proposalId ∧ prior.traceDigest = digest ∧
      EndsInBecause prior prior.operatorTrace.getLast?)
    (.blocked "INVALID_PRIOR_TRACE" "prior finalized trace does not reproduce")
  ensure (HasOneReducer prior.operatorTrace)
    (.blocked "INVALID_PRIOR_TRACE" "prior reducer binding is invalid")
  validateOrdinals prior.evaluationId 1 prior.operatorTrace

/-- Python `_validate_exact_prior`. -/
def validateExactPrior (s : EvaluationSnapshot) : Except PyError Unit :=
  checkSome (validateExactTrace s.proposal.proposalId) s.priorEvaluation

/-- Python `_validate_snapshot_with_exact_reducers`. -/
def validateSnapshotWithExactReducers (s : EvaluationSnapshot) : Except PyError Unit := do
  let digest ← snapshotDigest s
  ensure (s.snapshotDigest = digest)
    (.blocked "INVALID_SNAPSHOT" "snapshot digest does not reproduce")
  validateExactPrior s

/-- The two admission paths of `_validate_input`. -/
def admitSnapshot (s : EvaluationSnapshot) : Except PyError Unit :=
  match validateSnapshot s with
  | .ok _ => .ok ()
  | .error (.contractViolation _) =>
    if s.priorEvaluation = none then
      stop "INVALID_SNAPSHOT" "snapshot integrity validation failed"
    else validateSnapshotWithExactReducers s
  | .error e => .error e

/-- A key is the normalization of its display text. -/
def checkKey (display key : String) (error : PyError) : Except PyError Unit := do
  let normalized ← normalizeActionTargetKey display
  ensure (normalized = key) error

/-- The identity binding of one exclusion. -/
def checkExclusion (e : ExclusionRef) : Except PyError Unit := do
  checkKey e.actionType e.actionTypeKey
    (.blocked "INVALID_EXCLUSION" "exclusion identity binding is invalid")
  checkKey e.target e.targetKey
    (.blocked "INVALID_EXCLUSION" "exclusion identity binding is invalid")
  ensure (e.sourceDecisionValue = .reject)
    (.blocked "INVALID_EXCLUSION" "exclusion identity binding is invalid")

/-- The checks of `_validate_input` on keys, digests and limits. -/
def checkBindings (s : EvaluationSnapshot) (c : RuleConfig) : Except PyError Unit := do
  let p := s.proposal
  checkKey p.actionType p.actionTypeKey
    (.blocked "ACTION_KEY_MISMATCH" "action type key does not match display value")
  checkKey p.target p.targetKey
    (.blocked "TARGET_KEY_MISMATCH" "target key does not match display value")
  ensure ((p.actionTypeKey ++ "\x1f" ++ p.targetKey).toList.count '\x1f' = 1)
    (.blocked "CLASS_KEY_MISMATCH" "exact action class key is malformed")
  let actionDigest ← proposalActionDigest p
  ensure (p.actionDigest = actionDigest)
    (.blocked "ACTION_DIGEST_MISMATCH" "action digest does not reproduce")
  let recordDigest ← proposalRecordDigest p
  ensure (p.proposalDigest = recordDigest)
    (.blocked "PROPOSAL_DIGEST_MISMATCH" "proposal digest does not reproduce")
  let policyDigest ← policyInputDigest s.policy
  ensure (s.policy.policyDigest = policyDigest)
    (.blocked "POLICY_DIGEST_MISMATCH" "policy digest does not reproduce")
  ensure (s.policy.policyVersion ≠ "") (.blocked "INVALID_POLICY" "policy version is empty")
  ensure (s.profileVersion ≠ some "") (.blocked "INVALID_PROFILE" "profile version is empty")
  ensure (s.precedents.length ≤ c.precedentTopK)
    (.blocked "PRECEDENT_LIMIT_EXCEEDED" "precedent retrieval exceeds pinned limit")
  forAll checkExclusion s.exclusions
  ensure (sortedBy id (p.dependencies.map DependencyRef.dependencyId) =
      sortedBy id (s.dependencies.map DependencyRef.dependencyId))
    (.blocked "DEPENDENCY_SNAPSHOT_MISMATCH" "proposal dependency snapshot differs")

/-- Python `_validate_input`. -/
def validateInput (s : EvaluationSnapshot) (c : RuleConfig) : Except PyError Unit := do
  validateConfig c
  admitSnapshot s
  checkBindings s c

/-- The prior binding of `evaluate_proposal`: the identifier of the prior evaluation. -/
def bindPrior (s : EvaluationSnapshot) (c : RuleConfig) : Except PyError (Option String) :=
  match s.priorEvaluation with
  | none => .ok none
  | some prior => do
    ensure (prior.evaluatorVersion = c.evaluatorVersion ∧
        prior.ruleConfigDigest = c.ruleConfigDigest ∧ prior.policyDigest = s.policy.policyDigest)
      (.blocked "PRIOR_BINDING_MISMATCH" "prior evaluation binding differs")
    return some prior.evaluationId

/-- Everything before the first fact. -/
def admission (s : EvaluationSnapshot) (c : RuleConfig) : Except PyError (Option String) := do
  validateInput s c
  bindPrior s c

end

end GAM
