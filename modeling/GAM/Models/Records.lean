import GAM.Models.Enums

/-!
# Records

The frozen records of `models.py`, field by field in declaration order, and the Python value of each
(`toValue`), which lists its fields under the source's names. Tuples are lists. The steps of a trace
are the union `OperatorTraceStep | ReducerTraceStep`.
-/

namespace GAM
open Lib

/-- Python `EvidenceRef`. -/
structure EvidenceRef where
  refId : String
  kind : String
  digest : String
deriving DecidableEq, Repr

instance : ToValue EvidenceRef :=
  ⟨fun r => .record
    [("ref_id", toValue r.refId), ("kind", toValue r.kind), ("digest", toValue r.digest)]⟩

/-- Python `EvidenceGap`. -/
structure EvidenceGap where
  gapId : String
  witness : Witness
  subjectRef : String
  question : String
  needed : String
  resolutionRuleId : String
deriving DecidableEq, Repr

instance : ToValue EvidenceGap :=
  ⟨fun r => .record
    [("gap_id", toValue r.gapId), ("witness", toValue r.witness),
      ("subject_ref", toValue r.subjectRef), ("question", toValue r.question),
      ("needed", toValue r.needed), ("resolution_rule_id", toValue r.resolutionRuleId)]⟩

/-- Python `EvidenceRequirement`. -/
structure EvidenceRequirement where
  requirementId : String
  kind : String
  witness : Witness
  subjectRef : String
  resolutionRuleId : String
deriving DecidableEq, Repr

instance : ToValue EvidenceRequirement :=
  ⟨fun r => .record
    [("requirement_id", toValue r.requirementId), ("kind", toValue r.kind),
      ("witness", toValue r.witness), ("subject_ref", toValue r.subjectRef),
      ("resolution_rule_id", toValue r.resolutionRuleId)]⟩

/-- Python `DependencyRef`. -/
structure DependencyRef where
  dependencyId : String
  subjectRef : String
  predicate : String
  expectedJson : String
  observedJson : Option String
  state : DependencyState
  snapshotDigest : String
  evidenceRefs : List EvidenceRef
  necessaryForYes : Bool
  sufficientIfTrue : Bool
deriving DecidableEq, Repr

instance : ToValue DependencyRef :=
  ⟨fun r => .record
    [("dependency_id", toValue r.dependencyId), ("subject_ref", toValue r.subjectRef),
      ("predicate", toValue r.predicate), ("expected_json", toValue r.expectedJson),
      ("observed_json", toValue r.observedJson), ("state", toValue r.state),
      ("snapshot_digest", toValue r.snapshotDigest), ("evidence_refs", toValue r.evidenceRefs),
      ("necessary_for_yes", toValue r.necessaryForYes),
      ("sufficient_if_true", toValue r.sufficientIfTrue)]⟩

/-- Python `PolicyRule`. -/
structure PolicyRule where
  ruleId : String
  actionTypeKey : String
  targetKey : Option String
  effect : PolicyEffect
  because : String
  requiredEvidence : List EvidenceRequirement
  requiredCapabilityIds : List String
  requireConsequence : Bool
deriving DecidableEq, Repr

instance : ToValue PolicyRule :=
  ⟨fun r => .record
    [("rule_id", toValue r.ruleId), ("action_type_key", toValue r.actionTypeKey),
      ("target_key", toValue r.targetKey), ("effect", toValue r.effect),
      ("because", toValue r.because), ("required_evidence", toValue r.requiredEvidence),
      ("required_capability_ids", toValue r.requiredCapabilityIds),
      ("require_consequence", toValue r.requireConsequence)]⟩

/-- Python `PolicyInput`. -/
structure PolicyInput where
  policyVersion : String
  policyDigest : String
  rules : List PolicyRule
deriving DecidableEq, Repr

instance : ToValue PolicyInput :=
  ⟨fun r => .record
    [("policy_version", toValue r.policyVersion), ("policy_digest", toValue r.policyDigest),
      ("rules", toValue r.rules)]⟩

/-- Python `ExclusionRef`. -/
structure ExclusionRef where
  exclusionId : String
  actionType : String
  actionTypeKey : String
  target : String
  targetKey : String
  reason : String
  sourceProposalId : String
  sourceEvaluationId : String
  sourceEvaluationTraceDigest : String
  sourceDecisionId : String
  sourceDecisionValue : DecisionValue
  sourceDecisionDigest : String
  exclusionDigest : String
  idempotencyKey : String
deriving DecidableEq, Repr

instance : ToValue ExclusionRef :=
  ⟨fun r => .record
    [("exclusion_id", toValue r.exclusionId), ("action_type", toValue r.actionType),
      ("action_type_key", toValue r.actionTypeKey), ("target", toValue r.target),
      ("target_key", toValue r.targetKey), ("reason", toValue r.reason),
      ("source_proposal_id", toValue r.sourceProposalId),
      ("source_evaluation_id", toValue r.sourceEvaluationId),
      ("source_evaluation_trace_digest", toValue r.sourceEvaluationTraceDigest),
      ("source_decision_id", toValue r.sourceDecisionId),
      ("source_decision_value", toValue r.sourceDecisionValue),
      ("source_decision_digest", toValue r.sourceDecisionDigest),
      ("exclusion_digest", toValue r.exclusionDigest),
      ("idempotency_key", toValue r.idempotencyKey)]⟩

/-- Python `ConsequenceRef`. -/
structure ConsequenceRef where
  consequenceId : String
  receiptId : String
  receiptTerminalStatus : ExecutionStatus
  receiptDigest : String
  predictedSnapshotDigest : String
  actualSnapshotDigest : String
  comparisonVersion : String
  divergence : Decimal
  divergenceThreshold : Decimal
  reportDigest : String
deriving DecidableEq, Repr

instance : ToValue ConsequenceRef :=
  ⟨fun r => .record
    [("consequence_id", toValue r.consequenceId), ("receipt_id", toValue r.receiptId),
      ("receipt_terminal_status", toValue r.receiptTerminalStatus),
      ("receipt_digest", toValue r.receiptDigest),
      ("predicted_snapshot_digest", toValue r.predictedSnapshotDigest),
      ("actual_snapshot_digest", toValue r.actualSnapshotDigest),
      ("comparison_version", toValue r.comparisonVersion),
      ("divergence", toValue r.divergence),
      ("divergence_threshold", toValue r.divergenceThreshold),
      ("report_digest", toValue r.reportDigest)]⟩

/-- Python `PrecedentRef`. -/
structure PrecedentRef where
  proposalId : String
  proposalDigest : String
  actionDigest : String
  actionTypeKey : String
  targetKey : String
  decision : Option DecisionValue
  decisionId : Option String
  decisionDigest : Option String
  similarity : Option Decimal
  similarityErrorCode : Option String
  evaluationId : String
  traceDigest : String
  receiptId : Option String
  receiptDigest : Option String
  receiptTerminalStatus : Option ExecutionStatus
  consequenceRefs : List ConsequenceRef
deriving DecidableEq, Repr

instance : ToValue PrecedentRef :=
  ⟨fun r => .record
    [("proposal_id", toValue r.proposalId), ("proposal_digest", toValue r.proposalDigest),
      ("action_digest", toValue r.actionDigest), ("action_type_key", toValue r.actionTypeKey),
      ("target_key", toValue r.targetKey), ("decision", toValue r.decision),
      ("decision_id", toValue r.decisionId), ("decision_digest", toValue r.decisionDigest),
      ("similarity", toValue r.similarity),
      ("similarity_error_code", toValue r.similarityErrorCode),
      ("evaluation_id", toValue r.evaluationId), ("trace_digest", toValue r.traceDigest),
      ("receipt_id", toValue r.receiptId), ("receipt_digest", toValue r.receiptDigest),
      ("receipt_terminal_status", toValue r.receiptTerminalStatus),
      ("consequence_refs", toValue r.consequenceRefs)]⟩

/-- Python `CapabilityFact`. -/
structure CapabilityFact where
  capabilityId : String
  subjectRef : String
  state : DependencyState
  snapshotDigest : String
  evidenceRefs : List EvidenceRef
deriving DecidableEq, Repr

instance : ToValue CapabilityFact :=
  ⟨fun r => .record
    [("capability_id", toValue r.capabilityId), ("subject_ref", toValue r.subjectRef),
      ("state", toValue r.state), ("snapshot_digest", toValue r.snapshotDigest),
      ("evidence_refs", toValue r.evidenceRefs)]⟩

/-- Python `Proposal`. -/
structure Proposal where
  proposalId : String
  parentProposalId : Option String
  sourceModifyDecisionId : Option String
  sourceModifyDecisionValue : Option DecisionValue
  agentId : String
  sessionId : String
  actionType : String
  actionTypeKey : String
  target : String
  targetKey : String
  reasoning : String
  purpose : String
  parametersJson : String
  impactAssessmentJson : String
  predictedOutcomeJson : String
  evidenceRefs : List EvidenceRef
  dependencies : List DependencyRef
  embedding : List Binary64
  embeddingModel : String
  embeddingInputDigest : String
  actionDigest : String
  proposalDigest : String
deriving DecidableEq, Repr

instance : ToValue Proposal :=
  ⟨fun r => .record
    [("proposal_id", toValue r.proposalId),
      ("parent_proposal_id", toValue r.parentProposalId),
      ("source_modify_decision_id", toValue r.sourceModifyDecisionId),
      ("source_modify_decision_value", toValue r.sourceModifyDecisionValue),
      ("agent_id", toValue r.agentId), ("session_id", toValue r.sessionId),
      ("action_type", toValue r.actionType), ("action_type_key", toValue r.actionTypeKey),
      ("target", toValue r.target), ("target_key", toValue r.targetKey),
      ("reasoning", toValue r.reasoning), ("purpose", toValue r.purpose),
      ("parameters_json", toValue r.parametersJson),
      ("impact_assessment_json", toValue r.impactAssessmentJson),
      ("predicted_outcome_json", toValue r.predictedOutcomeJson),
      ("evidence_refs", toValue r.evidenceRefs), ("dependencies", toValue r.dependencies),
      ("embedding", toValue r.embedding), ("embedding_model", toValue r.embeddingModel),
      ("embedding_input_digest", toValue r.embeddingInputDigest),
      ("action_digest", toValue r.actionDigest), ("proposal_digest", toValue r.proposalDigest)]⟩

/-- Python `OperatorTraceStep`. -/
structure OperatorTraceStep where
  stepId : String
  ruleId : String
  family : OperatorFamily
  pole : String
  subjectRef : String
  objectRefs : List String
  resultJson : String
  evidenceRefs : List EvidenceRef
deriving DecidableEq, Repr

instance : ToValue OperatorTraceStep :=
  ⟨fun r => .record
    [("step_id", toValue r.stepId), ("rule_id", toValue r.ruleId),
      ("family", toValue r.family), ("pole", toValue r.pole),
      ("subject_ref", toValue r.subjectRef), ("object_refs", toValue r.objectRefs),
      ("result_json", toValue r.resultJson), ("evidence_refs", toValue r.evidenceRefs)]⟩

/-- Python `ReducerTraceStep`. -/
structure ReducerTraceStep where
  stepId : String
  ruleId : String
  family : OperatorFamily
  pole : String
  decisiveFactStepIds : List String
  resultJson : String
deriving DecidableEq, Repr

instance : ToValue ReducerTraceStep :=
  ⟨fun r => .record
    [("step_id", toValue r.stepId), ("rule_id", toValue r.ruleId),
      ("family", toValue r.family), ("pole", toValue r.pole),
      ("decisive_fact_step_ids", toValue r.decisiveFactStepIds),
      ("result_json", toValue r.resultJson)]⟩

/-- A step of a trace: a fact or terminal step, or the reducer (Python `TraceStep`). -/
inductive TraceStep where
  | operator (step : OperatorTraceStep)
  | reducer (step : ReducerTraceStep)
deriving DecidableEq, Repr

namespace TraceStep

/-- The identifier of a step. -/
def stepId : TraceStep → String
  | .operator s => s.stepId
  | .reducer s => s.stepId

/-- The rule of a step. -/
def ruleId : TraceStep → String
  | .operator s => s.ruleId
  | .reducer s => s.ruleId

/-- The operator family of a step. -/
def family : TraceStep → OperatorFamily
  | .operator s => s.family
  | .reducer s => s.family

/-- The pole of a step. -/
def pole : TraceStep → String
  | .operator s => s.pole
  | .reducer s => s.pole

/-- The reducer step, if it is one. -/
def reducer? : TraceStep → Option ReducerTraceStep
  | .operator _ => none
  | .reducer s => some s

end TraceStep

instance : ToValue TraceStep :=
  ⟨fun
    | .operator s => toValue s
    | .reducer s => toValue s⟩

/-- Python `PriorEvaluationTrace`. -/
structure PriorEvaluationTrace where
  evaluationId : String
  proposalId : String
  verdict : Verdict
  risk : Risk
  operatorTrace : List TraceStep
  evidenceGaps : List EvidenceGap
  dependencies : List DependencyRef
  precedentRefs : List String
  consequenceWarningRefs : List String
  becauseStepId : String
  profileVersion : Option String
  priorEvaluationId : Option String
  changedFactRuleIds : List String
  evaluatorVersion : String
  ruleConfigDigest : String
  inputSnapshotDigest : String
  policyDigest : String
  traceDigest : String
deriving DecidableEq, Repr

instance : ToValue PriorEvaluationTrace :=
  ⟨fun r => .record
    [("evaluation_id", toValue r.evaluationId), ("proposal_id", toValue r.proposalId),
      ("verdict", toValue r.verdict), ("risk", toValue r.risk),
      ("operator_trace", toValue r.operatorTrace), ("evidence_gaps", toValue r.evidenceGaps),
      ("dependencies", toValue r.dependencies), ("precedent_refs", toValue r.precedentRefs),
      ("consequence_warning_refs", toValue r.consequenceWarningRefs),
      ("because_step_id", toValue r.becauseStepId),
      ("profile_version", toValue r.profileVersion),
      ("prior_evaluation_id", toValue r.priorEvaluationId),
      ("changed_fact_rule_ids", toValue r.changedFactRuleIds),
      ("evaluator_version", toValue r.evaluatorVersion),
      ("rule_config_digest", toValue r.ruleConfigDigest),
      ("input_snapshot_digest", toValue r.inputSnapshotDigest),
      ("policy_digest", toValue r.policyDigest), ("trace_digest", toValue r.traceDigest)]⟩

/-- Python `EvaluationSnapshot`. -/
structure EvaluationSnapshot where
  evaluationId : String
  snapshotId : String
  profileVersion : Option String
  proposal : Proposal
  policy : PolicyInput
  precedents : List PrecedentRef
  exclusions : List ExclusionRef
  capabilities : List CapabilityFact
  dependencies : List DependencyRef
  priorEvaluation : Option PriorEvaluationTrace
  capturedAt : String
  snapshotDigest : String
deriving DecidableEq, Repr

instance : ToValue EvaluationSnapshot :=
  ⟨fun r => .record
    [("evaluation_id", toValue r.evaluationId), ("snapshot_id", toValue r.snapshotId),
      ("profile_version", toValue r.profileVersion), ("proposal", toValue r.proposal),
      ("policy", toValue r.policy), ("precedents", toValue r.precedents),
      ("exclusions", toValue r.exclusions), ("capabilities", toValue r.capabilities),
      ("dependencies", toValue r.dependencies),
      ("prior_evaluation", toValue r.priorEvaluation), ("captured_at", toValue r.capturedAt),
      ("snapshot_digest", toValue r.snapshotDigest)]⟩

/-- Python `CheckResult`. -/
structure CheckResult where
  verdict : Verdict
  risk : Risk
  operatorTrace : List TraceStep
  evidenceGaps : List EvidenceGap
  dependencies : List DependencyRef
  precedentRefs : List String
  consequenceWarningRefs : List String
  becauseStepId : String
  evaluationId : String
  profileVersion : Option String
  priorEvaluationId : Option String
  changedFactRuleIds : List String
  evaluatorVersion : String
  ruleConfigDigest : String
  inputSnapshotDigest : String
  policyDigest : String
  traceDigest : String
deriving DecidableEq, Repr

instance : ToValue CheckResult :=
  ⟨fun r => .record
    [("verdict", toValue r.verdict), ("risk", toValue r.risk),
      ("operator_trace", toValue r.operatorTrace), ("evidence_gaps", toValue r.evidenceGaps),
      ("dependencies", toValue r.dependencies), ("precedent_refs", toValue r.precedentRefs),
      ("consequence_warning_refs", toValue r.consequenceWarningRefs),
      ("because_step_id", toValue r.becauseStepId), ("evaluation_id", toValue r.evaluationId),
      ("profile_version", toValue r.profileVersion),
      ("prior_evaluation_id", toValue r.priorEvaluationId),
      ("changed_fact_rule_ids", toValue r.changedFactRuleIds),
      ("evaluator_version", toValue r.evaluatorVersion),
      ("rule_config_digest", toValue r.ruleConfigDigest),
      ("input_snapshot_digest", toValue r.inputSnapshotDigest),
      ("policy_digest", toValue r.policyDigest), ("trace_digest", toValue r.traceDigest)]⟩

/-- Python `BlockedResult`. -/
structure BlockedResult where
  evaluationId : String
  profileVersion : Option String
  priorEvaluationId : Option String
  changedFactRuleIds : List String
  errorCode : String
  safeMessage : String
  operatorTrace : List OperatorTraceStep
  evidenceGaps : List EvidenceGap
  dependencies : List DependencyRef
  evaluatorVersion : String
  ruleConfigDigest : String
  inputSnapshotDigest : String
  policyDigest : String
  traceDigest : String
deriving DecidableEq, Repr

instance : ToValue BlockedResult :=
  ⟨fun r => .record
    [("evaluation_id", toValue r.evaluationId), ("profile_version", toValue r.profileVersion),
      ("prior_evaluation_id", toValue r.priorEvaluationId),
      ("changed_fact_rule_ids", toValue r.changedFactRuleIds),
      ("error_code", toValue r.errorCode), ("safe_message", toValue r.safeMessage),
      ("operator_trace", toValue r.operatorTrace), ("evidence_gaps", toValue r.evidenceGaps),
      ("dependencies", toValue r.dependencies),
      ("evaluator_version", toValue r.evaluatorVersion),
      ("rule_config_digest", toValue r.ruleConfigDigest),
      ("input_snapshot_digest", toValue r.inputSnapshotDigest),
      ("policy_digest", toValue r.policyDigest), ("trace_digest", toValue r.traceDigest)]⟩

/-- Python `CheckResult | BlockedResult`. -/
inductive EvaluationResult where
  | check (r : CheckResult)
  | blocked (r : BlockedResult)
deriving DecidableEq, Repr

/-- Python `DependencyFact`. -/
structure DependencyFact where
  factId : String
  dependencyKey : String
  factVersion : Nat
  priorFactId : Option String
  priorFactVersion : Option Nat
  subjectRef : String
  predicate : String
  observedValueJson : Option String
  state : DependencyState
  snapshotDigest : String
  evidenceRefs : List EvidenceRef
  recordedBy : String
  factDigest : String
  idempotencyKey : String
deriving DecidableEq, Repr

instance : ToValue DependencyFact :=
  ⟨fun r => .record
    [("fact_id", toValue r.factId), ("dependency_key", toValue r.dependencyKey),
      ("fact_version", toValue r.factVersion), ("prior_fact_id", toValue r.priorFactId),
      ("prior_fact_version", toValue r.priorFactVersion),
      ("subject_ref", toValue r.subjectRef), ("predicate", toValue r.predicate),
      ("observed_value_json", toValue r.observedValueJson), ("state", toValue r.state),
      ("snapshot_digest", toValue r.snapshotDigest), ("evidence_refs", toValue r.evidenceRefs),
      ("recorded_by", toValue r.recordedBy), ("fact_digest", toValue r.factDigest),
      ("idempotency_key", toValue r.idempotencyKey)]⟩

/-- Python `DecisionRecord`. -/
structure DecisionRecord where
  decisionId : String
  proposalId : String
  evaluationId : String
  evaluationTraceDigest : String
  decision : DecisionValue
  decidedBy : String
  rationale : String
  conditionsJson : String
  decisionDigest : String
  idempotencyKey : String
deriving DecidableEq, Repr

instance : ToValue DecisionRecord :=
  ⟨fun r => .record
    [("decision_id", toValue r.decisionId), ("proposal_id", toValue r.proposalId),
      ("evaluation_id", toValue r.evaluationId),
      ("evaluation_trace_digest", toValue r.evaluationTraceDigest),
      ("decision", toValue r.decision), ("decided_by", toValue r.decidedBy),
      ("rationale", toValue r.rationale), ("conditions_json", toValue r.conditionsJson),
      ("decision_digest", toValue r.decisionDigest),
      ("idempotency_key", toValue r.idempotencyKey)]⟩

/-- Python `DemoExecutionCommand`. -/
structure DemoExecutionCommand where
  decisionId : String
  executorId : String
  idempotencyKey : String
deriving DecidableEq, Repr

instance : ToValue DemoExecutionCommand :=
  ⟨fun r => .record
    [("decision_id", toValue r.decisionId), ("executor_id", toValue r.executorId),
      ("idempotency_key", toValue r.idempotencyKey)]⟩

/-- Python `ExecutionAttempt`. -/
structure ExecutionAttempt where
  attemptId : String
  proposalId : String
  evaluationId : String
  evaluationTraceDigest : String
  decisionId : String
  decisionValue : DecisionValue
  decisionDigest : String
  actionTypeKey : String
  actionDigest : String
  targetKey : String
  effectKey : String
  requestedValueJson : String
  startedAt : String
  finishedAt : String
  terminalStatus : ExecutionStatus
  demoEffectId : Option String
  beforeEffectDigest : String
  afterEffectDigest : Option String
  observedEffectVersion : Option Nat
  outcomeJson : String
  outcomeDigest : String
  attemptDigest : String
  executorId : String
  idempotencyKey : String
  errorCode : Option String
  safeMessage : Option String
deriving DecidableEq, Repr

instance : ToValue ExecutionAttempt :=
  ⟨fun r => .record
    [("attempt_id", toValue r.attemptId), ("proposal_id", toValue r.proposalId),
      ("evaluation_id", toValue r.evaluationId),
      ("evaluation_trace_digest", toValue r.evaluationTraceDigest),
      ("decision_id", toValue r.decisionId), ("decision_value", toValue r.decisionValue),
      ("decision_digest", toValue r.decisionDigest),
      ("action_type_key", toValue r.actionTypeKey), ("action_digest", toValue r.actionDigest),
      ("target_key", toValue r.targetKey), ("effect_key", toValue r.effectKey),
      ("requested_value_json", toValue r.requestedValueJson),
      ("started_at", toValue r.startedAt), ("finished_at", toValue r.finishedAt),
      ("terminal_status", toValue r.terminalStatus),
      ("demo_effect_id", toValue r.demoEffectId),
      ("before_effect_digest", toValue r.beforeEffectDigest),
      ("after_effect_digest", toValue r.afterEffectDigest),
      ("observed_effect_version", toValue r.observedEffectVersion),
      ("outcome_json", toValue r.outcomeJson), ("outcome_digest", toValue r.outcomeDigest),
      ("attempt_digest", toValue r.attemptDigest), ("executor_id", toValue r.executorId),
      ("idempotency_key", toValue r.idempotencyKey), ("error_code", toValue r.errorCode),
      ("safe_message", toValue r.safeMessage)]⟩

/-- Python `ExecutionReceipt`. -/
structure ExecutionReceipt where
  receiptId : String
  attemptId : String
  attemptDigest : String
  proposalId : String
  evaluationId : String
  evaluationTraceDigest : String
  decisionId : String
  decisionValue : DecisionValue
  decisionDigest : String
  actionDigest : String
  targetKey : String
  attemptTerminalStatus : ExecutionStatus
  outcomeDigest : String
  beforeEffectDigest : String
  afterEffectDigest : Option String
  observedEffectVersion : Option Nat
  executorId : String
  idempotencyKey : String
  verified : Bool
  receiptDigest : String
deriving DecidableEq, Repr

instance : ToValue ExecutionReceipt :=
  ⟨fun r => .record
    [("receipt_id", toValue r.receiptId), ("attempt_id", toValue r.attemptId),
      ("attempt_digest", toValue r.attemptDigest), ("proposal_id", toValue r.proposalId),
      ("evaluation_id", toValue r.evaluationId),
      ("evaluation_trace_digest", toValue r.evaluationTraceDigest),
      ("decision_id", toValue r.decisionId), ("decision_value", toValue r.decisionValue),
      ("decision_digest", toValue r.decisionDigest), ("action_digest", toValue r.actionDigest),
      ("target_key", toValue r.targetKey),
      ("attempt_terminal_status", toValue r.attemptTerminalStatus),
      ("outcome_digest", toValue r.outcomeDigest),
      ("before_effect_digest", toValue r.beforeEffectDigest),
      ("after_effect_digest", toValue r.afterEffectDigest),
      ("observed_effect_version", toValue r.observedEffectVersion),
      ("executor_id", toValue r.executorId), ("idempotency_key", toValue r.idempotencyKey),
      ("verified", toValue r.verified), ("receipt_digest", toValue r.receiptDigest)]⟩

/-- Python `ConsequenceReport`. -/
structure ConsequenceReport where
  consequenceId : String
  proposalId : String
  receiptId : String
  receiptTerminalStatus : ExecutionStatus
  receiptDigest : String
  observationNumber : Int
  predictedSnapshotDigest : String
  actualSnapshotDigest : String
  comparisonVersion : String
  predictedOutcomeJson : String
  actualOutcomeJson : String
  leafReportJson : String
  divergenceScore : Decimal
  divergenceThreshold : Decimal
  divergenceSummary : String
  reportedBy : String
  reportDigest : String
  idempotencyKey : String
deriving DecidableEq, Repr

instance : ToValue ConsequenceReport :=
  ⟨fun r => .record
    [("consequence_id", toValue r.consequenceId), ("proposal_id", toValue r.proposalId),
      ("receipt_id", toValue r.receiptId),
      ("receipt_terminal_status", toValue r.receiptTerminalStatus),
      ("receipt_digest", toValue r.receiptDigest),
      ("observation_number", toValue r.observationNumber),
      ("predicted_snapshot_digest", toValue r.predictedSnapshotDigest),
      ("actual_snapshot_digest", toValue r.actualSnapshotDigest),
      ("comparison_version", toValue r.comparisonVersion),
      ("predicted_outcome_json", toValue r.predictedOutcomeJson),
      ("actual_outcome_json", toValue r.actualOutcomeJson),
      ("leaf_report_json", toValue r.leafReportJson),
      ("divergence_score", toValue r.divergenceScore),
      ("divergence_threshold", toValue r.divergenceThreshold),
      ("divergence_summary", toValue r.divergenceSummary), ("reported_by", toValue r.reportedBy),
      ("report_digest", toValue r.reportDigest), ("idempotency_key", toValue r.idempotencyKey)]⟩

/-- Python `ToolEvidence`. -/
structure ToolEvidence where
  evidenceId : String
  toolName : String
  toolVersion : String
  redactedCommandArgvJson : String
  commandDigest : String
  helpDigest : String
  configDigest : String
  clusterName : String
  clusterNameDigest : String
  observedClusterIdDigest : String
  observedVersion : String
  observedState : String
  observedPlan : String
  observedCloud : String
  normalizedRedactedOutputJson : String
  redactionManifestJson : String
  rawOutputDigest : String
  normalizedOutputDigest : String
  exitStatus : Int
  capturedAt : String
  expiresAt : String
  capturedBy : String
  evidenceDigest : String
  idempotencyKey : String
deriving DecidableEq, Repr

end GAM
