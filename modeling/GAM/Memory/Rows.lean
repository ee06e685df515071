import GAM.Memory.Append

/-!
# Reading rows

`get_proposal` and `get_evaluation`: a stored row becomes the mapping that the driver delivers, under
its column names and with the identifier under its alias, and is decoded. `get_exclusions` takes the
columns of its rows one by one.
-/

namespace GAM
open Lib

/-- The mapping of `SELECT *, id AS proposal_id FROM proposals`. -/
def ProposalRow.mapping (row : ProposalRow) : Value :=
  .dict
    [("id", .str row.id), ("parent_proposal_id", toValue row.parentProposalId),
      ("source_modify_decision_id", toValue row.sourceModifyDecisionId),
      ("source_modify_decision_value", toValue row.sourceModifyDecisionValue),
      ("agent_id", .str row.agentId), ("session_id", .str row.sessionId),
      ("action_type", .str row.actionType), ("action_type_key", .str row.actionTypeKey),
      ("target", .str row.target), ("target_key", .str row.targetKey),
      ("reasoning", .str row.reasoning), ("purpose", .str row.purpose),
      ("parameters", .str row.parameters), ("impact_assessment", .str row.impactAssessment),
      ("predicted_outcome", .str row.predictedOutcome), ("evidence", .str row.evidence),
      ("dependencies", .str row.dependencies), ("embedding", .str row.embedding),
      ("embedding_model", .str row.embeddingModel),
      ("embedding_input_digest", .str row.embeddingInputDigest),
      ("action_digest", .str row.actionDigest), ("proposal_digest", .str row.proposalDigest),
      ("proposal_id", .str row.id)]

/-- The mapping of `SELECT *, id AS evaluation_id FROM gate_evaluations`. -/
def EvaluationRow.mapping (row : EvaluationRow) : Value :=
  .dict
    [("id", .str row.id), ("proposal_id", .str row.proposalId),
      ("prior_evaluation_id", toValue row.priorEvaluationId),
      ("evaluator_version", .str row.evaluatorVersion),
      ("rule_config_digest", .str row.ruleConfigDigest),
      ("input_snapshot", .str row.inputSnapshot),
      ("input_snapshot_digest", .str row.inputSnapshotDigest),
      ("profile_version", toValue row.profileVersion),
      ("policy_snapshot", .str row.policySnapshot), ("policy_digest", .str row.policyDigest),
      ("verdict", toValue (row.verdict.map Verdict.name)),
      ("risk", toValue (row.risk.map Risk.value)), ("operator_trace", .str row.operatorTrace),
      ("evidence_gaps", .str row.evidenceGaps), ("dependencies", .str row.dependencies),
      ("precedent_refs", .str row.precedentRefs),
      ("consequence_warning_refs", .str row.consequenceWarningRefs),
      ("changed_fact_rule_ids", .str row.changedFactRuleIds),
      ("because_step_id", toValue row.becauseStepId), ("trace_digest", .str row.traceDigest),
      ("status", .str row.status.name), ("blocked_reason", toValue row.blockedReason),
      ("evaluation_id", .str row.id)]

section
variable [Engine]

/-- The row of an identifier, or the exception. -/
def findRow {α : Type} (key : α → String) (rows : List α) (id : String) (message : String) :
    Except PyError α := do
  let id ← castUuid id
  match rows.find? fun row => key row = id with
  | some row => return row
  | none => .error (.integrity message)

/-- Python `AppMemory.get_proposal`. -/
def getProposal (db : Database) (proposalId : String) : Except PyError Proposal := do
  let row ← findRow ProposalRow.id db.proposals proposalId "proposal was not found"
  proposalFromMapping row.mapping

/-- Python `AppMemory.get_evaluation`. -/
def getEvaluation (db : Database) (evaluationId : String) : Except PyError EvaluationResult := do
  let row ← findRow EvaluationRow.id db.evaluations evaluationId "evaluation was not found"
  resultFromRow row.mapping

/-- Python `AppMemory.get_exclusions`. The two keys are those of every row, so the identifier alone
orders the rows; UUIDs are ordered as their texts. -/
def getExclusions (db : Database) (actionTypeKey targetKey : String) : List ExclusionRef :=
  sortedBy ExclusionRef.exclusionId
    (db.exclusions.filter fun row => row.actionTypeKey = actionTypeKey ∧ row.targetKey = targetKey)

omit [Engine] in
@[simp] lemma mem_getExclusions {db : Database} {actionTypeKey targetKey : String} {e : ExclusionRef} :
    e ∈ getExclusions db actionTypeKey targetKey ↔
      e ∈ db.exclusions ∧ e.actionTypeKey = actionTypeKey ∧ e.targetKey = targetKey := by
  simp [getExclusions]

end

end GAM
