import GAM.Governance.Config
import GAM.Memory.Decode
import GAM.Store.Tables

/-!
# Appending proposals and evaluations

The writers of `AppMemory`. A first evaluation is stored with its proposal; a re-evaluation names the
latest evaluation of its proposal as prior. Both are checked before the transaction, and both answer
a replay of stored bytes without writing. A transaction takes the store to its answer and the new
store; one that raises leaves no new store.
-/

namespace GAM
open Lib

namespace EvaluationResult

/-- The identifier of a result. -/
def evaluationId : EvaluationResult → String
  | .check r => r.evaluationId
  | .blocked r => r.evaluationId

/-- The profile of a result. -/
def profileVersion : EvaluationResult → Option String
  | .check r => r.profileVersion
  | .blocked r => r.profileVersion

/-- The evaluation that a result follows. -/
def priorEvaluationId : EvaluationResult → Option String
  | .check r => r.priorEvaluationId
  | .blocked r => r.priorEvaluationId

/-- The facts that a result reports as changed. -/
def changedFactRuleIds : EvaluationResult → List String
  | .check r => r.changedFactRuleIds
  | .blocked r => r.changedFactRuleIds

/-- The digest of the snapshot of a result. -/
def inputSnapshotDigest : EvaluationResult → String
  | .check r => r.inputSnapshotDigest
  | .blocked r => r.inputSnapshotDigest

/-- The digest of the policy of a result. -/
def policyDigest : EvaluationResult → String
  | .check r => r.policyDigest
  | .blocked r => r.policyDigest

/-- The digest of the trace of a result. -/
def traceDigest : EvaluationResult → String
  | .check r => r.traceDigest
  | .blocked r => r.traceDigest

/-- A result with a verdict. -/
def isFinalized : EvaluationResult → Bool
  | .check _ => true
  | .blocked _ => false

end EvaluationResult

/-- `except ContractViolation`: the violation becomes a `MemoryIntegrityError`. -/
def asIntegrity {α : Type} (message : String) : Except PyError α → Except PyError α
  | .error (.contractViolation _) => .error (.integrity message)
  | x => x

@[simp] lemma asIntegrity_eq_ok {α : Type} {message : String} {x : Except PyError α} {a : α} :
    asIntegrity message x = .ok a ↔ x = .ok a := by
  rcases x with e | b
  · cases e <;> simp [asIntegrity]
  · rfl

section
variable [Platform]

/-- The validator of a result. -/
def validateResult : EvaluationResult → Except PyError Unit
  | .check r => do
    let _ ← validateCheckResult r
  | .blocked r => do
    let _ ← validateBlockedResult r

/-- Python `_policy_digest` of `memory.py`: the rules are ordered, their members are not. -/
def memoryPolicyDigest (policy : PolicyInput) : Except PyError String :=
  canonicalSha256 (.dict
    [("schema", .str "gam.policy-input.v1"), ("policy_version", .str policy.policyVersion),
      ("rules", toValue (sortedBy PolicyRule.ruleId policy.rules))])

/-- Python `AppMemory._validate_evaluation_binding`. -/
def validateEvaluationBinding (s : EvaluationSnapshot) (r : EvaluationResult) :
    Except PyError Unit := do
  asIntegrity "snapshot or evaluation digest validation failed" (do
    let _ ← validateSnapshot s
    validateResult r)
  let actionDigest ← proposalActionDigest s.proposal
  ensure (s.proposal.actionDigest = actionDigest)
    (.integrity "proposal or policy digest validation failed")
  let proposalDigest ← proposalRecordDigest s.proposal
  ensure (s.proposal.proposalDigest = proposalDigest)
    (.integrity "proposal or policy digest validation failed")
  let policyDigest ← memoryPolicyDigest s.policy
  ensure (s.policy.policyDigest = policyDigest)
    (.integrity "proposal or policy digest validation failed")
  ensure (r.evaluationId = s.evaluationId ∧ r.inputSnapshotDigest = s.snapshotDigest ∧
      r.policyDigest = s.policy.policyDigest ∧ r.profileVersion = s.profileVersion)
    (.integrity "evaluation and snapshot bindings differ")

/-- Python `_vector_text`. -/
def vectorText (values : List Binary64) : Except PyError String := do
  ensure (values.length = pinnedEmbeddingDimensions)
    (.integrity "query embedding dimensions are invalid")
  return String.ofList (commaSeparated '[' ']' (values.map Binary64.format17))

/-- Python `AppMemory._proposal_args`, under the column names. -/
def proposalArgs (p : Proposal) : Except PyError ProposalRow := do
  let evidence ← dump (toValue p.evidenceRefs)
  let dependencies ← dump (toValue p.dependencies)
  let embedding ← vectorText p.embedding
  return { id := p.proposalId, parentProposalId := p.parentProposalId,
           sourceModifyDecisionId := p.sourceModifyDecisionId,
           sourceModifyDecisionValue := p.sourceModifyDecisionValue.map DecisionValue.value,
           agentId := p.agentId, sessionId := p.sessionId, actionType := p.actionType,
           actionTypeKey := p.actionTypeKey, target := p.target, targetKey := p.targetKey,
           reasoning := p.reasoning, purpose := p.purpose, parameters := p.parametersJson,
           impactAssessment := p.impactAssessmentJson,
           predictedOutcome := p.predictedOutcomeJson, evidence := evidence,
           dependencies := dependencies, embedding := embedding,
           embeddingModel := p.embeddingModel, embeddingInputDigest := p.embeddingInputDigest,
           actionDigest := p.actionDigest, proposalDigest := p.proposalDigest }

/-- Python `AppMemory._evaluation_args`, under the column names. -/
def evaluationArgs (proposalId : String) (s : EvaluationSnapshot) :
    EvaluationResult → Except PyError EvaluationRow
  | .check r => do
    let precedentRefs ← dump (toValue r.precedentRefs)
    let warningRefs ← dump (toValue r.consequenceWarningRefs)
    let inputSnapshot ← dump (toValue s)
    let policySnapshot ← dump (toValue s.policy)
    let operatorTrace ← dump (toValue r.operatorTrace)
    let evidenceGaps ← dump (toValue r.evidenceGaps)
    let dependencies ← dump (toValue r.dependencies)
    let changed ← dump (toValue r.changedFactRuleIds)
    return { id := r.evaluationId, proposalId := proposalId,
             priorEvaluationId := r.priorEvaluationId, evaluatorVersion := r.evaluatorVersion,
             ruleConfigDigest := r.ruleConfigDigest, inputSnapshot := inputSnapshot,
             inputSnapshotDigest := r.inputSnapshotDigest, profileVersion := r.profileVersion,
             policySnapshot := policySnapshot, policyDigest := r.policyDigest,
             verdict := some r.verdict, risk := some r.risk, operatorTrace := operatorTrace,
             evidenceGaps := evidenceGaps, dependencies := dependencies,
             precedentRefs := precedentRefs, consequenceWarningRefs := warningRefs,
             changedFactRuleIds := changed, becauseStepId := some r.becauseStepId,
             traceDigest := r.traceDigest, status := .finalized, blockedReason := none }
  | .blocked r => do
    let inputSnapshot ← dump (toValue s)
    let policySnapshot ← dump (toValue s.policy)
    let operatorTrace ← dump (toValue r.operatorTrace)
    let evidenceGaps ← dump (toValue r.evidenceGaps)
    let dependencies ← dump (toValue r.dependencies)
    let changed ← dump (toValue r.changedFactRuleIds)
    return { id := r.evaluationId, proposalId := proposalId,
             priorEvaluationId := r.priorEvaluationId, evaluatorVersion := r.evaluatorVersion,
             ruleConfigDigest := r.ruleConfigDigest, inputSnapshot := inputSnapshot,
             inputSnapshotDigest := r.inputSnapshotDigest, profileVersion := r.profileVersion,
             policySnapshot := policySnapshot, policyDigest := r.policyDigest, verdict := none,
             risk := none, operatorTrace := operatorTrace, evidenceGaps := evidenceGaps,
             dependencies := dependencies, precedentRefs := "[]", consequenceWarningRefs := "[]",
             changedFactRuleIds := changed, becauseStepId := none, traceDigest := r.traceDigest,
             status := .blocked, blockedReason := some (r.errorCode ++ ":" ++ r.safeMessage) }

/-- `==` of two proposals; the components of the embedding are compared as numbers. -/
def proposalEq (a b : Proposal) : Bool :=
  decide ({ a with embedding := [] } = { b with embedding := [] }) &&
    a.embedding.length == b.embedding.length &&
    (a.embedding.zip b.embedding).all fun x => x.1.eqv x.2

end

section
variable [Engine]

/-- The values of the columns of a proposal. -/
def castProposal (row : ProposalRow) : Except PyError ProposalRow := do
  return { row with id := ← castUuid row.id, parentProposalId := ← castOptUuid row.parentProposalId,
                    sourceModifyDecisionId := ← castOptUuid row.sourceModifyDecisionId,
                    parameters := ← castJsonb row.parameters,
                    impactAssessment := ← castJsonb row.impactAssessment,
                    predictedOutcome := ← castJsonb row.predictedOutcome,
                    evidence := ← castJsonb row.evidence,
                    dependencies := ← castJsonb row.dependencies,
                    embedding := ← castVector row.embedding }

/-- The values of the columns of an evaluation. -/
def castEvaluation (row : EvaluationRow) : Except PyError EvaluationRow := do
  return { row with id := ← castUuid row.id, proposalId := ← castUuid row.proposalId,
                    priorEvaluationId := ← castOptUuid row.priorEvaluationId,
                    inputSnapshot := ← castJsonb row.inputSnapshot,
                    policySnapshot := ← castJsonb row.policySnapshot,
                    operatorTrace := ← castJsonb row.operatorTrace,
                    evidenceGaps := ← castJsonb row.evidenceGaps,
                    dependencies := ← castJsonb row.dependencies,
                    precedentRefs := ← castJsonb row.precedentRefs,
                    consequenceWarningRefs := ← castJsonb row.consequenceWarningRefs,
                    changedFactRuleIds := ← castJsonb row.changedFactRuleIds }

/-- The store with the evaluation of a snapshot. -/
def storeEvaluation (db : Database) (proposalId : String) (s : EvaluationSnapshot)
    (r : EvaluationResult) : Except PyError Database := do
  let args ← evaluationArgs proposalId s r
  let row ← castEvaluation args
  insertEvaluation db row

/-- The operation of `AppMemory.append_proposal_and_evaluation`. -/
def firstAppend (db : Database) (p : Proposal) (s : EvaluationSnapshot) (r : EvaluationResult) :
    Except PyError ((String × String) × Database) := do
  let id ← castUuid p.proposalId
  match db.proposals.find? fun row => row.id = id with
  | some existing => do
    let evaluationId ← castUuid r.evaluationId
    let evaluation := db.evaluations.find? fun row => row.id = evaluationId ∧ row.proposalId = id
    ensure (existing.proposalDigest = p.proposalDigest ∧
        evaluation.map EvaluationRow.traceDigest = some r.traceDigest)
      (.conflict "proposal/evaluation replay conflicts")
    return ((p.proposalId, r.evaluationId), db)
  | none => do
    let args ← proposalArgs p
    let row ← castProposal args
    let db ← insertProposal db row
    let db ← storeEvaluation db p.proposalId s r
    return ((p.proposalId, r.evaluationId), db)

/-- Python `AppMemory.append_proposal_and_evaluation`. -/
def appendProposalAndEvaluation (db : Database) (p : Proposal) (s : EvaluationSnapshot)
    (r : EvaluationResult) : Except PyError ((String × String) × Database) := do
  validateEvaluationBinding s r
  ensure (proposalEq s.proposal p = true ∧ s.priorEvaluation = none ∧ r.priorEvaluationId = none ∧
    r.changedFactRuleIds = []) (.integrity "first evaluation genealogy is invalid")
  firstAppend db p s r

/-- The operation of `AppMemory.append_re_evaluation`. -/
def nextAppend (db : Database) (s : EvaluationSnapshot) (prior : PriorEvaluationTrace)
    (r : EvaluationResult) : Except PyError ((String × String) × Database) := do
  let id ← castUuid r.evaluationId
  match db.evaluations.find? fun row => row.id = id with
  | some existing => do
    ensure (existing.traceDigest = r.traceDigest)
      (.conflict "re-evaluation identity conflicts")
    return ((s.proposal.proposalId, r.evaluationId), db)
  | none => do
    let proposalId ← castUuid s.proposal.proposalId
    ensure (∃ latest ∈ db.latest proposalId, latest.id = prior.evaluationId ∧
      latest.traceDigest = prior.traceDigest) (.conflict "re-evaluation prior is stale")
    let db ← storeEvaluation db s.proposal.proposalId s r
    return ((s.proposal.proposalId, r.evaluationId), db)

/-- Python `AppMemory.append_re_evaluation`. -/
def appendReEvaluation (db : Database) (s : EvaluationSnapshot) (r : EvaluationResult) :
    Except PyError ((String × String) × Database) := do
  validateEvaluationBinding s r
  match s.priorEvaluation with
  | none => .error (.integrity "re-evaluation prior binding is invalid")
  | some prior => do
    ensure (r.priorEvaluationId = some prior.evaluationId ∧
      prior.proposalId = s.proposal.proposalId)
      (.integrity "re-evaluation prior binding is invalid")
    nextAppend db s prior r

end

end GAM
