import GAM.Models.Records
import GAM.Store.Engine

/-!
# Tables

The tables of `schema/init.sql` that the program's transactions write, each as the list of its rows in
the order of their commits, and the `INSERT` into each with the constraints of the schema. Columns
that hold a constant of the statement or a time of creation are left out: rows are read back in
commit order. A constraint that fails raises with its SQLSTATE, and the store is what it was.
-/

namespace GAM
open Lib

/-- A row of `proposals`. -/
structure ProposalRow where
  id : String
  parentProposalId : Option String
  sourceModifyDecisionId : Option String
  sourceModifyDecisionValue : Option String
  agentId : String
  sessionId : String
  actionType : String
  actionTypeKey : String
  target : String
  targetKey : String
  reasoning : String
  purpose : String
  parameters : String
  impactAssessment : String
  predictedOutcome : String
  evidence : String
  dependencies : String
  embedding : String
  embeddingModel : String
  embeddingInputDigest : String
  actionDigest : String
  proposalDigest : String
deriving DecidableEq, Repr

/-- The status of an evaluation. -/
inductive EvaluationStatus where
  | finalized
  | blocked
deriving DecidableEq, Repr

/-- The text of a status in its column. -/
def EvaluationStatus.name : EvaluationStatus → String
  | .finalized => "FINALIZED"
  | .blocked => "BLOCKED"

/-- A row of `gate_evaluations`. -/
structure EvaluationRow where
  id : String
  proposalId : String
  priorEvaluationId : Option String
  evaluatorVersion : String
  ruleConfigDigest : String
  inputSnapshot : String
  inputSnapshotDigest : String
  profileVersion : Option String
  policySnapshot : String
  policyDigest : String
  verdict : Option Verdict
  risk : Option Risk
  operatorTrace : String
  evidenceGaps : String
  dependencies : String
  precedentRefs : String
  consequenceWarningRefs : String
  changedFactRuleIds : String
  becauseStepId : Option String
  traceDigest : String
  status : EvaluationStatus
  blockedReason : Option String
deriving DecidableEq, Repr

/-- A row of `demo_kv`. -/
structure EffectRow where
  id : String
  proposalId : String
  evaluationId : String
  evaluationTraceDigest : String
  decisionId : String
  decisionValue : DecisionValue
  decisionDigest : String
  actionTypeKey : String
  targetKey : String
  effectKey : String
  effectVersion : Nat
  priorEffectId : Option String
  priorEffectVersion : Option Nat
  beforeEffectDigest : String
  effectValue : String
  effectDigest : String
  actionDigest : String
  executorId : String
  idempotencyKey : String
deriving DecidableEq, Repr

/-- The tables. The rows of `decisions`, `exclusions`, `execution_attempts` and
`execution_receipts` have the fields of their records. -/
structure Database where
  proposals : List ProposalRow := []
  evaluations : List EvaluationRow := []
  decisions : List DecisionRecord := []
  exclusions : List ExclusionRef := []
  effects : List EffectRow := []
  attempts : List ExecutionAttempt := []
  receipts : List ExecutionReceipt := []

/-- A failed `CHECK`. -/
def checkViolation : PyError := .sqlError "23514"

/-- A failed `UNIQUE` or primary key. -/
def uniqueViolation : PyError := .sqlError "23505"

/-- A failed `REFERENCES`. -/
def referenceViolation : PyError := .sqlError "23503"

section
variable {α β : Type} [DecidableEq β]

/-- No row has the key of the new one. -/
def Fresh (key : α → β) (rows : List α) (row : α) : Prop := ∀ r ∈ rows, key r ≠ key row

/-- Some row has the key. -/
def References (key : α → β) (rows : List α) (k : β) : Prop := ∃ r ∈ rows, key r = k

instance {key : α → β} {rows : List α} {row : α} : Decidable (Fresh key rows row) :=
  inferInstanceAs (Decidable (∀ r ∈ rows, key r ≠ key row))

instance {key : α → β} {rows : List α} {k : β} : Decidable (References key rows k) :=
  inferInstanceAs (Decidable (∃ r ∈ rows, key r = k))

end

/-- A digest column. -/
def isDigestLength (d : String) : Bool := d.length == 64

/-- A digest has the length of a digest column. -/
lemma isDigestLength_of_hex {d : String} (h : isHex64 d = true) : isDigestLength d = true := by
  rw [isHex64, Bool.and_eq_true, beq_iff_eq] at h
  rw [isDigestLength, beq_iff_eq, ← String.length_toList]
  exact h.1

/-- `INSERT INTO proposals`. -/
def insertProposal (db : Database) (row : ProposalRow) : Except PyError Database := do
  ensure (row.embeddingModel = "text-embedding-3-small") checkViolation
  ensure (jsonbTypeof row.evidence = "array" ∧ jsonbTypeof row.parameters = "object" ∧
    jsonbTypeof row.dependencies = "array") checkViolation
  ensure (isDigestLength row.embeddingInputDigest ∧ isDigestLength row.actionDigest ∧
    isDigestLength row.proposalDigest) checkViolation
  ensure ((row.parentProposalId = none ∧ row.sourceModifyDecisionId = none ∧
      row.sourceModifyDecisionValue = none) ∨
    (row.parentProposalId ≠ none ∧ row.sourceModifyDecisionId ≠ none ∧
      row.sourceModifyDecisionValue = some "MODIFY")) checkViolation
  ensure (Fresh ProposalRow.id db.proposals row) uniqueViolation
  ensure (∀ p ∈ row.parentProposalId, References ProposalRow.id (row :: db.proposals) p)
    referenceViolation
  -- a lineage with a null in it refers to nothing
  ensure (∀ p ∈ row.parentProposalId, ∀ d ∈ row.sourceModifyDecisionId,
    ∀ v ∈ row.sourceModifyDecisionValue,
      References (fun r : DecisionRecord => (r.decisionId, r.decision.value, r.proposalId))
        db.decisions (d, v, p)) referenceViolation
  return { db with proposals := db.proposals ++ [row] }

/-- The evaluations of a proposal, in commit order. -/
def Database.history (db : Database) (proposalId : String) : List EvaluationRow :=
  db.evaluations.filter fun r => r.proposalId = proposalId

/-- The latest evaluation of a proposal. -/
def Database.latest (db : Database) (proposalId : String) : Option EvaluationRow :=
  (db.history proposalId).getLast?

/-- `INSERT INTO gate_evaluations`. -/
def insertEvaluation (db : Database) (row : EvaluationRow) : Except PyError Database := do
  ensure (jsonbTypeof row.inputSnapshot = "object" ∧ jsonbTypeof row.policySnapshot = "object" ∧
    jsonbTypeof row.operatorTrace = "array" ∧ jsonbTypeof row.evidenceGaps = "array" ∧
    jsonbTypeof row.dependencies = "array" ∧ jsonbTypeof row.precedentRefs = "array" ∧
    jsonbTypeof row.consequenceWarningRefs = "array" ∧
    jsonbTypeof row.changedFactRuleIds = "array") checkViolation
  ensure ((row.status = .finalized ∧ row.verdict ≠ none ∧ row.risk ≠ none ∧
      row.becauseStepId ≠ none ∧ row.blockedReason = none) ∨
    (row.status = .blocked ∧ row.verdict = none ∧ row.risk = none ∧ row.becauseStepId = none ∧
      row.blockedReason ≠ none)) checkViolation
  ensure (row.profileVersion = none ∨ row.status = .finalized) checkViolation
  ensure (isDigestLength row.ruleConfigDigest ∧ isDigestLength row.inputSnapshotDigest ∧
    isDigestLength row.policyDigest ∧ isDigestLength row.traceDigest ∧
    ∀ v ∈ row.profileVersion, v ≠ "") checkViolation
  ensure (row.priorEvaluationId ≠ none ∨ row.changedFactRuleIds = "[]") checkViolation
  ensure (Fresh EvaluationRow.id db.evaluations row) uniqueViolation
  ensure (Fresh (fun r => (r.proposalId, r.evaluatorVersion, r.ruleConfigDigest,
    r.inputSnapshotDigest, r.policyDigest)) db.evaluations row) uniqueViolation
  ensure (References ProposalRow.id db.proposals row.proposalId) referenceViolation
  ensure (∀ prior ∈ row.priorEvaluationId, References (fun r => (r.id, r.proposalId))
    (row :: db.evaluations) (prior, row.proposalId)) referenceViolation
  return { db with evaluations := db.evaluations ++ [row] }

/-- `INSERT INTO decisions`. -/
def insertDecision (db : Database) (row : DecisionRecord) : Except PyError Database := do
  ensure (isDigestLength row.evaluationTraceDigest ∧ isDigestLength row.decisionDigest ∧
    jsonbTypeof row.conditionsJson = "object") checkViolation
  ensure (Fresh DecisionRecord.decisionId db.decisions row ∧
    Fresh DecisionRecord.idempotencyKey db.decisions row ∧
    Fresh DecisionRecord.proposalId db.decisions row ∧
    Fresh DecisionRecord.evaluationId db.decisions row) uniqueViolation
  ensure (References ProposalRow.id db.proposals row.proposalId ∧
    References (fun r => (r.id, r.proposalId, r.traceDigest, r.status)) db.evaluations
      (row.evaluationId, row.proposalId, row.evaluationTraceDigest, .finalized)) referenceViolation
  return { db with decisions := db.decisions ++ [row] }

/-- What a row that a decision authorizes repeats of the decision. -/
def DecisionRecord.binding (r : DecisionRecord) :
    String × DecisionValue × String × String × String × String :=
  (r.decisionId, r.decision, r.proposalId, r.evaluationId, r.evaluationTraceDigest,
    r.decisionDigest)

/-- `INSERT INTO exclusions`. -/
def insertExclusion (db : Database) (row : ExclusionRef) : Except PyError Database := do
  ensure (isDigestLength row.sourceEvaluationTraceDigest ∧
    isDigestLength row.sourceDecisionDigest ∧ isDigestLength row.exclusionDigest ∧
    row.sourceDecisionValue = .reject) checkViolation
  ensure (Fresh ExclusionRef.exclusionId db.exclusions row ∧
    Fresh ExclusionRef.idempotencyKey db.exclusions row ∧
    Fresh (fun r => (r.actionTypeKey, r.targetKey, r.sourceDecisionId)) db.exclusions row)
    uniqueViolation
  ensure (References ProposalRow.id db.proposals row.sourceProposalId ∧
    References (fun r => (r.id, r.proposalId, r.traceDigest)) db.evaluations
      (row.sourceEvaluationId, row.sourceProposalId, row.sourceEvaluationTraceDigest) ∧
    References DecisionRecord.binding db.decisions (row.sourceDecisionId, row.sourceDecisionValue,
      row.sourceProposalId, row.sourceEvaluationId, row.sourceEvaluationTraceDigest,
      row.sourceDecisionDigest)) referenceViolation
  return { db with exclusions := db.exclusions ++ [row] }

end GAM
