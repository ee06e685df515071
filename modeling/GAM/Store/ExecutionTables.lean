import Mathlib.Data.List.MinMax
import GAM.Store.Tables

/-!
# Tables of execution

The effects, attempts and receipts of `schema/init.sql`. Their rows repeat what authorizes them: the
decision with its evaluation and trace digest, the action of the proposal, and for a receipt the
attempt and its outcome.
-/

namespace GAM
open Lib

/-- The pattern `^[a-z][a-z0-9_-]{0,63}$`. -/
def isEffectKey (key : String) : Bool :=
  match key.toList with
  | [] => false
  | c :: cs => ('a' ≤ c && c ≤ 'z') && cs.length ≤ 63 &&
      cs.all fun c => ('a' ≤ c && c ≤ 'z') || c.isDigit || c == '_' || c == '-'

/-- The JSON types of an effect value. -/
def isScalarType (type : String) : Bool :=
  type == "string" || type == "number" || type == "boolean" || type == "null"

/-- What a row that an action authorizes repeats of the proposal. -/
def ProposalRow.action (r : ProposalRow) : String × String × String × String :=
  (r.id, r.actionTypeKey, r.targetKey, r.actionDigest)

/-- The latest effect under a key. -/
def Database.currentEffect (db : Database) (key : String) : Option EffectRow :=
  List.argmax EffectRow.effectVersion (db.effects.filter fun r => r.effectKey = key)

/-- `INSERT INTO demo_kv`. -/
def insertEffectRow (db : Database) (row : EffectRow) : Except PyError Database := do
  ensure (row.decisionValue = .approve ∧ row.actionTypeKey = "set_demo_value" ∧
    0 < row.effectVersion) checkViolation
  ensure (isDigestLength row.actionDigest ∧ isDigestLength row.evaluationTraceDigest ∧
    isDigestLength row.decisionDigest ∧ isDigestLength row.beforeEffectDigest ∧
    isDigestLength row.effectDigest) checkViolation
  ensure (isScalarType (jsonbTypeof row.effectValue) ∧ row.targetKey = "demo_kv:" ++ row.effectKey ∧
    isEffectKey row.effectKey) checkViolation
  ensure ((row.effectVersion = 1 ∧ row.priorEffectId = none ∧ row.priorEffectVersion = none) ∨
    (1 < row.effectVersion ∧ row.priorEffectId ≠ none ∧
      row.priorEffectVersion = some (row.effectVersion - 1))) checkViolation
  ensure (Fresh EffectRow.id db.effects row ∧ Fresh EffectRow.idempotencyKey db.effects row ∧
    Fresh EffectRow.decisionId db.effects row ∧
    Fresh (fun r => (r.effectKey, r.effectVersion)) db.effects row) uniqueViolation
  ensure (References ProposalRow.action db.proposals
      (row.proposalId, row.actionTypeKey, row.targetKey, row.actionDigest) ∧
    References DecisionRecord.binding db.decisions (row.decisionId, row.decisionValue,
      row.proposalId, row.evaluationId, row.evaluationTraceDigest, row.decisionDigest))
    referenceViolation
  ensure (∀ prior ∈ row.priorEffectId, ∀ version ∈ row.priorEffectVersion,
    References (fun r => (r.id, r.effectKey, r.effectVersion, r.effectDigest)) (row :: db.effects)
      (prior, row.effectKey, version, row.beforeEffectDigest)) referenceViolation
  return { db with effects := db.effects ++ [row] }

/-- The row repeats the authority and the values of an effect. -/
def ExecutionAttempt.Observes (a : ExecutionAttempt) (r : EffectRow) : Prop :=
  a.demoEffectId = some r.id ∧ a.decisionId = r.decisionId ∧ a.proposalId = r.proposalId ∧
    a.evaluationId = r.evaluationId ∧ a.evaluationTraceDigest = r.evaluationTraceDigest ∧
    a.decisionDigest = r.decisionDigest ∧ a.actionDigest = r.actionDigest ∧
    a.effectKey = r.effectKey ∧ a.targetKey = r.targetKey ∧
    a.observedEffectVersion = some r.effectVersion ∧
    a.beforeEffectDigest = r.beforeEffectDigest ∧ a.afterEffectDigest = some r.effectDigest ∧
    a.executorId = r.executorId

instance {a : ExecutionAttempt} {r : EffectRow} : Decidable (a.Observes r) :=
  inferInstanceAs (Decidable (_ ∧ _))

/-- `INSERT INTO execution_attempts`. -/
def insertAttempt (db : Database) (row : ExecutionAttempt) : Except PyError Database := do
  ensure (row.decisionValue = .approve ∧ row.actionTypeKey = "set_demo_value") checkViolation
  ensure (row.startedAt ≤ row.finishedAt ∧
    ((row.terminalStatus = .observed ∧ row.demoEffectId ≠ none ∧ row.afterEffectDigest ≠ none ∧
        (∃ version ∈ row.observedEffectVersion, 0 < version) ∧ row.errorCode = none ∧
        row.safeMessage = none) ∨
      (row.terminalStatus = .error ∧ row.demoEffectId = none ∧ row.afterEffectDigest = none ∧
        row.observedEffectVersion = none ∧ row.errorCode ≠ none ∧ row.safeMessage ≠ none)))
    checkViolation
  ensure (isScalarType (jsonbTypeof row.requestedValueJson) ∧
    row.targetKey = "demo_kv:" ++ row.effectKey ∧ isEffectKey row.effectKey ∧
    jsonbTypeof row.outcomeJson = "object") checkViolation
  ensure (isDigestLength row.evaluationTraceDigest ∧ isDigestLength row.decisionDigest ∧
    isDigestLength row.actionDigest ∧ isDigestLength row.beforeEffectDigest ∧
    (∀ d ∈ row.afterEffectDigest, isDigestLength d) ∧ isDigestLength row.outcomeDigest ∧
    isDigestLength row.attemptDigest) checkViolation
  ensure (Fresh ExecutionAttempt.attemptId db.attempts row ∧
    Fresh ExecutionAttempt.idempotencyKey db.attempts row ∧
    ∀ r ∈ db.attempts, ∀ effect ∈ row.demoEffectId, r.demoEffectId ≠ some effect) uniqueViolation
  ensure (References DecisionRecord.binding db.decisions (row.decisionId, row.decisionValue,
      row.proposalId, row.evaluationId, row.evaluationTraceDigest, row.decisionDigest) ∧
    References ProposalRow.action db.proposals
      (row.proposalId, row.actionTypeKey, row.targetKey, row.actionDigest)) referenceViolation
  -- an ERROR attempt refers to no effect
  ensure (row.demoEffectId ≠ none ∧ row.observedEffectVersion ≠ none ∧
    row.afterEffectDigest ≠ none → ∃ r ∈ db.effects, row.Observes r) referenceViolation
  return { db with attempts := db.attempts ++ [row] }

/-- The row repeats the outcome of an attempt. -/
def ExecutionReceipt.Ends (r : ExecutionReceipt) (a : ExecutionAttempt) : Prop :=
  r.attemptId = a.attemptId ∧ r.attemptTerminalStatus = a.terminalStatus ∧
    r.outcomeDigest = a.outcomeDigest ∧ r.attemptDigest = a.attemptDigest

/-- The row repeats the authority of an attempt. -/
def ExecutionReceipt.Repeats (r : ExecutionReceipt) (a : ExecutionAttempt) : Prop :=
  r.attemptId = a.attemptId ∧ r.decisionId = a.decisionId ∧ r.proposalId = a.proposalId ∧
    r.evaluationId = a.evaluationId ∧ r.evaluationTraceDigest = a.evaluationTraceDigest ∧
    r.decisionDigest = a.decisionDigest ∧ r.actionDigest = a.actionDigest ∧
    r.targetKey = a.targetKey ∧ r.beforeEffectDigest = a.beforeEffectDigest ∧
    r.executorId = a.executorId

/-- The row repeats the observation of an attempt. -/
def ExecutionReceipt.Reports (r : ExecutionReceipt) (a : ExecutionAttempt) : Prop :=
  r.attemptId = a.attemptId ∧ r.attemptTerminalStatus = a.terminalStatus ∧
    r.afterEffectDigest = a.afterEffectDigest ∧ r.observedEffectVersion = a.observedEffectVersion

instance {r : ExecutionReceipt} {a : ExecutionAttempt} : Decidable (r.Ends a) :=
  inferInstanceAs (Decidable (_ ∧ _))

instance {r : ExecutionReceipt} {a : ExecutionAttempt} : Decidable (r.Repeats a) :=
  inferInstanceAs (Decidable (_ ∧ _))

instance {r : ExecutionReceipt} {a : ExecutionAttempt} : Decidable (r.Reports a) :=
  inferInstanceAs (Decidable (_ ∧ _))

/-- `INSERT INTO execution_receipts`. -/
def insertReceipt (db : Database) (row : ExecutionReceipt) : Except PyError Database := do
  ensure (row.decisionValue = .approve ∧ row.verified) checkViolation
  ensure ((row.attemptTerminalStatus = .observed ∧ row.afterEffectDigest ≠ none ∧
      ∃ version ∈ row.observedEffectVersion, 0 < version) ∨
    (row.attemptTerminalStatus = .error ∧ row.afterEffectDigest = none ∧
      row.observedEffectVersion = none)) checkViolation
  ensure (isDigestLength row.attemptDigest ∧ isDigestLength row.evaluationTraceDigest ∧
    isDigestLength row.decisionDigest ∧ isDigestLength row.actionDigest ∧
    isDigestLength row.outcomeDigest ∧ isDigestLength row.beforeEffectDigest ∧
    (∀ d ∈ row.afterEffectDigest, isDigestLength d) ∧ isDigestLength row.receiptDigest)
    checkViolation
  ensure (Fresh ExecutionReceipt.receiptId db.receipts row ∧
    Fresh ExecutionReceipt.idempotencyKey db.receipts row ∧
    Fresh ExecutionReceipt.attemptId db.receipts row) uniqueViolation
  ensure ((∃ a ∈ db.attempts, row.Ends a) ∧ (∃ a ∈ db.attempts, row.Repeats a) ∧
    References DecisionRecord.binding db.decisions (row.decisionId, row.decisionValue,
      row.proposalId, row.evaluationId, row.evaluationTraceDigest, row.decisionDigest))
    referenceViolation
  -- an ERROR receipt has no observation
  ensure (row.afterEffectDigest ≠ none ∧ row.observedEffectVersion ≠ none →
    ∃ a ∈ db.attempts, row.Reports a) referenceViolation
  return { db with receipts := db.receipts ++ [row] }

end GAM
