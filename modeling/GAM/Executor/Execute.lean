import GAM.Memory.Rows
import GAM.Executor.Effect

/-!
# Execution

The transactions of `ExecutorMemory.execute_demo_and_record`. `executeTransaction` answers a replay,
or loads the decision with its authority, appends the effect and records it as OBSERVED. When the
insert of the effect is refused with another SQLSTATE than 40001, the transaction is rolled back and
`errorTransaction` records the refusal as ERROR.
-/

namespace GAM
open Lib

/-- What a transaction takes from outside: identifiers of `uuid4`, the clock before and after, and
the SQLSTATE with which the engine refuses the effect, if it does. -/
structure Draw where
  effectId : String
  attemptId : String
  receiptId : String
  started : String
  finished : String
  fault : Option String
  effectId_uuid : isUuid effectId = true
  attemptId_uuid : isUuid attemptId = true
  receiptId_uuid : isUuid receiptId = true

/-- Python `_FailedEffect`. -/
structure FailedEffect where
  command : DemoExecutionCommand
  proposal : Proposal
  evaluation : CheckResult
  decision : DecisionRecord
  effectKey : String
  valueJson : String
  before : String

/-- How the transaction of an execution ends: with a receipt and a new store, or rolled back. -/
inductive Execution where
  | recorded (receipt : ExecutionReceipt) (db : Database)
  | rolledBack (failed : FailedEffect)

section
variable [Engine]

/-- The values of the columns of an effect. -/
def castEffect (row : EffectRow) : Except PyError EffectRow := do
  return { row with id := ← castUuid row.id, proposalId := ← castUuid row.proposalId,
                    evaluationId := ← castUuid row.evaluationId,
                    decisionId := ← castUuid row.decisionId,
                    priorEffectId := ← castOptUuid row.priorEffectId,
                    effectValue := ← castJsonb row.effectValue }

/-- The values of the columns of an attempt; the action type is the default of its column. The driver
encodes identifiers and times before the engine reads the documents. -/
def castAttempt (row : ExecutionAttempt) : Except PyError ExecutionAttempt := do
  return { row with attemptId := ← castUuid row.attemptId,
                    proposalId := ← castUuid row.proposalId,
                    evaluationId := ← castUuid row.evaluationId,
                    decisionId := ← castUuid row.decisionId, actionTypeKey := "set_demo_value",
                    startedAt := ← castTimestamp row.startedAt,
                    finishedAt := ← castTimestamp row.finishedAt,
                    demoEffectId := ← castOptUuid row.demoEffectId,
                    requestedValueJson := ← castJsonb row.requestedValueJson,
                    outcomeJson := ← castJsonb row.outcomeJson }

/-- The values of the columns of a receipt. -/
def castReceipt (row : ExecutionReceipt) : Except PyError ExecutionReceipt := do
  return { row with receiptId := ← castUuid row.receiptId, attemptId := ← castUuid row.attemptId,
                    proposalId := ← castUuid row.proposalId,
                    evaluationId := ← castUuid row.evaluationId,
                    decisionId := ← castUuid row.decisionId }

/-- The effect that an execution appends after the current one. -/
def nextEffect (failed : FailedEffect) (effectId : String) (prior : Option EffectRow)
    (effectDigest : String) : EffectRow where
  id := effectId
  proposalId := failed.proposal.proposalId
  evaluationId := failed.evaluation.evaluationId
  evaluationTraceDigest := failed.evaluation.traceDigest
  decisionId := failed.decision.decisionId
  decisionValue := .approve
  decisionDigest := failed.decision.decisionDigest
  actionTypeKey := "set_demo_value"
  targetKey := failed.proposal.targetKey
  effectKey := failed.effectKey
  effectVersion := prior.elim 1 fun row => row.effectVersion + 1
  priorEffectId := prior.map EffectRow.id
  priorEffectVersion := prior.map EffectRow.effectVersion
  beforeEffectDigest := failed.before
  effectValue := failed.valueJson
  effectDigest := effectDigest
  actionDigest := failed.proposal.actionDigest
  executorId := failed.command.executorId
  idempotencyKey := failed.command.idempotencyKey

/-- The digest of an effect in `_execute`. -/
def effectDigestOf (e : EffectRow) : Except PyError String :=
  canonicalSha256 (.dict
    [("schema", .str "gam.demo-effect.v1"), ("proposal_id", .str e.proposalId),
      ("evaluation_id", .str e.evaluationId),
      ("evaluation_trace_digest", .str e.evaluationTraceDigest),
      ("decision_id", .str e.decisionId), ("decision_digest", .str e.decisionDigest),
      ("action_digest", .str e.actionDigest), ("effect_key", .str e.effectKey),
      ("effect_version", .int e.effectVersion), ("target_key", .str e.targetKey),
      ("prior_effect_id", toValue e.priorEffectId),
      ("prior_effect_version", toValue e.priorEffectVersion),
      ("before_effect_digest", .str e.beforeEffectDigest), ("effect_value", .str e.effectValue),
      ("executor_id", .str e.executorId), ("idempotency_key", .str e.idempotencyKey)])

/-- Python `_insert_effect`. -/
def insertEffect (db : Database) (effect : EffectRow) (fault : Option String) :
    Except PyError Database := do
  let db ← match fault with
    | some sqlstate => .error (.sqlError sqlstate)
    | none => do
      let row ← castEffect effect
      insertEffectRow db row
  let id ← castUuid effect.id
  match db.effects.find? fun row => row.id = id with
  | none => .error (.integrity "effect read-back mismatch")
  | some observed => do
    let value ← databaseJson observed.effectValue
    ensure (observed.effectVersion = effect.effectVersion ∧ value = effect.effectValue ∧
      observed.effectDigest = effect.effectDigest) (.integrity "effect read-back mismatch")
    return db

/-- The attempt and its receipt are appended; the receipt is the answer. -/
def recordAttempt (db : Database) (draw : Draw) (provisional : ExecutionAttempt) :
    Except PyError (ExecutionReceipt × Database) := do
  let digest ← attemptDigest provisional
  let attempt := { provisional with attemptDigest := digest }
  let row ← castAttempt attempt
  let db ← insertAttempt db row
  let provisionalReceipt : ExecutionReceipt :=
    { receiptId := draw.receiptId, attemptId := attempt.attemptId, attemptDigest := digest,
      proposalId := attempt.proposalId, evaluationId := attempt.evaluationId,
      evaluationTraceDigest := attempt.evaluationTraceDigest, decisionId := attempt.decisionId,
      decisionValue := .approve, decisionDigest := attempt.decisionDigest,
      actionDigest := attempt.actionDigest, targetKey := attempt.targetKey,
      attemptTerminalStatus := attempt.terminalStatus, outcomeDigest := attempt.outcomeDigest,
      beforeEffectDigest := attempt.beforeEffectDigest,
      afterEffectDigest := attempt.afterEffectDigest,
      observedEffectVersion := attempt.observedEffectVersion, executorId := attempt.executorId,
      idempotencyKey := attempt.idempotencyKey, verified := true, receiptDigest := zeroDigest }
  let digest ← receiptDigest provisionalReceipt
  let receipt := { provisionalReceipt with receiptDigest := digest }
  let row ← castReceipt receipt
  let db ← insertReceipt db row
  return (receipt, db)

/-- The attempt of an effect, up to its outcome. -/
def attemptOf (failed : FailedEffect) (draw : Draw) (status : ExecutionStatus)
    (outcomeJson outcomeDigest : String) : ExecutionAttempt where
  attemptId := draw.attemptId
  proposalId := failed.proposal.proposalId
  evaluationId := failed.evaluation.evaluationId
  evaluationTraceDigest := failed.evaluation.traceDigest
  decisionId := failed.decision.decisionId
  decisionValue := .approve
  decisionDigest := failed.decision.decisionDigest
  actionTypeKey := failed.proposal.actionTypeKey
  actionDigest := failed.proposal.actionDigest
  targetKey := failed.proposal.targetKey
  effectKey := failed.effectKey
  requestedValueJson := failed.valueJson
  startedAt := draw.started
  finishedAt := draw.finished
  terminalStatus := status
  demoEffectId := none
  beforeEffectDigest := failed.before
  afterEffectDigest := none
  observedEffectVersion := none
  outcomeJson := outcomeJson
  outcomeDigest := outcomeDigest
  attemptDigest := zeroDigest
  executorId := failed.command.executorId
  idempotencyKey := failed.command.idempotencyKey
  errorCode := none
  safeMessage := none

/-- Python `_append_observed`. -/
def appendObserved (db : Database) (failed : FailedEffect) (draw : Draw) (effect : EffectRow) :
    Except PyError (ExecutionReceipt × Database) := do
  let outcomeJson := asciiObject
    [("after_effect_digest", .inl effect.effectDigest),
      ("before_effect_digest", .inl failed.before), ("demo_effect_id", .inl effect.id),
      ("effect_key", .inl failed.effectKey),
      ("observed_effect_version", .inr effect.effectVersion), ("status", .inl "OBSERVED")]
  let outcome ← jsonLoads outcomeJson
  let outcomeDigest ← canonicalSha256 outcome
  recordAttempt db draw
    { attemptOf failed draw .observed outcomeJson outcomeDigest with
      demoEffectId := some effect.id
      afterEffectDigest := some effect.effectDigest
      observedEffectVersion := some effect.effectVersion }

/-- Python `_append_error_chain`. -/
def appendErrorChain (db : Database) (failed : FailedEffect) (draw : Draw) :
    Except PyError (ExecutionReceipt × Database) := do
  let errorCode := "EFFECT_TRANSACTION_ROLLED_BACK"
  let safeMessage := "effect attempt was proven not committed"
  let outcomeJson := asciiObject
    [("before_effect_digest", .inl failed.before), ("effect_key", .inl failed.effectKey),
      ("error_code", .inl errorCode), ("safe_message", .inl safeMessage),
      ("status", .inl "ERROR")]
  let outcome ← jsonLoads outcomeJson
  let outcomeDigest ← canonicalSha256 outcome
  recordAttempt db draw
    { attemptOf failed draw .error outcomeJson outcomeDigest with
      errorCode := some errorCode
      safeMessage := some safeMessage }

/-- The operation of `ExecutorMemory._append_error`. -/
def errorTransaction (db : Database) (failed : FailedEffect) (draw : Draw) :
    Except PyError (ExecutionReceipt × Database) := do
  match db.receipts.find? fun row => row.idempotencyKey = failed.command.idempotencyKey with
  | some existing => do
    let receipt ← receiptOfRow existing
    ensure (receipt.decisionId = failed.decision.decisionId ∧
      receipt.attemptTerminalStatus = .error) (.executionBlocked "ERROR recovery binding conflicts")
    return (receipt, db)
  | none => do
    let id ← castUuid failed.decision.decisionId
    ensure (∀ effect ∈ db.effects, effect.decisionId ≠ id)
      (.executionBlocked "effect commit is ambiguous; ERROR is forbidden")
    appendErrorChain db failed draw

/-- The decision of an execution with its evaluation, joined by identifier. -/
def authority (db : Database) (decisionId : String) : Option (DecisionRecord × EvaluationRow) := do
  let decision ← db.decisions.find? fun row => row.decisionId = decisionId
  let evaluation ← db.evaluations.find? fun row => row.id = decision.evaluationId
  let _ ← db.proposals.find? fun row => row.id = decision.proposalId
  return (decision, evaluation)

/-- The records an execution rests on, loaded and compared. -/
def loadAuthority (db : Database) (command : DemoExecutionCommand) (decisionId : String) :
    Except PyError FailedEffect := do
  let (row, joined) ← match authority db decisionId with
    | some rows => .ok rows
    | none => blockExecution "approved decision was not found"
  let decision ← decisionOfRow row
  ensure (decision.decision = .approve) (.executionBlocked "only APPROVE can authorize execution")
  let proposal ← getProposal db decision.proposalId
  let evaluation ← match ← getEvaluation db decision.evaluationId with
    | .check evaluation => .ok evaluation
    | .blocked _ => blockExecution "decision evaluation is not finalized"
  let _ ← validateCheckResult evaluation
  ensure (evaluation.traceDigest = decision.evaluationTraceDigest ∧ joined.status = .finalized ∧
    joined.traceDigest = decision.evaluationTraceDigest)
    (.executionBlocked "execution authority binding mismatch")
  let proposalDigest ← proposalRecordDigest proposal
  ensure (proposal.proposalDigest = proposalDigest)
    (.executionBlocked "execution authority binding mismatch")
  let actionDigest ← proposalActionDigest proposal
  ensure (proposal.actionDigest = actionDigest)
    (.executionBlocked "execution authority binding mismatch")
  let (effectKey, valueJson) ← validateEffect proposal
  return { command, proposal, evaluation, decision, effectKey, valueJson,
           before := (db.currentEffect effectKey).elim zeroDigest EffectRow.effectDigest }

/-- The effect of an execution is appended and recorded. -/
def appendEffect (db : Database) (failed : FailedEffect) (draw : Draw) :
    Except PyError Execution := do
  let provisional := nextEffect failed draw.effectId (db.currentEffect failed.effectKey) zeroDigest
  let digest ← effectDigestOf provisional
  let effect := { provisional with effectDigest := digest }
  match insertEffect db effect draw.fault with
  | .ok db => do
    let (receipt, db) ← appendObserved db failed draw effect
    return .recorded receipt db
  | .error (.sqlError sqlstate) =>
    if sqlstate ≠ "40001" then return .rolledBack failed else .error (.sqlError sqlstate)
  | .error e => .error e

/-- The receipts that `_execute` looks up. -/
def Database.receiptsOf (db : Database) (key decisionId : String) : List ExecutionReceipt :=
  db.receipts.filter fun row => row.idempotencyKey = key ∨ row.decisionId = decisionId

/-- The receipt that answers an execution, if there is one. -/
def existingReceipt (db : Database) (key decisionId : String) :
    Except PyError (Option ExecutionReceipt) :=
  match db.receiptsOf key decisionId with
  | [] => .ok none
  | [existing] => .ok (some existing)
  | _ => blockExecution "execution receipt identity is ambiguous"

/-- Python `ExecutorMemory._execute`. -/
def executeTransaction (db : Database) (command : DemoExecutionCommand) (draw : Draw) :
    Except PyError Execution := do
  let decisionId ← castUuid command.decisionId
  let existing ← existingReceipt db command.idempotencyKey decisionId
  match existing with
  | some existing => do
    let receipt ← receiptOfRow existing
    ensure (receipt.decisionId = command.decisionId ∧ receipt.executorId = command.executorId)
      (.executionBlocked "execution idempotency binding conflicts")
    return .recorded receipt db
  | none => do
    let failed ← loadAuthority db command decisionId
    appendEffect db failed draw

/-- The checks of `execute_demo_and_record` before its transaction. -/
def checkCommand (executorId : String) (command : DemoExecutionCommand) : Except PyError Unit := do
  ensure (isUuid command.decisionId = true) (.executionBlocked "decision_id is invalid")
  ensure (isUuid command.idempotencyKey = true) (.executionBlocked "idempotency_key is invalid")
  ensure (command.executorId = executorId)
    (.executionBlocked "executor command identity mismatch")

end

end GAM
