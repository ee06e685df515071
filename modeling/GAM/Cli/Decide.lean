import GAM.Executor.Effect
import GAM.Memory.Rows

/-!
# Decisions

`DeciderMemory.append_decision`. A decision names an evaluation; `exact_evaluation` loads the proposal
and the evaluation and checks that it is the latest finalized one, each in a transaction of its own,
and then the decision is inserted in another, with an exclusion if a rejection asks for one.
-/

namespace GAM
open Lib

/-- Python `CliBlocked`, raised. -/
def blockCli {α : Type} (message : String) : Except PyError α := .error (.cliBlocked message)

/-- Python `_text` of `cli.py`. -/
def checkCliText (value name : String) (maximum : Nat) : Except PyError Unit :=
  ensure (value ≠ "" ∧ isStripped value = true ∧ value.utf8ByteSize ≤ maximum)
    (.cliBlocked (name ++ " is invalid"))

/-- The arguments of `append_decision`. -/
structure DecisionRequest where
  proposalId : String
  evaluationId : String
  traceDigest : String
  decision : DecisionValue
  decidedBy : String
  rationale : String
  idempotencyKey : String
  exclusionRequested : Bool

/-- The identifiers `uuid4` gives to a decision and its exclusion. -/
structure DecisionDraw where
  decisionId : String
  exclusionId : String
  decisionId_uuid : isUuid decisionId = true
  exclusionId_uuid : isUuid exclusionId = true

/-- The checks of `append_decision` and `exact_evaluation` on their arguments. -/
def checkRequest (a : DecisionRequest) : Except PyError Unit := do
  ensure (a.exclusionRequested = true → a.decision = .reject)
    (.cliBlocked "only REJECT may request an exclusion")
  ensure (isUuid a.idempotencyKey = true) (.cliBlocked "idempotency_key is invalid")
  checkCliText a.decidedBy "decided_by" 256
  checkCliText a.rationale "rationale" 4096
  ensure (isUuid a.proposalId = true) (.cliBlocked "proposal_id is invalid")
  ensure (isUuid a.evaluationId = true) (.cliBlocked "evaluation_id is invalid")
  ensure (isHex64 a.traceDigest = true) (.cliBlocked "trace_digest is invalid")

/-- Every character of a text in ASCII; inside the tokens of `json.dumps` this is
`ensure_ascii=True`. -/
def asciiText (cs : List Char) : List Char :=
  cs.flatMap fun c => if c.toNat < 127 then [c] else asciiChars c

/-- Python `_conditions` of a text column. -/
def conditionsOf (text : String) : Except PyError String := do
  let parsed ← jsonLoads text
  match parsed with
  | .dict l => do
    let cs ← dumpsValue (.dict l)
    return String.ofList (asciiText cs)
  | _ => blockCli "decision conditions are invalid"

/-- The latest finalized evaluation of a proposal. -/
def Database.latestFinalized (db : Database) (proposalId : String) : Option EvaluationRow :=
  ((db.history proposalId).filter fun r => r.status = .finalized).getLast?

section
variable [Platform]

/-- Python `_decision_from_row`. -/
def decisionFromRow (row : DecisionRecord) : Except PyError DecisionRecord := do
  let conditions ← conditionsOf row.conditionsJson
  let record := { row with conditionsJson := conditions }
  let digest ← decisionDigest record
  ensure (record.decisionDigest = digest) (.cliBlocked "stored decision digest mismatch")
  return record

/-- Python `_exclusion_digest`. -/
def exclusionDigest (e : ExclusionRef) : Except PyError String :=
  canonicalSha256 (.dict
    [("schema", .str "gam.exclusion.v1"), ("action_type", .str e.actionType),
      ("action_type_key", .str e.actionTypeKey), ("target", .str e.target),
      ("target_key", .str e.targetKey), ("reason", .str e.reason),
      ("source_proposal_id", .str e.sourceProposalId),
      ("source_evaluation_id", .str e.sourceEvaluationId),
      ("source_evaluation_trace_digest", .str e.sourceEvaluationTraceDigest),
      ("source_decision_id", .str e.sourceDecisionId),
      ("source_decision_value", toValue e.sourceDecisionValue),
      ("source_decision_digest", .str e.sourceDecisionDigest),
      ("idempotency_key", .str e.idempotencyKey)])

/-- Python `DeciderMemory._load_exclusion`. -/
def loadExclusion (db : Database) (decision : DecisionRecord) :
    Except PyError (Option ExclusionRef) :=
  match db.exclusions.find? fun row => row.sourceDecisionId = decision.decisionId with
  | none => .ok none
  | some row => do
    let digest ← exclusionDigest row
    ensure (row.exclusionDigest = digest) (.cliBlocked "stored exclusion digest mismatch")
    return some row

/-- The evaluation a decision is about: finalized, valid and the named one. -/
def checkEvaluation (a : DecisionRequest) : EvaluationResult → Except PyError CheckResult
  | .blocked _ => blockCli "evaluation is not finalized"
  | .check r => do
    let r ← validateCheckResult r
    ensure (r.evaluationId = a.evaluationId ∧ r.traceDigest = a.traceDigest)
      (.cliBlocked "evaluation digest binding mismatch")
    return r

/-- The last transaction of `exact_evaluation`. -/
def checkLatest (db : Database) (a : DecisionRequest) : Except PyError Unit :=
  ensure (∃ latest ∈ db.latestFinalized a.proposalId, latest.id = a.evaluationId ∧
    latest.traceDigest = a.traceDigest) (.cliBlocked "evaluation is stale or superseded")

end

section
variable [Engine]

/-- The values of the columns of a decision. -/
def castDecision (row : DecisionRecord) : Except PyError DecisionRecord := do
  return { row with decisionId := ← castUuid row.decisionId,
                    proposalId := ← castUuid row.proposalId,
                    evaluationId := ← castUuid row.evaluationId,
                    conditionsJson := ← castJsonb row.conditionsJson }

/-- The values of the columns of an exclusion. -/
def castExclusion (row : ExclusionRef) : Except PyError ExclusionRef := do
  return { row with exclusionId := ← castUuid row.exclusionId,
                    sourceProposalId := ← castUuid row.sourceProposalId,
                    sourceEvaluationId := ← castUuid row.sourceEvaluationId,
                    sourceDecisionId := ← castUuid row.sourceDecisionId }

/-- Python `DeciderMemory._append_exclusion`. -/
def appendExclusion (db : Database) (p : Proposal) (decision : DecisionRecord)
    (exclusionId : String) : Except PyError (ExclusionRef × Database) := do
  let provisional : ExclusionRef :=
    { exclusionId := exclusionId, actionType := p.actionType, actionTypeKey := p.actionTypeKey,
      target := p.target, targetKey := p.targetKey, reason := decision.rationale,
      sourceProposalId := decision.proposalId, sourceEvaluationId := decision.evaluationId,
      sourceEvaluationTraceDigest := decision.evaluationTraceDigest,
      sourceDecisionId := decision.decisionId, sourceDecisionValue := .reject,
      sourceDecisionDigest := decision.decisionDigest, exclusionDigest := zeroDigest,
      idempotencyKey := "exclude:" ++
        sha256 ("gam.exclusion-idempotency.v1\x00" ++ decision.idempotencyKey) }
  let digest ← exclusionDigest provisional
  let exclusion := { provisional with exclusionDigest := digest }
  let row ← castExclusion exclusion
  let db ← insertExclusion db row
  return (exclusion, db)

/-- A decision that is stored already. -/
def replayDecision (db : Database) (a : DecisionRequest) (row : DecisionRecord) :
    Except PyError (DecisionRecord × Option ExclusionRef) := do
  let existing ← decisionFromRow row
  ensure (existing.proposalId = a.proposalId ∧ existing.evaluationId = a.evaluationId ∧
    existing.evaluationTraceDigest = a.traceDigest ∧ existing.decision = a.decision ∧
    existing.decidedBy = a.decidedBy ∧ existing.rationale = a.rationale)
    (.conflict "decision idempotency key conflicts")
  let exclusion ← loadExclusion db existing
  ensure (a.exclusionRequested = exclusion.isSome)
    (.conflict "decision exclusion replay conflicts")
  return (existing, exclusion)

/-- The record of a new decision. -/
def newDecision (a : DecisionRequest) (decisionId : String) : Except PyError DecisionRecord := do
  let provisional : DecisionRecord :=
    { decisionId := decisionId, proposalId := a.proposalId, evaluationId := a.evaluationId,
      evaluationTraceDigest := a.traceDigest, decision := a.decision, decidedBy := a.decidedBy,
      rationale := a.rationale, conditionsJson := "\x7b\x7d", decisionDigest := zeroDigest,
      idempotencyKey := a.idempotencyKey }
  let digest ← decisionDigest provisional
  return { provisional with decisionDigest := digest }

/-- The operation of `append_decision`. -/
def decideTransaction (db : Database) (a : DecisionRequest) (p : Proposal) (draw : DecisionDraw) :
    Except PyError ((DecisionRecord × Option ExclusionRef) × Database) := do
  match db.decisions.find? fun row => row.idempotencyKey = a.idempotencyKey with
  | some row => do
    let answer ← replayDecision db a row
    return (answer, db)
  | none => do
    let proposalId ← castUuid a.proposalId
    ensure (∀ row ∈ db.decisions, row.proposalId ≠ proposalId)
      (.cliBlocked "proposal already has a terminal decision")
    let record ← newDecision a draw.decisionId
    let row ← castDecision record
    let db ← insertDecision db row
    if a.exclusionRequested then
      let (exclusion, db) ← appendExclusion db p record draw.exclusionId
      return ((record, some exclusion), db)
    else return ((record, none), db)

/-- Python `DeciderMemory.append_decision`, without another client between its transactions. -/
def appendDecision (db : Database) (a : DecisionRequest) (draw : DecisionDraw) :
    Except PyError ((DecisionRecord × Option ExclusionRef) × Database) := do
  checkRequest a
  let proposal ← getProposal db a.proposalId
  let evaluation ← getEvaluation db a.evaluationId
  let _ ← checkEvaluation a evaluation
  checkLatest db a
  decideTransaction db a proposal draw

end

end GAM
