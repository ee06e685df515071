import GAM.Consequences.Compare
import GAM.Executor.Effect
import GAM.Memory.Columns
import GAM.Memory.Evidence

/-!
# Consequence reports

`report_consequence` and `_report_from_row`. A report holds three JSON texts: the two outcomes in
plain decimal notation and the leaves in the encoding with tagged decimals. Reading a row parses,
normalizes and prints each of them again and checks the digest of the report over the new texts.
-/

namespace GAM
open Lib

/-- The decimal of a value with finitely many places. -/
def decimalOf (q : ℚ) : Decimal :=
  let places := Nat.log2 q.den
  .finite (decide (q < 0)) (q.num.natAbs * 10 ^ places / q.den) (-places)

/-- The decimal of a value at six places, as `quantize` gives it. -/
def sixPlaces (q : ℚ) : Decimal := .finite false (q * 10 ^ 6).num.natAbs (-6)

instance : ToValue DivergenceLeaf :=
  ⟨fun l => .record
    [("json_pointer", toValue l.jsonPointer), ("predicted_present", toValue l.predictedPresent),
      ("actual_present", toValue l.actualPresent), ("kind", .str l.kind.text),
      ("score", .decimal (decimalOf l.score))]⟩

/-- Python `_DEFAULT_THRESHOLD`. -/
def defaultThreshold : Decimal := .finite false 500000 (-6)

section
variable [Platform]

/-- `_plain_json(_parse_json(text))`. -/
def outcomeText (text : String) : Except PyError String := do
  let value ← parseOutcome text
  plainOutcome value

/-- `canonical_json_bytes(_parse_json(text))`. -/
def leafText (text : String) : Except PyError String := do
  let value ← parseOutcome text
  canonicalJson value

/-- Python `_report_from_row`. -/
def reportFromRow (row : ConsequenceRow) : Except PyError ConsequenceReport := do
  let predicted ← outcomeText row.predictedOutcome
  let actual ← outcomeText row.actualOutcome
  let leaves ← leafText row.leafReport
  let report : ConsequenceReport :=
    { consequenceId := row.id, proposalId := row.proposalId, receiptId := row.receiptId,
      receiptTerminalStatus := row.receiptTerminalStatus, receiptDigest := row.receiptDigest,
      observationNumber := row.observationNumber,
      predictedSnapshotDigest := row.predictedSnapshotDigest,
      actualSnapshotDigest := row.actualSnapshotDigest,
      comparisonVersion := row.comparisonVersion, predictedOutcomeJson := predicted,
      actualOutcomeJson := actual, leafReportJson := leaves,
      divergenceScore := row.divergenceScore, divergenceThreshold := row.divergenceThreshold,
      divergenceSummary := row.divergenceSummary, reportedBy := row.reportedBy,
      reportDigest := row.reportDigest, idempotencyKey := row.idempotencyKey }
  let digest ← reportRecordDigest report
  ensure (report.reportDigest = digest) (.integrity "stored consequence report digest mismatch")
  return report

/-- What the query of `report_consequence` joins to a receipt. -/
structure ReceiptContext where
  receipt : ExecutionReceipt
  predictedOutcome : String
  evaluationStatus : EvaluationStatus
  demoEffectId : Option String

end

/-- The query of `report_consequence`; every join is on a primary key. -/
def receiptContext (db : Database) (receiptId : String) : Option ReceiptContext := do
  let receipt ← db.receipts.find? fun r => r.receiptId = receiptId
  let attempt ← db.attempts.find? fun a => a.attemptId = receipt.attemptId
  let _ ← db.decisions.find? fun d => d.decisionId = receipt.decisionId
  let evaluation ← db.evaluations.find? fun g => g.id = receipt.evaluationId
  let proposal ← db.proposals.find? fun p => p.id = receipt.proposalId
  return { receipt, predictedOutcome := proposal.predictedOutcome,
           evaluationStatus := evaluation.status, demoEffectId := attempt.demoEffectId }

section
variable [Platform]

/-- The report of an observation; `consequenceId` is the new identifier. -/
def buildReport (ctx : Context) (consequenceId : String) (context : ReceiptContext)
    (observationNumber : Int) (actualText reportedBy idempotencyKey : String) :
    Except PyError ConsequenceReport := do
  let receipt := context.receipt
  let digest ← GAM.receiptDigest receipt
  ensure (receipt.receiptDigest = digest) (.integrity "execution receipt digest mismatch")
  ensure (receipt.attemptTerminalStatus = .observed ∧ receipt.verified = true ∧
      receipt.afterEffectDigest ≠ none ∧ receipt.observedEffectVersion ≠ none ∧
      context.demoEffectId ≠ none ∧ context.evaluationStatus = .finalized)
    (.integrity "receipt does not bind an observed finalized effect")
  let predictedText ← outcomeText context.predictedOutcome
  let divergence ← compareJson ctx predictedText actualText defaultThreshold
  let leaves ← canonicalJson (.tuple (divergence.leaves.map toValue))
  let provisional : ConsequenceReport :=
    { consequenceId := consequenceId, proposalId := receipt.proposalId,
      receiptId := receipt.receiptId, receiptTerminalStatus := .observed,
      receiptDigest := receipt.receiptDigest, observationNumber := observationNumber,
      predictedSnapshotDigest := divergence.predictedDigest,
      actualSnapshotDigest := divergence.actualDigest,
      comparisonVersion := divergence.comparisonVersion, predictedOutcomeJson := predictedText,
      actualOutcomeJson := actualText, leafReportJson := leaves,
      divergenceScore := sixPlaces divergence.score, divergenceThreshold := divergence.threshold,
      divergenceSummary :=
        if divergence.threshold.value ≤ divergence.score then "MORE" else "LESS",
      reportedBy := reportedBy, reportDigest := zeroDigest, idempotencyKey := idempotencyKey }
  let digest ← reportRecordDigest provisional
  return { provisional with reportDigest := digest }

end

section
variable [ColumnTypes]

/-- Python `report_consequence`; `consequenceId` is what `uuid4` gives. -/
def reportConsequence (ctx : Context) (db : Store) (consequenceId receiptId : String)
    (observationNumber : Int) (actualOutcomeJson reportedBy idempotencyKey : String) :
    Except PyError (ConsequenceReport × Store) := do
  ensure (0 < observationNumber ∧ reportedBy ≠ "" ∧ idempotencyKey ≠ "")
    (.integrity "consequence identity fields are invalid")
  let actualText ← outcomeText actualOutcomeJson
  match db.consequences.find? fun row => row.idempotencyKey = idempotencyKey with
  | some existing => do
    let report ← reportFromRow existing
    ensure (report.receiptId = receiptId ∧ report.observationNumber = observationNumber ∧
        report.actualOutcomeJson = actualText ∧ report.reportedBy = reportedBy)
      (.conflict "consequence idempotency key conflicts")
    return (report, db)
  | none =>
    match receiptContext db.toDatabase receiptId with
    | none => corrupt "execution receipt was not found"
    | some context => do
      let report ← buildReport ctx consequenceId context observationNumber actualText reportedBy
        idempotencyKey
      let (_, db) ← appendConsequence db report
      return (report, db)

end

end GAM
