import GAM.Store.Engine
import GAM.Store.Tables

/-!
# Facts, reports and tool evidence

The three tables that the application appends to beside proposals and evaluations, with the
constraints of `init.sql`. `Store` is the whole store of the application's memory.
-/

namespace GAM
open Lib

/-- What the remaining column type makes of a value: `DECIMAL(7,6)` keeps a number of six decimal places
that it accepts. -/
class ColumnTypes extends Engine where
  decimal : Decimal → Except PyError Decimal
  decimal_places : ∀ {coeff : Nat} {d : Decimal}, decimal (.finite false coeff (-6)) = .ok d →
    d = .finite false coeff (-6)

/-- Columns that keep what is written. -/
@[reducible] def asciiColumns : ColumnTypes :=
  { asciiEngine with
    decimal := .ok
    decimal_places := fun h => (Except.ok.inj h).symm }

/-- Columns that keep what is written, behind a connection that takes times as texts. -/
@[reducible] def codecColumns : ColumnTypes :=
  { codecEngine with
    decimal := .ok
    decimal_places := fun h => (Except.ok.inj h).symm }

/-- A row of `dependency_facts`. -/
structure FactRow where
  id : String
  dependencyKey : String
  factVersion : Nat
  priorFactId : Option String
  priorFactVersion : Option Nat
  subjectRef : String
  predicate : String
  observedValue : Option String
  state : DependencyState
  snapshotDigest : String
  evidenceRefs : String
  recordedBy : String
  factDigest : String
  idempotencyKey : String
deriving DecidableEq, Repr

/-- A row of `consequence_reports`. -/
structure ConsequenceRow where
  id : String
  proposalId : String
  receiptId : String
  receiptTerminalStatus : ExecutionStatus
  receiptDigest : String
  observationNumber : Int
  predictedSnapshotDigest : String
  actualSnapshotDigest : String
  comparisonVersion : String
  predictedOutcome : String
  actualOutcome : String
  leafReport : String
  divergenceScore : Decimal
  divergenceThreshold : Decimal
  divergenceSummary : String
  reportedBy : String
  reportDigest : String
  idempotencyKey : String
deriving DecidableEq, Repr

/-- A row of `tool_evidence`. -/
structure ToolEvidenceRow where
  id : String
  toolName : String
  toolVersion : String
  redactedCommandArgv : String
  commandDigest : String
  helpDigest : String
  configDigest : String
  clusterName : String
  clusterNameDigest : String
  observedClusterIdDigest : String
  observedVersion : String
  observedState : String
  observedPlan : String
  observedCloud : String
  normalizedRedactedOutput : String
  redactionManifest : String
  rawOutputDigest : String
  normalizedOutputDigest : String
  exitStatus : Int
  capturedAt : String
  expiresAt : String
  capturedBy : String
  evidenceDigest : String
  idempotencyKey : String
deriving DecidableEq, Repr

/-- The tables of the memory. -/
structure Store extends Database where
  facts : List FactRow := []
  consequences : List ConsequenceRow := []
  toolEvidence : List ToolEvidenceRow := []

/-- `INSERT INTO dependency_facts`. -/
def insertFact (db : Store) (row : FactRow) : Except PyError Store := do
  ensure (0 < row.factVersion) checkViolation
  ensure ((row.state = .unresolved ∧ row.observedValue = none) ∨
    (row.state ≠ .unresolved ∧ row.observedValue ≠ none)) checkViolation
  ensure (jsonbTypeof row.evidenceRefs = "array" ∧ isDigestLength row.snapshotDigest ∧
    isDigestLength row.factDigest) checkViolation
  ensure ((row.factVersion = 1 ∧ row.priorFactId = none ∧ row.priorFactVersion = none) ∨
    (1 < row.factVersion ∧ row.priorFactId ≠ none ∧
      row.priorFactVersion = some (row.factVersion - 1))) checkViolation
  ensure (Fresh FactRow.id db.facts row ∧ Fresh FactRow.idempotencyKey db.facts row ∧
    Fresh (fun r => (r.dependencyKey, r.factVersion)) db.facts row) uniqueViolation
  ensure (∀ prior ∈ row.priorFactId, ∀ version ∈ row.priorFactVersion,
    References (fun r => (r.id, r.dependencyKey, r.factVersion)) (row :: db.facts)
      (prior, row.dependencyKey, version)) referenceViolation
  return { db with facts := db.facts ++ [row] }

/-- `INSERT INTO consequence_reports`. -/
def insertConsequence (db : Store) (row : ConsequenceRow) : Except PyError Store := do
  ensure (row.receiptTerminalStatus = .observed ∧ 0 < row.observationNumber) checkViolation
  ensure (jsonbTypeof row.leafReport = "array") checkViolation
  ensure (row.divergenceScore.isFinite ∧ 0 ≤ row.divergenceScore.value ∧
    row.divergenceScore.value ≤ 1 ∧ row.divergenceThreshold.isFinite ∧
    row.divergenceThreshold.value = 1 / 2) checkViolation
  ensure (isDigestLength row.reportDigest ∧ isDigestLength row.predictedSnapshotDigest ∧
    isDigestLength row.actualSnapshotDigest ∧ isDigestLength row.receiptDigest) checkViolation
  ensure (Fresh ConsequenceRow.id db.consequences row ∧
    Fresh ConsequenceRow.idempotencyKey db.consequences row ∧
    Fresh (fun r => (r.receiptId, r.observationNumber)) db.consequences row) uniqueViolation
  ensure (References ProposalRow.id db.proposals row.proposalId ∧
    References (fun r : ExecutionReceipt =>
        (r.receiptId, r.proposalId, r.attemptTerminalStatus, r.receiptDigest)) db.receipts
      (row.receiptId, row.proposalId, row.receiptTerminalStatus, row.receiptDigest))
    referenceViolation
  return { db with consequences := db.consequences ++ [row] }

/-- `INSERT INTO tool_evidence`. -/
def insertToolEvidence (db : Store) (row : ToolEvidenceRow) : Except PyError Store := do
  ensure (row.toolName = "ccloud" ∧ jsonbTypeof row.redactedCommandArgv = "array" ∧
    row.clusterName = "kingly-dreamer" ∧ jsonbTypeof row.redactionManifest = "array" ∧
    row.exitStatus = 0) checkViolation
  ensure (isDigestLength row.commandDigest ∧ isDigestLength row.helpDigest ∧
    isDigestLength row.configDigest ∧ isDigestLength row.clusterNameDigest ∧
    isDigestLength row.observedClusterIdDigest ∧ isDigestLength row.rawOutputDigest ∧
    isDigestLength row.normalizedOutputDigest ∧ isDigestLength row.evidenceDigest ∧
    jsonbTypeof row.normalizedRedactedOutput = "object") checkViolation
  ensure (row.capturedAt < row.expiresAt) checkViolation
  ensure (Fresh ToolEvidenceRow.id db.toolEvidence row ∧
    Fresh ToolEvidenceRow.idempotencyKey db.toolEvidence row) uniqueViolation
  return { db with toolEvidence := db.toolEvidence ++ [row] }

end GAM
