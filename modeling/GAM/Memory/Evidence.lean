import GAM.Memory.Decode
import GAM.Store.MemoryTables
import GAM.Traces.Digest

/-!
# Reports and tool evidence

`append_consequence` and `append_tool_evidence`: a record is checked against its own digest, a key
that was used for the same digest answers with the stored identifier, and otherwise one row is
inserted.
-/

namespace GAM
open Lib

section
variable [Platform]

/-- `_record_digest(report, "gam.consequence-report.v1", "report_digest")`. -/
def reportRecordDigest (r : ConsequenceReport) : Except PyError String :=
  canonicalSha256
    (digestPayload [("schema", .str "gam.consequence-report.v1")] ["report_digest"] (toValue r))

/-- A report has a digest when its decimals have a text. -/
lemma reportRecordDigest_ok {r : ConsequenceReport} (score : Encodes (.decimal r.divergenceScore))
    (threshold : Encodes (.decimal r.divergenceThreshold)) :
    ∃ d, reportRecordDigest r = .ok d := by
  refine Encodes.digest ?_
  rw [show digestPayload _ _ (toValue r) = .dict _ from rfl, encodes_dict]
  · simp only [List.forall_mem_append, List.mem_cons, List.not_mem_nil, or_false, forall_eq]
    simp [toValue, score, threshold]
  · simp
  · simp only [List.forall_mem_append, List.mem_cons, List.not_mem_nil, or_false, forall_eq]
    simp
    decide

/-- Python `_validate_report`. -/
def validateReport (r : ConsequenceReport) : Except PyError Unit := do
  ensure (r.receiptTerminalStatus = .observed ∧ 0 < r.observationNumber)
    (.integrity "consequence report digest or receipt is invalid")
  let digest ← reportRecordDigest r
  ensure (r.reportDigest = digest) (.integrity "consequence report digest or receipt is invalid")

/-- Python `_json_sha256`. -/
def jsonSha256 (v : Value) : Except PyError String := do
  let text ← plainJson v
  return sha256 text

/-- Python `_tool_evidence_digest`. -/
def toolEvidenceDigest (e : ToolEvidence) : Except PyError String := do
  let argv ← loaded (.str e.redactedCommandArgvJson)
  let output ← loaded (.str e.normalizedRedactedOutputJson)
  let manifest ← loaded (.str e.redactionManifestJson)
  jsonSha256 (.dict
    [("schema", .str "gam.tool-evidence.v1"), ("tool_name", .str e.toolName),
      ("tool_version", .str e.toolVersion), ("redacted_command_argv", argv),
      ("command_digest", .str e.commandDigest), ("help_digest", .str e.helpDigest),
      ("config_digest", .str e.configDigest), ("cluster_name", .str e.clusterName),
      ("cluster_name_digest", .str e.clusterNameDigest),
      ("observed_cluster_id_digest", .str e.observedClusterIdDigest),
      ("observed_version", .str e.observedVersion), ("observed_state", .str e.observedState),
      ("observed_plan", .str e.observedPlan), ("observed_cloud", .str e.observedCloud),
      ("normalized_redacted_output", output), ("redaction_manifest", manifest),
      ("raw_output_digest", .str e.rawOutputDigest),
      ("normalized_output_digest", .str e.normalizedOutputDigest),
      ("exit_status", .int e.exitStatus), ("captured_at", .str e.capturedAt),
      ("expires_at", .str e.expiresAt), ("captured_by", .str e.capturedBy),
      ("idempotency_key", .str e.idempotencyKey)])

/-- Python `CCLOUD_CLUSTER_NAME`. -/
def ccloudClusterName : String := "kingly-dreamer"

/-- Python `_validate_tool_evidence`. -/
def validateToolEvidence (e : ToolEvidence) : Except PyError Unit := do
  ensure (e.toolName = "ccloud" ∧ e.clusterName = ccloudClusterName ∧
    e.clusterNameDigest = sha256 ccloudClusterName ∧ e.exitStatus = 0)
    (.integrity "tool evidence binding is invalid")
  let digest ← toolEvidenceDigest e
  ensure (e.evidenceDigest = digest) (.integrity "tool evidence binding is invalid")

end

/-- The parameters of the insert, under the column names. -/
def consequenceArgs (r : ConsequenceReport) : ConsequenceRow where
  id := r.consequenceId
  proposalId := r.proposalId
  receiptId := r.receiptId
  receiptTerminalStatus := r.receiptTerminalStatus
  receiptDigest := r.receiptDigest
  observationNumber := r.observationNumber
  predictedSnapshotDigest := r.predictedSnapshotDigest
  actualSnapshotDigest := r.actualSnapshotDigest
  comparisonVersion := r.comparisonVersion
  predictedOutcome := r.predictedOutcomeJson
  actualOutcome := r.actualOutcomeJson
  leafReport := r.leafReportJson
  divergenceScore := r.divergenceScore
  divergenceThreshold := r.divergenceThreshold
  divergenceSummary := r.divergenceSummary
  reportedBy := r.reportedBy
  reportDigest := r.reportDigest
  idempotencyKey := r.idempotencyKey

/-- The parameters of the insert, under the column names. -/
def toolEvidenceArgs (e : ToolEvidence) : ToolEvidenceRow where
  id := e.evidenceId
  toolName := e.toolName
  toolVersion := e.toolVersion
  redactedCommandArgv := e.redactedCommandArgvJson
  commandDigest := e.commandDigest
  helpDigest := e.helpDigest
  configDigest := e.configDigest
  clusterName := e.clusterName
  clusterNameDigest := e.clusterNameDigest
  observedClusterIdDigest := e.observedClusterIdDigest
  observedVersion := e.observedVersion
  observedState := e.observedState
  observedPlan := e.observedPlan
  observedCloud := e.observedCloud
  normalizedRedactedOutput := e.normalizedRedactedOutputJson
  redactionManifest := e.redactionManifestJson
  rawOutputDigest := e.rawOutputDigest
  normalizedOutputDigest := e.normalizedOutputDigest
  exitStatus := e.exitStatus
  capturedAt := e.capturedAt
  expiresAt := e.expiresAt
  capturedBy := e.capturedBy
  evidenceDigest := e.evidenceDigest
  idempotencyKey := e.idempotencyKey

section
variable [ColumnTypes]

/-- The values of the columns of a report. -/
def castConsequence (row : ConsequenceRow) : Except PyError ConsequenceRow := do
  return { row with id := ← castUuid row.id, proposalId := ← castUuid row.proposalId,
                    receiptId := ← castUuid row.receiptId,
                    predictedOutcome := ← castJsonb row.predictedOutcome,
                    actualOutcome := ← castJsonb row.actualOutcome,
                    leafReport := ← castJsonb row.leafReport,
                    divergenceScore := ← ColumnTypes.decimal row.divergenceScore,
                    divergenceThreshold := ← ColumnTypes.decimal row.divergenceThreshold }

/-- Python `AppMemory.append_consequence`. -/
def appendConsequence (db : Store) (r : ConsequenceReport) : Except PyError (String × Store) := do
  validateReport r
  match db.consequences.find? fun row => row.idempotencyKey = r.idempotencyKey with
  | some existing => do
    ensure (existing.reportDigest = r.reportDigest)
      (.conflict "consequence idempotency key conflicts")
    return (existing.id, db)
  | none => do
    let row ← castConsequence (consequenceArgs r)
    let db ← insertConsequence db row
    return (r.consequenceId, db)

/-- The values of the columns of tool evidence. -/
def castToolEvidence (row : ToolEvidenceRow) : Except PyError ToolEvidenceRow := do
  return { row with id := ← castUuid row.id,
                    capturedAt := ← castTimestamp row.capturedAt,
                    expiresAt := ← castTimestamp row.expiresAt,
                    redactedCommandArgv := ← castJsonb row.redactedCommandArgv,
                    normalizedRedactedOutput := ← castJsonb row.normalizedRedactedOutput,
                    redactionManifest := ← castJsonb row.redactionManifest }

/-- Python `AppMemory.append_tool_evidence`. -/
def appendToolEvidence (db : Store) (e : ToolEvidence) : Except PyError (String × Store) := do
  validateToolEvidence e
  match db.toolEvidence.find? fun row => row.idempotencyKey = e.idempotencyKey with
  | some existing => do
    ensure (existing.evidenceDigest = e.evidenceDigest)
      (.conflict "tool evidence idempotency key conflicts")
    return (existing.id, db)
  | none => do
    let row ← castToolEvidence (toolEvidenceArgs e)
    let db ← insertToolEvidence db row
    return (e.evidenceId, db)

end

end GAM
