import GAM.Agent.ClusterDocument

/-!
# Captured tool evidence

`build_capture` binds the environment and the executable to the version artifact, runs the command, reduces
its output to the closure document, and assembles the payload of one capture and its digest.
`_tool_evidence` turns the payload into the record that the memory stores, and `capture_closure` stores its
row. The process, its environment and the clock are a `CaptureHost`.
-/

namespace GAM
open Lib

/-- What `build_capture` takes from a receipt; `bounded_process` blocks every other status. -/
structure ProcessReceipt where
  stdout : ByteArray
  rawOutputDigest : String
  exitStatus : Int
  succeeded : exitStatus = 0

/-- What a capture calls: the environment, the digest of the file that a path resolves to, the process that
is run with some arguments, the times as texts, and the text of a new identifier. -/
structure CaptureHost where
  environment : String → Option String
  executableDigest : String → Except CaptureError String
  boundedProcess : String → List String → Except CaptureError ProcessReceipt
  captured : String
  expires : String
  key : String

/-- Python `_required_environment`. -/
def CaptureHost.requiredEnvironment (host : CaptureHost) (name : String) : Except CaptureError String :=
  match host.environment name with
  | none | some "" => .error (.blocked ("required environment binding absent: " ++ name))
  | some value => .ok value

/-- The payload of a capture, with its digest. -/
structure CapturePayload where
  toolName : String
  toolVersion : String
  redactedCommandArgv : Value
  commandDigest : String
  helpDigest : String
  configDigest : String
  clusterName : String
  clusterNameDigest : String
  observedClusterIdDigest : String
  observedVersion : String
  observedState : String
  observedPlan : String
  observedCloud : String
  normalizedRedactedOutput : Value
  redactionManifest : Value
  rawOutputDigest : String
  normalizedOutputDigest : String
  exitStatus : Int
  capturedAt : String
  expiresAt : String
  capturedBy : String
  idempotencyKey : String
  evidenceDigest : String

/-- The members of a payload that are digested, with the three documents of a writer in place. -/
def CapturePayload.members (p : CapturePayload) (argv output manifest : Value) :
    List (String × Value) :=
  [("schema", .str "gam.tool-evidence.v1"), ("tool_name", .str p.toolName),
    ("tool_version", .str p.toolVersion), ("redacted_command_argv", argv),
    ("command_digest", .str p.commandDigest), ("help_digest", .str p.helpDigest),
    ("config_digest", .str p.configDigest), ("cluster_name", .str p.clusterName),
    ("cluster_name_digest", .str p.clusterNameDigest),
    ("observed_cluster_id_digest", .str p.observedClusterIdDigest),
    ("observed_version", .str p.observedVersion), ("observed_state", .str p.observedState),
    ("observed_plan", .str p.observedPlan), ("observed_cloud", .str p.observedCloud),
    ("normalized_redacted_output", output), ("redaction_manifest", manifest),
    ("raw_output_digest", .str p.rawOutputDigest),
    ("normalized_output_digest", .str p.normalizedOutputDigest), ("exit_status", .int p.exitStatus),
    ("captured_at", .str p.capturedAt), ("expires_at", .str p.expiresAt),
    ("captured_by", .str p.capturedBy), ("idempotency_key", .str p.idempotencyKey)]

/-- `{"schema": "gam.tool-evidence.v1", **digest_payload}`. -/
def CapturePayload.value (p : CapturePayload) : Value :=
  .dict (p.members p.redactedCommandArgv p.normalizedRedactedOutput p.redactionManifest)

section
variable [Platform]

/-- The flags that `build_capture` lets through. -/
def jsonFlags : List String := ["--output=json", "--format=json", "--json"]

/-- The payload before its digest is taken. -/
def capturePayload (host : CaptureHost) (artifact : VersionArtifact) (argv : Value)
    (target : ClusterDocument String) (redactions : List String) (receipt : ProcessReceipt)
    (commandDigest outputDigest : String) : CapturePayload :=
  { toolName := "ccloud", toolVersion := artifact.ccloudVersion, redactedCommandArgv := argv,
    commandDigest := commandDigest, helpDigest := artifact.ccloudHelpDigest,
    configDigest := artifact.ccloudConfigDigest, clusterName := boundClusterName,
    clusterNameDigest := sha256 boundClusterName, observedClusterIdDigest := target.clusterIdDigest,
    observedVersion := target.cockroachVersion, observedState := target.state,
    observedPlan := target.plan, observedCloud := target.cloud,
    normalizedRedactedOutput := target.value, redactionManifest := .list (redactions.map .str),
    rawOutputDigest := receipt.rawOutputDigest, normalizedOutputDigest := outputDigest,
    exitStatus := receipt.exitStatus, capturedAt := host.captured, expiresAt := host.expires,
    capturedBy := "ccloud-evidence-adapter", idempotencyKey := "ccloud-" ++ host.key,
    evidenceDigest := "" }

/-- The argument vector of a capture. -/
def captureArgv (artifact : VersionArtifact) : Value :=
  .list (["ccloud", "cluster", "info", boundClusterName, artifact.ccloudJsonFlag].map .str)

/-- Python `build_capture`. -/
def buildCapture (host : CaptureHost) (artifact : VersionArtifact) :
    Except CaptureError CapturePayload := do
  let clusterName ← host.requiredEnvironment "CCLOUD_CLUSTER_NAME"
  ensure (clusterName = boundClusterName) (.blocked "cluster name binding mismatch")
  let profile ← host.requiredEnvironment "CCLOUD_AUTH_PROFILE"
  let expectedId ← host.requiredEnvironment "CCLOUD_EXPECTED_CLUSTER_ID_DIGEST"
  let receiptDigest ← host.requiredEnvironment "CCLOUD_PROVISIONING_RECEIPT_DIGEST"
  ensure (sha256 profile = artifact.ccloudAuthProfileDigest) (.blocked "ccloud profile binding mismatch")
  ensure (expectedId = artifact.expectedClusterIdDigest) (.blocked "cluster ID binding mismatch")
  ensure (receiptDigest = artifact.provisioningReceiptDigest)
    (.blocked "provisioning receipt binding mismatch")
  let executable ← host.executableDigest artifact.ccloudExecutable
  ensure (executable = artifact.ccloudExecutableSha256)
    (.blocked "ccloud executable changed after preflight")
  ensure (artifact.ccloudJsonFlag ∈ jsonFlags) (.blocked "unbound ccloud JSON flag")
  let receipt ← host.boundedProcess artifact.ccloudExecutable
    ["cluster", "info", boundClusterName, artifact.ccloudJsonFlag]
  let (normalized, redactions) ←
    normalizeClusterDocument receipt.stdout artifact.ccloudVersion artifact.ccapiVersion
  let target ← validateTarget normalized artifact
  redactionGuard target.value
  let commandDigest ← canonicalDigest (captureArgv artifact)
  let outputDigest ← canonicalDigest target.value
  let payload := capturePayload host artifact (captureArgv artifact) target redactions receipt
    commandDigest outputDigest
  let digest ← canonicalDigest payload.value
  return { payload with evidenceDigest := digest }

/-- Python `_tool_evidence`. -/
def toolEvidence (payload : CapturePayload) (evidenceId : String) :
    Except CaptureError ToolEvidence := do
  return { evidenceId := evidenceId, toolName := payload.toolName, toolVersion := payload.toolVersion,
           redactedCommandArgvJson := ← canonicalBytes payload.redactedCommandArgv,
           commandDigest := payload.commandDigest, helpDigest := payload.helpDigest,
           configDigest := payload.configDigest, clusterName := payload.clusterName,
           clusterNameDigest := payload.clusterNameDigest,
           observedClusterIdDigest := payload.observedClusterIdDigest,
           observedVersion := payload.observedVersion, observedState := payload.observedState,
           observedPlan := payload.observedPlan, observedCloud := payload.observedCloud,
           normalizedRedactedOutputJson := ← canonicalBytes payload.normalizedRedactedOutput,
           redactionManifestJson := ← canonicalBytes payload.redactionManifest,
           rawOutputDigest := payload.rawOutputDigest,
           normalizedOutputDigest := payload.normalizedOutputDigest,
           exitStatus := payload.exitStatus, capturedAt := payload.capturedAt,
           expiresAt := payload.expiresAt, capturedBy := payload.capturedBy,
           evidenceDigest := payload.evidenceDigest, idempotencyKey := payload.idempotencyKey }

/-- The columns of what `_persist` binds: the documents are texts, the identifier and the times are values
already. -/
def castDocuments (row : ToolEvidenceRow) : Except PyError ToolEvidenceRow := do
  return { row with redactedCommandArgv := ← castJsonb row.redactedCommandArgv,
                    normalizedRedactedOutput := ← castJsonb row.normalizedRedactedOutput,
                    redactionManifest := ← castJsonb row.redactionManifest }

/-- Python `_persist`. -/
def persistEvidence (db : Store) (evidence : ToolEvidenceRow) : Except CaptureError Store := do
  let row ← (castDocuments evidence).mapError .python
  match db.toolEvidence.find? fun stored => stored.idempotencyKey = evidence.idempotencyKey with
  | some stored => do
    -- `ON CONFLICT (idempotency_key) DO NOTHING` returns no row, and the stored one is looked up
    ensure (stored.evidenceDigest = evidence.evidenceDigest) (.blocked "tool evidence read-back mismatch")
    return db
  | none => (insertToolEvidence db row).mapError .python

/-- Python `capture_closure`, for an identifier. The parameters are written as `_tool_evidence` writes them;
the times are bound as the `datetime`s of their texts, and a row has the texts that `_timestamp` prints of
these. -/
def captureClosure (host : CaptureHost) (artifact : VersionArtifact) (id : String) (db : Store) :
    Except CaptureError (CapturePayload × Store) := do
  let payload ← buildCapture host artifact
  let evidence ← toolEvidence payload id
  let db ← persistEvidence db (toolEvidenceArgs evidence)
  return (payload, db)

/-- The record that `get_latest_unexpired_tool_evidence` makes of a row; the timestamps are delivered as
their texts. -/
def toolEvidenceOfRow (row : ToolEvidenceRow) : Except PyError ToolEvidence := do
  return { evidenceId := row.id, toolName := row.toolName, toolVersion := row.toolVersion,
           redactedCommandArgvJson := ← plainJson (.str row.redactedCommandArgv),
           commandDigest := row.commandDigest, helpDigest := row.helpDigest,
           configDigest := row.configDigest, clusterName := row.clusterName,
           clusterNameDigest := row.clusterNameDigest,
           observedClusterIdDigest := row.observedClusterIdDigest,
           observedVersion := row.observedVersion, observedState := row.observedState,
           observedPlan := row.observedPlan, observedCloud := row.observedCloud,
           normalizedRedactedOutputJson := ← plainJson (.str row.normalizedRedactedOutput),
           redactionManifestJson := ← plainJson (.str row.redactionManifest),
           rawOutputDigest := row.rawOutputDigest,
           normalizedOutputDigest := row.normalizedOutputDigest, exitStatus := row.exitStatus,
           capturedAt := row.capturedAt, expiresAt := row.expiresAt, capturedBy := row.capturedBy,
           evidenceDigest := row.evidenceDigest, idempotencyKey := row.idempotencyKey }

/-- The record of the newest row, checked as it is read. -/
def readToolEvidence (row : ToolEvidenceRow) : Except PyError ToolEvidence := do
  let evidence ← toolEvidenceOfRow row
  validateToolEvidence evidence
  return evidence

end

end GAM
