import GAM.Agent.Draft
import GAM.Governance.Strictness
import GAM.Memory.DependencyFacts
import GAM.Memory.Evidence
import GAM.Memory.Precedents

/-!
# The snapshot of a task

What `process_task` makes of the model's draft once the memory has answered: the precedents of the same
keys, the dependencies that local facts stand for, the capability that the captured evidence proves, the
proposal with its two digests and the finalized snapshot that the gate is given.
-/

namespace GAM
open Lib

/-- What the agent runs on: the database engine with its columns, and the libraries it calls. -/
class AgentEngine extends VectorEngine, ColumnTypes where
  /-- `str(UUID(value))`. -/
  parseUuid : String → Option String
  parseUuid_canonical : ∀ {s u}, parseUuid s = some u → isUuid u = true
  parseUuid_self : ∀ {u}, isUuid u = true → parseUuid u = some u
  /-- `str(uuid5(UUID(namespace), name))`. -/
  uuid5 : String → String → String
  uuid5_ascii : ∀ namespaceId name, isAscii (uuid5 namespaceId name)
  casefold : String → String
  /-- `openai.__version__`. -/
  openaiVersion : String
  /-- `ProposalDraftSchema.model_json_schema()`. -/
  modelJsonSchema : Value
  /-- The time that a delivered `TIMESTAMPTZ` stands for. -/
  instant : String → ℚ
  /-- `transaction_timestamp()` for a statement, by when it is sent. -/
  transactionTime : Nat → ℚ

/-- Python `MODEL_SNAPSHOT`. -/
def modelSnapshot : String := "gpt-4.1-mini-2025-04-14"

/-- Python `PROFILE_VERSION`. -/
def agentProfileVersion : String := "agent-loop/1.1"

section
variable [AgentEngine]

/-- Python `AgentConfig`; `__post_init__` checks `pinned`. -/
structure AgentConfig where
  modelSnapshot : String
  openaiSdkVersion : String
  promptVersion : String
  requestTimeoutSeconds : Decimal
  maxRetries : Int
  maxTaskBytes : Nat
  precedentTopK : Int
  similarityThreshold : Decimal
  gateConfigDigest : String
  pinned : modelSnapshot = GAM.modelSnapshot ∧ openaiSdkVersion = AgentEngine.openaiVersion ∧
    promptVersion ≠ "" ∧ (Decimal.finite false 5 0).le requestTimeoutSeconds = true ∧
    requestTimeoutSeconds.le (.finite false 30 0) = true ∧ 0 ≤ maxRetries ∧ maxRetries ≤ 2 ∧
    0 < maxTaskBytes ∧ precedentTopK = 5 ∧
    similarityThreshold.eqv (.finite false 85000000 (-8)) = true ∧
    gateConfigDigest = pinnedConfig.ruleConfigDigest

/-- What the stages before the evaluation hand on to it. -/
structure Task where
  proposalId : String
  evaluationId : String
  agentId : String
  sessionId : String
  parentProposalId : Option String
  sourceModifyDecisionId : Option String
  embedding : List Binary64
  inputDigest : String
  precedents : List PrecedentRef
  evidence : ToolEvidence
  draft : ProposalDraft

/-- Python `_policy`. -/
def agentPolicy : Except PyError PolicyInput := do
  let provisional : PolicyInput := ⟨agentProfileVersion, zeroDigest, []⟩
  return { provisional with policyDigest := ← policyInputDigest provisional }

/-- Python `_evidence_ref`. -/
def evidenceRef (evidence : ToolEvidence) : Except AgentError EvidenceRef := do
  ensure (evidence.toolName = "ccloud" ∧ isHex64 evidence.evidenceDigest = true)
    (.contract "tool evidence binding is invalid")
  return ⟨evidence.evidenceId, "ccloud_cluster", evidence.evidenceDigest⟩

/-- Python `_capability`. -/
def capability (evidence : ToolEvidence) (reference : EvidenceRef) :
    Except AgentError CapabilityFact := do
  ensure (evidence.observedState = "CREATED")
    (.contract "ccloud evidence does not prove a ready cluster")
  let digest ← (canonicalSha256 (.dict
    [("state", .str evidence.observedState),
      ("evidence_digest", .str evidence.evidenceDigest)])).mapError .python
  return { capabilityId := "cockroach_cluster_ready", subjectRef := "cluster:" ++ evidence.clusterName,
           state := .true, snapshotDigest := digest, evidenceRefs := [reference] }

/-- The dependency of a request on the fact with its key. -/
def requestedDependency (proposalId : String) (facts : List DependencyFact) (request : DependencyRequest) :
    Except AgentError DependencyRef :=
  match facts.find? fun fact => fact.dependencyKey = request.dependencyKey with
  | some fact => do
    ensure (fact.predicate = request.predicate)
      (.contract "required local dependency evidence is missing")
    return { dependencyId := AgentEngine.uuid5 proposalId request.dependencyKey,
             subjectRef := fact.subjectRef, predicate := request.predicate,
             expectedJson := request.expectedJson, observedJson := fact.observedValueJson,
             state := fact.state, snapshotDigest := fact.snapshotDigest,
             evidenceRefs := fact.evidenceRefs, necessaryForYes := request.necessaryForYes,
             sufficientIfTrue := request.sufficientIfTrue }
  | none => .error (.contract "required local dependency evidence is missing")

/-- Python `_dependencies`. -/
def dependenciesOf (proposalId : String) (requests : List DependencyRequest)
    (facts : List DependencyFact) : Except AgentError (List DependencyRef) := do
  ensure (facts.map DependencyFact.dependencyKey).Nodup
    (.contract "local dependency evidence is ambiguous")
  mapAll (requestedDependency proposalId facts) requests

/-- The precedents near enough that have the keys of the draft. -/
def exactPrecedents (config : AgentConfig) (actionKey targetKey : String)
    (precedents : List PrecedentRef) : List PrecedentRef :=
  precedents.filter fun item => item.similarity.any config.similarityThreshold.le = true ∧
    item.actionTypeKey = actionKey ∧ item.targetKey = targetKey

/-- The references of a proposal: the captured evidence, if the draft cites it. -/
def Task.refs (t : Task) (reference : EvidenceRef) : List EvidenceRef :=
  if t.draft.evidenceRefs = [] then [] else [reference]

/-- The proposal of a task before its digests. -/
def Task.provisional (t : Task) (reference : EvidenceRef) (actionKey targetKey : String)
    (dependencies : List DependencyRef) : Proposal where
  proposalId := t.proposalId
  parentProposalId := t.parentProposalId
  sourceModifyDecisionId := t.sourceModifyDecisionId
  sourceModifyDecisionValue := t.parentProposalId.map fun _ => .modify
  agentId := t.agentId
  sessionId := t.sessionId
  actionType := t.draft.actionType
  actionTypeKey := actionKey
  target := t.draft.target
  targetKey := targetKey
  reasoning := t.draft.reasoning
  purpose := t.draft.purpose
  parametersJson := t.draft.parameters.utf8
  impactAssessmentJson := t.draft.impactAssessment.utf8
  predictedOutcomeJson := t.draft.predictedOutcome.utf8
  evidenceRefs := t.refs reference
  dependencies := dependencies
  embedding := t.embedding
  embeddingModel := pinnedEmbeddingModel
  embeddingInputDigest := t.inputDigest
  actionDigest := zeroDigest
  proposalDigest := zeroDigest

/-- The proposal of a task. -/
def Task.proposal (t : Task) (reference : EvidenceRef) (actionKey targetKey : String)
    (dependencies : List DependencyRef) : Except PyError Proposal := do
  let provisional := t.provisional reference actionKey targetKey dependencies
  let acted := { provisional with actionDigest := ← proposalActionDigest provisional }
  return { acted with proposalDigest := ← proposalRecordDigest acted }

/-- The snapshot of a task, as the gate is given it. The identifier and the time are drawn. -/
def Task.snapshot (t : Task) (config : AgentConfig) (reference : EvidenceRef) (proposal : Proposal)
    (exclusions : List ExclusionRef) (snapshotId capturedAt : String) :
    Except AgentError EvaluationSnapshot := do
  let policy ← agentPolicy.mapError .python
  let ready ← capability t.evidence reference
  (finalizeSnapshot
    { evaluationId := t.evaluationId
      snapshotId := snapshotId
      profileVersion := some agentProfileVersion
      proposal := proposal
      policy := policy
      precedents :=
        exactPrecedents config proposal.actionTypeKey proposal.targetKey t.precedents
      exclusions := exclusions
      capabilities := [ready]
      dependencies := proposal.dependencies
      priorEvaluation := none
      capturedAt := capturedAt
      snapshotDigest := zeroDigest }).mapError .python

end

end GAM
