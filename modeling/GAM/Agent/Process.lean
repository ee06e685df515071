import GAM.Agent.Capture
import GAM.Agent.Embeddings
import GAM.Agent.Task
import GAM.Lib.Program
import GAM.Memory.Rows
import GAM.Memory.Transaction

/-!
# `process_task`

The coroutine in its six stages. A world is the session of the agent's memory with the external calls
that were made so far. Each stage runs under its own `except Exception`; the calls of the memory are units
of the session, each under the retry envelope or in a transaction, and whatever a unit is asked for may
fail. The collaborators, the drawn identifiers and the times are parameters.
-/

namespace GAM
open Lib

/-- What a task can raise; `interrupt` is an exception that `except Exception` does not catch. -/
inductive TaskError where
  | agent (e : AgentError)
  | interrupt
deriving DecidableEq, Repr

instance : PyException TaskError where
  isException
    | .agent _ => true
    | .interrupt => false
  sqlstate
    | .agent (.python (.sqlError sqlstate)) => some sqlstate
    | _ => none
  memoryIntegrity message := .agent (.python (.integrity message))
  connectionReleased := .agent (.python .valueError)

/-- The calls that leave the process. -/
inductive ExternalCall where
  | embed
  | capture
  | respond
deriving DecidableEq, Repr

/-- The session of the memory and the external calls so far. -/
structure World where
  session : Session Store TaskError
  calls : List ExternalCall

/-- What a coroutine of the agent does to a world. -/
abbrev Process (α : Type) : Type := Program World TaskError α

namespace Process
variable {α β : Type}

/-- A computation of the agent. -/
def agent (x : Except AgentError α) : Process α := Program.lift (x.mapError .agent)

/-- A computation of the other modules. -/
def python (x : Except PyError α) : Process α := agent (x.mapError .python)

/-- A call that leaves the process, with its outcome. -/
def external (call : ExternalCall) (x : Except TaskError α) : Process α := fun w =>
  (x, { w with calls := w.calls ++ [call] })

/-- An operation of the memory. -/
def memory (m : AppMemory) (op : Operation Store TaskError α) : Process α := fun w =>
  let (r, session) := op.run m w.session
  (r, { w with session := session })

/-- `try: body` with `except Exception: return answer`, and what follows. -/
def stage (body : Process α) (answer : Process β) (next : α → Process β) : Process β :=
  Program.attempt PyException.isException body answer next

end Process

/-- A statement of the store. -/
def statement {α : Type} (f : Nat → Store → Except AgentError (α × Store)) :
    Operation Store TaskError α :=
  .execute fun n db => (f n db).mapError .agent

/-- A statement that reads. -/
def query {α : Type} (f : Nat → Store → Except AgentError α) : Operation Store TaskError α :=
  statement fun n db => do
    let a ← f n db
    return (a, db)

/-- A computation between statements. -/
def compute {α : Type} (x : Except AgentError α) : Operation Store TaskError α :=
  match x with
  | .ok a => .done a
  | .error e => .raise (.agent e)

/-- What the model's response holds, with `getattr` of what is absent. -/
structure ModelResponse (α : Type) where
  id : Value
  model : Option String
  outputParsed : Option (ModelOutput α)

/-- What a task calls outside: the embedding, the capture of evidence and the model. -/
structure Collaborators (α : Type) where
  /-- `EmbeddingConfig.from_env`. -/
  embeddingConfig : Except TaskError Unit
  embed : String → Except TaskError (List Binary64)
  capture : Except TaskError ToolEvidence
  /-- `_CLIENT_FACTORY(config)`. -/
  client : Except TaskError Unit
  /-- `responses.parse` on the text of the user's message. -/
  parse : String → Except TaskError (ModelResponse α)
  modelValidate : α → Option ProposalDraftSchema

/-- The identifiers and times that a task draws. -/
structure TaskDraws where
  proposalId : String
  evaluationId : String
  snapshotId : String
  startedAt : String
  completedAt : String
  capturedAt : String
  proposal_isUuid : isUuid proposalId = true
  evaluation_isUuid : isUuid evaluationId = true

/-- The arguments of `process_task`. -/
structure TaskArgs where
  taskDescription : String
  requestId : String
  agentId : String
  sessionId : String
  requesterRef : String
  parentProposalId : Option String
  sourceModifyDecisionId : Option String

/-- Python `AgentStage`. -/
inductive AgentStage where
  | input
  | embedding
  | ccloud
  | openai
  | validation
  | persistence
deriving DecidableEq, Repr

/-- The name of a stage in a result. -/
def AgentStage.name : AgentStage → String
  | .input => "INPUT"
  | .embedding => "EMBEDDING"
  | .ccloud => "CCLOUD"
  | .openai => "OPENAI"
  | .validation => "VALIDATION"
  | .persistence => "PERSISTENCE"

/-- The error code of a stage. -/
def AgentStage.errorCode : AgentStage → String
  | .input => "INVALID_INPUT"
  | .embedding => "EMBEDDING_FAILED"
  | .ccloud => "CCLOUD_EVIDENCE_FAILED"
  | .openai => "OPENAI_OUTPUT_BLOCKED"
  | .validation => "LOCAL_VALIDATION_FAILED"
  | .persistence => "ATOMIC_PERSISTENCE_FAILED"

/-- The message of a stage. -/
def AgentStage.safeMessage : AgentStage → String
  | .input => "agent input validation failed"
  | .embedding => "embedding or precedent retrieval failed"
  | .ccloud => "fresh ccloud evidence is unavailable"
  | .openai => "OpenAI response was unavailable or invalid"
  | .validation => "proposal or gate input validation failed"
  | .persistence => "proposal and evaluation were not committed"

/-- Python `AgentBlockedResult`. -/
structure AgentBlockedResult where
  requestId : String
  stage : AgentStage
  taskDigest : String
  agentConfigDigest : String
  errorCode : String
  safeMessage : String
  attemptDigest : String

/-- The fields that `AgentResult` and `AgentGateBlockedResult` share. -/
structure AgentReceipt where
  proposalId : String
  evaluationId : String
  traceDigest : String
  proposalDigest : String
  openaiCallDigest : String
  toolEvidenceRefs : List String

/-- What `process_task` returns. -/
inductive TaskOutcome where
  /-- Python `AgentResult`. -/
  | result (receipt : AgentReceipt) (checkResult : CheckResult)
  /-- Python `AgentGateBlockedResult`. -/
  | gateBlocked (receipt : AgentReceipt) (blockedResult : BlockedResult)
  | blocked (r : AgentBlockedResult)


/-- Python `PROMPT_TEMPLATE`. -/
def promptTemplate : String :=
  "You draft non-authoritative action proposals only.\n" ++
  "Return only the strict ProposalDraft schema. Never decide, approve, promote,\n" ++
  "execute, or provide verdict, risk, trace, witness, receipt, command, credential,\n" ++
  "or authority fields. Evidence references must come from the supplied allowlist.\n" ++
  "Encode predicted_outcome, parameters, impact_assessment, and dependency\n" ++
  "expected_json values as JSON strings. Parameters must decode to a JSON object.\n"

instance : ToValue DependencyRequest :=
  ⟨fun r => .record
    [("dependency_key", toValue r.dependencyKey), ("predicate", toValue r.predicate),
      ("expected_json", toValue r.expectedJson),
      ("necessary_for_yes", toValue r.necessaryForYes),
      ("sufficient_if_true", toValue r.sufficientIfTrue)]⟩

section
variable [AgentEngine] {α : Type}

/-- The property `digest` of a configuration. -/
def AgentConfig.digest (config : AgentConfig) : Except PyError String :=
  canonicalSha256 (.dict
    [("schema", .str "gam.agent-config.v1"), ("model_snapshot", .str config.modelSnapshot),
      ("openai_sdk_version", .str config.openaiSdkVersion),
      ("prompt_version", .str config.promptVersion),
      ("request_timeout_seconds", .decimal config.requestTimeoutSeconds),
      ("max_retries", .int config.maxRetries), ("max_task_bytes", .int config.maxTaskBytes),
      ("precedent_top_k", .int config.precedentTopK),
      ("similarity_threshold", .decimal config.similarityThreshold),
      ("gate_config_digest", .str config.gateConfigDigest)])

/-- Python `_blocked` of `agent.py`. -/
def agentBlocked (requestId : String) (stage : AgentStage) (taskDigest configDigest : String) :
    Except PyError AgentBlockedResult := do
  let attemptDigest ← canonicalSha256 (.dict
    [("schema", .str "gam.agent-blocked.v1"), ("request_id", .str requestId),
      ("stage", .str stage.name), ("task_digest", .str taskDigest),
      ("agent_config_digest", .str configDigest), ("error_code", .str stage.errorCode),
      ("safe_message", .str stage.safeMessage)])
  return ⟨requestId, stage, taskDigest, configDigest, stage.errorCode, stage.safeMessage, attemptDigest⟩

/-- The answer of a stage that raised. -/
def blockedAt (requestId : String) (stage : AgentStage) (taskDigest configDigest : String) :
    Process TaskOutcome := do
  let r ← Process.python (agentBlocked requestId stage taskDigest configDigest)
  return .blocked r

/-! ### `INPUT` -/

/-- Python `_uuid` of `agent.py`. -/
def agentUuid (value name : String) : Except AgentError String :=
  match AgentEngine.parseUuid value with
  | none => .error (.contract (name ++ " is not a UUID"))
  | some parsed => do
    ensure (parsed = value) (.contract (name ++ " is not canonical"))
    return value

/-- The arguments of a task in canonical form. -/
structure TaskInput where
  task : String
  agentId : String
  sessionId : String
  requesterRef : String
  taskDigest : String

/-- The input stage up to the digest of the task. -/
def inputTexts (config : AgentConfig) (args : TaskArgs) : Except AgentError TaskInput := do
  let _ ← agentUuid args.requestId "request_id"
  let task ← agentText args.taskDescription "task" config.maxTaskBytes
  let agentId ← agentText args.agentId "agent_id" 256
  let sessionId ← agentText args.sessionId "session_id" 256
  let requesterRef ← agentText args.requesterRef "requester_ref" 256
  let taskDigest ← (canonicalSha256 (.str task)).mapError .python
  return ⟨task, agentId, sessionId, requesterRef, taskDigest⟩

/-- The rest of the input stage. -/
def inputLineage (args : TaskArgs) : Except AgentError Unit :=
  match args.parentProposalId, args.sourceModifyDecisionId with
  | none, none => .ok ()
  | some parent, some decision => do
    let _ ← agentUuid parent "parent_proposal_id"
    let _ ← agentUuid decision "source_modify_decision_id"
  | _, _ => .error (.contract "MODIFY lineage arguments are partial")

/-! ### `EMBEDDING` -/

/-- What the embedding stage finds. -/
structure TaskRecall where
  embedding : List Binary64
  inputDigest : String
  precedents : List PrecedentRef

/-- The checks of `search_precedents` before its unit. -/
def searchable (embedding : List Binary64) (limit : Int) : Except PyError Unit := do
  ensure (limit = 5) (.integrity "precedent search limit must be five")
  let _ ← vectorText embedding

/-- The embedding stage. -/
def recallStage (m : AppMemory) (config : AgentConfig) (outside : Collaborators α)
    (task evaluationId : String) : Process TaskRecall := do
  Program.lift outside.embeddingConfig
  let embedding ← Process.external .embed (outside.embed task)
  let inputDigest ← Process.python (embeddingInputDigest [task])
  let _ ← Process.python (embeddingOutputDigest [task] [embedding])
  Process.python (searchable embedding config.precedentTopK)
  let precedents ← Process.memory m (.retry (query fun _ db =>
    (searchPrecedents db embedding config.precedentTopK evaluationId).mapError .python))
  return ⟨embedding, inputDigest, precedents⟩

/-! ### `CCLOUD` -/

/-- The evidence stage. -/
def evidenceStage (m : AppMemory) (outside : Collaborators α) :
    Process (ToolEvidence × EvidenceRef) := do
  let evidence ← Process.external .capture outside.capture
  Process.python (validateToolEvidence evidence)
  let _ ← Process.memory m (.retry (statement fun _ db =>
    (appendToolEvidence db evidence).mapError .python))
  let reference ← Process.agent (evidenceRef evidence)
  return (evidence, reference)

/-! ### `OPENAI` -/

/-- The summary of Python `_prompt`. -/
def promptSummary (task : String) (precedents : List PrecedentRef) (evidence : ToolEvidence) : Value :=
  .dict
    [("task", .str task),
      ("evidence_allowlist", .tuple [.dict
        [("ref_id", .str evidence.evidenceId), ("kind", .str "ccloud_cluster"),
          ("state", .str evidence.observedState), ("digest", .str evidence.evidenceDigest)]]),
      ("precedents", .tuple (precedents.map fun item => .dict
        [("proposal_id", .str item.proposalId), ("action_type_key", .str item.actionTypeKey),
          ("target_key", .str item.targetKey),
          ("similarity", .str (pyStr (toValue item.similarity))),
          ("trace_digest", .str item.traceDigest)]))]

/-- The parsed output of a response. -/
def parsedOutput (response : ModelResponse α) : Except AgentError (ModelOutput α) := do
  ensure (response.model = none ∨ response.model = some modelSnapshot)
    (.contract "OpenAI returned an unbound model identity")
  match response.outputParsed with
  | some parsed => return parsed
  | none => .error (.contract "OpenAI response was refused or incomplete")

/-- `response_output_digest`. -/
def responseOutputDigest (d : ProposalDraft) : Except PyError String :=
  canonicalSha256 (.dict
    [("action_type", .str d.actionType), ("target", .str d.target), ("reasoning", .str d.reasoning),
      ("purpose", .str d.purpose), ("evidence_refs", toValue d.evidenceRefs),
      ("predicted_outcome_digest", .str d.predictedOutcome.digest),
      ("parameters_digest", .str d.parameters.digest),
      ("impact_assessment_digest", .str d.impactAssessment.digest),
      ("dependency_requests", toValue d.dependencyRequests)])

/-- `call_digest`. -/
def callDigest (config : AgentConfig) (draws : TaskDraws) (input : TaskInput)
    (configDigest promptDigest : String) (response : ModelResponse α) (d : ProposalDraft) :
    Except AgentError String := do
  let outputDigest ← (responseOutputDigest d).mapError .python
  let templateDigest ← (canonicalSha256 (.str promptTemplate)).mapError .python
  let requesterDigest ← (canonicalSha256 (.str input.requesterRef)).mapError .python
  let schema ← agentValue AgentEngine.casefold AgentEngine.modelJsonSchema
  let schemaDigest ← (canonicalSha256 schema).mapError .python
  (canonicalSha256 (.dict
    [("provider", .str "openai"), ("endpoint", .str "responses"),
      ("model_requested", .str modelSnapshot),
      ("model_returned_if_available", toValue response.model),
      ("model_snapshot", .str modelSnapshot), ("openai_sdk_version", .str config.openaiSdkVersion),
      ("prompt_version", .str config.promptVersion),
      ("prompt_template_digest", .str templateDigest), ("task_digest", .str input.taskDigest),
      ("requester_ref_digest", .str requesterDigest), ("prompt_input_digest", .str promptDigest),
      ("agent_config_digest", .str configDigest), ("response_id", response.id),
      ("response_output_digest", .str outputDigest), ("parsed_schema_digest", .str schemaDigest),
      ("attempt_number", .int 1), ("started_at", .str draws.startedAt),
      ("completed_at", .str draws.completedAt), ("status", .str "PARSED")])).mapError .python

/-- The model stage. -/
def draftStage (config : AgentConfig) (outside : Collaborators α) (draws : TaskDraws)
    (input : TaskInput) (configDigest prompt promptDigest evidenceId : String) :
    Process (ProposalDraft × String) := do
  Program.lift outside.client
  let response ← Process.external .respond (outside.parse prompt)
  let parsed ← Process.agent (parsedOutput response)
  let d ← Process.agent (draft AgentEngine.casefold outside.modelValidate parsed [evidenceId])
  let digest ← Process.agent (callDigest config draws input configDigest promptDigest response d)
  return (d, digest)

/-! ### `VALIDATION` -/

/-- The query of Python `_lineage` and the check of its row. -/
def checkLineage (db : Database) (parentId : String) (decisionId : Option String) :
    Except AgentError Unit := do
  let decisionId ← (castOptUuid decisionId).mapError .python
  let parentId ← (castUuid parentId).mapError .python
  let decision := db.decisions.find? fun d => some d.decisionId = decisionId ∧ d.proposalId = parentId
  let proposal := db.proposals.find? fun p => p.id = parentId
  match decision, proposal with
  | some d, some p =>
    ensure (d.decision = .modify ∧ isHex64 d.decisionDigest = true ∧ isHex64 p.proposalDigest = true)
      (.contract "MODIFY lineage is missing or mismatched")
  | _, _ => .error (.contract "MODIFY lineage is missing or mismatched")

/-- Python `_lineage`. -/
def lineage (parentId decisionId : Option String) : Operation Store TaskError Unit :=
  match parentId with
  | none => .done ()
  | some parentId => .transaction (query fun _ db => checkLineage db.toDatabase parentId decisionId)

/-- The check of `get_dependency_facts` before its unit. -/
def sortedKeys (keys : List String) : Except PyError Unit :=
  ensure (keys = sortedBy id keys.dedup) (.integrity "dependency keys are not sorted and unique")

/-- What the validation stage hands on. -/
structure TaskEvaluation where
  proposal : Proposal
  snapshot : EvaluationSnapshot
  result : EvaluationResult

/-- The evaluation of a task on what the memory answered. -/
def Task.evaluation (t : Task) (config : AgentConfig) (draws : TaskDraws) (reference : EvidenceRef)
    (actionKey targetKey : String) (exclusions : List ExclusionRef) (dependencies : List DependencyRef) :
    Except AgentError TaskEvaluation := do
  let proposal ← (t.proposal reference actionKey targetKey dependencies).mapError .python
  let snapshot ← t.snapshot config reference proposal exclusions draws.snapshotId draws.capturedAt
  let gate ← defaultRuleConfig.mapError .python
  let result ← (evaluateProposal snapshot gate).mapError .python
  (validateResult result).mapError .python
  return ⟨proposal, snapshot, result⟩

/-- The validation stage. -/
def validationStage (m : AppMemory) (config : AgentConfig) (draws : TaskDraws) (t : Task)
    (reference : EvidenceRef) : Process TaskEvaluation := do
  let actionKey ← Process.python (normalizeActionTargetKey t.draft.actionType)
  let targetKey ← Process.python (normalizeActionTargetKey t.draft.target)
  let exclusions ← Process.memory m (.retry (query fun _ db =>
    .ok (getExclusions db.toDatabase actionKey targetKey)))
  let keys := t.draft.dependencyRequests.map DependencyRequest.dependencyKey
  Process.python (sortedKeys keys)
  let facts ← Process.memory m (.retry (query fun _ db =>
    (getDependencyFacts db keys).mapError .python))
  let dependencies ← Process.agent (dependenciesOf t.proposalId t.draft.dependencyRequests facts)
  Process.memory m (lineage t.parentProposalId t.sourceModifyDecisionId)
  Process.agent (t.evaluation config draws reference actionKey targetKey exclusions dependencies)

/-! ### `PERSISTENCE` -/

/-- The order of `ORDER BY captured_at DESC, id DESC`, from its end. -/
def ToolEvidenceRow.age (row : ToolEvidenceRow) : ℚ ×ₗ String :=
  toLex (AgentEngine.instant row.capturedAt, row.id)

/-- The rows that `get_latest_unexpired_tool_evidence` may answer, newest first. -/
def Store.unexpired (db : Store) (n : Nat) : List ToolEvidenceRow :=
  (sortedBy ToolEvidenceRow.age (db.toolEvidence.filter fun row =>
    row.clusterName = ccloudClusterName ∧ row.exitStatus = 0 ∧
      AgentEngine.transactionTime n < AgentEngine.instant row.expiresAt)).reverse

/-- Python `AppMemory.get_latest_unexpired_tool_evidence` of the permitted cluster. -/
def latestUnexpired (n : Nat) (db : Store) : Except PyError ToolEvidence :=
  match (db.unexpired n).take 2 with
  | [] => .error (.integrity "fresh tool evidence was not found")
  | row :: others => do
    let evidence ← readToolEvidence row
    ensure (∀ other ∈ others, other.id ≠ evidence.evidenceId)
      (.conflict "duplicate tool evidence identity")
    return evidence

/-- A statement on the tables of the gate. -/
def gateStatement {β : Type} (f : Database → Except PyError (β × Database)) :
    Operation Store TaskError β :=
  statement fun _ db => do
    let (b, tables) ← (f db.toDatabase).mapError AgentError.python
    return (b, { db with toDatabase := tables })

/-- A query of the tables of the gate. -/
def gateQuery {β : Type} (f : Database → Except PyError β) : Operation Store TaskError β :=
  query fun _ db => (f db.toDatabase).mapError .python

/-- The operation of `append_proposal_and_evaluation`, statement by statement. -/
def appendStatements (p : Proposal) (s : EvaluationSnapshot) (r : EvaluationResult) :
    Operation Store TaskError (String × String) :=
  .bind (gateQuery fun db => do
      let id ← castUuid p.proposalId
      return db.proposals.find? fun row => row.id = id) fun
    | some existing =>
      .bind (gateQuery fun db => do
          let id ← castUuid p.proposalId
          let evaluationId ← castUuid r.evaluationId
          return db.evaluations.find? fun row => row.id = evaluationId ∧ row.proposalId = id)
        fun evaluation =>
          .bind (compute (ensure (existing.proposalDigest = p.proposalDigest ∧
              evaluation.map EvaluationRow.traceDigest = some r.traceDigest)
            (.python (.conflict "proposal/evaluation replay conflicts")))) fun _ =>
          .done (p.proposalId, r.evaluationId)
    | none =>
      .bind (gateStatement fun db => do
          let args ← proposalArgs p
          let row ← castProposal args
          let db ← insertProposal db row
          return ((), db)) fun _ =>
      .bind (gateStatement fun db => do
          let db ← storeEvaluation db p.proposalId s r
          return ((), db)) fun _ =>
      .done (p.proposalId, r.evaluationId)

/-- Python `AppMemory.append_proposal_and_evaluation` within a unit. -/
def appendOperation (p : Proposal) (s : EvaluationSnapshot) (r : EvaluationResult) :
    Operation Store TaskError (String × String) :=
  .bind (compute ((validateEvaluationBinding s r).mapError .python)) fun _ =>
  .bind (compute (ensure (proposalEq s.proposal p = true ∧ s.priorEvaluation = none ∧
      r.priorEvaluationId = none ∧ r.changedFactRuleIds = [])
    (.python (.integrity "first evaluation genealogy is invalid")))) fun _ =>
  .retry (appendStatements p s r)

/-- `persist` of Python `process_task`. -/
def persist (t : Task) (e : TaskEvaluation) : Operation Store TaskError (String × String) :=
  .bind (.retry (query fun n db => (latestUnexpired n db).mapError .python)) fun latest =>
  .bind (compute (ensure (latest.evidenceId = t.evidence.evidenceId ∧
      latest.evidenceDigest = t.evidence.evidenceDigest)
    (.python (.integrity "tool evidence changed before persistence")))) fun _ =>
  .bind (lineage t.parentProposalId t.sourceModifyDecisionId) fun _ =>
  appendOperation e.proposal e.snapshot e.result

/-! ### The task -/

/-- The fields that a persisted task returns beside its result. -/
def taskReceipt (t : Task) (reference : EvidenceRef) (digest : String) (e : TaskEvaluation) :
    AgentReceipt :=
  ⟨t.proposalId, t.evaluationId, e.result.traceDigest, e.proposal.proposalDigest, digest,
    (t.refs reference).map EvidenceRef.refId⟩

/-- What a persisted task returns. -/
def taskOutcome (t : Task) (reference : EvidenceRef) (digest : String) (e : TaskEvaluation) :
    TaskOutcome :=
  match e.result with
  | .check r => .result (taskReceipt t reference digest e) r
  | .blocked r => .gateBlocked (taskReceipt t reference digest e) r

/-- Python `process_task`. -/
def processTask (m : AppMemory) (config : AgentConfig) (outside : Collaborators α) (draws : TaskDraws)
    (args : TaskArgs) : Process TaskOutcome := do
  let descriptionDigest ← Process.python (canonicalSha256 (.str args.taskDescription))
  let configDigest ← Process.python config.digest
  Process.stage (Process.agent (inputTexts config args))
    (blockedAt args.requestId .input descriptionDigest configDigest) fun input =>
  let blocked (stage : AgentStage) : Process TaskOutcome :=
    blockedAt args.requestId stage input.taskDigest configDigest
  -- the digest of the task stands before the lineage is checked
  Process.stage (Process.agent (inputLineage args)) (blocked .input) fun _ =>
  Process.stage (recallStage m config outside input.task draws.evaluationId) (blocked .embedding)
    fun recalled =>
  Process.stage (evidenceStage m outside) (blocked .ccloud) fun (evidence, reference) => do
  let summary := promptSummary input.task recalled.precedents evidence
  let prompt ← Process.python (canonicalJson summary)
  let promptDigest ← Process.python (canonicalSha256 summary)
  Process.stage
    (draftStage config outside draws input configDigest prompt promptDigest evidence.evidenceId)
    (blocked .openai) fun (d, digest) =>
  let t : Task := ⟨draws.proposalId, draws.evaluationId, input.agentId, input.sessionId,
    args.parentProposalId, args.sourceModifyDecisionId, recalled.embedding, recalled.inputDigest,
    recalled.precedents, evidence, d⟩
  Process.stage (validationStage m config draws t reference) (blocked .validation) fun e =>
  Process.stage (Process.memory m (.retry (persist t e))) (blocked .persistence) fun _ =>
  return taskOutcome t reference digest e

end

end GAM
