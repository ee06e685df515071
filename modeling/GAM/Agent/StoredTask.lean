import GAM.Agent.CalmTask
import GAM.Agent.StoredEmbeddings
import GAM.Governance.ChangeSoundness
import GAM.System.CaptureDigests
import GAM.System.DurableProposals
import GAM.System.Exclusions
import GAM.System.StoreBinding

/-!
# A task that is read back

The documents of a draft are written in the plain notation of the decimals, so that those which the gate
accepts have only steady numbers, and its embedding is in single precision. What a task has persisted is
therefore what `get_proposal` returns ever after, unless a component of the embedding is a negative zero.
-/

namespace GAM
open Lib Program

section
variable [Platform]

/-- The numbers of a canonical text of the agent are steady when the gate accepts it. -/
lemma canonicalJsonText_steady {casefold : String → String} {name : String} {requireObject : Bool}
    {text : String} {c : CanonicalJson}
    (accepted : canonicalJsonText casefold name requireObject text = .ok c) (canonical : PlainJson c.utf8) :
    ∀ j, Json.parse c.utf8 = some j → ∀ n, .num n ∈ j.parts → Steady n := by
  obtain ⟨j, -, keyed, prints, written⟩ := canonicalJsonText_ok accepted
  have printed : ∀ n, .num n ∈ (normalJson j).parts → Prints n :=
    fun n hn => prints n (num_mem_normal.mp hn)
  rw [PlainJson, written, canonicalPlainJson_decimal keyed prints] at canonical
  intro t parsed n hn
  rw [written, parse_decimal printed] at parsed
  cases parsed
  obtain ⟨q, hq, same⟩ := mem_parts_map.mp hn
  cases q with
  | num m =>
    cases same
    have prints := printed m hq
    have own := canonical m (num_mem_normal.mp hq)
    have signed : decimalChars m ≠ ['-', '0'] := by
      intro zero
      rw [renderNumber_decimal prints, decimalToken, zero] at own
      exact absurd own (by decide)
    exact (steady_iff prints.token.isToken own).mp (prints.again signed)
  | null | bool | constant | str | arr | obj => cases same

end

section
variable [AgentEngine] {α : Type} {start : World} {m : AppMemory} {config : AgentConfig}
  {outside : Collaborators α} {args : TaskArgs} {draws : TaskDraws}

/-- The embedding of a task is the vector of `embed_one`, whatever the provider answers. -/
def EmbedsOne (outside : Collaborators α) : Prop :=
  ∀ task l, outside.embed task = .ok l → ∃ create, embedOne create task = .ok l

/-- The lineage that the agent accepts names canonical identifiers. -/
lemma inputLineage_canonical (h : inputLineage args = .ok ()) :
    (∀ id ∈ args.parentProposalId, isUuid id = true) ∧
      ∀ id ∈ args.sourceModifyDecisionId, isUuid id = true := by
  rw [inputLineage] at h
  split at h
  · rename_i parent decision
    rw [parent, decision]
    exact ⟨fun _ hid => absurd hid (Option.not_mem_none _), fun _ hid => absurd hid (Option.not_mem_none _)⟩
  · rename_i parent decision hp hd
    simp only [bind_eq_ok] at h
    obtain ⟨_, canonical, _, canonical', -⟩ := h
    rw [hp, hd]
    refine ⟨fun id hid => ?_, fun id hid => ?_⟩
    · cases hid
      exact agentUuid_canonical canonical
    · cases hid
      exact agentUuid_canonical canonical'
  · cases h

variable {t : Task} {reference : EvidenceRef} {e : TaskEvaluation} {store written : Store}

/-- What the proposal of a task has from the task. -/
lemma evaluation_fields {actionKey targetKey : String} {exclusions : List ExclusionRef}
    {dependencies : List DependencyRef}
    (h : t.evaluation config draws reference actionKey targetKey exclusions dependencies = .ok e) :
    e.proposal.parentProposalId = t.parentProposalId ∧
      e.proposal.sourceModifyDecisionId = t.sourceModifyDecisionId ∧
      [e.proposal.parametersJson, e.proposal.impactAssessmentJson, e.proposal.predictedOutcomeJson] ⊆
        t.draft.jsonTexts ∧ e.proposal.embedding = t.embedding := by
  simp only [Task.evaluation, bind_eq_ok, mapError_eq_ok, pure_eq_ok, Except.ok.injEq] at h
  obtain ⟨p, proposed, s, -, gate, -, r, -, -, -, rfl⟩ := h
  obtain ⟨_, _, rfl⟩ := Task.proposal_ok proposed
  exact ⟨rfl, rfl, by simp [ProposalDraft.jsonTexts, Task.provisional], rfl⟩

/-- The proposal that a task persists is durable when no component of its embedding is a negative
zero. -/
lemma TaskUnit.durable (h : TaskUnit m config outside args draws t reference e store written)
    (embeds : EmbedsOne outside) (valid : FieldsValid e.proposal) :
    e.proposal.Identified ∧
      (e.proposal.Durable ↔ ∀ x ∈ e.proposal.embedding, unsignedZero x = x) := by
  obtain ⟨task, embedded⟩ := h.embedded
  obtain ⟨parsed, drafted⟩ := h.drafted
  obtain ⟨texts, -⟩ := draft_accepted drafted
  obtain ⟨_, _, _, _, evaluated⟩ := h.evaluated
  obtain ⟨own, -⟩ := evaluation_ok evaluated
  obtain ⟨parent, decision, documents, embedding⟩ := evaluation_fields evaluated
  obtain ⟨parent', decision', linked⟩ := h.lineage
  obtain ⟨parents, decisions⟩ := inputLineage_canonical linked
  obtain ⟨create, one⟩ := embeds task t.embedding embedded
  have steady : ∀ text ∈ [e.proposal.parametersJson, e.proposal.impactAssessmentJson,
      e.proposal.predictedOutcomeJson], PlainJson text →
        ∀ j, Json.parse text = some j → ∀ n, .num n ∈ j.parts → Steady n := by
    intro text ht canonical
    obtain ⟨_, _, _, c, accepted, rfl⟩ := texts text (documents ht)
    exact canonicalJsonText_steady accepted canonical
  rw [Proposal.fieldsValid] at valid
  obtain ⟨parameters, impact, outcome, -⟩ := valid
  rw [List.forall_mem_cons, List.forall_mem_cons, List.forall_mem_singleton] at steady
  refine ⟨⟨?_, ?_, ?_⟩, ?_, ?_⟩
  · rw [own, h.drawn.1]
    exact draws.proposal_isUuid
  · rwa [parent, parent']
  · rwa [decision, decision']
  · exact fun durable x hx => (durable.embedding x hx).2
  · intro unsigned
    refine ⟨?_, fun x hx => ⟨(embedOne_single one).single x (embedding ▸ hx), unsigned x hx⟩⟩
    rw [List.forall_mem_cons, List.forall_mem_cons, List.forall_mem_singleton]
    exact ⟨steady.1 parameters, steady.2.1 impact, steady.2.2 outcome⟩

/-- What a task has persisted is what `get_proposal` returns in every later store, unless a component of
the embedding is a negative zero: whatever the collaborators answered, the task that returned a result
evaluated a proposal which is loaded as it was evaluated. -/
theorem processTask_loaded {outcome : TaskOutcome} {receipt : AgentReceipt} {result : EvaluationResult}
    {w : World} {guard} {calls : List Call} {k : Config Database Call}
    (closed : start.session.active = none)
    (fresh : ∀ row ∈ start.session.store.proposals, row.id ≠ draws.proposalId)
    (embeds : EmbedsOne outside)
    (run : processTask m config outside draws args start = (.ok outcome, w))
    (persisted : outcome.persisted = some (receipt, result))
    (later : clients.Leads guard ⟨w.session.store.toDatabase, calls⟩ k) :
    ∃ p s, s.proposal = p ∧ evaluateProposal s pinnedConfig = .ok result ∧
      (∃ task, outside.embed task = .ok p.embedding) ∧
      (Normal (toValue p) → KeepsVector p.embedding →
        (getProposal k.store receipt.proposalId = .ok p ↔ ∀ x ∈ p.embedding, unsignedZero x = x)) := by
  have ends := @processTask_triple _ α start m config outside draws args start
    ⟨closed, .refl _, (List.append_nil _).symm⟩
  rw [run] at ends
  cases TaskEnds.cases ends with
  | inl blocked =>
    obtain ⟨b, rfl, -⟩ := blocked
    cases persisted
  | inr ended =>
    obtain ⟨store, t, reference, digest, e, -, -, before, unit, returned⟩ := ended
    rw [persisted, Option.some.injEq, Prod.mk.injEq] at returned
    obtain ⟨rfl, rfl⟩ := returned
    obtain ⟨ids, committed⟩ := unit.committed
    obtain ⟨_, _, _, _, evaluated⟩ := unit.evaluated
    obtain ⟨-, -, appended, -⟩ := yields_persist committed.yields
    obtain ⟨own, -, embedded, answered⟩ := evaluation_ok evaluated
    obtain ⟨bound, same, -⟩ := appendProposalAndEvaluation_ok appended
    obtain ⟨valid, finite⟩ := validateEvaluationBinding_proposal bound
    obtain ⟨valid, finite⟩ := proposalEq_valid same valid finite
    obtain ⟨identified, durable⟩ := unit.durable embeds valid
    obtain ⟨task, asked⟩ := unit.embedded
    obtain ⟨-, -, -, vector⟩ := evaluation_fields evaluated
    refine ⟨e.proposal, e.snapshot, embedded, answered, ⟨task, vector ▸ asked⟩, fun normal keeps => ?_⟩
    have drawn : e.proposal.proposalId = draws.proposalId := own.trans unit.drawn.1
    have new : ∀ q ∈ store.proposals, q.id ≠ e.proposal.proposalId := by
      rw [before.database, drawn]
      exact fresh
    have grown : w.session.store.toDatabase.Grows k.store := leads_grows later
    rw [show (taskReceipt t reference digest e).proposalId = e.proposal.proposalId from own.symm, ← durable]
    exact getProposal_kept normal identified new keeps appended grown

end

/-! ### A task that is persisted

The provider answers zeros, the capture is of a ready cluster, the draft asks for nothing and its action is
excluded, so that the gate answers it with a refusal. Nothing fails. -/

/-- What the first task draws. -/
def firstDraws : TaskDraws where
  proposalId := "00000000-0000-4000-8000-000000000001"
  evaluationId := "00000000-0000-4000-8000-000000000002"
  snapshotId := "00000000-0000-4000-8000-000000000003"
  startedAt := "2026-01-01T00:00:00.000000Z"
  completedAt := "2026-01-01T00:00:00.000000Z"
  capturedAt := "2026-01-01T00:00:00.000000Z"
  proposal_isUuid := by decide
  evaluation_isUuid := by decide

/-- The arguments of the first task. -/
def firstArgs : TaskArgs where
  taskDescription := "Set the demo value."
  requestId := "00000000-0000-4000-8000-000000000006"
  agentId := "agent"
  sessionId := "session"
  requesterRef := "requester"
  parentProposalId := none
  sourceModifyDecisionId := none

section
variable [AgentEngine]

/-- The deployed configuration has a digest. -/
lemma deployedConfig_digest : ∃ d, deployedConfig.digest = .ok d := by
  have seconds : Encodes (.decimal (.finite false 20 0)) := encodes_decimal (by decide) (by decide)
  have threshold : Encodes (.decimal (.finite false 85000000 (-8))) :=
    encodes_decimal (by decide) (by decide)
  refine Encodes.digest ?_
  rw [encodes_dict (by simp) (by simp; decide)]
  simp [deployedConfig, seconds, threshold]

/-- An identifier that is canonical is accepted. -/
lemma agentUuid_self {u name : String} (h : isUuid u = true) : agentUuid u name = .ok u := by
  rw [agentUuid, AgentEngine.parseUuid_self h]
  exact congrArg (· >>= fun _ => pure u) (ensure_pos rfl)

/-- A text of ASCII characters that is not padded is accepted as it is. -/
lemma agentText_self {text name : String} {maximum : Nat} (ascii : isAscii text)
    (plain : text ≠ "" ∧ isStripped text = true) (short : text.utf8ByteSize ≤ maximum) :
    agentText text name maximum = .ok text := by
  rw [agentText, ensure_pos plain, Platform.nfc_ascii text ascii]
  exact congrArg (· >>= fun _ => pure text) (ensure_pos short)

/-- The first task's arguments are accepted. -/
lemma firstArgs_input : ∃ d, inputTexts deployedConfig firstArgs =
    .ok ⟨"Set the demo value.", "agent", "session", "requester", d⟩ := by
  obtain ⟨d, digest⟩ := Encodes.digest (@encodes_str _ "Set the demo value.")
  have id : agentUuid firstArgs.requestId "request_id" = .ok firstArgs.requestId :=
    agentUuid_self (by decide)
  have task : agentText firstArgs.taskDescription "task" deployedConfig.maxTaskBytes =
      .ok "Set the demo value." :=
    agentText_self (by decide) (by decide) (show _ ≤ 4096 by decide)
  have agent : agentText firstArgs.agentId "agent_id" 256 = .ok "agent" :=
    agentText_self (by decide) (by decide) (by decide)
  have session : agentText firstArgs.sessionId "session_id" 256 = .ok "session" :=
    agentText_self (by decide) (by decide) (by decide)
  have requester : agentText firstArgs.requesterRef "requester_ref" 256 = .ok "requester" :=
    agentText_self (by decide) (by decide) (by decide)
  refine ⟨d, ?_⟩
  simp only [inputTexts, id, task, agent, session, requester, digest, ok_bind, Except.mapError]
  rfl

/-- Columns that keep what is written, a schema without members, and times of which those of the
transactions are the first. -/
structure PlainEngine : Prop where
  vector : ∀ text, castVector text = .ok text
  timestamp : ∀ text, castTimestamp text = .ok text
  schema : AgentEngine.modelJsonSchema = .dict []
  early : ∀ n text, AgentEngine.transactionTime n < AgentEngine.instant text

/-! ### The evidence -/

/-- The payload of the captured evidence. -/
def readyPayload : CapturePayload where
  toolName := readyEvidence.toolName
  toolVersion := readyEvidence.toolVersion
  redactedCommandArgv := .list []
  commandDigest := readyEvidence.commandDigest
  helpDigest := readyEvidence.helpDigest
  configDigest := readyEvidence.configDigest
  clusterName := readyEvidence.clusterName
  clusterNameDigest := readyEvidence.clusterNameDigest
  observedClusterIdDigest := readyEvidence.observedClusterIdDigest
  observedVersion := readyEvidence.observedVersion
  observedState := readyEvidence.observedState
  observedPlan := readyEvidence.observedPlan
  observedCloud := readyEvidence.observedCloud
  normalizedRedactedOutput := .dict []
  redactionManifest := .list []
  rawOutputDigest := readyEvidence.rawOutputDigest
  normalizedOutputDigest := readyEvidence.normalizedOutputDigest
  exitStatus := readyEvidence.exitStatus
  capturedAt := readyEvidence.capturedAt
  expiresAt := readyEvidence.expiresAt
  capturedBy := readyEvidence.capturedBy
  idempotencyKey := readyEvidence.idempotencyKey
  evidenceDigest := zeroDigest

/-- The evidence of a ready cluster with its digest. -/
def sealedEvidence : ToolEvidence :=
  { readyEvidence with
    evidenceDigest := sha256 (readyPayload.tree (.arr []) (.obj []) (.arr [])).dumps }

omit [AgentEngine] in
/-- A tree without members has no numbers. -/
lemma parts_empty {j : Json} (h : j = .arr [] ∨ j = .obj []) : (∀ q ∈ j.parts, Whole q) ∧ Short j := by
  obtain rfl | rfl := h
  · exact ⟨fun q hq => List.mem_singleton.mp hq ▸ trivial, fun n hn => by cases List.mem_singleton.mp hn⟩
  · exact ⟨fun q hq => List.mem_singleton.mp hq ▸ List.nodup_nil,
      fun n hn => by cases List.mem_singleton.mp hn⟩

omit [AgentEngine] in
lemma parse_empty : Json.parse "[]" = some (.arr []) ∧ Json.parse "\x7b\x7d" = some (.obj []) :=
  ⟨Json.parse_dumps (.arr []), Json.parse_dumps (.obj [])⟩

omit [AgentEngine] in
/-- The empty documents in their columns. -/
lemma empty_columns : (castJsonb "[]" = .ok "[]" ∧ castJsonb "\x7b\x7d" = .ok "\x7b\x7d") ∧
    jsonbTypeof "[]" = "array" ∧ jsonbTypeof "\x7b\x7d" = "object" := by
  rw [jsonbTypeof, jsonbTypeof, parse_empty.1, parse_empty.2]
  exact ⟨⟨castJsonb_ok.mpr ⟨.arr [], parse_empty.1, rfl, rfl⟩,
    castJsonb_ok.mpr ⟨.obj [], parse_empty.2, rfl, rfl⟩⟩, rfl, rfl⟩

/-- The sealed evidence is valid. -/
lemma sealedEvidence_valid : validateToolEvidence sealedEvidence = .ok () := by
  obtain ⟨wa, sa⟩ := parts_empty (.inl rfl)
  obtain ⟨wo, so⟩ := parts_empty (.inr rfl)
  have text : toolEvidenceText sealedEvidence =
      .ok (readyPayload.tree (.arr []) (.obj []) (.arr [])).dumps :=
    (@toolEvidenceText_record readyPayload sealedEvidence.evidenceId _ _ _ _ _ _ _
      parse_empty.1 parse_empty.2 parse_empty.1 wa wo wa).mpr ⟨⟨sa, so, sa⟩, rfl⟩
  simp only [validateToolEvidence, bind_eq_ok, ensure_eq_ok]
  exact ⟨(), ⟨rfl, rfl, rfl, rfl⟩, _, toolEvidenceDigest_ok.mpr ⟨_, text, rfl⟩, rfl⟩

/-- The reference to the evidence. -/
def readyReference : EvidenceRef :=
  ⟨sealedEvidence.evidenceId, "ccloud_cluster", sealedEvidence.evidenceDigest⟩

/-- The sealed evidence is referred to as the ready reference. -/
lemma sealedEvidence_ref : evidenceRef sealedEvidence = .ok readyReference := by
  rw [evidenceRef, ensure_pos ⟨rfl, Platform.sha256_hex _⟩]
  rfl

/-- The texts of the columns are those of the record. -/
lemma sealedEvidence_cast (plain : PlainEngine) :
    castToolEvidence (toolEvidenceArgs sealedEvidence) = .ok (toolEvidenceArgs sealedEvidence) := by
  have id : castUuid sealedEvidence.evidenceId = .ok sealedEvidence.evidenceId :=
    castUuid_self (show isUuid "00000000-0000-4000-8000-000000000004" = true by decide)
  obtain ⟨⟨list, object⟩, -⟩ := empty_columns
  have argv : castJsonb (toolEvidenceArgs sealedEvidence).redactedCommandArgv = _ := list
  have output : castJsonb (toolEvidenceArgs sealedEvidence).normalizedRedactedOutput = _ := object
  have manifest : castJsonb (toolEvidenceArgs sealedEvidence).redactionManifest = _ := list
  have own : castUuid (toolEvidenceArgs sealedEvidence).id = _ := id
  simp only [castToolEvidence]
  rw [own, argv, output, manifest]
  simp only [plain.timestamp, ok_bind, pure_eq_ok]
  rfl

variable {db : Store}

/-- The evidence is appended to a store without any. -/
lemma sealedEvidence_appended (plain : PlainEngine) (none : db.toolEvidence = []) :
    appendToolEvidence db sealedEvidence =
      .ok (sealedEvidence.evidenceId, { db with toolEvidence := [toolEvidenceArgs sealedEvidence] }) := by
  have zeros : isDigestLength zeroDigest = true := isDigestLength_of_hex zeroDigest_hex
  have cluster : isDigestLength (toolEvidenceArgs sealedEvidence).clusterNameDigest = true :=
    isDigestLength_of_hex (Platform.sha256_hex _)
  have digest : isDigestLength (toolEvidenceArgs sealedEvidence).evidenceDigest = true :=
    isDigestLength_of_hex (Platform.sha256_hex _)
  obtain ⟨-, list, object⟩ := empty_columns
  have inserted : insertToolEvidence db (toolEvidenceArgs sealedEvidence) =
      .ok { db with toolEvidence := [toolEvidenceArgs sealedEvidence] } := by
    simp only [insertToolEvidence, bind_eq_ok, ensure_eq_ok, exists_unit, pure_eq_ok, none]
    exact ⟨⟨rfl, list, rfl, list, rfl⟩, ⟨zeros, zeros, zeros, cluster, zeros, zeros, zeros, digest, object⟩,
      (by decide : "2026-01-01T00:00:00.000000Z" < "2026-01-01T01:00:00.000000Z"),
      ⟨fun _ h => absurd h List.not_mem_nil, fun _ h => absurd h List.not_mem_nil⟩, rfl⟩
  rw [appendToolEvidence, sealedEvidence_valid, ok_bind, none, List.find?_nil]
  simp only [sealedEvidence_cast plain, inserted, ok_bind, pure_eq_ok]

/-- It is the newest that has not expired. -/
lemma sealedEvidence_latest (plain : PlainEngine)
    (only : db.toolEvidence = [toolEvidenceArgs sealedEvidence]) (n : Nat) :
    latestUnexpired n db = .ok sealedEvidence := by
  have unexpired : db.unexpired n = [toolEvidenceArgs sealedEvidence] := by
    have kept : [toolEvidenceArgs sealedEvidence].filter (fun row => row.clusterName = ccloudClusterName ∧
        row.exitStatus = 0 ∧ AgentEngine.transactionTime n < AgentEngine.instant row.expiresAt) =
          [toolEvidenceArgs sealedEvidence] :=
      List.filter_cons_of_pos (decide_eq_true ⟨rfl, rfl, plain.early n _⟩)
    rw [Store.unexpired, only, kept]
    rfl
  have empty {j : Json} (container : j = .arr [] ∨ j = .obj []) :
      plainJson (.str j.dumps) = .ok j.dumps := by
    refine (plainJson_dumps fun q hq => ((parts_empty container).1 q hq).distinct).mpr ⟨?_, ?_⟩ <;>
      rcases container with rfl | rfl
    · exact fun n hn => by cases List.mem_singleton.mp hn
    · exact fun n hn => by cases List.mem_singleton.mp hn
    · rfl
    · rfl
  have text : (Json.arr []).dumps = "[]" ∧ (Json.obj []).dumps = "\x7b\x7d" := ⟨rfl, rfl⟩
  have list : plainJson (.str "[]") = .ok "[]" := by
    rw [← text.1]
    exact empty (.inl rfl)
  have object : plainJson (.str "\x7b\x7d") = .ok "\x7b\x7d" := by
    rw [← text.2]
    exact empty (.inr rfl)
  have record : toolEvidenceOfRow (toolEvidenceArgs sealedEvidence) = .ok sealedEvidence := by
    have argv : plainJson (.str (toolEvidenceArgs sealedEvidence).redactedCommandArgv) = _ := list
    have output : plainJson (.str (toolEvidenceArgs sealedEvidence).normalizedRedactedOutput) = _ :=
      object
    have manifest : plainJson (.str (toolEvidenceArgs sealedEvidence).redactionManifest) = _ := list
    simp only [toolEvidenceOfRow]
    rw [argv, output, manifest]
    rfl
  have read : readToolEvidence (toolEvidenceArgs sealedEvidence) = .ok sealedEvidence := by
    simp only [readToolEvidence, record, sealedEvidence_valid, ok_bind, pure_eq_ok]
  rw [latestUnexpired, unexpired]
  simp only [List.take_succ_cons, List.take_nil, read, ok_bind]
  rfl

/-! ### The draft -/

/-- What the model answers. -/
def readySchema : ProposalDraftSchema where
  actionType := "SET_DEMO_VALUE"
  target := "demo_kv:alpha"
  reasoning := "reason"
  purpose := "demo"
  evidenceRefs := []
  predictedOutcome := "\x7b\x7d"
  parameters := "\x7b\x7d"
  impactAssessment := "\x7b\x7d"
  dependencyRequests := []

/-- The draft that the agent makes of it. -/
def acceptedDraft (digest : String) : ProposalDraft :=
  { readyDraft [] with predictedOutcome := ⟨"\x7b\x7d", digest⟩, parameters := ⟨"\x7b\x7d", digest⟩,
                       impactAssessment := ⟨"\x7b\x7d", digest⟩ }

lemma encodes_object : Encodes (.dict []) := (encodes_dict (by simp) (by simp)).mpr (by simp)

/-- The ready answer is accepted as a draft. -/
lemma acceptedDraft_ok (allowlist : List String) :
    ∃ digest, draft (α := Unit) AgentEngine.casefold (fun _ => none) (.schema readySchema) allowlist =
      .ok (acceptedDraft digest) := by
  obtain ⟨digest, hash⟩ := Encodes.digest encodes_object
  have document (name : String) (requireObject : Bool) :
      canonicalJsonText AgentEngine.casefold name requireObject "\x7b\x7d" = .ok ⟨"\x7b\x7d", digest⟩ := by
    have mapping : requireObject = true → isMapping (.dict []) = true := fun _ => rfl
    have read : (agentHooks name).scan "\x7b\x7d" = .ok (.dict []) := agentHooks_parse parse_empty.2
    simp only [canonicalJsonText, read, agentCanonical, agentValue, agentMembers, ok_bind, pure_eq_ok,
      ensure_pos mapping, ensure_pos encodes_object.1, hash, Except.mapError]
    rfl
  have action : agentText "SET_DEMO_VALUE" "action type" 256 = .ok "SET_DEMO_VALUE" :=
    agentText_self (by decide) (by decide) (by decide)
  have target : agentText "demo_kv:alpha" "target" 1024 = .ok "demo_kv:alpha" :=
    agentText_self (by decide) (by decide) (by decide)
  have reasoning : agentText "reason" "reasoning" 4096 = .ok "reason" :=
    agentText_self (by decide) (by decide) (by decide)
  have purpose : agentText "demo" "purpose" 1024 = .ok "demo" :=
    agentText_self (by decide) (by decide) (by decide)
  have refs : readySchema.evidenceRefs = sortedBy id readySchema.evidenceRefs.dedup ∧
      ∀ item ∈ readySchema.evidenceRefs, item ∈ allowlist :=
    ⟨rfl, fun _ h => absurd h List.not_mem_nil⟩
  refine ⟨digest, ?_⟩
  simp only [draft, draftSchema, ok_bind, ensure_pos refs]
  simp only [readySchema, draftRequests, action, target, reasoning, purpose, document, ok_bind, pure_eq_ok]
  rfl

/-! ### The stages -/

/-- The collaborators of the run: zeros, a ready cluster and the draft. -/
def readyOutside : Collaborators Unit where
  embeddingConfig := .ok ()
  embed text := (embedOne (constantProvider (.int 0)) text).mapError fun e => .agent (.python e)
  capture := .ok sealedEvidence
  client := .ok ()
  parse _ := .ok ⟨.str "response", none, some (.schema readySchema)⟩
  modelValidate _ := none

/-- The vector of the task. -/
def zeroVector : List Binary64 := List.replicate pinnedEmbeddingDimensions .zero

/-- The provider embeds one text at a time. -/
lemma readyOutside_embedsOne : EmbedsOne readyOutside :=
  fun _ _ h => ⟨_, mapError_eq_ok.mp h⟩

lemma task_canonical : canonicalTexts ["Set the demo value."] = .ok ["Set the demo value."] := by
  have ascii : nfc "Set the demo value." = "Set the demo value." := Platform.nfc_ascii _ (by decide)
  have plain : "Set the demo value." ≠ "" ∧ isStripped "Set the demo value." = true := by decide
  have text : canonicalEmbeddingText "Set the demo value." = .ok "Set the demo value." := by
    rw [canonicalEmbeddingText, ensure_pos plain, ascii]
    rfl
  have batch : ["Set the demo value."] ≠ [] := by decide
  simp only [canonicalTexts, ensure_pos batch, mapAll, text, ok_bind, pure_eq_ok]

/-- The constant provider answers the zero vector. -/
lemma zeroVector_embedded : embedOne (constantProvider (.int 0)) "Set the demo value." = .ok zeroVector := by
  rw [embedOne, @embedMany_constant _ (.int 0) .zero _ _ rfl rfl rfl rfl task_canonical]
  rfl

lemma readyOutside_embed : readyOutside.embed "Set the demo value." = .ok zeroVector := by
  simp only [readyOutside, zeroVector_embedded, Except.mapError]

/-- The zero vector has single floats. -/
lemma zeroVector_single : SingleVector zeroVector := embedOne_single zeroVector_embedded

/-- A store without proposals has no precedents. -/
lemma searchPrecedents_none (plain : PlainEngine) {evaluationId : String} (canonical : isUuid evaluationId = true)
    (none : db.proposals = []) :
    searchPrecedents db zeroVector deployedConfig.precedentTopK evaluationId = .ok [] := by
  obtain ⟨text, written, -⟩ := zeroVector_single.reads
  have limit : (deployedConfig.precedentTopK : Int) = 5 := rfl
  rw [searchPrecedents, ensure_pos limit, ok_bind, written, ok_bind, castUuid_self canonical, ok_bind,
    plain.vector, ok_bind]
  simp only [precedentRows, Database.recalled, Database.candidates, none]
  rfl

variable {m : AppMemory} {calls : List ExternalCall}

/-- The recall returns on a store without proposals. -/
lemma recall_returns (plain : PlainEngine) {evaluationId : String} (canonical : isUuid evaluationId = true)
    (none : db.proposals = []) :
    ∃ digest, isHex64 digest = true ∧
      (recallStage m deployedConfig readyOutside "Set the demo value." evaluationId).Returns db calls
        ⟨zeroVector, digest, []⟩ db (calls ++ [.embed]) := by
  obtain ⟨text, written, -⟩ := zeroVector_single.reads
  have fields : Encodes (.dict [("model", .str pinnedEmbeddingModel),
      ("dimensions", .int pinnedEmbeddingDimensions),
      ("input", .tuple (["Set the demo value."].map .str))]) := by
    rw [encodes_dict (by simp) (by simp; decide)]
    simp
  obtain ⟨digest, hash⟩ := fields.digest
  have input : embeddingInputDigest ["Set the demo value."] = .ok digest := by
    rw [embeddingInputDigest, task_canonical, ok_bind, hash]
  have output : ∃ d, embeddingOutputDigest ["Set the demo value."] [zeroVector] = .ok d := by
    have fields : Encodes (.dict [("model", .str pinnedEmbeddingModel),
        ("dimensions", .int pinnedEmbeddingDimensions), ("input_digest", .str digest),
        ("output", .tuple ([zeroVector].map fun vector => .tuple (vector.map .float)))]) := by
      rw [encodes_dict (by simp) (by simp; decide)]
      simp
      exact fun x hx => zeroVector_single.finite x hx
    have one : [zeroVector].length = ["Set the demo value."].length := rfl
    obtain ⟨d, hash⟩ := fields.digest
    refine ⟨d, ?_⟩
    simp only [embeddingOutputDigest, task_canonical, ensure_pos one, mapAll, zeroVector_single.normalize,
      input, ok_bind, pure_eq_ok, hash]
  obtain ⟨_, output⟩ := output
  have limit : (deployedConfig.precedentTopK : Int) = 5 := rfl
  have search : searchable zeroVector deployedConfig.precedentTopK = .ok () := by
    rw [searchable, ensure_pos limit, ok_bind, written]
    rfl
  refine ⟨digest, canonicalSha256_hex hash, ?_⟩
  refine returns_bind (returns_lift rfl) ?_
  refine returns_bind (returns_external readyOutside_embed) ?_
  refine returns_bind (returns_python input) ?_
  refine returns_bind (returns_python output) ?_
  refine returns_bind (returns_python search) ?_
  refine returns_bind (returns_unit (answers_query fun _ => mapError_eq_ok.mpr
    (searchPrecedents_none plain canonical none))) ?_
  exact returns_pure

/-- The evidence stage returns and writes its row. -/
lemma evidence_returns (plain : PlainEngine) (none : db.toolEvidence = []) :
    (evidenceStage m readyOutside).Returns db calls (sealedEvidence, readyReference)
      { db with toolEvidence := [toolEvidenceArgs sealedEvidence] } (calls ++ [.capture]) := by
  refine returns_bind (returns_external rfl) ?_
  refine returns_bind (returns_python sealedEvidence_valid) ?_
  refine returns_bind (returns_unit (answers_statement fun _ => mapError_eq_ok.mpr
    (sealedEvidence_appended plain none))) ?_
  exact returns_bind (returns_agent sealedEvidence_ref) returns_pure

/-- The draft stage returns the accepted draft. -/
lemma draft_returns (plain : PlainEngine) {draws : TaskDraws} {input : TaskInput}
    {configDigest prompt promptDigest evidenceId : String} :
    ∃ digest call, (draftStage deployedConfig readyOutside draws input configDigest prompt promptDigest
      evidenceId).Returns db calls (acceptedDraft digest, call) db (calls ++ [.respond]) := by
  obtain ⟨digest, drafted⟩ := acceptedDraft_ok [evidenceId]
  have call : ∃ d, callDigest deployedConfig draws input configDigest promptDigest
      (⟨.str "response", none, some (.schema readySchema)⟩ : ModelResponse Unit) (acceptedDraft digest) =
        .ok d := by
    have output : ∃ d, responseOutputDigest (acceptedDraft digest) = .ok d := by
      refine Encodes.digest ?_
      rw [encodes_dict (by simp) (by simp; decide)]
      simp [acceptedDraft, readyDraft, toValue]
    obtain ⟨o, output⟩ := output
    obtain ⟨t, template⟩ := Encodes.digest (@encodes_str _ promptTemplate)
    obtain ⟨r, requester⟩ := Encodes.digest (@encodes_str _ input.requesterRef)
    obtain ⟨s, schema⟩ := Encodes.digest encodes_object
    have members : agentValue AgentEngine.casefold AgentEngine.modelJsonSchema = .ok (.dict []) := by
      rw [plain.schema]
      rfl
    simp only [callDigest, output, template, requester, members, schema, ok_bind, Except.mapError]
    obtain ⟨d, hash⟩ : ∃ d, canonicalSha256 (.dict
        [("provider", .str "openai"), ("endpoint", .str "responses"),
          ("model_requested", .str modelSnapshot),
          ("model_returned_if_available", toValue (none : Option String)),
          ("model_snapshot", .str modelSnapshot),
          ("openai_sdk_version", .str deployedConfig.openaiSdkVersion),
          ("prompt_version", .str deployedConfig.promptVersion),
          ("prompt_template_digest", .str t), ("task_digest", .str input.taskDigest),
          ("requester_ref_digest", .str r), ("prompt_input_digest", .str promptDigest),
          ("agent_config_digest", .str configDigest), ("response_id", .str "response"),
          ("response_output_digest", .str o), ("parsed_schema_digest", .str s),
          ("attempt_number", .int 1), ("started_at", .str draws.startedAt),
          ("completed_at", .str draws.completedAt), ("status", .str "PARSED")]) = .ok d := by
      refine Encodes.digest ?_
      rw [encodes_dict (by simp) (by simp; decide)]
      simp [toValue]
    rw [hash]
    exact ⟨d, rfl⟩
  obtain ⟨call, digested⟩ := call
  refine ⟨digest, call, ?_⟩
  refine returns_bind (returns_lift rfl) ?_
  refine returns_bind (returns_external rfl) ?_
  refine returns_bind (returns_agent (a := .schema readySchema) rfl) ?_
  refine returns_bind (returns_agent drafted) ?_
  exact returns_bind (returns_agent digested) returns_pure

/-! ### The evaluation -/

/-- The task of the run. -/
def persistedTask (inputDigest digest : String) : Task where
  proposalId := firstDraws.proposalId
  evaluationId := firstDraws.evaluationId
  agentId := "agent"
  sessionId := "session"
  parentProposalId := none
  sourceModifyDecisionId := none
  embedding := zeroVector
  inputDigest := inputDigest
  precedents := []
  evidence := sealedEvidence
  draft := acceptedDraft digest

/-- The draft's keys are canonical. -/
lemma draft_keys : normalizeActionTargetKey "SET_DEMO_VALUE" = .ok "set_demo_value" ∧
    normalizeActionTargetKey "demo_kv:alpha" = .ok "demo_kv:alpha" :=
  ⟨normalize_ascii (by decide) (by decide) (by decide) (by decide) (by decide),
    normalize_ascii (by decide) (by decide) (by decide) (by decide) (by decide)⟩

section
variable {inputDigest digest : String} {p : Proposal} {s : EvaluationSnapshot}

/-- The persisted task is ready. -/
lemma persistedTask_ready (hex : isHex64 inputDigest = true) : (persistedTask inputDigest digest).Ready [] where
  size := List.length_replicate
  finite := zeroVector_single.finite
  inputDigest := hex
  parameters := plainJson_empty
  impactAssessment := plainJson_empty
  predictedOutcome := plainJson_empty
  dependencies := fun _ h => absurd h List.not_mem_nil
  lineage := rfl

/-- What is said of the proposal and the snapshot of the run. -/
structure Refused (inputDigest digest : String) (p : Proposal) (s : EvaluationSnapshot) : Prop where
  proposed : (persistedTask inputDigest digest).proposal readyReference "set_demo_value" "demo_kv:alpha" [] =
    .ok p
  valid : validateProposal p = .ok ()
  built : (persistedTask inputDigest digest).snapshot deployedConfig readyReference p [keyExclusion]
    firstDraws.snapshotId firstDraws.capturedAt = .ok s
  canonical : canonicalSnapshot s = s

/-- The proposal and the snapshot of the run are built. -/
lemma persistedTask_built (plain : PlainEngine) (hex : isHex64 inputDigest = true) :
    ∃ p s, Refused inputDigest digest p s := by
  obtain ⟨p, proposed, valid⟩ := @Task.Ready.proposal _ _ readyReference "set_demo_value" "demo_kv:alpha" _
    (@persistedTask_ready _ inputDigest digest hex)
  obtain ⟨_, _, same⟩ := Task.proposal_ok proposed
  have ids : (p.dependencies.map DependencyRef.dependencyId).Nodup := same ▸ List.nodup_nil
  have evaluation : (persistedTask inputDigest digest).evaluationId ≠ "" :=
    show "00000000-0000-4000-8000-000000000002" ≠ "" by decide
  have snapshot : ∃ s, (persistedTask inputDigest digest).snapshot deployedConfig readyReference p
      [keyExclusion] firstDraws.snapshotId firstDraws.capturedAt = .ok s :=
    Task.snapshot_succeeds valid ids evaluation
      (by decide : "00000000-0000-4000-8000-000000000003" ≠ "") rfl
      (fun _ h => absurd h List.not_mem_nil) keyExclusion_proper.fields
  obtain ⟨s, built⟩ := snapshot
  have found : searchPrecedents {} (persistedTask inputDigest digest).embedding deployedConfig.precedentTopK
      firstDraws.evaluationId = .ok (persistedTask inputDigest digest).precedents :=
    searchPrecedents_none plain firstDraws.evaluation_isUuid rfl
  have stored : getExclusions { exclusions := [keyExclusion] } "set_demo_value" "demo_kv:alpha" =
      [keyExclusion] := rfl
  obtain ⟨own, proposal, canonical⟩ := Task.snapshot_canonical found proposed (stored.symm ▸ built)
  refine ⟨p, s, proposed, valid, built, canonical.trans (resorted_self ?_ ?_)⟩
  · rw [proposal]
    rfl
  · rw [own]
    rfl

/-- What the gate looks at of the proposal. -/
structure ProposalFacts (p : Proposal) : Prop where
  texts : p.actionType = "SET_DEMO_VALUE" ∧ p.target = "demo_kv:alpha"
  keys : p.actionTypeKey = "set_demo_value" ∧ p.targetKey = "demo_kv:alpha"
  action : proposalActionDigest p = .ok p.actionDigest
  record : proposalRecordDigest p = .ok p.proposalDigest
  dependencies : p.dependencies = []

/-- The refused task's proposal can be stored. -/
lemma Refused.proposal (h : Refused inputDigest digest p s) : ProposalFacts p := by
  have proposed := h.proposed
  simp only [Task.proposal, bind_eq_ok, pure_eq_ok, Except.ok.injEq] at proposed
  obtain ⟨action, acted, record, recorded, rfl⟩ := proposed
  exact ⟨⟨rfl, rfl⟩, ⟨rfl, rfl⟩, acted, recorded, rfl⟩

/-- What the gate looks at of the rest of the snapshot. -/
structure SnapshotFacts (p : Proposal) (s : EvaluationSnapshot) : Prop where
  proposal : s.proposal = p
  policy : ∃ policyDigest, s.policy = ⟨agentProfileVersion, policyDigest, []⟩ ∧
    policyInputDigest s.policy = .ok policyDigest
  precedents : s.precedents = []
  exclusions : s.exclusions = [keyExclusion]
  capabilities : ∃ ready, s.capabilities = [ready]
  dependencies : s.dependencies = p.dependencies
  evaluationId : s.evaluationId = firstDraws.evaluationId
  profile : s.profileVersion = some agentProfileVersion
  prior : s.priorEvaluation = none
  valid : validateSnapshot s = .ok s

/-- The refused task's snapshot can be stored. -/
lemma Refused.snapshot (h : Refused inputDigest digest p s) : SnapshotFacts p s := by
  have built := h.built
  simp only [Task.snapshot, bind_eq_ok, mapError_eq_ok] at built
  obtain ⟨policy, hp, ready, -, finalized⟩ := built
  simp only [agentPolicy, bind_eq_ok, pure_eq_ok, Except.ok.injEq] at hp
  obtain ⟨policyDigest, hashed, rfl⟩ := hp
  obtain ⟨digest, rfl, valid⟩ := finalizeSnapshot_ok finalized
  exact ⟨rfl, ⟨policyDigest, rfl, hashed⟩, rfl, rfl, ⟨ready, rfl⟩, rfl, rfl, rfl, rfl, valid⟩

/-- The refused task's snapshot is admitted. -/
lemma Refused.admitted (h : Refused inputDigest digest p s) : admission s pinnedConfig = .ok none := by
  have facts := h.proposal
  have rest := h.snapshot
  obtain ⟨policyDigest, policy, hashed⟩ := rest.policy
  obtain ⟨actionKey, targetKey⟩ := draft_keys
  have one : ("set_demo_value" ++ "\x1f" ++ "demo_kv:alpha").toList.count '\x1f' = 1 := by decide
  have few : s.precedents.length ≤ pinnedConfig.precedentTopK := by
    rw [rest.precedents]
    exact Nat.zero_le _
  have checked : forAll checkExclusion s.exclusions = .ok () := by
    rw [rest.exclusions]
    exact keyExclusion_proper.checked
  have bindings : checkBindings s pinnedConfig = .ok () := by
    simp only [checkBindings, checkKey, bind_eq_ok, ensure_eq_ok, exists_unit, rest.proposal, facts.texts.1,
      facts.texts.2, facts.keys.1, facts.keys.2, rest.dependencies]
    refine ⟨⟨_, actionKey, rfl⟩, ⟨_, targetKey, rfl⟩, one, _, facts.action, rfl, _, facts.record, rfl, _, hashed,
      ?_, ?_, ?_, few, checked, trivial⟩
    · rw [policy]
    · rw [policy]
      exact (by decide : "agent-loop/1.1" ≠ "")
    · rw [rest.profile]
      exact (by decide : some "agent-loop/1.1" ≠ some "")
  have input : validateInput s pinnedConfig = .ok () := by
    simp only [validateInput, bind_eq_ok, exists_unit]
    exact ⟨pinnedConfig_valid, admitSnapshot_ok_iff.mpr (.inl ⟨_, rest.valid⟩), bindings⟩
  rw [admission, input, ok_bind, bindPrior, rest.prior]

/-- No report is recalled. -/
lemma Refused.reports (h : Refused inputDigest digest p s) : consequenceReports s pinnedConfig = [] := by
  refine List.eq_nil_iff_forall_not_mem.mpr fun pair hpair => ?_
  obtain ⟨q, hq, -⟩ := List.mem_flatMap.mp (mem_sortedBy.mp hpair)
  have hq := List.mem_of_mem_filter (List.mem_of_mem_filter (List.mem_of_mem_filter hq))
  have recalled := mem_sortedPrecedents.mp hq
  rw [h.snapshot.precedents] at recalled
  exact absurd recalled List.not_mem_nil

/-- The gate refuses the proposal, and the validator accepts its result. -/
lemma Refused.evaluated (h : Refused inputDigest digest p s) :
    ∃ r, evaluateProposal s pinnedConfig = .ok (.check r) ∧ validateResult (.check r) = .ok () := by
  have facts := h.proposal
  have rest := h.snapshot
  have dependencies : s.dependencies = [] := rest.dependencies.trans facts.dependencies
  have counts : CountsReadable s pinnedConfig := by
    rw [CountsReadable, h.reports]
    exact natChars_small (Nat.zero_le 5)
  -- the exclusion has the keys of the proposal
  have forbidden : Forbidden s := by
    refine .inr (.inl ⟨keyExclusion, rest.exclusions ▸ List.mem_singleton_self _, ?_⟩)
    rw [rest.proposal]
    exact ⟨facts.keys.1.symm, facts.keys.2.symm⟩
  have finalized : ∃ r, evaluateProposal s pinnedConfig = .ok (.check r) := by
    rw [evaluateProposal, h.canonical, evaluateCanonical_check_iff]
    refine ⟨⟨none, h.admitted⟩, ?_⟩
    exact
      { reports := fun pair hpair => by
          rw [h.reports] at hpair
          exact absurd hpair List.not_mem_nil
        capabilities := by
          obtain ⟨ready, one⟩ := rest.capabilities
          rw [one]
          exact List.nodup_singleton _
        length := by
          have bound : stepCount s pinnedConfig ≤ 10 + 2 * s.dependencies.length := stepCount_le
          rw [dependencies, List.length_nil] at bound
          omega
        evaluationId := by
          rw [rest.evaluationId]
          exact (by decide : "00000000-0000-4000-8000-000000000002" ≠ "")
        prior := fun _ hprior => absurd (rest.prior ▸ hprior) (Option.not_mem_none _) }
  obtain ⟨r, evaluated⟩ := finalized
  refine ⟨r, evaluated, ?_⟩
  obtain ⟨priorId, adm, gate⟩ := evaluateCanonical_check.mp evaluated
  rw [h.canonical] at adm gate
  -- a refused snapshot keeps no gaps, so nothing is asked of their identifiers
  have accepted : validateCheckResult r = .ok r := (evaluateAdmitted_accepted adm gate).mpr
    { counts := counts
      dependencies := fun d hd => absurd (dependencies ▸ hd) List.not_mem_nil
      rules := fun allowed => absurd forbidden allowed
      gaps := fun allowed => absurd forbidden allowed
      prior := fun _ hprior => absurd (rest.prior ▸ hprior) (Option.not_mem_none _) }
  rw [validateResult, accepted]
  rfl

/-- The evaluation of the task. -/
lemma persistedTask_evaluated (plain : PlainEngine) (hex : isHex64 inputDigest = true) :
    ∃ p s r, Refused inputDigest digest p s ∧ evaluateProposal s pinnedConfig = .ok (.check r) ∧
      validateResult (.check r) = .ok () ∧
      (persistedTask inputDigest digest).evaluation deployedConfig firstDraws readyReference "set_demo_value"
        "demo_kv:alpha" [keyExclusion] [] = .ok ⟨p, s, .check r⟩ := by
  obtain ⟨p, s, refused⟩ := @persistedTask_built _ inputDigest digest plain hex
  obtain ⟨r, evaluated, accepted⟩ := refused.evaluated
  have pinned : defaultRuleConfig = .ok pinnedConfig := by
    have valid := pinnedConfig_valid
    simp only [validateConfig, bind_eq_ok, ensure_eq_ok, exists_unit] at valid
    obtain ⟨-, _, hashed, rfl⟩ := valid
    rw [defaultRuleConfig, show computeRuleConfigDigest { ruleConfigDigest := zeroDigest } =
      .ok pinnedConfig.ruleConfigDigest from hashed]
    rfl
  refine ⟨p, s, r, refused, evaluated, accepted, ?_⟩
  simp only [Task.evaluation, refused.proposed, refused.built, pinned, evaluated, accepted, ok_bind,
    Except.mapError, pure_eq_ok]

/-- The validation returns the refusal and stores its rows. -/
lemma validation_returns {e : TaskEvaluation} (stored : db.exclusions = [keyExclusion])
    (evaluated : (persistedTask inputDigest digest).evaluation deployedConfig firstDraws readyReference
      "set_demo_value" "demo_kv:alpha" [keyExclusion] [] = .ok e) :
    (validationStage m deployedConfig firstDraws (persistedTask inputDigest digest) readyReference).Returns
      db calls e db calls := by
  have exclusions : getExclusions db.toDatabase "set_demo_value" "demo_kv:alpha" = [keyExclusion] := by
    rw [getExclusions, stored]
    rfl
  have facts : getDependencyFacts db [] = .ok [] := rfl
  refine returns_bind (returns_python draft_keys.1) ?_
  refine returns_bind (returns_python draft_keys.2) ?_
  refine returns_bind (returns_unit (answers_query fun _ => congrArg Except.ok exclusions)) ?_
  refine returns_bind (returns_python (a := ()) rfl) ?_
  refine returns_bind (returns_unit (answers_query fun _ => mapError_eq_ok.mpr facts)) ?_
  refine returns_bind (returns_agent (a := []) rfl) ?_
  refine returns_bind returns_unlinked ?_
  exact returns_agent evaluated

/-! ### The row and the unit -/

/-- The row of the proposal, and its columns. -/
lemma Refused.columns (h : Refused inputDigest digest p s) (plain : PlainEngine) :
    ∃ row, proposalArgs p = .ok row ∧ castProposal row = .ok row ∧ ∀ tables : Database,
      (∀ q ∈ tables.proposals, q.id ≠ p.proposalId) →
        insertProposal tables row = .ok { tables with proposals := tables.proposals ++ [row] } := by
  obtain ⟨_, _, same⟩ := Task.proposal_ok h.proposed
  obtain ⟨⟨-, object⟩, -, kind⟩ := empty_columns
  have storable : p.Storable := same ▸ ⟨object, object, object, kind, ⟨rfl, rfl, rfl⟩⟩
  exact storable.columns h.valid (same ▸ firstDraws.proposal_isUuid) plain.vector

/-- The unit of the last stage persists the task in a store without proposals and evaluations. -/
lemma persist_answers (h : Refused inputDigest digest p s) (plain : PlainEngine) {r : CheckResult}
    (evaluated : evaluateProposal s pinnedConfig = .ok (.check r))
    (accepted : validateResult (.check r) = .ok ())
    (only : db.toolEvidence = [toolEvidenceArgs sealedEvidence]) (noProposals : db.proposals = [])
    (noEvaluations : db.evaluations = []) :
    ∃ ids written, (persist (persistedTask inputDigest digest) ⟨p, s, .check r⟩).Answers db ids written := by
  have rest := h.snapshot
  obtain ⟨_, _, same⟩ := Task.proposal_ok h.proposed
  obtain ⟨row, made, typed, inserts⟩ := h.columns plain
  obtain ⟨bound, -⟩ := validateEvaluationBinding_same rest.valid evaluated accepted (by rw [h.canonical])
    (by rw [h.canonical])
  obtain ⟨prior, changed⟩ := evaluateProposal_first evaluated rest.prior
  obtain ⟨-, -, resultId, -⟩ := evaluateProposal_bindings evaluated
  have id : r.evaluationId = firstDraws.evaluationId := resultId.trans rest.evaluationId
  have own : isUuid p.proposalId = true := same ▸ firstDraws.proposal_isUuid
  have equal : proposalEq s.proposal p = true := by
    rw [rest.proposal]
    refine proposalEq_self fun x hx => ?_
    have component : x ∈ zeroVector := by
      rw [same] at hx
      exact hx
    cases List.eq_of_mem_replicate component
    rfl
  -- the evaluation refers to the row that the statement before it has inserted
  have inserted := inserts db.toDatabase fun q hq => absurd (noProposals ▸ hq) List.not_mem_nil
  let tables : Database := { db.toDatabase with proposals := db.proposals ++ [row] }
  have home : ∃ q ∈ tables.proposals, q.id = p.proposalId :=
    ⟨row, List.mem_append_right _ List.mem_cons_self, (proposalArgs_binds made).1⟩
  obtain ⟨evaluation, -, stored⟩ := @storeEvaluation_succeeds _ tables p.proposalId s r bound
    (id ▸ firstDraws.evaluation_isUuid) own home
    (fun row hrow => absurd (noEvaluations ▸ hrow) List.not_mem_nil)
    (fun row hrow => absurd (noEvaluations ▸ hrow) List.not_mem_nil)
    (fun _ hprior => absurd (prior ▸ hprior) (Option.not_mem_none _)) (.inr changed)
  refine ⟨(p.proposalId, r.evaluationId),
    { db with toDatabase := { tables with evaluations := tables.evaluations ++ [evaluation] } }, ?_⟩
  refine answers_bind (answers_retry (answers_query fun n => mapError_eq_ok.mpr
    (sealedEvidence_latest plain only n))) ?_
  refine answers_bind (answers_compute (ensure_pos ⟨rfl, rfl⟩)) ?_
  refine answers_bind answers_done ?_
  exact answers_append bound ⟨equal, rest.prior, prior, changed⟩ (castUuid_self own)
    (fun q hq => absurd (noProposals ▸ hq) List.not_mem_nil) made typed inserted stored

end

/-! ### The run -/

/-- The store of the run: one exclusion. -/
def excludedStore : Store := { exclusions := [keyExclusion] }

/-- The world in which the task begins. -/
def readyWorld : World where
  session := { store := excludedStore, active := none, faults := fun _ => none, clock := 0, commits := 0 }
  calls := []

lemma promptSummary_encodes : Encodes (promptSummary "Set the demo value." [] sealedEvidence) := by
  rw [promptSummary, encodes_dict (by simp) (by simp; decide)]
  simp only [List.forall_mem_cons, encodes_str, encodes_tuple, List.map_nil, true_and]
  refine ⟨?_, fun _ h => absurd h List.not_mem_nil, fun _ h => absurd h List.not_mem_nil⟩
  refine ⟨?_, fun _ h => absurd h List.not_mem_nil⟩
  rw [encodes_dict (by simp) (by simp; decide)]
  simp

/-- The task is persisted. -/
lemma readyTask_run (plain : PlainEngine) : ∃ outcome w receipt result,
    processTask m deployedConfig readyOutside firstDraws firstArgs readyWorld = (.ok outcome, w) ∧
      outcome.persisted = some (receipt, result) := by
  obtain ⟨task, htask⟩ := Encodes.digest (@encodes_str _ firstArgs.taskDescription)
  obtain ⟨c, hconfig⟩ := deployedConfig_digest
  obtain ⟨d, hinput⟩ := firstArgs_input
  obtain ⟨inputDigest, hex, recalled⟩ := @recall_returns _ excludedStore m [] plain firstDraws.evaluationId
    firstDraws.evaluation_isUuid rfl
  have evidence := @evidence_returns _ excludedStore m ([] ++ [.embed]) plain rfl
  obtain ⟨promptDigest, hprompt⟩ := promptSummary_encodes.digest
  obtain ⟨unicode, j, encoded⟩ := promptSummary_encodes
  have prompt : canonicalJson (promptSummary "Set the demo value." [] sealedEvidence) = .ok j.dumps :=
    canonicalJson_eq_ok.mpr ⟨unicode, j, encoded, rfl⟩
  -- from the capture on, the store holds the evidence
  let db : Store := { excludedStore with toolEvidence := [toolEvidenceArgs sealedEvidence] }
  obtain ⟨digest, call, drafted⟩ := @draft_returns _ db ([] ++ [.embed] ++ [.capture]) plain firstDraws
    ⟨"Set the demo value.", "agent", "session", "requester", d⟩ c j.dumps promptDigest
    sealedEvidence.evidenceId
  obtain ⟨p, s, r, refused, gate, accepted, evaluated⟩ := @persistedTask_evaluated _ inputDigest digest plain hex
  have validated := @validation_returns _ db m ([] ++ [.embed] ++ [.capture] ++ [.respond]) _ _ _ rfl evaluated
  obtain ⟨ids, written, persisted⟩ := @persist_answers _ db _ _ _ _ refused plain _ gate accepted rfl rfl rfl
  have returns : (processTask m deployedConfig readyOutside firstDraws firstArgs).Returns excludedStore []
      (taskOutcome (persistedTask inputDigest digest) readyReference call ⟨p, s, .check r⟩) written
      ([] ++ [.embed] ++ [.capture] ++ [.respond]) := by
    refine returns_bind (returns_python htask) ?_
    refine returns_bind (returns_python hconfig) ?_
    refine returns_stage (returns_agent hinput) ?_
    refine returns_stage (returns_agent (a := ()) rfl) ?_
    refine returns_stage recalled ?_
    refine returns_stage evidence ?_
    refine returns_bind (returns_python prompt) ?_
    refine returns_bind (returns_python hprompt) ?_
    refine returns_stage drafted ?_
    refine returns_stage validated ?_
    exact returns_stage (returns_unit persisted) returns_pure
  obtain ⟨w, ran, -⟩ := returns readyWorld ⟨fun _ => rfl, rfl, rfl, rfl⟩
  exact ⟨_, w, _, _, ran, taskOutcome_persisted⟩

/-- Every text is embedded as zeros. -/
lemma readyOutside_zeros {text : String} {l : List Binary64} (h : readyOutside.embed text = .ok l) :
    ∀ x ∈ l, unsignedZero x = x := by
  have embedded := mapError_eq_ok.mp h
  simp only [embedOne, bind_eq_ok, pure_eq_ok, Except.ok.injEq] at embedded
  obtain ⟨vectors, many, rfl⟩ := embedded
  obtain ⟨canonical, accepted⟩ : ∃ canonical, canonicalTexts [text] = .ok canonical := by
    simp only [embedMany, bind_eq_ok] at many
    obtain ⟨canonical, accepted, -⟩ := many
    exact ⟨canonical, accepted⟩
  rw [@embedMany_constant _ (.int 0) .zero _ _ rfl rfl rfl rfl accepted] at many
  cases many
  intro x hx
  cases canonical with
  | nil => cases hx
  | cons _ _ =>
    cases List.eq_of_mem_replicate hx
    rfl

end

/-- An engine whose columns keep what is written, behind a connection that takes times as texts. -/
lemma agentWith_plain :
    let _ := agentWith sha256Hex sha256Hex_isHex
    PlainEngine := by
  intro _
  refine ⟨fun _ => rfl, fun _ => rfl, rfl, fun _ _ => ?_⟩
  show mkRat 0 1 < mkRat 1 1
  norm_num

/-- The task of the run has called each collaborator once and committed the two rows that it answers with. -/
theorem processTask_tables_ready :
    let _ := agentWith sha256Hex sha256Hex_isHex
    ∃ outcome w receipt result row evaluation,
      processTask ⟨none⟩ deployedConfig readyOutside firstDraws firstArgs readyWorld = (.ok outcome, w) ∧
      outcome.persisted = some (receipt, result) ∧ w.calls.Nodup ∧
      w.session.store.proposals = [row] ∧ w.session.store.evaluations = [evaluation] ∧
      row.proposalDigest = receipt.proposalDigest ∧ evaluation.traceDigest = receipt.traceDigest := by
  intro _
  obtain ⟨outcome, w, receipt, result, run, persisted⟩ := readyTask_run agentWith_plain
  obtain ⟨⟨made, calls, once⟩, -, stored⟩ :=
    processTask_tables rfl (fun _ h => absurd h List.not_mem_nil) run
  obtain ⟨⟨row, evaluation, proposals, evaluations, -, record, -, -, trace⟩, -⟩ := stored receipt result persisted
  exact ⟨outcome, w, receipt, result, row, evaluation, run, persisted, calls ▸ once, proposals, evaluations,
    record, trace⟩

/-- It has made each call, and one transaction has persisted it. -/
theorem processTask_allOrNothing_ready :
    let _ := agentWith sha256Hex sha256Hex_isHex
    ∃ outcome w receipt result store,
      processTask ⟨none⟩ deployedConfig readyOutside firstDraws firstArgs readyWorld = (.ok outcome, w) ∧
      outcome.persisted = some (receipt, result) ∧ w.calls = [.embed, .capture, .respond] ∧
      TaskCommit ⟨none⟩ firstArgs firstDraws receipt result store w.session.store := by
  intro _
  obtain ⟨outcome, w, receipt, result, run, persisted⟩ := readyTask_run agentWith_plain
  obtain ⟨-, -, -, stored⟩ := processTask_allOrNothing rfl (fun _ h => absurd h List.not_mem_nil) run
  obtain ⟨called, store, -, commit⟩ := stored outcome receipt result rfl persisted
  exact ⟨outcome, w, receipt, result, store, run, persisted, called, commit⟩

/-- It has added its two rows and evidence, and nothing else. -/
theorem processTask_authority_ready :
    let _ := agentWith sha256Hex sha256Hex_isHex
    ∃ outcome w receipt result,
      processTask ⟨none⟩ deployedConfig readyOutside firstDraws firstArgs readyWorld = (.ok outcome, w) ∧
      outcome.persisted = some (receipt, result) ∧ AgentWrites excludedStore w.session.store := by
  intro _
  obtain ⟨outcome, w, receipt, result, run, persisted⟩ := readyTask_run agentWith_plain
  exact ⟨outcome, w, receipt, result, run, persisted, (processTask_authority rfl run).1⟩

/-- The proposal of the run is loaded as it was evaluated. -/
theorem processTask_loaded_ready :
    let _ := agentWith sha256Hex sha256Hex_isHex
    ∃ outcome w receipt result p,
      processTask ⟨none⟩ deployedConfig readyOutside firstDraws firstArgs readyWorld = (.ok outcome, w) ∧
      outcome.persisted = some (receipt, result) ∧
      getProposal w.session.store.toDatabase receipt.proposalId = .ok p := by
  intro _
  obtain ⟨outcome, w, receipt, result, run, persisted⟩ := readyTask_run agentWith_plain
  obtain ⟨p, s, -, -, embedded, loaded⟩ := @processTask_loaded _ _ _ _ _ _ _ _ _ _ _ _
    Protocol.anyRun [] _ rfl (fun _ h => absurd h List.not_mem_nil) readyOutside_embedsOne run persisted .refl
  obtain ⟨task, embedded⟩ := embedded
  refine ⟨outcome, w, receipt, result, p, run, persisted, ?_⟩
  refine (loaded (normal_of_id (fun _ => rfl) _) ?_).mpr (readyOutside_zeros embedded)
  intro text column _ cast
  cases (agentWith_plain.vector text).symm.trans cast
  rfl

end GAM
