import GAM.Agent.Task
import GAM.System.StoreBinding

/-!
# The agent's snapshot at the gate

The agent lists its dependencies in the order of their keys, the gate sorts them by their identifiers,
which are `uuid5` of the keys. Everything else the agent hands over is in canonical order already, so the
gate admits the snapshot exactly when the identifiers ascend with the keys.
-/

namespace GAM
open Lib

/-! ### What blames a snapshot -/

section
variable [Platform] {s : EvaluationSnapshot} {c : RuleConfig}

/-- An exception that does not blame the snapshot. -/
def SparesSnapshot (e : PyError) : Prop := ∀ message, e ≠ .blocked "INVALID_SNAPSHOT" message

omit [Platform] in
lemma sparesSnapshot_blocked {code message : String} :
    SparesSnapshot (.blocked code message) ↔ code ≠ "INVALID_SNAPSHOT" := by
  simp [SparesSnapshot]

/-- A digest does not fail on the snapshot. -/
lemma sparesSnapshot_digest {v : Value} : OnlyRaises SparesSnapshot (canonicalSha256 v) := by
  refine canonicalSha256_raises.mono fun e h m same => ?_
  rw [same] at h
  exact h

/-- A key does not fail on the snapshot. -/
lemma sparesSnapshot_key {display key code message : String} (own : code ≠ "INVALID_SNAPSHOT") :
    OnlyRaises SparesSnapshot (checkKey display key (.blocked code message)) := by
  unfold checkKey normalizeActionTargetKey
  dsimp only
  split
  · simp [stop, sparesSnapshot_blocked]
  · simp [sparesSnapshot_blocked, own]

/-- Past the checks of a valid snapshot nothing blames it. -/
lemma admission_spares {v : EvaluationSnapshot} (valid : validateSnapshot s = .ok v) :
    OnlyRaises SparesSnapshot (admission s c) := by
  have admitted : admitSnapshot s = .ok () := by rw [admitSnapshot, valid]
  have exclusions : OnlyRaises SparesSnapshot (forAll checkExclusion s.exclusions) := by
    refine onlyRaises_forAll fun e _ => ?_
    simp only [checkExclusion, onlyRaises_bind, onlyRaises_ensure, sparesSnapshot_blocked]
    exact ⟨sparesSnapshot_key (by decide), fun _ _ => ⟨sparesSnapshot_key (by decide), by simp⟩⟩
  have prior : OnlyRaises SparesSnapshot (bindPrior s c) := by
    unfold bindPrior
    split
    · trivial
    · simp [sparesSnapshot_blocked]
  simp only [admission, validateInput, validateConfig, checkBindings, computeRuleConfigDigest,
    proposalActionDigest, proposalRecordDigest, policyInputDigest, onlyRaises_bind, onlyRaises_ensure,
    sparesSnapshot_digest, sparesSnapshot_blocked, admitted, exclusions, prior, onlyRaises_ok]
  simp [sparesSnapshot_key]

/-- A valid snapshot is never answered as invalid. -/
lemma evaluateCanonical_spares {v : EvaluationSnapshot} {b : BlockedResult}
    (valid : validateSnapshot s = .ok v) (h : evaluateCanonical s c = .ok (.blocked b)) :
    b.errorCode ≠ "INVALID_SNAPSHOT" := by
  unfold evaluateCanonical at h
  split at h
  · rename_i e ha
    have spares := (admission_spares valid).of_error ha
    obtain ⟨code, message, rfl, hb⟩ | hb := handle_blocked h
    · exact hb ▸ sparesSnapshot_blocked.mp spares
    · rw [hb]
      decide
  · rename_i priorId ha
    obtain ⟨pinned, fin⟩ := admit_facts ha
    split at h
    · rename_i e he
      obtain ⟨code, message, rfl, hb⟩ | hb := handle_blocked h
      · have own : code ∈ evaluationCodes := ((evaluateAdmitted_raises pinned fin).of_error he).1
        rw [hb]
        rintro rfl
        exact absurd own (by decide)
      · rw [hb]
        decide
    · cases h

/-! ### A snapshot with its dependencies sorted -/

/-- A snapshot with its dependencies in the order of the gate. -/
def EvaluationSnapshot.resorted (s : EvaluationSnapshot) : EvaluationSnapshot :=
  { s with
    proposal :=
      { s.proposal with
        dependencies := sortedBy DependencyRef.dependencyId s.proposal.dependencies }
    dependencies := sortedBy DependencyRef.dependencyId s.dependencies }

omit [Platform] in
/-- A snapshot with its dependencies in order is resorted to itself. -/
lemma resorted_self
    (proposal : sortedBy DependencyRef.dependencyId s.proposal.dependencies = s.proposal.dependencies)
    (own : sortedBy DependencyRef.dependencyId s.dependencies = s.dependencies) : s.resorted = s := by
  rw [EvaluationSnapshot.resorted, proposal, own]

/-- Resorting keeps the records valid. -/
lemma resorted_before (h : validateBeforeDigest s = .ok ()) :
    validateBeforeDigest s.resorted = .ok () := by
  have nodup : ((sortedBy DependencyRef.dependencyId s.dependencies).map
      DependencyRef.dependencyId).Nodup ↔ (s.dependencies.map DependencyRef.dependencyId).Nodup :=
    (sortedBy_perm.map _).nodup_iff
  simp only [validateBeforeDigest, validateProposal, bind_eq_ok, ensure_eq_ok, exists_unit,
    validateFields_toValue, EvaluationSnapshot.fieldsValid, Proposal.fieldsValid] at h ⊢
  simp only [EvaluationSnapshot.resorted, mem_sortedBy, nodup]
  exact h

/-- A proposal is encoded where its embedding is finite. -/
lemma encodes_proposal {p : Proposal} :
    Encodes (toValue p) ↔ ∀ x ∈ p.embedding, x.isFinite = true := by
  rw [show toValue p = .record _ from rfl]
  simp

/-- Resorting keeps a snapshot's digest defined. -/
lemma resorted_digest {d : String} (h : snapshotDigest s = .ok d) :
    ∃ d', snapshotDigest s.resorted = .ok d' := by
  have fields := @canonicalSha256_dict _ [_, _, _, _, _, _, _, _, _, _, _, _] d h
  refine Encodes.digest ?_
  rw [show snapshotPayload s.resorted = .dict [_, _, _, _, _, _, _, _, _, _, _, _] from rfl,
    encodes_dict]
  · rw [List.forall_mem_cons] at fields ⊢
    simp only [List.forall_mem_cons] at fields ⊢
    obtain ⟨schema, evaluationId, snapshotId, profile, proposal, policy, precedents, exclusions,
      capabilities, dependencies, rest⟩ := fields
    refine ⟨schema, evaluationId, snapshotId, profile, ?_, policy, precedents, exclusions, capabilities,
      ?_, rest⟩
    · exact encodes_proposal.mpr ((@encodes_proposal _ s.proposal).mp proposal)
    · simp
  · simp
  · simp only [List.forall_mem_cons]
    decide

/-- A valid first snapshot that does not have the digest of its resorted copy is answered as invalid. -/
lemma resorted_refused {v : EvaluationSnapshot} (config : validateConfig c = .ok ())
    (first : s.priorEvaluation = none) (valid : validateSnapshot s = .ok v)
    (canonical : canonicalSnapshot s = s.resorted)
    (differs : snapshotDigest s.resorted ≠ .ok s.snapshotDigest) :
    ∃ b, evaluateProposal s c = .ok (.blocked b) ∧ b.errorCode = "INVALID_SNAPSHOT" := by
  have digest := validateSnapshot_digest valid
  obtain ⟨digest', resorted⟩ := resorted_digest digest
  rw [validateSnapshot_eq] at valid
  simp only [bind_eq_ok, exists_unit] at valid
  have mismatch : validateSnapshot s.resorted =
      .error (.contractViolation "snapshot digest mismatch") := by
    have other : s.resorted.snapshotDigest ≠ digest' := by
      rintro rfl
      exact differs resorted
    rw [validateSnapshot_eq, resorted_before valid.1, ok_bind, resorted, ok_bind, ensure_neg other]
    rfl
  have refused : admission s.resorted c =
      .error (.blocked "INVALID_SNAPSHOT" "snapshot integrity validation failed") := by
    have none : s.resorted.priorEvaluation = none := first
    simp only [admission, validateInput, config, ok_bind, admitSnapshot, mismatch, none, if_true, stop,
      error_bind]
  obtain ⟨b, -, -, -, hb, -⟩ := @blockedResult_ok _ s.resorted c none "INVALID_SNAPSHOT"
    "snapshot integrity validation failed" (by decide) (by decide)
  refine ⟨b, ?_, blockedResult_code hb⟩
  rw [evaluateProposal, canonical, evaluateCanonical, refused]
  simp only [handle, hb]
  rfl

end

section
variable [AgentEngine] {t : Task} {config : AgentConfig} {reference : EvidenceRef}
  {actionKey targetKey snapshotId capturedAt : String} {exclusions : List ExclusionRef}
  {dependencies : List DependencyRef} {p : Proposal} {s : EvaluationSnapshot}

/-- The identifiers of the dependencies of a task, in the order of the requests. -/
def Task.dependencyIds (t : Task) : List String :=
  t.draft.dependencyRequests.map fun request =>
    AgentEngine.uuid5 t.proposalId request.dependencyKey

/-- A requested dependency's identifier is drawn from the proposal's and its key. -/
lemma requestedDependency_id {proposalId : String} {facts : List DependencyFact}
    {request : DependencyRequest} {d : DependencyRef}
    (h : requestedDependency proposalId facts request = .ok d) :
    d.dependencyId = AgentEngine.uuid5 proposalId request.dependencyKey := by
  unfold requestedDependency at h
  split at h
  · simp only [bind_eq_ok, ensure_eq_ok, exists_unit, pure_eq_ok, Except.ok.injEq] at h
    obtain ⟨-, rfl⟩ := h
    rfl
  · cases h

/-- The dependencies have the identifiers of their requests. -/
lemma dependenciesOf_ids {facts : List DependencyFact}
    (h : dependenciesOf t.proposalId t.draft.dependencyRequests facts = .ok dependencies) :
    dependencies.map DependencyRef.dependencyId = t.dependencyIds := by
  simp only [dependenciesOf, bind_eq_ok, ensure_eq_ok, exists_unit] at h
  have each := mapAll_eq_ok.mp h.2
  rw [Task.dependencyIds]
  generalize t.draft.dependencyRequests = requests at each ⊢
  clear h
  induction each with
  | nil => rfl
  | cons head _ ih => rw [List.map_cons, List.map_cons, requestedDependency_id head, ih]

/-! ### What is finalized -/

/-- A task's proposal is its provisional one with both digests. -/
lemma Task.proposal_ok (h : t.proposal reference actionKey targetKey dependencies = .ok p) :
    ∃ actionDigest proposalDigest,
      p = { t.provisional reference actionKey targetKey dependencies with
            actionDigest := actionDigest, proposalDigest := proposalDigest } := by
  simp only [Task.proposal, bind_eq_ok, pure_eq_ok, Except.ok.injEq] at h
  obtain ⟨actionDigest, -, proposalDigest, -, rfl⟩ := h
  exact ⟨actionDigest, proposalDigest, rfl⟩

/-- The snapshot of a task, before its digest. -/
def Task.body (t : Task) (config : AgentConfig) (policy : PolicyInput) (ready : CapabilityFact)
    (proposal : Proposal) (exclusions : List ExclusionRef) (snapshotId capturedAt : String) :
    EvaluationSnapshot where
  evaluationId := t.evaluationId
  snapshotId := snapshotId
  profileVersion := some agentProfileVersion
  proposal := proposal
  policy := policy
  precedents := exactPrecedents config proposal.actionTypeKey proposal.targetKey t.precedents
  exclusions := exclusions
  capabilities := [ready]
  dependencies := proposal.dependencies
  priorEvaluation := none
  capturedAt := capturedAt
  snapshotDigest := zeroDigest

/-- A task's snapshot is its body with its digest. -/
lemma Task.snapshot_ok (h : t.snapshot config reference p exclusions snapshotId capturedAt = .ok s) :
    ∃ policyDigest ready digest,
      s = { t.body config ⟨agentProfileVersion, policyDigest, []⟩ ready p exclusions snapshotId
              capturedAt with snapshotDigest := digest } ∧
      validateSnapshot s = .ok s := by
  simp only [Task.snapshot, bind_eq_ok, mapError_eq_ok] at h
  obtain ⟨policy, hp, ready, -, finalized⟩ := h
  simp only [agentPolicy, bind_eq_ok, pure_eq_ok, Except.ok.injEq] at hp
  obtain ⟨policyDigest, -, rfl⟩ := hp
  obtain ⟨digest, same, valid⟩ := finalizeSnapshot_ok finalized
  exact ⟨policyDigest, ready, digest, same, valid⟩

/-- What the stages before hand on for a proposal that is valid. -/
structure Task.Ready (t : Task) (dependencies : List DependencyRef) : Prop where
  size : t.embedding.length = pinnedEmbeddingDimensions
  finite : ∀ x ∈ t.embedding, x.isFinite = true
  inputDigest : isHex64 t.inputDigest = true
  parameters : PlainJson t.draft.parameters.utf8
  impactAssessment : PlainJson t.draft.impactAssessment.utf8
  predictedOutcome : PlainJson t.draft.predictedOutcome.utf8
  dependencies : ∀ d ∈ dependencies, FieldsValid d
  lineage : t.parentProposalId.isSome = t.sourceModifyDecisionId.isSome

/-- A ready task has a valid proposal. -/
lemma Task.Ready.proposal (h : t.Ready dependencies) :
    ∃ p, t.proposal reference actionKey targetKey dependencies = .ok p ∧ validateProposal p = .ok () := by
  obtain ⟨action, hd⟩ :=
    proposalActionDigest_ok (t.provisional reference actionKey targetKey dependencies)
  let acted := { t.provisional reference actionKey targetKey dependencies with actionDigest := action }
  obtain ⟨record, hr⟩ := @proposalRecordDigest_ok _ acted h.finite
  have proposed : t.proposal reference actionKey targetKey dependencies =
      .ok { acted with proposalDigest := record } := by
    rw [Task.proposal, hd]
    simp only [ok_bind]
    rw [show proposalRecordDigest _ = _ from hr]
    rfl
  refine ⟨_, proposed, ?_⟩
  have fields : FieldsValid { acted with proposalDigest := record } := by
    rw [Proposal.fieldsValid]
    exact ⟨h.parameters, h.impactAssessment, h.predictedOutcome, h.dependencies, h.inputDigest,
      canonicalSha256_hex hd, canonicalSha256_hex hr⟩
  simp only [validateProposal, bind_eq_ok, ensure_eq_ok, exists_unit, validateFields_toValue]
  refine ⟨fields, ⟨rfl, h.size, List.all_eq_true.mpr h.finite⟩, ?_⟩
  have lineage := h.lineage
  simp only [acted, Task.provisional]
  cases hp : t.parentProposalId with
  | none =>
    cases hm : t.sourceModifyDecisionId with
    | none => exact .inl ⟨rfl, rfl, rfl⟩
    | some decision =>
      rw [hp, hm] at lineage
      cases lineage
  | some parent =>
    cases hm : t.sourceModifyDecisionId with
    | none =>
      rw [hp, hm] at lineage
      cases lineage
    | some decision => exact .inr ⟨Option.some_ne_none parent, Option.some_ne_none decision, rfl⟩

/-- A created cluster gives a capability. -/
lemma capability_succeeds {evidence : ToolEvidence} (created : evidence.observedState = "CREATED") :
    ∃ ready, capability evidence reference = .ok ready ∧ isHex64 ready.snapshotDigest = true := by
  obtain ⟨digest, hd⟩ : ∃ d, canonicalSha256 (.dict
      [("state", .str evidence.observedState),
        ("evidence_digest", .str evidence.evidenceDigest)]) = .ok d := by
    refine Encodes.digest ?_
    rw [encodes_dict (by simp) (by simp; decide)]
    simp
  have ready : capability evidence reference = .ok
      ⟨"cockroach_cluster_ready", "cluster:" ++ evidence.clusterName, .true, digest, [reference]⟩ := by
    rw [capability, ensure_pos created, ok_bind, hd]
    rfl
  exact ⟨_, ready, canonicalSha256_hex hd⟩

/-- A task's body has a digest. -/
lemma Task.body_digest {policyDigest : String} {ready : CapabilityFact}
    (finite : ∀ x ∈ p.embedding, x.isFinite = true)
    (precedents : ∀ q ∈ t.precedents, Encodes (toValue q)) :
    ∃ d, snapshotDigest (t.body config ⟨agentProfileVersion, policyDigest, []⟩ ready p exclusions
      snapshotId capturedAt) = .ok d := by
  have policy : Encodes (toValue (⟨agentProfileVersion, policyDigest, []⟩ : PolicyInput)) := by
    rw [show toValue (_ : PolicyInput) = .record _ from rfl]
    simp
  have exclusion (e : ExclusionRef) : Encodes (toValue e) := by
    rw [show toValue e = .record _ from rfl]
    simp
  have state : Encodes (toValue ready) := by
    rw [show toValue ready = .record _ from rfl]
    simp
  refine Encodes.digest ?_
  rw [show snapshotPayload _ = .dict _ from rfl, encodes_dict]
  · simp [exclusion, encodes_proposal.mpr finite, Task.body, state]
    exact ⟨policy, fun q hq => precedents q (List.mem_of_mem_filter hq)⟩
  · simp
  · simp only [List.forall_mem_append, List.mem_cons, List.not_mem_nil, or_false, forall_eq]
    simp
    decide

/-- A valid proposal is finalized in a snapshot, with evidence of a ready cluster and with what a memory
returned. -/
lemma Task.snapshot_succeeds (valid : validateProposal p = .ok ())
    (ids : (p.dependencies.map DependencyRef.dependencyId).Nodup) (evaluation : t.evaluationId ≠ "")
    (snapshot : snapshotId ≠ "") (created : t.evidence.observedState = "CREATED")
    (precedents : ∀ q ∈ t.precedents, validatePrecedent q = .ok () ∧ Encodes (toValue q))
    (exclusionFields : ∀ e ∈ exclusions, FieldsValid e) :
    ∃ s, t.snapshot config reference p exclusions snapshotId capturedAt = .ok s := by
  obtain ⟨policyDigest, hp⟩ := @policyInputDigest_ok _ agentProfileVersion zeroDigest
  obtain ⟨ready, hc, hex⟩ := @capability_succeeds _ reference t.evidence created
  have kept : ∀ q ∈ exactPrecedents config p.actionTypeKey p.targetKey t.precedents,
      validatePrecedent q = .ok () := fun q hq => (precedents q (List.mem_of_mem_filter hq)).1
  have checked := valid
  simp only [validateProposal, bind_eq_ok, ensure_eq_ok, exists_unit, validateFields_toValue] at checked
  obtain ⟨proposalFields, ⟨-, -, finite⟩, -⟩ := checked
  obtain ⟨digest, hd⟩ := @Task.body_digest _ t config snapshotId capturedAt exclusions p policyDigest
    ready (List.all_eq_true.mp finite) fun q hq => (precedents q hq).2
  let s : EvaluationSnapshot :=
    { t.body config ⟨agentProfileVersion, policyDigest, []⟩ ready p exclusions snapshotId capturedAt with
      snapshotDigest := digest }
  have fields : FieldsValid s := by
    rw [EvaluationSnapshot.fieldsValid]
    refine ⟨proposalFields, canonicalSha256_hex hp, fun q hq => ?_, exclusionFields, ?_,
      (Proposal.fieldsValid.mp proposalFields).2.2.2.1, ?_, canonicalSha256_hex hd⟩
    · have valid := kept q hq
      simp only [validatePrecedent, bind_eq_ok, exists_unit, validateFields_toValue] at valid
      exact valid.1
    · intro c hc
      rw [List.mem_singleton.mp hc, CapabilityFact.fieldsValid]
      exact hex
    · intro prior h
      cases h
  have finalized : validateSnapshot s = .ok s := by
    simp only [validateSnapshot, bind_eq_ok, ensure_eq_ok, exists_unit, validateFields_toValue]
    refine ⟨fields, valid, ⟨evaluation, snapshot⟩, rfl, forAll_eq_ok.mpr kept, ?_, ids, _, hd, rfl, rfl⟩
    refine forAll_eq_ok.mpr fun c hc => ?_
    rw [List.mem_singleton.mp hc, validateFields_toValue, CapabilityFact.fieldsValid]
    exact hex
  have policy : agentPolicy = .ok ⟨agentProfileVersion, policyDigest, []⟩ := by
    rw [agentPolicy, hp]
    rfl
  simp only [Task.snapshot, bind_eq_ok, mapError_eq_ok, finalizeSnapshot]
  exact ⟨s, _, policy, ready, hc, digest, hd, finalized⟩

/-! ### What the gate sorts -/

/-- The precedents of a search are in canonical order, and so are those that the agent keeps. -/
lemma exactPrecedents_canonical {db : Store} {current : String}
    (found : searchPrecedents db t.embedding config.precedentTopK current = .ok t.precedents) :
    (sortedPrecedents (exactPrecedents config actionKey targetKey t.precedents)).map
      canonicalPrecedent = exactPrecedents config actionKey targetKey t.precedents := by
  obtain ⟨ordered, reports⟩ := searchPrecedents_ordered found
  have sorted : sortedPrecedents (exactPrecedents config actionKey targetKey t.precedents) =
      exactPrecedents config actionKey targetKey t.precedents :=
    sortedBy_eq_self (ordered.filter _)
  rw [sorted]
  conv_rhs => rw [← List.map_id (exactPrecedents config actionKey targetKey t.precedents)]
  refine List.map_congr_left fun q hq => ?_
  have own := sortedBy_eq_self (reports q (List.mem_of_mem_filter hq))
  rw [canonicalPrecedent, own]
  rfl

omit [AgentEngine] in
/-- The exclusions of one class are in canonical order. -/
lemma getExclusions_canonical [Engine] {db : Database} :
    sortedExclusions (getExclusions db actionKey targetKey) = getExclusions db actionKey targetKey := by
  refine sortedBy_eq_self ?_
  have ordered : (getExclusions db actionKey targetKey).Pairwise fun e e' =>
      e.exclusionId ≤ e'.exclusionId := sortedBy_pairwise
  refine ordered.imp_of_mem fun ha hb le => ?_
  obtain ⟨-, action, target⟩ := mem_getExclusions.mp ha
  obtain ⟨-, action', target'⟩ := mem_getExclusions.mp hb
  rw [action, target, action', target']
  exact Prod.Lex.toLex_le_toLex.mpr (.inr ⟨rfl, Prod.Lex.toLex_le_toLex.mpr (.inr ⟨rfl, le⟩)⟩)

/-- Only the dependencies of the snapshot are not in canonical order yet. -/
lemma Task.snapshot_canonical {db : Store} {db' : Database} {current : String}
    (found : searchPrecedents db t.embedding config.precedentTopK current = .ok t.precedents)
    (proposed : t.proposal reference actionKey targetKey dependencies = .ok p)
    (built : t.snapshot config reference p (getExclusions db' actionKey targetKey) snapshotId
      capturedAt = .ok s) :
    s.dependencies = dependencies ∧ s.proposal.dependencies = dependencies ∧
      canonicalSnapshot s = s.resorted := by
  obtain ⟨_, _, rfl⟩ := Task.proposal_ok proposed
  obtain ⟨_, ready, _, rfl, -⟩ := Task.snapshot_ok built
  refine ⟨rfl, rfl, ?_⟩
  have refs : sortedBy EvidenceRef.refId (t.refs reference) = t.refs reference := by
    unfold Task.refs
    split
    · rfl
    · rfl
  have precedents := @exactPrecedents_canonical _ _ _ actionKey targetKey _ _ found
  simp only [canonicalSnapshot, Task.body, Task.provisional, refs, precedents, getExclusions_canonical,
    sortedBy_singleton]
  rfl

/-! ### The gate -/

/-- A snapshot whose copy has its digest has its dependencies in the order of their identifiers, when
the two texts that are digested do not collide and the identifiers are in NFC. -/
lemma dependencies_bound (digest : snapshotDigest s = .ok s.snapshotDigest)
    (same : snapshotDigest (canonicalSnapshot s) = .ok s.snapshotDigest)
    (ascii : ∀ d ∈ s.dependencies, isAscii d.dependencyId)
    (distinct : ∀ u u', canonicalJson (snapshotPayload s) = .ok u →
      canonicalJson (snapshotPayload (canonicalSnapshot s)) = .ok u' → sha256 u = sha256 u' → u = u') :
    (s.dependencies.map DependencyRef.dependencyId).Pairwise (· ≤ ·) := by
  have rel := @sameJson_dict _ [_, _, _, _, _, _, _, _, _, _, _, _]
    [_, _, _, _, _, _, _, _, _, _, _, _] (sameJson_of_digest digest same distinct) rfl
  simp only [List.forall₂_cons] at rel
  obtain ⟨-, -, -, -, -, -, -, -, -, dependencies, -⟩ := rel
  have ids : s.dependencies.map (fun d => nfc d.dependencyId) =
      (sortedBy DependencyRef.dependencyId s.dependencies).map fun d => nfc d.dependencyId :=
    sameJson_list dependencies fun a b h =>
      congrArg DependencyRef.dependencyId (DependencyRef.bound h)
  have plain {l : List DependencyRef} (sub : ∀ d ∈ l, d ∈ s.dependencies) :
      l.map (fun d => nfc d.dependencyId) = l.map DependencyRef.dependencyId :=
    List.map_congr_left fun d hd => Platform.nfc_ascii _ (ascii d (sub d hd))
  rw [plain fun _ h => h, plain fun _ h => mem_sortedBy.mp h] at ids
  rw [ids, List.pairwise_map]
  exact sortedBy_pairwise

/-- The gate admits the agent's snapshot exactly when the identifiers of its dependencies ascend with
their keys. -/
theorem Task.snapshot_admitted_iff {db : Store} {db' : Database} {facts : List DependencyFact}
    (found : searchPrecedents db t.embedding config.precedentTopK t.evaluationId = .ok t.precedents)
    (matching : dependenciesOf t.proposalId t.draft.dependencyRequests facts = .ok dependencies)
    (proposed : t.proposal reference actionKey targetKey dependencies = .ok p)
    (built : t.snapshot config reference p (getExclusions db' actionKey targetKey) snapshotId
      capturedAt = .ok s)
    (distinct : ∀ u u', canonicalJson (snapshotPayload s) = .ok u →
      canonicalJson (snapshotPayload (canonicalSnapshot s)) = .ok u' → sha256 u = sha256 u' → u = u') :
    (snapshotDigest (canonicalSnapshot s) = .ok s.snapshotDigest ∧
      ∀ b, evaluateProposal s pinnedConfig = .ok (.blocked b) → b.errorCode ≠ "INVALID_SNAPSHOT") ↔
    t.dependencyIds.Pairwise (· ≤ ·) := by
  obtain ⟨own, proposal, canonical⟩ := Task.snapshot_canonical found proposed built
  obtain ⟨_, _, _, -, valid⟩ := Task.snapshot_ok built
  have ids := dependenciesOf_ids matching
  have digest := validateSnapshot_digest valid
  constructor
  · rintro ⟨same, -⟩
    rw [← ids, ← own]
    refine dependencies_bound digest same (fun d hd => ?_) distinct
    have id : d.dependencyId ∈ t.dependencyIds := ids ▸ own ▸ List.mem_map_of_mem hd
    obtain ⟨request, -, id⟩ := List.mem_map.mp id
    exact id ▸ AgentEngine.uuid5_ascii _ _
  · intro ordered
    have sorted : sortedBy DependencyRef.dependencyId dependencies = dependencies := by
      refine sortedBy_eq_self ?_
      rwa [← ids, List.pairwise_map] at ordered
    have same : canonicalSnapshot s = s :=
      canonical.trans (resorted_self (by rw [proposal, sorted]) (by rw [own, sorted]))
    rw [evaluateProposal, same]
    exact ⟨digest, fun b => evaluateCanonical_spares valid⟩

/-! ### A task that asks for dependencies -/

/-- Evidence of a ready cluster. -/
def readyEvidence : ToolEvidence where
  evidenceId := "00000000-0000-4000-8000-000000000004"
  toolName := "ccloud"
  toolVersion := "v0.6.12"
  redactedCommandArgvJson := "[]"
  commandDigest := zeroDigest
  helpDigest := zeroDigest
  configDigest := zeroDigest
  clusterName := ccloudClusterName
  clusterNameDigest := sha256 ccloudClusterName
  observedClusterIdDigest := zeroDigest
  observedVersion := "v26.2.1"
  observedState := "CREATED"
  observedPlan := "BASIC"
  observedCloud := "AWS"
  normalizedRedactedOutputJson := "\x7b\x7d"
  redactionManifestJson := "[]"
  rawOutputDigest := zeroDigest
  normalizedOutputDigest := zeroDigest
  exitStatus := 0
  capturedAt := "2026-01-01T00:00:00.000000Z"
  expiresAt := "2026-01-01T01:00:00.000000Z"
  capturedBy := "ccloud-evidence-adapter"
  evidenceDigest := zeroDigest
  idempotencyKey := "ccloud-1"

/-- A fact that a dependency is ready. -/
def readyFact (key : String) : DependencyFact :=
  let fact : DependencyFact :=
    { factId := "00000000-0000-4000-8000-000000000005", dependencyKey := key, factVersion := 1,
      priorFactId := none, priorFactVersion := none, subjectRef := "subject", predicate := "is ready",
      observedValueJson := some "\x7b\x7d", state := .true, snapshotDigest := zeroDigest,
      evidenceRefs := [], recordedBy := "operator", factDigest := zeroDigest, idempotencyKey := key }
  { fact with factDigest := digestOf (factRecordDigest fact) }

/-- The document of an empty object, with an idle digest. -/
def emptyObject : CanonicalJson := ⟨"\x7b\x7d", zeroDigest⟩

/-- A draft that depends on the facts with these keys. -/
def readyDraft (keys : List String) : ProposalDraft where
  actionType := "SET_DEMO_VALUE"
  target := "demo_kv:alpha"
  reasoning := "reason"
  purpose := "demo"
  evidenceRefs := []
  predictedOutcome := emptyObject
  parameters := emptyObject
  impactAssessment := emptyObject
  dependencyRequests := keys.map fun key => ⟨key, "is ready", "\x7b\x7d", false, false⟩

/-- A task whose dependencies have the keys. -/
def readyTask (keys : List String) : Task where
  proposalId := "00000000-0000-4000-8000-000000000001"
  evaluationId := "00000000-0000-4000-8000-000000000002"
  agentId := "agent"
  sessionId := "session"
  parentProposalId := none
  sourceModifyDecisionId := none
  embedding := List.replicate pinnedEmbeddingDimensions .zero
  inputDigest := zeroDigest
  precedents := []
  evidence := readyEvidence
  draft := readyDraft keys

/-- The dependency on a fact with a key. -/
def readyDependency (key : String) : DependencyRef where
  dependencyId := AgentEngine.uuid5 "00000000-0000-4000-8000-000000000001" key
  subjectRef := "subject"
  predicate := "is ready"
  expectedJson := "\x7b\x7d"
  observedJson := some "\x7b\x7d"
  state := .true
  snapshotDigest := zeroDigest
  evidenceRefs := []
  necessaryForYes := false
  sufficientIfTrue := false

variable {keys : List String}

/-- The ready task's requests have the ready dependencies. -/
lemma readyTask_matching (nodup : keys.Nodup) :
    dependenciesOf (readyTask keys).proposalId (readyTask keys).draft.dependencyRequests
      (keys.map readyFact) = .ok (keys.map readyDependency) := by
  have distinct : ((keys.map readyFact).map DependencyFact.dependencyKey).Nodup := by
    rw [List.map_map]
    exact (List.map_id keys).symm ▸ nodup
  rw [dependenciesOf, ensure_pos distinct, ok_bind]
  refine (mapAll_map ..).trans (mapAll_of_ok fun key hk => ?_)
  have found : (keys.map readyFact).find? (fun fact => fact.dependencyKey = key) =
      some (readyFact key) := by
    cases h : (keys.map readyFact).find? fun fact => fact.dependencyKey = key with
    | none =>
      exact absurd rfl (of_decide_eq_false (Bool.eq_false_of_not_eq_true
        (List.find?_eq_none.mp h (readyFact key) (List.mem_map_of_mem hk))))
    | some fact =>
      obtain ⟨other, -, rfl⟩ := List.mem_map.mp (List.mem_of_find?_eq_some h)
      have same := List.find?_some h
      have same : other = key := of_decide_eq_true same
      rw [same]
  simp only [requestedDependency, found]
  rfl

/-- A configuration as it is deployed. -/
def deployedConfig : AgentConfig where
  modelSnapshot := modelSnapshot
  openaiSdkVersion := AgentEngine.openaiVersion
  promptVersion := "prompt-1"
  requestTimeoutSeconds := .finite false 20 0
  maxRetries := 2
  maxTaskBytes := 4096
  precedentTopK := 5
  similarityThreshold := .finite false 85000000 (-8)
  gateConfigDigest := pinnedConfig.ruleConfigDigest
  pinned := by
    have low : (Decimal.finite false 5 0).le (.finite false 20 0) = true := by
      norm_num [Decimal.le, Decimal.isFinite, Decimal.value, Decimal.signed]
    have high : (Decimal.finite false 20 0).le (.finite false 30 0) = true := by
      norm_num [Decimal.le, Decimal.isFinite, Decimal.value, Decimal.signed]
    exact ⟨rfl, rfl, by decide, low, high, by decide, by decide, by decide, rfl,
      (@pinned_of_default zeroDigest).2.1, rfl⟩

/-- The ready task is ready. -/
lemma readyTask_ready : (readyTask keys).Ready (keys.map readyDependency) where
  size := List.length_replicate
  finite := minimalProposal_finite "" ""
  inputDigest := zeroDigest_hex
  parameters := plainJson_empty
  impactAssessment := plainJson_empty
  predictedOutcome := plainJson_empty
  dependencies := by
    intro d hd
    obtain ⟨key, -, rfl⟩ := List.mem_map.mp hd
    rw [DependencyRef.fieldsValid]
    refine ⟨plainJson_empty, fun text h => ?_, zeroDigest_hex⟩
    cases h
    exact plainJson_empty
  lineage := rfl

/-- An empty store has no precedents. -/
lemma readyTask_found (vector : ∀ text, ∃ v, castVector text = .ok v) :
    searchPrecedents {} (readyTask keys).embedding deployedConfig.precedentTopK
      (readyTask keys).evaluationId = .ok (readyTask keys).precedents := by
  have size : (readyTask keys).embedding.length = pinnedEmbeddingDimensions := List.length_replicate
  have written : ∃ text, vectorText (readyTask keys).embedding = .ok text := by
    rw [vectorText, ensure_pos size]
    exact ⟨_, rfl⟩
  obtain ⟨text, ht⟩ := written
  obtain ⟨v, hv⟩ := vector text
  have id : castUuid (readyTask keys).evaluationId = .ok (readyTask keys).evaluationId :=
    castUuid_self (show isUuid "00000000-0000-4000-8000-000000000002" = true by decide)
  have limit : (deployedConfig.precedentTopK : Int) = 5 := rfl
  rw [searchPrecedents, ensure_pos limit, ok_bind, ht, ok_bind, id, ok_bind, hv, ok_bind]
  rfl

/-- The proposal and the snapshot of the task are built. -/
lemma readyTask_built (ids : (keys.map readyDependency).map DependencyRef.dependencyId |>.Nodup) :
    ∃ p s, (readyTask keys).proposal ⟨readyEvidence.evidenceId, "ccloud_cluster", zeroDigest⟩
        "set_demo_value" "demo_kv:alpha" (keys.map readyDependency) = .ok p ∧
      (readyTask keys).snapshot deployedConfig ⟨readyEvidence.evidenceId, "ccloud_cluster", zeroDigest⟩ p
        [] "00000000-0000-4000-8000-000000000003" "2026-01-01T00:00:00.000000Z" = .ok s := by
  obtain ⟨p, proposed, valid⟩ := @Task.Ready.proposal _ _ _ _ _ _ (@readyTask_ready _ keys)
  obtain ⟨_, _, rfl⟩ := Task.proposal_ok proposed
  have evaluation : (readyTask keys).evaluationId ≠ "" :=
    show "00000000-0000-4000-8000-000000000002" ≠ "" by decide
  obtain ⟨s, built⟩ := Task.snapshot_succeeds valid ids evaluation
    (by decide : "00000000-0000-4000-8000-000000000003" ≠ "") rfl
    (fun _ h => absurd h List.not_mem_nil) (fun _ h => absurd h List.not_mem_nil)
  exact ⟨_, s, proposed, built⟩

end

/-- The libraries of the task's test run: `uuid5` on the three keys in its namespace, and a digest
function. -/
@[reducible] def agentWith (digest : String → String) (hex : ∀ t, isHex64 (digest t) = true) :
    AgentEngine :=
  { codecColumns with
    sha256 := digest
    sha256_hex := hex
    distance := fun _ _ => 0
    similarity := fun _ _ => .zero
    tie := fun _ _ => 0
    parseUuid := asciiEngine.uuid
    parseUuid_canonical := asciiEngine.uuid_canonical
    parseUuid_self := asciiEngine.uuid_self
    uuid5 := fun _ name =>
      if name = "backup" then "7e4eb34c-2853-5589-a4c1-3add1fad621d"
      else if name = "cluster" then "4f4efe1f-2de6-5b6c-ad04-2d092475b0f2"
      else "a7ad88d5-2070-582c-a12a-9e1bfa725f81"
    uuid5_ascii := fun _ _ => by
      split
      · decide
      · split
        · decide
        · decide
    casefold := fun s => s
    openaiVersion := "1.99.0"
    modelJsonSchema := .dict []
    instant := fun _ => mkRat 1 1
    transactionTime := fun _ => mkRat 0 1 }

/-- With the keys `cluster` and `quota` the identifiers ascend, and the snapshot is admitted. -/
theorem Task.snapshot_admitted_ascending :
    let _ := agentWith sha256Hex sha256Hex_isHex
    ∃ s, (∃ p, (readyTask ["cluster", "quota"]).snapshot deployedConfig
        ⟨readyEvidence.evidenceId, "ccloud_cluster", zeroDigest⟩ p []
        "00000000-0000-4000-8000-000000000003" "2026-01-01T00:00:00.000000Z" = .ok s) ∧
      snapshotDigest (canonicalSnapshot s) = .ok s.snapshotDigest ∧
      ∀ b, evaluateProposal s pinnedConfig = .ok (.blocked b) → b.errorCode ≠ "INVALID_SNAPSHOT" := by
  intro _
  have ascending : (readyTask ["cluster", "quota"]).dependencyIds.Pairwise (· ≤ ·) := by decide
  obtain ⟨p, s, proposed, built⟩ := @readyTask_built _ ["cluster", "quota"] (by decide)
  have found := @readyTask_found _ ["cluster", "quota"] fun text => ⟨text, rfl⟩
  have matching := @readyTask_matching _ ["cluster", "quota"] (by decide)
  have built' : (readyTask ["cluster", "quota"]).snapshot deployedConfig
      ⟨readyEvidence.evidenceId, "ccloud_cluster", zeroDigest⟩ p
      (getExclusions {} "set_demo_value" "demo_kv:alpha") "00000000-0000-4000-8000-000000000003"
      "2026-01-01T00:00:00.000000Z" = .ok s := built
  obtain ⟨own, proposal, canonical⟩ := Task.snapshot_canonical found proposed built'
  have same : canonicalSnapshot s = s := by
    refine canonical.trans (resorted_self ?_ ?_)
    · rw [proposal]
      exact sortedBy_eq_self (by decide)
    · rw [own]
      exact sortedBy_eq_self (by decide)
  refine ⟨s, ⟨p, built⟩, (Task.snapshot_admitted_iff found matching proposed built' ?_).mpr ascending⟩
  intro u u' hu hu' _
  rw [same, hu] at hu'
  exact Except.ok.inj hu'

/-- The identifier of the first dependency in the text of a snapshot. -/
def firstDependency (text : String) : Option Json :=
  match (Json.parse text).bind (Json.get? "dependencies") with
  | some (.arr (d :: _)) => d.get? "dependency_id"
  | _ => none

/-- A digest function that tells texts whose first dependency is on `cluster` from the others. -/
def clusterFirst (text : String) : String :=
  match firstDependency text with
  | some (.str "4f4efe1f-2de6-5b6c-ad04-2d092475b0f2") => String.ofList (List.replicate 64 '1')
  | _ => zeroDigest

/-- The marking digest has its form. -/
lemma clusterFirst_hex (text : String) : isHex64 (clusterFirst text) = true := by
  unfold clusterFirst
  split
  · decide
  · decide

/-- The text of a snapshot names its first dependency. -/
lemma snapshotDigest_first [Platform] {s : EvaluationSnapshot} {d : DependencyRef}
    {rest : List DependencyRef} {digest : String} (first : s.dependencies = d :: rest)
    (h : snapshotDigest s = .ok digest) :
    ∃ text, digest = sha256 text ∧ firstDependency text = some (.str (nfc d.dependencyId)) := by
  obtain ⟨-, k, hk⟩ := DependencyRef.encodes d
  have others : ∀ v ∈ rest.map toValue, Encodes v := by
    intro v hv
    obtain ⟨d', -, rfl⟩ := List.mem_map.mp hv
    exact DependencyRef.encodes d'
  obtain ⟨-, ks, hks⟩ := encodes_elems.mpr others
  have list : canonicalValue (toValue s.dependencies) = .ok (.arr (k :: ks)) := by
    rw [first, show toValue (d :: rest) = .tuple (toValue d :: rest.map toValue) from rfl]
    simp only [canonicalValue, canonicalElems, hk, hks, ok_bind, pure_eq_ok]
  have member : ("dependencies", toValue s.dependencies) ∈
      [("schema", Value.str "gam.evaluation-snapshot.v1"), ("evaluation_id", toValue s.evaluationId),
        ("snapshot_id", toValue s.snapshotId), ("profile_version", toValue s.profileVersion),
        ("proposal", toValue s.proposal), ("policy", toValue s.policy),
        ("precedents", toValue s.precedents), ("exclusions", toValue s.exclusions),
        ("capabilities", toValue s.capabilities), ("dependencies", toValue s.dependencies),
        ("prior_evaluation", toValue s.priorEvaluation), ("captured_at", toValue s.capturedAt)] := by
    simp
  obtain ⟨text, ms, rfl, parsed, lookup⟩ := canonicalSha256_member h member list
  have names : ([("dependency_id", toValue d.dependencyId), ("subject_ref", toValue d.subjectRef),
      ("predicate", toValue d.predicate), ("expected_json", toValue d.expectedJson),
      ("observed_json", toValue d.observedJson), ("state", toValue d.state),
      ("snapshot_digest", toValue d.snapshotDigest), ("evidence_refs", toValue d.evidenceRefs),
      ("necessary_for_yes", toValue d.necessaryForYes),
      ("sufficient_if_true", toValue d.sufficientIfTrue)].map Prod.fst).Nodup := by
    simp
  have id := canonicalValue_field names hk List.mem_cons_self rfl
  have key : nfc "dependencies" = "dependencies" := Platform.nfc_ascii _ (by decide)
  rw [key] at lookup
  refine ⟨text, rfl, ?_⟩
  rw [firstDependency, parsed, Option.bind_some, Json.get?, lookup]
  exact id

/-- The digest tells the snapshot of the task with the keys `backup` and `cluster`, whose identifiers
descend, from its copy in order. -/
def TellsOrder (digest : String → String) (hex : ∀ t, isHex64 (digest t) = true) : Prop :=
  let _ := agentWith digest hex
  ∀ p s, (readyTask ["backup", "cluster"]).proposal ⟨readyEvidence.evidenceId, "ccloud_cluster", zeroDigest⟩
      "set_demo_value" "demo_kv:alpha" (["backup", "cluster"].map readyDependency) = .ok p →
    (readyTask ["backup", "cluster"]).snapshot deployedConfig
        ⟨readyEvidence.evidenceId, "ccloud_cluster", zeroDigest⟩ p [] "00000000-0000-4000-8000-000000000003"
        "2026-01-01T00:00:00.000000Z" = .ok s →
      snapshotDigest s.resorted ≠ snapshotDigest s

/-- The identifiers of the two dependencies, and the keys that they are asked by. -/
lemma descending_ids (digest : String → String) (hex : ∀ t, isHex64 (digest t) = true) :
    let _ := agentWith digest hex
    (readyTask ["backup", "cluster"]).dependencyIds =
        ["7e4eb34c-2853-5589-a4c1-3add1fad621d", "4f4efe1f-2de6-5b6c-ad04-2d092475b0f2"] ∧
      (["backup", "cluster"].map readyDependency).map DependencyRef.dependencyId =
        ["7e4eb34c-2853-5589-a4c1-3add1fad621d", "4f4efe1f-2de6-5b6c-ad04-2d092475b0f2"] ∧
      (readyTask ["backup", "cluster"]).draft.dependencyRequests.map DependencyRequest.dependencyKey =
        ["backup", "cluster"] := by
  intro _
  exact ⟨rfl, rfl, rfl⟩

/-- Some digest does. -/
lemma clusterFirst_tells : TellsOrder clusterFirst clusterFirst_hex := by
  let _ := agentWith clusterFirst clusterFirst_hex
  intro p s proposed built same
  obtain ⟨own, -, -⟩ := @Task.snapshot_canonical _ _ _ _ "set_demo_value" "demo_kv:alpha"
    _ _ _ _ _ _ {} _ (@readyTask_found _ ["backup", "cluster"] fun text => ⟨text, rfl⟩) proposed built
  obtain ⟨_, _, _, -, valid⟩ := Task.snapshot_ok built
  have order : sortedBy DependencyRef.dependencyId (["backup", "cluster"].map readyDependency) =
      [readyDependency "cluster", readyDependency "backup"] := by decide
  have sorted : s.resorted.dependencies = [readyDependency "cluster", readyDependency "backup"] :=
    (congrArg (sortedBy DependencyRef.dependencyId) own).trans order
  have digested := validateSnapshot_digest valid
  -- the digest of the snapshot sees `backup` first, that of its copy `cluster`
  obtain ⟨text, digest, first⟩ := snapshotDigest_first own digested
  obtain ⟨text', digest', first'⟩ := snapshotDigest_first sorted (same.trans digested)
  have collide : clusterFirst text = clusterFirst text' := digest.symm.trans digest'
  have zero : clusterFirst text = zeroDigest := by
    rw [clusterFirst, first]
    rfl
  have one : clusterFirst text' = String.ofList (List.replicate 64 '1') := by
    rw [clusterFirst, first']
    rfl
  rw [zero, one] at collide
  exact absurd collide (by decide)

/-- The gate need not admit the agent's snapshot: with the keys `backup` and `cluster` the identifiers
descend, and the snapshot is refused under every digest that sees it. -/
theorem Task.snapshot_refused_descending :
    (∃ digest hex, TellsOrder digest hex) ∧ ∀ digest hex, TellsOrder digest hex →
      let _ := agentWith digest hex
      ¬∀ (db : Store) (db' : Database) (facts : List DependencyFact) (t : Task)
        (config : AgentConfig) (reference : EvidenceRef) (dependencies : List DependencyRef) (p : Proposal)
        (s : EvaluationSnapshot) (actionKey targetKey snapshotId capturedAt : String),
        (t.draft.dependencyRequests.map DependencyRequest.dependencyKey).Pairwise (· < ·) →
        t.dependencyIds.Nodup →
        searchPrecedents db t.embedding config.precedentTopK t.evaluationId = .ok t.precedents →
        dependenciesOf t.proposalId t.draft.dependencyRequests facts = .ok dependencies →
        t.proposal reference actionKey targetKey dependencies = .ok p →
        t.snapshot config reference p (getExclusions db' actionKey targetKey) snapshotId capturedAt =
          .ok s →
        snapshotDigest (canonicalSnapshot s) = .ok s.snapshotDigest ∧
          ∀ b, evaluateProposal s pinnedConfig = .ok (.blocked b) → b.errorCode ≠ "INVALID_SNAPSHOT" := by
  refine ⟨⟨_, _, clusterFirst_tells⟩, fun digest hex tells => ?_⟩
  intro _ admitted
  obtain ⟨ids, own, keys⟩ := descending_ids digest hex
  have distinct : ["7e4eb34c-2853-5589-a4c1-3add1fad621d", "4f4efe1f-2de6-5b6c-ad04-2d092475b0f2"].Nodup := by
    decide
  have ordered : ["backup", "cluster"].Pairwise (· < ·) := by decide
  rw [← keys] at ordered
  obtain ⟨p, s, proposed, built⟩ := @readyTask_built _ ["backup", "cluster"] (own ▸ distinct)
  have found := @readyTask_found _ ["backup", "cluster"] fun text => ⟨text, rfl⟩
  have matching := @readyTask_matching _ ["backup", "cluster"] (by decide)
  obtain ⟨-, -, canonical⟩ := @Task.snapshot_canonical _ _ _ _ "set_demo_value" "demo_kv:alpha"
    _ _ _ _ _ _ {} _ found proposed built
  obtain ⟨_, _, _, form, valid⟩ := Task.snapshot_ok built
  have answer := admitted {} {} _ _ _ _ _ p s "set_demo_value" "demo_kv:alpha" _ _ ordered (ids ▸ distinct)
    found matching proposed built
  have differs : snapshotDigest s.resorted ≠ .ok s.snapshotDigest :=
    fun same => tells p s proposed built (same.trans (validateSnapshot_digest valid).symm)
  have prior : s.priorEvaluation = none := by
    rw [form]
    rfl
  obtain ⟨b, blocked, code⟩ := resorted_refused pinnedConfig_valid prior valid canonical differs
  exact answer.2 b blocked code

end GAM
