import GAM.Traces.Fields
import GAM.Traces.Digest
import GAM.Governance.Admission

/-!
# Records with their digests, and the smallest valid ones

`sealedProposal` and `sealedSnapshot` put the digests into a record the way the agent does: the
action digest first, the proposal digest over it, the snapshot digest last. `minimalSnapshot` and
`minimalResult` are the smallest records that the validators accept, for any proposal identifier
and reasoning text.
-/

namespace GAM
open Lib

section
variable [Platform]

/-- The digest that was computed, or the zero digest. -/
def digestOf : Except PyError String → String
  | .ok d => d
  | .error _ => zeroDigest

omit [Platform] in
/-- A digest that can be taken is the one taken. -/
lemma digestOf_ok {x : Except PyError String} (h : ∃ d, x = .ok d) : x = .ok (digestOf x) := by
  obtain ⟨d, rfl⟩ := h
  rfl

omit [Platform] in
lemma zeroDigest_hex : isHex64 zeroDigest = true := by decide

/-- A taken digest has its form, and so has the one in place of none. -/
lemma digestOf_hex {v : Value} : isHex64 (digestOf (canonicalSha256 v)) = true := by
  cases h : canonicalSha256 v with
  | ok d => exact canonicalSha256_hex h
  | error e => exact zeroDigest_hex

/-- A proposal with its two digests. -/
def sealedProposal (p : Proposal) : Proposal :=
  let acted := { p with actionDigest := digestOf (proposalActionDigest p) }
  { acted with proposalDigest := digestOf (proposalRecordDigest acted) }

/-- A snapshot with its digest. -/
def sealedSnapshot (s : EvaluationSnapshot) : EvaluationSnapshot :=
  { s with snapshotDigest := digestOf (snapshotDigest s) }

/-- A policy with its digest. -/
def sealedPolicy (policy : PolicyInput) : PolicyInput :=
  { policy with policyDigest := digestOf (policyInputDigest policy) }

/-- An action always has a digest. -/
lemma proposalActionDigest_ok (p : Proposal) : ∃ d, proposalActionDigest p = .ok d := by
  refine Encodes.digest ?_
  rw [encodes_dict (by simp) (by simp; decide)]
  simp

/-- A proposal has a digest when its embedding is finite. -/
lemma proposalRecordDigest_ok {p : Proposal} (h : ∀ x ∈ p.embedding, x.isFinite = true) :
    ∃ d, proposalRecordDigest p = .ok d := by
  refine Encodes.digest ?_
  rw [show digestPayload _ _ (toValue p) = .dict _ from rfl, encodes_dict]
  · simpa using h
  · simp
  · simp only [List.forall_mem_append, List.mem_cons, List.not_mem_nil, or_false, forall_eq]
    simp
    decide

/-- A sealed proposal has the action digest it carries. -/
lemma sealedProposal_action {p : Proposal} :
    proposalActionDigest (sealedProposal p) = .ok (sealedProposal p).actionDigest :=
  digestOf_ok (proposalActionDigest_ok p)

/-- A sealed proposal with a finite embedding has the record digest it carries. -/
lemma sealedProposal_record {p : Proposal} (h : ∀ x ∈ p.embedding, x.isFinite = true) :
    proposalRecordDigest (sealedProposal p) = .ok (sealedProposal p).proposalDigest :=
  digestOf_ok (proposalRecordDigest_ok (p := { p with
    actionDigest := digestOf (proposalActionDigest p) }) h)

/-- A proposal to set a demo value, without evidence or dependencies and without its digests. -/
def minimalBody (proposalId reasoning : String) : Proposal where
  proposalId := proposalId
  parentProposalId := none
  sourceModifyDecisionId := none
  sourceModifyDecisionValue := none
  agentId := "agent"
  sessionId := "session"
  actionType := "SET_DEMO_VALUE"
  actionTypeKey := "set_demo_value"
  target := "demo_kv:alpha"
  targetKey := "demo_kv:alpha"
  reasoning := reasoning
  purpose := "demo"
  parametersJson := "\x7b\"value\":true\x7d"
  impactAssessmentJson := "\x7b\x7d"
  predictedOutcomeJson := "\x7b\x7d"
  evidenceRefs := []
  dependencies := []
  embedding := List.replicate pinnedEmbeddingDimensions .zero
  embeddingModel := pinnedEmbeddingModel
  embeddingInputDigest := zeroDigest
  actionDigest := zeroDigest
  proposalDigest := zeroDigest

/-- The smallest proposal, with its digests. -/
def minimalProposal (proposalId reasoning : String) : Proposal :=
  sealedProposal (minimalBody proposalId reasoning)

/-- A snapshot of a proposal under a policy without rules. -/
def minimalSnapshot (evaluationId : String) (p : Proposal) (prior : Option PriorEvaluationTrace) :
    EvaluationSnapshot :=
  sealedSnapshot
    { evaluationId := evaluationId
      snapshotId := "snapshot"
      profileVersion := none
      proposal := p
      policy := sealedPolicy ⟨"policy", zeroDigest, []⟩
      precedents := []
      exclusions := []
      capabilities := []
      dependencies := []
      priorEvaluation := prior
      capturedAt := "2026-01-01T00:00:00.000000Z"
      snapshotDigest := zeroDigest }

omit [Platform] in
lemma dumps_value : (Json.obj [("value", .bool true)]).dumps = "\x7b\"value\":true\x7d" := by
  simp [Json.dumps, Json.sortKeys, sortMembers, Json.print, printMembers, stringChars, escapeChar]

lemma plainJson_value : PlainJson "\x7b\"value\":true\x7d" := by
  have h := Platform.nfc_ascii "value" (by decide)
  have hp : Json.parse "\x7b\"value\":true\x7d" = some (.obj [("value", .bool true)]) := by
    rw [← dumps_value, Json.parse_dumps]
    rfl
  have load : loadPlain (.obj [("value", .bool true)]) = .ok (.dict [("value", .bool true)]) := by
    simp [loadPlain, loadPlainMembers, pairs, ensure, h]
  refine canonicalPlainJson_ok.mpr ⟨_, _, hp, load, _, rfl, ?_⟩
  simp [commaSeparated, stringChars, escapeChar]

/-- The minimal embedding is finite. -/
lemma minimalProposal_finite (proposalId reasoning : String) :
    ∀ x ∈ (minimalProposal proposalId reasoning).embedding, x.isFinite = true := by
  intro x hx
  cases List.eq_of_mem_replicate hx
  rfl

/-- The digests of a sealed proposal are digests. -/
lemma sealedProposal_hex {p : Proposal} : isHex64 (sealedProposal p).actionDigest = true ∧
    isHex64 (sealedProposal p).proposalDigest = true :=
  ⟨digestOf_hex, digestOf_hex⟩

/-- A proposal without lineage and dependencies is valid with its digests when its documents and its
embedding are. -/
lemma sealedProposal_valid {body : Proposal} (parameters : PlainJson body.parametersJson)
    (impact : PlainJson body.impactAssessmentJson) (outcome : PlainJson body.predictedOutcomeJson)
    (dependencies : body.dependencies = []) (input : isHex64 body.embeddingInputDigest = true)
    (embedding : body.embeddingModel = pinnedEmbeddingModel ∧
      body.embedding.length = pinnedEmbeddingDimensions ∧ ∀ x ∈ body.embedding, x.isFinite = true)
    (root : body.parentProposalId = none ∧ body.sourceModifyDecisionId = none ∧
      body.sourceModifyDecisionValue = none) : validateProposal (sealedProposal body) = .ok () := by
  have fields : FieldsValid (sealedProposal body) := by
    rw [Proposal.fieldsValid]
    refine ⟨parameters, impact, outcome, fun d hd => ?_, input, sealedProposal_hex⟩
    exact absurd (dependencies ▸ hd : d ∈ []) List.not_mem_nil
  simp only [validateProposal, bind_eq_ok, ensure_eq_ok, exists_unit, validateFields_toValue,
    List.all_eq_true]
  exact ⟨fields, embedding, .inl root⟩

/-- The smallest proposal is valid. -/
lemma minimalProposal_valid (proposalId reasoning : String) :
    validateProposal (minimalProposal proposalId reasoning) = .ok () :=
  sealedProposal_valid plainJson_value plainJson_empty plainJson_empty rfl zeroDigest_hex
    ⟨rfl, List.length_replicate, minimalProposal_finite proposalId reasoning⟩ ⟨rfl, rfl, rfl⟩

/-- The text whose digest a sealed proposal carries has its reasoning. -/
lemma sealedProposal_reasoning {p : Proposal} (h : ∀ x ∈ p.embedding, x.isFinite = true) :
    ∃ text ms, (sealedProposal p).proposalDigest = sha256 text ∧
      Json.parse text = some (.obj ms) ∧ ms.lookup "reasoning" = some (.str (nfc p.reasoning)) := by
  have found := @canonicalSha256_member _ _ _ "reasoning" (.str p.reasoning) _
    (sealedProposal_record h) (by simp [sealedProposal]) rfl
  rw [Platform.nfc_ascii "reasoning" (by decide)] at found
  exact found

/-- The minimal proposal's digest is taken of a text that holds its reasoning. -/
lemma minimalProposal_reasoning (proposalId reasoning : String) :
    ∃ text ms, (minimalProposal proposalId reasoning).proposalDigest = sha256 text ∧
      Json.parse text = some (.obj ms) ∧ ms.lookup "reasoning" = some (.str (nfc reasoning)) :=
  sealedProposal_reasoning (p := minimalBody proposalId reasoning)
    (minimalProposal_finite proposalId reasoning)

/-- A policy without rules has a digest. -/
lemma policyInputDigest_ok {version digest : String} :
    ∃ d, policyInputDigest ⟨version, digest, []⟩ = .ok d := by
  refine Encodes.digest ?_
  rw [encodes_dict (by simp) (by simp; decide)]
  simp [canonicalRules]

/-- A proposal is encoded when its embedding is finite. -/
lemma Proposal.encodes {p : Proposal} (h : ∀ x ∈ p.embedding, x.isFinite = true) :
    Encodes (toValue p) := by
  rw [show toValue p = .record _ from rfl]
  simpa using h

/-- A prior evaluation is encoded. -/
@[simp] lemma PriorEvaluationTrace.encodes (r : PriorEvaluationTrace) : Encodes (toValue r) := by
  rw [show toValue r = .record _ from rfl]
  simp

/-- A snapshot without precedents, exclusions and rules has a digest when its embedding is finite. -/
lemma snapshotDigest_ok {s : EvaluationSnapshot} (h : ∀ x ∈ s.proposal.embedding, x.isFinite = true)
    (hr : s.policy.rules = []) (hp : s.precedents = []) (he : s.exclusions = [])
    (hc : s.capabilities = []) : ∃ d, snapshotDigest s = .ok d := by
  have policy : Encodes (toValue s.policy) := by
    rw [show toValue s.policy = .record _ from rfl]
    simp [hr]
  refine Encodes.digest ?_
  rw [show snapshotPayload s = .dict _ from rfl, encodes_dict]
  · simp [Proposal.encodes h, policy, hp, he, hc]
  · simp
  · simp only [List.forall_mem_append, List.mem_cons, List.not_mem_nil, or_false, forall_eq]
    simp
    decide

/-- A sealed snapshot has the digest it carries. -/
lemma sealedSnapshot_digest {s : EvaluationSnapshot} (h : ∃ d, snapshotDigest s = .ok d) :
    snapshotDigest (sealedSnapshot s) = .ok (sealedSnapshot s).snapshotDigest :=
  digestOf_ok h

/-- The smallest snapshot reproduces its digest. -/
lemma minimalSnapshot_digest {evaluationId p prior} (h : ∀ x ∈ p.embedding, x.isFinite = true) :
    snapshotDigest (minimalSnapshot evaluationId p prior) =
      .ok (minimalSnapshot evaluationId p prior).snapshotDigest :=
  sealedSnapshot_digest (snapshotDigest_ok h rfl rfl rfl rfl)

/-- The smallest snapshot of a valid proposal is valid. -/
lemma minimalSnapshot_valid {evaluationId p prior} (hp : validateProposal p = .ok ())
    (hid : evaluationId ≠ "") (hprior : ∀ x ∈ prior, validatePrior x p.proposalId = .ok ()) :
    validateSnapshot (minimalSnapshot evaluationId p prior) =
      .ok (minimalSnapshot evaluationId p prior) := by
  simp only [validateProposal, bind_eq_ok, ensure_eq_ok, exists_unit, validateFields_toValue] at hp
  obtain ⟨hf, ⟨hm, hl, hfin⟩, hlin⟩ := hp
  have hfin := List.all_eq_true.mp hfin
  have hv : FieldsValid (minimalSnapshot evaluationId p prior) := by
    rw [EvaluationSnapshot.fieldsValid]
    refine ⟨hf, digestOf_hex, fun _ h => absurd h List.not_mem_nil,
      fun _ h => absurd h List.not_mem_nil, fun _ h => absurd h List.not_mem_nil,
      fun _ h => absurd h List.not_mem_nil, fun x hx => ?_, digestOf_hex⟩
    have hx := hprior x hx
    simp only [validatePrior, bind_eq_ok, exists_unit, validateFields_toValue] at hx
    exact hx.1
  simp only [validateSnapshot, validateProposal, bind_eq_ok, ensure_eq_ok, exists_unit,
    validateFields_toValue, minimalSnapshot_digest hfin]
  refine ⟨hv, ⟨hf, ⟨hm, hl, List.all_eq_true.mpr hfin⟩, hlin⟩, ⟨hid, ?_⟩, ?_, ?_, ?_, ?_, _, rfl, rfl, rfl⟩
  · simp [minimalSnapshot, sealedSnapshot]
  · cases prior with
    | none => rfl
    | some x => exact hprior x rfl
  · rfl
  · rfl
  · simp [minimalSnapshot, sealedSnapshot]

/-! ### The smallest result and the prior evaluation it becomes -/

/-- The only step of the smallest trace. -/
def onlyStep (evaluationId proposalId : String) : OperatorTraceStep where
  stepId := evaluationId ++ ":" ++ twoDigits 1 ++ ":" ++ "F12_FINAL_BECAUSE"
  ruleId := "F12_FINAL_BECAUSE"
  family := .because
  pole := "BECAUSE"
  subjectRef := proposalId
  objectRefs := []
  resultJson := "\x7b\x7d"
  evidenceRefs := []

/-- A result with its digest. -/
def sealedResult (r : CheckResult) : CheckResult :=
  { r with traceDigest := digestOf (checkResultDigest r) }

/-- The smallest finalized result bound to a snapshot. -/
def minimalResult (version : String) (s : EvaluationSnapshot) : CheckResult :=
  sealedResult
    { verdict := .yes
      risk := .low
      operatorTrace := [.operator (onlyStep s.evaluationId s.proposal.proposalId)]
      evidenceGaps := []
      dependencies := []
      precedentRefs := []
      consequenceWarningRefs := []
      becauseStepId := (onlyStep s.evaluationId s.proposal.proposalId).stepId
      evaluationId := s.evaluationId
      profileVersion := s.profileVersion
      priorEvaluationId := s.priorEvaluation.map PriorEvaluationTrace.evaluationId
      changedFactRuleIds := []
      evaluatorVersion := version
      ruleConfigDigest := zeroDigest
      inputSnapshotDigest := s.snapshotDigest
      policyDigest := s.policy.policyDigest
      traceDigest := zeroDigest }

/-- The prior evaluation that a finalized result becomes in the next snapshot. -/
def priorOfResult (r : CheckResult) (proposalId : String) : PriorEvaluationTrace where
  evaluationId := r.evaluationId
  proposalId := proposalId
  verdict := r.verdict
  risk := r.risk
  operatorTrace := r.operatorTrace
  evidenceGaps := r.evidenceGaps
  dependencies := r.dependencies
  precedentRefs := r.precedentRefs
  consequenceWarningRefs := r.consequenceWarningRefs
  becauseStepId := r.becauseStepId
  profileVersion := r.profileVersion
  priorEvaluationId := r.priorEvaluationId
  changedFactRuleIds := r.changedFactRuleIds
  evaluatorVersion := r.evaluatorVersion
  ruleConfigDigest := r.ruleConfigDigest
  inputSnapshotDigest := r.inputSnapshotDigest
  policyDigest := r.policyDigest
  traceDigest := r.traceDigest

/-- A prior evaluation has the digest of the result it was. -/
lemma priorPayload_digest {r : CheckResult} {proposalId d} (h : checkResultDigest r = .ok d) :
    canonicalSha256 (priorPayload (priorOfResult r proposalId)) = .ok d := by
  -- the evaluation identifier comes first in one record and after eight others in the other
  exact canonicalSha256_perm (.cons _ (.cons _ (@List.perm_middle _ _ [_, _, _, _, _, _, _, _] _))) h

/-- The smallest trace is a trace. -/
lemma onlyStep_valid {evaluationId proposalId : String} (h : evaluationId ≠ "") :
    validateTrace evaluationId [.operator (onlyStep evaluationId proposalId)]
      (some (onlyStep evaluationId proposalId).stepId) false = .ok () := by
  have id : makeStepId evaluationId 1 "F12_FINAL_BECAUSE" =
      .ok (onlyStep evaluationId proposalId).stepId := by
    simp [makeStepId, ensure, h, isStepRuleId, isRuleChar, onlyStep]
  have steps : validateSteps evaluationId false 1 []
      [.operator (onlyStep evaluationId proposalId)] = .ok () := by
    simp [validateSteps, id, TraceStep.ruleId, TraceStep.stepId, TraceStep.pole, TraceStep.family,
      onlyStep, allowedPoles, validateStepKind, reducerBinding, TraceStep.resultJson, plainJson_empty]
  simp only [validateTrace, bind_eq_ok, ensure_eq_ok, exists_unit, steps, true_and]
  refine ⟨by simp, ?_, ?_⟩
  · simp [validatePositions, rulePositions, TraceStep.ruleId, onlyStep]
  · simp [validateTerminal, IsTerminal, TraceStep.stepId, TraceStep.family, TraceStep.pole, onlyStep]

/-- The smallest result of a snapshot with digests is valid. -/
lemma minimalResult_valid {version : String} {s : EvaluationSnapshot} (hid : s.evaluationId ≠ "")
    (hs : isHex64 s.snapshotDigest = true) (hp : isHex64 s.policy.policyDigest = true)
    (hv : s.profileVersion ≠ some "") :
    validateCheckResult (minimalResult version s) = .ok (minimalResult version s) := by
  have digest : checkResultDigest (minimalResult version s) =
      .ok (minimalResult version s).traceDigest := digestOf_ok (checkResultDigest_ok _)
  have fields : FieldsValid (minimalResult version s) := by
    rw [CheckResult.fieldsValid]
    refine ⟨fun x hx => ?_, fun _ h => absurd h List.not_mem_nil, zeroDigest_hex, hs, hp,
      digestOf_hex⟩
    cases List.mem_singleton.mp hx
    exact plainJson_empty
  have trace : validateTrace (minimalResult version s).evaluationId
      (minimalResult version s).operatorTrace (some (minimalResult version s).becauseStepId) false =
        .ok () := onlyStep_valid hid
  simp only [validateCheckResult, bind_eq_ok, ensure_eq_ok, exists_unit, validateFields_toValue,
    trace, digest]
  exact ⟨fields, rfl, rfl, trivial, .inl (by intro h; cases h), hv, _, rfl, rfl, rfl⟩

/-- A valid result is a valid prior evaluation. -/
lemma priorOfResult_valid {r v : CheckResult} {proposalId : String}
    (h : validateCheckResult r = .ok v) : validatePrior (priorOfResult r proposalId) proposalId = .ok () := by
  simp only [validateCheckResult, bind_eq_ok, ensure_eq_ok, exists_unit, validateFields_toValue,
    CheckResult.fieldsValid] at h
  obtain ⟨fields, gaps, changed, trace, -, -, d, hd, he, -⟩ := h
  simp only [validatePrior, bind_eq_ok, ensure_eq_ok, exists_unit, validateFields_toValue,
    PriorEvaluationTrace.fieldsValid]
  exact ⟨fields, rfl, changed, gaps, trace, d, priorPayload_digest hd, he⟩

end

end GAM
