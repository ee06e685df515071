import GAM.Governance.Outcomes

/-!
# First evaluations

A snapshot without a prior evaluation, for rules, precedents, exclusions and evidence of its own. It is
admitted and finalized when these are in order and each of them is valid.
-/

namespace GAM
open Lib

section
variable [Platform]

/-- A proposal to set a demo value with evidence, without its digests. -/
def firstBody (refs : List EvidenceRef) : Proposal :=
  { minimalBody "proposal" "reason" with evidenceRefs := refs }

/-- A first evaluation of a proposal to set a demo value. -/
def firstSnapshot (rules : List PolicyRule) (precedents : List PrecedentRef)
    (exclusions : List ExclusionRef) (refs : List EvidenceRef) : EvaluationSnapshot :=
  sealedSnapshot
    { evaluationId := "first"
      snapshotId := "snapshot"
      profileVersion := none
      proposal := sealedProposal (firstBody refs)
      policy := sealedPolicy ⟨"policy", zeroDigest, rules⟩
      precedents := precedents
      exclusions := exclusions
      capabilities := []
      dependencies := []
      priorEvaluation := none
      capturedAt := "2026-01-01T00:00:00.000000Z"
      snapshotDigest := zeroDigest }

/-- The proposal of a first evaluation under an identifier of its own. -/
def demoBody (proposalId : String) (refs : List EvidenceRef) : Proposal :=
  { minimalBody proposalId "reason" with evidenceRefs := refs }

/-- An evaluation of that proposal, perhaps after a prior one. -/
def demoSnapshot (evaluationId proposalId : String) (rules : List PolicyRule)
    (precedents : List PrecedentRef) (exclusions : List ExclusionRef) (refs : List EvidenceRef)
    (prior : Option PriorEvaluationTrace) : EvaluationSnapshot :=
  sealedSnapshot
    { evaluationId := evaluationId
      snapshotId := "snapshot"
      profileVersion := none
      proposal := sealedProposal (demoBody proposalId refs)
      policy := sealedPolicy ⟨"policy", zeroDigest, rules⟩
      precedents := precedents
      exclusions := exclusions
      capabilities := []
      dependencies := []
      priorEvaluation := prior
      capturedAt := "2026-01-01T00:00:00.000000Z"
      snapshotDigest := zeroDigest }

/-- Rules, precedents, exclusions and evidence of a first evaluation that is finalized. -/
structure Proper (rules : List PolicyRule) (precedents : List PrecedentRef)
    (exclusions : List ExclusionRef) (refs : List EvidenceRef) : Prop where
  ruleOrder : canonicalRules rules = rules
  refOrder : sortedBy EvidenceRef.refId refs = refs
  exclusionOrder : sortedExclusions exclusions = exclusions
  precedentOrder : (sortedPrecedents precedents).map canonicalPrecedent = precedents
  few : precedents.length ≤ 5
  valid : ∀ p ∈ precedents, validatePrecedent p = .ok ()
  encodes : ∀ p ∈ precedents, Encodes (toValue p)
  bound : ∀ p ∈ precedents, ∀ r ∈ p.consequenceRefs, consequenceBound pinnedConfig r = true
  fields : ∀ e ∈ exclusions, FieldsValid e
  checked : forAll checkExclusion exclusions = .ok ()

variable {rules : List PolicyRule} {precedents : List PrecedentRef} {exclusions : List ExclusionRef}
  {refs : List EvidenceRef}

variable {evaluationId proposalId : String} {prior : Option PriorEvaluationTrace}

/-- An evaluation in proper order is in canonical order. -/
lemma Proper.demo_canonical (h : Proper rules precedents exclusions refs) :
    canonicalSnapshot (demoSnapshot evaluationId proposalId rules precedents exclusions refs prior) =
      demoSnapshot evaluationId proposalId rules precedents exclusions refs prior := by
  have refOrder : sortedBy EvidenceRef.refId (demoBody proposalId refs).evidenceRefs =
      (demoBody proposalId refs).evidenceRefs := h.refOrder
  simp only [canonicalSnapshot, demoSnapshot, sealedSnapshot, sealedProposal, sealedPolicy, h.ruleOrder,
    refOrder, h.exclusionOrder, h.precedentOrder]
  rfl

/-- A proper snapshot is its own canonical form. -/
lemma Proper.canonical (h : Proper rules precedents exclusions refs) :
    canonicalSnapshot (firstSnapshot rules precedents exclusions refs) =
      firstSnapshot rules precedents exclusions refs := h.demo_canonical

/-- The demo's embedding is finite. -/
lemma demoBody_finite (proposalId : String) (refs : List EvidenceRef) :
    ∀ x ∈ (demoBody proposalId refs).embedding, x.isFinite = true :=
  minimalProposal_finite proposalId "reason"

/-- A proper snapshot is sealed with its digest. -/
lemma Proper.demo_digest (h : Proper rules precedents exclusions refs) :
    snapshotDigest (demoSnapshot evaluationId proposalId rules precedents exclusions refs prior) =
      .ok (demoSnapshot evaluationId proposalId rules precedents exclusions refs
        prior).snapshotDigest := by
  refine sealedSnapshot_digest (Encodes.digest ?_)
  have proposal : Encodes (toValue (sealedProposal (demoBody proposalId refs))) :=
    Proposal.encodes (demoBody_finite proposalId refs)
  have policy : Encodes (toValue (sealedPolicy ⟨"policy", zeroDigest, rules⟩)) := by
    rw [show toValue _ = .record _ from rfl]
    simp
  have exclusion (e : ExclusionRef) : Encodes (toValue e) := by
    rw [show toValue e = .record _ from rfl]
    simp
  have encodes := h.encodes
  rw [show snapshotPayload _ = .dict _ from rfl, encodes_dict]
  · simp [proposal, policy, exclusion]
    exact encodes
  · simp
  · simp only [List.forall_mem_append, List.mem_cons, List.not_mem_nil, or_false, forall_eq]
    simp
    decide

/-- The proposal of an evaluation is valid. -/
lemma demoBody_valid : validateProposal (sealedProposal (demoBody proposalId refs)) = .ok () :=
  sealedProposal_valid plainJson_value plainJson_empty plainJson_empty rfl zeroDigest_hex
    ⟨rfl, List.length_replicate, demoBody_finite proposalId refs⟩ ⟨rfl, rfl, rfl⟩

/-- A proper snapshot is valid, with any valid prior. -/
lemma Proper.demo_valid (h : Proper rules precedents exclusions refs) (hid : evaluationId ≠ "")
    (hprior : ∀ x ∈ prior, validatePrior x proposalId = .ok ()) :
    let s := demoSnapshot evaluationId proposalId rules precedents exclusions refs prior
    validateSnapshot s = .ok s := by
  intro s
  have proposal := @demoBody_valid _ refs proposalId
  have fields : FieldsValid s := by
    rw [EvaluationSnapshot.fieldsValid]
    simp only [validateProposal, bind_eq_ok, exists_unit, validateFields_toValue] at proposal
    refine ⟨proposal.1, digestOf_hex, ?_, h.fields, fun _ h => absurd h List.not_mem_nil,
      fun _ h => absurd h List.not_mem_nil, ?_, digestOf_hex⟩
    · intro p hp
      have valid := h.valid p hp
      simp only [validatePrecedent, bind_eq_ok, exists_unit, validateFields_toValue] at valid
      exact valid.1
    · intro x hx
      have valid := hprior x hx
      simp only [validatePrior, bind_eq_ok, exists_unit, validateFields_toValue] at valid
      exact valid.1
  simp only [validateSnapshot, bind_eq_ok, ensure_eq_ok, exists_unit, validateFields_toValue]
  refine ⟨fields, proposal, ⟨hid, by simp [s, demoSnapshot, sealedSnapshot]⟩, ?_, ?_, rfl,
    List.nodup_nil, _, h.demo_digest, rfl, rfl⟩
  · cases prior with
    | none => rfl
    | some x => exact hprior x rfl
  · exact forAll_eq_ok.mpr h.valid

/-- The first snapshot is valid. -/
lemma Proper.snapshot_valid (h : Proper rules precedents exclusions refs) :
    validateSnapshot (firstSnapshot rules precedents exclusions refs) =
      .ok (firstSnapshot rules precedents exclusions refs) :=
  h.demo_valid (by decide) fun _ hx => by cases hx

/-- The input of the evaluation passes its checks. -/
lemma Proper.demo_input (h : Proper rules precedents exclusions refs) (hid : evaluationId ≠ "")
    (hprior : ∀ x ∈ prior, validatePrior x proposalId = .ok ()) :
    validateInput (demoSnapshot evaluationId proposalId rules precedents exclusions refs prior)
      pinnedConfig = .ok () := by
  have action : normalizeActionTargetKey "SET_DEMO_VALUE" = .ok "set_demo_value" :=
    normalize_ascii (by decide) (by decide) (by decide) (by decide) (by decide)
  have target : normalizeActionTargetKey "demo_kv:alpha" = .ok "demo_kv:alpha" :=
    normalize_ascii (by decide) (by decide) (by decide) (by decide) (by decide)
  have policy := digestOf_ok (policyDigest_ok ⟨"policy", zeroDigest, rules⟩)
  have one : ("set_demo_value" ++ "\x1f" ++ "demo_kv:alpha").toList.count '\x1f' = 1 := by decide
  have bindings : checkBindings
      (demoSnapshot evaluationId proposalId rules precedents exclusions refs prior) pinnedConfig =
      .ok () := by
    simp only [checkBindings, checkKey, bind_eq_ok, ensure_eq_ok, exists_unit]
    exact ⟨⟨_, action, rfl⟩, ⟨_, target, rfl⟩, one, _, sealedProposal_action, rfl, _,
      sealedProposal_record (demoBody_finite proposalId refs), rfl, _, policy, rfl,
      by simp [demoSnapshot, sealedSnapshot, sealedPolicy], by simp [demoSnapshot, sealedSnapshot],
      h.few, h.checked, rfl⟩
  simp only [validateInput, bind_eq_ok, exists_unit]
  exact ⟨pinnedConfig_valid, admitSnapshot_ok_iff.mpr (.inl ⟨_, h.demo_valid hid hprior⟩), bindings⟩

/-- A proper snapshot is admitted. -/
lemma Proper.demo_admitted (h : Proper rules precedents exclusions refs) (hid : evaluationId ≠ "") :
    admission (demoSnapshot evaluationId proposalId rules precedents exclusions refs none)
      pinnedConfig = .ok none := by
  rw [admission, h.demo_input hid fun _ hx => by cases hx]
  rfl

omit [Platform] in
/-- There are at most ten steps besides those of the dependencies. -/
lemma stepCount_le {s : EvaluationSnapshot} {c : RuleConfig} :
    stepCount s c ≤ 10 + 2 * s.dependencies.length := by
  have bound (b : Bool) : count b ≤ 1 := by cases b <;> decide
  calc stepCount s c ≤ 4 + 1 + 1 + 1 + 1 + 1 + 1 + 2 * s.dependencies.length := by
        unfold stepCount
        gcongr <;> exact bound _
    _ = 10 + 2 * s.dependencies.length := rfl

/-- The evaluation is finalized. -/
lemma Proper.demo_finalized (h : Proper rules precedents exclusions refs) (hid : evaluationId ≠ "") :
    ∃ r, evaluateProposal (demoSnapshot evaluationId proposalId rules precedents exclusions refs none)
      pinnedConfig = .ok (.check r) := by
  rw [evaluateProposal, h.demo_canonical, evaluateCanonical_check_iff]
  refine ⟨⟨none, h.demo_admitted hid⟩, ?_⟩
  exact
    { reports := by
        intro pair hpair
        obtain ⟨p, hp, hr⟩ := List.mem_flatMap.mp (mem_sortedBy.mp hpair)
        obtain ⟨r, report, rfl⟩ := List.mem_map.mp hr
        have hp := List.mem_of_mem_filter (List.mem_of_mem_filter (List.mem_of_mem_filter hp))
        exact h.bound p (mem_sortedPrecedents.mp hp) r report
      capabilities := List.nodup_nil
      length := by
        have bound : stepCount
            (demoSnapshot evaluationId proposalId rules precedents exclusions refs none) pinnedConfig ≤
            10 + 2 * 0 := stepCount_le
        omega
      evaluationId := hid
      prior := fun _ h => by cases h }

/-- A proper first snapshot is finalized. -/
lemma Proper.finalized (h : Proper rules precedents exclusions refs) :
    ∃ r, evaluateProposal (firstSnapshot rules precedents exclusions refs) pinnedConfig =
      .ok (.check r) := h.demo_finalized (by decide)

end

end GAM
