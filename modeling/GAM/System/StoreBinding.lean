import GAM.Governance.FirstEvaluation
import GAM.Memory.RoundTrip
import GAM.System.Refusals
import GAM.Traces.Binding

/-!
# The bindings of the store

The gate evaluates a canonical copy of a snapshot and checks the digests there. The store checks the
digests of the snapshot that it is given, and its digest of a policy sorts the rules alone. A snapshot
and its copy carry one digest, so when texts do not collide they are encoded alike; in NFC the lists
that the copy sorts were then in order already.
-/

namespace GAM
open Lib

section
variable [Platform]

/-! ### Texts in NFC -/

/-- The encoding reads the texts in NFC. -/
def EvidenceRequirement.normalized (r : EvidenceRequirement) : EvidenceRequirement where
  requirementId := nfc r.requirementId
  kind := nfc r.kind
  witness := r.witness
  subjectRef := nfc r.subjectRef
  resolutionRuleId := nfc r.resolutionRuleId

/-- The encoding reads the texts in NFC. -/
def PolicyRule.normalized (r : PolicyRule) : PolicyRule where
  ruleId := nfc r.ruleId
  actionTypeKey := nfc r.actionTypeKey
  targetKey := r.targetKey.map nfc
  effect := r.effect
  because := nfc r.because
  requiredEvidence := r.requiredEvidence.map EvidenceRequirement.normalized
  requiredCapabilityIds := r.requiredCapabilityIds.map nfc
  requireConsequence := r.requireConsequence

omit [Platform] in
/-- The name says which effect it is. -/
lemma PolicyEffect.name_inj {a b : PolicyEffect} (h : a.name = b.name) : a = b := by
  cases a <;> cases b <;> first | rfl | exact absurd h (by decide)

/-- Requirements encoded alike have one normal form. -/
lemma EvidenceRequirement.bound {a b : EvidenceRequirement} (h : SameJson (toValue a) (toValue b)) :
    a.normalized = b.normalized := by
  have rel := sameJson_record h (by simp) (by simp)
  simp only [List.forall₂_cons] at rel
  obtain ⟨id, kind, witness, subject, rule, -⟩ := rel
  simp only [EvidenceRequirement.normalized, sameJson_str id, sameJson_str kind,
    Witness.name_inj (sameJson_enum witness), sameJson_str subject, sameJson_str rule]

/-- Rules encoded alike have one normal form. -/
lemma PolicyRule.bound {a b : PolicyRule} (h : SameJson (toValue a) (toValue b)) :
    a.normalized = b.normalized := by
  have rel := sameJson_record h (by simp) (by simp)
  simp only [List.forall₂_cons] at rel
  obtain ⟨id, action, target, effect, because, evidence, capabilities, consequence, -⟩ := rel
  simp only [PolicyRule.normalized, sameJson_str id, sameJson_str action, sameJson_opt target,
    PolicyEffect.name_inj (sameJson_enum effect), sameJson_str because,
    sameJson_list evidence fun _ _ => EvidenceRequirement.bound,
    sameJson_list capabilities fun _ _ => sameJson_str, sameJson_bool consequence]

/-- A list is normal where its elements are. -/
lemma normal_list {α : Type} [ToValue α] {l : List α} : Normal (toValue l) ↔ ∀ a ∈ l, Normal (toValue a) := by
  rw [show toValue l = .tuple (l.map toValue) from rfl, Normal, normalElems_iff, List.forall_mem_map]

/-- A normal optional text is its own normal form. -/
lemma normal_opt {o : Option String} (h : Normal (toValue o)) : o.map nfc = o := by
  cases o with
  | none => rfl
  | some s => exact congrArg some h

/-- Normal elements are their own normal forms. -/
lemma map_normalized {α : Type} [ToValue α] {f : α → α} {l : List α} (h : Normal (toValue l))
    (fixed : ∀ a, Normal (toValue a) → f a = a) : l.map f = l := by
  conv_rhs => rw [← List.map_id l]
  exact List.map_congr_left fun a ha => fixed a (normal_list.mp h a ha)

/-! A record in NFC is its own reading. -/

/-- Normal evidence is its own normal form. -/
lemma EvidenceRef.normal {r : EvidenceRef} (h : Normal (toValue r)) : r.normalized = r := by
  obtain ⟨id, kind, digest, -⟩ := h
  exact EvidenceRef.mk.injEq .. ▸ ⟨id, kind, digest⟩

/-- A normal requirement is its own normal form. -/
lemma EvidenceRequirement.normal {r : EvidenceRequirement} (h : Normal (toValue r)) :
    r.normalized = r := by
  obtain ⟨id, kind, -, subject, rule, -⟩ := h
  exact EvidenceRequirement.mk.injEq .. ▸ ⟨id, kind, rfl, subject, rule⟩

/-- A normal rule is its own normal form. -/
lemma PolicyRule.normal {r : PolicyRule} (h : Normal (toValue r)) : r.normalized = r := by
  obtain ⟨id, action, target, -, because, evidence, capabilities, -⟩ := h
  exact PolicyRule.mk.injEq .. ▸ ⟨id, action, normal_opt target, rfl, because,
    map_normalized evidence fun _ => EvidenceRequirement.normal,
    map_normalized capabilities fun _ h => h, rfl⟩

/-- A normal dependency is its own normal form. -/
lemma DependencyRef.normal {r : DependencyRef} (h : Normal (toValue r)) : r.normalized = r := by
  obtain ⟨id, subject, predicate, expected, observed, -, digest, refs, -⟩ := h
  exact DependencyRef.mk.injEq .. ▸ ⟨id, subject, predicate, expected, normal_opt observed, rfl, digest,
    map_normalized refs fun _ => EvidenceRef.normal, rfl, rfl⟩

/-- Lists in NFC that are encoded alike are equal. -/
lemma list_bound {α : Type} [ToValue α] {f : α → α} {l l' : List α} (h : SameJson (toValue l) (toValue l'))
    (bound : ∀ a b, SameJson (toValue a) (toValue b) → f a = f b)
    (fixed : ∀ a, Normal (toValue a) → f a = a) (normal : Normal (toValue l))
    (normal' : Normal (toValue l')) : l = l' := by
  have same := sameJson_list h bound
  rwa [map_normalized normal fixed, map_normalized normal' fixed] at same

/-! ### The snapshot and its canonical copy -/

/-- Sorting keeps a list normal. -/
lemma normal_sorted {α β : Type} [LinearOrder β] [ToValue α] {key : α → β} {l : List α}
    (h : Normal (toValue l)) : Normal (toValue (sortedBy key l)) :=
  normal_list.mpr fun a ha => normal_list.mp h a (mem_sortedBy.mp ha)

/-- A normal rule has a normal canonical form. -/
lemma normal_canonicalRule {rule : PolicyRule} (h : Normal (toValue rule)) :
    Normal (toValue (canonicalRule rule)) := by
  obtain ⟨id, action, target, effect, because, evidence, capabilities, consequence, -⟩ := h
  refine ⟨id, action, target, effect, because, normal_sorted evidence, normal_list.mpr ?_, consequence,
    trivial⟩
  intro id hid
  exact normal_list.mp capabilities id (List.mem_dedup.mp (mem_sortedBy.mp hid))

/-- Normal rules have normal canonical forms. -/
lemma normal_canonicalRules {rules : List PolicyRule} (h : Normal (toValue rules)) :
    Normal (toValue (canonicalRules rules)) := by
  refine normal_list.mpr fun rule hrule => ?_
  obtain ⟨r, hr, rfl⟩ := List.mem_map.mp hrule
  exact normal_canonicalRule (normal_list.mp h r (mem_sortedBy.mp hr))

/-- Rules in canonical order have one digest in the store and at the gate. -/
lemma memoryPolicyDigest_canonical {policy : PolicyInput} (h : canonicalRules policy.rules = policy.rules) :
    memoryPolicyDigest policy = policyInputDigest policy := by
  have keep (rule : PolicyRule) : (canonicalRule rule).ruleId = rule.ruleId := rfl
  have sorted : sortedBy PolicyRule.ruleId policy.rules = policy.rules := by
    rw [← h, canonicalRules, sortedBy_map canonicalRule keep, sortedBy_idem]
  rw [memoryPolicyDigest, policyInputDigest, sorted, h]

variable {s : EvaluationSnapshot} {c : RuleConfig} {r : CheckResult}

/-- What the encoding of a snapshot says of the lists that its copy sorts. -/
lemma canonicalSnapshot_parts (normal : Normal (toValue s))
    (same : SameJson (snapshotPayload s) (snapshotPayload (canonicalSnapshot s))) :
    (canonicalSnapshot s).proposal = s.proposal ∧ (canonicalSnapshot s).policy = s.policy := by
  obtain ⟨-, -, -, proposalNormal, policyNormal, -⟩ := normal
  have rel := @sameJson_dict _ [_, _, _, _, _, _, _, _, _, _, _, _]
    [_, _, _, _, _, _, _, _, _, _, _, _] same rfl
  simp only [List.forall₂_cons] at rel
  obtain ⟨-, -, -, -, proposal, policy, -⟩ := rel
  constructor
  · obtain ⟨-, -, -, -, -, -, -, -, -, -, -, -, -, -, -, refs, dependencies, -⟩ := proposalNormal
    have fields := sameJson_record proposal (by simp) (by simp)
    simp only [List.forall₂_cons] at fields
    obtain ⟨-, -, -, -, -, -, -, -, -, -, -, -, -, -, -, refsSame, dependenciesSame, -⟩ := fields
    have refsEq := list_bound refsSame (fun _ _ => EvidenceRef.bound) (fun _ => EvidenceRef.normal) refs
      (normal_sorted refs)
    have dependenciesEq := list_bound dependenciesSame (fun _ _ => DependencyRef.bound)
      (fun _ => DependencyRef.normal) dependencies (normal_sorted dependencies)
    calc (canonicalSnapshot s).proposal
        = { s.proposal with
            evidenceRefs := (canonicalSnapshot s).proposal.evidenceRefs
            dependencies := (canonicalSnapshot s).proposal.dependencies } := rfl
      _ = s.proposal := by rw [← refsEq, ← dependenciesEq]
  · obtain ⟨-, -, rules, -⟩ := policyNormal
    have fields := sameJson_record policy (by simp) (by simp)
    simp only [List.forall₂_cons] at fields
    obtain ⟨-, -, rulesSame, -⟩ := fields
    have rulesEq := list_bound rulesSame (fun _ _ => PolicyRule.bound) (fun _ => PolicyRule.normal) rules
      (normal_canonicalRules rules)
    calc (canonicalSnapshot s).policy
        = { s.policy with rules := (canonicalSnapshot s).policy.rules } := rfl
      _ = s.policy := by rw [← rulesEq]

/-- What a finalized evaluation has checked and what it binds. -/
lemma evaluateProposal_bindings (h : evaluateProposal s c = .ok (.check r)) :
    checkBindings (canonicalSnapshot s) c = .ok () ∧
      snapshotDigest (canonicalSnapshot s) = .ok s.snapshotDigest ∧ r.evaluationId = s.evaluationId ∧
      r.inputSnapshotDigest = s.snapshotDigest ∧ r.policyDigest = s.policy.policyDigest ∧
      r.profileVersion = s.profileVersion := by
  obtain ⟨priorId, adm, evaluated⟩ := evaluateCanonical_check.mp h
  simp only [admission, validateInput, bind_eq_ok, exists_unit] at adm
  obtain ⟨⟨-, admitted, bindings⟩, -⟩ := adm
  simp only [evaluateAdmitted, bind_eq_ok, pure_eq_ok, Except.ok.injEq] at evaluated
  obtain ⟨_, -, _, -, _, -, _, -, _, -, _, -, rfl⟩ := evaluated
  exact ⟨bindings, admitSnapshot_digest admitted, rfl, rfl, rfl, rfl⟩

/-- A snapshot that was accepted carries its digest. -/
lemma validateSnapshot_digest {v : EvaluationSnapshot} (valid : validateSnapshot s = .ok v) :
    snapshotDigest s = .ok s.snapshotDigest := by
  rw [validateSnapshot_eq] at valid
  simp only [bind_eq_ok, ensure_eq_ok, exists_unit] at valid
  obtain ⟨-, _, own, rfl, -⟩ := valid
  exact own

/-- The store accepts what the gate finalizes when the copy has the proposal and the policy of the
snapshot. -/
lemma validateEvaluationBinding_same {v : EvaluationSnapshot} (valid : validateSnapshot s = .ok v)
    (h : evaluateProposal s pinnedConfig = .ok (.check r)) (accepted : validateResult (.check r) = .ok ())
    (sameProposal : (canonicalSnapshot s).proposal = s.proposal)
    (samePolicy : (canonicalSnapshot s).policy = s.policy) :
    validateEvaluationBinding s (.check r) = .ok () ∧
      memoryPolicyDigest s.policy = policyInputDigest (canonicalSnapshot s).policy := by
  obtain ⟨bindings, -, id, snapshot, policy, profile⟩ := evaluateProposal_bindings h
  have policies : memoryPolicyDigest s.policy = policyInputDigest (canonicalSnapshot s).policy := by
    rw [samePolicy]
    exact memoryPolicyDigest_canonical (congrArg PolicyInput.rules samePolicy)
  refine ⟨validateEvaluationBinding_iff.mpr ?_, policies⟩
  simp only [checkBindings, bind_eq_ok, ensure_eq_ok, exists_unit, sameProposal] at bindings
  obtain ⟨-, -, -, _, action, rfl, _, record, rfl, _, policyChecked, policyEq, -⟩ := bindings
  refine ⟨⟨v, valid⟩, accepted, action, record, ?_, id, snapshot, policy, profile⟩
  rw [policies, policyChecked, ← policyEq]
  rfl

/-- The store accepts what the gate finalizes over a valid snapshot in NFC, and its digest of the policy
is the one that the gate has checked. -/
theorem validateEvaluationBinding_finalized {v : EvaluationSnapshot} (normal : Normal (toValue s))
    (valid : validateSnapshot s = .ok v) (h : evaluateProposal s pinnedConfig = .ok (.check r))
    (accepted : validateResult (.check r) = .ok ())
    (distinct : ∀ t t', canonicalJson (snapshotPayload s) = .ok t →
      canonicalJson (snapshotPayload (canonicalSnapshot s)) = .ok t' → sha256 t = sha256 t' → t = t') :
    validateEvaluationBinding s (.check r) = .ok () ∧
      memoryPolicyDigest s.policy = policyInputDigest (canonicalSnapshot s).policy := by
  obtain ⟨-, digest, -⟩ := evaluateProposal_bindings h
  obtain ⟨sameProposal, samePolicy⟩ := canonicalSnapshot_parts normal
    (sameJson_of_digest (validateSnapshot_digest valid) digest distinct)
  exact validateEvaluationBinding_same valid h accepted sameProposal samePolicy

/-- A rule that denies the action of a first evaluation. -/
def denyRule : PolicyRule :=
  { ruleId := "rule", actionTypeKey := "set_demo_value", targetKey := none, effect := .deny,
    because := "because",
    requiredEvidence :=
      [⟨"requirement", "document", .what, "subject", "F07_EVIDENCE_COMPLETENESS"⟩],
    requiredCapabilityIds := ["a", "b"], requireConsequence := false }

/-- A DENY rule makes a proper first snapshot. -/
lemma denied_proper : Proper [denyRule] [] [] [] where
  ruleOrder := rfl
  refOrder := rfl
  exclusionOrder := rfl
  precedentOrder := rfl
  few := by decide
  valid := fun _ h => absurd h List.not_mem_nil
  encodes := fun _ h => absurd h List.not_mem_nil
  bound := fun _ h => absurd h List.not_mem_nil
  fields := fun _ h => absurd h List.not_mem_nil
  checked := rfl

/-- The evaluation of a denied action is finalized with a result that the validator accepts. -/
lemma denied_demo {evaluationId : String} (proposalId : String) (hid : evaluationId ≠ "") :
    ∃ r, evaluateProposal (demoSnapshot evaluationId proposalId [denyRule] [] [] [] none) pinnedConfig =
      .ok (.check r) ∧ validateCheckResult r = .ok r := by
  obtain ⟨r, hr⟩ := @Proper.demo_finalized _ _ _ _ _ _ proposalId denied_proper hid
  refine ⟨r, hr, ?_⟩
  obtain ⟨priorId, adm, evaluated⟩ := evaluateCanonical_check.mp hr
  rw [denied_proper.demo_canonical] at adm evaluated
  have forbidden : Forbidden (demoSnapshot evaluationId proposalId [denyRule] [] [] [] none) :=
    .inl ⟨denyRule, List.mem_cons_self, rfl, .inl rfl, rfl⟩
  exact (evaluateAdmitted_accepted adm evaluated).mpr
    { counts := natChars_small (Nat.zero_le 5)
      dependencies := fun _ h => absurd h List.not_mem_nil
      rules := fun allowed => absurd forbidden allowed
      gaps := fun allowed => absurd forbidden allowed
      prior := fun _ h => by cases h }

end

/-- The store accepts the finalized evaluation of a denied action. -/
theorem validateEvaluationBinding_denied :
    let _ := asciiPlatform
    let s := firstSnapshot [denyRule] [] [] []
    ∃ r, evaluateProposal s pinnedConfig = .ok (.check r) ∧
      validateEvaluationBinding s (.check r) = .ok () := by
  intro _ s
  obtain ⟨r, hr, valid⟩ := @denied_demo asciiPlatform "first" "proposal" (by decide)
  have accepted : validateResult (.check r) = .ok () := by
    rw [validateResult, valid]
    rfl
  refine ⟨r, hr, (validateEvaluationBinding_finalized (normal_of_id (fun _ => rfl) _)
    denied_proper.snapshot_valid hr accepted fun t t' ht ht' _ => ?_).1⟩
  rw [denied_proper.canonical, ht] at ht'
  exact Except.ok.inj ht'

end GAM
