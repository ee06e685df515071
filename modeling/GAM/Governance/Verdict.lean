import Mathlib.Tactic.NormNum
import GAM.Governance.Evaluate

/-!
# The verdict

`declaredOutcome` says what the verdict and the risk of a snapshot are, without the accumulators:
by the existence of rules, exclusions, precedents, evidence, capabilities and dependencies with given
properties. `collect_outcome` is the agreement with the reducer over the fact blocks, and
`evaluate_outcome` with the whole evaluator. The blocks are taken one by one: for each there is a
lemma about the predicates it appends to R1 and R2 and one that those predicates name a rule.
-/

namespace GAM
open Lib

section Declared
variable {s : EvaluationSnapshot}

/-- A rule of the policy with the proposal's keys and an effect. -/
def Rules (s : EvaluationSnapshot) (effect : PolicyEffect) (rule : PolicyRule) : Prop :=
  rule ∈ s.policy.rules ∧ rule.actionTypeKey = s.proposal.actionTypeKey ∧
    (rule.targetKey = none ∨ rule.targetKey = some s.proposal.targetKey) ∧ rule.effect = effect

/-- The keys are those of the proposal. -/
def SameKeys (p : Proposal) (actionTypeKey targetKey : String) : Prop :=
  actionTypeKey = p.actionTypeKey ∧ targetKey = p.targetKey

/-- The similarity is known and at least 0.85. -/
def Near (p : PrecedentRef) : Prop :=
  ∃ d, p.similarity = some d ∧ d.isFinite = true ∧ 17 / 20 ≤ d.value

/-- A near precedent with the proposal's keys. -/
def Qualifies (s : EvaluationSnapshot) (p : PrecedentRef) : Prop :=
  p ∈ s.precedents ∧ Near p ∧ SameKeys s.proposal p.actionTypeKey p.targetKey

/-- A qualifying precedent that was approved. -/
def Approved (s : EvaluationSnapshot) (p : PrecedentRef) : Prop :=
  Qualifies s p ∧ p.decision = some .approve

/-- A capability that an ALLOW rule requires. -/
def Requires (s : EvaluationSnapshot) (id : String) : Prop :=
  ∃ rule, Rules s .allow rule ∧ id ∈ rule.requiredCapabilityIds

/-- The snapshot lists the capability in a state. -/
def CapabilityIs (s : EvaluationSnapshot) (id : String) (state : DependencyState) : Prop :=
  ∃ c ∈ s.capabilities, c.capabilityId = id ∧ c.state = state

/-- The governing evidence of a kind, the last by identifier, is valid. -/
def Satisfied (s : EvaluationSnapshot) (kind : String) : Prop :=
  ∃ ref, evidenceByKind s kind = some ref ∧ ref.refId ≠ "" ∧ ref.kind ≠ "" ∧
    isHex64 ref.digest = true

/-- Something forbids the action. -/
def Forbidden (s : EvaluationSnapshot) : Prop :=
  (∃ rule, Rules s .deny rule) ∨
  (∃ e ∈ s.exclusions, SameKeys s.proposal e.actionTypeKey e.targetKey) ∨
  (∃ id, Requires s id ∧ CapabilityIs s id .false) ∨
  (∃ d ∈ s.dependencies, d.state = .false)

/-- An approved precedent diverged by at least 0.5. -/
def HighDivergence (s : EvaluationSnapshot) : Prop :=
  ∃ p, Approved s p ∧ ∃ r ∈ p.consequenceRefs, 1 / 2 ≤ r.divergence.value

/-- Something leaves the action undecided. -/
def Unsettled (s : EvaluationSnapshot) : Prop :=
  (¬∃ rule, Rules s .allow rule) ∨
  (∃ p ∈ s.precedents, p.similarity = none) ∨
  (¬∃ p, Approved s p) ∨
  ((∃ p, Approved s p) ∧
    ∃ p, Qualifies s p ∧ (p.decision = some .reject ∨ p.decision = some .modify)) ∨
  (∃ rule, Rules s .allow rule ∧ ∃ r ∈ rule.requiredEvidence, ¬Satisfied s r.kind) ∨
  ((∃ rule, Rules s .allow rule ∧ rule.requireConsequence = true) ∧
    ∃ p, Approved s p ∧ p.consequenceRefs = []) ∨
  HighDivergence s ∨
  (∃ id, Requires s id ∧
    ((∀ c ∈ s.capabilities, c.capabilityId ≠ id) ∨ CapabilityIs s id .unresolved)) ∨
  (∃ d ∈ s.dependencies, d.state = .unresolved ∧ completeFormula d = false)

/-- Some dependency is still open. -/
def Conditional (s : EvaluationSnapshot) : Prop := ∃ d ∈ s.dependencies, d.state = .unresolved

open Classical in
/-- The verdict and the risk a snapshot has. -/
noncomputable def declaredOutcome (s : EvaluationSnapshot) : Verdict × Risk :=
  if Forbidden s then (.no, .high)
  else if Unsettled s then (.maybe, if HighDivergence s then .high else .medium)
  else if Conditional s then (.iff, .medium)
  else (.yes, .low)

end Declared

/-! ### Thresholds -/

section
variable {c : RuleConfig} {p : PrecedentRef} {r : ConsequenceRef}

/-- Decimals that are equal by value to a finite one. -/
lemma Decimal.eqv_finite {d : Decimal} {neg coeff exp}
    (h : d.eqv (.finite neg coeff exp) = true) :
    d.isFinite = true ∧ d.value = (Decimal.finite neg coeff exp).value := by
  cases d <;> simp_all [Decimal.eqv, Decimal.isFinite]

/-- The pinned similarity threshold is 0.85. -/
lemma RuleConfig.isPinned.similarity (h : c.isPinned) (d : Decimal) :
    c.similarityThreshold.le d = true ↔ d.isFinite = true ∧ 17 / 20 ≤ d.value := by
  obtain ⟨hf, hv⟩ := Decimal.eqv_finite h.2.1
  have : (Decimal.finite false 85000000 (-8)).value = 17 / 20 := by
    norm_num [Decimal.value, Decimal.signed]
  simp [Decimal.le, hf, hv, this]

/-- The pinned divergence threshold is 0.5. -/
lemma RuleConfig.isPinned.divergence (h : c.isPinned) (d : Decimal) :
    c.divergenceThreshold.le d = true ↔ d.isFinite = true ∧ 1 / 2 ≤ d.value := by
  obtain ⟨hf, hv⟩ := Decimal.eqv_finite h.2.2.1
  have : (Decimal.finite false 50000 (-5)).value = 1 / 2 := by
    norm_num [Decimal.value, Decimal.signed]
  simp [Decimal.le, hf, hv, this]

/-- Below the divergence threshold is not at or above it. -/
lemma RuleConfig.isPinned.divergence_lt (h : c.isPinned) {d : Decimal} (hd : d.isFinite = true) :
    d.lt c.divergenceThreshold = true ↔ ¬c.divergenceThreshold.le d = true := by
  obtain ⟨hf, -⟩ := Decimal.eqv_finite h.2.2.1
  simp [Decimal.lt, Decimal.le, hf, hd]

/-- Under the pinned configuration a precedent is near where its similarity says so. -/
lemma retrieval_near (h : c.isPinned) : retrieval c p = .near ↔ Near p := by
  unfold retrieval Near
  cases p.similarity with
  | none => simp
  | some d =>
    simp only [Option.some.injEq, exists_eq_left', ← h.similarity d]
    split <;> simp_all

/-- A precedent is unresolved where it has no similarity. -/
lemma retrieval_unresolved : retrieval c p = .unresolved ↔ p.similarity = none := by
  unfold retrieval
  cases p.similarity with
  | none => simp
  | some d =>
    simp only [reduceCtorEq, iff_false]
    split <;> simp

end

/-! ### Rule identifiers of predicates -/

/-- The rule of a predicate is known. -/
def Known (predicate : String) : Prop := ∃ ruleId, predicateRuleId predicate = .ok ruleId

/-- The rule of a predicate depends on its head only. -/
lemma known_append {a b : String} (n : 3 ≤ a.toList.length) (h : Known a) : Known (a ++ b) := by
  obtain ⟨ruleId, h⟩ := h
  refine ⟨ruleId, ?_⟩
  unfold predicateRuleId at h ⊢
  rwa [String.toList_append, List.take_append_of_le_length n]

/-- A prefix that fits into the head of a text is a prefix of the head. -/
lemma hasPrefix_append {p a b : String} (n : p.toList.length ≤ a.toList.length) :
    hasPrefix p (a ++ b) = hasPrefix p a := by
  rw [Bool.eq_iff_iff]
  simp only [hasPrefix, String.toList_append, List.isPrefixOf_iff_prefix]
  constructor
  · intro h
    exact List.prefix_of_prefix_length_le h (List.prefix_append _ _) n
  · intro h
    exact h.trans (List.prefix_append _ _)

/-! ### The lists of the blocks -/

section
variable {s : EvaluationSnapshot} {c : RuleConfig} {rule : PolicyRule} {p : PrecedentRef}

/-- The ALLOW rules of the proposal's keys. -/
lemma mem_allowRules : rule ∈ allowRules s ↔ Rules s .allow rule := by
  simp [allowRules, applicableRules, Rules, and_assoc]

/-- The DENY rules of the proposal's keys. -/
lemma mem_denyRules : rule ∈ denyRules s ↔ Rules s .deny rule := by
  simp [denyRules, applicableRules, Rules, and_assoc]

lemma allowRules_eq_nil : allowRules s = [] ↔ ¬∃ rule, Rules s .allow rule := by
  simp [List.eq_nil_iff_forall_not_mem, mem_allowRules]

lemma denyRules_eq_nil : denyRules s = [] ↔ ¬∃ rule, Rules s .deny rule := by
  simp [List.eq_nil_iff_forall_not_mem, mem_denyRules]

/-- The comparison of the keys. -/
lemma sameKeys_iff {p : Proposal} {a t : String} : sameKeys p a t = true ↔ SameKeys p a t := by
  simp [sameKeys, SameKeys]

/-- Some exclusion has the proposal's keys. -/
lemma someExcluded_iff : someExcluded s = true ↔
    ∃ e ∈ s.exclusions, SameKeys s.proposal e.actionTypeKey e.targetKey := by
  simp [someExcluded, sortedExclusions, sameKeys_iff]

lemma mem_sortedPrecedents : p ∈ sortedPrecedents s.precedents ↔ p ∈ s.precedents := mem_sortedBy

/-- The qualifying precedents. -/
lemma mem_identityQualifying (h : c.isPinned) : p ∈ identityQualifying s c ↔ Qualifies s p := by
  simp only [identityQualifying, nearPrecedents, List.mem_filter, mem_sortedPrecedents, beq_iff_eq,
    retrieval_near h, sameKeys_iff, Qualifies, and_assoc]

/-- The approved precedents. -/
lemma mem_approvedPrecedents (h : c.isPinned) : p ∈ approvedPrecedents s c ↔ Approved s p := by
  simp [approvedPrecedents, mem_identityQualifying h, Approved]

lemma approvedPrecedents_eq_nil (h : c.isPinned) :
    approvedPrecedents s c = [] ↔ ¬∃ p, Approved s p := by
  simp [List.eq_nil_iff_forall_not_mem, mem_approvedPrecedents h]

/-- Approved precedents conflict with those rejected or modified. -/
lemma precedentConflict_iff (h : c.isPinned) : precedentConflict s c = true ↔
    (∃ p, Approved s p) ∧
      ∃ p, Qualifies s p ∧ (p.decision = some .reject ∨ p.decision = some .modify) := by
  simp only [precedentConflict, Bool.and_eq_true, Bool.or_eq_true, List.contains_iff_mem,
    List.mem_map, mem_identityQualifying h, Approved]
  constructor
  · rintro ⟨ha, ⟨p, hp, e⟩ | ⟨p, hp, e⟩⟩
    · exact ⟨ha, p, hp, .inl e⟩
    · exact ⟨ha, p, hp, .inr e⟩
  · rintro ⟨ha, p, hp, e | e⟩
    · exact ⟨ha, .inl ⟨p, hp, e⟩⟩
    · exact ⟨ha, .inr ⟨p, hp, e⟩⟩

/-- A requirement is satisfied by the governing evidence of its kind. -/
lemma satisfied_iff {r : EvidenceRequirement} : satisfied s r = true ↔ Satisfied s r.kind := by
  unfold satisfied Satisfied
  cases evidenceByKind s r.kind <;> simp [evidenceValid, and_assoc]

/-- The evidence that ALLOW rules require. -/
lemma mem_requirements {r : EvidenceRequirement} :
    r ∈ requirements s ↔ ∃ rule, Rules s .allow rule ∧ r ∈ rule.requiredEvidence := by
  simp [requirements, mem_allowRules]

/-! ### F03, exclusions -/

/-- F03 refuses where an exclusion has the proposal's keys. -/
lemma exclusion_rawR1 : (exclusionFindings s).rawR1 = [] ↔
    ¬∃ e ∈ s.exclusions, SameKeys s.proposal e.actionTypeKey e.targetKey := by
  rw [← someExcluded_iff]
  simp [exclusionFindings]

/-- F03's predicates name their rule. -/
lemma exclusion_known : ∀ x ∈ (exclusionFindings s).rawR1, Known x := by
  dsimp only [exclusionFindings]
  split <;> simp [Known, predicateRuleId]

end

section
variable [Platform] {s : EvaluationSnapshot} {c : RuleConfig}

/-! ### F02, policy scope -/

/-- F02 refuses where a DENY rule applies. -/
lemma scope_rawR1 : (scopeFindings s).rawR1 = [] ↔ ¬∃ rule, Rules s .deny rule := by
  rw [← denyRules_eq_nil]
  unfold scopeFindings
  split
  · simp_all
  · split <;> simp_all

/-- Without a DENY rule, F02 is unsettled where no ALLOW rule applies. -/
lemma scope_rawR2 (h : ¬∃ rule, Rules s .deny rule) :
    (scopeFindings s).rawR2 = [] ↔ ∃ rule, Rules s .allow rule := by
  rw [← denyRules_eq_nil] at h
  rw [← not_not (a := ∃ rule, Rules s .allow rule), ← allowRules_eq_nil]
  unfold scopeFindings
  rw [if_neg (by simp [h])]
  split <;> simp_all

/-- F02's predicates name their rule. -/
lemma scope_known : ∀ x ∈ (scopeFindings s).rawR1 ++ (scopeFindings s).rawR2, Known x := by
  unfold scopeFindings
  split
  · simp [Known, predicateRuleId]
  · split <;> simp [Known, predicateRuleId]

lemma scope_rawR3 : (scopeFindings s).rawR3 = [] := by
  unfold scopeFindings
  split
  · rfl
  · split <;> rfl

lemma scope_high : ∀ x ∈ (scopeFindings s).rawR2, hasPrefix "F08_HIGH" x = false := by
  unfold scopeFindings
  split
  · simp
  · split
    · simp
    · simp only [List.mem_cons, List.not_mem_nil, or_false]
      rintro x (rfl | rfl) <;> decide

/-! ### F04 to F06, precedents -/

/-- F04 is unsettled where a precedent has no similarity. -/
lemma retrieval_rawR2 : (retrievalFindings s c).rawR2 = [] ↔
    ¬∃ p ∈ s.precedents, p.similarity = none := by
  simp [retrievalFindings, List.filter_eq_nil_iff, mem_sortedPrecedents, retrieval_unresolved]

/-- F04's predicates name their rule. -/
lemma retrieval_known : ∀ x ∈ (retrievalFindings s c).rawR2, Known x := by
  intro x hx
  obtain ⟨p, -, rfl⟩ := List.mem_map.mp hx
  exact known_append (by decide) ⟨F04, by decide⟩

lemma retrieval_high : ∀ x ∈ (retrievalFindings s c).rawR2, hasPrefix "F08_HIGH" x = false := by
  intro x hx
  obtain ⟨p, -, rfl⟩ := List.mem_map.mp hx
  rw [hasPrefix_append (by decide)]
  decide

/-- F05 is unsettled where no precedent is approved. -/
lemma identity_rawR2 (h : c.isPinned) :
    (identityFindings s c).rawR2 = [] ↔ ∃ p, Approved s p := by
  rw [← not_not (a := ∃ p, Approved s p), ← approvedPrecedents_eq_nil h]
  simp [identityFindings]

/-- F05's predicates name their rule. -/
lemma identity_known : ∀ x ∈ (identityFindings s c).rawR2, Known x := by
  dsimp only [identityFindings]
  split <;> simp [Known, predicateRuleId]

lemma identity_high : ∀ x ∈ (identityFindings s c).rawR2, hasPrefix "F08_HIGH" x = false := by
  dsimp only [identityFindings]
  split
  · simp only [List.mem_cons, List.not_mem_nil, or_false]
    rintro x rfl
    decide
  · simp

/-- F06 is unsettled where an approval conflicts with another decision. -/
lemma conflict_rawR2 (h : c.isPinned) : (conflictFindings s c).rawR2 = [] ↔
    ¬((∃ p, Approved s p) ∧
      ∃ p, Qualifies s p ∧ (p.decision = some .reject ∨ p.decision = some .modify)) := by
  rw [← precedentConflict_iff h]
  simp [conflictFindings]

/-- F06's predicates name their rule. -/
lemma conflict_known : ∀ x ∈ (conflictFindings s c).rawR2, Known x := by
  dsimp only [conflictFindings]
  split <;> simp [Known, predicateRuleId]

lemma conflict_high : ∀ x ∈ (conflictFindings s c).rawR2, hasPrefix "F08_HIGH" x = false := by
  dsimp only [conflictFindings]
  split
  · simp only [List.mem_cons, List.not_mem_nil, or_false]
    rintro x rfl
    decide
  · simp

/-! ### F07, evidence -/

/-- F07 is unsettled where required evidence is missing. -/
lemma evidence_rawR2 : (evidenceFindings s).rawR2 = [] ↔
    ¬∃ rule, Rules s .allow rule ∧ ∃ r ∈ rule.requiredEvidence, ¬Satisfied s r.kind := by
  simp only [evidenceFindings, List.map_eq_nil_iff, List.filter_eq_nil_iff, mem_requirements,
    Bool.not_eq_true', ← satisfied_iff]
  grind

/-- F07's predicates name their rule. -/
lemma evidence_known : ∀ x ∈ (evidenceFindings s).rawR2, Known x := by
  intro x hx
  obtain ⟨r, -, rfl⟩ := List.mem_map.mp hx
  exact known_append (by decide) ⟨F07, by decide⟩

lemma evidence_high : ∀ x ∈ (evidenceFindings s).rawR2, hasPrefix "F08_HIGH" x = false := by
  intro x hx
  obtain ⟨r, -, rfl⟩ := List.mem_map.mp hx
  rw [hasPrefix_append (by decide)]
  decide

/-! ### F08, divergence -/

omit [Platform] in
/-- The reports are the consequences of the approved precedents. -/
lemma mem_consequenceReports (h : c.isPinned) {p : PrecedentRef} {r : ConsequenceRef} :
    (p, r) ∈ consequenceReports s c ↔ Approved s p ∧ r ∈ p.consequenceRefs := by
  simp only [consequenceReports, mem_sortedBy, List.mem_flatMap, List.mem_map, Prod.mk.injEq,
    mem_approvedPrecedents h]
  constructor
  · rintro ⟨q, hq, r', hr, rfl, rfl⟩
    exact ⟨hq, hr⟩
  · rintro ⟨hp, hr⟩
    exact ⟨p, hp, r, hr, rfl, rfl⟩

/-- Every report of every precedent has a finite divergence. -/
def FiniteDivergence (s : EvaluationSnapshot) : Prop :=
  ∀ p ∈ s.precedents, ∀ r ∈ p.consequenceRefs, r.divergence.isFinite = true

omit [Platform] in
/-- The warnings are the reports of approved precedents with a high divergence. -/
lemma mem_consequenceWarnings (h : c.isPinned) (fin : FiniteDivergence s) {id : String} :
    id ∈ consequenceWarnings s c ↔ ∃ p, Approved s p ∧
      ∃ r ∈ p.consequenceRefs, 1 / 2 ≤ r.divergence.value ∧ r.consequenceId = id := by
  simp only [consequenceWarnings, List.mem_map, List.mem_filter, Prod.exists,
    mem_consequenceReports h, highDivergence, h.divergence]
  constructor
  · rintro ⟨p, r, ⟨⟨approved, hr⟩, -, high⟩, id⟩
    exact ⟨p, approved, r, hr, high, id⟩
  · rintro ⟨p, approved, r, hr, high, id⟩
    exact ⟨p, r, ⟨⟨approved, hr⟩, fin p approved.1.1 r hr, high⟩, id⟩

omit [Platform] in
/-- No report warns exactly where none diverges highly. -/
lemma consequenceWarnings_eq_nil (h : c.isPinned) (fin : FiniteDivergence s) :
    consequenceWarnings s c = [] ↔ ¬HighDivergence s := by
  simp only [List.eq_nil_iff_forall_not_mem, mem_consequenceWarnings h fin, HighDivergence]
  constructor
  · rintro none ⟨p, approved, r, hr, high⟩
    exact none r.consequenceId ⟨p, approved, r, hr, high, rfl⟩
  · rintro low id ⟨p, approved, r, hr, high, -⟩
    exact low ⟨p, approved, r, hr, high⟩

omit [Platform] in
/-- A consequence is required where an ALLOW rule asks for it. -/
lemma consequenceRequired_iff (h : c.isPinned) : consequenceRequired s c = true ↔
    ∃ rule, Rules s .allow rule ∧ rule.requireConsequence = true := by
  simp [consequenceRequired, h.2.2.2.2.1, mem_allowRules]

omit [Platform] in
/-- No approved precedent is without a consequence. -/
lemma missingConsequence_eq_nil (h : c.isPinned) :
    missingConsequence s c = [] ↔ ¬∃ p, Approved s p ∧ p.consequenceRefs = [] := by
  simp [missingConsequence, List.filter_eq_nil_iff, mem_approvedPrecedents h]

/-- What F08 appends to the predicates, whether or not there are approved precedents. -/
lemma divergence_raw {d : Findings} (e : divergenceFindings s c = .ok d) :
    d.rawR1 = [] ∧ d.rawR2 = (divergenceBody s c).rawR2 ∧ d.rawR3 = [] := by
  unfold divergenceFindings at e
  split at e
  · rename_i hn
    cases e
    simp [divergenceBody, consequenceWarnings, consequenceReports, missingConsequence, hn]
  · simp only [bind_eq_ok, pure_eq_ok, Except.ok.injEq] at e
    obtain ⟨_, _, rfl⟩ := e
    exact ⟨rfl, rfl, rfl⟩

/-- F08 is unsettled where a report diverges highly or a required consequence is missing. -/
lemma divergence_rawR2 (h : c.isPinned) (fin : FiniteDivergence s) :
    (divergenceBody s c).rawR2 = [] ↔ ¬HighDivergence s ∧
      ¬((∃ rule, Rules s .allow rule ∧ rule.requireConsequence = true) ∧
        ∃ p, Approved s p ∧ p.consequenceRefs = []) := by
  rw [← consequenceWarnings_eq_nil h fin, ← consequenceRequired_iff h,
    ← not_not (a := ∃ p, Approved s p ∧ p.consequenceRefs = []), ← missingConsequence_eq_nil h]
  simp [divergenceBody]

/-- F08's predicates name their rule. -/
lemma divergence_known : ∀ x ∈ (divergenceBody s c).rawR2, Known x := by
  intro x hx
  simp only [divergenceBody, List.mem_append, List.mem_map] at hx
  obtain ⟨id, -, rfl⟩ | ⟨id, -, rfl⟩ := hx
  · exact known_append (by decide) ⟨F08, by decide⟩
  · exact known_append (by decide) ⟨F08, by decide⟩

/-- F08 warns exactly where a report diverges highly. -/
lemma divergence_high (h : c.isPinned) (fin : FiniteDivergence s) :
    (∃ x ∈ (divergenceBody s c).rawR2, hasPrefix "F08_HIGH" x = true) ↔ HighDivergence s := by
  rw [← not_not (a := HighDivergence s), ← consequenceWarnings_eq_nil h fin]
  simp only [divergenceBody, List.mem_append, List.mem_map]
  constructor
  · rintro ⟨_, ⟨id, hid, rfl⟩ | ⟨id, hid, rfl⟩, hp⟩
    · exact List.ne_nil_of_mem hid
    · rw [hasPrefix_append (by decide)] at hp
      exact absurd hp (by decide)
  · intro hn
    obtain ⟨id, hid⟩ := List.exists_mem_of_ne_nil _ hn
    refine ⟨_, .inl ⟨id, hid, rfl⟩, ?_⟩
    rw [hasPrefix_append (by decide)]
    decide

/-! ### F09, capabilities -/

omit [Platform] in
/-- The capabilities that ALLOW rules require. -/
lemma mem_requiredCapabilityIds {id : String} :
    id ∈ requiredCapabilityIds s ↔ Requires s id := by
  simp [requiredCapabilityIds, mem_allowRules, Requires]

omit [Platform] in
/-- The state found of a capability is the one listed. -/
lemma capabilityState_some (nd : (s.capabilities.map CapabilityFact.capabilityId).Nodup)
    {id : String} {state : DependencyState} :
    capabilityState s id = some state ↔ CapabilityIs s id state := by
  have key {c} : capabilityById s id = some c ↔ c ∈ s.capabilities ∧ c.capabilityId = id := by
    constructor
    · intro e
      exact ⟨List.mem_of_find?_eq_some e, by simpa using List.find?_some e⟩
    · rintro ⟨hc, rfl⟩
      cases e : capabilityById s c.capabilityId with
      | none => exact absurd (List.find?_eq_none.mp e c hc) (by simp)
      | some c' =>
        have hk : c'.capabilityId = c.capabilityId := by simpa using List.find?_some e
        rw [List.inj_on_of_nodup_map nd (List.mem_of_find?_eq_some e) hc hk]
  simp only [capabilityState, Option.map_eq_some_iff, key, CapabilityIs, and_assoc]

omit [Platform] in
/-- No state is found of a capability that is not listed. -/
lemma capabilityState_none {id : String} :
    capabilityState s id = none ↔ ∀ c ∈ s.capabilities, c.capabilityId ≠ id := by
  simp [capabilityState, capabilityById]

/-- F09 refuses where a required capability is false. -/
lemma capability_rawR1 (nd : (s.capabilities.map CapabilityFact.capabilityId).Nodup) :
    (capabilityBody s).rawR1 = [] ↔ ¬∃ id, Requires s id ∧ CapabilityIs s id .false := by
  simp [capabilityBody, List.filter_eq_nil_iff, mem_requiredCapabilityIds, capabilityState_some nd]

/-- F09 is unsettled where a required capability is missing or unresolved. -/
lemma capability_rawR2 (nd : (s.capabilities.map CapabilityFact.capabilityId).Nodup) :
    (capabilityBody s).rawR2 = [] ↔ ¬∃ id, Requires s id ∧
      ((∀ c ∈ s.capabilities, c.capabilityId ≠ id) ∨ CapabilityIs s id .unresolved) := by
  simp only [capabilityBody, List.flatMap_eq_nil_iff, mem_requiredCapabilityIds,
    ← capabilityState_none, ← capabilityState_some nd, not_exists, not_and]
  refine forall₂_congr fun id _ => ?_
  unfold capabilityR2
  split <;> simp_all

/-- F09's predicates name their rule. -/
lemma capability_known :
    ∀ x ∈ (capabilityBody s).rawR1 ++ (capabilityBody s).rawR2, Known x := by
  intro x hx
  simp only [capabilityBody, List.mem_append, List.mem_map, List.mem_flatMap] at hx
  obtain ⟨id, -, rfl⟩ | ⟨id, -, hx⟩ := hx
  · exact known_append (by decide) ⟨F09, by decide⟩
  · unfold capabilityR2 at hx
    split at hx
    · cases List.mem_singleton.mp hx
      exact known_append (by decide) ⟨F09, by decide⟩
    · cases List.mem_singleton.mp hx
      exact known_append (by decide) ⟨F09, by decide⟩
    · cases hx

lemma capability_high : ∀ x ∈ (capabilityBody s).rawR2, hasPrefix "F08_HIGH" x = false := by
  intro x hx
  obtain ⟨id, -, hx⟩ := List.mem_flatMap.mp hx
  unfold capabilityR2 at hx
  split at hx
  · cases List.mem_singleton.mp hx
    rw [hasPrefix_append (by decide)]
    decide
  · cases List.mem_singleton.mp hx
    rw [hasPrefix_append (by decide)]
    decide
  · cases hx

/-! ### F10, dependencies -/

/-- F10 refuses where a dependency is false. -/
lemma dependencies_rawR1 {ds : List DependencyRef} :
    (dependenciesFindings ds).rawR1 = [] ↔ ∀ d ∈ ds, d.state ≠ .false := by
  induction ds with
  | nil => simp [dependenciesFindings]
  | cons d ds ih =>
    simp only [dependenciesFindings, Findings.rawR1_append, List.append_eq_nil_iff, ih,
      List.forall_mem_cons]
    unfold oneDependency
    split <;> [skip; skip; split] <;> simp_all

/-- F10 is unsettled where a dependency is, without a complete formula. -/
lemma dependencies_rawR2 {ds : List DependencyRef} : (dependenciesFindings ds).rawR2 = [] ↔
    ∀ d ∈ ds, ¬(d.state = .unresolved ∧ completeFormula d = false) := by
  induction ds with
  | nil => simp [dependenciesFindings]
  | cons d ds ih =>
    simp only [dependenciesFindings, Findings.rawR2_append, List.append_eq_nil_iff, ih,
      List.forall_mem_cons]
    unfold oneDependency
    split <;> [skip; skip; split] <;> simp_all

/-- F10 is conditional where a dependency is unresolved with a complete formula. -/
lemma dependencies_rawR3 {ds : List DependencyRef} : (dependenciesFindings ds).rawR3 = [] ↔
    ∀ d ∈ ds, ¬(d.state = .unresolved ∧ completeFormula d = true) := by
  induction ds with
  | nil => simp [dependenciesFindings]
  | cons d ds ih =>
    simp only [dependenciesFindings, Findings.rawR3_append, List.append_eq_nil_iff, ih,
      List.forall_mem_cons]
    unfold oneDependency
    split <;> [skip; skip; split] <;> simp_all

/-- A dependency's predicates name their rule. -/
lemma oneDependency_known {d : DependencyRef} :
    ∀ x ∈ (oneDependency d).rawR1 ++ (oneDependency d).rawR2, Known x := by
  unfold oneDependency
  split
  · simp
  · simp only [List.append_nil, List.mem_singleton, forall_eq]
    exact known_append (by decide) ⟨F10, by decide⟩
  · split
    · simp
    · simp only [List.nil_append, List.mem_singleton, forall_eq]
      exact known_append (by decide) ⟨F10, by decide⟩

/-- F10's predicates name their rule. -/
lemma dependencies_known (ds : List DependencyRef) :
    ∀ x ∈ (dependenciesFindings ds).rawR1 ++ (dependenciesFindings ds).rawR2, Known x := by
  induction ds with
  | nil => simp [dependenciesFindings]
  | cons d ds ih =>
    intro x hx
    have hd := oneDependency_known (d := d) x
    have := ih x
    simp only [dependenciesFindings, Findings.rawR1_append, Findings.rawR2_append,
      List.mem_append] at *
    grind

lemma dependencies_high {ds : List DependencyRef} :
    ∀ x ∈ (dependenciesFindings ds).rawR2, hasPrefix "F08_HIGH" x = false := by
  induction ds with
  | nil => simp [dependenciesFindings]
  | cons d ds ih =>
    intro x hx
    simp only [dependenciesFindings, Findings.rawR2_append, List.mem_append] at hx
    obtain hx | hx := hx
    · unfold oneDependency at hx
      split at hx
      · cases hx
      · cases hx
      · split at hx
        · cases hx
        · cases List.mem_singleton.mp hx
          rw [hasPrefix_append (by decide)]
          decide
    · exact ih x hx

/-! ### The accumulators together -/

/-- When the fact blocks do not stop, and what they return. -/
lemma collectFindings_eq_ok {priorId f} : collectFindings s c priorId = .ok f ↔
    ∃ d, divergenceFindings s c = .ok d ∧
      (s.capabilities.map CapabilityFact.capabilityId).Nodup ∧
      factFindings s c priorId d (capabilityBody s) ++
        aggregateFindings s (factFindings s c priorId d (capabilityBody s)) = f := by
  simp [collectFindings, capabilityFindings]

/-- The R1 predicates come from scope, exclusions, capabilities and dependencies. -/
lemma collect_rawR1 {priorId f} (e : collectFindings s c priorId = .ok f) :
    f.rawR1 = (scopeFindings s).rawR1 ++ (exclusionFindings s).rawR1 ++
      (capabilityBody s).rawR1 ++ (dependencyFindings s).rawR1 := by
  obtain ⟨d, hd, -, rfl⟩ := collectFindings_eq_ok.mp e
  simp [factFindings, aggregateFindings, (divergence_raw hd).1, bindFindings, retrievalFindings,
    identityFindings, conflictFindings, evidenceFindings]

/-- The R2 predicates come from all blocks but the binding, the exclusions and the aggregate. -/
lemma collect_rawR2 {priorId f} (e : collectFindings s c priorId = .ok f) :
    f.rawR2 = (scopeFindings s).rawR2 ++ (retrievalFindings s c).rawR2 ++
      (identityFindings s c).rawR2 ++ (conflictFindings s c).rawR2 ++ (evidenceFindings s).rawR2 ++
      (divergenceBody s c).rawR2 ++ (capabilityBody s).rawR2 ++ (dependencyFindings s).rawR2 := by
  obtain ⟨d, hd, -, rfl⟩ := collectFindings_eq_ok.mp e
  simp [factFindings, aggregateFindings, (divergence_raw hd).2.1, bindFindings, exclusionFindings]

/-- The R3 predicates come from the dependencies. -/
lemma collect_rawR3 {priorId f} (e : collectFindings s c priorId = .ok f) :
    f.rawR3 = (dependencyFindings s).rawR3 := by
  obtain ⟨d, hd, -, rfl⟩ := collectFindings_eq_ok.mp e
  simp [factFindings, aggregateFindings, (divergence_raw hd).2.2, bindFindings, scope_rawR3,
    exclusionFindings, retrievalFindings, identityFindings, conflictFindings, evidenceFindings,
    capabilityBody]

/-- Findings are collected of distinct capabilities only. -/
lemma collect_nodup {priorId f} (e : collectFindings s c priorId = .ok f) :
    (s.capabilities.map CapabilityFact.capabilityId).Nodup := by
  obtain ⟨_, _, nd, _⟩ := collectFindings_eq_ok.mp e
  exact nd

/-- R1 has no predicate exactly when nothing forbids the action. -/
lemma collect_forbidden {priorId f} (e : collectFindings s c priorId = .ok f) :
    f.rawR1 = [] ↔ ¬Forbidden s := by
  simp only [collect_rawR1 e, List.append_eq_nil_iff, scope_rawR1, exclusion_rawR1,
    capability_rawR1 (collect_nodup e), dependencyFindings, dependencies_rawR1, sortedDependencies,
    mem_sortedBy, Forbidden]
  grind

/-- When nothing forbids the action, R2 has no predicate exactly when nothing is undecided. -/
lemma collect_unsettled {priorId f} (h : c.isPinned) (fin : FiniteDivergence s)
    (e : collectFindings s c priorId = .ok f) (hf : ¬Forbidden s) :
    f.rawR2 = [] ↔ ¬Unsettled s := by
  have hd : ¬∃ rule, Rules s .deny rule := fun hr => hf (.inl hr)
  simp only [collect_rawR2 e, List.append_eq_nil_iff, scope_rawR2 hd, retrieval_rawR2,
    identity_rawR2 h, conflict_rawR2 h, evidence_rawR2, divergence_rawR2 h fin,
    capability_rawR2 (collect_nodup e), dependencyFindings, dependencies_rawR2, sortedDependencies,
    mem_sortedBy, Unsettled]
  grind

/-- The high-divergence predicate is among those of R2 exactly when an approval diverged. -/
lemma collect_high {priorId f} (h : c.isPinned) (fin : FiniteDivergence s)
    (e : collectFindings s c priorId = .ok f) :
    f.rawR2.any (hasPrefix "F08_HIGH") = true ↔ HighDivergence s := by
  rw [← divergence_high h fin, collect_rawR2 e, List.any_eq_true]
  simp only [List.mem_append]
  constructor
  · rintro ⟨x, hx, hp⟩
    obtain ((((((hx | hx) | hx) | hx) | hx) | hx) | hx) | hx := hx
    · simp [scope_high x hx] at hp
    · simp [retrieval_high x hx] at hp
    · simp [identity_high x hx] at hp
    · simp [conflict_high x hx] at hp
    · simp [evidence_high x hx] at hp
    · exact ⟨x, hx, hp⟩
    · simp [capability_high x hx] at hp
    · simp [dependencies_high x hx] at hp
  · rintro ⟨x, hx, hp⟩
    exact ⟨x, by simp [hx], hp⟩

/-- Every predicate of R1 and R2 names a rule. -/
lemma collect_known {priorId f} (e : collectFindings s c priorId = .ok f) :
    ∀ x ∈ f.rawR1 ++ f.rawR2, Known x := by
  intro x hx
  simp only [collect_rawR1 e, collect_rawR2 e, List.mem_append] at hx
  have h₁ := scope_known (s := s) x
  have h₂ := exclusion_known (s := s) x
  have h₃ := retrieval_known (s := s) (c := c) x
  have h₄ := identity_known (s := s) (c := c) x
  have h₅ := conflict_known (s := s) (c := c) x
  have h₆ := evidence_known (s := s) x
  have h₇ := divergence_known (s := s) (c := c) x
  have h₈ := capability_known (s := s) x
  have h₉ := dependencies_known (sortedDependencies s) x
  simp only [List.mem_append] at h₁ h₈ h₉
  simp only [dependencyFindings] at hx
  grind

omit [Platform] in
/-- All required capabilities being TRUE, the check says so. -/
lemma capabilitiesTrue_of {ids : List String} (h : ∀ id ∈ ids, capabilityState s id = some .true) :
    capabilitiesTrue s ids = .ok true := by
  induction ids with
  | nil => rfl
  | cons id ids ih =>
    simp only [capabilitiesTrue, h id (by simp)]
    exact ih fun id hid => h id (by simp [hid])

/-- The R4 branch is taken when no predicate was triggered. -/
lemma yesBranch_of {priorId f} (h : c.isPinned) (fin : FiniteDivergence s)
    (e : collectFindings s c priorId = .ok f) (hf : ¬Forbidden s) (hu : ¬Unsettled s)
    (hc : ¬Conditional s) : yesBranch s c = .ok true := by
  simp only [Unsettled, not_or, not_not] at hu
  obtain ⟨allow, -, approved, -, evidence, consequence, divergence, capability, -⟩ := hu
  -- what is left of a capability that is neither missing, false nor unresolved
  have hcap : ∀ id ∈ requiredCapabilityIds s, capabilityState s id = some .true := by
    intro id hid
    have hr := mem_requiredCapabilityIds.mp hid
    cases hs : capabilityState s id with
    | none => exact absurd ⟨id, hr, .inl (capabilityState_none.mp hs)⟩ capability
    | some state =>
      have hi := (capabilityState_some (collect_nodup e)).mp hs
      cases state with
      | true => rfl
      | false => exact absurd (.inr (.inr (.inl ⟨id, hr, hi⟩))) hf
      | unresolved => exact absurd ⟨id, hr, .inr hi⟩ capability
  have hdep : ∀ d ∈ s.dependencies, d.state = .true := by
    intro d hd
    cases hs : d.state with
    | true => rfl
    | false => exact absurd (.inr (.inr (.inr ⟨d, hd, hs⟩))) hf
    | unresolved => exact absurd ⟨d, hd, hs⟩ hc
  -- the five conditions of R4, each against its clause of unsettled
  have hyes : yesConditions s c = true := by
    have h₁ : allowRules s ≠ [] := fun hn => allowRules_eq_nil.mp hn allow
    have h₂ : approvedPrecedents s c ≠ [] := fun hn => (approvedPrecedents_eq_nil h).mp hn approved
    have h₃ : ∀ r ∈ requirements s, satisfied s r = true := by
      intro r hr
      obtain ⟨rule, hrule, hr⟩ := mem_requirements.mp hr
      rw [satisfied_iff]
      by_contra hn
      exact evidence ⟨rule, hrule, r, hr, hn⟩
    have h₄ : consequenceRequired s c = true →
        ∀ p ∈ approvedPrecedents s c, p.consequenceRefs ≠ [] := by
      intro hreq p hp hn
      exact consequence ⟨(consequenceRequired_iff h).mp hreq, p, (mem_approvedPrecedents h).mp hp, hn⟩
    have h₅ : ∀ p ∈ approvedPrecedents s c, ∀ r ∈ p.consequenceRefs,
        r.divergence.lt c.divergenceThreshold = true := by
      intro p hp r hr
      have hp := (mem_approvedPrecedents h).mp hp
      rw [h.divergence_lt (fin p hp.1.1 r hr), h.divergence]
      exact fun hv => divergence ⟨p, hp, r, hr, hv.2⟩
    simp only [yesConditions, Bool.and_eq_true, List.all_eq_true, Bool.or_eq_true,
      Bool.not_eq_true', List.isEmpty_eq_false_iff]
    refine ⟨⟨⟨⟨h₁, h₂⟩, h₃⟩, ?_⟩, h₅⟩
    cases hreq : consequenceRequired s c with
    | false => exact .inl rfl
    | true => exact .inr (h₄ hreq)
  have hall : ((sortedDependencies s).all fun d => d.state == .true) = true := by
    simpa [sortedDependencies] using hdep
  simp [yesBranch, hyes, capabilitiesTrue_of hcap, hall]

/-- The reducer is total on the findings, and its outcome is the declared one. -/
lemma reduce_outcome {priorId f} (h : c.isPinned) (fin : FiniteDivergence s)
    (e : collectFindings s c priorId = .ok f) :
    ∃ r, reduceFindings s c f = .ok r ∧ (r.verdict, r.risk) = declaredOutcome s := by
  have known := collect_known e
  unfold reduceFindings declaredOutcome
  by_cases hf : Forbidden s
  · have h₁ : f.rawR1 ≠ [] := fun hn => (collect_forbidden e).mp hn hf
    obtain ⟨rules, hr⟩ := mapAll_ok fun x hx => known x (List.mem_append_left _ hx)
    rw [if_pos h₁, if_pos hf]
    exact ⟨_, by simp only [hr, ok_bind, pure_eq_ok]; rfl, rfl⟩
  have h₁ : f.rawR1 = [] := (collect_forbidden e).mpr hf
  rw [if_neg (by simp [h₁]), if_neg hf]
  by_cases hu : Unsettled s
  · have h₂ : f.rawR2 ≠ [] := fun hn => (collect_unsettled h fin e hf).mp hn hu
    obtain ⟨rules, hr⟩ := mapAll_ok fun x hx => known x (List.mem_append_right _ hx)
    rw [if_pos h₂, if_pos hu]
    refine ⟨_, by simp only [hr, ok_bind, pure_eq_ok]; rfl, ?_⟩
    classical exact congrArg (Prod.mk _) (if_congr (collect_high h fin e) rfl rfl)
  have h₂ : f.rawR2 = [] := (collect_unsettled h fin e hf).mpr hu
  rw [if_neg (by simp [h₂]), if_neg hu]
  have complete : ∀ d ∈ s.dependencies, d.state = .unresolved → completeFormula d = true := by
    intro d hd hs
    by_contra hn
    refine hu ?_
    simp only [Unsettled]
    exact .inr (.inr (.inr (.inr (.inr (.inr (.inr (.inr ⟨d, hd, hs, by simpa using hn⟩)))))))
  have h₃ : f.rawR3 = [] ↔ ¬Conditional s := by
    simp only [collect_rawR3 e, dependencyFindings, dependencies_rawR3, sortedDependencies,
      mem_sortedBy, Conditional]
    grind
  by_cases hc : Conditional s
  · rw [if_pos (fun hn => h₃.mp hn hc), if_pos hc]
    exact ⟨_, rfl, rfl⟩
  · rw [if_neg (by simp [h₃, hc]), if_neg hc]
    exact ⟨_, by simp only [yesBranch_of h fin e hf hu hc, ok_bind, if_true, pure_eq_ok]; rfl, rfl⟩

end

/-! ### Canonical order does not matter -/

section
variable {s : EvaluationSnapshot}

/-- The canonical snapshot's rules are the canonical forms of the rules. -/
lemma rules_canonical {effect : PolicyEffect} {rule : PolicyRule} :
    Rules (canonicalSnapshot s) effect rule ↔
      ∃ rule', Rules s effect rule' ∧ canonicalRule rule' = rule := by
  simp only [Rules, canonicalSnapshot, canonicalRules, List.mem_map, mem_sortedBy]
  constructor
  · rintro ⟨⟨rule', h, rfl⟩, h'⟩
    exact ⟨rule', ⟨h, h'⟩, rfl⟩
  · rintro ⟨rule', ⟨h, h'⟩, rfl⟩
    exact ⟨⟨rule', h, rfl⟩, h'⟩

/-- The canonical snapshot's precedents are the canonical forms of the precedents. -/
lemma mem_precedents_canonical {p : PrecedentRef} :
    p ∈ (canonicalSnapshot s).precedents ↔ ∃ p' ∈ s.precedents, canonicalPrecedent p' = p := by
  simp [canonicalSnapshot, sortedPrecedents]

/-- A canonical precedent qualifies where its origin does. -/
lemma qualifies_canonical {p : PrecedentRef} : Qualifies (canonicalSnapshot s) p ↔
    ∃ p', Qualifies s p' ∧ canonicalPrecedent p' = p := by
  simp only [Qualifies, mem_precedents_canonical]
  constructor
  · rintro ⟨⟨p', h, rfl⟩, h'⟩
    exact ⟨p', ⟨h, h'⟩, rfl⟩
  · rintro ⟨p', ⟨h, h'⟩, rfl⟩
    exact ⟨⟨p', h, rfl⟩, h'⟩

/-- A canonical precedent is approved where its origin is. -/
lemma approved_canonical {p : PrecedentRef} : Approved (canonicalSnapshot s) p ↔
    ∃ p', Approved s p' ∧ canonicalPrecedent p' = p := by
  simp only [Approved, qualifies_canonical]
  constructor
  · rintro ⟨⟨p', h, rfl⟩, h'⟩
    exact ⟨p', ⟨h, h'⟩, rfl⟩
  · rintro ⟨p', ⟨h, h'⟩, rfl⟩
    exact ⟨⟨p', h, rfl⟩, h'⟩

/-- The canonical snapshot requires the same capabilities. -/
lemma requires_canonical {id : String} : Requires (canonicalSnapshot s) id ↔ Requires s id := by
  simp [Requires, rules_canonical, canonicalRule]

/-- The canonical snapshot lists the same states. -/
lemma capabilityIs_canonical {id : String} {state : DependencyState} :
    CapabilityIs (canonicalSnapshot s) id state ↔ CapabilityIs s id state := by
  simp [CapabilityIs, canonicalSnapshot]

/-- The canonical snapshot has the same evidence satisfied. -/
lemma satisfied_canonical {kind : String} :
    Satisfied (canonicalSnapshot s) kind ↔ Satisfied s kind := by
  simp [Satisfied, evidenceByKind, canonicalSnapshot]

/-- The canonical snapshot forbids what the snapshot does. -/
lemma forbidden_canonical : Forbidden (canonicalSnapshot s) ↔ Forbidden s := by
  simp only [Forbidden, requires_canonical, capabilityIs_canonical, rules_canonical]
  simp [canonicalSnapshot, sortedExclusions, SameKeys]

/-- The canonical snapshot diverges where the snapshot does. -/
lemma highDivergence_canonical : HighDivergence (canonicalSnapshot s) ↔ HighDivergence s := by
  simp [HighDivergence, approved_canonical, canonicalPrecedent]

/-- The canonical snapshot is unsettled where the snapshot is. -/
lemma unsettled_canonical : Unsettled (canonicalSnapshot s) ↔ Unsettled s := by
  simp only [Unsettled, highDivergence_canonical, requires_canonical, capabilityIs_canonical,
    satisfied_canonical, rules_canonical, approved_canonical, qualifies_canonical,
    mem_precedents_canonical]
  have nil (p : PrecedentRef) :
      (canonicalPrecedent p).consequenceRefs = [] ↔ p.consequenceRefs = [] := by
    rw [← List.length_eq_zero_iff, ← List.length_eq_zero_iff]
    simp [canonicalPrecedent]
  simp [canonicalSnapshot, canonicalRule, nil]
  simp [canonicalPrecedent]

/-- The canonical snapshot is conditional where the snapshot is. -/
lemma conditional_canonical : Conditional (canonicalSnapshot s) ↔ Conditional s := by
  simp [Conditional, canonicalSnapshot]

/-- The canonical snapshot has the declared outcome of the snapshot. -/
lemma declaredOutcome_canonical : declaredOutcome (canonicalSnapshot s) = declaredOutcome s := by
  unfold declaredOutcome
  rw [propext forbidden_canonical, propext unsettled_canonical, propext highDivergence_canonical,
    propext conditional_canonical]

end

/-! ### The evaluator -/

section
variable [Platform] {s : EvaluationSnapshot} {c : RuleConfig}

/-- Both admission paths recompute the digest of the snapshot. -/
lemma admitSnapshot_digest {u} (h : admitSnapshot s = .ok u) :
    snapshotDigest s = .ok s.snapshotDigest := by
  unfold admitSnapshot at h
  split at h
  · rename_i s' hv
    simp only [validateSnapshot, bind_eq_ok, ensure_eq_ok, exists_unit, pure_eq_ok,
      Except.ok.injEq] at hv
    obtain ⟨-, -, -, -, -, -, -, digest, hd, he, -⟩ := hv
    rw [hd, he]
  · split at h
    · cases h
    · simp only [validateSnapshotWithExactReducers, bind_eq_ok, ensure_eq_ok, exists_unit] at h
      obtain ⟨digest, hd, he, -⟩ := h
      rw [hd, he]
  · cases h

/-- What admission gives the evaluation: the pinned configuration and finite divergences. -/
lemma admit_facts {priorId} (h : admission s c = .ok priorId) : c.isPinned ∧ FiniteDivergence s := by
  simp only [admission, validateInput, validateConfig, bind_eq_ok, ensure_eq_ok, exists_unit] at h
  obtain ⟨⟨⟨pinned, -⟩, hs, -⟩, -⟩ := h
  exact ⟨pinned, snapshotDigest_divergence (admitSnapshot_digest hs)⟩

/-- The code of a BLOCKED result is the one it was built with. -/
lemma blockedResult_code {code message priorId b} (h : blockedResult s c code message priorId = .ok b) :
    b.errorCode = code := by
  simp only [blockedResult, finalizeBlockedResult, validateBlockedResult, bind_eq_ok, pure_eq_ok,
    ensure_eq_ok, exists_unit, Except.ok.injEq] at h
  obtain ⟨_, -, _, -, -, -, -, -, -, _, -, -, rfl⟩ := h
  rfl

/-! ### Which stops are reached -/

/-- The codes of admission. -/
def admissionCodes : List String :=
  ["INVALID_RULE_CONFIG", "INVALID_SNAPSHOT", "INVALID_PRIOR_TRACE", "EMPTY_NORMALIZED_KEY",
    "ACTION_KEY_MISMATCH", "TARGET_KEY_MISMATCH", "CLASS_KEY_MISMATCH", "ACTION_DIGEST_MISMATCH",
    "PROPOSAL_DIGEST_MISMATCH", "POLICY_DIGEST_MISMATCH", "INVALID_POLICY", "INVALID_PROFILE",
    "PRECEDENT_LIMIT_EXCEEDED", "INVALID_EXCLUSION", "DEPENDENCY_SNAPSHOT_MISMATCH",
    "PRIOR_BINDING_MISMATCH"]

/-- The codes of the fact blocks and the trace. -/
def evaluationCodes : List String :=
  ["INVALID_CONSEQUENCE", "DUPLICATE_CAPABILITY", "TRACE_LIMIT_EXCEEDED"]

/-- A digest is taken or the run stopped. -/
lemma digest_raises {v : Value} {codes} : OnlyRaises (PyError.IsStop codes) (canonicalSha256 v) :=
  canonicalSha256_raises.mono fun _ => PyError.IsTraceError.isStop

/-- The codes of admission other than the limit on the precedents. -/
def bindingCodes : List String :=
  ["INVALID_RULE_CONFIG", "INVALID_SNAPSHOT", "INVALID_PRIOR_TRACE", "EMPTY_NORMALIZED_KEY",
    "ACTION_KEY_MISMATCH", "TARGET_KEY_MISMATCH", "CLASS_KEY_MISMATCH", "ACTION_DIGEST_MISMATCH",
    "PROPOSAL_DIGEST_MISMATCH", "POLICY_DIGEST_MISMATCH", "INVALID_POLICY", "INVALID_PROFILE",
    "INVALID_EXCLUSION", "DEPENDENCY_SNAPSHOT_MISMATCH", "PRIOR_BINDING_MISMATCH"]

section
variable {codes : List String}

omit [Platform] in
/-- The ordinals are accepted or the run stopped. -/
lemma validateOrdinals_raises (h : ∀ code ∈ bindingCodes, code ∈ codes)
    {evaluationId ordinal steps} :
    OnlyRaises (PyError.IsStop codes) (validateOrdinals evaluationId ordinal steps) := by
  induction steps generalizing ordinal with
  | nil => simp [validateOrdinals]
  | cons step steps ih =>
    simp only [validateOrdinals, onlyRaises_bind, onlyRaises_ensure, ih, implies_true, and_true]
    simp only [bindingCodes, List.forall_mem_cons] at h
    refine ⟨makeStepId_raises.trace.mono fun _ => PyError.IsTraceError.isStop, ?_⟩
    simp [h]

/-- A snapshot is admitted or the run stopped. -/
lemma admitSnapshot_raises (h : ∀ code ∈ bindingCodes, code ∈ codes) :
    OnlyRaises (PyError.IsStop codes) (admitSnapshot s) := by
  have ordinals {evaluationId ordinal steps} : OnlyRaises (PyError.IsStop codes)
      (validateOrdinals evaluationId ordinal steps) := validateOrdinals_raises h
  simp only [bindingCodes, List.forall_mem_cons] at h
  unfold admitSnapshot
  split
  · trivial
  · split
    · simp [stop, h]
    · simp only [validateSnapshotWithExactReducers, validateExactPrior, validateExactTrace,
        priorDigest, checkResultDigest, snapshotDigest, onlyRaises_bind, digest_raises,
        onlyRaises_checkSome, onlyRaises_ensure, ordinals]
      simp [h]
  · rename_i e _ h
    exact (validateSnapshot_raises.of_error h).isStop

/-- A key is accepted or the run stopped. -/
lemma checkKey_raises (h : ∀ code ∈ bindingCodes, code ∈ codes) {display key} (error : PyError)
    (own : error.IsStop codes) : OnlyRaises (PyError.IsStop codes) (checkKey display key error) := by
  simp only [bindingCodes, List.forall_mem_cons] at h
  unfold checkKey normalizeActionTargetKey
  dsimp only
  split
  · simp [stop, h]
  · simp only [onlyRaises_bind, onlyRaises_ok, onlyRaises_ensure, true_and]
    exact fun _ _ _ => own

/-- Admission has its own stops, the one on the precedents only beyond their limit. -/
lemma admit_raises (h : ∀ code ∈ bindingCodes, code ∈ codes)
    (limit : ¬ s.precedents.length ≤ c.precedentTopK → "PRECEDENT_LIMIT_EXCEEDED" ∈ codes) :
    OnlyRaises (PyError.IsStop codes) (admission s c) := by
  have snapshot := admitSnapshot_raises h (s := s)
  have key {display key} (error : PyError) (own : error.IsStop codes) :
      OnlyRaises (PyError.IsStop codes) (checkKey display key error) := checkKey_raises h error own
  simp only [bindingCodes, List.forall_mem_cons] at h
  have exclusions : OnlyRaises (PyError.IsStop codes) (forAll checkExclusion s.exclusions) := by
    refine onlyRaises_forAll fun e _ => ?_
    have binding := show (PyError.blocked "INVALID_EXCLUSION"
      "exclusion identity binding is invalid").IsStop codes by simp [h]
    simp only [checkExclusion, onlyRaises_bind, key _ binding, onlyRaises_ensure, binding,
      implies_true, and_true]
  have actionKey := show (PyError.blocked "ACTION_KEY_MISMATCH"
    "action type key does not match display value").IsStop codes by simp [h]
  have targetKey := show (PyError.blocked "TARGET_KEY_MISMATCH"
    "target key does not match display value").IsStop codes by simp [h]
  simp only [admission, validateInput, validateConfig, checkBindings, computeRuleConfigDigest,
    proposalActionDigest, proposalRecordDigest, policyInputDigest, onlyRaises_bind,
    onlyRaises_ensure, digest_raises, snapshot, exclusions, true_and, key _ actionKey,
    key _ targetKey]
  rw [not_le] at limit
  refine ⟨by simp +contextual [h, limit], fun _ _ => ?_⟩
  unfold bindPrior
  split
  · trivial
  · simp [h]

end

/-- Admission has its own stops. -/
lemma admission_raises : OnlyRaises (PyError.IsStop admissionCodes) (admission s c) :=
  admit_raises (by decide) fun _ => by decide

omit [Platform] in
/-- Building a trace raises what its step identifiers raise. -/
lemma buildTrace_raises {f r} : OnlyRaises PyError.IsCheckError (buildTrace s f r) := by
  have steps (o l) : OnlyRaises PyError.IsCheckError (buildOperatorSteps s.evaluationId o l) := by
    induction l generalizing o with
    | nil => simp [buildOperatorSteps]
    | cons item items ih => simp [buildOperatorSteps, makeStepId_raises, ih]
  simp [buildTrace, makeStepId_raises, steps]

/-- The evaluation of an admitted snapshot stops in F08, in F09 or on the length of the trace; the
reducer does not stop. -/
lemma evaluateAdmitted_raises {priorId} (h : c.isPinned) (fin : FiniteDivergence s) :
    OnlyRaises (PyError.IsStop evaluationCodes) (evaluateAdmitted s c priorId) := by
  simp only [evaluateAdmitted, onlyRaises_bind]
  refine ⟨?_, fun f e => ?_⟩
  · simp only [collectFindings, divergenceFindings, capabilityFindings, onlyRaises_bind]
    split <;> simp [evaluationCodes]
  obtain ⟨r, hr, -⟩ := reduce_outcome h fin e
  have changed (t gaps) : OnlyRaises (PyError.IsStop evaluationCodes) (changedFactIds t gaps s) :=
    changedFactIds_raises.mono fun _ => PyError.IsLookup.isStop
  have built (r) : OnlyRaises (PyError.IsStop evaluationCodes) (buildTrace s f r) :=
    buildTrace_raises.trace.mono fun _ => PyError.IsTraceError.isStop
  simp only [hr, onlyRaises_ok, onlyRaises_ensure, built, changed, checkResultDigest,
    digest_raises, true_and]
  simp [evaluationCodes]

/-! ### The result -/

/-- The handlers return no finalized result. -/
lemma handle_ne_check {priorId e r} : handle s c priorId e ≠ .ok (.check r) := by
  cases e <;> simp [handle]

/-- A finalized result is that of the admitted snapshot. -/
lemma evaluateCanonical_check {r} : evaluateCanonical s c = .ok (.check r) ↔
    ∃ priorId, admission s c = .ok priorId ∧ evaluateAdmitted s c priorId = .ok r := by
  unfold evaluateCanonical
  split
  · rename_i e h
    simp [h, handle_ne_check]
  · rename_i priorId h
    simp only [h, Except.ok.injEq, exists_eq_left']
    split
    · rename_i e he
      simp [he, handle_ne_check]
    · rename_i r' hr
      simp [hr]

/-- The code of a BLOCKED result is that of the stop, or the internal one. -/
lemma handle_blocked {priorId e b} (h : handle s c priorId e = .ok (.blocked b)) :
    (∃ code message, e = .blocked code message ∧ b.errorCode = code) ∨
      b.errorCode = "INTERNAL_EVALUATOR_ERROR" := by
  cases e with
  | blocked code message =>
    simp only [handle, map_eq_ok, EvaluationResult.blocked.injEq, exists_eq_right] at h
    exact .inl ⟨code, message, rfl, blockedResult_code h⟩
  | contractViolation | integrity | conflict | embedding | valueError | typeError | keyError =>
    simp only [handle, map_eq_ok, EvaluationResult.blocked.injEq, exists_eq_right] at h
    exact .inr (blockedResult_code h)
  | attributeError | arithmeticError | executionBlocked | cliBlocked | sqlError => simp [handle] at h

/-- The code of a BLOCKED result is one of the stops, or the internal one. -/
lemma evaluateCanonical_blocked {codes} (own : ∀ code ∈ bindingCodes, code ∈ codes)
    (limit : ¬ s.precedents.length ≤ c.precedentTopK → "PRECEDENT_LIMIT_EXCEEDED" ∈ codes) {b}
    (h : evaluateCanonical s c = .ok (.blocked b)) :
    b.errorCode ∈ codes ++ evaluationCodes ++ ["INTERNAL_EVALUATOR_ERROR"] := by
  unfold evaluateCanonical at h
  split at h
  · rename_i e ha
    obtain ⟨code, message, rfl, hb⟩ | hb := handle_blocked h
    · have : code ∈ codes := ((admit_raises own limit).of_error ha).1
      simp [hb, this]
    · simp [hb]
  · rename_i priorId ha
    obtain ⟨pinned, fin⟩ := admit_facts ha
    split at h
    · rename_i e he
      obtain ⟨code, message, rfl, hb⟩ | hb := handle_blocked h
      · have : code ∈ evaluationCodes := ((evaluateAdmitted_raises pinned fin).of_error he).1
        simp [hb, this]
      · simp [hb]
    · cases h

/-- Every stop of admission is one of its codes. -/
lemma evaluateCanonical_codes {b} (h : evaluateCanonical s c = .ok (.blocked b)) :
    b.errorCode ∈ admissionCodes ++ evaluationCodes ++ ["INTERNAL_EVALUATOR_ERROR"] :=
  evaluateCanonical_blocked (by decide) (fun _ => by decide) h

/-- A configuration that is not pinned is refused for itself. -/
lemma evaluateCanonical_unpinned {b} (unpinned : ¬ c.isPinned)
    (h : evaluateCanonical s c = .ok (.blocked b)) : b.errorCode = "INVALID_RULE_CONFIG" := by
  have refused : admission s c = .error
      (.blocked "INVALID_RULE_CONFIG" "rule configuration is not the pinned contract") := by
    simp only [admission, validateInput, validateConfig, ensure_neg unpinned, error_bind]
  rw [evaluateCanonical, refused] at h
  simp only [handle, map_eq_ok, EvaluationResult.blocked.injEq, exists_eq_right] at h
  exact blockedResult_code h

/-- With at most five precedents no result is blocked for their number. -/
lemma evaluateProposal_within {b} (within : s.precedents.length ≤ 5)
    (h : evaluateProposal s c = .ok (.blocked b)) : b.errorCode ≠ "PRECEDENT_LIMIT_EXCEEDED" := by
  intro e
  by_cases pinned : c.isPinned
  · have same : (canonicalSnapshot s).precedents.length = s.precedents.length := by
      rw [canonicalSnapshot, List.length_map, sortedPrecedents, length_sortedBy]
    have limit : c.precedentTopK = 5 := pinned.2.2.2.1
    have code := evaluateCanonical_blocked (fun code (h : code ∈ bindingCodes) => h)
      (fun beyond => absurd (limit ▸ same ▸ within) beyond) h
    rw [e] at code
    exact absurd code (by decide)
  · rw [evaluateCanonical_unpinned pinned h] at e
    exact absurd e (by decide)

/-- A finalized result has the outcome of the reduction. -/
lemma evaluateAdmitted_outcome {priorId r} (h : c.isPinned) (fin : FiniteDivergence s)
    (e : evaluateAdmitted s c priorId = .ok r) : (r.verdict, r.risk) = declaredOutcome s := by
  simp only [evaluateAdmitted, bind_eq_ok, pure_eq_ok, Except.ok.injEq] at e
  obtain ⟨f, hf, red, hr, _, -, t, -, changed, -, digest, -, rfl⟩ := e
  obtain ⟨red', hr', ho⟩ := reduce_outcome h fin hf
  cases hr.symm.trans hr'
  exact ho

/-- A finalized result has the declared outcome. -/
lemma evaluateProposal_declared {r : CheckResult} (h : evaluateProposal s c = .ok (.check r)) :
    (r.verdict, r.risk) = declaredOutcome s := by
  obtain ⟨priorId, ha, he⟩ := evaluateCanonical_check.mp h
  obtain ⟨pinned, fin⟩ := admit_facts ha
  rw [← declaredOutcome_canonical]
  exact evaluateAdmitted_outcome pinned fin he

/-- The evaluator agrees with the declared outcome. On every admitted snapshot whose fact blocks do
not stop the reducer is total and decides the declared verdict and risk; hence every finalized
result has them, and no BLOCKED result says that the reducer reached no branch. -/
theorem evaluate_outcome (s : EvaluationSnapshot) (c : RuleConfig) :
    (∀ priorId f, admission (canonicalSnapshot s) c = .ok priorId →
      collectFindings (canonicalSnapshot s) c priorId = .ok f →
      ∃ r, reduceFindings (canonicalSnapshot s) c f = .ok r ∧
        (r.verdict, r.risk) = declaredOutcome s) ∧
    (∀ r, evaluateProposal s c = .ok (.check r) → (r.verdict, r.risk) = declaredOutcome s) ∧
    (∀ b, evaluateProposal s c = .ok (.blocked b) → b.errorCode ≠ "REDUCER_NON_TOTAL") := by
  refine ⟨fun priorId f ha e => ?_, fun r hr => evaluateProposal_declared hr, fun b hb hn => ?_⟩
  · obtain ⟨pinned, fin⟩ := admit_facts ha
    rw [← declaredOutcome_canonical]
    exact reduce_outcome pinned fin e
  · have hmem := evaluateCanonical_codes hb
    rw [hn] at hmem
    exact absurd hmem (by decide)

end

end GAM
