import GAM.Governance.Strictness

/-!
# The order of the input

The collections of a snapshot are sets that are written as tuples: the evaluator orders each by a key
before it looks at it. So a snapshot whose collections, and the collections inside their members, are
written in another order gets the same outcome, provided the key of each collection tells its members
apart.
-/

namespace GAM
open Lib

/-- One list is the other in another order, its members changed by a relation. -/
def PermutedBy {α : Type} (R : α → α → Prop) (l l' : List α) : Prop :=
  ∃ mid, l.Perm mid ∧ List.Forall₂ R mid l'

/-- A map that does not see the change makes permutations of permuted lists. -/
lemma PermutedBy.map {α β : Type} {R : α → α → Prop} {l l' : List α} {f : α → β}
    (h : PermutedBy R l l') (same : ∀ a ∈ l, ∀ b, R a b → f a = f b) :
    (l.map f).Perm (l'.map f) := by
  obtain ⟨mid, p, h⟩ := h
  have images : mid.map f = l'.map f := by
    have same : ∀ a ∈ mid, ∀ b, R a b → f a = f b := fun a ha => same a (p.mem_iff.mpr ha)
    clear p
    induction h with
    | nil => rfl
    | @cons a b mid l' hr _ ih =>
      rw [List.map_cons, List.map_cons, same a List.mem_cons_self b hr,
        ih fun a ha => same a (List.mem_cons_of_mem _ ha)]
  rw [← images]
  exact p.map f

/-- A rule with its requirements in another order. -/
structure RulePermuted (r r' : PolicyRule) : Prop where
  evidence : r.requiredEvidence.Perm r'.requiredEvidence
  capabilities : r.requiredCapabilityIds.Perm r'.requiredCapabilityIds
  rest : r' = { r with
    requiredEvidence := r'.requiredEvidence, requiredCapabilityIds := r'.requiredCapabilityIds }

/-- A precedent with its consequences in another order. -/
structure PrecedentPermuted (p p' : PrecedentRef) : Prop where
  consequences : p.consequenceRefs.Perm p'.consequenceRefs
  rest : p' = { p with consequenceRefs := p'.consequenceRefs }

/-- A snapshot with its collections in another order. -/
structure Reordered (s s' : EvaluationSnapshot) : Prop where
  evidenceRefs : s.proposal.evidenceRefs.Perm s'.proposal.evidenceRefs
  proposalDependencies : s.proposal.dependencies.Perm s'.proposal.dependencies
  rules : PermutedBy RulePermuted s.policy.rules s'.policy.rules
  precedents : PermutedBy PrecedentPermuted s.precedents s'.precedents
  exclusions : s.exclusions.Perm s'.exclusions
  capabilities : s.capabilities.Perm s'.capabilities
  dependencies : s.dependencies.Perm s'.dependencies
  rest : s' = { s with
    proposal := { s.proposal with
      evidenceRefs := s'.proposal.evidenceRefs, dependencies := s'.proposal.dependencies }
    policy := { s.policy with rules := s'.policy.rules }
    precedents := s'.precedents
    exclusions := s'.exclusions
    capabilities := s'.capabilities
    dependencies := s'.dependencies }

/-- No two members of a collection have the same key. -/
structure DistinctKeys (s : EvaluationSnapshot) : Prop where
  evidenceRefs : (s.proposal.evidenceRefs.map EvidenceRef.refId).Nodup
  proposalDependencies : (s.proposal.dependencies.map DependencyRef.dependencyId).Nodup
  rules : (s.policy.rules.map PolicyRule.ruleId).Nodup
  requirements : ∀ r ∈ s.policy.rules,
    (r.requiredEvidence.map EvidenceRequirement.requirementId).Nodup
  precedents : (s.precedents.map fun p => toLex (p.proposalId, p.evaluationId)).Nodup
  consequences : ∀ p ∈ s.precedents,
    (p.consequenceRefs.map fun r => toLex (r.receiptId, r.consequenceId)).Nodup
  exclusions : (s.exclusions.map fun e =>
    toLex (e.actionTypeKey, toLex (e.targetKey, e.exclusionId))).Nodup
  capabilities : (s.capabilities.map CapabilityFact.capabilityId).Nodup
  dependencies : (s.dependencies.map DependencyRef.dependencyId).Nodup

/-- Two orders of a collection with distinct keys are sorted to one list. -/
lemma sortedBy_reordered {α β : Type} [LinearOrder β] {key : α → β} {l l' : List α}
    (nd : (l.map key).Nodup) (p : l.Perm l') : sortedBy key l = sortedBy key l' := by
  apply sortedBy_eq_of_perm p
  intro a ha b hb e
  exact List.inj_on_of_nodup_map nd ha hb e

/-- The canonical form of a rule does not depend on the order of its requirements. -/
lemma RulePermuted.canonical {r r' : PolicyRule} (h : RulePermuted r r')
    (nd : (r.requiredEvidence.map EvidenceRequirement.requirementId).Nodup) :
    canonicalRule r = canonicalRule r' := by
  have evidence := sortedBy_reordered nd h.evidence
  have capabilities : sortedBy id r.requiredCapabilityIds.dedup =
      sortedBy id r'.requiredCapabilityIds.dedup := by
    apply sortedBy_eq_of_perm h.capabilities.dedup
    exact fun a _ b _ e => e
  rw [h.rest]
  simp only [canonicalRule, evidence, capabilities]

/-- The canonical form of a precedent does not depend on the order of its consequences. -/
lemma PrecedentPermuted.canonical {p p' : PrecedentRef} (h : PrecedentPermuted p p')
    (nd : (p.consequenceRefs.map fun r => toLex (r.receiptId, r.consequenceId)).Nodup) :
    canonicalPrecedent p = canonicalPrecedent p' := by
  rw [h.rest]
  simp only [canonicalPrecedent, sortedBy_reordered nd h.consequences]

/-- The canonical form of a snapshot does not depend on the order of its collections. -/
lemma Reordered.canonical {s s' : EvaluationSnapshot} (h : Reordered s s') (nd : DistinctKeys s) :
    canonicalSnapshot s = canonicalSnapshot s' := by
  have rules : canonicalRules s.policy.rules = canonicalRules s'.policy.rules := by
    apply map_sortedBy_eq canonicalRule (fun _ => rfl) nd.rules
    apply h.rules.map
    exact fun r hr r' p => p.canonical (nd.requirements r hr)
  have precedents : (sortedPrecedents s.precedents).map canonicalPrecedent =
      (sortedPrecedents s'.precedents).map canonicalPrecedent := by
    apply map_sortedBy_eq canonicalPrecedent (fun _ => rfl) nd.precedents
    apply h.precedents.map
    exact fun p hp p' q => q.canonical (nd.consequences p hp)
  have exclusions : sortedExclusions s.exclusions = sortedExclusions s'.exclusions :=
    sortedBy_reordered nd.exclusions h.exclusions
  rw [h.rest]
  simp only [canonicalSnapshot, rules, precedents, exclusions,
    sortedBy_reordered nd.evidenceRefs h.evidenceRefs,
    sortedBy_reordered nd.proposalDependencies h.proposalDependencies,
    sortedBy_reordered nd.capabilities h.capabilities,
    sortedBy_reordered nd.dependencies h.dependencies]

/-- The order of the input does not matter: a snapshot with its collections in another order has the
same outcome, whatever it is. -/
theorem evaluateProposal_reordered [Platform] {s s' : EvaluationSnapshot} (c : RuleConfig)
    (h : Reordered s s') (nd : DistinctKeys s) : evaluateProposal s' c = evaluateProposal s c := by
  rw [evaluateProposal, evaluateProposal, h.canonical nd]

/-- Capabilities in another order. -/
lemma reordered_capabilities (s : EvaluationSnapshot) {l l' : List CapabilityFact} (h : l.Perm l') :
    Reordered { s with capabilities := l } { s with capabilities := l' } where
  evidenceRefs := .refl _
  proposalDependencies := .refl _
  rules := ⟨_, .refl _, List.forall₂_same.mpr fun _ _ => ⟨.refl _, .refl _, rfl⟩⟩
  precedents := ⟨_, .refl _, List.forall₂_same.mpr fun _ _ => ⟨.refl _, rfl⟩⟩
  exclusions := .refl _
  capabilities := h
  dependencies := .refl _
  rest := rfl

/-- Two capabilities in the two orders. -/
theorem evaluateProposal_reordered_two :
    let _ := asciiPlatform
    let s := minimalSnapshot "first" (minimalProposal "proposal" "reason") none
    let a : CapabilityFact := ⟨"a", "subject", .true, zeroDigest, []⟩
    let b : CapabilityFact := ⟨"b", "subject", .false, zeroDigest, []⟩
    evaluateProposal { s with capabilities := [b, a] } pinnedConfig =
      evaluateProposal { s with capabilities := [a, b] } pinnedConfig := by
  intro _ s a b
  refine evaluateProposal_reordered pinnedConfig (reordered_capabilities s (.swap b a [])) ?_
  exact
    { evidenceRefs := List.nodup_nil
      proposalDependencies := List.nodup_nil
      rules := List.nodup_nil
      requirements := fun _ h => absurd h List.not_mem_nil
      precedents := List.nodup_nil
      consequences := fun _ h => absurd h List.not_mem_nil
      exclusions := List.nodup_nil
      capabilities := (by decide : ["a", "b"].Nodup)
      dependencies := List.nodup_nil }

end GAM
