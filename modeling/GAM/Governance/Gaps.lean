import GAM.Governance.Verdict

/-!
# Open questions

`OpenGap` says which questions a snapshot leaves open, by the existence of rules, precedents,
evidence, capabilities and dependencies with given properties; `mem_candidateGaps` is the agreement
with the gaps that the fact blocks collect when nothing forbids the action.
-/

namespace GAM
open Lib

section
variable [Platform]

/-- A question the snapshot leaves open. -/
inductive OpenGap (s : EvaluationSnapshot) : EvidenceGap → Prop
  | authority : (¬∃ rule, Rules s .allow rule) →
      OpenGap s (gap .whence s.proposal.proposalId
        "Whence comes the policy authority for this action?"
        "an applicable digest-bound policy rule" F02)
  | scope : (¬∃ rule, Rules s .allow rule) →
      OpenGap s (gap .place s.proposal.proposalId
        "Where is this target inside the allowed boundary?" "an exact or wildcard target scope" F02)
  | similarity {p} : p ∈ s.precedents → p.similarity = none →
      OpenGap s (gap .which p.proposalId "Which exact similarity can be recomputed?"
        "a fixed-scale cosine similarity for this candidate" F04)
  | approval : (¬∃ p, Approved s p) →
      OpenGap s (gap .which s.proposal.proposalId
        "Which exact approved action-type-and-target precedent qualifies?"
        "one NEAR and exact SAME approved precedent with required consequence" F05)
  | conflict : (∃ p, Approved s p) →
      (∃ p, Qualifies s p ∧ (p.decision = some .reject ∨ p.decision = some .modify)) →
      OpenGap s (gap .which s.proposal.proposalId
        "Which conflicting precedent decisions should govern?"
        "human reconciliation of qualifying precedent decisions" F06)
  | evidence {rule r} : Rules s .allow rule → r ∈ rule.requiredEvidence → ¬Satisfied s r.kind →
      OpenGap s (gap r.witness r.subjectRef
        ("What resolves evidence requirement " ++ r.requirementId ++ "?")
        ("valid evidence of kind " ++ r.kind) r.resolutionRuleId)
  | divergence {p r} : Approved s p → r ∈ p.consequenceRefs → 1 / 2 ≤ r.divergence.value →
      OpenGap s (gap .what r.consequenceId
        "What accepted outcome or mitigation resolves the observed divergence?"
        "reviewed actual outcome or a new bounded proposal" F08)
  | observation {p} : (∃ rule, Rules s .allow rule ∧ rule.requireConsequence = true) →
      Approved s p → p.consequenceRefs = [] →
      OpenGap s (gap .when p.proposalId "When was the approved effect observed?"
        "a fresh OBSERVED receipt-bound consequence report" F08)
  | outcome {p} : (∃ rule, Rules s .allow rule ∧ rule.requireConsequence = true) →
      Approved s p → p.consequenceRefs = [] →
      OpenGap s (gap .what p.proposalId "What actual outcome followed the approved effect?"
        "canonical actual outcome bound to that OBSERVED receipt" F08)
  | capability {id} : Requires s id → (∀ c ∈ s.capabilities, c.capabilityId ≠ id) →
      OpenGap s (gap .which id "Which exact required capability is available?"
        "a bound capability identity and snapshot" F09)
  | proof {id} : Requires s id → (∀ c ∈ s.capabilities, c.capabilityId ≠ id) →
      OpenGap s (gap .how id "How was the required capability validated?"
        "fresh capability proof" F09)
  | unresolved {id} : Requires s id → CapabilityIs s id .unresolved →
      OpenGap s (gap .how id "How can this capability be resolved?"
        "fresh bound capability proof" F09)
  | dependency {d} : d ∈ s.dependencies → d.state = .unresolved → completeFormula d = false →
      OpenGap s (gap .which d.dependencyId "Which exact dependency state applies?"
        "a fresh dependency fact" F10)
  | formula {d} : d ∈ s.dependencies → d.state = .unresolved → completeFormula d = false →
      OpenGap s (gap .how d.dependencyId "How can the dependency predicate be validated?"
        "bound dependency evidence" F10)

/-- A gap has an identifier. -/
lemma OpenGap.id_ne {s : EvaluationSnapshot} {g : EvidenceGap} (h : OpenGap s g) : g.gapId ≠ "" := by
  have start (x : String) : "gap-" ++ x ≠ "" := by
    intro e
    have := congrArg String.toList e
    simp at this
  cases h <;> exact start _

/-! ### The gaps of the blocks -/

variable {s : EvaluationSnapshot} {c : RuleConfig} {g : EvidenceGap}

/-- F02's gaps are open. -/
lemma scope_gaps (deny : ¬∃ rule, Rules s .deny rule) (h : g ∈ (scopeFindings s).candidateGaps) :
    OpenGap s g := by
  have none := denyRules_eq_nil.mpr deny
  unfold scopeFindings at h
  rw [if_neg (not_not.mpr none)] at h
  split at h
  · cases h
  · rename_i allow
    have allow := allowRules_eq_nil.mp (not_not.mp allow)
    simp only [List.mem_cons, List.not_mem_nil, or_false] at h
    rcases h with rfl | rfl
    · exact .authority allow
    · exact .scope allow

/-- F04's gaps are open. -/
lemma retrieval_gaps (h : g ∈ (retrievalFindings s c).candidateGaps) : OpenGap s g := by
  obtain ⟨p, hp, rfl⟩ := List.mem_map.mp h
  simp only [List.mem_filter, beq_iff_eq, retrieval_unresolved, mem_sortedPrecedents] at hp
  exact .similarity hp.1 hp.2

/-- F05's gaps are open. -/
lemma identity_gaps (pinned : c.isPinned) (h : g ∈ (identityFindings s c).candidateGaps) :
    OpenGap s g := by
  dsimp only [identityFindings] at h
  split at h
  · rename_i none
    cases List.mem_singleton.mp h
    exact .approval ((approvedPrecedents_eq_nil pinned).mp none)
  · cases h

/-- F06's gaps are open. -/
lemma conflict_gaps (pinned : c.isPinned) (h : g ∈ (conflictFindings s c).candidateGaps) :
    OpenGap s g := by
  dsimp only [conflictFindings] at h
  split at h
  · rename_i conflict
    cases List.mem_singleton.mp h
    obtain ⟨approved, other⟩ := (precedentConflict_iff pinned).mp conflict
    exact .conflict approved other
  · cases h

/-- F07's gaps are open. -/
lemma evidence_gaps (h : g ∈ (evidenceFindings s).candidateGaps) : OpenGap s g := by
  obtain ⟨r, hr, rfl⟩ := List.mem_map.mp h
  simp only [List.mem_filter, Bool.not_eq_true', mem_requirements] at hr
  obtain ⟨⟨rule, hrule, hm⟩, missing⟩ := hr
  refine .evidence hrule hm fun hs => ?_
  rw [satisfied_iff.mpr hs] at missing
  cases missing

/-- F08's gaps are open. -/
lemma divergence_gaps (pinned : c.isPinned) (h : g ∈ (divergenceBody s c).candidateGaps) :
    OpenGap s g := by
  simp only [divergenceBody, List.mem_append, List.mem_map, List.mem_flatMap, consequenceWarnings,
    List.mem_filter, Prod.exists] at h
  rcases h with ⟨_, ⟨p, r, ⟨hm, high⟩, rfl⟩, rfl⟩ | ⟨id, hid, hg⟩
  · obtain ⟨approved, hr⟩ := (mem_consequenceReports pinned).mp hm
    exact .divergence approved hr ((pinned.divergence _).mp high).2
  · split at hid
    · rename_i required
      obtain ⟨p, hp, rfl⟩ := List.mem_map.mp hid
      simp only [missingConsequence, List.mem_filter, mem_approvedPrecedents pinned,
        List.isEmpty_iff] at hp
      have required := (consequenceRequired_iff pinned).mp required
      simp only [List.mem_cons, List.not_mem_nil, or_false] at hg
      rcases hg with rfl | rfl
      · exact .observation required hp.1 hp.2
      · exact .outcome required hp.1 hp.2
    · cases hid

/-- F09's gaps are open. -/
lemma capability_gaps (nd : (s.capabilities.map CapabilityFact.capabilityId).Nodup)
    (h : g ∈ (capabilityBody s).candidateGaps) : OpenGap s g := by
  obtain ⟨id, hid, hg⟩ := List.mem_flatMap.mp h
  have required := mem_requiredCapabilityIds.mp hid
  unfold capabilityGaps at hg
  split at hg
  · rename_i missing
    have missing := capabilityState_none.mp missing
    simp only [List.mem_cons, List.not_mem_nil, or_false] at hg
    rcases hg with rfl | rfl
    · exact .capability required missing
    · exact .proof required missing
  · rename_i state
    cases List.mem_singleton.mp hg
    exact .unresolved required ((capabilityState_some nd).mp state)
  · cases hg

/-- F10's gaps are open. -/
lemma dependencies_gaps {ds : List DependencyRef} (sub : ∀ d ∈ ds, d ∈ s.dependencies)
    (h : g ∈ (dependenciesFindings ds).candidateGaps) : OpenGap s g := by
  induction ds with
  | nil => cases h
  | cons d ds ih =>
    rw [List.forall_mem_cons] at sub
    rw [dependenciesFindings, Findings.candidateGaps_append, List.mem_append] at h
    rcases h with h | h
    · unfold oneDependency at h
      split at h
      · cases h
      · cases h
      · rename_i state
        split at h
        · cases h
        · rename_i incomplete
          have incomplete : completeFormula d = false := by simpa using incomplete
          simp only [List.mem_cons, List.not_mem_nil, or_false] at h
          rcases h with rfl | rfl
          · exact .dependency sub.1 state incomplete
          · exact .formula sub.1 state incomplete
    · exact ih sub.2 h

/-- The gaps of each dependency are among F10's. -/
lemma dependencies_open {ds : List DependencyRef} {d : DependencyRef} (hd : d ∈ ds) :
    ∀ g ∈ (oneDependency d).candidateGaps, g ∈ (dependenciesFindings ds).candidateGaps := by
  induction ds with
  | nil => cases hd
  | cons d' ds ih =>
    intro g hg
    rw [dependenciesFindings, Findings.candidateGaps_append, List.mem_append]
    rcases List.mem_cons.mp hd with rfl | hd
    · exact .inl hg
    · exact .inr (ih hd g hg)

/-! ### The gaps of the evaluation -/

/-- The candidate gaps come from all blocks but the binding, the exclusions and the aggregate. -/
lemma collect_gaps {priorId f} (e : collectFindings s c priorId = .ok f) :
    f.candidateGaps = (scopeFindings s).candidateGaps ++ (retrievalFindings s c).candidateGaps ++
      (identityFindings s c).candidateGaps ++ (conflictFindings s c).candidateGaps ++
      (evidenceFindings s).candidateGaps ++ (divergenceBody s c).candidateGaps ++
      (capabilityBody s).candidateGaps ++ (dependencyFindings s).candidateGaps := by
  obtain ⟨d, hd, -, rfl⟩ := collectFindings_eq_ok.mp e
  have divergence : d.candidateGaps = (divergenceBody s c).candidateGaps := by
    unfold divergenceFindings at hd
    split at hd
    · rename_i none
      cases hd
      simp [divergenceBody, consequenceWarnings, consequenceReports, missingConsequence, none]
    · simp only [bind_eq_ok, pure_eq_ok, Except.ok.injEq] at hd
      obtain ⟨-, -, rfl⟩ := hd
      rfl
  simp [factFindings, aggregateFindings, divergence, bindFindings, exclusionFindings]

/-- When nothing forbids the action the candidate gaps are the open questions. -/
lemma mem_candidateGaps {priorId f} (pinned : c.isPinned) (fin : FiniteDivergence s)
    (e : collectFindings s c priorId = .ok f) (allowed : ¬Forbidden s) :
    g ∈ f.candidateGaps ↔ OpenGap s g := by
  have deny : ¬∃ rule, Rules s .deny rule := fun h => allowed (.inl h)
  have nd := collect_nodup e
  rw [collect_gaps e]
  simp only [List.mem_append]
  constructor
  -- what a block appends is open
  · rintro (((((((h | h) | h) | h) | h) | h) | h) | h)
    · exact scope_gaps deny h
    · exact retrieval_gaps h
    · exact identity_gaps pinned h
    · exact conflict_gaps pinned h
    · exact evidence_gaps h
    · exact divergence_gaps pinned h
    · exact capability_gaps nd h
    · exact dependencies_gaps (fun _ hd => mem_sortedBy.mp hd) h
  -- what is open is appended by its block
  · intro h
    have scope (none : ¬∃ rule, Rules s .allow rule) : (scopeFindings s).candidateGaps =
        [gap .whence s.proposal.proposalId "Whence comes the policy authority for this action?"
          "an applicable digest-bound policy rule" F02,
        gap .place s.proposal.proposalId "Where is this target inside the allowed boundary?"
          "an exact or wildcard target scope" F02] := by
      rw [scopeFindings, if_neg (not_not.mpr (denyRules_eq_nil.mpr deny)),
        if_neg (not_not.mpr (allowRules_eq_nil.mpr none))]
    have missing {id} (none : ∀ c ∈ s.capabilities, c.capabilityId ≠ id) :
        capabilityGaps s id = [gap .which id "Which exact required capability is available?"
          "a bound capability identity and snapshot" F09,
        gap .how id "How was the required capability validated?" "fresh capability proof" F09] := by
      rw [capabilityGaps, capabilityState_none.mpr none]
    have demanded {p} (required : ∃ rule, Rules s .allow rule ∧ rule.requireConsequence = true)
        (approved : Approved s p) (none : p.consequenceRefs = []) :
        ∀ g ∈ [gap .when p.proposalId "When was the approved effect observed?"
            "a fresh OBSERVED receipt-bound consequence report" F08,
          gap .what p.proposalId "What actual outcome followed the approved effect?"
            "canonical actual outcome bound to that OBSERVED receipt" F08],
          g ∈ (divergenceBody s c).candidateGaps := by
      intro g hg
      refine List.mem_append_right _ (List.mem_flatMap.mpr ⟨p.proposalId, ?_, hg⟩)
      rw [if_pos ((consequenceRequired_iff pinned).mpr required)]
      refine List.mem_map_of_mem ?_
      simp [missingConsequence, mem_approvedPrecedents pinned, approved, none]
    have formulas {d : DependencyRef} (hd : d ∈ s.dependencies) (state : d.state = .unresolved)
        (incomplete : completeFormula d = false) :
        ∀ g ∈ [gap .which d.dependencyId "Which exact dependency state applies?"
            "a fresh dependency fact" F10,
          gap .how d.dependencyId "How can the dependency predicate be validated?"
            "bound dependency evidence" F10], g ∈ (dependencyFindings s).candidateGaps := by
      intro g hg
      refine dependencies_open (mem_sortedBy.mpr hd) g ?_
      simpa [oneDependency, state, incomplete] using hg
    cases h with
    | authority none => simp [scope none]
    | scope none => simp [scope none]
    | similarity hp none =>
      have hg := List.mem_map_of_mem (f := fun p : PrecedentRef =>
        gap .which p.proposalId "Which exact similarity can be recomputed?"
          "a fixed-scale cosine similarity for this candidate" F04)
        (List.mem_filter (p := fun p => retrieval c p == .unresolved).mpr
          ⟨mem_sortedPrecedents.mpr hp, beq_iff_eq.mpr (retrieval_unresolved.mpr none)⟩)
      exact .inl (.inl (.inl (.inl (.inl (.inl (.inr hg))))))
    | approval none =>
      simp [identityFindings, (approvedPrecedents_eq_nil pinned).mpr none]
    | conflict approved other =>
      simp [conflictFindings, (precedentConflict_iff pinned).mpr ⟨approved, other⟩]
    | evidence hrule hr unsatisfied =>
      have hg := List.mem_map_of_mem (f := fun r : EvidenceRequirement => gap r.witness r.subjectRef
        ("What resolves evidence requirement " ++ r.requirementId ++ "?")
        ("valid evidence of kind " ++ r.kind) r.resolutionRuleId)
        (List.mem_filter (p := fun r => !satisfied s r).mpr
          ⟨mem_requirements.mpr ⟨_, hrule, hr⟩, by simpa [← satisfied_iff] using unsatisfied⟩)
      exact .inl (.inl (.inl (.inr hg)))
    | divergence approved hr high =>
      refine .inl (.inl (.inr (List.mem_append_left _ ?_)))
      refine List.mem_map_of_mem (List.mem_map.mpr ⟨(_, _), List.mem_filter.mpr
        ⟨(mem_consequenceReports pinned).mpr ⟨approved, hr⟩, ?_⟩, rfl⟩)
      exact (pinned.divergence _).mpr ⟨fin _ approved.1.1 _ hr, high⟩
    | observation required approved none =>
      exact .inl (.inl (.inr (demanded required approved none _ List.mem_cons_self)))
    | outcome required approved none =>
      exact .inl (.inl (.inr (demanded required approved none _ (by simp))))
    | capability required none =>
      refine .inl (.inr (List.mem_flatMap.mpr ⟨_, mem_requiredCapabilityIds.mpr required, ?_⟩))
      simp [missing none]
    | proof required none =>
      refine .inl (.inr (List.mem_flatMap.mpr ⟨_, mem_requiredCapabilityIds.mpr required, ?_⟩))
      simp [missing none]
    | unresolved required state =>
      refine .inl (.inr (List.mem_flatMap.mpr ⟨_, mem_requiredCapabilityIds.mpr required, ?_⟩))
      simp [capabilityGaps, (capabilityState_some nd).mpr state]
    | dependency hd state incomplete =>
      exact .inr (formulas hd state incomplete _ List.mem_cons_self)
    | formula hd state incomplete => exact .inr (formulas hd state incomplete _ (by simp))

end

end GAM
