import GAM.Governance.Completeness

/-!
# The facts behind a MAYBE

The blocks append the predicates of R2 and the gaps to two lists. Both lists are images of one, the
facts that leave the snapshot undecided: `OpenFact.predicate` is what F11 lists of a fact and
`OpenFact.gaps` what it asks. So the gaps of a MAYBE are the questions of the predicates it lists.
-/

namespace GAM
open Lib

/-- A fact that leaves a snapshot undecided. -/
inductive OpenFact where
  | policySource
  | targetScope
  | similarity (proposalId : String)
  | approval
  | conflict
  | evidence (q : EvidenceRequirement)
  | divergence (consequenceId : String)
  | consequence (proposalId : String)
  | capabilityMissing (capabilityId : String)
  | capabilityUnresolved (capabilityId : String)
  | dependency (dependencyId : String)

/-- The predicate that F11 lists. -/
def OpenFact.predicate : OpenFact → String
  | .policySource => "F02_POLICY_SOURCE_UNRESOLVED"
  | .targetScope => "F02_TARGET_SCOPE_UNRESOLVED"
  | .similarity id => "F04_SIMILARITY_UNRESOLVED:" ++ id
  | .approval => "F05_NO_QUALIFYING_APPROVE"
  | .conflict => "F06_PRECEDENT_CONFLICT"
  | .evidence q => "F07_EVIDENCE_MISSING:" ++ q.requirementId
  | .divergence id => "F08_HIGH_DIVERGENCE:" ++ id
  | .consequence id => "F08_MISSING_CONSEQUENCE:" ++ id
  | .capabilityMissing id => "F09_CAPABILITY_MISSING:" ++ id
  | .capabilityUnresolved id => "F09_CAPABILITY_UNRESOLVED:" ++ id
  | .dependency id => "F10_INCOMPLETE_FORMULA:" ++ id

/-- What the predicate is about. -/
def OpenFact.subject (proposalId : String) : OpenFact → String
  | .policySource | .targetScope | .approval | .conflict => proposalId
  | .evidence q => q.subjectRef
  | .similarity id | .divergence id | .consequence id | .capabilityMissing id
  | .capabilityUnresolved id | .dependency id => id

/-- The fact holds in a snapshot. -/
def OpenFact.Holds (s : EvaluationSnapshot) : OpenFact → Prop
  | .policySource | .targetScope => ¬∃ rule, Rules s .allow rule
  | .similarity id => ∃ p ∈ s.precedents, p.similarity = none ∧ p.proposalId = id
  | .approval => ¬∃ p, Approved s p
  | .conflict => (∃ p, Approved s p) ∧
      ∃ p, Qualifies s p ∧ (p.decision = some .reject ∨ p.decision = some .modify)
  | .evidence q => Required s q ∧ ¬ValidLast s.proposal.evidenceRefs q.kind
  | .divergence id => ∃ p, Approved s p ∧
      ∃ r ∈ p.consequenceRefs, 1 / 2 ≤ r.divergence.value ∧ r.consequenceId = id
  | .consequence id => (∃ rule, Rules s .allow rule ∧ rule.requireConsequence = true) ∧
      ∃ p, Approved s p ∧ p.consequenceRefs = [] ∧ p.proposalId = id
  | .capabilityMissing id => Requires s id ∧ ∀ c ∈ s.capabilities, c.capabilityId ≠ id
  | .capabilityUnresolved id => Requires s id ∧ CapabilityIs s id .unresolved
  | .dependency id => ∃ d ∈ s.dependencies,
      d.state = .unresolved ∧ completeFormula d = false ∧ d.dependencyId = id

section
variable [Platform]

/-- The gaps of the predicate. -/
def OpenFact.gaps (proposalId : String) : OpenFact → List EvidenceGap
  | .policySource =>
    [gap .whence proposalId "Whence comes the policy authority for this action?"
      "an applicable digest-bound policy rule" F02]
  | .targetScope =>
    [gap .place proposalId "Where is this target inside the allowed boundary?"
      "an exact or wildcard target scope" F02]
  | .similarity id =>
    [gap .which id "Which exact similarity can be recomputed?"
      "a fixed-scale cosine similarity for this candidate" F04]
  | .approval =>
    [gap .which proposalId "Which exact approved action-type-and-target precedent qualifies?"
      "one NEAR and exact SAME approved precedent with required consequence" F05]
  | .conflict =>
    [gap .which proposalId "Which conflicting precedent decisions should govern?"
      "human reconciliation of qualifying precedent decisions" F06]
  | .evidence q =>
    [gap q.witness q.subjectRef ("What resolves evidence requirement " ++ q.requirementId ++ "?")
      ("valid evidence of kind " ++ q.kind) q.resolutionRuleId]
  | .divergence id =>
    [gap .what id "What accepted outcome or mitigation resolves the observed divergence?"
      "reviewed actual outcome or a new bounded proposal" F08]
  | .consequence id =>
    [gap .when id "When was the approved effect observed?"
      "a fresh OBSERVED receipt-bound consequence report" F08,
    gap .what id "What actual outcome followed the approved effect?"
      "canonical actual outcome bound to that OBSERVED receipt" F08]
  | .capabilityMissing id =>
    [gap .which id "Which exact required capability is available?"
      "a bound capability identity and snapshot" F09,
    gap .how id "How was the required capability validated?" "fresh capability proof" F09]
  | .capabilityUnresolved id =>
    [gap .how id "How can this capability be resolved?" "fresh bound capability proof" F09]
  | .dependency id =>
    [gap .which id "Which exact dependency state applies?" "a fresh dependency fact" F10,
    gap .how id "How can the dependency predicate be validated?" "bound dependency evidence" F10]

/-- A fact has a gap, and its gaps name its subject. -/
lemma OpenFact.gaps_subject (proposalId : String) (x : OpenFact) : x.gaps proposalId ≠ [] ∧
    ∀ g ∈ x.gaps proposalId, g.subjectRef = x.subject proposalId := by
  cases x <;> simp [OpenFact.gaps, OpenFact.subject, gap]

variable {s : EvaluationSnapshot} {c : RuleConfig} {f : Findings} {r : CheckResult}
  {priorId : Option String}

/-! ### The facts of the blocks -/

/-- What a block appends to R2 and to the gaps is that of some facts, one after the other. -/
def Findings.Records (proposalId : String) (b : Findings) (facts : List OpenFact) : Prop :=
  b.rawR2 = facts.map OpenFact.predicate ∧ b.candidateGaps = facts.flatMap (OpenFact.gaps proposalId)

section
variable {proposalId : String} {a b : Findings} {x y : List OpenFact}

/-- Two blocks record their facts, one after the other. -/
lemma Findings.Records.append (ha : a.Records proposalId x) (hb : b.Records proposalId y) :
    (a ++ b).Records proposalId (x ++ y) := by
  rw [Findings.Records, Findings.rawR2_append, Findings.candidateGaps_append, ha.1, ha.2, hb.1, hb.2,
    List.map_append, List.flatMap_append]
  exact ⟨rfl, rfl⟩

/-- A block that appends one fact for each item of a list. -/
lemma Findings.Records.of_list {α : Type} {l : List α} {fact : α → List OpenFact}
    (predicates : b.rawR2 = l.flatMap fun i => (fact i).map OpenFact.predicate)
    (gaps : b.candidateGaps = l.flatMap fun i => (fact i).flatMap (OpenFact.gaps proposalId)) :
    b.Records proposalId (l.flatMap fact) := by
  rw [Findings.Records, List.map_flatMap, List.flatMap_assoc]
  exact ⟨predicates, gaps⟩

/-- A block that appends one fact with one gap for each item of a list. -/
lemma Findings.Records.of_map {α : Type} {l : List α} {fact : α → OpenFact} {question : α → EvidenceGap}
    (one : ∀ i, (fact i).gaps proposalId = [question i])
    (predicates : b.rawR2 = l.map fun i => (fact i).predicate)
    (gaps : b.candidateGaps = l.map question) : b.Records proposalId (l.map fact) := by
  rw [Findings.Records, List.map_map, List.flatMap_map, predicates, gaps]
  refine ⟨rfl, List.map_eq_flatMap.trans ?_⟩
  exact List.flatMap_congr fun i _ => (one i).symm

end

/-- The open facts of F02. -/
def scopeFacts (s : EvaluationSnapshot) : List OpenFact :=
  if denyRules s = [] ∧ allowRules s = [] then [.policySource, .targetScope] else []

/-- The open facts of F08. -/
def divergenceFacts (s : EvaluationSnapshot) (c : RuleConfig) : List OpenFact :=
  (consequenceWarnings s c).map .divergence ++
    (if consequenceRequired s c then
      (missingConsequence s c).map fun p => .consequence p.proposalId
    else [])

/-- The open facts of one required capability. -/
def capabilityFacts (s : EvaluationSnapshot) (id : String) : List OpenFact :=
  match capabilityState s id with
  | none => [.capabilityMissing id]
  | some .unresolved => [.capabilityUnresolved id]
  | some _ => []

/-- The open fact of one dependency. -/
def dependencyFacts (d : DependencyRef) : List OpenFact :=
  if d.state = .unresolved ∧ completeFormula d = false then [.dependency d.dependencyId] else []

/-- The open facts in the order of the blocks. -/
def openFacts (s : EvaluationSnapshot) (c : RuleConfig) : List OpenFact :=
  scopeFacts s ++
    (((sortedPrecedents s.precedents).filter fun p => retrieval c p == .unresolved).map fun p =>
      .similarity p.proposalId) ++
    (if approvedPrecedents s c = [] then [.approval] else []) ++
    (if precedentConflict s c then [.conflict] else []) ++
    ((requirements s).filter fun q => !satisfied s q).map .evidence ++ divergenceFacts s c ++
    (requiredCapabilityIds s).flatMap (capabilityFacts s) ++
    (sortedDependencies s).flatMap dependencyFacts

section
variable {proposalId : String}

/-- F02 records a policy without a rule for the keys. -/
lemma scope_records : (scopeFindings s).Records s.proposal.proposalId (scopeFacts s) := by
  rw [scopeFindings, scopeFacts]
  by_cases deny : denyRules s = []
  · by_cases allow : allowRules s = []
    · rw [if_neg (not_not.mpr deny), if_neg (not_not.mpr allow), if_pos ⟨deny, allow⟩]
      exact ⟨rfl, rfl⟩
    · rw [if_neg (not_not.mpr deny), if_pos allow, if_neg fun h => allow h.2]
      exact ⟨rfl, rfl⟩
  · rw [if_pos deny, if_neg fun h => deny h.1]
    exact ⟨rfl, rfl⟩

/-- F04 records the precedents without a similarity. -/
lemma retrieval_records : (retrievalFindings s c).Records proposalId
    (((sortedPrecedents s.precedents).filter fun p => retrieval c p == .unresolved).map fun p =>
      .similarity p.proposalId) :=
  .of_map (fun _ => rfl) rfl rfl

/-- F05 records a missing approval. -/
lemma identity_records : (identityFindings s c).Records s.proposal.proposalId
    (if approvedPrecedents s c = [] then [.approval] else []) := by
  rw [Findings.Records, identityFindings]
  dsimp only
  by_cases none : approvedPrecedents s c = []
  · rw [if_pos none, if_pos none, if_pos none]
    exact ⟨rfl, rfl⟩
  · rw [if_neg none, if_neg none, if_neg none]
    exact ⟨rfl, rfl⟩

/-- F06 records a conflict between precedents. -/
lemma conflict_records : (conflictFindings s c).Records s.proposal.proposalId
    (if precedentConflict s c then [.conflict] else []) := by
  rw [Findings.Records, conflictFindings]
  dsimp only
  cases precedentConflict s c with
  | true => exact ⟨rfl, rfl⟩
  | false => exact ⟨rfl, rfl⟩

/-- F07 records the missing evidence. -/
lemma evidence_records : (evidenceFindings s).Records proposalId
    (((requirements s).filter fun q => !satisfied s q).map .evidence) :=
  .of_map (fun _ => rfl) rfl rfl

/-- F08 records the divergence and the missing consequences. -/
lemma divergence_records : (divergenceBody s c).Records proposalId (divergenceFacts s c) := by
  rw [Findings.Records, divergenceFacts, divergenceBody]
  simp only [List.map_append, List.flatMap_append, List.map_map, List.flatMap_map]
  have high : (consequenceWarnings s c).map (fun id =>
      gap .what id "What accepted outcome or mitigation resolves the observed divergence?"
        "reviewed actual outcome or a new bounded proposal" F08) =
      (consequenceWarnings s c).flatMap fun id => (OpenFact.divergence id).gaps proposalId :=
    List.map_eq_flatMap
  rw [high]
  cases consequenceRequired s c with
  | true =>
    simp only [if_true, List.map_map, List.flatMap_map]
    exact ⟨rfl, rfl⟩
  | false => exact ⟨rfl, rfl⟩

/-- F09 records the missing and the unresolved capabilities. -/
lemma capability_records : (capabilityBody s).Records proposalId
    ((requiredCapabilityIds s).flatMap (capabilityFacts s)) := by
  have one (id : String) : capabilityR2 s id = (capabilityFacts s id).map OpenFact.predicate ∧
      capabilityGaps s id = (capabilityFacts s id).flatMap (OpenFact.gaps proposalId) := by
    rw [capabilityR2, capabilityGaps, capabilityFacts]
    rcases capabilityState s id with _ | _ | _ | _ <;> exact ⟨rfl, rfl⟩
  exact .of_list (List.flatMap_congr fun id _ => (one id).1) (List.flatMap_congr fun id _ => (one id).2)

/-- A dependency is recorded where it is unresolved without a complete formula. -/
lemma oneDependency_records {d : DependencyRef} :
    (oneDependency d).Records proposalId (dependencyFacts d) := by
  rw [oneDependency, dependencyFacts]
  cases state : d.state with
  | true => exact ⟨rfl, rfl⟩
  | false => exact ⟨rfl, rfl⟩
  | unresolved =>
    cases complete : completeFormula d with
    | true => exact ⟨rfl, rfl⟩
    | false => exact ⟨rfl, rfl⟩

/-- F10 records its dependencies, one after the other. -/
lemma dependencies_records {ds : List DependencyRef} :
    (dependenciesFindings ds).Records proposalId (ds.flatMap dependencyFacts) := by
  induction ds with
  | nil => exact ⟨rfl, rfl⟩
  | cons d ds ih => exact oneDependency_records.append ih

end

/-- The predicates of R2 and the gaps of an evaluation are those of the open facts. -/
lemma collect_records (e : collectFindings s c priorId = .ok f) :
    f.Records s.proposal.proposalId (openFacts s c) := by
  have all := (((((((@scope_records _ s).append (@retrieval_records _ s c _)).append
    (@identity_records _ s c)).append (@conflict_records _ s c)).append
    (@evidence_records _ s _)).append (@divergence_records _ s c _)).append
    (@capability_records _ s _)).append (@dependencies_records _ _ (sortedDependencies s))
  exact ⟨(collect_rawR2 e).trans all.1, (collect_gaps e).trans all.2⟩

/-! ### Which facts hold -/

omit [Platform] in
/-- A dependency is an open fact where it is unresolved without a complete formula. -/
lemma mem_dependencyFacts {ds : List DependencyRef} {x : OpenFact} :
    x ∈ ds.flatMap dependencyFacts ↔ ∃ d ∈ ds, d.state = .unresolved ∧ completeFormula d = false ∧
      .dependency d.dependencyId = x := by
  rw [List.mem_flatMap]
  refine exists_congr fun d => and_congr_right fun _ => ?_
  rw [dependencyFacts]
  split
  · rename_i h
    rw [List.mem_singleton, and_iff_right h.1, and_iff_right h.2, eq_comm]
  · rename_i h
    exact iff_of_false List.not_mem_nil fun hx => h ⟨hx.1, hx.2.1⟩

omit [Platform] in
/-- When nothing forbids the action the open facts are those that hold. -/
lemma mem_openFacts (pinned : c.isPinned) (fin : FiniteDivergence s)
    (nd : (s.capabilities.map CapabilityFact.capabilityId).Nodup) (allowed : ¬Forbidden s)
    {x : OpenFact} : x ∈ openFacts s c ↔ x.Holds s := by
  have deny : denyRules s = [] := denyRules_eq_nil.mpr fun h => allowed (.inl h)
  -- block by block, what its list says
  have scope : x ∈ scopeFacts s ↔
      (x = .policySource ∨ x = .targetScope) ∧ ¬∃ rule, Rules s .allow rule := by
    rw [scopeFacts, ← allowRules_eq_nil]
    by_cases allow : allowRules s = []
    · simp [deny, allow]
    · simp [deny, allow]
  have capability : x ∈ (requiredCapabilityIds s).flatMap (capabilityFacts s) ↔ ∃ id, Requires s id ∧
      (((∀ c ∈ s.capabilities, c.capabilityId ≠ id) ∧ x = .capabilityMissing id) ∨
        (CapabilityIs s id .unresolved ∧ x = .capabilityUnresolved id)) := by
    simp only [List.mem_flatMap, mem_requiredCapabilityIds, ← capabilityState_none,
      ← capabilityState_some nd]
    refine exists_congr fun id => and_congr_right fun _ => ?_
    rw [capabilityFacts]
    rcases capabilityState s id with _ | _ | _ | _ <;> simp
  have divergence : x ∈ divergenceFacts s c ↔
      (∃ id ∈ consequenceWarnings s c, .divergence id = x) ∨
      (∃ rule, Rules s .allow rule ∧ rule.requireConsequence = true) ∧
        ∃ p, Approved s p ∧ p.consequenceRefs = [] ∧ .consequence p.proposalId = x := by
    rw [divergenceFacts, List.mem_append, List.mem_map, ← consequenceRequired_iff pinned]
    cases consequenceRequired s c with
    | true => simp [missingConsequence, mem_approvedPrecedents pinned, and_assoc]
    | false => simp
  have similarity : x ∈ (((sortedPrecedents s.precedents).filter fun p =>
        retrieval c p == .unresolved).map fun p => .similarity p.proposalId) ↔
      ∃ p ∈ s.precedents, p.similarity = none ∧ .similarity p.proposalId = x := by
    simp [mem_sortedPrecedents, retrieval_unresolved, and_assoc]
  have approval : x ∈ (if approvedPrecedents s c = [] then [.approval] else []) ↔
      x = .approval ∧ ¬∃ p, Approved s p := by
    rw [← approvedPrecedents_eq_nil pinned]
    split <;> simp_all
  have conflict : x ∈ (if precedentConflict s c then [.conflict] else []) ↔
      x = .conflict ∧ (∃ p, Approved s p) ∧
        ∃ p, Qualifies s p ∧ (p.decision = some .reject ∨ p.decision = some .modify) := by
    rw [← precedentConflict_iff pinned]
    split <;> simp_all
  have evidence : x ∈ ((requirements s).filter fun q => !satisfied s q).map .evidence ↔
      ∃ q, (Required s q ∧ ¬ValidLast s.proposal.evidenceRefs q.kind) ∧ .evidence q = x := by
    simp only [List.mem_map, List.mem_filter, Bool.not_eq_true', ← Bool.not_eq_true,
      satisfied_validLast, mem_requirements, Required]
  simp only [openFacts, List.mem_append, scope, similarity, approval, conflict, evidence, divergence,
    capability, mem_dependencyFacts, mem_consequenceWarnings pinned fin]
  cases x <;> simp [OpenFact.Holds, sortedDependencies, and_assoc]

omit [Platform] in
/-- Which facts hold does not depend on the order of the snapshot. -/
lemma OpenFact.holds_canonical {x : OpenFact} : x.Holds (canonicalSnapshot s) ↔ x.Holds s := by
  have nil (p : PrecedentRef) : (canonicalPrecedent p).consequenceRefs = [] ↔ p.consequenceRefs = [] := by
    rw [← List.length_eq_zero_iff, ← List.length_eq_zero_iff]
    simp [canonicalPrecedent]
  cases x with
  | policySource | targetScope => simp [OpenFact.Holds, rules_canonical]
  | similarity id => simp [OpenFact.Holds, mem_precedents_canonical, canonicalPrecedent]
  | approval => simp [OpenFact.Holds, approved_canonical]
  | conflict => simp [OpenFact.Holds, approved_canonical, qualifies_canonical, canonicalPrecedent]
  | evidence q => simp only [OpenFact.Holds, required_canonical, validLast_canonical]
  | divergence id => simp [OpenFact.Holds, approved_canonical, canonicalPrecedent]
  | consequence id =>
    simp [OpenFact.Holds, rules_canonical, approved_canonical, nil, canonicalRule]
    simp [canonicalPrecedent]
  | capabilityMissing id =>
    rw [OpenFact.Holds, OpenFact.Holds, requires_canonical]
    simp [canonicalSnapshot]
  | capabilityUnresolved id => simp only [OpenFact.Holds, requires_canonical, capabilityIs_canonical]
  | dependency id => simp [OpenFact.Holds, canonicalSnapshot]

/-! ### The gaps of a result -/

omit [Platform] in
/-- The verdict is MAYBE when R1 has no predicate and R2 has one. -/
lemma reduceFindings_maybe {red : Reduction} (h : reduceFindings s c f = .ok red) :
    red.verdict = .maybe ↔ f.rawR1 = [] ∧ f.rawR2 ≠ [] := by
  unfold reduceFindings at h
  split at h
  · rename_i refused
    simp only [bind_eq_ok, pure_eq_ok, Except.ok.injEq] at h
    obtain ⟨_, -, rfl⟩ := h
    exact iff_of_false (fun no => by cases no) fun hn => refused hn.1
  · rename_i allowed
    split at h
    · rename_i undecided
      simp only [bind_eq_ok, pure_eq_ok, Except.ok.injEq] at h
      obtain ⟨_, -, rfl⟩ := h
      exact iff_of_true rfl ⟨not_not.mp allowed, undecided⟩
    · rename_i decided
      refine iff_of_false ?_ fun hn => decided hn.2
      split at h
      · cases h
        intro iff
        cases iff
      · simp only [bind_eq_ok] at h
        obtain ⟨yes, -, h⟩ := h
        split at h
        · cases h
          intro yes
          cases yes
        · cases h

/-- The predicates of R3 start with the name of their formula. -/
lemma collect_formulas (e : collectFindings s c priorId = .ok f) :
    ∀ x ∈ f.rawR3, hasPrefix "F10_COMPLETE_FORMULA:" x = true := by
  rw [collect_rawR3 e, dependencyFindings]
  induction sortedDependencies s with
  | nil => exact fun _ h => absurd h List.not_mem_nil
  | cons d ds ih =>
    rw [dependenciesFindings, Findings.rawR3_append, List.forall_mem_append]
    refine ⟨?_, ih⟩
    unfold oneDependency
    split
    · exact fun _ h => absurd h List.not_mem_nil
    · exact fun _ h => absurd h List.not_mem_nil
    · split
      · rw [List.forall_mem_singleton, hasPrefix_append le_rfl]
        decide
      · exact fun _ h => absurd h List.not_mem_nil

omit [Platform] in
/-- A text with another head does not have the prefix. -/
lemma hasPrefix_head {p a b : String} (hp : 3 ≤ p.toList.length) (ha : 3 ≤ a.toList.length)
    (ne : p.toList.take 3 ≠ a.toList.take 3) : hasPrefix p (a ++ b) = false := by
  rw [hasPrefix, String.toList_append, Bool.eq_false_iff, ne_eq, List.isPrefixOf_iff_prefix]
  intro h
  have heads := congrArg (List.take 3) (List.prefix_iff_eq_take.mp h)
  rw [List.take_take, min_eq_left hp, List.take_append_of_le_length ha] at heads
  exact ne heads

omit [Platform] in
/-- The predicates of the open facts have other names. -/
lemma OpenFact.predicate_open (x : OpenFact) :
    hasPrefix "F10_COMPLETE_FORMULA:" x.predicate = false := by
  cases x with
  | policySource | targetScope | approval | conflict => decide
  | dependency id => exact (hasPrefix_append (by decide)).trans (by decide)
  | similarity | evidence | divergence | consequence | capabilityMissing | capabilityUnresolved =>
    exact hasPrefix_head (by decide) (by decide) (by decide)

/-- The verdict and the gaps of a result are those of the reduction, and F11 lists the predicates. -/
lemma evaluateAdmitted_reduction (h : evaluateAdmitted s c priorId = .ok r) : ∃ f red,
    collectFindings s c priorId = .ok f ∧ reduceFindings s c f = .ok red ∧ r.verdict = red.verdict ∧
      r.evidenceGaps = red.gaps ∧ ∃ step, .operator step ∈ r.operatorTrace ∧ step.ruleId = F11 ∧
        step.resultJson =
          (Json.obj [("triggered_predicate_ids", jsonStrs (triggeredPredicates f))]).dumps := by
  obtain ⟨f, facts, reducer, because, hf, shape⟩ := evaluateAdmitted_shape h
  simp only [evaluateAdmitted, hf, ok_bind, bind_eq_ok, pure_eq_ok, Except.ok.injEq] at h
  obtain ⟨red, hr, _, -, t, -, changed, -, digest, -, result⟩ := h
  obtain ⟨step, hstep, rule, text⟩ := shape.aggregate
  refine ⟨f, red, hf, hr, ?_, ?_, step, ?_, rule, text⟩
  · rw [← result]
    rfl
  · rw [← result]
    rfl
  · rw [shape.parts]
    exact List.mem_append_left _ (List.mem_map_of_mem hstep)

/-- The gaps of a result that is not MAYBE are none. Those of a MAYBE are the questions of the open
facts, and so are the predicates of R2 that its F11 step lists. -/
theorem evaluateProposal_gaps (h : evaluateProposal s c = .ok (.check r)) :
    (r.verdict ≠ .maybe → r.evidenceGaps = []) ∧
    (r.verdict = .maybe → r.evidenceGaps ≠ [] ∧
      (∃ step triggered, .operator step ∈ r.operatorTrace ∧ step.ruleId = F11 ∧
        step.resultJson = (Json.obj [("triggered_predicate_ids", jsonStrs triggered)]).dumps ∧
        (∀ predicate, predicate ∈ triggered ∧ hasPrefix "F10_COMPLETE_FORMULA:" predicate = false ↔
          ∃ x : OpenFact, x.Holds s ∧ x.predicate = predicate)) ∧
      (∀ g, g ∈ r.evidenceGaps ↔ ∃ x : OpenFact, x.Holds s ∧ g ∈ x.gaps s.proposal.proposalId) ∧
      ∀ x : OpenFact, x.Holds s → ∃ g ∈ r.evidenceGaps, g ∈ x.gaps s.proposal.proposalId ∧
        g.subjectRef = x.subject s.proposal.proposalId) := by
  obtain ⟨priorId, adm, evaluated⟩ := evaluateCanonical_check.mp h
  obtain ⟨pinned, fin⟩ := admit_facts adm
  obtain ⟨f, red, hf, hr, verdict, gaps, step, hstep, rule, text⟩ := evaluateAdmitted_reduction evaluated
  have maybe := reduceFindings_maybe hr
  rw [verdict, gaps, reduceFindings_gaps hr]
  constructor
  · intro other
    exact if_neg fun h => other (maybe.mpr h)
  intro undecided
  obtain ⟨allowed, nonempty⟩ := maybe.mp undecided
  obtain ⟨predicates, questions⟩ := collect_records hf
  have holds (x : OpenFact) : x ∈ openFacts (canonicalSnapshot s) c ↔ x.Holds s := by
    rw [mem_openFacts pinned fin (collect_nodup hf) ((collect_forbidden hf).mp allowed),
      OpenFact.holds_canonical]
  -- the questions are those of the open facts, and each fact asks one about its subject
  have asked (g : EvidenceGap) : g ∈ sortedBy EvidenceGap.gapId f.candidateGaps.dedup ↔
      ∃ x : OpenFact, x.Holds s ∧ g ∈ x.gaps s.proposal.proposalId := by
    rw [mem_sortedBy, List.mem_dedup, questions, List.mem_flatMap]
    simp only [holds]
    rfl
  have named (x : OpenFact) (hx : x.Holds s) :
      ∃ g ∈ sortedBy EvidenceGap.gapId f.candidateGaps.dedup, g ∈ x.gaps s.proposal.proposalId ∧
        g.subjectRef = x.subject s.proposal.proposalId := by
    obtain ⟨some, subject⟩ := x.gaps_subject s.proposal.proposalId
    obtain ⟨g, hg⟩ := List.exists_mem_of_ne_nil _ some
    exact ⟨g, (asked g).mpr ⟨x, hx, hg⟩, hg, subject g hg⟩
  rw [if_pos ⟨allowed, nonempty⟩]
  refine ⟨?_, ⟨step, _, hstep, rule, text, ?_⟩, asked, named⟩
  · rw [predicates, ne_eq, List.map_eq_nil_iff] at nonempty
    obtain ⟨x, hx⟩ := List.exists_mem_of_ne_nil _ nonempty
    obtain ⟨g, hg, -⟩ := named x ((holds x).mp hx)
    exact List.ne_nil_of_mem hg
  -- R3 holds the complete formulas, so the other predicates are R2's
  · intro predicate
    simp only [triggeredPredicates, mem_sortedBy, List.mem_dedup, allowed, List.nil_append,
      List.mem_append, predicates, List.mem_map, holds]
    constructor
    · rintro ⟨open_fact | formula, other⟩
      · exact open_fact
      · rw [collect_formulas hf predicate formula] at other
        cases other
    · rintro ⟨x, hx, rfl⟩
      exact ⟨.inl ⟨x, hx, rfl⟩, x.predicate_open⟩

end

/-- The smallest evaluation is a MAYBE, with the questions about its policy and its precedents. -/
theorem evaluateProposal_gaps_minimal :
    let _ := asciiPlatform
    let s := minimalSnapshot "first" (minimalProposal "proposal" "reason") none
    ∃ r, evaluateProposal s pinnedConfig = .ok (.check r) ∧ r.verdict = .maybe ∧ r.evidenceGaps ≠ [] ∧
      ∀ g, g ∈ r.evidenceGaps ↔ ∃ x : OpenFact, x.Holds s ∧ g ∈ x.gaps s.proposal.proposalId := by
  intro _ s
  obtain ⟨r, hr⟩ := minimal_finalized "first" "proposal" "reason" (by decide)
  -- without rules nothing forbids the action and nothing allows it
  have allowed : ¬Forbidden s := by
    rintro (⟨_, ⟨h, -⟩⟩ | ⟨_, h, -⟩ | ⟨_, ⟨_, ⟨h, -⟩, -⟩, -⟩ | ⟨_, h, -⟩) <;> cases h
  have unsettled : Unsettled s := by
    refine .inl ?_
    rintro ⟨_, h, -⟩
    cases h
  have maybe : r.verdict = .maybe := by
    have outcome := congrArg Prod.fst (evaluateProposal_declared hr)
    rwa [declaredOutcome, if_neg allowed, if_pos unsettled] at outcome
  obtain ⟨nonempty, -, asked, -⟩ := (evaluateProposal_gaps hr).2 maybe
  exact ⟨r, hr, maybe, nonempty, asked⟩

end GAM
