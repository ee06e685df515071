import GAM.Governance.ChangeReport
import GAM.Governance.FirstEvaluation
import GAM.Governance.OpenFacts

/-!
# Change reports are sound and quiet

The rules that a re-evaluation reports are exactly those under which the two evaluations say different
things. The verdict and the risk are a function of the triggered predicates, so a report without F11 or
without F12 leaves both as they were; and a re-evaluation on the same facts reports nothing.
-/

namespace GAM
open Lib

section
variable [Platform] {s s₁ s₂ : EvaluationSnapshot} {c : RuleConfig} {f f₁ f₂ : Findings}
  {red red₁ red₂ : Reduction} {t t₁ t₂ : BuiltTrace} {r r₁ r₂ : CheckResult}

/-! ### What stands behind a result -/

/-- The findings, the reduction and the trace of a result. -/
structure Evaluated (s : EvaluationSnapshot) (c : RuleConfig) (r : CheckResult) (f : Findings)
    (red : Reduction) (t : BuiltTrace) : Prop where
  admitted : ∃ priorId, admission s c = .ok priorId ∧ collectFindings s c priorId = .ok f
  reduced : reduceFindings s c f = .ok red
  built : buildTrace s f red = .ok t
  outcome : r.verdict = red.verdict ∧ r.risk = red.risk
  gaps : r.evidenceGaps = red.gaps
  trace : r.operatorTrace = t.steps
  bindings : r.evaluationId = s.evaluationId ∧ r.evaluatorVersion = c.evaluatorVersion ∧
    r.ruleConfigDigest = c.ruleConfigDigest ∧ r.policyDigest = s.policy.policyDigest
  changed : changedFactIds t.steps red.gaps s = .ok r.changedFactRuleIds

/-- A finalized outcome comes from the findings, the reduction and the trace of the canonical snapshot. -/
lemma evaluateProposal_evaluated (h : evaluateProposal s c = .ok (.check r)) :
    ∃ f red t, Evaluated (canonicalSnapshot s) c r f red t := by
  obtain ⟨priorId, admitted, evaluated⟩ := evaluateCanonical_check.mp h
  simp only [evaluateAdmitted, bind_eq_ok, ensure_eq_ok, exists_unit, pure_eq_ok, Except.ok.injEq]
    at evaluated
  obtain ⟨f, collected, red, reduced, -, t, built, changed, reported, digest, -, rfl⟩ := evaluated
  exact ⟨f, red, t, ⟨priorId, admitted, collected⟩, reduced, built, ⟨rfl, rfl⟩, rfl, rfl,
    ⟨rfl, rfl, rfl, rfl⟩, reported⟩

/-- An evaluated snapshot has at most five precedents. -/
lemma Evaluated.top (h : Evaluated s c r f red t) : s.precedents.length ≤ 5 := by
  obtain ⟨_, admitted, -⟩ := h.admitted
  exact (admit_bindings admitted).1

/-- The projections of a trace: those of the facts, then the conclusion. -/
lemma Evaluated.project {l : List (String × Value)} (h : Evaluated s c r f red t)
    (projected : projections t.steps red.gaps = .ok l) :
    ∃ facts, l = facts ++ [(F12, conclusionValue red.verdict red.risk t.decisiveRules red.gaps)] ∧
      List.Forall₂ (fun d e => e.1 = d.ruleId ∧ FactStep.Keeps d e.2) f.descriptors facts := by
  obtain ⟨_, -, collected⟩ := h.admitted
  have counts := counts_of_projections collected h.built projected
  have all : ∀ d ∈ f.descriptors, d.Clean ∧ d.KeepsFlat := fun d hd =>
    ⟨collect_clean collected h.top counts d hd, collect_flat collected d hd⟩
  have each := mapAll_eq_ok.mp projected
  rw [operator_steps, (buildTrace_parts h.built).1] at each
  obtain ⟨facts, last, rfl, keeps, rest⟩ := projections_facts each all
  cases rest with
  | cons head tail =>
    cases tail
    cases (projection_conclusion h.built).symm.trans head
    exact ⟨facts, rfl, keeps⟩

/-- The group of a fact's rule holds what the facts say under it. -/
lemma Evaluated.group {l : List (String × Value)} {rule : String} (h : Evaluated s c r f red t)
    (projected : projections t.steps red.gaps = .ok l) (other : rule ≠ F12) :
    List.Forall₂ FactStep.Keeps (f.descriptors.filter fun d => d.ruleId == rule)
      (projectionGroup l rule) := by
  obtain ⟨facts, rfl, keeps⟩ := h.project projected
  have last : projectionGroup
      [(F12, conclusionValue red.verdict red.risk t.decisiveRules red.gaps)] rule = [] := by
    simp [projectionGroup, Ne.symm other]
  have split : projectionGroup (facts ++
      [(F12, conclusionValue red.verdict red.risk t.decisiveRules red.gaps)]) rule =
        projectionGroup facts rule := by
    rw [projectionGroup, List.filter_append, List.map_append]
    exact (congrArg (projectionGroup facts rule ++ ·) last).trans (List.append_nil _)
  rw [split]
  clear split last projected
  generalize f.descriptors = ds at keeps ⊢
  induction keeps with
  | nil => exact .nil
  | @cons d e ds es head _ ih =>
    rw [List.filter_cons, projectionGroup, List.filter_cons, head.1]
    split
    · exact .cons head.2 ih
    · exact ih

/-- The group of F12 holds the conclusion alone. -/
lemma Evaluated.conclusion {l : List (String × Value)} (h : Evaluated s c r f red t)
    (projected : projections t.steps red.gaps = .ok l) :
    projectionGroup l F12 = [conclusionValue red.verdict red.risk t.decisiveRules red.gaps] := by
  obtain ⟨_, -, collected⟩ := h.admitted
  obtain ⟨facts, rfl, keeps⟩ := h.project projected
  have none : projectionGroup facts F12 = [] := by
    rw [projectionGroup, List.map_eq_nil_iff, List.filter_eq_nil_iff]
    intro e he
    obtain ⟨d, hd, rule, -⟩ := forall₂_mem_right keeps e he
    have known := collect_ids collected h.top d hd
    have apart : F12 ∉ factIds := by decide
    rw [rule, beq_iff_eq]
    exact fun same => apart (same ▸ known)
  rw [projectionGroup, List.filter_append, List.map_append]
  exact congrArg (· ++ _) none

/-- What an evaluation concludes: verdict, risk, deciding rules and what the gaps ask. -/
def Reduction.conclusion (red : Reduction) (decisive : List String) :
    Verdict × Risk × List String × List (String ×ₗ String ×ₗ String ×ₗ String ×ₗ String) :=
  (red.verdict, red.risk, decisive, (sortedBy gapTuple red.gaps).map gapTuple)

/-! ### The exact report -/

/-- A rule is reported exactly when the two evaluations say different things under it. -/
lemma Evaluated.changed_iff {p : PriorEvaluationTrace} (h₁ : Evaluated s₁ c r₁ f₁ red₁ t₁)
    (h₂ : Evaluated s₂ c r₂ f₂ red₂ t₂) (prior : s₂.priorEvaluation = some p)
    (trace : p.operatorTrace = r₁.operatorTrace) (gaps : p.evidenceGaps = r₁.evidenceGaps) :
    (∀ rule, rule ≠ F12 →
      (rule ∈ r₂.changedFactRuleIds ↔ f₁.meaning rule ≠ f₂.meaning rule)) ∧
    (F12 ∈ r₂.changedFactRuleIds ↔
      red₁.conclusion t₁.decisiveRules ≠ red₂.conclusion t₂.decisiveRules) := by
  have reported := h₂.changed
  simp only [changedFactIds, prior, trace, gaps, h₁.trace, h₁.gaps, bind_eq_ok, pure_eq_ok,
    Except.ok.injEq] at reported
  obtain ⟨before, hb, after, ha, same⟩ := reported
  have mem : ∀ rule, rule ∈ r₂.changedFactRuleIds ↔
      valuesEq (projectionGroup before rule) (projectionGroup after rule) = false := by
    intro rule
    rw [← same, mem_changedRules]
    refine and_iff_right_of_imp fun different => ?_
    by_contra absent
    rw [List.map_append, List.mem_append, not_or] at absent
    have hb := not_not.mp (projectionGroup_ne_nil.not.mpr absent.1)
    have ha := not_not.mp (projectionGroup_ne_nil.not.mpr absent.2)
    rw [hb, ha] at different
    cases different
  refine ⟨fun rule other => ?_, ?_⟩
  · rw [mem, ← Bool.not_eq_true, not_iff_not]
    refine valuesEq_iff (h₁.group hb other) (h₂.group ha other) fun d hd d' hd' v w hv hw => ?_
    have rule₁ := (List.mem_filter.mp hd).2
    have rule₂ := (List.mem_filter.mp hd').2
    exact hv.valueEq hw ((beq_iff_eq.mp rule₁).trans (beq_iff_eq.mp rule₂).symm)
  · rw [mem, ← Bool.not_eq_true, not_iff_not, h₁.conclusion hb, h₂.conclusion ha]
    simp only [valuesEq, Bool.and_true, conclusion_eq, Reduction.conclusion, Prod.mk.injEq]

/-! ### The decision and its predicates -/

/-- A predicate that refuses. -/
def refuses (predicate : String) : Bool :=
  hasPrefix "F02_HARD_POLICY_OUTSIDE" predicate || hasPrefix "F03_ACTIVE_EXCLUSION_SAME" predicate ||
    hasPrefix "F09_CAPABILITY_FALSE:" predicate || hasPrefix "F10_DEPENDENCY_FALSE:" predicate

/-- A predicate that makes the answer conditional. -/
def conditional (predicate : String) : Bool := hasPrefix "F10_COMPLETE_FORMULA:" predicate

/-- The verdict and the risk that triggered predicates stand for. -/
def decisionOf (triggered : List String) : Verdict × Risk :=
  if triggered.any refuses then (.no, .high)
  else if triggered.any fun p => !conditional p then
    (.maybe, if triggered.any (hasPrefix "F08_HIGH") then .high else .medium)
  else if triggered ≠ [] then (.iff, .medium)
  else (.yes, .low)

/-- Each predicate of R1 is one of the four that refuse. -/
lemma rawR1_refuses {priorId : Option String} (e : collectFindings s c priorId = .ok f) :
    ∀ p ∈ f.rawR1, refuses p = true := by
  have scope : ∀ p ∈ (scopeFindings s).rawR1, refuses p = true := by
    unfold scopeFindings
    split
    · simp only [List.mem_singleton, forall_eq]
      decide
    · split <;> simp
  have exclusion : ∀ p ∈ (exclusionFindings s).rawR1, refuses p = true := by
    dsimp only [exclusionFindings]
    split
    · simp only [List.mem_singleton, forall_eq]
      decide
    · simp
  have capability : ∀ p ∈ (capabilityBody s).rawR1, refuses p = true := by
    intro p hp
    obtain ⟨id, -, rfl⟩ := List.mem_map.mp hp
    have start : hasPrefix "F09_CAPABILITY_FALSE:" ("F09_CAPABILITY_FALSE:" ++ id) = true := by
      rw [hasPrefix_append (by decide)]
      decide
    simp only [refuses, start, Bool.or_true, Bool.true_or]
  have dependency : ∀ ds : List DependencyRef, ∀ p ∈ (dependenciesFindings ds).rawR1, refuses p = true := by
    intro ds
    induction ds with
    | nil => simp [dependenciesFindings]
    | cons d ds ih =>
      rw [dependenciesFindings, Findings.rawR1_append, List.forall_mem_append]
      refine ⟨?_, ih⟩
      unfold oneDependency
      split
      · simp
      · simp only [List.mem_singleton, forall_eq]
        have start : hasPrefix "F10_DEPENDENCY_FALSE:" ("F10_DEPENDENCY_FALSE:" ++ d.dependencyId) =
            true := by
          rw [hasPrefix_append (by decide)]
          decide
        simp only [refuses, start, Bool.or_true]
      · split <;> simp
  rw [collect_rawR1 e]
  simp only [List.forall_mem_append]
  exact ⟨⟨⟨scope, exclusion⟩, capability⟩, dependency _⟩

omit [Platform] in
/-- A predicate does not refuse where it starts with none of the four heads. -/
lemma refuses_eq_false {p : String} : refuses p = false ↔
    hasPrefix "F02_HARD_POLICY_OUTSIDE" p = false ∧ hasPrefix "F03_ACTIVE_EXCLUSION_SAME" p = false ∧
      hasPrefix "F09_CAPABILITY_FALSE:" p = false ∧ hasPrefix "F10_DEPENDENCY_FALSE:" p = false := by
  simp only [refuses, Bool.or_eq_false_iff, and_assoc]

omit [Platform] in
/-- An open fact refuses nothing. -/
lemma OpenFact.predicate_asks (x : OpenFact) : refuses x.predicate = false := by
  rw [refuses_eq_false]
  cases x with
  | policySource | targetScope | approval | conflict => decide
  | similarity | evidence | divergence | consequence =>
    exact ⟨hasPrefix_head (by decide) (by decide) (by decide),
      hasPrefix_head (by decide) (by decide) (by decide),
      hasPrefix_head (by decide) (by decide) (by decide),
      hasPrefix_head (by decide) (by decide) (by decide)⟩
  | capabilityMissing | capabilityUnresolved =>
    exact ⟨hasPrefix_head (by decide) (by decide) (by decide),
      hasPrefix_head (by decide) (by decide) (by decide),
      (hasPrefix_append (by decide)).trans (by decide),
      hasPrefix_head (by decide) (by decide) (by decide)⟩
  | dependency =>
    exact ⟨hasPrefix_head (by decide) (by decide) (by decide),
      hasPrefix_head (by decide) (by decide) (by decide),
      hasPrefix_head (by decide) (by decide) (by decide),
      (hasPrefix_append (by decide)).trans (by decide)⟩

omit [Platform] in
/-- A complete formula refuses nothing, and is no high divergence. -/
lemma conditional_allows {p : String} (h : conditional p = true) :
    refuses p = false ∧ hasPrefix "F08_HIGH" p = false := by
  obtain ⟨rest, split⟩ := List.isPrefixOf_iff_prefix.mp h
  have formula : p = "F10_COMPLETE_FORMULA:" ++ String.ofList rest := by
    rw [← String.toList_inj, ← split, String.toList_append]
    exact congrArg (_ ++ ·) String.toList_ofList.symm
  rw [formula, refuses_eq_false]
  exact ⟨⟨hasPrefix_head (by decide) (by decide) (by decide),
    hasPrefix_head (by decide) (by decide) (by decide),
    hasPrefix_head (by decide) (by decide) (by decide), (hasPrefix_append (by decide)).trans (by decide)⟩,
    hasPrefix_head (by decide) (by decide) (by decide)⟩

/-- The verdict and the risk are those of the triggered predicates. -/
lemma reduce_decision {priorId : Option String} (e : collectFindings s c priorId = .ok f)
    (h : reduceFindings s c f = .ok red) :
    (red.verdict, red.risk) = decisionOf (triggeredPredicates f) := by
  have mem (p : String) : p ∈ triggeredPredicates f ↔ p ∈ f.rawR1 ∨ p ∈ f.rawR2 ∨ p ∈ f.rawR3 := by
    simp [triggeredPredicates]
  have r2 : ∀ p ∈ f.rawR2, refuses p = false ∧ conditional p = false := by
    intro p hp
    rw [(collect_records e).1] at hp
    obtain ⟨x, -, rfl⟩ := List.mem_map.mp hp
    exact ⟨x.predicate_asks, x.predicate_open⟩
  have r3 := collect_formulas e
  -- a predicate tells its list: R1 refuses, R2 asks, R3 is conditional
  have refused : (triggeredPredicates f).any refuses = true ↔ f.rawR1 ≠ [] := by
    rw [List.any_eq_true]
    constructor
    · rintro ⟨p, hp, refuse⟩ none
      rcases (mem p).mp hp with hp | hp | hp
      · rw [none] at hp
        cases hp
      · rw [(r2 p hp).1] at refuse
        cases refuse
      · rw [(conditional_allows (r3 p hp)).1] at refuse
        cases refuse
    · intro some
      obtain ⟨p, hp⟩ := List.exists_mem_of_ne_nil _ some
      exact ⟨p, (mem p).mpr (.inl hp), rawR1_refuses e p hp⟩
  have asked (allowed : f.rawR1 = []) :
      ((triggeredPredicates f).any fun p => !conditional p) = true ↔ f.rawR2 ≠ [] := by
    rw [List.any_eq_true]
    constructor
    · rintro ⟨p, hp, asks⟩ none
      rcases (mem p).mp hp with hp | hp | hp
      · rw [allowed] at hp
        cases hp
      · rw [none] at hp
        cases hp
      · rw [show conditional p = true from r3 p hp] at asks
        cases asks
    · intro some
      obtain ⟨p, hp⟩ := List.exists_mem_of_ne_nil _ some
      exact ⟨p, (mem p).mpr (.inr (.inl hp)), by rw [(r2 p hp).2]; rfl⟩
  have high (allowed : f.rawR1 = []) :
      (triggeredPredicates f).any (hasPrefix "F08_HIGH") = f.rawR2.any (hasPrefix "F08_HIGH") := by
    rw [Bool.eq_iff_iff, List.any_eq_true, List.any_eq_true]
    constructor
    · rintro ⟨p, hp, start⟩
      rcases (mem p).mp hp with hp | hp | hp
      · rw [allowed] at hp
        cases hp
      · exact ⟨p, hp, start⟩
      · rw [(conditional_allows (r3 p hp)).2] at start
        cases start
    · rintro ⟨p, hp, start⟩
      exact ⟨p, (mem p).mpr (.inr (.inl hp)), start⟩
  have nothing (allowed : f.rawR1 = []) (settled : f.rawR2 = []) :
      triggeredPredicates f ≠ [] ↔ f.rawR3 ≠ [] := by
    rw [not_iff_not, List.eq_nil_iff_forall_not_mem, List.eq_nil_iff_forall_not_mem]
    simp only [mem, allowed, settled, List.not_mem_nil, false_or]
  -- the branches of the reducer and of the declared decision run in step
  unfold reduceFindings at h
  unfold decisionOf
  split at h
  · rename_i r1
    simp only [bind_eq_ok, pure_eq_ok, Except.ok.injEq] at h
    obtain ⟨_, -, rfl⟩ := h
    rw [if_pos (refused.mpr r1)]
  · rename_i r1
    have allowed := not_not.mp r1
    rw [if_neg (refused.not.mpr r1)]
    split at h
    · rename_i open_
      simp only [bind_eq_ok, pure_eq_ok, Except.ok.injEq] at h
      obtain ⟨_, -, rfl⟩ := h
      rw [if_pos ((asked allowed).mpr open_), high allowed]
    · rename_i closed
      rw [if_neg ((asked allowed).not.mpr closed)]
      split at h
      · rename_i formula
        cases h
        rw [if_pos ((nothing allowed (not_not.mp closed)).mpr formula)]
      · rename_i formula
        rw [if_neg ((nothing allowed (not_not.mp closed)).not.mpr formula)]
        simp only [bind_eq_ok] at h
        obtain ⟨yes, -, h⟩ := h
        split at h
        · cases h
          rfl
        · cases h

/-- There is one fact under F11, and it lists the triggered predicates. -/
lemma aggregate_alone {priorId : Option String} (e : collectFindings s c priorId = .ok f) :
    ∃ aggregate, f.descriptors.filter (fun d => d.ruleId == F11) = [aggregate] ∧
      aggregate.ruleId = F11 ∧
      aggregate.result = .obj [("triggered_predicate_ids", jsonStrs (triggeredPredicates f))] := by
  obtain ⟨early, aggregate, shape⟩ := collect_descriptors e
  have before : (early ++ (sortedDependencies s).flatMap dependencySteps).filter
      (fun d => d.ruleId == F11) = [] := by
    rw [List.filter_eq_nil_iff]
    intro d hd
    rw [beq_iff_eq]
    rcases List.mem_append.mp hd with hd | hd
    · have known := shape.rules.subset (List.mem_map_of_mem hd)
      have apart : F11 ∉ earlyRules := by decide
      exact fun same => apart (same ▸ known)
    · obtain ⟨x, -, hd⟩ := List.mem_flatMap.mp hd
      simp only [dependencySteps, List.mem_cons, List.not_mem_nil, or_false] at hd
      rcases hd with rfl | rfl
      · exact (by decide : F10 ≠ F11)
      · exact (by decide : F10 ≠ F11)
  refine ⟨aggregate, ?_, shape.last.1, shape.triggered⟩
  rw [shape.all, List.filter_append, before, List.filter_cons, if_pos (beq_iff_eq.mpr shape.last.1)]
  rfl

/-- Under F11 the facts say which predicates were triggered. -/
lemma meaning_aggregate {priorId : Option String} (e : collectFindings s c priorId = .ok f) :
    ∃ family pole, f.meaning F11 = [(family, pole, [jsonStrs (triggeredPredicates f)])] := by
  obtain ⟨aggregate, alone, rule, result⟩ := aggregate_alone e
  have kept : (keptKeys aggregate.ruleId).map aggregate.member = [jsonStrs (triggeredPredicates f)] := by
    rw [rule, show keptKeys F11 = ["triggered_predicate_ids"] by decide, List.map_singleton,
      FactStep.member, result]
    rfl
  refine ⟨aggregate.family.value, aggregate.pole, ?_⟩
  rw [Findings.meaning, alone, List.map_singleton, FactStep.meaning, kept]

/-- What F11 says decides the verdict and the risk. -/
lemma Evaluated.decided (h₁ : Evaluated s₁ c r₁ f₁ red₁ t₁) (h₂ : Evaluated s₂ c r₂ f₂ red₂ t₂)
    (same : f₁.meaning F11 = f₂.meaning F11) :
    triggeredPredicates f₁ = triggeredPredicates f₂ ∧ r₁.verdict = r₂.verdict ∧ r₁.risk = r₂.risk := by
  obtain ⟨_, -, e₁⟩ := h₁.admitted
  obtain ⟨_, -, e₂⟩ := h₂.admitted
  obtain ⟨_, _, m₁⟩ := meaning_aggregate e₁
  obtain ⟨_, _, m₂⟩ := meaning_aggregate e₂
  rw [m₁, m₂] at same
  have lists : jsonStrs (triggeredPredicates f₁) = jsonStrs (triggeredPredicates f₂) := by
    simp only [List.cons.injEq, Prod.mk.injEq, and_true] at same
    exact same.2.2
  have triggered : triggeredPredicates f₁ = triggeredPredicates f₂ :=
    List.map_injective_iff.mpr (fun _ _ e => Json.str.inj e) (Json.arr.inj lists)
  have decision := (reduce_decision e₁ h₁.reduced).trans
    (triggered ▸ (reduce_decision e₂ h₂.reduced).symm)
  rw [Prod.mk.injEq] at decision
  refine ⟨triggered, ?_, ?_⟩
  · rw [h₁.outcome.1, h₂.outcome.1, decision.1]
  · rw [h₁.outcome.2, h₂.outcome.2, decision.2]

/-! ### The rules that decided -/

/-- No dependency has the form of a step of the evaluation. -/
def FreeOfSteps (s : EvaluationSnapshot) : Prop :=
  ∀ d ∈ s.dependencies, ∀ n rule, d.dependencyId ≠ stepIdOf s.evaluationId n rule

omit [Platform] in
/-- The identifier of a numbered step is made of its ordinal and rule. -/
lemma Numbered.stepId {evaluationId : String} {n : Nat} {steps : List TraceStep}
    (h : Numbered evaluationId n steps) {step : TraceStep} (hs : step ∈ steps) :
    ∃ m, step.stepId = stepIdOf evaluationId m step.ruleId := by
  obtain ⟨i, hi, rfl⟩ := List.mem_iff_getElem.mp hs
  obtain ⟨-, -, same⟩ := makeStepId_eq_ok.mp (h i hi)
  exact ⟨n + i, same.symm⟩

omit [Platform] in
/-- Where identifiers are not repeated, a step's identifier has its rule. -/
lemma ruleOfStep_mem {trace : List TraceStep} (nodup : (trace.map TraceStep.stepId).Nodup)
    {step : TraceStep} (hs : step ∈ trace) : ruleOfStep trace step.stepId = some step.ruleId := by
  have found : trace.reverse.find? (fun item => item.stepId == step.stepId) = some step := by
    have inj := List.inj_on_of_nodup_map nodup
    obtain ⟨item, hitem⟩ : ∃ item, trace.reverse.find? (fun item => item.stepId == step.stepId) = some item := by
      rw [← Option.isSome_iff_exists, List.find?_isSome]
      exact ⟨step, List.mem_reverse.mpr hs, beq_self_eq_true _⟩
    have same : (item.stepId == step.stepId) = true := @List.find?_some _ _ item _ hitem
    rw [hitem, inj (List.mem_reverse.mp (List.mem_of_find?_eq_some hitem)) hs (beq_iff_eq.mp same)]
  rw [ruleOfStep, found]
  rfl

omit [Platform] in
/-- An identifier that no step has names no rule. -/
lemma ruleOfStep_none {trace : List TraceStep} {id : String} (h : ∀ step ∈ trace, step.stepId ≠ id) :
    ruleOfStep trace id = none := by
  have absent : trace.reverse.find? (fun item => item.stepId == id) = none := by
    rw [List.find?_eq_none]
    exact fun step hs same => h step (List.mem_reverse.mp hs) (beq_iff_eq.mp same)
  rw [ruleOfStep, absent]
  rfl

/-- The identifier of a gap has no colon, that of a step has. -/
lemma gap_ne_step {witness : Witness} {a b d e : String} {evaluationId rule : String} {n : Nat} :
    (gap witness a b d e).gapId ≠ stepIdOf evaluationId n rule := by
  intro same
  have colon : ':' ∈ (stepIdOf evaluationId n rule).toList := by
    simp [stepIdOf]
  rw [← same, gap, String.toList_append, List.mem_append] at colon
  rcases colon with h | h
  · exact absurd h (by decide)
  · rw [String.toList_ofList] at h
    have hex := Platform.sha256_hex (gapSignature witness a b d e).dumps
    rw [isHex64, Bool.and_eq_true, List.all_eq_true] at hex
    exact absurd (hex.2 _ (List.mem_of_mem_take h)) (by decide)

/-- The gaps of a reduction are gaps that the facts ask. -/
lemma reduction_gaps {priorId : Option String} (e : collectFindings s c priorId = .ok f)
    (h : reduceFindings s c f = .ok red) :
    ∀ g ∈ red.gaps, ∃ witness a b d e, g = gap witness a b d e := by
  intro g hg
  rw [reduceFindings_gaps h] at hg
  split at hg
  · rw [mem_sortedBy, List.mem_dedup, (collect_records e).2] at hg
    obtain ⟨x, -, hx⟩ := List.mem_flatMap.mp hg
    cases x <;> simp only [OpenFact.gaps, List.mem_cons, List.not_mem_nil, or_false] at hx <;>
      rcases hx with rfl | rfl <;> exact ⟨_, _, _, _, _, rfl⟩
  · cases hg

/-- The rules of the reduction: its own and those of the decisive facts. -/
def Reduction.rules (f : Findings) (red : Reduction) : List String :=
  red.reducerId :: (f.descriptors.filter fun d => d.ruleId ∈ red.decisiveRules).map FactStep.ruleId

/-- The terminal step names the rules of the reduction. -/
lemma Evaluated.decisive (h : Evaluated s c r f red t) (free : FreeOfSteps s) :
    t.decisiveRules = sortedBy id (red.rules f) := by
  obtain ⟨_, -, collected⟩ := h.admitted
  obtain ⟨facts, numbered, reducerId, becauseId, reducer, terminal⟩ := buildTrace_parts h.built
  have nodup := numbered.nodup
  have own : ruleOfStep t.steps reducerId = some red.reducerId := by
    have mem : .reducer t.reducer ∈ t.steps := by simp [BuiltTrace.steps]
    have found := ruleOfStep_mem nodup mem
    rw [reducer] at found
    exact found
  have steps : (decisiveSteps t.facts red.decisiveRules).filterMap (ruleOfStep t.steps) =
      (f.descriptors.filter fun d => d.ruleId ∈ red.decisiveRules).map FactStep.ruleId := by
    have each : ∀ step ∈ t.facts.filter (fun step => step.ruleId ∈ red.decisiveRules),
        ruleOfStep t.steps step.stepId = some step.ruleId := by
      intro step hs
      have mem : .operator step ∈ t.steps :=
        List.mem_append_left _ (List.mem_map_of_mem (List.mem_of_mem_filter hs))
      exact ruleOfStep_mem nodup mem
    rw [decisiveSteps, List.filterMap_map, List.filterMap_congr (g := fun step => some step.ruleId) each,
      List.filterMap_eq_map', facts, List.filter_map, List.map_map]
    conv_rhs => rw [← List.zipIdx_map_fst 1 f.descriptors, List.filter_map, List.map_map]
    rfl
  have gaps : (red.gaps.map EvidenceGap.gapId).filterMap (ruleOfStep t.steps) = [] := by
    rw [List.filterMap_eq_nil_iff]
    intro id hid
    obtain ⟨g, hg, rfl⟩ := List.mem_map.mp hid
    obtain ⟨_, _, _, _, _, rfl⟩ := reduction_gaps collected h.reduced g hg
    refine ruleOfStep_none fun step hs same => ?_
    obtain ⟨m, stepId⟩ := numbered.stepId hs
    exact gap_ne_step (same.symm.trans stepId)
  have dependencies : (((sortedDependencies s).filter fun d => d.state == .unresolved).map
      DependencyRef.dependencyId).filterMap (ruleOfStep t.steps) = [] := by
    rw [List.filterMap_eq_nil_iff]
    intro id hid
    obtain ⟨d, hd, rfl⟩ := List.mem_map.mp hid
    have mem : d ∈ s.dependencies := mem_sortedBy.mp (List.mem_of_mem_filter hd)
    refine ruleOfStep_none fun step hs same => ?_
    obtain ⟨m, stepId⟩ := numbered.stepId hs
    exact free d mem m _ (same.symm.trans stepId)
  rw [BuiltTrace.decisiveRules, terminal, becauseStep, List.filterMap_cons, own]
  simp only [List.filterMap_append, steps, gaps, dependencies, List.append_nil, Reduction.rules]

/-! ### The same facts -/

/-- Two snapshots that differ only in what identifies an evaluation. -/
def SameFacts (s₁ s₂ : EvaluationSnapshot) : Prop :=
  s₂ = { s₁ with
    evaluationId := s₂.evaluationId
    snapshotId := s₂.snapshotId
    profileVersion := s₂.profileVersion
    priorEvaluation := s₂.priorEvaluation
    capturedAt := s₂.capturedAt
    snapshotDigest := s₂.snapshotDigest }

omit [Platform] in
/-- The canonical snapshots have the same facts. -/
lemma SameFacts.canonical (h : SameFacts s₁ s₂) : SameFacts (canonicalSnapshot s₁) (canonicalSnapshot s₂) := by
  obtain ⟨_, _, _, _, _, _, _, _, _, _, _, _⟩ := s₁
  obtain ⟨_, _, _, _, _, _, _, _, _, _, _, _⟩ := s₂
  simp only [SameFacts, EvaluationSnapshot.mk.injEq, true_and, and_true] at h
  obtain ⟨rfl, rfl, rfl, rfl, rfl, rfl⟩ := h
  rfl

/-- The findings differ in the first fact only, and that one means the same. -/
structure SameFindings (f₁ f₂ : Findings) : Prop where
  descriptors : ∃ d₁ d₂ rest, f₁.descriptors = d₁ :: rest ∧ f₂.descriptors = d₂ :: rest ∧
    d₁.ruleId = d₂.ruleId ∧ d₁.meaning = d₂.meaning
  candidateGaps : f₁.candidateGaps = f₂.candidateGaps
  rawR1 : f₁.rawR1 = f₂.rawR1
  rawR2 : f₁.rawR2 = f₂.rawR2
  rawR3 : f₁.rawR3 = f₂.rawR3
  decisiveRules : f₁.decisiveRules = f₂.decisiveRules

/-- The same facts give the same findings. -/
lemma SameFacts.collect {p₁ p₂ : Option String} (same : SameFacts s₁ s₂)
    (e₁ : collectFindings s₁ c p₁ = .ok f₁) (e₂ : collectFindings s₂ c p₂ = .ok f₂) :
    SameFindings f₁ f₂ := by
  obtain ⟨_, _, _, _, _, _, _, _, _, _, _, _⟩ := s₁
  obtain ⟨_, _, _, _, _, _, _, _, _, _, _, _⟩ := s₂
  simp only [SameFacts, EvaluationSnapshot.mk.injEq, true_and, and_true] at same
  obtain ⟨rfl, rfl, rfl, rfl, rfl, rfl⟩ := same
  obtain ⟨d₁, hd₁, -, rfl⟩ := collectFindings_eq_ok.mp e₁
  obtain ⟨d₂, hd₂, -, rfl⟩ := collectFindings_eq_ok.mp e₂
  have divergence : d₁ = d₂ := Except.ok.inj (hd₁.symm.trans hd₂)
  subst divergence
  exact ⟨⟨_, _, _, rfl, rfl, rfl, rfl⟩, rfl, rfl, rfl, rfl, rfl⟩

omit [Platform] in
/-- The same findings on the same facts are reduced alike. -/
lemma SameFacts.reduce (same : SameFacts s₁ s₂) (h : SameFindings f₁ f₂) :
    reduceFindings s₁ c f₁ = reduceFindings s₂ c f₂ := by
  have parts : approvedPrecedents s₁ c = approvedPrecedents s₂ c ∧
      requiredCapabilityIds s₁ = requiredCapabilityIds s₂ ∧
      sortedDependencies s₁ = sortedDependencies s₂ ∧ yesConditions s₁ c = yesConditions s₂ c ∧
      capabilityState s₁ = capabilityState s₂ := by
    obtain ⟨_, _, _, _, _, _, _, _, _, _, _, _⟩ := s₁
    obtain ⟨_, _, _, _, _, _, _, _, _, _, _, _⟩ := s₂
    simp only [SameFacts, EvaluationSnapshot.mk.injEq, true_and, and_true] at same
    obtain ⟨rfl, rfl, rfl, rfl, rfl, rfl⟩ := same
    exact ⟨rfl, rfl, rfl, rfl, rfl⟩
  obtain ⟨approved, required, dependencies, conditions, state⟩ := parts
  have capabilities (ids : List String) : capabilitiesTrue s₁ ids = capabilitiesTrue s₂ ids := by
    induction ids with
    | nil => rfl
    | cons id ids ih => rw [capabilitiesTrue, capabilitiesTrue, state, ih]
  have branch : yesBranch s₁ c = yesBranch s₂ c := by
    rw [yesBranch, yesBranch, conditions, capabilities, required, dependencies]
  simp only [reduceFindings, h.rawR1, h.rawR2, h.rawR3, h.candidateGaps, h.decisiveRules, branch,
    approved, required, dependencies]

omit [Platform] in
/-- The same findings say the same under each rule. -/
lemma SameFindings.meaning (h : SameFindings f₁ f₂) (rule : String) : f₁.meaning rule = f₂.meaning rule := by
  obtain ⟨d₁, d₂, rest, h₁, h₂, id, mean⟩ := h.descriptors
  rw [Findings.meaning, Findings.meaning, h₁, h₂, List.filter_cons, List.filter_cons, id]
  split
  · rw [List.map_cons, List.map_cons, mean]
  · rfl

omit [Platform] in
/-- The same findings decide by the same rules. -/
lemma SameFindings.rules (h : SameFindings f₁ f₂) : red.rules f₁ = red.rules f₂ := by
  obtain ⟨d₁, d₂, rest, h₁, h₂, id, -⟩ := h.descriptors
  rw [Reduction.rules, Reduction.rules, h₁, h₂, List.filter_cons, List.filter_cons, id]
  split
  · rw [List.map_cons, List.map_cons, id]
  · rfl

/-! ### The report of a re-evaluation -/

omit [Platform] in
/-- The canonical snapshot has the same dependencies' identifiers. -/
lemma FreeOfSteps.canonical (h : FreeOfSteps s) : FreeOfSteps (canonicalSnapshot s) :=
  fun d hd => h d (mem_sortedBy.mp hd)

/-- The report is exact. A rule of a fact is reported exactly when the facts of the two evaluations say
different things under it, and F12 exactly when they conclude differently: in the verdict, the risk, the
rules that decided or what the gaps ask. -/
theorem evaluateProposal_changes {p : PriorEvaluationTrace}
    (h₁ : evaluateProposal s₁ c = .ok (.check r₁)) (h₂ : evaluateProposal s₂ c = .ok (.check r₂))
    (prior : s₂.priorEvaluation = some p) (trace : p.operatorTrace = r₁.operatorTrace)
    (gaps : p.evidenceGaps = r₁.evidenceGaps) (free₁ : FreeOfSteps s₁) (free₂ : FreeOfSteps s₂) :
    ∃ f₁ red₁ t₁ f₂ red₂ t₂, Evaluated (canonicalSnapshot s₁) c r₁ f₁ red₁ t₁ ∧
      Evaluated (canonicalSnapshot s₂) c r₂ f₂ red₂ t₂ ∧
      (∀ rule, rule ≠ F12 → (rule ∈ r₂.changedFactRuleIds ↔ f₁.meaning rule ≠ f₂.meaning rule)) ∧
      (F12 ∈ r₂.changedFactRuleIds ↔ red₁.conclusion (sortedBy id (red₁.rules f₁)) ≠
        red₂.conclusion (sortedBy id (red₂.rules f₂))) := by
  obtain ⟨f₁, red₁, t₁, e₁⟩ := evaluateProposal_evaluated h₁
  obtain ⟨f₂, red₂, t₂, e₂⟩ := evaluateProposal_evaluated h₂
  obtain ⟨facts, conclusion⟩ := e₁.changed_iff e₂ prior trace gaps
  rw [e₁.decisive free₁.canonical, e₂.decisive free₂.canonical] at conclusion
  exact ⟨f₁, red₁, t₁, f₂, red₂, t₂, e₁, e₂, facts, conclusion⟩

/-- The texts of the F11 steps list the triggered predicates. -/
lemma Evaluated.aggregate_text (h : Evaluated s c r f red t) {step : OperatorTraceStep}
    (hs : .operator step ∈ r.operatorTrace) (rule : step.ruleId = F11) :
    step.resultJson = (Json.obj [("triggered_predicate_ids", jsonStrs (triggeredPredicates f))]).dumps := by
  obtain ⟨_, -, collected⟩ := h.admitted
  obtain ⟨aggregate, alone, -, result⟩ := aggregate_alone collected
  obtain ⟨facts, -, _, _, -, terminal⟩ := buildTrace_parts h.built
  rw [h.trace, BuiltTrace.steps, List.mem_append] at hs
  rcases hs with hs | hs
  · obtain ⟨step, hs, same⟩ := List.mem_map.mp hs
    cases same
    obtain ⟨d, hd, i, rfl⟩ := mem_built (facts ▸ hs)
    have mem : d ∈ f.descriptors.filter (fun d => d.ruleId == F11) :=
      List.mem_filter.mpr ⟨hd, beq_iff_eq.mpr rule⟩
    rw [alone] at mem
    cases List.mem_singleton.mp mem
    rw [builtStep, result]
  · simp only [List.mem_cons, reduceCtorEq, TraceStep.operator.injEq, List.not_mem_nil, or_false,
      false_or] at hs
    rw [hs, terminal] at rule
    exact absurd rule (by decide : F12 ≠ F11)

/-- Where no rule is reported the re-evaluation has the verdict, the risk, the questions and the triggered
predicates of the prior one; where the verdict or the risk differ, F11 and F12 are reported. -/
lemma Evaluated.changes_sound {p : PriorEvaluationTrace} (e₁ : Evaluated s₁ c r₁ f₁ red₁ t₁)
    (e₂ : Evaluated s₂ c r₂ f₂ red₂ t₂) (prior : s₂.priorEvaluation = some p)
    (trace : p.operatorTrace = r₁.operatorTrace) (gaps : p.evidenceGaps = r₁.evidenceGaps) :
    (r₂.changedFactRuleIds = [] → r₂.verdict = r₁.verdict ∧ r₂.risk = r₁.risk ∧
      (sortedBy gapTuple r₂.evidenceGaps).map gapTuple = (sortedBy gapTuple r₁.evidenceGaps).map gapTuple ∧
      ∀ step step', .operator step ∈ r₁.operatorTrace → .operator step' ∈ r₂.operatorTrace →
        step.ruleId = F11 → step'.ruleId = F11 → step'.resultJson = step.resultJson) ∧
    (r₂.verdict ≠ r₁.verdict ∨ r₂.risk ≠ r₁.risk →
      F11 ∈ r₂.changedFactRuleIds ∧ F12 ∈ r₂.changedFactRuleIds) := by
  obtain ⟨facts, conclusion⟩ := e₁.changed_iff e₂ prior trace gaps
  have decided : F11 ∉ r₂.changedFactRuleIds → triggeredPredicates f₁ = triggeredPredicates f₂ ∧
      r₁.verdict = r₂.verdict ∧ r₁.risk = r₂.risk := fun silent =>
    e₁.decided e₂ (not_not.mp fun differ => silent ((facts F11 (by decide)).mpr differ))
  constructor
  · intro none
    have silent (rule : String) : rule ∉ r₂.changedFactRuleIds := none ▸ List.not_mem_nil
    obtain ⟨triggered, verdict, risk⟩ := decided (silent F11)
    have concluded := not_not.mp fun differ => silent F12 (conclusion.mpr differ)
    rw [Reduction.conclusion, Reduction.conclusion, Prod.mk.injEq, Prod.mk.injEq, Prod.mk.injEq] at concluded
    refine ⟨verdict.symm, risk.symm, ?_, fun step step' hs hs' rule rule' => ?_⟩
    · rw [e₁.gaps, e₂.gaps]
      exact concluded.2.2.2.symm
    · rw [e₁.aggregate_text hs rule, e₂.aggregate_text hs' rule', triggered]
  · intro differ
    constructor
    · by_contra silent
      obtain ⟨-, verdict, risk⟩ := decided silent
      exact differ.elim (fun h => h verdict.symm) fun h => h risk.symm
    · refine conclusion.mpr fun same => ?_
      rw [Reduction.conclusion, Reduction.conclusion, Prod.mk.injEq, Prod.mk.injEq] at same
      rw [e₁.outcome.1, e₁.outcome.2, e₂.outcome.1, e₂.outcome.2] at differ
      exact differ.elim (fun h => h same.1.symm) fun h => h same.2.1.symm

/-- A re-evaluation on the same facts has the verdict, the risk and the gaps of the prior one and reports no
rule. -/
lemma Evaluated.changes_quiet {p : PriorEvaluationTrace} (same : SameFacts s₁ s₂)
    (e₁ : Evaluated s₁ c r₁ f₁ red₁ t₁) (e₂ : Evaluated s₂ c r₂ f₂ red₂ t₂)
    (prior : s₂.priorEvaluation = some p) (trace : p.operatorTrace = r₁.operatorTrace)
    (gaps : p.evidenceGaps = r₁.evidenceGaps) (free₁ : FreeOfSteps s₁) (free₂ : FreeOfSteps s₂) :
    r₂.verdict = r₁.verdict ∧ r₂.risk = r₁.risk ∧ r₂.evidenceGaps = r₁.evidenceGaps ∧
      r₂.changedFactRuleIds = [] := by
  obtain ⟨facts, conclusion⟩ := e₁.changed_iff e₂ prior trace gaps
  obtain ⟨_, -, collected₁⟩ := e₁.admitted
  obtain ⟨_, -, collected₂⟩ := e₂.admitted
  have found := same.collect collected₁ collected₂
  have reduced : red₁ = red₂ :=
    Except.ok.inj (e₁.reduced.symm.trans ((same.reduce found).trans e₂.reduced))
  subst reduced
  refine ⟨e₂.outcome.1.trans e₁.outcome.1.symm, e₂.outcome.2.trans e₁.outcome.2.symm,
    e₂.gaps.trans e₁.gaps.symm, List.eq_nil_iff_forall_not_mem.mpr fun rule reported => ?_⟩
  by_cases last : rule = F12
  · rw [last, conclusion, e₁.decisive free₁, e₂.decisive free₂, found.rules] at reported
    exact reported rfl
  · exact (facts rule last).mp reported (found.meaning rule)

/-- Nothing is hidden. Where no rule is reported the re-evaluation has the verdict, the risk, the questions
and the triggered predicates of the prior one; where the verdict or the risk differ, F11 and F12 are
reported. -/
theorem evaluateProposal_changes_sound {p : PriorEvaluationTrace}
    (h₁ : evaluateProposal s₁ c = .ok (.check r₁)) (h₂ : evaluateProposal s₂ c = .ok (.check r₂))
    (prior : s₂.priorEvaluation = some p) (trace : p.operatorTrace = r₁.operatorTrace)
    (gaps : p.evidenceGaps = r₁.evidenceGaps) :
    (r₂.changedFactRuleIds = [] → r₂.verdict = r₁.verdict ∧ r₂.risk = r₁.risk ∧
      (sortedBy gapTuple r₂.evidenceGaps).map gapTuple = (sortedBy gapTuple r₁.evidenceGaps).map gapTuple ∧
      ∀ step step', .operator step ∈ r₁.operatorTrace → .operator step' ∈ r₂.operatorTrace →
        step.ruleId = F11 → step'.ruleId = F11 → step'.resultJson = step.resultJson) ∧
    (r₂.verdict ≠ r₁.verdict ∨ r₂.risk ≠ r₁.risk →
      F11 ∈ r₂.changedFactRuleIds ∧ F12 ∈ r₂.changedFactRuleIds) := by
  obtain ⟨f₁, red₁, t₁, e₁⟩ := evaluateProposal_evaluated h₁
  obtain ⟨f₂, red₂, t₂, e₂⟩ := evaluateProposal_evaluated h₂
  exact e₁.changes_sound e₂ prior trace gaps

/-- Nothing is invented. A re-evaluation on the same facts has the verdict, the risk and the gaps of the
prior one and reports no rule, whatever identifies it. -/
theorem evaluateProposal_changes_quiet {p : PriorEvaluationTrace} (same : SameFacts s₁ s₂)
    (h₁ : evaluateProposal s₁ c = .ok (.check r₁)) (h₂ : evaluateProposal s₂ c = .ok (.check r₂))
    (prior : s₂.priorEvaluation = some p) (trace : p.operatorTrace = r₁.operatorTrace)
    (gaps : p.evidenceGaps = r₁.evidenceGaps) (free₁ : FreeOfSteps s₁) (free₂ : FreeOfSteps s₂) :
    r₂.verdict = r₁.verdict ∧ r₂.risk = r₁.risk ∧ r₂.evidenceGaps = r₁.evidenceGaps ∧
      r₂.changedFactRuleIds = [] := by
  obtain ⟨f₁, red₁, t₁, e₁⟩ := evaluateProposal_evaluated h₁
  obtain ⟨f₂, red₂, t₂, e₂⟩ := evaluateProposal_evaluated h₂
  exact e₁.changes_quiet same.canonical e₂ prior trace gaps free₁.canonical free₂.canonical

/-- The report of a re-evaluation against the trace of a prior result is sound and quiet. An empty report
stands for the same verdict, risk, questions and triggered predicates; a change of the verdict or of the risk
is reported under F11 and F12; and on the same facts nothing changes and nothing is reported. -/
theorem evaluateProposal_reports {p : PriorEvaluationTrace}
    (h₁ : evaluateProposal s₁ c = .ok (.check r₁)) (h₂ : evaluateProposal s₂ c = .ok (.check r₂))
    (prior : s₂.priorEvaluation = some p) (trace : p.operatorTrace = r₁.operatorTrace)
    (gaps : p.evidenceGaps = r₁.evidenceGaps) (free₁ : FreeOfSteps s₁) (free₂ : FreeOfSteps s₂) :
    (r₂.changedFactRuleIds = [] → r₂.verdict = r₁.verdict ∧ r₂.risk = r₁.risk ∧
      (sortedBy gapTuple r₂.evidenceGaps).map gapTuple = (sortedBy gapTuple r₁.evidenceGaps).map gapTuple ∧
      ∀ step step', .operator step ∈ r₁.operatorTrace → .operator step' ∈ r₂.operatorTrace →
        step.ruleId = F11 → step'.ruleId = F11 → step'.resultJson = step.resultJson) ∧
    (r₂.verdict ≠ r₁.verdict ∨ r₂.risk ≠ r₁.risk →
      F11 ∈ r₂.changedFactRuleIds ∧ F12 ∈ r₂.changedFactRuleIds) ∧
    (SameFacts s₁ s₂ → r₂.verdict = r₁.verdict ∧ r₂.risk = r₁.risk ∧
      r₂.evidenceGaps = r₁.evidenceGaps ∧ r₂.changedFactRuleIds = []) := by
  obtain ⟨f₁, red₁, t₁, e₁⟩ := evaluateProposal_evaluated h₁
  obtain ⟨f₂, red₂, t₂, e₂⟩ := evaluateProposal_evaluated h₂
  obtain ⟨silent, reported⟩ := e₁.changes_sound e₂ prior trace gaps
  refine ⟨silent, reported, fun same => ?_⟩
  exact e₁.changes_quiet same.canonical e₂ prior trace gaps free₁.canonical free₂.canonical

/-! ### A refusal that is lifted -/

/-- An exclusion of the keys of the smallest proposal. -/
def keyExclusion : ExclusionRef where
  exclusionId := "exclusion"
  actionType := "SET_DEMO_VALUE"
  actionTypeKey := "set_demo_value"
  target := "demo_kv:alpha"
  targetKey := "demo_kv:alpha"
  reason := "reason"
  sourceProposalId := "source"
  sourceEvaluationId := "evaluation"
  sourceEvaluationTraceDigest := zeroDigest
  sourceDecisionId := "decision"
  sourceDecisionValue := .reject
  sourceDecisionDigest := zeroDigest
  exclusionDigest := zeroDigest
  idempotencyKey := "key"

/-- The first evaluation of the demo proposal, with exclusions. -/
def excludedFirst (exclusions : List ExclusionRef) : EvaluationSnapshot :=
  demoSnapshot "first" "proposal" [] [] exclusions [] none

/-- Its re-evaluation after a result. -/
def evaluatedAgain (exclusions : List ExclusionRef) (r : CheckResult) : EvaluationSnapshot :=
  demoSnapshot "second" "proposal" [] [] exclusions [] (some (priorOfResult r "proposal"))

/-- Valid exclusions in their order make a proper first snapshot. -/
lemma proper_of_exclusions {exclusions : List ExclusionRef} (sorted : sortedExclusions exclusions = exclusions)
    (valid : ∀ e ∈ exclusions, FieldsValid e ∧ checkExclusion e = .ok ()) :
    Proper [] [] exclusions [] where
  ruleOrder := rfl
  refOrder := rfl
  exclusionOrder := sorted
  precedentOrder := rfl
  few := by decide
  valid := fun _ h => absurd h List.not_mem_nil
  encodes := fun _ h => absurd h List.not_mem_nil
  bound := fun _ h => absurd h List.not_mem_nil
  fields := fun e he => (valid e he).1
  checked := forAll_eq_ok.mpr fun e he => (valid e he).2

/-- An exclusion of the demo's keys makes a proper first snapshot. -/
lemma keyExclusion_proper : Proper [] [] [keyExclusion] [] := by
  refine proper_of_exclusions rfl fun e he => ?_
  cases List.mem_singleton.mp he
  have action : normalizeActionTargetKey "SET_DEMO_VALUE" = .ok "set_demo_value" :=
    normalize_ascii (by decide) (by decide) (by decide) (by decide) (by decide)
  have target : normalizeActionTargetKey "demo_kv:alpha" = .ok "demo_kv:alpha" :=
    normalize_ascii (by decide) (by decide) (by decide) (by decide) (by decide)
  refine ⟨ExclusionRef.fieldsValid.mpr (by decide), ?_⟩
  simp only [checkExclusion, checkKey, bind_eq_ok, ensure_eq_ok, exists_unit]
  exact ⟨⟨_, action, rfl⟩, ⟨_, target, rfl⟩, rfl⟩

/-- A refusal by an exclusion is re-evaluated, whatever exclusions are in force then. -/
lemma reevaluated {exclusions : List ExclusionRef} (proper : Proper [] [] exclusions []) :
    ∃ r₁ r₂, evaluateProposal (excludedFirst [keyExclusion]) pinnedConfig = .ok (.check r₁) ∧
      evaluateProposal (evaluatedAgain exclusions r₁) pinnedConfig = .ok (.check r₂) := by
  obtain ⟨r₁, h₁⟩ := keyExclusion_proper.demo_finalized (show "first" ≠ "" by decide)
  obtain ⟨f₁, red₁, t₁, e₁⟩ := evaluateProposal_evaluated h₁
  obtain ⟨priorId, admitted, evaluated⟩ := evaluateCanonical_check.mp h₁
  have forbidden : Forbidden (excludedFirst [keyExclusion]) :=
    .inr (.inl ⟨keyExclusion, List.mem_singleton_self _, rfl, rfl⟩)
  have counts : CountsReadable (excludedFirst [keyExclusion]) pinnedConfig :=
    natChars_small (n := 0) (by decide)
  have canonical := @Proper.demo_canonical _ _ _ _ _ "first" "proposal" none keyExclusion_proper
  rw [canonical] at admitted evaluated e₁
  -- the first result is valid, so it can be a prior
  have valid : validateCheckResult r₁ = .ok r₁ := (evaluateAdmitted_accepted admitted evaluated).mpr
    { counts := counts
      dependencies := fun _ h => absurd h List.not_mem_nil
      rules := fun allowed => absurd forbidden allowed
      gaps := fun allowed => absurd forbidden allowed
      prior := fun _ h => by cases h }
  obtain ⟨_, -, collected⟩ := e₁.admitted
  obtain ⟨l, projected⟩ := @projections_ok _ _ _ _ _ _ _ red₁.gaps collected e₁.top e₁.built counts
  have input : validateInput (evaluatedAgain exclusions r₁) pinnedConfig = .ok () := by
    refine proper.demo_input (show "second" ≠ "" by decide) fun x hx => ?_
    cases hx
    exact priorOfResult_valid valid
  have again : admission (evaluatedAgain exclusions r₁) pinnedConfig = .ok (some r₁.evaluationId) := by
    rw [admission, input, ok_bind]
    exact congrArg (· >>= fun _ => pure (some r₁.evaluationId)) (ensure_pos e₁.bindings.2)
  have canonical' : canonicalSnapshot (evaluatedAgain exclusions r₁) = evaluatedAgain exclusions r₁ :=
    proper.demo_canonical
  -- the second has no more steps than the first, and its prior trace is projected
  have finalized : ∃ r₂, evaluateProposal (evaluatedAgain exclusions r₁) pinnedConfig = .ok (.check r₂) := by
    rw [evaluateProposal, canonical', evaluateCanonical_check_iff]
    refine ⟨⟨_, again⟩, ?_⟩
    exact
      { reports := fun _ h => absurd h List.not_mem_nil
        capabilities := List.nodup_nil
        length := by
          have bound : stepCount (evaluatedAgain exclusions r₁) pinnedConfig ≤ 10 + 2 * 0 := stepCount_le
          omega
        evaluationId := (by decide : "second" ≠ "")
        prior := fun x hx => by
          cases hx
          refine ⟨⟨l, ?_⟩, natChars_small (n := 0) (by decide)⟩
          rw [priorOfResult, e₁.trace, e₁.gaps]
          exact projected }
  obtain ⟨r₂, h₂⟩ := finalized
  exact ⟨r₁, r₂, h₁, h₂⟩

/-- The first evaluation has no dependencies. -/
lemma excludedFirst_free {exclusions : List ExclusionRef} : FreeOfSteps (excludedFirst exclusions) :=
  fun _ h => absurd h List.not_mem_nil

/-- The second evaluation has the facts of the first. -/
lemma evaluatedAgain_same {exclusions : List ExclusionRef} :
    SameFacts (excludedFirst exclusions) (evaluatedAgain exclusions r) := rfl

/-- The second evaluation has no dependencies. -/
lemma evaluatedAgain_free {exclusions : List ExclusionRef} : FreeOfSteps (evaluatedAgain exclusions r) :=
  fun _ h => absurd h List.not_mem_nil

/-- Without the exclusion that refused the verdict is another one. -/
lemma lifted_verdict (h₁ : evaluateProposal (excludedFirst [keyExclusion]) pinnedConfig = .ok (.check r₁))
    (h₂ : evaluateProposal (evaluatedAgain [] r₁) pinnedConfig = .ok (.check r₂)) :
    r₂.verdict ≠ r₁.verdict := by
  have refused : Forbidden (excludedFirst [keyExclusion]) :=
    .inr (.inl ⟨keyExclusion, List.mem_singleton_self _, rfl, rfl⟩)
  have lifted : ¬Forbidden (evaluatedAgain [] r₁) := by
    rintro (⟨_, ⟨h, -⟩⟩ | ⟨_, h, -⟩ | ⟨_, ⟨_, ⟨h, -⟩, -⟩, -⟩ | ⟨_, h, -⟩) <;> cases h
  have no : (r₁.verdict, r₁.risk) = (.no, .high) := by
    rw [evaluateProposal_declared h₁, declaredOutcome, if_pos refused]
  have other : r₂.verdict ≠ .no := by
    intro same
    have outcome := congrArg Prod.fst (evaluateProposal_declared h₂)
    rw [same, declaredOutcome, if_neg lifted] at outcome
    split at outcome
    · cases outcome
    · split at outcome <;> cases outcome
  exact (Prod.mk.inj no).1 ▸ other

end

/-- A re-evaluation without the exclusion that refused reports exactly what changed. -/
theorem evaluateProposal_changes_lifted :
    let _ := asciiPlatform
    ∃ r₁ r₂ f₁ red₁ t₁ f₂ red₂ t₂,
      Evaluated (canonicalSnapshot (excludedFirst [keyExclusion])) pinnedConfig r₁ f₁ red₁ t₁ ∧
      Evaluated (canonicalSnapshot (evaluatedAgain [] r₁)) pinnedConfig r₂ f₂ red₂ t₂ ∧
      (F03 ∈ r₂.changedFactRuleIds ↔ f₁.meaning F03 ≠ f₂.meaning F03) := by
  intro _
  obtain ⟨r₁, r₂, h₁, h₂⟩ := reevaluated (proper_of_exclusions rfl fun _ h => absurd h List.not_mem_nil)
  obtain ⟨f₁, red₁, t₁, f₂, red₂, t₂, e₁, e₂, facts, -⟩ := evaluateProposal_changes h₁ h₂ rfl rfl rfl
    excludedFirst_free evaluatedAgain_free
  exact ⟨r₁, r₂, f₁, red₁, t₁, f₂, red₂, t₂, e₁, e₂, facts F03 (by decide)⟩

/-- It reports F11 and F12, for the refusal is gone. -/
theorem evaluateProposal_changes_sound_lifted :
    let _ := asciiPlatform
    ∃ r₁ r₂, evaluateProposal (excludedFirst [keyExclusion]) pinnedConfig = .ok (.check r₁) ∧
      evaluateProposal (evaluatedAgain [] r₁) pinnedConfig = .ok (.check r₂) ∧
      r₂.verdict ≠ r₁.verdict ∧ F11 ∈ r₂.changedFactRuleIds ∧ F12 ∈ r₂.changedFactRuleIds := by
  intro _
  obtain ⟨r₁, r₂, h₁, h₂⟩ := reevaluated (proper_of_exclusions rfl fun _ h => absurd h List.not_mem_nil)
  have differ := lifted_verdict h₁ h₂
  exact ⟨r₁, r₂, h₁, h₂, differ, (evaluateProposal_changes_sound h₁ h₂ rfl rfl rfl).2 (.inl differ)⟩

/-- Both re-evaluations: with the exclusion nothing is reported, without it F11 and F12. -/
theorem evaluateProposal_reports_both :
    let _ := asciiPlatform
    ∃ r r₁ r₂, evaluateProposal (excludedFirst [keyExclusion]) pinnedConfig = .ok (.check r) ∧
      evaluateProposal (evaluatedAgain [keyExclusion] r) pinnedConfig = .ok (.check r₁) ∧
      r₁.changedFactRuleIds = [] ∧ r₁.verdict = r.verdict ∧
      evaluateProposal (evaluatedAgain [] r) pinnedConfig = .ok (.check r₂) ∧
      r₂.verdict ≠ r.verdict ∧ F11 ∈ r₂.changedFactRuleIds ∧ F12 ∈ r₂.changedFactRuleIds := by
  intro _
  obtain ⟨r, r₁, h, h₁⟩ := reevaluated keyExclusion_proper
  obtain ⟨r', r₂, h', h₂⟩ := reevaluated (proper_of_exclusions rfl fun _ h => absurd h List.not_mem_nil)
  cases h.symm.trans h'
  obtain ⟨-, -, quiet⟩ := evaluateProposal_reports h h₁ rfl rfl rfl excludedFirst_free evaluatedAgain_free
  obtain ⟨-, reported, -⟩ := evaluateProposal_reports h h₂ rfl rfl rfl excludedFirst_free evaluatedAgain_free
  obtain ⟨verdict, -, -, none⟩ := quiet evaluatedAgain_same
  have differ := lifted_verdict h h₂
  exact ⟨r, r₁, r₂, h, h₁, none, verdict, h₂, differ, reported (.inl differ)⟩

/-- A re-evaluation with the same exclusion reports nothing. -/
theorem evaluateProposal_changes_quiet_kept :
    let _ := asciiPlatform
    ∃ r₁ r₂, evaluateProposal (excludedFirst [keyExclusion]) pinnedConfig = .ok (.check r₁) ∧
      evaluateProposal (evaluatedAgain [keyExclusion] r₁) pinnedConfig = .ok (.check r₂) ∧
      r₂.verdict = r₁.verdict ∧ r₂.changedFactRuleIds = [] := by
  intro _
  obtain ⟨r₁, r₂, h₁, h₂⟩ := reevaluated keyExclusion_proper
  obtain ⟨verdict, -, -, none⟩ := evaluateProposal_changes_quiet evaluatedAgain_same h₁ h₂ rfl rfl rfl
    excludedFirst_free evaluatedAgain_free
  exact ⟨r₁, r₂, h₁, h₂, verdict, none⟩

end GAM
