import GAM.Governance.Strictness

/-!
# The shape of a trace

What the trace of a finalized evaluation looks like (`trace_shape`). The fact steps come from the
descriptors one by one, so their identifiers, rules and poles are read off the descriptors, and the
descriptors off the blocks: each block but F10 writes at most one, under its own rule, and F10 writes a
pair for each dependency.
-/

namespace GAM
open Lib

/-! ### Step identifiers -/

/-- The identifier that `make_step_id` gives to a step. -/
def stepIdOf (evaluationId : String) (ordinal : Nat) (ruleId : String) : String :=
  evaluationId ++ ":" ++ twoDigits ordinal ++ ":" ++ ruleId

/-- A digit says which number it is of. -/
lemma digitChar_inj {a b : Nat} (ha : a < 10) (hb : b < 10) (h : a.digitChar = b.digitChar) :
    a = b := by
  have all : ∀ a < 10, ∀ b < 10, Nat.digitChar a = Nat.digitChar b → a = b := by decide
  exact all a ha b hb h

/-- Steps of one evaluation with the same identifier have the same ordinal. -/
lemma stepIdOf_inj {evaluationId ruleId ruleId' : String} {n m : Nat} (hn : n ≤ 99) (hm : m ≤ 99)
    (h : stepIdOf evaluationId n ruleId = stepIdOf evaluationId m ruleId') : n = m := by
  have chars := congrArg String.toList h
  simp only [stepIdOf, twoDigits, String.toList_append, String.toList_ofList, List.append_assoc,
    List.append_cancel_left_eq, List.cons_append, List.nil_append, List.cons.injEq] at chars
  have tens := digitChar_inj (by omega) (by omega) chars.1
  have ones := digitChar_inj (by omega) (by omega) chars.2.1
  omega

section
variable {evaluationId : String}

/-- The steps carry the identifiers of their ordinals, from one ordinal on. -/
def Numbered (evaluationId : String) (ordinal : Nat) (steps : List TraceStep) : Prop :=
  ∀ i (hi : i < steps.length),
    makeStepId evaluationId (ordinal + i) steps[i].ruleId = .ok steps[i].stepId

lemma numbered_nil {ordinal : Nat} : Numbered evaluationId ordinal [] :=
  fun _ hi => absurd hi (Nat.not_lt_zero _)

/-- A step numbered first, and the rest from the next ordinal. -/
lemma numbered_cons {ordinal : Nat} {step : TraceStep} {steps : List TraceStep}
    (head : makeStepId evaluationId ordinal step.ruleId = .ok step.stepId)
    (tail : Numbered evaluationId (ordinal + 1) steps) :
    Numbered evaluationId ordinal (step :: steps) := by
  intro i hi
  cases i with
  | zero => exact head
  | succ i =>
    have next := tail i (by simpa using hi)
    rwa [show ordinal + 1 + i = ordinal + (i + 1) from by omega] at next

/-- Two lists numbered one after the other. -/
lemma numbered_append {ordinal : Nat} {l l' : List TraceStep} (h : Numbered evaluationId ordinal l)
    (h' : Numbered evaluationId (ordinal + l.length) l') : Numbered evaluationId ordinal (l ++ l') := by
  induction l generalizing ordinal with
  | nil => exact h'
  | cons step l ih =>
    refine numbered_cons (h 0 (by simp)) (ih (fun i hi => ?_) ?_)
    · have next := h (i + 1) (by simpa using hi)
      rwa [show ordinal + (i + 1) = ordinal + 1 + i from by omega] at next
    · rwa [show ordinal + 1 + l.length = ordinal + (step :: l).length from by simp; omega]

/-- The steps after a part of a trace are numbered on from its length. -/
lemma Numbered.after {ordinal : Nat} {earlier steps : List TraceStep}
    (h : Numbered evaluationId ordinal (earlier ++ steps)) :
    Numbered evaluationId (ordinal + earlier.length) steps := by
  intro i hi
  have at_end := h (earlier.length + i) (by simpa using hi)
  rw [List.getElem_append_right (Nat.le_add_right _ _)] at at_end
  simpa [Nat.add_assoc] using at_end

/-- The steps of a numbered trace have different identifiers. -/
lemma Numbered.nodup {ordinal : Nat} {steps : List TraceStep}
    (h : Numbered evaluationId ordinal steps) : (steps.map TraceStep.stepId).Nodup := by
  rw [List.nodup_iff_injective_getElem]
  intro ⟨i, hi⟩ ⟨j, hj⟩ e
  rw [List.length_map] at hi hj
  obtain ⟨⟨-, -, hn⟩, -, ei⟩ := makeStepId_eq_ok.mp (h i hi)
  obtain ⟨⟨-, -, hm⟩, -, ej⟩ := makeStepId_eq_ok.mp (h j hj)
  have same : steps[i].stepId = steps[j].stepId := by simpa using e
  rw [← ei, ← ej] at same
  have := stepIdOf_inj hn hm same
  simp only [Fin.mk.injEq]
  omega

end

/-! ### Built steps -/

section
variable {evaluationId : String}

/-- The step of a fact at an ordinal. -/
def builtStep (evaluationId : String) (item : FactStep × Nat) : OperatorTraceStep where
  stepId := stepIdOf evaluationId item.2 item.1.ruleId
  ruleId := item.1.ruleId
  family := item.1.family
  pole := item.1.pole
  subjectRef := item.1.subjectRef
  objectRefs := item.1.objectRefs
  resultJson := item.1.result.dumps
  evidenceRefs := sortedBy EvidenceRef.refId item.1.evidenceRefs

/-- The built steps are the descriptors' at their ordinals. -/
lemma buildOperatorSteps_eq {n : Nat} {ds : List FactStep} {steps : List OperatorTraceStep}
    (h : buildOperatorSteps evaluationId n ds = .ok steps) :
    steps = (ds.zipIdx n).map (builtStep evaluationId) ∧
      Numbered evaluationId n (steps.map .operator) := by
  induction ds generalizing n steps with
  | nil =>
    cases h
    exact ⟨rfl, numbered_nil⟩
  | cons d ds ih =>
    simp only [buildOperatorSteps, bind_eq_ok, pure_eq_ok, Except.ok.injEq] at h
    obtain ⟨stepId, hid, steps', h', rfl⟩ := h
    obtain ⟨eq, numbered⟩ := ih h'
    refine ⟨?_, numbered_cons hid numbered⟩
    rw [List.zipIdx_cons, List.map_cons, ← eq]
    obtain ⟨-, -, rfl⟩ := makeStepId_eq_ok.mp hid
    rfl

end

section
variable [Platform] {s : EvaluationSnapshot} {c : RuleConfig} {f : Findings} {r : Reduction}
  {t : BuiltTrace} {priorId : Option String} {evaluationId : String}

/-- The decisive steps of a trace. -/
def decisiveSteps (facts : List OperatorTraceStep) (rules : List String) : List String :=
  (facts.filter fun step => step.ruleId ∈ rules).map OperatorTraceStep.stepId

omit [Platform] in
/-- The parts of a built trace. -/
lemma buildTrace_parts (h : buildTrace s f r = .ok t) :
    t.facts = (f.descriptors.zipIdx 1).map (builtStep s.evaluationId) ∧
      Numbered s.evaluationId 1 t.steps ∧
      ∃ reducerId becauseId, t.reducer = reducerStep reducerId r (decisiveSteps t.facts r.decisiveRules) ∧
        t.because = becauseStep s becauseId reducerId r (decisiveSteps t.facts r.decisiveRules) := by
  simp only [buildTrace, bind_eq_ok, pure_eq_ok, Except.ok.injEq] at h
  obtain ⟨facts, hf, reducerId, hr, becauseId, hb, rfl⟩ := h
  obtain ⟨eq, numbered⟩ := buildOperatorSteps_eq hf
  refine ⟨eq, ?_, reducerId, becauseId, rfl, rfl⟩
  refine numbered_append numbered ?_
  rw [List.length_map, Nat.add_comm]
  exact numbered_cons hr (numbered_cons hb numbered_nil)

/-! ### Descriptors -/

/-- A descriptor under a rule, with a pole of its family. -/
def FactStep.Under (ruleId : String) (d : FactStep) : Prop :=
  d.ruleId = ruleId ∧ d.pole ∈ allowedPoles d.family

/-- At most one descriptor, and that under a rule. -/
def AtMostOne (ruleId : String) (l : List FactStep) : Prop :=
  l = [] ∨ ∃ d, l = [d] ∧ d.Under ruleId

omit [Platform] in
/-- F01 has one descriptor. -/
lemma bind_under : ∃ d, (bindFindings s c priorId).descriptors = [d] ∧ d.Under F01 :=
  ⟨_, rfl, rfl, List.mem_singleton_self _⟩

/-- F02 has at most one descriptor. -/
lemma scope_under : AtMostOne F02 (scopeFindings s).descriptors := by
  unfold scopeFindings
  split
  · exact .inr ⟨_, rfl, rfl, by simp [scopeStep, allowedPoles]⟩
  · split
    · exact .inr ⟨_, rfl, rfl, by simp [scopeStep, allowedPoles]⟩
    · exact .inl rfl

omit [Platform] in
/-- F03 has at most one descriptor. -/
lemma exclusion_under : AtMostOne F03 (exclusionFindings s).descriptors := by
  dsimp only [exclusionFindings]
  split
  · exact .inl rfl
  · refine .inr ⟨_, rfl, rfl, ?_⟩
    cases someExcluded s <;> simp [allowedPoles]

/-- F04 has one descriptor. -/
lemma retrieval_under : ∃ d, (retrievalFindings s c).descriptors = [d] ∧ d.Under F04 := by
  refine ⟨_, rfl, rfl, ?_⟩
  by_cases h : nearPrecedents s c = [] <;> simp [allowedPoles, h]

/-- F05 has at most one descriptor. -/
lemma identity_under : AtMostOne F05 (identityFindings s c).descriptors := by
  dsimp only [identityFindings]
  split
  · exact .inl rfl
  · refine .inr ⟨_, rfl, rfl, ?_⟩
    by_cases h : identityQualifying s c = [] <;> simp [allowedPoles, h]

/-- F06 has at most one descriptor. -/
lemma conflict_under : AtMostOne F06 (conflictFindings s c).descriptors := by
  dsimp only [conflictFindings]
  split
  · exact .inl rfl
  · refine .inr ⟨_, rfl, rfl, ?_⟩
    cases precedentConflict s c <;> simp [allowedPoles]

/-- F07 has one descriptor. -/
lemma evidence_under : ∃ d, (evidenceFindings s).descriptors = [d] ∧ d.Under F07 := by
  refine ⟨_, rfl, rfl, ?_⟩
  by_cases h : ((requirements s).filter fun r => !satisfied s r) = []
  · simp only [h, ne_eq, not_true_eq_false, if_false]
    simp [allowedPoles]
  · simp only [ne_eq, h, not_false_eq_true, if_true]
    simp [allowedPoles]

/-- F08 has at most one descriptor. -/
lemma divergence_under {d : Findings} (e : divergenceFindings s c = .ok d) :
    AtMostOne F08 d.descriptors := by
  unfold divergenceFindings at e
  split at e
  · cases e
    exact .inl rfl
  · simp only [bind_eq_ok, pure_eq_ok, Except.ok.injEq] at e
    obtain ⟨-, -, rfl⟩ := e
    refine .inr ⟨_, rfl, rfl, ?_⟩
    by_cases h : consequenceWarnings s c = [] <;> simp [allowedPoles, h]

/-- F09 has at most one descriptor. -/
lemma capability_under : AtMostOne F09 (capabilityBody s).descriptors := by
  dsimp only [capabilityBody]
  split
  · exact .inl rfl
  · refine .inr ⟨_, rfl, rfl, ?_⟩
    cases someRequired s (some .false) || someRequired s (some .unresolved) || someRequired s none
    · simp [allowedPoles]
    · simp [allowedPoles]

omit [Platform] in
/-- F11 has one descriptor, and it lists the triggered predicates. -/
lemma aggregate_under : ∃ d, (aggregateFindings s f).descriptors = [d] ∧ d.Under F11 ∧
    d.result = .obj [("triggered_predicate_ids", jsonStrs (triggeredPredicates f))] := by
  refine ⟨_, rfl, ⟨rfl, ?_⟩, rfl⟩
  by_cases h : triggeredPredicates f = [] <;> simp [allowedPoles, h]

/-- F10's descriptors are those of its dependencies. -/
lemma dependencies_descriptors {ds : List DependencyRef} :
    (dependenciesFindings ds).descriptors = ds.flatMap dependencySteps := by
  induction ds with
  | nil => rfl
  | cons d ds ih =>
    have one : (oneDependency d).descriptors = dependencySteps d := by
      unfold oneDependency
      split <;> [skip; skip; split] <;> rfl
    rw [dependenciesFindings, Findings.descriptors_append, one, ih, List.flatMap_cons]

/-- The rules of the facts before F10. -/
def earlyRules : List String := [F01, F02, F03, F04, F05, F06, F07, F08, F09]

/-- The descriptors: at most one for each rule before F10, the pairs of the dependencies, and the
aggregate. -/
structure Descriptors (s : EvaluationSnapshot) (f : Findings) (early : List FactStep)
    (aggregate : FactStep) : Prop where
  all : f.descriptors = early ++ (sortedDependencies s).flatMap dependencySteps ++ [aggregate]
  rules : (early.map FactStep.ruleId).Sublist earlyRules
  always : ∀ id ∈ [F01, F04, F07], id ∈ early.map FactStep.ruleId
  poles : ∀ d ∈ early, d.pole ∈ allowedPoles d.family
  last : aggregate.Under F11
  triggered : aggregate.result = .obj [("triggered_predicate_ids", jsonStrs (triggeredPredicates f))]

omit [Platform] in
/-- A block of at most one descriptor has at most one rule. -/
lemma atMostOne_rules {ruleId : String} {l : List FactStep} (h : AtMostOne ruleId l) :
    (l.map FactStep.ruleId).Sublist [ruleId] ∧ ∀ d ∈ l, d.pole ∈ allowedPoles d.family := by
  obtain rfl | ⟨d, rfl, rule, pole⟩ := h
  · exact ⟨List.nil_sublist _, fun _ h => absurd h List.not_mem_nil⟩
  · rw [List.map_singleton, rule]
    exact ⟨.refl _, fun x hx => List.mem_singleton.mp hx ▸ pole⟩

omit [Platform] in
/-- The predicates triggered by the facts are those of all findings. -/
lemma triggered_collect {facts : Findings} :
    triggeredPredicates (facts ++ aggregateFindings s facts) = triggeredPredicates facts := by
  simp [triggeredPredicates, aggregateFindings]

/-- The collected descriptors, block by block. -/
lemma collect_descriptors (e : collectFindings s c priorId = .ok f) :
    ∃ early aggregate, Descriptors s f early aggregate := by
  obtain ⟨d, hd, -, rfl⟩ := collectFindings_eq_ok.mp e
  obtain ⟨last, hlast, under, result⟩ :=
    aggregate_under (s := s) (f := factFindings s c priorId d (capabilityBody s))
  obtain ⟨d₁, h₁, rule₁, pole₁⟩ := @bind_under s c priorId
  obtain ⟨d₄, h₄, rule₄, pole₄⟩ := retrieval_under (s := s) (c := c)
  obtain ⟨d₇, h₇, rule₇, pole₇⟩ := evidence_under (s := s)
  obtain ⟨rules₂, poles₂⟩ := atMostOne_rules (scope_under (s := s))
  obtain ⟨rules₃, poles₃⟩ := atMostOne_rules (exclusion_under (s := s))
  obtain ⟨rules₅, poles₅⟩ := atMostOne_rules (identity_under (s := s) (c := c))
  obtain ⟨rules₆, poles₆⟩ := atMostOne_rules (conflict_under (s := s) (c := c))
  obtain ⟨rules₈, poles₈⟩ := atMostOne_rules (divergence_under hd)
  obtain ⟨rules₉, poles₉⟩ := atMostOne_rules (capability_under (s := s))
  refine ⟨[d₁] ++ (scopeFindings s).descriptors ++ (exclusionFindings s).descriptors ++ [d₄] ++
    (identityFindings s c).descriptors ++ (conflictFindings s c).descriptors ++ [d₇] ++
    d.descriptors ++ (capabilityBody s).descriptors, last, ?_⟩
  exact
    { all := by
        rw [Findings.descriptors_append, hlast, ← h₁, ← h₄, ← h₇, ← dependencies_descriptors]
        rfl
      rules := by
        simp only [List.map_append, List.map_singleton, rule₁, rule₄, rule₇]
        exact (((((((((List.Sublist.refl [F01]).append rules₂).append rules₃).append
          (.refl [F04])).append rules₅).append rules₆).append (.refl [F07])).append rules₈).append
          rules₉)
      always := by simp [rule₁, rule₄, rule₇]
      poles := by
        simp only [List.forall_mem_append, List.forall_mem_singleton]
        exact ⟨⟨⟨⟨⟨⟨⟨⟨pole₁, poles₂⟩, poles₃⟩, pole₄⟩, poles₅⟩, poles₆⟩, pole₇⟩, poles₈⟩, poles₉⟩
      last := under
      triggered := by rw [triggered_collect, result] }

/-! ### The reducer's decision -/

/-- The reducer and its pole for a verdict. -/
def reducerOf : Verdict → String × String
  | .no => ("R1_NO", "SOME")
  | .maybe => ("R2_MAYBE", "SOME")
  | .iff => ("R3_IFF", "SOME")
  | .yes => ("R4_YES", "EVERY")

omit [Platform] in
/-- The reducer's identifier is that of its verdict, every rule the blocks found decisive is decisive,
and a NO rests on the rules of all R1 predicates. -/
lemma reduceFindings_parts (h : reduceFindings s c f = .ok r) :
    (r.reducerId, if r.reducerId = "R4_YES" then "EVERY" else "SOME") = reducerOf r.verdict ∧
      (∀ rule ∈ f.decisiveRules, rule ∈ r.decisiveRules) ∧
      (r.verdict = .no → ∀ p ∈ f.rawR1, ∃ rule ∈ r.decisiveRules, predicateRuleId p = .ok rule) := by
  unfold reduceFindings at h
  split at h
  · simp only [bind_eq_ok, pure_eq_ok, Except.ok.injEq] at h
    obtain ⟨rules, hr, rfl⟩ := h
    refine ⟨rfl, fun rule hm => List.mem_append_left _ hm, fun _ p hp => ?_⟩
    obtain ⟨rule, hrule, hm⟩ := forall₂_mem_left (mapAll_eq_ok.mp hr) p hp
    exact ⟨rule, List.mem_append_right _ hrule, hm⟩
  · split at h
    · simp only [bind_eq_ok, pure_eq_ok, Except.ok.injEq] at h
      obtain ⟨rules, -, rfl⟩ := h
      refine ⟨rfl, fun rule hm => ?_, fun hv => by cases hv⟩
      exact List.mem_append_left _ (List.mem_append_left _ hm)
    · split at h
      · cases h
        exact ⟨rfl, fun rule hm => List.mem_append_left _ hm, fun hv => by cases hv⟩
      · simp only [bind_eq_ok] at h
        obtain ⟨yes, -, h⟩ := h
        split at h
        · cases h
          refine ⟨rfl, fun rule hm => ?_, fun hv => by cases hv⟩
          simp [hm]
        · cases h

/-! ### The facts behind R1 -/

/-- Some descriptor is under the rule of the predicate. -/
def Described (l : List FactStep) (predicate : String) : Prop :=
  ∃ d ∈ l, predicateRuleId predicate = .ok d.ruleId

omit [Platform] in
/-- A predicate described in a list is described in a longer one. -/
lemma Described.mono {l l' : List FactStep} {p : String} (h : Described l p)
    (sub : ∀ d ∈ l, d ∈ l') : Described l' p := by
  obtain ⟨d, hd, rule⟩ := h
  exact ⟨d, sub d hd, rule⟩

omit [Platform] in
/-- The rule of a predicate is that of its head. -/
lemma predicateRuleId_append {a b : String} (n : 3 ≤ a.toList.length) :
    predicateRuleId (a ++ b) = predicateRuleId a := by
  unfold predicateRuleId
  rw [String.toList_append, List.take_append_of_le_length n]

/-- F02's predicates of R1 have a descriptor. -/
lemma scope_described :
    ∀ p ∈ (scopeFindings s).rawR1, Described (scopeFindings s).descriptors p := by
  unfold scopeFindings
  split
  · intro p hp
    cases List.mem_singleton.mp hp
    exact ⟨_, List.mem_singleton_self _, rfl⟩
  · split
    · exact fun _ h => absurd h List.not_mem_nil
    · exact fun _ h => absurd h List.not_mem_nil

omit [Platform] in
/-- F03's predicates of R1 have a descriptor. -/
lemma exclusion_described :
    ∀ p ∈ (exclusionFindings s).rawR1, Described (exclusionFindings s).descriptors p := by
  dsimp only [exclusionFindings]
  intro p hp
  split at hp
  · rename_i same
    cases List.mem_singleton.mp hp
    have some : sortedExclusions s.exclusions ≠ [] := by
      intro none
      simp [someExcluded, none] at same
    rw [if_neg some]
    exact ⟨_, List.mem_singleton_self _, rfl⟩
  · cases hp

/-- F09's predicates of R1 have a descriptor. -/
lemma capability_described :
    ∀ p ∈ (capabilityBody s).rawR1, Described (capabilityBody s).descriptors p := by
  dsimp only [capabilityBody]
  intro p hp
  obtain ⟨id, hid, rfl⟩ := List.mem_map.mp hp
  have some : requiredCapabilityIds s ≠ [] := List.ne_nil_of_mem (List.mem_filter.mp hid).1
  rw [if_neg some]
  refine ⟨_, List.mem_singleton_self _, ?_⟩
  rw [predicateRuleId_append (by decide)]
  rfl

/-- F10's predicates of R1 have a descriptor. -/
lemma dependencies_described {ds : List DependencyRef} :
    ∀ p ∈ (dependenciesFindings ds).rawR1, Described (dependenciesFindings ds).descriptors p := by
  have one (d : DependencyRef) :
      ∀ p ∈ (oneDependency d).rawR1, Described (oneDependency d).descriptors p := by
    unfold oneDependency
    split
    · exact fun _ h => absurd h List.not_mem_nil
    · intro p hp
      cases List.mem_singleton.mp hp
      refine ⟨dependencyStep d "IF" (dependencyResult d), List.mem_cons_self, ?_⟩
      rw [predicateRuleId_append (by decide)]
      rfl
    · split <;> exact fun _ h => absurd h List.not_mem_nil
  induction ds with
  | nil => exact fun _ h => absurd h List.not_mem_nil
  | cons d ds ih =>
    intro p hp
    rw [dependenciesFindings, Findings.rawR1_append] at hp
    rw [dependenciesFindings, Findings.descriptors_append]
    rcases List.mem_append.mp hp with hp | hp
    · exact (one d p hp).mono fun _ => List.mem_append_left _
    · exact (ih p hp).mono fun _ => List.mem_append_right _

/-- Every R1 predicate has a fact. -/
lemma collect_described (e : collectFindings s c priorId = .ok f) :
    ∀ p ∈ f.rawR1, Described f.descriptors p := by
  intro p hp
  rw [collect_rawR1 e] at hp
  obtain ⟨d, hd, -, rfl⟩ := collectFindings_eq_ok.mp e
  simp only [List.mem_append] at hp
  obtain ((hp | hp) | hp) | hp := hp
  · exact (scope_described p hp).mono fun x hx => by simp [factFindings, hx]
  · exact (exclusion_described p hp).mono fun x hx => by simp [factFindings, hx]
  · exact (capability_described p hp).mono fun x hx => by simp [factFindings, hx]
  · exact (dependencies_described p hp).mono fun x hx => by
      have hx : x ∈ (dependencyFindings s).descriptors := hx
      simp [factFindings, hx]

/-! ### The shape -/

/-- The steps are the IF/THEN pairs of the dependencies, in their order. -/
inductive DependencyPairs : List DependencyRef → List OperatorTraceStep → Prop
  | nil : DependencyPairs [] []
  | cons {d ds a b steps} : a.ruleId = F10 → a.pole = "IF" → a.subjectRef = d.dependencyId →
      b.ruleId = F10 → b.pole = "THEN" → b.subjectRef = d.dependencyId →
      DependencyPairs ds steps → DependencyPairs (d :: ds) (a :: b :: steps)

/-- The shape of the trace of a finalized result. -/
structure TraceShape (s : EvaluationSnapshot) (f : Findings) (r : CheckResult)
    (facts : List OperatorTraceStep) (reducer : ReducerTraceStep) (because : OperatorTraceStep) :
    Prop where
  /-- Fact steps, then one reducer step, then one BECAUSE step. -/
  parts : r.operatorTrace = facts.map .operator ++ [.reducer reducer, .operator because]
  /-- At most 99 steps. -/
  length : r.operatorTrace.length ≤ 99
  /-- Step `k` has the identifier of its ordinal. -/
  numbered : ∀ i (hi : i < r.operatorTrace.length),
    makeStepId r.evaluationId (i + 1) r.operatorTrace[i].ruleId = .ok r.operatorTrace[i].stepId
  /-- The fact rules are F01 to F11, in order. -/
  factRules : ∀ step ∈ facts, step.ruleId ∈ factIds
  ordered : (facts.map OperatorTraceStep.ruleId).Pairwise (· ≤ ·)
  always : ∀ rule ∈ [F01, F04, F07, F11], rule ∈ facts.map OperatorTraceStep.ruleId
  once : ∀ rule, rule ≠ F10 → (facts.map OperatorTraceStep.ruleId).count rule ≤ 1
  /-- The F10 steps are adjacent: the pairs of the dependencies. -/
  pairs : ∃ before steps after, facts = before ++ steps ++ after ∧
    (∀ step ∈ before ++ after, step.ruleId ≠ F10) ∧
    DependencyPairs (sortedBy DependencyRef.dependencyId s.dependencies) steps
  poles : ∀ step ∈ r.operatorTrace, step.pole ∈ allowedPoles step.family
  /-- The aggregate lists the triggered predicates. -/
  aggregate : ∃ step ∈ facts, step.ruleId = F11 ∧ step.resultJson =
    (Json.obj [("triggered_predicate_ids", jsonStrs (triggeredPredicates f))]).dumps
  /-- The reducer matches the verdict and the risk. -/
  decision : (reducer.ruleId, reducer.pole) = reducerOf r.verdict
  result : reducer.resultJson = (Json.obj
    [("verdict", .str r.verdict.name), ("risk", .str r.risk.value),
      ("decisive_fact_step_ids", jsonStrs reducer.decisiveFactStepIds)]).dumps
  /-- The decisive steps are different fact steps. -/
  distinct : reducer.decisiveFactStepIds.Nodup
  earlier : ∀ id ∈ reducer.decisiveFactStepIds, ∃ step ∈ facts, step.stepId = id
  bound : ∀ rule ∈ [F01, F11], ∃ step ∈ facts, step.ruleId = rule ∧
    step.stepId ∈ reducer.decisiveFactStepIds
  /-- A NO rests on a step of the rule of every triggered R1 predicate. -/
  refused : r.verdict = .no → ∀ p ∈ f.rawR1, ∃ step ∈ facts,
    predicateRuleId p = .ok step.ruleId ∧ step.stepId ∈ reducer.decisiveFactStepIds
  /-- The terminal step. -/
  terminal : because.ruleId = F12 ∧ because.family = .because ∧ because.pole = "BECAUSE" ∧
    r.becauseStepId = because.stepId
  objects : reducer.stepId :: reducer.decisiveFactStepIds <+: because.objectRefs

end

/-! ### Steps and rules of descriptors -/

section
variable {s : EvaluationSnapshot} {f : Findings} {evaluationId : String}

/-- The step of a descriptor. -/
lemma mem_built {ds : List FactStep} {n : Nat} {step : OperatorTraceStep} :
    step ∈ (ds.zipIdx n).map (builtStep evaluationId) → ∃ d ∈ ds, ∃ i, step = builtStep evaluationId (d, i) := by
  intro h
  obtain ⟨⟨d, i⟩, hd, rfl⟩ := List.mem_map.mp h
  exact ⟨d, List.fst_mem_of_mem_zipIdx hd, i, rfl⟩

/-- A descriptor has a step. -/
lemma built_mem {ds : List FactStep} {n : Nat} {d : FactStep} (h : d ∈ ds) :
    ∃ i, builtStep evaluationId (d, i) ∈ (ds.zipIdx n).map (builtStep evaluationId) := by
  rw [← List.zipIdx_map_fst n ds] at h
  obtain ⟨⟨d, i⟩, hd, rfl⟩ := List.mem_map.mp h
  exact ⟨i, List.mem_map_of_mem hd⟩

/-- The rules of the steps are those of the descriptors. -/
lemma built_rules {ds : List FactStep} {n : Nat} :
    ((ds.zipIdx n).map (builtStep evaluationId)).map OperatorTraceStep.ruleId =
      ds.map FactStep.ruleId := by
  conv_rhs => rw [← List.zipIdx_map_fst n ds]
  rw [List.map_map, List.map_map]
  rfl

/-- The steps of the dependencies are their pairs. -/
lemma built_pairs {ds : List DependencyRef} {n : Nat} :
    DependencyPairs ds (((ds.flatMap dependencySteps).zipIdx n).map (builtStep evaluationId)) := by
  induction ds generalizing n with
  | nil => exact .nil
  | cons d ds ih => exact .cons rfl rfl rfl rfl rfl rfl ih

/-- Early rules and the aggregate are not F10. -/
lemma earlyRules_ne : ∀ rule ∈ F11 :: earlyRules, rule ≠ F10 := by decide

/-- The rules of all descriptors. -/
lemma Descriptors.sublist {early : List FactStep} {aggregate : FactStep}
    (h : Descriptors s f early aggregate) : (f.descriptors.map FactStep.ruleId).Sublist
      (earlyRules ++ List.replicate (2 * (sortedDependencies s).length) F10 ++ [F11]) := by
  have pairs : ((sortedDependencies s).flatMap dependencySteps).map FactStep.ruleId =
      List.replicate (2 * (sortedDependencies s).length) F10 := by
    induction sortedDependencies s with
    | nil => rfl
    | cons d ds ih =>
      rw [List.flatMap_cons, List.map_append, ih, List.length_cons, Nat.mul_add, Nat.add_comm,
        List.replicate_add]
      rfl
  rw [h.all, List.map_append, List.map_append, pairs, List.map_singleton, h.last.1]
  exact (h.rules.append (.refl _)).append (.refl _)

/-- The poles of all descriptors are allowed. -/
lemma Descriptors.allPoles {early : List FactStep} {aggregate : FactStep}
    (h : Descriptors s f early aggregate) : ∀ d ∈ f.descriptors, d.pole ∈ allowedPoles d.family := by
  rw [h.all]
  simp only [List.forall_mem_append, List.forall_mem_singleton, List.forall_mem_flatMap]
  refine ⟨⟨h.poles, fun d _ x hx => ?_⟩, h.last.2⟩
  simp only [dependencySteps, List.mem_cons, List.not_mem_nil, or_false] at hx
  rcases hx with rfl | rfl
  · simp [dependencyStep, allowedPoles]
  · simp [dependencyStep, allowedPoles]

/-- The rules of a trace come in their order. -/
lemma allRules_ordered (n : Nat) :
    (earlyRules ++ List.replicate n F10 ++ [F11]).Pairwise (· ≤ ·) := by
  have early : earlyRules.Pairwise (· ≤ ·) ∧ ∀ rule ∈ earlyRules, rule ≤ F10 ∧ rule ≤ F11 := by
    decide
  simp only [List.pairwise_append, List.pairwise_singleton, List.pairwise_replicate, true_and,
    List.mem_append, List.mem_replicate, List.mem_singleton]
  refine ⟨⟨early.1, .inr le_rfl, ?_⟩, ?_⟩
  · rintro a ha b ⟨-, rfl⟩
    exact (early.2 a ha).1
  · rintro a (ha | ⟨-, rfl⟩) b rfl
    · exact (early.2 a ha).2
    · decide

/-- Every rule but F10 occurs at most once. -/
lemma allRules_count (n : Nat) {rule : String} (h : rule ≠ F10) :
    (earlyRules ++ List.replicate n F10 ++ [F11]).count rule ≤ 1 := by
  have nodup : (earlyRules ++ [F11]).Nodup := by decide
  have one := List.nodup_iff_count_le_one.mp nodup rule
  rw [List.count_append] at one
  have none : (List.replicate n F10).count rule = 0 :=
    List.count_eq_zero.mpr fun hm => h (List.eq_of_mem_replicate hm)
  rw [List.count_append, List.count_append, none]
  omega

end

section
variable [Platform] {s : EvaluationSnapshot} {c : RuleConfig} {r : CheckResult}
  {priorId : Option String}

omit [Platform] in
/-- The decisive steps under a rule that has a fact. -/
lemma decisive_of_rule {facts : List OperatorTraceStep} {rules : List String} {rule : String}
    (hr : rule ∈ rules) (hf : rule ∈ facts.map OperatorTraceStep.ruleId) :
    ∃ step ∈ facts, step.ruleId = rule ∧ step.stepId ∈ decisiveSteps facts rules := by
  obtain ⟨step, hs, rfl⟩ := List.mem_map.mp hf
  refine ⟨step, hs, rfl, List.mem_map.mpr ⟨step, List.mem_filter.mpr ⟨hs, ?_⟩, rfl⟩⟩
  simpa using hr

/-- The trace of an admitted snapshot has its shape. -/
lemma evaluateAdmitted_shape (h : evaluateAdmitted s c priorId = .ok r) :
    ∃ f facts reducer because, collectFindings s c priorId = .ok f ∧
      TraceShape s f r facts reducer because := by
  simp only [evaluateAdmitted, bind_eq_ok, pure_eq_ok, Except.ok.injEq, ensure_eq_ok,
    exists_unit] at h
  obtain ⟨f, hf, red, hr, len, t, ht, changed, -, digest, -, rfl⟩ := h
  -- the descriptors by block, the reduction and the built trace, each from its own spec lemma
  obtain ⟨early, aggregate, desc⟩ := collect_descriptors hf
  obtain ⟨decision, decided, refused⟩ := reduceFindings_parts hr
  obtain ⟨hfacts, numbered, reducerId, becauseId, hreducer, hbecause⟩ := buildTrace_parts ht
  have rules : t.facts.map OperatorTraceStep.ruleId = f.descriptors.map FactStep.ruleId := by
    rw [hfacts, built_rules]
  have size : t.steps.length = f.descriptors.length + 2 := by
    simp [BuiltTrace.steps, hfacts]
  have known : ∀ rule ∈ f.descriptors.map FactStep.ruleId, rule ∈ factIds := by
    intro rule hm
    have hm := desc.sublist.subset hm
    simp only [List.mem_append, List.mem_replicate, List.mem_singleton] at hm
    obtain (hm | ⟨-, rfl⟩) | rfl := hm
    · exact (by decide : ∀ rule ∈ earlyRules, rule ∈ factIds) rule hm
    · decide
    · decide
  have decisive : (decisiveSteps t.facts red.decisiveRules).Sublist
      (t.facts.map OperatorTraceStep.stepId) := List.filter_sublist.map _
  -- numbered steps have distinct identifiers
  have ids : (t.facts.map OperatorTraceStep.stepId).Nodup := by
    have all := numbered.nodup
    rw [BuiltTrace.steps, List.map_append, List.map_map] at all
    exact (List.sublist_append_left _ _).nodup all
  -- the four blocks that always leave a descriptor
  have always : ∀ rule ∈ [F01, F04, F07, F11], rule ∈ t.facts.map OperatorTraceStep.ruleId := by
    intro rule hm
    rw [rules, desc.all, List.map_append, List.map_append, List.map_singleton, desc.last.1]
    have known : rule ∈ [F01, F04, F07] ∨ rule = F11 := by
      simpa [or_assoc] using hm
    rcases known with hm | rfl
    · exact List.mem_append_left _ (List.mem_append_left _ (desc.always rule hm))
    · exact List.mem_append_right _ List.mem_cons_self
  have bindings : ∀ rule ∈ [F01, F11], rule ∈ red.decisiveRules := by
    intro rule hm
    apply decided
    obtain ⟨d, -, -, rfl⟩ := collectFindings_eq_ok.mp hf
    have hm : rule ∈ (bindFindings s c priorId).decisiveRules := hm
    simp [factFindings, hm]
  refine ⟨f, t.facts, t.reducer, t.because, hf, ?_⟩
  exact
    { parts := rfl
      length := size ▸ len
      numbered := fun i hi => by
        rw [Nat.add_comm i 1]
        exact numbered i hi
      factRules := fun step hs => known _ (rules ▸ List.mem_map_of_mem hs)
      ordered := by
        rw [rules]
        exact (allRules_ordered _).sublist desc.sublist
      always := always
      once := fun rule hne => by
        rw [rules]
        exact (desc.sublist.count_le rule).trans (allRules_count _ hne)
      -- the F10 steps stand between the early rules and the aggregate
      pairs := by
        have parts := hfacts
        rw [desc.all, List.zipIdx_append, List.zipIdx_append, List.map_append,
          List.map_append] at parts
        refine ⟨_, _, _, parts, fun step hs => ?_, built_pairs⟩
        have hs : step.ruleId ∈ F11 :: earlyRules := by
          rcases List.mem_append.mp hs with hs | hs
          · obtain ⟨d, hd, i, rfl⟩ := mem_built hs
            exact List.mem_cons_of_mem _ (desc.rules.subset (List.mem_map_of_mem hd))
          · obtain ⟨d, hd, i, rfl⟩ := mem_built hs
            rw [List.mem_singleton.mp hd]
            exact List.mem_cons.mpr (.inl desc.last.1)
        exact earlyRules_ne _ hs
      -- a step is a fact, the reducer or the conclusion
      poles := by
        intro step hs
        change step ∈ t.steps at hs
        simp only [BuiltTrace.steps, List.mem_append, List.mem_cons, List.not_mem_nil, or_false] at hs
        obtain hs | rfl | rfl := hs
        · obtain ⟨fact, hf, rfl⟩ := List.mem_map.mp hs
          obtain ⟨d, hd, i, rfl⟩ := mem_built (hfacts ▸ hf)
          exact desc.allPoles d hd
        · rw [hreducer]
          by_cases h4 : red.reducerId = "R4_YES" <;>
            simp [TraceStep.pole, TraceStep.family, reducerStep, allowedPoles, h4]
        · rw [hbecause]
          exact List.mem_singleton_self _
      aggregate := by
        obtain ⟨i, hi⟩ := @built_mem s.evaluationId _ 1 _
          (by rw [desc.all]; simp : aggregate ∈ f.descriptors)
        refine ⟨_, hfacts ▸ hi, desc.last.1, ?_⟩
        rw [builtStep, desc.triggered]
      decision := by
        rw [hreducer]
        exact decision
      result := by
        rw [hreducer]
        rfl
      distinct := by
        rw [hreducer]
        exact decisive.nodup ids
      earlier := by
        rw [hreducer]
        intro id hid
        exact List.mem_map.mp (decisive.subset hid)
      bound := by
        rw [hreducer]
        intro rule hm
        refine decisive_of_rule (bindings rule hm) (always rule ?_)
        simp only [List.mem_cons, List.not_mem_nil, or_false] at hm ⊢
        tauto
      -- the descriptor of a refusing predicate is built, and its step is decisive
      refused := by
        rw [hreducer]
        intro hv p hp
        obtain ⟨rule, hrule, hm⟩ := refused hv p hp
        obtain ⟨d, hd, hd'⟩ := collect_described hf p hp
        cases hm.symm.trans hd'
        obtain ⟨step, hs, rule, hm⟩ := decisive_of_rule hrule (rules ▸ List.mem_map_of_mem hd)
        exact ⟨step, hs, rule ▸ hd', hm⟩
      terminal := by
        rw [hbecause]
        exact ⟨rfl, rfl, rfl, hbecause ▸ rfl⟩
      objects := by
        rw [hbecause, hreducer]
        exact ⟨_, by simp [becauseStep, reducerStep]; rfl⟩ }

omit [Platform] in
/-- The shape is about the dependencies in canonical order. -/
lemma TraceShape.of_canonical {f facts reducer because}
    (h : TraceShape (canonicalSnapshot s) f r facts reducer because) :
    TraceShape s f r facts reducer because := by
  refine { h with pairs := ?_ }
  have pairs := h.pairs
  rwa [canonicalSnapshot, sortedBy_idem] at pairs

/-- The trace of every finalized result has the shape of a trace. -/
theorem trace_shape (h : evaluateProposal s c = .ok (.check r)) :
    ∃ priorId f facts reducer because,
      collectFindings (canonicalSnapshot s) c priorId = .ok f ∧
        TraceShape s f r facts reducer because := by
  obtain ⟨priorId, -, h⟩ := evaluateCanonical_check.mp h
  obtain ⟨f, facts, reducer, because, hf, shape⟩ := evaluateAdmitted_shape h
  exact ⟨priorId, f, facts, reducer, because, hf, shape.of_canonical⟩

end

/-- The trace of the smallest snapshot. -/
theorem trace_shape_minimal :
    let _ := asciiPlatform
    let s := minimalSnapshot "first" (minimalProposal "proposal" "reason") none
    ∃ r f facts reducer because, evaluateProposal s pinnedConfig = .ok (.check r) ∧
      TraceShape s f r facts reducer because := by
  intro _ s
  obtain ⟨r, hr⟩ := minimal_finalized "first" "proposal" "reason" (by decide)
  obtain ⟨_, f, facts, reducer, because, -, shape⟩ := trace_shape hr
  exact ⟨r, f, facts, reducer, because, hr, shape⟩

end GAM
