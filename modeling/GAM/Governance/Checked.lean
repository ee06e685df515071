import GAM.Governance.Trace

/-!
# What the validators ask of a built trace

The validator of traces goes over the steps with the identifiers seen so far, then over the positions
of each rule, then looks at the end. On a trace of the right shape all of this holds and what is
left is that every step's text is canonical JSON (`validateTrace_shape`). The other loops are taken
apart the same way: `validateGapScope_ok` for the gaps and `validateChanged_rules` for the changed
rules.
-/

namespace GAM
open Lib

section
variable [Platform]

/-! ### Gaps and changed rules -/

/-- The gaps have identifiers of their own and name a rule. -/
lemma validateGapScope_ok {gaps : List EvidenceGap} {ids : List String} :
    validateGapScope ids gaps = .ok () ↔
      (∀ g ∈ gaps, g.gapId ≠ "" ∧ g.gapId ∉ ids ∧ g.resolutionRuleId ≠ "") ∧
        (gaps.map EvidenceGap.gapId).Nodup := by
  induction gaps generalizing ids with
  | nil => simp [validateGapScope]
  | cons g gaps ih =>
    simp only [validateGapScope, bind_eq_ok, ensure_eq_ok, exists_unit, validateFields_toValue,
      EvidenceGap.fieldsValid, true_and, ih, List.mem_cons, not_or, List.map_cons,
      List.nodup_cons, List.mem_map, not_exists, not_and, forall_eq_or_imp]
    constructor
    · rintro ⟨head, tail, nodup⟩
      refine ⟨⟨head, fun x hx => ?_⟩, fun x hx => (tail x hx).2.1.1, nodup⟩
      exact ⟨(tail x hx).1, (tail x hx).2.1.2, (tail x hx).2.2⟩
    · rintro ⟨⟨head, tail⟩, fresh, nodup⟩
      refine ⟨head, fun x hx => ?_, nodup⟩
      exact ⟨(tail x hx).1, ⟨fresh x hx, (tail x hx).2.1⟩, (tail x hx).2.2⟩

omit [Platform] in
/-- A rule is reported as changed when its groups differ. -/
lemma mem_changedRules {before after : List (String × Value)} {rule : String} :
    rule ∈ changedRules before after ↔ rule ∈ (before ++ after).map Prod.fst ∧
      valuesEq (projectionGroup before rule) (projectionGroup after rule) = false := by
  simp [changedRules]

omit [Platform] in
/-- The changed rules are in order and without repetition, so only their form is checked. -/
lemma validateChanged_rules {before after : List (String × Value)} :
    validateChangedFactIds (changedRules before after) = .ok () ↔
      ∀ rule ∈ changedRules before after, isFactRuleId rule = true := by
  have ordered : changedRules before after = sortedBy id (changedRules before after).dedup := by
    have sorted := (@sortedBy_pairwise _ _ _ id ((before ++ after).map Prod.fst).dedup).sublist
        (List.filter_sublist (p := fun ruleId =>
          !valuesEq (projectionGroup before ruleId) (projectionGroup after ruleId)))
    have nodup : (changedRules before after).Nodup :=
      (sortedBy_perm.nodup_iff.mpr (List.nodup_dedup _)).filter _
    rw [nodup.dedup]
    exact (sortedBy_eq_self sorted).symm
  simp only [validateChangedFactIds, bind_eq_ok, ensure_eq_ok, exists_unit, ← ordered, true_and,
    List.all_eq_true]

/-! ### Steps -/

/-- A step passes the checks of its own kind: any operator step under no reducer's rule does. -/
lemma validateSteps_operators {evaluationId : String} {n : Nat} {seen : List String}
    {l : List OperatorTraceStep} {rest : List TraceStep}
    (numbered : Numbered evaluationId n (l.map .operator ++ rest))
    (fresh : ∀ step ∈ l, step.stepId ∉ seen) (distinct : (l.map OperatorTraceStep.stepId).Nodup)
    (poles : ∀ step ∈ l, step.pole ∈ allowedPoles step.family)
    (kinds : ∀ step ∈ l, reducerBinding step.ruleId = none) :
    validateSteps evaluationId false n seen (l.map .operator ++ rest) = .ok () ↔
      (∀ step ∈ l, PlainJson step.resultJson) ∧
        validateSteps evaluationId false (n + l.length)
          ((l.map OperatorTraceStep.stepId).reverse ++ seen) rest = .ok () := by
  induction l generalizing n seen with
  | nil => simp
  | cons step l ih =>
    have id : makeStepId evaluationId n step.ruleId = .ok step.stepId := numbered 0 (by simp)
    have tail : Numbered evaluationId (n + 1) (l.map .operator ++ rest) := by
      intro i hi
      have next := numbered (i + 1) (by simpa using hi)
      rwa [show n + (i + 1) = n + 1 + i from by omega] at next
    rw [List.map_cons, List.nodup_cons] at distinct
    rw [List.forall_mem_cons] at fresh poles kinds
    have fresh' : ∀ s ∈ l, s.stepId ∉ step.stepId :: seen := by
      intro s hs hm
      rcases List.mem_cons.mp hm with e | hm
      · exact distinct.1 (e ▸ List.mem_map_of_mem hs)
      · exact fresh.2 s hs hm
    have next := ih tail fresh' distinct.2 poles.2 kinds.2
    have kind : validateStepKind false (step.stepId :: seen) (.operator step) = .ok () :=
      ensure_pos (.inr kinds.1)
    have order : (step.stepId :: l.map OperatorTraceStep.stepId).reverse ++ seen =
        (l.map OperatorTraceStep.stepId).reverse ++ step.stepId :: seen := by simp
    have head : makeStepId evaluationId n (TraceStep.operator step).ruleId = .ok step.stepId := id
    simp only [List.map_cons, List.cons_append, validateSteps, bind_eq_ok, ensure_eq_ok,
      exists_unit, validateFields_toValue, TraceStep.fieldsValid, head, Except.ok.injEq,
      exists_eq_left', kind, true_and, next, order, List.forall_mem_cons,
      List.length_cons, TraceStep.stepId, TraceStep.pole, TraceStep.family, TraceStep.resultJson,
      fresh.1, poles.1, not_false_eq_true, and_assoc, Nat.add_assoc, Nat.add_comm 1]

/-! ### Positions -/

omit [Platform] in
/-- Positions in consecutive pairs. -/
lemma adjacentPairs_range (m : Nat) : ∀ n, adjacentPairs (List.range' n (2 * m)) = true := by
  induction m with
  | zero => exact fun _ => rfl
  | succ m ih =>
    intro n
    rw [show 2 * (m + 1) = 2 * m + 1 + 1 from rfl, List.range'_succ, List.range'_succ]
    simpa [adjacentPairs] using ih (n + 1 + 1)

/-- The positions of a rule, from an ordinal on. -/
def positionsFrom (n : Nat) (l : List TraceStep) (rule : String) : List Nat :=
  ((l.zipIdx n).filter fun step => step.1.ruleId == rule).map Prod.snd

section
variable {n : Nat} {l l' : List TraceStep} {rule : String}

omit [Platform] in
/-- The positions of a rule in two lists of steps, one after the other. -/
lemma positionsFrom_append : positionsFrom n (l ++ l') rule =
    positionsFrom n l rule ++ positionsFrom (n + l.length) l' rule := by
  simp [positionsFrom, List.zipIdx_append]

omit [Platform] in
/-- A rule that no step has is at no position. -/
lemma positionsFrom_none (h : ∀ step ∈ l, step.ruleId ≠ rule) : positionsFrom n l rule = [] := by
  have none : ((l.zipIdx n).filter fun step => step.1.ruleId == rule) = [] := by
    rw [List.filter_eq_nil_iff]
    intro step hs
    simpa using h step.1 (List.fst_mem_of_mem_zipIdx hs)
  rw [positionsFrom, none, List.map_nil]

omit [Platform] in
/-- A rule that every step has is at every position. -/
lemma positionsFrom_all (h : ∀ step ∈ l, step.ruleId = rule) :
    positionsFrom n l rule = List.range' n l.length := by
  have all : ((l.zipIdx n).filter fun step => step.1.ruleId == rule) = l.zipIdx n := by
    rw [List.filter_eq_self]
    intro step hs
    simpa using h step.1 (List.fst_mem_of_mem_zipIdx hs)
  rw [positionsFrom, all, List.zipIdx_map_snd]

omit [Platform] in
/-- A rule has as many positions as steps. -/
lemma positionsFrom_length :
    (positionsFrom n l rule).length = (l.map TraceStep.ruleId).count rule := by
  induction l generalizing n with
  | nil => rfl
  | cons step l ih =>
    have cons : positionsFrom n (step :: l) rule =
        positionsFrom n [step] rule ++ positionsFrom (n + 1) l rule :=
      positionsFrom_append (l := [step])
    rw [cons, List.length_append, ih, List.map_cons, List.count_cons]
    by_cases h : step.ruleId = rule
    · simp [positionsFrom, h, Nat.add_comm]
    · simp [positionsFrom, h]

end

/-! ### The whole trace -/

variable {s : EvaluationSnapshot} {f : Findings} {r : CheckResult}
  {facts : List OperatorTraceStep} {reducer : ReducerTraceStep} {because : OperatorTraceStep}

omit [Platform] in
/-- The steps of dependency pairs are F10 steps, two for each dependency. -/
lemma DependencyPairs.rules {ds : List DependencyRef} {steps : List OperatorTraceStep}
    (h : DependencyPairs ds steps) :
    (∀ step ∈ steps, step.ruleId = F10) ∧ steps.length = 2 * ds.length := by
  induction h with
  | nil => exact ⟨fun _ h => absurd h List.not_mem_nil, rfl⟩
  | cons a _ _ b _ _ _ ih =>
    refine ⟨?_, ?_⟩
    · rw [List.forall_mem_cons, List.forall_mem_cons]
      exact ⟨a, b, ih.1⟩
    · rw [List.length_cons, List.length_cons, List.length_cons, ih.2]
      omega

omit [Platform] in
/-- The reducer of a verdict is bound to its family and pole. -/
lemma reducerOf_binding (v : Verdict) :
    reducerBinding (reducerOf v).1 = some (.everySome, (reducerOf v).2) := by
  cases v <;> rfl

omit [Platform] in
/-- The rules of a trace of the right shape stand where they must. -/
lemma validatePositions_shape (shape : TraceShape s f r facts reducer because) :
    ∀ rule ∈ r.operatorTrace.map TraceStep.ruleId,
      validatePositions r.operatorTrace rule = .ok () := by
  have ends : ∀ rule ∈ [reducer.ruleId, because.ruleId], rule ∉ factIds ∧ rule ≠ F10 := by
    have reducers : ∀ v, (reducerOf v).1 ∉ factIds ∧ (reducerOf v).1 ≠ F10 := by
      intro v
      cases v <;> decide
    simp only [List.forall_mem_cons, List.not_mem_nil, false_imp_iff, implies_true, and_true]
    refine ⟨?_, ?_⟩
    · rw [show reducer.ruleId = (reducerOf r.verdict).1 from congrArg Prod.fst shape.decision]
      exact reducers _
    · rw [shape.terminal.1]
      decide
  -- facts, then the reducer and the conclusion, under three kinds of rules
  have names : r.operatorTrace.map TraceStep.ruleId =
      facts.map OperatorTraceStep.ruleId ++ [reducer.ruleId, because.ruleId] := by
    rw [shape.parts, List.map_append, List.map_map]
    rfl
  have different : reducer.ruleId ≠ because.ruleId := by
    rw [shape.terminal.1, show reducer.ruleId = (reducerOf r.verdict).1 from
      congrArg Prod.fst shape.decision]
    cases r.verdict <;> decide
  intro rule hm
  rw [validatePositions, show ("F10_DEPENDENCY_FORMULA" : String) = F10 from rfl]
  by_cases h10 : rule = F10
  · -- the F10 steps are consecutive, so their positions are
    subst h10
    rw [if_pos rfl, ensure_eq_ok]
    obtain ⟨before, steps, after, parts, other, pairs⟩ := shape.pairs
    obtain ⟨all, even⟩ := pairs.rules
    have only : rulePositions r.operatorTrace F10 =
        List.range' (1 + before.length) (2 * s.dependencies.length) := by
      have hb : ∀ step ∈ before.map TraceStep.operator, step.ruleId ≠ F10 := by
        intro step hs
        obtain ⟨x, hx, rfl⟩ := List.mem_map.mp hs
        exact other x (List.mem_append_left _ hx)
      have ha : ∀ step ∈ after.map TraceStep.operator ++ [.reducer reducer, .operator because],
          step.ruleId ≠ F10 := by
        intro step hs
        rcases List.mem_append.mp hs with hs | hs
        · obtain ⟨x, hx, rfl⟩ := List.mem_map.mp hs
          exact other x (List.mem_append_right _ hx)
        · simp only [List.mem_cons, List.not_mem_nil, or_false] at hs
          rcases hs with rfl | rfl
          · exact (ends reducer.ruleId List.mem_cons_self).2
          · exact (ends because.ruleId (List.mem_cons_of_mem _ List.mem_cons_self)).2
      have hs : ∀ step ∈ steps.map TraceStep.operator, step.ruleId = F10 := by
        intro step hs
        obtain ⟨x, hx, rfl⟩ := List.mem_map.mp hs
        exact all x hx
      change positionsFrom 1 r.operatorTrace F10 = _
      rw [shape.parts, parts, List.map_append, List.map_append, List.append_assoc,
        List.append_assoc, positionsFrom_append, positionsFrom_append, positionsFrom_none hb,
        positionsFrom_none ha, positionsFrom_all hs, List.nil_append, List.append_nil,
        List.length_map, List.length_map, even, length_sortedBy]
    rw [only]
    exact adjacentPairs_range _ _
  -- any other rule occurs once, as a fact or as one of the last two
  · rw [if_neg h10, ensure_eq_ok]
    change (positionsFrom 1 r.operatorTrace rule).length = 1
    rw [positionsFrom_length]
    refine le_antisymm ?_ (List.one_le_count_iff.mpr hm)
    rw [names, List.count_append]
    by_cases hf : rule ∈ factIds
    · have none : [reducer.ruleId, because.ruleId].count rule = 0 :=
        List.count_eq_zero.mpr fun he => (ends rule he).1 hf
      have := shape.once rule h10
      omega
    · have none : (facts.map OperatorTraceStep.ruleId).count rule = 0 := by
        rw [List.count_eq_zero]
        intro hm
        obtain ⟨step, hs, rfl⟩ := List.mem_map.mp hm
        exact hf (shape.factRules step hs)
      have nodup : [reducer.ruleId, because.ruleId].Nodup := by simpa using different
      have := List.nodup_iff_count_le_one.mp nodup rule
      omega

/-- The two last steps pass when their texts are canonical. -/
lemma validateSteps_end {evaluationId : String} {n : Nat} {seen : List String}
    (numbered : Numbered evaluationId n [.reducer reducer, .operator because])
    (fresh : reducer.stepId ∉ seen ∧ because.stepId ∉ reducer.stepId :: seen)
    (poles : reducer.pole ∈ allowedPoles reducer.family ∧ because.pole ∈ allowedPoles because.family)
    (binding : reducerBinding reducer.ruleId = some (reducer.family, reducer.pole))
    (decisive : reducer.decisiveFactStepIds ≠ [] ∧ ∀ item ∈ reducer.decisiveFactStepIds, item ∈ seen)
    (last : because.ruleId = F12) :
    validateSteps evaluationId false n seen [.reducer reducer, .operator because] = .ok () ↔
      PlainJson reducer.resultJson ∧ PlainJson because.resultJson := by
  have first : makeStepId evaluationId n (TraceStep.reducer reducer).ruleId = .ok reducer.stepId :=
    numbered 0 (by simp)
  have second : makeStepId evaluationId (n + 1) (TraceStep.operator because).ruleId =
      .ok because.stepId := numbered 1 (by simp)
  have reduces : validateStepKind false (reducer.stepId :: seen) (.reducer reducer) = .ok () := by
    simp only [validateStepKind, bind_eq_ok, ensure_eq_ok, exists_unit]
    refine ⟨binding, decisive.1, fun item hm => List.mem_cons_of_mem _ (decisive.2 item hm), ?_⟩
    exact fun hm => fresh.1 (decisive.2 _ hm)
  have ends (l) : validateStepKind false l (.operator because) = .ok () :=
    ensure_pos (.inr (last ▸ rfl))
  simp only [validateSteps, bind_eq_ok, ensure_eq_ok, exists_unit, validateFields_toValue,
    TraceStep.fieldsValid, first, second, Except.ok.injEq, exists_eq_left', reduces, ends,
    TraceStep.stepId, TraceStep.pole, TraceStep.family, TraceStep.resultJson, fresh.1, fresh.2,
    poles.1, poles.2, not_false_eq_true, and_true, true_and]

/-- A trace of the right shape is valid exactly when the texts of its steps are canonical. -/
lemma validateTrace_shape (shape : TraceShape s f r facts reducer because)
    (family : reducer.family = .everySome) :
    validateTrace r.evaluationId r.operatorTrace (some r.becauseStepId) false = .ok () ↔
      ∀ step ∈ r.operatorTrace, PlainJson step.resultJson := by
  have numbered : Numbered r.evaluationId 1 r.operatorTrace := by
    intro i hi
    rw [Nat.add_comm 1 i]
    exact shape.numbered i hi
  have distinct := numbered.nodup
  rw [shape.parts, List.map_append, List.map_map, List.nodup_append] at distinct
  obtain ⟨factsNodup, endNodup, apart⟩ := distinct
  have poles := shape.poles
  rw [shape.parts] at poles numbered
  have kinds : ∀ step ∈ facts, reducerBinding step.ruleId = none := by
    have known : ∀ rule ∈ factIds, reducerBinding rule = none := by decide
    exact fun step hs => known _ (shape.factRules step hs)
  -- the steps are checked one by one: first the facts, then the reducer and the conclusion
  have facts_ok := validateSteps_operators numbered (fun _ _ => List.not_mem_nil) factsNodup
    (fun step hs => poles (.operator step) (List.mem_append_left _ (List.mem_map_of_mem hs))) kinds
  have numberedEnd : Numbered r.evaluationId (1 + facts.length)
      [.reducer reducer, .operator because] := by
    simpa using numbered.after
  have binding : reducerBinding reducer.ruleId = some (reducer.family, reducer.pole) := by
    rw [family, show reducer.ruleId = (reducerOf r.verdict).1 from congrArg Prod.fst shape.decision,
      show reducer.pole = (reducerOf r.verdict).2 from congrArg Prod.snd shape.decision]
    exact reducerOf_binding _
  have fresh : reducer.stepId ∉ facts.map OperatorTraceStep.stepId ∧
      because.stepId ∉ reducer.stepId :: facts.map OperatorTraceStep.stepId := by
    have different : reducer.stepId ≠ because.stepId := by
      simpa [TraceStep.stepId] using endNodup
    refine ⟨fun hm => apart _ hm _ List.mem_cons_self rfl, fun hm => ?_⟩
    rcases List.mem_cons.mp hm with e | hm
    · exact different e.symm
    · exact apart _ hm _ (by simp [TraceStep.stepId]) rfl
  have decisive : reducer.decisiveFactStepIds ≠ [] := by
    obtain ⟨step, -, -, hm⟩ := shape.bound F01 List.mem_cons_self
    exact List.ne_nil_of_mem hm
  have end_ok := @validateSteps_end _ _ _ _ _
    ((facts.map OperatorTraceStep.stepId).reverse ++ []) numberedEnd (by simpa using fresh)
    ⟨poles (.reducer reducer) (by simp), poles (.operator because) (by simp)⟩ binding
    ⟨decisive, fun item hm => ?_⟩ shape.terminal.1
  · have terminal : validateTerminal r.operatorTrace (some r.becauseStepId) = .ok () := by
      simp only [validateTerminal, bind_eq_ok, ensure_eq_ok, exists_unit, shape.parts,
        shape.terminal.2.2.2]
      exact ⟨by simp [TraceStep.stepId], by simp [IsTerminal, TraceStep.stepId, TraceStep.family,
        TraceStep.pole, shape.terminal.2.1, shape.terminal.2.2.1]⟩
    have cardinality : r.operatorTrace ≠ [] ∧ r.operatorTrace.length ≤ 99 := by
      refine ⟨?_, shape.length⟩
      rw [shape.parts]
      simp
    have positions : forAll (validatePositions r.operatorTrace)
        (r.operatorTrace.map TraceStep.ruleId) = .ok () :=
      forAll_eq_ok.mpr (validatePositions_shape shape)
    simp only [validateTrace, bind_eq_ok, ensure_eq_ok, exists_unit, cardinality, positions,
      terminal, Bool.false_eq_true, if_false, and_true, true_and, ne_eq, not_false_eq_true]
    -- what is left of the checks is the results' texts
    rw [shape.parts, facts_ok, end_ok]
    simp only [List.forall_mem_append, List.forall_mem_map, List.forall_mem_cons, List.not_mem_nil,
      false_imp_iff, implies_true, and_true, TraceStep.resultJson]
  · obtain ⟨step, hs, rfl⟩ := shape.earlier item hm
    simpa using ⟨step, hs, rfl⟩

end

end GAM
