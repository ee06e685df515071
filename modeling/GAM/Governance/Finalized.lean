import GAM.Governance.Verdict
import GAM.Traces.Digest

/-!
# When an admitted snapshot is finalized

The evaluation of an admitted snapshot can fail after admission only on a consequence that is not
bound, a capability that is listed twice, a trace that is too long, an empty evaluation identifier
or a prior trace that cannot be projected. `Finalizable` lists these conditions on the snapshot and
`evaluateAdmitted_ok_iff` says that they are exact. The length of the trace is counted from the
snapshot by `stepCount`.
-/

namespace GAM
open Lib

section
variable [Platform] {s : EvaluationSnapshot} {c : RuleConfig} {f : Findings}

/-- The rule identifiers of facts. -/
def factIds : List String := [F01, F02, F03, F04, F05, F06, F07, F08, F09, F10, F11]

/-- A fact under a fact's identifier whose result is a readable object. -/
def FactStep.Readable (d : FactStep) : Prop :=
  d.ruleId ∈ factIds ∧ ∃ ms, d.result = .obj ms ∧ MembersLoad ms

/-- Whether some rule applies, as a number. -/
def count (b : Bool) : Nat := if b then 1 else 0

/-- The number of fact steps: F01, F04, F07 and F11, one for each other block that has something to
say, and two for each dependency. -/
def stepCount (s : EvaluationSnapshot) (c : RuleConfig) : Nat :=
  4 + count (!(denyRules s).isEmpty || !(allowRules s).isEmpty) + count (!s.exclusions.isEmpty) +
    count (!(nearPrecedents s c).isEmpty) + count (!(identityQualifying s c).isEmpty) +
    count (!(approvedPrecedents s c).isEmpty) + count (!(requiredCapabilityIds s).isEmpty) +
    2 * s.dependencies.length

/-- The number of reports can be written as a JSON integer that is read back. -/
def CountsReadable (s : EvaluationSnapshot) (c : RuleConfig) : Prop :=
  (natChars (consequenceReports s c).length).length ≤ maxIntDigits

/-! ### The descriptors -/

omit [Platform] in
/-- The digits of a small number are few. -/
lemma natChars_small {n : Nat} (h : n ≤ 5) : (natChars n).length ≤ maxIntDigits := by
  have : ∀ n ≤ 5, (natChars n).length ≤ maxIntDigits := by decide
  exact this n h

/-- A fact under a fact's identifier whose result is a tidy object. -/
def FactStep.Clean (d : FactStep) : Prop :=
  d.ruleId ∈ factIds ∧ ∃ ms, d.result = .obj ms ∧ PlainKeys (ms.map Prod.fst) ∧ MembersTidy ms

omit [Platform] in
/-- A clean fact is read back. -/
lemma FactStep.Clean.readable {d : FactStep} (h : d.Clean) : d.Readable := by
  obtain ⟨id, ms, hms, -, members⟩ := h
  exact ⟨id, ms, hms, tidyMembers_load members⟩

omit [Platform] in
@[simp] lemma tidy_strs {l : List String} : Tidy (jsonStrs l) := by simp [jsonStrs]

omit [Platform] in
@[simp] lemma tidy_opt {o : Option String} : Tidy (jsonOpt o) := by cases o <;> simp [jsonOpt]

omit [Platform] in
/-- F01's fact is clean. -/
lemma bind_clean {priorId} : ∀ d ∈ (bindFindings s c priorId).descriptors, d.Clean := by
  simp +decide [bindFindings, FactStep.Clean, factIds]

/-- F02's facts are clean. -/
lemma scope_clean : ∀ d ∈ (scopeFindings s).descriptors, d.Clean := by
  have step (pole a b) : (scopeStep s pole a b).Clean := by
    simp +decide [scopeStep, FactStep.Clean, factIds]
  unfold scopeFindings
  split
  · simp [step]
  · split <;> simp [step]

omit [Platform] in
/-- F03's facts are clean. -/
lemma exclusion_clean : ∀ d ∈ (exclusionFindings s).descriptors, d.Clean := by
  have row (p e) : Tidy (exclusionRow p e) := by simp +decide [exclusionRow]
  dsimp only [exclusionFindings]
  split
  · simp
  · simp +decide [FactStep.Clean, factIds, row]

/-- F04's facts are clean, at most five precedents having been retrieved. -/
lemma retrieval_clean (h : s.precedents.length ≤ 5) :
    ∀ d ∈ (retrievalFindings s c).descriptors, d.Clean := by
  have len : (sortedPrecedents s.precedents).length = s.precedents.length := length_sortedBy
  have hu : ((sortedPrecedents s.precedents).filter fun p => retrieval c p == .unresolved).length ≤
      s.precedents.length := len ▸ List.length_filter_le _ _
  have h₁ := natChars_small h
  have h₂ := natChars_small (hu.trans h)
  have h₃ := natChars_small (show s.precedents.length -
    ((sortedPrecedents s.precedents).filter fun p => retrieval c p == .unresolved).length ≤ 5 by
      omega)
  have row (p) : Tidy (retrievalRow c p) := by simp +decide [retrievalRow]
  simp only [retrievalFindings, List.mem_singleton, forall_eq, FactStep.Clean, len]
  refine ⟨by simp [factIds], _, rfl, by simp +decide, ?_⟩
  simp only [membersTidy_cons, tidy_int, Int.natAbs_natCast, ← Nat.cast_sub hu, h₁, h₂, h₃]
  simp [row]

/-- F05's facts are clean. -/
lemma identity_clean : ∀ d ∈ (identityFindings s c).descriptors, d.Clean := by
  have row (p q) : Tidy (identityRow p q) := by simp +decide [identityRow]
  dsimp only [identityFindings]
  split
  · simp
  · simp +decide [FactStep.Clean, factIds, row]

/-- F06's facts are clean. -/
lemma conflict_clean : ∀ d ∈ (conflictFindings s c).descriptors, d.Clean := by
  have row (p) : Tidy (conflictRow p) := by simp +decide [conflictRow]
  dsimp only [conflictFindings]
  split
  · simp
  · simp +decide [FactStep.Clean, factIds, row]

/-- F07's facts are clean. -/
lemma evidence_clean : ∀ d ∈ (evidenceFindings s).descriptors, d.Clean := by
  have row (r) : Tidy (requirementRow s r) := by simp +decide [requirementRow]
  simp +decide [evidenceFindings, FactStep.Clean, factIds, row]

/-- The F08 fact is tidy when the number of reports is readable. -/
lemma divergence_clean (h : CountsReadable s c) :
    ∀ d ∈ (divergenceBody s c).descriptors, d.Clean := by
  have rows : ∀ j ∈ (consequenceReports s c).map (reportRow c), Tidy j := by
    intro j hj
    obtain ⟨pair, -, rfl⟩ := List.mem_map.mp hj
    simp +decide [reportRow]
  simp only [divergenceBody, List.mem_singleton, forall_eq, FactStep.Clean]
  refine ⟨by simp [factIds], _, rfl, by simp +decide, ?_⟩
  simp only [membersTidy_cons, tidy_int, Int.natAbs_natCast, tidy_arr]
  exact ⟨tidy_strs, tidy_strs, h, tidy_bool, tidy_bool, rows, membersTidy_nil⟩

/-- F08's facts are those of its body. -/
lemma divergence_facts {d : Findings} (e : divergenceFindings s c = .ok d) :
    ∀ x ∈ d.descriptors, x ∈ (divergenceBody s c).descriptors := by
  unfold divergenceFindings at e
  split at e
  · cases e
    simp
  · simp only [bind_eq_ok, pure_eq_ok, Except.ok.injEq] at e
    obtain ⟨-, -, rfl⟩ := e
    simp

/-- F09's facts are clean. -/
lemma capability_clean : ∀ d ∈ (capabilityBody s).descriptors, d.Clean := by
  have row (id) : Tidy (capabilityRow s id) := by simp +decide [capabilityRow]
  dsimp only [capabilityBody]
  split
  · simp
  · simp +decide [FactStep.Clean, factIds, row]

/-- F10's facts are clean. -/
lemma dependencies_clean {ds : List DependencyRef} :
    ∀ d ∈ (dependenciesFindings ds).descriptors, d.Clean := by
  have one (d : DependencyRef) : (oneDependency d).descriptors = dependencySteps d := by
    unfold oneDependency
    split <;> [skip; skip; split] <;> rfl
  induction ds with
  | nil => simp [dependenciesFindings]
  | cons d ds ih =>
    simp only [dependenciesFindings, Findings.descriptors_append, List.forall_mem_append, one]
    refine ⟨?_, ih⟩
    simp +decide [dependencySteps, dependencyStep, FactStep.Clean, factIds, dependencyResult]

omit [Platform] in
/-- F11's fact is clean. -/
lemma aggregate_clean {f : Findings} : ∀ d ∈ (aggregateFindings s f).descriptors, d.Clean := by
  simp +decide [aggregateFindings, FactStep.Clean, factIds]

/-- Every fact but F08 is tidy. -/
lemma collect_facts {priorId} (e : collectFindings s c priorId = .ok f)
    (top : s.precedents.length ≤ 5) :
    ∀ d ∈ f.descriptors, d.Clean ∨ d ∈ (divergenceBody s c).descriptors := by
  obtain ⟨d, hd, -, rfl⟩ := collectFindings_eq_ok.mp e
  simp only [factFindings, Findings.descriptors_append, List.forall_mem_append]
  have left {l : List FactStep} (h : ∀ d ∈ l, d.Clean) :
      ∀ d ∈ l, d.Clean ∨ d ∈ (divergenceBody s c).descriptors := fun d hd => .inl (h d hd)
  refine ⟨⟨⟨⟨⟨⟨⟨⟨⟨⟨left bind_clean, left scope_clean⟩, left exclusion_clean⟩,
    left (retrieval_clean top)⟩, left identity_clean⟩, left conflict_clean⟩,
    left evidence_clean⟩, fun x hx => .inr (divergence_facts hd x hx)⟩,
    left capability_clean⟩, left dependencies_clean⟩, left aggregate_clean⟩

/-- All facts of an evaluation are tidy when the number of reports is readable. -/
lemma collect_clean {priorId} (e : collectFindings s c priorId = .ok f)
    (top : s.precedents.length ≤ 5) (h : CountsReadable s c) : ∀ d ∈ f.descriptors, d.Clean :=
  fun d hd => (collect_facts e top d hd).elim id (divergence_clean h d)

/-- All facts of an evaluation are under a fact's identifier. -/
lemma collect_ids {priorId} (e : collectFindings s c priorId = .ok f)
    (top : s.precedents.length ≤ 5) : ∀ d ∈ f.descriptors, d.ruleId ∈ factIds := by
  intro d hd
  obtain h | h := collect_facts e top d hd
  · exact h.1
  · cases List.mem_singleton.mp h
    exact (by decide : F08 ∈ factIds)

/-! ### The length of the trace -/

omit [Platform] in
/-- The length of a list with one element or none. -/
lemma count_length {α : Type} {b : Prop} [Decidable b] {x : α} :
    (if b then [] else [x]).length = count (!decide b) := by
  by_cases h : b <;> simp [h, count]

omit [Platform] in
lemma isEmpty_decide {α : Type} [DecidableEq α] {l : List α} : decide (l = []) = l.isEmpty := by
  cases l <;> simp

/-- F08 has a fact where a precedent is approved. -/
lemma divergence_length {d : Findings} (e : divergenceFindings s c = .ok d) :
    d.descriptors.length = count (!(approvedPrecedents s c).isEmpty) := by
  unfold divergenceFindings at e
  split at e
  · rename_i h
    cases e
    simp [h, count]
  · rename_i h
    simp only [bind_eq_ok, pure_eq_ok, Except.ok.injEq] at e
    obtain ⟨-, -, rfl⟩ := e
    simp [divergenceBody, h, count]

/-- F02 has a fact where some rule applies. -/
lemma scope_length : (scopeFindings s).descriptors.length =
    count (!(denyRules s).isEmpty || !(allowRules s).isEmpty) := by
  unfold scopeFindings
  split
  · rename_i h
    simp [h, count]
  · rename_i h
    have h := not_not.mp h
    split
    · rename_i ha
      simp [h, ha, count]
    · rename_i ha
      simp [h, not_not.mp ha, count]

/-- F10 has two facts a dependency. -/
lemma dependencies_length {ds : List DependencyRef} :
    (dependenciesFindings ds).descriptors.length = 2 * ds.length := by
  induction ds with
  | nil => rfl
  | cons d ds ih =>
    have one : (oneDependency d).descriptors.length = 2 := by
      unfold oneDependency
      split <;> [skip; skip; split] <;> rfl
    simp only [dependenciesFindings, Findings.descriptors_append, List.length_append, one, ih,
      List.length_cons]
    omega

/-- The fact blocks produce `stepCount` facts. -/
lemma collect_length {priorId} (e : collectFindings s c priorId = .ok f) :
    f.descriptors.length = stepCount s c := by
  obtain ⟨d, hd, -, rfl⟩ := collectFindings_eq_ok.mp e
  have exclusions : sortedExclusions s.exclusions = [] ↔ s.exclusions = [] := by
    rw [← List.length_eq_zero_iff, ← List.length_eq_zero_iff]
    simp [sortedExclusions]
  simp only [factFindings, Findings.descriptors_append, List.length_append, divergence_length hd,
    scope_length, dependencyFindings, dependencies_length, exclusionFindings, identityFindings,
    conflictFindings, capabilityBody, count_length, isEmpty_decide, exclusions, sortedDependencies,
    length_sortedBy]
  simp only [bindFindings, retrievalFindings, evidenceFindings, aggregateFindings,
    List.length_singleton, stepCount]
  omega

/-! ### The trace -/

omit [Platform] in
/-- A step id is made of a non-empty evaluation id, a two-digit ordinal and a rule's name. -/
lemma makeStepId_eq_ok {id ruleId : String} {n : Nat} {x} : makeStepId id n ruleId = .ok x ↔
    (id ≠ "" ∧ 1 ≤ n ∧ n ≤ 99) ∧ isStepRuleId ruleId = true ∧
      id ++ ":" ++ twoDigits n ++ ":" ++ ruleId = x := by
  simp [makeStepId]

/-- A step that was built from a fact. -/
def BuiltFrom (d : FactStep) (step : OperatorTraceStep) : Prop :=
  step.ruleId = d.ruleId ∧ step.resultJson = d.result.dumps

omit [Platform] in
/-- Each built step says what its descriptor says. -/
lemma buildOperatorSteps_built {id : String} {n ds steps}
    (h : buildOperatorSteps id n ds = .ok steps) : List.Forall₂ BuiltFrom ds steps := by
  induction ds generalizing n steps with
  | nil =>
    cases h
    exact .nil
  | cons d ds ih =>
    simp only [buildOperatorSteps, bind_eq_ok, pure_eq_ok, Except.ok.injEq] at h
    obtain ⟨_, -, steps', h', rfl⟩ := h
    exact .cons ⟨rfl, rfl⟩ (ih h')

omit [Platform] in
/-- Descriptors that fit two digits are all built. -/
lemma buildOperatorSteps_ok {id : String} {n l} (hid : id ≠ "") (hn : 1 ≤ n)
    (hl : n + l.length ≤ 100) (hr : ∀ d ∈ l, isStepRuleId d.ruleId = true) :
    ∃ steps, buildOperatorSteps id n l = .ok steps := by
  induction l generalizing n with
  | nil => exact ⟨[], rfl⟩
  | cons d l ih =>
    rw [List.length_cons] at hl
    have hx := makeStepId_eq_ok.mpr ⟨⟨hid, hn, by omega⟩, hr d (by simp), rfl⟩
    obtain ⟨steps, hs⟩ := ih (n := n + 1) (by omega) (by omega) fun d hd => hr d (by simp [hd])
    simp only [buildOperatorSteps, hx, hs, ok_bind]
    exact ⟨_, rfl⟩

omit [Platform] in
/-- The reducer writes the identifier of a reducer. -/
lemma reduceFindings_id {r} (h : reduceFindings s c f = .ok r) : r.reducerId ∈ reducerIds := by
  unfold reduceFindings at h
  split at h
  · simp only [bind_eq_ok, pure_eq_ok, Except.ok.injEq] at h
    obtain ⟨_, -, rfl⟩ := h
    simp [reducerIds]
  · split at h
    · simp only [bind_eq_ok, pure_eq_ok, Except.ok.injEq] at h
      obtain ⟨_, -, rfl⟩ := h
      simp [reducerIds]
    · split at h
      · cases h
        simp [reducerIds]
      · simp only [bind_eq_ok] at h
        obtain ⟨yes, -, h⟩ := h
        split at h
        · cases h
          simp [reducerIds]
        · cases h

omit [Platform] in
/-- A trace is built exactly when there is an evaluation identifier and room for all steps. -/
lemma buildTrace_ok_iff {r} (hr : r.reducerId ∈ reducerIds)
    (hf : ∀ d ∈ f.descriptors, d.ruleId ∈ factIds) (hl : f.descriptors.length + 2 ≤ 99) :
    (∃ t, buildTrace s f r = .ok t) ↔ s.evaluationId ≠ "" := by
  have step : ∀ x ∈ factIds ++ reducerIds, isStepRuleId x = true := by decide
  constructor
  · rintro ⟨t, h⟩
    simp only [buildTrace, bind_eq_ok, pure_eq_ok, makeStepId_eq_ok] at h
    obtain ⟨_, -, _, ⟨⟨hid, -⟩, -⟩, -⟩ := h
    exact hid
  · intro hid
    obtain ⟨steps, hs⟩ := buildOperatorSteps_ok (l := f.descriptors) hid (n := 1) (by omega)
      (by omega) fun d hd => step _ (List.mem_append_left _ (hf d hd))
    have len : steps.length = f.descriptors.length := (buildOperatorSteps_built hs).length_eq.symm
    have h₁ := makeStepId_eq_ok.mpr ⟨⟨hid, by omega, (by omega : steps.length + 1 ≤ 99)⟩, step _ (List.mem_append_right _ hr), rfl⟩
    have h₂ := makeStepId_eq_ok.mpr
      ⟨⟨hid, by omega, (by omega : steps.length + 2 ≤ 99)⟩, (by decide : isStepRuleId F12 = true), rfl⟩
    simp only [buildTrace, hs, h₁, h₂, ok_bind]
    exact ⟨_, rfl⟩

/-! ### The projections of the trace -/

omit [Platform] in
/-- A readable fact is projected. -/
lemma projection_fact {d : FactStep} {step} {trace gaps} (hd : d.Readable)
    (h : BuiltFrom d step) : ∃ v, projection trace gaps step = .ok v := by
  obtain ⟨hid, ms, hms, load⟩ := hd
  obtain ⟨vs, hvs⟩ := jsonLoads_dict load
  have hne : step.ruleId ≠ F12 := by
    rw [h.1]
    intro hn
    rw [hn] at hid
    exact absurd hid (by decide)
  have hl : jsonLoads step.resultJson = .ok (.dict vs) := by rw [h.2, hms, hvs]
  simp only [projection, if_neg hne, factProjection, hl, ok_bind]
  split
  · exact ⟨_, rfl⟩
  · exact ⟨_, rfl⟩

omit [Platform] in
/-- The terminal step is projected. -/
lemma projection_because {id reducerId r decisive trace gaps} :
    ∃ v, projection trace gaps (becauseStep s id reducerId r decisive) = .ok v := by
  have hs : (Json.obj [("verdict", .str r.verdict.name), ("risk", .str r.risk.value)]).sortKeys =
      .obj [("risk", .str r.risk.value), ("verdict", .str r.verdict.name)] := by
    simp [Json.sortKeys, sortMembers, sortedBy, List.insertionSort]
  have hl : jsonLoads (becauseStep s id reducerId r decisive).resultJson =
      .ok (.dict [("risk", .str r.risk.value), ("verdict", .str r.verdict.name)]) := by
    rw [becauseStep, jsonLoads_dumps, hs]
    rfl
  have h₁ : subscript "verdict"
      (.dict [("risk", .str r.risk.value), ("verdict", .str r.verdict.name)]) =
      .ok (.str r.verdict.name) := rfl
  have h₂ : subscript "risk"
      (.dict [("risk", .str r.risk.value), ("verdict", .str r.verdict.name)]) =
      .ok (.str r.risk.value) := rfl
  have hid : (becauseStep s id reducerId r decisive).ruleId = F12 := rfl
  simp only [projection, hid, if_true, becauseProjection, hl, h₁, h₂, ok_bind, pure_eq_ok]
  exact ⟨_, rfl⟩

omit [Platform] in
/-- The operator steps of a trace are its facts and the conclusion. -/
lemma operator_steps {t : BuiltTrace} :
    t.steps.filterMap TraceStep.operator? = t.facts ++ [t.because] := by
  have facts : (t.facts.map TraceStep.operator).filterMap TraceStep.operator? = t.facts := by
    rw [List.filterMap_map]
    exact List.filterMap_some
  rw [BuiltTrace.steps, List.filterMap_append, facts]
  rfl

/-- The trace of an evaluation is projected when the number of reports is readable. -/
lemma projections_ok {priorId r t gaps} (e : collectFindings s c priorId = .ok f)
    (top : s.precedents.length ≤ 5) (ht : buildTrace s f r = .ok t) (h : CountsReadable s c) :
    ∃ l, projections t.steps gaps = .ok l := by
  simp only [buildTrace, bind_eq_ok, pure_eq_ok, Except.ok.injEq] at ht
  obtain ⟨steps, hs, _, -, _, -, rfl⟩ := ht
  refine mapAll_ok fun step hstep => ?_
  rw [operator_steps, List.mem_append, List.mem_singleton] at hstep
  obtain hstep | rfl := hstep
  · obtain ⟨d, hd, hb⟩ := forall₂_mem_right (buildOperatorSteps_built hs) step hstep
    exact projection_fact (collect_clean e top h d hd).readable hb
  · exact projection_because

/-- The F08 fact carries the number of reports. -/
lemma divergence_counts : ∃ d ∈ (divergenceBody s c).descriptors, d.ruleId = F08 ∧
    ∃ ms, d.result = .obj ms ∧
      ("report_count", Json.int ((consequenceReports s c).length : Int)) ∈ ms :=
  ⟨_, List.mem_singleton_self _, rfl, _, rfl, by simp⟩

/-- Without approved precedents there is nothing to count; with one there is an F08 fact. -/
lemma collect_counts {priorId} (e : collectFindings s c priorId = .ok f) :
    CountsReadable s c ∨ ∃ d ∈ f.descriptors, d.ruleId = F08 ∧ ∃ ms, d.result = .obj ms ∧
      ("report_count", Json.int ((consequenceReports s c).length : Int)) ∈ ms := by
  by_cases none : approvedPrecedents s c = []
  · exact .inl (by simpa [CountsReadable, consequenceReports, none] using
      natChars_small (n := 0) (by omega))
  obtain ⟨d, hd, -, rfl⟩ := collectFindings_eq_ok.mp e
  rw [divergenceFindings, if_neg none] at hd
  simp only [bind_eq_ok, pure_eq_ok, Except.ok.injEq] at hd
  obtain ⟨-, -, rfl⟩ := hd
  obtain ⟨d, hmem, rest⟩ := divergence_counts (s := s) (c := c)
  exact .inr ⟨d, by simp [factFindings, hmem], rest⟩

/-- The number of reports in a projected trace is readable. -/
lemma counts_of_projections {priorId r t gaps l} (e : collectFindings s c priorId = .ok f)
    (ht : buildTrace s f r = .ok t) (h : projections t.steps gaps = .ok l) : CountsReadable s c := by
  obtain counts | ⟨d, hd, hid, ms, hms, count⟩ := collect_counts e
  · exact counts
  simp only [buildTrace, bind_eq_ok, pure_eq_ok, Except.ok.injEq] at ht
  obtain ⟨steps, hs, _, -, _, -, rfl⟩ := ht
  obtain ⟨step, hstep, hb⟩ := forall₂_mem_left (buildOperatorSteps_built hs) d hd
  obtain ⟨v, hv⟩ := mapAll_mem h step (by simp [operator_steps, hstep])
  have hne : step.ruleId ≠ F12 := by
    rw [hb.1, hid]
    decide
  simp only [projection, if_neg hne, factProjection, bind_eq_ok, hb.2, hms] at hv
  obtain ⟨_, ⟨v, hv, -⟩, -⟩ := hv
  simpa [CountsReadable] using loads_int.mp (jsonLoads_obj.mp ⟨v, hv⟩ _ count)

/-! ### When an evaluation is finalized -/

/-- What an admitted snapshot needs to be finalized. -/
structure Finalizable (s : EvaluationSnapshot) (c : RuleConfig) : Prop where
  reports : ∀ pair ∈ consequenceReports s c, consequenceBound c pair.2 = true
  capabilities : (s.capabilities.map CapabilityFact.capabilityId).Nodup
  length : stepCount s c + 2 ≤ 99
  evaluationId : s.evaluationId ≠ ""
  prior : ∀ prior ∈ s.priorEvaluation,
    (∃ l, projections prior.operatorTrace prior.evidenceGaps = .ok l) ∧ CountsReadable s c

/-- The fact blocks go through when the reports are bound and no capability is listed twice. -/
lemma collect_ok_iff (priorId : Option String) : (∃ f, collectFindings s c priorId = .ok f) ↔
    (∀ pair ∈ consequenceReports s c, consequenceBound c pair.2 = true) ∧
      (s.capabilities.map CapabilityFact.capabilityId).Nodup := by
  have divergence : (∃ d, divergenceFindings s c = .ok d) ↔
      ∀ pair ∈ consequenceReports s c, consequenceBound c pair.2 = true := by
    unfold divergenceFindings
    split
    · rename_i h
      simp [consequenceReports, h]
    · simp
  rw [← divergence]
  constructor
  · rintro ⟨f, h⟩
    obtain ⟨d, hd, nd, -⟩ := collectFindings_eq_ok.mp h
    exact ⟨⟨d, hd⟩, nd⟩
  · rintro ⟨⟨d, hd⟩, nd⟩
    exact ⟨_, collectFindings_eq_ok.mpr ⟨d, hd, nd, rfl⟩⟩

/-- Reporting the changes of a built trace. -/
lemma changedFactIds_ok_iff {priorId r t} (gaps) (e : collectFindings s c priorId = .ok f)
    (top : s.precedents.length ≤ 5) (ht : buildTrace s f r = .ok t) :
    (∃ l, changedFactIds t.steps gaps s = .ok l) ↔ ∀ prior ∈ s.priorEvaluation,
      (∃ l, projections prior.operatorTrace prior.evidenceGaps = .ok l) ∧ CountsReadable s c := by
  unfold changedFactIds
  cases s.priorEvaluation with
  | none => simp
  | some prior =>
    simp only [bind_eq_ok, pure_eq_ok, Except.ok.injEq, Option.mem_some_iff, forall_eq']
    constructor
    · rintro ⟨_, before, hb, after, ha, -⟩
      exact ⟨⟨before, hb⟩, counts_of_projections e ht ha⟩
    · rintro ⟨⟨before, hb⟩, counts⟩
      obtain ⟨after, ha⟩ := projections_ok e top ht counts
      exact ⟨_, before, hb, after, ha, rfl⟩

/-- The evaluation of an admitted snapshot succeeds exactly when the snapshot is finalizable. -/
theorem evaluateAdmitted_ok_iff (priorId : Option String) (h : c.isPinned) (fin : FiniteDivergence s)
    (top : s.precedents.length ≤ 5) :
    (∃ r, evaluateAdmitted s c priorId = .ok r) ↔ Finalizable s c := by
  constructor
  · rintro ⟨_, hr⟩
    simp only [evaluateAdmitted, bind_eq_ok, ensure_eq_ok, exists_unit] at hr
    obtain ⟨f, hf, r, hr, len, t, ht, changed, hc, -⟩ := hr
    obtain ⟨reports, capabilities⟩ := (collect_ok_iff priorId).mp ⟨f, hf⟩
    have ids := collect_ids hf top
    exact
      { reports := reports
        capabilities := capabilities
        length := collect_length hf ▸ len
        evaluationId := (buildTrace_ok_iff (reduceFindings_id hr) ids len).mp ⟨t, ht⟩
        prior := (changedFactIds_ok_iff r.gaps hf top ht).mp ⟨changed, hc⟩ }
  · intro hfin
    obtain ⟨f, hf⟩ := (collect_ok_iff priorId).mpr ⟨hfin.reports, hfin.capabilities⟩
    obtain ⟨r, hr, -⟩ := reduce_outcome h fin hf
    have len : f.descriptors.length + 2 ≤ 99 := collect_length hf ▸ hfin.length
    have ids := collect_ids hf top
    obtain ⟨t, ht⟩ := (buildTrace_ok_iff (reduceFindings_id hr) ids len).mpr hfin.evaluationId
    obtain ⟨changed, hc⟩ := (changedFactIds_ok_iff r.gaps hf top ht).mpr hfin.prior
    obtain ⟨digest, hd⟩ := checkResultDigest_ok (provisionalResult s c priorId r t changed)
    simp only [evaluateAdmitted, hf, hr, ensure_pos len, ht, hc, hd, ok_bind]
    exact ⟨_, rfl⟩

end

end GAM
