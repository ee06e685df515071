import GAM.Governance.Finalized
import GAM.Governance.Minimal

/-!
# What the validator makes sure of

The reducers of a trace that `validate_check_result` accepts. The loop over the steps types and binds
each reducer where it stands, the positions allow one step for each rule, and the terminal step is no
reducer. How many reducers there are, and which of them the verdict belongs to, is not checked; neither
are the families of the steps before the last.
-/

namespace GAM
open Lib

section
variable {ruleId : String}

/-- The rules with a binding are the reducers. -/
lemma reducerBinding_some : reducerBinding ruleId ≠ none ↔ ruleId ∈ reducerIds := by
  constructor
  · intro bound
    by_contra other
    simp only [reducerIds, List.mem_cons, List.not_mem_nil, or_false, not_or] at other
    exact bound (reducerBinding.eq_5 ruleId other.1 other.2.1 other.2.2.1 other.2.2.2)
  · intro member
    simp only [reducerIds, List.mem_cons, List.not_mem_nil, or_false] at member
    rcases member with rfl | rfl | rfl | rfl <;> exact Option.some_ne_none _

/-- Reducers are bound to one family. -/
lemma reducerBinding_family {family : OperatorFamily} {pole : String}
    (h : reducerBinding ruleId = some (family, pole)) : family = .everySome := by
  have bound : reducerBinding ruleId ≠ none := by
    rw [h]
    exact nofun
  have member := reducerBinding_some.mp bound
  simp only [reducerIds, List.mem_cons, List.not_mem_nil, or_false] at member
  rcases member with rfl | rfl | rfl | rfl <;>
    exact (Prod.mk.inj (Option.some.inj h)).1.symm

end

/-- What the loop makes sure of at one step, after the steps with the given identifiers. -/
structure StepBound (seen : List String) (step : TraceStep) : Prop where
  typed : step.reducer?.isSome ↔ step.ruleId ∈ reducerIds
  bound : ∀ reducer, step = .reducer reducer →
    reducerBinding reducer.ruleId = some (reducer.family, reducer.pole)
  decisive : ∀ reducer, step = .reducer reducer →
    reducer.decisiveFactStepIds ≠ [] ∧ ∀ item ∈ reducer.decisiveFactStepIds, item ∈ seen

/-- An accepted step is bound to the steps before it. -/
lemma validateStepKind_bound {seen : List String} {step : TraceStep}
    (h : validateStepKind false (step.stepId :: seen) step = .ok ()) : StepBound seen step := by
  cases step with
  | operator step =>
    rw [validateStepKind, ensure_eq_ok] at h
    have unbound : reducerBinding step.ruleId = none := h.resolve_left (by simp)
    refine ⟨⟨?_, fun member => ?_⟩, ?_, ?_⟩
    · intro is
      cases is
    · exact absurd unbound (reducerBinding_some.mpr member)
    · rintro reducer ⟨⟩
    · rintro reducer ⟨⟩
  | reducer step =>
    simp only [validateStepKind, bind_eq_ok, ensure_eq_ok, exists_unit] at h
    obtain ⟨bound, some, decisive, own⟩ := h
    refine ⟨⟨fun _ => ?_, fun _ => rfl⟩, ?_, ?_⟩
    · exact reducerBinding_some.mp (by
        change reducerBinding step.ruleId ≠ none
        rw [bound]
        exact Option.some_ne_none _)
    · rintro reducer ⟨⟩
      exact bound
    · rintro reducer ⟨⟩
      refine ⟨some, fun item hitem => ?_⟩
      refine (List.mem_cons.mp (decisive item hitem)).resolve_left fun e => own ?_
      have e : item = step.stepId := e
      rwa [← e]

section
variable [Platform] {evaluationId : String}

/-- What the loop makes sure of at every step. -/
lemma validateSteps_bound {n : Nat} {seen : List String} {before after : List TraceStep}
    {step : TraceStep}
    (h : validateSteps evaluationId false n seen (before ++ step :: after) = .ok ()) :
    StepBound ((before.map TraceStep.stepId).reverse ++ seen) step := by
  induction before generalizing n seen with
  | nil =>
    simp only [List.nil_append, validateSteps, bind_eq_ok, ensure_eq_ok, exists_unit] at h
    obtain ⟨-, _, -, -, -, kind, -⟩ := h
    exact validateStepKind_bound kind
  | cons first before ih =>
    simp only [List.cons_append, validateSteps, bind_eq_ok, ensure_eq_ok, exists_unit] at h
    obtain ⟨-, _, -, -, -, -, rest⟩ := h
    have bound := ih rest
    rwa [List.map_cons, List.reverse_cons, List.append_assoc, List.singleton_append]

omit [Platform] in
/-- The reducers' rules are among the rules of the trace, in their order. -/
lemma reducers_sublist {trace : List TraceStep} :
    ((trace.filterMap TraceStep.reducer?).map ReducerTraceStep.ruleId).Sublist
      (trace.map TraceStep.ruleId) := by
  induction trace with
  | nil => exact .slnil
  | cons step trace ih =>
    cases step with
    | operator step => exact ih.cons _
    | reducer step => exact ih.cons_cons _

omit [Platform] in
/-- A rule occurs at as many positions as there are steps under it. -/
lemma length_rulePositions {trace : List TraceStep} {ruleId : String} :
    (rulePositions trace ruleId).length = (trace.map TraceStep.ruleId).count ruleId := by
  have steps (n : Nat) (l : List TraceStep) :
      ((l.zipIdx n).filter fun step => step.1.ruleId == ruleId).length =
        (l.map TraceStep.ruleId).count ruleId := by
    induction l generalizing n with
    | nil => rfl
    | cons step l ih =>
      rw [List.zipIdx_cons, List.filter_cons, List.map_cons, List.count_cons, ← ih (n + 1)]
      split
      · rw [List.length_cons]
      · rfl
  rw [rulePositions, List.length_map, steps]

/-- What an accepted trace is like: its reducers are the steps under the reducers' rules, each rule at
most once, bound to their family, resting on earlier steps and not at the end; the last step has the
family BECAUSE. -/
theorem validateCheckResult_reducers {r v : CheckResult} (h : validateCheckResult r = .ok v) :
    ((r.operatorTrace.filterMap TraceStep.reducer?).map ReducerTraceStep.ruleId).Nodup ∧
    (∀ before step after, r.operatorTrace = before ++ step :: after →
      StepBound (before.map TraceStep.stepId) step ∧ (step.reducer?.isSome → after ≠ [])) ∧
    ∃ terminal, r.operatorTrace.getLast? = some terminal ∧ terminal.stepId = r.becauseStepId ∧
      terminal.family = .because ∧ terminal.pole = "BECAUSE" := by
  simp only [validateCheckResult, bind_eq_ok, ensure_eq_ok, exists_unit] at h
  obtain ⟨-, -, -, trace, -⟩ := h
  simp only [validateTrace, bind_eq_ok, ensure_eq_ok, exists_unit, forAll_eq_ok] at trace
  obtain ⟨-, steps, positions, terminal⟩ := trace
  -- the checks of one step, at any position of the trace
  have bound {before after : List TraceStep} {step : TraceStep}
      (e : r.operatorTrace = before ++ step :: after) :
      StepBound (before.map TraceStep.stepId) step := by
    have step_bound := validateSteps_bound (e ▸ steps)
    rw [List.append_nil] at step_bound
    refine ⟨step_bound.typed, step_bound.bound, fun reducer er => ?_⟩
    obtain ⟨some, decisive⟩ := step_bound.decisive reducer er
    exact ⟨some, fun item hitem => List.mem_reverse.mp (decisive item hitem)⟩
  have last : ∃ terminal, r.operatorTrace.getLast? = some terminal ∧
      terminal.stepId = r.becauseStepId ∧ terminal.family = .because ∧
      terminal.pole = "BECAUSE" := by
    simp only [Bool.false_eq_true, if_false, validateTerminal, bind_eq_ok, ensure_eq_ok,
      exists_unit] at terminal
    obtain ⟨-, ends⟩ := terminal
    cases e : r.operatorTrace.getLast? with
    | none =>
      rw [e] at ends
      exact ends.elim
    | some step =>
      rw [e] at ends
      exact ⟨step, rfl, ends⟩
  refine ⟨List.nodup_iff_count_le_one.mpr fun ruleId => ?_, ?_, last⟩
  · by_cases member : ruleId ∈ (r.operatorTrace.filterMap TraceStep.reducer?).map
      ReducerTraceStep.ruleId
    · obtain ⟨reducer, hreducer, rfl⟩ := List.mem_map.mp member
      obtain ⟨step, hstep, typed⟩ := List.mem_filterMap.mp hreducer
      obtain ⟨before, after, e⟩ := List.append_of_mem hstep
      have same : step = .reducer reducer := by
        cases step with
        | operator step => cases typed
        | reducer step =>
          cases typed
          rfl
      have own : reducer.ruleId ∈ reducerIds := by
        have typed := (bound e).typed.mp (by rw [typed]; rfl)
        rwa [same] at typed
      have other : reducer.ruleId ≠ "F10_DEPENDENCY_FORMULA" := by
        intro e
        rw [e] at own
        exact absurd own (by decide)
      -- the position check allows every rule but F10 once
      have once := positions reducer.ruleId (List.mem_map.mpr ⟨step, hstep, by rw [same]; rfl⟩)
      rw [validatePositions, if_neg other, ensure_eq_ok, length_rulePositions] at once
      exact (reducers_sublist.count_le _).trans once.le
    · rw [List.count_eq_zero_of_not_mem member]
      exact Nat.zero_le 1
  · intro before step after e
    refine ⟨bound e, fun typed empty => ?_⟩
    obtain ⟨terminal, hlast, -, family, -⟩ := last
    rw [e, empty, List.getLast?_concat, Option.some.injEq] at hlast
    subst hlast
    cases step with
    | operator step => cases typed
    | reducer step =>
      -- no reducer has the family of the terminal step
      have := reducerBinding_family ((bound e).bound step rfl)
      rw [show step.family = .because from family] at this
      cases this

end

/-- A trace with two reducers and a BECAUSE step at its start. -/
def contradictoryTrace : List TraceStep :=
  [.operator ⟨"e:01:F01_BIND", "F01_BIND", .because, "BECAUSE", "proposal", [], "\x7b\x7d", []⟩,
    .reducer ⟨"e:02:R1_NO", "R1_NO", .everySome, "SOME", ["e:01:F01_BIND"], "\x7b\x7d"⟩,
    .reducer ⟨"e:03:R4_YES", "R4_YES", .everySome, "EVERY", ["e:01:F01_BIND"], "\x7b\x7d"⟩,
    .operator ⟨"e:04:F12_FINAL_BECAUSE", "F12_FINAL_BECAUSE", .because, "BECAUSE", "proposal", [],
      "\x7b\x7d", []⟩]

section
variable [Platform]

/-- A result with that trace, under a verdict that neither reducer has. -/
def contradictoryResult : CheckResult :=
  let s := minimalSnapshot "e" (minimalProposal "proposal" "reason") none
  sealedResult
    { minimalResult "gam-gate/1.1" s with
      verdict := .maybe
      operatorTrace := contradictoryTrace
      becauseStepId := "e:04:F12_FINAL_BECAUSE" }

/-- The trace is valid. -/
lemma contradictoryTrace_valid :
    validateTrace "e" contradictoryTrace (some "e:04:F12_FINAL_BECAUSE") false = .ok () := by
  have id {n : Nat} {ruleId stepId : String} (hn : 1 ≤ n ∧ n ≤ 99) (hr : isStepRuleId ruleId = true)
      (hs : "e" ++ ":" ++ twoDigits n ++ ":" ++ ruleId = stepId) :
      makeStepId "e" n ruleId = .ok stepId := makeStepId_eq_ok.mpr ⟨⟨by decide, hn⟩, hr, hs⟩
  have h₁ : makeStepId "e" 1 "F01_BIND" = .ok "e:01:F01_BIND" :=
    id (by decide) (by decide) (by decide)
  have h₂ : makeStepId "e" (1 + 1) "R1_NO" = .ok "e:02:R1_NO" :=
    id (by decide) (by decide) (by decide)
  have h₃ : makeStepId "e" (1 + 1 + 1) "R4_YES" = .ok "e:03:R4_YES" :=
    id (by decide) (by decide) (by decide)
  have h₄ : makeStepId "e" (1 + 1 + 1 + 1) "F12_FINAL_BECAUSE" = .ok "e:04:F12_FINAL_BECAUSE" :=
    id (by decide) (by decide) (by decide)
  have steps : validateSteps "e" false 1 [] contradictoryTrace = .ok () := by
    simp [contradictoryTrace, validateSteps, TraceStep.ruleId, TraceStep.stepId, TraceStep.pole,
      TraceStep.family, TraceStep.resultJson, allowedPoles, validateStepKind, reducerBinding,
      plainJson_empty, h₁, h₂, h₃, h₄]
  have positions : forAll (validatePositions contradictoryTrace)
      (contradictoryTrace.map TraceStep.ruleId) = .ok () := by
    simp [contradictoryTrace, validatePositions, rulePositions, TraceStep.ruleId]
  simp only [validateTrace, bind_eq_ok, ensure_eq_ok, exists_unit, steps, positions]
  exact ⟨by decide, trivial, trivial, by decide⟩

/-- The result is valid. -/
lemma contradictoryResult_valid :
    validateCheckResult contradictoryResult = .ok contradictoryResult := by
  have digest : checkResultDigest contradictoryResult = .ok contradictoryResult.traceDigest :=
    digestOf_ok (checkResultDigest_ok _)
  have fields : FieldsValid contradictoryResult := by
    rw [CheckResult.fieldsValid]
    refine ⟨fun x hx => ?_, fun _ h => absurd h List.not_mem_nil, zeroDigest_hex, digestOf_hex,
      digestOf_hex, digestOf_hex⟩
    simp only [contradictoryResult, sealedResult, contradictoryTrace, List.mem_cons,
      List.not_mem_nil, or_false] at hx
    rcases hx with rfl | rfl | rfl | rfl <;> exact plainJson_empty
  have trace : validateTrace contradictoryResult.evaluationId contradictoryResult.operatorTrace
      (some contradictoryResult.becauseStepId) false = .ok () := contradictoryTrace_valid
  simp only [validateCheckResult, bind_eq_ok, ensure_eq_ok, exists_unit, validateFields_toValue,
    trace, digest]
  have verdict : contradictoryResult.verdict ≠ .iff := fun same => by cases same
  have profile : contradictoryResult.profileVersion ≠ some "" := Option.some_ne_none _ ∘ Eq.symm
  exact ⟨fields, rfl, rfl, trivial, .inl verdict, profile, _, rfl, rfl, rfl⟩

end

/-- So is the smallest result, which has no reducer. -/
lemma unreducedResult_valid [Platform] :
    let s := minimalSnapshot "e" (minimalProposal "proposal" "reason") none
    validateCheckResult (minimalResult "gam-gate/1.1" s) = .ok (minimalResult "gam-gate/1.1" s) :=
  minimalResult_valid (show "e" ≠ "" by decide) digestOf_hex digestOf_hex nofun

/-- The theorem at that result: its two reducers are before its end. -/
theorem validateCheckResult_reducers_two :
    let _ := asciiPlatform
    validateCheckResult contradictoryResult = .ok contradictoryResult ∧
      ((contradictoryResult.operatorTrace.filterMap TraceStep.reducer?).map
        ReducerTraceStep.ruleId).Nodup := by
  intro _
  exact ⟨contradictoryResult_valid, (validateCheckResult_reducers contradictoryResult_valid).1⟩

/-- Accepted, and accepted as a prior evaluation: a result without a reducer, and a MAYBE with the
reducers of NO and of YES and two BECAUSE steps. -/
theorem validateCheckResult_contradictory :
    let _ := asciiPlatform
    let s := minimalSnapshot "e" (minimalProposal "proposal" "reason") none
    (validateCheckResult (minimalResult "gam-gate/1.1" s) = .ok (minimalResult "gam-gate/1.1" s) ∧
      (minimalResult "gam-gate/1.1" s).operatorTrace.filterMap TraceStep.reducer? = []) ∧
    (validateCheckResult contradictoryResult = .ok contradictoryResult ∧
      validatePrior (priorOfResult contradictoryResult "proposal") "proposal" = .ok () ∧
      contradictoryResult.verdict = .maybe ∧
      (contradictoryResult.operatorTrace.filterMap TraceStep.reducer?).map ReducerTraceStep.ruleId =
        ["R1_NO", "R4_YES"] ∧
      (contradictoryResult.operatorTrace.filter fun step => step.family = .because).length = 2) := by
  intro _ s
  exact ⟨⟨unreducedResult_valid, rfl⟩, contradictoryResult_valid,
    priorOfResult_valid contradictoryResult_valid, rfl, rfl, rfl⟩

end GAM
