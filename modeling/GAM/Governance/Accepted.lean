import GAM.Governance.Checked
import GAM.Governance.Gaps

/-!
# Which finalized results are valid

The evaluator validates its BLOCKED results and not its finalized ones. `evaluateAdmitted_accepted` says
which finalized results are valid, by what the snapshot must be like (`Presentable`).
-/

namespace GAM
open Lib

section
variable [Platform] {s : EvaluationSnapshot} {c : RuleConfig} {f : Findings} {r : CheckResult}
  {priorId : Option String}

/-- What an admitted snapshot needs for its result to be valid. -/
structure Presentable (s : EvaluationSnapshot) (c : RuleConfig) : Prop where
  counts : CountsReadable s c
  dependencies : ∀ d ∈ s.dependencies, FieldsValid d
  rules : ¬Forbidden s → Unsettled s → ∀ g, OpenGap s g → g.resolutionRuleId ≠ ""
  gaps : ¬Forbidden s → Unsettled s →
    ∀ g g', OpenGap s g → OpenGap s g' → g.gapId = g'.gapId → g = g'
  prior : ∀ prior ∈ s.priorEvaluation, ∀ step ∈ prior.operatorTrace.filterMap TraceStep.operator?,
    isFactRuleId step.ruleId = true

/-! ### The texts of the steps -/

/-- A text that is canonical has only numbers that are written back. -/
lemma plainJson_num {j : Json} {n : Number} (h : PlainJson j.dumps) (hn : .num n ∈ j.parts) :
    ∃ cs, renderNumber n = .ok cs := by
  obtain ⟨j', hp, plain, -⟩ := canonicalPlainJson_iff.mp h
  rw [Json.parse_dumps, Option.some.injEq] at hp
  subst hp
  exact plain _ (num_mem_sortKeys.mpr hn)

omit [Platform] in
/-- A count that is written back has few digits. -/
lemma readable_of_render {n : Nat} {cs : List Char} (h : renderNumber (.ofInt n) = .ok cs) :
    (natChars n).length ≤ maxIntDigits := by
  by_contra long
  have int : (Number.ofInt (n : Int)).int = n := rfl
  rw [renderNumber, loadNumber, if_pos ⟨rfl, rfl⟩, int, if_pos (not_le.mp long)] at h
  cases h

/-- The texts of the facts are canonical exactly when the number of reports is readable. -/
lemma facts_plain {n : Nat} (e : collectFindings s c priorId = .ok f)
    (top : s.precedents.length ≤ 5) :
    (∀ step ∈ (f.descriptors.zipIdx n).map (builtStep s.evaluationId), PlainJson step.resultJson) ↔
      CountsReadable s c := by
  constructor
  · intro plain
    obtain counts | ⟨d, hd, -, ms, hms, count⟩ := collect_counts e
    · exact counts
    obtain ⟨i, hi⟩ := @built_mem s.evaluationId _ n _ hd
    have text := plain _ hi
    rw [builtStep, hms] at text
    have number : Json.int ((consequenceReports s c).length : Int) ∈ (Json.obj ms).parts :=
      mem_parts_obj.mpr (.inr ⟨_, count, Json.mem_parts _⟩)
    obtain ⟨cs, hcs⟩ := plainJson_num text number
    exact readable_of_render hcs
  · intro counts step hs
    obtain ⟨d, hd, i, rfl⟩ := mem_built hs
    obtain ⟨-, ms, hms, keys, members⟩ := collect_clean e top counts d hd
    rw [builtStep, hms]
    exact (tidy_obj.mpr ⟨keys, members⟩).canonical

/-- All steps of a built trace have canonical texts exactly when the number of reports is readable. -/
lemma trace_plain {red : Reduction} {t : BuiltTrace} (e : collectFindings s c priorId = .ok f)
    (top : s.precedents.length ≤ 5) (ht : buildTrace s f red = .ok t) :
    (∀ step ∈ t.steps, PlainJson step.resultJson) ↔ CountsReadable s c := by
  obtain ⟨hfacts, -, reducerId, becauseId, hreducer, hbecause⟩ := buildTrace_parts ht
  have reducer : PlainJson t.reducer.resultJson := by
    rw [hreducer, reducerStep]
    exact Tidy.canonical (by simp +decide)
  have because : PlainJson t.because.resultJson := by
    rw [hbecause, becauseStep]
    exact Tidy.canonical (by simp +decide)
  rw [← facts_plain (n := 1) e top, ← hfacts]
  simp only [BuiltTrace.steps, List.forall_mem_append, List.forall_mem_map, List.forall_mem_cons,
    List.not_mem_nil, false_imp_iff, implies_true, and_true, TraceStep.resultJson, reducer, because]

/-! ### The gaps -/

omit [Platform] in
/-- Only a MAYBE keeps the gaps. -/
lemma reduceFindings_gaps {red : Reduction} (h : reduceFindings s c f = .ok red) :
    red.gaps = if f.rawR1 = [] ∧ f.rawR2 ≠ [] then sortedBy EvidenceGap.gapId f.candidateGaps.dedup
      else [] := by
  unfold reduceFindings at h
  split at h
  · rename_i h₁
    simp only [bind_eq_ok, pure_eq_ok, Except.ok.injEq] at h
    obtain ⟨_, -, rfl⟩ := h
    rw [if_neg fun h => h₁ h.1]
  · rename_i h₁
    split at h
    · rename_i h₂
      simp only [bind_eq_ok, pure_eq_ok, Except.ok.injEq] at h
      obtain ⟨_, -, rfl⟩ := h
      have maybe : f.rawR1 = [] ∧ f.rawR2 ≠ [] := ⟨not_not.mp h₁, h₂⟩
      rw [if_pos maybe]
    · rename_i h₂
      rw [if_neg fun h => h₂ h.2]
      split at h
      · cases h
        rfl
      · simp only [bind_eq_ok] at h
        obtain ⟨yes, -, h⟩ := h
        split at h
        · cases h
          rfl
        · cases h

/-- The gaps of the result are valid exactly when the open questions of an undecided snapshot name a
rule and have identifiers of their own. -/
lemma gaps_accepted {red : Reduction} (pinned : c.isPinned) (fin : FiniteDivergence s)
    (e : collectFindings s c priorId = .ok f) (h : reduceFindings s c f = .ok red) :
    validateGapScope [] red.gaps = .ok () ↔ (¬Forbidden s → Unsettled s →
      (∀ g, OpenGap s g → g.resolutionRuleId ≠ "") ∧
        ∀ g g', OpenGap s g → OpenGap s g' → g.gapId = g'.gapId → g = g') := by
  rw [reduceFindings_gaps h]
  by_cases forbidden : Forbidden s
  · rw [if_neg fun hn => (collect_forbidden e).mp hn.1 forbidden]
    simp [validateGapScope, forbidden]
  have open_gap (g) : g ∈ f.candidateGaps ↔ OpenGap s g := mem_candidateGaps pinned fin e forbidden
  have settled := collect_unsettled pinned fin e forbidden
  by_cases unsettled : Unsettled s
  · have maybe : f.rawR1 = [] ∧ f.rawR2 ≠ [] :=
      ⟨(collect_forbidden e).mpr forbidden, fun hn => settled.mp hn unsettled⟩
    have nodup : (sortedBy EvidenceGap.gapId f.candidateGaps.dedup).Nodup :=
      sortedBy_perm.nodup_iff.mpr (List.nodup_dedup _)
    rw [if_pos maybe, validateGapScope_ok, List.nodup_map_iff_inj_on nodup]
    simp only [mem_sortedBy, List.mem_dedup, open_gap, List.not_mem_nil, not_false_eq_true,
      true_and, forbidden, unsettled, forall_const]
    constructor
    · rintro ⟨named, distinct⟩
      exact ⟨fun g hg => (named g hg).2, fun g g' hg hg' => distinct g hg g' hg'⟩
    · rintro ⟨named, distinct⟩
      exact ⟨fun g hg => ⟨hg.id_ne, named g hg⟩, fun g hg g' hg' => distinct g g' hg hg'⟩
  · rw [if_neg fun hn => hn.2 (settled.mpr unsettled)]
    simp [validateGapScope, unsettled]

/-! ### The changed rules -/

omit [Platform] in
/-- A trace is projected under the rules of its operator steps. -/
lemma projections_keys {trace : List TraceStep} {gaps : List EvidenceGap} {l}
    (h : projections trace gaps = .ok l) :
    l.map Prod.fst = (trace.filterMap TraceStep.operator?).map OperatorTraceStep.ruleId := by
  have each := mapAll_eq_ok.mp h
  generalize trace.filterMap TraceStep.operator? = steps at each
  clear h
  induction each with
  | nil => rfl
  | cons head _ ih =>
    rw [List.map_cons, List.map_cons, ih]
    unfold projection at head
    split at head
    · simp only [bind_eq_ok, pure_eq_ok, Except.ok.injEq] at head
      obtain ⟨_, -, rfl⟩ := head
      rfl
    · simp only [bind_eq_ok, pure_eq_ok, Except.ok.injEq] at head
      obtain ⟨_, -, rfl⟩ := head
      rfl

omit [Platform] in
/-- A rule with a step has a group. -/
lemma projectionGroup_ne_nil {l : List (String × Value)} {rule : String} :
    projectionGroup l rule ≠ [] ↔ rule ∈ l.map Prod.fst := by
  simp [projectionGroup, List.filter_eq_nil_iff]

omit [Platform] in
/-- Only a group without members equals an empty one. -/
lemma valuesEq_nil {l : List Value} : valuesEq l [] = true ↔ l = [] := by
  cases l <;> simp [valuesEq]

/-- The rules of a built trace are the rules of facts. -/
lemma trace_rules {red : Reduction} {t : BuiltTrace} (e : collectFindings s c priorId = .ok f)
    (top : s.precedents.length ≤ 5) (ht : buildTrace s f red = .ok t) :
    ∀ step ∈ t.steps.filterMap TraceStep.operator?, isFactRuleId step.ruleId = true := by
  obtain ⟨hfacts, -, reducerId, becauseId, -, hbecause⟩ := buildTrace_parts ht
  have known : ∀ rule ∈ F12 :: factIds, isFactRuleId rule = true := by decide
  rw [operator_steps]
  intro step hs
  rcases List.mem_append.mp hs with hs | hs
  · obtain ⟨d, hd, i, rfl⟩ := mem_built (hfacts ▸ hs)
    exact known _ (List.mem_cons_of_mem _ (collect_ids e top d hd))
  · rw [List.mem_singleton.mp hs, hbecause]
    exact known _ List.mem_cons_self

/-- The reported rules are valid exactly when the prior trace has only rules of facts. -/
lemma changed_accepted {red : Reduction} {t : BuiltTrace} {changed : List String}
    (e : collectFindings s c priorId = .ok f) (top : s.precedents.length ≤ 5)
    (ht : buildTrace s f red = .ok t) (h : changedFactIds t.steps red.gaps s = .ok changed) :
    validateChangedFactIds changed = .ok () ↔ ∀ prior ∈ s.priorEvaluation,
      ∀ step ∈ prior.operatorTrace.filterMap TraceStep.operator?, isFactRuleId step.ruleId = true := by
  have own := trace_rules e top ht
  unfold changedFactIds at h
  cases prior : s.priorEvaluation with
  | none =>
    rw [prior] at h
    cases h
    simp [validateChangedFactIds, ensure]
  | some prior =>
    simp only [prior, bind_eq_ok, pure_eq_ok, Except.ok.injEq] at h
    obtain ⟨before, hb, after, ha, rfl⟩ := h
    have keys : ∀ rule ∈ after.map Prod.fst, isFactRuleId rule = true := by
      rw [projections_keys ha]
      exact List.forall_mem_map.mpr own
    rw [validateChanged_rules]
    simp only [Option.mem_some_iff, forall_eq']
    constructor
    · intro all step hs
      have hk : step.ruleId ∈ before.map Prod.fst := by
        rw [projections_keys hb]
        exact List.mem_map_of_mem hs
      by_cases again : step.ruleId ∈ after.map Prod.fst
      · exact keys _ again
      -- a rule that only the prior trace has is reported as changed
      refine all _ (mem_changedRules.mpr ⟨by simp [hk], ?_⟩)
      have group : projectionGroup after step.ruleId = [] :=
        not_not.mp fun hn => again (projectionGroup_ne_nil.mp hn)
      rw [group, Bool.eq_false_iff]
      exact fun hn => projectionGroup_ne_nil.mpr hk (valuesEq_nil.mp hn)
    · intro all rule hm
      have hm := (mem_changedRules.mp hm).1
      rw [List.map_append, List.mem_append] at hm
      rcases hm with hm | hm
      · rw [projections_keys hb] at hm
        obtain ⟨step, hs, rfl⟩ := List.mem_map.mp hm
        exact all step hs
      · exact keys rule hm

/-! ### Finalized results -/

/-- What admission has checked of the fields a result carries over. -/
lemma admit_bindings (h : admission s c = .ok priorId) : s.precedents.length ≤ 5 ∧
    isHex64 c.ruleConfigDigest = true ∧ isHex64 s.snapshotDigest = true ∧
    isHex64 s.policy.policyDigest = true ∧ s.profileVersion ≠ some "" := by
  have pinned := (admit_facts h).1
  simp only [admission, validateInput, validateConfig, checkBindings, bind_eq_ok, ensure_eq_ok,
    exists_unit] at h
  obtain ⟨⟨⟨-, config, hc, rfl⟩, admitted, -, -, -, -, -, -, -, -, -, policy, hp, hpd, -, profile, top,
    -⟩, -⟩ := h
  refine ⟨pinned.2.2.2.1 ▸ top, canonicalSha256_hex hc,
    canonicalSha256_hex (admitSnapshot_digest admitted), ?_, profile⟩
  rw [hpd]
  exact canonicalSha256_hex hp

omit [Platform] in
/-- An IFF has a dependency that is still open. -/
lemma declared_iff (h : (declaredOutcome s).1 = .iff) : ∃ d ∈ s.dependencies, d.state = .unresolved := by
  unfold declaredOutcome at h
  split at h
  · cases h
  · split at h
    · cases h
    · split at h
      · rename_i conditional
        exact conditional
      · cases h

/-- The finalized result of an admitted snapshot is valid exactly when the snapshot is presentable. -/
lemma evaluateAdmitted_accepted (adm : admission s c = .ok priorId)
    (h : evaluateAdmitted s c priorId = .ok r) : validateCheckResult r = .ok r ↔ Presentable s c := by
  obtain ⟨pinned, fin⟩ := admit_facts adm
  obtain ⟨top, config, snapshot, policy, profile⟩ := admit_bindings adm
  have outcome := evaluateAdmitted_outcome pinned fin h
  obtain ⟨f', facts, reducer, because, -, shape⟩ := evaluateAdmitted_shape h
  simp only [evaluateAdmitted, bind_eq_ok, pure_eq_ok, Except.ok.injEq, ensure_eq_ok,
    exists_unit] at h
  obtain ⟨f, hf, red, hr, -, t, ht, changed, hc, digest, hd, hresult⟩ := h
  have steps : r.operatorTrace = t.steps := hresult ▸ rfl
  -- the steps of the trace are accepted where their texts are
  have family : reducer.family = .everySome := by
    obtain ⟨-, -, _, _, hreducer, -⟩ := buildTrace_parts ht
    have hm : TraceStep.reducer reducer ∈ t.steps := steps ▸ shape.parts ▸ by simp
    simp only [BuiltTrace.steps, List.mem_append, List.mem_map, reduceCtorEq, and_false,
      exists_false, List.mem_cons, TraceStep.reducer.injEq, List.not_mem_nil, or_false,
      false_or] at hm
    rw [hm, hreducer]
    rfl
  have trace := validateTrace_shape shape family
  rw [steps, trace_plain hf top ht, ← steps] at trace
  -- the fields are valid where the texts are plain and the dependencies valid
  have fields : FieldsValid r ↔ CountsReadable s c ∧ ∀ d ∈ s.dependencies, FieldsValid d := by
    have plain : (∀ step ∈ r.operatorTrace, PlainJson step.resultJson) ↔ CountsReadable s c := by
      rw [steps]
      exact trace_plain hf top ht
    have dependencies : r.dependencies = sortedDependencies s := hresult ▸ rfl
    have hex : isHex64 r.ruleConfigDigest = true ∧ isHex64 r.inputSnapshotDigest = true ∧
        isHex64 r.policyDigest = true ∧ isHex64 r.traceDigest = true := by
      rw [← hresult]
      exact ⟨config, snapshot, policy, canonicalSha256_hex hd⟩
    rw [CheckResult.fieldsValid, plain, dependencies]
    simp only [sortedDependencies, mem_sortedBy, hex, and_true]
  -- the gaps, the changed rules, the conditional verdict, and the seal
  have gaps := gaps_accepted pinned fin hf hr
  rw [show red.gaps = r.evidenceGaps from hresult ▸ rfl] at gaps
  have rules := changed_accepted hf top ht hc
  rw [show changed = r.changedFactRuleIds from hresult ▸ rfl] at rules
  have conditional : r.verdict ≠ .iff ∨ ∃ item ∈ r.dependencies, item.state = .unresolved := by
    by_cases hv : r.verdict = .iff
    · obtain ⟨d, hd, state⟩ := declared_iff (s := s) (by rw [← outcome, hv])
      refine .inr ⟨d, ?_, state⟩
      rw [← hresult]
      exact mem_sortedBy.mpr hd
    · exact .inl hv
  have version : r.profileVersion ≠ some "" := hresult ▸ profile
  have sealed : checkResultDigest r = .ok r.traceDigest := by
    rw [← hresult]
    exact hd
  simp only [validateCheckResult, bind_eq_ok, ensure_eq_ok, exists_unit, validateFields_toValue,
    pure_eq_ok, fields, gaps, rules, trace, conditional, version, sealed, Except.ok.injEq,
    exists_eq_left', and_true, ne_eq, not_false_eq_true]
  constructor
  · rintro ⟨⟨counts, dependencies⟩, gaps, prior, -⟩
    exact
      { counts := counts
        dependencies := dependencies
        rules := fun hf hu => (gaps hf hu).1
        gaps := fun hf hu => (gaps hf hu).2
        prior := prior }
  · intro h
    exact ⟨⟨h.counts, h.dependencies⟩, fun hf hu => ⟨h.rules hf hu, h.gaps hf hu⟩, h.prior, h.counts⟩

end

end GAM
