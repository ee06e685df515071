import GAM.Governance.Finalized
import GAM.Governance.Minimal

/-!
# Admission of a re-evaluation

A first evaluation is finalized only when `validateSnapshot` accepts its snapshot. A re-evaluation
is admitted without that: when the validator finds a violation and a prior evaluation is present,
`validateSnapshotWithExactReducers` looks at the snapshot digest and the prior only.
`BypassesValidator` collects what such a snapshot has to satisfy, and `strict_iff` says that these
are exactly the snapshots that are finalized without being valid.
-/

namespace GAM
open Lib

section
variable [Platform] {s : EvaluationSnapshot} {c : RuleConfig}

/-- A finalized result exists exactly for admitted snapshots that are finalizable. -/
lemma evaluateCanonical_check_iff : (∃ r, evaluateCanonical s c = .ok (.check r)) ↔
    (∃ priorId, admission s c = .ok priorId) ∧ Finalizable s c := by
  have top {priorId} (h : admission s c = .ok priorId) : s.precedents.length ≤ 5 := by
    have hk := (admit_facts h).1.2.2.2.1
    simp only [admission, validateInput, checkBindings, bind_eq_ok, ensure_eq_ok, exists_unit] at h
    obtain ⟨⟨-, -, -, -, -, _, -, -, _, -, -, _, -, -, -, -, top, -⟩, -⟩ := h
    exact hk ▸ top
  simp only [evaluateCanonical_check]
  constructor
  · rintro ⟨r, priorId, ha, hr⟩
    obtain ⟨pinned, fin⟩ := admit_facts ha
    exact ⟨⟨priorId, ha⟩, (evaluateAdmitted_ok_iff priorId pinned fin (top ha)).mp ⟨r, hr⟩⟩
  · rintro ⟨⟨priorId, ha⟩, hfin⟩
    obtain ⟨pinned, fin⟩ := admit_facts ha
    obtain ⟨r, hr⟩ := (evaluateAdmitted_ok_iff priorId pinned fin (top ha)).mpr hfin
    exact ⟨r, priorId, ha, hr⟩

/-- A snapshot, in canonical order, that gets a finalized result although it is invalid. -/
structure BypassesValidator (s : EvaluationSnapshot) (c : RuleConfig) : Prop where
  /-- There is a prior evaluation. -/
  prior : s.priorEvaluation.isSome
  /-- The validator finds a violation of the contract. -/
  violation : ∃ message, validateSnapshot s = .error (.contractViolation message)
  /-- The configuration is the pinned one. -/
  config : validateConfig c = .ok ()
  /-- The snapshot digest and the prior trace reproduce. -/
  exact : validateSnapshotWithExactReducers s = .ok ()
  /-- Keys, digests, exclusions and limits are as in every evaluation. -/
  bindings : checkBindings s c = .ok ()
  /-- The prior evaluation was made under the same configuration and policy. -/
  binding : ∃ priorId, bindPrior s c = .ok priorId
  /-- Reports, capabilities, trace length and change report do not stop the evaluation. -/
  finalizable : Finalizable s c

/-- Admission goes through the validator or around it. -/
lemma admitSnapshot_ok_iff : admitSnapshot s = .ok () ↔ (∃ v, validateSnapshot s = .ok v) ∨
    s.priorEvaluation.isSome ∧
      (∃ message, validateSnapshot s = .error (.contractViolation message)) ∧
      validateSnapshotWithExactReducers s = .ok () := by
  unfold admitSnapshot
  split
  · rename_i v h
    simp [h]
  · rename_i message h
    cases hp : s.priorEvaluation <;> simp [h, stop]
  · rename_i e he h
    simp only [h, reduceCtorEq, Except.error.injEq, false_iff]
    rintro (⟨_, hv⟩ | ⟨-, ⟨message, hm⟩, -⟩)
    · exact hv
    · exact he message hm

/-- Finalized but invalid: exactly the snapshots that bypass the validator. -/
lemma bypasses_iff : ((∃ r, evaluateCanonical s c = .ok (.check r)) ∧
    ¬∃ v, validateSnapshot s = .ok v) ↔ BypassesValidator s c := by
  rw [evaluateCanonical_check_iff]
  simp only [admission, validateInput, bind_eq_ok, exists_unit, admitSnapshot_ok_iff, exists_and_left]
  constructor
  · rintro ⟨⟨⟨⟨hc, hs, hb⟩, hp⟩, hfin⟩, hv⟩
    obtain ⟨prior, violation, exact⟩ := hs.resolve_left hv
    exact ⟨prior, violation, hc, exact, hb, hp, hfin⟩
  · rintro ⟨prior, ⟨message, violation⟩, hc, exact, hb, hp, hfin⟩
    refine ⟨⟨⟨⟨hc, .inr ⟨prior, ⟨message, violation⟩, exact⟩, hb⟩, hp⟩, hfin⟩, ?_⟩
    simp [violation]

/-- The evaluator finalizes only snapshots that the validator accepts, unless the snapshot bypasses
the validator. -/
theorem strict_iff (s : EvaluationSnapshot) (c : RuleConfig) :
    (∀ r, evaluateProposal s c = .ok (.check r) →
      ∃ v, validateSnapshot (canonicalSnapshot s) = .ok v) ↔
    ¬BypassesValidator (canonicalSnapshot s) c := by
  rw [← bypasses_iff, evaluateProposal]
  grind

/-! ### A snapshot that bypasses the validator -/

/-- The pinned configuration. -/
def pinnedConfig : RuleConfig :=
  { ruleConfigDigest := digestOf (computeRuleConfigDigest { ruleConfigDigest := zeroDigest }) }

omit [Platform] in
/-- The default configuration is pinned, whatever its digest. -/
lemma pinned_of_default {digest : String} : RuleConfig.isPinned { ruleConfigDigest := digest } :=
  ⟨rfl, by simp [Decimal.eqv, Decimal.isFinite], by simp [Decimal.eqv, Decimal.isFinite], rfl, rfl, rfl, rfl, rfl, rfl, rfl, rfl⟩

/-- The pinned configuration is valid. -/
lemma pinnedConfig_valid : validateConfig pinnedConfig = .ok () := by
  have h₁ : Encodes (.decimal (.finite false 85000000 (-8))) :=
    encodes_decimal (by decide) (by decide)
  have h₂ : Encodes (.decimal (.finite false 50000 (-5))) :=
    encodes_decimal (by decide) (by decide)
  have h : ∃ d, computeRuleConfigDigest { ruleConfigDigest := zeroDigest } = .ok d := by
    refine Encodes.digest ?_
    rw [show ruleConfigPayload _ = .dict _ from rfl, encodes_dict (by simp) (by simp; decide)]
    simp [h₁, h₂]
  simp only [validateConfig, bind_eq_ok, ensure_eq_ok, exists_unit]
  exact ⟨pinned_of_default, _, digestOf_ok h, rfl⟩

/-- A sealed proposal with the action and target of the smallest one passes the checks of keys,
digests and limits. -/
lemma sealed_bindings {evaluationId : String} {body : Proposal} {prior}
    (ha : body.actionType = "SET_DEMO_VALUE") (hak : body.actionTypeKey = "set_demo_value")
    (ht : body.target = "demo_kv:alpha") (htk : body.targetKey = "demo_kv:alpha")
    (fin : ∀ x ∈ body.embedding, x.isFinite = true) (hd : body.dependencies = []) :
    checkBindings (minimalSnapshot evaluationId (sealedProposal body) prior) pinnedConfig = .ok () := by
  have action : normalizeActionTargetKey body.actionType = .ok body.actionTypeKey := by
    rw [ha, hak]
    exact normalize_ascii (by decide) (by decide) (by decide) (by decide) (by decide)
  have target : normalizeActionTargetKey body.target = .ok body.targetKey := by
    rw [ht, htk]
    exact normalize_ascii (by decide) (by decide) (by decide) (by decide) (by decide)
  have one : (body.actionTypeKey ++ "\x1f" ++ body.targetKey).toList.count '\x1f' = 1 := by
    rw [hak, htk]
    decide
  have policy : ∃ d, policyInputDigest ⟨"policy", zeroDigest, []⟩ = .ok d := policyInputDigest_ok
  simp only [checkBindings, checkKey, bind_eq_ok, ensure_eq_ok, exists_unit]
  refine ⟨⟨_, action, rfl⟩, ⟨_, target, rfl⟩, one, _, sealedProposal_action, rfl, _,
    sealedProposal_record fin, rfl, _, digestOf_ok policy, rfl, ?_, ?_, ?_, rfl, ?_⟩
  · simp [minimalSnapshot, sealedSnapshot, sealedPolicy]
  · simp [minimalSnapshot, sealedSnapshot]
  · simp [minimalSnapshot, sealedSnapshot]
  · simp [minimalSnapshot, sealedSnapshot, sealedProposal, hd]

/-- The smallest snapshot is in canonical order. -/
lemma minimal_canonical {evaluationId body prior} (he : body.evidenceRefs = [])
    (hd : body.dependencies = []) :
    canonicalSnapshot (minimalSnapshot evaluationId (sealedProposal body) prior) =
      minimalSnapshot evaluationId (sealedProposal body) prior := by
  obtain ⟨_, _, _, _, _, _, _, _, _, _, _, _, _, _, _, refs, deps, _, _, _, _, _⟩ := body
  cases he
  cases hd
  rfl

/-- A prior evaluation that ended in R1. -/
def refusedPrior (proposalId : String) : PriorEvaluationTrace :=
  let body : PriorEvaluationTrace :=
    { evaluationId := "first"
      proposalId := proposalId
      verdict := .no
      risk := .high
      operatorTrace :=
        [.operator ⟨"first:01:F01_THIS_BIND", "F01_THIS_BIND", .this, "THIS", proposalId, [], "\x7b\x7d", []⟩,
          .reducer ⟨"first:02:R1_NO", "R1_NO", .everySome, "SOME", ["first:01:F01_THIS_BIND"], "\x7b\x7d"⟩,
          .operator ⟨"first:03:F12_FINAL_BECAUSE", "F12_FINAL_BECAUSE", .because, "BECAUSE",
            proposalId, [], (Json.obj [("verdict", .str "NO"), ("risk", .str "HIGH")]).dumps, []⟩]
      evidenceGaps := []
      dependencies := []
      precedentRefs := []
      consequenceWarningRefs := []
      becauseStepId := "first:03:F12_FINAL_BECAUSE"
      profileVersion := none
      priorEvaluationId := none
      changedFactRuleIds := []
      evaluatorVersion := pinnedConfig.evaluatorVersion
      ruleConfigDigest := pinnedConfig.ruleConfigDigest
      inputSnapshotDigest := zeroDigest
      policyDigest := (sealedPolicy ⟨"policy", zeroDigest, []⟩).policyDigest
      traceDigest := zeroDigest }
  { body with traceDigest := digestOf (priorDigest body) }

/-- A re-evaluation of a proposal without an embedding and without the digest of its input. -/
def unembedded : EvaluationSnapshot :=
  minimalSnapshot "second"
    (sealedProposal { minimalBody "proposal" "reason" with
      embedding := [], embeddingInputDigest := "" })
    (some (refusedPrior "proposal"))

/-- The refused prior's trace passes the exact check. -/
lemma refusedPrior_exact {proposalId : String} :
    validateExactTrace proposalId (refusedPrior proposalId) = .ok () := by
  have id {n : Nat} {ruleId stepId : String} (hn : 1 ≤ n ∧ n ≤ 99) (hr : isStepRuleId ruleId = true)
      (hs : "first" ++ ":" ++ twoDigits n ++ ":" ++ ruleId = stepId) :
      makeStepId "first" n ruleId = .ok stepId := makeStepId_eq_ok.mpr ⟨⟨by decide, hn⟩, hr, hs⟩
  have h₁ : makeStepId "first" 1 "F01_THIS_BIND" = .ok "first:01:F01_THIS_BIND" :=
    id (by decide) (by decide) (by decide)
  have h₂ : makeStepId "first" 2 "R1_NO" = .ok "first:02:R1_NO" :=
    id (by decide) (by decide) (by decide)
  have h₃ : makeStepId "first" 3 "F12_FINAL_BECAUSE" = .ok "first:03:F12_FINAL_BECAUSE" :=
    id (by decide) (by decide) (by decide)
  simp only [validateExactTrace, bind_eq_ok, ensure_eq_ok, exists_unit]
  refine ⟨_, digestOf_ok (checkResultDigest_ok _), ⟨rfl, rfl, rfl, rfl⟩, ?_, ?_⟩
  · exact List.mem_cons_self
  · simp only [refusedPrior, validateOrdinals, TraceStep.ruleId, TraceStep.stepId, h₁, h₂, h₃, ok_bind,
      ensure_pos]

/-- The refused prior's trace is projected. -/
lemma refusedPrior_projections {proposalId : String} :
    ∃ l, projections (refusedPrior proposalId).operatorTrace (refusedPrior proposalId).evidenceGaps =
      .ok l := by
  have hf : jsonLoads "\x7b\x7d" = .ok (.dict []) := rfl
  have hb : jsonLoads (Json.obj [("verdict", .str "NO"), ("risk", .str "HIGH")]).dumps =
      .ok (.dict [("risk", .str "HIGH"), ("verdict", .str "NO")]) := by
    have hs : (Json.obj [("verdict", .str "NO"), ("risk", .str "HIGH")]).sortKeys =
        .obj [("risk", .str "HIGH"), ("verdict", .str "NO")] := by
      simp [Json.sortKeys, sortMembers, sortedBy, List.insertionSort]
    rw [jsonLoads_dumps, hs]
    rfl
  refine mapAll_ok fun step hstep => ?_
  have hstep : step ∈ ([⟨"first:01:F01_THIS_BIND", "F01_THIS_BIND", .this, "THIS", proposalId, [], "\x7b\x7d",
      []⟩, ⟨"first:03:F12_FINAL_BECAUSE", "F12_FINAL_BECAUSE", .because, "BECAUSE", proposalId, [],
      (Json.obj [("verdict", .str "NO"), ("risk", .str "HIGH")]).dumps, []⟩] :
      List OperatorTraceStep) := hstep
  simp only [List.mem_cons, List.not_mem_nil, or_false] at hstep
  obtain rfl | rfl := hstep
  · exact ⟨("F01_THIS_BIND", .tuple [.str "THIS", .str "THIS", .dict []]), by
      simp [projection, F12, F01, factProjection, hf, popBindingKeys, OperatorFamily.value]⟩
  · simp only [projection, F12, if_true, becauseProjection, hb, ok_bind]
    exact ⟨_, rfl⟩

/-- The smallest snapshot is finalizable when its prior trace is readable. -/
lemma minimal_finalizable {evaluationId : String} {p : Proposal} {prior} (hid : evaluationId ≠ "")
    (hprior : ∀ x ∈ prior, ∃ l, projections x.operatorTrace x.evidenceGaps = .ok l) :
    Finalizable (minimalSnapshot evaluationId p prior) pinnedConfig := by
  have reports : consequenceReports (minimalSnapshot evaluationId p prior) pinnedConfig = [] := rfl
  have counts : CountsReadable (minimalSnapshot evaluationId p prior) pinnedConfig :=
    natChars_small (n := 0) (by decide)
  exact
    { reports := by simp [reports]
      capabilities := List.nodup_nil
      length := (by decide : 4 + 0 + 0 + 0 + 0 + 0 + 0 + 2 * 0 + 2 ≤ 99)
      evaluationId := hid
      prior := fun x hx => ⟨hprior x hx, counts⟩ }

/-- A proposal whose first invalid field is the digest of its embedding's input. -/
lemma inputDigest_violation {p : Proposal} (h₁ : PlainJson p.parametersJson)
    (h₂ : PlainJson p.impactAssessmentJson) (h₃ : PlainJson p.predictedOutcomeJson)
    (hd : p.dependencies = []) (hi : isHex64 p.embeddingInputDigest = false) :
    validateNested (toValue p) =
      .error (.contractViolation "invalid digest: embedding_input_digest") := by
  have valid {α : Type} [ToValue α] {a : α} (h : FieldsValid a) : validateNested (toValue a) = .ok () := h
  have json {name text : String} (h : PlainJson text) : validateJsonField name (.str text) = .ok () := h
  have digest : validateDigestField "embedding_input_digest" (.str p.embeddingInputDigest) =
      .error (.contractViolation "invalid digest: embedding_input_digest") := by
    simp [validateDigestField, validateDigest, hi]
  have hp : FieldsValid p.parentProposalId := by simp
  have hm : FieldsValid p.sourceModifyDecisionId := by simp
  have hv : FieldsValid p.sourceModifyDecisionValue := by simp
  have he : FieldsValid p.evidenceRefs := by simp
  have hf : FieldsValid p.embedding := by simp
  have hn : FieldsValid p.dependencies := by simp [hd]
  rw [show toValue p = .record _ from rfl]
  simp [-toValue_list, -validateNested_toValue, validateNested, validateFieldList, hasSuffix,
    List.isSuffixOf, List.isPrefixOf, valid hp, valid hm, valid hv, valid he, valid hf, valid hn,
    json h₁, json h₂, json h₃, digest]

/-- A snapshot without an embedding's digest is refused. -/
lemma unembedded_violation : validateSnapshot unembedded =
    .error (.contractViolation "invalid digest: embedding_input_digest") := by
  have hp : validateNested (toValue unembedded.proposal) =
      .error (.contractViolation "invalid digest: embedding_input_digest") :=
    inputDigest_violation plainJson_value plainJson_empty plainJson_empty rfl
      (by decide : isHex64 "" = false)
  have hs : validateFields (toValue unembedded) =
      .error (.contractViolation "invalid digest: embedding_input_digest") := by
    have hv : validateNested (toValue unembedded.profileVersion) = .ok () := rfl
    rw [show toValue unembedded = .record _ from rfl]
    simp [-validateNested_toValue, validateFields, validateFieldList, hasSuffix, List.isSuffixOf,
      List.isPrefixOf, validateNested, hv, hp]
  simp only [validateSnapshot, hs, error_bind]

/-- The re-evaluation bypasses the validator. -/
lemma unembedded_bypasses : BypassesValidator unembedded pinnedConfig where
  prior := rfl
  violation := ⟨_, unembedded_violation⟩
  config := pinnedConfig_valid
  exact := by
    have hd : snapshotDigest unembedded = .ok unembedded.snapshotDigest :=
      minimalSnapshot_digest fun _ h => absurd h List.not_mem_nil
    simp only [validateSnapshotWithExactReducers, bind_eq_ok, ensure_eq_ok, exists_unit]
    exact ⟨_, hd, rfl, refusedPrior_exact⟩
  bindings := sealed_bindings rfl rfl rfl rfl (fun _ h => absurd h List.not_mem_nil) rfl
  binding := ⟨some "first", by simp [bindPrior, unembedded, minimalSnapshot, sealedSnapshot, ensure_pos, refusedPrior]⟩
  finalizable := minimal_finalizable (by decide) fun _ h => by
    cases h
    exact refusedPrior_projections

/-- A finalized result of a snapshot that the validator refuses. -/
lemma unembedded_finalized : (∃ r, evaluateProposal unembedded pinnedConfig = .ok (.check r)) ∧
    ¬∃ v, validateSnapshot (canonicalSnapshot unembedded) = .ok v := by
  have canonical : canonicalSnapshot unembedded = unembedded := minimal_canonical rfl rfl
  rw [evaluateProposal, canonical]
  exact bypasses_iff.mpr unembedded_bypasses

end

/-- Admission is not as strict on a re-evaluation as on a first evaluation. -/
theorem unembedded_not_strict :
    ¬∀ (s : EvaluationSnapshot) (r : CheckResult),
      @evaluateProposal asciiPlatform s (@pinnedConfig asciiPlatform) = .ok (.check r) →
        ∃ v, @validateSnapshot asciiPlatform (canonicalSnapshot s) = .ok v := by
  intro h
  obtain ⟨⟨r, hr⟩, hv⟩ := @unembedded_finalized asciiPlatform
  exact hv (h _ r hr)

section
variable [Platform]

/-- The smallest snapshot of the smallest proposal is admitted and finalized. -/
lemma minimal_finalized (evaluationId proposalId reasoning : String) (hid : evaluationId ≠ "") :
    ∃ r, evaluateProposal (minimalSnapshot evaluationId (minimalProposal proposalId reasoning) none)
      pinnedConfig = .ok (.check r) := by
  have canonical : canonicalSnapshot
      (minimalSnapshot evaluationId (minimalProposal proposalId reasoning) none) = _ :=
    minimal_canonical rfl rfl
  have none_valid : ∀ x ∈ (none : Option PriorEvaluationTrace),
      validatePrior x proposalId = .ok () := fun _ h => nomatch h
  have valid : admitSnapshot (minimalSnapshot evaluationId (minimalProposal proposalId reasoning) none) =
      .ok () := admitSnapshot_ok_iff.mpr (.inl
        ⟨_, minimalSnapshot_valid (minimalProposal_valid proposalId reasoning) hid none_valid⟩)
  rw [evaluateProposal, canonical, evaluateCanonical_check_iff]
  refine ⟨⟨none, ?_⟩, minimal_finalizable hid fun _ h => nomatch h⟩
  simp only [admission, validateInput, bind_eq_ok, exists_unit]
  exact ⟨⟨pinnedConfig_valid, valid,
    sealed_bindings rfl rfl rfl rfl (minimalProposal_finite proposalId reasoning) rfl⟩, rfl⟩

end

/-- The evaluator agrees with the declared outcome on the smallest snapshot. -/
theorem evaluate_outcome_minimal :
    let _ := asciiPlatform
    let s := minimalSnapshot "first" (minimalProposal "proposal" "reason") none
    ∃ r, evaluateProposal s pinnedConfig = .ok (.check r) ∧ (r.verdict, r.risk) = declaredOutcome s := by
  intro _ s
  obtain ⟨r, hr⟩ := minimal_finalized "first" "proposal" "reason" (by decide)
  exact ⟨r, hr, (evaluate_outcome s pinnedConfig).2.1 r hr⟩

end GAM
