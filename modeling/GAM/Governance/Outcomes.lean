import GAM.Governance.Accepted

/-!
# The outcomes of the gate

Every BLOCKED result is valid (`blockedResult_ok`), so what can go wrong is an exception that no
handler of `evaluate_proposal` catches or a finalized result that is not valid. `Sound` is the
condition on the snapshot under which neither happens, and `evaluateProposal_accepted` says that it is
exact.
-/

namespace GAM
open Lib

section
variable [Platform] {s : EvaluationSnapshot} {c : RuleConfig} {priorId : Option String}

/-- The outcome passes its own validator. -/
def EvaluationResult.Accepted : EvaluationResult → Prop
  | .check r => validateCheckResult r = .ok r
  | .blocked b => validateBlockedResult b = .ok b

/-! ### BLOCKED results -/

omit [Platform] in
/-- A default that is not empty leaves no empty text. -/
lemma orElse_ne {value default : String} (h : default ≠ "") : orElse value default ≠ "" := by
  unfold orElse
  split
  · exact h
  · assumption

omit [Platform] in
/-- The digest that is bound has its form. -/
lemma safeDigest_hex {value : String} : isHex64 (safeDigest value) = true := by
  unfold safeDigest
  split
  · assumption
  · exact zeroDigest_hex

/-- A trace of the one step of a BLOCKED result is valid. -/
lemma validateTrace_blocked {evaluationId : String} {step : OperatorTraceStep}
    (id : makeStepId evaluationId 1 F01 = .ok step.stepId) (rule : step.ruleId = F01)
    (family : step.family = .this) (pole : step.pole = "THIS") (plain : PlainJson step.resultJson) :
    validateTrace evaluationId [.operator step] none true = .ok () := by
  have steps : validateSteps evaluationId true 1 [] [.operator step] = .ok () := by
    simp only [validateSteps, bind_eq_ok, ensure_eq_ok, exists_unit, validateFields_toValue,
      TraceStep.fieldsValid, TraceStep.ruleId, TraceStep.stepId, TraceStep.pole, TraceStep.family,
      TraceStep.resultJson, rule, family, pole, id, Except.ok.injEq, exists_eq_left', and_true,
      validateStepKind]
    exact ⟨plain, ⟨trivial, List.not_mem_nil⟩, List.mem_singleton_self _, .inl trivial⟩
  have positions : forAll (validatePositions [.operator step])
      ([TraceStep.operator step].map TraceStep.ruleId) = .ok () := by
    simp [validatePositions, rulePositions, TraceStep.ruleId, rule, F01]
  simp only [validateTrace, bind_eq_ok, ensure_eq_ok, exists_unit, steps, positions, true_and,
    if_true, validateBlockedEnd]
  exact ⟨⟨by simp, by simp⟩, by simp [TraceStep.reducer?], trivial⟩

/-- The step of a BLOCKED result. -/
def blockedStep (s : EvaluationSnapshot) (stepId : String) : OperatorTraceStep where
  stepId := stepId
  ruleId := F01
  family := .this
  pole := "THIS"
  subjectRef := orElse s.proposal.proposalId "unbound-proposal"
  objectRefs := []
  resultJson := (Json.obj [("blocked_before_finalization", .bool true)]).dumps
  evidenceRefs := []

/-- A BLOCKED result before its digest. -/
def blockedBody (s : EvaluationSnapshot) (c : RuleConfig) (code message : String)
    (priorId : Option String) (stepId : String) : BlockedResult where
  evaluationId := orElse s.evaluationId "blocked-evaluation"
  profileVersion := none
  priorEvaluationId := priorId
  changedFactRuleIds := []
  errorCode := code
  safeMessage := message
  operatorTrace := [blockedStep s stepId]
  evidenceGaps := []
  dependencies := []
  evaluatorVersion := orElse c.evaluatorVersion "gam-gate/1.1"
  ruleConfigDigest := safeDigest c.ruleConfigDigest
  inputSnapshotDigest := safeDigest s.snapshotDigest
  policyDigest := safeDigest s.policy.policyDigest
  traceDigest := zeroDigest

/-- A blocked result is its finalized body under the first step id. -/
lemma blockedResult_eq {code message : String} : blockedResult s c code message priorId = (do
    let stepId ← makeStepId (orElse s.evaluationId "blocked-evaluation") 1 F01
    finalizeBlockedResult (blockedBody s c code message priorId stepId)) := rfl

/-- Every BLOCKED result with a code and a message is valid. -/
lemma blockedResult_ok {code message : String} (hc : code ≠ "") (hm : message ≠ "") :
    ∃ b stepId digest, b = { blockedBody s c code message priorId stepId with traceDigest := digest } ∧
      blockedResult s c code message priorId = .ok b ∧ validateBlockedResult b = .ok b := by
  have named : orElse s.evaluationId "blocked-evaluation" ≠ "" := orElse_ne (by decide)
  obtain ⟨stepId, id⟩ : ∃ stepId,
      makeStepId (orElse s.evaluationId "blocked-evaluation") 1 F01 = .ok stepId :=
    ⟨_, makeStepId_eq_ok.mpr ⟨⟨named, le_refl 1, by omega⟩, by decide, rfl⟩⟩
  have plain : PlainJson (blockedStep s stepId).resultJson := Tidy.canonical (by simp +decide)
  have trace := @validateTrace_blocked _ _ (blockedStep s stepId) id rfl rfl rfl plain
  rw [blockedResult_eq, id, ok_bind, finalizeBlockedResult]
  obtain ⟨digest, hd⟩ := blockedResultDigest_ok (blockedBody s c code message priorId stepId)
  have same : blockedResultDigest
      { blockedBody s c code message priorId stepId with traceDigest := digest } = .ok digest := hd
  refine ⟨_, stepId, digest, rfl, ?_, ?_⟩
  all_goals
    simp only [hd, ok_bind, validateBlockedResult, bind_eq_ok, ensure_eq_ok, exists_unit,
      validateFields_toValue, pure_eq_ok, same, and_true, BlockedResult.fieldsValid]
    refine ⟨⟨fun x hx => ?_, fun _ h => absurd h List.not_mem_nil, safeDigest_hex, safeDigest_hex,
      safeDigest_hex, canonicalSha256_hex hd⟩, rfl, ⟨rfl, rfl⟩, trace, hc, hm⟩
    cases List.mem_singleton.mp hx
    exact plain

/-- The exceptions of the evaluator that a handler catches. -/
@[simp] def PyError.IsHandled : PyError → Prop
  | .attributeError | .arithmeticError => False
  | _ => True

omit [Platform] in
/-- An error of the check is handled. -/
lemma PyError.IsCheckError.isHandled {e : PyError} (h : e.IsCheckError) : e.IsHandled := by
  cases e <;> simp_all

/-- The handlers turn every exception they catch into a valid BLOCKED result. -/
lemma handle_accepted {codes : List String} {e : PyError} (h : e.IsStop codes) (hc : "" ∉ codes) :
    (∃ o, handle s c priorId e = .ok o ∧ o.Accepted) ↔ e.IsHandled := by
  have blocked {code message} (hc : code ≠ "") (hm : message ≠ "") :
      ∃ o, (.blocked <$> blockedResult s c code message priorId) = .ok o ∧
        EvaluationResult.Accepted o := by
    obtain ⟨b, -, -, -, hb, valid⟩ := @blockedResult_ok _ s c priorId _ _ hc hm
    exact ⟨.blocked b, by rw [hb]; rfl, valid⟩
  cases e with
  | blocked code message =>
    refine iff_of_true (blocked ?_ h.2) trivial
    rintro rfl
    exact hc h.1
  | contractViolation | valueError | typeError | keyError =>
    exact iff_of_true (blocked (by decide) (by decide)) trivial
  | attributeError | arithmeticError => exact iff_of_false (by simp [handle]) id
  | integrity | conflict | embedding | executionBlocked | cliBlocked | sqlError => exact h.elim

/-! ### Digests that overflow -/

/-- The checks of `validate_snapshot` before it computes the digest. -/
def validateBeforeDigest (s : EvaluationSnapshot) : Except PyError Unit := do
  validateFields (toValue s)
  validateProposal s.proposal
  ensure (s.evaluationId ≠ "" ∧ s.snapshotId ≠ "")
    (.contractViolation "snapshot identity is empty")
  checkSome (fun prior => validatePrior prior s.proposal.proposalId) s.priorEvaluation
  forAll validatePrecedent s.precedents
  forAll (fun capability => validateFields (toValue capability)) s.capabilities
  ensure (s.dependencies.map DependencyRef.dependencyId).Nodup
    (.contractViolation "duplicate snapshot dependency ID")

/-- The validation in its order: the records, the digest, what is bound. -/
lemma validateSnapshot_eq : validateSnapshot s = (do
    validateBeforeDigest s
    let digest ← snapshotDigest s
    ensure (s.snapshotDigest = digest) (.contractViolation "snapshot digest mismatch")
    return s) := by
  simp only [validateSnapshot, validateBeforeDigest, bind_assoc]

/-- A prior evaluation has a digest, so its check raises no overflow. -/
lemma validatePrior_checks {p : PriorEvaluationTrace} {proposalId : String} :
    OnlyRaises PyError.IsCheckError (validatePrior p proposalId) := by
  obtain ⟨d, hd⟩ := checkResultDigest_ok (priorResult p)
  have digest := @priorPayload_digest _ _ p.proposalId _ hd
  rw [show priorOfResult (priorResult p) p.proposalId = p from rfl] at digest
  simp [validatePrior, validateFields_raises, validateChangedFactIds_raises,
    validateGapScope_raises, validateTrace_raises, digest]

/-- The records are accepted or refused with an error of the check. -/
lemma validateBeforeDigest_raises : OnlyRaises PyError.IsCheckError (validateBeforeDigest s) := by
  simp [validateBeforeDigest, validateFields_raises, validateProposal_raises, validatePrior_checks,
    onlyRaises_forAll, validatePrecedent_raises]

/-- The digest of the snapshot overflows a decimal and the gate computes it: no earlier check refuses
the snapshot, or it has a prior evaluation and the refusal is a violation of the contract. -/
def Overflows (s : EvaluationSnapshot) : Prop :=
  snapshotDigest s = .error .arithmeticError ∧
    (validateBeforeDigest s = .ok () ∨
      s.priorEvaluation ≠ none ∧ ∃ m, validateBeforeDigest s = .error (.contractViolation m))

/-- The check of an exact prior trace raises nothing past the handlers. -/
lemma validateExactPrior_handled : OnlyRaises PyError.IsHandled (validateExactPrior s) := by
  have ordinals {id n l} : OnlyRaises PyError.IsHandled (validateOrdinals id n l) := by
    induction l generalizing n with
    | nil => simp [validateOrdinals]
    | cons step l ih =>
      simp only [validateOrdinals, onlyRaises_bind, onlyRaises_ensure, ih, implies_true, and_true]
      exact ⟨makeStepId_raises.mono fun _ => PyError.IsCheckError.isHandled, fun _ _ _ => trivial⟩
  unfold validateExactPrior
  rw [onlyRaises_checkSome]
  intro p hp
  obtain ⟨d, hd⟩ := checkResultDigest_ok (priorResult p)
  simp [validateExactTrace, priorDigest, hd, ordinals]

/-- What the exact-reducer path raises past the handlers comes from the digest of the snapshot. -/
lemma exactReducers_unhandled {e : PyError} (he : ¬e.IsHandled) :
    validateSnapshotWithExactReducers s = .error e ↔ snapshotDigest s = .error e := by
  rw [validateSnapshotWithExactReducers, bind_eq_error]
  constructor
  · rintro (h | ⟨digest, -, h⟩)
    · exact h
    · rcases bind_eq_error.mp h with h | ⟨_, -, h⟩
      · rw [← (ensure_eq_error.mp h).2] at he
        exact absurd trivial he
      · exact absurd (validateExactPrior_handled.of_error h) he
  · exact .inl

/-- The admission overflows exactly where a quantized similarity does. -/
lemma admitSnapshot_overflow : admitSnapshot s = .error .arithmeticError ↔ Overflows s := by
  have checks := validateBeforeDigest_raises (s := s)
  unfold admitSnapshot Overflows
  rw [validateSnapshot_eq]
  cases before : validateBeforeDigest s with
  | ok _ =>
    rw [ok_bind]
    cases digest : snapshotDigest s with
    | ok d =>
      rw [ok_bind]
      have none : validateSnapshotWithExactReducers s ≠ .error .arithmeticError := by
        rw [ne_eq, exactReducers_unhandled id, digest]
        exact fun same => by cases same
      by_cases same : s.snapshotDigest = d
      · simp [ensure, same]
      · by_cases prior : s.priorEvaluation = Option.none
        · simp [ensure, same, prior, stop]
        · simp [ensure, same, prior, none]
    | error e =>
      rw [error_bind]
      cases e with
      | contractViolation m =>
        have none : validateSnapshotWithExactReducers s ≠ .error .arithmeticError := by
          rw [ne_eq, exactReducers_unhandled id, digest]
          exact fun same => by cases same
        by_cases prior : s.priorEvaluation = Option.none
        · simp [prior, stop]
        · simp [prior, none]
      | _ => simp
  | error e =>
    rw [error_bind]
    cases e with
    | contractViolation m =>
      by_cases prior : s.priorEvaluation = Option.none
      · simp [prior, stop]
      · have same := @exactReducers_unhandled _ s .arithmeticError id
        simp [prior, same]
    | valueError | typeError => simp
    | _ => exact (checks.of_error before).elim

/-- No check of the snapshot looks up an attribute. -/
lemma admitSnapshot_attribute : admitSnapshot s ≠ .error .attributeError := by
  have digest : snapshotDigest s ≠ .error .attributeError := fun h =>
    canonicalSha256_raises.of_error h
  intro h
  unfold admitSnapshot at h
  split at h
  · cases h
  · split at h
    · cases h
    · exact digest ((exactReducers_unhandled id).mp h)
  · rename_i invalid
    cases h
    exact validateSnapshot_raises.of_error invalid

/-! ### Exceptions of admission -/

@[simp] lemma EvidenceRequirement.encodes (r : EvidenceRequirement) : Encodes (toValue r) := by
  rw [show toValue r = .record _ from rfl]
  simp

@[simp] lemma PolicyRule.encodes (r : PolicyRule) : Encodes (toValue r) := by
  rw [show toValue r = .record _ from rfl]
  simp

/-- A policy has a digest. -/
lemma policyDigest_ok (policy : PolicyInput) : ∃ d, policyInputDigest policy = .ok d := by
  refine Encodes.digest ?_
  rw [encodes_dict (by simp) (by simp; decide)]
  simp

/-- A snapshot with a digest has a finite embedding. -/
lemma snapshotDigest_embedding {d} (h : snapshotDigest s = .ok d) :
    ∀ x ∈ s.proposal.embedding, x.isFinite = true := by
  intro x hx
  have proposal := canonicalSha256_dict h ("proposal", toValue s.proposal) (by simp [toValue])
  have embedding := encodes_record.mp proposal ("embedding", toValue s.proposal.embedding) (by simp)
  exact encodes_float.mp (encodes_tuple.mp embedding (toValue x) (List.mem_map_of_mem hx))

/-- After the digest of the snapshot no check of admission raises past the handlers. -/
lemma checkBindings_raises (h : admitSnapshot s = .ok ()) :
    OnlyRaises PyError.IsHandled (checkBindings s c) := by
  obtain ⟨record, hr⟩ := proposalRecordDigest_ok (snapshotDigest_embedding (admitSnapshot_digest h))
  obtain ⟨action, ha⟩ := proposalActionDigest_ok s.proposal
  obtain ⟨policy, hp⟩ := policyDigest_ok s.policy
  have key {display key code message : String} :
      OnlyRaises PyError.IsHandled (checkKey display key (.blocked code message)) := by
    unfold checkKey normalizeActionTargetKey
    dsimp only
    split
    · simp [stop]
    · simp
  have exclusions : OnlyRaises PyError.IsHandled (forAll checkExclusion s.exclusions) :=
    onlyRaises_forAll fun e _ => by simp [checkExclusion, key]
  simp [checkBindings, hr, ha, hp, key, exclusions]

/-- Admission raises past the handlers exactly when the digest of the snapshot overflows. -/
lemma admission_handled {e : PyError} (config : validateConfig c = .ok ())
    (h : admission s c = .error e) : e.IsHandled ↔ ¬Overflows s := by
  rw [← admitSnapshot_overflow]
  rw [admission, bind_eq_error, validateInput, config, ok_bind] at h
  rcases h with h | ⟨_, valid, h⟩
  · rcases bind_eq_error.mp h with h | ⟨_, admitted, h⟩
    · rw [h, Except.error.injEq]
      cases e with
      | attributeError => exact absurd h admitSnapshot_attribute
      | _ => simp
    · exact iff_of_true ((checkBindings_raises admitted).of_error h) (by rw [admitted]; exact fun same => by cases same)
  · obtain ⟨_, admitted, -⟩ := bind_eq_ok.mp valid
    refine iff_of_true ?_ (by rw [admitted]; exact fun same => by cases same)
    unfold bindPrior at h
    split at h
    · cases h
    · rcases bind_eq_error.mp h with h | ⟨_, -, h⟩
      · rw [← (ensure_eq_error.mp h).2]
        trivial
      · cases h

/-! ### Exceptions of the evaluation -/

/-- What an admitted snapshot needs for its trace to be built. -/
structure Traceable (s : EvaluationSnapshot) (c : RuleConfig) : Prop where
  reports : ∀ pair ∈ consequenceReports s c, consequenceBound c pair.2 = true
  capabilities : (s.capabilities.map CapabilityFact.capabilityId).Nodup
  length : stepCount s c + 2 ≤ 99
  evaluationId : s.evaluationId ≠ ""

omit [Platform] in
/-- The projection of a step that an evaluation built reads an object. -/
lemma projection_own {step : OperatorTraceStep} {trace gaps} {ms : List (String × Json)}
    (rule : step.ruleId ≠ F12) (text : step.resultJson = (Json.obj ms).dumps) :
    OnlyRaises PyError.IsHandled (projection trace gaps step) := by
  have fact : OnlyRaises PyError.IsHandled (factProjection step) := by
    simp only [factProjection, onlyRaises_bind]
    refine ⟨jsonLoads_raises.mono fun _ e => e ▸ trivial, fun v hv => ?_⟩
    -- the text is that of an object, so the value is a mapping
    rw [text] at hv
    obtain ⟨vs, hvs⟩ := jsonLoads_dict (jsonLoads_obj.mp ⟨v, hv⟩)
    cases hv.symm.trans hvs
    split <;> simp [popBindingKeys, selectKeys]
  unfold projection
  rw [if_neg rule]
  simpa using fact

/-- The fact blocks raise stops only. -/
lemma collect_handled : OnlyRaises PyError.IsHandled (collectFindings s c priorId) := by
  simp only [collectFindings, divergenceFindings, capabilityFindings, onlyRaises_bind]
  split <;> simp

/-- Every fact has an object for its result. -/
lemma collect_objects {f : Findings} (e : collectFindings s c priorId = .ok f)
    (top : s.precedents.length ≤ 5) : ∀ d ∈ f.descriptors, ∃ ms, d.result = .obj ms := by
  intro d hd
  rcases collect_facts e top d hd with ⟨-, ms, hms, -⟩ | h
  · exact ⟨ms, hms⟩
  · cases List.mem_singleton.mp h
    exact ⟨_, rfl⟩

/-- The projections of the new trace raise nothing past the handlers. -/
lemma projections_own {f : Findings} {red : Reduction} {t : BuiltTrace} {gaps}
    (e : collectFindings s c priorId = .ok f) (top : s.precedents.length ≤ 5)
    (ht : buildTrace s f red = .ok t) : OnlyRaises PyError.IsHandled (projections t.steps gaps) := by
  obtain ⟨hfacts, -, reducerId, becauseId, -, hbecause⟩ := buildTrace_parts ht
  refine onlyRaises_mapAll fun step hs => ?_
  rw [operator_steps, List.mem_append, List.mem_singleton] at hs
  rcases hs with hs | rfl
  · obtain ⟨d, hd, i, rfl⟩ := mem_built (hfacts ▸ hs)
    obtain ⟨ms, hms⟩ := collect_objects e top d hd
    have ids : ∀ rule ∈ factIds, rule ≠ F12 := by decide
    exact projection_own (ids _ (collect_ids e top d hd)) (congrArg Json.dumps hms)
  · obtain ⟨v, hv⟩ := @projection_because s becauseId reducerId red
      (decisiveSteps t.facts red.decisiveRules) t.steps gaps
    rw [hbecause, hv]
    trivial

/-- The evaluation of an admitted snapshot raises past the handlers exactly when its trace can be built
and the prior trace is projected past them. -/
lemma evaluateAdmitted_handled {e : PyError} (pinned : c.isPinned) (fin : FiniteDivergence s)
    (top : s.precedents.length ≤ 5) (h : evaluateAdmitted s c priorId = .error e) :
    e.IsHandled ↔ (Traceable s c → ∀ prior ∈ s.priorEvaluation,
      projections prior.operatorTrace prior.evidenceGaps ≠ .error .attributeError) := by
  rw [evaluateAdmitted, bind_eq_error] at h
  rcases h with h | ⟨f, hf, h⟩
  · -- the fact blocks stop only on reports and capabilities
    refine iff_of_true ?_ fun ht => ?_
    · exact collect_handled.of_error h
    · obtain ⟨f, hf⟩ := (collect_ok_iff priorId).mpr ⟨ht.reports, ht.capabilities⟩
      rw [hf] at h
      cases h
  -- the reducer is total
  obtain ⟨red, hr, -⟩ := reduce_outcome pinned fin hf
  rw [hr, ok_bind] at h
  rcases bind_eq_error.mp h with h | ⟨_, len, h⟩
  · obtain ⟨long, rfl⟩ := ensure_eq_error.mp h
    refine iff_of_true trivial fun ht => ?_
    rw [collect_length hf] at long
    exact absurd ht.length long
  have len := ensure_eq_ok.mp len
  have ids := collect_ids hf top
  rcases bind_eq_error.mp h with h | ⟨t, ht, h⟩
  · refine iff_of_true (buildTrace_raises.of_error h).isHandled fun ht => ?_
    · obtain ⟨t, hb⟩ := (buildTrace_ok_iff (reduceFindings_id hr) ids len).mpr ht.evaluationId
      rw [hb] at h
      cases h
  -- from here on only the comparison with the prior trace can stop it
  have traceable : Traceable s c := by
    obtain ⟨reports, capabilities⟩ := (collect_ok_iff priorId).mp ⟨f, hf⟩
    exact ⟨reports, capabilities, collect_length hf ▸ len,
      (buildTrace_ok_iff (reduceFindings_id hr) ids len).mp ⟨t, ht⟩⟩
  rcases bind_eq_error.mp h with h | ⟨changed, -, h⟩
  · unfold changedFactIds at h
    cases prior : s.priorEvaluation with
    | none =>
      rw [prior] at h
      cases h
    | some prior =>
      simp only [prior] at h
      simp only [traceable, Option.mem_some_iff, forall_eq', forall_const]
      rcases bind_eq_error.mp h with h | ⟨before, hb, h⟩
      · rw [h, ne_eq, Except.error.injEq]
        have raised := (onlyRaises_mapAll fun step _ => projection_raises).of_error h
        cases e <;> simp_all
      · rw [hb]
        refine iff_of_true ?_ fun same => by cases same
        -- its own trace is projected without a lookup that fails
        rcases bind_eq_error.mp h with h | ⟨after, -, h⟩
        · exact (projections_own hf top ht).of_error h
        · cases h
  · obtain ⟨digest, hd⟩ := checkResultDigest_ok (provisionalResult s c priorId red t changed)
    simp only [hd, ok_bind] at h
    cases h

/-! ### When the outcome is accepted -/

/-- The condition on a snapshot, in canonical order, under which the gate returns a valid outcome. -/
structure Sound (s : EvaluationSnapshot) (c : RuleConfig) : Prop where
  /-- The digest of the snapshot does not overflow a decimal. -/
  digest : ¬Overflows s
  /-- The steps of a prior trace that is compared have objects for their results. -/
  prior : (∃ priorId, admission s c = .ok priorId) → Traceable s c →
    ∀ prior ∈ s.priorEvaluation,
      projections prior.operatorTrace prior.evidenceGaps ≠ .error .attributeError
  /-- What the result takes over from a snapshot that is finalized is valid. -/
  result : (∃ priorId, admission s c = .ok priorId) → Finalizable s c → Presentable s c

/-- An accepted outcome is returned exactly for sound snapshots. -/
lemma evaluateCanonical_accepted (config : validateConfig c = .ok ()) :
    (∃ o, evaluateCanonical s c = .ok o ∧ o.Accepted) ↔ Sound s c := by
  unfold evaluateCanonical
  cases adm : admission s c with
  | error e =>
    simp only [handle_accepted (admission_raises.of_error adm) (by decide),
      admission_handled config adm]
    constructor
    · exact fun digest =>
        ⟨digest, fun ⟨_, h⟩ => (nomatch adm.symm.trans h), fun ⟨_, h⟩ => nomatch adm.symm.trans h⟩
    · exact fun h => h.digest
  | ok priorId =>
    obtain ⟨pinned, fin⟩ := admit_facts adm
    have top := (admit_bindings adm).1
    have digest : ¬Overflows s := by
      simp only [admission, validateInput, bind_eq_ok, exists_unit] at adm
      rw [← admitSnapshot_overflow, adm.1.2.1]
      exact nofun
    have finalizable := evaluateAdmitted_ok_iff priorId pinned fin top
    dsimp only
    cases ev : evaluateAdmitted s c priorId with
    | error e =>
      simp only [handle_accepted ((evaluateAdmitted_raises pinned fin).of_error ev) (by decide),
        evaluateAdmitted_handled pinned fin top ev]
      constructor
      · intro prior
        refine ⟨digest, fun _ => prior, fun _ h => ?_⟩
        obtain ⟨r, hr⟩ := finalizable.mpr h
        cases ev.symm.trans hr
      · exact fun h => h.prior ⟨priorId, adm⟩
    | ok r =>
      have accepted := evaluateAdmitted_accepted adm ev
      have finalized := finalizable.mp ⟨r, ev⟩
      simp only [Except.ok.injEq, exists_eq_left', EvaluationResult.Accepted, accepted]
      constructor
      · intro presentable
        refine ⟨digest, fun _ _ prior hp hn => ?_, fun _ _ => presentable⟩
        obtain ⟨l, hl⟩ := (finalized.prior prior hp).1
        cases hl.symm.trans hn
      · exact fun h => h.result ⟨priorId, adm⟩ finalized

/-- The handlers turn every exception they catch into an outcome, and no other. -/
lemma handle_answers {codes : List String} {e : PyError} (h : e.IsStop codes) (hc : "" ∉ codes) :
    (∃ o, handle s c priorId e = .ok o) ↔ e.IsHandled := by
  constructor
  · rintro ⟨o, ho⟩
    cases e with
    | attributeError | arithmeticError => cases ho
    | _ => trivial
  · intro handled
    obtain ⟨o, ho, -⟩ := (@handle_accepted _ s c priorId _ _ h hc).mpr handled
    exact ⟨o, ho⟩

/-- The condition on a snapshot, in canonical order, under which the gate returns an outcome. -/
structure Answered (s : EvaluationSnapshot) (c : RuleConfig) : Prop where
  /-- The digest of the snapshot does not overflow a decimal. -/
  digest : ¬Overflows s
  /-- The steps of a prior trace that is compared have objects for their results. -/
  prior : (∃ priorId, admission s c = .ok priorId) → Traceable s c →
    ∀ prior ∈ s.priorEvaluation,
      projections prior.operatorTrace prior.evidenceGaps ≠ .error .attributeError

/-- An outcome is returned exactly for answered snapshots. -/
lemma evaluateCanonical_answers (config : validateConfig c = .ok ()) :
    (∃ o, evaluateCanonical s c = .ok o) ↔ Answered s c := by
  unfold evaluateCanonical
  cases adm : admission s c with
  | error e =>
    simp only [handle_answers (admission_raises.of_error adm) (by decide), admission_handled config adm]
    refine ⟨fun digest => ⟨digest, fun ⟨_, h⟩ => ?_⟩, fun h => h.digest⟩
    cases adm.symm.trans h
  | ok priorId =>
    obtain ⟨pinned, fin⟩ := admit_facts adm
    have top := (admit_bindings adm).1
    have digest : ¬Overflows s := by
      simp only [admission, validateInput, bind_eq_ok, exists_unit] at adm
      rw [← admitSnapshot_overflow, adm.1.2.1]
      exact fun same => by cases same
    dsimp only
    cases ev : evaluateAdmitted s c priorId with
    | error e =>
      simp only [handle_answers ((evaluateAdmitted_raises pinned fin).of_error ev) (by decide),
        evaluateAdmitted_handled pinned fin top ev]
      exact ⟨fun prior => ⟨digest, fun _ => prior⟩, fun h => h.prior ⟨priorId, adm⟩⟩
    | ok r =>
      refine iff_of_true ⟨_, rfl⟩ ⟨digest, fun _ _ prior hp raised => ?_⟩
      obtain ⟨l, hl⟩ := (((evaluateAdmitted_ok_iff priorId pinned fin top).mp ⟨r, ev⟩).prior prior hp).1
      cases hl.symm.trans raised

/-- The gate returns an outcome that its validator accepts exactly on the sound snapshots. -/
theorem evaluateProposal_accepted (s : EvaluationSnapshot) :
    (∃ o, evaluateProposal s pinnedConfig = .ok o ∧ o.Accepted) ↔
      Sound (canonicalSnapshot s) pinnedConfig :=
  evaluateCanonical_accepted pinnedConfig_valid

/-! ### A prior trace that is not compared -/

/-- A finalized result whose first step has a number for its result. -/
def scalarResult (s : EvaluationSnapshot) : CheckResult :=
  sealedResult
    { minimalResult pinnedConfig.evaluatorVersion s with
      operatorTrace :=
        [.operator ⟨"first:01:F01_THIS_BIND", "F01_THIS_BIND", .this, "THIS", "proposal", [], "1", []⟩,
          .operator ⟨"first:02:F12_FINAL_BECAUSE", "F12_FINAL_BECAUSE", .because, "BECAUSE",
            "proposal", [], "\x7b\x7d", []⟩]
      becauseStepId := "first:02:F12_FINAL_BECAUSE"
      ruleConfigDigest := pinnedConfig.ruleConfigDigest }

/-- A re-evaluation against that result. -/
def scalarSnapshot : EvaluationSnapshot :=
  minimalSnapshot "second" (minimalProposal "proposal" "reason")
    (some (priorOfResult
      (scalarResult (minimalSnapshot "first" (minimalProposal "proposal" "reason") none)) "proposal"))

/-- One is a plain document. -/
lemma plainJson_one : PlainJson "1" := by
  have text : "1" = (Json.int 1).dumps := by decide
  rw [text]
  exact Tidy.canonical (tidy_int.mpr (by decide))

/-- The trace of that result is valid. -/
lemma scalarResult_trace {s : EvaluationSnapshot} (hid : s.evaluationId = "first") :
    validateTrace (scalarResult s).evaluationId (scalarResult s).operatorTrace
      (some (scalarResult s).becauseStepId) false = .ok () := by
  have id {n : Nat} {ruleId stepId : String} (hn : 1 ≤ n ∧ n ≤ 99) (hr : isStepRuleId ruleId = true)
      (hs : "first" ++ ":" ++ twoDigits n ++ ":" ++ ruleId = stepId) :
      makeStepId "first" n ruleId = .ok stepId := makeStepId_eq_ok.mpr ⟨⟨by decide, hn⟩, hr, hs⟩
  have h₁ : makeStepId "first" 1 "F01_THIS_BIND" = .ok "first:01:F01_THIS_BIND" :=
    id (by decide) (by decide) (by decide)
  have h₂ : makeStepId "first" (1 + 1) "F12_FINAL_BECAUSE" = .ok "first:02:F12_FINAL_BECAUSE" :=
    id (by decide) (by decide) (by decide)
  have evaluationId : (scalarResult s).evaluationId = "first" := hid
  have steps : validateSteps "first" false 1 [] (scalarResult s).operatorTrace = .ok () := by
    simp [scalarResult, sealedResult, validateSteps, TraceStep.ruleId, TraceStep.stepId,
      TraceStep.pole, TraceStep.family, TraceStep.resultJson, allowedPoles, validateStepKind,
      reducerBinding, plainJson_one, plainJson_empty, h₁, h₂]
  have positions : forAll (validatePositions (scalarResult s).operatorTrace)
      ((scalarResult s).operatorTrace.map TraceStep.ruleId) = .ok () := by
    simp [scalarResult, sealedResult, validatePositions, rulePositions, TraceStep.ruleId]
  simp only [validateTrace, bind_eq_ok, ensure_eq_ok, exists_unit, evaluationId, steps, positions]
  refine ⟨by simp [scalarResult, sealedResult], trivial, trivial, ?_⟩
  simp [scalarResult, sealedResult, validateTerminal, IsTerminal, TraceStep.stepId, TraceStep.family,
    TraceStep.pole]

/-- That result is valid. -/
lemma scalarResult_valid {s : EvaluationSnapshot} (hid : s.evaluationId = "first")
    (hs : isHex64 s.snapshotDigest = true) (hp : isHex64 s.policy.policyDigest = true)
    (hv : s.profileVersion ≠ some "") :
    validateCheckResult (scalarResult s) = .ok (scalarResult s) := by
  have digest : checkResultDigest (scalarResult s) = .ok (scalarResult s).traceDigest :=
    digestOf_ok (checkResultDigest_ok _)
  have fields : FieldsValid (scalarResult s) := by
    rw [CheckResult.fieldsValid]
    refine ⟨fun x hx => ?_, fun _ h => absurd h List.not_mem_nil, digestOf_hex, hs, hp,
      digestOf_hex⟩
    simp only [scalarResult, sealedResult, List.mem_cons, List.not_mem_nil, or_false] at hx
    rcases hx with rfl | rfl
    · exact plainJson_one
    · exact plainJson_empty
  simp only [validateCheckResult, bind_eq_ok, ensure_eq_ok, exists_unit, validateFields_toValue,
    scalarResult_trace hid, digest]
  exact ⟨fields, rfl, rfl, trivial, .inl (by intro h; cases h), hv, _, rfl, rfl, rfl⟩

/-- The snapshot is valid, and in canonical order. -/
lemma scalarSnapshot_valid : validateSnapshot scalarSnapshot = .ok scalarSnapshot ∧
    canonicalSnapshot scalarSnapshot = scalarSnapshot := by
  refine ⟨?_, minimal_canonical rfl rfl⟩
  refine minimalSnapshot_valid (minimalProposal_valid "proposal" "reason") (by decide) ?_
  intro x hx
  cases hx
  refine priorOfResult_valid (scalarResult_valid rfl digestOf_hex digestOf_hex ?_)
  exact fun h => nomatch h

/-- The snapshot is not sound: its prior trace has a number where an object is projected. -/
lemma scalarSnapshot_unsound : ¬Sound scalarSnapshot pinnedConfig := by
  have admitted : admitSnapshot scalarSnapshot = .ok () :=
    admitSnapshot_ok_iff.mpr (.inl ⟨_, scalarSnapshot_valid.1⟩)
  have adm : admission scalarSnapshot pinnedConfig = .ok (some "first") := by
    simp only [admission, validateInput, bind_eq_ok, exists_unit]
    refine ⟨⟨pinnedConfig_valid, admitted, sealed_bindings rfl rfl rfl rfl
      (minimalProposal_finite "proposal" "reason") rfl⟩, ?_⟩
    simp [bindPrior, scalarSnapshot, minimalSnapshot, sealedSnapshot, ensure_pos, priorOfResult,
      scalarResult, sealedResult, minimalResult]
  have traceable : Traceable scalarSnapshot pinnedConfig :=
    { reports := fun _ h => absurd h List.not_mem_nil
      capabilities := List.nodup_nil
      length := (by decide : 4 + 0 + 0 + 0 + 0 + 0 + 0 + 2 * 0 + 2 ≤ 99)
      evaluationId := (by decide : "second" ≠ "") }
  exact fun h => h.prior ⟨_, adm⟩ traceable _ rfl rfl

end

/-- A valid snapshot on which the gate returns no outcome at all. -/
theorem scalarSnapshot_not_accepted :
    let _ := asciiPlatform
    validateSnapshot scalarSnapshot = .ok scalarSnapshot ∧
      ¬∃ o, evaluateProposal scalarSnapshot pinnedConfig = .ok o ∧ o.Accepted := by
  intro _
  refine ⟨scalarSnapshot_valid.1, ?_⟩
  rw [evaluateProposal, scalarSnapshot_valid.2, evaluateCanonical_accepted pinnedConfig_valid]
  exact scalarSnapshot_unsound

end GAM
