import GAM.System.Progress

/-!
# Recording a refusal

The evaluator answers a stop with a BLOCKED result, and the store has a row for it. Whether the
checks before the transaction let it through depends on the snapshot alone: a BLOCKED result has no
profile, it has the prior of the snapshot only when the stop comes after the checks of the input, and
the store computes the digests of the proposal and the policy again.
-/

namespace GAM
open Lib

section
variable [Platform] {s v : EvaluationSnapshot} {c : RuleConfig} {b : BlockedResult}
variable {priorId : Option String}

/-- The checks of the append that matches a snapshot accept a result of it. -/
def Recordable (s : EvaluationSnapshot) (r : EvaluationResult) : Prop :=
  validateEvaluationBinding s r = .ok () ∧
    match s.priorEvaluation with
    | none => proposalEq s.proposal s.proposal = true ∧ r.priorEvaluationId = none ∧
        r.changedFactRuleIds = []
    | some prior => r.priorEvaluationId = some prior.evaluationId ∧
        prior.proposalId = s.proposal.proposalId

/-- What the store asks of a snapshot whose result is BLOCKED. -/
structure Refusable (s : EvaluationSnapshot) : Prop where
  action : proposalActionDigest s.proposal = .ok s.proposal.actionDigest
  record : proposalRecordDigest s.proposal = .ok s.proposal.proposalDigest
  policy : memoryPolicyDigest s.policy = .ok s.policy.policyDigest
  profile : s.profileVersion = none
  /-- A stop over a prior evaluation comes after the checks of the input. -/
  prior : s.priorEvaluation ≠ none →
    ∃ priorId, admission (canonicalSnapshot s) pinnedConfig = .ok priorId

/-- The checks of a binding, one by one. -/
lemma validateEvaluationBinding_iff {r : EvaluationResult} :
    validateEvaluationBinding s r = .ok () ↔ (∃ v, validateSnapshot s = .ok v) ∧
      validateResult r = .ok () ∧ proposalActionDigest s.proposal = .ok s.proposal.actionDigest ∧
      proposalRecordDigest s.proposal = .ok s.proposal.proposalDigest ∧
      memoryPolicyDigest s.policy = .ok s.policy.policyDigest ∧
      r.evaluationId = s.evaluationId ∧ r.inputSnapshotDigest = s.snapshotDigest ∧
      r.policyDigest = s.policy.policyDigest ∧ r.profileVersion = s.profileVersion := by
  simp only [validateEvaluationBinding, bind_eq_ok, exists_unit, asIntegrity_eq_ok, ensure_eq_ok]
  constructor
  · rintro ⟨⟨v, valid, result⟩, _, action, rfl, _, record, rfl, _, policy, rfl, bound⟩
    exact ⟨⟨v, valid⟩, result, action, record, policy, bound⟩
  · rintro ⟨⟨v, valid⟩, result, action, record, policy, bound⟩
    exact ⟨⟨v, valid, result⟩, _, action, rfl, _, record, rfl, _, policy, rfl, bound⟩

/-- A stop gives the BLOCKED body with the prior of its handler, and a valid result. -/
lemma handle_body {codes : List String} {e : PyError} (h : e.IsStop codes) (hc : "" ∉ codes)
    (hb : handle s c priorId e = .ok (.blocked b)) : ∃ code message stepId digest,
      b = { blockedBody s c code message priorId stepId with traceDigest := digest } ∧
        validateBlockedResult b = .ok b := by
  have body {code message : String} (hc : code ≠ "") (hm : message ≠ "")
      (hb : (EvaluationResult.blocked <$> blockedResult s c code message priorId) =
        .ok (.blocked b)) : ∃ code message stepId digest,
      b = { blockedBody s c code message priorId stepId with traceDigest := digest } ∧
        validateBlockedResult b = .ok b := by
    obtain ⟨b', stepId, digest, parts, hb', valid⟩ := @blockedResult_ok _ s c priorId _ _ hc hm
    simp only [map_eq_ok, EvaluationResult.blocked.injEq, exists_eq_right] at hb
    cases hb.symm.trans hb'
    exact ⟨code, message, stepId, digest, parts, valid⟩
  cases e with
  | blocked code message =>
    refine body ?_ h.2 hb
    rintro rfl
    exact hc h.1
  | contractViolation | valueError | typeError | keyError =>
    exact body (by decide) (by decide) hb
  | attributeError | arithmeticError => cases hb
  | integrity | conflict | embedding | executionBlocked | cliBlocked | sqlError => exact h.elim

/-- A BLOCKED result is the body with the prior that was bound by then. -/
lemma evaluateCanonical_body (h : evaluateCanonical s c = .ok (.blocked b)) :
    ∃ code message priorId stepId digest,
      b = { blockedBody s c code message priorId stepId with traceDigest := digest } ∧
        validateBlockedResult b = .ok b ∧
        (admission s c = .ok priorId ∨ (∀ id, admission s c ≠ .ok id) ∧ priorId = none) := by
  rw [evaluateCanonical] at h
  cases adm : admission s c with
  | error e =>
    rw [adm] at h
    obtain ⟨code, message, stepId, digest, parts, valid⟩ :=
      handle_body (admission_raises.of_error adm) (by decide) h
    exact ⟨code, message, none, stepId, digest, parts, valid, .inr ⟨fun _ => by simp, rfl⟩⟩
  | ok priorId =>
    obtain ⟨pinned, fin⟩ := admit_facts adm
    rw [adm] at h
    dsimp only at h
    cases ev : evaluateAdmitted s c priorId with
    | error e =>
      rw [ev] at h
      obtain ⟨code, message, stepId, digest, parts, valid⟩ :=
        handle_body ((evaluateAdmitted_raises pinned fin).of_error ev) (by decide) h
      exact ⟨code, message, priorId, stepId, digest, parts, valid, .inl rfl⟩
    | ok r =>
      rw [ev] at h
      cases h

/-- The prior that the checks of the input bind is that of the snapshot. -/
lemma admission_prior (h : admission s c = .ok priorId) :
    priorId = s.priorEvaluation.map PriorEvaluationTrace.evaluationId := by
  obtain ⟨_, -, h⟩ := bind_eq_ok.mp h
  rw [bindPrior] at h
  split at h
  · rename_i e
    cases h
    rw [e]
    rfl
  · rename_i e
    obtain ⟨_, -, h⟩ := bind_eq_ok.mp h
    cases h
    rw [e]
    rfl

/-- The prior of a valid snapshot is of its proposal. -/
lemma validateSnapshot_prior (h : validateSnapshot s = .ok v) :
    ∀ prior ∈ s.priorEvaluation, prior.proposalId = s.proposal.proposalId := by
  intro prior hp
  simp only [validateSnapshot, bind_eq_ok, exists_unit] at h
  obtain ⟨-, -, -, checked, -⟩ := h
  rw [Option.mem_def.mp hp, checkSome_some] at checked
  simp only [validatePrior, bind_eq_ok, ensure_eq_ok, exists_unit] at checked
  exact checked.2.1

/-- What else a valid snapshot has: a proposal that equals itself, its identifier and its digest. -/
lemma validateSnapshot_parts (h : validateSnapshot s = .ok v) :
    proposalEq s.proposal s.proposal = true ∧ s.evaluationId ≠ "" ∧
      isHex64 s.snapshotDigest = true := by
  simp only [validateSnapshot, bind_eq_ok, exists_unit, ensure_eq_ok] at h
  obtain ⟨-, proposal, ⟨named, -⟩, -, -, -, -, digest, hd, bound, -⟩ := h
  simp only [validateProposal, bind_eq_ok, ensure_eq_ok, exists_unit] at proposal
  refine ⟨proposalEq_self fun x hx => ?_, named, ?_⟩
  · exact Binary64.eqv_self (List.all_eq_true.mp proposal.2.1.2.2 x hx)
  · rw [bound]
    exact canonicalSha256_hex hd

/-- A BLOCKED result of a valid snapshot passes the checks of its append exactly when the digests of
the proposal and the policy reproduce, the snapshot has no profile, and a prior evaluation was bound
before the stop. -/
theorem evaluateProposal_recordable (valid : validateSnapshot s = .ok v)
    (h : evaluateProposal s pinnedConfig = .ok (.blocked b)) :
    Recordable s (.blocked b) ↔ Refusable s := by
  obtain ⟨code, message, priorId, stepId, digest, parts, accepted, bound⟩ :=
    evaluateCanonical_body h
  have result : validateResult (.blocked b) = .ok () := by
    rw [validateResult, accepted]
    rfl
  constructor
  · rintro ⟨binding, genealogy⟩
    -- the binding fails where a blocked result falls back to a default
    obtain ⟨-, -, action, record, policy, -, -, -, profile⟩ := validateEvaluationBinding_iff.mp binding
    refine ⟨action, record, policy, ?_, fun hasPrior => ?_⟩
    · rw [← profile, parts]
      rfl
    · obtain adm | ⟨-, unbound⟩ := bound
      · exact ⟨priorId, adm⟩
      · obtain ⟨prior, e⟩ := Option.ne_none_iff_exists'.mp hasPrior
        rw [e] at genealogy
        have named := genealogy.1
        rw [parts, unbound] at named
        cases named
  · intro refusable
    -- no default is taken: the identifiers are not empty and the digests have their form
    have safe {d : String} (h : isHex64 d = true) : safeDigest d = d := if_pos h
    obtain ⟨self, named, hex⟩ := validateSnapshot_parts valid
    refine ⟨validateEvaluationBinding_iff.mpr ⟨⟨v, valid⟩, result, refusable.action,
      refusable.record, refusable.policy, ?_, ?_, ?_, ?_⟩, ?_⟩
    · rw [parts]
      exact if_neg named
    · rw [parts]
      exact safe hex
    · rw [parts]
      exact safe (canonicalSha256_hex refusable.policy)
    · rw [parts]
      exact refusable.profile.symm
    · cases e : s.priorEvaluation with
      | none =>
        have unbound : priorId = none := by
          obtain adm | ⟨-, unbound⟩ := bound
          · have prior := admission_prior adm
            rwa [show (canonicalSnapshot s).priorEvaluation = s.priorEvaluation from rfl, e] at prior
          · exact unbound
        refine ⟨self, ?_, ?_⟩
        · rw [parts]
          exact unbound
        · rw [parts]
          rfl
      | some prior =>
        -- admitted with a prior, the result names it
        obtain ⟨id, adm⟩ := refusable.prior (e ▸ Option.some_ne_none prior)
        refine ⟨?_, validateSnapshot_prior valid prior e⟩
        obtain adm' | ⟨none, -⟩ := bound
        · have prior := admission_prior adm'
          rw [show (canonicalSnapshot s).priorEvaluation = s.priorEvaluation from rfl, e] at prior
          rw [parts]
          exact prior
        · exact absurd adm (none id)

end

/-- A re-evaluation over a result of another evaluator version is BLOCKED, and what the store asks of
its snapshot decides that it is not recorded. -/
theorem evaluateProposal_recordable_version :
    let _ := asciiPlatform
    ∃ b, evaluateProposal otherVersion pinnedConfig = .ok (.blocked b) ∧
      (Recordable otherVersion (.blocked b) ↔ Refusable otherVersion) := by
  intro _
  obtain ⟨b, h, -⟩ := otherVersion_blocked
  exact ⟨b, h, evaluateProposal_recordable otherVersion_valid h⟩

/-- The BLOCKED result of a valid snapshot over a result of another evaluator version names no prior,
so that the append refuses it. -/
theorem evaluateProposal_unrecordable :
    let _ := asciiPlatform
    ∃ b, validateSnapshot otherVersion = .ok otherVersion ∧
      evaluateProposal otherVersion pinnedConfig = .ok (.blocked b) ∧
      ¬Recordable otherVersion (.blocked b) := by
  intro _
  obtain ⟨b, h, -⟩ := otherVersion_blocked
  refine ⟨b, otherVersion_valid, h, fun recordable => ?_⟩
  obtain ⟨code, message, priorId, stepId, digest, parts, -, bound⟩ := evaluateCanonical_body h
  have genealogy : b.priorEvaluationId = some "first" := recordable.2.1
  rw [otherVersion_canonical, otherVersion_admission] at bound
  obtain adm | ⟨-, unbound⟩ := bound
  · cases adm
  · rw [parts, unbound] at genealogy
    cases genealogy

end GAM
