import GAM.Governance.Outcomes
import GAM.Memory.Rows
import GAM.Memory.Columns

/-!
# The evaluation row codec

A result is written by `_evaluation_args`, one column for each field, and read by
`_result_from_row`. For a valid result in NFC nothing is lost: the enumerations come back from their
column texts, the lists from their JSON, and the error code and message of a BLOCKED result from
the text that joins them, because no code contains a colon.
-/

namespace GAM
open Lib

section
variable [Platform]

/-- Every text of a result is in NFC. -/
def EvaluationResult.Normal : EvaluationResult → Prop
  | .check r => GAM.Normal (toValue r)
  | .blocked r => GAM.Normal (toValue r)

/-- The row as it is delivered: the `JSONB` columns pass through the engine. -/
def deliverEvaluation (row : EvaluationRow) : Except PyError EvaluationRow := do
  return { row with inputSnapshot := ← castJsonb row.inputSnapshot,
                    policySnapshot := ← castJsonb row.policySnapshot,
                    operatorTrace := ← castJsonb row.operatorTrace,
                    evidenceGaps := ← castJsonb row.evidenceGaps,
                    dependencies := ← castJsonb row.dependencies,
                    precedentRefs := ← castJsonb row.precedentRefs,
                    consequenceWarningRefs := ← castJsonb row.consequenceWarningRefs,
                    changedFactRuleIds := ← castJsonb row.changedFactRuleIds }

/-- An encoded value is dumped. -/
lemma dump_ok {v : Value} (h : Encodes v) : ∃ text, dump v = .ok text := by
  obtain ⟨hu, j, hj⟩ := h
  exact ⟨j.dumps, canonicalJson_eq_ok.mpr ⟨hu, j, hj, rfl⟩⟩

lemma dump_nil : dump (.tuple []) = .ok "[]" := rfl

/-- The text of an optional column. -/
lemma optTextField_column {l : List (String × Value)} {key : String} {o : Option String}
    (h : l.lookup key = some (toValue o)) : optTextField key (.dict l) = .ok o := by
  rw [optTextField, getKey_found h]
  cases o with
  | none => rfl
  | some s =>
    rw [textField, subscript_found h]
    rfl

lemma textField_column {l : List (String × Value)} {key s : String}
    (h : l.lookup key = some (.str s)) : textField key (.dict l) = .ok s := by
  rw [textField, subscript_found h]
  rfl

omit [Platform] in
/-- The partition of two joined texts, the first one without a colon. -/
lemma partitionColon_join {code message : String} (h : ':' ∉ code.toList) :
    partitionColon (code ++ ":" ++ message) = some (code, message) := by
  have keep : ∀ c ∈ code.toList, (c ≠ ':') := fun c hc e => h (e ▸ hc)
  have split : (code ++ ":" ++ message).toList = code.toList ++ ':' :: message.toList := by simp
  rw [partitionColon, split, if_pos (by simp), List.takeWhile_append_of_pos (by simpa using keep),
    List.dropWhile_append_of_pos (by simpa using keep)]
  simp

omit [Platform] in
/-- No code of the evaluator contains a colon. -/
lemma evaluator_code {code : String}
    (h : code ∈ admissionCodes ++ evaluationCodes ++ ["INTERNAL_EVALUATOR_ERROR"]) :
    ':' ∉ code.toList := by
  revert code
  decide

/-- The items of a list field of a record in NFC are in NFC. -/
lemma normal_field {α : Type} [ToValue α] {fields : List (String × Value)}
    (hn : Normal (.record fields)) (key : String) {l : List α} (hm : (key, toValue l) ∈ fields) :
    ∀ a ∈ l, Normal (toValue a) := by
  intro a ha
  exact normalElems_iff.mp (normalFields_iff.mp hn _ hm) _ (List.mem_map_of_mem ha)

/-- A list column that holds a dumped list in NFC is decoded. -/
lemma listColumn {α : Type} [ToValue α] [IsTextual α] {decode : Value → Except PyError α}
    {fields vs : List (String × Value)} {key text : String} {l : List α}
    (hn : Normal (.record fields)) (hd : ∀ a, Normal (toValue a) → Decodes decode a)
    (h : dump (toValue l) = .ok text) (hm : (key, toValue l) ∈ fields)
    (hl : vs.lookup key = some (.str text)) : listField decode key (.dict vs) = .ok l :=
  listField_dumped hl h fun a ha => hd a (normal_field hn _ hm a ha)

/-! ### The columns of a row -/

/-- The columns of a row that hold a text, and those that may hold one. -/
lemma EvaluationRow.texts (row : EvaluationRow) :
    textField "status" row.mapping = .ok row.status.name ∧
    textField "evaluator_version" row.mapping = .ok row.evaluatorVersion ∧
    textField "rule_config_digest" row.mapping = .ok row.ruleConfigDigest ∧
    textField "input_snapshot_digest" row.mapping = .ok row.inputSnapshotDigest ∧
    textField "policy_digest" row.mapping = .ok row.policyDigest ∧
    textField "trace_digest" row.mapping = .ok row.traceDigest ∧
    optTextField "profile_version" row.mapping = .ok row.profileVersion ∧
    optTextField "prior_evaluation_id" row.mapping = .ok row.priorEvaluationId :=
  ⟨rfl, rfl, rfl, rfl, rfl, rfl, optTextField_column rfl, optTextField_column rfl⟩

omit [Platform] in
/-- The columns that only one kind of result fills. -/
lemma EvaluationRow.options (row : EvaluationRow) :
    subscript "verdict" row.mapping = .ok (toValue (row.verdict.map Verdict.name)) ∧
    subscript "risk" row.mapping = .ok (toValue (row.risk.map Risk.value)) ∧
    subscript "because_step_id" row.mapping = .ok (toValue row.becauseStepId) ∧
    subscript "blocked_reason" row.mapping = .ok (toValue row.blockedReason) :=
  ⟨rfl, rfl, rfl, rfl⟩

/-- A valid result is returned by its validator. -/
lemma validateCheckResult_self {r v : CheckResult} (h : validateCheckResult r = .ok v) : v = r := by
  simp only [validateCheckResult, bind_eq_ok, pure_eq_ok, Except.ok.injEq] at h
  obtain ⟨-, -, -, -, -, -, -, -, -, -, -, -, -, -, -, -, rfl⟩ := h
  rfl

lemma validateBlockedResult_self {r v : BlockedResult} (h : validateBlockedResult r = .ok v) :
    v = r := by
  simp only [validateBlockedResult, bind_eq_ok, pure_eq_ok, Except.ok.injEq] at h
  obtain ⟨-, -, -, -, -, -, -, -, -, -, -, -, -, -, rfl⟩ := h
  rfl

/-- The columns of a finalized result. -/
structure WritesCheck (r : CheckResult) (row : EvaluationRow) : Prop where
  trace : dump (toValue r.operatorTrace) = .ok row.operatorTrace
  gaps : dump (toValue r.evidenceGaps) = .ok row.evidenceGaps
  dependencies : dump (toValue r.dependencies) = .ok row.dependencies
  precedents : dump (toValue r.precedentRefs) = .ok row.precedentRefs
  warnings : dump (toValue r.consequenceWarningRefs) = .ok row.consequenceWarningRefs
  changed : dump (toValue r.changedFactRuleIds) = .ok row.changedFactRuleIds
  outcome : row.verdict = some r.verdict ∧ row.risk = some r.risk ∧
    row.becauseStepId = some r.becauseStepId ∧ row.status = .finalized
  result : r = { r with
    evaluationId := row.id, profileVersion := row.profileVersion,
    priorEvaluationId := row.priorEvaluationId, evaluatorVersion := row.evaluatorVersion,
    ruleConfigDigest := row.ruleConfigDigest, inputSnapshotDigest := row.inputSnapshotDigest,
    policyDigest := row.policyDigest, traceDigest := row.traceDigest }

lemma evaluationArgs_check {r : CheckResult} {proposalId s args}
    (h : evaluationArgs proposalId s (.check r) = .ok args) : WritesCheck r args := by
  simp only [evaluationArgs, bind_eq_ok, pure_eq_ok, Except.ok.injEq] at h
  obtain ⟨_, hp, _, hw, _, -, _, -, _, ht, _, hg, _, hd, _, hc, rfl⟩ := h
  exact ⟨ht, hg, hd, hp, hw, hc, ⟨rfl, rfl, rfl, rfl⟩, rfl⟩

/-- The columns of a BLOCKED result. -/
structure WritesBlocked (r : BlockedResult) (row : EvaluationRow) : Prop where
  trace : dump (toValue r.operatorTrace) = .ok row.operatorTrace
  gaps : dump (toValue r.evidenceGaps) = .ok row.evidenceGaps
  dependencies : dump (toValue r.dependencies) = .ok row.dependencies
  changed : dump (toValue r.changedFactRuleIds) = .ok row.changedFactRuleIds
  outcome : row.blockedReason = some (r.errorCode ++ ":" ++ r.safeMessage) ∧ row.status = .blocked
  result : r = { r with
    evaluationId := row.id, profileVersion := row.profileVersion,
    priorEvaluationId := row.priorEvaluationId, evaluatorVersion := row.evaluatorVersion,
    ruleConfigDigest := row.ruleConfigDigest, inputSnapshotDigest := row.inputSnapshotDigest,
    policyDigest := row.policyDigest, traceDigest := row.traceDigest }

lemma evaluationArgs_blocked {r : BlockedResult} {proposalId s args}
    (h : evaluationArgs proposalId s (.blocked r) = .ok args) : WritesBlocked r args := by
  simp only [evaluationArgs, bind_eq_ok, pure_eq_ok, Except.ok.injEq] at h
  obtain ⟨_, -, _, -, _, ht, _, hg, _, hd, _, hc, rfl⟩ := h
  exact ⟨ht, hg, hd, hc, ⟨rfl, rfl⟩, rfl⟩

/-- A valid finalized result is decoded from its columns. -/
lemma checkResult_decodes {r v : CheckResult} {row : EvaluationRow} (hn : Normal (toValue r))
    (hv : validateCheckResult r = .ok v) (h : WritesCheck r row) :
    resultFromRow row.mapping = .ok (.check r) := by
  cases validateCheckResult_self hv
  obtain ⟨status, version, config, snapshot, policy, digest, profile, prior⟩ :=
    EvaluationRow.texts row
  obtain ⟨hverdict, hrisk, hbecause, hstatus⟩ := h.outcome
  have trace : listField traceStepOf "operator_trace" row.mapping = .ok r.operatorTrace :=
    listColumn hn (fun _ => traceStep_decodes) h.trace (by simp) rfl
  have gaps : listField gapOf "evidence_gaps" row.mapping = .ok r.evidenceGaps :=
    listColumn hn (fun _ => gap_decodes) h.gaps (by simp) rfl
  have dependencies : listField dependencyOf "dependencies" row.mapping = .ok r.dependencies :=
    listColumn hn (fun _ => dependency_decodes) h.dependencies (by simp) rfl
  have changed : textsField "changed_fact_rule_ids" row.mapping = .ok r.changedFactRuleIds :=
    listColumn hn (fun _ => text_decodes) h.changed (by simp) rfl
  have precedents : textsField "precedent_refs" row.mapping = .ok r.precedentRefs :=
    listColumn hn (fun _ => text_decodes) h.precedents (by simp) rfl
  have warnings :
      textsField "consequence_warning_refs" row.mapping = .ok r.consequenceWarningRefs :=
    listColumn hn (fun _ => text_decodes) h.warnings (by simp) rfl
  obtain ⟨verdict, risk, because, -⟩ := EvaluationRow.options row
  rw [hverdict] at verdict
  rw [hrisk] at risk
  rw [hbecause] at because
  have verdict : enumField verdictType "verdict" row.mapping = .ok r.verdict := by
    rw [enumField, verdict]
    cases r.verdict <;> rfl
  have risk : enumField riskType "risk" row.mapping = .ok r.risk := by
    rw [enumField, risk]
    cases r.risk <;> rfl
  have because : textField "because_step_id" row.mapping = .ok r.becauseStepId := by
    rw [textField, because]
    rfl
  have id : getKey "id" row.mapping = .ok (.str row.id) := rfl
  have named : getKeyOr "evaluation_id" (.str row.id) row.mapping = .ok (.str row.id) := rfl
  have final : row.status.name = "FINALIZED" := by rw [hstatus]; rfl
  rw [h.result] at hv
  simp only [resultFromRow, id, named, ok_bind, profile, prior, changed, trace, gaps,
    dependencies, status, final, verdict, risk, precedents, warnings, because, version, config,
    snapshot, policy, digest, pyStr_str]
  simp only [String.reduceEq, if_false, hv, ok_bind, pure_eq_ok]
  rw [h.result]

/-- A valid BLOCKED result whose code has no colon is decoded from its columns. -/
lemma blockedResult_decodes {r v : BlockedResult} {row : EvaluationRow} (hn : Normal (toValue r))
    (hv : validateBlockedResult r = .ok v) (hcode : ':' ∉ r.errorCode.toList)
    (h : WritesBlocked r row) : resultFromRow row.mapping = .ok (.blocked r) := by
  cases validateBlockedResult_self hv
  obtain ⟨status, version, config, snapshot, policy, digest, profile, prior⟩ :=
    EvaluationRow.texts row
  obtain ⟨hreason, hstatus⟩ := h.outcome
  have steps : ∀ a ∈ r.operatorTrace, Normal (toValue a) :=
    normal_field hn "operator_trace" (by simp)
  have trace : listField traceStepOf "operator_trace" row.mapping =
      .ok (r.operatorTrace.map TraceStep.operator) := by
    refine listField_dumped (l := r.operatorTrace.map TraceStep.operator) rfl ?_ ?_
    · rw [← h.trace, toValue_list, List.map_map]
      rfl
    · intro a ha
      obtain ⟨step, hs, rfl⟩ := List.mem_map.mp ha
      exact traceStep_decodes (steps step hs)
  have operators : mapAll operatorOf (r.operatorTrace.map TraceStep.operator) =
      .ok r.operatorTrace := by
    induction r.operatorTrace with
    | nil => rfl
    | cons step l ih => rw [List.map_cons, mapAll, ih]; rfl
  have gaps : listField gapOf "evidence_gaps" row.mapping = .ok r.evidenceGaps :=
    listColumn hn (fun _ => gap_decodes) h.gaps (by simp) rfl
  have dependencies : listField dependencyOf "dependencies" row.mapping = .ok r.dependencies :=
    listColumn hn (fun _ => dependency_decodes) h.dependencies (by simp) rfl
  have changed : textsField "changed_fact_rule_ids" row.mapping = .ok r.changedFactRuleIds :=
    listColumn hn (fun _ => text_decodes) h.changed (by simp) rfl
  obtain ⟨-, -, -, reason⟩ := EvaluationRow.options row
  rw [hreason] at reason
  have reason : textField "blocked_reason" row.mapping =
      .ok (r.errorCode ++ ":" ++ r.safeMessage) := by
    rw [textField, reason]
    rfl
  have id : getKey "id" row.mapping = .ok (.str row.id) := rfl
  have named : getKeyOr "evaluation_id" (.str row.id) row.mapping = .ok (.str row.id) := rfl
  have blocked : row.status.name = "BLOCKED" := by rw [hstatus]; rfl
  have filled : r.errorCode ≠ "" ∧ r.safeMessage ≠ "" := by
    simp only [validateBlockedResult, bind_eq_ok, ensure_eq_ok, exists_unit] at hv
    exact hv.2.2.2.2.1
  rw [h.result] at hv
  simp only [resultFromRow, id, named, ok_bind, profile, prior, changed, trace, gaps,
    dependencies, status, blocked, if_true, reason, partitionColon_join hcode, ensure_pos filled,
    operators, version, config, snapshot, policy, digest, pyStr_str, hv, pure_eq_ok]
  rw [h.result]

/-- A valid result of the evaluator is decoded from its columns. -/
lemma result_decodes {r : EvaluationResult} {proposalId s args} (hn : r.Normal)
    (hv : validateResult r = .ok ())
    (hcode : ∀ b, r = .blocked b → ':' ∉ b.errorCode.toList)
    (ha : evaluationArgs proposalId s r = .ok args) : resultFromRow args.mapping = .ok r := by
  cases r with
  | check r =>
    simp only [validateResult, bind_eq_ok] at hv
    obtain ⟨v, hv, -⟩ := hv
    exact checkResult_decodes hn hv (evaluationArgs_check ha)
  | blocked r =>
    simp only [validateResult, bind_eq_ok] at hv
    obtain ⟨v, hv, -⟩ := hv
    exact blockedResult_decodes hn hv (hcode r rfl) (evaluationArgs_blocked ha)

/-- What a bound snapshot and result passed. -/
lemma validateEvaluationBinding_ok {s r} (h : validateEvaluationBinding s r = .ok ()) :
    (∃ v, validateSnapshot s = .ok v) ∧ validateResult r = .ok () := by
  simp only [validateEvaluationBinding, bind_eq_ok, exists_unit, asIntegrity_eq_ok] at h
  obtain ⟨⟨v, hs, hr⟩, -⟩ := h
  exact ⟨⟨v, hs⟩, hr⟩

/-- A bound snapshot and result are written. -/
lemma evaluationArgs_ok {s r} (h : validateEvaluationBinding s r = .ok ()) (proposalId) :
    ∃ args, evaluationArgs proposalId s r = .ok args := by
  obtain ⟨⟨v, hv⟩, -⟩ := validateEvaluationBinding_ok h
  have hs := validateSnapshot_encodes hv
  obtain ⟨snapshot, hsnapshot⟩ := dump_ok hs
  obtain ⟨policy, hpolicy⟩ := dump_ok (v := toValue s.policy)
    (encodes_record.mp hs ("policy", toValue s.policy) (by simp))
  have listed {α : Type} [ToValue α] {l : List α} (he : ∀ a ∈ l, Encodes (toValue a)) :
      ∃ text, dump (toValue l) = .ok text := dump_ok (encodes_tuple.mpr (by simpa using he))
  cases r with
  | check r =>
    obtain ⟨_, hp⟩ := listed (l := r.precedentRefs) (by simp)
    obtain ⟨_, hw⟩ := listed (l := r.consequenceWarningRefs) (by simp)
    obtain ⟨_, ht⟩ := listed (l := r.operatorTrace) (by simp)
    obtain ⟨_, hg⟩ := listed (l := r.evidenceGaps) (by simp)
    obtain ⟨_, hd⟩ := listed (l := r.dependencies) (by simp)
    obtain ⟨_, hc⟩ := listed (l := r.changedFactRuleIds) (by simp)
    simp only [evaluationArgs, hp, hw, hsnapshot, hpolicy, ht, hg, hd, hc, ok_bind, pure_eq_ok]
    exact ⟨_, rfl⟩
  | blocked r =>
    obtain ⟨_, ht⟩ := listed (l := r.operatorTrace) (by simp)
    obtain ⟨_, hg⟩ := listed (l := r.evidenceGaps) (by simp)
    obtain ⟨_, hd⟩ := listed (l := r.dependencies) (by simp)
    obtain ⟨_, hc⟩ := listed (l := r.changedFactRuleIds) (by simp)
    simp only [evaluationArgs, hsnapshot, hpolicy, ht, hg, hd, hc, ok_bind, pure_eq_ok]
    exact ⟨_, rfl⟩

/-- The engine delivers a written row as it was written. -/
lemma deliverEvaluation_self {proposalId s r args} (h : evaluationArgs proposalId s r = .ok args) :
    deliverEvaluation args = .ok args := by
  cases r with
  | check r =>
    simp only [evaluationArgs, bind_eq_ok, pure_eq_ok, Except.ok.injEq] at h
    obtain ⟨_, hp, _, hw, _, hs, _, hl, _, ht, _, hg, _, hd, _, hc, rfl⟩ := h
    simp only [deliverEvaluation, castJsonb_dump hp, castJsonb_dump hw, castJsonb_dump hs,
      castJsonb_dump hl, castJsonb_dump ht, castJsonb_dump hg, castJsonb_dump hd,
      castJsonb_dump hc, ok_bind, pure_eq_ok]
  | blocked r =>
    simp only [evaluationArgs, bind_eq_ok, pure_eq_ok, Except.ok.injEq] at h
    obtain ⟨_, hs, _, hl, _, ht, _, hg, _, hd, _, hc, rfl⟩ := h
    simp only [deliverEvaluation, castJsonb_dump dump_nil, castJsonb_dump hs, castJsonb_dump hl,
      castJsonb_dump ht, castJsonb_dump hg, castJsonb_dump hd, castJsonb_dump hc, ok_bind,
      pure_eq_ok]

/-- The evaluation row codec is lossless: what is written of an outcome of the evaluator that is
bound to its snapshot is delivered and decoded to the outcome. -/
theorem evaluation_row_lossless {s : EvaluationSnapshot} {r : EvaluationResult} {proposalId : String}
    (he : evaluateProposal s pinnedConfig = .ok r) (hn : r.Normal)
    (hb : validateEvaluationBinding s r = .ok ()) :
    ∃ args row, evaluationArgs proposalId s r = .ok args ∧ deliverEvaluation args = .ok row ∧
      resultFromRow row.mapping = .ok r := by
  obtain ⟨args, ha⟩ := evaluationArgs_ok hb proposalId
  refine ⟨args, args, ha, deliverEvaluation_self ha, ?_⟩
  refine result_decodes hn (validateEvaluationBinding_ok hb).2 ?_ ha
  rintro b rfl
  exact evaluator_code (evaluateCanonical_codes he)

/-! ### An outcome that is bound -/

/-- The smallest result of a snapshot is accepted. -/
lemma minimalResult_accepted {evaluationId version : String} {p : Proposal} {prior}
    (named : evaluationId ≠ "") :
    validateResult (.check (minimalResult version (minimalSnapshot evaluationId p prior))) = .ok () := by
  have result : validateCheckResult (minimalResult version (minimalSnapshot evaluationId p prior)) = .ok _ :=
    minimalResult_valid named digestOf_hex digestOf_hex nofun
  rw [validateResult, result]
  rfl

/-- A valid outcome with the bindings of a valid snapshot of the smallest proposal is bound to it. -/
lemma proposed_binding {proposalId reasoning : String} {s : EvaluationSnapshot}
    {r : EvaluationResult} (snapshot : validateSnapshot s = .ok s)
    (about : s.proposal = minimalProposal proposalId reasoning)
    (under : s.policy = sealedPolicy ⟨"policy", zeroDigest, []⟩) (valid : validateResult r = .ok ())
    (bound : r.evaluationId = s.evaluationId ∧ r.inputSnapshotDigest = s.snapshotDigest ∧
      r.policyDigest = s.policy.policyDigest ∧ r.profileVersion = s.profileVersion) :
    validateEvaluationBinding s r = .ok () := by
  have action : proposalActionDigest s.proposal = .ok s.proposal.actionDigest := by
    rw [about]
    exact sealedProposal_action
  have record : proposalRecordDigest s.proposal = .ok s.proposal.proposalDigest := by
    rw [about]
    exact sealedProposal_record (minimalProposal_finite proposalId reasoning)
  have policy : memoryPolicyDigest s.policy = .ok s.policy.policyDigest := by
    rw [under]
    exact digestOf_ok policyInputDigest_ok
  simp only [validateEvaluationBinding, snapshot, valid, ok_bind, asIntegrity, action, record, policy,
    ensure_pos]
  exact ensure_pos bound

/-- A valid outcome with the bindings of the smallest snapshot is bound to it. -/
lemma minimal_binding {evaluationId proposalId reasoning : String} {prior}
    {r : EvaluationResult} (hid : evaluationId ≠ "")
    (hprior : ∀ x ∈ prior, validatePrior x proposalId = .ok ()) (valid : validateResult r = .ok ())
    (bound : let s := minimalSnapshot evaluationId (minimalProposal proposalId reasoning) prior
      r.evaluationId = s.evaluationId ∧ r.inputSnapshotDigest = s.snapshotDigest ∧
        r.policyDigest = s.policy.policyDigest ∧ r.profileVersion = s.profileVersion) :
    validateEvaluationBinding
      (minimalSnapshot evaluationId (minimalProposal proposalId reasoning) prior) r = .ok () := by
  have snapshot := minimalSnapshot_valid (minimalProposal_valid proposalId reasoning) hid hprior
  exact proposed_binding snapshot rfl rfl valid bound

/-- A re-evaluation against a result of another version of the evaluator. -/
def otherVersion : EvaluationSnapshot :=
  minimalSnapshot "second" (minimalProposal "proposal" "reason")
    (some (priorOfResult (minimalResult "other"
      (minimalSnapshot "first" (minimalProposal "proposal" "reason") none)) "proposal"))

lemma otherVersion_prior :
    ∀ x ∈ otherVersion.priorEvaluation, validatePrior x "proposal" = .ok () := by
  intro x hx
  cases hx
  have nonempty : (minimalSnapshot "first" (minimalProposal "proposal" "reason") none).evaluationId ≠
      "" := (by decide : "first" ≠ "")
  exact priorOfResult_valid (minimalResult_valid nonempty digestOf_hex digestOf_hex nofun)

lemma otherVersion_valid : validateSnapshot otherVersion = .ok otherVersion :=
  minimalSnapshot_valid (minimalProposal_valid "proposal" "reason") (by decide) otherVersion_prior

lemma otherVersion_canonical : canonicalSnapshot otherVersion = otherVersion :=
  minimal_canonical rfl rfl

/-- The evaluator stops before the first fact. -/
lemma otherVersion_admission : admission otherVersion pinnedConfig =
    .error (.blocked "PRIOR_BINDING_MISMATCH" "prior evaluation binding differs") := by
  have input : validateInput otherVersion pinnedConfig = .ok () := by
    simp only [validateInput, bind_eq_ok, exists_unit]
    exact ⟨pinnedConfig_valid, admitSnapshot_ok_iff.mpr (.inl ⟨_, otherVersion_valid⟩),
      sealed_bindings rfl rfl rfl rfl (minimalProposal_finite "proposal" "reason") rfl⟩
  rw [admission, input, ok_bind]
  have version : "other" ≠ pinnedConfig.evaluatorVersion := (by decide : "other" ≠ "gam-gate/1.1")
  simp [bindPrior, otherVersion, minimalSnapshot, sealedSnapshot, priorOfResult, minimalResult,
    sealedResult, version, ensure]

/-- It is BLOCKED, and the result is bound to it. -/
lemma otherVersion_blocked : ∃ b, evaluateProposal otherVersion pinnedConfig = .ok (.blocked b) ∧
    validateEvaluationBinding otherVersion (.blocked b) = .ok () := by
  obtain ⟨b, stepId, digest, parts, hb, accepted⟩ := @blockedResult_ok _ otherVersion pinnedConfig none
    "PRIOR_BINDING_MISMATCH" "prior evaluation binding differs" (by decide) (by decide)
  refine ⟨b, ?_, minimal_binding (by decide) otherVersion_prior ?_ ?_⟩
  · rw [evaluateProposal, otherVersion_canonical, evaluateCanonical, otherVersion_admission]
    simp only [handle, hb]
    rfl
  · simp only [validateResult, accepted]
    rfl
  · rw [parts]
    have safe {d : String} (h : isHex64 d = true) : safeDigest d = d := if_pos h
    exact ⟨rfl, safe digestOf_hex, safe digestOf_hex, rfl⟩

end

/-- The row of a BLOCKED result. -/
theorem evaluation_row_lossless_blocked :
    let _ := asciiPlatform
    ∃ b args row, evaluationArgs "proposal" otherVersion (.blocked b) = .ok args ∧
      deliverEvaluation args = .ok row ∧ resultFromRow row.mapping = .ok (.blocked b) := by
  intro _
  obtain ⟨b, he, hb⟩ := otherVersion_blocked
  have hn : (EvaluationResult.blocked b).Normal := normal_of_id (fun _ => rfl) _
  exact ⟨b, @evaluation_row_lossless _ _ _ "proposal" he hn hb⟩

end GAM
