import GAM.System.Calls

/-!
# What the transactions append

Every transaction leaves the stored rows in place and appends to some tables or to none. For each this
module says which rows it appends, what they repeat of the arguments, and what was checked in the store
before.
-/

namespace GAM
open Lib

/-! ### What the inserts append -/

section
variable {db db' : Database}

/-- An inserted proposal is appended. -/
lemma insertProposal_eq {row} (h : insertProposal db row = .ok db') :
    db' = { db with proposals := db.proposals ++ [row] } := by
  simp only [insertProposal, bind_eq_ok, pure_eq_ok, Except.ok.injEq] at h
  obtain ⟨-, -, -, -, -, -, -, -, -, -, -, -, -, -, rfl⟩ := h
  rfl

/-- An inserted evaluation is appended. -/
lemma insertEvaluation_eq {row} (h : insertEvaluation db row = .ok db') :
    db' = { db with evaluations := db.evaluations ++ [row] } := by
  simp only [insertEvaluation, bind_eq_ok, pure_eq_ok, Except.ok.injEq] at h
  obtain ⟨-, -, -, -, -, -, -, -, -, -, -, -, -, -, -, -, -, -, rfl⟩ := h
  rfl

/-- An inserted evaluation has a new identifier and refers to a stored proposal. -/
lemma insertEvaluation_facts {row} (h : insertEvaluation db row = .ok db') :
    Fresh EvaluationRow.id db.evaluations row ∧
      References ProposalRow.id db.proposals row.proposalId := by
  simp only [insertEvaluation, bind_eq_ok, ensure_eq_ok, exists_unit] at h
  exact ⟨h.2.2.2.2.2.1, h.2.2.2.2.2.2.2.1⟩

/-- An inserted decision is appended. -/
lemma insertDecision_eq {row} (h : insertDecision db row = .ok db') :
    db' = { db with decisions := db.decisions ++ [row] } := by
  simp only [insertDecision, bind_eq_ok, pure_eq_ok, Except.ok.injEq] at h
  obtain ⟨-, -, -, -, -, -, rfl⟩ := h
  rfl

/-- An inserted exclusion is appended. -/
lemma insertExclusion_eq {row} (h : insertExclusion db row = .ok db') :
    db' = { db with exclusions := db.exclusions ++ [row] } := by
  simp only [insertExclusion, bind_eq_ok, pure_eq_ok, Except.ok.injEq] at h
  obtain ⟨-, -, -, -, -, -, rfl⟩ := h
  rfl

/-- An inserted effect is appended. -/
lemma insertEffectRow_eq {row} (h : insertEffectRow db row = .ok db') :
    db' = { db with effects := db.effects ++ [row] } := by
  simp only [insertEffectRow, bind_eq_ok, pure_eq_ok, Except.ok.injEq] at h
  obtain ⟨-, -, -, -, -, -, -, -, -, -, -, -, -, -, rfl⟩ := h
  rfl

/-- An inserted attempt is appended. -/
lemma insertAttempt_eq {row} (h : insertAttempt db row = .ok db') :
    db' = { db with attempts := db.attempts ++ [row] } := by
  simp only [insertAttempt, bind_eq_ok, pure_eq_ok, Except.ok.injEq] at h
  obtain ⟨-, -, -, -, -, -, -, -, -, -, -, -, -, -, rfl⟩ := h
  rfl

/-- An inserted receipt is appended. -/
lemma insertReceipt_eq {row} (h : insertReceipt db row = .ok db') :
    db' = { db with receipts := db.receipts ++ [row] } := by
  simp only [insertReceipt, bind_eq_ok, pure_eq_ok, Except.ok.injEq] at h
  obtain ⟨-, -, -, -, -, -, -, -, -, -, -, -, rfl⟩ := h
  rfl

end

/-! ### What the transactions append -/

section
variable [Engine] {db db' : Database}

/-- The values of a written evaluation. -/
structure IsEvaluationOf (proposalId : String) (s : EvaluationSnapshot) (r : EvaluationResult)
    (row : EvaluationRow) : Prop where
  id : castUuid r.evaluationId = .ok row.id
  proposalId : castUuid proposalId = .ok row.proposalId
  prior : castOptUuid r.priorEvaluationId = .ok row.priorEvaluationId
  snapshot : ∃ text, dump (toValue s) = .ok text ∧ castJsonb text = .ok row.inputSnapshot
  trace : row.traceDigest = r.traceDigest
  status : row.status = .finalized ↔ r.isFinalized = true

/-- A stored evaluation is appended. -/
lemma storeEvaluation_ok {proposalId s r} (h : storeEvaluation db proposalId s r = .ok db') :
    ∃ row, insertEvaluation db row = .ok db' ∧ IsEvaluationOf proposalId s r row := by
  simp only [storeEvaluation, bind_eq_ok] at h
  obtain ⟨args, ha, row, hc, hi⟩ := h
  refine ⟨row, hi, ?_⟩
  simp only [castEvaluation, bind_eq_ok, pure_eq_ok, Except.ok.injEq] at hc
  obtain ⟨id, hid, pid, hpid, prior, hprior, snapshot, hsnapshot, -, -, -, -, -, -, -, -, -, -, -, -,
    -, -, rfl⟩ := hc
  cases r with
  | check r =>
    simp only [evaluationArgs, bind_eq_ok, pure_eq_ok, Except.ok.injEq] at ha
    obtain ⟨_, _, _, _, text, htext, _, _, _, _, _, _, _, _, _, _, rfl⟩ := ha
    exact ⟨hid, hpid, hprior, ⟨text, htext, hsnapshot⟩, rfl, by simp [EvaluationResult.isFinalized]⟩
  | blocked r =>
    simp only [evaluationArgs, bind_eq_ok, pure_eq_ok, Except.ok.injEq] at ha
    obtain ⟨text, htext, _, _, _, _, _, _, _, _, _, _, rfl⟩ := ha
    exact ⟨hid, hpid, hprior, ⟨text, htext, hsnapshot⟩, rfl, by simp [EvaluationResult.isFinalized]⟩

/-- The values of a written proposal. -/
structure IsProposalOf (p : Proposal) (row : ProposalRow) : Prop where
  id : castUuid p.proposalId = .ok row.id
  digest : row.proposalDigest = p.proposalDigest
  args : ∃ args, proposalArgs p = .ok args ∧ castProposal args = .ok row

/-- A written proposal has the identifier and the digest of its record. -/
lemma isProposalOf {p : Proposal} {args row} (ha : proposalArgs p = .ok args)
    (hc : castProposal args = .ok row) : IsProposalOf p row := by
  have ha' := ha
  have hc' := hc
  simp only [proposalArgs, bind_eq_ok, pure_eq_ok, Except.ok.injEq] at ha'
  obtain ⟨_, _, _, _, _, _, rfl⟩ := ha'
  simp only [castProposal, bind_eq_ok, pure_eq_ok, Except.ok.injEq] at hc'
  obtain ⟨id, hid, _, _, _, _, _, _, _, _, _, _, _, _, _, _, _, _, rfl⟩ := hc'
  exact ⟨hid, rfl, _, ha, hc⟩

/-- A first append either answers a replay, or appends a new proposal and its evaluation. -/
lemma firstAppend_ok {p s r ids} (h : firstAppend db p s r = .ok (ids, db')) :
    ∃ id, castUuid p.proposalId = .ok id ∧
      ((db' = db ∧ (∃ row ∈ db.proposals, row.id = id) ∧ ∃ evaluationId,
          castUuid r.evaluationId = .ok evaluationId ∧
          ∃ row ∈ db.evaluations, row.id = evaluationId ∧ row.proposalId = id) ∨
        ∃ row evaluation, IsProposalOf p row ∧ IsEvaluationOf p.proposalId s r evaluation ∧
          (∀ r ∈ db.proposals, r.id ≠ id) ∧ Fresh EvaluationRow.id db.evaluations evaluation ∧
          db' = { db with proposals := db.proposals ++ [row],
                          evaluations := db.evaluations ++ [evaluation] }) := by
  simp only [firstAppend, bind_eq_ok] at h
  obtain ⟨id, hid, h⟩ := h
  refine ⟨id, hid, ?_⟩
  split at h
  · rename_i existing hf
    simp only [bind_eq_ok, ensure_eq_ok, exists_unit, pure_eq_ok, Except.ok.injEq,
      Prod.mk.injEq] at h
    obtain ⟨evaluationId, he, ⟨-, ht⟩, -, rfl⟩ := h
    have row := List.find?_some hf
    obtain ⟨evaluation, hfe, -⟩ := Option.map_eq_some_iff.mp ht
    have erow := List.find?_some hfe
    simp only [decide_eq_true_eq] at row erow
    exact .inl ⟨rfl, ⟨existing, List.mem_of_find?_eq_some hf, row⟩, evaluationId, he, evaluation,
      List.mem_of_find?_eq_some hfe, erow⟩
  · rename_i hf
    simp only [bind_eq_ok, pure_eq_ok, Except.ok.injEq, Prod.mk.injEq] at h
    obtain ⟨args, ha, row, hc, mid, hi, _, hs, -, rfl⟩ := h
    obtain ⟨evaluation, he, hev⟩ := storeEvaluation_ok hs
    cases insertProposal_eq hi
    refine .inr ⟨row, evaluation, isProposalOf ha hc, hev, ?_, (insertEvaluation_facts he).1,
      insertEvaluation_eq he⟩
    simpa using hf

/-- The conditions of a first append. -/
lemma appendProposalAndEvaluation_ok {p s r ids}
    (h : appendProposalAndEvaluation db p s r = .ok (ids, db')) :
    validateEvaluationBinding s r = .ok () ∧ proposalEq s.proposal p = true ∧
      s.priorEvaluation = none ∧ r.priorEvaluationId = none ∧ r.changedFactRuleIds = [] ∧
      firstAppend db p s r = .ok (ids, db') := by
  simp only [appendProposalAndEvaluation, bind_eq_ok, exists_unit, ensure_eq_ok] at h
  obtain ⟨hb, ⟨he, hs, hr, hc⟩, h⟩ := h
  exact ⟨hb, he, hs, hr, hc, h⟩

/-- A re-evaluation either answers a replay, or appends an evaluation after the latest one, which its
snapshot names as prior. -/
lemma appendReEvaluation_ok {s r ids} (h : appendReEvaluation db s r = .ok (ids, db')) :
    ∃ prior, s.priorEvaluation = some prior ∧ r.priorEvaluationId = some prior.evaluationId ∧
      validateEvaluationBinding s r = .ok () ∧ ∃ id, castUuid r.evaluationId = .ok id ∧
        ((db' = db ∧ ∃ row ∈ db.evaluations, row.id = id) ∨
          ∃ proposalId latest evaluation, castUuid s.proposal.proposalId = .ok proposalId ∧
            db.latest proposalId = some latest ∧ latest.id = prior.evaluationId ∧
            latest.traceDigest = prior.traceDigest ∧
            IsEvaluationOf s.proposal.proposalId s r evaluation ∧
            Fresh EvaluationRow.id db.evaluations evaluation ∧
            db' = { db with evaluations := db.evaluations ++ [evaluation] }) := by
  simp only [appendReEvaluation, bind_eq_ok, exists_unit] at h
  obtain ⟨hb, h⟩ := h
  split at h
  · cases h
  · rename_i prior hp
    simp only [bind_eq_ok, exists_unit, ensure_eq_ok] at h
    obtain ⟨⟨hr, -⟩, h⟩ := h
    refine ⟨prior, hp, hr, hb, ?_⟩
    simp only [nextAppend, bind_eq_ok] at h
    obtain ⟨id, hid, h⟩ := h
    refine ⟨id, hid, ?_⟩
    split at h
    · rename_i existing hf
      simp only [bind_eq_ok, ensure_eq_ok, exists_unit, pure_eq_ok, Except.ok.injEq,
        Prod.mk.injEq] at h
      obtain ⟨-, -, rfl⟩ := h
      have row := List.find?_some hf
      simp only [decide_eq_true_eq] at row
      exact .inl ⟨rfl, existing, List.mem_of_find?_eq_some hf, row⟩
    · simp only [bind_eq_ok, ensure_eq_ok, exists_unit, pure_eq_ok, Except.ok.injEq,
        Prod.mk.injEq] at h
      obtain ⟨proposalId, hpid, ⟨latest, hl, hid, ht⟩, _, hs, -, rfl⟩ := h
      obtain ⟨evaluation, he, hev⟩ := storeEvaluation_ok hs
      exact .inr ⟨proposalId, latest, evaluation, hpid, hl, hid, ht, hev,
        (insertEvaluation_facts he).1, insertEvaluation_eq he⟩

/-- A decision either answers a replay, or appends a decision and perhaps an exclusion. -/
lemma decideTransaction_ok {a p draw answer}
    (h : decideTransaction db a p draw = .ok (answer, db')) :
    db' = db ∨ ∃ record row mid exclusions, newDecision a draw.decisionId = .ok record ∧
      castDecision record = .ok row ∧ insertDecision db row = .ok mid ∧
      db' = { db with decisions := db.decisions ++ [row],
                      exclusions := db.exclusions ++ exclusions } := by
  simp only [decideTransaction] at h
  split at h
  · simp only [bind_eq_ok, pure_eq_ok, Except.ok.injEq, Prod.mk.injEq] at h
    obtain ⟨-, -, -, rfl⟩ := h
    exact .inl rfl
  · simp only [bind_eq_ok, ensure_eq_ok, exists_unit] at h
    obtain ⟨-, -, -, record, hr, row, hc, mid, hi, h⟩ := h
    refine .inr ⟨record, row, mid, ?_⟩
    cases insertDecision_eq hi
    split at h
    · simp only [appendExclusion, bind_eq_ok, pure_eq_ok, Except.ok.injEq, Prod.mk.injEq] at h
      obtain ⟨_, ⟨_, _, exclusion, _, _, he, rfl⟩, -, rfl⟩ := h
      cases insertExclusion_eq he
      exact ⟨[exclusion], hr, hc, hi, rfl⟩
    · simp only [pure_eq_ok, Except.ok.injEq, Prod.mk.injEq] at h
      obtain ⟨-, rfl⟩ := h
      exact ⟨[], hr, hc, hi, by simp⟩

/-- What a receipt repeats of its attempt. -/
structure IsReceiptOf (attempt : ExecutionAttempt) (row : ExecutionReceipt) : Prop where
  decisionId : castUuid attempt.decisionId = .ok row.decisionId
  status : row.attemptTerminalStatus = attempt.terminalStatus
  before : row.beforeEffectDigest = attempt.beforeEffectDigest
  after : row.afterEffectDigest = attempt.afterEffectDigest
  version : row.observedEffectVersion = attempt.observedEffectVersion
  taken : ∃ time, castTimestamp attempt.startedAt = .ok time

/-- An attempt is appended with its receipt. -/
lemma recordAttempt_ok {draw provisional receipt}
    (h : recordAttempt db draw provisional = .ok (receipt, db')) :
    ∃ attempt row, IsReceiptOf provisional row ∧
      db' = { db with attempts := db.attempts ++ [attempt], receipts := db.receipts ++ [row] } := by
  simp only [recordAttempt, bind_eq_ok, pure_eq_ok, Except.ok.injEq, Prod.mk.injEq] at h
  obtain ⟨_, _, attempt, ha, mid, hi, _, _, row, hc, _, hr, -, rfl⟩ := h
  cases insertAttempt_eq hi
  refine ⟨attempt, row, ?_, insertReceipt_eq hr⟩
  simp only [castAttempt, bind_eq_ok] at ha
  obtain ⟨_, _, _, _, _, _, _, _, started, taken, -⟩ := ha
  simp only [castReceipt, bind_eq_ok, pure_eq_ok, Except.ok.injEq] at hc
  obtain ⟨_, _, _, _, _, _, _, _, _, hd, rfl⟩ := hc
  exact ⟨hd, rfl, rfl, rfl, rfl, started, taken⟩

/-- The column values of an effect keep its identifier's value. -/
lemma castEffect_id {effect row : EffectRow} (h : castEffect effect = .ok row) :
    castUuid effect.id = .ok row.id := by
  simp only [castEffect, bind_eq_ok, pure_eq_ok, Except.ok.injEq] at h
  obtain ⟨id, hid, _, _, _, _, _, _, _, _, _, _, rfl⟩ := h
  exact hid

/-- An effect is appended when it is read back as it was meant. -/
lemma insertEffect_ok {effect fault} (h : insertEffect db effect fault = .ok db') :
    ∃ row, castEffect effect = .ok row ∧ insertEffectRow db row = .ok db' ∧
      databaseJson row.effectValue = .ok effect.effectValue := by
  cases fault with
  | some sqlstate =>
    simp only [insertEffect, error_bind] at h
    cases h
  | none =>
    simp only [insertEffect, bind_eq_ok] at h
    obtain ⟨row, hc, mid, hi, id, hid, h⟩ := h
    have hrow : row.id = id := by
      have hrow := castEffect_id hc
      rw [hid] at hrow
      cases hrow
      rfl
    have fresh : Fresh EffectRow.id db.effects row := by
      simp only [insertEffectRow, bind_eq_ok, ensure_eq_ok, exists_unit] at hi
      exact hi.2.2.2.2.1.1
    have found : mid.effects.find? (fun r => r.id = id) = some row := by
      cases insertEffectRow_eq hi
      rw [List.find?_append, List.find?_eq_none.mpr]
      · simp [hrow]
      · intro r hr
        simpa [← hrow] using fresh r hr
    rw [found] at h
    simp only [bind_eq_ok, ensure_eq_ok, exists_unit, pure_eq_ok, Except.ok.injEq] at h
    obtain ⟨value, hv, ⟨-, rfl, -⟩, rfl⟩ := h
    exact ⟨row, hc, hi, hv⟩

omit [Engine] in
/-- The lookup finds nothing when there is nothing to find. -/
lemma existingReceipt_none {key decisionId : String} :
    existingReceipt db key decisionId = .ok none ↔ db.receiptsOf key decisionId = [] := by
  rw [existingReceipt]
  split <;> simp_all [blockExecution]

/-- What an execution appends. -/
structure Executed (db : Database) (command : DemoExecutionCommand) (failed : FailedEffect)
    (effect row : EffectRow) (receipt : ExecutionReceipt) : Prop where
  unreceipted : ∃ decisionId, castUuid command.decisionId = .ok decisionId ∧
    db.receiptsOf command.idempotencyKey decisionId = [] ∧
    loadAuthority db command decisionId = .ok failed
  next : ∃ effectId digest,
    effect = nextEffect failed effectId (db.currentEffect failed.effectKey) digest
  cast : castEffect effect = .ok row
  inserted : ∃ mid, insertEffectRow db row = .ok mid
  value : databaseJson row.effectValue = .ok effect.effectValue
  recorded : ∃ attempt, IsReceiptOf attempt receipt ∧ attempt.decisionId = effect.decisionId ∧
    attempt.terminalStatus = .observed ∧ attempt.beforeEffectDigest = effect.beforeEffectDigest ∧
    attempt.afterEffectDigest = some effect.effectDigest ∧
    attempt.observedEffectVersion = some effect.effectVersion

/-- An execution either answers a replay, or appends an effect with its attempt and receipt. -/
lemma executeTransaction_ok {command draw answer}
    (h : executeTransaction db command draw = .ok (.recorded answer db')) :
    db' = db ∨ ∃ failed effect row attempt receipt, Executed db command failed effect row receipt ∧
      db' = { db with effects := db.effects ++ [row], attempts := db.attempts ++ [attempt],
                      receipts := db.receipts ++ [receipt] } := by
  simp only [executeTransaction, bind_eq_ok] at h
  obtain ⟨decisionId, hid, existing, lookup, h⟩ := h
  cases existing with
  | none =>
    have none := existingReceipt_none.mp lookup
    simp only [bind_eq_ok] at h
    obtain ⟨failed, hf, h⟩ := h
    simp only [appendEffect, bind_eq_ok] at h
    obtain ⟨digest, -, h⟩ := h
    split at h
    · rename_i mid hi
      simp only [bind_eq_ok, pure_eq_ok, Except.ok.injEq, Execution.recorded.injEq] at h
      obtain ⟨⟨receipt, last⟩, ho, rfl, rfl⟩ := h
      obtain ⟨row, hc, hr, hv⟩ := insertEffect_ok hi
      simp only [appendObserved, bind_eq_ok] at ho
      obtain ⟨_, _, _, _, ho⟩ := ho
      obtain ⟨attempt, receipt, hro, rfl⟩ := recordAttempt_ok ho
      refine .inr ⟨failed, _, row, attempt, receipt,
        ⟨⟨decisionId, hid, none, hf⟩, ⟨draw.effectId, digest, rfl⟩, hc, ⟨_, hr⟩, hv,
          ⟨_, hro, rfl, rfl, rfl, rfl, rfl⟩⟩, ?_⟩
      cases insertEffectRow_eq hr
      rfl
    · split at h <;> cases h
    · cases h
  | some existing =>
    simp only [bind_eq_ok, ensure_eq_ok, exists_unit, pure_eq_ok, Except.ok.injEq,
      Execution.recorded.injEq] at h
    obtain ⟨-, -, -, -, rfl⟩ := h
    exact .inl rfl

/-- A recovery either answers a replay, or appends an ERROR attempt and receipt for a decision that
has no effect. -/
lemma errorTransaction_ok {failed draw answer}
    (h : errorTransaction db failed draw = .ok (answer, db')) :
    db' = db ∨ ∃ attempt receipt,
      castUuid failed.decision.decisionId = .ok receipt.decisionId ∧
      receipt.attemptTerminalStatus = .error ∧
      (∃ time, castTimestamp draw.started = .ok time) ∧
      (∀ r ∈ db.receipts, r.idempotencyKey ≠ failed.command.idempotencyKey) ∧
      (∀ e ∈ db.effects, e.decisionId ≠ receipt.decisionId) ∧
      db' = { db with attempts := db.attempts ++ [attempt],
                      receipts := db.receipts ++ [receipt] } := by
  simp only [errorTransaction] at h
  split at h
  · simp only [bind_eq_ok, ensure_eq_ok, exists_unit, pure_eq_ok, Except.ok.injEq,
      Prod.mk.injEq] at h
    obtain ⟨-, -, -, -, rfl⟩ := h
    exact .inl rfl
  · rename_i hf
    simp only [bind_eq_ok, ensure_eq_ok, exists_unit] at h
    obtain ⟨id, hid, heff, h⟩ := h
    simp only [appendErrorChain, bind_eq_ok] at h
    obtain ⟨_, _, _, _, h⟩ := h
    obtain ⟨attempt, receipt, hr, rfl⟩ := recordAttempt_ok h
    have same : receipt.decisionId = id := by
      have value : castUuid failed.decision.decisionId = .ok receipt.decisionId := hr.decisionId
      rw [hid] at value
      cases value
      rfl
    exact .inr ⟨attempt, receipt, same ▸ hid, hr.status, hr.taken, by simpa using hf,
      by simpa [same] using heff, rfl⟩

end

end GAM
