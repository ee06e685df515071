import GAM.System.Executed

/-!
# Executions over runs

What an execution has loaded when it writes, what it writes (`runs_executions`), and what the effects
and the receipts of a decision say about each other in every reachable store
(`effects_receipts_agree`).
-/

namespace GAM
open Lib

/-! ### The loaded authority -/

section
variable [Engine] {db db' : Database}

/-- A decision is delivered as it is stored, up to the text of its conditions. -/
lemma decisionOfRow_ok {row d : DecisionRecord} (h : decisionOfRow row = .ok d) :
    ∃ conditions, d = { row with conditionsJson := conditions } := by
  simp only [decisionOfRow, bind_eq_ok, pure_eq_ok, Except.ok.injEq] at h
  obtain ⟨conditions, -, _, -, _, -, rfl⟩ := h
  exact ⟨conditions, rfl⟩

/-- The records that an execution has loaded and compared. -/
structure Authority (db : Database) (command : DemoExecutionCommand) (decisionId : String)
    (failed : FailedEffect) : Prop where
  command : failed.command = command
  decision : ∃ row ∈ db.decisions, ∃ conditions, row.decisionId = decisionId ∧
    failed.decision = { row with conditionsJson := conditions }
  approved : failed.decision.decision = .approve
  proposal : getProposal db failed.decision.proposalId = .ok failed.proposal
  evaluation : getEvaluation db failed.decision.evaluationId = .ok (.check failed.evaluation)
  trace : failed.evaluation.traceDigest = failed.decision.evaluationTraceDigest
  effect : validateEffect failed.proposal = .ok (failed.effectKey, failed.valueJson)
  before : failed.before =
    (db.currentEffect failed.effectKey).elim zeroDigest EffectRow.effectDigest

/-- A loaded authority is the one stored. -/
lemma loadAuthority_ok {command : DemoExecutionCommand} {decisionId : String} {failed : FailedEffect}
    (h : loadAuthority db command decisionId = .ok failed) :
    Authority db command decisionId failed := by
  simp only [loadAuthority] at h
  split at h
  · rename_i rows found
    obtain ⟨row, joined⟩ := rows
    simp only [authority, Option.bind_eq_bind, Option.bind_eq_some_iff] at found
    obtain ⟨d, hd, _, -, _, -, pair⟩ := found
    cases pair
    simp only [ok_bind, bind_eq_ok, ensure_eq_ok, exists_unit] at h
    obtain ⟨decision, loaded, approved, proposal, hp, result, hr, h⟩ := h
    obtain ⟨conditions, same⟩ := decisionOfRow_ok loaded
    have stored : row ∈ db.decisions ∧ row.decisionId = decisionId :=
      ⟨List.mem_of_find?_eq_some hd, by simpa using List.find?_some hd⟩
    cases result with
    | blocked _ => cases h
    | check evaluation =>
      simp only [bind_eq_ok, ensure_eq_ok, exists_unit] at h
      obtain ⟨_, -, ⟨trace, -, -⟩, _, -, -, _, -, -, ⟨key, value⟩, effect, h⟩ := h
      cases h
      exact ⟨rfl, ⟨row, stored.1, conditions, stored.2, same⟩, approved, hp, hr, trace, effect, rfl⟩
  · cases h

/-- The authority is that of the decision asked for. -/
lemma Authority.decisionId {command : DemoExecutionCommand} {decisionId : String}
    {failed : FailedEffect} (h : Authority db command decisionId failed) :
    failed.decision.decisionId = decisionId := by
  obtain ⟨row, -, conditions, id, same⟩ := h.decision
  rw [same, id]

/-! ### What the transactions write -/

/-- The columns of an effect keep what is not an identifier and not its value. -/
structure IsEffectOf (effect row : EffectRow) : Prop where
  id : castUuid effect.id = .ok row.id
  proposalId : castUuid effect.proposalId = .ok row.proposalId
  decisionId : castUuid effect.decisionId = .ok row.decisionId
  prior : castOptUuid effect.priorEffectId = .ok row.priorEffectId
  rest : row = { effect with
    id := row.id, proposalId := row.proposalId, evaluationId := row.evaluationId,
    decisionId := row.decisionId, priorEffectId := row.priorEffectId,
    effectValue := row.effectValue }

/-- A cast effect keeps what binds it. -/
lemma castEffect_ok {effect row : EffectRow} (h : castEffect effect = .ok row) :
    IsEffectOf effect row := by
  simp only [castEffect, bind_eq_ok, pure_eq_ok, Except.ok.injEq] at h
  obtain ⟨_, id, _, proposal, _, -, _, decision, _, prior, _, -, rfl⟩ := h
  exact ⟨id, proposal, decision, prior, rfl⟩

/-- What the store has of a new effect: nothing of its own, and what authorizes it. -/
structure EffectBound (db : Database) (row : EffectRow) : Prop where
  new : Fresh EffectRow.decisionId db.effects row
  value : row.decisionValue = .approve
  action : References ProposalRow.action db.proposals
    (row.proposalId, row.actionTypeKey, row.targetKey, row.actionDigest)
  decision : References DecisionRecord.binding db.decisions (row.decisionId, row.decisionValue,
    row.proposalId, row.evaluationId, row.evaluationTraceDigest, row.decisionDigest)

omit [Engine] in
/-- An inserted effect is bound. -/
lemma insertEffectRow_bound {row : EffectRow} (h : insertEffectRow db row = .ok db') :
    EffectBound db row := by
  simp only [insertEffectRow, bind_eq_ok, ensure_eq_ok, exists_unit] at h
  obtain ⟨⟨approve, -, -⟩, -, -, -, ⟨-, -, new, -⟩, ⟨action, decision⟩, -, -⟩ := h
  exact ⟨new, approve, action, decision⟩

/-- The receipt observes the effect. -/
structure ExecutionReceipt.ReadsBack (receipt : ExecutionReceipt) (row : EffectRow) : Prop where
  decisionId : receipt.decisionId = row.decisionId
  before : receipt.beforeEffectDigest = row.beforeEffectDigest
  after : receipt.afterEffectDigest = some row.effectDigest
  version : receipt.observedEffectVersion = some row.effectVersion

/-- An execution writes an effect and its receipt. -/
structure ObservedWrite (db : Database) (command : DemoExecutionCommand) (failed : FailedEffect)
    (effect row : EffectRow) (receipt : ExecutionReceipt) : Prop where
  authority : Authority db command row.decisionId failed
  unreceipted : ∀ r ∈ db.receipts, r.decisionId ≠ row.decisionId
  next : ∃ effectId digest,
    effect = nextEffect failed effectId (db.currentEffect failed.effectKey) digest
  columns : IsEffectOf effect row
  bound : EffectBound db row
  value : databaseJson row.effectValue = .ok effect.effectValue
  status : receipt.attemptTerminalStatus = .observed
  reads : receipt.ReadsBack row
  taken : ∃ text time, castTimestamp text = .ok time

/-- A recovery writes an ERROR receipt. -/
structure ErrorWrite (db : Database) (failed : FailedEffect) (receipt : ExecutionReceipt) : Prop where
  decisionId : castUuid failed.decision.decisionId = .ok receipt.decisionId
  status : receipt.attemptTerminalStatus = .error
  uncommitted : ∀ e ∈ db.effects, e.decisionId ≠ receipt.decisionId
  taken : ∃ text time, castTimestamp text = .ok time

/-- An execution writes an observed effect. -/
lemma Executed.write {command : DemoExecutionCommand} {failed : FailedEffect} {effect row : EffectRow}
    {receipt : ExecutionReceipt} (h : Executed db command failed effect row receipt) :
    ObservedWrite db command failed effect row receipt := by
  obtain ⟨decisionId, cast, none, loaded⟩ := h.unreceipted
  have authority := loadAuthority_ok loaded
  have columns := castEffect_ok h.cast
  obtain ⟨effectId, digest, next⟩ := h.next
  obtain ⟨_, inserted⟩ := h.inserted
  obtain ⟨attempt, is, decision, status, before, after, version⟩ := h.recorded
  have asked : effect.decisionId = decisionId := by
    rw [next]
    exact authority.decisionId
  have same : row.decisionId = decisionId := by
    have value := columns.decisionId
    rw [asked, castUuid_idem cast] at value
    exact (Except.ok.inj value).symm
  have received : receipt.decisionId = decisionId := by
    have value := is.decisionId
    rw [decision, asked, castUuid_idem cast] at value
    exact (Except.ok.inj value).symm
  refine ⟨same ▸ authority, ?_, ⟨effectId, digest, next⟩, columns, insertEffectRow_bound inserted,
    h.value, is.status.trans status, ?_, _, is.taken⟩
  · intro r hr e
    have listed : r ∈ db.receiptsOf command.idempotencyKey decisionId :=
      List.mem_filter.mpr ⟨hr, decide_eq_true (.inr (e.trans same))⟩
    rw [none] at listed
    exact absurd listed List.not_mem_nil
  · refine ⟨received.trans same.symm, ?_, ?_, ?_⟩
    · rw [is.before, before, columns.rest]
    · rw [is.after, after, columns.rest]
    · rw [is.version, version, columns.rest]

/-- What a transaction does to effects and receipts: nothing, an effect with its receipt, or an ERROR
receipt. -/
lemma runs_executions {c c' : Call} (h : Runs db c db' c') :
    (db'.effects = db.effects ∧ db'.receipts = db.receipts) ∨
    (∃ executorId command failed effect row attempt receipt, c = .execute executorId command ∧
      ObservedWrite db command failed effect row receipt ∧
      db' = { db with effects := db.effects ++ [row], attempts := db.attempts ++ [attempt],
                      receipts := db.receipts ++ [receipt] }) ∨
    (∃ failed attempt receipt, c = .recover failed ∧ ErrorWrite db failed receipt ∧
      db' = { db with attempts := db.attempts ++ [attempt],
                      receipts := db.receipts ++ [receipt] }) := by
  cases h with
  | aborted | failed | loaded | checked | latest | refused => exact .inl ⟨rfl, rfl⟩
  | proposed h =>
    obtain ⟨-, -, -, -, -, h⟩ := appendProposalAndEvaluation_ok h
    obtain ⟨_, -, ⟨rfl, -⟩ | ⟨_, _, -, -, -, -, rfl⟩⟩ := firstAppend_ok h <;> exact .inl ⟨rfl, rfl⟩
  | reevaluated h =>
    obtain ⟨_, -, -, -, _, -, h⟩ := appendReEvaluation_ok h
    obtain ⟨rfl, -⟩ | ⟨_, _, _, -, -, -, -, -, -, rfl⟩ := h <;> exact .inl ⟨rfl, rfl⟩
  | decided h =>
    obtain rfl | ⟨_, _, _, _, -, -, -, rfl⟩ := decideTransaction_ok h <;> exact .inl ⟨rfl, rfl⟩
  | @executed _ executorId command _ _ _ h =>
    obtain rfl | ⟨failed, effect, row, attempt, receipt, written, rfl⟩ := executeTransaction_ok h
    · exact .inl ⟨rfl, rfl⟩
    · exact .inr (.inl ⟨executorId, command, failed, effect, row, attempt, receipt, rfl,
        written.write, rfl⟩)
  | @recovered _ failed _ _ h =>
    obtain rfl | ⟨attempt, receipt, id, status, taken, -, uncommitted, rfl⟩ := errorTransaction_ok h
    · exact .inl ⟨rfl, rfl⟩
    · exact .inr (.inr ⟨failed, attempt, receipt, rfl, ⟨id, status, uncommitted, _, taken⟩, rfl⟩)

/-! ### Effects and receipts agree -/

/-- The effects of a decision. -/
def Database.effectsOf (db : Database) (decisionId : String) : List EffectRow :=
  db.effects.filter fun e => e.decisionId = decisionId

/-- The receipts of a decision with a status. -/
def Database.receiptsWith (db : Database) (status : ExecutionStatus) (decisionId : String) :
    List ExecutionReceipt :=
  db.receipts.filter fun r => r.attemptTerminalStatus = status ∧ r.decisionId = decisionId

/-- The effects and receipts of a store belong together. -/
structure EffectsAgree (db : Database) : Prop where
  effects : (db.effects.map EffectRow.decisionId).Nodup
  observed : ((db.receipts.filter fun r => r.attemptTerminalStatus = .observed).map
    ExecutionReceipt.decisionId).Nodup
  reads : ∀ r ∈ db.receipts, r.attemptTerminalStatus = .observed → ∃ e ∈ db.effects, r.ReadsBack e
  receipted : ∀ e ∈ db.effects, ∃ r ∈ db.receipts, r.attemptTerminalStatus = .observed ∧
    r.ReadsBack e
  error : ∀ r ∈ db.receipts, r.attemptTerminalStatus = .error →
    ∀ e ∈ db.effects, e.decisionId ≠ r.decisionId

omit [Engine] in
/-- No effects and no receipts agree. -/
lemma EffectsAgree.of_nil (effects : db.effects = []) (receipts : db.receipts = []) :
    EffectsAgree db := by
  constructor <;> simp [effects, receipts]

/-- An effect with its receipt keeps the agreement: its decision had no receipt before. -/
lemma EffectsAgree.observe {command : DemoExecutionCommand} {failed : FailedEffect}
    {effect row : EffectRow} {receipt : ExecutionReceipt} (h : EffectsAgree db)
    (w : ObservedWrite db command failed effect row receipt)
    (effects : db'.effects = db.effects ++ [row])
    (receipts : db'.receipts = db.receipts ++ [receipt]) : EffectsAgree db' where
  effects := by
    rw [effects]
    exact keys_append h.effects w.bound.new
  observed := by
    rw [receipts, List.filter_append, List.filter_singleton, decide_eq_true w.status, cond_true]
    refine keys_append h.observed ?_
    intro r hr
    rw [w.reads.decisionId]
    exact w.unreceipted r (List.mem_filter.mp hr).1
  reads := by
    intro r hr status
    rw [receipts, List.mem_append, List.mem_singleton] at hr
    rw [effects]
    rcases hr with hr | rfl
    · obtain ⟨e, he, reads⟩ := h.reads r hr status
      exact ⟨e, List.mem_append_left _ he, reads⟩
    · exact ⟨row, List.mem_append_right _ List.mem_cons_self, w.reads⟩
  receipted := by
    intro e he
    rw [effects, List.mem_append, List.mem_singleton] at he
    rw [receipts]
    rcases he with he | rfl
    · obtain ⟨r, hr, reads⟩ := h.receipted e he
      exact ⟨r, List.mem_append_left _ hr, reads⟩
    · exact ⟨receipt, List.mem_append_right _ List.mem_cons_self, w.status, w.reads⟩
  error := by
    intro r hr status e he
    rw [receipts, List.mem_append, List.mem_singleton] at hr
    rw [effects, List.mem_append, List.mem_singleton] at he
    rcases hr with hr | rfl
    · rcases he with he | rfl
      · exact h.error r hr status e he
      -- the decision of the new effect has no receipt, so no ERROR receipt
      · exact (w.unreceipted r hr).symm
    · rw [w.status] at status
      cases status

/-- An ERROR receipt keeps the agreement: its decision has no effect. -/
lemma EffectsAgree.refuse {failed : FailedEffect} {receipt : ExecutionReceipt} (h : EffectsAgree db)
    (w : ErrorWrite db failed receipt) (effects : db'.effects = db.effects)
    (receipts : db'.receipts = db.receipts ++ [receipt]) : EffectsAgree db' where
  effects := by
    rw [effects]
    exact h.effects
  observed := by
    have unobserved : ¬receipt.attemptTerminalStatus = .observed := by
      rw [w.status]
      simp
    rw [receipts, List.filter_append, List.filter_singleton, decide_eq_false unobserved, cond_false,
      List.append_nil]
    exact h.observed
  reads := by
    intro r hr status
    rw [receipts, List.mem_append, List.mem_singleton] at hr
    rw [effects]
    rcases hr with hr | rfl
    · exact h.reads r hr status
    · rw [w.status] at status
      cases status
  receipted := by
    intro e he
    rw [effects] at he
    rw [receipts]
    obtain ⟨r, hr, reads⟩ := h.receipted e he
    exact ⟨r, List.mem_append_left _ hr, reads⟩
  error := by
    intro r hr status
    rw [receipts, List.mem_append, List.mem_singleton] at hr
    rw [effects]
    rcases hr with hr | rfl
    · exact h.error r hr status
    · exact w.uncommitted

/-- Every transaction keeps the agreement. -/
lemma EffectsAgree.step {c c' : Call} (h : EffectsAgree db) (run : Runs db c db' c') :
    EffectsAgree db' := by
  obtain ⟨effects, receipts⟩ | ⟨_, _, _, _, _, _, _, -, write, rfl⟩ | ⟨_, _, _, -, write, rfl⟩ :=
    runs_executions run
  · constructor
    · exact effects ▸ h.effects
    · exact receipts ▸ h.observed
    · exact effects ▸ receipts ▸ h.reads
    · exact effects ▸ receipts ▸ h.receipted
    · exact effects ▸ receipts ▸ h.error
  · exact h.observe write rfl rfl
  · exact h.refuse write rfl rfl

/-- In every reachable store the effects and receipts belong together. -/
lemma reachable_effectsAgree {guard} {k : Config Database Call}
    (h : clients.ReachableUnder guard emptyStore k) : EffectsAgree k.store :=
  Protocol.store_invariant (P := clients) (EffectsAgree.of_nil rfl rfl)
    (fun _ _ _ _ _ agree run _ => agree.step run) h

/-- What the effects and receipts of one decision say about each other. -/
structure DecisionAgrees (db : Database) (decisionId : String) : Prop where
  effect : (db.effectsOf decisionId).length ≤ 1
  receipt : (db.receiptsWith .observed decisionId).length ≤ 1
  both : db.receiptsWith .observed decisionId ≠ [] ↔ db.effectsOf decisionId ≠ []
  values : ∀ r ∈ db.receiptsWith .observed decisionId, ∀ e ∈ db.effectsOf decisionId, r.ReadsBack e

omit [Engine] in
/-- The effects of a decision. -/
lemma mem_effectsOf {decisionId : String} {e : EffectRow} :
    e ∈ db.effectsOf decisionId ↔ e ∈ db.effects ∧ e.decisionId = decisionId := by
  rw [Database.effectsOf, List.mem_filter, decide_eq_true_eq]

omit [Engine] in
/-- The receipts of a decision with a status. -/
lemma mem_receiptsWith {status : ExecutionStatus} {decisionId : String} {r : ExecutionReceipt} :
    r ∈ db.receiptsWith status decisionId ↔
      r ∈ db.receipts ∧ r.attemptTerminalStatus = status ∧ r.decisionId = decisionId := by
  rw [Database.receiptsWith, List.mem_filter, decide_eq_true_eq]

omit [Engine] in
/-- Where the tables agree, each decision's rows do. -/
lemma EffectsAgree.decision (h : EffectsAgree db) (decisionId : String) :
    DecisionAgrees db decisionId where
  effect := length_filter_key h.effects decisionId
  receipt := by
    have once := length_filter_key h.observed decisionId
    rw [List.filter_filter] at once
    refine le_of_eq_of_le ?_ once
    rw [Database.receiptsWith]
    congr 2
    funext r
    rw [Bool.decide_and, Bool.and_comm]
  both := by
    simp only [ne_eq, List.eq_nil_iff_forall_not_mem, not_forall, not_not]
    constructor
    · rintro ⟨r, hr⟩
      obtain ⟨mem, status, id⟩ := mem_receiptsWith.mp hr
      obtain ⟨e, he, reads⟩ := h.reads r mem status
      exact ⟨e, mem_effectsOf.mpr ⟨he, reads.decisionId.symm.trans id⟩⟩
    · rintro ⟨e, he⟩
      obtain ⟨mem, id⟩ := mem_effectsOf.mp he
      obtain ⟨r, hr, status, reads⟩ := h.receipted e mem
      exact ⟨r, mem_receiptsWith.mpr ⟨hr, status, reads.decisionId.trans id⟩⟩
  values := by
    intro r hr e he
    obtain ⟨mem, status, id⟩ := mem_receiptsWith.mp hr
    obtain ⟨stored, same⟩ := mem_effectsOf.mp he
    obtain ⟨e', he', reads⟩ := h.reads r mem status
    have one : e' = e := List.inj_on_of_nodup_map h.effects he' stored
      (reads.decisionId.symm.trans (id.trans same.symm))
    exact one ▸ reads

/-- In every reachable store the effects and receipts of every decision agree, and a decision with an
ERROR receipt has no effect then or later. -/
theorem effects_receipts_agree {k : Config Database Call} (h : clients.Reachable emptyStore k)
    (decisionId : String) : DecisionAgrees k.store decisionId ∧
      (k.store.receiptsWith .error decisionId ≠ [] →
        ∀ later, clients.Leads Protocol.anyRun k later → later.store.effectsOf decisionId = []) := by
  refine ⟨(reachable_effectsAgree h).decision decisionId, ?_⟩
  intro refused later leads
  obtain ⟨r, hr⟩ := List.exists_mem_of_ne_nil _ refused
  obtain ⟨mem, status, id⟩ := mem_receiptsWith.mp hr
  -- the receipt is still there, and the later store agrees as well
  have kept := (leads_grows leads).receipts.subset mem
  have agree := reachable_effectsAgree (h.trans leads)
  apply List.eq_nil_iff_forall_not_mem.mpr
  intro e he
  obtain ⟨stored, same⟩ := mem_effectsOf.mp he
  exact agree.error r kept status e stored (same.trans id.symm)

end

/-- A store in which the smallest proposal was approved and executed. -/
lemma codec_observed :
    let _ := codecEngine
    ∃ k row, clients.Reachable emptyStore k ∧ row ∈ k.store.effects ∧ row.effectKey = "alpha" := by
  intro _
  have proposalId : isUuid "00000000-0000-0000-0000-000000000001" = true := by decide
  have first : isUuid "00000000-0000-0000-0000-000000000002" = true := by decide
  have key : isUuid "00000000-0000-0000-0000-000000000003" = true := by decide
  let draw : DecisionDraw := ⟨"00000000-0000-0000-0000-000000000004",
    "00000000-0000-0000-0000-000000000005", by decide, by decide⟩
  let execution : Draw := ⟨"00000000-0000-0000-0000-000000000006",
    "00000000-0000-0000-0000-000000000007", "00000000-0000-0000-0000-000000000008",
    "2026-01-01T00:00:00Z", "2026-01-01T00:00:01Z", none, by decide, by decide, by decide⟩
  obtain ⟨db, d, approved, effects, attempts, receipts, reached⟩ :=
    minimal_approved "gam-gate/1.0" draw proposalId first key (fun _ => rfl) fun _ => rfl
  have clock : execution.started ≤ execution.finished := by decide
  obtain ⟨k, row, reached, stored, -, effectKey⟩ := approved.reaches_observed "executor" effects attempts
    receipts reached key clock (fun _ => rfl) rfl (by decide)
  exact ⟨k, row, reached, stored, effectKey⟩

/-- The effect of the smallest proposal agrees with its receipt. -/
theorem effects_receipts_agree_first :
    let _ := codecEngine
    ∃ (k : Config Database Call) (decisionId : String), clients.Reachable emptyStore k ∧
      k.store.effectsOf decisionId ≠ [] ∧ DecisionAgrees k.store decisionId := by
  intro _
  obtain ⟨k, row, reached, stored, -⟩ := codec_observed
  refine ⟨k, row.decisionId, reached, ?_, (effects_receipts_agree reached row.decisionId).1⟩
  exact List.ne_nil_of_mem (mem_effectsOf.mpr ⟨stored, rfl⟩)

end GAM
