import GAM.Executor.Records
import GAM.System.Decided

/-!
# Executions that succeed

An approved proposal that asks for a valid effect is executed: its records are loaded and compared, a
refused effect is recorded as ERROR, and a first effect that goes through is recorded as OBSERVED.
-/

namespace GAM
open Lib

/-! ### The authority -/

section
variable [Engine]

omit [Engine] in
lemma databaseJson_empty : databaseJson "\x7b\x7d" = .ok "\x7b\x7d" := by
  have parsed : Json.parse "\x7b\x7d" = some (.obj []) := Json.parse_print (.obj [])
  rw [databaseJson, Hooks.scan_parse _ parsed]
  rfl

/-- What the execution of a proposal rests on: the digests are its own, and the effect that it asks for is
valid, with a value that is stored and delivered as it is. -/
structure Proposal.Executable (p : Proposal) (effectKey valueJson : String) : Prop where
  record : proposalRecordDigest p = .ok p.proposalDigest
  action : proposalActionDigest p = .ok p.actionDigest
  effect : validateEffect p = .ok (effectKey, valueJson)
  stored : castJsonb valueJson = .ok valueJson ∧ isScalarType (jsonbTypeof valueJson) = true
  delivered : databaseJson valueJson = .ok valueJson

/-- A store with an executable proposal, its evaluation and an approval. -/
structure ApprovedStore (db : Database) (p : Proposal) (r : CheckResult) (d : DecisionRecord)
    (effectKey valueJson : String) : Prop where
  rows : ∃ s row evaluation, FirstRows p s r row evaluation ∧ db.proposals = [row] ∧
    db.evaluations = [evaluation]
  decisions : db.decisions = [d]
  decision : ∃ a, DecidesOn a p r ∧ a.decision = .approve ∧ IsDecisionOf a d.decisionId d
  uuid : isUuid d.decisionId = true
  executable : p.Executable effectKey valueJson

/-- The records that the execution loads. -/
def loadedEffect (p : Proposal) (r : CheckResult) (d : DecisionRecord) (effectKey valueJson : String)
    (command : DemoExecutionCommand) (before : String) : FailedEffect where
  command := command
  proposal := p
  evaluation := r
  decision := d
  effectKey := effectKey
  valueJson := valueJson
  before := before

/-- No row has an identifier or the key of the attempt. -/
structure Unused (db : Database) (command : DemoExecutionCommand) (draw : Draw) : Prop where
  attempts : ∀ r ∈ db.attempts, r.attemptId ≠ draw.attemptId ∧
    r.idempotencyKey ≠ command.idempotencyKey ∧ r.demoEffectId ≠ some draw.effectId
  receipts : ∀ r ∈ db.receipts, r.attemptId ≠ draw.attemptId ∧
    r.idempotencyKey ≠ command.idempotencyKey ∧ r.receiptId ≠ draw.receiptId

omit [Engine] in
/-- No attempt and no receipt. -/
lemma Unused.of_nil {db : Database} {command : DemoExecutionCommand} {draw : Draw}
    (attempts : db.attempts = []) (receipts : db.receipts = []) : Unused db command draw := by
  constructor <;> simp [attempts, receipts]

section
variable {p : Proposal} {effectKey valueJson : String} (x : p.Executable effectKey valueJson)
include x

/-- The keys of the proposal are those of its effect. -/
lemma Proposal.Executable.keys : p.actionTypeKey = "set_demo_value" ∧
    p.targetKey = "demo_kv:" ++ effectKey ∧ isEffectKey effectKey = true := by
  have effect := x.effect
  simp only [validateEffect, bind_eq_ok, ensure_eq_ok, exists_unit, pure_eq_ok, Except.ok.injEq,
    Prod.mk.injEq] at effect
  obtain ⟨action, -, key, -, -, -, rfl, -⟩ := effect
  exact ⟨action.2, key.2, key.1⟩

/-- The key of the effect is plain. -/
lemma Proposal.Executable.plain : isPlainText effectKey = true := by
  have key := x.keys.2.2
  refine List.all_eq_true.mpr fun c hc => decide_eq_true ?_
  have below : c ≤ 'z' ∨ c.isDigit = true ∨ c = '_' ∨ c = '-' := by
    rw [isEffectKey] at key
    split at key
    · cases key
    · rename_i chars
      rw [chars] at hc
      simp only [Bool.and_eq_true, Bool.or_eq_true, decide_eq_true_eq, List.all_eq_true,
        beq_iff_eq] at key
      rcases List.mem_cons.mp hc with rfl | hc
      · exact .inl key.1.1.2
      · rcases key.2 c hc with ((lower | digit) | underscore) | dash
        · exact .inl lower.2
        · exact .inr (.inl digit)
        · exact .inr (.inr (.inl underscore))
        · exact .inr (.inr (.inr dash))
  rcases below with lower | digit | rfl | rfl
  · exact Nat.lt_of_le_of_lt (show c.toNat ≤ 'z'.toNat from lower) (by decide)
  · simp only [Char.isDigit, Bool.and_eq_true, decide_eq_true_eq] at digit
    exact Nat.lt_of_le_of_lt (show c.toNat ≤ '9'.toNat from digit.2) (by decide)
  · decide
  · decide

end

/-! ### Outcomes -/

omit [Engine] in
/-- A digest is plain text. -/
lemma isHex64_plain {s : String} (h : isHex64 s = true) : isPlainText s = true :=
  List.all_eq_true.mpr fun c hc =>
    decide_eq_true (Nat.lt_of_le_of_lt (isHex64_le h c hc) (by decide))

omit [Engine] in
/-- The outcome of a refused effect. -/
lemma errorMembers {before effectKey : String} (hb : isHex64 before = true)
    (hk : isPlainText effectKey = true) : OutcomeMembers
      [("before_effect_digest", .inl before), ("effect_key", .inl effectKey),
        ("error_code", .inl "EFFECT_TRANSACTION_ROLLED_BACK"),
        ("safe_message", .inl "effect attempt was proven not committed"),
        ("status", .inl "ERROR")] where
  names := by
    simp only [List.map_cons, List.map_nil, List.forall_mem_cons, List.not_mem_nil, false_implies,
      implies_true, and_true]
    decide
  sorted := by
    have names : ["before_effect_digest", "effect_key", "error_code", "safe_message",
      "status"].Pairwise (· ≤ ·) := by decide
    exact List.pairwise_map.mp names
  texts := by
    intro m hm s hs
    simp only [List.mem_cons, List.not_mem_nil, or_false] at hm
    rcases hm with rfl | rfl | rfl | rfl | rfl <;> cases hs
    · exact isHex64_plain hb
    · exact hk
    · decide
    · decide
    · decide
  numbers := by
    intro m hm n hn
    simp only [List.mem_cons, List.not_mem_nil, or_false] at hm
    rcases hm with rfl | rfl | rfl | rfl | rfl <;> cases hn

omit [Engine] in
/-- The outcome of the first effect. -/
lemma observedMembers {digest effectId effectKey : String} (hd : isHex64 digest = true)
    (he : isPlainText effectId = true) (hk : isPlainText effectKey = true) : OutcomeMembers
      [("after_effect_digest", .inl digest), ("before_effect_digest", .inl zeroDigest),
        ("demo_effect_id", .inl effectId), ("effect_key", .inl effectKey),
        ("observed_effect_version", .inr 1), ("status", .inl "OBSERVED")] where
  names := by
    simp only [List.map_cons, List.map_nil, List.forall_mem_cons, List.not_mem_nil, false_implies,
      implies_true, and_true]
    decide
  sorted := by
    have names : ["after_effect_digest", "before_effect_digest", "demo_effect_id", "effect_key",
      "observed_effect_version", "status"].Pairwise (· ≤ ·) := by decide
    exact List.pairwise_map.mp names
  texts := by
    intro m hm s hs
    simp only [List.mem_cons, List.not_mem_nil, or_false] at hm
    rcases hm with rfl | rfl | rfl | rfl | rfl | rfl <;> cases hs
    · exact isHex64_plain hd
    · exact isHex64_plain (show isHex64 zeroDigest = true by decide)
    · exact he
    · exact hk
    · decide
  numbers := by
    intro m hm n hn
    simp only [List.mem_cons, List.not_mem_nil, or_false] at hm
    rcases hm with rfl | rfl | rfl | rfl | rfl | rfl <;> cases hn
    rfl

/-! ### The attempt -/

namespace ApprovedStore
variable {db : Database} {p : Proposal} {r : CheckResult} {d : DecisionRecord}
  {effectKey valueJson before : String} {command : DemoExecutionCommand} {draw : Draw}
  (h : ApprovedStore db p r d effectKey valueJson)
include h

/-- An approval is delivered as it is stored. -/
lemma delivered : decisionOfRow d = .ok d := by
  obtain ⟨_, -, -, is⟩ := h.decision
  have conditions : databaseJson d.conditionsJson = .ok d.conditionsJson := by
    rw [is.conditions, databaseJson_empty]
  rw [decisionOfRow, conditions, ok_bind]
  simp only [is.digest, ok_bind, ensure_pos, pure_eq_ok]

/-- The authority of the execution is loaded. -/
lemma loads (command : DemoExecutionCommand) : loadAuthority db command d.decisionId =
    .ok (loadedEffect p r d effectKey valueJson command
      ((db.currentEffect effectKey).elim zeroDigest EffectRow.effectDigest)) := by
  obtain ⟨_, row, evaluation, rows, proposals, evaluations⟩ := h.rows
  obtain ⟨a, asks, approve, is⟩ := h.decision
  obtain ⟨id, -, -, trace, status⟩ := evaluationArgs_columns rows.evaluation_written
  have about : d.proposalId = p.proposalId := is.proposal.trans asks.proposal
  have on : d.evaluationId = r.evaluationId := is.evaluation.trans asks.evaluation
  have digest : d.evaluationTraceDigest = r.traceDigest := is.trace.trans asks.trace
  have proposal : getProposal db d.proposalId = .ok p := about ▸ rows.found proposals
  have read : getEvaluation db d.evaluationId = .ok (.check r) := on ▸ rows.read ⟨[], evaluations⟩
  have joined : authority db d.decisionId = some (d, evaluation) := by
    have decision : db.decisions.find? (fun r => r.decisionId = d.decisionId) = some d := by
      rw [h.decisions, List.find?_singleton, if_pos (decide_eq_true rfl)]
    have evaluated : db.evaluations.find? (fun r => r.id = d.evaluationId) = some evaluation := by
      rw [evaluations, List.find?_singleton, if_pos (decide_eq_true (id.trans on.symm))]
    have proposed : db.proposals.find? (fun r => r.id = d.proposalId) = some row := by
      rw [proposals, List.find?_singleton,
        if_pos (decide_eq_true ((proposalArgs_binds rows.proposal_written).1.trans about.symm))]
    simp only [authority, decision, evaluated, proposed, Option.bind_eq_bind, Option.bind_some]
    rfl
  simp only [loadAuthority, joined, h.delivered, proposal, read, rows.valid, ok_bind, bind_eq_ok,
    ensure_eq_ok, exists_unit, h.executable.effect]
  exact ⟨is.decision.trans approve, ⟨digest.symm, status, trace.trans digest.symm⟩, _,
    h.executable.record, rfl, _, h.executable.action, rfl, rfl⟩

/-- What is stored of the approval and of the action. -/
lemma bound : isUuid p.proposalId = true ∧ isUuid r.evaluationId = true ∧
    References DecisionRecord.binding db.decisions (d.decisionId, .approve, p.proposalId,
      r.evaluationId, r.traceDigest, d.decisionDigest) ∧
    References ProposalRow.action db.proposals
      (p.proposalId, p.actionTypeKey, p.targetKey, p.actionDigest) := by
  obtain ⟨_, row, evaluation, rows, proposals, -⟩ := h.rows
  obtain ⟨a, asks, approve, is⟩ := h.decision
  refine ⟨rows.proposalId_uuid, rows.evaluationId_uuid, ⟨d, ?_, ?_⟩, ⟨row, ?_, ?_⟩⟩
  · rw [h.decisions]
    exact List.mem_cons_self
  · rw [DecisionRecord.binding, is.decision, is.proposal, is.evaluation, is.trace, approve,
      asks.proposal, asks.evaluation, asks.trace]
  · rw [proposals]
    exact List.mem_cons_self
  · have columns := rows.proposal_written
    simp only [proposalArgs, bind_eq_ok, pure_eq_ok, Except.ok.injEq] at columns
    obtain ⟨_, -, _, -, _, -, rfl⟩ := columns
    rfl

/-- The digests of the approval and of the action. -/
lemma digests : isDigestLength r.traceDigest = true ∧ isDigestLength d.decisionDigest = true ∧
    isDigestLength p.actionDigest = true := by
  obtain ⟨_, _, _, rows, -⟩ := h.rows
  obtain ⟨_, -, -, is⟩ := h.decision
  exact ⟨isDigestLength_of_hex rows.trace_hex, isDigestLength_of_hex (canonicalSha256_hex is.digest),
    isDigestLength_of_hex (canonicalSha256_hex h.executable.action)⟩

/-- An attempt of the execution can be recorded. -/
lemma recordable (unused : Unused db command draw) (clock : draw.started ≤ draw.finished)
    (times : ∀ text, castTimestamp text = .ok text)
    (beforeDigest : isHex64 before = true) {status : ExecutionStatus}
    {outcomeJson outcomeDigest : String} {demo after code message : Option String}
    {observed : Option Nat}
    (outcome : castJsonb outcomeJson = .ok outcomeJson ∧ jsonbTypeof outcomeJson = "object")
    (digest : isHex64 outcomeDigest = true)
    (terminal : (status = .observed ∧ demo = some draw.effectId ∧ (∃ d, after = some d ∧
        isHex64 d = true) ∧ (∃ version ∈ observed, 0 < version) ∧ code = none ∧ message = none) ∨
      (status = .error ∧ demo = none ∧ after = none ∧ observed = none ∧ code ≠ none ∧
        message ≠ none)) :
    let a := { attemptOf (loadedEffect p r d effectKey valueJson command before) draw status
      outcomeJson outcomeDigest with
        demoEffectId := demo, afterEffectDigest := after, observedEffectVersion := observed,
        errorCode := code, safeMessage := message }
    (demo ≠ none → ∃ r ∈ db.effects, a.Observes r) → AttemptReady db a := by
  intro a observes
  obtain ⟨pid, eid, decision, action⟩ := h.bound
  obtain ⟨trace, decisionDigest, actionDigest⟩ := h.digests
  obtain ⟨actionType, target, key⟩ := h.executable.keys
  -- an observed attempt carries the drawn effect; a refused one carries none
  have demoId : ∀ id ∈ demo, id = draw.effectId := by
    intro id hid
    rcases terminal with ⟨-, rfl, -⟩ | ⟨-, rfl, -⟩
    · exact (Option.some.inj hid).symm
    · cases hid
  have afterDigest : ∀ d ∈ after, isDigestLength d = true := by
    intro x hx
    rcases terminal with ⟨-, -, ⟨d, rfl, hex⟩, -⟩ | ⟨-, -, rfl, -⟩
    · cases hx
      exact isDigestLength_of_hex hex
    · cases hx
  constructor
  · exact ⟨rfl, actionType⟩
  · exact clock
  · exact ⟨times _, times _⟩
  · exact ⟨draw.attemptId_uuid, pid, eid, h.uuid, fun id hid => demoId id hid ▸ draw.effectId_uuid⟩
  · rcases terminal with ⟨status, demo, ⟨d, after, -⟩, rest⟩ | error
    · exact .inl ⟨status, by simp [a, demo], by simp [a, after], rest⟩
    · exact .inr error
  · exact h.executable.stored
  · exact outcome
  · exact ⟨target, key⟩
  · exact ⟨trace, decisionDigest, actionDigest, isDigestLength_of_hex beforeDigest, afterDigest,
      isDigestLength_of_hex digest⟩
  · exact decision
  · exact action
  · exact fun h => observes h.1
  · intro r hr
    obtain ⟨id, key, effect⟩ := unused.attempts r hr
    exact ⟨id, key, fun x hx => demoId x hx ▸ effect⟩
  · intro r hr
    exact ⟨(unused.receipts r hr).1, (unused.receipts r hr).2.1⟩

/-! ### Its transactions -/

/-- The effect is refused: the transaction is rolled back. -/
lemma refused (asked : command.decisionId = d.decisionId)
    (unreceipted : db.receiptsOf command.idempotencyKey d.decisionId = []) {sqlstate : String}
    (fault : draw.fault = some sqlstate) (other : sqlstate ≠ "40001") :
    executeTransaction db command draw = .ok (.rolledBack (loadedEffect p r d effectKey valueJson
      command ((db.currentEffect effectKey).elim zeroDigest EffectRow.effectDigest))) := by
  have cast : castUuid command.decisionId = .ok d.decisionId := by
    rw [asked, castUuid_self h.uuid]
  obtain ⟨digest, hd⟩ := effectDigestOf_ok (nextEffect (loadedEffect p r d effectKey valueJson
    command ((db.currentEffect effectKey).elim zeroDigest EffectRow.effectDigest)) draw.effectId
    (db.currentEffect effectKey) zeroDigest)
  have loads := h.loads command
  simp only [executeTransaction, cast, ok_bind, existingReceipt_none.mpr unreceipted, loads]
  rw [appendEffect]
  simp only [show (loadedEffect p r d effectKey valueJson command ((db.currentEffect effectKey).elim
    zeroDigest EffectRow.effectDigest)).effectKey = effectKey from rfl, hd, ok_bind, insertEffect,
    fault, error_bind, if_pos other, pure_eq_ok]

/-- The refusal is recorded as ERROR. -/
lemma recovered (unused : Unused db command draw) (clock : draw.started ≤ draw.finished)
    (times : ∀ text, castTimestamp text = .ok text) (hb : isHex64 before = true)
    (uncommitted : ∀ e ∈ db.effects, e.decisionId ≠ d.decisionId) :
    ∃ attempt receipt, receipt.decisionId = d.decisionId ∧
      receipt.attemptTerminalStatus = .error ∧ receipt.idempotencyKey = command.idempotencyKey ∧
      attempt.attemptId = draw.attemptId ∧ attempt.demoEffectId = none ∧
      attempt.idempotencyKey = command.idempotencyKey ∧ receipt.attemptId = draw.attemptId ∧
      receipt.receiptId = draw.receiptId ∧
      errorTransaction db (loadedEffect p r d effectKey valueJson command before) draw =
        .ok (receipt, { db with attempts := db.attempts ++ [attempt],
                                receipts := db.receipts ++ [receipt] }) := by
  have members := errorMembers hb h.executable.plain
  obtain ⟨digest, hd⟩ := members.digest
  have ready := @recordable _ _ _ _ _ _ _ _ _ draw h unused clock times hb .error _
    digest none none (some "EFFECT_TRANSACTION_ROLLED_BACK")
    (some "effect attempt was proven not committed") none members.column
    (canonicalSha256_hex hd) (.inr ⟨rfl, rfl, rfl, rfl, Option.some_ne_none _, Option.some_ne_none _⟩)
    (fun h => absurd rfl h)
  obtain ⟨attempt, receipt, records, recorded⟩ :=
    ready.recorded fun r hr => (unused.receipts r hr).2.2
  refine ⟨attempt, receipt, records.decisionId, records.status, records.key, ?_, ?_, ?_,
    records.attemptId, records.receiptId, ?_⟩
  · rw [records.attempt]
    rfl
  · rw [records.attempt]
  · rw [records.attempt]
    rfl
  have absent : db.receipts.find? (fun row => row.idempotencyKey =
      (loadedEffect p r d effectKey valueJson command before).command.idempotencyKey) = none := by
    refine List.find?_eq_none.mpr fun r hr => ?_
    rw [decide_eq_true_eq]
    exact (unused.receipts r hr).2.1
  rw [errorTransaction, absent]
  refine bind_eq_ok.mpr ⟨d.decisionId, castUuid_self h.uuid, bind_eq_ok.mpr
    ⟨(), ensure_pos uncommitted, ?_⟩⟩
  rw [appendErrorChain]
  exact bind_eq_ok.mpr ⟨_, members.loads, bind_eq_ok.mpr ⟨digest, hd, recorded⟩⟩

/-- The first effect goes through. -/
lemma inserted (new : db.effects = []) {digest : String} (hd : isHex64 digest = true)
    (fault : draw.fault = none) :
    let row := nextEffect (loadedEffect p r d effectKey valueJson command zeroDigest) draw.effectId
      none digest
    insertEffect db row draw.fault = .ok { db with effects := [row] } := by
  intro row
  obtain ⟨pid, eid, decision, action⟩ := h.bound
  obtain ⟨trace, decisionDigest, actionDigest⟩ := h.digests
  obtain ⟨actionType, target, key⟩ := h.executable.keys
  have cast : castEffect row = .ok row := by
    simp only [castEffect, row, nextEffect, loadedEffect, Option.map_none, castOptUuid,
      castUuid_self draw.effectId_uuid, castUuid_self h.uuid, castUuid_self pid, castUuid_self eid,
      h.executable.stored.1, ok_bind, pure_eq_ok]
  have setsValue : References ProposalRow.action db.proposals
      (p.proposalId, "set_demo_value", p.targetKey, p.actionDigest) := by
    rw [← actionType]
    exact action
  have stored : insertEffectRow db row = .ok { db with effects := [row] } := by
    have zero : isDigestLength zeroDigest = true := isDigestLength_of_hex zeroDigest_hex
    simp only [insertEffectRow, bind_eq_ok, ensure_eq_ok, exists_unit, pure_eq_ok, new, List.nil_append]
    exact ⟨⟨rfl, rfl, Nat.one_pos⟩, ⟨actionDigest, trace, decisionDigest, zero,
        isDigestLength_of_hex hd⟩, ⟨h.executable.stored.2, target, key⟩, .inl ⟨rfl, rfl, rfl⟩,
      ⟨fun r hr => absurd hr List.not_mem_nil, fun r hr => absurd hr List.not_mem_nil,
        fun r hr => absurd hr List.not_mem_nil, fun r hr => absurd hr List.not_mem_nil⟩,
      ⟨setsValue, decision⟩, fun _ h => absurd h (Option.some_ne_none _).symm, trivial⟩
  have found : [row].find? (fun r => r.id = draw.effectId) = some row := by
    rw [List.find?_singleton]
    exact if_pos (decide_eq_true rfl)
  rw [fault]
  refine bind_eq_ok.mpr ⟨row, cast, bind_eq_ok.mpr ⟨_, stored, bind_eq_ok.mpr
    ⟨draw.effectId, castUuid_self draw.effectId_uuid, ?_⟩⟩⟩
  simp only [found]
  exact bind_eq_ok.mpr ⟨_, h.executable.delivered, bind_eq_ok.mpr
    ⟨(), ensure_pos ⟨trivial, rfl, trivial⟩, rfl⟩⟩

/-- The execution appends the first effect and its receipt. -/
lemma executed (asked : command.decisionId = d.decisionId) (new : db.effects = [])
    (unreceipted : db.receiptsOf command.idempotencyKey d.decisionId = [])
    (unused : Unused db command draw) (clock : draw.started ≤ draw.finished)
    (times : ∀ text, castTimestamp text = .ok text)
    (fault : draw.fault = none) (plain : isPlainText draw.effectId = true) :
    ∃ row attempt receipt, row.decisionId = d.decisionId ∧ row.effectKey = effectKey ∧
      executeTransaction db command draw = .ok (.recorded receipt
        { db with effects := [row], attempts := db.attempts ++ [attempt],
                  receipts := db.receipts ++ [receipt] }) := by
  have cast : castUuid command.decisionId = .ok d.decisionId := by
    rw [asked, castUuid_self h.uuid]
  let failed := loadedEffect p r d effectKey valueJson command zeroDigest
  obtain ⟨digest, hd⟩ := effectDigestOf_ok (nextEffect failed draw.effectId none zeroDigest)
  have hex := canonicalSha256_hex hd
  let row := nextEffect failed draw.effectId none digest
  -- the effect is the first of its key
  have inserted : insertEffect db row draw.fault = .ok { db with effects := [row] } :=
    h.inserted new hex fault
  have members := observedMembers hex plain h.executable.plain
  obtain ⟨outcomeDigest, ho⟩ := members.digest
  -- the approval is still there behind the new effect
  have kept : ApprovedStore { db with effects := [row] } p r d effectKey valueJson :=
    ⟨h.rows, h.decisions, h.decision, h.uuid, h.executable⟩
  have actionType := h.executable.keys.1
  have ready := @recordable _ { db with effects := [row] } _ _ _ _ _ _ command draw kept
    ⟨unused.attempts, unused.receipts⟩ clock times zeroDigest_hex .observed _
    outcomeDigest (some draw.effectId) (some digest) none none (some 1) members.column
    (canonicalSha256_hex ho) (.inl ⟨rfl, rfl, ⟨digest, rfl, hex⟩, ⟨1, rfl, Nat.one_pos⟩, rfl, rfl⟩)
    (fun _ => ⟨row, List.mem_cons_self, rfl, rfl, rfl, rfl, rfl, rfl, rfl, rfl, rfl, rfl, rfl, rfl,
      rfl⟩)
  obtain ⟨attempt, receipt, records, recorded⟩ :=
    ready.recorded fun r hr => (unused.receipts r hr).2.2
  refine ⟨row, attempt, receipt, rfl, rfl, ?_⟩
  have current : db.currentEffect effectKey = none := by
    rw [Database.currentEffect, new]
    rfl
  have loads := h.loads command
  rw [current] at loads
  let last : Database := { db with effects := [row], attempts := db.attempts ++ [attempt],
                                   receipts := db.receipts ++ [receipt] }
  have observed : appendObserved { db with effects := [row] } failed draw row =
      .ok (receipt, last) := by
    rw [appendObserved]
    exact bind_eq_ok.mpr ⟨_, members.loads, bind_eq_ok.mpr ⟨outcomeDigest, ho, recorded⟩⟩
  have appended := appendEffect_recorded current hd inserted observed
  rw [executeTransaction]
  exact bind_eq_ok.mpr ⟨d.decisionId, cast, bind_eq_ok.mpr ⟨none, existingReceipt_none.mpr unreceipted,
    bind_eq_ok.mpr ⟨_, loads, appended⟩⟩⟩

/-! ### Runs -/

/-- A command for the approval passes its checks. -/
lemma command_checked {key : String} (hk : isUuid key = true) (executorId : String) :
    checkCommand executorId ⟨d.decisionId, executorId, key⟩ = .ok () := by
  simp only [checkCommand, bind_eq_ok, ensure_eq_ok, exists_unit]
  exact ⟨h.uuid, hk, trivial⟩

variable {calls : List Call} {key : String}

/-- A client executes the approved effect. -/
lemma reaches_observed (executorId : String) (effects : db.effects = []) (attempts : db.attempts = [])
    (receipts : db.receipts = []) (reached : clients.Reachable emptyStore ⟨db, calls⟩)
    (hk : isUuid key = true) (clock : draw.started ≤ draw.finished)
    (times : ∀ text, castTimestamp text = .ok text) (fault : draw.fault = none)
    (plain : isPlainText draw.effectId = true) : ∃ k row, clients.Reachable emptyStore k ∧
      row ∈ k.store.effects ∧ row.decisionId = d.decisionId ∧ row.effectKey = effectKey := by
  have unreceipted : db.receiptsOf key d.decisionId = [] := by
    rw [Database.receiptsOf, receipts, List.filter_nil]
  obtain ⟨row, attempt, receipt, decision, named, executed⟩ :=
    @executed _ _ _ _ _ _ _ ⟨d.decisionId, executorId, key⟩ draw h rfl effects unreceipted
      (.of_nil attempts receipts) clock times fault plain
  exact ⟨_, row, reached.call .execute (.executed (h.command_checked hk executorId) executed) trivial,
    List.mem_cons_self, decision, named⟩

/-- A client is about to record the refusal of the approved effect. -/
lemma reaches_refused (executorId : String) (receipts : db.receipts = [])
    (reached : clients.Reachable emptyStore ⟨db, calls⟩) (hk : isUuid key = true) {sqlstate : String}
    (fault : draw.fault = some sqlstate) (other : sqlstate ≠ "40001") :
    clients.Reachable emptyStore ⟨db, calls ++ [.recover (loadedEffect p r d effectKey valueJson
      ⟨d.decisionId, executorId, key⟩
      ((db.currentEffect effectKey).elim zeroDigest EffectRow.effectDigest))]⟩ := by
  have unreceipted : db.receiptsOf key d.decisionId = [] := by
    rw [Database.receiptsOf, receipts, List.filter_nil]
  have refused := @refused _ _ _ _ _ _ _ ⟨d.decisionId, executorId, key⟩ draw h rfl unreceipted _ fault
    other
  exact reached.call .execute (.refused (h.command_checked hk executorId) refused) trivial

/-- Two callers of one approval are refused, and each records its refusal. -/
lemma reaches_refusals (executorId : String) {key' sqlstate : String} (effects : db.effects = [])
    (attempts : db.attempts = []) (receipts : db.receipts = [])
    (reached : clients.Reachable emptyStore ⟨db, calls⟩) (hk : isUuid key = true)
    (hk' : isUuid key' = true) (keys : key ≠ key') {draw' : Draw}
    (clock : draw.started ≤ draw.finished) (clock' : draw'.started ≤ draw'.finished)
    (times : ∀ text, castTimestamp text = .ok text)
    (fault : draw.fault = some sqlstate) (fault' : draw'.fault = some sqlstate)
    (other : sqlstate ≠ "40001") (attemptIds : draw.attemptId ≠ draw'.attemptId)
    (receiptIds : draw.receiptId ≠ draw'.receiptId) :
    ∃ last, ∃ r r' : ExecutionReceipt, clients.Reachable emptyStore ⟨last, calls ++ [.done, .done]⟩ ∧
      last.receipts = [r, r'] ∧ r.decisionId = d.decisionId ∧ r'.decisionId = d.decisionId := by
  have waiting := @reaches_refused _ _ _ _ _ _ _ _ h _ _ executorId receipts
    (@reaches_refused _ _ _ _ _ _ _ _ h _ _ executorId receipts reached hk _ fault other) hk' _ fault'
    other
  have current : db.currentEffect effectKey = none := by
    rw [Database.currentEffect, effects]
    rfl
  rw [current, Option.elim_none, List.append_assoc, List.singleton_append] at waiting
  have uncommitted : ∀ e ∈ db.effects, e.decisionId ≠ d.decisionId := by simp [effects]
  obtain ⟨attempt, r₁, decision, -, rkey, attemptId, demo, akey, rattempt, rid, first⟩ :=
    @recovered _ _ _ _ _ _ _ _ ⟨d.decisionId, executorId, key⟩ draw h
      (.of_nil attempts receipts) clock times zeroDigest_hex uncommitted
  rw [attempts, receipts, List.nil_append, List.nil_append] at first
  let mid : Database := { db with attempts := [attempt], receipts := [r₁] }
  have kept : ApprovedStore mid p r d effectKey valueJson :=
    ⟨h.rows, h.decisions, h.decision, h.uuid, h.executable⟩
  -- the other caller's identifiers are new, and its key is not the one that is stored
  have unused : Unused mid ⟨d.decisionId, executorId, key'⟩ draw' := by
    constructor
    · intro a ha
      rw [List.mem_singleton.mp ha, attemptId, akey, demo]
      exact ⟨attemptIds, keys, (Option.some_ne_none _).symm⟩
    · intro a ha
      rw [List.mem_singleton.mp ha, rattempt, rkey, rid]
      exact ⟨attemptIds, keys, receiptIds⟩
  obtain ⟨attempt', r₂, decision', -, -, -, -, -, -, -, second⟩ :=
    @recovered _ _ _ _ _ _ _ _ ⟨d.decisionId, executorId, key'⟩ draw' kept unused clock' times
      zeroDigest_hex uncommitted
  have recorded := waiting.step (.run (.recovered first) trivial)
  have ordered (c : Call) : calls ++ .done :: [c] = calls ++ [.done] ++ [c] := by
    rw [List.append_assoc, List.singleton_append]
  have last := (ordered _ ▸ recorded).continue (.recovered second) trivial
  rw [List.append_assoc, List.singleton_append] at last
  exact ⟨_, r₁, r₂, last, rfl, decision, decision'⟩

end ApprovedStore

/-! ### The smallest proposal -/

variable {proposalId first key : String}

/-- The smallest proposal sets a demo value. -/
lemma minimalProposal_executable (proposalId : String) :
    (minimalProposal proposalId "reason").Executable "alpha" "true" := by
  have parsed : Json.parse "true" = some (.bool true) := Json.parse_print (.bool true)
  refine ⟨sealedProposal_record (minimalProposal_finite proposalId "reason"), sealedProposal_action, ?_,
    ⟨castJsonb_ok.mpr ⟨_, parsed, rfl, rfl⟩, ?_⟩, ?_⟩
  · have lowered : lower "demo_kv:alpha" = "demo_kv:alpha" := by
      rw [Platform.lower_ascii _ (by decide)]
      rfl
    have scalar : jsonScalar (minimalProposal proposalId "reason").parametersJson = .ok "true" := by
      have parsed : Json.parse "\x7b\"value\":true\x7d" = some (.obj [("value", .bool true)]) :=
        Json.parse_print (.obj [("value", .bool true)])
      rw [show (minimalProposal proposalId "reason").parametersJson = "\x7b\"value\":true\x7d" from rfl,
        jsonScalar, Hooks.scan_parse _ parsed]
      rfl
    have named : "demo_kv:".toList <+: "demo_kv:alpha".toList := by decide
    have key : isEffectKey "alpha" = true ∧ "demo_kv:alpha" = "demo_kv:" ++ "alpha" := by decide
    have size : "demo_kv:alpha".utf8ByteSize ≤ 256 := by decide
    have suffix : String.ofList ("demo_kv:alpha".toList.drop "demo_kv:".toList.length) = "alpha" := rfl
    have target : (minimalProposal proposalId "reason").target = "demo_kv:alpha" := rfl
    have targetKey : (minimalProposal proposalId "reason").targetKey = "demo_kv:alpha" := rfl
    simp only [validateEffect, scalar, target, targetKey, suffix, bind_eq_ok, ensure_eq_ok, exists_unit]
    exact ⟨⟨rfl, rfl⟩, ⟨named, lowered.symm⟩, key, size, _, rfl, rfl⟩
  · rw [jsonbTypeof, parsed]
    rfl
  · rw [databaseJson, Hooks.scan_parse _ parsed]
    rfl

/-- The smallest proposal is approved. -/
lemma minimal_approved (version : String) (draw : DecisionDraw) (hp : isUuid proposalId = true)
    (hf : isUuid first = true) (hk : isUuid key = true) (nfc : ∀ s, nfc s = s)
    (vector : ∀ text, castVector text = .ok text) :
    ∃ db d, ApprovedStore db (minimalProposal proposalId "reason") (firstResult proposalId first version)
        d "alpha" "true" ∧
      db.effects = [] ∧ db.attempts = [] ∧ db.receipts = [] ∧
      clients.Reachable emptyStore ⟨db, [.done, .done]⟩ := by
  obtain ⟨row, evaluation, d, rows, reached, is, decided⟩ :=
    minimal_decided version .approve draw hp hf hk nfc vector
  have asks := @FirstRows.asks _ _ _ _ _ _ _ .approve false rows (fun h => nomatch h) hk
  refine ⟨_, d, ⟨⟨_, row, evaluation, rows, rfl, rfl⟩, rfl, ⟨_, asks, rfl, is.id ▸ is⟩, ?_,
    minimalProposal_executable proposalId⟩, rfl, rfl, rfl, reached.continue (.decided decided) trivial⟩
  rw [is.id]
  exact draw.decisionId_uuid

end

end GAM
