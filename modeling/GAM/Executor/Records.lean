import GAM.Executor.Execute
import GAM.Memory.Rendering

/-!
# Recording an attempt

When an attempt and its receipt can be recorded: the text of its outcome is a JSON object that is read
back and has a digest, and the store has what authorizes it and nothing of its own.
-/

namespace GAM
open Lib

/-! ### Texts of outcomes -/

/-- The characters that `json.dumps` writes as they are, but for the escapes. -/
def isPlainText (s : String) : Bool := s.toList.all fun c => c.toNat < 127

lemma asciiString_plain {s : String} (h : isPlainText s = true) : asciiString s = stringChars s := by
  have chars : s.toList.flatMap asciiChars = s.toList.flatMap escapeChar := by
    apply List.flatMap_congr
    intro c hc
    have small : c.toNat < 127 := of_decide_eq_true (List.all_eq_true.mp h c hc)
    rw [asciiChars, if_pos small]
  rw [asciiString, stringChars, chars]

/-- The value that is written for a text or a number. -/
def memberTree : String ⊕ Nat → Json
  | .inl s => .str s
  | .inr n => .num ⟨false, n, [], none⟩

/-- The value that is read for a text or a number. -/
def memberValue : String ⊕ Nat → Value
  | .inl s => .str s
  | .inr n => .int n

/-- The members of an outcome: plain texts and small numbers under names in order. -/
structure OutcomeMembers (l : List (String × (String ⊕ Nat))) : Prop where
  names : (l.map Prod.fst).Nodup ∧ ∀ m ∈ l, isPlainText m.1 = true
  sorted : l.Pairwise fun a b => a.1 ≤ b.1
  texts : ∀ m ∈ l, ∀ s, m.2 = .inl s → isPlainText s = true
  numbers : ∀ m ∈ l, ∀ n, m.2 = .inr n → loadNumber ⟨false, n, [], none⟩ = .ok (.int n)

section
variable {l : List (String × (String ⊕ Nat))}

/-- Texts and numbers under sorted names are written as a JSON object. -/
lemma OutcomeMembers.print (h : OutcomeMembers l) :
    asciiObject l = String.ofList (Json.obj (l.map fun m => (m.1, memberTree m.2))).print := by
  have members : l.map (fun m => asciiString m.1 ++ ':' :: m.2.elim asciiString natChars) =
      (l.map fun m => (m.1, memberTree m.2)).map fun m => stringChars m.1 ++ ':' :: m.2.print := by
    rw [List.map_map]
    apply List.map_congr_left
    intro m hm
    rw [asciiString_plain (h.names.2 m hm)]
    obtain ⟨name, value⟩ := m
    cases value with
    | inl s =>
      rw [Sum.elim_inl, asciiString_plain (h.texts _ hm s rfl)]
      rfl
    | inr n =>
      have printed : natChars n = Json.print (.num ⟨false, n, [], none⟩) := by
        rw [Json.print, Number.print, fracChars, expChars, List.append_nil, List.append_nil]
        rfl
      rw [Sum.elim_inr, printed]
      rfl
  rw [asciiObject, sortedBy_eq_self h.sorted, members, Json.print_eq, ← commaSeparated_obj]
  simp only [Json.print_eq]

lemma OutcomeMembers.sortKeys (h : OutcomeMembers l) : (Json.obj (l.map fun m => (m.1, memberTree m.2))).sortKeys =
    .obj (l.map fun m => (m.1, memberTree m.2)) := by
  have leaves : sortMembers (l.map fun m => (m.1, memberTree m.2)) =
      l.map fun m => (m.1, memberTree m.2) := by
    rw [sortMembers_eq, List.map_map]
    apply List.map_congr_left
    rintro ⟨name, value⟩ -
    cases value <;> rfl
  rw [Json.sortKeys, leaves, sortedBy_eq_self]
  exact List.pairwise_map.mpr h.sorted

/-- The text of an outcome is a JSON object and delivered as it was written. -/
lemma OutcomeMembers.column (h : OutcomeMembers l) :
    castJsonb (asciiObject l) = .ok (asciiObject l) ∧ jsonbTypeof (asciiObject l) = "object" := by
  have parsed : Json.parse (asciiObject l) = some (.obj (l.map fun m => (m.1, memberTree m.2))) := by
    rw [h.print, Json.parse_print]
  constructor
  · refine castJsonb_ok.mpr ⟨_, parsed, ?_, ?_⟩
    · rw [isStandard, standardMembers_iff]
      intro m hm
      obtain ⟨⟨name, value⟩, -, rfl⟩ := List.mem_map.mp hm
      cases value <;> rfl
    · rw [h.print, Json.dumps, h.sortKeys]
  · rw [jsonbTypeof, parsed]

/-- The text of an outcome is read back. -/
lemma OutcomeMembers.loads (h : OutcomeMembers l) :
    jsonLoads (asciiObject l) = .ok (.dict (l.map fun m => (m.1, memberValue m.2))) := by
  have members (l : List (String × (String ⊕ Nat)))
      (numbers : ∀ m ∈ l, ∀ n, m.2 = .inr n → loadNumber ⟨false, n, [], none⟩ = .ok (.int n)) :
      loadMembers (l.map fun m => (m.1, memberTree m.2)) =
        .ok (l.map fun m => (m.1, memberValue m.2)) := by
    induction l with
    | nil => rfl
    | cons m l ih =>
      obtain ⟨name, value⟩ := m
      have first : loadValue (memberTree value) = .ok (memberValue value) := by
        cases value with
        | inl s => rfl
        | inr n =>
          rw [memberTree, loadValue]
          exact numbers _ List.mem_cons_self n rfl
      rw [List.map_cons, loadMembers, first, ok_bind,
        ih fun m hm => numbers m (List.mem_cons_of_mem _ hm)]
      rfl
  rw [h.print, jsonLoads_parse (Json.parse_print _)]
  simp only [loadValue, members l h.numbers, ok_bind]
  rw [lastWins_of_nodup]
  · rfl
  · rw [List.map_map]
    exact h.names.1

/-- An outcome has a digest. -/
lemma OutcomeMembers.digest [Platform] (h : OutcomeMembers l) :
    ∃ digest, canonicalSha256 (.dict (l.map fun m => (m.1, memberValue m.2))) = .ok digest := by
  refine Encodes.digest ?_
  rw [encodes_dict]
  · intro f hf
    obtain ⟨⟨name, value⟩, -, rfl⟩ := List.mem_map.mp hf
    cases value <;> simp [memberValue]
  · rw [List.map_map]
    exact h.names.1
  · intro f hf c hc
    obtain ⟨m, hm, rfl⟩ := List.mem_map.mp hf
    have small : c.toNat < 127 := of_decide_eq_true (List.all_eq_true.mp (h.names.2 m hm) c hc)
    omega

end

/-! ### Attempts and receipts -/

section
variable [Engine] {db : Database}

lemma effectDigestOf_ok (e : EffectRow) : ∃ digest, effectDigestOf e = .ok digest := by
  refine Encodes.digest ?_
  rw [encodes_dict (by simp) (by simp; decide)]
  simp

lemma attemptDigest_ok (a : ExecutionAttempt) : ∃ digest, attemptDigest a = .ok digest := by
  refine Encodes.digest ?_
  rw [encodes_dict (by simp) (by simp; decide)]
  simp

lemma receiptDigest_ok (r : ExecutionReceipt) : ∃ digest, receiptDigest r = .ok digest := by
  refine Encodes.digest ?_
  rw [encodes_dict (by simp) (by simp; decide)]
  simp

/-- What the store needs to record an attempt. -/
structure AttemptReady (db : Database) (a : ExecutionAttempt) : Prop where
  value : a.decisionValue = .approve ∧ a.actionTypeKey = "set_demo_value"
  clock : a.startedAt ≤ a.finishedAt
  times : castTimestamp a.startedAt = .ok a.startedAt ∧ castTimestamp a.finishedAt = .ok a.finishedAt
  uuids : isUuid a.attemptId = true ∧ isUuid a.proposalId = true ∧ isUuid a.evaluationId = true ∧
    isUuid a.decisionId = true ∧ ∀ id ∈ a.demoEffectId, isUuid id = true
  status : (a.terminalStatus = .observed ∧ a.demoEffectId ≠ none ∧ a.afterEffectDigest ≠ none ∧
      (∃ version ∈ a.observedEffectVersion, 0 < version) ∧ a.errorCode = none ∧
      a.safeMessage = none) ∨
    (a.terminalStatus = .error ∧ a.demoEffectId = none ∧ a.afterEffectDigest = none ∧
      a.observedEffectVersion = none ∧ a.errorCode ≠ none ∧ a.safeMessage ≠ none)
  requested : castJsonb a.requestedValueJson = .ok a.requestedValueJson ∧
    isScalarType (jsonbTypeof a.requestedValueJson) = true
  outcome : castJsonb a.outcomeJson = .ok a.outcomeJson ∧ jsonbTypeof a.outcomeJson = "object"
  target : a.targetKey = "demo_kv:" ++ a.effectKey ∧ isEffectKey a.effectKey = true
  digests : isDigestLength a.evaluationTraceDigest = true ∧ isDigestLength a.decisionDigest = true ∧
    isDigestLength a.actionDigest = true ∧ isDigestLength a.beforeEffectDigest = true ∧
    (∀ d ∈ a.afterEffectDigest, isDigestLength d = true) ∧ isDigestLength a.outcomeDigest = true
  decision : References DecisionRecord.binding db.decisions (a.decisionId, a.decisionValue,
    a.proposalId, a.evaluationId, a.evaluationTraceDigest, a.decisionDigest)
  action : References ProposalRow.action db.proposals
    (a.proposalId, a.actionTypeKey, a.targetKey, a.actionDigest)
  observes : a.demoEffectId ≠ none ∧ a.observedEffectVersion ≠ none ∧ a.afterEffectDigest ≠ none →
    ∃ r ∈ db.effects, a.Observes r
  attempts : ∀ r ∈ db.attempts, r.attemptId ≠ a.attemptId ∧ r.idempotencyKey ≠ a.idempotencyKey ∧
    ∀ effect ∈ a.demoEffectId, r.demoEffectId ≠ some effect
  receipts : ∀ r ∈ db.receipts, r.attemptId ≠ a.attemptId ∧ r.idempotencyKey ≠ a.idempotencyKey

/-- The rows of a recorded attempt. -/
structure AttemptRecorded (draw : Draw) (a attempt : ExecutionAttempt) (receipt : ExecutionReceipt) : Prop where
  attempt : attempt = { a with attemptDigest := attempt.attemptDigest }
  receiptId : receipt.receiptId = draw.receiptId
  attemptId : receipt.attemptId = a.attemptId
  decisionId : receipt.decisionId = a.decisionId
  status : receipt.attemptTerminalStatus = a.terminalStatus
  executorId : receipt.executorId = a.executorId
  key : receipt.idempotencyKey = a.idempotencyKey
  verified : receipt.verified = true
  digest : receiptDigest receipt = .ok receipt.receiptDigest

/-- An attempt is recorded with its receipt. -/
lemma AttemptReady.recorded {draw : Draw} {a : ExecutionAttempt} (h : AttemptReady db a)
    (new : ∀ r ∈ db.receipts, r.receiptId ≠ draw.receiptId) :
    ∃ attempt receipt, AttemptRecorded draw a attempt receipt ∧ recordAttempt db draw a =
      .ok (receipt, { db with attempts := db.attempts ++ [attempt],
                              receipts := db.receipts ++ [receipt] }) := by
  obtain ⟨digest, hd⟩ := attemptDigest_ok a
  let attempt := { a with attemptDigest := digest }
  -- the columns take the attempt as it is, and the table's checks pass
  have cast : castAttempt attempt = .ok attempt := by
    obtain ⟨attemptId, proposal, evaluation, decision, demo⟩ := h.uuids
    simp only [castAttempt, attempt, castUuid_self attemptId, castUuid_self proposal,
      castUuid_self evaluation, castUuid_self decision, castOptUuid_self demo, h.times.1, h.times.2,
      h.requested.1, h.outcome.1, ok_bind, pure_eq_ok]
    rw [← h.value.2]
  have inserted : insertAttempt db attempt = .ok { db with attempts := db.attempts ++ [attempt] } := by
    obtain ⟨trace, decision, action, before, after, outcome⟩ := h.digests
    simp only [insertAttempt, bind_eq_ok, ensure_eq_ok, exists_unit, pure_eq_ok]
    exact ⟨h.value, ⟨h.clock, h.status⟩, ⟨h.requested.2, h.target.1, h.target.2, h.outcome.2⟩,
      ⟨trace, decision, action, before, after, outcome,
        isDigestLength_of_hex (canonicalSha256_hex hd)⟩,
      ⟨fun r hr => (h.attempts r hr).1, fun r hr => (h.attempts r hr).2.1,
        fun r hr => (h.attempts r hr).2.2⟩, ⟨h.decision, h.action⟩, h.observes, trivial⟩
  -- the receipt repeats the attempt that was just stored
  let provisional : ExecutionReceipt :=
    { receiptId := draw.receiptId, attemptId := a.attemptId, attemptDigest := digest,
      proposalId := a.proposalId, evaluationId := a.evaluationId,
      evaluationTraceDigest := a.evaluationTraceDigest, decisionId := a.decisionId,
      decisionValue := .approve, decisionDigest := a.decisionDigest,
      actionDigest := a.actionDigest, targetKey := a.targetKey,
      attemptTerminalStatus := a.terminalStatus, outcomeDigest := a.outcomeDigest,
      beforeEffectDigest := a.beforeEffectDigest, afterEffectDigest := a.afterEffectDigest,
      observedEffectVersion := a.observedEffectVersion, executorId := a.executorId,
      idempotencyKey := a.idempotencyKey, verified := true, receiptDigest := zeroDigest }
  obtain ⟨digest', hd'⟩ := receiptDigest_ok provisional
  let receipt := { provisional with receiptDigest := digest' }
  have castReceipt : castReceipt receipt = .ok receipt := by
    obtain ⟨attemptId, proposal, evaluation, decision, -⟩ := h.uuids
    simp only [GAM.castReceipt, receipt, provisional, castUuid_self draw.receiptId_uuid,
      castUuid_self attemptId, castUuid_self proposal, castUuid_self evaluation,
      castUuid_self decision, ok_bind, pure_eq_ok]
  have stored : insertReceipt { db with attempts := db.attempts ++ [attempt] } receipt =
      .ok { db with attempts := db.attempts ++ [attempt], receipts := db.receipts ++ [receipt] } := by
    obtain ⟨trace, decision, action, before, after, outcome⟩ := h.digests
    have listed : attempt ∈ db.attempts ++ [attempt] := List.mem_append_right _ List.mem_cons_self
    simp only [insertReceipt, bind_eq_ok, ensure_eq_ok, exists_unit, pure_eq_ok]
    refine ⟨⟨rfl, rfl⟩, ?_, ⟨isDigestLength_of_hex (canonicalSha256_hex hd), trace, decision, action,
        outcome, before, after, isDigestLength_of_hex (canonicalSha256_hex hd')⟩,
      ⟨new, fun r hr => (h.receipts r hr).2, fun r hr => (h.receipts r hr).1⟩,
      ⟨⟨attempt, listed, rfl, rfl, rfl, rfl⟩,
        ⟨attempt, listed, rfl, rfl, rfl, rfl, rfl, rfl, rfl, rfl, rfl, rfl⟩, ?_⟩,
      fun _ => ⟨attempt, listed, rfl, rfl, rfl, rfl⟩, trivial⟩
    · rcases h.status with ⟨status, -, after, version, -⟩ | ⟨status, -, after, version, -⟩
      · exact .inl ⟨status, after, version⟩
      · exact .inr ⟨status, after, version⟩
    · have binding := h.decision
      rw [h.value.1] at binding
      exact binding
  refine ⟨attempt, receipt, ⟨rfl, rfl, rfl, rfl, rfl, rfl, rfl, rfl, hd'⟩, ?_⟩
  simp only [recordAttempt, bind_eq_ok]
  exact ⟨digest, hd, attempt, cast, _, inserted, digest', hd', receipt, castReceipt, _, stored, rfl⟩

/-- An effect that was inserted and recorded ends the execution. -/
lemma appendEffect_recorded {failed : FailedEffect} {draw : Draw} {prior : Option EffectRow}
    {digest : String} {mid last : Database} {receipt : ExecutionReceipt}
    (current : db.currentEffect failed.effectKey = prior)
    (hd : effectDigestOf (nextEffect failed draw.effectId prior zeroDigest) = .ok digest)
    (inserted : insertEffect db (nextEffect failed draw.effectId prior digest) draw.fault = .ok mid)
    (observed : appendObserved mid failed draw (nextEffect failed draw.effectId prior digest) =
      .ok (receipt, last)) : appendEffect db failed draw = .ok (.recorded receipt last) := by
  rw [appendEffect, current, hd, ok_bind]
  have same : { nextEffect failed draw.effectId prior zeroDigest with effectDigest := digest } =
      nextEffect failed draw.effectId prior digest := rfl
  simp only [same, inserted, observed, ok_bind, pure_eq_ok]

end

end GAM
