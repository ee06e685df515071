import GAM.System.Executions

/-!
# Terminal receipts

The receipts of a decision are looked up by key or decision when it is executed, and only by key when a
refusal is recorded. What keeps them single is the driver: an attempt is written with its times as texts,
and where `TIMESTAMPTZ` takes none no attempt and so no receipt is ever stored (`receipts_single`). Behind
a codec that takes texts two callers that were both refused leave a decision two receipts
(`receipts_double`).
-/

namespace GAM
open Lib

section
variable [Engine] {db db' : Database}

/-- The driver takes the time of a `TIMESTAMPTZ` argument as a `datetime` and refuses a text. -/
def TakesDatetimes : Prop := ∀ text, Engine.timestamp text = none

/-- A connection that takes datetimes stores no text as a time. -/
lemma TakesDatetimes.refuses (h : TakesDatetimes) {text time : String} :
    castTimestamp text ≠ .ok time := by
  rw [castTimestamp, h text]
  exact nofun

/-- No two receipts are of one decision. -/
def SingleReceipts (db : Database) : Prop := (db.receipts.map ExecutionReceipt.decisionId).Nodup

/-- No transaction stores a receipt: it would have to store an attempt before. -/
lemma TakesDatetimes.step (h : TakesDatetimes) {c c' : Call} (run : Runs db c db' c')
    (none : db.receipts = []) : db'.receipts = [] := by
  obtain ⟨-, receipts⟩ | ⟨_, _, _, _, _, _, _, -, write, -⟩ | ⟨_, _, _, -, write, -⟩ :=
    runs_executions run
  · rw [receipts, none]
  · obtain ⟨text, time, taken⟩ := write.taken
    exact absurd taken h.refuses
  · obtain ⟨text, time, taken⟩ := write.taken
    exact absurd taken h.refuses

end

/-- A store in which two executions of the smallest proposal were refused. -/
lemma codec_refused :
    let _ := codecEngine
    ∃ k, ∃ r r' : ExecutionReceipt, clients.Reachable emptyStore k ∧ k.store.receipts = [r, r'] ∧
      isUuid r.decisionId = true ∧ r'.decisionId = r.decisionId := by
  intro _
  have proposalId : isUuid "00000000-0000-0000-0000-000000000001" = true := by decide
  have first : isUuid "00000000-0000-0000-0000-000000000002" = true := by decide
  have key : isUuid "00000000-0000-0000-0000-000000000003" = true := by decide
  have key' : isUuid "00000000-0000-0000-0000-000000000006" = true := by decide
  let draw : DecisionDraw := ⟨"00000000-0000-0000-0000-000000000004",
    "00000000-0000-0000-0000-000000000005", by decide, by decide⟩
  let execution : Draw := ⟨"00000000-0000-0000-0000-000000000007",
    "00000000-0000-0000-0000-000000000008", "00000000-0000-0000-0000-000000000009",
    "2026-01-01T00:00:00Z", "2026-01-01T00:00:01Z", some "23514", by decide, by decide, by decide⟩
  let execution' : Draw := ⟨"00000000-0000-0000-0000-00000000000a",
    "00000000-0000-0000-0000-00000000000b", "00000000-0000-0000-0000-00000000000c",
    "2026-01-01T00:00:00Z", "2026-01-01T00:00:01Z", some "23514", by decide, by decide, by decide⟩
  obtain ⟨db, d, approved, effects, attempts, receipts, reached⟩ :=
    minimal_approved "gam-gate/1.0" draw proposalId first key (fun _ => rfl) fun _ => rfl
  have clock : execution.started ≤ execution.finished := by decide
  have clock' : execution'.started ≤ execution'.finished := by decide
  obtain ⟨last, r, r', reached, two, decision, decision'⟩ := approved.reaches_refusals "executor" effects
    attempts receipts reached key key' (by decide) clock clock' (fun _ => rfl) rfl rfl (by decide)
    (by decide) (by decide)
  exact ⟨⟨last, _⟩, r, r', reached, two, decision ▸ approved.uuid, decision'.trans decision.symm⟩

/-- Behind a codec that takes texts, two refused executions of one decision leave it two receipts, and
the first caller is not answered any more. -/
theorem receipts_double :
    let _ := codecEngine
    ∃ (k : Config Database Call) (command : DemoExecutionCommand),
      clients.Reachable emptyStore k ∧ ¬SingleReceipts k.store ∧
      (∀ r ∈ k.store.receipts, r.idempotencyKey = command.idempotencyKey →
        r.decisionId = command.decisionId) ∧
      ∀ draw, executeTransaction k.store command draw =
        .error (.executionBlocked "execution receipt identity is ambiguous") := by
  intro _
  obtain ⟨k, r, r', reached, two, uuid, same⟩ := codec_refused
  have found : existingReceipt k.store r.idempotencyKey r.decisionId =
      .error (.executionBlocked "execution receipt identity is ambiguous") := by
    have both : k.store.receiptsOf r.idempotencyKey r.decisionId = [r, r'] := by
      rw [Database.receiptsOf, two]
      refine List.filter_eq_self.mpr fun q hq => ?_
      rcases List.mem_pair.mp hq with rfl | rfl
      · exact decide_eq_true (.inr rfl)
      · exact decide_eq_true (.inr same)
    rw [existingReceipt, both]
    rfl
  refine ⟨k, ⟨r.decisionId, "executor", r.idempotencyKey⟩, reached, ?_, ?_, fun draw => ?_⟩
  · rw [SingleReceipts, two, List.map_cons, List.map_singleton, same, List.nodup_cons]
    exact fun h => h.1 List.mem_cons_self
  · intro q hq _
    rw [two] at hq
    rcases List.mem_pair.mp hq with rfl | rfl
    · rfl
    · exact same
  · have cast : castUuid r.decisionId = .ok r.decisionId := castUuid_self uuid
    simp only [executeTransaction, cast, ok_bind, found]
    rfl

end GAM
