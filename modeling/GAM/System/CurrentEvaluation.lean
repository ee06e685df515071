import GAM.System.Decided

/-!
# Decisions and the current evaluation

A decision is checked against the latest finalized evaluation in one transaction and inserted in a
later one. It is about the latest finalized evaluation when it is inserted exactly when no other one of
its proposal was committed in between (`decisions_current`).
-/

namespace GAM
open Lib

section
variable [Engine] {db db' earlier : Database} {a : DecisionRequest} {p : Proposal}

/-- A decision is about the latest finalized evaluation of its proposal. -/
def IsCurrent (db : Database) (d : DecisionRecord) : Prop :=
  ∃ g ∈ db.latestFinalized d.proposalId, g.id = d.evaluationId ∧
    g.traceDigest = d.evaluationTraceDigest

/-- The evaluations that were committed since an earlier store. -/
def Database.evaluationsSince (db earlier : Database) : List EvaluationRow :=
  db.evaluations.drop earlier.evaluations.length

/-- No finalized evaluation of the proposal was committed since an earlier store. -/
def NoneOvertook (earlier db : Database) (proposalId : String) : Prop :=
  ∀ g ∈ db.evaluationsSince earlier, g.proposalId = proposalId → g.status ≠ .finalized

omit [Engine] in
/-- The evaluations are those of an earlier state and the later ones. -/
lemma evaluations_since (grown : earlier.Grows db) :
    db.evaluations = earlier.evaluations ++ db.evaluationsSince earlier := by
  obtain ⟨later, same⟩ := grown.evaluations
  rw [Database.evaluationsSince, ← same, List.drop_left]

omit [Engine] in
/-- The latest finalized evaluation is the last new one, or else the one before. -/
lemma latestFinalized_since (grown : earlier.Grows db) (proposalId : String) :
    db.latestFinalized proposalId =
      (((db.evaluationsSince earlier).filter fun g => g.proposalId = proposalId).filter
        fun g => g.status = .finalized).getLast?.or (earlier.latestFinalized proposalId) := by
  rw [Database.latestFinalized, Database.history, evaluations_since grown, List.filter_append,
    List.filter_append, List.getLast?_append]
  rfl

omit [Engine] in
/-- A finalized evaluation is still the latest one exactly when none overtook it. -/
lemma latestFinalized_kept (g : Genealogy db) (grown : earlier.Grows db) {proposalId : String}
    {row : EvaluationRow} (latest : earlier.latestFinalized proposalId = some row) :
    (∃ last ∈ db.latestFinalized proposalId, last.id = row.id ∧ last.traceDigest = row.traceDigest) ↔
      NoneOvertook earlier db proposalId := by
  have since := latestFinalized_since grown proposalId
  constructor
  · rintro ⟨last, hlast, id, -⟩ new hnew about final
    have stored := (latestFinalized_mem latest).1
    have listed : new ∈ ((db.evaluationsSince earlier).filter fun g => g.proposalId = proposalId).filter
        fun g => g.status = .finalized :=
      List.mem_filter.mpr ⟨List.mem_filter.mpr ⟨hnew, decide_eq_true about⟩, decide_eq_true final⟩
    -- the last of the new ones is the latest, so its identifier is stored twice
    have some := List.getLast?_eq_some_getLast (List.ne_nil_of_mem listed)
    rw [some, Option.some_or] at since
    have newest := Option.mem_unique hlast since
    have late : last ∈ db.evaluationsSince earlier := by
      rw [newest]
      exact List.mem_of_mem_filter (List.mem_of_mem_filter (List.getLast_mem _))
    have ids := g.ids
    rw [evaluations_since grown, List.map_append, List.nodup_append] at ids
    exact ids.2.2 _ (List.mem_map_of_mem stored) _ (List.mem_map_of_mem late) id.symm
  · intro none
    have empty : ((db.evaluationsSince earlier).filter fun g => g.proposalId = proposalId).filter
        (fun g => g.status = .finalized) = [] := by
      rw [List.filter_eq_nil_iff]
      intro g hg
      obtain ⟨mem, about⟩ := List.mem_filter.mp hg
      simpa using none g mem (of_decide_eq_true about)
    rw [empty, List.getLast?_nil, Option.none_or] at since
    exact ⟨row, since.trans latest, rfl, rfl⟩

/-! ### The check of a call in flight -/

/-- A call that is about to insert its decision has found its evaluation to be the latest one. -/
lemma reachable_checked {k : Config Database Call} (h : clients.Reachable emptyStore k) :
    ∀ c ∈ k.calls, ∀ a p, c = .decideInsert a p → ∃ k₀, clients.Reachable emptyStore k₀ ∧
      checkLatest k₀.store a = .ok () ∧ clients.Leads Protocol.anyRun k₀ k := by
  induction h with
  | refl => exact fun c hc => absurd hc List.not_mem_nil
  | @tail k k' reached step ih =>
    have later {a : DecisionRequest} (found : ∃ k₀, clients.Reachable emptyStore k₀ ∧
        checkLatest k₀.store a = .ok () ∧ clients.Leads Protocol.anyRun k₀ k) :
        ∃ k₀, clients.Reachable emptyStore k₀ ∧ checkLatest k₀.store a = .ok () ∧
          clients.Leads Protocol.anyRun k₀ k' := by
      obtain ⟨k₀, reached₀, checked, leads⟩ := found
      exact ⟨k₀, reached₀, checked, leads.tail step⟩
    intro c hc a p call
    have step' := step
    cases step with
    | start starts =>
      rcases List.mem_append.mp hc with hc | hc
      · exact later (ih c hc a p call)
      · rw [List.mem_singleton.mp hc] at call
        rw [call] at starts
        cases starts
    | @run db db' l r c₀ c' run _ =>
      have others : c ∈ l ++ r → ∃ k₀, clients.Reachable emptyStore k₀ ∧
          checkLatest k₀.store a = .ok () ∧ clients.Leads Protocol.anyRun k₀ ⟨db', l ++ c' :: r⟩ := by
        intro hc
        refine later (ih c ?_ a p call)
        rcases List.mem_append.mp hc with hc | hc
        · exact List.mem_append_left _ hc
        · exact List.mem_append_right _ (List.mem_cons_of_mem _ hc)
      rcases List.mem_append.mp hc with hc | hc
      · exact others (List.mem_append_left _ hc)
      cases hc with
      | tail _ hc => exact others (List.mem_append_right _ hc)
      | head =>
        subst call
        cases run with
        | aborted => exact later (ih _ (List.mem_append_right _ List.mem_cons_self) a p rfl)
        | latest checked => exact ⟨_, reached, checked, .single step'⟩

/-- Whether an inserted decision is about the latest finalized evaluation: its call has found it to be
the latest one in an earlier store, and it still is exactly when no finalized evaluation of the
proposal was committed since. -/
theorem decisions_current {l r : List Call} {draw : DecisionDraw}
    {answer : DecisionRecord × Option ExclusionRef}
    (h : clients.Reachable emptyStore ⟨db, l ++ .decideInsert a p :: r⟩)
    (decided : decideTransaction db a p draw = .ok (answer, db'))
    (inserted : db'.decisions ≠ db.decisions) :
    (∃ k, clients.Reachable emptyStore k ∧ checkLatest k.store a = .ok () ∧
      clients.Leads Protocol.anyRun k ⟨db, l ++ .decideInsert a p :: r⟩) ∧
    ∃ d, db'.decisions = db.decisions ++ [d] ∧ ∀ k : Config Database Call,
      checkLatest k.store a = .ok () →
      clients.Leads Protocol.anyRun k ⟨db, l ++ .decideInsert a p :: r⟩ →
        (IsCurrent db' d ↔ NoneOvertook k.store db a.proposalId) := by
  have mem : Call.decideInsert a p ∈ l ++ .decideInsert a p :: r :=
    List.mem_append_right _ List.mem_cons_self
  refine ⟨reachable_checked h _ mem a p rfl, ?_⟩
  obtain ⟨rfl, -⟩ | ⟨d, exclusions, write, rfl⟩ := decideTransaction_cases decided
  · exact absurd rfl inserted
  refine ⟨d, rfl, ?_⟩
  intro k checked leads
  have known : CheckedDecision db a p := reachable_knows h _ mem
  obtain ⟨same, -⟩ := write.rows (checkRequest_ok known.request)
  obtain ⟨row, latest, id, trace⟩ := ensure_eq_ok.mp checked
  have kept := latestFinalized_kept (reachable_genealogy h) (leads_grows leads) latest
  rw [id, trace] at kept
  rw [← kept, IsCurrent, same, write.record.proposal, write.record.evaluation, write.record.trace]
  rfl

end

/-- The decision on the only evaluation is about the latest one. -/
theorem decisions_current_only :
    let _ := asciiEngine
    ∃ (l r : List Call) (db db' : Database) (a : DecisionRequest) (p : Proposal)
      (draw : DecisionDraw) (answer : DecisionRecord × Option ExclusionRef) (d : DecisionRecord),
      clients.Reachable emptyStore ⟨db, l ++ .decideInsert a p :: r⟩ ∧
      decideTransaction db a p draw = .ok (answer, db') ∧ db'.decisions = db.decisions ++ [d] ∧
      IsCurrent db' d := by
  intro _
  have proposalId : isUuid "00000000-0000-0000-0000-000000000001" = true := by decide
  have first : isUuid "00000000-0000-0000-0000-000000000002" = true := by decide
  have key : isUuid "00000000-0000-0000-0000-000000000003" = true := by decide
  let draw : DecisionDraw := ⟨"00000000-0000-0000-0000-000000000004",
    "00000000-0000-0000-0000-000000000005", by decide, by decide⟩
  obtain ⟨row, evaluation, d, rows, reached, -, decided⟩ := minimal_decided "gam-gate/1.0" .approve
    draw proposalId first key (fun _ => rfl) fun _ => rfl
  obtain ⟨-, d', new, current⟩ := @decisions_current _ _ _ _ _ [.done] [] _ _ reached decided
    (List.cons_ne_nil _ _)
  have one : d = d' := (List.cons.inj new).1
  subst one
  let before : Database := { proposals := [row], evaluations := [evaluation] }
  have asks := @FirstRows.asks _ _ _ _ _ _ _ .approve false rows (fun h => nomatch h) key
  have checked : checkLatest before _ = .ok () := rows.isLatest asks rfl
  refine ⟨[.done], [], before, _, _, _, draw, _, d, reached, decided, rfl,
    (current ⟨before, _⟩ checked .refl).mpr ?_⟩
  simp [NoneOvertook, Database.evaluationsSince, before]

/-- A decision is inserted on an evaluation that another client has superseded after the check. -/
theorem decisions_overtaken :
    let _ := asciiEngine
    ∃ (l r : List Call) (db db' : Database) (a : DecisionRequest) (p : Proposal)
      (draw : DecisionDraw) (answer : DecisionRecord × Option ExclusionRef) (d : DecisionRecord),
      clients.Reachable emptyStore ⟨db, l ++ .decideInsert a p :: r⟩ ∧
      decideTransaction db a p draw = .ok (answer, db') ∧ db'.decisions = db.decisions ++ [d] ∧
      ¬IsCurrent db' d := by
  intro _
  have proposalId : isUuid "00000000-0000-0000-0000-000000000001" = true := by decide
  have first : isUuid "00000000-0000-0000-0000-000000000002" = true := by decide
  have key : isUuid "00000000-0000-0000-0000-000000000003" = true := by decide
  have second : isUuid "00000000-0000-0000-0000-000000000006" = true := by decide
  let draw : DecisionDraw := ⟨"00000000-0000-0000-0000-000000000004",
    "00000000-0000-0000-0000-000000000005", by decide, by decide⟩
  obtain ⟨row, evaluation, d, rows, reached, -⟩ := minimal_decided "gam-gate/1.0" .approve
    draw proposalId first key (fun _ => rfl) fun _ => rfl
  let db : Database := { proposals := [row], evaluations := [evaluation] }
  obtain ⟨s, r, later, reevaluated, id, about, status⟩ := @minimal_reevaluated _ _ db _ _ _ _ _
    "gam-gate/1.1" rows rfl rfl second (by decide) (by decide)
  let last : Database := { db with evaluations := [evaluation, later] }
  -- another client re-evaluates while the decision waits to be inserted
  have overtaken := reached.call .reevaluate reevaluated trivial
  have asks := @FirstRows.asks _ _ _ _ _ _ _ .approve false rows (fun h => nomatch h) key
  have ready : ReadyToDecide last _ := rows.ready asks rfl List.mem_cons_self
  obtain ⟨d', is, decided⟩ := @decideTransaction_succeeds _ last _ _ draw asks.request rfl rfl ready
  refine ⟨[.done], [.done], last, _, _, _, draw, _, d', overtaken, decided, rfl, ?_⟩
  rintro ⟨g, latest, id', -⟩
  rw [is.proposal] at latest
  have newest : Database.latestFinalized { last with decisions := [d'] }
      "00000000-0000-0000-0000-000000000001" = some later :=
    @latestFinalized_last { last with decisions := [d'] } _ [evaluation] _ rfl about status
  have same : later = g := Option.some.inj (newest.symm.trans latest)
  rw [is.evaluation, ← same, id] at id'
  exact absurd id' (by decide)

end GAM
