import GAM.System.Decided

/-!
# Replayed decisions

What a stored decision answers to the same call later (`appendDecision_replay`): the decision and
exclusion that were recorded, as long as the decided evaluation is still the latest finalized one. The
exclusion of a stored decision never changes, because exclusions are only written with a new decision.
-/

namespace GAM
open Lib

section
variable [Engine] {db db' later : Database} {a : DecisionRequest} {p : Proposal}

/-- Every exclusion belongs to a stored decision. -/
def ExclusionsRefer (db : Database) : Prop :=
  ∀ e ∈ db.exclusions, ∃ d ∈ db.decisions, d.decisionId = e.sourceDecisionId

/-- The exclusion of a decision. -/
def Database.exclusionOf (db : Database) (decisionId : String) : Option ExclusionRef :=
  db.exclusions.find? fun e => e.sourceDecisionId = decisionId

/-- The exclusions that are written belong to the decision that is written. -/
lemma DecisionWrite.source {draw answer row exclusions}
    (w : DecisionWrite db a p draw answer row exclusions) :
    ∀ e ∈ exclusions, e.sourceDecisionId = row.decisionId := by
  intro e he
  have id : castUuid answer.1.decisionId = .ok row.decisionId := by
    have cast := w.cast
    simp only [castDecision, bind_eq_ok, pure_eq_ok, Except.ok.injEq] at cast
    obtain ⟨_, id, _, -, _, -, _, -, rfl⟩ := cast
    exact id
  generalize answer.2 = o, w.exclusion = written at he
  cases written with
  | unasked => cases he
  | asked _ is _ cast _ =>
    rw [List.mem_singleton] at he
    simp only [castExclusion, bind_eq_ok, pure_eq_ok, Except.ok.injEq] at cast
    obtain ⟨_, -, _, -, _, -, _, source, rfl⟩ := cast
    rw [he]
    rw [is.decision, id] at source
    exact (Except.ok.inj source).symm

/-- A new decision has a new identifier. -/
lemma DecisionWrite.fresh {draw answer row exclusions}
    (w : DecisionWrite db a p draw answer row exclusions) :
    Fresh DecisionRecord.decisionId db.decisions row := by
  have insert := w.inserted
  simp only [insertDecision, bind_eq_ok, ensure_eq_ok, exists_unit] at insert
  exact insert.2.1.1

/-- One step keeps the exclusions referring to decisions. -/
lemma ExclusionsRefer.step {c c' : Call} (refer : ExclusionsRefer db) (h : Runs db c db' c') :
    ExclusionsRefer db' := by
  obtain ⟨decisions, exclusions⟩ | ⟨a, p, draw, answer, row, exclusions, -, w, rfl⟩ :=
    runs_decisions h
  · rw [ExclusionsRefer, decisions, exclusions]
    exact refer
  · intro e he
    rcases List.mem_append.mp he with he | he
    · obtain ⟨d, hd, source⟩ := refer e he
      exact ⟨d, List.mem_append_left _ hd, source⟩
    · exact ⟨row, List.mem_append_right _ List.mem_cons_self, (w.source e he).symm⟩

/-- In every reachable state the exclusions refer to decisions. -/
lemma reachable_exclusions {guard} {k : Config Database Call}
    (h : clients.ReachableUnder guard emptyStore k) : ExclusionsRefer k.store :=
  Protocol.store_invariant (P := clients) (I := ExclusionsRefer)
    (fun _ h => absurd h List.not_mem_nil)
    (fun _ _ _ _ _ refer step _ => refer.step step) h

/-- The exclusion of a stored decision, or that it has none, does not change. -/
lemma exclusionOf_step {c c' : Call} {id : String} (h : Runs db c db' c')
    (stored : ∃ d ∈ db.decisions, d.decisionId = id) : db'.exclusionOf id = db.exclusionOf id := by
  obtain ⟨-, exclusions⟩ | ⟨a, p, draw, answer, row, exclusions, -, w, rfl⟩ := runs_decisions h
  · rw [Database.exclusionOf, exclusions, Database.exclusionOf]
  · obtain ⟨d, hd, rfl⟩ := stored
    have others : exclusions.find? (fun e => e.sourceDecisionId = d.decisionId) = none := by
      refine List.find?_eq_none.mpr fun e he => ?_
      rw [w.source e he, decide_eq_true_eq]
      exact (w.fresh d hd).symm
    rw [Database.exclusionOf, List.find?_append, others, Option.or_none, Database.exclusionOf]

/-- Later states have the same exclusion of a stored decision. -/
lemma exclusionOf_leads {guard} {k k' : Config Database Call} {id : String}
    (h : clients.Leads guard k k') (stored : ∃ d ∈ k.store.decisions, d.decisionId = id) :
    k'.store.exclusionOf id = k.store.exclusionOf id := by
  refine (Protocol.Leads.preserves (P := clients) (K := fun db =>
    (∃ d ∈ db.decisions, d.decisionId = id) ∧ db.exclusionOf id = k.store.exclusionOf id)
    ?_ h ⟨stored, rfl⟩).2
  rintro db c db' c' step ⟨⟨d, hd, source⟩, same⟩
  exact ⟨⟨d, (runs_grows step).decisions.subset hd, source⟩,
    (exclusionOf_step step ⟨d, hd, source⟩).trans same⟩

section
variable {draw : DecisionDraw} {answer : DecisionRecord × Option ExclusionRef} {row : DecisionRecord}

/-- A replay looks at the store only for the exclusion of the decision. -/
lemma replayDecision_congr (same : later.exclusionOf row.decisionId =
    db.exclusionOf row.decisionId) : replayDecision later a row = replayDecision db a row := by
  cases read : decisionFromRow row with
  | error e => rw [replayDecision, replayDecision, read, error_bind, error_bind]
  | ok d =>
    have id : d.decisionId = row.decisionId := by
      simp only [decisionFromRow, bind_eq_ok, pure_eq_ok, Except.ok.injEq] at read
      obtain ⟨_, -, _, -, _, -, rfl⟩ := read
      rfl
    have loads : loadExclusion later d = loadExclusion db d := by
      rw [Database.exclusionOf, Database.exclusionOf, ← id] at same
      rw [loadExclusion, loadExclusion, same]
    rw [replayDecision, replayDecision, read, ok_bind, ok_bind, loads]

/-- A decision is answered by the store it was written to. -/
lemma DecisionWrite.answered {exclusions : List ExclusionRef}
    (w : DecisionWrite db a p draw answer row exclusions) (valid : ValidRequest a)
    (refer : ExclusionsRefer db) :
    replayDecision { db with decisions := db.decisions ++ [row],
                             exclusions := db.exclusions ++ exclusions } a row = .ok answer := by
  obtain ⟨rfl, rfl⟩ := w.rows valid
  obtain ⟨record, exclusion⟩ := answer
  have is := w.record
  have earlier : db.exclusions.find? (fun e => e.sourceDecisionId = record.decisionId) = none := by
    refine List.find?_eq_none.mpr fun e he => ?_
    rw [decide_eq_true_eq]
    intro same
    obtain ⟨d, hd, source⟩ := refer e he
    exact w.fresh d hd (source.trans same)
  have loads : loadExclusion { db with decisions := db.decisions ++ [record],
                                       exclusions := db.exclusions ++ exclusion.toList } record =
      .ok exclusion := by
    rw [loadExclusion, List.find?_append, earlier, Option.none_or]
    cases w.exclusion with
    | unasked _ => rfl
    | @asked e _ _ _ written _ _ _ =>
      have source : e.sourceDecisionId = record.decisionId := written.decision
      simp only [Option.toList_some, List.find?_singleton, source, decide_true, if_true,
        written.digest, ok_bind, ensure_pos, pure_eq_ok]
  have asked : a.exclusionRequested = exclusion.isSome := by
    cases w.exclusion with
    | unasked no => exact no
    | asked yes => exact yes
  rw [replayDecision, is.read, ok_bind, ensure_pos ⟨is.proposal, is.evaluation, is.trace,
    is.decision, is.decidedBy, is.rationale⟩, ok_bind, loads, ok_bind, ensure_pos asked]
  rfl

/-- A decision that went through is answered by every later store. -/
lemma decideTransaction_again (h : decideTransaction db a p draw = .ok (answer, db'))
    (valid : ValidRequest a) (refer : ExclusionsRefer db) (grown : db'.Grows later)
    (same : ∀ d ∈ db'.decisions, later.exclusionOf d.decisionId = db'.exclusionOf d.decisionId)
    (p' : Proposal) (draw' : DecisionDraw) :
    decideTransaction later a p' draw' = .ok (answer, later) := by
  obtain ⟨row, found, replay⟩ : ∃ row, later.decisions.find?
      (fun r => r.idempotencyKey = a.idempotencyKey) = some row ∧
        replayDecision later a row = .ok answer := by
    obtain ⟨rfl, row, found, replay⟩ | ⟨row, exclusions, w, rfl⟩ := decideTransaction_cases h
    · have stored := List.mem_of_find?_eq_some found
      exact ⟨row, grown.decisions.find?_eq_some found,
        (replayDecision_congr (same row stored)).trans replay⟩
    · have key : row.idempotencyKey = a.idempotencyKey := by
        rw [(w.rows valid).1, w.record.key]
      refine ⟨row, find_appended (fun r hr => ?_) (decide_eq_true key) grown.decisions, ?_⟩
      · exact decide_eq_false (w.unused r hr)
      · have stored := same row (List.mem_append_right _ List.mem_cons_self)
        exact (replayDecision_congr stored).trans (w.answered valid refer)
  simp only [decideTransaction, found, replay, ok_bind, pure_eq_ok]

/-- A decision on an evaluation that is not the latest finalized one is refused. -/
lemma appendDecision_stale {evaluation : EvaluationRow} (known : CheckedDecision db a p)
    (latest : db.latestFinalized a.proposalId = some evaluation)
    (other : evaluation.id ≠ a.evaluationId) :
    appendDecision db a draw = .error (.cliBlocked "evaluation is stale or superseded") := by
  have stale : ¬∃ e ∈ db.latestFinalized a.proposalId, e.id = a.evaluationId ∧
      e.traceDigest = a.traceDigest := by
    rw [latest]
    rintro ⟨e, found, same, -⟩
    cases found
    exact other same
  obtain ⟨_, _, read, checked⟩ := known.evaluation
  rw [appendDecision, known.request, ok_bind, known.proposal, ok_bind, read, ok_bind, checked, ok_bind,
    checkLatest, ensure_neg stale, error_bind]

/-- When a decision went through, the same call returns the same decision and exclusion and writes
nothing in every store that is reached later, exactly as long as the decided evaluation is the latest
finalized one of its proposal. -/
theorem appendDecision_replay {l r : List Call} {k : Config Database Call}
    (reached : clients.Reachable emptyStore ⟨db, l ++ .decideInsert a p :: r⟩)
    (decided : decideTransaction db a p draw = .ok (answer, db'))
    (run : clients.Leads Protocol.anyRun ⟨db', l ++ .done :: r⟩ k) (draw' : DecisionDraw) :
    appendDecision k.store a draw' = .ok (answer, k.store) ↔
      (k.store.latestFinalized a.proposalId).map EvaluationRow.id = some a.evaluationId := by
  have knows : CheckedDecision db a p :=
    reachable_knows reached _ (List.mem_append_right _ List.mem_cons_self)
  have valid := checkRequest_ok knows.request
  have grown : db'.Grows k.store := leads_grows run
  have later : CheckedDecision k.store a p := (knows.grown (runs_grows (.decided decided))).grown grown
  have reached' : clients.Reachable emptyStore k :=
    (reached.step (.run (.decided decided) trivial)).trans run
  have again := decideTransaction_again decided valid (reachable_exclusions reached) grown
    (fun d hd => exclusionOf_leads run ⟨d, hd, rfl⟩) p draw'
  rw [← checkLatest_iff (reachable_genealogy reached') later]
  obtain ⟨e, r', read, checked⟩ := later.evaluation
  rw [appendDecision, later.request, ok_bind, later.proposal, ok_bind, read, ok_bind, checked, ok_bind]
  cases latest : checkLatest k.store a with
  | ok _ => simp only [ok_bind, again]
  | error e => simp [error_bind]

end

end

/-- A decision on the only evaluation is answered again. -/
theorem appendDecision_replay_only :
    let _ := asciiEngine
    ∃ (db : Database) (a : DecisionRequest) (draw : DecisionDraw)
      (answer : DecisionRecord × Option ExclusionRef), db.decisions.length = 1 ∧
      appendDecision db a draw = .ok (answer, db) := by
  intro _
  have proposalId : isUuid "00000000-0000-0000-0000-000000000001" = true := by decide
  have first : isUuid "00000000-0000-0000-0000-000000000002" = true := by decide
  have key : isUuid "00000000-0000-0000-0000-000000000003" = true := by decide
  let draw : DecisionDraw := ⟨"00000000-0000-0000-0000-000000000004",
    "00000000-0000-0000-0000-000000000005", by decide, by decide⟩
  obtain ⟨row, evaluation, d, rows, reached, -, decided⟩ := minimal_decided "gam-gate/1.0" .approve
    draw proposalId first key (fun _ => rfl) fun _ => rfl
  have latest : Database.latestFinalized
      { proposals := [row], evaluations := [evaluation], decisions := [d] } _ = some evaluation :=
    rows.latestFinalized rfl
  have decidedOn : (some evaluation).map EvaluationRow.id =
      some "00000000-0000-0000-0000-000000000002" :=
    congrArg some (evaluationArgs_columns rows.evaluation_written).1
  exact ⟨_, _, draw, _, rfl, (appendDecision_replay reached decided .refl draw).mpr
    ((congrArg _ latest).trans decidedOn)⟩

/-- After another evaluation was appended the recorded decision is refused as superseded. -/
theorem appendDecision_superseded :
    let _ := asciiEngine
    ∃ (l r : List Call) (db db' : Database) (a : DecisionRequest) (p : Proposal)
      (draw : DecisionDraw) (answer : DecisionRecord × Option ExclusionRef)
      (k : Config Database Call), clients.Reachable emptyStore ⟨db, l ++ .decideInsert a p :: r⟩ ∧
      decideTransaction db a p draw = .ok (answer, db') ∧
      clients.Leads Protocol.anyRun ⟨db', l ++ .done :: r⟩ k ∧
      appendDecision k.store a draw = .error (.cliBlocked "evaluation is stale or superseded") := by
  intro _
  have proposalId : isUuid "00000000-0000-0000-0000-000000000001" = true := by decide
  have first : isUuid "00000000-0000-0000-0000-000000000002" = true := by decide
  have key : isUuid "00000000-0000-0000-0000-000000000003" = true := by decide
  have second : isUuid "00000000-0000-0000-0000-000000000006" = true := by decide
  let draw : DecisionDraw := ⟨"00000000-0000-0000-0000-000000000004",
    "00000000-0000-0000-0000-000000000005", by decide, by decide⟩
  obtain ⟨row, evaluation, d, rows, reached, -, decided⟩ := minimal_decided "gam-gate/1.0" .approve
    draw proposalId first key (fun _ => rfl) fun _ => rfl
  let db : Database := { proposals := [row], evaluations := [evaluation], decisions := [d] }
  obtain ⟨s, r, later, reevaluated, id, about, status⟩ := @minimal_reevaluated _ _ db _ _ _ _ _
    "gam-gate/1.1" rows rfl rfl second (by decide) (by decide)
  let last : Database := { db with evaluations := [evaluation, later] }
  have begun : clients.Step Protocol.anyRun ⟨db, [.done] ++ [.done]⟩
      ⟨db, [.done, .done] ++ [.reevaluate s (.check r)]⟩ := .start .reevaluate
  have appended : clients.Step Protocol.anyRun ⟨db, [.done, .done] ++ [.reevaluate s (.check r)]⟩
      ⟨last, [.done, .done] ++ [.done]⟩ := .run reevaluated trivial
  have asks := @FirstRows.asks _ _ _ _ _ _ _ .approve false rows (fun h => nomatch h) key
  have known : CheckedDecision last _ _ := rows.checked asks rfl ⟨[later], rfl⟩
  have latest : last.latestFinalized "00000000-0000-0000-0000-000000000001" = some later :=
    @latestFinalized_last last _ [evaluation] _ rfl about status
  have other : later.id ≠ "00000000-0000-0000-0000-000000000002" := by
    rw [id]
    decide
  exact ⟨_, _, _, _, _, _, draw, _, _, reached, decided,
    (Relation.ReflTransGen.single begun).tail appended, appendDecision_stale known latest other⟩

end GAM
