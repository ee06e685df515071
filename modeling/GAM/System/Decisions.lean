import GAM.Memory.Rendering
import GAM.System.Growth
import GAM.System.ReEvaluation

/-!
# Decisions over runs

What a call of `append_decision` knows of the store between its transactions, and what its last
transaction writes (`runs_decisions`).
-/

namespace GAM
open Lib

section
variable [Engine] {db db' later : Database} {a : DecisionRequest} {p : Proposal}

/-! ### What is read stays -/

/-- A row is found by its canonical identifier. -/
lemma findRow_eq {α : Type} {key : α → String} {rows : List α} {id message : String} {row : α}
    (canonical : isUuid id = true) (found : rows.find? (fun r => key r = id) = some row) :
    findRow key rows id message = .ok row := by
  simp only [findRow, castUuid_self canonical, ok_bind, found]
  rfl

/-- A row that is found has the value of the identifier. -/
lemma findRow_ok {α : Type} {key : α → String} {rows : List α} {id message : String} {row : α}
    (h : findRow key rows id message = .ok row) : row ∈ rows ∧ castUuid id = .ok (key row) := by
  rw [findRow, bind_eq_ok] at h
  obtain ⟨value, cast, h⟩ := h
  split at h
  · rename_i found
    cases h
    have same : key row = value := by simpa using List.find?_some found
    exact ⟨List.mem_of_find?_eq_some found, same ▸ cast⟩
  · cases h

/-- A row that was found is found in a table that grew. -/
lemma findRow_grown {α : Type} {key : α → String} {rows later : List α} {id message : String} {row : α}
    (h : findRow key rows id message = .ok row) (grown : rows <+: later) :
    findRow key later id message = .ok row := by
  rw [findRow, bind_eq_ok] at h
  obtain ⟨id, cast, h⟩ := h
  split at h
  · rename_i found
    cases h
    simp only [findRow, cast, ok_bind, grown.find?_eq_some found]
    rfl
  · cases h

/-- A proposal that is loaded is loaded later. -/
lemma getProposal_grown {id : String} (h : getProposal db id = .ok p) (grown : db.Grows later) :
    getProposal later id = .ok p := by
  rw [getProposal, bind_eq_ok] at h
  obtain ⟨row, found, h⟩ := h
  rw [getProposal, findRow_grown found grown.proposals, ok_bind, h]

/-- An evaluation that is loaded is loaded later. -/
lemma getEvaluation_grown {id : String} {r : EvaluationResult} (h : getEvaluation db id = .ok r)
    (grown : db.Grows later) : getEvaluation later id = .ok r := by
  rw [getEvaluation, bind_eq_ok] at h
  obtain ⟨row, found, h⟩ := h
  rw [getEvaluation, findRow_grown found grown.evaluations, ok_bind, h]

/-- What a call of `append_decision` has found after its first transaction. -/
structure LoadedDecision (db : Database) (a : DecisionRequest) (p : Proposal) : Prop where
  request : checkRequest a = .ok ()
  proposal : getProposal db a.proposalId = .ok p

/-- What it has found after its second transaction. -/
structure CheckedDecision (db : Database) (a : DecisionRequest) (p : Proposal) : Prop
    extends LoadedDecision db a p where
  evaluation : ∃ r r', getEvaluation db a.evaluationId = .ok r ∧ checkEvaluation a r = .ok r'

/-- A loaded decision is loaded later. -/
lemma LoadedDecision.grown (h : LoadedDecision db a p) (grown : db.Grows later) :
    LoadedDecision later a p :=
  ⟨h.request, getProposal_grown h.proposal grown⟩

/-- A checked decision is checked later. -/
lemma CheckedDecision.grown (h : CheckedDecision db a p) (grown : db.Grows later) :
    CheckedDecision later a p := by
  obtain ⟨r, r', read, checked⟩ := h.evaluation
  exact ⟨h.toLoadedDecision.grown grown, r, r', getEvaluation_grown read grown, checked⟩

/-- What a call in flight knows. -/
def Call.Knows (db : Database) : Call → Prop
  | .decideLoaded a p => LoadedDecision db a p
  | .decideChecked a p | .decideInsert a p => CheckedDecision db a p
  | _ => True

/-- What a call knows it knows later. -/
lemma Call.Knows.grown {c : Call} (h : c.Knows db) (grown : db.Grows later) : c.Knows later := by
  cases c with
  | decideLoaded => exact LoadedDecision.grown h grown
  | decideChecked | decideInsert => exact CheckedDecision.grown h grown
  | _ => trivial

/-- A transaction establishes what its call knows next. -/
lemma Call.Knows.step {c c' : Call} (h : c.Knows db) (step : Runs db c db' c') : c'.Knows db' := by
  cases step with
  | aborted => exact h
  | loaded request proposal => exact ⟨request, proposal⟩
  | checked read checked => exact ⟨h, _, _, read, checked⟩
  | latest _ => exact h
  | _ => trivial

/-- In every reachable configuration the calls in flight know what they have found. -/
lemma reachable_knows {guard} {k : Config Database Call}
    (h : clients.ReachableUnder guard emptyStore k) : ∀ c ∈ k.calls, c.Knows k.store := by
  refine (Protocol.invariant (P := clients) (I := fun _ => True) (G := fun db c => c.Knows db)
    trivial ?_ ?_ ?_ h).2
  · intro _ c _ start
    cases start with
    | _ => trivial
  · intro _ _ _ _ _ _ known step _
    exact ⟨trivial, known.step step⟩
  · intro _ _ _ _ _ _ _ _ step _ _ known
    exact known.grown (runs_grows step)

/-! ### What the last transaction writes -/

/-- What the record of a new decision repeats of the request. -/
structure IsDecisionOf (a : DecisionRequest) (decisionId : String) (d : DecisionRecord) : Prop where
  id : d.decisionId = decisionId
  proposal : d.proposalId = a.proposalId
  evaluation : d.evaluationId = a.evaluationId
  trace : d.evaluationTraceDigest = a.traceDigest
  decision : d.decision = a.decision
  decidedBy : d.decidedBy = a.decidedBy
  rationale : d.rationale = a.rationale
  conditions : d.conditionsJson = "\x7b\x7d"
  digest : decisionDigest d = .ok d.decisionDigest
  key : d.idempotencyKey = a.idempotencyKey

/-- A new decision carries its request. -/
lemma newDecision_ok {decisionId : String} {d : DecisionRecord}
    (h : newDecision a decisionId = .ok d) : IsDecisionOf a decisionId d := by
  simp only [newDecision, bind_eq_ok, pure_eq_ok, Except.ok.injEq] at h
  obtain ⟨digest, hd, rfl⟩ := h
  exact ⟨rfl, rfl, rfl, rfl, rfl, rfl, rfl, rfl, hd, rfl⟩

/-- What an exclusion repeats of its decision and of the rejected proposal. -/
structure IsExclusionOf (p : Proposal) (d : DecisionRecord) (e : ExclusionRef) : Prop where
  actionType : e.actionType = p.actionType
  actionTypeKey : e.actionTypeKey = p.actionTypeKey
  target : e.target = p.target
  targetKey : e.targetKey = p.targetKey
  reason : e.reason = d.rationale
  proposal : e.sourceProposalId = d.proposalId
  evaluation : e.sourceEvaluationId = d.evaluationId
  trace : e.sourceEvaluationTraceDigest = d.evaluationTraceDigest
  decision : e.sourceDecisionId = d.decisionId
  value : e.sourceDecisionValue = .reject
  decisionDigest : e.sourceDecisionDigest = d.decisionDigest
  digest : exclusionDigest e = .ok e.exclusionDigest

/-- An appended exclusion carries its decision and is inserted. -/
lemma appendExclusion_ok {d : DecisionRecord} {exclusionId : String} {e : ExclusionRef}
    (h : appendExclusion db p d exclusionId = .ok (e, db')) :
    IsExclusionOf p d e ∧ e.exclusionId = exclusionId ∧
      ∃ row, castExclusion e = .ok row ∧ insertExclusion db row = .ok db' := by
  simp only [appendExclusion, bind_eq_ok, pure_eq_ok, Except.ok.injEq, Prod.mk.injEq] at h
  obtain ⟨digest, hd, row, cast, _, insert, rfl, rfl⟩ := h
  exact ⟨⟨rfl, rfl, rfl, rfl, rfl, rfl, rfl, rfl, rfl, rfl, rfl, hd⟩, rfl, row, cast, insert⟩

/-- What is written for an exclusion: nothing, or the row of the exclusion that was asked for. -/
inductive ExclusionWrite (mid : Database) (a : DecisionRequest) (p : Proposal) (draw : DecisionDraw)
    (d : DecisionRecord) : Option ExclusionRef → List ExclusionRef → Prop
  | unasked : a.exclusionRequested = false → ExclusionWrite mid a p draw d none []
  | asked {e row last} : a.exclusionRequested = true → IsExclusionOf p d e →
      e.exclusionId = draw.exclusionId → castExclusion e = .ok row →
      insertExclusion mid row = .ok last → ExclusionWrite mid a p draw d (some e) [row]

/-- What is written for a new decision. -/
structure DecisionWrite (db : Database) (a : DecisionRequest) (p : Proposal) (draw : DecisionDraw)
    (answer : DecisionRecord × Option ExclusionRef) (row : DecisionRecord)
    (exclusions : List ExclusionRef) : Prop where
  unused : ∀ r ∈ db.decisions, r.idempotencyKey ≠ a.idempotencyKey
  record : IsDecisionOf a draw.decisionId answer.1
  cast : castDecision answer.1 = .ok row
  inserted : insertDecision db row = .ok { db with decisions := db.decisions ++ [row] }
  exclusion : ExclusionWrite { db with decisions := db.decisions ++ [row] } a p draw answer.1 answer.2
    exclusions

/-- A decision is answered from its row, or written. -/
lemma decideTransaction_cases {draw : DecisionDraw} {answer : DecisionRecord × Option ExclusionRef}
    (h : decideTransaction db a p draw = .ok (answer, db')) :
    (db' = db ∧ ∃ row, db.decisions.find? (fun r => r.idempotencyKey = a.idempotencyKey) = some row ∧
        replayDecision db a row = .ok answer) ∨
      ∃ row exclusions, DecisionWrite db a p draw answer row exclusions ∧
        db' = { db with decisions := db.decisions ++ [row],
                        exclusions := db.exclusions ++ exclusions } := by
  simp only [decideTransaction] at h
  split at h
  · rename_i row found
    simp only [bind_eq_ok, pure_eq_ok, Except.ok.injEq, Prod.mk.injEq] at h
    obtain ⟨_, replay, rfl, rfl⟩ := h
    exact .inl ⟨rfl, row, found, replay⟩
  · rename_i absent
    have unused : ∀ r ∈ db.decisions, r.idempotencyKey ≠ a.idempotencyKey := by
      intro r hr
      simpa using List.find?_eq_none.mp absent r hr
    simp only [bind_eq_ok, ensure_eq_ok, exists_unit] at h
    obtain ⟨-, -, -, record, new, row, cast, mid, insert, h⟩ := h
    have stored := insertDecision_eq insert
    subst stored
    split at h
    · rename_i asked
      simp only [bind_eq_ok, pure_eq_ok, Except.ok.injEq, Prod.mk.injEq] at h
      obtain ⟨⟨e, _⟩, append, rfl, rfl⟩ := h
      obtain ⟨written, id, erow, ecast, einsert⟩ := appendExclusion_ok append
      refine .inr ⟨row, [erow], ⟨unused, newDecision_ok new, cast, insert,
        .asked asked written id ecast einsert⟩, ?_⟩
      rw [insertExclusion_eq einsert]
    · rename_i unasked
      simp only [pure_eq_ok, Except.ok.injEq, Prod.mk.injEq] at h
      obtain ⟨rfl, rfl⟩ := h
      refine .inr ⟨row, [], ⟨unused, newDecision_ok new, cast, insert,
        .unasked (by simpa using unasked)⟩, ?_⟩
      simp only [List.append_nil]

/-- What a transaction does to decisions and exclusions: nothing, or it writes a decision. -/
lemma runs_decisions {c c' : Call} (h : Runs db c db' c') :
    (db'.decisions = db.decisions ∧ db'.exclusions = db.exclusions) ∨
      ∃ a p draw answer row exclusions, c = .decideInsert a p ∧
        DecisionWrite db a p draw answer row exclusions ∧
        db' = { db with decisions := db.decisions ++ [row],
                        exclusions := db.exclusions ++ exclusions } := by
  cases h with
  | aborted | failed | loaded | checked | latest | refused => exact .inl ⟨rfl, rfl⟩
  | proposed h =>
    obtain ⟨-, -, -, -, -, h⟩ := appendProposalAndEvaluation_ok h
    obtain ⟨_, -, ⟨rfl, -⟩ | ⟨_, _, -, -, -, -, rfl⟩⟩ := firstAppend_ok h <;> exact .inl ⟨rfl, rfl⟩
  | reevaluated h =>
    obtain ⟨_, -, -, -, _, -, h⟩ := appendReEvaluation_ok h
    obtain ⟨rfl, -⟩ | ⟨_, _, _, -, -, -, -, -, -, rfl⟩ := h <;> exact .inl ⟨rfl, rfl⟩
  | @decided _ a p draw answer h =>
    obtain ⟨rfl, -⟩ | ⟨row, exclusions, write, rfl⟩ := decideTransaction_cases h
    · exact .inl ⟨rfl, rfl⟩
    · exact .inr ⟨a, p, draw, answer, row, exclusions, rfl, write, rfl⟩
  | executed _ h =>
    obtain rfl | ⟨_, _, _, _, _, -, rfl⟩ := executeTransaction_ok h <;> exact .inl ⟨rfl, rfl⟩
  | recovered h =>
    obtain rfl | ⟨_, _, -, -, -, -, -, rfl⟩ := errorTransaction_ok h <;> exact .inl ⟨rfl, rfl⟩

/-! ### The columns keep what is written -/

/-- What the checks of a request say. -/
structure ValidRequest (a : DecisionRequest) : Prop where
  rejected : a.exclusionRequested = true → a.decision = .reject
  proposalId : isUuid a.proposalId = true
  evaluationId : isUuid a.evaluationId = true

omit [Engine] in
/-- A checked request is valid. -/
lemma checkRequest_ok (h : checkRequest a = .ok ()) : ValidRequest a := by
  simp only [checkRequest, bind_eq_ok, ensure_eq_ok, exists_unit] at h
  obtain ⟨rejected, -, -, -, proposal, evaluation, -⟩ := h
  exact ⟨rejected, proposal, evaluation⟩

omit [Engine] in
lemma jsonb_empty : castJsonb "\x7b\x7d" = .ok "\x7b\x7d" :=
  castJsonb_ok.mpr ⟨_, Json.parse_print (.obj []), rfl, rfl⟩

section
variable {draw : DecisionDraw} {d : DecisionRecord} {e : ExclusionRef}

/-- A valid request's decision is stored as it is. -/
lemma IsDecisionOf.cast (h : IsDecisionOf a draw.decisionId d) (valid : ValidRequest a) :
    castDecision d = .ok d := by
  have id : castUuid d.decisionId = .ok d.decisionId :=
    castUuid_self (h.id ▸ draw.decisionId_uuid)
  have proposal : castUuid d.proposalId = .ok d.proposalId :=
    castUuid_self (h.proposal ▸ valid.proposalId)
  have evaluation : castUuid d.evaluationId = .ok d.evaluationId :=
    castUuid_self (h.evaluation ▸ valid.evaluationId)
  have conditions : castJsonb d.conditionsJson = .ok d.conditionsJson := h.conditions ▸ jsonb_empty
  simp only [castDecision, id, proposal, evaluation, conditions, ok_bind, pure_eq_ok]

/-- A valid request's exclusion is stored as it is. -/
lemma IsExclusionOf.cast (h : IsExclusionOf p d e) (hd : IsDecisionOf a draw.decisionId d)
    (valid : ValidRequest a) (id : e.exclusionId = draw.exclusionId) : castExclusion e = .ok e := by
  have id : castUuid e.exclusionId = .ok e.exclusionId := castUuid_self (id ▸ draw.exclusionId_uuid)
  have proposal : castUuid e.sourceProposalId = .ok e.sourceProposalId :=
    castUuid_self (by rw [h.proposal, hd.proposal, valid.proposalId])
  have evaluation : castUuid e.sourceEvaluationId = .ok e.sourceEvaluationId :=
    castUuid_self (by rw [h.evaluation, hd.evaluation, valid.evaluationId])
  have decision : castUuid e.sourceDecisionId = .ok e.sourceDecisionId :=
    castUuid_self (by rw [h.decision, hd.id, draw.decisionId_uuid])
  simp only [castExclusion, id, proposal, evaluation, decision, ok_bind, pure_eq_ok]

/-- The rows of a new decision are its records. -/
lemma DecisionWrite.rows {answer : DecisionRecord × Option ExclusionRef} {row : DecisionRecord}
    {exclusions : List ExclusionRef} (w : DecisionWrite db a p draw answer row exclusions)
    (valid : ValidRequest a) : row = answer.1 ∧ exclusions = answer.2.toList := by
  have same := w.cast
  rw [w.record.cast valid] at same
  refine ⟨(Except.ok.inj same).symm, ?_⟩
  generalize answer.2 = o, w.exclusion = written
  cases written with
  | unasked => rfl
  | asked _ is id cast _ =>
    rw [is.cast w.record valid id] at cast
    rw [Except.ok.inj cast]
    rfl

/-- A stored decision is read as it was written. -/
lemma IsDecisionOf.read {decisionId : String} (h : IsDecisionOf a decisionId d) :
    decisionFromRow d = .ok d := by
  have conditions : conditionsOf d.conditionsJson = .ok d.conditionsJson := by
    rw [h.conditions, conditionsOf, show jsonLoads "\x7b\x7d" = .ok (.dict []) from rfl, ok_bind]
    rfl
  rw [decisionFromRow, conditions, ok_bind]
  simp only [h.digest, ok_bind, ensure_pos, pure_eq_ok]

end

/-! ### The latest evaluation -/

omit [Engine] in
/-- The latest finalized evaluation is a stored one of its proposal. -/
lemma latestFinalized_mem {proposalId : String} {evaluation : EvaluationRow}
    (h : db.latestFinalized proposalId = some evaluation) : evaluation ∈ db.evaluations ∧
      evaluation.proposalId = proposalId ∧ evaluation.status = .finalized := by
  obtain ⟨mem, final⟩ := List.mem_filter.mp (List.mem_of_getLast? h)
  obtain ⟨mem, home⟩ := mem_history.mp mem
  exact ⟨mem, home, of_decide_eq_true final⟩

/-- The row of a checked evaluation has the identifier and the digest of the request. -/
lemma CheckedDecision.stored (h : CheckedDecision db a p) : ∃ evaluation ∈ db.evaluations,
    evaluation.id = a.evaluationId ∧ evaluation.traceDigest = a.traceDigest := by
  obtain ⟨r, r', read, checked⟩ := h.evaluation
  rw [getEvaluation, bind_eq_ok] at read
  obtain ⟨evaluation, found, read⟩ := read
  simp only [findRow, castUuid_self (checkRequest_ok h.request).evaluationId, ok_bind] at found
  split at found
  · rename_i found'
    cases found
    cases r with
    | blocked _ => cases checked
    | check r =>
      simp only [checkEvaluation, bind_eq_ok, ensure_eq_ok, exists_unit, pure_eq_ok] at checked
      obtain ⟨v, valid, ⟨-, trace⟩, -⟩ := checked
      rw [validateCheckResult_self valid] at trace
      refine ⟨evaluation, List.mem_of_find?_eq_some found', ?_, ?_⟩
      · simpa using List.find?_some found'
      · rw [← (resultFromRow_row read).2, trace]
  · cases found

/-- The check for a newer evaluation compares identifiers. -/
lemma checkLatest_iff (g : Genealogy db) (h : CheckedDecision db a p) : checkLatest db a = .ok () ↔
    (db.latestFinalized a.proposalId).map EvaluationRow.id = some a.evaluationId := by
  rw [checkLatest, ensure_eq_ok]
  constructor
  · rintro ⟨evaluation, latest, id, -⟩
    rw [Option.mem_def.mp latest, Option.map_some, id]
  · intro same
    obtain ⟨evaluation, latest, id⟩ := Option.map_eq_some_iff.mp same
    obtain ⟨read, stored, id', trace⟩ := h.stored
    have one : evaluation = read :=
      List.inj_on_of_nodup_map g.ids (latestFinalized_mem latest).1 stored (id.trans id'.symm)
    exact ⟨evaluation, latest, id, one ▸ trace⟩

end

end GAM
