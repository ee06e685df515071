import GAM.Agent.AllOrNothing
import GAM.System.CalmSessions

/-!
# Tasks in a session that never fails

What a task returns when nothing that it asks for fails, one rule for each way its coroutine is composed.
Every stage hands on its value, so that no handler is entered.
-/

namespace GAM
open Lib Program

variable {α β : Type} {m : AppMemory} {db written later : Store}
  {calls made more : List ExternalCall} {a : α} {b : β}

/-- A world outside a transaction, in which nothing fails, with its store and its calls. -/
structure World.Rests (db : Store) (calls : List ExternalCall) (w : World) : Prop where
  calm : w.session.Calm
  closed : w.session.active = none
  store : w.session.store = db
  called : w.calls = calls

/-- What a coroutine returns in such a world, with the store and the calls it leaves. -/
def Process.Returns (x : Process α) (db : Store) (calls : List ExternalCall) (a : α) (written : Store)
    (made : List ExternalCall) : Prop :=
  ∀ w, World.Rests db calls w → ∃ w', x w = (.ok a, w') ∧ World.Rests written made w'

lemma returns_pure : Process.Returns (pure a) db calls a db calls := fun w rests => ⟨w, rfl, rests⟩

/-- A stage after a stage returns. -/
lemma returns_bind {x : Process β} {f : β → Process α} (h : x.Returns db calls b written made)
    (h' : (f b).Returns written made a later more) : Process.Returns (x >>= f) db calls a later more := by
  intro w rests
  obtain ⟨w₁, ran, rests₁⟩ := h w rests
  obtain ⟨w₂, ran', rests₂⟩ := h' w₁ rests₁
  exact ⟨w₂, (bind_run ran).trans ran', rests₂⟩

/-- A stage that returns is not answered by its handler. -/
lemma returns_stage {x : Process β} {answer : Process α} {f : β → Process α}
    (h : x.Returns db calls b written made) (h' : (f b).Returns written made a later more) :
    (Process.stage x answer f).Returns db calls a later more := by
  intro w rests
  obtain ⟨w₁, ran, rests₁⟩ := h w rests
  obtain ⟨w₂, ran', rests₂⟩ := h' w₁ rests₁
  exact ⟨w₂, (attempt_run ran).trans ran', rests₂⟩

/-- A pure computation that succeeds returns. -/
lemma returns_lift {x : Except TaskError α} (h : x = .ok a) :
    Process.Returns (Program.lift x) db calls a db calls := by
  intro w rests
  rw [h]
  exact ⟨w, rfl, rests⟩

/-- A check that succeeds returns. -/
lemma returns_agent {x : Except AgentError α} (h : x = .ok a) :
    (Process.agent x).Returns db calls a db calls :=
  returns_lift (mapError_eq_ok.mpr h)

/-- A Python computation that succeeds returns. -/
lemma returns_python {x : Except PyError α} (h : x = .ok a) :
    (Process.python x).Returns db calls a db calls :=
  returns_agent (mapError_eq_ok.mpr h)

/-- A call outside that succeeds returns and is counted. -/
lemma returns_external {call : ExternalCall} {x : Except TaskError α} (h : x = .ok a) :
    (Process.external call x).Returns db calls a db (calls ++ [call]) := by
  intro w rests
  rw [h]
  exact ⟨_, rfl, rests.calm, rests.closed, rests.store, congrArg (· ++ [call]) rests.called⟩

/-- A unit of the memory is committed. -/
lemma returns_unit {op : Operation Store TaskError α} (h : op.Answers db a written) :
    (Process.memory m (.retry op)).Returns db calls a written calls := by
  intro w rests
  obtain ⟨k, ran, calm, closed, store⟩ := retry_run (m := m) rests.calm rests.closed (rests.store.symm ▸ h)
  refine ⟨{ w with session := k }, ?_, calm, closed, store, rests.called⟩
  simp only [Process.memory, ran]

/-- A task without lineage asks for none. -/
lemma returns_unlinked [AgentEngine] {decisionId : Option String} :
    (Process.memory m (lineage none decisionId)).Returns db calls () db calls :=
  fun w rests => ⟨w, rfl, rests⟩

/-- A query is answered. -/
lemma answers_query {f : Nat → Store → Except AgentError α} (h : ∀ n, f n db = .ok a) :
    (query f).Answers db a db :=
  answers_execute fun n => by simp only [h n, ok_bind, pure_eq_ok, Except.mapError]

/-- A statement is answered with what it wrote. -/
lemma answers_statement {f : Nat → Store → Except AgentError (α × Store)}
    (h : ∀ n, f n db = .ok (a, written)) : (statement f).Answers db a written :=
  answers_execute fun n => mapError_eq_ok.mpr (h n)

/-- A computation that succeeds is answered. -/
lemma answers_compute {x : Except AgentError α} (h : x = .ok a) : (compute x).Answers db a db := by
  rw [h]
  exact answers_done

/-- A query of the memory is answered. -/
lemma answers_gateQuery {f : Database → Except PyError α} (h : f db.toDatabase = .ok a) :
    (gateQuery f).Answers db a db :=
  answers_query fun _ => mapError_eq_ok.mpr h

/-- A statement of the memory is answered with its tables. -/
lemma answers_gateStatement {f : Database → Except PyError (α × Database)} {tables : Database}
    (h : f db.toDatabase = .ok (a, tables)) :
    (gateStatement f).Answers db a { db with toDatabase := tables } := by
  refine answers_statement fun _ => ?_
  rw [h]
  rfl

/-- A new proposal and its evaluation are appended. -/
lemma answers_append [AgentEngine] {p : Proposal} {s : EvaluationSnapshot} {r : EvaluationResult} {id : String}
    {args row : ProposalRow} {tables tables' : Database}
    (bound : validateEvaluationBinding s r = .ok ())
    (first : proposalEq s.proposal p = true ∧ s.priorEvaluation = none ∧ r.priorEvaluationId = none ∧
      r.changedFactRuleIds = [])
    (cast : castUuid p.proposalId = .ok id) (new : ∀ row ∈ db.proposals, row.id ≠ id)
    (columns : proposalArgs p = .ok args) (typed : castProposal args = .ok row)
    (inserted : insertProposal db.toDatabase row = .ok tables)
    (stored : storeEvaluation tables p.proposalId s r = .ok tables') :
    (appendOperation p s r).Answers db (p.proposalId, r.evaluationId) { db with toDatabase := tables' } := by
  have unknown : db.proposals.find? (fun row => row.id = id) = none := by
    rw [List.find?_eq_none]
    exact fun row hrow same => new row hrow (of_decide_eq_true same)
  refine answers_bind (answers_compute (mapError_eq_ok.mpr bound)) ?_
  refine answers_bind (answers_compute (ensure_pos first)) (answers_retry ?_)
  refine answers_bind (@answers_gateQuery _ _ none _ ?_) ?_
  · simp only [cast, ok_bind, unknown, pure_eq_ok]
  refine answers_bind (@answers_gateStatement _ _ () _ tables ?_) ?_
  · simp only [columns, typed, inserted, ok_bind, pure_eq_ok]
  refine answers_bind (@answers_gateStatement _ _ () _ tables' ?_) answers_done
  simp only [stored, ok_bind, pure_eq_ok]

end GAM
