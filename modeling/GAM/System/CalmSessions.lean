import GAM.System.ExactlyOnce

/-!
# Sessions that never fail

What an operation answers when the database fails nothing it is asked: within a transaction each statement
sees what the one before it has written, and a unit under the retry envelope is committed at its first
attempt.
-/

namespace GAM
open Lib

variable {σ ε α β : Type} [PyException ε] {m : AppMemory} {store written later : σ} {a : α} {b : β}

/-- No request of the session fails. -/
def Session.Calm (k : Session σ ε) : Prop := ∀ n, k.faults n = none

/-- The session is in a transaction that sees a store. -/
structure Session.Within (store : σ) (k : Session σ ε) : Prop where
  calm : k.Calm
  active : k.active = some store

/-- What an operation answers within a transaction in which nothing fails, and what it leaves there. -/
def Operation.Answers (op : Operation σ ε α) (store : σ) (a : α) (written : σ) : Prop :=
  ∀ m (k : Session σ ε), k.Within store →
    ∃ k', op.run m k = (.ok a, k') ∧ k'.Within written ∧ k'.store = k.store

lemma answers_done : (Operation.done a : Operation σ ε α).Answers store a store :=
  fun _ k within => ⟨k, rfl, within, rfl⟩

/-- A statement answers what it does to the store of the transaction. -/
lemma answers_execute {statement : Nat → σ → Except ε (α × σ)}
    (h : ∀ n, statement n store = .ok (a, written)) :
    (Operation.execute statement).Answers store a written := by
  intro _ k within
  refine ⟨{ k.tick with active := some written }, ?_, ⟨within.calm, rfl⟩, rfl⟩
  rw [Operation.run, execute, within.active]
  simp only [within.calm k.clock, h k.clock]

lemma answers_bind {first : Operation σ ε β} {next : β → Operation σ ε α}
    (h : first.Answers store b written) (h' : (next b).Answers written a later) :
    (Operation.bind first next).Answers store a later := by
  intro m k within
  obtain ⟨k₁, ran, within₁, store₁⟩ := h m k within
  obtain ⟨k₂, ran', within₂, store₂⟩ := h' m k₁ within₁
  refine ⟨k₂, ?_, within₂, store₂.trans store₁⟩
  simp only [Operation.run, ran]
  exact ran'

/-- A unit under the envelope joins the transaction that is open. -/
lemma answers_retry {op : Operation σ ε α} (h : op.Answers store a written) :
    (Operation.retry op).Answers store a written := by
  intro m k within
  obtain ⟨k', ran, within', same⟩ := h m k within
  refine ⟨k', ?_, within', same⟩
  rw [Operation.run, AppMemory.retry, within.active]
  exact ran

/-- A unit is committed at its first attempt. -/
lemma retry_run {op : Operation σ ε α} {k : Session σ ε} (calm : k.Calm) (closed : k.active = none)
    (h : op.Answers k.store a written) :
    ∃ k', (Operation.retry op).run m k = (.ok a, k') ∧ k'.Calm ∧ k'.active = none ∧
      k'.store = written := by
  obtain ⟨k₁, ran, within, same⟩ := h m { k.tick with active := some k.store } ⟨calm, rfl⟩
  let k₂ : Session σ ε :=
    { k₁.tick with store := k₁.active.getD k₁.store, active := none, commits := k₁.commits + 1 }
  have committed : k₁.commit a = (.ok a, k₂) := by
    rw [Session.commit, within.calm k₁.clock]
  have transacted : AppMemory.transaction (op.run m) k = (.ok a, k₂) := by
    rw [AppMemory.transaction, closed]
    simp only [calm k.clock, ran, committed]
  refine ⟨k₂, ?_, within.calm, rfl, ?_⟩
  · obtain ⟨n, bound⟩ : ∃ n, m.retries = n + 1 := ⟨m.retries - 1, by have := m.retries_bounded; omega⟩
    simp only [Operation.run, AppMemory.retry, closed, retryLoop, bound, attempts, transacted]
  · show k₁.active.getD k₁.store = written
    rw [within.active, Option.getD_some]

end GAM
