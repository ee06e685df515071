import GAM.Memory.Transaction
import GAM.System.Calls

/-!
# The retry envelope

An operation inside an open transaction leaves the committed store alone, whatever it is made of and
wherever a request fails, so that a transaction commits one run of its body or nothing. `_retry` goes on
only after runs that committed nothing, and so its operation takes effect once or not at all.
-/

namespace GAM
open Lib

section
variable {σ ε α β : Type} [PyException ε] {memory : AppMemory}

/-- An action that stays within the open transaction: what is committed is left alone, and the
transaction stays open. -/
def Confined (action : Action σ ε α) : Prop :=
  ∀ k, k.active.isSome → (action k).2.store = k.store ∧ (action k).2.commits = k.commits ∧
    (action k).2.active.isSome

/-- A statement is confined to its transaction. -/
lemma confined_execute (statement : Nat → σ → Except ε (α × σ)) : Confined (execute statement) := by
  intro k opened
  obtain ⟨working, active⟩ := Option.isSome_iff_exists.mp opened
  simp only [execute, active]
  cases fault : k.faults k.clock with
  | some e => exact ⟨rfl, rfl, opened⟩
  | none =>
    dsimp only
    cases outcome : statement k.clock working with
    | ok written => exact ⟨rfl, rfl, rfl⟩
    | error e => exact ⟨rfl, rfl, opened⟩

omit [PyException ε] in
/-- In an open transaction the context manager gives out its connection. -/
lemma transaction_open {body : Action σ ε α} {k : Session σ ε} (opened : k.active.isSome) :
    AppMemory.transaction body k = body k := by
  obtain ⟨working, active⟩ := Option.isSome_iff_exists.mp opened
  rw [AppMemory.transaction, active]

/-- In an open transaction the envelope runs its operation once. -/
lemma retry_open {operation : Action σ ε α} {k : Session σ ε} (opened : k.active.isSome) :
    memory.retry operation k = operation k := by
  obtain ⟨working, active⟩ := Option.isSome_iff_exists.mp opened
  rw [AppMemory.retry, active]

/-- Every operation stays within its transaction, its nested units and calls included. -/
lemma Operation.confined (memory : AppMemory) (op : Operation σ ε α) :
    Confined (op.run memory) := by
  induction op with
  | done a => exact fun k opened => ⟨rfl, rfl, opened⟩
  | raise e => exact fun k opened => ⟨rfl, rfl, opened⟩
  | draw f => exact fun k opened => ⟨rfl, rfl, opened⟩
  | execute statement => exact confined_execute statement
  | bind first next ih ihn =>
    intro k opened
    obtain ⟨store, commits, opened'⟩ := ih k opened
    cases run : first.run memory k with
    | mk r k' =>
      rw [run] at store commits opened'
      simp only [Operation.run, run]
      cases r with
      | ok b =>
        obtain ⟨store', commits', last⟩ := ihn b k' opened'
        exact ⟨store'.trans store, commits'.trans commits, last⟩
      | error e => exact ⟨store, commits, opened'⟩
  | handle body translate ih =>
    intro k opened
    have inner := ih k opened
    cases run : body.run memory k with
    | mk r k' =>
      rw [run] at inner
      simp only [Operation.run, run]
      cases r with
      | ok a => exact inner
      | error e => exact inner
  | transaction body ih =>
    intro k opened
    rw [Operation.run, transaction_open opened]
    exact ih k opened
  | retry body ih =>
    intro k opened
    rw [Operation.run, retry_open opened]
    exact ih k opened

/-- What an operation does in an open transaction when no request fails: the result, and the copy of the
store that its statements leave. -/
def Operation.Yields {σ ε : Type} : {α : Type} → Operation σ ε α → σ → α → σ → Prop
  | _, .done a, working, b, written => b = a ∧ written = working
  | _, .raise _, _, _, _ => False
  | _, .draw f, working, b, written => (∃ n, b = f n) ∧ written = working
  | _, .execute statement, working, b, written => ∃ n, statement n working = .ok (b, written)
  | _, .bind first next, working, b, written =>
    ∃ c mid, first.Yields working c mid ∧ (next c).Yields mid b written
  | _, .handle body _, working, b, written => body.Yields working b written
  | _, .transaction body, working, b, written => body.Yields working b written
  | _, .retry body, working, b, written => body.Yields working b written

/-- A run that returned has met no failure. -/
lemma Operation.run_yields (op : Operation σ ε α) {k k' : Session σ ε} {a : α} {working : σ}
    (active : k.active = some working) (ran : op.run memory k = (.ok a, k')) :
    ∃ written, k'.active = some written ∧ op.Yields working a written := by
  induction op generalizing k k' working with
  | done b =>
    cases ran
    exact ⟨working, active, rfl, rfl⟩
  | raise e => cases ran
  | draw f =>
    cases ran
    exact ⟨working, active, ⟨k.clock, rfl⟩, rfl⟩
  | execute statement =>
    simp only [Operation.run, GAM.execute, active] at ran
    cases fault : k.faults k.clock with
    | some e =>
      rw [fault] at ran
      cases ran
    | none =>
      rw [fault] at ran
      dsimp only at ran
      cases outcome : statement k.clock working with
      | error e =>
        rw [outcome] at ran
        cases ran
      | ok written =>
        rw [outcome] at ran
        cases ran
        exact ⟨_, rfl, k.clock, outcome⟩
  | bind first next ih ihn =>
    simp only [Operation.run] at ran
    cases run : first.run memory k with
    | mk r mid =>
      rw [run] at ran
      cases r with
      | error e => cases ran
      | ok b =>
        obtain ⟨between, active', yields⟩ := ih active run
        obtain ⟨written, active'', yields'⟩ := ihn b active' ran
        exact ⟨written, active'', b, between, yields, yields'⟩
  | handle body translate ih =>
    simp only [Operation.run] at ran
    cases run : body.run memory k with
    | mk r mid =>
      rw [run] at ran
      cases r with
      | error e => cases ran
      | ok b =>
        cases ran
        exact ih active run
  -- inside a transaction both of these run their body only
  | transaction body ih =>
    have opened : k.active.isSome := by rw [active]; rfl
    rw [Operation.run, transaction_open opened] at ran
    exact ih active ran
  | retry body ih =>
    have opened : k.active.isSome := by rw [active]; rfl
    rw [Operation.run, retry_open opened] at ran
    exact ih active ran

/-- One run of an operation on a fresh transaction of a store, from which a session comes with a result
that is committed. -/
def Committed (memory : AppMemory) (op : Operation σ ε α) (store : σ) (a : α) (written : σ) : Prop :=
  ∃ begun ended, begun.store = store ∧ begun.active = some store ∧
    op.run memory begun = (.ok a, ended) ∧ ended.active = some written

/-- What is committed is what the operation yields on the store. -/
lemma Committed.yields {op : Operation σ ε α} {store written : σ} {a : α}
    (h : Committed memory op store a written) : op.Yields store a written := by
  obtain ⟨begun, ended, -, active, ran, last⟩ := h
  obtain ⟨written', active', yields⟩ := op.run_yields active ran
  rwa [show written' = written from Option.some.inj (active'.symm.trans last)] at yields

/-- A transaction commits one run of its body, or it raises and leaves the store alone. -/
lemma transaction_cases {op : Operation σ ε α} {k : Session σ ε} (closed : k.active = none) :
    ∃ r k', AppMemory.transaction (op.run memory) k = (r, k') ∧ k'.active = none ∧
      (∀ e, r = .error e → k'.store = k.store ∧ k'.commits = k.commits) ∧
      ∀ a, r = .ok a → Committed memory op k.store a k'.store ∧ k'.commits = k.commits + 1 := by
  rw [AppMemory.transaction, closed]
  cases beginning : k.faults k.clock with
  | some e => exact ⟨.error e, k.tick, rfl, closed, fun _ _ => ⟨rfl, rfl⟩, fun a h => by cases h⟩
  | none =>
    let begun : Session σ ε := { k.tick with active := some k.store }
    obtain ⟨store, commits, opened⟩ := op.confined memory begun rfl
    have same : ({ k.tick with active := some k.store } : Session σ ε) = begun := rfl
    dsimp only
    rw [same]
    cases run : op.run memory begun with
    | mk r ended =>
      rw [run] at store commits opened
      cases r with
      | error e =>
        exact ⟨.error e, { ended with active := none }, rfl, rfl, fun _ _ => ⟨store, commits⟩,
          fun a h => by cases h⟩
      | ok a =>
        obtain ⟨written, active⟩ := Option.isSome_iff_exists.mp opened
        have active : ended.active = some written := active
        dsimp only [Session.commit]
        cases ending : ended.faults ended.clock with
        | some e =>
          exact ⟨.error e, { ended.tick with active := none }, rfl, rfl,
            fun _ _ => ⟨store, commits⟩, fun a h => by cases h⟩
        | none =>
          simp only [active, Option.getD_some]
          refine ⟨.ok a, _, rfl, rfl, ?_, fun a' h => ?_⟩
          · intro e h
            cases h
          · cases h
            exact ⟨⟨begun, ended, rfl, rfl, run, active⟩, congrArg (· + 1) commits⟩

/-- A failed run of a transaction from a session that is as it was at the start. -/
lemma transaction_keeps {op : Operation σ ε α} {store : σ} {commits : Nat} {k k' : Session σ ε} {e : ε}
    (same : k.active = none ∧ k.store = store ∧ k.commits = commits)
    (failed : AppMemory.transaction (op.run memory) k = (.error e, k')) :
    k'.active = none ∧ k'.store = store ∧ k'.commits = commits := by
  obtain ⟨closed, rfl, rfl⟩ := same
  obtain ⟨r, k₁, run, closed', failure, -⟩ := @transaction_cases _ _ _ _ memory op k closed
  rw [failed] at run
  cases run
  exact ⟨closed', failure e rfl⟩

/-- A configured client retries one to eight times. -/
lemma AppMemory.retries_bounded : 1 ≤ memory.retries ∧ memory.retries ≤ 8 := by
  rw [AppMemory.retries]
  split
  · rename_i config _
    exact config.bounded
  · decide

/-- The runs that an envelope makes outside a transaction, and what the last of them leaves. -/
lemma retry_tried (memory : AppMemory) (op : Operation σ ε α) {k : Session σ ε}
    (closed : k.active = none) :
    ∃ n r k', 1 ≤ n ∧ n ≤ memory.retries ∧
      Tried isSerializationFailure (AppMemory.transaction (op.run memory)) n k r k' ∧
      attempts isSerializationFailure (AppMemory.transaction (op.run memory)) memory.retries k =
        (r.map some, k') ∧
      memory.retry (op.run memory) k = (r, k') ∧ k'.active = none ∧
      (∀ a, r = .ok a → Committed memory op k.store a k'.store ∧ k'.commits = k.commits + 1) ∧
      ∀ e, r = .error e → k'.store = k.store ∧ k'.commits = k.commits ∧
        (isSerializationFailure e = false ∨ n = memory.retries) := by
  obtain ⟨n, r, k', one, le, tried, loop, stop⟩ :=
    attempts_tried (Nat.one_le_iff_ne_zero.mp memory.retries_bounded.1) k
  -- the last run starts from a session on which nothing was committed since the start
  obtain ⟨k₀, ⟨closed₀, store₀, commits₀⟩, last⟩ := tried.starts
    (P := fun k₁ => k₁.active = none ∧ k₁.store = k.store ∧ k₁.commits = k.commits)
    ⟨closed, rfl, rfl⟩ fun _ _ _ same failed => transaction_keeps same failed
  obtain ⟨r₀, k₁, run, closed', failure, success⟩ := @transaction_cases _ _ _ _ memory op k₀ closed₀
  rw [last] at run
  cases run
  rw [store₀, commits₀] at failure success
  refine ⟨n, r, k', one, le, tried, loop, ?_, closed', success, fun e h => ?_⟩
  · simp only [AppMemory.retry, closed, retryLoop, loop]
    cases r with
    | ok a => rfl
    | error e => rfl
  · obtain ⟨store, commits⟩ := failure e h
    exact ⟨store, commits, stop e h⟩

/-- The retry envelope is exactly-once. Outside a transaction, whatever requests fail, `_retry` makes at
least one and at most `retries` runs of its operation, all but the last failing with a serialization
failure, and ends as the last of them: with the result of one run that was committed, the store being
what that run made of the initial store, or with the error of the last run and nothing committed, an
error that is no serialization failure unless the bound was reached. The error that stands after the
loop is not reached. Within a transaction the operation is run once, as a part of the outer unit. -/
theorem AppMemory.retry_exactlyOnce (memory : AppMemory) (op : Operation σ ε α) (k : Session σ ε) :
    (1 ≤ memory.retries ∧ memory.retries ≤ 8) ∧
    (k.active = none → ∃ n r k', 1 ≤ n ∧ n ≤ memory.retries ∧
      Tried isSerializationFailure (transaction (op.run memory)) n k r k' ∧
      memory.retry (op.run memory) k = (r, k') ∧ k'.active = none ∧
      (attempts isSerializationFailure (transaction (op.run memory)) memory.retries k).1 ≠ .ok none ∧
      (∀ a, r = .ok a → Committed memory op k.store a k'.store ∧ k'.commits = k.commits + 1) ∧
      ∀ e, r = .error e → k'.store = k.store ∧ k'.commits = k.commits ∧
        (isSerializationFailure e = false ∨ n = memory.retries)) ∧
    (k.active.isSome → memory.retry (op.run memory) k = op.run memory k) := by
  refine ⟨memory.retries_bounded, fun closed => ?_, retry_open⟩
  obtain ⟨n, r, k', one, le, tried, loop, returned, closed', success, failure⟩ :=
    retry_tried memory op closed
  refine ⟨n, r, k', one, le, tried, returned, closed', ?_, success, failure⟩
  rw [loop]
  cases r with
  | ok a => exact fun h => Option.some_ne_none a (Except.ok.inj h)
  | error e => exact fun h => by cases h

/-- A session whose first statement fails with a serialization failure. -/
def serializeOnce : Session (List Nat) PyError where
  store := []
  active := none
  faults n := if n = 1 then some (.sqlError "40001") else none
  clock := 0
  commits := 0

/-- The unit is run again and committed without a duplicate. -/
theorem AppMemory.retry_exactlyOnce_serializeOnce :
    ∃ n k', 1 ≤ n ∧ n ≤ 4 ∧
      AppMemory.retry ⟨none⟩
        ((Operation.execute fun _ (rows : List Nat) => .ok ((), rows ++ [7])).run ⟨none⟩)
          serializeOnce = (.ok (), k') ∧ k'.store = [7] ∧ k'.commits = 1 := by
  obtain ⟨n, r, k', one, le, -, returned, -⟩ := (AppMemory.retry_exactlyOnce ⟨none⟩
    (Operation.execute fun _ (rows : List Nat) => .ok ((), rows ++ [7])) serializeOnce).2.1 rfl
  have outcome := congrArg Prod.fst returned
  have store := congrArg (fun x => x.2.store) returned
  have commits := congrArg (fun x => x.2.commits) returned
  cases outcome
  exact ⟨n, k', one, le, returned, store.symm, commits.symm⟩

/-- The envelope of the consequence reports is that of a memory without a configuration. -/
lemma serializable_eq_retry {body : Action σ ε α} {k : Session σ ε} (closed : k.active = none) :
    serializable (AppMemory.transaction body) k = AppMemory.retry ⟨none⟩ body k := by
  rw [AppMemory.retry, closed]
  rfl

end

/-! ### The calls of the clients -/

section
variable {α : Type} {memory : AppMemory} {f : Database → Except PyError (α × Database)}
  {k k' : Session Database PyError}

/-- A transaction of the model under the envelope: it is run on the committed store, or nothing is
written. -/
lemma retry_unit {r : Except PyError α} (closed : k.active = none)
    (h : memory.retry ((Operation.execute fun _ => f).run memory) k = (r, k')) :
    (∀ a, r = .ok a → f k.store = .ok (a, k'.store)) ∧ ∀ e, r = .error e → k'.store = k.store := by
  obtain ⟨_, r', k₁, -, -, -, -, returned, -, success, failure⟩ := retry_tried memory
    (Operation.execute fun _ => f) closed
  rw [h] at returned
  cases returned
  refine ⟨fun a ok => ?_, fun e error => (failure e error).1⟩
  obtain ⟨_, outcome⟩ := (success a ok).1.yields
  exact outcome

variable [Engine]

/-- What `append_proposal_and_evaluation` does to the store, retries and failures included, is a step of
the clients. -/
lemma retry_proposed {p s} {r : EvaluationResult} {outcome : Except PyError (String × String)}
    (closed : k.active = none)
    (h : memory.retry
      ((Operation.execute fun _ db => appendProposalAndEvaluation db p s r).run memory) k =
        (outcome, k')) : Runs k.store (.propose p s r) k'.store .done := by
  obtain ⟨success, failure⟩ := retry_unit closed h
  cases outcome with
  | ok ids => exact .proposed (success ids rfl)
  | error e => exact failure e rfl ▸ .failed

end

end GAM
