import GAM.Lib.Retry
import GAM.Platform

/-!
# The transactions of `AppMemory`

A session is what one `AppMemory` and the database share: what is committed, and the copy that the
statements of the open transaction see. The database may fail anything it is asked, the beginning of a
transaction, a statement or a commit: `faults` says what it answers to each request in turn, so that a
statement about every session is one about every sequence of failures. A transaction that does not
commit leaves no trace in the store.
-/

namespace GAM
open Lib

/-- The exceptions of Python: whether `except Exception` catches one, and its `sqlstate` attribute. -/
class PyException (ε : Type) where
  isException : ε → Bool
  sqlstate : ε → Option String
  /-- `MemoryIntegrityError` with a message. -/
  memoryIntegrity : String → ε
  /-- What a connection raises that was given back to the pool. -/
  connectionReleased : ε

instance : PyException PyError where
  isException _ := true
  sqlstate
    | .sqlError sqlstate => some sqlstate
    | _ => none
  memoryIntegrity := .integrity
  connectionReleased := .valueError

/-- Python `AppDbConfig`; `__post_init__` checks the bound. -/
structure AppDbConfig where
  maxSerializationRetries : Nat := 4
  bounded : 1 ≤ maxSerializationRetries ∧ maxSerializationRetries ≤ 8 := by decide

/-- Python `AppMemory`. -/
structure AppMemory where
  config : Option AppDbConfig

/-- The bound that `_retry` takes from the configuration. -/
def AppMemory.retries (memory : AppMemory) : Nat :=
  match memory.config with
  | some config => config.maxSerializationRetries
  | none => 4

/-- The state of a memory and its database. `active` is the context variable `_active`, as the copy of
the store that its transaction has made. -/
structure Session (σ ε : Type) where
  store : σ
  active : Option σ
  faults : Nat → Option ε
  clock : Nat
  commits : Nat

/-- One request has been answered. -/
def Session.tick {σ ε : Type} (k : Session σ ε) : Session σ ε := { k with clock := k.clock + 1 }

/-- What a coroutine does to a session. -/
abbrev Action (σ ε α : Type) := Session σ ε → Except ε α × Session σ ε

section
variable {σ ε α β : Type} [PyException ε]

/-- Python `_is_serialization_failure`, of an error that `except Exception` catches. -/
def isSerializationFailure (e : ε) : Bool :=
  PyException.isException e && PyException.sqlstate e == some "40001"

/-- A statement on the connection of the open transaction. What it does may depend on when it is sent. -/
def execute (statement : Nat → σ → Except ε (α × σ)) : Action σ ε α := fun k =>
  match k.active with
  | none => (.error PyException.connectionReleased, k)
  | some working =>
    match k.faults k.clock with
    | some e => (.error e, k.tick)
    | none =>
      match statement k.clock working with
      | .ok (a, written) => (.ok a, { k.tick with active := some written })
      | .error e => (.error e, k.tick)

/-- The end of a transaction whose body returned: it is committed, or the commit fails. -/
def Session.commit (k : Session σ ε) (a : α) : Except ε α × Session σ ε :=
  match k.faults k.clock with
  | some e => (.error e, { k.tick with active := none })
  | none =>
    (.ok a, { k.tick with store := k.active.getD k.store, active := none, commits := k.commits + 1 })

/-- Python `async with AppMemory.transaction()` around a body. -/
def AppMemory.transaction (body : Action σ ε α) : Action σ ε α := fun k =>
  match k.active with
  | some _ => body k
  | none =>
    match k.faults k.clock with
    | some e => (.error e, k.tick)
    | none =>
      match body { k.tick with active := some k.store } with
      | (.ok a, k') => k'.commit a
      -- the transaction is rolled back
      | (.error e, k') => (.error e, { k' with active := none })

/-- The loop of `_retry` and `_serializable`, with the error that stands after it. -/
def retryLoop (retries : Nat) (body : Action σ ε α) : Action σ ε α := fun k =>
  match attempts isSerializationFailure body retries k with
  | (.ok (some a), k') => (.ok a, k')
  | (.ok none, k') =>
    (.error (PyException.memoryIntegrity "serialization retry loop was not total"), k')
  | (.error e, k') => (.error e, k')

/-- Python `AppMemory._retry`. -/
def AppMemory.retry (memory : AppMemory) (operation : Action σ ε α) : Action σ ε α := fun k =>
  match k.active with
  | some _ => operation k
  | none => retryLoop memory.retries (transaction operation) k

/-- Python `consequences._MAX_RETRIES`. -/
def maxRetries : Nat := 4

/-- Python `consequences._serializable`. -/
def serializable (operation : Action σ ε α) : Action σ ε α := retryLoop maxRetries operation

end

/-- The operations on a store: coroutines made of statements on the connection they are given, of what
they draw from outside the store, of handlers that raise another error, and of nested units and calls
of the same memory. -/
inductive Operation (σ ε : Type) : Type → Type 1
  | done {α : Type} (a : α) : Operation σ ε α
  | raise {α : Type} (e : ε) : Operation σ ε α
  | draw {α : Type} (f : Nat → α) : Operation σ ε α
  | execute {α : Type} (statement : Nat → σ → Except ε (α × σ)) : Operation σ ε α
  | bind {α β : Type} (first : Operation σ ε β) (next : β → Operation σ ε α) : Operation σ ε α
  /-- `try: body` with `except error: raise translate(error)`. -/
  | handle {α : Type} (body : Operation σ ε α) (translate : ε → ε) : Operation σ ε α
  | transaction {α : Type} (body : Operation σ ε α) : Operation σ ε α
  | retry {α : Type} (body : Operation σ ε α) : Operation σ ε α

/-- One run of an operation of a memory. -/
def Operation.run {σ ε : Type} [PyException ε] (memory : AppMemory) {α : Type} :
    Operation σ ε α → Action σ ε α
  | .done a => fun k => (.ok a, k)
  | .raise e => fun k => (.error e, k)
  | .draw f => fun k => (.ok (f k.clock), k.tick)
  | .execute statement => GAM.execute statement
  | .bind first next => fun k =>
    match first.run memory k with
    | (.ok b, k') => (next b).run memory k'
    | (.error e, k') => (.error e, k')
  | .handle body translate => fun k =>
    match body.run memory k with
    | (.ok a, k') => (.ok a, k')
    | (.error e, k') => (.error (translate e), k')
  | .transaction body => AppMemory.transaction (body.run memory)
  | .retry body => memory.retry (body.run memory)

end GAM
