import Mathlib.Logic.Basic

/-!
# Programs with a state and exceptions

A program takes a state to an outcome, a value or an exception, and to the state at that point: what was
changed before an exception stays changed. `attempt` is `try` with a handler that takes the place of the
rest. `Triple` says what holds after every run from a state that meets a precondition, with one rule for
each way to compose programs; the postcondition is one assertion for values and one for exceptions.
-/

namespace GAM.Lib

/-- A program on the states `S` that may raise `ε`. -/
def Program (S ε α : Type) : Type := S → Except ε α × S

namespace Program
variable {S ε α β : Type}

instance : Monad (Program S ε) where
  pure a := fun s => (.ok a, s)
  bind x f := fun s =>
    match x s with
    | (.ok a, s') => f a s'
    | (.error e, s') => (.error e, s')

/-- A computation that leaves the state alone. -/
def lift (x : Except ε α) : Program S ε α := fun s => (x, s)

/-- `try: body`, where an exception that is caught is answered, and a value goes on to `next`. -/
def attempt (caught : ε → Bool) (body : Program S ε α) (answer : Program S ε β)
    (next : α → Program S ε β) : Program S ε β := fun s =>
  match body s with
  | (.ok a, s') => next a s'
  | (.error e, s') => if caught e = true then answer s' else (.error e, s')

section
variable {x : Program S ε α} {f : α → Program S ε β} {answer : Program S ε β} {caught : ε → Bool}
  {a : α} {e : ε} {s s' : S}

/-- A run goes on from where the first program ended. -/
lemma bind_run (h : x s = (.ok a, s')) : (x >>= f) s = f a s' := by
  simp only [bind, h]

/-- An attempt that succeeds goes on with its answer. -/
lemma attempt_run (h : x s = (.ok a, s')) : attempt caught x answer f s = f a s' := by
  simp only [attempt, h]

end

/-- An assertion for each of the two outcomes. -/
def Ends (value : α → S → Prop) (raised : ε → S → Prop) : Except ε α → S → Prop
  | .ok a, s => value a s
  | .error e, s => raised e s

/-- What holds after every run from a state that meets the precondition. -/
def Triple (pre : S → Prop) (x : Program S ε α) (value : α → S → Prop) (raised : ε → S → Prop) :
    Prop :=
  ∀ s, pre s → Ends value raised (x s).1 (x s).2

variable {pre pre' : S → Prop} {x : Program S ε α} {f : α → Program S ε β}
  {value value' : α → S → Prop} {raised raised' : ε → S → Prop} {mid : α → S → Prop}
  {final : β → S → Prop}

/-- A stronger precondition, weaker assertions. -/
lemma Triple.imp (h : Triple pre x value raised) (strong : ∀ s, pre' s → pre s)
    (weak : ∀ a s, value a s → value' a s) (weak' : ∀ e s, raised e s → raised' e s) :
    Triple pre' x value' raised' := by
  intro s holds
  have ends := h s (strong s holds)
  cases run : (x s).1 with
  | ok a =>
    rw [run] at ends
    exact weak a _ ends
  | error e =>
    rw [run] at ends
    exact weak' e _ ends

/-- A fact in the precondition is a hypothesis. -/
lemma triple_given {fact : Prop} (h : fact → Triple pre x value raised) :
    Triple (fun s => fact ∧ pre s) x value raised := fun s holds => h holds.1 s holds.2

/-- The rule for an answer. -/
lemma triple_pure {a : α} (h : ∀ s, pre s → value a s) :
    Triple pre (pure a : Program S ε α) value raised := h

/-- The rule for a pure computation. -/
lemma triple_lift {c : Except ε α} (ok : ∀ a, c = .ok a → ∀ s, pre s → value a s)
    (error : ∀ e s, pre s → raised e s) : Triple pre (lift c) value raised := by
  intro s holds
  cases run : c with
  | ok a => exact ok a run s holds
  | error e => exact error e s holds

/-- The rule for a sequence. -/
lemma triple_bind (first : Triple pre x mid raised) (next : ∀ a, Triple (mid a) (f a) final raised) :
    Triple pre (x >>= f) final raised := by
  intro s holds
  have ends := first s holds
  cases run : x s with
  | mk r s' =>
    rw [run] at ends
    simp only [bind, run]
    cases r with
    | ok a => exact next a s' ends
    | error e => exact ends

/-- The handler starts where the body raised. -/
lemma triple_attempt {caught : ε → Bool} {answer : Program S ε β} {midway : S → Prop}
    (body : Triple pre x mid fun _ => midway) (handler : Triple midway answer final raised)
    (next : ∀ a, Triple (mid a) (f a) final raised) (escapes : ∀ e s, midway s → raised e s) :
    Triple pre (attempt caught x answer f) final raised := by
  intro s holds
  have ends := body s holds
  cases run : x s with
  | mk r s' =>
    rw [run] at ends
    simp only [attempt, run]
    cases r with
    | ok a => exact next a s' ends
    | error e =>
      dsimp only
      split
      · exact handler s' ends
      · exact escapes e s' ends

end Program

end GAM.Lib
