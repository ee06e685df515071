import Mathlib.Logic.Basic

/-!
# Bounded retries

A body that changes a state and may raise is run again after an error of a certain kind, up to a bound.
`attempts` is the loop; `Tried` says which runs it made, so that what one run preserves is preserved by
the loop.
-/

namespace GAM.Lib

variable {S ε α : Type} {again : ε → Bool} {body : S → Except ε α × S}

/-- Run a body at most `bound` times, and once more only after an error that `again` allows. There is
no result when the bound is used up without a run that ended. -/
def attempts (again : ε → Bool) (body : S → Except ε α × S) : Nat → S → Except ε (Option α) × S
  | 0, s => (.ok none, s)
  | remaining + 1, s =>
    match body s with
    | (.ok a, s') => (.ok (some a), s')
    | (.error e, s') =>
      if again e = true ∧ remaining ≠ 0 then attempts again body remaining s' else (.error e, s')

/-- A number of runs of a body, the last of which ended with the outcome; those before it failed with
errors that allow another run. -/
inductive Tried (again : ε → Bool) (body : S → Except ε α × S) : Nat → S → Except ε α → S → Prop
  | last {s r s'} : body s = (r, s') → Tried again body 1 s r s'
  | again {n s e s₁ r s'} : body s = (.error e, s₁) → again e = true → Tried again body n s₁ r s' →
      Tried again body (n + 1) s r s'

/-- The loop makes a positive number of runs within its bound and ends as the last of them, which did
not ask for another run unless the bound was reached. -/
theorem attempts_tried {bound : Nat} (positive : bound ≠ 0) (s : S) :
    ∃ n r s', 1 ≤ n ∧ n ≤ bound ∧ Tried again body n s r s' ∧
      attempts again body bound s = (r.map some, s') ∧
      ∀ e, r = .error e → again e = false ∨ n = bound := by
  induction bound generalizing s with
  | zero => exact absurd rfl positive
  | succ remaining ih =>
    cases run : body s with
    | mk r s' =>
      cases r with
      | ok a =>
        refine ⟨1, .ok a, s', Nat.le_refl 1, Nat.le_add_left 1 remaining, .last run, ?_, fun e h => ?_⟩
        · rw [attempts, run]
          rfl
        · cases h
      | error e =>
        by_cases next : again e = true ∧ remaining ≠ 0
        · obtain ⟨n, r, s₂, one, le, tried, loop, stop⟩ := ih next.2 s'
          refine ⟨n + 1, r, s₂, Nat.le_add_left 1 n, Nat.succ_le_succ le, .again run next.1 tried, ?_,
            fun e' h => (stop e' h).imp id (congrArg Nat.succ)⟩
          rw [attempts, run]
          simp only [if_pos next, loop]
        · refine ⟨1, .error e, s', Nat.le_refl 1, Nat.le_add_left 1 remaining, .last run, ?_, ?_⟩
          · rw [attempts, run]
            simp only [if_neg next]
            rfl
          · intro e' h
            cases h
            rw [not_and_or, not_not, Bool.not_eq_true] at next
            exact next.imp id fun zero => by rw [zero]

/-- What every failing run keeps holds where the last run starts. -/
theorem Tried.starts {P : S → Prop} {n : Nat} {s s' : S} {r : Except ε α}
    (h : Tried again body n s r s') (init : P s)
    (keeps : ∀ s e s₁, P s → body s = (.error e, s₁) → P s₁) :
    ∃ s₀, P s₀ ∧ body s₀ = (r, s') := by
  induction h with
  | last run => exact ⟨_, init, run⟩
  | again run _ _ ih => exact ih (keeps _ _ _ init run)

end GAM.Lib
