import Mathlib.Data.Int.Log
import Mathlib.Data.Rat.Floor
import GAM.Lib.Decimal

/-!
# Decimal arithmetic by value

The operations of Python's `decimal` on values: each rounds the exact result to the precision of the
context, ties to even, and traps an overflow. What is left out are the trailing zeros of a result,
which neither `==` nor an ordering sees. A context without a precision is exact.
-/

namespace GAM.Lib

/-- An arithmetic context: the digits an operation keeps, or all of them. -/
structure Context where
  precision : Option Nat

namespace Context

/-- Arithmetic without rounding. -/
def exact : Context := ⟨none⟩

/-- The default context of `decimal`. -/
def default : Context := ⟨some Decimal.precision⟩

/-- The integer nearest to a value, ties to even. -/
def halfEven (q : ℚ) : Int := Decimal.signed (decide (q < 0)) (Decimal.divHalfEven q.num.natAbs q.den)

/-- The place of the last digit kept, or of the least subnormal. -/
def lastPlace (digits : Nat) (q : ℚ) : Int := max (Int.log 10 |q| - (digits - 1)) Decimal.etiny

/-- A value rounded to the context; `none` is the trapped overflow. -/
def round (ctx : Context) (q : ℚ) : Option ℚ :=
  match ctx.precision with
  | none => some q
  | some digits =>
    if q = 0 then some 0
    else
      let r := (halfEven (q / 10 ^ lastPlace digits q) : ℚ) * 10 ^ lastPlace digits q
      if Int.log 10 |r| ≤ 999999 then some r else none

/-- A rounded difference. -/
def sub (ctx : Context) (a b : ℚ) : Option ℚ := ctx.round (a - b)
/-- A rounded sum. -/
def add (ctx : Context) (a b : ℚ) : Option ℚ := ctx.round (a + b)
/-- A rounded absolute value. -/
def abs (ctx : Context) (a : ℚ) : Option ℚ := ctx.round |a|
/-- A rounded quotient. -/
def div (ctx : Context) (a b : ℚ) : Option ℚ := ctx.round (a / b)

/-- `quantize` to a number of places; it refuses a coefficient longer than the precision. -/
def quantize (ctx : Context) (places : Nat) (a : ℚ) : Option ℚ :=
  let coeff := halfEven (a * 10 ^ places)
  match ctx.precision with
  | none => some ((coeff : ℚ) / 10 ^ places)
  | some digits => if coeff.natAbs < 10 ^ digits then some ((coeff : ℚ) / 10 ^ places) else none

/-- Python `sum(l, start)`. -/
def sum (ctx : Context) : ℚ → List ℚ → Option ℚ
  | start, [] => some start
  | start, a :: l => do
    let s ← ctx.add start a
    ctx.sum s l

variable {ctx : Context} {q a b : ℚ}

@[simp] lemma round_exact : exact.round q = some q := rfl

/-- Rounding half to even is odd. -/
lemma halfEven_neg : halfEven (-q) = -halfEven q := by
  rw [halfEven, halfEven, Rat.neg_num, Rat.neg_den, Int.natAbs_neg]
  rcases lt_trichotomy q 0 with h | rfl | h
  · simp [Decimal.signed, h, h.le, not_lt.mpr]
  · rfl
  · simp [Decimal.signed, h, h.le, not_lt.mpr]

/-- A quotient at most an integer is rounded to at most that integer. -/
lemma divHalfEven_le_of_le {n d k : Nat} (hd : 0 < d) (h : n ≤ k * d) :
    Decimal.divHalfEven n d ≤ k := by
  have quotient : n / d ≤ k := Nat.div_le_of_le_mul (by rwa [Nat.mul_comm] at h)
  rw [Decimal.divHalfEven]
  split
  · exact quotient
  · rename_i up
    -- at the bound itself nothing is left to round up
    rcases quotient.lt_or_eq with lt | eq
    · exact lt
    · have := Nat.div_add_mod n d
      rw [eq, Nat.mul_comm] at this
      omega

/-- Rounding stays between zero and a whole bound. -/
lemma halfEven_range {k : Nat} (lower : 0 ≤ q) (upper : q ≤ k) :
    0 ≤ halfEven q ∧ halfEven q ≤ k := by
  have sign : decide (q < 0) = false := by simpa using lower
  have bound : q.num.natAbs ≤ k * q.den := by
    have num : (q.num : ℚ) ≤ k * q.den := by
      rw [← Rat.mul_den_eq_num]
      exact mul_le_mul_of_nonneg_right upper (by positivity)
    have num' : q.num ≤ k * q.den := by exact_mod_cast num
    have := Rat.num_nonneg.mpr lower
    omega
  rw [halfEven, sign]
  exact ⟨Int.natCast_nonneg _, Int.ofNat_le.mpr (divHalfEven_le_of_le q.den_pos bound)⟩

/-- An exact sum is the sum. -/
lemma sum_exact {l : List ℚ} : exact.sum a l = some (a + l.sum) := by
  induction l generalizing a with
  | nil => rw [sum, List.sum_nil, add_zero]
  | cons b l ih =>
    rw [sum, List.sum_cons, ← add_assoc]
    exact ih

/-- The last place kept does not depend on the sign. -/
lemma lastPlace_neg {digits : Nat} : lastPlace digits (-q) = lastPlace digits q := by
  rw [lastPlace, lastPlace, abs_neg]

/-- Rounding is odd. -/
lemma round_neg : ctx.round (-q) = (ctx.round q).map Neg.neg := by
  rw [round, round]
  cases ctx.precision with
  | none => rfl
  | some digits =>
    dsimp only
    by_cases hq : q = 0
    · rw [if_pos hq, if_pos (neg_eq_zero.mpr hq)]
      rfl
    · rw [if_neg hq, if_neg (neg_ne_zero.mpr hq), lastPlace_neg, neg_div, halfEven_neg]
      push_cast
      rw [neg_mul, abs_neg]
      split <;> rfl

/-- One has a single digit. -/
lemma round_one : default.round 1 = some 1 := by
  have place : lastPlace 28 1 = -27 := by
    norm_num [lastPlace, Decimal.etiny]
  have scaled : (1 : ℚ) / 10 ^ (-27 : Int) = 1000000000000000000000000000 := by norm_num
  have digits : halfEven 1000000000000000000000000000 = 1000000000000000000000000000 := rfl
  simp only [round, default, Decimal.precision, one_ne_zero, if_false, place, scaled, digits]
  norm_num

/-- Differences are symmetric up to the sign. -/
lemma sub_comm : ctx.sub b a = (ctx.sub a b).map Neg.neg := by
  rw [sub, sub, ← neg_sub a b, round_neg]

end Context

end GAM.Lib
