import Mathlib.Tactic.Linarith
import Mathlib.Tactic.Positivity
import GAM.Lib.DecimalContext
import GAM.Lib.DecimalNormal

/-!
# The range of the default context

A value overflows when it is rounded exactly from half a unit below the next power of ten on: the tie is
rounded to the even coefficient, which has a digit too many. `normalize` overflows on the same values.
Sums of numbers between zero and one stay below the precision, so that their mean can be quantized.
-/

namespace GAM.Lib

/-- The least magnitude that overflows when it is rounded. -/
def overflowBound : ℚ := ((10 : ℚ) ^ Decimal.precision - 1 / 2) * 10 ^ Decimal.etop

/-- The value overflows when it is rounded. -/
def TooLarge (q : ℚ) : Prop := overflowBound ≤ |q|

/-! ### Half even -/

section
variable {n d k : Nat}

/-- A rounded quotient is the quotient or one more, by the remainder. -/
lemma divHalfEven_cases :
    (Decimal.divHalfEven n d = n / d ∧ 2 * (n % d) ≤ d) ∨
      (Decimal.divHalfEven n d = n / d + 1 ∧ d ≤ 2 * (n % d)) := by
  rw [Decimal.divHalfEven]
  split <;> omega

/-- Rounding to a number takes at least half a unit less. -/
lemma le_of_divHalfEven (h : k ≤ Decimal.divHalfEven n d) : 2 * k * d ≤ 2 * n + d := by
  have split := Nat.div_add_mod n d
  rcases @divHalfEven_cases n d with ⟨e, -⟩ | ⟨e, large⟩
  · have quotient := Nat.mul_le_mul_right (2 * d) (h.trans_eq e)
    generalize n / d = a at quotient split
    generalize n % d = r at split
    nlinarith
  · have quotient := Nat.mul_le_mul_right (2 * d) (h.trans_eq e)
    generalize n / d = a at quotient split
    generalize n % d = r at split large
    nlinarith

/-- Half a unit below an even number is rounded to it. -/
lemma divHalfEven_of_le (hd : 0 < d) (even : k % 2 = 0) (h : 2 * k * d ≤ 2 * n + d) :
    k ≤ Decimal.divHalfEven n d := by
  have split := Nat.div_add_mod n d
  have rest := Nat.mod_lt n hd
  have quotient : k ≤ n / d + 1 := by
    refine le_of_not_gt fun less => ?_
    have := Nat.mul_le_mul_right (2 * d) (show n / d + 2 ≤ k from less)
    nlinarith
  rcases quotient.lt_or_eq with less | same
  · rw [Decimal.divHalfEven]
    split <;> omega
  · have tie : d ≤ 2 * (n % d) := by
      rw [same] at h
      nlinarith
    rw [Decimal.divHalfEven]
    split
    · rename_i down
      omega
    · omega

end

namespace Context

variable {q : ℚ} {k : Nat}

/-- The numerator and the denominator of a nonnegative value. -/
lemma halfEven_nonneg (h : 0 ≤ q) : halfEven q = (Decimal.divHalfEven q.num.natAbs q.den : Nat) ∧
    (q.num.natAbs : ℚ) = q * q.den := by
  have sign : decide (q < 0) = false := by simpa using h
  have num : (q.num.natAbs : ℤ) = q.num := Int.natAbs_of_nonneg (Rat.num_nonneg.mpr h)
  refine ⟨by rw [halfEven, sign]; rfl, ?_⟩
  rw [Rat.mul_den_eq_num, ← num]
  rfl

/-- The comparison of the rounded value, cross-multiplied. -/
lemma cross_iff (h : 0 ≤ q) :
    2 * k * q.den ≤ 2 * q.num.natAbs + q.den ↔ (k : ℚ) - 1 / 2 ≤ q := by
  have pos : (0 : ℚ) < q.den := by exact_mod_cast q.den_pos
  rw [← @Nat.cast_le ℚ]
  push_cast
  rw [(halfEven_nonneg h).2]
  constructor
  · intro le
    nlinarith
  · intro le
    nlinarith

/-- What is rounded to a number is at most half a unit below it. -/
lemma le_of_halfEven (h : 0 ≤ q) (le : (k : ℤ) ≤ halfEven q) : (k : ℚ) - 1 / 2 ≤ q := by
  rw [(halfEven_nonneg h).1, Int.ofNat_le] at le
  exact (cross_iff h).mp (le_of_divHalfEven le)

/-- Half a unit below an even number is rounded to it. -/
lemma halfEven_of_le (h : 0 ≤ q) (even : k % 2 = 0) (le : (k : ℚ) - 1 / 2 ≤ q) : (k : ℤ) ≤ halfEven q := by
  rw [(halfEven_nonneg h).1, Int.ofNat_le]
  exact divHalfEven_of_le q.den_pos even ((cross_iff h).mpr le)

/-! ### Powers of ten -/

lemma ten_zpow_add {a b : ℤ} : (10 : ℚ) ^ (a + b) = 10 ^ a * 10 ^ b := zpow_add₀ (by norm_num) a b

lemma ten_zpow_nat {k : Nat} : (10 : ℚ) ^ (k : ℤ) = 10 ^ k := zpow_natCast 10 k

lemma ten_zpow_mono {a b : ℤ} (h : a ≤ b) : (10 : ℚ) ^ a ≤ 10 ^ b := zpow_le_zpow_right₀ (by norm_num) h

/-- The bound lies between the two greatest powers of ten. -/
lemma bound_between : (10 : ℚ) ^ (999999 : ℤ) < overflowBound ∧ overflowBound < 10 ^ (1000000 : ℤ) := by
  have lower : (10 : ℚ) ^ (999999 : ℤ) = 10 ^ 27 * 10 ^ Decimal.etop := by
    rw [← @ten_zpow_nat 27, ← ten_zpow_add]
    rfl
  have upper : (10 : ℚ) ^ (1000000 : ℤ) = 10 ^ 28 * 10 ^ Decimal.etop := by
    rw [← @ten_zpow_nat 28, ← ten_zpow_add]
    rfl
  have pos : (0 : ℚ) < 10 ^ Decimal.etop := Decimal.ten_zpow_pos
  rw [lower, upper, overflowBound, Decimal.precision]
  generalize (10 : ℚ) ^ Decimal.etop = t at pos
  constructor
  · exact mul_lt_mul_of_pos_right (by norm_num) pos
  · exact mul_lt_mul_of_pos_right (by norm_num) pos

/-! ### Rounding -/

/-- How a positive value is rounded: its place, and the coefficient there. -/
lemma round_pos (hq : 0 < q) : default.round q =
    if Int.log 10 ((halfEven (q / 10 ^ lastPlace 28 q) : ℚ) * 10 ^ lastPlace 28 q) ≤ 999999 then
      some ((halfEven (q / 10 ^ lastPlace 28 q) : ℚ) * 10 ^ lastPlace 28 q)
    else none := by
  have coeff : 0 ≤ halfEven (q / 10 ^ lastPlace 28 q) := by
    rw [(halfEven_nonneg (div_pos hq Decimal.ten_zpow_pos).le).1]
    exact Int.natCast_nonneg _
  have nonneg : 0 ≤ (halfEven (q / 10 ^ lastPlace 28 q) : ℚ) * 10 ^ lastPlace 28 q :=
    mul_nonneg (by exact_mod_cast coeff) Decimal.ten_zpow_pos.le
  rw [round]
  simp only [default, Decimal.precision, hq.ne', if_false, abs_of_nonneg nonneg]

/-- A result below the greatest power of ten is in range. -/
lemma log_le_of_lt {r : ℚ} (nonneg : 0 ≤ r) (h : r < 10 ^ (1000000 : ℤ)) : Int.log 10 r ≤ 999999 := by
  rcases nonneg.eq_or_lt with rfl | pos
  · rw [Int.log_zero_right]
    decide
  · have below : Int.log 10 r < 1000000 := (Int.lt_zpow_iff_log_lt (by decide) pos).mp (by exact_mod_cast h)
    omega

/-- A value from ten to the millionth on has too large a logarithm. -/
lemma log_gt_of_le {r : ℚ} (h : (10 : ℚ) ^ (1000000 : ℤ) ≤ r) : ¬Int.log 10 r ≤ 999999 := by
  have pos : 0 < r := Decimal.ten_zpow_pos.trans_le h
  have above : 1000000 ≤ Int.log 10 r := (Int.zpow_le_iff_le_log (by decide) pos).mp (by exact_mod_cast h)
  omega

/-- A positive value either overflows or is rounded to a value that does not. -/
lemma round_cases (hq : 0 < q) :
    (q < overflowBound ∧ ∃ r, default.round q = some r ∧ 0 ≤ r ∧ r < overflowBound) ∨
      (overflowBound ≤ q ∧ default.round q = none) := by
  obtain ⟨low, high⟩ := bound_between
  have lower : (10 : ℚ) ^ Int.log 10 q ≤ q := by exact_mod_cast Int.zpow_log_le_self (by decide) hq
  have upper : q < (10 : ℚ) ^ (Int.log 10 q + 1) := by
    exact_mod_cast Int.lt_zpow_succ_log_self (by decide : 1 < 10) q
  have place : lastPlace 28 q = max (Int.log 10 q - 27) Decimal.etiny := by
    rw [lastPlace, abs_of_pos hq]
    norm_num
  rw [round_pos hq]
  generalize lastPlace 28 q = p at *
  generalize Int.log 10 q = l at *
  have unit : (0 : ℚ) < 10 ^ p := Decimal.ten_zpow_pos
  have scaled : 0 ≤ q / 10 ^ p := (div_pos hq unit).le
  have back : q / 10 ^ p * 10 ^ p = q := div_mul_cancel₀ q unit.ne'
  obtain ⟨n, coeff⟩ : ∃ n : Nat, halfEven (q / 10 ^ p) = n := ⟨_, (halfEven_nonneg scaled).1⟩
  have nonneg : 0 ≤ (n : ℚ) * 10 ^ p := mul_nonneg (Nat.cast_nonneg n) unit.le
  have shift (k : Nat) : (10 : ℚ) ^ k * 10 ^ p = 10 ^ (k + p) := by rw [ten_zpow_add, ten_zpow_nat]
  rw [coeff, Int.cast_natCast]
  rcases lt_trichotomy l 999999 with below | top | above
  · -- the last place is below the top one, and carrying does not leave the range
    have exponent : p ≤ 999971 := by
      rw [place]
      exact max_le (by omega) (by decide)
    have digits : q / 10 ^ p ≤ (10 ^ 28 : Nat) := by
      rw [div_le_iff₀ unit]
      rw [Nat.cast_pow, Nat.cast_ofNat, shift]
      exact upper.le.trans (ten_zpow_mono (by omega))
    have bounded : (n : ℚ) ≤ 10 ^ 28 := by
      have := (halfEven_range scaled digits).2
      rw [coeff] at this
      exact_mod_cast this
    have result : (n : ℚ) * 10 ^ p ≤ 10 ^ (999999 : ℤ) := by
      refine (mul_le_mul_of_nonneg_right bounded unit.le).trans ?_
      rw [shift]
      exact ten_zpow_mono (by omega)
    refine .inl ⟨?_, _, if_pos (log_le_of_lt nonneg ?_), nonneg, result.trans_lt low⟩
    · exact (upper.trans_le (ten_zpow_mono (by omega))).trans low
    · exact (result.trans_lt low).trans high
  · -- the top place: the range ends half a unit below the next power of ten
    have exponent : p = Decimal.etop := by
      rw [place, top]
      decide
    subst exponent
    have full : (10 : ℚ) ^ 28 * 10 ^ Decimal.etop = 10 ^ (1000000 : ℤ) := by
      rw [shift]
      rfl
    rcases Nat.lt_or_ge n (10 ^ 28) with fits | carried
    · have less : (n : ℚ) ≤ 10 ^ 28 - 1 := by
        have : (n : ℚ) + 1 ≤ 10 ^ 28 := by exact_mod_cast fits
        linarith
      have result : (n : ℚ) * 10 ^ Decimal.etop < overflowBound := by
        rw [overflowBound, Decimal.precision]
        exact mul_lt_mul_of_pos_right (by linarith) unit
      refine .inl ⟨?_, _, if_pos (log_le_of_lt nonneg (result.trans high)), nonneg, result⟩
      refine not_le.mp fun large => Nat.not_le.mpr fits ?_
      have half : ((10 ^ 28 : Nat) : ℚ) - 1 / 2 ≤ q / 10 ^ Decimal.etop := by
        rw [le_div_iff₀ unit]
        rw [overflowBound, Decimal.precision] at large
        exact_mod_cast large
      have := halfEven_of_le scaled (by decide) half
      rw [coeff] at this
      exact_mod_cast this
    · have half : ((10 ^ 28 : Nat) : ℚ) - 1 / 2 ≤ q / 10 ^ Decimal.etop := by
        refine le_of_halfEven scaled ?_
        rw [coeff]
        exact_mod_cast carried
      refine .inr ⟨?_, if_neg (log_gt_of_le ?_)⟩
      · rw [le_div_iff₀ unit] at half
        rw [overflowBound, Decimal.precision]
        exact_mod_cast half
      · rw [← full]
        exact mul_le_mul_of_nonneg_right (by exact_mod_cast carried) unit.le
  · -- the coefficient has all its digits above the range
    have exponent : p = l - 27 := by
      rw [place, max_eq_left]
      unfold Decimal.etiny
      omega
    have digits : ((10 ^ 27 : Nat) : ℚ) - 1 / 2 ≤ q / 10 ^ p := by
      rw [le_div_iff₀ unit]
      refine (mul_le_mul_of_nonneg_right (sub_le_self _ (by norm_num)) unit.le).trans ?_
      rw [Nat.cast_pow, Nat.cast_ofNat, shift, exponent]
      exact (ten_zpow_mono (by omega)).trans lower
    have bounded : (10 : ℚ) ^ 27 ≤ n := by
      have := halfEven_of_le scaled (by decide) digits
      rw [coeff] at this
      exact_mod_cast this
    refine .inr ⟨(high.le.trans (ten_zpow_mono (by omega))).trans lower, if_neg (log_gt_of_le ?_)⟩
    refine le_trans ?_ (mul_le_mul_of_nonneg_right bounded unit.le)
    rw [shift]
    exact ten_zpow_mono (by omega)

/-- A value overflows when it is rounded exactly when it is too large. -/
lemma round_none : default.round q = none ↔ TooLarge q := by
  have pos (q : ℚ) (hq : 0 < q) : default.round q = none ↔ overflowBound ≤ q := by
    rcases round_cases hq with ⟨less, r, rounded, -⟩ | ⟨large, overflow⟩
    · rw [rounded]
      exact iff_of_false (Option.some_ne_none _) (not_le.mpr less)
    · exact iff_of_true overflow large
  rcases lt_trichotomy q 0 with neg | rfl | hq
  · have flipped := @round_neg default (-q)
    rw [neg_neg] at flipped
    rw [flipped, Option.map_eq_none_iff, pos _ (neg_pos.mpr neg), TooLarge, abs_of_neg neg]
  · have zero : default.round 0 = some 0 := by
      rw [round]
      simp only [default, if_true]
    rw [zero, TooLarge, abs_zero]
    exact iff_of_false (Option.some_ne_none _) (not_le.mpr ((Decimal.ten_zpow_pos).trans bound_between.1))
  · rw [pos q hq, TooLarge, abs_of_pos hq]

/-- What is rounded does not overflow again. -/
lemma round_fits {r : ℚ} (h : default.round q = some r) : ¬TooLarge r := by
  have pos (q r : ℚ) (hq : 0 < q) (h : default.round q = some r) : ¬TooLarge r := by
    rcases round_cases hq with ⟨-, r', rounded, nonneg, less⟩ | ⟨-, overflow⟩
    · cases h.symm.trans rounded
      rw [TooLarge, abs_of_nonneg nonneg]
      exact not_le.mpr less
    · cases h.symm.trans overflow
  rcases lt_trichotomy q 0 with neg | rfl | hq
  · have flipped := @round_neg default (-q)
    rw [neg_neg, h] at flipped
    obtain ⟨r', rounded, rfl⟩ := Option.map_eq_some_iff.mp flipped.symm
    rw [TooLarge, abs_neg]
    exact pos _ _ (neg_pos.mpr neg) rounded
  · rw [round] at h
    simp only [default, if_true, Option.some.injEq] at h
    rw [← h, TooLarge, abs_zero]
    exact not_le.mpr ((Decimal.ten_zpow_pos).trans bound_between.1)
  · exact pos q r hq h

/-- A value below twenty-nine digits is not too large. -/
lemma small_not_large {k : Nat} (lower : 0 ≤ q) (upper : q ≤ k) (digits : k ≤ 10 ^ 29) : ¬TooLarge q := by
  have small : (k : ℚ) ≤ 10 ^ (29 : ℤ) := by
    have := ten_zpow_nat (k := 29)
    exact (show (k : ℚ) ≤ 10 ^ 29 by exact_mod_cast digits).trans_eq this.symm
  have power : (10 : ℚ) ^ (29 : ℤ) ≤ 10 ^ (999999 : ℤ) := ten_zpow_mono (by decide)
  rw [TooLarge, abs_of_nonneg lower]
  exact not_le.mpr ((upper.trans (small.trans power)).trans_lt bound_between.1)

/-- A coefficient that is bounded by a whole number of units gives a bounded result. -/
lemma round_le_units {m k : Nat} (hq : 0 < q) (upper : q ≤ k) (digits : k ≤ 10 ^ 29)
    (units : q / 10 ^ lastPlace 28 q ≤ m) (whole : (m : ℚ) * 10 ^ lastPlace 28 q ≤ k) :
    ∃ r, default.round q = some r ∧ 0 ≤ r ∧ r ≤ k := by
  have unit : (0 : ℚ) < 10 ^ lastPlace 28 q := Decimal.ten_zpow_pos
  have scaled : 0 ≤ q / 10 ^ lastPlace 28 q := (div_pos hq unit).le
  obtain ⟨nonneg, bounded⟩ := halfEven_range scaled units
  have rounded := round_pos hq
  split at rounded
  · refine ⟨_, rounded, mul_nonneg (by exact_mod_cast nonneg) unit.le, le_trans ?_ whole⟩
    exact mul_le_mul_of_nonneg_right (by exact_mod_cast bounded) unit.le
  · exact absurd (round_none.mp rounded) (small_not_large hq.le upper digits)

/-- The place of a value with at most 28 digits before the point is not above the units. -/
lemma lastPlace_le {e : ℤ} (hq : 0 < q) (h : q < 10 ^ (e + 28)) (he : Decimal.etiny ≤ e) :
    lastPlace 28 q ≤ e := by
  have below : Int.log 10 q < e + 28 := (Int.lt_zpow_iff_log_lt (by decide) hq).mp (by exact_mod_cast h)
  rw [lastPlace, abs_of_pos hq]
  refine max_le ?_ he
  push_cast
  omega

/-- One more than the greatest number of 28 digits is rounded back to it. -/
lemma round_plateau (lower : 10 ^ 28 ≤ q) (upper : q ≤ 10 ^ 28 + 1) :
    ∃ r, default.round q = some r ∧ 0 ≤ r ∧ r ≤ 10 ^ 28 := by
  have hq : 0 < q := lt_of_lt_of_le (by norm_num) lower
  have log : Int.log 10 q = 28 := by
    have above : 28 ≤ Int.log 10 q := by
      refine (Int.zpow_le_iff_le_log (by decide) hq).mp ?_
      rw [show (28 : ℤ) = (28 : Nat) from rfl, zpow_natCast]
      exact_mod_cast lower
    have below : Int.log 10 q < 29 := by
      refine (Int.lt_zpow_iff_log_lt (by decide) hq).mp ?_
      rw [show (29 : ℤ) = (29 : Nat) from rfl, zpow_natCast]
      exact lt_of_le_of_lt upper (by norm_num)
    omega
  have place : lastPlace 28 q = 1 := by
    rw [lastPlace, abs_of_pos hq, log]
    decide
  have rounded := round_pos hq
  rw [place, zpow_one] at rounded
  have scaled : 0 ≤ q / 10 := by positivity
  have coeff : halfEven (q / 10) ≤ 10 ^ 27 := by
    refine not_lt.mp fun more => ?_
    have half := le_of_halfEven (k := 10 ^ 27 + 1) scaled (by push_cast; omega)
    push_cast at half
    linarith
  have nonneg : (0 : ℤ) ≤ halfEven (q / 10) := by
    rw [(halfEven_nonneg scaled).1]
    exact Int.natCast_nonneg _
  split at rounded
  · refine ⟨_, rounded, mul_nonneg (by exact_mod_cast nonneg) (by norm_num), ?_⟩
    have : (halfEven (q / 10) : ℚ) ≤ 10 ^ 27 := by exact_mod_cast coeff
    linarith
  · refine absurd (round_none.mp rounded) (small_not_large (k := 10 ^ 29) hq.le ?_ (le_refl _))
    exact upper.trans (by norm_num)

/-- A value between zero and a number of at most 28 digits is rounded to such a value. -/
lemma round_le {k : Nat} (lower : 0 ≤ q) (upper : q ≤ k) (digits : k ≤ 10 ^ 28) :
    ∃ r, default.round q = some r ∧ 0 ≤ r ∧ r ≤ k := by
  rcases lower.eq_or_lt with rfl | hq
  · refine ⟨0, ?_, le_refl 0, upper⟩
    rw [round]
    simp only [default, if_true]
  have unit : (0 : ℚ) < 10 ^ lastPlace 28 q := Decimal.ten_zpow_pos
  have room : k ≤ 10 ^ 29 := digits.trans (by decide)
  rcases lt_or_ge q (10 ^ 28) with less | full
  · -- the bound is a whole number of units
    have place : lastPlace 28 q ≤ 0 := by
      refine lastPlace_le hq ?_ (by decide)
      rw [zero_add, show (28 : ℤ) = (28 : Nat) from rfl, ten_zpow_nat]
      exact less
    obtain ⟨j, hj⟩ := Int.eq_ofNat_of_zero_le (neg_nonneg.mpr place)
    have exponent : lastPlace 28 q = -(j : ℤ) := by omega
    have whole : ((k * 10 ^ j : Nat) : ℚ) * 10 ^ lastPlace 28 q = k := by
      rw [exponent, zpow_neg, ten_zpow_nat, Nat.cast_mul, Nat.cast_pow, Nat.cast_ofNat, mul_assoc,
        mul_inv_cancel₀ (pow_ne_zero j (by norm_num)), mul_one]
    refine round_le_units hq upper room ?_ whole.le
    rw [div_le_iff₀ unit, whole]
    exact upper
  · -- the value is the bound
    have size : (k : ℚ) ≤ 10 ^ 28 := by exact_mod_cast digits
    obtain ⟨r, rounded, nonneg, bounded⟩ := round_plateau full ((upper.trans size).trans (by linarith))
    exact ⟨r, rounded, nonneg, bounded.trans (full.trans upper)⟩

/-! ### Sums and means -/

/-- Adding a number between zero and one stays below the count and below the precision. -/
lemma add_bounded {s a : ℚ} {k : Nat} (hs : 0 ≤ s) (hk : s ≤ k) (top : s ≤ 10 ^ 28) (ha : 0 ≤ a)
    (one : a ≤ 1) : ∃ r, default.add s a = some r ∧ 0 ≤ r ∧ r ≤ (k + 1 : Nat) ∧ r ≤ 10 ^ 28 := by
  have count : s + a ≤ (k + 1 : Nat) := by
    push_cast
    linarith
  rw [add]
  rcases Nat.lt_or_ge k (10 ^ 28) with less | more
  · obtain ⟨r, rounded, nonneg, bounded⟩ := round_le (add_nonneg hs ha) count less
    refine ⟨r, rounded, nonneg, bounded, bounded.trans ?_⟩
    exact_mod_cast less
  · have plenty : (10 : ℚ) ^ 28 ≤ (k + 1 : Nat) := by
      have : (10 : ℚ) ^ 28 ≤ k := by exact_mod_cast more
      push_cast
      linarith
    rcases lt_or_ge (s + a) (10 ^ 28) with below | above
    · obtain ⟨r, rounded, nonneg, bounded⟩ := round_le (k := 10 ^ 28) (add_nonneg hs ha)
        (by exact_mod_cast below.le) (le_refl _)
      have bounded : r ≤ 10 ^ 28 := by exact_mod_cast bounded
      exact ⟨r, rounded, nonneg, bounded.trans plenty, bounded⟩
    · obtain ⟨r, rounded, nonneg, bounded⟩ := round_plateau above (by linarith)
      exact ⟨r, rounded, nonneg, bounded.trans plenty, bounded⟩

/-- A sum of numbers between zero and one is at most their count. -/
lemma sum_bounded {l : List ℚ} (range : ∀ a ∈ l, 0 ≤ a ∧ a ≤ 1) {s : ℚ} {k : Nat} (hs : 0 ≤ s)
    (hk : s ≤ k) (top : s ≤ 10 ^ 28) :
    ∃ r, default.sum s l = some r ∧ 0 ≤ r ∧ r ≤ (k + l.length : Nat) := by
  induction l generalizing s k with
  | nil => exact ⟨s, rfl, hs, hk⟩
  | cons a l ih =>
    obtain ⟨⟨ha, one⟩, rest⟩ := List.forall_mem_cons.mp range
    obtain ⟨s', added, hs', hk', top'⟩ := add_bounded hs hk top ha one
    obtain ⟨r, total, nonneg, bounded⟩ := ih rest hs' hk' top'
    refine ⟨r, ?_, nonneg, ?_⟩
    · rw [sum, added]
      exact total
    · rw [List.length_cons, ← Nat.add_assoc, Nat.add_right_comm]
      exact bounded

/-- A number between zero and one is quantized to one. -/
lemma quantize_bounded {a : ℚ} (ha : 0 ≤ a) (one : a ≤ 1) :
    ∃ r, default.quantize 6 a = some r := by
  have upper : a * 10 ^ 6 ≤ (10 ^ 6 : Nat) := by
    push_cast
    linarith
  obtain ⟨nonneg, bounded⟩ := halfEven_range (by positivity) upper
  have digits : (halfEven (a * 10 ^ 6)).natAbs < 10 ^ 28 := by
    push_cast at bounded
    omega
  rw [quantize]
  exact ⟨_, if_pos digits⟩

end Context

/-! ### Normalization -/

namespace Decimal
open Context

/-- The overflow bound: half a last place below ten to the millionth. -/
lemma bound_eq : overflowBound = 10 ^ (1000000 : ℤ) - 1 / 2 * 10 ^ etop := by
  have full : (10 : ℚ) ^ (1000000 : ℤ) = 10 ^ 28 * 10 ^ etop := by
    rw [← @ten_zpow_nat 28, ← ten_zpow_add]
    rfl
  rw [overflowBound, full, precision, sub_mul]

/-- The digits of a coefficient bound its value. -/
lemma coeff_bounds {c : Nat} {e : ℤ} (hc : c ≠ 0) :
    (10 : ℚ) ^ (e + numDigits c - 1) ≤ c * 10 ^ e ∧ (c : ℚ) * 10 ^ e ≤ 10 ^ (e + numDigits c) - 10 ^ e := by
  have lower : (10 : ℚ) ^ (numDigits c - 1) ≤ c := by exact_mod_cast Binary64.pow_le_natChars hc
  have upper : (c : ℚ) + 1 ≤ 10 ^ numDigits c := by
    exact_mod_cast (show c < 10 ^ numDigits c from Binary64.lt_pow_natChars)
  have pos := @numDigits_pos c
  have unit : (0 : ℚ) < 10 ^ e := ten_zpow_pos
  have low : e + (numDigits c : ℤ) - 1 = ((numDigits c - 1 : Nat) : ℤ) + e := by omega
  rw [low, ten_zpow_add, ten_zpow_nat, add_comm e, ten_zpow_add, ten_zpow_nat]
  constructor
  · exact mul_le_mul_of_nonneg_right lower unit.le
  · rw [le_sub_iff_add_le, ← add_one_mul]
    exact mul_le_mul_of_nonneg_right upper unit.le

/-- A carry into a digit too many is a value half a unit below it. -/
lemma carry_iff {c k : Nat} {e : ℤ} (he : etop - e = k) :
    10 ^ precision ≤ divHalfEven c (10 ^ k) ↔ overflowBound ≤ c * 10 ^ e := by
  have pos : 0 < 10 ^ k := ten_pow_pos
  have cross : 10 ^ precision ≤ divHalfEven c (10 ^ k) ↔ 2 * 10 ^ precision * 10 ^ k ≤ 2 * c + 10 ^ k :=
    ⟨le_of_divHalfEven, divHalfEven_of_le pos (by decide)⟩
  have top : (10 : ℚ) ^ etop = 10 ^ k * 10 ^ e := by
    rw [← ten_zpow_nat, ← ten_zpow_add, ← he, sub_add_cancel]
  have unit : (0 : ℚ) < 10 ^ e := ten_zpow_pos
  rw [cross, ← @Nat.cast_le ℚ, overflowBound, top, ← mul_assoc, mul_le_mul_iff_left₀ unit]
  push_cast
  constructor
  · intro h
    linarith
  · intro h
    linarith

/-- A coefficient overflows exactly when its value is too large. -/
lemma fix_none {c : Nat} {e : ℤ} (hc : c ≠ 0) : fix c e = none ↔ overflowBound ≤ c * 10 ^ e := by
  obtain ⟨low, high⟩ := bound_between
  obtain ⟨lower, upper⟩ := @coeff_bounds c e hc
  have unit : (0 : ℚ) < 10 ^ e := ten_zpow_pos
  have below {a : ℤ} (ha : a ≤ 999999) (h : e + numDigits c ≤ a) : ¬overflowBound ≤ c * 10 ^ e := by
    refine not_le.mpr (lt_of_le_of_lt ?_ low)
    exact (upper.trans (sub_le_self _ unit.le)).trans (ten_zpow_mono (h.trans ha))
  rw [fix]
  split
  -- the exponent alone is above the range
  · rename_i above
    refine iff_of_true rfl (high.le.trans (le_trans (ten_zpow_mono ?_) lower))
    unfold etop precision at above
    omega
  rename_i inside
  dsimp only
  generalize hm : max (e + (numDigits c : ℤ) - precision) etiny = m
  have place : m ≤ etop := by
    rw [← hm]
    exact max_le (not_lt.mp inside) (by decide)
  split
  -- digits are rounded away; only at the top place may a carry leave the range
  · rename_i short
    rcases place.eq_or_lt with top | under
    · have shift : etop - e = ((m - e).natAbs : Nat) := by omega
      rw [← carry_iff shift]
      split
      · rename_i carried
        rw [if_pos (by omega)]
        refine iff_of_true rfl (le_of_not_gt fun less => ?_)
        exact absurd ((Binary64.length_natChars_le (by decide)).mpr less) (Nat.not_le.mpr carried)
      · rename_i fits
        refine iff_of_false (Option.some_ne_none _) (Nat.not_le.mpr ?_)
        exact (Binary64.length_natChars_le (by decide)).mp (Nat.not_lt.mp fits)
    · have range : ¬overflowBound ≤ c * 10 ^ e := by
        refine below (le_refl 999999) ?_
        unfold etop precision at *
        omega
      split
      · rw [if_neg (by omega)]
        exact iff_of_false (Option.some_ne_none _) range
      · exact iff_of_false (Option.some_ne_none _) range
  · rename_i long
    refine iff_of_false (Option.some_ne_none _) ?_
    rcases lt_or_ge (e + (numDigits c : ℤ)) 1000000 with less | full
    · exact below (le_refl 999999) (by omega)
    · -- all digits are kept, so the value is a whole unit below the power of ten
      have exponent : e + numDigits c = 1000000 := by
        unfold etop precision at inside
        omega
      have units : etop ≤ e := by
        unfold etop precision at *
        omega
      have power : (10 : ℚ) ^ etop ≤ 10 ^ e := ten_zpow_mono units
      have top : (0 : ℚ) < 10 ^ etop := ten_zpow_pos
      rw [exponent] at upper
      rw [bound_eq]
      generalize (10 : ℚ) ^ (1000000 : ℤ) = t at *
      generalize (10 : ℚ) ^ etop = b at *
      linarith

/-- A finite number has no canonical text exactly when it is too large. -/
lemma canonicalChars_none {d : Decimal} (finite : d.isFinite = true) :
    d.canonicalChars = none ↔ TooLarge d.value := by
  cases d with
  | infinity | nan => cases finite
  | finite neg c e =>
  have size : |(Decimal.finite neg c e).value| = c * 10 ^ e := abs_value
  rw [TooLarge, size, canonicalChars]
  by_cases hc : c = 0
  · subst hc
    rw [isZero, beq_self_eq_true, if_pos rfl, Nat.cast_zero, zero_mul]
    exact iff_of_false (Option.some_ne_none _) (not_le.mpr (ten_zpow_pos.trans bound_between.1))
  · have zero : (Decimal.finite neg c e).isZero = false := by
      rw [isZero, beq_eq_false_iff_ne]
      exact hc
    rw [zero, if_neg Bool.false_ne_true, Option.map_eq_none_iff, ← fix_none hc, normalize, if_neg hc]
    cases fix c e with
    | none => exact iff_of_true rfl rfl
    | some fixed =>
      dsimp only
      split <;> exact iff_of_false (Option.some_ne_none _) (Option.some_ne_none _)

end Decimal

end GAM.Lib
