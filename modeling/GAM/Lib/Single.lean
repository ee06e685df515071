import GAM.Lib.Nearest

/-!
# Single precision

The double nearest to a single-precision number is that number, so rounding a double to single precision
gives one that is rounded to itself.
-/

namespace GAM.Lib
namespace Binary64
open Context

/-- The value of a single-precision number, without its sign: `q · 2 ^ u`, or zero. -/
structure Short (q : Nat) (u : Int) : Prop where
  bound : q < 2 ^ 24
  bottom : -149 ≤ u
  top : u ≤ 104
  normal : u = -149 ∨ 2 ^ 23 ≤ q

/-- The last bit of the single-precision number nearest to a value. -/
def singleUnit (v : ℚ) : Int := max (Int.log 2 v - 23) (-149)

/-- The significand of the single-precision number nearest to a value. -/
def singleDigits (v : ℚ) : Nat := (halfEven (v / 2 ^ singleUnit v)).natAbs

variable {neg : Bool} {E : Fin 2047} {F : Fin (2 ^ 52)} {q : Nat} {u : Int}

lemma halfEven_natCast : (halfEven (q : ℚ)).natAbs = q :=
  halfEven_near (Nat.cast_nonneg q) (by linarith) (by linarith)

/-- The binary logarithm of a shifted integer. -/
lemma log_shifted {n : Nat} (h : n ≠ 0) : Int.log 2 ((n : ℚ) * 2 ^ u) = u + Nat.log2 n := by
  obtain ⟨lower, upper⟩ := log2_bounds h
  apply log_eq
  · rw [add_comm, two_zpow_add]
    exact mul_le_mul_of_nonneg_right lower two_zpow_pos.le
  · rw [add_assoc, add_comm, two_zpow_add]
    exact mul_lt_mul_of_pos_right upper two_zpow_pos

/-- Rounding a double to single precision is rounding its value. -/
lemma toSingle_value {v : ℚ} (h : mant E F ≠ 0) (value : mant E F * 2 ^ scale E = v) :
    toSingle (.finite neg E F) =
      if (2 ^ 24 ≤ singleDigits v ∧ 103 < singleUnit v) ∨ 104 < singleUnit v then none
      else some (nearest neg (singleDigits v * 2 ^ singleUnit v)) := by
  have unit : singleUnit v = max (scale E + Nat.log2 (mant E F) - 23) (-149) := by
    rw [singleUnit, ← value, log_shifted h]
  have digits : singleDigits v = if singleUnit v ≤ scale E
      then mant E F * 2 ^ (scale E - singleUnit v).natAbs
      else Decimal.divHalfEven (mant E F) (2 ^ (singleUnit v - scale E).natAbs) := by
    have quotient : v / 2 ^ singleUnit v = mant E F * 2 ^ (scale E - singleUnit v) := by
      rw [← value, zpow_sub₀ (by norm_num), mul_div_assoc]
    rw [singleDigits, quotient]
    split
    · rename_i le
      obtain ⟨k, hk⟩ : ∃ k : Nat, scale E - singleUnit v = k := ⟨_, (Int.toNat_of_nonneg (by omega)).symm⟩
      rw [hk, Int.natAbs_natCast, zpow_natCast]
      exact_mod_cast @halfEven_natCast (mant E F * 2 ^ k)
    · rename_i lt
      obtain ⟨k, hk⟩ : ∃ k : Nat, singleUnit v - scale E = k := ⟨_, (Int.toNat_of_nonneg (by omega)).symm⟩
      rw [show scale E - singleUnit v = -(k : Int) by omega, hk, Int.natAbs_natCast, zpow_neg,
        zpow_natCast, ← div_eq_mul_inv]
      have divided := @halfEven_div (mant E F) (2 ^ k) (Nat.pow_pos (by decide))
      push_cast at divided
      rw [divided, Int.natAbs_natCast]
  rw [toSingle]
  simp only [if_neg h]
  rw [← unit, ← digits]
  split
  · rfl
  · obtain ⟨fraction, den, -⟩ := @ratio_value (singleDigits v) (singleUnit v)
    rw [ofRatio_nearest den]
    exact congrArg _ (congrArg _ fraction)

/-- The last bit of a single-precision number is its own. -/
lemma Short.unit (h : Short q u) (pos : 0 < q) : singleUnit (q * 2 ^ u) = u := by
  have most : Nat.log2 q < 24 := (Nat.log2_lt pos.ne').mpr h.bound
  have bottom := h.bottom
  rw [singleUnit, log_shifted pos.ne']
  cases h.normal with
  | inl least => omega
  | inr large =>
    have least : 23 ≤ Nat.log2 q := (Nat.le_log2 pos.ne').mpr large
    omega

/-- The significand of a single-precision number is its own. -/
lemma Short.digits (h : Short q u) (pos : 0 < q) : singleDigits (q * 2 ^ u) = q := by
  rw [singleDigits, h.unit pos, mul_div_cancel_right₀ _ two_zpow_pos.ne', halfEven_natCast]

/-- A single-precision number is a double. -/
lemma Short.double (h : Short q u) (pos : 0 < q) : ∃ E F, mant E F ≠ 0 ∧
    nearest neg (q * 2 ^ u) = .finite neg E F ∧ (mant E F : ℚ) * 2 ^ scale E = q * 2 ^ u := by
  have most : Nat.log2 q < 24 := (Nat.log2_lt pos.ne').mpr h.bound
  have bottom := h.bottom
  have top := h.top
  -- the significand is shifted until its leading bit is the 53rd
  obtain ⟨k, hk⟩ : ∃ k : Nat, k = 52 - Nat.log2 q := ⟨_, rfl⟩
  have lower : 2 ^ 52 ≤ q * 2 ^ k := by
    have := Nat.mul_le_mul_right (2 ^ k) (Nat.log2_self_le pos.ne')
    rwa [← pow_add, show Nat.log2 q + k = 52 by omega] at this
  have upper : q * 2 ^ k < 2 ^ 53 := by
    have := Nat.mul_lt_mul_of_pos_right (@Nat.lt_log2_self q) (Nat.two_pow_pos k)
    rwa [← pow_add, show Nat.log2 q + 1 + k = 53 by omega] at this
  obtain ⟨e, he⟩ : ∃ e : Nat, (e : Int) = u - k + 1075 := ⟨_, Int.toNat_of_nonneg (by omega)⟩
  let E : Fin 2047 := ⟨e, by omega⟩
  let F : Fin (2 ^ 52) := ⟨q * 2 ^ k - 2 ^ 52, by omega⟩
  have exponent : E.val = e := rfl
  have significand : mant E F = q * 2 ^ k := by
    rw [mant, if_neg (by omega)]
    show 2 ^ 52 + (q * 2 ^ k - 2 ^ 52) = q * 2 ^ k
    omega
  have bit : scale E = u - k := by
    rw [scale]
    omega
  have value : (mant E F : ℚ) * 2 ^ scale E = q * 2 ^ u := by
    rw [significand, bit, zpow_sub₀ (by norm_num)]
    push_cast
    rw [zpow_natCast]
    field_simp
  have nonzero : mant E F ≠ 0 := by omega
  refine ⟨E, F, nonzero, ?_, value⟩
  have large : (1 : ℚ) ≤ mant E F := by exact_mod_cast Nat.pos_of_ne_zero nonzero
  have bits : (0 : ℚ) < 2 ^ scale E := two_zpow_pos
  rw [← value, nearest_near (mant_canonical nonzero) ⟨?_, ?_, fun _ => ?_⟩, pack_scale]
  all_goals nlinarith

/-- A single-precision number is rounded to itself. -/
lemma Short.toSingle (h : Short q u) :
    (nearest neg (q * 2 ^ u)).toSingle = some (nearest neg (q * 2 ^ u)) := by
  by_cases zero : q = 0
  · rw [zero, Nat.cast_zero, zero_mul, nearest, if_pos rfl]
    rfl
  · have pos := Nat.pos_of_ne_zero zero
    obtain ⟨E, F, nonzero, double, value⟩ := @Short.double neg _ _ h pos
    have bound := h.bound
    have top := h.top
    rw [double, toSingle_value nonzero value, h.unit pos, h.digits pos, if_neg (by omega), double]

/-- What a value is rounded to is a single-precision number. -/
lemma short_rounded {v : ℚ} (pos : 0 < v)
    (fits : ¬((2 ^ 24 ≤ singleDigits v ∧ 103 < singleUnit v) ∨ 104 < singleUnit v)) :
    ∃ q u, Short q u ∧ (singleDigits v * 2 ^ singleUnit v : ℚ) = q * 2 ^ u := by
  have upperLog := Int.lt_zpow_succ_log_self Nat.one_lt_two v
  have lowerLog := Int.zpow_log_le_self Nat.one_lt_two pos
  push_cast at upperLog lowerLog
  have bottom : -149 ≤ singleUnit v ∧ Int.log 2 v ≤ singleUnit v + 23 := by
    rw [singleUnit]
    omega
  have most : v / 2 ^ singleUnit v ≤ (2 ^ 24 : Nat) := by
    rw [div_le_iff₀ two_zpow_pos]
    refine upperLog.le.trans ((two_zpow_le.mpr (show Int.log 2 v + 1 ≤ 24 + singleUnit v by omega)).trans ?_)
    rw [two_zpow_add]
    norm_num
  obtain ⟨nonneg, digits⟩ := halfEven_range (div_nonneg pos.le two_zpow_pos.le) most
  have bound : singleDigits v ≤ 2 ^ 24 := by
    rw [singleDigits]
    omega
  by_cases full : singleDigits v = 2 ^ 24
  · -- the significand was rounded up to the next power of two
    refine ⟨2 ^ 23, singleUnit v + 1, ⟨by decide, by omega, by omega, .inr le_rfl⟩, ?_⟩
    rw [full, two_zpow_add]
    push_cast
    ring
  · refine ⟨singleDigits v, singleUnit v, ⟨by omega, bottom.1, by omega, ?_⟩, rfl⟩
    by_cases least : singleUnit v = -149
    · exact .inl least
    · right
      have unit : Int.log 2 v = 23 + singleUnit v := by
        rw [singleUnit] at least ⊢
        omega
      have lower : ((2 ^ 23 : Nat) : ℚ) ≤ v / 2 ^ singleUnit v := by
        rw [le_div_iff₀ two_zpow_pos]
        rw [unit, two_zpow_add] at lowerLog
        refine le_trans (le_of_eq ?_) lowerLog
        norm_num
      have rounded : ((2 ^ 23 : Nat) : Int) ≤ halfEven (v / 2 ^ singleUnit v) :=
        halfEven_of_le (div_nonneg pos.le two_zpow_pos.le) (by decide) (by linarith)
      rw [singleDigits]
      omega

/-- Rounding to single precision is idempotent. -/
theorem toSingle_idem {x y : Binary64} (h : x.toSingle = some y) : y.toSingle = some y := by
  cases x with
  | infinity | nan => cases h
  | finite neg E F =>
    by_cases zero : mant E F = 0
    · simp only [toSingle, if_pos zero, Option.some.injEq] at h
      subst h
      simp only [toSingle, if_pos zero]
    · rw [toSingle_value zero rfl] at h
      split at h
      · cases h
      · rename_i fits
        have pos : (0 : ℚ) < mant E F * 2 ^ scale E :=
          mul_pos (by exact_mod_cast Nat.pos_of_ne_zero zero) two_zpow_pos
        obtain ⟨q, u, short, value⟩ := short_rounded pos fits
        rw [value] at h
        cases h
        exact short.toSingle

/-- A double that was rounded to single precision is finite. -/
lemma isFinite_of_toSingle {x y : Binary64} (h : x.toSingle = some y) : y.isFinite = true := by
  have again := toSingle_idem h
  cases y with
  | finite => rfl
  | infinity | nan => cases again

end Binary64
end GAM.Lib
