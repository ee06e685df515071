import GAM.Lib.DecimalRange

/-!
# Reading back the texts of doubles

A decimal within half a unit in the last place of a double rounds to it (`nearest_near`). Seventeen
significant digits lie that close, so their text is read as the double it was written from
(`format17_reads`).
-/

namespace GAM.Lib

namespace Binary64
open Context

/-! ### Rounding by value -/

/-- The double nearest to a nonnegative value, ties to even. -/
def nearest (neg : Bool) (v : ℚ) : Binary64 :=
  if v = 0 then ofRatio neg 0 1
  else
    let e := max (Int.log 2 v - 52) (-1074)
    let m := (halfEven (v / 2 ^ e)).natAbs
    if m = 2 ^ 53 then pack neg (2 ^ 52) (e + 1) else pack neg m e

lemma two_zpow_pos {e : Int} : (0 : ℚ) < 2 ^ e := zpow_pos (by norm_num) e

lemma two_zpow_add {a b : Int} : (2 : ℚ) ^ (a + b) = 2 ^ a * 2 ^ b := zpow_add₀ (by norm_num) a b

lemma two_zpow_lt {a b : Int} : (2 : ℚ) ^ a < 2 ^ b ↔ a < b := zpow_lt_zpow_iff_right₀ (by norm_num)

lemma two_zpow_le {a b : Int} : (2 : ℚ) ^ a ≤ 2 ^ b ↔ a ≤ b := zpow_le_zpow_iff_right₀ (by norm_num)

/-- Rounding a quotient of naturals. -/
lemma halfEven_div {n d : Nat} (hd : 0 < d) :
    halfEven ((n : ℚ) / d) = (Decimal.divHalfEven n d : Nat) := by
  have hd' : (0 : ℚ) < d := by exact_mod_cast hd
  obtain ⟨rounded, whole⟩ := @halfEven_nonneg ((n : ℚ) / d) (by positivity)
  have cross : ((n : ℚ) / d).num.natAbs * d = n * ((n : ℚ) / d).den := by
    have : (((n : ℚ) / d).num.natAbs : ℚ) * d = n * ((n : ℚ) / d).den := by
      rw [whole]
      field_simp
    exact_mod_cast this
  have reduced := Decimal.divHalfEven_scale (n := n) (d := d) ((n : ℚ) / d).den_pos
  have again := Decimal.divHalfEven_scale (n := ((n : ℚ) / d).num.natAbs) (d := ((n : ℚ) / d).den) hd
  rw [rounded, ← reduced, ← cross, Nat.mul_comm d, again]

/-- The binary logarithm, from the powers of two on both sides. -/
lemma log_eq {v : ℚ} {e : Int} (lower : 2 ^ e ≤ v) (upper : v < 2 ^ (e + 1)) : Int.log 2 v = e := by
  have pos := two_zpow_pos.trans_le lower
  have above := (Int.zpow_le_iff_le_log Nat.one_lt_two pos).mp (by exact_mod_cast lower)
  have below := (Int.lt_zpow_iff_log_lt Nat.one_lt_two pos).mp (by exact_mod_cast upper)
  omega

/-- A natural number lies between two neighbouring powers of two. -/
lemma log2_bounds {n : Nat} (hn : n ≠ 0) :
    (2 : ℚ) ^ (Nat.log2 n : Int) ≤ n ∧ (n : ℚ) < 2 ^ ((Nat.log2 n : Int) + 1) := by
  refine ⟨?_, ?_⟩
  · rw [zpow_natCast]
    exact_mod_cast Nat.log2_self_le hn
  · rw [← Nat.cast_succ, zpow_natCast]
    exact_mod_cast Nat.lt_log2_self

/-- The quotient of two naturals lies in one of two binades. -/
lemma log2_quotient {num den : Nat} (hn : num ≠ 0) (hd : den ≠ 0) :
    (2 : ℚ) ^ ((Nat.log2 num : Int) - Nat.log2 den - 1) < num / den ∧
      (num : ℚ) / den < 2 ^ ((Nat.log2 num : Int) - Nat.log2 den + 1) := by
  obtain ⟨lowerNum, upperNum⟩ := log2_bounds hn
  obtain ⟨lowerDen, upperDen⟩ := log2_bounds hd
  have pos : (0 : ℚ) < den := by exact_mod_cast Nat.pos_of_ne_zero hd
  constructor
  · rw [lt_div_iff₀ pos]
    refine lt_of_lt_of_le (mul_lt_mul_of_pos_left upperDen two_zpow_pos) ?_
    rw [← two_zpow_add]
    exact (two_zpow_le.mpr (by omega)).trans lowerNum
  · rw [div_lt_iff₀ pos]
    refine lt_of_lt_of_le upperNum ?_
    refine le_trans ?_ (mul_le_mul_of_nonneg_left lowerDen two_zpow_pos.le)
    rw [← two_zpow_add]
    exact two_zpow_le.mpr (by omega)

/-- A fraction with a power of the base moved to one of its sides. -/
lemma shifted_div {base num den : Nat} (hb : base ≠ 0) {e : Int} :
    (0 ≤ e → (num : ℚ) / (den * base ^ e.natAbs : Nat) = num / den / base ^ e) ∧
      (¬0 ≤ e → ((num * base ^ e.natAbs : Nat) : ℚ) / den = num / den / base ^ e) := by
  have hb' : (base : ℚ) ≠ 0 := by exact_mod_cast hb
  constructor
  · intro he
    lift e to Nat using he
    rw [Int.natAbs_natCast, zpow_natCast, div_div]
    push_cast
    rfl
  · intro he
    obtain ⟨k, rfl⟩ : ∃ k : Nat, e = -k := ⟨e.natAbs, by omega⟩
    rw [Int.natAbs_neg, Int.natAbs_natCast, zpow_neg, zpow_natCast]
    push_cast
    field_simp

/-- The quotient has its leading bit below place 52 exactly where the value lies below that power. -/
lemma quotient_lt {n d : Nat} {v : ℚ} {g : Int} (hd : 0 < d) (h : (n : ℚ) / d = v / 2 ^ g) :
    n < 2 ^ 52 * d ↔ v < 2 ^ (g + 52) := by
  have pos : (0 : ℚ) < d := by exact_mod_cast hd
  have power : (2 : ℚ) ^ (g + 52) = 2 ^ 52 * 2 ^ g := by
    rw [two_zpow_add, mul_comm]
    norm_num
  rw [power, ← div_lt_iff₀ two_zpow_pos, ← h, div_lt_iff₀ pos]
  exact_mod_cast Iff.rfl

/-- The corrected guess is the exponent of the value. -/
lemma guess_log {num den n d : Nat} {g : Int} (hn : num ≠ 0) (hd : den ≠ 0) (pos : 0 < d)
    (hg : g = (Nat.log2 num : Int) - Nat.log2 den - 52) (h : (n : ℚ) / d = num / den / 2 ^ g) :
    (if n < 2 ^ 52 * d then g - 1 else g) = Int.log 2 ((num : ℚ) / den) - 52 := by
  obtain ⟨lower, upper⟩ := log2_quotient hn hd
  have test := quotient_lt pos h
  split
  · rename_i less
    have log := @log_eq ((num : ℚ) / den) (g + 51)
      ((two_zpow_le.mpr (by omega)).trans lower.le)
      ((test.mp less).trans_le (two_zpow_le.mpr (by omega)))
    omega
  · rename_i more
    have log := @log_eq ((num : ℚ) / den) (g + 52) (le_of_not_gt fun less => more (test.mpr less))
      (upper.trans_le (two_zpow_le.mpr (by omega)))
    omega

lemma scaled_den {den k : Nat} (hd : den ≠ 0) : 0 < den * 2 ^ k :=
  Nat.mul_pos (Nat.pos_of_ne_zero hd) (Nat.pow_pos (by decide))

/-- Rounding a fraction is rounding its value. -/
lemma ofRatio_nearest {neg : Bool} {num den : Nat} (hd : den ≠ 0) :
    ofRatio neg num den = nearest neg (num / den) := by
  by_cases hn : num = 0
  · rw [hn, nearest, Nat.cast_zero, zero_div, if_pos rfl, ofRatio, ofRatio, if_pos rfl, if_pos rfl]
  have hd' : (den : ℚ) ≠ 0 := by exact_mod_cast hd
  have hn' : (num : ℚ) ≠ 0 := by exact_mod_cast hn
  have exponent : ∀ g, g = (Nat.log2 num : Int) - Nat.log2 den - 52 →
      (if (if 0 ≤ g then (num, den * 2 ^ g.natAbs) else (num * 2 ^ g.natAbs, den)).1 <
          2 ^ 52 * (if 0 ≤ g then (num, den * 2 ^ g.natAbs) else (num * 2 ^ g.natAbs, den)).2 then
        g - 1 else g) = Int.log 2 ((num : ℚ) / den) - 52 := by
    intro g hg
    obtain ⟨above, below⟩ := @shifted_div 2 num den (by decide) g
    by_cases sign : 0 ≤ g
    · rw [if_pos sign]
      exact guess_log hn hd (scaled_den hd) hg (above sign)
    · rw [if_neg sign]
      exact guess_log hn hd (Nat.pos_of_ne_zero hd) hg (below sign)
  have rounded : ∀ e : Int, (if 0 ≤ e then Decimal.divHalfEven num (den * 2 ^ e.natAbs)
      else Decimal.divHalfEven (num * 2 ^ e.natAbs) den) = (halfEven ((num : ℚ) / den / 2 ^ e)).natAbs := by
    intro e
    obtain ⟨above, below⟩ := @shifted_div 2 num den (by decide) e
    split
    · rename_i he
      have whole := @halfEven_div num _ (@scaled_den den e.natAbs hd)
      rw [above he] at whole
      exact (congrArg Int.natAbs whole).symm
    · rename_i he
      have whole := @halfEven_div (num * 2 ^ e.natAbs) _ (Nat.pos_of_ne_zero hd)
      rw [below he] at whole
      exact (congrArg Int.natAbs whole).symm
  rw [ofRatio, if_neg hn, nearest, if_neg (div_ne_zero hn' hd')]
  dsimp only
  rw [exponent _ rfl, rounded]

/-- Rounding a decimal is rounding its value. -/
lemma ofDecimal_nearest {neg : Bool} {coeff : Nat} {exp : Int} :
    ofDecimal neg coeff exp = nearest neg (coeff * 10 ^ exp) := by
  rw [ofDecimal]
  split
  · rename_i he
    lift exp to Nat using he
    rw [ofRatio_nearest Nat.one_ne_zero, Int.natAbs_natCast, zpow_natCast, Nat.cast_one, div_one]
    push_cast
    rfl
  · obtain ⟨k, rfl⟩ : ∃ k : Nat, exp = -k := ⟨exp.natAbs, by omega⟩
    rw [ofRatio_nearest (Nat.pow_pos (by decide)).ne', Int.natAbs_neg, Int.natAbs_natCast, zpow_neg,
      zpow_natCast, div_eq_mul_inv]
    push_cast
    rfl

/-! ### What rounds to a double -/

/-- Rounding is off by half a unit at most. -/
lemma halfEven_error {q : ℚ} (h : 0 ≤ q) :
    (halfEven q : ℚ) ≤ q + 1 / 2 ∧ q ≤ (halfEven q : ℚ) + 1 / 2 := by
  obtain ⟨rounded, whole⟩ := halfEven_nonneg h
  have pos : (0 : ℚ) < q.den := by exact_mod_cast q.den_pos
  have above := le_of_divHalfEven (le_refl (Decimal.divHalfEven q.num.natAbs q.den))
  have below : 2 * q.num.natAbs ≤ 2 * Decimal.divHalfEven q.num.natAbs q.den * q.den + q.den := by
    have parts := Nat.div_add_mod q.num.natAbs q.den
    have rest := Nat.mod_lt q.num.natAbs q.den_pos
    rcases @divHalfEven_cases q.num.natAbs q.den with ⟨e, small⟩ | ⟨e, -⟩
    · rw [e]
      nlinarith
    · rw [e]
      nlinarith
  rw [rounded, Int.cast_natCast]
  generalize Decimal.divHalfEven q.num.natAbs q.den = k at above below
  have above' : 2 * (k : ℚ) * q.den ≤ (2 * q + 1) * q.den := by
    have : (2 * k * q.den : ℚ) ≤ 2 * q.num.natAbs + q.den := by exact_mod_cast above
    linarith
  have below' : 2 * q * q.den ≤ (2 * k + 1) * q.den := by
    have : (2 * q.num.natAbs : ℚ) ≤ 2 * k * q.den + q.den := by exact_mod_cast below
    linarith
  have lower := le_of_mul_le_mul_right above' pos
  have upper := le_of_mul_le_mul_right below' pos
  exact ⟨by linarith, by linarith⟩

/-- A value is rounded to the number that lies within half a unit of it. -/
lemma halfEven_near {q : ℚ} {m : Nat} (h : 0 ≤ q) (lower : (m : ℚ) - 1 / 2 < q)
    (upper : q < m + 1 / 2) : (halfEven q).natAbs = m := by
  obtain ⟨above, below⟩ := halfEven_error h
  have less : (halfEven q : ℚ) < ((m + 1 : Int) : ℚ) := by
    push_cast
    linarith
  have more : ((m - 1 : Int) : ℚ) < halfEven q := by
    push_cast
    linarith
  have less' : halfEven q < m + 1 := by exact_mod_cast less
  have more' : (m : Int) - 1 < halfEven q := by exact_mod_cast more
  omega

/-- The significand and the scale of a double that is not zero. -/
structure Canonical (m : Nat) (e : Int) : Prop where
  pos : 0 < m
  bound : m < 2 ^ 53
  bottom : -1074 ≤ e
  normal : e = -1074 ∨ 2 ^ 52 ≤ m

/-- The values within half a unit of a double; below a power of two the unit is half as large. -/
structure Near (v : ℚ) (m : Nat) (e : Int) : Prop where
  lower : ((m : ℚ) - 1 / 2) * 2 ^ e < v
  upper : v < ((m : ℚ) + 1 / 2) * 2 ^ e
  tight : m = 2 ^ 52 → ((m : ℚ) - 1 / 4) * 2 ^ e < v

/-- A value near a double is rounded to it. -/
lemma nearest_near {neg : Bool} {v : ℚ} {m : Nat} {e : Int} (canonical : Canonical m e)
    (near : Near v m e) : nearest neg v = pack neg m e := by
  have unit : (0 : ℚ) < 2 ^ e := two_zpow_pos
  have one : (1 : ℚ) ≤ m := by exact_mod_cast canonical.pos
  have bound : (m : ℚ) + 1 ≤ 2 ^ 53 := by exact_mod_cast canonical.bound
  have pos : 0 < v := lt_trans (mul_pos (by linarith) unit) near.lower
  have lowerLog := Int.zpow_log_le_self Nat.one_lt_two pos
  have upperLog := Int.lt_zpow_succ_log_self Nat.one_lt_two v
  push_cast at lowerLog upperLog
  have scales : ∀ k : Nat, (2 : ℚ) ^ (e + k) = 2 ^ k * 2 ^ e := by
    intro k
    rw [two_zpow_add, zpow_natCast, mul_comm]
  have le : Int.log 2 v < e + 53 := by
    refine two_zpow_lt.mp (lowerLog.trans_lt (near.upper.trans ?_))
    rw [show (e + 53 : Int) = e + (53 : Nat) from rfl, scales]
    exact mul_lt_mul_of_pos_right (by linarith) unit
  have rounded : ∀ {k : Nat} {e' : Int}, ((k : ℚ) - 1 / 2) * 2 ^ e' < v →
      v < ((k : ℚ) + 1 / 2) * 2 ^ e' → (halfEven (v / 2 ^ e')).natAbs = k := by
    intro k e' lower upper
    exact halfEven_near (div_pos pos two_zpow_pos).le ((lt_div_iff₀ two_zpow_pos).mpr lower)
      ((div_lt_iff₀ two_zpow_pos).mpr upper)
  rw [nearest, if_neg pos.ne']
  dsimp only
  have bottom := canonical.bottom
  obtain same | less : max (Int.log 2 v - 52) (-1074) = e ∨ max (Int.log 2 v - 52) (-1074) < e := by
    omega
  · rw [same, rounded near.lower near.upper, if_neg canonical.bound.ne]
  -- the value lies in the binade below, so close to the power of two that it is rounded up to it
  · have normal : 2 ^ 52 ≤ m := canonical.normal.resolve_left (by omega)
    have below : v < 2 ^ 52 * 2 ^ e := by
      rw [← scales]
      exact upperLog.trans_le (two_zpow_le.mpr (by push_cast; omega))
    have power : m = 2 ^ 52 := by
      refine le_antisymm ?_ normal
      have := lt_of_mul_lt_mul_right (near.lower.trans below) unit.le
      have : (m : ℚ) < ((2 ^ 52 + 1 : Nat) : ℚ) := by
        push_cast
        linarith
      exact Nat.lt_succ_iff.mp (by exact_mod_cast this)
    have tight := near.tight power
    have log : e + 51 < Int.log 2 v + 1 := by
      refine two_zpow_lt.mp (lt_trans ?_ (tight.trans upperLog))
      rw [show (e + 51 : Int) = e + (51 : Nat) from rfl, scales, power]
      exact mul_lt_mul_of_pos_right (by norm_num) unit
    have last : max (Int.log 2 v - 52) (-1074) = e - 1 := by omega
    have half : (2 : ℚ) ^ e = 2 * 2 ^ (e - 1) := by
      rw [← zpow_one_add₀ (by norm_num)]
      congr 1
      omega
    rw [half, power] at tight
    rw [half] at below
    push_cast at tight
    have up : (halfEven (v / 2 ^ (e - 1))).natAbs = 2 ^ 53 := by
      refine rounded ?_ ?_
      · push_cast
        linarith
      · push_cast
        have : (0 : ℚ) < 2 ^ (e - 1) := two_zpow_pos
        linarith
    rw [last, up, if_pos rfl, power]
    congr 1
    omega

/-! ### Significands and decimal exponents -/

variable {neg : Bool} {E : Fin 2047} {F : Fin (2 ^ 52)}

/-- A rounded mantissa is in range with its exponent. -/
lemma mant_canonical (h : mant E F ≠ 0) : Canonical (mant E F) (scale E) := by
  have small := F.isLt
  rw [mant] at h ⊢
  rw [scale]
  split
  · rename_i zero
    rw [if_pos zero] at h
    exact ⟨Nat.pos_of_ne_zero h, by omega, by omega, .inl (by omega)⟩
  · exact ⟨by omega, by omega, by omega, .inr (by omega)⟩

/-- A double is packed from its significand and its scale. -/
lemma pack_scale : pack neg (mant E F) (scale E) = .finite neg E F := by
  have small := F.isLt
  have range := E.isLt
  have fraction : Fin.ofNat (2 ^ 52) F.val = F := Fin.ext (Nat.mod_eq_of_lt small)
  by_cases zero : E.val = 0
  · rw [mant, if_pos zero, pack, if_pos small, fraction]
    congr 1
    exact Fin.ext zero.symm
  · have exponent : (scale E + 1075).natAbs = E.val := by
      rw [scale]
      omega
    have top : ¬971 < scale E := by
      rw [scale]
      omega
    have normal : ¬mant E F < 2 ^ 52 := by
      rw [mant, if_neg zero]
      omega
    rw [pack, if_neg normal, if_neg top, exponent, mant, if_neg zero, Nat.add_sub_cancel_left,
      fraction]
    congr 1
    exact Fin.ext (Nat.mod_eq_of_lt range)

/-- The fraction of a mantissa and an exponent. -/
lemma ratio_value {m : Nat} {e : Int} :
    ((ratio m e).1 : ℚ) / (ratio m e).2 = m * 2 ^ e ∧ (ratio m e).2 ≠ 0 ∧
      (m ≠ 0 → (ratio m e).1 ≠ 0) := by
  have power {k : Nat} : 2 ^ k ≠ 0 := (Nat.pow_pos (by decide)).ne'
  rw [ratio]
  split
  · rename_i he
    lift e to Nat using he
    refine ⟨?_, Nat.one_ne_zero, fun h => Nat.mul_ne_zero h power⟩
    rw [Int.natAbs_natCast, zpow_natCast, Nat.cast_one, div_one]
    push_cast
    rfl
  · obtain ⟨k, rfl⟩ : ∃ k : Nat, e = -k := ⟨e.natAbs, by omega⟩
    refine ⟨?_, power, fun h => h⟩
    rw [Int.natAbs_neg, Int.natAbs_natCast, zpow_neg, zpow_natCast, div_eq_mul_inv]
    push_cast
    rfl

/-- A scaled fraction has the value times the power of ten. -/
lemma scaled_value {num den : Nat} {k : Int} :
    ((scaled num den k).1 : ℚ) / (scaled num den k).2 = num / den * 10 ^ k := by
  rw [scaled]
  split
  · rename_i hk
    lift k to Nat using hk
    rw [Int.natAbs_natCast, zpow_natCast]
    push_cast
    ring
  · obtain ⟨j, rfl⟩ : ∃ j : Nat, k = -j := ⟨k.natAbs, by omega⟩
    rw [Int.natAbs_neg, Int.natAbs_natCast, zpow_neg, zpow_natCast]
    push_cast
    field_simp

/-- The decimal exponent places a fraction. -/
lemma decimalExponent_bounds {num den : Nat} (hn : num ≠ 0) (hd : den ≠ 0) :
    (10 : ℚ) ^ decimalExponent num den ≤ num / den ∧
      (num : ℚ) / den < 10 ^ (decimalExponent num den + 1) := by
  have pos : (0 : ℚ) < den := by exact_mod_cast Nat.pos_of_ne_zero hd
  constructor
  · have below := @scaled_decimalExponent num den 0 hn
    have cast : ((scaled num den ((0 : Nat) - decimalExponent num den)).2 : ℚ) ≤
        (scaled num den ((0 : Nat) - decimalExponent num den)).1 := by exact_mod_cast below
    have positive : (0 : ℚ) < (scaled num den ((0 : Nat) - decimalExponent num den)).2 := by
      exact_mod_cast scaled_pos hd
    have one := (one_le_div positive).mpr cast
    rw [scaled_value, Nat.cast_zero, zero_sub, zpow_neg, ← div_eq_mul_inv,
      one_le_div Decimal.ten_zpow_pos] at one
    exact one
  · have upper : (num : ℚ) < 10 ^ (Decimal.numDigits num : Int) := by
      rw [zpow_natCast]
      exact_mod_cast lt_pow_natChars
    have lower : (10 : ℚ) ^ ((Decimal.numDigits den : Int) - 1) ≤ den := by
      have := @pow_le_natChars den hd
      have digits : 0 < Decimal.numDigits den := Decimal.numDigits_pos
      rw [show (Decimal.numDigits den : Int) - 1 = (Decimal.numDigits den - 1 : Nat) by omega,
        zpow_natCast]
      exact_mod_cast this
    have wide : (num : ℚ) / den < 10 ^ ((Decimal.numDigits num : Int) - Decimal.numDigits den + 1) := by
      rw [div_lt_iff₀ pos]
      refine lt_of_lt_of_le upper ?_
      refine le_trans (le_of_eq ?_) (mul_le_mul_of_nonneg_left lower Decimal.ten_zpow_pos.le)
      rw [← ten_zpow_add]
      congr 1
      omega
    have less {g : Int} (below : if 0 ≤ g then num < den * 10 ^ g.natAbs else
        num * 10 ^ g.natAbs < den) : (num : ℚ) / den < 10 ^ g := by
      split at below
      · rename_i hg
        lift g to Nat using hg
        rw [div_lt_iff₀ pos, zpow_natCast, mul_comm]
        exact_mod_cast below
      · obtain ⟨k, rfl⟩ : ∃ k : Nat, g = -k := ⟨g.natAbs, by omega⟩
        rw [zpow_neg, zpow_natCast, div_lt_iff₀ pos, ← div_eq_inv_mul, lt_div_iff₀ (by positivity)]
        rw [Int.natAbs_neg, Int.natAbs_natCast] at below
        exact_mod_cast below
    rw [decimalExponent]
    by_cases below : if (0 : Int) ≤ (Decimal.numDigits num : Int) - Decimal.numDigits den then
        num < den * 10 ^ ((Decimal.numDigits num : Int) - Decimal.numDigits den).natAbs
      else num * 10 ^ ((Decimal.numDigits num : Int) - Decimal.numDigits den).natAbs < den
    · rw [if_pos below, sub_add_cancel]
      exact less below
    · rw [if_neg below]
      exact wide

/-! ### The digits of a double -/

/-- A value that is off by at most a part in 2·10¹⁶ is near the double. -/
lemma near_of_error {w δ : ℚ} {m : Nat} {e : Int} (canonical : Canonical m e)
    (small : δ * (2 * 10 ^ 16) ≤ m * 2 ^ e) (lower : m * 2 ^ e - δ ≤ w) (upper : w ≤ m * 2 ^ e + δ) :
    Near w m e := by
  have unit : (0 : ℚ) < 2 ^ e := two_zpow_pos
  have bound : (m : ℚ) * 2 ^ e < 2 ^ 53 * 2 ^ e :=
    mul_lt_mul_of_pos_right (by exact_mod_cast canonical.bound) unit
  refine ⟨?_, ?_, fun power => ?_⟩
  · linarith
  · linarith
  · rw [power] at small lower ⊢
    push_cast at small lower ⊢
    linarith

/-- The digits of a double down to a place, and how near they are to it. -/
lemma digits_near {num den m k : Nat} {e x : Int} (canonical : Canonical m e) (hd : den ≠ 0)
    (value : (num : ℚ) / den = m * 2 ^ e) (hx : x = decimalExponent num den) (hk : 16 ≤ k) :
    Near (Decimal.divHalfEven (scaled num den (k - x)).1 (scaled num den (k - x)).2 * 10 ^ (x - k)) m e ∧
      10 ^ k ≤ Decimal.divHalfEven (scaled num den (k - x)).1 (scaled num den (k - x)).2 ∧
      Decimal.divHalfEven (scaled num den (k - x)).1 (scaled num den (k - x)).2 ≤ 10 ^ (k + 1) := by
  have positive : (0 : ℚ) < m * 2 ^ e := mul_pos (by exact_mod_cast canonical.pos) two_zpow_pos
  have hn : num ≠ 0 := by
    rintro rfl
    rw [Nat.cast_zero, zero_div] at value
    exact positive.ne value
  obtain ⟨low, high⟩ := decimalExponent_bounds hn hd
  rw [← hx, value] at low high
  have place : (0 : ℚ) < 10 ^ (x - k) := Decimal.ten_zpow_pos
  have inverse : (10 : ℚ) ^ (k - x) * 10 ^ (x - k) = 1 := by
    rw [← ten_zpow_add, show (k - x + (x - k) : Int) = 0 by omega, zpow_zero]
  have whole := @halfEven_div (scaled num den (k - x)).1 _ (@scaled_pos num den (k - x) hd)
  rw [scaled_value, value] at whole
  obtain ⟨above, below⟩ := halfEven_error (mul_pos positive (@Decimal.ten_zpow_pos (k - x))).le
  rw [whole, Int.cast_natCast] at above below
  -- scaled to its place the value has `k + 1` digits
  have least : (10 : ℚ) ^ k ≤ m * 2 ^ e * 10 ^ (k - x) := by
    have := mul_le_mul_of_nonneg_right low (@Decimal.ten_zpow_pos (k - x)).le
    rwa [← ten_zpow_add, show (x + (k - x) : Int) = k by omega, zpow_natCast] at this
  have most : (m : ℚ) * 2 ^ e * 10 ^ (k - x) < 10 ^ (k + 1) := by
    have := mul_lt_mul_of_pos_right high (@Decimal.ten_zpow_pos (k - x))
    rwa [← ten_zpow_add, show (x + 1 + (k - x) : Int) = (k + 1 : Nat) by push_cast; omega,
      zpow_natCast] at this
  generalize Decimal.divHalfEven (scaled num den (k - x)).1 (scaled num den (k - x)).2 = q at above below
  refine ⟨?_, ?_, ?_⟩
  · have back : (m : ℚ) * 2 ^ e * 10 ^ (k - x) * 10 ^ (x - k) = m * 2 ^ e := by
      rw [mul_assoc, inverse, mul_one]
    have above' := mul_le_mul_of_nonneg_right above place.le
    have below' := mul_le_mul_of_nonneg_right below place.le
    rw [add_mul, back] at above'
    rw [back, add_mul] at below'
    -- half a place is small against the gaps between doubles
    refine @near_of_error _ (1 / 2 * 10 ^ (x - k)) _ _ canonical ?_ (by linarith) above'
    calc 1 / 2 * (10 : ℚ) ^ (x - k) * (2 * 10 ^ 16) = 10 ^ (x - k + 16) := by
          rw [ten_zpow_add]
          norm_num
          ring
      _ ≤ 10 ^ x := ten_zpow_mono (by omega)
      _ ≤ m * 2 ^ e := low
  · have close : ((10 ^ k : Nat) : ℚ) < ((q + 1 : Nat) : ℚ) := by
      push_cast
      linarith
    exact Nat.lt_succ_iff.mp (by exact_mod_cast close)
  · have close : (q : ℚ) < ((10 ^ (k + 1) + 1 : Nat) : ℚ) := by
      push_cast
      linarith
    exact Nat.lt_succ_iff.mp (by exact_mod_cast close)

/-! ### The numbers of the texts -/

/-- The magnitude of a number token. -/
def magnitude (n : Number) : ℚ := |(Decimal.ofNumber n).value|

/-- A number token denotes the double nearest to its magnitude. -/
lemma ofNumber_nearest {n : Number} : ofNumber n = nearest n.neg (magnitude n) := by
  rw [ofNumber, magnitude, Decimal.ofNumber, Decimal.abs_value]
  exact ofDecimal_nearest

/-- The text is the token of a number with that sign and magnitude. -/
def Denotes (cs : List Char) (neg : Bool) (q : ℚ) : Prop :=
  NumberText cs ∧ ∃ n, IsToken cs n ∧ n.neg = neg ∧ magnitude n = q

lemma pointValue_nonneg {ds fs : List Char} : 0 ≤ pointValue ds fs :=
  mul_nonneg (Nat.cast_nonneg _) Decimal.ten_zpow_pos.le

/-- The magnitude of a number with an exponent. -/
lemma magnitude_parts {ds fs : List Char} {e : Option Int} (hf : Digits fs) :
    magnitude ⟨neg, Nat.ofDigitChars 10 ds 0, fs.map digitFin, e⟩ =
      pointValue ds fs * 10 ^ e.getD 0 := by
  have plain := congrArg (fun q : ℚ => |q|) (@Decimal.value_ofNumber neg ds fs hf)
  rw [Decimal.ofNumber, Decimal.abs_value, abs_mul, abs_of_nonneg pointValue_nonneg] at plain
  have sign : |if neg = true then (-1 : ℚ) else 1| = 1 := by cases neg <;> norm_num
  rw [sign, one_mul, Option.getD_none, zero_sub] at plain
  rw [magnitude, Decimal.ofNumber, Decimal.abs_value, ← plain, mul_assoc, ← ten_zpow_add]
  congr 2
  dsimp only
  omega

/-- A plain text denotes its value with the sign in front. -/
lemma denotes_plain {cs : List Char} {q : ℚ} (h : PlainOf cs q) :
    Denotes (Decimal.signChars neg ++ cs) neg q := by
  obtain ⟨ds, fs, rfl, hd, hf, rfl⟩ := h
  have token := @isToken_number neg ds fs [] none hd hf fun r hr =>
    ⟨parseExp_expChars (e := none) hr, expChars_noFrac (e := none) hr⟩
  rw [List.append_nil] at token
  refine ⟨(IsPointed.token ⟨ds, fs, rfl, hd, hf⟩).1, _, token, rfl, ?_⟩
  rw [magnitude_parts hf, Option.getD_none, zpow_zero, mul_one]

/-- A text in scientific layout is a number with the decimal exponent. -/
lemma scientific_number {cs : List Char} {bound x : Int} (h : Significant cs)
    (wide : ¬(-4 ≤ x ∧ x < bound)) : NumberText (Decimal.signChars neg ++ layout bound cs x) ∧
      ∃ n, IsToken (Decimal.signChars neg ++ layout bound cs x) n ∧ n.neg = neg ∧ n.exp = some x ∧
        magnitude n = (Nat.ofDigitChars 10 cs 0 : ℚ) * 10 ^ (x + 1 - (cs.length : Int)) := by
  obtain ⟨ds, fs, e, hd, hf, value⟩ := @pointed_plainOf cs 1 h
  have sign : (if x < 0 then '-' else '+') = if decide (x < 0) then '-' else '+' := by
    by_cases hx : x < 0 <;> simp [hx]
  rw [layout, if_neg wide]
  dsimp only
  generalize hes : (if (natChars x.natAbs).length < 2 then '0' :: natChars x.natAbs
    else natChars x.natAbs) = es
  have digits : Digits es := by
    rw [← hes]
    split
    · exact List.forall_mem_cons.mpr ⟨by decide, natChars_digit⟩
    · exact natChars_digit
  have ne : es ≠ [] := by
    rw [← hes]
    split
    · exact List.cons_ne_nil _ _
    · exact natChars_ne_nil
  have exponent : (Nat.ofDigitChars 10 es 0 : Int) = x.natAbs := by
    rw [← hes]
    split
    · rw [Nat.ofDigitChars_cons]
      exact congrArg Nat.cast ofDigitChars_natChars
    · rw [ofDigitChars_natChars]
  have shift : (if decide (x < 0) = true then -(Nat.ofDigitChars 10 es 0 : Int)
      else Nat.ofDigitChars 10 es 0) = x := by
    rw [exponent]
    by_cases hx : x < 0
    · rw [if_pos (decide_eq_true hx)]
      omega
    · rw [if_neg (by simpa using hx)]
      omega
  have token := @isToken_number neg ds fs _ _ hd hf fun r hr =>
    ⟨@parseExp_signed es r (decide (x < 0)) digits ne hr, by decide, by decide⟩
  rw [e, sign, ← List.append_assoc]
  refine ⟨(isToken_parts hd hf (isExponent_signed digits ne)).1, _, token, rfl,
    congrArg some shift, ?_⟩
  rw [magnitude_parts hf, value, Option.getD_some, shift, mul_assoc, ← ten_zpow_add]
  congr 2
  omega

/-- The text in the layout of `repr` and `"g"` denotes its digits, shifted. -/
lemma denotes_layout {cs : List Char} {bound x : Int} (h : Significant cs) :
    Denotes (Decimal.signChars neg ++ layout bound cs x) neg
      ((Nat.ofDigitChars 10 cs 0 : ℚ) * 10 ^ (x + 1 - (cs.length : Int))) := by
  by_cases plain : -4 ≤ x ∧ x < bound
  · rw [layout, if_pos plain]
    exact denotes_plain (pointed_plainOf h)
  · obtain ⟨text, n, token, sign, -, value⟩ := scientific_number h plain
    exact ⟨text, n, token, sign, value⟩

/-- Trailing zeros do not change what digits stand for. -/
lemma trimZeros_value {cs : List Char} {x : Int} :
    (Nat.ofDigitChars 10 (trimZeros cs) 0 : ℚ) * 10 ^ (x + 1 - ((trimZeros cs).length : Int)) =
      (Nat.ofDigitChars 10 cs 0 : ℚ) * 10 ^ (x + 1 - (cs.length : Int)) := by
  obtain ⟨k, hk⟩ := exists_zeros cs
  have kept : cs = trimZeros cs ++ List.replicate k '0' := hk
  generalize trimZeros cs = ds at kept
  rw [kept, Nat.ofDigitChars_append, Nat.ofDigitChars_replicate_zero, List.length_append,
    List.length_replicate]
  push_cast
  rw [mul_comm ((10 : ℚ) ^ k), mul_assoc, ← ten_zpow_nat, ← ten_zpow_add]
  congr 2
  omega

/-- A point added to a plain text leaves its value. -/
lemma plainOf_withPoint {cs : List Char} {q : ℚ} (h : PlainOf cs q) : PlainOf (withPoint cs) q := by
  rw [withPoint]
  split
  · exact h
  · rename_i none
    obtain ⟨ds, fs, rfl, hd, hf, rfl⟩ := h
    cases fs with
    | cons c fs => exact absurd (.inl (by simp [fracText])) none
    | nil =>
      refine ⟨ds, ['0'], by simp [fracText], hd, by simp [Digits], ?_⟩
      exact @pointValue_zeros ds [] 1

/-- A text in scientific notation gets no point. -/
lemma withPoint_scientific {cs : List Char} {bound x : Int} (wide : ¬(-4 ≤ x ∧ x < bound)) :
    withPoint (layout bound cs x) = layout bound cs x := by
  have exponent : 'e' ∈ layout bound cs x := by
    rw [layout, if_neg wide]
    exact List.mem_append_right _ List.mem_cons_self
  rw [withPoint, if_pos (.inr exponent)]

/-- A text with its point added denotes the laid out value. -/
lemma denotes_withPoint {cs : List Char} {bound x : Int} (h : Significant cs) :
    Denotes (Decimal.signChars neg ++ withPoint (layout bound cs x)) neg
      ((Nat.ofDigitChars 10 cs 0 : ℚ) * 10 ^ (x + 1 - (cs.length : Int))) := by
  by_cases plain : -4 ≤ x ∧ x < bound
  · rw [layout, if_pos plain]
    exact denotes_plain (plainOf_withPoint (pointed_plainOf h))
  · rw [withPoint_scientific plain]
    exact denotes_layout h

/-- The laid out digits of a number denote it, with and without the added point. -/
lemma signed_natChars {q : Nat} {bound x : Int} (h : q ≠ 0) :
    Denotes (Decimal.signChars neg ++ layout bound (trimZeros (natChars q)) x) neg
        (q * 10 ^ (x + 1 - (Decimal.numDigits q : Int))) ∧
      Denotes (Decimal.signChars neg ++ withPoint (layout bound (trimZeros (natChars q)) x)) neg
        (q * 10 ^ (x + 1 - (Decimal.numDigits q : Int))) := by
  have digits := trimZeros_significant (natChars_significant h)
  have value : (Nat.ofDigitChars 10 (trimZeros (natChars q)) 0 : ℚ) *
      10 ^ (x + 1 - ((trimZeros (natChars q)).length : Int)) =
        q * 10 ^ (x + 1 - (Decimal.numDigits q : Int)) := by
    rw [trimZeros_value, ofDigitChars_natChars, Decimal.numDigits]
  have plain := @denotes_layout neg _ bound x digits
  have pointed := @denotes_withPoint neg _ bound x digits
  rw [value] at plain pointed
  exact ⟨plain, pointed⟩

/-- The text of seventeen digits denotes a value near the double. -/
lemma format17_denotes (h : mant E F ≠ 0) : ∃ w, Near w (mant E F) (scale E) ∧
    Denotes (format17 (.finite neg E F)) neg w := by
  obtain ⟨value, hd, -⟩ := @ratio_value (mant E F) (scale E)
  have digits := digits_near (mant_canonical h) hd value rfl (le_refl 16)
  rw [format17, if_neg h]
  dsimp only
  generalize hq : Decimal.divHalfEven _ _ = q
  generalize hx : decimalExponent _ _ = x at hq digits
  rw [show ((16 : Nat) - x : Int) = 16 - x from rfl, hq] at digits
  obtain ⟨near, least, most⟩ := digits
  have some : 0 < 10 ^ 16 := Nat.pow_pos (by decide)
  by_cases carry : q = 10 ^ 17
  · rw [if_pos carry]
    have length : Decimal.numDigits (10 ^ 16) = 16 + 1 :=
      Decimal.numDigits_eq le_rfl (Nat.pow_lt_pow_right (by decide) (by decide))
    refine ⟨_, near, ?_⟩
    have text := (@signed_natChars neg (10 ^ 16) 17 (x + 1) some.ne').1
    rw [length] at text
    convert text using 1
    rw [carry, show (x + 1 + 1 - (16 + 1 : Nat) : Int) = x - (16 : Nat) + 1 by push_cast; omega,
      ten_zpow_add]
    push_cast
    ring
  · rw [if_neg carry]
    have length : Decimal.numDigits q = 16 + 1 :=
      Decimal.numDigits_eq least (lt_of_le_of_ne most carry)
    refine ⟨_, near, ?_⟩
    have text := (@signed_natChars neg q 17 x (some.trans_le least).ne').1
    rw [length] at text
    convert text using 1
    congr 2
    push_cast
    omega

/-- Doubles are far below ten to the 320. -/
lemma Near.bounded {w : ℚ} {m : Nat} {e : Int} (near : Near w m e) (bound : m < 2 ^ 53)
    (top : e ≤ 971) : w < 10 ^ 320 := by
  have significand : (m : ℚ) + 1 / 2 ≤ 2 ^ 53 := by
    have : (m : ℚ) + 1 ≤ 2 ^ 53 := by exact_mod_cast bound
    linarith
  calc w < ((m : ℚ) + 1 / 2) * 2 ^ e := near.upper
    _ ≤ 2 ^ 53 * 2 ^ (971 : Int) :=
        mul_le_mul significand (two_zpow_le.mpr top) two_zpow_pos.le (by positivity)
    _ = (2 ^ 64) ^ 16 := by
        rw [← zpow_natCast, ← two_zpow_add, ← pow_mul, ← zpow_natCast]
        norm_num
    _ < (10 ^ 20) ^ 16 := pow_lt_pow_left₀ (by norm_num) (by norm_num) (by decide)
    _ = 10 ^ 320 := by rw [← pow_mul]

/-- The text of seventeen digits is read as the double. -/
theorem format17_reads {n : Number} (h : mant E F ≠ 0)
    (token : IsToken (format17 (.finite neg E F)) n) :
    n.neg = neg ∧ ofNumber n = .finite neg E F ∧ magnitude n < 10 ^ 320 := by
  obtain ⟨w, near, -, m, token', sign, value⟩ := @format17_denotes neg E F h
  obtain rfl := token.unique token'
  have top : scale E ≤ 971 := by
    have := E.isLt
    rw [scale]
    omega
  refine ⟨sign, ?_, ?_⟩
  · rw [ofNumber_nearest, sign, value, nearest_near (mant_canonical h) near, pack_scale]
  · rw [value]
    exact near.bounded (mant_canonical h).bound top

end Binary64

end GAM.Lib
