import Mathlib.Data.Nat.Factorization.Basic
import Mathlib.Tactic.FieldSimp
import Mathlib.Tactic.Ring
import Mathlib.Tactic.Linarith
import Mathlib.Algebra.Order.Ring.Abs
import GAM.Lib.NumberText

/-!
# Decimals by value

The canonical text of a decimal depends on its value alone, and reading it gives the value back. A
nonzero number has a base form, whose coefficient does not end in a zero; rounding and stripping
treat every other form as they treat that one. So the canonical text is a normal form: rewriting it
changes nothing, except for a negative number that underflows, whose text `-0` reads as zero.
-/

namespace GAM.Lib

namespace Decimal

/-! ### Normalization of scaled coefficients -/

lemma ten_pow_pos {k : Nat} : 0 < 10 ^ k := Nat.pow_pos (by decide)

lemma scaled_ne_zero {c k : Nat} (hc : c ≠ 0) : c * 10 ^ k ≠ 0 := Nat.mul_ne_zero hc ten_pow_pos.ne'

/-- A common factor leaves the rounded quotient as it is. -/
lemma divHalfEven_scale {n d t : Nat} (ht : 0 < t) :
    divHalfEven (n * t) (d * t) = divHalfEven n d := by
  have compare : 2 * (n % d * t) < d * t ↔ 2 * (n % d) < d := by
    rw [← Nat.mul_assoc, Nat.mul_lt_mul_right ht]
  have tie : 2 * (n % d * t) = d * t ↔ 2 * (n % d) = d := by
    rw [← Nat.mul_assoc, Nat.mul_left_inj ht.ne']
  rw [divHalfEven, divHalfEven, Nat.mul_div_mul_right _ _ ht, Nat.mul_mod_mul_right]
  simp only [compare, tie]

/-- An exact quotient is not rounded. -/
lemma divHalfEven_exact {n d : Nat} (hd : 0 < d) : divHalfEven (n * d) d = n := by
  rw [divHalfEven, Nat.mul_div_cancel _ hd, Nat.mul_mod_left]
  exact if_pos (.inl hd)

/-- The number of digits, from the powers of ten on both sides. -/
lemma numDigits_eq {n k : Nat} (lower : 10 ^ k ≤ n) (upper : n < 10 ^ (k + 1)) :
    numDigits n = k + 1 := by
  have below : numDigits n ≤ k + 1 := (Binary64.length_natChars_le (by omega)).mpr upper
  have above : ¬numDigits n ≤ k := by
    by_cases hk : k = 0
    · have := List.length_pos_iff.mpr (natChars_ne_nil (n := n))
      rw [numDigits]
      omega
    · intro h
      exact absurd ((Binary64.length_natChars_le (by omega)).mp h) (not_lt.mpr lower)
  omega

lemma numDigits_pos {n : Nat} : 0 < numDigits n := List.length_pos_iff.mpr natChars_ne_nil

/-- Zeros at the end are digits. -/
lemma numDigits_scale {c k : Nat} (hc : c ≠ 0) : numDigits (c * 10 ^ k) = numDigits c + k := by
  have lower : 10 ^ (numDigits c - 1) ≤ c := Binary64.pow_le_natChars hc
  have upper : c < 10 ^ numDigits c := Binary64.lt_pow_natChars
  have pos := @numDigits_pos c
  rw [@numDigits_eq _ (numDigits c - 1 + k)]
  · omega
  · rw [pow_add]
    exact Nat.mul_le_mul_right _ lower
  · rw [show numDigits c - 1 + k + 1 = numDigits c + k by omega, pow_add]
    exact Nat.mul_lt_mul_of_pos_right upper ten_pow_pos

/-- Stripping goes back to the base form. -/
lemma stripZeros_scale {c k : Nat} (hc : c % 10 ≠ 0) {e : Int} (he : e ≤ 999999) :
    ∀ {fuel : Nat}, k ≤ fuel → stripZeros fuel (c * 10 ^ k) (e - k) = (c, e) := by
  induction k with
  | zero =>
    intro fuel _
    rw [pow_zero, Nat.mul_one, Nat.cast_zero, sub_zero]
    cases fuel with
    | zero => rfl
    | succ fuel => rw [stripZeros, if_neg fun h => hc h.1]
  | succ k ih =>
    intro fuel hf
    obtain ⟨fuel, rfl⟩ : ∃ m, fuel = m + 1 := ⟨fuel - 1, by omega⟩
    have ends : c * 10 ^ (k + 1) % 10 = 0 := by
      rw [pow_succ, ← Nat.mul_assoc, Nat.mul_mod_left]
    have rest : c * 10 ^ (k + 1) / 10 = c * 10 ^ k := by
      rw [pow_succ, ← Nat.mul_assoc, Nat.mul_div_cancel _ (by decide)]
    rw [stripZeros, if_pos ⟨ends, by push_cast; omega⟩, rest,
      show e - ((k + 1 : Nat) : Int) + 1 = e - k by push_cast; omega]
    exact ih (by omega)

/-- The exponent a coefficient is rounded to. -/
def place (coeff : Nat) (exp : Int) : Int := max (exp + numDigits coeff - precision) etiny

/-- Rounding a scaled coefficient drops its zeros or rounds the base form. -/
lemma fix_scale {c k : Nat} (hc : c ≠ 0) {e : Int} :
    fix (c * 10 ^ k) (e - k) = fix c e ∨
      fix c e = some (c, e) ∧ e + numDigits c - precision ≤ etop ∧
        ∃ j : Nat, fix (c * 10 ^ k) (e - k) = some (c * 10 ^ j, e - j) := by
  have digits : e - k + numDigits (c * 10 ^ k) - precision = e + numDigits c - precision := by
    rw [numDigits_scale hc]
    push_cast
    omega
  simp only [fix, digits]
  by_cases above : etop < e + numDigits c - precision
  · rw [if_pos above, if_pos above]
    exact .inl rfl
  rw [if_neg above, if_neg above]
  generalize hm : max (e + (numDigits c : Int) - precision) etiny = m
  by_cases short : e < m
  · left
    have scale : 10 ^ (m - (e - k)).natAbs = 10 ^ (m - e).natAbs * 10 ^ k := by
      rw [← pow_add]
      congr 1
      omega
    rw [if_pos short, if_pos (by omega), scale, divHalfEven_scale ten_pow_pos]
  · right
    rw [if_neg short]
    refine ⟨rfl, by omega, ?_⟩
    by_cases long : e - k < m
    · obtain ⟨j, hj⟩ : ∃ j : Nat, e - j = m := ⟨(e - m).natAbs, by omega⟩
      have split : 10 ^ k = 10 ^ j * 10 ^ (m - (e - k)).natAbs := by
        rw [← pow_add]
        congr 1
        omega
      have room : ¬precision < numDigits (c * 10 ^ j) := by
        rw [numDigits_scale hc]
        omega
      refine ⟨j, ?_⟩
      rw [if_pos long, split, ← Nat.mul_assoc, divHalfEven_exact ten_pow_pos, if_neg room, hj]
    · exact ⟨k, by rw [if_neg long]⟩

/-- A number whose coefficient ends in zeros normalizes as its base form. -/
lemma normalize_scale {neg : Bool} {c k : Nat} (hc : c % 10 ≠ 0) {e : Int} :
    (finite neg (c * 10 ^ k) (e - k)).normalize = (finite neg c e).normalize := by
  have nonzero : c ≠ 0 := by
    rintro rfl
    exact hc rfl
  rw [normalize, normalize, if_neg (scaled_ne_zero nonzero), if_neg nonzero]
  rcases @fix_scale c k nonzero e with same | ⟨base, top, j, scale⟩
  · rw [same]
  · have bound : e ≤ 999999 := by
      have := @numDigits_pos c
      unfold precision etop at top
      omega
    rw [base, scale]
    dsimp only
    rw [if_neg (scaled_ne_zero nonzero), if_neg nonzero, stripZeros_scale hc bound]
    · have self := @stripZeros_scale c 0 hc e bound (numDigits c) (Nat.zero_le _)
      rw [pow_zero, Nat.mul_one, Nat.cast_zero, sub_zero] at self
      rw [self]
    · rw [numDigits_scale nonzero]
      omega

/-- Every nonzero coefficient ends in its base form and zeros. -/
lemma exists_base {n : Nat} (hn : n ≠ 0) : ∃ c k, n = c * 10 ^ k ∧ c % 10 ≠ 0 := by
  obtain ⟨k, c, hc, rfl⟩ := Nat.exists_eq_pow_mul_and_not_dvd hn 10 (by decide)
  exact ⟨c, k, Nat.mul_comm _ _, fun h => hc (Nat.dvd_of_mod_eq_zero h)⟩

/-- Zeros at the end do not change the canonical text. -/
lemma canonicalChars_scale {neg : Bool} {n k : Nat} (hn : n ≠ 0) {e : Int} :
    (finite neg (n * 10 ^ k) (e - k)).canonicalChars = (finite neg n e).canonicalChars := by
  obtain ⟨c, j, rfl, hc⟩ := exists_base hn
  have base (i : Nat) : (finite neg (c * 10 ^ i) (e + j - i)).normalize =
      (finite neg c (e + j)).normalize := normalize_scale hc
  have outer := base (j + k)
  have inner := base j
  rw [pow_add, ← Nat.mul_assoc,
    show e + (j : Int) - ((j + k : Nat) : Int) = e - k by push_cast; omega] at outer
  rw [show e + (j : Int) - j = e by omega] at inner
  have zero : (finite neg (c * 10 ^ j * 10 ^ k) (e - k)).isZero = false :=
    beq_eq_false_iff_ne.mpr (scaled_ne_zero hn)
  have zero' : (finite neg (c * 10 ^ j) e).isZero = false := beq_eq_false_iff_ne.mpr hn
  rw [canonicalChars, canonicalChars, zero, zero', outer, inner]

/-! ### Values -/

lemma ten_zpow_pos {e : Int} : (0 : ℚ) < 10 ^ e := zpow_pos (by norm_num) e

/-- A finite decimal's value, in terms of its sign, coefficient and exponent. -/
lemma value_finite {neg : Bool} {n : Nat} {e : Int} :
    (finite neg n e).value = (if neg then -1 else 1) * (n * 10 ^ e) := by
  cases neg
  · simp [value, signed]
  · simp [value, signed]

/-- The zeros are the numbers with the coefficient zero. -/
lemma value_eq_zero {d : Decimal} (finite : d.isFinite = true) :
    d.value = 0 ↔ d.isZero = true := by
  cases d with
  | finite neg n e =>
    rw [value_finite, isZero, beq_iff_eq]
    have pos := @ten_zpow_pos e
    cases neg <;> simp [pos.ne']
  | infinity neg => cases finite
  | nan => cases finite

/-- A coefficient at a smaller exponent has the missing zeros. -/
lemma scaled_of_value {m n : Nat} {d e : Int} (h : (m : ℚ) * 10 ^ d = n * 10 ^ e) (le : d ≤ e) :
    ∃ k : Nat, m = n * 10 ^ k ∧ d = e - k := by
  obtain ⟨k, rfl⟩ : ∃ k : Nat, d = e - k := ⟨(e - d).natAbs, by omega⟩
  refine ⟨k, ?_, rfl⟩
  have split : (10 : ℚ) ^ e = 10 ^ k * 10 ^ (e - (k : Int)) := by
    rw [← zpow_natCast, ← zpow_add₀ (by norm_num)]
    congr 1
    omega
  rw [split, ← mul_assoc] at h
  exact_mod_cast mul_right_cancel₀ ten_zpow_pos.ne' h

/-- The canonical text depends on the value alone. -/
lemma canonicalChars_congr {a b : Decimal} (ha : a.isFinite = true) (hb : b.isFinite = true)
    (h : a.value = b.value) : a.canonicalChars = b.canonicalChars := by
  cases zero : a.isZero with
  | true =>
    have zero' : b.isZero = true := by
      rw [← value_eq_zero hb, ← h, value_eq_zero ha]
      exact zero
    rw [canonicalChars, canonicalChars, zero, zero', if_pos rfl, if_pos rfl]
  | false =>
    have zero' : b.isZero = false := by
      rw [← Bool.not_eq_true, ← value_eq_zero hb, ← h, value_eq_zero ha, zero]
      decide
    cases a with
    | infinity neg => cases ha
    | nan => cases ha
    | finite neg m d =>
    cases b with
    | infinity neg => cases hb
    | nan => cases hb
    | finite neg' n e =>
    have hm : m ≠ 0 := beq_eq_false_iff_ne.mp zero
    have hn : n ≠ 0 := beq_eq_false_iff_ne.mp zero'
    have hm' : (0 : ℚ) < m * 10 ^ d := mul_pos (by exact_mod_cast Nat.pos_of_ne_zero hm) ten_zpow_pos
    have hn' : (0 : ℚ) < n * 10 ^ e := mul_pos (by exact_mod_cast Nat.pos_of_ne_zero hn) ten_zpow_pos
    rw [value_finite, value_finite] at h
    -- nonzero numbers of one value have one sign and one magnitude
    have sign : neg = neg' ∧ (m : ℚ) * 10 ^ d = n * 10 ^ e := by
      cases neg <;> cases neg' <;> simp only [Bool.false_eq_true, if_true, if_false] at h
      · exact ⟨rfl, by linarith⟩
      · linarith
      · linarith
      · exact ⟨rfl, by linarith⟩
    obtain ⟨rfl, magnitude⟩ := sign
    rcases le_total d e with le | le
    · obtain ⟨k, rfl, rfl⟩ := scaled_of_value magnitude le
      exact canonicalChars_scale hn
    · obtain ⟨k, rfl, rfl⟩ := scaled_of_value magnitude.symm le
      exact (canonicalChars_scale hm).symm

/-! ### Literals within the limits of the constructor -/

/-- A further digit lengthens a number by at most one. -/
lemma numDigits_digit {c d : Nat} (hd : d < 10) : numDigits (10 * c + d) ≤ numDigits c + 1 := by
  refine (Binary64.length_natChars_le (by omega)).mpr ?_
  have upper : c < 10 ^ numDigits c := Binary64.lt_pow_natChars
  rw [pow_succ]
  omega

/-- A number read from further digits is longer by at most their number. -/
lemma numDigits_foldl {ds : List (Fin 10)} {c : Nat} :
    numDigits (ds.foldl (fun c d => 10 * c + d.val) c) ≤ numDigits c + ds.length := by
  induction ds generalizing c with
  | nil => exact le_refl _
  | cons d ds ih =>
    have first := @numDigits_digit c d.val d.isLt
    have rest := @ih (10 * c + d.val)
    rw [List.foldl_cons, List.length_cons]
    omega

/-- A short literal without an exponent is within the limits. -/
lemma accepts_of_short {n : Number} (plain : n.exp = none)
    (short : n.print.length ≤ 100000000000000000) : accepts n = true := by
  have digits := @numDigits_foldl n.frac n.int
  have fraction : n.frac.length ≤ (fracChars n.frac).length := by
    cases n.frac <;> simp [fracChars]
  have length : (natChars n.int).length + (fracChars n.frac).length ≤ n.print.length := by
    simp only [Number.print, List.length_append]
    omega
  simp only [accepts, ofNumber, plain, Option.getD_none, Bool.and_eq_true, maxDigits, minExponent]
  rw [show numDigits n.int = (natChars n.int).length from rfl] at digits
  refine ⟨⟨⟨?_, ?_⟩, ?_⟩, ?_⟩ <;> exact decide_eq_true (by omega)

/-! ### Normal forms -/

/-- A coefficient at its exponent fits the context. -/
structure Fits (c : Nat) (e : Int) : Prop where
  digits : numDigits c ≤ precision
  bottom : etiny ≤ e
  top : e + numDigits c - precision ≤ etop

/-- Rounding adds at most one. -/
lemma divHalfEven_le {n d : Nat} : divHalfEven n d ≤ n / d + 1 := by
  rw [divHalfEven]
  split <;> omega

/-- A rounded number fits. -/
lemma fix_fits {c c' : Nat} {e e' : Int} (h : fix c e = some (c', e')) : Fits c' e' := by
  rw [fix] at h
  split at h
  · cases h
  rename_i top
  dsimp only at h
  split at h
  · rename_i short
    generalize hm : max (e + (numDigits c : Int) - precision) etiny = m at h short
    have small : divHalfEven c (10 ^ (m - e).natAbs) ≤ 10 ^ precision := by
      have upper : c < 10 ^ numDigits c := Binary64.lt_pow_natChars
      have exponents : numDigits c ≤ precision + (m - e).natAbs := by omega
      have quotient : c / 10 ^ (m - e).natAbs < 10 ^ precision := by
        rw [Nat.div_lt_iff_lt_mul ten_pow_pos, ← pow_add]
        exact upper.trans_le (Nat.pow_le_pow_right (by decide) exponents)
      exact divHalfEven_le.trans quotient
    split at h
    · split at h
      · cases h
      · cases h
        have room : numDigits (divHalfEven c (10 ^ (m - e).natAbs) / 10) ≤ precision := by
          refine (Binary64.length_natChars_le (by decide)).mpr ?_
          have strict : (10 : Nat) ^ precision / 10 < 10 ^ precision := by decide
          exact (Nat.div_le_div_right small).trans_lt strict
        refine ⟨room, ?_, ?_⟩ <;> unfold etiny etop at * <;> omega
    · cases h
      refine ⟨by omega, ?_, ?_⟩ <;> unfold etiny etop at * <;> omega
  · cases h
    refine ⟨by omega, ?_, ?_⟩ <;> omega

/-- A fitting coefficient is not rounded. -/
lemma Fits.fix {c : Nat} {e : Int} (h : Fits c e) : Decimal.fix c e = some (c, e) := by
  have top := h.top
  have digits := h.digits
  have bottom := h.bottom
  rw [Decimal.fix, if_neg (by omega)]
  dsimp only
  rw [if_neg (by omega)]

/-- A normalized number has a base that fits. -/
lemma normalize_fits {neg neg' : Bool} {c c' : Nat} {e e' : Int} (hc : c' ≠ 0)
    (h : (finite neg c e).normalize = some (finite neg' c' e')) : c' % 10 ≠ 0 ∧ Fits c' e' := by
  rw [normalize] at h
  split at h
  · cases h
    exact absurd rfl hc
  cases hfix : fix c e with
  | none =>
    rw [hfix] at h
    cases h
  | some fixed =>
    obtain ⟨c₁, e₁⟩ := fixed
    rw [hfix] at h
    dsimp only at h
    split at h
    · cases h
      exact absurd rfl hc
    rename_i nonzero
    have fits := fix_fits hfix
    obtain ⟨b, k, rfl, hb⟩ := exists_base nonzero
    have base : b ≠ 0 := by
      rintro rfl
      exact hb rfl
    have digits := fits.digits
    have bottom := fits.bottom
    have top := fits.top
    rw [numDigits_scale base] at digits top
    have pos := @numDigits_pos b
    have bound : e₁ + k ≤ 999999 := by
      unfold precision etop at top
      omega
    have strip := @stripZeros_scale b k hb (e₁ + k) bound (numDigits (b * 10 ^ k))
      (by rw [numDigits_scale base]; omega)
    rw [show e₁ + (k : Int) - k = e₁ by omega] at strip
    rw [strip] at h
    have fitsBase : Fits b (e₁ + k) := ⟨by omega, by omega, by omega⟩
    cases h
    exact ⟨hb, fitsBase⟩

/-- The length of a text with its point placed. -/
lemma pointed_length {digits : List Char} {place : Int} :
    (pointed digits place).length ≤ digits.length + place.natAbs + 2 := by
  rw [pointed]
  split
  · simp only [List.length_cons, List.length_append, List.length_replicate]
    omega
  split
  · rw [List.length_append, List.length_replicate]
    omega
  · rw [List.length_append, List.length_cons, List.length_take, List.length_drop]
    omega

/-- Dropping trailing zeros and a bare point does not lengthen a text. -/
lemma trimPoint_length {l : List Char} : (trimPoint l).length ≤ l.length := by
  rw [trimPoint]
  split
  · have zeros := (l.reverse.dropWhile_suffix (· = '0')).length_le
    have points := ((l.reverse.dropWhile (· = '0')).dropWhile_suffix (· = '.')).length_le
    rw [List.length_reverse] at zeros ⊢
    exact points.trans zeros
  · exact le_refl _

/-- A canonical text is as long as the exponents of the context allow. -/
lemma canonicalChars_length {d : Decimal} {cs : List Char} (finite : d.isFinite = true)
    (h : d.canonicalChars = some cs) : cs.length ≤ 1000057 := by
  rw [canonicalChars] at h
  split at h
  · cases h
    decide
  obtain ⟨d', hd', rfl⟩ := Option.map_eq_some_iff.mp h
  cases d with
  | infinity | nan => cases finite
  | finite neg c e =>
    obtain ⟨c', e', rfl, zero⟩ := normalize_finite hd'
    refine trimPoint_length.trans ?_
    by_cases hc : c' = 0
    · rw [hc, zero hc]
      cases neg <;> decide
    obtain ⟨-, digits, bottom, top⟩ := normalize_fits hc hd'
    have sign : (signChars neg).length ≤ 1 := by cases neg <;> decide
    have point := @pointed_length (natChars c') (e' + numDigits c')
    unfold precision etiny etop at *
    rw [plainChars, List.length_append]
    rw [show (natChars c').length = numDigits c' from rfl] at point
    omega

/-- A base that fits is its own normal form. -/
lemma Fits.normalize {neg : Bool} {c : Nat} {e : Int} (hc : c % 10 ≠ 0) (h : Fits c e) :
    (finite neg c e).normalize = some (finite neg c e) := by
  have base : c ≠ 0 := by
    rintro rfl
    exact hc rfl
  have bound : e ≤ 999999 := by
    have pos := @numDigits_pos c
    have top := h.top
    unfold precision etop at top
    omega
  have again := @stripZeros_scale c 0 hc e bound (numDigits c) (Nat.zero_le _)
  rw [pow_zero, Nat.mul_one, Nat.cast_zero, sub_zero] at again
  rw [Decimal.normalize, if_neg base, h.fix]
  dsimp only
  rw [if_neg base, again]

/-- Normalizing a normalized number changes nothing. -/
lemma normalize_idem {neg neg' : Bool} {c c' : Nat} {e e' : Int} (hc : c' ≠ 0)
    (h : (finite neg c e).normalize = some (finite neg' c' e')) :
    (finite neg' c' e').normalize = some (finite neg' c' e') := by
  obtain ⟨base, fits⟩ := normalize_fits hc h
  exact fits.normalize base

/-! ### Reading the canonical text -/

/-- The decimal a plain token denotes has the value of its digits. -/
lemma value_ofNumber {neg : Bool} {ds fs : List Char} (hf : Digits fs) :
    (ofNumber ⟨neg, Nat.ofDigitChars 10 ds 0, fs.map digitFin, none⟩).value =
      (if neg then -1 else 1) * pointValue ds fs := by
  have coefficient : ∀ (fs : List Char) (c : Nat), Digits fs →
      (fs.map digitFin).foldl (fun c (d : Fin 10) => 10 * c + d.val) c =
        Nat.ofDigitChars 10 fs c := by
    intro fs
    induction fs with
    | nil =>
      intro c _
      rw [Nat.ofDigitChars_nil]
      rfl
    | cons d fs ih =>
      intro c h
      have digit : (digitFin d).val = d.toNat - '0'.toNat := by
        have hd := h d List.mem_cons_self
        simp only [Char.isDigit, Bool.and_eq_true, decide_eq_true_eq, ge_iff_le,
          UInt32.le_iff_toNat_le] at hd
        obtain ⟨-, upper⟩ := hd
        have bound : d.toNat ≤ 57 := upper
        change (d.toNat - 48) % 10 = d.toNat - 48
        omega
      rw [List.map_cons, List.foldl_cons, Nat.ofDigitChars_cons, digit]
      exact ih _ fun x hx => h x (List.mem_cons_of_mem _ hx)
  rw [ofNumber, value_finite, coefficient fs _ hf, ← Nat.ofDigitChars_append, List.length_map,
    pointValue, Option.getD_none, zero_sub]

/-- The plain text of a number without its trailing zeros is a token of its value. -/
lemma plainChars_value {neg : Bool} {c : Nat} {e : Int} (hc : c ≠ 0) {n : Number}
    (h : IsToken (trimPoint (finite neg c e).plainChars) n) :
    (ofNumber n).value = (finite neg c e).value := by
  have plain := @pointed_plainOf (natChars c) (e + numDigits c) (natChars_significant hc)
  rw [ofDigitChars_natChars, numDigits, show e + ((natChars c).length : Int) - (natChars c).length = e
    by omega] at plain
  obtain ⟨cs, e', ds, fs, rfl, hd, hf, value⟩ := @trimPoint_plainOf neg _ _ plain
  have token := @isToken_number neg ds fs [] none hd hf fun r hr =>
    ⟨parseExp_expChars (e := none) hr, expChars_noFrac (e := none) hr⟩
  rw [List.append_nil, ← e'] at token
  rw [h.unique token, value_ofNumber hf, value, value_finite]

/-- Writing what was read from a canonical text gives the text again, unless it is the `-0` of a
negative number that underflows. -/
theorem canonicalChars_idem {d : Decimal} {cs : List Char} {n : Number} (finite : d.isFinite = true)
    (h : d.canonicalChars = some cs) (token : IsToken cs n) (signed : cs ≠ ['-', '0']) :
    (ofNumber n).canonicalChars = some cs := by
  have zeroToken {cs : List Char} (e : cs = ['0']) (token : IsToken cs n) :
      (ofNumber n).canonicalChars = some cs := by
    subst e
    have zero : IsToken ['0'] ⟨false, 0, [], none⟩ := Number.isToken ⟨false, 0, [], none⟩
    rw [token.unique zero]
    rfl
  rw [canonicalChars] at h
  split at h
  · cases h
    exact zeroToken rfl token
  obtain ⟨d', hd', rfl⟩ := Option.map_eq_some_iff.mp h
  cases d with
  | infinity | nan => cases finite
  | finite neg c e =>
    obtain ⟨c', e', rfl, zero⟩ := normalize_finite hd'
    by_cases hc : c' = 0
    · rw [hc, zero hc] at token signed ⊢
      cases neg with
      | true => exact absurd rfl signed
      | false => exact zeroToken rfl token
    · have same : (ofNumber n).canonicalChars = (Decimal.finite neg c' e').canonicalChars :=
        canonicalChars_congr rfl rfl (plainChars_value hc token)
      have nonzero : (Decimal.finite neg c' e').isZero = false := beq_eq_false_iff_ne.mpr hc
      rw [same, canonicalChars, nonzero, normalize_idem hc hd']
      rfl

/-! ### Exact numbers -/

/-- A value with at most 28 significant digits, none of them below the least exponent. -/
def Representable (q : ℚ) : Prop :=
  ∃ (c : Nat) (e : Int), |q| = c * 10 ^ e ∧ c < 10 ^ precision ∧ etiny ≤ e

/-- The size of a finite decimal. -/
lemma abs_value {neg : Bool} {n : Nat} {e : Int} : |(finite neg n e).value| = n * 10 ^ e := by
  have pos : (0 : ℚ) ≤ n * 10 ^ e := mul_nonneg (Nat.cast_nonneg n) ten_zpow_pos.le
  rw [value_finite, abs_mul, abs_of_nonneg pos]
  cases neg <;> simp

/-- Zeros at the end do not change the value. -/
lemma value_scale {neg : Bool} {b k : Nat} {e : Int} :
    (finite neg (b * 10 ^ k) e).value = (finite neg b (e + k)).value := by
  rw [value_finite, value_finite, zpow_add₀ (by norm_num), zpow_natCast]
  push_cast
  ring

/-- A base that has a representable value fits when it does not overflow. -/
lemma Representable.fits {neg : Bool} {b : Nat} {x : Int} (hb : b % 10 ≠ 0)
    (h : Representable (finite neg b x).value) (top : x + numDigits b - precision ≤ etop) :
    Fits b x := by
  obtain ⟨c, e, value, digits, bottom⟩ := h
  rw [abs_value] at value
  have base : b ≠ 0 := by
    rintro rfl
    exact hb rfl
  have small : numDigits c ≤ precision := (Binary64.length_natChars_le (by decide)).mpr digits
  rcases le_total e x with le | le
  · obtain ⟨j, rfl, rfl⟩ := scaled_of_value value.symm le
    rw [numDigits_scale base] at small
    exact ⟨by omega, by omega, top⟩
  · obtain ⟨j, rfl, rfl⟩ := scaled_of_value value le
    -- a base has no zeros at its end
    have none : j = 0 := by
      by_contra some
      obtain ⟨i, rfl⟩ := Nat.exists_eq_succ_of_ne_zero some
      exact hb (by rw [pow_succ, ← Nat.mul_assoc, Nat.mul_mod_left])
    subst none
    rw [pow_zero, Nat.mul_one] at *
    exact ⟨small, by omega, top⟩

/-- The text of a zero is read as zero. -/
lemma zero_token {neg : Bool} {n : Number} (h : IsToken (trimPoint (finite neg 0 0).plainChars) n) :
    (ofNumber n).value = 0 := by
  have zero : IsToken (trimPoint (finite neg 0 0).plainChars) ⟨neg, 0, [], none⟩ := by
    cases neg with
    | true => exact Number.isToken ⟨true, 0, [], none⟩
    | false => exact Number.isToken ⟨false, 0, [], none⟩
  rw [h.unique zero]
  exact (value_eq_zero rfl).mpr rfl

/-- The text of a number is read as its value exactly when the number is representable. -/
lemma canonicalChars_exact {d : Decimal} {cs : List Char} {n : Number} (finite : d.isFinite = true)
    (h : d.canonicalChars = some cs) (token : IsToken cs n) :
    (ofNumber n).value = d.value ↔ Representable d.value := by
  cases d with
  | infinity | nan => cases finite
  | finite neg m x =>
  rw [canonicalChars] at h
  split at h
  · rename_i zero
    rw [(value_eq_zero rfl).mpr zero]
    cases h
    exact iff_of_true (@zero_token false n token) ⟨0, 0, by simp, by decide, by decide⟩
  · rename_i zero
    obtain ⟨d', hd', rfl⟩ := Option.map_eq_some_iff.mp h
    obtain ⟨c', e', rfl, underflow⟩ := normalize_finite hd'
    have nonzero : (Decimal.finite neg m x).value ≠ 0 := fun h => zero ((value_eq_zero rfl).mp h)
    constructor
    · intro same
      by_cases hc : c' = 0
      · rw [hc, underflow hc] at token
        exact absurd (same.symm.trans (zero_token token)) nonzero
      · obtain ⟨-, fits⟩ := normalize_fits hc hd'
        rw [← same, plainChars_value hc token]
        exact ⟨c', e', abs_value, (Binary64.length_natChars_le (by decide)).mp fits.digits,
          fits.bottom⟩
    · intro exact
      have hm : m ≠ 0 := by
        rintro rfl
        exact zero rfl
      obtain ⟨b, k, rfl, hb⟩ := exists_base hm
      have base := @normalize_scale neg b k hb (x + k)
      rw [show x + (k : Int) - k = x by omega] at base
      rw [value_scale] at exact ⊢
      have fits : Fits b (x + k) := by
        refine exact.fits hb (not_lt.mp fun overflow => ?_)
        rw [base, normalize, if_neg (fun h => hb (by rw [h])), fix, if_pos overflow] at hd'
        cases hd'
      rw [base, fits.normalize hb] at hd'
      cases hd'
      exact plainChars_value (fun h => hb (by rw [h])) token

/-! ### Integers -/

/-- Stripping zeros keeps a coefficient from being zero and raises the exponent. -/
lemma stripZeros_grows {fuel c : Nat} {e : Int} (hc : c ≠ 0) :
    (stripZeros fuel c e).1 ≠ 0 ∧ e ≤ (stripZeros fuel c e).2 := by
  induction fuel generalizing c e with
  | zero => exact ⟨hc, le_refl e⟩
  | succ fuel ih =>
    rw [stripZeros]
    split
    · rename_i zero
      obtain ⟨nonzero, le⟩ := @ih (c / 10) (e + 1) (by omega)
      exact ⟨nonzero, by omega⟩
    · exact ⟨hc, le_refl e⟩

/-- An integer below the greatest exponent is rounded to an integer. -/
lemma fix_integer {n : Nat} (hn : n ≠ 0) (small : numDigits n ≤ 999999) :
    ∃ c e, fix n 0 = some (c, e) ∧ c ≠ 0 ∧ 0 ≤ e := by
  have lower : 10 ^ (numDigits n - 1) ≤ n := Binary64.pow_le_natChars hn
  have pos := @numDigits_pos n
  rw [fix, if_neg (by unfold etop precision; omega)]
  dsimp only
  generalize hm : max (0 + (numDigits n : Int) - precision) etiny = m
  split
  · have place : m = numDigits n - precision := by
      unfold etiny precision at *
      omega
    have rounded : 1 ≤ divHalfEven n (10 ^ (m - 0).natAbs) := by
      have quotient : 1 ≤ n / 10 ^ (m - 0).natAbs := by
        refine (Nat.one_le_div_iff ten_pow_pos).mpr (le_trans ?_ lower)
        refine Nat.pow_le_pow_right (by decide) ?_
        unfold precision at place
        omega
      rw [divHalfEven]
      split <;> omega
    split
    · rename_i carried
      rw [if_neg (by unfold etop precision at *; omega)]
      refine ⟨_, _, rfl, ?_, by omega⟩
      have large : 10 ^ precision ≤ divHalfEven n (10 ^ (m - 0).natAbs) := by
        refine le_of_not_gt fun less => ?_
        exact absurd ((Binary64.length_natChars_le (by decide)).mpr less) (Nat.not_le.mpr carried)
      unfold precision at large
      omega
    · exact ⟨_, _, rfl, by omega, by omega⟩
  · exact ⟨n, 0, rfl, hn, le_refl 0⟩

/-- Zeros behind the digits of a number. -/
lemma natChars_scale {c k : Nat} (hc : c ≠ 0) : natChars (c * 10 ^ k) = natChars c ++ List.replicate k '0' := by
  induction k with
  | zero => simp
  | succ k ih =>
    have pos : 0 < c * 10 ^ k := Nat.mul_pos (Nat.pos_of_ne_zero hc) ten_pow_pos
    have digit : natChars (c * 10 ^ (k + 1)) = natChars (c * 10 ^ k) ++ ['0'] := by
      rw [natChars, natChars, show c * 10 ^ (k + 1) = 10 * (c * 10 ^ k) + 0 by ring]
      exact (Nat.toDigits_append_toDigits (by decide) pos (by decide)).symm
    rw [digit, ih, List.append_assoc, List.replicate_succ']

/-- The plain text of an integer is the text of its digits. -/
lemma plainChars_integer {neg : Bool} {c k : Nat} (hc : c ≠ 0) :
    (finite neg c k).plainChars = signChars neg ++ natChars (c * 10 ^ k) := by
  have pos : 0 < (natChars c).length := numDigits_pos
  rw [plainChars, pointed, if_neg (by unfold numDigits; omega), if_pos (by unfold numDigits; omega),
    natChars_scale hc]
  congr 3
  unfold numDigits
  omega

/-- The canonical text of an integer is the text of an integer of the same sign. -/
lemma canonicalChars_integer {neg : Bool} {n : Nat} (hn : n ≠ 0) (small : numDigits n ≤ 999999) :
    ∃ m, m ≠ 0 ∧ (finite neg n 0).canonicalChars = some (signChars neg ++ natChars m) := by
  obtain ⟨c, e, fixed, hc, he⟩ := fix_integer hn small
  obtain ⟨nonzero, le⟩ := @stripZeros_grows (numDigits c) c e hc
  obtain ⟨k, hk⟩ := Int.eq_ofNat_of_zero_le (he.trans le)
  refine ⟨_, scaled_ne_zero (k := k) nonzero, ?_⟩
  have zero : (finite neg n 0).isZero = false := by
    rw [isZero, beq_eq_false_iff_ne]
    exact hn
  have normal : (finite neg n 0).normalize = some (finite neg (stripZeros (numDigits c) c e).1 k) := by
    rw [normalize, if_neg hn, fixed]
    dsimp only
    rw [if_neg hc, ← hk]
  have point : '.' ∉ signChars neg ++ natChars ((stripZeros (numDigits c) c e).1 * 10 ^ k) := by
    intro h
    rcases List.mem_append.mp h with h | h
    · cases neg with
      | true => exact absurd (List.mem_singleton.mp h) (by decide)
      | false => exact absurd h List.not_mem_nil
    · exact absurd (natChars_digit _ h) (by decide)
  rw [canonicalChars, zero, if_neg Bool.false_ne_true, normal, Option.map_some,
    plainChars_integer nonzero, trimPoint, if_neg point]

end Decimal

/-- The number a token denotes. -/
def tokenOf (cs : List Char) : Number :=
  match parseNumber cs with
  | some (n, _) => n
  | none => ⟨false, 0, [], none⟩

/-- A number's token is the one its text gives. -/
lemma IsToken.tokenOf {cs : List Char} {n : Number} (h : IsToken cs n) : GAM.Lib.tokenOf cs = n := by
  have e := h [] trivial
  rw [List.append_nil] at e
  rw [GAM.Lib.tokenOf, e]

/-- A text of token form is the text of its token. -/
lemma TokenText.isToken {cs : List Char} (h : TokenText cs) : IsToken cs (tokenOf cs) := by
  obtain ⟨n, hn⟩ := h.2
  rwa [hn.tokenOf]

end GAM.Lib
