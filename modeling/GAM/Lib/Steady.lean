import GAM.Lib.Nearest

/-!
# Numbers that are printed as they stand

A number is printed by `canonicalChars` as it was written exactly when it has no exponent, no trailing
zero in its fraction and no more significant digits than the precision (`canonicalChars_print`): without
trailing zeros, numbers of one value are one number.
-/

namespace GAM.Lib

/-- No trailing zero. -/
def Trimmed (ds : List (Fin 10)) : Prop := ∀ d ∈ ds.getLast?, d.val ≠ 0

/-- The integer that the digits after another integer make. -/
def shifted (int : Nat) (ds : List (Fin 10)) : Nat := ds.foldl (fun c d => 10 * c + d.val) int

/-- A further digit multiplies by ten and adds. -/
lemma shifted_append {int : Nat} {ds : List (Fin 10)} {d : Fin 10} :
    shifted int (ds ++ [d]) = 10 * shifted int ds + d.val := List.foldl_append

/-- Digits of one length are told apart by what they make. -/
lemma shifted_unique {a b : Nat} {l l' : List (Fin 10)} (length : l.length = l'.length)
    (e : shifted a l = shifted b l') : a = b ∧ l = l' := by
  induction l using List.reverseRecOn generalizing l' with
  | nil =>
    cases l' with
    | nil => exact ⟨e, rfl⟩
    | cons d l' => cases length
  | append_singleton l d ih =>
    rcases l'.eq_nil_or_concat with rfl | ⟨l', d', rfl⟩
    · simp at length
    · rw [List.concat_eq_append] at length e ⊢
      rw [shifted_append, shifted_append] at e
      have last := d.isLt
      have last' := d'.isLt
      obtain ⟨rfl, rfl⟩ := ih (by simpa using length) (by omega)
      exact ⟨rfl, by rw [show d = d' from Fin.ext (by omega)]⟩

/-- Without a trailing zero the digits make no multiple of ten. -/
lemma Trimmed.mod_ten {int : Nat} {ds : List (Fin 10)} (h : Trimmed ds) (ne : ds ≠ []) :
    shifted int ds % 10 ≠ 0 := by
  rcases ds.eq_nil_or_concat with rfl | ⟨l, d, rfl⟩
  · exact absurd rfl ne
  · rw [List.concat_eq_append] at h ⊢
    rw [shifted_append]
    have last := d.isLt
    have nonzero : d.val ≠ 0 := h d List.getLast?_concat
    omega

namespace Decimal

/-- A token without an exponent is its digits at the place of the fraction. -/
lemma ofNumber_plain {n : Number} (plain : n.exp = none) :
    ofNumber n = .finite n.neg (shifted n.int n.frac) (-(n.frac.length : Int)) := by
  rw [ofNumber, plain, Option.getD_none, zero_sub]
  rfl

/-- Numbers without exponents and trailing zeros are told apart by their values. -/
lemma number_unique {m n : Number} (hm : m.exp = none) (hn : n.exp = none) (tm : Trimmed m.frac)
    (tn : Trimmed n.frac) (sign : m.neg = n.neg) (value : |(ofNumber m).value| = |(ofNumber n).value|) :
    m = n := by
  -- the longer fraction would end in a zero
  have longer : ∀ {m n : Number}, m.exp = none → n.exp = none → Trimmed m.frac →
      |(ofNumber m).value| = |(ofNumber n).value| → n.frac.length ≤ m.frac.length →
        m.frac.length = n.frac.length ∧ shifted m.int m.frac = shifted n.int n.frac := by
    intro m n hm hn tm value le
    rw [ofNumber_plain hm, ofNumber_plain hn, abs_value, abs_value] at value
    obtain ⟨k, whole, place⟩ := scaled_of_value value (by omega)
    cases k with
    | zero => exact ⟨by omega, by rw [whole, Nat.pow_zero, Nat.mul_one]⟩
    | succ k =>
      have ne : m.frac ≠ [] := by
        intro empty
        rw [empty] at place
        simp at place
        omega
      have zero : shifted m.int m.frac % 10 = 0 := by
        rw [whole, Nat.pow_succ, ← Nat.mul_assoc]
        exact Nat.mul_mod_left _ _
      exact absurd zero (tm.mod_ten ne)
  obtain ⟨length, whole⟩ : m.frac.length = n.frac.length ∧
      shifted m.int m.frac = shifted n.int n.frac := by
    rcases le_total n.frac.length m.frac.length with le | le
    · exact longer hm hn tm value le
    · obtain ⟨length, whole⟩ := longer hn hm tn value.symm le
      exact ⟨length.symm, whole.symm⟩
  obtain ⟨int, frac⟩ := shifted_unique length whole
  obtain ⟨_, _, _, _⟩ := m
  obtain ⟨_, _, _, _⟩ := n
  cases hm
  cases hn
  cases sign
  cases int
  cases frac
  rfl

/-- A fraction without a trailing zero has its digits trimmed. -/
lemma trimmed_digits {fs : List Char} (h : Digits fs) (last : fs.getLast? ≠ some '0') :
    Trimmed (fs.map digitFin) := by
  intro d hd
  rw [List.getLast?_map, Option.mem_def, Option.map_eq_some_iff] at hd
  obtain ⟨c, e, rfl⟩ := hd
  obtain ⟨small, same⟩ := digitChar_of_isDigit (h c (List.mem_of_getLast? e))
  intro value
  rw [digitFin, Fin.val_ofNat, Nat.mod_eq_of_lt small] at value
  rw [value] at same
  exact last (e.trans (congrArg some same.symm))

/-- A plain text is the print of the number it denotes. -/
lemma print_plain {neg : Bool} {ds fs : List Char} (hd : Leading ds) (hf : Digits fs) :
    (⟨neg, Nat.ofDigitChars 10 ds 0, fs.map digitFin, none⟩ : Number).print =
      signChars neg ++ (ds ++ fracText fs) := by
  rw [Number.print, hd.natChars, fracChars_digits hf, signChars, expChars, List.append_nil,
    List.append_assoc]

/-- What is printed is a number without exponent and trailing zeros, under its own sign. -/
lemma canonicalChars_number {neg : Bool} {c : Nat} {e : Int} {cs : List Char}
    (h : (finite neg c e).canonicalChars = some cs) :
    ∃ m : Number, m.print = cs ∧ m.exp = none ∧ Trimmed m.frac ∧ (c ≠ 0 → m.neg = neg) ∧
      (c = 0 → m.neg = false) := by
  rw [canonicalChars] at h
  split at h
  · rename_i zero
    cases h
    have hc : c = 0 := by simpa [isZero] using zero
    exact ⟨⟨false, 0, [], none⟩, rfl, rfl, by simp [Trimmed], fun nonzero => absurd hc nonzero,
      fun _ => rfl⟩
  · rename_i nonzero
    obtain ⟨d', hd', rfl⟩ := Option.map_eq_some_iff.mp h
    obtain ⟨c', e', rfl, zero⟩ := normalize_finite hd'
    have plain : ∃ q, PlainOf (pointed (natChars c') (e' + numDigits c')) q := by
      by_cases hc : c' = 0
      · rw [hc, zero hc]
        exact ⟨_, ['0'], [], rfl, leading_zero, fun c hc => absurd hc List.not_mem_nil, rfl⟩
      · exact ⟨_, pointed_plainOf (natChars_significant hc)⟩
    obtain ⟨q, plain⟩ := plain
    obtain ⟨ds, fs, text, hd, hf, -, last⟩ := @trimPoint_parts neg _ _ plain
    refine ⟨⟨neg, Nat.ofDigitChars 10 ds 0, fs.map digitFin, none⟩, ?_, rfl, trimmed_digits hf last,
      fun _ => rfl, fun hc => absurd ?_ nonzero⟩
    · rw [print_plain hd hf]
      exact text.symm
    · rw [hc]
      rfl

/-- A number is printed as it stands exactly when it is written without exponent and trailing zeros
and its digits fit the precision. -/
lemma canonicalChars_print {n : Number} {cs : List Char} (plain : n.exp = none)
    (signed : n.neg = true → n.int = 0 → n.frac ≠ []) (h : (ofNumber n).canonicalChars = some cs) :
    cs = n.print ↔ Trimmed n.frac ∧ Representable (ofNumber n).value := by
  have parts := ofNumber_plain plain
  have exact := @canonicalChars_exact (ofNumber n) cs
  rw [parts] at h
  obtain ⟨m, rfl, hm, tm, same, positive⟩ := canonicalChars_number h
  rw [← parts] at h
  have kept := exact rfl h (Number.isToken m)
  constructor
  · intro e
    obtain rfl : m = n := (Number.isToken m).unique (e ▸ Number.isToken n)
    exact ⟨tm, kept.mp rfl⟩
  · rintro ⟨tn, fits⟩
    have value := kept.mpr fits
    have sign : m.neg = n.neg := by
      by_cases hc : shifted n.int n.frac = 0
      · have whole : n.frac = [] := by
          by_contra ne
          exact tn.mod_ten ne (by rw [hc])
        rw [whole] at hc
        rw [positive (by rw [whole]; exact hc)]
        cases hneg : n.neg with
        | false => rfl
        | true => exact absurd whole (signed hneg hc)
      · exact same hc
    rw [number_unique hm plain tm tn sign (congrArg _ value)]

end Decimal

namespace Binary64
open Context

variable {neg : Bool} {E : Fin 2047} {F : Fin (2 ^ 52)}

/-- The number of a plain text is printed as the text. -/
lemma plainOf_print {cs : List Char} {q : ℚ} {n : Number} (h : PlainOf cs q)
    (token : IsToken (Decimal.signChars neg ++ cs) n) :
    n.print = Decimal.signChars neg ++ cs ∧ magnitude n = q := by
  obtain ⟨ds, fs, rfl, hd, hf, rfl⟩ := h
  have own := @isToken_number neg ds fs [] none hd hf fun r hr =>
    ⟨parseExp_expChars (e := none) hr, expChars_noFrac (e := none) hr⟩
  rw [List.append_nil] at own
  obtain rfl := token.unique own
  refine ⟨Decimal.print_plain hd hf, ?_⟩
  rw [magnitude_parts hf, Option.getD_none, zpow_zero, mul_one]

/-- A text of `repr` without exponent is the print of its number, which is below 10¹⁶. -/
lemma repr_print {x : Binary64} {n : Number} (finite : x.isFinite = true)
    (token : IsToken x.repr n) (plain : n.exp = none) : n.print = x.repr ∧ magnitude n < 10 ^ 16 := by
  cases x with
  | infinity | nan => cases finite
  | finite neg E F =>
    rw [repr] at token ⊢
    dsimp only at token ⊢
    by_cases h : mant E F = 0
    · rw [if_pos h] at token ⊢
      have zero : PlainOf ['0', '.', '0'] 0 := by
        refine ⟨['0'], ['0'], rfl, leading_zero, by simp [Digits], ?_⟩
        rw [pointValue, show Nat.ofDigitChars 10 (['0'] ++ ['0']) 0 = 0 from rfl, Nat.cast_zero,
          zero_mul]
      obtain ⟨print, value⟩ := plainOf_print zero token
      exact ⟨print, by rw [value]; positivity⟩
    · rw [if_neg h] at token ⊢
      obtain ⟨-, hd, hn⟩ := @ratio_value (mant E F) (scale E)
      have nonzero := @shortest_ne_zero (.finite neg E F) neg _ _ 17 1 (hn h) hd le_rfl
      generalize shortest (.finite neg E F) neg _ _ _ 17 1 = found at token nonzero ⊢
      obtain ⟨q, s⟩ := found
      dsimp only at token nonzero ⊢
      generalize s + (Decimal.numDigits q : Int) - 1 = X at token ⊢
      have digits := trimZeros_significant (natChars_significant nonzero)
      generalize trimZeros (natChars q) = ds at token digits ⊢
      by_cases range : -4 ≤ X ∧ X < 16
      · rw [layout, if_pos range] at token ⊢
        obtain ⟨print, value⟩ := plainOf_print (plainOf_withPoint (pointed_plainOf digits)) token
        refine ⟨print, ?_⟩
        have size : (Nat.ofDigitChars 10 ds 0 : ℚ) < 10 ^ (ds.length : Int) := by
          have length := (natChars_ofDigitChars digits).1
          have less := @lt_pow_natChars (Nat.ofDigitChars 10 ds 0)
          rw [length] at less
          rw [zpow_natCast]
          exact_mod_cast less
        calc magnitude n = Nat.ofDigitChars 10 ds 0 * 10 ^ (X + 1 - ds.length) := value
          _ < 10 ^ (ds.length : Int) * 10 ^ (X + 1 - ds.length) :=
              mul_lt_mul_of_pos_right size Decimal.ten_zpow_pos
          _ = 10 ^ (X + 1) := by
              rw [← ten_zpow_add]
              congr 1
              omega
          _ ≤ 10 ^ (16 : Int) := ten_zpow_mono (by omega)
          _ = 10 ^ 16 := by norm_num
      -- in scientific layout the number has an exponent
      · rw [withPoint_scientific range] at token
        obtain ⟨-, m, token', -, exponent, -⟩ := @scientific_number neg ds 16 X digits range
        obtain rfl := token.unique token'
        rw [plain] at exponent
        cases exponent

end Binary64

end GAM.Lib
