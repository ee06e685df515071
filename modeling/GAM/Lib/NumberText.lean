import Mathlib.Data.List.Induction
import Mathlib.Data.List.TakeWhile
import Mathlib.Tactic.FieldSimp
import Mathlib.Tactic.NormNum
import GAM.Lib.Binary64
import GAM.Lib.JsonParse

/-!
# The texts of numbers

Integers, the plain text of a decimal and the `repr` of a double are tokens of JSON: each is read as
one number, whatever follows it (`TokenText`). The proofs split a text into its integer digits, its
fraction digits and its exponent (`isToken_parts`).
-/

namespace GAM.Lib

/-! ### Tokens from their parts -/

/-- A text of digits. -/
def Digits (cs : List Char) : Prop := ∀ c ∈ cs, c.isDigit = true

/-- Digits that may start a number: a zero alone, or no leading zero. -/
def Leading (cs : List Char) : Prop :=
  Digits cs ∧ (cs = ['0'] ∨ ∃ c l, cs = c :: l ∧ c ≠ '0')

/-- The text of fraction digits, if there are any. -/
def fracText : List Char → List Char
  | [] => []
  | c :: cs => '.' :: c :: cs

/-- The text is a token of some number, and has no other characters. -/
def TokenText (cs : List Char) : Prop := NumberText cs ∧ ∃ n, IsToken cs n

/-- Digits are characters of numbers. -/
lemma Digits.numberText {cs : List Char} (h : Digits cs) : NumberText cs := by
  intro c hc
  rw [isNumberChar, h c hc, Bool.true_or]

/-- Texts of number characters, one after another. -/
lemma NumberText.append {cs cs' : List Char} (h : NumberText cs) (h' : NumberText cs') :
    NumberText (cs ++ cs') := fun c hc => (List.mem_append.mp hc).elim (h c) (h' c)

lemma NumberText.cons {c : Char} {cs : List Char} (hc : isNumberChar c = true)
    (h : NumberText cs) : NumberText (c :: cs) := List.forall_mem_cons.mpr ⟨hc, h⟩

lemma numberText_nil : NumberText [] := fun _ hc => absurd hc List.not_mem_nil

/-- A sign is a text of number characters. -/
lemma numberText_sign {neg : Bool} : NumberText (Decimal.signChars neg) := by
  cases neg with
  | true => exact NumberText.cons (by decide) numberText_nil
  | false => exact numberText_nil

/-- A fraction is a text of number characters. -/
lemma numberText_frac {fs : List Char} (h : Digits fs) : NumberText (fracText fs) := by
  cases fs with
  | nil => exact numberText_nil
  | cons c fs => exact NumberText.cons (by decide) h.numberText

/-- Digits without a leading zero are read as an integer part. -/
lemma parseInt_leading {ds r : List Char} (h : Leading ds) (hr : NoDigit r) :
    parseInt (ds ++ r) = some (Nat.ofDigitChars 10 ds 0, r) := by
  obtain ⟨digits, rfl | ⟨c, l, rfl, hc⟩⟩ := h
  · rfl
  · rw [parseInt]
    · rw [spanDigits_append digits hr]
    · exact fun r' e => hc (List.cons.inj e).1

/-- A fraction's text reads back. -/
lemma parseFrac_text {fs r : List Char} (h : Digits fs) (hr : NoFrac r) :
    parseFrac (fracText fs ++ r) = (fs.map digitFin, r) := by
  cases fs with
  | nil =>
    cases r with
    | nil => rfl
    | cons c r =>
      rw [fracText, List.nil_append, parseFrac]
      · rfl
      · exact fun r' e => hr.2 (List.cons.inj e).1
  | cons c fs =>
    rw [fracText, List.cons_append, parseFrac, spanDigits_append h hr.noDigit]

/-- A fraction's text starts with no digit. -/
lemma fracText_noDigit {fs r : List Char} (hr : NoDigit r) : NoDigit (fracText fs ++ r) := by
  cases fs with
  | nil => exact hr
  | cons c fs => exact (by decide : ('.').isDigit = false)

/-- The text of an exponent: nothing, or a letter, a sign and digits. -/
def IsExponent (es : List Char) : Prop :=
  NumberText es ∧ ∃ e, ∀ r, Delim r → parseExp (es ++ r) = (e, r) ∧ NoFrac (es ++ r)

lemma isExponent_nil : IsExponent [] := by
  refine ⟨numberText_nil, none, fun r hr => ⟨?_, ?_⟩⟩
  · exact parseExp_expChars (e := none) hr
  · exact expChars_noFrac (e := none) hr

/-- An exponent with its sign reads back. -/
lemma parseExp_signed {es r : List Char} {neg : Bool} (h : Digits es) (ne : es ≠ [])
    (hr : Delim r) : parseExp ('e' :: (if neg then '-' else '+') :: es ++ r) =
      (some (if neg then -(Nat.ofDigitChars 10 es 0 : Int) else Nat.ofDigitChars 10 es 0), r) := by
  have digits : parseExpDigits neg (es ++ r) =
      some (if neg then -(Nat.ofDigitChars 10 es 0 : Int) else Nat.ofDigitChars 10 es 0, r) := by
    rw [parseExpDigits, spanDigits_append h hr.noDigit]
    cases es with
    | nil => exact absurd rfl ne
    | cons c es => rfl
  have body : parseExpBody ((if neg then '-' else '+') :: (es ++ r)) =
      parseExpDigits neg (es ++ r) := by
    cases neg <;> rfl
  rw [List.cons_append, List.cons_append, parseExp, if_pos (.inl rfl), body, digits]

/-- A signed exponent is an exponent. -/
lemma isExponent_signed {es : List Char} {neg : Bool} (h : Digits es) (ne : es ≠ []) :
    IsExponent ('e' :: (if neg then '-' else '+') :: es) := by
  have sign : isNumberChar (if neg then '-' else '+') = true := by cases neg <;> rfl
  exact ⟨.cons (by decide) (.cons sign h.numberText), _,
    fun r hr => ⟨parseExp_signed h ne hr, ⟨by decide, by decide⟩⟩⟩

/-- The number of a sign, integer digits, fraction digits and an exponent. -/
lemma isToken_number {neg : Bool} {ds fs es : List Char} {e : Option Int} (hd : Leading ds)
    (hf : Digits fs) (he : ∀ r, Delim r → parseExp (es ++ r) = (e, r) ∧ NoFrac (es ++ r)) :
    IsToken (Decimal.signChars neg ++ (ds ++ fracText fs) ++ es)
      ⟨neg, Nat.ofDigitChars 10 ds 0, fs.map digitFin, e⟩ := by
  have unsigned {r} (hr : Delim r) : parseUnsigned neg (ds ++ (fracText fs ++ (es ++ r))) =
      some (⟨neg, Nat.ofDigitChars 10 ds 0, fs.map digitFin, e⟩, r) := by
    obtain ⟨exp, stop⟩ := he r hr
    rw [parseUnsigned, parseInt_leading hd (fracText_noDigit stop.noDigit)]
    simp only [Option.bind_eq_bind, Option.bind_some, parseFrac_text hf stop, exp, Option.pure_def]
  intro r hr
  simp only [List.append_assoc]
  cases neg with
  | true => exact unsigned hr
  | false =>
    rw [Decimal.signChars, if_neg Bool.false_ne_true, List.nil_append, parseNumber]
    · exact unsigned hr
    · intro r' e
      have minus : '-' ∈ ds ++ (fracText fs ++ (es ++ r)) := e ▸ List.mem_cons_self
      obtain ⟨digits, rfl | ⟨c, l, rfl, -⟩⟩ := hd
      · exact absurd (List.cons.inj e).1 (by decide)
      · have first := digits c List.mem_cons_self
        rw [(List.cons.inj e).1] at first
        exact absurd first (by decide)

/-- A sign, integer digits, fraction digits and an exponent are a token. -/
lemma isToken_parts {neg : Bool} {ds fs es : List Char} (hd : Leading ds) (hf : Digits fs)
    (he : IsExponent es) : TokenText (Decimal.signChars neg ++ (ds ++ fracText fs) ++ es) := by
  obtain ⟨text, e, he⟩ := he
  refine ⟨(numberText_sign.append (hd.1.numberText.append (numberText_frac hf))).append text, ?_⟩
  exact ⟨_, isToken_number hd hf he⟩

/-- A text is the token of one number. -/
lemma IsToken.unique {cs : List Char} {m n : Number} (hm : IsToken cs m) (hn : IsToken cs n) :
    m = n := by
  have e := hm [] trivial
  rw [hn [] trivial] at e
  cases e
  rfl

/-! ### Plain texts -/

/-- Integer digits and fraction digits. -/
def IsPointed (cs : List Char) : Prop :=
  ∃ ds fs, cs = ds ++ fracText fs ∧ Leading ds ∧ Digits fs

/-- Digits that start with no zero. -/
def Significant (cs : List Char) : Prop := Digits cs ∧ ∃ c l, cs = c :: l ∧ c ≠ '0'

/-- Significant digits have no leading zero. -/
lemma Significant.leading {cs : List Char} (h : Significant cs) : Leading cs := ⟨h.1, .inr h.2⟩

lemma leading_zero : Leading ['0'] := ⟨by simp [Digits], .inl rfl⟩

lemma Digits.append {cs cs' : List Char} (h : Digits cs) (h' : Digits cs') : Digits (cs ++ cs') :=
  fun c hc => (List.mem_append.mp hc).elim (h c) (h' c)

lemma digits_zeros {n : Nat} : Digits (List.replicate n '0') := by
  intro c hc
  rw [List.eq_of_mem_replicate hc]
  decide

/-- Further digits leave the first one significant. -/
lemma Significant.append {cs cs' : List Char} (h : Significant cs) (h' : Digits cs') :
    Significant (cs ++ cs') := by
  obtain ⟨digits, c, l, rfl, hc⟩ := h
  exact ⟨digits.append h', c, l ++ cs', rfl, hc⟩

/-- The digits of a positive number. -/
lemma natChars_significant {n : Nat} (hn : n ≠ 0) : Significant (natChars n) := by
  refine ⟨natChars_digit, ?_⟩
  cases e : natChars n with
  | nil => exact absurd e natChars_ne_nil
  | cons c l =>
    refine ⟨c, l, rfl, ?_⟩
    rintro rfl
    exact natChars_head hn l e

/-- A printed natural number has no leading zero. -/
lemma natChars_leading {n : Nat} : Leading (natChars n) := by
  by_cases hn : n = 0
  · subst hn
    exact leading_zero
  · exact (natChars_significant hn).leading

/-- A digit is the digit of its value. -/
lemma digitChar_of_isDigit {c : Char} (h : c.isDigit = true) :
    c.toNat - 48 < 10 ∧ (c.toNat - 48).digitChar = c := by
  obtain ⟨d, rfl⟩ : ∃ d : Fin 10, d.val.digitChar = c := by
    simp only [Char.isDigit, Bool.and_eq_true, decide_eq_true_eq, ge_iff_le,
      UInt32.le_iff_toNat_le] at h
    obtain ⟨lower, upper⟩ := h
    have bounds : 48 ≤ c.toNat ∧ c.toNat ≤ 57 := ⟨lower, upper⟩
    refine ⟨⟨c.toNat - 48, by omega⟩, ?_⟩
    have back : ∀ d : Fin 10, d.val.digitChar = Char.ofNat (48 + d.val) := by decide
    rw [back, Nat.add_sub_cancel' bounds.1, Char.ofNat_toNat]
  have small : ∀ d : Fin 10,
      d.val.digitChar.toNat - 48 < 10 ∧ (d.val.digitChar.toNat - 48).digitChar = d.val.digitChar := by
    decide
  exact small d

/-- Reading and writing fraction digits. -/
lemma fracChars_digits {fs : List Char} (h : Digits fs) : fracChars (fs.map digitFin) = fracText fs := by
  have digit : ∀ c ∈ fs, (digitFin c).val.digitChar = c := by
    intro c hc
    obtain ⟨small, back⟩ := digitChar_of_isDigit (h c hc)
    have value : (digitFin c).val = c.toNat - 48 := Nat.mod_eq_of_lt small
    rw [value, back]
  cases fs with
  | nil => rfl
  | cons c fs =>
    have digits : ((c :: fs).map digitFin).map (fun d => d.val.digitChar) = c :: fs := by
      rw [List.map_map]
      exact (List.map_congr_left digit).trans (List.map_id _)
    exact congrArg ('.' :: ·) digits

/-- Reading and writing the digits of a positive number. -/
lemma natChars_ofDigitChars {cs : List Char} (h : Significant cs) :
    natChars (Nat.ofDigitChars 10 cs 0) = cs ∧ 0 < Nat.ofDigitChars 10 cs 0 := by
  induction cs using List.reverseRecOn with
  | nil =>
    obtain ⟨-, c, l, e, -⟩ := h
    cases e
  | append_singleton cs d ih =>
    obtain ⟨digits, c, l, e, hc⟩ := h
    have last := digitChar_of_isDigit (digits d (by simp))
    have value : Nat.ofDigitChars 10 (cs ++ [d]) 0 =
        10 * Nat.ofDigitChars 10 cs 0 + (d.toNat - 48) := by
      rw [Nat.ofDigitChars_append, Nat.ofDigitChars_cons, Nat.ofDigitChars_nil]
      rfl
    rw [value]
    cases cs with
    | nil =>
      cases e
      rw [Nat.ofDigitChars_nil, Nat.mul_zero, Nat.zero_add, natChars,
        Nat.toDigits_of_lt_base last.1, last.2]
      refine ⟨rfl, Nat.pos_of_ne_zero fun zero => hc ?_⟩
      rw [← last.2, zero]
      rfl
    | cons c' cs =>
      have first := (List.cons.inj e).1
      obtain ⟨text, pos⟩ := ih
        ⟨fun x hx => digits x (List.mem_append_left _ hx), c', cs, rfl, first ▸ hc⟩
      refine ⟨?_, by omega⟩
      rw [natChars] at text
      rw [natChars, ← Nat.toDigits_append_toDigits (by decide) pos last.1, text,
        Nat.toDigits_of_lt_base last.1, last.2]

/-- Reading and writing the digits of a number. -/
lemma Leading.natChars {cs : List Char} (h : Leading cs) :
    GAM.Lib.natChars (Nat.ofDigitChars 10 cs 0) = cs := by
  obtain ⟨digits, rfl | significant⟩ := h
  · rfl
  · exact (natChars_ofDigitChars ⟨digits, significant⟩).1

/-- A fraction with digits starts with the point. -/
lemma fracText_eq {fs : List Char} (h : fs ≠ []) : fracText fs = '.' :: fs := by
  cases fs with
  | nil => exact absurd rfl h
  | cons c fs => rfl

/-- The value of integer digits and fraction digits. -/
def pointValue (ds fs : List Char) : ℚ :=
  (Nat.ofDigitChars 10 (ds ++ fs) 0 : ℚ) * 10 ^ (-(fs.length : Int))

/-- The text is a plain text of the value. -/
def PlainOf (cs : List Char) (q : ℚ) : Prop :=
  ∃ ds fs, cs = ds ++ fracText fs ∧ Leading ds ∧ Digits fs ∧ pointValue ds fs = q

/-- A plain text of a value is a text with a point. -/
lemma PlainOf.isPointed {cs : List Char} {q : ℚ} (h : PlainOf cs q) : IsPointed cs := by
  obtain ⟨ds, fs, e, hd, hf, -⟩ := h
  exact ⟨ds, fs, e, hd, hf⟩

/-- Zeros at the end of the fraction do not change the value. -/
lemma pointValue_zeros {ds fs : List Char} {k : Nat} :
    pointValue ds (fs ++ List.replicate k '0') = pointValue ds fs := by
  have split : (10 : ℚ) ^ (-((fs.length + k : Nat) : Int)) = 10 ^ (-(fs.length : Int)) / 10 ^ k := by
    rw [Nat.cast_add, neg_add, zpow_add₀ (by norm_num), zpow_neg _ (k : Int), zpow_natCast,
      div_eq_mul_inv]
  rw [pointValue, pointValue, ← List.append_assoc, Nat.ofDigitChars_append,
    Nat.ofDigitChars_replicate_zero, List.length_append, List.length_replicate, split]
  push_cast
  field_simp

/-- Digits with a point are integer digits and fraction digits, of the value the point gives. -/
lemma pointed_plainOf {cs : List Char} {place : Int} (h : Significant cs) :
    PlainOf (Decimal.pointed cs place)
      ((Nat.ofDigitChars 10 cs 0 : ℚ) * 10 ^ (place - (cs.length : Int))) := by
  obtain ⟨digits, c, l, rfl, hc⟩ := id h
  rw [Decimal.pointed]
  split
  · refine ⟨['0'], List.replicate place.natAbs '0' ++ (c :: l), ?_, leading_zero,
      digits_zeros.append digits, ?_⟩
    · rw [fracText_eq (by simp)]
      rfl
    · have zeros : Nat.ofDigitChars 10 (['0'] ++ List.replicate place.natAbs '0') 0 = 0 := by
        rw [Nat.ofDigitChars_append, Nat.ofDigitChars_replicate_zero]
        rfl
      rw [pointValue, ← List.append_assoc, Nat.ofDigitChars_append, zeros, List.length_append,
        List.length_replicate]
      congr 2
      rw [Nat.cast_add]
      omega
  split
  · rename_i whole
    refine ⟨_, [], (List.append_nil _).symm, (h.append digits_zeros).leading,
      fun c hc => absurd hc List.not_mem_nil, ?_⟩
    rw [pointValue, List.append_nil, Nat.ofDigitChars_append, Nat.ofDigitChars_replicate_zero,
      List.length_nil, Nat.cast_zero, neg_zero, zpow_zero, mul_one, mul_comm]
    push_cast
    rw [← zpow_natCast]
    congr 2
    omega
  · rename_i positive short
    obtain ⟨k, hk⟩ : ∃ k, place.natAbs = k + 1 := ⟨place.natAbs - 1, by omega⟩
    refine ⟨(c :: l).take place.natAbs, (c :: l).drop place.natAbs, ?_, ?_, ?_, ?_⟩
    · rw [fracText_eq]
      intro e
      have := List.drop_eq_nil_iff.mp e
      omega
    · refine ⟨fun x hx => digits x (List.mem_of_mem_take hx), .inr ⟨c, l.take k, ?_, hc⟩⟩
      rw [hk, List.take_succ_cons]
    · exact fun x hx => digits x (List.mem_of_mem_drop hx)
    · rw [pointValue, List.take_append_drop, List.length_drop]
      congr 2
      omega

/-- Digits with a point are integer digits and fraction digits. -/
lemma pointed_isPointed {cs : List Char} {place : Int} (h : Significant cs) :
    IsPointed (Decimal.pointed cs place) :=
  (pointed_plainOf h).isPointed

/-- Plain texts are tokens. -/
lemma IsPointed.token {cs : List Char} {neg : Bool} (h : IsPointed cs) :
    TokenText (Decimal.signChars neg ++ cs) := by
  obtain ⟨ds, fs, rfl, hd, hf⟩ := h
  have token := @isToken_parts neg _ _ _ hd hf isExponent_nil
  rwa [List.append_nil] at token

/-- An integer's text is that of its token. -/
lemma intChars_ofInt {i : Int} : intChars i = (Number.ofInt i).print := by
  rw [intChars, Number.ofInt, Number.print]
  by_cases neg : i < 0
  · simp [neg, fracChars, expChars]
  · simp [neg, fracChars, expChars]

/-- The text of an integer is a token. -/
lemma intChars_token {i : Int} : TokenText (intChars i) := by
  have plain : IsPointed (natChars i.natAbs) :=
    ⟨_, [], (List.append_nil _).symm, natChars_leading, fun c hc => absurd hc List.not_mem_nil⟩
  rw [intChars]
  split
  · exact @plain.token _ true
  · exact @plain.token _ false

/-- A printed number has the characters of a number. -/
lemma Number.numberText (n : Number) : NumberText n.print := by
  have sign : NumberText (if n.neg then ['-'] else []) := numberText_sign
  have frac : NumberText (fracChars n.frac) := by
    cases n.frac with
    | nil => exact numberText_nil
    | cons d ds =>
      refine .cons (by decide) (Digits.numberText fun c hc => ?_)
      obtain ⟨e, -, rfl⟩ := List.mem_map.mp hc
      exact isDigit_digitChar e
  have exp : NumberText (expChars n.exp) := by
    cases n.exp with
    | none => exact numberText_nil
    | some e => exact .cons (by decide) intChars_token.1
  exact ((sign.append (Digits.numberText natChars_digit)).append frac).append exp

/-! ### Decimals -/

lemma digit_ne {c d : Char} (h : c.isDigit = true) (hd : d.isDigit = false) : c ≠ d := by
  rintro rfl
  rw [h] at hd
  cases hd

/-- Trailing characters that are dropped stop before another one. -/
lemma dropWhile_append_stop {p : Char → Bool} {l r : List Char} (hr : ∀ c ∈ r.head?, p c = false) :
    (l ++ r).dropWhile p = l.dropWhile p ++ r := by
  induction l with
  | nil =>
    cases r with
    | nil => rfl
    | cons c r => simp [hr c rfl]
  | cons c l ih =>
    rw [List.cons_append, List.dropWhile_cons, List.dropWhile_cons]
    split
    · exact ih
    · rfl

/-- Fraction digits without the zeros at their end. -/
lemma exists_zeros (fs : List Char) :
    ∃ k, fs = (fs.reverse.dropWhile (· = '0')).reverse ++ List.replicate k '0' := by
  refine ⟨(fs.reverse.takeWhile (· = '0')).length, ?_⟩
  have zeros : fs.reverse.takeWhile (· = '0') =
      List.replicate (fs.reverse.takeWhile (· = '0')).length '0' := by
    refine List.eq_replicate_of_mem fun c hc => ?_
    simpa using List.mem_takeWhile_imp hc
  conv_lhs => rw [← List.reverse_reverse fs,
    ← @List.takeWhile_append_dropWhile _ (fun c => decide (c = '0')) fs.reverse, List.reverse_append]
  rw [zeros, List.reverse_replicate, List.length_replicate]

/-- Dropping trailing zeros and a trailing point leaves integer digits and fraction digits that do not
end in a zero. -/
lemma trimPoint_parts {neg : Bool} {cs : List Char} {q : ℚ} (h : PlainOf cs q) :
    ∃ ds fs, Decimal.trimPoint (Decimal.signChars neg ++ cs) =
        Decimal.signChars neg ++ (ds ++ fracText fs) ∧
      Leading ds ∧ Digits fs ∧ pointValue ds fs = q ∧ fs.getLast? ≠ some '0' := by
  obtain ⟨ds, fs, rfl, hd, hf, rfl⟩ := h
  obtain ⟨k, hk⟩ := exists_zeros fs
  rw [Decimal.trimPoint]
  split
  · rename_i point
    have ne : fs ≠ [] := by
      rintro rfl
      simp only [fracText, List.append_nil, List.mem_append] at point
      rcases point with point | point
      · cases neg
        · cases point
        · exact absurd (List.mem_singleton.mp point) (by decide)
      · exact digit_ne (hd.1 _ point) (by decide) rfl
    obtain ⟨head, hhead⟩ : ∃ c l, (Decimal.signChars neg ++ ds).reverse = c :: l ∧ c ≠ '.' := by
      have last : ds ≠ [] := by
        rcases hd.2 with rfl | ⟨c, l, rfl, -⟩
        · exact List.cons_ne_nil _ _
        · exact List.cons_ne_nil _ _
      cases e : ds.reverse with
      -- the fraction is all zeros, so the point goes too
      | nil => exact absurd (List.reverse_eq_nil_iff.mp e) last
      | cons c l =>
        refine ⟨c, l ++ (Decimal.signChars neg).reverse, by rw [List.reverse_append, e]; rfl, ?_⟩
        have digit : c ∈ ds := List.mem_reverse.mp (e ▸ List.mem_cons_self)
        exact digit_ne (hd.1 c digit) (by decide)
    obtain ⟨l, hl, hne⟩ := hhead
    -- read from its end the text is zeros, the rest of the fraction, the point and what is before it
    have zeros : ((Decimal.signChars neg ++ (ds ++ fracText fs)).reverse.dropWhile (· = '0')) =
        fs.reverse.dropWhile (· = '0') ++ '.' :: (head :: l) := by
      rw [fracText_eq ne, ← List.append_assoc, List.reverse_append, hl, List.reverse_cons,
        List.append_assoc, List.singleton_append]
      exact dropWhile_append_stop fun c hc => by
        cases hc
        decide
    rw [zeros]
    cases e : fs.reverse.dropWhile (· = '0') with
    | nil =>
      refine ⟨ds, [], ?_, hd, fun c hc => absurd hc List.not_mem_nil, ?_, by simp⟩
      · rw [List.nil_append, List.dropWhile_cons_of_pos (by decide),
          List.dropWhile_cons_of_neg (by simpa using hne), ← hl, List.reverse_reverse, fracText,
          List.append_nil]
      · rw [e] at hk
        rw [hk]
        exact pointValue_zeros.symm
    | cons c rest =>
      have sub : ∀ x ∈ c :: rest, x.isDigit = true := by
        intro x hx
        exact hf x (List.mem_reverse.mp (List.dropWhile_subset _ (e ▸ hx)))
      have stop : c ≠ '.' := digit_ne (sub c List.mem_cons_self) (by decide)
      have last : c ≠ '0' := by
        have head := List.head?_dropWhile_not (fun c => decide (c = '0')) fs.reverse
        rw [e] at head
        simpa using head
      refine ⟨ds, (c :: rest).reverse, ?_, hd, fun x hx => ?_, ?_, by simpa using last⟩
      · rw [List.cons_append, List.dropWhile_cons_of_neg (by simpa using stop), ← List.cons_append,
          List.reverse_append, List.reverse_cons, ← hl, List.reverse_reverse,
          fracText_eq (by simp)]
        simp only [List.append_assoc, List.singleton_append]
      · exact sub x (List.mem_reverse.mp hx)
      · rw [e] at hk
        rw [hk]
        exact pointValue_zeros.symm
  -- without a point nothing is trimmed
  · rename_i whole
    obtain rfl : fs = [] := by
      cases fs with
      | nil => rfl
      | cons c fs => exact absurd (by simp [fracText]) whole
    exact ⟨ds, [], rfl, hd, hf, rfl, by simp⟩

/-- Dropping trailing zeros and a trailing point leaves a plain text of the value. -/
lemma trimPoint_plainOf {neg : Bool} {cs : List Char} {q : ℚ} (h : PlainOf cs q) :
    ∃ cs', Decimal.trimPoint (Decimal.signChars neg ++ cs) = Decimal.signChars neg ++ cs' ∧
      PlainOf cs' q := by
  obtain ⟨ds, fs, text, hd, hf, value, -⟩ := @trimPoint_parts neg cs q h
  exact ⟨_, text, ds, fs, rfl, hd, hf, value⟩

/-- Dropping trailing zeros and a trailing point leaves integer and fraction digits. -/
lemma trimPoint_isPointed {neg : Bool} {cs : List Char} (h : IsPointed cs) :
    ∃ cs', Decimal.trimPoint (Decimal.signChars neg ++ cs) = Decimal.signChars neg ++ cs' ∧
      IsPointed cs' := by
  obtain ⟨ds, fs, e, hd, hf⟩ := h
  obtain ⟨cs', e', plain⟩ := @trimPoint_plainOf neg cs _ ⟨ds, fs, e, hd, hf, rfl⟩
  exact ⟨cs', e', plain.isPointed⟩

namespace Decimal

/-- A coefficient without its trailing zeros is not zero. -/
lemma stripZeros_ne_zero {fuel coeff : Nat} {exp : Int} (h : coeff ≠ 0) :
    (stripZeros fuel coeff exp).1 ≠ 0 := by
  induction fuel generalizing coeff exp with
  | zero => exact h
  | succ fuel ih =>
    rw [stripZeros]
    split
    · exact ih (by omega)
    · exact h

/-- A normalized number is the zero of exponent zero or has significant digits. -/
lemma normalize_finite {neg : Bool} {coeff : Nat} {exp : Int} {d : Decimal}
    (h : (finite neg coeff exp).normalize = some d) :
    ∃ coeff' exp', d = finite neg coeff' exp' ∧ (coeff' = 0 → exp' = 0) := by
  rw [normalize] at h
  split at h
  · cases h
    exact ⟨0, 0, rfl, fun _ => rfl⟩
  · cases hfix : fix coeff exp with
    | none =>
      rw [hfix] at h
      cases h
    | some fixed =>
      rw [hfix] at h
      dsimp only at h
      split at h
      · cases h
        exact ⟨0, 0, rfl, fun _ => rfl⟩
      · rename_i ne
        cases h
        exact ⟨_, _, rfl, fun zero => absurd zero (stripZeros_ne_zero ne)⟩

/-- The plain text of a finite decimal is a sign, integer digits and fraction digits. -/
lemma canonicalChars_pointed {d : Decimal} {cs : List Char} (finite : d.isFinite = true)
    (h : d.canonicalChars = some cs) : ∃ neg cs', cs = signChars neg ++ cs' ∧ IsPointed cs' := by
  have zeroText : IsPointed ['0'] :=
    ⟨['0'], [], rfl, leading_zero, fun c hc => absurd hc List.not_mem_nil⟩
  rw [canonicalChars] at h
  split at h
  · cases h
    exact ⟨false, ['0'], rfl, zeroText⟩
  · obtain ⟨d', hd', rfl⟩ := Option.map_eq_some_iff.mp h
    cases d with
    | infinity | nan => cases finite
    | finite neg coeff exp =>
      obtain ⟨coeff', exp', rfl, zero⟩ := normalize_finite hd'
      have plain : IsPointed (pointed (natChars coeff') (exp' + numDigits coeff')) := by
        by_cases hc : coeff' = 0
        · rw [hc, zero hc]
          exact zeroText
        · exact pointed_isPointed (natChars_significant hc)
      obtain ⟨cs', e, hcs⟩ := @trimPoint_isPointed neg _ plain
      exact ⟨neg, cs', e, hcs⟩

/-- The plain text of a finite decimal is a token. -/
lemma canonicalChars_token {d : Decimal} {cs : List Char} (finite : d.isFinite = true)
    (h : d.canonicalChars = some cs) : TokenText cs := by
  obtain ⟨neg, cs', rfl, plain⟩ := canonicalChars_pointed finite h
  exact plain.token

end Decimal

/-! ### Doubles -/

namespace Binary64

/-- The printed length is bounded by the size. -/
lemma length_natChars_le {n k : Nat} (hk : 0 < k) : (natChars n).length ≤ k ↔ n < 10 ^ k :=
  Nat.length_toDigits_le_iff (by decide) hk

/-- A number is at least the power of ten of its digits but one. -/
lemma pow_le_natChars {n : Nat} (hn : n ≠ 0) : 10 ^ ((natChars n).length - 1) ≤ n := by
  by_cases one : (natChars n).length = 1
  · rw [one]
    exact Nat.one_le_iff_ne_zero.mpr hn
  · have pos : 0 < (natChars n).length := List.length_pos_iff.mpr natChars_ne_nil
    have more : ¬(natChars n).length ≤ (natChars n).length - 1 := by omega
    exact not_lt.mp fun lt => more ((length_natChars_le (by omega)).mpr lt)

/-- A number lies below the power of ten of its length. -/
lemma lt_pow_natChars {n : Nat} : n < 10 ^ (natChars n).length :=
  (length_natChars_le (List.length_pos_iff.mpr natChars_ne_nil)).mp le_rfl

/-- A fraction times a power of ten is at least one. -/
lemma scaled_le {num den : Nat} {e : Int} (above : 0 ≤ e → den ≤ num * 10 ^ e.natAbs)
    (below : e < 0 → den * 10 ^ e.natAbs ≤ num) :
    (scaled num den e).2 ≤ (scaled num den e).1 := by
  rw [scaled]
  split
  · rename_i h
    exact above h
  · rename_i h
    exact below (not_le.mp h)

/-- The decimal exponent of a positive fraction does not exceed it. -/
lemma scaled_decimalExponent {num den k : Nat} (hn : num ≠ 0) :
    (scaled num den (k - decimalExponent num den)).2 ≤
      (scaled num den (k - decimalExponent num den)).1 := by
  have low : 10 ^ (Decimal.numDigits num - 1) ≤ num := pow_le_natChars hn
  have high : den ≤ 10 ^ Decimal.numDigits den := lt_pow_natChars.le
  have pos : 0 < Decimal.numDigits num := List.length_pos_iff.mpr natChars_ne_nil
  have up {i j : Nat} (h : i ≤ j) : 10 ^ i ≤ 10 ^ j := Nat.pow_le_pow_right (by decide) h
  have one {i : Nat} : 0 < 10 ^ i := Nat.pow_pos (by decide)
  rw [decimalExponent]
  generalize Decimal.numDigits num = a at *
  generalize Decimal.numDigits den = b at *
  by_cases wide : (0 : Int) ≤ a - b
  · simp only [wide, if_true]
    split
    · refine scaled_le (fun he => ?_) (fun he => ?_)
      · generalize hm : ((k : Int) - (a - b - 1)).natAbs = m
        calc den ≤ 10 ^ b := high
          _ ≤ 10 ^ (a - 1 + m) := up (by omega)
          _ = 10 ^ (a - 1) * 10 ^ m := Nat.pow_add ..
          _ ≤ num * 10 ^ m := Nat.mul_le_mul_right _ low
      · generalize hm : ((k : Int) - (a - b - 1)).natAbs = m
        calc den * 10 ^ m ≤ 10 ^ b * 10 ^ m := Nat.mul_le_mul_right _ high
          _ = 10 ^ (b + m) := (Nat.pow_add ..).symm
          _ ≤ 10 ^ (a - 1) := up (by omega)
          _ ≤ num := low
    · rename_i above
      refine scaled_le (fun _ => ?_) (fun he => ?_)
      · calc den ≤ den * 10 ^ _ := Nat.le_mul_of_pos_right _ one
          _ ≤ num := not_lt.mp above
          _ ≤ num * 10 ^ _ := Nat.le_mul_of_pos_right _ one
      · exact (Nat.mul_le_mul_left _ (up (by omega))).trans (not_lt.mp above)
  · simp only [wide, if_false]
    split
    · refine scaled_le (fun he => ?_) (fun he => absurd he (by omega))
      generalize hm : ((k : Int) - (a - b - 1)).natAbs = m
      calc den ≤ 10 ^ b := high
        _ ≤ 10 ^ (a - 1 + m) := up (by omega)
        _ = 10 ^ (a - 1) * 10 ^ m := Nat.pow_add ..
        _ ≤ num * 10 ^ m := Nat.mul_le_mul_right _ low
    · rename_i above
      refine scaled_le (fun he => ?_) (fun he => absurd he (by omega))
      exact (not_lt.mp above).trans (Nat.mul_le_mul_left _ (up (by omega)))

/-- A scaled denominator is positive. -/
lemma scaled_pos {num den : Nat} {e : Int} (hd : den ≠ 0) : 0 < (scaled num den e).2 := by
  rw [scaled]
  split
  · exact Nat.pos_of_ne_zero hd
  · exact Nat.mul_pos (Nat.pos_of_ne_zero hd) (Nat.pow_pos (by decide))

/-- A fraction of at least one is not rounded to zero. -/
lemma divHalfEven_ne_zero {n d : Nat} (hd : 0 < d) (h : d ≤ n) : Decimal.divHalfEven n d ≠ 0 := by
  have one : 0 < n / d := Nat.div_pos h hd
  rw [Decimal.divHalfEven]
  split
  · exact one.ne'
  · exact Nat.succ_ne_zero _

/-- The digits of the shortest text are not all zero. -/
lemma shortest_ne_zero {target : Binary64} {neg : Bool} {num den fuel k : Nat} (hn : num ≠ 0)
    (hd : den ≠ 0) (hk : 1 ≤ k) :
    (shortest target neg num den (decimalExponent num den) fuel k).1 ≠ 0 := by
  have digits {k : Nat} (hk : 1 ≤ k) :
      0 < (scaled num den (k - 1 - decimalExponent num den)).2 ∧
        (scaled num den (k - 1 - decimalExponent num den)).2 ≤
          (scaled num den (k - 1 - decimalExponent num den)).1 := by
    obtain ⟨j, rfl⟩ : ∃ j, k = j + 1 := ⟨k - 1, by omega⟩
    rw [Nat.cast_succ, add_sub_cancel_right]
    exact ⟨scaled_pos hd, scaled_decimalExponent hn⟩
  induction fuel generalizing k with
  | zero => exact divHalfEven_ne_zero (digits hk).1 (digits hk).2
  | succ fuel ih =>
    obtain ⟨pos, le⟩ := digits hk
    have near := divHalfEven_ne_zero pos le
    have one : 0 < (scaled num den (k - 1 - decimalExponent num den)).1 /
        (scaled num den (k - 1 - decimalExponent num den)).2 := Nat.div_pos le pos
    have choice {c : Prop} [Decidable c] {a b : Nat × Int} (ha : a.1 ≠ 0) (hb : b.1 ≠ 0) :
        (if c then a else b).1 ≠ 0 := by
      split
      · exact ha
      · exact hb
    -- the digits on the other side of the fraction
    have far {c : Prop} [Decidable c] : (if c then
        (scaled num den (k - 1 - decimalExponent num den)).1 /
          (scaled num den (k - 1 - decimalExponent num den)).2 + 1
        else (scaled num den (k - 1 - decimalExponent num den)).1 /
          (scaled num den (k - 1 - decimalExponent num den)).2) ≠ 0 := by
      split
      · exact Nat.succ_ne_zero _
      · exact one.ne'
    exact choice near (choice far (ih (by omega)))

/-- Dropping trailing zeros keeps the leading digit. -/
lemma trimZeros_significant {cs : List Char} (h : Significant cs) : Significant (trimZeros cs) := by
  obtain ⟨digits, c, l, rfl, hc⟩ := h
  have kept : trimZeros (c :: l) = c :: (l.reverse.dropWhile (· = '0')).reverse := by
    rw [trimZeros, List.reverse_cons, dropWhile_append_stop, List.reverse_append]
    · rfl
    · intro x hx
      cases hx
      exact decide_eq_false hc
  rw [kept]
  refine ⟨fun x hx => ?_, c, _, rfl, hc⟩
  rcases List.mem_cons.mp hx with rfl | hx
  · exact digits _ List.mem_cons_self
  · have hx := List.dropWhile_subset _ (List.mem_reverse.mp hx)
    exact digits x (List.mem_cons_of_mem _ (List.mem_reverse.mp hx))

/-- A point and a zero make a plain text of a plain text. -/
lemma withPoint_isPointed {cs : List Char} (h : IsPointed cs) : IsPointed (withPoint cs) := by
  rw [withPoint]
  split
  · exact h
  · rename_i none
    obtain ⟨ds, fs, rfl, hd, hf⟩ := h
    cases fs with
    | cons c fs => exact absurd (.inl (by simp [fracText])) none
    | nil => exact ⟨ds, ['0'], by simp [fracText], hd, by simp [Digits]⟩

/-- The text in the layout of `repr` is a token. -/
lemma layout_token {neg : Bool} {cs : List Char} {bound x : Int} (h : Significant cs) :
    TokenText (Decimal.signChars neg ++ withPoint (layout bound cs x)) := by
  rw [layout]
  split
  · exact (withPoint_isPointed (pointed_isPointed h)).token
  · obtain ⟨ds, fs, e, hd, hf⟩ := @pointed_isPointed cs 1 h
    have sign : (if x < 0 then '-' else '+') = if decide (x < 0) then '-' else '+' := by
      by_cases hx : x < 0 <;> simp [hx]
    have digits : Digits (if (natChars x.natAbs).length < 2 then '0' :: natChars x.natAbs
        else natChars x.natAbs) := by
      split
      · exact List.forall_mem_cons.mpr ⟨by decide, natChars_digit⟩
      · exact natChars_digit
    have ne : (if (natChars x.natAbs).length < 2 then '0' :: natChars x.natAbs
        else natChars x.natAbs) ≠ [] := by
      split
      · exact List.cons_ne_nil _ _
      · exact natChars_ne_nil
    dsimp only
    rw [withPoint, if_pos (.inr (by simp)), e, sign, ← List.append_assoc]
    exact isToken_parts hd hf (isExponent_signed digits ne)

/-- The `repr` of a finite double is a token. -/
lemma repr_token {x : Binary64} (h : x.isFinite = true) : TokenText x.repr := by
  cases x with
  | infinity | nan => cases h
  | finite neg e f =>
    rw [repr]
    dsimp only
    split
    · have zero := @isToken_parts neg ['0'] ['0'] [] leading_zero (by simp [Digits]) isExponent_nil
      rwa [List.append_nil] at zero
    · rename_i hm
      have hn : (ratio (mant e f) (scale e)).1 ≠ 0 := by
        rw [ratio]
        split
        · exact Nat.mul_ne_zero hm (Nat.pow_pos (by decide)).ne'
        · exact hm
      have hd : (ratio (mant e f) (scale e)).2 ≠ 0 := by
        rw [ratio]
        split
        · exact Nat.one_ne_zero
        · exact (Nat.pow_pos (by decide)).ne'
      exact layout_token (trimZeros_significant (natChars_significant
        (shortest_ne_zero hn hd le_rfl)))

end Binary64

end GAM.Lib
