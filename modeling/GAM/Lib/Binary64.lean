import GAM.Lib.Decimal

/-!
# Binary floating point

The double format: a sign, an exponent field below 2047 and a 52-bit fraction field, so that every
finite value of the type is a double and every finite double has one representation. Reading a
decimal rounds to nearest, ties to even; `repr` is the shortest text that reads back to the same
number, and `format17` the text of `format(.., ".17g")`.
-/

namespace GAM.Lib

/-- A double. -/
inductive Binary64 where
  | finite (neg : Bool) (exponent : Fin 2047) (fraction : Fin (2 ^ 52))
  | infinity (neg : Bool)
  | nan
deriving DecidableEq, Repr

namespace Binary64

/-- The positive zero. -/
def zero : Binary64 := .finite false 0 0

/-- Neither an infinity nor a NaN. -/
def isFinite : Binary64 → Bool
  | .finite .. => true
  | _ => false

/-- The integer significand. -/
def mant (exponent : Fin 2047) (fraction : Fin (2 ^ 52)) : Nat :=
  if exponent.val = 0 then fraction.val else 2 ^ 52 + fraction.val

/-- The power of two of the significand's last bit. -/
def scale (exponent : Fin 2047) : Int := max exponent.val 1 - 1075

/-- `m · 2 ^ e` as a fraction of naturals. -/
def ratio (m : Nat) (e : Int) : Nat × Nat :=
  if 0 ≤ e then (m * 2 ^ e.natAbs, 1) else (m, 2 ^ e.natAbs)

/-- Whether two doubles are equal as numbers. -/
def eqv : Binary64 → Binary64 → Bool
  | .nan, _ => false
  | _, .nan => false
  | .finite n e f, .finite n' e' f' =>
    (n == n' && e == e' && f == f') || (mant e f == 0 && mant e' f' == 0)
  | a, b => a == b

/-- A finite double equals itself. -/
lemma eqv_self {x : Binary64} (h : x.isFinite = true) : x.eqv x = true := by
  cases x with
  | finite => simp [eqv]
  | infinity | nan => cases h

/-- The double nearest to a significand at a scale that fits. -/
def pack (neg : Bool) (m : Nat) (e : Int) : Binary64 :=
  if m < 2 ^ 52 then .finite neg 0 (Fin.ofNat _ m)
  else if 971 < e then .infinity neg
  else .finite neg (Fin.ofNat _ (e + 1075).natAbs) (Fin.ofNat _ (m - 2 ^ 52))

/-- The double nearest to a positive fraction, ties to even. -/
def ofRatio (neg : Bool) (num den : Nat) : Binary64 :=
  if num = 0 then .finite neg 0 0
  else
    let guess : Int := (Nat.log2 num : Int) - Nat.log2 den - 52
    -- the guess is exact or one too large
    let exact : Int :=
      let (n, d) := if 0 ≤ guess then (num, den * 2 ^ guess.natAbs)
        else (num * 2 ^ guess.natAbs, den)
      if n < 2 ^ 52 * d then guess - 1 else guess
    let e := max exact (-1074)
    let m := if 0 ≤ e then Decimal.divHalfEven num (den * 2 ^ e.natAbs)
      else Decimal.divHalfEven (num * 2 ^ e.natAbs) den
    if m = 2 ^ 53 then pack neg (2 ^ 52) (e + 1) else pack neg m e

/-- The double nearest to `± coeff · 10 ^ exp`. -/
def ofDecimal (neg : Bool) (coeff : Nat) (exp : Int) : Binary64 :=
  if 0 ≤ exp then ofRatio neg (coeff * 10 ^ exp.natAbs) 1
  else ofRatio neg coeff (10 ^ exp.natAbs)

/-- The double a number token denotes. -/
def ofNumber (n : Number) : Binary64 :=
  match Decimal.ofNumber n with
  | .finite neg coeff exp => ofDecimal neg coeff exp
  | _ => .nan

/-- The nearest single-precision number, ties to even, as a double; `none` when it overflows. -/
def toSingle : Binary64 → Option Binary64
  | .finite neg e f =>
    let m := mant e f
    if m = 0 then some (.finite neg e f)
    else
      -- the last bit of a single is 2⁻¹⁴⁹, or 23 places below the leading one
      let unit := max (scale e + Nat.log2 m - 23) (-149)
      let q := if unit ≤ scale e then m * 2 ^ (scale e - unit).natAbs
        else Decimal.divHalfEven m (2 ^ (unit - scale e).natAbs)
      if (2 ^ 24 ≤ q ∧ 103 < unit) ∨ 104 < unit then none
      else
        let (num, den) := ratio q unit
        some (ofRatio neg num den)
  | _ => none

/-- The decimal exponent of a positive fraction: `10 ^ x ≤ num / den < 10 ^ (x + 1)`. -/
def decimalExponent (num den : Nat) : Int :=
  let guess : Int := (Decimal.numDigits num : Int) - Decimal.numDigits den
  let below := if 0 ≤ guess then num < den * 10 ^ guess.natAbs else num * 10 ^ guess.natAbs < den
  if below then guess - 1 else guess

/-- The fraction `num / den · 10 ^ k`, its integer part and whether a remainder is left. -/
def scaled (num den : Nat) (k : Int) : Nat × Nat :=
  if 0 ≤ k then (num * 10 ^ k.natAbs, den) else (num, den * 10 ^ k.natAbs)

/-- Digits and exponent in the layout of `repr` and `"g"`: plain for exponents from -4 up to the
bound, scientific beyond. -/
def layout (bound : Int) (digits : List Char) (x : Int) : List Char :=
  if -4 ≤ x ∧ x < bound then Decimal.pointed digits (x + 1)
  else
    let e := natChars x.natAbs
    Decimal.pointed digits 1 ++
      'e' :: (if x < 0 then '-' else '+') :: (if e.length < 2 then '0' :: e else e)

/-- Drop the trailing zeros of a digit string that keeps a nonzero digit. -/
def trimZeros (l : List Char) : List Char := (l.reverse.dropWhile (· = '0')).reverse

/-- The text of `format(.., ".17g")`. -/
def format17 : Binary64 → List Char
  | .nan => ['n', 'a', 'n']
  | .infinity neg => Decimal.signChars neg ++ ['i', 'n', 'f']
  | .finite neg e f =>
    let m := mant e f
    if m = 0 then Decimal.signChars neg ++ ['0']
    else
      let (num, den) := ratio m (scale e)
      let x := decimalExponent num den
      let (n, d) := scaled num den (16 - x)
      let q := Decimal.divHalfEven n d
      let (q, x) := if q = 10 ^ 17 then (10 ^ 16, x + 1) else (q, x)
      Decimal.signChars neg ++ layout 17 (trimZeros (natChars q)) x

/-- The shortest digits that read back to the double, searched from `k` digits up. -/
def shortest (target : Binary64) (neg : Bool) (num den : Nat) (x : Int) :
    Nat → Nat → Nat × Int
  | 0, k => ((Decimal.divHalfEven (scaled num den (k - 1 - x)).1 (scaled num den (k - 1 - x)).2),
      x + 1 - k)
  | fuel + 1, k =>
    let (n, d) := scaled num den (k - 1 - x)
    let near := Decimal.divHalfEven n d
    let far := if near = n / d then n / d + 1 else n / d
    if ofDecimal neg near (x + 1 - k) = target then (near, x + 1 - k)
    else if ofDecimal neg far (x + 1 - k) = target then (far, x + 1 - k)
    else shortest target neg num den x fuel (k + 1)

/-- A point and a zero, for a text that has neither point nor exponent. -/
def withPoint (l : List Char) : List Char :=
  if '.' ∈ l ∨ 'e' ∈ l then l else l ++ ['.', '0']

/-- The text of `repr`. -/
def repr : Binary64 → List Char
  | .nan => ['n', 'a', 'n']
  | .infinity neg => Decimal.signChars neg ++ ['i', 'n', 'f']
  | .finite neg e f =>
    let m := mant e f
    if m = 0 then Decimal.signChars neg ++ ['0', '.', '0']
    else
      let (num, den) := ratio m (scale e)
      let x := decimalExponent num den
      let (q, s) := shortest (.finite neg e f) neg num den x 17 1
      let x := s + Decimal.numDigits q - 1
      Decimal.signChars neg ++ withPoint (layout 16 (trimZeros (natChars q)) x)

end Binary64

end GAM.Lib
