import Mathlib.Data.Rat.Defs
import Mathlib.Algebra.Order.Ring.Rat
import Mathlib.Algebra.Field.Rat
import GAM.Lib.Json

/-!
# Decimal floating point

Numbers `± coeff · 10 ^ exp`, after Python's `decimal`: the exact value, the comparisons, the
scientific text of `str`, the plain text of `format(.., "f")`, and `normalize` under the default
context (28 digits, exponents within `±999999`, ties to even, overflow trapped).

A comparison with a NaN is false here where Python raises; the callers compare finite numbers.
-/

namespace GAM.Lib

/-- A decimal number: finite, infinite or not a number. -/
inductive Decimal where
  | finite (neg : Bool) (coeff : Nat) (exp : Int)
  | infinity (neg : Bool)
  | nan
deriving DecidableEq, Repr

namespace Decimal

/-- The signed integer in front of the power of ten. -/
def signed (neg : Bool) (coeff : Nat) : Int := if neg then -coeff else coeff

/-- Neither an infinity nor a NaN. -/
def isFinite : Decimal → Bool
  | .finite .. => true
  | _ => false

/-- A zero of either sign. -/
def isZero : Decimal → Bool
  | .finite _ coeff _ => coeff == 0
  | _ => false

/-- The value of a finite number. -/
def value : Decimal → ℚ
  | .finite neg coeff exp => signed neg coeff * 10 ^ exp
  | _ => 0

/-- `a ≤ b` for finite numbers. -/
def le (a b : Decimal) : Bool := a.isFinite && b.isFinite && decide (a.value ≤ b.value)

/-- `a < b` for finite numbers. -/
def lt (a b : Decimal) : Bool := a.isFinite && b.isFinite && decide (a.value < b.value)

/-- Equality by value. -/
def eqv : Decimal → Decimal → Bool
  | .infinity a, .infinity b => a == b
  | a, b => a.isFinite && b.isFinite && decide (a.value = b.value)

/-- The decimal a number token denotes, exactly. -/
def ofNumber (n : Number) : Decimal :=
  .finite n.neg (n.frac.foldl (fun c d => 10 * c + d.val) n.int)
    (n.exp.getD 0 - n.frac.length)

/-- The number of digits of a coefficient. -/
def numDigits (n : Nat) : Nat := (natChars n).length

/-- The most digits and the largest exponent of the C implementation. -/
def maxDigits : Int := 999999999999999999

/-- The exponent of its smallest number. -/
def minExponent : Int := -1999999999999999997

/-- The constructor `Decimal(text)` takes the literal, and then exactly; it signals an invalid operation
for every other one. -/
def accepts (n : Number) : Bool :=
  match ofNumber n with
  | .finite _ coeff exp =>
    n.frac.length ≤ maxDigits && numDigits coeff ≤ maxDigits && minExponent ≤ exp &&
      exp + numDigits coeff - 1 ≤ maxDigits
  | _ => false

/-- The sign of a text. -/
def signChars (neg : Bool) : List Char := if neg then ['-'] else []

/-- Digits with a point `place` digits after their start, padded with zeros on either side. -/
def pointed (digits : List Char) (place : Int) : List Char :=
  if place ≤ 0 then '0' :: '.' :: (List.replicate place.natAbs '0' ++ digits)
  else if digits.length ≤ place then digits ++ List.replicate (place.natAbs - digits.length) '0'
  else digits.take place.natAbs ++ '.' :: digits.drop place.natAbs

/-- The text of `format(.., "f")`. -/
def plainChars : Decimal → List Char
  | .finite neg coeff exp =>
    signChars neg ++ pointed (natChars coeff) (exp + numDigits coeff)
  | .infinity neg => signChars neg ++ ['I', 'n', 'f', 'i', 'n', 'i', 't', 'y']
  | .nan => ['N', 'a', 'N']

/-- The text of `str`: plain for small exponents, scientific otherwise. -/
def strChars : Decimal → List Char
  | .finite neg coeff exp =>
    let left := exp + numDigits coeff
    if exp ≤ 0 ∧ -6 < left then signChars neg ++ pointed (natChars coeff) left
    else
      let e := left - 1
      signChars neg ++ pointed (natChars coeff) 1 ++
        'E' :: (if e < 0 then intChars e else '+' :: intChars e)
  | .infinity neg => signChars neg ++ ['I', 'n', 'f', 'i', 'n', 'i', 't', 'y']
  | .nan => ['N', 'a', 'N']

/-- The quotient rounded to nearest, ties to even. -/
def divHalfEven (n d : Nat) : Nat :=
  let q := n / d
  let r := n % d
  if 2 * r < d ∨ (2 * r = d ∧ q % 2 = 0) then q else q + 1

/-- Drop trailing zeros of a coefficient, at most `fuel` of them, while the exponent is below the
largest one. -/
def stripZeros : Nat → Nat → Int → Nat × Int
  | 0, coeff, exp => (coeff, exp)
  | fuel + 1, coeff, exp =>
    if coeff % 10 = 0 ∧ exp < 999999 then stripZeros fuel (coeff / 10) (exp + 1)
    else (coeff, exp)

/-- The precision of the default context. -/
def precision : Nat := 28

/-- The least and the greatest exponent of a 28-digit coefficient. -/
def etiny : Int := -1000026
def etop : Int := 999972

/-- Round a nonzero finite number into the default context, or overflow. -/
def fix (coeff : Nat) (exp : Int) : Option (Nat × Int) :=
  let expMin := exp + numDigits coeff - precision
  if etop < expMin then none
  else
    let expMin := max expMin etiny
    if exp < expMin then
      let coeff := divHalfEven coeff (10 ^ (expMin - exp).natAbs)
      -- rounding up a run of nines can add a digit
      if precision < numDigits coeff then
        if etop < expMin + 1 then none else some (coeff / 10, expMin + 1)
      else some (coeff, expMin)
    else some (coeff, exp)

/-- `normalize` in the default context; `none` is the trapped overflow. -/
def normalize : Decimal → Option Decimal
  | .finite neg coeff exp =>
    if coeff = 0 then some (.finite neg 0 0)
    else
      match fix coeff exp with
      | none => none
      | some (coeff, exp) =>
        if coeff = 0 then some (.finite neg 0 0)
        else
          let (coeff, exp) := stripZeros (numDigits coeff) coeff exp
          some (.finite neg coeff exp)
  | d => some d

/-- `text.rstrip("0").rstrip(".")`, when there is a point. -/
def trimPoint (l : List Char) : List Char :=
  if '.' ∈ l then ((l.reverse.dropWhile (· = '0')).dropWhile (· = '.')).reverse else l

/-- The canonical plain text of a finite number, or overflow. -/
def canonicalChars (d : Decimal) : Option (List Char) :=
  if d.isZero then some ['0'] else d.normalize.map fun d => trimPoint d.plainChars

example : canonicalChars (.finite true 12500 (-3)) = some ['-', '1', '2', '.', '5'] := by decide

end Decimal

end GAM.Lib
