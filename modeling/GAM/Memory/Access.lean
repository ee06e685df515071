import GAM.Governance.Changes

/-!
# Reading Python values

The operations of the decoders on loaded values: `value[key]`, `value.get(key)`, `key in value`,
`str`, `bool` and `float`. Stored identifiers and timestamps are texts, as `str` gives them.
-/

namespace GAM
open Lib

/-- `value.get(key)`. -/
def getKey (key : String) : Value → Except PyError Value
  | .dict l => .ok ((l.lookup key).getD .none)
  | .textDict l => .ok ((l.lookup (textOf key)).getD .none)
  | _ => .error .attributeError

/-- `value.get(key, default)`, the default evaluated first. -/
def getKeyOr (key : String) (default : Value) : Value → Except PyError Value
  | .dict l => .ok ((l.lookup key).getD default)
  | .textDict l => .ok ((l.lookup (textOf key)).getD default)
  | _ => .error .attributeError

/-- `key in value`. -/
def containsKey (key : String) : Value → Except PyError Bool
  | .dict l => .ok ((l.map Prod.fst).contains key)
  | .list l | .tuple l => .ok (l.any fun v => valueEq v (.str key))
  | .str s => .ok (s.toList.tails.any fun t => key.toList.isPrefixOf t)
  | .textDict l => .ok ((l.map Prod.fst).contains (textOf key))
  | .points t => .ok (t.tails.any fun t => (textOf key).isPrefixOf t)
  | _ => .error .typeError

/-- `bool(value)`. -/
def truthy : Value → Bool
  | .none => false
  | .bool b => b
  | .int i => i != 0
  | .float (.finite _ e f) => Binary64.mant e f != 0
  | .float _ => true
  | .decimal d => !d.isZero
  | .str s => s != ""
  | .tuple l | .list l => !l.isEmpty
  | .dict l => !l.isEmpty
  | .enum .. | .record _ => true
  | .points t => !t.isEmpty
  | .textDict l => !l.isEmpty

section
variable [Platform]

/-- `str(value)`. -/
def pyStr : Value → String
  | .none => "None"
  | .bool true => "True"
  | .bool false => "False"
  | .int i => String.ofList (intChars i)
  | .float f => String.ofList f.repr
  | .decimal d => String.ofList d.strChars
  | .str s => s
  | v => Platform.containerText v

@[simp] lemma pyStr_str {s : String} : pyStr (.str s) = s := rfl

end

/-! ### `float` of a text -/

/-- Digits with single underscores between them, and the rest. -/
def floatDigits : List Char → List (Fin 10) × List Char
  | c :: '_' :: d :: cs =>
    if c.isDigit && d.isDigit then
      let (ds, rest) := floatDigits (d :: cs)
      (digitFin c :: ds, rest)
    else if c.isDigit then ([digitFin c], '_' :: d :: cs)
    else ([], c :: '_' :: d :: cs)
  | c :: cs =>
    if c.isDigit then
      let (ds, rest) := floatDigits cs
      (digitFin c :: ds, rest)
    else ([], c :: cs)
  | [] => ([], [])

/-- The optional exponent of a float text, which must be its end. -/
def floatExponent : List Char → Option Int
  | [] => some 0
  | c :: cs =>
    if c == 'e' || c == 'E' then
      let (neg, cs) := match cs with
        | '-' :: cs => (true, cs)
        | '+' :: cs => (false, cs)
        | cs => (false, cs)
      match floatDigits cs with
      | (d :: ds, []) =>
        let n : Nat := (d :: ds).foldl (fun n d => 10 * n + d.val) 0
        some (if neg then -n else n)
      | _ => none
    else none

/-- An unsigned float text. -/
def floatBody (neg : Bool) (cs : List Char) : Option Binary64 :=
  let word := cs.map Char.toLower
  if word = ['i', 'n', 'f'] ∨ word = ['i', 'n', 'f', 'i', 'n', 'i', 't', 'y'] then
    some (.infinity neg)
  else if word = ['n', 'a', 'n'] then some .nan
  else
    let (int, cs) := floatDigits cs
    let (frac, cs) := match cs with
      | '.' :: cs => floatDigits cs
      | cs => ([], cs)
    if int ++ frac = [] then none
    else (floatExponent cs).map fun e =>
      .ofDecimal neg ((int ++ frac).foldl (fun n d => 10 * n + d.val) 0) (e - frac.length)

/-- `float` of an ASCII text; white space around it is ignored. -/
def floatOfText (text : String) : Option Binary64 :=
  match stripSpace text.toList with
  | '-' :: cs => floatBody true cs
  | '+' :: cs => floatBody false cs
  | cs => floatBody false cs

/-- `float(value)`. -/
def pyFloat : Value → Except PyError Binary64
  | .bool b => .ok (.ofDecimal false (if b then 1 else 0) 0)
  | .int i =>
    match Binary64.ofDecimal (decide (i < 0)) i.natAbs 0 with
    | .infinity _ => .error .arithmeticError
    | f => .ok f
  | .float f => .ok f
  | .decimal (.finite neg coeff exp) => .ok (.ofDecimal neg coeff exp)
  | .decimal (.infinity neg) => .ok (.infinity neg)
  | .decimal .nan => .ok .nan
  | .str s =>
    match floatOfText s with
    | some f => .ok f
    | none => .error .valueError
  | _ => .error .typeError

example : floatOfText " -1_0.5e1 " = some (.ofDecimal true 105 0) := by decide

end GAM
