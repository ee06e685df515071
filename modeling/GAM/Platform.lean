import GAM.Lib.Checks
import GAM.Lib.Sha256
import GAM.Lib.Value

/-!
# What the program runs on

The services the modules call and do not contain: the digest function of `hashlib`, Unicode
normalization and lower-casing of `unicodedata` and `str`, the decimal digits of `re`, and the text
`str` gives a container, which nothing is assumed of. `Platform` states what the program relies
on: the digest is a text of 64 lower-case hexadecimal digits, normalization is idempotent, and the
Unicode functions have their plain meaning on ASCII. The exceptions of the modules are one type,
`PyError`.
-/

namespace GAM
open Lib

/-- A text of ASCII characters. -/
def isAscii (s : String) : Prop := ∀ c ∈ s.toList, c.toNat < 128

/-- The digest and the Unicode services. -/
class Platform where
  sha256 : String → String
  sha256_hex : ∀ t, isHex64 (sha256 t) = true
  nfc : String → String
  nfc_idem : ∀ s, nfc (nfc s) = nfc s
  nfc_ascii : ∀ s, isAscii s → nfc s = s
  lower : String → String
  lower_ascii : ∀ s, isAscii s → lower s = String.ofList (s.toList.map Char.toLower)
  isDecimal : Char → Bool
  isDecimal_ascii : ∀ c, c.toNat < 128 → isDecimal c = c.isDigit
  containerText : Value → String

export Platform (sha256 nfc lower)

/-- Normalization of a text, where `run` is what was read since the last surrogate, in reverse: a lone
surrogate composes with nothing. -/
def nfcRuns [Platform] (run : List Char) : Text → Text
  | [] => textOf (nfc (String.ofList run.reverse))
  | .char c :: t => nfcRuns (c :: run) t
  | .surrogate offset :: t =>
    textOf (nfc (String.ofList run.reverse)) ++ .surrogate offset :: nfcRuns [] t

/-- Python `unicodedata.normalize("NFC", text)`. -/
def nfcText [Platform] (t : Text) : Text := nfcRuns [] t

/-- A text without surrogates is normalized as one run. -/
lemma nfcRuns_chars [Platform] {run l : List Char} :
    nfcRuns run (l.map .char) = textOf (nfc (String.ofList (run.reverse ++ l))) := by
  induction l generalizing run with
  | nil => simp [nfcRuns]
  | cons c l ih => simp [nfcRuns, ih]

/-- On strings it is the normalization of strings. -/
@[simp] lemma nfcText_textOf [Platform] {s : String} : nfcText (textOf s) = textOf (nfc s) := by
  rw [nfcText, textOf, nfcRuns_chars, List.reverse_nil, List.nil_append, String.ofList_toList]

/-- Surrogates stay. -/
lemma nfcRuns_isUnicode [Platform] {run : List Char} {t : Text} :
    (nfcRuns run t).isUnicode = t.isUnicode := by
  induction t generalizing run with
  | nil => rw [nfcRuns, Text.isUnicode_textOf]; rfl
  | cons p t ih =>
    cases p with
    | char c => rw [nfcRuns, ih, Text.isUnicode_char]
    | surrogate offset => rw [nfcRuns, Text.isUnicode_surrogate, Text.isUnicode_append,
        Text.isUnicode_surrogate, Bool.and_false]

@[simp] lemma nfcText_isUnicode [Platform] {t : Text} : (nfcText t).isUnicode = t.isUnicode :=
  nfcRuns_isUnicode

/-- A platform with the real digest function, where only ASCII texts have a Unicode form of their
own. -/
@[reducible] def asciiPlatform : Platform where
  sha256 := sha256Hex
  sha256_hex := sha256Hex_isHex
  nfc := id
  nfc_idem _ := rfl
  nfc_ascii _ _ := rfl
  lower s := String.ofList (s.toList.map Char.toLower)
  lower_ascii _ _ := rfl
  isDecimal := Char.isDigit
  isDecimal_ascii _ _ := rfl
  containerText _ := ""

/-- The white space of `str.strip`. -/
def isPySpace (c : Char) : Bool :=
  let n := c.toNat
  (9 ≤ n && n ≤ 13) || (28 ≤ n && n ≤ 32) || n == 0x85 || n == 0xa0 || n == 0x1680 ||
    (0x2000 ≤ n && n ≤ 0x200a) || n == 0x2028 || n == 0x2029 || n == 0x202f || n == 0x205f ||
    n == 0x3000

/-- A text that `str.strip` leaves as it is. -/
def isStripped (s : String) : Bool :=
  s.toList.head?.all (fun c => !isPySpace c) && s.toList.getLast?.all fun c => !isPySpace c

/-- The exceptions the modules raise. `contractViolation`, `blocked`, `integrity` and `conflict` are
classes below `ValueError` that handlers tell apart; `valueError` is any other, also the error of
encoding a lone surrogate. -/
inductive PyError where
  | contractViolation (message : String)
  | blocked (code message : String)
  | integrity (message : String)
  | conflict (message : String)
  | embedding (message : String)
  | valueError
  | typeError
  | keyError (key : String)
  | attributeError
  | arithmeticError
  | executionBlocked (message : String)
  | cliBlocked (message : String)
  | sqlError (sqlstate : String)
deriving DecidableEq, Repr

/-- Python `ContractViolation`, raised. -/
def reject {α : Type} (message : String) : Except PyError α := .error (.contractViolation message)

@[simp] lemma onlyRaises_reject {α : Type} {P : PyError → Prop} {message : String} :
    OnlyRaises P (reject message : Except PyError α) ↔ P (.contractViolation message) := .rfl

/-- The exceptions of the field checks: violations of the contract and the errors of reading and
writing JSON. -/
@[simp] def PyError.IsCheckError : PyError → Prop
  | .contractViolation _ | .valueError | .typeError => True
  | _ => False

/-- The exceptions of the trace validators: violations of the contract and the errors of reading and
writing numbers. -/
@[simp] def PyError.IsTraceError : PyError → Prop
  | .contractViolation _ | .valueError | .typeError | .arithmeticError => True
  | _ => False

/-- The exceptions of reading a result back and looking something up in it. -/
@[simp] def PyError.IsLookup : PyError → Prop
  | .valueError | .typeError | .keyError _ | .attributeError => True
  | _ => False

/-- The exceptions of the evaluator: a stop with one of these codes and a message, an error of the
trace validators or one of a lookup. -/
@[simp] def PyError.IsStop (codes : List String) : PyError → Prop
  | .blocked code message => code ∈ codes ∧ message ≠ ""
  | .contractViolation _ | .valueError | .typeError | .keyError _ | .attributeError
  | .arithmeticError => True
  | _ => False

/-- An error of the check is one of the trace. -/
lemma PyError.IsCheckError.isTraceError {e : PyError} (h : e.IsCheckError) : e.IsTraceError := by
  cases e <;> simp_all

/-- An error of the trace stops the run. -/
lemma PyError.IsTraceError.isStop {codes : List String} {e : PyError} (h : e.IsTraceError) :
    e.IsStop codes := by
  cases e <;> simp_all

/-- A failed lookup stops the run. -/
lemma PyError.IsLookup.isStop {codes : List String} {e : PyError} (h : e.IsLookup) :
    e.IsStop codes := by
  cases e <;> simp_all

instance (s : String) : Decidable (isAscii s) :=
  List.decidableBAll (fun c : Char => c.toNat < 128) s.toList

end GAM
