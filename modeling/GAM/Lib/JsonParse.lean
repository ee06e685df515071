import GAM.Lib.Checks
import GAM.Lib.JsonTree
import GAM.Lib.Text

/-!
# Reading JSON texts

The reader of the dialect of `Json.lean`, after Python's scanner: blanks are skipped around every
token, an escaped surrogate pair is one character, and control characters inside a string are
refused. What a token or a closing bracket becomes is up to the `Hooks`, which are called in the
order of the text and may raise, also before a fault of the text that comes later. The reader
recurses on a fuel that bounds its depth; `Hooks.scan` starts it with more than it can use.

`Json.parse` reads a text as a tree. An escaped surrogate with no partner is no character of a
string, so a text with one has no tree. `Json.parse_print` is the round trip: every printed value is
read back. Hence the printer is injective (`Json.print_injective`).
-/

namespace GAM.Lib

/-- The blanks of JSON. -/
def isBlank (c : Char) : Bool := c = ' ' || c = '\t' || c = '\n' || c = '\r'

/-- Drop leading blanks. -/
def skipBlanks : List Char → List Char
  | [] => []
  | c :: cs => if isBlank c then skipBlanks cs else c :: cs

/-- The value of a hexadecimal digit of either case. -/
def hexVal (c : Char) : Option Nat :=
  if c.isDigit then some (c.toNat - 48)
  else if 'a' ≤ c ∧ c ≤ 'f' then some (c.toNat - 87)
  else if 'A' ≤ c ∧ c ≤ 'F' then some (c.toNat - 55)
  else none

/-- The value of four hexadecimal digits. -/
def hex4 (a b c d : Char) : Option Nat := do
  let a ← hexVal a
  let b ← hexVal b
  let c ← hexVal c
  let d ← hexVal d
  return ((a * 16 + b) * 16 + c) * 16 + d

/-- The character after a backslash, for the one-letter escapes. -/
def unescape : Char → Option Char
  | '"' => some '"'
  | '\\' => some '\\'
  | '/' => some '/'
  | 'b' => some '\x08'
  | 'f' => some '\x0c'
  | 'n' => some '\n'
  | 'r' => some '\r'
  | 't' => some '\t'
  | _ => none

/-- Put a code point before the text read so far. -/
def consRead (p : Point) (r : Text × List Char) : Text × List Char := (consPoint p r.1, r.2)

/-- The rest of a string token after its opening quote: its code points and what follows. -/
def parseString : List Char → Option (Text × List Char)
  | [] => none
  | '"' :: cs => some ([], cs)
  | '\\' :: 'u' :: a :: b :: c :: d :: cs =>
    match hex4 a b c d with
    | none => none
    | some u => (parseString cs).map (consRead (pointOf u))
  | '\\' :: e :: cs =>
    match unescape e with
    | none => none
    | some c => (parseString cs).map (consRead (.char c))
  | c :: cs => if c.toNat < 32 then none else (parseString cs).map (consRead (.char c))

/-- The longest run of digits. -/
def spanDigits : List Char → List Char × List Char
  | [] => ([], [])
  | c :: cs => if c.isDigit then (c :: (spanDigits cs).1, (spanDigits cs).2) else ([], c :: cs)

/-- The integer part: a single zero, or a run of digits. -/
def parseInt : List Char → Option (Nat × List Char)
  | '0' :: cs => some (0, cs)
  | cs =>
    match spanDigits cs with
    | ([], _) => none
    | (ds, cs) => some (Nat.ofDigitChars 10 ds 0, cs)

/-- A digit as a number below ten. -/
def digitFin (c : Char) : Fin 10 := Fin.ofNat 10 (c.toNat - 48)

/-- The fraction part, when a dot is followed by a digit. -/
def parseFrac : List Char → List (Fin 10) × List Char
  | '.' :: cs =>
    match spanDigits cs with
    | ([], _) => ([], '.' :: cs)
    | (ds, cs) => (ds.map digitFin, cs)
  | cs => ([], cs)

/-- The exponent digits after the optional sign. -/
def parseExpDigits (neg : Bool) (cs : List Char) : Option (Int × List Char) :=
  match spanDigits cs with
  | ([], _) => none
  | (ds, cs) =>
    some ((if neg then -(Nat.ofDigitChars 10 ds 0 : Int) else Nat.ofDigitChars 10 ds 0), cs)

/-- The exponent after its letter. -/
def parseExpBody : List Char → Option (Int × List Char)
  | '-' :: cs => parseExpDigits true cs
  | '+' :: cs => parseExpDigits false cs
  | cs => parseExpDigits false cs

/-- The exponent part, when the letter is followed by an integer. -/
def parseExp : List Char → Option Int × List Char
  | [] => (none, [])
  | c :: cs =>
    if c = 'e' ∨ c = 'E' then
      match parseExpBody cs with
      | some (e, cs) => (some e, cs)
      | none => (none, c :: cs)
    else (none, c :: cs)

/-- A number token without its sign. -/
def parseUnsigned (neg : Bool) (cs : List Char) : Option (Number × List Char) := do
  let (int, cs) ← parseInt cs
  let (frac, cs) := parseFrac cs
  let (exp, cs) := parseExp cs
  return (⟨neg, int, frac, exp⟩, cs)

/-- A number token. -/
def parseNumber : List Char → Option (Number × List Char)
  | '-' :: cs => parseUnsigned true cs
  | cs => parseUnsigned false cs

/-- What a reader makes of the tokens and of the closing brackets of a text. -/
structure Hooks (ε α : Type) where
  /-- Raised where the text cannot be read on. -/
  invalid : ε
  null : α
  bool : Bool → α
  constant : Constant → Except ε α
  number : Number → Except ε α
  str : Text → Except ε α
  arr : List α → α
  /-- Called with the members of an object when it closes. -/
  obj : List (Text × α) → Except ε α

section
variable {ε α : Type} (h : Hooks ε α)

/-- The tokens spelled with letters. -/
def scanWord : List Char → Except ε (α × List Char)
  | 'n' :: 'u' :: 'l' :: 'l' :: cs => .ok (h.null, cs)
  | 't' :: 'r' :: 'u' :: 'e' :: cs => .ok (h.bool true, cs)
  | 'f' :: 'a' :: 'l' :: 's' :: 'e' :: cs => .ok (h.bool false, cs)
  | 'N' :: 'a' :: 'N' :: cs => (h.constant .nan).map (·, cs)
  | 'I' :: 'n' :: 'f' :: 'i' :: 'n' :: 'i' :: 't' :: 'y' :: cs =>
    (h.constant .infinity).map (·, cs)
  | '-' :: 'I' :: 'n' :: 'f' :: 'i' :: 'n' :: 'i' :: 't' :: 'y' :: cs =>
    (h.constant .negInfinity).map (·, cs)
  | _ => .error h.invalid

mutual

/-- A value at the head of the text, and what follows it. -/
def scanValue : Nat → List Char → Except ε (α × List Char)
  | 0, _ => .error h.invalid
  | _ + 1, '"' :: cs =>
    match parseString cs with
    | some (t, cs) => (h.str t).map (·, cs)
    | none => .error h.invalid
  | n + 1, '[' :: cs =>
    match skipBlanks cs with
    | ']' :: cs => .ok (h.arr [], cs)
    | cs => do
      let (a, cs) ← scanValue n cs
      let (l, cs) ← scanElems n (skipBlanks cs)
      return (h.arr (a :: l), cs)
  | n + 1, '{' :: cs =>
    match skipBlanks cs with
    | '}' :: cs => (h.obj []).map (·, cs)
    | cs => do
      let (m, cs) ← scanMember n cs
      let (l, cs) ← scanMembers n (skipBlanks cs)
      let a ← h.obj (m :: l)
      return (a, cs)
  | _ + 1, cs =>
    match parseNumber cs with
    | some (n, cs) => (h.number n).map (·, cs)
    | none => scanWord h cs

/-- What follows the first element of an array. -/
def scanElems : Nat → List Char → Except ε (List α × List Char)
  | 0, _ => .error h.invalid
  | _ + 1, ']' :: cs => .ok ([], cs)
  | n + 1, ',' :: cs => do
    let (a, cs) ← scanValue n (skipBlanks cs)
    let (l, cs) ← scanElems n (skipBlanks cs)
    return (a :: l, cs)
  | _ + 1, _ => .error h.invalid

/-- One key, its colon and its value. -/
def scanMember : Nat → List Char → Except ε ((Text × α) × List Char)
  | 0, _ => .error h.invalid
  | n + 1, '"' :: cs =>
    match parseString cs with
    | none => .error h.invalid
    | some (k, cs) =>
      match skipBlanks cs with
      | ':' :: cs => (scanValue n (skipBlanks cs)).map fun p => ((k, p.1), p.2)
      | _ => .error h.invalid
  | _ + 1, _ => .error h.invalid

/-- What follows the first member of an object. -/
def scanMembers : Nat → List Char → Except ε (List (Text × α) × List Char)
  | 0, _ => .error h.invalid
  | _ + 1, '}' :: cs => .ok ([], cs)
  | n + 1, ',' :: cs => do
    let (m, cs) ← scanMember n (skipBlanks cs)
    let (l, cs) ← scanMembers n (skipBlanks cs)
    return (m :: l, cs)
  | _ + 1, _ => .error h.invalid

end

/-- The whole text as one value (Python `json.loads` with hooks): the hooks are called in the order
of the text, and what follows the value is looked at last. -/
def Hooks.scan (s : String) : Except ε α := do
  let (a, cs) ← scanValue h (2 * s.toList.length + 2) (skipBlanks s.toList)
  if skipBlanks cs = [] then .ok a else .error h.invalid

end

/-- The hooks that keep the text as a tree of strings, without one for a lone surrogate. -/
def Json.hooks : Hooks Unit Json where
  invalid := ()
  null := .null
  bool := .bool
  constant := fun c => .ok (.constant c)
  number := fun n => .ok (.num n)
  str := fun t =>
    match t.string? with
    | some s => .ok (.str s)
    | none => .error ()
  arr := .arr
  obj := fun l =>
    match Text.members? l with
    | some ms => .ok (.obj ms)
    | none => .error ()

@[simp] lemma Json.hooks_str {s : String} : Json.hooks.str (textOf s) = .ok (.str s) := by
  simp [Json.hooks]

@[simp] lemma Json.hooks_arr {l : List Json} : Json.hooks.arr l = .arr l := rfl

@[simp] lemma Json.hooks_obj {ms : List (String × Json)} :
    Json.hooks.obj (textMembers ms) = .ok (.obj ms) := by
  simp [Json.hooks, Text.members?_eq_some.mpr rfl]

/-- The tree of a well-formed text without lone surrogates. -/
def Json.parse (s : String) : Option Json := (Json.hooks.scan s).toOption

/-! ### Numbers -/

/-- The text after a token does not prolong a number. -/
def Delim : List Char → Prop
  | [] => True
  | c :: _ => c.isDigit = false ∧ c ≠ '.' ∧ c ≠ 'e' ∧ c ≠ 'E'

/-- The head of a text is no digit. -/
def NoDigit : List Char → Prop
  | [] => True
  | c :: _ => c.isDigit = false

/-- A delimiter is no digit. -/
lemma Delim.noDigit {r} (h : Delim r) : NoDigit r := by
  cases r with
  | nil => trivial
  | cons c r => exact h.1

/-- A run of digits ends where the text after it has none. -/
lemma spanDigits_append {ds r} (hd : ∀ c ∈ ds, c.isDigit = true) (hn : NoDigit r) :
    spanDigits (ds ++ r) = (ds, r) := by
  induction ds with
  | nil =>
    cases r with
    | nil => rfl
    | cons c r =>
      have hc : c.isDigit = false := hn
      simp [spanDigits, hc]
  | cons d ds ih =>
    have hc := hd d (by simp)
    simp [spanDigits, hc, ih fun c hc => hd c (by simp [hc])]

/-- A printed natural number has digits only. -/
lemma natChars_digit {n : Nat} : ∀ c ∈ natChars n, c.isDigit = true :=
  fun _ hc => Nat.isDigit_of_mem_toDigits (b := 10) (by decide) (by decide) hc

lemma natChars_ne_nil {n : Nat} : natChars n ≠ [] := Nat.toDigits_ne_nil

/-- A printed natural number reads back. -/
lemma ofDigitChars_natChars {n : Nat} : Nat.ofDigitChars 10 (natChars n) 0 = n :=
  Nat.ofDigitChars_ten_toDigits

/-- Only zero is printed as the digit zero. -/
lemma digitChar_zero : ∀ d < 10, Nat.digitChar d = '0' → d = 0 := by decide

/-- Only zero is written with a leading zero. -/
lemma natChars_head {n : Nat} (hn : n ≠ 0) : ∀ r, natChars n ≠ '0' :: r := by
  induction n using Nat.strongRecOn with
  | _ n ih =>
    intro r e
    by_cases h : n < 10
    · rw [natChars, Nat.toDigits_of_lt_base h] at e
      exact hn (digitChar_zero n h (List.cons.inj e).1)
    · rw [natChars, Nat.toDigits_of_base_le (by decide) (by omega)] at e
      cases hd : Nat.toDigits 10 (n / 10) with
      | nil => exact Nat.toDigits_ne_nil hd
      | cons d ds =>
        rw [hd, List.cons_append] at e
        have e := (List.cons.inj e).1
        subst e
        exact ih (n / 10) (by omega) (by omega) ds hd

/-- The integer part of a printed number reads back. -/
lemma parseInt_natChars {n : Nat} {r} (hn : NoDigit r) :
    parseInt (natChars n ++ r) = some (n, r) := by
  by_cases h : n = 0
  · subst h
    rfl
  · have hs := spanDigits_append (natChars_digit (n := n)) hn
    have hv := ofDigitChars_natChars (n := n)
    have hh := natChars_head h
    cases e : natChars n with
    | nil => exact absurd e natChars_ne_nil
    | cons d ds =>
      rw [e] at hs hv hh
      have hd : d ≠ '0' := fun e' => hh ds (by rw [e'])
      unfold parseInt
      split
      · rename_i e'
        exact absurd (List.cons.inj e').1 hd
      · rw [hs]
        simp only [hv]

/-- The head of a text is neither a digit nor a dot. -/
def NoFrac : List Char → Prop
  | [] => True
  | c :: _ => c.isDigit = false ∧ c ≠ '.'

/-- What starts no fraction starts no digit. -/
lemma NoFrac.noDigit {r} (h : NoFrac r) : NoDigit r := by
  cases r with
  | nil => trivial
  | cons c r => exact h.1

lemma digitFin_digitChar : ∀ d : Fin 10, digitFin d.val.digitChar = d := by decide

lemma isDigit_digitChar : ∀ d : Fin 10, d.val.digitChar.isDigit = true := by decide

/-- A printed fraction reads back. -/
lemma parseFrac_fracChars {ds : List (Fin 10)} {r} (hn : NoFrac r) :
    parseFrac (fracChars ds ++ r) = (ds, r) := by
  cases ds with
  | nil =>
    cases r with
    | nil => rfl
    | cons c r =>
      simp only [fracChars, List.nil_append]
      rw [parseFrac]
      intro r' e
      exact hn.2 (List.cons.inj e).1
  | cons d ds =>
    have hd : ∀ c ∈ (d :: ds).map fun d => d.val.digitChar, c.isDigit = true := by
      intro c hc
      obtain ⟨e, _, rfl⟩ := List.mem_map.mp hc
      exact isDigit_digitChar e
    have hs := spanDigits_append hd hn.noDigit
    simp only [fracChars, List.cons_append, List.map_cons] at hs ⊢
    rw [parseFrac, hs]
    simp [digitFin_digitChar, Function.comp_def]

/-- A printed exponent's digits read back with their sign. -/
lemma parseExpDigits_natChars {neg : Bool} {n : Nat} {r} (hn : NoDigit r) :
    parseExpDigits neg (natChars n ++ r) = some ((if neg then -(n : Int) else n), r) := by
  have hs := spanDigits_append (natChars_digit (n := n)) hn
  have hv := ofDigitChars_natChars (n := n)
  rw [parseExpDigits, hs]
  cases e : natChars n with
  | nil => exact absurd e natChars_ne_nil
  | cons d ds =>
    rw [e] at hv
    simp only [hv]

/-- A printed natural number carries no sign. -/
lemma natChars_sign {n : Nat} {r} : ∀ r', natChars n ++ r ≠ '-' :: r' ∧ natChars n ++ r ≠ '+' :: r' := by
  intro r'
  have hd := natChars_digit (n := n)
  cases e : natChars n with
  | nil => exact absurd e natChars_ne_nil
  | cons d ds =>
    have hd := hd d (by simp [e])
    constructor
    all_goals
      intro e'
      rw [(List.cons.inj e').1] at hd
      exact absurd hd (by decide)

/-- A printed exponent's value reads back. -/
lemma parseExpBody_intChars {i : Int} {r} (hn : NoDigit r) :
    parseExpBody (intChars i ++ r) = some (i, r) := by
  rw [intChars]
  split
  · have hi : -(i.natAbs : Int) = i := by omega
    simp only [List.cons_append]
    rw [parseExpBody, parseExpDigits_natChars hn]
    exact congrArg (fun j => some (j, r)) hi
  · have hi : (i.natAbs : Int) = i := by omega
    rw [parseExpBody, parseExpDigits_natChars hn]
    · simp [hi]
    · exact fun r' => (natChars_sign r').1
    · exact fun r' => (natChars_sign r').2

/-- A printed exponent reads back. -/
lemma parseExp_expChars {e : Option Int} {r} (hn : Delim r) :
    parseExp (expChars e ++ r) = (e, r) := by
  cases e with
  | none =>
    cases r with
    | nil => rfl
    | cons c r =>
      have hc : ¬(c = 'e' ∨ c = 'E') := by
        rintro (h | h)
        · exact hn.2.2.1 h
        · exact hn.2.2.2 h
      simp [expChars, parseExp, hc]
  | some e =>
    simp [expChars, parseExp, parseExpBody_intChars hn.noDigit]

/-- A printed exponent starts no fraction. -/
lemma expChars_noFrac {e : Option Int} {r} (hn : Delim r) : NoFrac (expChars e ++ r) := by
  cases e with
  | none =>
    cases r with
    | nil => trivial
    | cons c r => exact ⟨hn.1, hn.2.1⟩
  | some e => exact ⟨by decide, by decide⟩

/-- A printed fraction starts with no digit. -/
lemma fracChars_noDigit {ds : List (Fin 10)} {r} (hn : NoDigit r) :
    NoDigit (fracChars ds ++ r) := by
  cases ds with
  | nil => exact hn
  | cons d ds => exact (by decide : ('.').isDigit = false)

/-- A number without its sign reads back. -/
lemma parseUnsigned_print {neg : Bool} {n : Nat} {ds : List (Fin 10)} {e : Option Int} {r}
    (hn : Delim r) :
    parseUnsigned neg (natChars n ++ fracChars ds ++ expChars e ++ r) =
      some (⟨neg, n, ds, e⟩, r) := by
  have hf := expChars_noFrac (e := e) hn
  have hi := parseInt_natChars (n := n) (@fracChars_noDigit ds _ hf.noDigit)
  simp only [List.append_assoc]
  rw [parseUnsigned, hi]
  simp [parseFrac_fracChars hf, parseExp_expChars hn]

/-- A printed number is read back. -/
lemma parseNumber_print {n : Number} {r} (hn : Delim r) :
    parseNumber (n.print ++ r) = some (n, r) := by
  obtain ⟨neg, int, frac, exp⟩ := n
  have h := @parseUnsigned_print neg int frac exp _ hn
  cases neg
  · simp only [Number.print, List.append_assoc, Bool.false_eq_true, if_false,
      List.nil_append] at h ⊢
    rw [parseNumber, h]
    exact fun r' => (natChars_sign r').1
  · simp only [Number.print, List.append_assoc, if_true, List.cons_append,
      List.nil_append] at h ⊢
    rw [parseNumber, h]

/-! ### Strings -/

/-- The four digits of an escaped control character read back. -/
lemma hex4_control : ∀ n < 32, hex4 '0' '0' (hexChar (n / 16)) (hexChar (n % 16)) = some n := by
  decide

/-- The text of one character is read back. -/
lemma parseString_escapeChar {c : Char} {r} :
    parseString (escapeChar c ++ r) = (parseString r).map (consRead (.char c)) := by
  unfold escapeChar
  split
  · subst_vars; simp [parseString, unescape]
  split
  · subst_vars; simp [parseString, unescape]
  split
  · subst_vars; simp [parseString, unescape]
  split
  · subst_vars; simp [parseString, unescape]
  split
  · subst_vars; simp [parseString, unescape]
  split
  · subst_vars; simp [parseString, unescape]
  split
  · subst_vars; simp [parseString, unescape]
  split
  · rename_i h
    have hx := hex4_control c.toNat h
    simp only [List.cons_append, List.nil_append]
    rw [parseString, hx]
    have h' : ¬(0xD800 ≤ c.toNat ∧ c.toNat ≤ 0xDFFF) := by omega
    simp [pointOf, h']
  · rename_i hq hb _ _ _ _ _ h
    simp only [List.cons_append, List.nil_append]
    rw [parseString.eq_def]
    split
    all_goals simp_all

/-- A printed string is read back. -/
lemma parseString_escape {l : List Char} {r} :
    parseString (l.flatMap escapeChar ++ '"' :: r) = some (l.map .char, r) := by
  induction l with
  | nil => simp [parseString]
  | cons c l ih =>
    simp only [List.flatMap_cons, List.append_assoc]
    rw [parseString_escapeChar, ih, Option.map_some, consRead, consPoint_char, List.map_cons]

/-- A printed string is read back as its text. -/
lemma parseString_string {s : String} {r} :
    parseString (s.toList.flatMap escapeChar ++ '"' :: r) = some (textOf s, r) :=
  parseString_escape

/-! ### Values -/

/-- The text is read as the number, whatever follows it. -/
def IsToken (cs : List Char) (n : Number) : Prop :=
  ∀ r, Delim r → parseNumber (cs ++ r) = some (n, r)

/-- A printed number is a token. -/
lemma Number.isToken (n : Number) : IsToken n.print n := fun _ hr => parseNumber_print hr

/-- A token starts with a sign or a digit. -/
lemma IsToken.head {cs : List Char} {n : Number} (h : IsToken cs n) :
    ∃ c l, cs = c :: l ∧ (c = '-' ∨ c.isDigit = true) := by
  have read := h [] trivial
  rw [List.append_nil] at read
  cases cs with
  | nil => cases read
  | cons c l =>
    refine ⟨c, l, rfl, ?_⟩
    by_contra hc
    rw [not_or, Bool.not_eq_true] at hc
    obtain ⟨minus, digit⟩ := hc
    have zero : c ≠ '0' := by
      rintro rfl
      exact absurd digit (by decide)
    have int : parseInt (c :: l) = none := by
      unfold parseInt
      split
      · rename_i e
        exact absurd (List.cons.inj e).1 zero
      · simp [spanDigits, digit]
    rw [parseNumber] at read
    · rw [parseUnsigned, int] at read
      cases read
    · exact fun r' e => minus (List.cons.inj e).1

/-- A sign or a digit is no other head of a value. -/
lemma numberHead_ne {c : Char} (h : c = '-' ∨ c.isDigit = true) :
    isBlank c = false ∧ c ≠ ']' ∧ c ≠ '}' ∧ c ≠ '"' ∧ c ≠ '[' ∧ c ≠ '{' := by
  have apart {d : Char} (hd : d ≠ '-' ∧ d.isDigit = false) : c ≠ d := by
    rintro rfl
    rcases h with h | h
    · exact hd.1 h
    · exact Bool.false_ne_true (hd.2.symm.trans h)
  refine ⟨?_, apart (by decide), apart (by decide), apart (by decide), apart (by decide),
    apart (by decide)⟩
  have blanks : c ≠ ' ' ∧ c ≠ '\t' ∧ c ≠ '\n' ∧ c ≠ '\r' :=
    ⟨apart (by decide), apart (by decide), apart (by decide), apart (by decide)⟩
  simp [isBlank, blanks]

section
variable {f : Number → List Char} {tok : Number → Number}

/-- The numbers of a value are written as tokens. -/
def Tokens (f : Number → List Char) (tok : Number → Number) (l : List Json) : Prop :=
  ∀ n, .num n ∈ l → IsToken (f n) (tok n)

/-- The text of a value starts with neither a blank nor a closing bracket. -/
lemma Json.printWith_head : ∀ j : Json, Tokens f tok j.parts →
    ∃ c l, j.printWith f = c :: l ∧ isBlank c = false ∧ c ≠ ']' ∧ c ≠ '}'
  | .null, _ => ⟨'n', ['u', 'l', 'l'], by simp [Json.printWith], by decide⟩
  | .bool true, _ => ⟨'t', ['r', 'u', 'e'], by simp [Json.printWith], by decide⟩
  | .bool false, _ => ⟨'f', ['a', 'l', 's', 'e'], by simp [Json.printWith], by decide⟩
  | .constant .nan, _ => ⟨'N', ['a', 'N'], by simp [Json.printWith, Constant.print], by decide⟩
  | .constant .infinity, _ =>
    ⟨'I', ['n', 'f', 'i', 'n', 'i', 't', 'y'], by simp [Json.printWith, Constant.print], by decide⟩
  | .constant .negInfinity, _ =>
    ⟨'-', ['I', 'n', 'f', 'i', 'n', 'i', 't', 'y'], by simp [Json.printWith, Constant.print],
      by decide⟩
  | .num n, h => by
    obtain ⟨c, l, e, hc⟩ := (h n (List.mem_singleton_self _)).head
    have ne := numberHead_ne hc
    exact ⟨c, l, e, ne.1, ne.2.1, ne.2.2.1⟩
  | .str s, _ =>
    ⟨'"', s.toList.flatMap escapeChar ++ ['"'], by simp [Json.printWith, stringChars], by decide⟩
  | .arr [], _ => ⟨'[', [']'], by simp only [Json.printWith], by decide⟩
  | .arr (j :: l), _ =>
    ⟨'[', j.printWith f ++ printElemsWith f l, by simp only [Json.printWith], by decide⟩
  | .obj [], _ => ⟨'{', ['}'], by simp only [Json.printWith], by decide⟩
  | .obj ((k, j) :: l), _ =>
    ⟨'{', stringChars k ++ ':' :: (j.printWith f ++ printMembersWith f l),
      by simp only [Json.printWith], by decide⟩

/-- No blank, nothing to skip. -/
lemma skipBlanks_cons {c : Char} {r} (h : isBlank c = false) : skipBlanks (c :: r) = c :: r := by
  simp [skipBlanks, h]

/-- A printed value starts with no blank. -/
lemma Json.skipBlanks_printWith {j : Json} {r} (h : Tokens f tok j.parts) :
    skipBlanks (j.printWith f ++ r) = j.printWith f ++ r := by
  obtain ⟨c, l, e, hb, _⟩ := j.printWith_head h
  rw [e, List.cons_append, skipBlanks_cons hb]

/-- A printed value is not empty. -/
lemma Json.printWith_pos {j : Json} (h : Tokens f tok j.parts) : 0 < (j.printWith f).length := by
  obtain ⟨c, l, e, _⟩ := j.printWith_head h
  simp [e]

/-- A number token is read as its number. -/
lemma scanValue_token {k : Nat} {cs r : List Char} {n : Number} (h : IsToken cs n) (hr : Delim r) :
    scanValue Json.hooks (k + 1) (cs ++ r) = .ok (.num n, r) := by
  obtain ⟨c, l, rfl, hc⟩ := h.head
  obtain ⟨-, -, -, quote, bracket, brace⟩ := numberHead_ne hc
  rw [List.cons_append, scanValue]
  · rw [← List.cons_append, h r hr]
    rfl
  · exact fun r' e => quote (List.cons.inj e).1
  · exact fun r' e => bracket (List.cons.inj e).1
  · exact fun r' e => brace (List.cons.inj e).1

/-- A letter token is read as its word. -/
lemma scanValue_word {n : Nat} {c : Char} {r : List Char} {o}
    (hq : c ≠ '"') (hb : c ≠ '[') (hc : c ≠ '{')
    (hn : parseNumber (c :: r) = none) (hw : scanWord Json.hooks (c :: r) = o) :
    scanValue Json.hooks (n + 1) (c :: r) = o := by
  rw [scanValue]
  · rw [hn, hw]
  all_goals
    intro r' e
    have := (List.cons.inj e).1
    contradiction

/-- A string token is read as its string. -/
lemma scanValue_string {n : Nat} {s : String} {r : List Char} :
    scanValue Json.hooks (n + 1) (stringChars s ++ r) = .ok (.str s, r) := by
  simp only [stringChars, List.cons_append, List.append_assoc, List.nil_append]
  rw [scanValue, parseString_string]
  simp only [Json.hooks_str, except_map_ok]

/-- After an element comes a delimiter. -/
lemma delim_printElems (l : List Json) {r} : Delim (printElemsWith f l ++ r) := by
  cases l with
  | nil => exact (by decide : (']').isDigit = false ∧ ']' ≠ '.' ∧ ']' ≠ 'e' ∧ ']' ≠ 'E')
  | cons j l => exact (by decide : (',').isDigit = false ∧ ',' ≠ '.' ∧ ',' ≠ 'e' ∧ ',' ≠ 'E')

/-- After a member comes a delimiter. -/
lemma delim_printMembers (l : List (String × Json)) {r} : Delim (printMembersWith f l ++ r) := by
  cases l with
  | nil => exact (by decide : ('}').isDigit = false ∧ '}' ≠ '.' ∧ '}' ≠ 'e' ∧ '}' ≠ 'E')
  | cons j l => exact (by decide : (',').isDigit = false ∧ ',' ≠ '.' ∧ ',' ≠ 'e' ∧ ',' ≠ 'E')

/-- The printed rest of an array starts with no blank. -/
lemma skipBlanks_printElems {l : List Json} {r} :
    skipBlanks (printElemsWith f l ++ r) = printElemsWith f l ++ r := by
  cases l <;> simp [printElemsWith, skipBlanks, isBlank]

/-- The printed rest of an object starts with no blank. -/
lemma skipBlanks_printMembers {l : List (String × Json)} {r} :
    skipBlanks (printMembersWith f l ++ r) = printMembersWith f l ++ r := by
  cases l <;> simp [printMembersWith, skipBlanks, isBlank]

/-- The numbers of the head and of the tail of an array, and of an object. -/
lemma tokens_arr {j : Json} {l : List Json} (h : Tokens f tok (Json.arr (j :: l)).parts) :
    Tokens f tok j.parts ∧ Tokens f tok (partsElems l) := by
  constructor
  · exact fun n hn => h n (by simp [Json.parts, partsElems, hn])
  · exact fun n hn => h n (by simp [Json.parts, partsElems, hn])

/-- The tokens of an object are those of its first value and of the rest. -/
lemma tokens_obj {m : String × Json} {l : List (String × Json)}
    (h : Tokens f tok (Json.obj (m :: l)).parts) :
    Tokens f tok m.2.parts ∧ Tokens f tok (partsMembers l) := by
  constructor
  · exact fun n hn => h n (by simp [Json.parts, partsMembers, hn])
  · exact fun n hn => h n (by simp [Json.parts, partsMembers, hn])

mutual

/-- A printed value is read back, on any fuel that its length does not exceed. -/
lemma scanValue_print : ∀ (j : Json) {n : Nat} {r : List Char}, Tokens f tok j.parts →
    (j.printWith f).length ≤ n → Delim r →
      scanValue Json.hooks n (j.printWith f ++ r) = .ok (j.map id tok, r)
  | j, 0, _, ht, hn, _ => by
    have := j.printWith_pos ht
    omega
  | .null, n + 1, r, _, _, _ => by
    simp only [Json.printWith]
    exact scanValue_word (by decide) (by decide) (by decide) rfl rfl
  | .bool true, n + 1, r, _, _, _ => by
    simp only [Json.printWith]
    exact scanValue_word (by decide) (by decide) (by decide) rfl rfl
  | .bool false, n + 1, r, _, _, _ => by
    simp only [Json.printWith]
    exact scanValue_word (by decide) (by decide) (by decide) rfl rfl
  | .constant .nan, n + 1, r, _, _, _ => by
    simp only [Json.printWith, Constant.print]
    exact scanValue_word (by decide) (by decide) (by decide) rfl rfl
  | .constant .infinity, n + 1, r, _, _, _ => by
    simp only [Json.printWith, Constant.print]
    exact scanValue_word (by decide) (by decide) (by decide) rfl rfl
  | .constant .negInfinity, n + 1, r, _, _, _ => by
    simp only [Json.printWith, Constant.print]
    exact scanValue_word (by decide) (by decide) (by decide) rfl rfl
  | .num m, n + 1, r, ht, _, hd => scanValue_token (ht m (List.mem_singleton_self _)) hd
  | .str s, n + 1, r, _, _, _ => by
    simp only [Json.printWith, Json.map]
    exact scanValue_string
  | .arr [], n + 1, r, _, _, _ => by
    simp [Json.printWith, scanValue, skipBlanks, isBlank, Json.map, mapElems]
  | .arr (j :: l), n + 1, r, ht, hn, hd => by
    simp only [Json.printWith, List.length_cons, List.length_append] at hn
    obtain ⟨hj, hl⟩ := tokens_arr ht
    -- the first element starts with no blank and is no closing bracket
    obtain ⟨c, l', e, hb, hc, _⟩ := j.printWith_head hj
    have ihj := scanValue_print j (n := n) (r := printElemsWith f l ++ r) hj (by omega)
      (delim_printElems l)
    have ihl := scanElems_print l (n := n) (r := r) hl (by omega)
    simp only [Json.printWith, List.cons_append, List.append_assoc]
    rw [e, List.cons_append] at ihj
    rw [e, List.cons_append, scanValue, skipBlanks_cons hb]
    split
    · rename_i e'
      exact absurd (List.cons.inj e').1 hc
    · simp [ihj, skipBlanks_printElems, ihl, Json.map, mapElems]
  | .obj [], n + 1, r, _, _, _ => by
    simp [Json.printWith, scanValue, skipBlanks, isBlank, Json.map, mapMembers, ← textMembers_nil]
  | .obj ((k, j) :: l), n + 1, r, ht, hn, hd => by
    simp only [Json.printWith, List.length_cons, List.length_append] at hn
    obtain ⟨hj, hl⟩ := tokens_obj ht
    have ihj := scanMember_print k j (n := n) (r := printMembersWith f l ++ r) hj
      (by simp only [List.length_cons, List.length_append]; omega) (delim_printMembers l)
    have ihl := scanMembers_print l (n := n) (r := r) hl (by omega)
    simp only [stringChars, List.cons_append, List.append_assoc, List.nil_append] at ihj
    simp only [Json.printWith, stringChars, List.cons_append, List.append_assoc, List.nil_append]
    rw [scanValue, skipBlanks_cons (by decide)]
    simp [ihj, skipBlanks_printMembers, ihl, ← textMembers_cons, Json.map, mapMembers]

/-- The printed rest of an array scans back. -/
lemma scanElems_print : ∀ (l : List Json) {n : Nat} {r : List Char}, Tokens f tok (partsElems l) →
    (printElemsWith f l).length ≤ n →
      scanElems Json.hooks n (printElemsWith f l ++ r) = .ok (mapElems id tok l, r)
  | l, 0, _, _, hn => by
    cases l with
    | nil => simp [printElemsWith] at hn
    | cons j l => simp [printElemsWith] at hn
  | [], n + 1, r, _, _ => by simp [printElemsWith, scanElems, mapElems]
  | j :: l, n + 1, r, ht, hn => by
    simp only [printElemsWith, List.length_cons, List.length_append] at hn
    have hj : Tokens f tok j.parts := fun m hm => ht m (List.mem_append_left _ hm)
    have hl : Tokens f tok (partsElems l) := fun m hm => ht m (List.mem_append_right _ hm)
    have ihj := scanValue_print j (n := n) (r := printElemsWith f l ++ r) hj (by omega)
      (delim_printElems l)
    have ihl := scanElems_print l (n := n) (r := r) hl (by omega)
    simp only [printElemsWith, List.cons_append, List.append_assoc]
    rw [scanElems, Json.skipBlanks_printWith hj]
    simp [ihj, skipBlanks_printElems, ihl, mapElems]

/-- A printed member scans back. -/
lemma scanMember_print : ∀ (k : String) (j : Json) {n : Nat} {r : List Char},
    Tokens f tok j.parts → (stringChars k ++ ':' :: j.printWith f).length ≤ n → Delim r →
      scanMember Json.hooks n (stringChars k ++ ':' :: (j.printWith f ++ r)) = .ok ((textOf k, j.map id tok), r)
  | k, j, 0, _, _, hn, _ => by
    simp at hn
  | k, j, n + 1, r, hj, hn, hd => by
    simp only [List.length_append, List.length_cons] at hn
    have ihj := scanValue_print j (n := n) (r := r) hj (by omega) hd
    simp only [stringChars, List.cons_append, List.append_assoc, List.nil_append]
    rw [scanMember, parseString_string]
    simp [skipBlanks_cons (show isBlank ':' = false from rfl), Json.skipBlanks_printWith hj, ihj]

/-- The printed rest of an object scans back. -/
lemma scanMembers_print : ∀ (l : List (String × Json)) {n : Nat} {r : List Char},
    Tokens f tok (partsMembers l) → (printMembersWith f l).length ≤ n →
      scanMembers Json.hooks n (printMembersWith f l ++ r) = .ok (textMembers (mapMembers id tok l), r)
  | l, 0, _, _, hn => by
    cases l with
    | nil => simp [printMembersWith] at hn
    | cons j l => simp [printMembersWith] at hn
  | [], n + 1, r, _, _ => by
    simp [printMembersWith, scanMembers, mapMembers, textMembers_nil]
  | (k, j) :: l, n + 1, r, ht, hn => by
    simp only [printMembersWith, List.length_cons, List.length_append] at hn
    have hj : Tokens f tok j.parts := fun m hm => ht m (List.mem_append_left _ hm)
    have hl : Tokens f tok (partsMembers l) := fun m hm => ht m (List.mem_append_right _ hm)
    have ihj := scanMember_print k j (n := n) (r := printMembersWith f l ++ r) hj
      (by simp only [List.length_append, List.length_cons]; omega) (delim_printMembers l)
    have ihl := scanMembers_print l (n := n) (r := r) hl (by omega)
    simp only [stringChars, List.cons_append, List.append_assoc, List.nil_append] at ihj
    simp only [printMembersWith, stringChars, List.cons_append, List.append_assoc, List.nil_append]
    rw [scanMembers, skipBlanks_cons (by decide)]
    simp [ihj, skipBlanks_printMembers, ihl, mapMembers, textMembers_cons]

end

/-- Every value is read back from its text, with the numbers that its tokens denote. -/
theorem Json.parse_printWith {j : Json} (h : Tokens f tok j.parts) :
    Json.parse (String.ofList (j.printWith f)) = some (j.map id tok) := by
  have read := scanValue_print j (n := 2 * (j.printWith f).length + 2) (r := []) h (by omega) trivial
  have hb := Json.skipBlanks_printWith (r := []) h
  simp only [List.append_nil] at read hb
  simp [Json.parse, Hooks.scan, hb, read, skipBlanks, Except.toOption]

end

/-- Every value is read back from its text. -/
theorem Json.parse_print (j : Json) : Json.parse (String.ofList j.print) = some j := by
  rw [Json.print_eq, Json.parse_printWith fun n _ => n.isToken, Json.map_id]

/-- The text determines the value. -/
theorem Json.print_injective {j k : Json} (e : j.print = k.print) : j = k := by
  have hj := j.parse_print
  rw [e, k.parse_print] at hj
  exact (Option.some.inj hj).symm

/-- The canonical text of a value is read as the value with its keys sorted. -/
@[simp] theorem Json.parse_dumps (j : Json) : Json.parse j.dumps = some j.sortKeys :=
  j.sortKeys.parse_print

/-- Values with one canonical text are equal up to the order of their keys. -/
theorem Json.dumps_injective {j k : Json} (e : j.dumps = k.dumps) : j.sortKeys = k.sortKeys :=
  Json.print_injective (String.ofList_injective e)

/-- Values of one text differ in the order of keys only. -/
lemma Json.sortKeys_of_dumps {j j' : Json} (h : j.dumps = j'.dumps) : j.sortKeys = j'.sortKeys := by
  have read := congrArg Json.parse h
  rwa [Json.parse_dumps, Json.parse_dumps, Option.some.injEq] at read

/-- Objects that differ in the order of keys only have the same members. -/
lemma sortKeys_member {l l' : List (String × Json)} (h : (Json.obj l).sortKeys = (Json.obj l').sortKeys) :
    ∀ m ∈ l, ∃ m' ∈ l', m'.1 = m.1 ∧ m'.2.sortKeys = m.2.sortKeys := by
  intro m hm
  rw [Json.sortKeys, Json.sortKeys, Json.obj.injEq, sortMembers_eq, sortMembers_eq] at h
  have sorted : (m.1, m.2.sortKeys) ∈ sortedBy Prod.fst (l'.map fun m => (m.1, m.2.sortKeys)) := by
    rw [← h]
    exact mem_sortedBy.mpr (List.mem_map_of_mem hm)
  obtain ⟨m', hm', e⟩ := List.mem_map.mp (mem_sortedBy.mp sorted)
  exact ⟨m', hm', (Prod.mk.inj e).1, (Prod.mk.inj e).2⟩

/-- Arrays that differ in the order of keys only do so element by element. -/
lemma sortKeys_elems {l l' : List Json} (h : (Json.arr l).sortKeys = (Json.arr l').sortKeys) :
    l.map Json.sortKeys = l'.map Json.sortKeys := by
  rwa [Json.sortKeys, Json.sortKeys, Json.arr.injEq, sortElems_eq, sortElems_eq] at h

end GAM.Lib
