import GAM.Lib.JsonHooks
import GAM.Lib.Value
import GAM.Platform

/-!
# Canonical JSON texts

The check that a text field of a record is canonical JSON: the text is read as `json.loads` reads
it, with duplicate and NFC-colliding keys and the non-finite constants refused, written back as
`json.dumps` writes it, and compared. Integers of more than 4300 digits are refused by the
interpreter as they are met, and a float that overflows cannot be written. A lone surrogate is read,
and what is written of it is no text of the field.
-/

namespace GAM
open Lib

section
variable [Platform]

/-- The interpreter's limit on the digits of an integer text. -/
def maxIntDigits : Nat := 4300

/-- The value of a number token: an integer when it has neither fraction nor exponent. -/
def loadNumber (n : Number) : Except PyError Value :=
  if n.frac = [] ∧ n.exp = none then
    if maxIntDigits < (natChars n.int).length then .error .valueError
    else .ok (.int (if n.neg then -n.int else n.int))
  else .ok (.float (.ofNumber n))

/-- Python `_pairs`; `taken` are the normalized keys so far. -/
def pairs {κ : Type} [DecidableEq κ] (normalize : κ → κ) (taken : List κ) :
    List (κ × Value) → Except PyError (List (κ × Value))
  | [] => .ok []
  | (key, item) :: l => do
    ensure (key ∉ taken) (.contractViolation "duplicate JSON key")
    let normalized := normalize key
    ensure (normalized ∉ taken) (.contractViolation "normalized JSON key collision")
    let rest ← pairs normalize (normalized :: taken) l
    return (normalized, item) :: rest

/-- The hooks of `_canonical_plain_json`. -/
def plainHooks : Hooks PyError Value where
  invalid := .contractViolation "invalid canonical JSON text"
  null := .none
  bool := .bool
  constant := fun _ => reject "non-finite JSON number"
  number := loadNumber
  str := fun t => .ok (.text t)
  arr := .list
  obj := fun l => do
    let ms ← pairs nfcText [] l
    return .ofMembers ms

mutual

/-- What these hooks make of a tree. -/
def loadPlain : Json → Except PyError Value
  | .null => .ok .none
  | .bool b => .ok (.bool b)
  | .constant _ => reject "non-finite JSON number"
  | .num n => loadNumber n
  | .str s => .ok (.str s)
  | .arr l => do
    let vs ← loadPlainElems l
    return .list vs
  | .obj l => do
    let ms ← loadPlainMembers l
    let ms ← pairs nfc [] ms
    return .dict ms

/-- The items of an array. -/
def loadPlainElems : List Json → Except PyError (List Value)
  | [] => .ok []
  | j :: l => do
    let v ← loadPlain j
    let vs ← loadPlainElems l
    return v :: vs

/-- The members of an object, in the order of the text. -/
def loadPlainMembers : List (String × Json) → Except PyError (List (String × Value))
  | [] => .ok []
  | (k, j) :: l => do
    let v ← loadPlain j
    let vs ← loadPlainMembers l
    return (k, v) :: vs

end

/-- On strings the keys are those of strings. -/
lemma pairs_textMembers {l : List (String × Value)} {taken : List String} :
    pairs nfcText (taken.map textOf) (textMembers l) = (pairs nfc taken l).map textMembers := by
  induction l generalizing taken with
  | nil => rfl
  | cons m l ih =>
    obtain ⟨key, item⟩ := m
    have member (k : String) : textOf k ∈ taken.map textOf ↔ k ∈ taken := by simp
    have rest := @ih (nfc key :: taken)
    rw [List.map_cons] at rest
    simp only [textMembers_cons, pairs, nfcText_textOf, member, rest]
    by_cases raw : key ∈ taken
    · simp [ensure, raw]
    by_cases free : nfc key ∈ taken
    · simp [ensure, raw, free]
    simp only [ensure, raw, free, not_false_eq_true, if_true, ok_bind]
    cases pairs nfc (nfc key :: taken) l <;> rfl

mutual

/-- The hooks make of a tree what `loadPlain` does. -/
lemma load_plain : ∀ j : Json, j.load plainHooks = loadPlain j
  | .null | .bool _ | .constant _ | .num _ => rfl
  | .str s => by simp [Json.load, plainHooks, loadPlain]
  | .arr l => by
    rw [Json.load, load_plainElems l, loadPlain]
    rfl
  | .obj l => by
    rw [Json.load, load_plainMembers l, loadPlain]
    cases loadPlainMembers l with
    | error e => rfl
    | ok ms =>
      have keys := @pairs_textMembers _ ms []
      simp only [except_map_ok, ok_bind, plainHooks]
      rw [List.map_nil] at keys
      rw [keys]
      cases pairs nfc [] ms <;> simp

/-- Elements are loaded by the hooks as by the plain loader. -/
lemma load_plainElems : ∀ l : List Json, loadItems plainHooks l = loadPlainElems l
  | [] => rfl
  | j :: l => by rw [loadItems, load_plain j, load_plainElems l, loadPlainElems]

/-- Members are loaded by the hooks as by the plain loader. -/
lemma load_plainMembers : ∀ l : List (String × Json),
    loadPairs plainHooks l = (loadPlainMembers l).map textMembers
  | [] => rfl
  | (k, j) :: l => by
    rw [loadPairs, load_plain j, load_plainMembers l, loadPlainMembers]
    cases loadPlain j with
    | error e => rfl
    | ok v => cases loadPlainMembers l <;> rfl

end

omit [Platform] in
/-- The keys that are checked stay, normalized. -/
lemma pairs_map {κ : Type} [DecidableEq κ] {normalize : κ → κ} {l : List (κ × Value)} {taken ms}
    (h : pairs normalize taken l = .ok ms) : ms = l.map fun m => (normalize m.1, m.2) := by
  induction l generalizing taken ms with
  | nil =>
    cases h
    rfl
  | cons m l ih =>
    obtain ⟨key, item⟩ := m
    simp only [pairs, bind_eq_ok, pure_eq_ok, Except.ok.injEq, ensure_eq_ok, exists_unit] at h
    obtain ⟨-, -, rest, h, rfl⟩ := h
    rw [ih h, List.map_cons]

/-- A lone surrogate is carried along. -/
lemma plainHooks_keeps : Keeps plainHooks (Value.isUnicode · = true) where
  str t a lone e := by
    cases e
    exact Value.text_lone lone
  arr l a ha lone all := lone (Value.isUnicode_list.mp all a ha)
  obj l a e m hm lone := by
    simp only [plainHooks, bind_eq_ok, pure_eq_ok, Except.ok.injEq] at e
    obtain ⟨ms, h, rfl⟩ := e
    rw [pairs_map h]
    refine Value.ofMembers_lone (m := (nfcText m.1, m.2)) (List.mem_map_of_mem hm) ?_
    rwa [nfcText_isUnicode]

/-- The plain hooks add no surrogate. -/
lemma plainHooks_clean : Clean plainHooks (Value.isUnicode · = true) where
  null := rfl
  bool _ := rfl
  constant _ _ e := nomatch e
  number n a e := by
    simp only [plainHooks, loadNumber] at e
    split at e
    · split at e
      · cases e
      · cases e
        rfl
    · cases e
      rfl
  str s a e := by
    simp only [plainHooks, Value.text_textOf] at e
    cases e
    rfl
  arr l all := Value.isUnicode_list.mpr all
  obj ms a e all := by
    simp only [plainHooks, bind_eq_ok, pure_eq_ok, Except.ok.injEq] at e
    obtain ⟨ps, h, rfl⟩ := e
    have keys : (textMembers ms).map (fun m => (nfcText m.1, m.2)) =
        textMembers (ms.map fun m => (nfc m.1, m.2)) := by
      simp [textMembers]
    rw [pairs_map h, keys, Value.ofMembers_textMembers, Value.isUnicode_dict, List.forall_mem_map]
    exact all

omit [Platform] in
/-- Collecting the pairs raises an error of the check or none. -/
lemma pairs_raises {κ : Type} [DecidableEq κ] {normalize : κ → κ} {l taken} :
    OnlyRaises PyError.IsCheckError (pairs normalize taken l) := by
  induction l generalizing taken with
  | nil => simp [pairs]
  | cons m l ih => simp [pairs, ih]

omit [Platform] in
/-- Loading a number raises an error of the check or none. -/
lemma loadNumber_raises {n : Number} : OnlyRaises PyError.IsCheckError (loadNumber n) := by
  unfold loadNumber
  split
  · split <;> simp
  · simp

/-- Reading a text raises contract violations and the limit on integers. -/
lemma plainHooks_raises {text : String} :
    OnlyRaises PyError.IsCheckError (plainHooks.scan text) :=
  Hooks.scan_raises
    { invalid := trivial
      constant := fun _ => by simp [plainHooks]
      number := fun _ => loadNumber_raises
      str := fun _ => by simp [plainHooks]
      obj := fun _ => by simp [plainHooks, pairs_raises] }

end

/-- Bracketed items with commas between them. -/
def commaSeparated (left right : Char) : List (List Char) → List Char
  | [] => [left, right]
  | x :: xs => left :: (x ++ xs.flatMap (fun x => ',' :: x) ++ [right])

mutual

/-- `json.dumps(.., sort_keys=True, ensure_ascii=False, allow_nan=False)` of a loaded value. -/
def dumpsValue : Value → Except PyError (List Char)
  | .none => .ok ['n', 'u', 'l', 'l']
  | .bool true => .ok ['t', 'r', 'u', 'e']
  | .bool false => .ok ['f', 'a', 'l', 's', 'e']
  | .int i => .ok (intChars i)
  | .float f => if f.isFinite then .ok f.repr else .error .valueError
  | .str s => .ok (stringChars s)
  | .list l => do
    let xs ← dumpsElems l
    return commaSeparated '[' ']' xs
  | .tuple l => do
    let xs ← dumpsElems l
    return commaSeparated '[' ']' xs
  | .dict l => do
    let ms ← dumpsMembers l
    return commaSeparated '{' '}'
      ((sortedBy Prod.fst ms).map fun m => stringChars m.1 ++ ':' :: m.2)
  -- what is written is no `String`; the stand-in is never compared with one
  | .points t => .ok (stringChars t.shown)
  | .textDict l => do
    let xs ← dumpsTextMembers l
    return commaSeparated '{' '}' xs
  | _ => .error .typeError

/-- The items of a list. -/
def dumpsElems : List Value → Except PyError (List (List Char))
  | [] => .ok []
  | v :: l => do
    let x ← dumpsValue v
    let xs ← dumpsElems l
    return x :: xs

/-- The members of a mapping. -/
def dumpsMembers : List (String × Value) → Except PyError (List (String × List Char))
  | [] => .ok []
  | (k, v) :: l => do
    let x ← dumpsValue v
    let xs ← dumpsMembers l
    return (k, x) :: xs

/-- The members of a mapping whose keys may be no strings. -/
def dumpsTextMembers : List (Text × Value) → Except PyError (List (List Char))
  | [] => .ok []
  | (k, v) :: l => do
    let x ← dumpsValue v
    let xs ← dumpsTextMembers l
    return (stringChars k.shown ++ ':' :: x) :: xs

end

mutual

/-- Writing a value raises on floats and values outside JSON. -/
lemma dumpsValue_raises : ∀ v, OnlyRaises PyError.IsCheckError (dumpsValue v)
  | .none | .bool true | .bool false | .int _ | .str _ => by simp [dumpsValue]
  | .decimal _ | .enum .. | .record _ => by simp [dumpsValue]
  | .float f => by
    unfold dumpsValue
    split <;> simp
  | .list l => by simp [dumpsValue, dumpsElems_raises l]
  | .tuple l => by simp [dumpsValue, dumpsElems_raises l]
  | .dict l => by simp [dumpsValue, dumpsMembers_raises l]
  | .points _ => by simp [dumpsValue]
  | .textDict l => by simp [dumpsValue, dumpsTextMembers_raises l]

/-- Printing the elements raises an error of the check or none. -/
lemma dumpsElems_raises : ∀ l, OnlyRaises PyError.IsCheckError (dumpsElems l)
  | [] => by simp [dumpsElems]
  | v :: l => by simp [dumpsElems, dumpsValue_raises v, dumpsElems_raises l]

/-- Printing the members raises an error of the check or none. -/
lemma dumpsMembers_raises : ∀ l, OnlyRaises PyError.IsCheckError (dumpsMembers l)
  | [] => by simp [dumpsMembers]
  | (_, v) :: l => by simp [dumpsMembers, dumpsValue_raises v, dumpsMembers_raises l]

/-- Printing members with texts as names raises an error of the check or none. -/
lemma dumpsTextMembers_raises : ∀ l, OnlyRaises PyError.IsCheckError (dumpsTextMembers l)
  | [] => by simp [dumpsTextMembers]
  | (_, v) :: l => by simp [dumpsTextMembers, dumpsValue_raises v, dumpsTextMembers_raises l]

end

section
variable [Platform]

/-- Python `_canonical_plain_json`. -/
def canonicalPlainJson (text : String) : Except PyError Unit := do
  let value ← plainHooks.scan text
  let observed ← dumpsValue value
  ensure (value.isUnicode = true ∧ String.ofList observed = text)
    (.contractViolation "JSON text is not canonical")

/-- The text has a tree, and is what the value of the tree is written as. -/
lemma canonicalPlainJson_ok {text : String} : canonicalPlainJson text = .ok () ↔
    ∃ j v, Json.parse text = some j ∧ loadPlain j = .ok v ∧
      ∃ cs, dumpsValue v = .ok cs ∧ String.ofList cs = text := by
  have scan (v : Value) := Hooks.scan_iff plainHooks_keeps plainHooks_clean (s := text) (a := v)
  simp only [load_plain] at scan
  simp only [canonicalPlainJson, bind_eq_ok, ensure_eq_ok]
  constructor
  · rintro ⟨v, read, cs, written, unicode, same⟩
    obtain ⟨j, parsed, load⟩ := (scan v).mp ⟨read, unicode⟩
    exact ⟨j, v, parsed, load, cs, written, same⟩
  · rintro ⟨j, v, parsed, load, cs, written, same⟩
    obtain ⟨read, unicode⟩ := (scan v).mpr ⟨j, parsed, load⟩
    exact ⟨v, read, cs, written, unicode, same⟩

/-- Every text is printed again or refused with an error of the check. -/
lemma canonicalPlainJson_raises {text : String} :
    OnlyRaises PyError.IsCheckError (canonicalPlainJson text) := by
  simp [canonicalPlainJson, plainHooks_raises, dumpsValue_raises]

end

end GAM
