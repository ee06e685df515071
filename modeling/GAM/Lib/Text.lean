import Mathlib.Data.List.Basic

/-!
# Texts of code points

A Python text is a sequence of code points, and a code point may be a surrogate, which no `Char` is:
the escape `\ud800` of a JSON text gives one. `Text` is such a sequence. `textOf` embeds strings, and
`Text.string?` goes back where there is no surrogate.
-/

namespace GAM.Lib

/-- A code point; the surrogates are counted from 0xD800, the high ones first. -/
inductive Point where
  | char (c : Char)
  | surrogate (offset : Fin 0x800)
deriving DecidableEq, Repr

/-- The number of a code point. -/
def Point.code : Point → Nat
  | .char c => c.toNat
  | .surrogate offset => 0xD800 + offset

/-- A Python text. -/
abbrev Text := List Point

/-- Texts are compared point by point. -/
instance : LawfulBEq Text := inferInstance

/-- A string as a text. -/
def textOf (s : String) : Text := s.toList.map .char

/-- The characters of a text without surrogates. -/
def Text.chars? : Text → Option (List Char)
  | [] => some []
  | .char c :: t => (Text.chars? t).map (c :: ·)
  | .surrogate _ :: _ => none

/-- The string of a text without surrogates. -/
def Text.string? (t : Text) : Option String := t.chars?.map String.ofList

/-- Every code point is a character. -/
def Text.isUnicode (t : Text) : Bool := t.chars?.isSome

/-- The text with a replacement character for every surrogate. -/
def Text.shown (t : Text) : String :=
  String.ofList <| t.map fun p =>
    match p with
    | .char c => c
    | .surrogate _ => '\ufffd'

/-- Members whose keys are strings, when none of the keys has a surrogate. -/
def Text.members? {α : Type} : List (Text × α) → Option (List (String × α))
  | [] => some []
  | (k, a) :: l => do
    let key ← k.string?
    let ms ← Text.members? l
    return (key, a) :: ms

/-- The members with their keys as texts. -/
def textMembers {α : Type} (l : List (String × α)) : List (Text × α) :=
  l.map fun m => (textOf m.1, m.2)

/-- The code point of a 16-bit unit. -/
def pointOf (u : Nat) : Point :=
  if 0xD800 ≤ u ∧ u ≤ 0xDFFF then .surrogate (Fin.ofNat 0x800 (u - 0xD800)) else .char (Char.ofNat u)

/-- Put a code point before a text. A high surrogate and the low one after it are one character. -/
def consPoint : Point → Text → Text
  | .surrogate high, .surrogate low :: t =>
    if high.val < 0x400 ∧ 0x400 ≤ low.val then
      .char (Char.ofNat (0x10000 + high.val * 0x400 + (low.val - 0x400))) :: t
    else .surrogate high :: .surrogate low :: t
  | p, t => p :: t

@[simp] lemma consPoint_char {c : Char} {t : Text} : consPoint (.char c) t = .char c :: t := by
  simp [consPoint]

lemma textMembers_nil {α : Type} : textMembers ([] : List (String × α)) = [] := rfl

lemma textMembers_cons {α : Type} {k : String} {a : α} {l : List (String × α)} :
    textMembers ((k, a) :: l) = (textOf k, a) :: textMembers l := rfl

section
variable {s s' : String} {t : Text} {l : List Char}

lemma Text.chars?_char : Text.chars? (l.map .char) = some l := by
  induction l with
  | nil => rfl
  | cons c l ih => rw [List.map_cons, Text.chars?, ih, Option.map_some]

/-- A text has characters exactly where it is made of them. -/
lemma Text.chars?_eq_some : t.chars? = some l ↔ t = l.map .char := by
  constructor
  · intro h
    induction t generalizing l with
    | nil =>
      cases h
      rfl
    | cons p t ih =>
      cases p with
      | surrogate offset => cases h
      | char c =>
        rw [Text.chars?, Option.map_eq_some_iff] at h
        obtain ⟨l, h, rfl⟩ := h
        rw [ih h, List.map_cons]
  · rintro rfl
    exact Text.chars?_char

@[simp] lemma Text.string?_textOf : (textOf s).string? = some s := by
  rw [Text.string?, textOf, Text.chars?_char, Option.map_some, String.ofList_toList]

/-- A text is a string exactly where it is that string's text. -/
lemma Text.string?_eq_some : t.string? = some s ↔ t = textOf s := by
  constructor
  · intro h
    rw [Text.string?, Option.map_eq_some_iff] at h
    obtain ⟨l, h, rfl⟩ := h
    rw [Text.chars?_eq_some.mp h, textOf, String.toList_ofList]
  · rintro rfl
    exact Text.string?_textOf

@[simp] lemma Text.isUnicode_textOf : (textOf s).isUnicode = true := by
  rw [Text.isUnicode, textOf, Text.chars?_char, Option.isSome_some]

@[simp] lemma Text.isUnicode_char {c : Char} : Text.isUnicode (.char c :: t) = t.isUnicode := by
  simp [Text.isUnicode, Text.chars?]

@[simp] lemma Text.isUnicode_surrogate {offset : Fin 0x800} :
    Text.isUnicode (.surrogate offset :: t) = false := rfl

/-- A joined text is without surrogates where both parts are. -/
lemma Text.isUnicode_append {t' : Text} :
    Text.isUnicode (t ++ t') = (t.isUnicode && t'.isUnicode) := by
  induction t with
  | nil => rfl
  | cons p t ih =>
    cases p with
    | char c => rw [List.cons_append, Text.isUnicode_char, Text.isUnicode_char, ih]
    | surrogate offset => rfl

/-- The texts without surrogates are those of strings. -/
lemma Text.isUnicode_iff : t.isUnicode = true ↔ ∃ s, t = textOf s := by
  constructor
  · intro h
    obtain ⟨l, h⟩ := Option.isSome_iff_exists.mp h
    exact ⟨String.ofList l, by rw [textOf, String.toList_ofList, Text.chars?_eq_some.mp h]⟩
  · rintro ⟨s, rfl⟩
    exact Text.isUnicode_textOf

/-- Strings with one text are equal. -/
lemma textOf_injective : Function.Injective textOf := by
  intro s s' e
  have h := congrArg Text.string? e
  rwa [Text.string?_textOf, Text.string?_textOf, Option.some.injEq] at h

@[simp] lemma textOf_inj : textOf s = textOf s' ↔ s = s' := textOf_injective.eq_iff

/-- Members have strings as names exactly where they are those strings' members. -/
lemma Text.members?_eq_some {α : Type} {l : List (Text × α)} {ms : List (String × α)} :
    Text.members? l = some ms ↔ l = textMembers ms := by
  induction l generalizing ms with
  | nil => cases ms <;> simp [Text.members?, textMembers]
  | cons m l ih =>
    obtain ⟨k, a⟩ := m
    simp only [Text.members?, Option.bind_eq_bind, Option.bind_eq_some_iff, Text.string?_eq_some,
      ih, Option.pure_def, Option.some.injEq]
    constructor
    · rintro ⟨key, rfl, ms, rfl, rfl⟩
      rfl
    · intro e
      cases ms with
      | nil => cases e
      | cons m ms =>
        rw [textMembers, List.map_cons, List.cons.injEq, Prod.mk.injEq] at e
        obtain ⟨⟨rfl, rfl⟩, rfl⟩ := e
        exact ⟨m.1, rfl, ms, rfl, rfl⟩

/-- Members that are not all under strings have a key with a surrogate. -/
lemma Text.members?_eq_none {α : Type} {l : List (Text × α)} (h : Text.members? l = none) :
    ∃ m ∈ l, m.1.isUnicode = false := by
  induction l with
  | nil => cases h
  | cons m l ih =>
    obtain ⟨k, a⟩ := m
    cases hk : Text.isUnicode k with
    | false => exact ⟨_, List.mem_cons_self, hk⟩
    | true =>
      obtain ⟨key, rfl⟩ := Text.isUnicode_iff.mp hk
      cases hl : Text.members? l with
      | none =>
        obtain ⟨m, hm, hu⟩ := ih hl
        exact ⟨m, List.mem_cons_of_mem _ hm, hu⟩
      | some ms => simp [Text.members?, hl] at h

end

end GAM.Lib
