import Mathlib.Data.List.Infix
import Mathlib.Data.String.Basic

/-!
# JSON pointers

The pointer texts of RFC 6901: reference tokens that each follow a slash, with `~0` for a tilde and
`~1` for a slash. Reading gives back the tokens that were written, so that two pointers are one text
only when they are one address, and one address lies at or below another when its tokens begin with
the tokens of the other.
-/

namespace GAM.Lib.Pointer

/-- A character of a reference token. -/
def escape (c : Char) : List Char :=
  if c = '~' then ['~', '0'] else if c = '/' then ['~', '1'] else [c]

/-- The text of a pointer. -/
def print (ts : List String) : String :=
  String.ofList (ts.flatMap fun t => '/' :: t.toList.flatMap escape)

/-- The rest of the open token, and the tokens after it. -/
def tokens : List Char → Option (List Char × List String)
  | [] => some ([], [])
  | '/' :: cs => (tokens cs).map fun r => ([], String.ofList r.1 :: r.2)
  | '~' :: '0' :: cs => (tokens cs).map fun r => ('~' :: r.1, r.2)
  | '~' :: '1' :: cs => (tokens cs).map fun r => ('/' :: r.1, r.2)
  | '~' :: _ => none
  | c :: cs => (tokens cs).map fun r => (c :: r.1, r.2)

/-- The reference tokens of a pointer. -/
def parse (text : String) : Option (List String) :=
  match text.toList with
  | [] => some []
  | '/' :: cs => (tokens cs).map fun r => String.ofList r.1 :: r.2
  | _ => none

/-- An escaped character is read back. -/
lemma tokens_escape {c : Char} {cs : List Char} :
    tokens (escape c ++ cs) = (tokens cs).map fun r => (c :: r.1, r.2) := by
  rw [escape]
  split
  · rename_i h
    subst h
    rfl
  · split
    · rename_i h
      subst h
      rfl
    · rename_i tilde slash
      rw [List.singleton_append, tokens]
      · exact slash
      · exact fun _ e => absurd e tilde
      · exact fun _ e => absurd e tilde
      · exact tilde

/-- An escaped token is read back in front of the rest. -/
lemma tokens_token {t cs : List Char} :
    tokens (t.flatMap escape ++ cs) = (tokens cs).map fun r => (t ++ r.1, r.2) := by
  induction t with
  | nil => simp
  | cons c t ih =>
    rw [List.flatMap_cons, List.append_assoc, tokens_escape, ih, Option.map_map]
    rfl

/-- The printed tokens read back. -/
lemma tokens_print {ts : List String} :
    tokens (ts.flatMap fun t => '/' :: t.toList.flatMap escape) = some ([], ts) := by
  induction ts with
  | nil => rfl
  | cons t ts ih =>
    rw [List.flatMap_cons, List.cons_append, tokens, tokens_token, ih]
    simp

/-- Reading gives back what was written. -/
lemma parse_print {ts : List String} : parse (print ts) = some ts := by
  rw [parse, print, String.toList_ofList]
  cases ts with
  | nil => rfl
  | cons t ts =>
    rw [List.flatMap_cons, List.cons_append]
    simp only [tokens_token, tokens_print, Option.map_some, List.append_nil, String.ofList_toList]

/-- A pointer is extended by a slash and the escaped token. -/
lemma print_append {ts : List String} {t : String} :
    print ts ++ "/" ++ String.ofList (t.toList.flatMap escape) = print (ts ++ [t]) := by
  apply String.toList_injective
  simp [print]

/-- The address `q` lies at or below the pointer `text`. -/
def AtOrBelow (text : String) (q : List String) : Prop :=
  ∃ ts, parse text = some ts ∧ ts <+: q

/-- A printed pointer covers the paths its tokens begin. -/
lemma atOrBelow_print {ts q : List String} : AtOrBelow (print ts) q ↔ ts <+: q := by
  simp [AtOrBelow, parse_print]

/-- Neither pointer lies at or below the other. -/
def Apart (text text' : String) : Prop :=
  ∃ ts us, parse text = some ts ∧ parse text' = some us ∧ ¬ ts <+: us ∧ ¬ us <+: ts

/-- Printed pointers are apart where neither begins the other. -/
lemma apart_print {ts us : List String} :
    Apart (print ts) (print us) ↔ ¬ ts <+: us ∧ ¬ us <+: ts := by
  simp [Apart, parse_print]

/-- Being apart goes both ways. -/
lemma Apart.symm {text text' : String} (h : Apart text text') : Apart text' text := by
  obtain ⟨ts, us, hts, hus, left, right⟩ := h
  exact ⟨us, ts, hus, hts, right, left⟩

/-- No address lies at or below two pointers that are apart. -/
lemma Apart.disjoint {text text' : String} {q : List String} (h : Apart text text')
    (below : AtOrBelow text q) : ¬ AtOrBelow text' q := by
  obtain ⟨ts, us, hts, hus, left, right⟩ := h
  rintro ⟨us', hus', below'⟩
  obtain ⟨ts', hts', below⟩ := below
  cases hts.symm.trans hts'
  cases hus.symm.trans hus'
  rcases List.prefix_or_prefix_of_prefix below below' with h | h
  · exact left h
  · exact right h

/-- Addresses below different members are apart. -/
lemma not_prefix_of_ne {base ts us : List String} {t u : String} (h : t ≠ u) :
    ¬ base ++ t :: ts <+: base ++ u :: us := by
  rw [List.prefix_append_right_inj, List.cons_prefix_cons]
  exact fun e => h e.1

end GAM.Lib.Pointer
