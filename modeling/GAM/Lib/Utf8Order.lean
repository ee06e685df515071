import Mathlib.Data.List.Lex
import GAM.Lib.Sorted

/-!
# The order of UTF-8 texts

Python's `text.encode("utf-8")` as a sort key. UTF-8 is a prefix-free code that grows with the code
point, so texts compare by their bytes as they compare by their characters, and sorting by the
encoded key is sorting by the key.
-/

namespace GAM.Lib

/-- The bytes of a code point. -/
def codeBytes (n : Nat) : List Nat :=
  if n < 0x80 then [n]
  else if n < 0x800 then [0xC0 + n / 64, 0x80 + n % 64]
  else if n < 0x10000 then [0xE0 + n / 4096, 0x80 + n / 64 % 64, 0x80 + n % 64]
  else [0xF0 + n / 262144, 0x80 + n / 4096 % 64, 0x80 + n / 64 % 64, 0x80 + n % 64]

/-- Python `text.encode("utf-8")`. -/
def utf8Key (s : String) : List Nat := s.toList.flatMap fun c => codeBytes c.toNat

/-- A smaller code point has smaller bytes, whatever follows. -/
lemma codeBytes_lt {m n : Nat} (h : m < n) (r s : List Nat) :
    codeBytes m ++ r < codeBytes n ++ s := by
  unfold codeBytes
  -- the lengths of the two codes; where they agree the first differing byte decides
  split_ifs <;> simp only [List.cons_append, List.nil_append, List.cons_lt_cons_iff] <;> omega

/-- Texts compare by their bytes as they compare by their characters. -/
lemma flatMap_codeBytes_lt : ∀ {cs ds : List Char}, cs < ds →
    cs.flatMap (fun c => codeBytes c.toNat) < ds.flatMap (fun c => codeBytes c.toNat)
  | _, [], h => absurd h (List.not_lt_nil _)
  | [], d :: ds, _ => by
    have first : ∃ b l, codeBytes d.toNat = b :: l := by
      unfold codeBytes
      split_ifs <;> exact ⟨_, _, rfl⟩
    obtain ⟨b, l, e⟩ := first
    rw [List.flatMap_nil, List.flatMap_cons, e]
    exact List.nil_lt_cons _ _
  | c :: cs, d :: ds, h => by
    rw [List.flatMap_cons, List.flatMap_cons]
    rcases List.cons_lt_cons_iff.mp h with hc | ⟨rfl, hcs⟩
    · exact codeBytes_lt hc _ _
    · exact List.append_left_lt (flatMap_codeBytes_lt hcs)

/-- The order of the encoded texts extends that of the strings. -/
lemma utf8Key_lt {s t : String} (h : s < t) : utf8Key s < utf8Key t :=
  flatMap_codeBytes_lt (String.lt_iff_toList_lt.mp h)

/-- The encoded keys are ordered as the keys. -/
lemma utf8Key_le {s t : String} : utf8Key s ≤ utf8Key t ↔ s ≤ t := by
  constructor
  · intro h
    by_contra hc
    exact absurd (utf8Key_lt (not_le.mp hc)) (not_lt.mpr h)
  · intro h
    rcases h.lt_or_eq with h | rfl
    · exact (utf8Key_lt h).le
    · exact le_rfl

/-- Sorting by the encoded key is sorting by the key. -/
lemma sortedBy_utf8Key {α : Type*} {key : α → String} {l : List α} :
    sortedBy (fun a => utf8Key (key a)) l = sortedBy key l := by
  unfold sortedBy
  simp only [utf8Key_le]

end GAM.Lib
