import GAM.Lib.DecimalNormal
import GAM.Lib.Utf8Order
import GAM.Traces.PlainTexts

/-!
# Canonical JSON with decimals

The other canonical form of the program: numbers are read as decimals and written in plain
positional notation, members are ordered by their encoded keys. `consequences.py` and `agent.py`
each have their own copy of the writer; `plainText` is what they share, up to the exceptions. A
value that was read is written as its tree in normal form, number by number, and what is written can
be read again as the same tree.
-/

namespace GAM
open Lib

/-- `Decimal` of a number token; the constructor signals an invalid operation beyond its limits. -/
def decimalNumber (n : Number) : Except PyError Value :=
  if Decimal.accepts n = true then .ok (.decimal (.ofNumber n)) else .error .arithmeticError

/-- A number within the limits is read as it stands. -/
lemma decimalNumber_ok {n : Number} {v : Value} :
    decimalNumber n = .ok v ↔ Decimal.accepts n = true ∧ v = .decimal (.ofNumber n) := by
  rw [decimalNumber]
  split
  · rename_i accepted
    simp only [Except.ok.injEq, accepted, true_and]
    exact eq_comm
  · rename_i beyond
    simp only [reduceCtorEq, beyond, false_and]

/-- What a writer of plain JSON raises. -/
structure PlainErrors (ε : Type) where
  nonFinite : ε
  overflow : ε
  unsupported : ε

section
variable {ε : Type}

/-- The text of a decimal: no exponent, no trailing zeros. -/
def plainNumber (errors : PlainErrors ε) (d : Decimal) : Except ε (List Char) :=
  if d.isFinite then
    match d.canonicalChars with
    | some cs => .ok cs
    | none => .error errors.overflow
  else .error errors.nonFinite

mutual

/-- The compact text of a value with decimals, its members in the order of their encoded keys. -/
def plainText (errors : PlainErrors ε) : Value → Except ε (List Char)
  | .none => .ok ['n', 'u', 'l', 'l']
  | .bool true => .ok ['t', 'r', 'u', 'e']
  | .bool false => .ok ['f', 'a', 'l', 's', 'e']
  | .decimal d => plainNumber errors d
  | .str s => .ok (stringChars s)
  | .tuple l => do
    let xs ← plainTexts errors l
    return commaSeparated '[' ']' xs
  | .dict l => do
    let ms ← plainMemberList errors l
    return commaSeparated '\x7b' '\x7d'
      ((sortedBy (fun m => utf8Key m.1) ms).map fun m => stringChars m.1 ++ ':' :: m.2)
  | _ => .error errors.unsupported

/-- The items of a list. -/
def plainTexts (errors : PlainErrors ε) : List Value → Except ε (List (List Char))
  | [] => .ok []
  | v :: l => do
    let x ← plainText errors v
    let xs ← plainTexts errors l
    return x :: xs

/-- The members of a mapping. -/
def plainMemberList (errors : PlainErrors ε) :
    List (String × Value) → Except ε (List (String × List Char))
  | [] => .ok []
  | (k, v) :: l => do
    let x ← plainText errors v
    let xs ← plainMemberList errors l
    return (k, x) :: xs

end

end

/-- The text of a number as a decimal. -/
def decimalChars (n : Number) : List Char := ((Decimal.ofNumber n).canonicalChars).getD []

/-- The number has a text as a decimal: its normalization does not overflow. -/
def Prints (n : Number) : Prop := (Decimal.ofNumber n).canonicalChars = some (decimalChars n)

instance (n : Number) : Decidable (Prints n) := by
  unfold Prints
  infer_instance

section
variable [Platform]

mutual

/-- The value of a tree whose keys are put in NFC and whose numbers are decimals. -/
def decimalValue : Json → Value
  | .null | .constant _ => .none
  | .bool b => .bool b
  | .num n => .decimal (.ofNumber n)
  | .str s => .str s
  | .arr l => .tuple (decimalElems l)
  | .obj l => .dict (decimalMembers l)

/-- The items of an array. -/
def decimalElems : List Json → List Value
  | [] => []
  | j :: l => decimalValue j :: decimalElems l

/-- The members of an object, under their keys in NFC. -/
def decimalMembers : List (String × Json) → List (String × Value)
  | [] => []
  | (k, j) :: l => (nfc k, decimalValue j) :: decimalMembers l

end

/-- The elements' values, as a map. -/
lemma decimalElems_eq {l : List Json} : decimalElems l = l.map decimalValue := by
  induction l with
  | nil => rfl
  | cons j l ih => rw [decimalElems, ih, List.map_cons]

/-- The members' values under their normal names, as a map. -/
lemma decimalMembers_eq {l : List (String × Json)} :
    decimalMembers l = l.map fun m => (nfc m.1, decimalValue m.2) := by
  induction l with
  | nil => rfl
  | cons m l ih => rw [decimalMembers, ih, List.map_cons]

mutual

/-- The value of a tree has no lone surrogate. -/
@[simp] lemma decimalValue_unicode : ∀ j : Json, (decimalValue j).isUnicode = true
  | .null | .constant _ | .bool _ | .num _ | .str _ => rfl
  | .arr l => by
    rw [decimalValue, Value.isUnicode_tuple]
    exact decimalElems_unicode l
  | .obj l => by
    rw [decimalValue, Value.isUnicode_dict]
    exact decimalMembers_unicode l

/-- The elements' values are without surrogates. -/
lemma decimalElems_unicode : ∀ l : List Json, ∀ v ∈ decimalElems l, v.isUnicode = true
  | [] => fun _ h => absurd h List.not_mem_nil
  | j :: l => List.forall_mem_cons.mpr ⟨decimalValue_unicode j, decimalElems_unicode l⟩

/-- The members' values are without surrogates. -/
lemma decimalMembers_unicode : ∀ l : List (String × Json), ∀ m ∈ decimalMembers l,
    m.2.isUnicode = true
  | [] => fun _ h => absurd h List.not_mem_nil
  | (_, j) :: l => List.forall_mem_cons.mpr ⟨decimalValue_unicode j, decimalMembers_unicode l⟩

end

/-! ### Writing -/

omit [Platform] in
/-- A number is printed exactly where its decimal is. -/
lemma plainNumber_ok {ε : Type} {errors : PlainErrors ε} {n : Number} {cs : List Char} :
    plainNumber errors (.ofNumber n) = .ok cs ↔ Prints n ∧ cs = decimalChars n := by
  have finite : (Decimal.ofNumber n).isFinite = true := rfl
  rw [plainNumber, if_pos finite, Prints, decimalChars]
  cases (Decimal.ofNumber n).canonicalChars with
  | none => simp
  | some cs' => simp [eq_comm]

section
variable {ε : Type} {errors : PlainErrors ε}

mutual

/-- When a value is written, and as what. -/
lemma plainText_decimalValue : ∀ {j : Json} {cs : List Char}, (∀ p ∈ j.parts, Keyed p) →
    (plainText errors (decimalValue j) = .ok cs ↔
      (∀ n, .num n ∈ j.parts → Prints n) ∧ cs = (normalJson j).printWith decimalChars)
  | .null, cs, _ | .bool true, cs, _ | .bool false, cs, _ | .str _, cs, _ => by
    simp [decimalValue, plainText, Json.parts, normalJson, Json.map, Json.sortKeys, Json.printWith,
      eq_comm]
  | .constant _, _, h => (h _ (Json.mem_parts _)).elim
  | .num n, cs, _ => by
    rw [decimalValue, plainText, plainNumber_ok]
    simp [Json.parts, normalJson, Json.map, Json.sortKeys, Json.printWith]
  | .arr l, cs, h => by
    have inner := (forall_parts_arr.mp h).2
    have numbers : (∀ n, .num n ∈ (Json.arr l).parts → Prints n) ↔
        ∀ j ∈ l, ∀ n, .num n ∈ j.parts → Prints n := by
      simp only [mem_parts_arr, reduceCtorEq, false_or]
      exact ⟨fun h j hj n hn => h n ⟨j, hj, hn⟩, fun h n ⟨j, hj, hn⟩ => h j hj n hn⟩
    simp only [decimalValue, plainText, bind_eq_ok, pure_eq_ok, Except.ok.injEq,
      plainTexts_decimalElems inner, numbers, normal_arr, ← commaSeparated_arr, List.map_map]
    constructor
    · rintro ⟨_, ⟨prints, rfl⟩, rfl⟩
      exact ⟨prints, rfl⟩
    · rintro ⟨prints, rfl⟩
      exact ⟨_, ⟨prints, rfl⟩, rfl⟩
  | .obj ms, cs, h => by
    have inner := (forall_parts_obj.mp h).2
    have numbers : (∀ n, .num n ∈ (Json.obj ms).parts → Prints n) ↔
        ∀ m ∈ ms, ∀ n, .num n ∈ m.2.parts → Prints n := by
      simp only [mem_parts_obj, reduceCtorEq, false_or]
      exact ⟨fun h m hm n hn => h n ⟨m, hm, hn⟩, fun h n ⟨m, hm, hn⟩ => h m hm n hn⟩
    -- the printer sorts by the encoded names, the tree by the names
    have sorted : (sortedBy (fun m => utf8Key m.1)
          (ms.map fun m => (nfc m.1, (normalJson m.2).printWith decimalChars))).map
            (fun m => stringChars m.1 ++ ':' :: m.2) =
        (sortedBy Prod.fst (ms.map fun m => (nfc m.1, normalJson m.2))).map
          fun m => stringChars m.1 ++ ':' :: m.2.printWith decimalChars := by
      let written (m : String × Json) := (m.1, m.2.printWith decimalChars)
      have keys := @sortedBy_map _ _ _ Prod.fst (ms.map fun m => (nfc m.1, normalJson m.2)) _ Prod.fst
        written fun _ => rfl
      rw [List.map_map] at keys
      rw [sortedBy_utf8Key]
      exact (congrArg _ keys).trans (List.map_map)
    simp only [decimalValue, plainText, bind_eq_ok, pure_eq_ok, Except.ok.injEq,
      plainMemberList_decimalMembers inner, numbers, normal_obj, ← commaSeparated_obj]
    constructor
    · rintro ⟨_, ⟨prints, rfl⟩, rfl⟩
      exact ⟨prints, congrArg _ sorted⟩
    · rintro ⟨prints, rfl⟩
      exact ⟨_, ⟨prints, rfl⟩, congrArg _ sorted⟩

/-- The elements are printed exactly where all their numbers are. -/
lemma plainTexts_decimalElems : ∀ {l : List Json} {xs : List (List Char)},
    (∀ j ∈ l, ∀ p ∈ j.parts, Keyed p) → (plainTexts errors (decimalElems l) = .ok xs ↔
      (∀ j ∈ l, ∀ n, .num n ∈ j.parts → Prints n) ∧
        xs = l.map fun j => (normalJson j).printWith decimalChars)
  | [], xs, _ => by simp [decimalElems, plainTexts, eq_comm]
  | j :: l, xs, h => by
    rw [List.forall_mem_cons] at h
    simp only [decimalElems, plainTexts, bind_eq_ok, pure_eq_ok, Except.ok.injEq,
      plainText_decimalValue h.1, plainTexts_decimalElems h.2, List.forall_mem_cons, List.map_cons]
    constructor
    · rintro ⟨_, ⟨head, rfl⟩, _, ⟨tail, rfl⟩, rfl⟩
      exact ⟨⟨head, tail⟩, rfl⟩
    · rintro ⟨⟨head, tail⟩, rfl⟩
      exact ⟨_, ⟨head, rfl⟩, _, ⟨tail, rfl⟩, rfl⟩

/-- The members are printed exactly where all their numbers are. -/
lemma plainMemberList_decimalMembers : ∀ {ms : List (String × Json)}
    {xs : List (String × List Char)}, (∀ m ∈ ms, ∀ p ∈ m.2.parts, Keyed p) →
    (plainMemberList errors (decimalMembers ms) = .ok xs ↔
      (∀ m ∈ ms, ∀ n, .num n ∈ m.2.parts → Prints n) ∧
        xs = ms.map fun m => (nfc m.1, (normalJson m.2).printWith decimalChars))
  | [], xs, _ => by simp [decimalMembers, plainMemberList, eq_comm]
  | (k, j) :: ms, xs, h => by
    rw [List.forall_mem_cons] at h
    simp only [decimalMembers, plainMemberList, bind_eq_ok, pure_eq_ok, Except.ok.injEq,
      plainText_decimalValue h.1, plainMemberList_decimalMembers h.2, List.forall_mem_cons,
      List.map_cons]
    constructor
    · rintro ⟨_, ⟨head, rfl⟩, _, ⟨tail, rfl⟩, rfl⟩
      exact ⟨⟨head, tail⟩, rfl⟩
    · rintro ⟨⟨head, tail⟩, rfl⟩
      exact ⟨_, ⟨head, rfl⟩, _, ⟨tail, rfl⟩, rfl⟩

end

end

end

/-! ### Reading what was written -/

/-- The token that the text of a number as a decimal is. -/
def decimalToken (n : Number) : Number := tokenOf (decimalChars n)

/-- A printed number is the text of a token. -/
lemma Prints.token {n : Number} (h : Prints n) : TokenText (decimalChars n) :=
  Decimal.canonicalChars_token rfl h

/-- The number of a plain text is written as that text. -/
lemma decimalToken_print {n : Number} (h : Prints n) :
    (decimalToken n).print = decimalChars n ∧ (decimalToken n).exp = none := by
  obtain ⟨neg, cs, text, ds, fs, rfl, hd, hf⟩ := Decimal.canonicalChars_pointed rfl h
  have token := @isToken_number neg ds fs [] none hd hf fun r hr =>
    ⟨parseExp_expChars (e := none) hr, expChars_noFrac (e := none) hr⟩
  rw [List.append_nil, ← text] at token
  rw [decimalToken, token.tokenOf]
  refine ⟨?_, rfl⟩
  rw [Number.print, hd.natChars, fracChars_digits hf, text, Decimal.signChars, expChars,
    List.append_nil, List.append_assoc]

/-- Writing what was read gives the text again, unless it is the text of a negative number that
underflows. -/
lemma Prints.again {n : Number} (h : Prints n) (signed : decimalChars n ≠ ['-', '0']) :
    Prints (decimalToken n) ∧ decimalChars (decimalToken n) = decimalChars n := by
  have text := Decimal.canonicalChars_idem rfl h h.token.isToken signed
  have chars : decimalChars (decimalToken n) = decimalChars n := by
    rw [decimalChars, decimalToken, text, Option.getD_some]
  refine ⟨?_, chars⟩
  rw [Prints, chars]
  exact text

/-- The number of a plain text is within the limits of the constructor. -/
lemma Prints.accepts {n : Number} (h : Prints n) : Decimal.accepts (decimalToken n) = true := by
  obtain ⟨text, plain⟩ := decimalToken_print h
  refine Decimal.accepts_of_short plain ?_
  have short := Decimal.canonicalChars_length rfl h
  rw [text]
  omega

/-- The printed numbers are tokens of the values read back. -/
lemma tokens_decimal {l : List Json} (h : ∀ n, .num n ∈ l → Prints n) :
    Tokens decimalChars decimalToken l :=
  fun n hn => (h n hn).token.isToken

/-- A written tree is read as the tree with its numbers as they were written. -/
lemma parse_decimal {j : Json} (h : ∀ n, .num n ∈ j.parts → Prints n) :
    Json.parse (String.ofList (j.printWith decimalChars)) = some (j.map id decimalToken) :=
  Json.parse_printWith (tokens_decimal h)

section
variable [Platform]

/-- Normal form keeps the numbers. -/
lemma num_mem_normal {j : Json} {n : Number} : .num n ∈ (normalJson j).parts ↔ .num n ∈ j.parts := by
  rw [normalJson, num_mem_sortKeys, num_mem_map]
  simp

omit [Platform] in
/-- The characters of a number as a decimal are characters of numbers. -/
lemma decimalChars_numberText (n : Number) : NumberText (decimalChars n) := by
  by_cases h : Prints n
  · exact h.token.1
  · rw [decimalChars]
    cases e : (Decimal.ofNumber n).canonicalChars with
    | none => exact numberText_nil
    | some cs => exact absurd (by rw [Prints, decimalChars, e]; rfl) h

/-- The decimal text of a value is canonical exactly when every number in it is written back as it
stands. -/
lemma canonicalPlainJson_decimal {j : Json} (keyed : ∀ p ∈ j.parts, Keyed p)
    (prints : ∀ n, .num n ∈ j.parts → Prints n) :
    canonicalPlainJson (String.ofList ((normalJson j).printWith decimalChars)) = .ok () ↔
      ∀ n, .num n ∈ j.parts → renderNumber (decimalToken n) = .ok (decimalChars n) := by
  have tokens : Tokens decimalChars decimalToken (normalJson j).parts :=
    tokens_decimal fun n hn => prints n (num_mem_normal.mp hn)
  rw [canonicalPlainJson_print tokens decimalChars_numberText (normalJson_idem j)
    (keyed_normal keyed)]
  simp only [num_mem_normal]

end

end GAM
