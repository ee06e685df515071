import GAM.Lib.Sorted

/-!
# JSON texts

The syntax of JSON as a tree, and its compact printer. The dialect is the one Python's `json`
module reads and writes: besides the standard values it has the three constants `NaN`, `Infinity`
and `-Infinity`. Numbers are kept as written (sign, integer digits, fraction digits, exponent), so
that each reader can give them its own meaning; every `Number` prints to a token of the grammar.

`Json.print` writes no blanks. `Json.sortKeys` orders the members of every object by key, and
`Json.dumps` is the composition, the text of `json.dumps(.., sort_keys=True, ensure_ascii=False,
separators=(",", ":"))`.
-/

namespace GAM.Lib

/-- A number token: sign, integer part, fraction digits (none when absent), exponent. -/
structure Number where
  neg : Bool
  int : Nat
  frac : List (Fin 10)
  exp : Option Int
deriving DecidableEq, Repr

/-- The three non-standard constants. -/
inductive Constant where
  | nan
  | infinity
  | negInfinity
deriving DecidableEq, Repr

/-- A JSON value as written: members keep their order and may repeat a key. -/
inductive Json where
  | null
  | bool (b : Bool)
  | constant (c : Constant)
  | num (n : Number)
  | str (s : String)
  | arr (l : List Json)
  | obj (l : List (String × Json))

/-- The token of an integer. -/
def Number.ofInt (i : Int) : Number :=
  ⟨decide (i < 0), i.natAbs, [], none⟩

/-- An integer as a JSON value. -/
def Json.int (i : Int) : Json := .num (.ofInt i)

/-- The member of an object under a key. -/
def Json.get? (k : String) : Json → Option Json
  | .obj l => l.lookup k
  | _ => none

/-- The digits of a natural number. -/
def natChars (n : Nat) : List Char := Nat.toDigits 10 n

/-- The digits of an integer, with its sign. -/
def intChars (i : Int) : List Char :=
  if i < 0 then '-' :: natChars i.natAbs else natChars i.natAbs

/-- The fraction part of a token. -/
def fracChars : List (Fin 10) → List Char
  | [] => []
  | d :: ds => '.' :: (d :: ds).map fun d => d.val.digitChar

/-- The exponent part of a token. -/
def expChars : Option Int → List Char
  | none => []
  | some e => 'e' :: intChars e

/-- The text of a number token. -/
def Number.print (n : Number) : List Char :=
  (if n.neg then ['-'] else []) ++ natChars n.int ++ fracChars n.frac ++ expChars n.exp

/-- The text of a constant. -/
def Constant.print : Constant → List Char
  | .nan => ['N', 'a', 'N']
  | .infinity => ['I', 'n', 'f', 'i', 'n', 'i', 't', 'y']
  | .negInfinity => ['-', 'I', 'n', 'f', 'i', 'n', 'i', 't', 'y']

/-- The lower-case hexadecimal digit. -/
def hexChar (d : Nat) : Char := Nat.digitChar d

/-- One character of a string token. -/
def escapeChar (c : Char) : List Char :=
  if c = '"' then ['\\', '"']
  else if c = '\\' then ['\\', '\\']
  else if c = '\n' then ['\\', 'n']
  else if c = '\r' then ['\\', 'r']
  else if c = '\t' then ['\\', 't']
  else if c = '\x0c' then ['\\', 'f']
  else if c = '\x08' then ['\\', 'b']
  else if c.toNat < 32 then ['\\', 'u', '0', '0', hexChar (c.toNat / 16), hexChar (c.toNat % 16)]
  else [c]

/-- A string token, quotes included. -/
def stringChars (s : String) : List Char :=
  '"' :: (s.toList.flatMap escapeChar ++ ['"'])

mutual

/-- The compact text of a value. -/
def Json.print : Json → List Char
  | .null => ['n', 'u', 'l', 'l']
  | .bool true => ['t', 'r', 'u', 'e']
  | .bool false => ['f', 'a', 'l', 's', 'e']
  | .constant c => c.print
  | .num n => n.print
  | .str s => stringChars s
  | .arr [] => ['[', ']']
  | .arr (j :: l) => '[' :: (j.print ++ printElems l)
  | .obj [] => ['{', '}']
  | .obj ((k, j) :: l) => '{' :: (stringChars k ++ ':' :: (j.print ++ printMembers l))

/-- What follows the first element of an array. -/
def printElems : List Json → List Char
  | [] => [']']
  | j :: l => ',' :: (j.print ++ printElems l)

/-- What follows the first member of an object. -/
def printMembers : List (String × Json) → List Char
  | [] => ['}']
  | (k, j) :: l => ',' :: (stringChars k ++ ':' :: (j.print ++ printMembers l))

end

mutual

/-- Every object ordered by key. -/
def Json.sortKeys : Json → Json
  | .arr l => .arr (sortElems l)
  | .obj l => .obj (sortedBy Prod.fst (sortMembers l))
  | j => j

/-- The items of an array. -/
def sortElems : List Json → List Json
  | [] => []
  | j :: l => j.sortKeys :: sortElems l

/-- The values of the members of an object. -/
def sortMembers : List (String × Json) → List (String × Json)
  | [] => []
  | (k, j) :: l => (k, j.sortKeys) :: sortMembers l

end

/-- The compact text with sorted keys. -/
def Json.dumps (j : Json) : String := String.ofList j.sortKeys.print

section
variable {α : Type} {k : String} {a : α} {l : List (String × α)}

/-- A key that occurs once is looked up as its item. -/
lemma lookup_of_mem (nd : (l.map Prod.fst).Nodup) (h : (k, a) ∈ l) : l.lookup k = some a := by
  induction l with
  | nil => cases h
  | cons m l ih =>
    obtain ⟨k', a'⟩ := m
    rw [List.map_cons, List.nodup_cons] at nd
    rw [List.lookup_cons]
    cases h with
    | head => simp
    | tail _ h =>
      have hne : (k == k') = false := by
        rw [beq_eq_false_iff_ne]
        intro e
        exact nd.1 (List.mem_map.mpr ⟨_, h, e⟩)
      rw [hne]
      exact ih nd.2 h

/-- A key that does not occur is not found. -/
lemma lookup_of_notMem (h : k ∉ l.map Prod.fst) : l.lookup k = none := by
  induction l with
  | nil => rfl
  | cons m l ih =>
    obtain ⟨k', a'⟩ := m
    rw [List.map_cons, List.mem_cons, not_or] at h
    rw [List.lookup_cons, beq_eq_false_iff_ne.mpr h.1]
    exact ih h.2

/-- What is found is an item. -/
lemma mem_of_lookup (h : l.lookup k = some a) : (k, a) ∈ l := by
  induction l with
  | nil => cases h
  | cons m l ih =>
    obtain ⟨k', a'⟩ := m
    rw [List.lookup_cons] at h
    cases e : k == k' with
    | true =>
      rw [e] at h
      cases h
      rw [beq_iff_eq.mp e]
      exact List.mem_cons_self
    | false =>
      rw [e] at h
      exact List.mem_cons_of_mem _ (ih h)

/-- Where keys do not repeat, the items are what is found. -/
lemma mem_iff_lookup (nd : (l.map Prod.fst).Nodup) : (k, a) ∈ l ↔ l.lookup k = some a :=
  ⟨lookup_of_mem nd, mem_of_lookup⟩

end

/-- The keys of related mappings are the same. -/
lemma forall₂_keys {α β : Type} {R : String × α → String × β → Prop} {l : List (String × α)}
    {m : List (String × β)} (h : List.Forall₂ R l m) (hR : ∀ a b, R a b → a.1 = b.1) :
    l.map Prod.fst = m.map Prod.fst := by
  induction h with
  | nil => rfl
  | cons h _ ih => rw [List.map_cons, List.map_cons, hR _ _ h, ih]

/-- Sorting the members' values is a map. -/
lemma sortMembers_eq {ms : List (String × Json)} :
    sortMembers ms = ms.map fun m => (m.1, m.2.sortKeys) := by
  induction ms with
  | nil => rfl
  | cons m ms ih => rw [sortMembers, ih, List.map_cons]

/-- Sorting the elements is a map. -/
lemma sortElems_eq {js : List Json} : sortElems js = js.map Json.sortKeys := by
  induction js with
  | nil => rfl
  | cons j js ih => rw [sortElems, ih, List.map_cons]

mutual

/-- Ordering the keys once is enough. -/
lemma Json.sortKeys_idem : ∀ j : Json, j.sortKeys.sortKeys = j.sortKeys
  | .null | .bool _ | .constant _ | .num _ | .str _ => rfl
  | .arr l => by
    rw [Json.sortKeys, Json.sortKeys, sortElems_eq, List.map_congr_left (sortElems_idem l),
      List.map_id']
  | .obj l => by
    have members : ∀ m ∈ sortedBy Prod.fst (sortMembers l), (m.1, m.2.sortKeys) = m := by
      intro m hm
      rw [sortMembers_idem l m (mem_sortedBy.mp hm)]
    rw [Json.sortKeys, Json.sortKeys, sortMembers_eq, List.map_congr_left members, List.map_id',
      sortedBy_idem]

lemma sortElems_idem : ∀ l, ∀ j ∈ sortElems l, j.sortKeys = j
  | [] => by simp [sortElems]
  | j :: l => by
    rw [sortElems, List.forall_mem_cons]
    exact ⟨j.sortKeys_idem, sortElems_idem l⟩

lemma sortMembers_idem : ∀ l, ∀ m ∈ sortMembers l, m.2.sortKeys = m.2
  | [] => by simp [sortMembers]
  | (_, j) :: l => by
    rw [sortMembers, List.forall_mem_cons]
    exact ⟨j.sortKeys_idem, sortMembers_idem l⟩

end

end GAM.Lib
