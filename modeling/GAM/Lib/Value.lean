import GAM.Lib.Binary64
import GAM.Lib.Text

/-!
# Python values

The runtime values that the reflective code of a Python program walks over: scalars, enumeration
members, tuples, lists, dictionaries with text keys, and frozen records as the list of their fields
in declaration order. `ToValue` gives each modelled type its value.

The texts and keys of a program are strings. A value that was read from outside may also hold texts with
lone surrogates; these have constructors of their own, and `Value.text` and `Value.ofMembers` choose
between the two.
-/

namespace GAM.Lib

/-- A Python value. -/
inductive Value where
  | none
  | bool (b : Bool)
  | int (i : Int)
  | float (f : Binary64)
  | decimal (d : Decimal)
  | str (s : String)
  | enum (type member : String)
  | tuple (l : List Value)
  | list (l : List Value)
  | dict (l : List (String × Value))
  | record (fields : List (String × Value))
  /-- A text with a lone surrogate. -/
  | points (t : Text)
  /-- A dictionary with such a text among its keys. -/
  | textDict (l : List (Text × Value))

namespace Value

/-- A Python text as a value. -/
def text (t : Text) : Value :=
  match t.string? with
  | some s => .str s
  | .none => .points t

/-- A dictionary of the given members. -/
def ofMembers (l : List (Text × Value)) : Value :=
  match Text.members? l with
  | some ms => .dict ms
  | .none => .textDict l

@[simp] lemma text_textOf {s : String} : text (textOf s) = .str s := by simp [text]

@[simp] lemma ofMembers_textMembers {ms : List (String × Value)} :
    ofMembers (textMembers ms) = .dict ms := by
  simp [ofMembers, Text.members?_eq_some.mpr rfl]

/-- The code points of a text. -/
def codePoints? : Value → Option Text
  | .str s => some (textOf s)
  | .points t => some t
  | _ => .none

/-- The members of a mapping, with their keys as texts. -/
def textMembers? : Value → Option (List (Text × Value))
  | .dict l => some (textMembers l)
  | .textDict l => some l
  | _ => .none

mutual

/-- No text of the value, and no key, has a lone surrogate. -/
def isUnicode : Value → Bool
  | .tuple l | .list l => unicodeElems l
  | .dict l | .record l => unicodeMembers l
  | .points _ | .textDict _ => false
  | _ => true

/-- The items of a list. -/
def unicodeElems : List Value → Bool
  | [] => true
  | v :: l => v.isUnicode && unicodeElems l

/-- The values of a mapping. -/
def unicodeMembers : List (String × Value) → Bool
  | [] => true
  | (_, v) :: l => v.isUnicode && unicodeMembers l

end

@[simp] lemma isUnicode_none : Value.none.isUnicode = true := rfl
@[simp] lemma isUnicode_bool {b : Bool} : (Value.bool b).isUnicode = true := rfl
@[simp] lemma isUnicode_int {i : Int} : (Value.int i).isUnicode = true := rfl
@[simp] lemma isUnicode_float {f : Binary64} : (Value.float f).isUnicode = true := rfl
@[simp] lemma isUnicode_decimal {d : Decimal} : (Value.decimal d).isUnicode = true := rfl
@[simp] lemma isUnicode_str {s : String} : (Value.str s).isUnicode = true := rfl
@[simp] lemma isUnicode_enum {t m : String} : (Value.enum t m).isUnicode = true := rfl
@[simp] lemma isUnicode_points {t : Text} : (Value.points t).isUnicode = false := rfl
@[simp] lemma isUnicode_textDict {l : List (Text × Value)} :
    (Value.textDict l).isUnicode = false := rfl

/-- A text with a lone surrogate is a value with one. -/
lemma text_lone {t : Text} (h : t.isUnicode = false) : ¬(text t).isUnicode = true := by
  unfold text
  split
  · rename_i s e
    rw [Text.string?_eq_some.mp e, Text.isUnicode_textOf] at h
    cases h
  · simp

@[simp] lemma unicodeElems_iff {l : List Value} :
    unicodeElems l = true ↔ ∀ v ∈ l, v.isUnicode = true := by
  induction l with
  | nil => simp [unicodeElems]
  | cons v l ih => simp [unicodeElems, ih]

@[simp] lemma unicodeMembers_iff {l : List (String × Value)} :
    unicodeMembers l = true ↔ ∀ m ∈ l, m.2.isUnicode = true := by
  induction l with
  | nil => simp [unicodeMembers]
  | cons m l ih => simp only [unicodeMembers, Bool.and_eq_true, ih, List.forall_mem_cons]

@[simp] lemma isUnicode_tuple {l : List Value} :
    (Value.tuple l).isUnicode = true ↔ ∀ v ∈ l, v.isUnicode = true := unicodeElems_iff

@[simp] lemma isUnicode_list {l : List Value} :
    (Value.list l).isUnicode = true ↔ ∀ v ∈ l, v.isUnicode = true := unicodeElems_iff

@[simp] lemma isUnicode_dict {l : List (String × Value)} :
    (Value.dict l).isUnicode = true ↔ ∀ m ∈ l, m.2.isUnicode = true := unicodeMembers_iff

@[simp] lemma isUnicode_record {l : List (String × Value)} :
    (Value.record l).isUnicode = true ↔ ∀ m ∈ l, m.2.isUnicode = true := unicodeMembers_iff

/-- A member with a lone surrogate makes its dictionary one with it. -/
lemma ofMembers_lone {l : List (Text × Value)} {m : Text × Value} (hm : m ∈ l)
    (h : m.1.isUnicode = false ∨ ¬m.2.isUnicode = true) : ¬(ofMembers l).isUnicode = true := by
  unfold ofMembers
  split
  · rename_i ms e
    rw [Text.members?_eq_some.mp e] at hm
    obtain ⟨m', hm', rfl⟩ := List.mem_map.mp hm
    simp only [Text.isUnicode_textOf, Bool.true_eq_false, false_or] at h
    exact fun all => h (isUnicode_dict.mp all m' hm')
  · simp

end Value

/-- The Python value of a model value. -/
class ToValue (α : Type) where
  toValue : α → Value

export ToValue (toValue)

instance : ToValue Bool := ⟨.bool⟩
instance : ToValue Int := ⟨.int⟩
instance : ToValue Nat := ⟨fun n => .int n⟩
instance : ToValue Binary64 := ⟨.float⟩
instance : ToValue Decimal := ⟨.decimal⟩
instance : ToValue String := ⟨.str⟩
instance {α} [ToValue α] : ToValue (Option α) := ⟨fun o => o.elim .none toValue⟩
instance {α} [ToValue α] : ToValue (List α) := ⟨fun l => .tuple (l.map toValue)⟩

section
variable {α : Type} [ToValue α]

@[simp] lemma toValue_bool (b : Bool) : toValue b = .bool b := rfl
@[simp] lemma toValue_int (i : Int) : toValue i = .int i := rfl
@[simp] lemma toValue_nat (n : Nat) : toValue n = .int n := rfl
@[simp] lemma toValue_float (f : Binary64) : toValue f = .float f := rfl
@[simp] lemma toValue_decimal (d : Decimal) : toValue d = .decimal d := rfl
@[simp] lemma toValue_str (s : String) : toValue s = .str s := rfl
@[simp] lemma toValue_none : toValue (none : Option α) = .none := rfl
@[simp] lemma toValue_some (a : α) : toValue (some a) = toValue a := rfl
@[simp] lemma toValue_list (l : List α) : toValue l = .tuple (l.map toValue) := rfl

end

end GAM.Lib
