import GAM.Lib.Json

/-!
# The parts of a JSON value

`Json.parts` lists a value and everything inside it. `Json.map` renames the keys and replaces the
numbers, and `Json.printWith` prints a value with numbers written in a way of one's own; `Json.print`
is the instance that writes a token as it was read. Two ways of writing numbers give one text exactly
when they agree on the numbers of the value (`Json.printWith_inj`).
-/

namespace GAM.Lib

mutual

/-- Induction over a value, through its elements and its members. -/
@[elab_as_elim]
theorem Json.induction {motive : Json → Prop} (null : motive .null) (bool : ∀ b, motive (.bool b))
    (constant : ∀ c, motive (.constant c)) (num : ∀ n, motive (.num n)) (str : ∀ s, motive (.str s))
    (arr : ∀ l, (∀ j ∈ l, motive j) → motive (.arr l))
    (obj : ∀ ms : List (String × Json), (∀ m ∈ ms, motive m.2) → motive (.obj ms)) : ∀ j, motive j
  | .null => null
  | .bool b => bool b
  | .constant c => constant c
  | .num n => num n
  | .str s => str s
  | .arr l => arr l (inductionElems null bool constant num str arr obj l)
  | .obj ms => obj ms (inductionMembers null bool constant num str arr obj ms)

/-- The items of an array. -/
theorem inductionElems {motive : Json → Prop} (null : motive .null) (bool : ∀ b, motive (.bool b))
    (constant : ∀ c, motive (.constant c)) (num : ∀ n, motive (.num n)) (str : ∀ s, motive (.str s))
    (arr : ∀ l, (∀ j ∈ l, motive j) → motive (.arr l))
    (obj : ∀ ms : List (String × Json), (∀ m ∈ ms, motive m.2) → motive (.obj ms)) :
    ∀ l : List Json, ∀ j ∈ l, motive j
  | [] => fun _ h => absurd h List.not_mem_nil
  | j :: l => List.forall_mem_cons.mpr ⟨j.induction null bool constant num str arr obj,
      inductionElems null bool constant num str arr obj l⟩

/-- The values of the members of an object. -/
theorem inductionMembers {motive : Json → Prop} (null : motive .null) (bool : ∀ b, motive (.bool b))
    (constant : ∀ c, motive (.constant c)) (num : ∀ n, motive (.num n)) (str : ∀ s, motive (.str s))
    (arr : ∀ l, (∀ j ∈ l, motive j) → motive (.arr l))
    (obj : ∀ ms : List (String × Json), (∀ m ∈ ms, motive m.2) → motive (.obj ms)) :
    ∀ ms : List (String × Json), ∀ m ∈ ms, motive m.2
  | [] => fun _ h => absurd h List.not_mem_nil
  | (_, j) :: ms => List.forall_mem_cons.mpr ⟨j.induction null bool constant num str arr obj,
      inductionMembers null bool constant num str arr obj ms⟩

end

mutual

/-- The value and all values inside it. -/
def Json.parts : Json → List Json
  | .arr l => .arr l :: partsElems l
  | .obj l => .obj l :: partsMembers l
  | j => [j]

/-- The parts of the items of an array. -/
def partsElems : List Json → List Json
  | [] => []
  | j :: l => j.parts ++ partsElems l

/-- The parts of the members of an object. -/
def partsMembers : List (String × Json) → List Json
  | [] => []
  | (_, j) :: l => j.parts ++ partsMembers l

end

mutual

/-- Rename the keys and replace the numbers. -/
def Json.map (key : String → String) (num : Number → Number) : Json → Json
  | .num n => .num (num n)
  | .arr l => .arr (mapElems key num l)
  | .obj l => .obj (mapMembers key num l)
  | j => j

/-- The items of an array. -/
def mapElems (key : String → String) (num : Number → Number) : List Json → List Json
  | [] => []
  | j :: l => j.map key num :: mapElems key num l

/-- The members of an object. -/
def mapMembers (key : String → String) (num : Number → Number) :
    List (String × Json) → List (String × Json)
  | [] => []
  | (k, j) :: l => (key k, j.map key num) :: mapMembers key num l

end

mutual

/-- The compact text of a value, with numbers written by a function. -/
def Json.printWith (f : Number → List Char) : Json → List Char
  | .null => ['n', 'u', 'l', 'l']
  | .bool true => ['t', 'r', 'u', 'e']
  | .bool false => ['f', 'a', 'l', 's', 'e']
  | .constant c => c.print
  | .num n => f n
  | .str s => stringChars s
  | .arr [] => ['[', ']']
  | .arr (j :: l) => '[' :: (j.printWith f ++ printElemsWith f l)
  | .obj [] => ['{', '}']
  | .obj ((k, j) :: l) =>
    '{' :: (stringChars k ++ ':' :: (j.printWith f ++ printMembersWith f l))

/-- What follows the first element of an array. -/
def printElemsWith (f : Number → List Char) : List Json → List Char
  | [] => [']']
  | j :: l => ',' :: (j.printWith f ++ printElemsWith f l)

/-- What follows the first member of an object. -/
def printMembersWith (f : Number → List Char) : List (String × Json) → List Char
  | [] => ['}']
  | (k, j) :: l => ',' :: (stringChars k ++ ':' :: (j.printWith f ++ printMembersWith f l))

end

/-! ### Parts -/

section
variable {key : String → String} {num : Number → Number} {j p : Json} {l : List Json}
  {ms : List (String × Json)}

/-- The parts of the elements, element by element. -/
lemma mem_partsElems : p ∈ partsElems l ↔ ∃ j ∈ l, p ∈ j.parts := by
  induction l with
  | nil => simp [partsElems]
  | cons j l ih => simp [partsElems, ih]

/-- The parts of the members, member by member. -/
lemma mem_partsMembers : p ∈ partsMembers ms ↔ ∃ m ∈ ms, p ∈ m.2.parts := by
  induction ms with
  | nil => simp [partsMembers]
  | cons m ms ih => simp [partsMembers, ih]

/-- A part of an array is the array or a part of an element. -/
lemma mem_parts_arr : p ∈ (Json.arr l).parts ↔ p = .arr l ∨ ∃ j ∈ l, p ∈ j.parts := by
  rw [Json.parts, List.mem_cons, mem_partsElems]

/-- A part of an object is the object or a part of a member's value. -/
lemma mem_parts_obj : p ∈ (Json.obj ms).parts ↔ p = .obj ms ∨ ∃ m ∈ ms, p ∈ m.2.parts := by
  rw [Json.parts, List.mem_cons, mem_partsMembers]

/-- A value is one of its parts. -/
lemma Json.mem_parts (j : Json) : j ∈ j.parts := by
  cases j <;> simp [Json.parts]

/-- What holds of the parts of an array holds of the parts of its elements. -/
lemma forall_parts_arr {P : Json → Prop} :
    (∀ p ∈ (Json.arr l).parts, P p) ↔ P (.arr l) ∧ ∀ j ∈ l, ∀ p ∈ j.parts, P p := by
  simp only [mem_parts_arr]
  constructor
  · exact fun h => ⟨h _ (.inl rfl), fun j hj p hp => h p (.inr ⟨j, hj, hp⟩)⟩
  · rintro ⟨top, inside⟩ p (rfl | ⟨j, hj, hp⟩)
    · exact top
    · exact inside j hj p hp

/-- What holds of an object's parts holds of it and of the parts of its values. -/
lemma forall_parts_obj {P : Json → Prop} :
    (∀ p ∈ (Json.obj ms).parts, P p) ↔ P (.obj ms) ∧ ∀ m ∈ ms, ∀ p ∈ m.2.parts, P p := by
  simp only [mem_parts_obj]
  constructor
  · exact fun h => ⟨h _ (.inl rfl), fun m hm p hp => h p (.inr ⟨m, hm, hp⟩)⟩
  · rintro ⟨top, inside⟩ p (rfl | ⟨m, hm, hp⟩)
    · exact top
    · exact inside m hm p hp

/-- Mapping the elements, as a map. -/
lemma mapElems_eq : mapElems key num l = l.map (Json.map key num) := by
  induction l with
  | nil => rfl
  | cons j l ih => rw [mapElems, ih, List.map_cons]

/-- Mapping the members, as a map. -/
lemma mapMembers_eq : mapMembers key num ms = ms.map fun m => (key m.1, m.2.map key num) := by
  induction ms with
  | nil => rfl
  | cons m ms ih => rw [mapMembers, ih, List.map_cons]

end

section
variable {key : String → String} {num : Number → Number} {p : Json} {n : Number}

mutual

/-- The parts of a value with its keys ordered. -/
lemma mem_parts_sortKeys : ∀ {j : Json},
    p ∈ j.sortKeys.parts ↔ ∃ q ∈ j.parts, q.sortKeys = p
  | .null | .bool _ | .constant _ | .num _ | .str _ => by
    simp [Json.sortKeys, Json.parts, eq_comm]
  | .arr l => by
    have elems := mem_parts_sortElems (l := l)
    simp only [Json.sortKeys, mem_parts_arr]
    constructor
    · rintro (rfl | h)
      · exact ⟨.arr l, .inl rfl, rfl⟩
      · obtain ⟨j, hj, q, hq, e⟩ := elems.mp h
        exact ⟨q, .inr ⟨j, hj, hq⟩, e⟩
    · rintro ⟨q, rfl | ⟨j, hj, hq⟩, e⟩
      · exact .inl e.symm
      · exact .inr (elems.mpr ⟨j, hj, q, hq, e⟩)
  | .obj ms => by
    have members := @mem_parts_sortMembers ms
    simp only [Json.sortKeys, mem_parts_obj, mem_sortedBy]
    constructor
    · rintro (rfl | h)
      · exact ⟨.obj ms, .inl rfl, rfl⟩
      · obtain ⟨m, hm, q, hq, e⟩ := members.mp h
        exact ⟨q, .inr ⟨m, hm, hq⟩, e⟩
    · rintro ⟨q, rfl | ⟨m, hm, hq⟩, e⟩
      · exact .inl e.symm
      · exact .inr (members.mpr ⟨m, hm, q, hq, e⟩)

/-- The parts of sorted elements are the elements' parts, sorted. -/
lemma mem_parts_sortElems : ∀ {l : List Json},
    (∃ j ∈ sortElems l, p ∈ j.parts) ↔ ∃ j ∈ l, ∃ q ∈ j.parts, q.sortKeys = p
  | [] => by simp [sortElems]
  | j :: l => by
    simp only [sortElems, List.exists_mem_cons_iff]
    rw [mem_parts_sortKeys (j := j), mem_parts_sortElems (l := l)]

/-- The parts of sorted members are the members' parts, sorted. -/
lemma mem_parts_sortMembers : ∀ {ms : List (String × Json)},
    (∃ m ∈ sortMembers ms, p ∈ m.2.parts) ↔ ∃ m ∈ ms, ∃ q ∈ m.2.parts, q.sortKeys = p
  | [] => by simp [sortMembers]
  | (_, j) :: ms => by
    simp only [sortMembers, List.exists_mem_cons_iff]
    rw [mem_parts_sortKeys (j := j), @mem_parts_sortMembers ms]

end

mutual

/-- The parts of a value with its keys renamed and its numbers replaced. -/
lemma mem_parts_map : ∀ {j : Json},
    p ∈ (j.map key num).parts ↔ ∃ q ∈ j.parts, q.map key num = p
  | .null | .bool _ | .constant _ | .num _ | .str _ => by
    simp [Json.map, Json.parts, eq_comm]
  | .arr l => by
    have elems := mem_parts_mapElems (l := l)
    simp only [Json.map, mem_parts_arr]
    constructor
    · rintro (rfl | h)
      · exact ⟨.arr l, .inl rfl, rfl⟩
      · obtain ⟨j, hj, q, hq, e⟩ := elems.mp h
        exact ⟨q, .inr ⟨j, hj, hq⟩, e⟩
    · rintro ⟨q, rfl | ⟨j, hj, hq⟩, e⟩
      · exact .inl e.symm
      · exact .inr (elems.mpr ⟨j, hj, q, hq, e⟩)
  | .obj ms => by
    have members := @mem_parts_mapMembers ms
    simp only [Json.map, mem_parts_obj]
    constructor
    · rintro (rfl | h)
      · exact ⟨.obj ms, .inl rfl, rfl⟩
      · obtain ⟨m, hm, q, hq, e⟩ := members.mp h
        exact ⟨q, .inr ⟨m, hm, hq⟩, e⟩
    · rintro ⟨q, rfl | ⟨m, hm, hq⟩, e⟩
      · exact .inl e.symm
      · exact .inr (members.mpr ⟨m, hm, q, hq, e⟩)

/-- The parts of mapped elements are the elements' parts, mapped. -/
lemma mem_parts_mapElems : ∀ {l : List Json},
    (∃ j ∈ mapElems key num l, p ∈ j.parts) ↔ ∃ j ∈ l, ∃ q ∈ j.parts, q.map key num = p
  | [] => by simp [mapElems]
  | j :: l => by
    simp only [mapElems, List.exists_mem_cons_iff]
    rw [mem_parts_map (j := j), mem_parts_mapElems (l := l)]

/-- The parts of mapped members are the members' parts, mapped. -/
lemma mem_parts_mapMembers : ∀ {ms : List (String × Json)},
    (∃ m ∈ mapMembers key num ms, p ∈ m.2.parts) ↔ ∃ m ∈ ms, ∃ q ∈ m.2.parts, q.map key num = p
  | [] => by simp [mapMembers]
  | (_, j) :: ms => by
    simp only [mapMembers, List.exists_mem_cons_iff]
    rw [mem_parts_map (j := j), @mem_parts_mapMembers ms]

end

mutual

/-- Mapping nothing changes nothing. -/
lemma Json.map_id : ∀ j : Json, j.map id (fun n => n) = j
  | .null | .bool _ | .constant _ | .num _ | .str _ => by simp [Json.map]
  | .arr l => by rw [Json.map, mapElems_id l]
  | .obj l => by rw [Json.map, mapMembers_id l]

lemma mapElems_id : ∀ l, mapElems id (fun n => n) l = l
  | [] => rfl
  | j :: l => by rw [mapElems, j.map_id, mapElems_id l]

lemma mapMembers_id : ∀ l, mapMembers id (fun n => n) l = l
  | [] => rfl
  | (_, j) :: l => by rw [mapMembers, j.map_id, mapMembers_id l, id]

end

/-- Ordering the keys keeps the numbers. -/
lemma num_mem_sortKeys {j : Json} : .num n ∈ j.sortKeys.parts ↔ .num n ∈ j.parts := by
  have only (q : Json) : q.sortKeys = .num n ↔ q = .num n := by
    cases q <;> simp [Json.sortKeys]
  simp only [mem_parts_sortKeys, only, exists_eq_right]

/-- The numbers of a value whose numbers were replaced. -/
lemma num_mem_map {j : Json} :
    .num n ∈ (j.map key num).parts ↔ ∃ m, .num m ∈ j.parts ∧ num m = n := by
  have only (q : Json) : q.map key num = .num n ↔ ∃ m, q = .num m ∧ num m = n := by
    cases q <;> simp [Json.map]
  simp only [mem_parts_map, only]
  grind

end

mutual

/-- Every string value replaced; the keys stay. -/
def Json.mapStrings (f : String → String) : Json → Json
  | .str s => .str (f s)
  | .arr l => .arr (mapStringsElems f l)
  | .obj l => .obj (mapStringsMembers f l)
  | j => j

/-- The items of an array. -/
def mapStringsElems (f : String → String) : List Json → List Json
  | [] => []
  | j :: l => j.mapStrings f :: mapStringsElems f l

/-- The members of an object. -/
def mapStringsMembers (f : String → String) : List (String × Json) → List (String × Json)
  | [] => []
  | (k, j) :: l => (k, j.mapStrings f) :: mapStringsMembers f l

end

section
variable {f : String → String} {key : String → String} {num : Number → Number} {n : Number}
  {p : Json}

/-- Mapping the texts of the members, as a map. -/
lemma mapStringsMembers_eq {ms : List (String × Json)} :
    mapStringsMembers f ms = ms.map fun m => (m.1, m.2.mapStrings f) := by
  induction ms with
  | nil => rfl
  | cons m ms ih => rw [mapStringsMembers, ih, List.map_cons]

mutual

/-- Replacing strings commutes with renaming keys and replacing numbers. -/
lemma Json.mapStrings_map : ∀ j : Json, (j.map key num).mapStrings f = (j.mapStrings f).map key num
  | .null | .bool _ | .constant _ | .num _ | .str _ => rfl
  | .arr l => by rw [Json.map, Json.mapStrings, Json.mapStrings, Json.map, mapStringsElems_map l]
  | .obj l => by rw [Json.map, Json.mapStrings, Json.mapStrings, Json.map, mapStringsMembers_map l]

/-- In the elements, texts and numbers are mapped independently. -/
lemma mapStringsElems_map : ∀ l,
    mapStringsElems f (mapElems key num l) = mapElems key num (mapStringsElems f l)
  | [] => rfl
  | j :: l => by
    rw [mapElems, mapStringsElems, mapStringsElems, mapElems, j.mapStrings_map,
      mapStringsElems_map l]

/-- In the members, texts and numbers are mapped independently. -/
lemma mapStringsMembers_map : ∀ l,
    mapStringsMembers f (mapMembers key num l) = mapMembers key num (mapStringsMembers f l)
  | [] => rfl
  | (_, j) :: l => by
    rw [mapMembers, mapStringsMembers, mapStringsMembers, mapMembers, j.mapStrings_map,
      mapStringsMembers_map l]

end

mutual

/-- Replacing strings commutes with ordering the keys. -/
lemma Json.mapStrings_sortKeys : ∀ j : Json, j.sortKeys.mapStrings f = (j.mapStrings f).sortKeys
  | .null | .bool _ | .constant _ | .num _ | .str _ => rfl
  | .arr l => by
    rw [Json.sortKeys, Json.mapStrings, Json.mapStrings, Json.sortKeys, mapStringsElems_sort l]
  | .obj l => by
    let replaced (m : String × Json) := (m.1, m.2.mapStrings f)
    rw [Json.sortKeys, Json.mapStrings, Json.mapStrings, Json.sortKeys, ← mapStringsMembers_sort l,
      mapStringsMembers_eq, mapStringsMembers_eq]
    exact congrArg Json.obj
      (@sortedBy_map _ _ _ Prod.fst _ _ Prod.fst replaced fun _ => rfl).symm

/-- In the elements, texts are mapped independently of the order. -/
lemma mapStringsElems_sort : ∀ l,
    mapStringsElems f (sortElems l) = sortElems (mapStringsElems f l)
  | [] => rfl
  | j :: l => by
    rw [sortElems, mapStringsElems, mapStringsElems, sortElems, j.mapStrings_sortKeys,
      mapStringsElems_sort l]

/-- In the members, texts are mapped independently of the order. -/
lemma mapStringsMembers_sort : ∀ l,
    mapStringsMembers f (sortMembers l) = sortMembers (mapStringsMembers f l)
  | [] => rfl
  | (_, j) :: l => by
    rw [sortMembers, mapStringsMembers, mapStringsMembers, sortMembers, j.mapStrings_sortKeys,
      mapStringsMembers_sort l]

end

mutual

/-- Replacing strings twice is replacing them once, when replacing one is. -/
lemma Json.mapStrings_idem (hf : ∀ s, f (f s) = f s) :
    ∀ j : Json, (j.mapStrings f).mapStrings f = j.mapStrings f
  | .null | .bool _ | .constant _ | .num _ => rfl
  | .str s => by rw [Json.mapStrings, Json.mapStrings, hf]
  | .arr l => by rw [Json.mapStrings, Json.mapStrings, mapStringsElems_idem hf l]
  | .obj l => by rw [Json.mapStrings, Json.mapStrings, mapStringsMembers_idem hf l]

lemma mapStringsElems_idem (hf : ∀ s, f (f s) = f s) :
    ∀ l, mapStringsElems f (mapStringsElems f l) = mapStringsElems f l
  | [] => rfl
  | j :: l => by
    rw [mapStringsElems, mapStringsElems, j.mapStrings_idem hf, mapStringsElems_idem hf l]

lemma mapStringsMembers_idem (hf : ∀ s, f (f s) = f s) :
    ∀ l, mapStringsMembers f (mapStringsMembers f l) = mapStringsMembers f l
  | [] => rfl
  | (_, j) :: l => by
    rw [mapStringsMembers, mapStringsMembers, j.mapStrings_idem hf, mapStringsMembers_idem hf l]

end

mutual

/-- The parts of a value with its strings replaced. -/
lemma mem_parts_mapStrings : ∀ {j : Json},
    p ∈ (j.mapStrings f).parts ↔ ∃ q ∈ j.parts, q.mapStrings f = p
  | .null | .bool _ | .constant _ | .num _ | .str _ => by
    simp [Json.mapStrings, Json.parts, eq_comm]
  | .arr l => by
    have elems := mem_parts_mapStringsElems (l := l)
    simp only [Json.mapStrings, mem_parts_arr]
    constructor
    · rintro (rfl | h)
      · exact ⟨.arr l, .inl rfl, rfl⟩
      · obtain ⟨j, hj, q, hq, e⟩ := elems.mp h
        exact ⟨q, .inr ⟨j, hj, hq⟩, e⟩
    · rintro ⟨q, rfl | ⟨j, hj, hq⟩, e⟩
      · exact .inl e.symm
      · exact .inr (elems.mpr ⟨j, hj, q, hq, e⟩)
  | .obj ms => by
    have members := @mem_parts_mapStringsMembers ms
    simp only [Json.mapStrings, mem_parts_obj]
    constructor
    · rintro (rfl | h)
      · exact ⟨.obj ms, .inl rfl, rfl⟩
      · obtain ⟨m, hm, q, hq, e⟩ := members.mp h
        exact ⟨q, .inr ⟨m, hm, hq⟩, e⟩
    · rintro ⟨q, rfl | ⟨m, hm, hq⟩, e⟩
      · exact .inl e.symm
      · exact .inr (members.mpr ⟨m, hm, q, hq, e⟩)

/-- The parts of elements with mapped texts. -/
lemma mem_parts_mapStringsElems : ∀ {l : List Json},
    (∃ j ∈ mapStringsElems f l, p ∈ j.parts) ↔ ∃ j ∈ l, ∃ q ∈ j.parts, q.mapStrings f = p
  | [] => by simp [mapStringsElems]
  | j :: l => by
    simp only [mapStringsElems, List.exists_mem_cons_iff]
    rw [mem_parts_mapStrings (j := j), mem_parts_mapStringsElems (l := l)]

/-- The parts of members with mapped texts. -/
lemma mem_parts_mapStringsMembers : ∀ {l : List (String × Json)},
    (∃ m ∈ mapStringsMembers f l, p ∈ m.2.parts) ↔ ∃ m ∈ l, ∃ q ∈ m.2.parts, q.mapStrings f = p
  | [] => by simp [mapStringsMembers]
  | (_, j) :: l => by
    simp only [mapStringsMembers, List.exists_mem_cons_iff]
    rw [mem_parts_mapStrings (j := j), mem_parts_mapStringsMembers (l := l)]

end

/-- Replacing strings keeps the numbers. -/
lemma num_mem_mapStrings {j : Json} : .num n ∈ (j.mapStrings f).parts ↔ .num n ∈ j.parts := by
  rw [mem_parts_mapStrings]
  constructor
  · rintro ⟨q, hq, e⟩
    cases q with
    | num m =>
      cases e
      exact hq
    | null | bool | constant | str | arr | obj => cases e
  · exact fun h => ⟨_, h, rfl⟩

end

/-! ### Texts -/

mutual

/-- The compact text writes a token as it was read. -/
lemma Json.print_eq : ∀ j : Json, j.print = j.printWith Number.print
  | .null | .bool true | .bool false | .constant _ | .num _ | .str _ | .arr [] | .obj [] => by
    simp [Json.print, Json.printWith]
  | .arr (j :: l) => by
    rw [Json.print, Json.printWith, j.print_eq, printElems_eq l]
  | .obj ((k, j) :: l) => by
    rw [Json.print, Json.printWith, j.print_eq, printMembers_eq l]

/-- The elements' text, with the numbers' own texts. -/
lemma printElems_eq : ∀ l, printElems l = printElemsWith Number.print l
  | [] => rfl
  | j :: l => by rw [printElems, printElemsWith, j.print_eq, printElems_eq l]

/-- The members' text, with the numbers' own texts. -/
lemma printMembers_eq : ∀ l, printMembers l = printMembersWith Number.print l
  | [] => rfl
  | (_, j) :: l => by rw [printMembers, printMembersWith, j.print_eq, printMembers_eq l]

end

section
variable {f g : Number → List Char} {num : Number → Number}

mutual

/-- Replaced numbers are written as what they were replaced by. -/
lemma Json.printWith_map : ∀ j : Json, (j.map id num).printWith f = j.printWith fun n => f (num n)
  | .null | .bool true | .bool false | .constant _ | .num _ | .str _ | .arr [] | .obj [] => by
    simp [Json.map, mapElems, mapMembers, Json.printWith]
  | .arr (j :: l) => by
    rw [Json.map, mapElems, Json.printWith, Json.printWith, j.printWith_map, printElemsWith_map l]
  | .obj ((k, j) :: l) => by
    rw [Json.map, mapMembers, Json.printWith, Json.printWith, j.printWith_map,
      printMembersWith_map l, id]

/-- Mapped numbers of the elements are printed by the composed printer. -/
lemma printElemsWith_map :
    ∀ l, printElemsWith f (mapElems id num l) = printElemsWith (fun n => f (num n)) l
  | [] => rfl
  | j :: l => by
    rw [mapElems, printElemsWith, printElemsWith, j.printWith_map, printElemsWith_map l]

/-- Mapped numbers of the members are printed by the composed printer. -/
lemma printMembersWith_map :
    ∀ l, printMembersWith f (mapMembers id num l) = printMembersWith (fun n => f (num n)) l
  | [] => rfl
  | (_, j) :: l => by
    rw [mapMembers, printMembersWith, printMembersWith, j.printWith_map, printMembersWith_map l, id]

end

mutual

/-- Only the numbers of the value matter. -/
lemma Json.printWith_congr : ∀ j : Json, (∀ n, .num n ∈ j.parts → f n = g n) →
    j.printWith f = j.printWith g
  | .null, _ | .bool true, _ | .bool false, _ | .constant _, _ | .str _, _ | .arr [], _
  | .obj [], _ => by simp [Json.printWith]
  | .num n, h => h n (List.mem_singleton_self _)
  | .arr (j :: l), h => by
    simp only [Json.parts, partsElems, List.mem_cons, List.mem_append, reduceCtorEq, false_or] at h
    rw [Json.printWith, Json.printWith, j.printWith_congr fun n hn => h n (.inl hn),
      printElemsWith_congr l fun n hn => h n (.inr hn)]
  | .obj ((k, j) :: l), h => by
    simp only [Json.parts, partsMembers, List.mem_cons, List.mem_append, reduceCtorEq, false_or] at h
    rw [Json.printWith, Json.printWith, j.printWith_congr fun n hn => h n (.inl hn),
      printMembersWith_congr l fun n hn => h n (.inr hn)]

/-- Elements print alike where their numbers do. -/
lemma printElemsWith_congr : ∀ l, (∀ n, .num n ∈ partsElems l → f n = g n) →
    printElemsWith f l = printElemsWith g l
  | [], _ => rfl
  | j :: l, h => by
    simp only [partsElems, List.mem_append] at h
    rw [printElemsWith, printElemsWith, j.printWith_congr fun n hn => h n (.inl hn),
      printElemsWith_congr l fun n hn => h n (.inr hn)]

/-- Members print alike where their numbers do. -/
lemma printMembersWith_congr : ∀ l, (∀ n, .num n ∈ partsMembers l → f n = g n) →
    printMembersWith f l = printMembersWith g l
  | [], _ => rfl
  | (_, j) :: l, h => by
    simp only [partsMembers, List.mem_append] at h
    rw [printMembersWith, printMembersWith, j.printWith_congr fun n hn => h n (.inl hn),
      printMembersWith_congr l fun n hn => h n (.inr hn)]

end

/-- A character of a number token. -/
def isNumberChar (c : Char) : Bool := c.isDigit || c ∈ ['-', '+', '.', 'e', 'E']

/-- A text of such characters. -/
def NumberText (cs : List Char) : Prop := ∀ c ∈ cs, isNumberChar c = true

/-- The text does not go on with a number. -/
def Stops : List Char → Prop
  | [] => True
  | c :: _ => isNumberChar c = false

/-- A number ends where the text stops it. -/
lemma numberText_cancel {a b r r' : List Char} (ha : NumberText a) (hb : NumberText b)
    (hr : Stops r) (hr' : Stops r') (e : a ++ r = b ++ r') : a = b ∧ r = r' := by
  induction a generalizing b with
  | nil =>
    cases b with
    | nil => exact ⟨rfl, e⟩
    | cons c b =>
      rw [List.nil_append, List.cons_append] at e
      subst e
      have stop : isNumberChar c = false := hr
      rw [hb c List.mem_cons_self] at stop
      cases stop
  | cons c a ih =>
    cases b with
    | nil =>
      rw [List.nil_append, List.cons_append] at e
      subst e
      have stop : isNumberChar c = false := hr'
      rw [ha c List.mem_cons_self] at stop
      cases stop
    | cons d b =>
      rw [List.cons_append, List.cons_append, List.cons.injEq] at e
      obtain ⟨rfl, e⟩ := e
      obtain ⟨rfl, rest⟩ := ih (fun x hx => ha x (List.mem_cons_of_mem _ hx))
        (fun x hx => hb x (List.mem_cons_of_mem _ hx)) e
      exact ⟨rfl, rest⟩

/-- What follows an element stops a number. -/
lemma stops_elems {l : List Json} {r} : Stops (printElemsWith f l ++ r) := by
  cases l with
  | nil => exact (by decide : isNumberChar ']' = false)
  | cons j l => exact (by decide : isNumberChar ',' = false)

/-- What follows a member's value stops a number. -/
lemma stops_members {l : List (String × Json)} {r} : Stops (printMembersWith f l ++ r) := by
  cases l with
  | nil => exact (by decide : isNumberChar '}' = false)
  | cons m l => exact (by decide : isNumberChar ',' = false)

mutual

/-- Two texts of one value agree only where the texts of its numbers do. -/
lemma printWith_cancel (hf : ∀ n, NumberText (f n)) (hg : ∀ n, NumberText (g n)) :
    ∀ (j : Json) {r r' : List Char}, Stops r → Stops r' →
    j.printWith f ++ r = j.printWith g ++ r' → (∀ n, .num n ∈ j.parts → f n = g n) ∧ r = r'
  | .null, _, _, _, _, e | .bool true, _, _, _, _, e | .bool false, _, _, _, _, e
  | .constant _, _, _, _, _, e | .str _, _, _, _, _, e => by
    simp only [Json.printWith, List.append_cancel_left_eq] at e
    exact ⟨by simp [Json.parts], e⟩
  | .num n, r, r', hr, hr', e => by
    obtain ⟨same, rest⟩ := numberText_cancel (hf n) (hg n) hr hr' e
    refine ⟨fun m hm => ?_, rest⟩
    cases List.mem_singleton.mp hm
    exact same
  | .arr [], _, _, _, _, e => by
    simp only [Json.printWith, List.append_cancel_left_eq] at e
    exact ⟨by simp [Json.parts, partsElems], e⟩
  | .arr (j :: l), r, r', hr, hr', e => by
    simp only [Json.printWith, List.cons_append, List.append_assoc, List.cons.injEq, true_and] at e
    obtain ⟨head, e⟩ := printWith_cancel hf hg j stops_elems stops_elems e
    obtain ⟨tail, rest⟩ := printElems_cancel hf hg l e
    refine ⟨fun n hn => ?_, rest⟩
    simp only [Json.parts, partsElems, List.mem_cons, List.mem_append, reduceCtorEq, false_or] at hn
    exact hn.elim (head n) (tail n)
  | .obj [], _, _, _, _, e => by
    simp only [Json.printWith, List.append_cancel_left_eq] at e
    exact ⟨by simp [Json.parts, partsMembers], e⟩
  | .obj ((k, j) :: l), r, r', hr, hr', e => by
    simp only [Json.printWith, List.cons_append, List.append_assoc, List.cons.injEq, true_and,
      List.append_cancel_left_eq] at e
    obtain ⟨head, e⟩ := printWith_cancel hf hg j stops_members stops_members e
    obtain ⟨tail, rest⟩ := printMembers_cancel hf hg l e
    refine ⟨fun n hn => ?_, rest⟩
    simp only [Json.parts, partsMembers, List.mem_cons, List.mem_append, reduceCtorEq, false_or] at hn
    exact hn.elim (head n) (tail n)

/-- The same for the rest of an array. -/
lemma printElems_cancel (hf : ∀ n, NumberText (f n)) (hg : ∀ n, NumberText (g n)) :
    ∀ (l : List Json) {r r' : List Char},
    printElemsWith f l ++ r = printElemsWith g l ++ r' →
      (∀ n, .num n ∈ partsElems l → f n = g n) ∧ r = r'
  | [], _, _, e => by
    simp only [printElemsWith, List.append_cancel_left_eq] at e
    exact ⟨by simp [partsElems], e⟩
  | j :: l, r, r', e => by
    simp only [printElemsWith, List.cons_append, List.append_assoc, List.cons.injEq, true_and] at e
    obtain ⟨head, e⟩ := printWith_cancel hf hg j stops_elems stops_elems e
    obtain ⟨tail, rest⟩ := printElems_cancel hf hg l e
    refine ⟨fun n hn => ?_, rest⟩
    exact (List.mem_append.mp hn).elim (head n) (tail n)

/-- The same for the rest of an object. -/
lemma printMembers_cancel (hf : ∀ n, NumberText (f n)) (hg : ∀ n, NumberText (g n)) :
    ∀ (l : List (String × Json)) {r r' : List Char},
    printMembersWith f l ++ r = printMembersWith g l ++ r' →
      (∀ n, .num n ∈ partsMembers l → f n = g n) ∧ r = r'
  | [], _, _, e => by
    simp only [printMembersWith, List.append_cancel_left_eq] at e
    exact ⟨by simp [partsMembers], e⟩
  | (_, j) :: l, r, r', e => by
    simp only [printMembersWith, List.cons_append, List.append_assoc, List.cons.injEq, true_and,
      List.append_cancel_left_eq] at e
    obtain ⟨head, e⟩ := printWith_cancel hf hg j stops_members stops_members e
    obtain ⟨tail, rest⟩ := printMembers_cancel hf hg l e
    refine ⟨fun n hn => ?_, rest⟩
    exact (List.mem_append.mp hn).elim (head n) (tail n)

end

/-- Two ways of writing numbers give one text exactly when they agree on the numbers of the value. -/
theorem Json.printWith_inj {j : Json} (hf : ∀ n, NumberText (f n)) (hg : ∀ n, NumberText (g n)) :
    j.printWith f = j.printWith g ↔ ∀ n, .num n ∈ j.parts → f n = g n := by
  constructor
  · intro e
    have cancelled := @printWith_cancel f g hf hg j [] [] trivial trivial (by rw [e])
    exact cancelled.1
  · exact Json.printWith_congr j

end

end GAM.Lib
