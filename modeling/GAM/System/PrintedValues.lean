import GAM.Agent.Draft
import GAM.Consequences.Digests
import GAM.Consequences.ReadBack
import GAM.Memory.Rendering

/-!
# What the writers of plain JSON keep

The agent, the memory and the consequences each have their own writer of JSON with decimals. What one of
them puts out is read as the tree that was written, in normal form and with each number as it was
printed. `sameValue` is Python's `==` on what the readers return, so a document is kept exactly when each
of its numbers is: when it fits 28 digits and is not below the least exponent.
-/

namespace GAM
open Lib

mutual

/-- `==` on values with decimals. -/
def sameValue : Value → Value → Bool
  | .none, .none => true
  | .bool a, .bool b => a == b
  | .str a, .str b => a == b
  | .decimal a, .decimal b => a.eqv b
  | .list a, .list b => sameValues a b
  | .tuple a, .tuple b => sameValues a b
  | .dict a, .dict b => a.length == b.length && sameMembers a b
  | _, _ => false

/-- Lists are the same item by item. -/
def sameValues : List Value → List Value → Bool
  | [], [] => true
  | a :: l, b :: l' => sameValue a b && sameValues l l'
  | _, _ => false

/-- Every member of the first mapping is in the second. -/
def sameMembers : List (String × Value) → List (String × Value) → Bool
  | [], _ => true
  | (k, v) :: l, m => (match m.lookup k with
      | some w => sameValue v w
      | none => false) && sameMembers l m

end

mutual

/-- The decimals in a value. -/
def decimalsOf : Value → List Decimal
  | .decimal d => [d]
  | .list l | .tuple l => decimalsOfElems l
  | .dict l => decimalsOfMembers l
  | _ => []

/-- The decimals in the items of a list. -/
def decimalsOfElems : List Value → List Decimal
  | [] => []
  | v :: l => decimalsOf v ++ decimalsOfElems l

/-- The decimals in the values of a mapping. -/
def decimalsOfMembers : List (String × Value) → List Decimal
  | [] => []
  | (_, v) :: l => decimalsOf v ++ decimalsOfMembers l

end

mutual

/-- The value of a tree whose numbers are decimals; `seq` is the kind of its sequences. -/
def numberValue (seq : List Value → Value) : Json → Value
  | .null | .constant _ => .none
  | .bool b => .bool b
  | .num n => .decimal (.ofNumber n)
  | .str s => .str s
  | .arr l => seq (numberElems seq l)
  | .obj l => .dict (numberMembers seq l)

/-- The items of an array. -/
def numberElems (seq : List Value → Value) : List Json → List Value
  | [] => []
  | j :: l => numberValue seq j :: numberElems seq l

/-- The members of an object. -/
def numberMembers (seq : List Value → Value) : List (String × Json) → List (String × Value)
  | [] => []
  | (k, j) :: l => (k, numberValue seq j) :: numberMembers seq l

end

section
variable {seq : List Value → Value}

/-- The elements' numbers, as a map. -/
lemma numberElems_eq {l : List Json} : numberElems seq l = l.map (numberValue seq) := by
  induction l with
  | nil => rfl
  | cons j l ih => rw [numberElems, ih, List.map_cons]

/-- The members' numbers, as a map. -/
lemma numberMembers_eq {l : List (String × Json)} :
    numberMembers seq l = l.map fun m => (m.1, numberValue seq m.2) := by
  induction l with
  | nil => rfl
  | cons m l ih => rw [numberMembers, ih, List.map_cons]

/-- Members are the same where each is found with the same value. -/
lemma sameMembers_iff {a b : List (String × Value)} : sameMembers a b = true ↔
    ∀ m ∈ a, ∃ w, b.lookup m.1 = some w ∧ sameValue m.2 w = true := by
  induction a with
  | nil => simp [sameMembers]
  | cons m a ih =>
    obtain ⟨k, v⟩ := m
    rw [sameMembers, Bool.and_eq_true, ih, List.forall_mem_cons]
    refine and_congr_left' ?_
    cases b.lookup k with
    | none => simp
    | some w => simp

/-- Lists mapped twice are the same where each pair is. -/
lemma sameValues_map {α : Type} {f g : α → Value} {l : List α} :
    sameValues (l.map f) (l.map g) = true ↔ ∀ a ∈ l, sameValue (f a) (g a) = true := by
  induction l with
  | nil => simp [sameValues]
  | cons a l ih => rw [List.map_cons, List.map_cons, sameValues, Bool.and_eq_true, ih, List.forall_mem_cons]

/-- The value of a number is kept. -/
def KeptBy (tok : Number → Number) (n : Number) : Prop :=
  (Decimal.ofNumber n).value = (Decimal.ofNumber (tok n)).value

/-- A number is the same where its token keeps the value. -/
lemma sameValue_number {tok : Number → Number} {n : Number} :
    sameValue (.decimal (.ofNumber n)) (.decimal (.ofNumber (tok n))) = true ↔ KeptBy tok n := by
  rw [sameValue, KeptBy]
  exact decide_eq_true_iff

variable {tok : Number → Number}

/-- A tree and its sorted form with other numbers are equal exactly when the numbers are. -/
lemma sameValue_sorted (hs : ∀ a b, sameValue (seq a) (seq b) = sameValues a b) {j : Json}
    (distinct : ∀ p ∈ j.parts, Distinct p) :
    sameValue (numberValue seq j) (numberValue seq (j.sortKeys.map id tok)) = true ↔
      ∀ n, .num n ∈ j.parts → KeptBy tok n := by
  induction j using Json.induction with
  | null | bool | str => simp [numberValue, Json.sortKeys, Json.map, sameValue, Json.parts]
  | constant c => exact (distinct _ (Json.mem_parts _)).elim
  | num n => simp [Json.sortKeys, Json.map, numberValue, sameValue_number, Json.parts]
  | arr l ih =>
    obtain ⟨-, inner⟩ := forall_parts_arr.mp distinct
    have elems : sameValues (l.map (numberValue seq))
        (l.map fun j => numberValue seq (j.sortKeys.map id tok)) = true ↔
        ∀ j ∈ l, ∀ n, .num n ∈ j.parts → KeptBy tok n :=
      sameValues_map.trans (forall₂_congr fun j hj => ih j hj (inner j hj))
    rw [Json.sortKeys, Json.map, numberValue, numberValue, hs, numberElems_eq, numberElems_eq, mapElems_eq,
      sortElems_eq, List.map_map, List.map_map]
    refine elems.trans ?_
    simp only [mem_parts_arr, reduceCtorEq, false_or]
    constructor
    · rintro h n ⟨j, hj, hn⟩
      exact h j hj n hn
    · exact fun h j hj n hn => h n ⟨j, hj, hn⟩
  | obj ms ih =>
    obtain ⟨nd, inner⟩ := forall_parts_obj.mp distinct
    let member (m : String × Json) := (m.1, numberValue seq (m.2.sortKeys.map id tok))
    have read : ((Json.obj ms).sortKeys.map id tok) =
        .obj ((sortedBy Prod.fst (sortMembers ms)).map fun m => (m.1, m.2.map id tok)) := by
      rw [Json.sortKeys, Json.map, mapMembers_eq]
      rfl
    -- the members of the sorted form are those of the tree in another order
    have perm : (numberMembers seq ((sortedBy Prod.fst (sortMembers ms)).map
        fun m => (m.1, m.2.map id tok))).Perm (ms.map member) := by
      rw [numberMembers_eq, List.map_map]
      refine (sortedBy_perm.map _).trans ?_
      rw [sortMembers_eq, List.map_map]
      exact .refl _
    have keys : ((ms.map member).map Prod.fst).Nodup := by
      rw [List.map_map]
      exact nd
    have found (m : String × Json) (hm : m ∈ ms) :
        (numberMembers seq ((sortedBy Prod.fst (sortMembers ms)).map
          fun m => (m.1, m.2.map id tok))).lookup m.1 =
            some (numberValue seq (m.2.sortKeys.map id tok)) :=
      (mem_iff_lookup ((perm.map Prod.fst).nodup_iff.mpr keys)).mp
        (perm.mem_iff.mpr (List.mem_map_of_mem hm))
    have members : sameMembers (numberMembers seq ms) (numberMembers seq
        ((sortedBy Prod.fst (sortMembers ms)).map fun m => (m.1, m.2.map id tok))) = true ↔
        ∀ m ∈ ms, ∀ n, .num n ∈ m.2.parts → KeptBy tok n := by
      rw [sameMembers_iff, numberMembers_eq, List.forall_mem_map]
      refine forall₂_congr fun m hm => ?_
      simp only [found m hm, Option.some.injEq, exists_eq_left', ih m hm (inner m hm)]
    rw [read, numberValue, numberValue, sameValue, Bool.and_eq_true, members, perm.length_eq,
      numberMembers_eq, List.length_map, List.length_map, beq_self_eq_true]
    simp only [true_and, mem_parts_obj, reduceCtorEq, false_or]
    constructor
    · rintro h n ⟨m, hm, hn⟩
      exact h m hm n hn
    · exact fun h m hm n hn => h n ⟨m, hm, hn⟩

/-- The decimals of the elements. -/
lemma mem_decimalsOfElems {l : List Value} {d : Decimal} :
    d ∈ decimalsOfElems l ↔ ∃ v ∈ l, d ∈ decimalsOf v := by
  induction l with
  | nil => simp [decimalsOfElems]
  | cons v l ih => simp [decimalsOfElems, ih]

/-- The decimals of the members. -/
lemma mem_decimalsOfMembers {l : List (String × Value)} {d : Decimal} :
    d ∈ decimalsOfMembers l ↔ ∃ m ∈ l, d ∈ decimalsOf m.2 := by
  induction l with
  | nil => simp [decimalsOfMembers]
  | cons m l ih => simp [decimalsOfMembers, ih]

/-- The decimals of a value are the numbers of its tree. -/
lemma mem_decimalsOf (hd : ∀ l, decimalsOf (seq l) = decimalsOfElems l) {j : Json} {d : Decimal} :
    d ∈ decimalsOf (numberValue seq j) ↔ ∃ n, .num n ∈ j.parts ∧ Decimal.ofNumber n = d := by
  induction j using Json.induction with
  | null | bool | constant | str => simp [numberValue, decimalsOf, Json.parts]
  | num n => simp [numberValue, decimalsOf, Json.parts, eq_comm]
  | arr l ih =>
    have elems : d ∈ decimalsOfElems (numberElems seq l) ↔
        ∃ j ∈ l, d ∈ decimalsOf (numberValue seq j) := by
      rw [mem_decimalsOfElems, numberElems_eq]
      simp only [List.mem_map, exists_exists_and_eq_and]
    rw [numberValue, hd, elems]
    simp only [mem_parts_arr, reduceCtorEq, false_or]
    constructor
    · rintro ⟨j, hj, h⟩
      obtain ⟨n, hn, e⟩ := (ih j hj).mp h
      exact ⟨n, ⟨j, hj, hn⟩, e⟩
    · rintro ⟨n, ⟨j, hj, hn⟩, e⟩
      exact ⟨j, hj, (ih j hj).mpr ⟨n, hn, e⟩⟩
  | obj ms ih =>
    have members : d ∈ decimalsOfMembers (numberMembers seq ms) ↔
        ∃ m ∈ ms, d ∈ decimalsOf (numberValue seq m.2) := by
      rw [mem_decimalsOfMembers, numberMembers_eq]
      simp only [List.mem_map, exists_exists_and_eq_and]
    rw [numberValue, decimalsOf, members]
    simp only [mem_parts_obj, reduceCtorEq, false_or]
    constructor
    · rintro ⟨m, hm, h⟩
      obtain ⟨n, hn, e⟩ := (ih m hm).mp h
      exact ⟨n, ⟨m, hm, hn⟩, e⟩
    · rintro ⟨n, ⟨m, hm, hn⟩, e⟩
      exact ⟨m, hm, (ih m hm).mpr ⟨n, hn, e⟩⟩

/-- Every number in the value is representable. -/
def Exact (v : Value) : Prop := ∀ d ∈ decimalsOf v, Decimal.Representable d.value

/-- The text of a tree is read as a tree, and the two are equal exactly when the numbers are exact. -/
lemma printed_kept (hs : ∀ a b, sameValue (seq a) (seq b) = sameValues a b)
    (hd : ∀ l, decimalsOf (seq l) = decimalsOfElems l) {j : Json}
    (distinct : ∀ p ∈ j.parts, Distinct p) (prints : ∀ n, .num n ∈ j.parts → Prints n) :
    sameValue (numberValue seq j) (numberValue seq (j.sortKeys.map id decimalToken)) = true ↔
      Exact (numberValue seq j) := by
  have kept (n : Number) (h : Prints n) :
      KeptBy decimalToken n ↔ Decimal.Representable (Decimal.ofNumber n).value :=
    eq_comm.trans (Decimal.canonicalChars_exact rfl h h.token.isToken)
  rw [sameValue_sorted hs distinct]
  simp only [Exact, mem_decimalsOf hd, forall_exists_index, and_imp, forall_apply_eq_imp_iff₂]
  exact forall₂_congr fun n hn => kept n (prints n hn)

end

/-! ### The values that the memory keeps -/

lemma loadDecimals_eq {l : List Json} : loadDecimals l = l.map loadDecimal := by
  induction l with
  | nil => rfl
  | cons j l ih => rw [loadDecimals, ih, List.map_cons]

lemma plainElems_eq {l : List Value} : plainElems l = mapAll plainJsonValue l := by
  induction l with
  | nil => rfl
  | cons v l ih => rw [plainElems, mapAll, ih]

/-- The value of a tree without constants and repeated keys. -/
def IsTree (v : Value) : Prop := ∃ j, (∀ p ∈ j.parts, Distinct p) ∧ v = loadDecimal j

/-- A list of trees is one. -/
lemma isTree_list {l : List Value} (h : ∀ v ∈ l, IsTree v) : IsTree (.list l) := by
  have : Nonempty Json := ⟨.null⟩
  choose! tree distinct value using h
  have elems : (l.map tree).map loadDecimal = l := by
    rw [List.map_map]
    exact (List.map_congr_left fun v hv => (value v hv).symm).trans (List.map_id l)
  refine ⟨.arr (l.map tree), forall_parts_arr.mpr ⟨trivial, List.forall_mem_map.mpr distinct⟩, ?_⟩
  rw [loadDecimal, loadDecimals_eq, elems]

/-- A mapping of trees without repeated keys is one. -/
lemma isTree_dict {ms : List (String × Value)} (nd : (ms.map Prod.fst).Nodup)
    (h : ∀ m ∈ ms, IsTree m.2) : IsTree (.dict ms) := by
  have : Nonempty Json := ⟨.null⟩
  choose! tree distinct value using h
  let members := ms.map fun m : String × Value => (m.1, tree m)
  have keys : (members.map Prod.fst).Nodup := by
    rw [List.map_map]
    exact nd
  have loaded : loadDecimalMembers members = ms := by
    have each (m : String × Value) (hm : m ∈ ms) : (m.1, loadDecimal (tree m)) = m := by
      rw [← value m hm]
    rw [loadDecimalMembers_eq, List.map_map]
    exact (List.map_congr_left each).trans (List.map_id ms)
  refine ⟨.obj members, forall_parts_obj.mpr ⟨keys, List.forall_mem_map.mpr distinct⟩, ?_⟩
  rw [loadDecimal, loaded, lastWins_of_nodup nd]

/-- What is written of the values that the memory reads is the value of a tree: a member that a later one
replaces is not written, whatever it is. -/
lemma decimalHooks_tree {invalid : PyError} :
    (decimalHooks invalid).Holds fun v => ∀ cs, plainJsonValue v = .ok cs → IsTree v where
  null _ _ := ⟨.null, by simp [Json.parts, Distinct], rfl⟩
  bool b _ _ := ⟨.bool b, by simp [Json.parts, Distinct], rfl⟩
  constant c v e cs written := by
    cases e
    cases c <;> cases written
  number n v e _ _ := by
    obtain ⟨-, rfl⟩ := decimalNumber_ok.mp e
    exact ⟨.num n, by simp [Json.parts, Distinct], rfl⟩
  str t v e cs written := by
    cases e
    cases text : t.string? with
    | some s =>
      rw [Text.string?_eq_some.mp text, Value.text_textOf]
      exact ⟨.str s, by simp [Json.parts, Distinct], rfl⟩
    | none =>
      simp only [Value.text, text, plainJsonValue, reduceCtorEq] at written
  arr l h cs written := by
    simp only [decimalHooks, defaultHooks, plainJsonValue, plainElems_eq, bind_eq_ok] at written
    obtain ⟨xs, elems, -⟩ := written
    exact isTree_list fun v hv => (mapAll_mem elems v hv).elim (h v hv)
  obj l v e h cs written := by
    cases e
    cases keys : Text.members? (lastWins l) with
    | none => simp only [Value.ofMembers, keys, plainJsonValue, reduceCtorEq] at written
    | some ms =>
      have kept := Text.members?_eq_some.mp keys
      have nd : (ms.map Prod.fst).Nodup := by
        refine List.Nodup.of_map textOf ?_
        have texts := @lastWins_nodup _ _ l
        rw [kept, textMembers, List.map_map] at texts
        rw [List.map_map]
        exact texts
      simp only [Value.ofMembers, keys, plainJsonValue, bind_eq_ok, plainMembers] at written ⊢
      obtain ⟨xs, members, -⟩ := written
      refine isTree_dict nd fun m hm => ?_
      have member : (textOf m.1, m.2) ∈ l := by
        refine mem_of_lastWins ?_
        rw [kept]
        exact List.mem_map_of_mem hm
      have text : (m.1, plainJsonValue m.2) ∈ sortedBy Prod.fst (plainMemberTexts ms) := by
        rw [mem_sortedBy, plainMemberTexts_eq]
        exact List.mem_map_of_mem hm
      obtain ⟨x, hx⟩ := mapAll_mem members _ text
      simp only [bind_eq_ok] at hx
      obtain ⟨cs, hcs, -⟩ := hx
      exact h _ member cs hcs

/-- A tree without constants and repeated keys is read with decimals. -/
lemma loadDecimal_distinct {j : Json} (distinct : ∀ p ∈ j.parts, Distinct p) :
    loadDecimal j = numberValue .list j := by
  induction j using Json.induction with
  | null | bool | num | str => rfl
  | constant c => exact (distinct _ (Json.mem_parts _)).elim
  | arr l ih =>
    obtain ⟨-, inner⟩ := forall_parts_arr.mp distinct
    rw [loadDecimal, numberValue, loadDecimals_eq, numberElems_eq]
    exact congrArg Value.list (List.map_congr_left fun j hj => ih j hj (inner j hj))
  | obj ms ih =>
    obtain ⟨nd, inner⟩ := forall_parts_obj.mp distinct
    have loaded : loadDecimalMembers ms = numberMembers .list ms := by
      rw [loadDecimalMembers_eq, numberMembers_eq]
      exact List.map_congr_left fun m hm => by rw [ih m hm (inner m hm)]
    have keys : ((numberMembers .list ms).map Prod.fst).Nodup := by
      rw [numberMembers_eq, List.map_map]
      exact nd
    rw [loadDecimal, numberValue, loaded, lastWins_of_nodup keys]

/-- `json.loads` of the memory, with decimals. -/
def readMemory (text : String) : Except PyError Value :=
  (decimalHooks (.integrity "stored JSON is invalid")).scan text

/-- Other tokens leave the names distinct. -/
lemma distinct_map {tok : Number → Number} {j : Json} (h : ∀ p ∈ j.parts, Distinct p) :
    ∀ p ∈ (j.map id tok).parts, Distinct p := by
  intro p hp
  obtain ⟨q, hq, rfl⟩ := mem_parts_map.mp hp
  have part := h q hq
  cases q with
  | constant c => exact part
  | null | bool | num | str | arr => trivial
  | obj l =>
    rw [Json.map, Distinct, mapMembers_eq, List.map_map]
    exact part

/-- A text that the memory writes is read as the value it was written from exactly when the numbers are
exact. -/
lemma plainJson_kept {text written : String} (h : plainJson (.str text) = .ok written) :
    ∃ v v', readMemory text = .ok v ∧ readMemory written = .ok v' ∧
      (sameValue v v' = true ↔ Exact v) := by
  simp only [plainJson, bind_eq_ok, pure_eq_ok, Except.ok.injEq] at h
  obtain ⟨v, read, cs, hcs, rfl⟩ := h
  obtain ⟨j, distinct, rfl⟩ := Hooks.scan_holds decimalHooks_tree read cs hcs
  obtain ⟨prints, rfl⟩ := (plainJsonValue_loadDecimal distinct).mp hcs
  have printed (n : Number) (hn : .num n ∈ j.sortKeys.parts) : Prints n := prints n (num_mem_sortKeys.mp hn)
  have accepted (n : Number) (hn : .num n ∈ (j.sortKeys.map id decimalToken).parts) :
      Decimal.accepts n = true := by
    obtain ⟨m, hm, rfl⟩ := num_mem_map.mp hn
    exact (printed m hm).accepts
  have distinct' := @distinct_map decimalToken _ (distinct_sortKeys distinct)
  refine ⟨loadDecimal j, _, read, (decimalHooks_parse (parse_decimal printed)).mpr ⟨accepted, rfl⟩, ?_⟩
  rw [loadDecimal_distinct distinct, loadDecimal_distinct distinct']
  exact printed_kept (fun _ _ => rfl) (fun _ => rfl) distinct prints

section
variable [Platform]

/-! ### The trees of the agent and of the outcomes -/

/-- The decimal value is the numbers' of the normal names. -/
lemma decimalValue_eq {j : Json} : decimalValue j = numberValue .tuple (j.map nfc id) := by
  induction j using Json.induction with
  | null | bool | constant | num | str => rfl
  | arr l ih =>
    rw [decimalValue, Json.map, numberValue, decimalElems_eq, numberElems_eq, mapElems_eq, List.map_map]
    exact congrArg Value.tuple (List.map_congr_left ih)
  | obj ms ih =>
    rw [decimalValue, Json.map, numberValue, decimalMembers_eq, numberMembers_eq, mapMembers_eq,
      List.map_map]
    exact congrArg Value.dict (List.map_congr_left fun m hm => by rw [ih m hm]; rfl)

/-- The keys of an object are in NFC. -/
def FixedKeys : Json → Prop
  | .obj l => ∀ m ∈ l, nfc m.1 = m.1
  | _ => True

/-- Normal names stay as they are. -/
lemma map_fixed {j : Json} (h : ∀ p ∈ j.parts, FixedKeys p) : j.map nfc id = j := by
  induction j using Json.induction with
  | null | bool | constant | num | str => rfl
  | arr l ih =>
    obtain ⟨-, inner⟩ := forall_parts_arr.mp h
    have elems : l.map (Json.map nfc id) = l.map id := List.map_congr_left fun j hj => ih j hj (inner j hj)
    rw [Json.map, mapElems_eq, elems, List.map_id]
  | obj ms ih =>
    obtain ⟨fixed, inner⟩ := forall_parts_obj.mp h
    have members : ms.map (fun m => (nfc m.1, m.2.map nfc id)) = ms.map id :=
      List.map_congr_left fun m hm => by rw [fixed m hm, ih m hm (inner m hm), id]
    rw [Json.map, mapMembers_eq, members, List.map_id]

/-- The keys of what a writer puts out are in NFC. -/
lemma fixed_written {j : Json} {tok : Number → Number} :
    ∀ p ∈ ((normalJson j).map id tok).parts, FixedKeys p := by
  intro p hp
  obtain ⟨q, hq, rfl⟩ := mem_parts_map.mp hp
  obtain ⟨r, hr, rfl⟩ := mem_parts_sortKeys.mp hq
  obtain ⟨q, -, rfl⟩ := mem_parts_map.mp hr
  cases q with
  | null | bool | constant | num | str | arr => trivial
  | obj l =>
    rw [Json.map, Json.sortKeys, Json.map, FixedKeys, mapMembers_eq, mapMembers_eq, sortMembers_eq]
    rw [List.map_map, List.forall_mem_map]
    intro m hm
    obtain ⟨m, -, rfl⟩ := List.mem_map.mp (mem_sortedBy.mp hm)
    exact Platform.nfc_idem m.1

/-- Keys that differ in NFC are distinct when they are put in NFC. -/
lemma keyed_distinct {j : Json} (h : ∀ p ∈ j.parts, Keyed p) : ∀ p ∈ (j.map nfc id).parts, Distinct p := by
  intro p hp
  obtain ⟨q, hq, rfl⟩ := mem_parts_map.mp hp
  have part := h q hq
  cases q with
  | constant c => exact part
  | null | bool | num | str | arr => trivial
  | obj l =>
    rw [Json.map, Distinct, mapMembers_eq, List.map_map]
    exact part

/-- Other number literals keep the keys apart. -/
lemma keyed_map {tok : Number → Number} {p : Json} (h : Keyed p) : Keyed (p.map id tok) := by
  cases p with
  | constant c => exact h
  | null | bool | num | str | arr => trivial
  | obj l =>
    rw [Json.map, Keyed, mapMembers_eq, List.map_map]
    exact h

/-- What is written of a tree is read as an equal value exactly when the numbers are exact. -/
lemma decimalValue_kept {j : Json} (keyed : ∀ p ∈ j.parts, Keyed p)
    (prints : ∀ n, .num n ∈ j.parts → Prints n) :
    sameValue (decimalValue j) (decimalValue ((normalJson j).map id decimalToken)) = true ↔
      Exact (decimalValue j) := by
  have numbers (n : Number) (h : .num n ∈ (j.map nfc id).parts) : Prints n := by
    obtain ⟨m, hm, rfl⟩ := num_mem_map.mp h
    exact prints m hm
  rw [decimalValue_eq, decimalValue_eq, map_fixed fixed_written]
  exact printed_kept (fun _ _ => rfl) (fun _ => rfl) (keyed_distinct keyed) numbers

/-- `_json_value(json.loads(..))` of the agent. -/
def readAgent (casefold : String → String) (name text : String) : Except AgentError Value := do
  let parsed ← (agentHooks name).scan text
  agentValue casefold parsed

/-- Members whose keys differ in NFC are read. -/
lemma agentPairs_distinct {name : String} {l : List (String × Value)} {result normalized : List String}
    (nd : (l.map fun m => nfc m.1).Nodup) (fresh : ∀ m ∈ l, m.1 ∉ result ∧ nfc m.1 ∉ normalized) :
    agentPairs name nfc result normalized l = .ok l := by
  induction l generalizing result normalized with
  | nil => rfl
  | cons m l ih =>
    obtain ⟨key, item⟩ := m
    obtain ⟨⟨new, free⟩, others⟩ := List.forall_mem_cons.mp fresh
    obtain ⟨apart, nd⟩ := List.nodup_cons.mp nd
    have rest : agentPairs name nfc (key :: result) (nfc key :: normalized) l = .ok l := by
      refine ih nd fun m hm => ?_
      have differs : nfc m.1 ≠ nfc key := fun e => apart (List.mem_map.mpr ⟨m, hm, e⟩)
      obtain ⟨new', free'⟩ := others m hm
      exact ⟨List.not_mem_cons_of_ne_of_not_mem (fun e => differs (congrArg nfc e)) new',
        List.not_mem_cons_of_ne_of_not_mem differs free'⟩
    rw [agentPairs, ensure_pos (not_or.mpr ⟨new, free⟩), ok_bind, rest]
    rfl

/-- The reader of the agent accepts a tree whose keys and numbers it accepts. -/
lemma loadAgent_ok {casefold : String → String} {name : String} {j : Json}
    (keys : ∀ p ∈ j.parts, AgentKeys casefold p)
    (accepted : ∀ n, .num n ∈ j.parts → Decimal.accepts n = true) :
    ∃ v, loadAgent name j = .ok v ∧ agentValue casefold v = .ok (decimalValue j) := by
  induction j using Json.induction with
  | null | bool | str => exact ⟨_, rfl, rfl⟩
  | num n =>
    exact ⟨_, mapError_eq_ok.mpr (decimalNumber_ok.mpr ⟨accepted n (Json.mem_parts _), rfl⟩), rfl⟩
  | constant c => exact (keys _ (Json.mem_parts _)).1.elim
  | arr l ih =>
    obtain ⟨-, inner⟩ := forall_parts_arr.mp keys
    have numbers (j : Json) (hj : j ∈ l) (n : Number) (hn : .num n ∈ j.parts) : Decimal.accepts n = true :=
      accepted n (mem_parts_arr.mpr (.inr ⟨j, hj, hn⟩))
    -- the loader and the walk over its values, for all elements at once
    have elems : ∃ vs, loadAgentElems name l = .ok vs ∧ agentValues casefold vs = .ok (decimalElems l) := by
      clear keys accepted
      induction l with
      | nil => exact ⟨[], rfl, rfl⟩
      | cons j l rest =>
        rw [List.forall_mem_cons] at ih inner numbers
        obtain ⟨v, hv, hw⟩ := ih.1 inner.1 numbers.1
        obtain ⟨vs, hvs, hws⟩ := rest ih.2 inner.2 numbers.2
        exact ⟨v :: vs, by simp [loadAgentElems, hv, hvs], by simp [agentValues, hw, hws, decimalElems]⟩
    obtain ⟨vs, hvs, hws⟩ := elems
    exact ⟨.list vs, by simp [loadAgent, hvs], by simp [agentValue, hws, decimalValue]⟩
  | obj ms ih =>
    obtain ⟨⟨nd, names⟩, inner⟩ := forall_parts_obj.mp keys
    have numbers (m : String × Json) (hm : m ∈ ms) (n : Number) (hn : .num n ∈ m.2.parts) :
        Decimal.accepts n = true := accepted n (mem_parts_obj.mpr (.inr ⟨m, hm, hn⟩))
    -- the names taken so far are an accumulator, so it is stated for every one
    have members : ∀ result : List String, (∀ m ∈ ms, nfc m.1 ∉ result) →
        ∃ vs, loadAgentMembers name ms = .ok vs ∧
          agentMembers casefold result vs = .ok (decimalMembers ms) := by
      clear keys accepted
      induction ms with
      | nil => exact fun _ _ => ⟨[], rfl, rfl⟩
      | cons m ms rest =>
        intro result fresh
        obtain ⟨key, j⟩ := m
        rw [List.forall_mem_cons] at ih inner fresh numbers
        obtain ⟨named, names⟩ := List.forall_mem_cons.mp names
        obtain ⟨apart, nd⟩ := List.nodup_cons.mp nd
        obtain ⟨v, hv, hw⟩ := ih.1 inner.1 numbers.1
        obtain ⟨vs, hvs, hws⟩ := rest ih.2 inner.2 nd names numbers.2 (nfc key :: result) fun m hm =>
          List.not_mem_cons_of_ne_of_not_mem (fun e => apart (List.mem_map.mpr ⟨m, hm, e⟩))
            (fresh.2 m hm)
        refine ⟨(key, v) :: vs, by simp [loadAgentMembers, hv, hvs], ?_⟩
        rw [agentMembers, ensure_pos fresh.1, ok_bind, ensure_pos named, ok_bind, hw, ok_bind, hws]
        rfl
    obtain ⟨vs, hvs, hws⟩ := members [] fun _ _ => List.not_mem_nil
    have pairs : agentPairs name nfc [] [] vs = .ok vs := by
      refine agentPairs_distinct ?_ fun _ _ => ⟨List.not_mem_nil, List.not_mem_nil⟩
      have same := congrArg (List.map nfc) (loadAgentMembers_keys hvs)
      rw [List.map_map, List.map_map] at same
      exact same ▸ nd
    exact ⟨.dict vs, by simp [loadAgent, hvs, pairs], by simp [agentValue, hws, decimalValue]⟩

/-- A text that the agent accepts is written so that it is read as an equal value exactly when its
numbers are exact. -/
lemma canonicalJsonText_value {casefold : String → String} {name : String} {requireObject : Bool}
    {text : String} {c : CanonicalJson}
    (h : canonicalJsonText casefold name requireObject text = .ok c) :
    ∃ v v', readAgent casefold name text = .ok v ∧ readAgent casefold name c.utf8 = .ok v' ∧
      (sameValue v v' = true ↔ Exact v) := by
  have kept := canonicalJsonText_read h
  simp only [canonicalJsonText, agentCanonical, bind_eq_ok, pure_eq_ok, Except.ok.injEq, ensure_eq_ok,
    exists_unit] at h
  obtain ⟨v, read, w, value, -, unicode, raw, hraw, _, -, rfl⟩ := h
  obtain ⟨j, -, keys, rfl⟩ := agentHooks_kept read value unicode
  have keyed : ∀ p ∈ j.parts, Keyed p := fun p hp => (keys p hp).1
  obtain ⟨prints, rfl⟩ := (plainText_decimalValue keyed).mp hraw
  have again := @parse_decimal (normalJson j) fun n hn => prints n (num_mem_normal.mp hn)
  have keys' : ∀ p ∈ ((normalJson j).map id decimalToken).parts, AgentKeys casefold p := by
    obtain ⟨t, parsed, keys', -⟩ := kept
    rw [again, Option.some.injEq] at parsed
    exact parsed ▸ keys'
  have accepted (n : Number) (hn : .num n ∈ ((normalJson j).map id decimalToken).parts) :
      Decimal.accepts n = true := by
    obtain ⟨m, hm, rfl⟩ := num_mem_map.mp hn
    exact (prints m (num_mem_normal.mp hm)).accepts
  obtain ⟨v', hv', hw'⟩ := @loadAgent_ok _ _ name _ keys' accepted
  refine ⟨decimalValue j, _, ?_, ?_, decimalValue_kept keyed prints⟩
  · simp only [readAgent, read, value, ok_bind]
  · simp only [readAgent, agentHooks_parse again, hv', hw', ok_bind]

/-- An outcome that is written is read as an equal value exactly when its numbers are exact. -/
lemma outcomeText_value {text written : String} (h : outcomeText text = .ok written) :
    ∃ v v', parseOutcome text = .ok v ∧ parseOutcome written = .ok v' ∧
      (sameValue v v' = true ↔ Exact v) := by
  obtain ⟨j, parsed, keyed, numbers, rfl⟩ := outcomeText_ok.mp h
  have keyedTree := keyed_outcomeTree keyed
  have printsTree (n : Number) (hn : .num n ∈ (outcomeTree j).parts) : Prints n :=
    (numbers n (num_mem_mapStrings.mp hn)).2
  have again := @parse_decimal (normalJson (outcomeTree j)) fun n hn => printsTree n (num_mem_normal.mp hn)
  have tree : outcomeTree ((normalJson (outcomeTree j)).map id decimalToken) =
      (normalJson (outcomeTree j)).map id decimalToken := by
    rw [outcomeTree, Json.mapStrings_map]
    exact congrArg (Json.map id decimalToken) outcomeTree_normal
  refine ⟨decimalValue (outcomeTree j), decimalValue ((normalJson (outcomeTree j)).map id decimalToken),
    parseOutcome_tree parsed keyed fun n hn => (numbers n hn).1, ?_,
    decimalValue_kept keyedTree printsTree⟩
  have keyedAgain : ∀ p ∈ ((normalJson (outcomeTree j)).map id decimalToken).parts, Keyed p := by
    intro p hp
    obtain ⟨q, hq, rfl⟩ := mem_parts_map.mp hp
    exact keyed_map (keyed_normal keyedTree q hq)
  have read := parseOutcome_tree again keyedAgain fun n hn => by
    obtain ⟨m, hm, rfl⟩ := num_mem_map.mp hn
    exact (printsTree m (num_mem_normal.mp hm)).accepts
  rwa [tree] at read

/-! ### The three writers -/

/-- The writers of plain JSON: `_canonical_json_text` of the agent, `_plain_json(_parse_json(..))` of the
consequences and `_plain_json` of the memory. -/
inductive PlainWriter where
  | agent (casefold : String → String) (name : String) (requireObject : Bool)
  | consequences
  | memory

/-- The text is accepted and written. -/
def PlainWriter.Writes : PlainWriter → String → String → Prop
  | .agent casefold name requireObject, text, written =>
    ∃ digest, canonicalJsonText casefold name requireObject text = .ok ⟨written, digest⟩
  | .consequences, text, written => outcomeText text = .ok written
  | .memory, text, written => plainJson (.str text) = .ok written

/-- The text is read as a value, by the parser with decimals of the writer. -/
def PlainWriter.Reads : PlainWriter → String → Value → Prop
  | .agent casefold name _, text, v => readAgent casefold name text = .ok v
  | .consequences, text, v => parseOutcome text = .ok v
  | .memory, text, v => readMemory text = .ok v

/-- What a writer puts out is read as the value of the text exactly when every number of the text has at
most 28 significant digits and none below the least exponent. -/
theorem PlainWriter.keeps {w : PlainWriter} {text written : String} {v : Value}
    (writes : w.Writes text written) (reads : w.Reads text v) :
    (∃ v', w.Reads written v' ∧ sameValue v v' = true) ↔ Exact v := by
  have settle {ε : Type} {read : String → Except ε Value}
      (kept : ∃ v v', read text = .ok v ∧ read written = .ok v' ∧ (sameValue v v' = true ↔ Exact v))
      (reads : read text = .ok v) :
      (∃ v', read written = .ok v' ∧ sameValue v v' = true) ↔ Exact v := by
    obtain ⟨u, v', hu, hv', same⟩ := kept
    rw [reads, Except.ok.injEq] at hu
    subst hu
    simp only [hv', Except.ok.injEq, exists_eq_left', same]
  cases w with
  | agent casefold name requireObject =>
    obtain ⟨digest, accepted⟩ := writes
    have kept := canonicalJsonText_value accepted
    dsimp only at kept
    exact settle kept reads
  | consequences => exact settle (outcomeText_value writes) reads
  | memory => exact settle (plainJson_kept writes) reads

/-- The text of a number is written as its plain text. -/
lemma PlainWriter.writes_number {w : PlainWriter} {n : Number} (h : Prints n)
    (accepted : Decimal.accepts n = true)
    (object : ∀ casefold name, w ≠ .agent casefold name true) :
    w.Writes (String.ofList n.print) (String.ofList (decimalChars n)) := by
  have parsed : Json.parse (String.ofList n.print) = some (.num n) := Json.parse_print (.num n)
  have only (m : Number) (hm : .num m ∈ (Json.num n).parts) : Prints m := by
    obtain rfl := Json.num.inj (List.mem_singleton.mp hm)
    exact h
  cases w with
  | agent casefold name requireObject =>
    cases requireObject with
    | true => exact absurd rfl (object casefold name)
    | false => exact canonicalJsonText_number accepted h
  | consequences =>
    refine outcomeText_ok.mpr ⟨_, parsed, ?_, fun m hm => ?_, rfl⟩
    · intro p hp
      obtain rfl := List.mem_singleton.mp hp
      trivial
    · obtain rfl := Json.num.inj (List.mem_singleton.mp hm)
      exact ⟨accepted, h⟩
  | memory =>
    have text : plainJsonValue (loadDecimal (.num n)) = .ok (decimalChars n) := by
      refine (plainJsonValue_loadDecimal ?_).mpr ⟨only, rfl⟩
      intro p hp
      obtain rfl := List.mem_singleton.mp hp
      trivial
    have read : (decimalHooks (.integrity "stored JSON is invalid")).scan (String.ofList n.print) =
        .ok (loadDecimal (.num n)) := by
      refine (decimalHooks_parse parsed).mpr ⟨fun m hm => ?_, rfl⟩
      obtain rfl := Json.num.inj (List.mem_singleton.mp hm)
      exact accepted
    simp only [Writes, plainJson, read, ok_bind, text, pure_eq_ok]

/-- The text of a number is read as its decimal. -/
lemma PlainWriter.reads_number {w : PlainWriter} {n : Number} {text : String}
    (accepted : Decimal.accepts n = true) (parsed : Json.parse text = some (.num n)) :
    w.Reads text (.decimal (.ofNumber n)) := by
  cases w with
  | agent casefold name requireObject =>
    have load : loadAgent name (.num n) = .ok (.decimal (.ofNumber n)) :=
      mapError_eq_ok.mpr (decimalNumber_ok.mpr ⟨accepted, rfl⟩)
    rw [Reads, readAgent, agentHooks_parse parsed, load]
    rfl
  | consequences =>
    refine parseOutcome_tree parsed ?_ fun m hm => ?_
    · intro p hp
      obtain rfl := List.mem_singleton.mp hp
      trivial
    · obtain rfl := Json.num.inj (List.mem_singleton.mp hm)
      exact accepted
  | memory =>
    refine (decimalHooks_parse parsed).mpr ⟨fun m hm => ?_, rfl⟩
    obtain rfl := Json.num.inj (List.mem_singleton.mp hm)
    exact accepted

/-- The writer rounds a number of 29 digits. -/
def PlainWriter.Rounds (w : PlainWriter) : Prop :=
  ∃ v v', w.Writes "10000000000000000000000000001" "10000000000000000000000000000" ∧
    w.Reads "10000000000000000000000000001" v ∧ w.Reads "10000000000000000000000000000" v' ∧
      sameValue v v' = false

/-- Writers that take every value keep a second printing. -/
lemma PlainWriter.rounds {w : PlainWriter} (object : ∀ casefold name, w ≠ .agent casefold name true) :
    w.Rounds := by
  let n : Number := ⟨false, 10000000000000000000000000001, [], none⟩
  let m : Number := ⟨false, 10000000000000000000000000000, [], none⟩
  have prints : Prints n := by decide +kernel
  have writes := writes_number prints (by decide) object
  have text : String.ofList n.print = "10000000000000000000000000001" := by decide +kernel
  have text' : String.ofList m.print = "10000000000000000000000000000" := by decide +kernel
  have written : decimalChars n = m.print := by decide +kernel
  rw [text, written, text'] at writes
  have read : Json.parse "10000000000000000000000000001" = some (.num n) := text ▸ Json.parse_print (.num n)
  have read' : Json.parse "10000000000000000000000000000" = some (.num m) :=
    text' ▸ Json.parse_print (.num m)
  refine ⟨_, _, writes, reads_number (by decide) read, reads_number (by decide) read', ?_⟩
  have value : (Decimal.ofNumber n).value ≠ (Decimal.ofNumber m).value := by
    norm_num [Decimal.ofNumber, Decimal.value, Decimal.signed, n, m]
  exact decide_eq_false value

omit [Platform] in
/-- A number of one digit is representable. -/
lemma exact_digit : Exact (.decimal (.ofNumber ⟨false, 5, [], none⟩)) := by
  intro d hd
  obtain rfl := List.mem_singleton.mp hd
  refine ⟨5, 0, ?_, by decide, by decide⟩
  norm_num [Decimal.ofNumber, Decimal.value, Decimal.signed]

end

/-- Each of the three writers rounds a number of 29 digits. -/
theorem PlainWriter.keeps_rounded :
    let _ := asciiPlatform
    (PlainWriter.agent id "predicted outcome" false).Rounds ∧ PlainWriter.consequences.Rounds ∧
      PlainWriter.memory.Rounds := by
  intro _
  refine ⟨rounds fun _ _ h => ?_, rounds nofun, rounds nofun⟩
  exact absurd (PlainWriter.agent.inj h).2.2 Bool.false_ne_true

/-- A number of one digit is kept. -/
theorem PlainWriter.keeps_digit :
    let _ := asciiPlatform
    ∃ written v v', PlainWriter.memory.Writes "5" written ∧ PlainWriter.memory.Reads "5" v ∧
      PlainWriter.memory.Reads written v' ∧ sameValue v v' = true := by
  intro _
  let n : Number := ⟨false, 5, [], none⟩
  have text : String.ofList n.print = "5" := by decide +kernel
  have writes := @writes_number asciiPlatform .memory n (by decide +kernel) (by decide) nofun
  rw [text] at writes
  have reads := @reads_number asciiPlatform .memory n "5" (by decide) (text ▸ Json.parse_print (.num n))
  obtain ⟨v', reads', same⟩ := (keeps writes reads).mpr exact_digit
  exact ⟨_, _, v', writes, reads, reads', same⟩

end GAM
