import GAM.Memory.Columns

/-!
# Stored documents, read back

A JSON document is written as it stands and read as `_plain_json` renders what the column keeps. A
document without repeated keys is rendered as its tree with the keys in order and the numbers in plain
decimal notation, so the text comes back exactly when it was written that way (`Rendered`).
-/

namespace GAM
open Lib

/-- No constant of the dialect, no repeated key. -/
def Distinct : Json → Prop
  | .constant _ => False
  | .obj l => (l.map Prod.fst).Nodup
  | _ => True

/-- A text that is written as the memory renders it. -/
def Rendered (text : String) : Prop :=
  ∃ j, Json.parse text = some j ∧ (∀ p ∈ j.parts, Distinct p) ∧ (∀ n, .num n ∈ j.parts → Prints n) ∧
    text = String.ofList (j.sortKeys.printWith decimalChars)

lemma plainDecimal_ok {n : Number} {cs : List Char} :
    plainDecimal (.ofNumber n) = .ok cs ↔ Prints n ∧ cs = decimalChars n := by
  rw [plainDecimal, Prints, decimalChars]
  cases (Decimal.ofNumber n).canonicalChars with
  | none => simp
  | some cs' => simp [eq_comm]

lemma loadDecimalMembers_eq {l : List (String × Json)} :
    loadDecimalMembers l = l.map fun m => (m.1, loadDecimal m.2) := by
  induction l with
  | nil => rfl
  | cons m l ih => rw [loadDecimalMembers, ih, List.map_cons]

mutual

/-- The hooks take a tree when the constructor takes its numbers, and make of it what `loadDecimal`
does. -/
lemma load_decimal {invalid : PyError} : ∀ {j : Json} {v : Value},
    j.load (decimalHooks invalid) = .ok v ↔
      (∀ n, .num n ∈ j.parts → Decimal.accepts n = true) ∧ v = loadDecimal j
  | .null, v | .bool _, v | .constant .nan, v | .constant .infinity, v | .constant .negInfinity, v => by
    simp only [Json.parts, List.mem_singleton, reduceCtorEq, false_implies, implies_true, true_and]
    exact ⟨fun h => (Except.ok.inj h).symm, fun h => congrArg Except.ok h.symm⟩
  | .str s, v => by
    have text : (Json.str s).load (decimalHooks invalid) = .ok (.str s) :=
      congrArg Except.ok Value.text_textOf
    simp only [text, Except.ok.injEq, Json.parts, List.mem_singleton, reduceCtorEq, false_implies,
      implies_true, true_and, loadDecimal]
    exact eq_comm
  | .num n, v => by
    simp only [Json.parts, List.mem_singleton, Json.num.injEq, forall_eq, loadDecimal]
    exact decimalNumber_ok
  | .arr l, v => by
    simp only [Json.load, bind_eq_ok, pure_eq_ok, Except.ok.injEq, load_decimals, mem_parts_arr,
      reduceCtorEq, false_or, loadDecimal]
    constructor
    · rintro ⟨_, ⟨accepted, rfl⟩, rfl⟩
      exact ⟨fun n ⟨j, hj, hn⟩ => accepted j hj n hn, rfl⟩
    · rintro ⟨accepted, rfl⟩
      exact ⟨_, ⟨fun j hj n hn => accepted n ⟨j, hj, hn⟩, rfl⟩, rfl⟩
  | .obj ms, v => by
    have closed : (decimalHooks invalid).obj (textMembers (loadDecimalMembers ms)) =
        .ok (loadDecimal (.obj ms)) := by
      simp [decimalHooks, defaultHooks, lastWins_textMembers, loadDecimal]
    simp only [Json.load, bind_eq_ok, load_decimalMembers, mem_parts_obj, reduceCtorEq, false_or]
    constructor
    · rintro ⟨_, ⟨accepted, rfl⟩, h⟩
      rw [closed, Except.ok.injEq] at h
      exact ⟨fun n ⟨m, hm, hn⟩ => accepted m hm n hn, h.symm⟩
    · rintro ⟨accepted, rfl⟩
      exact ⟨_, ⟨fun m hm n hn => accepted n ⟨m, hm, hn⟩, rfl⟩, closed⟩

/-- Elements are taken when each is. -/
lemma load_decimals {invalid : PyError} : ∀ {l : List Json} {vs : List Value},
    loadItems (decimalHooks invalid) l = .ok vs ↔
      (∀ j ∈ l, ∀ n, .num n ∈ j.parts → Decimal.accepts n = true) ∧ vs = loadDecimals l
  | [], vs => by
    simp only [loadItems, Except.ok.injEq, List.not_mem_nil, false_implies, implies_true, true_and,
      loadDecimals]
    exact eq_comm
  | j :: l, vs => by
    simp only [loadItems, bind_eq_ok, pure_eq_ok, Except.ok.injEq, load_decimal, load_decimals,
      List.forall_mem_cons, loadDecimals]
    constructor
    · rintro ⟨_, ⟨head, rfl⟩, _, ⟨tail, rfl⟩, rfl⟩
      exact ⟨⟨head, tail⟩, rfl⟩
    · rintro ⟨⟨head, tail⟩, rfl⟩
      exact ⟨_, ⟨head, rfl⟩, _, ⟨tail, rfl⟩, rfl⟩

/-- Members are taken when each value is. -/
lemma load_decimalMembers {invalid : PyError} : ∀ {ms : List (String × Json)}
    {ps : List (Text × Value)}, loadPairs (decimalHooks invalid) ms = .ok ps ↔
      (∀ m ∈ ms, ∀ n, .num n ∈ m.2.parts → Decimal.accepts n = true) ∧
        ps = textMembers (loadDecimalMembers ms)
  | [], ps => by
    simp only [loadPairs, Except.ok.injEq, List.not_mem_nil, false_implies, implies_true, true_and,
      loadDecimalMembers, textMembers_nil]
    exact eq_comm
  | (k, j) :: ms, ps => by
    simp only [loadPairs, bind_eq_ok, pure_eq_ok, Except.ok.injEq, load_decimal, load_decimalMembers,
      List.forall_mem_cons, loadDecimalMembers, textMembers_cons]
    constructor
    · rintro ⟨_, ⟨head, rfl⟩, _, ⟨tail, rfl⟩, rfl⟩
      exact ⟨⟨head, tail⟩, rfl⟩
    · rintro ⟨⟨head, tail⟩, rfl⟩
      exact ⟨_, ⟨head, rfl⟩, _, ⟨tail, rfl⟩, rfl⟩

end

/-- A text with a tree is read as the value of its tree. -/
lemma decimalHooks_parse {invalid : PyError} {text : String} {j : Json} {v : Value}
    (parsed : Json.parse text = some j) : (decimalHooks invalid).scan text = .ok v ↔
      (∀ n, .num n ∈ j.parts → Decimal.accepts n = true) ∧ v = loadDecimal j := by
  rw [Hooks.scan_parse _ parsed, load_decimal]

lemma plainMemberTexts_eq {l : List (String × Value)} :
    plainMemberTexts l = l.map fun m => (m.1, plainJsonValue m.2) := by
  induction l with
  | nil => rfl
  | cons m l ih => rw [plainMemberTexts, ih, List.map_cons]

mutual

/-- When a loaded document is rendered, and as what. -/
lemma plainJsonValue_loadDecimal : ∀ {j : Json}, (∀ p ∈ j.parts, Distinct p) → ∀ {cs : List Char},
    (plainJsonValue (loadDecimal j) = .ok cs ↔
      (∀ n, .num n ∈ j.parts → Prints n) ∧ cs = j.sortKeys.printWith decimalChars)
  | .null, _, cs | .bool true, _, cs | .bool false, _, cs | .str _, _, cs => by
    simp [loadDecimal, plainJsonValue, Json.parts, Json.sortKeys, Json.printWith, eq_comm]
  | .constant _, h, _ => (h _ (Json.mem_parts _)).elim
  | .num n, _, cs => by
    have finite : (Decimal.ofNumber n).isFinite = true := rfl
    rw [loadDecimal, plainJsonValue, if_pos finite, plainDecimal_ok]
    simp [Json.parts, Json.sortKeys, Json.printWith]
  | .arr l, h, cs => by
    have inner := (forall_parts_arr.mp h).2
    have numbers : (∀ n, .num n ∈ (Json.arr l).parts → Prints n) ↔
        ∀ j ∈ l, ∀ n, .num n ∈ j.parts → Prints n := by
      simp only [mem_parts_arr, reduceCtorEq, false_or]
      exact ⟨fun h j hj n hn => h n ⟨j, hj, hn⟩, fun h n ⟨j, hj, hn⟩ => h j hj n hn⟩
    simp only [loadDecimal, plainJsonValue, bind_eq_ok, pure_eq_ok, Except.ok.injEq,
      plainElems_loadDecimals inner, numbers, Json.sortKeys, sortElems_eq, ← commaSeparated_arr,
      List.map_map]
    constructor
    · rintro ⟨_, ⟨prints, rfl⟩, rfl⟩
      exact ⟨prints, rfl⟩
    · rintro ⟨prints, rfl⟩
      exact ⟨_, ⟨prints, rfl⟩, rfl⟩
  | .obj ms, h, cs => by
    obtain ⟨distinct, inner⟩ := forall_parts_obj.mp h
    have numbers : (∀ n, .num n ∈ (Json.obj ms).parts → Prints n) ↔
        ∀ m ∈ ms, ∀ n, .num n ∈ m.2.parts → Prints n := by
      simp only [mem_parts_obj, reduceCtorEq, false_or]
      exact ⟨fun h m hm n hn => h n ⟨m, hm, hn⟩, fun h n ⟨m, hm, hn⟩ => h m hm n hn⟩
    -- distinct keys: the last member under a key is the only one
    have loaded : lastWins (loadDecimalMembers ms) = ms.map fun m => (m.1, loadDecimal m.2) := by
      rw [loadDecimalMembers_eq]
      refine lastWins_of_nodup ?_
      rw [List.map_map]
      exact distinct
    -- the members are sorted before their values are printed
    have texts : sortedBy Prod.fst (plainMemberTexts (ms.map fun m => (m.1, loadDecimal m.2))) =
        (sortedBy Prod.fst ms).map fun m => (m.1, plainJsonValue (loadDecimal m.2)) := by
      rw [plainMemberTexts_eq, List.map_map]
      exact @sortedBy_map _ _ _ Prod.fst ms _ Prod.fst
        (fun m : String × Json => (m.1, plainJsonValue (loadDecimal m.2))) fun _ => rfl
    have member : ∀ m ∈ sortedBy Prod.fst ms, ∀ x,
        (do
          let text ← plainJsonValue (loadDecimal m.2)
          return stringChars m.1 ++ ':' :: text : Except PyError (List Char)) = .ok x ↔
        (∀ n, .num n ∈ m.2.parts → Prints n) ∧
          x = stringChars m.1 ++ ':' :: m.2.sortKeys.printWith decimalChars := by
      intro m hm x
      simp only [bind_eq_ok, pure_eq_ok, Except.ok.injEq,
        plainJsonValue_members inner m (mem_sortedBy.mp hm)]
      constructor
      · rintro ⟨_, ⟨prints, rfl⟩, rfl⟩
        exact ⟨prints, rfl⟩
      · rintro ⟨prints, rfl⟩
        exact ⟨_, ⟨prints, rfl⟩, rfl⟩
    have written : (sortedBy Prod.fst (sortMembers ms)).map
          (fun m => stringChars m.1 ++ ':' :: m.2.printWith decimalChars) =
        (sortedBy Prod.fst ms).map
          fun m => stringChars m.1 ++ ':' :: m.2.sortKeys.printWith decimalChars := by
      rw [sortMembers_eq, @sortedBy_map _ _ _ Prod.fst ms _ Prod.fst
        (fun m : String × Json => (m.1, m.2.sortKeys)) fun _ => rfl, List.map_map]
      rfl
    have members : ∀ xs, plainMembers (plainMemberTexts (ms.map fun m => (m.1, loadDecimal m.2))) =
        .ok xs ↔ (∀ m ∈ ms, ∀ n, .num n ∈ m.2.parts → Prints n) ∧
          xs = (sortedBy Prod.fst ms).map
            fun m => stringChars m.1 ++ ':' :: m.2.sortKeys.printWith decimalChars := by
      intro xs
      rw [plainMembers, texts, mapAll_map]
      refine (mapAll_iff member).trans (and_congr_left' ?_)
      simp only [mem_sortedBy]
    simp only [loadDecimal, plainJsonValue, bind_eq_ok, pure_eq_ok, Except.ok.injEq, loaded, members,
      numbers, Json.sortKeys, ← commaSeparated_obj, written]
    constructor
    · rintro ⟨_, ⟨prints, rfl⟩, rfl⟩
      exact ⟨prints, rfl⟩
    · rintro ⟨prints, rfl⟩
      exact ⟨_, ⟨prints, rfl⟩, rfl⟩

lemma plainElems_loadDecimals : ∀ {l : List Json}, (∀ j ∈ l, ∀ p ∈ j.parts, Distinct p) →
    ∀ {xs : List (List Char)}, (plainElems (loadDecimals l) = .ok xs ↔
      (∀ j ∈ l, ∀ n, .num n ∈ j.parts → Prints n) ∧
        xs = l.map fun j => j.sortKeys.printWith decimalChars)
  | [], _, xs => by simp [loadDecimals, plainElems, eq_comm]
  | j :: l, h, xs => by
    rw [List.forall_mem_cons] at h
    simp only [loadDecimals, plainElems, bind_eq_ok, pure_eq_ok, Except.ok.injEq,
      plainJsonValue_loadDecimal h.1, plainElems_loadDecimals h.2, List.forall_mem_cons, List.map_cons]
    constructor
    · rintro ⟨_, ⟨head, rfl⟩, _, ⟨tail, rfl⟩, rfl⟩
      exact ⟨⟨head, tail⟩, rfl⟩
    · rintro ⟨⟨head, tail⟩, rfl⟩
      exact ⟨_, ⟨head, rfl⟩, _, ⟨tail, rfl⟩, rfl⟩

lemma plainJsonValue_members : ∀ {ms : List (String × Json)},
    (∀ m ∈ ms, ∀ p ∈ m.2.parts, Distinct p) → ∀ m ∈ ms, ∀ cs : List Char,
      (plainJsonValue (loadDecimal m.2) = .ok cs ↔
        (∀ n, .num n ∈ m.2.parts → Prints n) ∧ cs = m.2.sortKeys.printWith decimalChars)
  | [], _ => fun _ h => absurd h List.not_mem_nil
  | (_, j) :: ms, h => by
    rw [List.forall_mem_cons] at h
    exact List.forall_mem_cons.mpr
      ⟨fun _ => plainJsonValue_loadDecimal h.1, plainJsonValue_members h.2⟩

end

/-- Ordering the keys keeps them distinct. -/
lemma distinct_sortKeys {j : Json} (h : ∀ p ∈ j.parts, Distinct p) :
    ∀ p ∈ j.sortKeys.parts, Distinct p := by
  intro p hp
  obtain ⟨q, hq, rfl⟩ := mem_parts_sortKeys.mp hp
  have part := h q hq
  cases q with
  | obj l =>
    rw [Json.sortKeys, Distinct, sortMembers_eq]
    refine (sortedBy_perm.map _).nodup_iff.mpr ?_
    rw [List.map_map]
    exact part
  | null | bool | constant | num | str | arr => exact part

lemma castJsonb_ok {text column : String} : castJsonb text = .ok column ↔
    ∃ j, Json.parse text = some j ∧ isStandard j = true ∧ column = j.dumps := by
  rw [castJsonb]
  cases Json.parse text with
  | none => simp
  | some j =>
    by_cases standard : isStandard j = true
    · simp only [standard, if_true, Except.ok.injEq, Option.some.injEq, exists_eq_left', true_and]
      exact eq_comm
    · simp [standard]

section
variable {text : String} {j : Json}

/-- What a document without repeated keys is read back as. -/
lemma plainJson_dumps {text : String} (distinct : ∀ p ∈ j.parts, Distinct p) :
    plainJson (.str j.dumps) = .ok text ↔
      (∀ n, .num n ∈ j.parts → Decimal.accepts n = true ∧ Prints n) ∧
        text = String.ofList (j.sortKeys.printWith decimalChars) := by
  simp only [plainJson, bind_eq_ok, pure_eq_ok, Except.ok.injEq,
    decimalHooks_parse (Json.parse_dumps j), num_mem_sortKeys]
  constructor
  · rintro ⟨_, ⟨accepted, rfl⟩, cs, written, rfl⟩
    obtain ⟨prints, rfl⟩ := (plainJsonValue_loadDecimal (distinct_sortKeys distinct)).mp written
    rw [Json.sortKeys_idem]
    exact ⟨fun n hn => ⟨accepted n hn, prints n (num_mem_sortKeys.mpr hn)⟩, rfl⟩
  · rintro ⟨numbers, rfl⟩
    have written := (plainJsonValue_loadDecimal (distinct_sortKeys distinct)).mpr
      ⟨fun n hn => (numbers n (num_mem_sortKeys.mp hn)).2, rfl⟩
    rw [Json.sortKeys_idem] at written
    exact ⟨_, ⟨fun n hn => (numbers n hn).1, rfl⟩, _, written, rfl⟩

/-- The numbers of a rendered document are as they were written, so the constructor takes them. -/
lemma Rendered.accepts (h : Rendered text) (parsed : Json.parse text = some j) (n : Number)
    (hn : .num n ∈ j.parts) : Decimal.accepts n = true := by
  obtain ⟨j', parsed', -, prints, written⟩ := h
  cases parsed.symm.trans parsed'
  have again : Json.parse text = some (j.sortKeys.map id decimalToken) := by
    rw [written]
    exact parse_decimal fun n hn => prints n (num_mem_sortKeys.mp hn)
  rw [parsed, Option.some.injEq] at again
  rw [again] at hn
  obtain ⟨m, hm, rfl⟩ := num_mem_map.mp hn
  exact (prints m (num_mem_sortKeys.mp hm)).accepts

/-- A document without repeated keys comes back as it was written when it was rendered. -/
lemma plainJson_column {column : String} (parsed : Json.parse text = some j)
    (distinct : ∀ p ∈ j.parts, Distinct p) (cast : castJsonb text = .ok column) :
    plainJson (.str column) = .ok text ↔ Rendered text := by
  obtain ⟨j', parsed', -, rfl⟩ := castJsonb_ok.mp cast
  cases parsed.symm.trans parsed'
  rw [plainJson_dumps distinct]
  constructor
  · exact fun ⟨numbers, written⟩ => ⟨j, parsed, distinct, fun n hn => (numbers n hn).2, written⟩
  · intro rendered
    obtain ⟨j', parsed', -, prints, written⟩ := id rendered
    cases parsed.symm.trans parsed'
    exact ⟨fun n hn => ⟨rendered.accepts parsed n hn, prints n hn⟩, written⟩

/-- A rendered document comes back as it was written. -/
lemma Rendered.column {column : String} (h : Rendered text) (cast : castJsonb text = .ok column) :
    plainJson (.str column) = .ok text := by
  obtain ⟨j, parsed, distinct, -⟩ := id h
  exact (plainJson_column parsed distinct cast).mpr h

end

end GAM
