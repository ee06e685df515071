import GAM.Lib.NumberText
import GAM.Traces.PlainJson

/-!
# Which texts are canonical

Reading a text and writing it back renames the keys to NFC, orders them and writes every number as an
`int` or a `float` does (`normalJson`, `numberChars`). So a text is canonical exactly when it is
that text of the value it denotes (`canonicalPlainJson_iff`), and the text of an ordered value with NFC
keys is canonical exactly when every number in it is written back as it stands
(`canonicalPlainJson_print`).
-/

namespace GAM
open Lib

/-! ### Numbers -/

/-- A number token, read and written back. -/
def renderNumber (n : Number) : Except PyError (List Char) := do
  let v ← loadNumber n
  dumpsValue v

/-- The text a number token is written back as, if it is. -/
def numberChars (n : Number) : List Char := ((renderNumber n).toOption).getD []

/-- What a number is written back as is a token. -/
lemma renderNumber_token {n : Number} {cs : List Char} (h : renderNumber n = .ok cs) :
    TokenText cs := by
  rw [renderNumber, loadNumber] at h
  split at h
  · split at h
    · cases h
    · cases h
      exact intChars_token
  · simp only [ok_bind, dumpsValue] at h
    split at h
    · rename_i finite
      cases h
      exact Binary64.repr_token finite
    · cases h

/-- A number's text is what the printer returned. -/
lemma numberChars_ok {n : Number} {cs : List Char} (h : renderNumber n = .ok cs) :
    numberChars n = cs := by
  simp [numberChars, h, Except.toOption]

section
variable [Platform]

/-- What reading requires of a part of a value. -/
def Plain : Json → Prop
  | .constant _ => False
  | .num n => ∃ cs, renderNumber n = .ok cs
  | .obj l => (l.map fun m => nfc m.1).Nodup
  | _ => True

/-- The keys in NFC and in order. -/
def normalJson (j : Json) : Json := (j.map nfc id).sortKeys

/-! ### Reading and writing back -/

/-- Reading the members of an object requires that their normalized keys differ. -/
lemma pairs_eq_ok {l : List (String × Value)} {taken : List String} {ms}
    (fixed : ∀ key ∈ taken, nfc key = key) : pairs nfc taken l = .ok ms ↔
      (l.map fun m => nfc m.1).Nodup ∧ (∀ m ∈ l, nfc m.1 ∉ taken) ∧
        ms = l.map fun m => (nfc m.1, m.2) := by
  induction l generalizing taken ms with
  | nil => simp [pairs, eq_comm]
  | cons m l ih =>
    obtain ⟨key, item⟩ := m
    have fixed' : ∀ k ∈ nfc key :: taken, nfc k = k := by
      intro k hk
      rcases List.mem_cons.mp hk with rfl | hk
      · exact Platform.nfc_idem key
      · exact fixed k hk
    -- a key that is taken is in NFC, so its normalization is taken as well
    have raw (h : nfc key ∉ taken) : key ∉ taken := fun hk => h ((fixed key hk).symm ▸ hk)
    simp only [pairs, bind_eq_ok, pure_eq_ok, Except.ok.injEq, ensure_eq_ok, exists_unit, ih fixed',
      List.map_cons, List.nodup_cons, List.mem_map, List.mem_cons, not_or, not_exists, not_and,
      forall_eq_or_imp]
    constructor
    · rintro ⟨-, free, rest, ⟨nd, apart, rfl⟩, rfl⟩
      exact ⟨⟨fun m hm => (apart m hm).1, nd⟩, ⟨free, fun m hm => (apart m hm).2⟩, rfl⟩
    · rintro ⟨⟨apart, nd⟩, ⟨free, others⟩, rfl⟩
      exact ⟨raw free, free, _, ⟨nd, fun m hm => ⟨apart m hm, others m hm⟩, rfl⟩, rfl⟩

/-- Pairs are collected exactly where no two names have one normal form. -/
lemma pairs_nil {l : List (String × Value)} {ms} : pairs nfc [] l = .ok ms ↔
    (l.map fun m => nfc m.1).Nodup ∧ ms = l.map fun m => (nfc m.1, m.2) := by
  rw [pairs_eq_ok fun _ h => absurd h List.not_mem_nil]
  simp

end

/-- Printed elements between commas are the text of the array. -/
lemma commaSeparated_arr {f : Number → List Char} {l : List Json} :
    commaSeparated '[' ']' (l.map (Json.printWith f)) = (Json.arr l).printWith f := by
  have tail (l : List Json) : (l.map (Json.printWith f)).flatMap (fun x => ',' :: x) ++ [']'] =
      printElemsWith f l := by
    induction l with
    | nil => rfl
    | cons j l ih =>
      rw [List.map_cons, List.flatMap_cons, List.append_assoc, ih, printElemsWith, List.cons_append]
  cases l with
  | nil => rw [Json.printWith, List.map_nil, commaSeparated]
  | cons j l => rw [List.map_cons, commaSeparated, Json.printWith, List.append_assoc, tail]

/-- Printed members between commas are the text of the object. -/
lemma commaSeparated_obj {f : Number → List Char} {l : List (String × Json)} :
    commaSeparated '\x7b' '\x7d' (l.map fun m => stringChars m.1 ++ ':' :: m.2.printWith f) =
      (Json.obj l).printWith f := by
  have tail (l : List (String × Json)) :
      (l.map fun m => stringChars m.1 ++ ':' :: m.2.printWith f).flatMap (fun x => ',' :: x) ++
        ['\x7d'] = printMembersWith f l := by
    induction l with
    | nil => rfl
    | cons m l ih =>
      rw [List.map_cons, List.flatMap_cons, List.append_assoc, ih, printMembersWith]
      simp only [List.cons_append, List.append_assoc]
  cases l with
  | nil => rw [Json.printWith, List.map_nil, commaSeparated]
  | cons m l =>
    rw [List.map_cons, commaSeparated, Json.printWith, List.append_assoc, tail]
    simp only [List.cons_append, List.append_assoc]

section
variable [Platform]

/-- Loading leaves the names as they are. -/
lemma loadPlainMembers_keys {ms : List (String × Json)} {vs} (h : loadPlainMembers ms = .ok vs) :
    vs.map Prod.fst = ms.map Prod.fst := by
  induction ms generalizing vs with
  | nil =>
    cases h
    rfl
  | cons m ms ih =>
    obtain ⟨k, j⟩ := m
    simp only [loadPlainMembers, bind_eq_ok, pure_eq_ok, Except.ok.injEq] at h
    obtain ⟨v, -, vs', h', rfl⟩ := h
    rw [List.map_cons, List.map_cons, ih h']

/-- An array's normal form is that of its elements. -/
lemma normal_arr {l : List Json} : normalJson (.arr l) = .arr (l.map normalJson) := by
  rw [normalJson, Json.map, Json.sortKeys, sortElems_eq, mapElems_eq, List.map_map]
  rfl

/-- An object's normal form has its members' normal forms by name. -/
lemma normal_obj {ms : List (String × Json)} :
    normalJson (.obj ms) = .obj (sortedBy Prod.fst (ms.map fun m => (nfc m.1, normalJson m.2))) := by
  rw [normalJson, Json.map, Json.sortKeys, sortMembers_eq, mapMembers_eq, List.map_map]
  rfl

mutual

/-- When a value is read and written back, and as what. -/
lemma load_dumps : ∀ {j : Json} {cs : List Char},
    (∃ v, loadPlain j = .ok v ∧ dumpsValue v = .ok cs) ↔
      (∀ p ∈ j.parts, Plain p) ∧ cs = (normalJson j).printWith numberChars
  | .null, cs | .bool true, cs | .bool false, cs | .str _, cs => by
    simp [loadPlain, dumpsValue, Json.parts, Plain, normalJson, Json.map, Json.sortKeys,
      Json.printWith, eq_comm]
  | .constant _, cs => by simp [loadPlain, reject, Json.parts, Plain]
  | .num n, cs => by
    have render : (∃ v, loadPlain (.num n) = .ok v ∧ dumpsValue v = .ok cs) ↔
        renderNumber n = .ok cs := by
      rw [loadPlain, renderNumber, bind_eq_ok]
    simp only [render, Json.parts, List.mem_singleton, forall_eq, Plain, normalJson, Json.map,
      Json.sortKeys, Json.printWith, id]
    constructor
    · exact fun h => ⟨⟨cs, h⟩, (numberChars_ok h).symm⟩
    · rintro ⟨⟨cs', h⟩, rfl⟩
      rw [numberChars_ok h, h]
  | .arr l, cs => by
    simp only [loadPlain, bind_eq_ok, pure_eq_ok, Except.ok.injEq, forall_parts_arr, Plain, true_and,
      normal_arr, ← commaSeparated_arr, List.map_map]
    constructor
    · rintro ⟨_, ⟨vs, hvs, rfl⟩, h⟩
      simp only [dumpsValue, bind_eq_ok, pure_eq_ok, Except.ok.injEq] at h
      obtain ⟨xs, hxs, rfl⟩ := h
      obtain ⟨plain, rfl⟩ := load_dumpsElems.mp ⟨vs, hvs, hxs⟩
      exact ⟨plain, rfl⟩
    · rintro ⟨plain, rfl⟩
      obtain ⟨vs, hvs, hxs⟩ := load_dumpsElems.mpr ⟨plain, rfl⟩
      refine ⟨_, ⟨vs, hvs, rfl⟩, ?_⟩
      simp only [dumpsValue, hxs, ok_bind, pure_eq_ok]
      rfl
  | .obj ms, cs => by
    -- sorting by the normal names commutes with printing the values
    have sorted : sortedBy Prod.fst (ms.map fun m => (nfc m.1, (normalJson m.2).printWith numberChars)) =
        (sortedBy Prod.fst (ms.map fun m => (nfc m.1, normalJson m.2))).map
          fun m => (m.1, m.2.printWith numberChars) := by
      let written (m : String × Json) := (m.1, m.2.printWith numberChars)
      rw [← @sortedBy_map _ _ _ Prod.fst _ _ Prod.fst written fun _ => rfl, List.map_map]
      rfl
    simp only [loadPlain, bind_eq_ok, pure_eq_ok, Except.ok.injEq, forall_parts_obj, Plain,
      normal_obj, ← commaSeparated_obj, pairs_nil]
    constructor
    · rintro ⟨_, ⟨vs, hvs, _, ⟨nd, rfl⟩, rfl⟩, h⟩
      simp only [dumpsValue, bind_eq_ok, pure_eq_ok, Except.ok.injEq] at h
      obtain ⟨xs, hxs, rfl⟩ := h
      obtain ⟨plain, rfl⟩ := load_dumpsMembers.mp ⟨vs, hvs, hxs⟩
      have keys := congrArg (List.map nfc) (loadPlainMembers_keys hvs)
      rw [List.map_map, List.map_map] at keys
      refine ⟨⟨keys ▸ nd, plain⟩, ?_⟩
      rw [sorted, List.map_map]
      rfl
    · rintro ⟨⟨nd, plain⟩, rfl⟩
      obtain ⟨vs, hvs, hxs⟩ := load_dumpsMembers.mpr ⟨plain, rfl⟩
      have keys := congrArg (List.map nfc) (loadPlainMembers_keys hvs)
      rw [List.map_map, List.map_map] at keys
      refine ⟨_, ⟨vs, hvs, _, ⟨keys.symm ▸ nd, rfl⟩, rfl⟩, ?_⟩
      simp only [dumpsValue, hxs, ok_bind, pure_eq_ok, sorted, List.map_map]
      rfl

/-- The elements are loaded and printed exactly where all their parts are plain. -/
lemma load_dumpsElems : ∀ {l : List Json} {xs : List (List Char)},
    (∃ vs, loadPlainElems l = .ok vs ∧ dumpsElems vs = .ok xs) ↔
      (∀ j ∈ l, ∀ p ∈ j.parts, Plain p) ∧ xs = l.map fun j => (normalJson j).printWith numberChars
  | [], xs => by simp [loadPlainElems, dumpsElems, eq_comm]
  | j :: l, xs => by
    rw [List.forall_mem_cons, List.map_cons]
    simp only [loadPlainElems, bind_eq_ok, pure_eq_ok, Except.ok.injEq]
    constructor
    · rintro ⟨_, ⟨v, hv, vs, hvs, rfl⟩, h⟩
      simp only [dumpsElems, bind_eq_ok, pure_eq_ok, Except.ok.injEq] at h
      obtain ⟨x, hx, xs, hxs, rfl⟩ := h
      obtain ⟨head, rfl⟩ := load_dumps.mp ⟨v, hv, hx⟩
      obtain ⟨tail, rfl⟩ := load_dumpsElems.mp ⟨vs, hvs, hxs⟩
      exact ⟨⟨head, tail⟩, rfl⟩
    · rintro ⟨⟨head, tail⟩, rfl⟩
      obtain ⟨v, hv, hx⟩ := load_dumps.mpr ⟨head, rfl⟩
      obtain ⟨vs, hvs, hxs⟩ := load_dumpsElems.mpr ⟨tail, rfl⟩
      refine ⟨_, ⟨v, hv, vs, hvs, rfl⟩, ?_⟩
      simp only [dumpsElems, hx, hxs, ok_bind, pure_eq_ok]

/-- The members are loaded and printed exactly where all their parts are plain. -/
lemma load_dumpsMembers : ∀ {ms : List (String × Json)} {xs : List (String × List Char)},
    (∃ vs, loadPlainMembers ms = .ok vs ∧ dumpsMembers (vs.map fun m => (nfc m.1, m.2)) = .ok xs) ↔
      (∀ m ∈ ms, ∀ p ∈ m.2.parts, Plain p) ∧
        xs = ms.map fun m => (nfc m.1, (normalJson m.2).printWith numberChars)
  | [], xs => by simp [loadPlainMembers, dumpsMembers, eq_comm]
  | (k, j) :: ms, xs => by
    rw [List.forall_mem_cons, List.map_cons]
    simp only [loadPlainMembers, bind_eq_ok, pure_eq_ok, Except.ok.injEq]
    constructor
    · rintro ⟨_, ⟨v, hv, vs, hvs, rfl⟩, h⟩
      simp only [List.map_cons, dumpsMembers, bind_eq_ok, pure_eq_ok, Except.ok.injEq] at h
      obtain ⟨x, hx, xs, hxs, rfl⟩ := h
      obtain ⟨head, rfl⟩ := load_dumps.mp ⟨v, hv, hx⟩
      obtain ⟨tail, rfl⟩ := load_dumpsMembers.mp ⟨vs, hvs, hxs⟩
      exact ⟨⟨head, tail⟩, rfl⟩
    · rintro ⟨⟨head, tail⟩, rfl⟩
      obtain ⟨v, hv, hx⟩ := load_dumps.mpr ⟨head, rfl⟩
      obtain ⟨vs, hvs, hxs⟩ := load_dumpsMembers.mpr ⟨tail, rfl⟩
      refine ⟨_, ⟨v, hv, vs, hvs, rfl⟩, ?_⟩
      simp only [List.map_cons, dumpsMembers, hx, hxs, ok_bind, pure_eq_ok]

end

/-- A text is canonical when it is the text that its value is written back as. -/
lemma canonicalPlainJson_iff {text : String} : canonicalPlainJson text = .ok () ↔
    ∃ j, Json.parse text = some j ∧ (∀ p ∈ j.parts, Plain p) ∧
      (normalJson j).printWith numberChars = text.toList := by
  rw [canonicalPlainJson_ok]
  constructor
  · rintro ⟨j, v, parsed, hv, cs, hcs, rfl⟩
    obtain ⟨plain, rfl⟩ := load_dumps.mp ⟨v, hv, hcs⟩
    exact ⟨j, parsed, plain, String.toList_ofList.symm⟩
  · rintro ⟨j, parsed, plain, e⟩
    obtain ⟨v, hv, hcs⟩ := load_dumps.mpr ⟨plain, rfl⟩
    exact ⟨j, v, parsed, hv, _, hcs, by rw [e, String.ofList_toList]⟩

/-! ### Values in normal form -/

mutual

/-- Normal form is reached in one step. -/
lemma normalJson_idem : ∀ j : Json, normalJson (normalJson j) = normalJson j
  | .null | .bool _ | .constant _ | .num _ | .str _ => rfl
  | .arr l => by
    rw [normal_arr, normal_arr, List.map_map]
    exact congrArg Json.arr (List.map_congr_left (normalElems_idem l))
  | .obj ms => by
    have members : ∀ m ∈ sortedBy Prod.fst (ms.map fun m => (nfc m.1, normalJson m.2)),
        (nfc m.1, normalJson m.2) = m := by
      intro m hm
      obtain ⟨m', hm', rfl⟩ := List.mem_map.mp (mem_sortedBy.mp hm)
      rw [Platform.nfc_idem, normalMembers_idem ms m' hm']
    rw [normal_obj, normal_obj, List.map_congr_left members, List.map_id', sortedBy_idem]

/-- The elements' normal forms stay as they are. -/
lemma normalElems_idem : ∀ l : List Json, ∀ j ∈ l, normalJson (normalJson j) = normalJson j
  | [] => fun _ h => absurd h List.not_mem_nil
  | j :: l => List.forall_mem_cons.mpr ⟨normalJson_idem j, normalElems_idem l⟩

/-- The members' normal forms stay as they are. -/
lemma normalMembers_idem : ∀ ms : List (String × Json), ∀ m ∈ ms,
    normalJson (normalJson m.2) = normalJson m.2
  | [] => fun _ h => absurd h List.not_mem_nil
  | (_, j) :: ms => List.forall_mem_cons.mpr ⟨normalJson_idem j, normalMembers_idem ms⟩

end

section
variable {tok : Number → Number}

mutual

/-- Replacing numbers keeps the keys. -/
lemma normalJson_map : ∀ j : Json, normalJson (j.map id tok) = (normalJson j).map id tok
  | .null | .bool _ | .constant _ | .num _ | .str _ => rfl
  | .arr l => by
    rw [Json.map, normal_arr, normal_arr, Json.map, mapElems_eq, mapElems_eq, List.map_map,
      List.map_map, List.map_congr_left (normalElems_map l)]
  | .obj ms => by
    let replaced (m : String × Json) := (m.1, m.2.map id tok)
    rw [Json.map, normal_obj, normal_obj, Json.map, mapMembers_eq, mapMembers_eq, List.map_map,
      List.map_congr_left (normalMembers_map ms), ← List.map_map]
    exact congrArg Json.obj (@sortedBy_map _ _ _ Prod.fst _ _ Prod.fst replaced fun _ => rfl)

/-- In the elements, the normal form does not depend on the numbers' tokens. -/
lemma normalElems_map : ∀ l : List Json, ∀ j ∈ l,
    (normalJson ∘ Json.map id tok) j = (Json.map id tok ∘ normalJson) j
  | [] => fun _ h => absurd h List.not_mem_nil
  | j :: l => List.forall_mem_cons.mpr ⟨normalJson_map j, normalElems_map l⟩

/-- In the members, the normal form does not depend on the numbers' tokens. -/
lemma normalMembers_map : ∀ ms : List (String × Json), ∀ m ∈ ms,
    ((fun m => (nfc m.1, normalJson m.2)) ∘ fun m => (id m.1, m.2.map id tok)) m =
      ((fun m => (m.1, m.2.map id tok)) ∘ fun m => (nfc m.1, normalJson m.2)) m
  | [] => fun _ h => absurd h List.not_mem_nil
  | (k, j) :: ms => by
    refine List.forall_mem_cons.mpr ⟨?_, normalMembers_map ms⟩
    simp only [Function.comp_apply, normalJson_map j, id]

end

/-- What reading requires of the keys of a part. -/
def Keyed : Json → Prop
  | .constant _ => False
  | .obj l => (l.map fun m => nfc m.1).Nodup
  | _ => True

/-- A part with other tokens is plain by its names and the new tokens. -/
lemma plain_map {p : Json} : Plain (p.map id tok) ↔
    Keyed p ∧ ∀ n, p = .num n → ∃ cs, renderNumber (tok n) = .ok cs := by
  cases p with
  | obj ms =>
    rw [Json.map, Plain, Keyed, mapMembers_eq, List.map_map]
    simp only [reduceCtorEq, false_implies, implies_true, and_true]
    rfl
  | null | bool | constant | str | arr => simp [Json.map, Plain, Keyed]
  | num n => simp [Json.map, Plain, Keyed]

/-- Normal form keeps what reading requires of the keys. -/
lemma keyed_normal {j : Json} (h : ∀ p ∈ j.parts, Keyed p) : ∀ p ∈ (normalJson j).parts, Keyed p := by
  intro p hp
  obtain ⟨q, hq, rfl⟩ := mem_parts_sortKeys.mp hp
  obtain ⟨r, hr, rfl⟩ := mem_parts_map.mp hq
  have part := h r hr
  cases r with
  | obj l =>
    rw [Json.map, Json.sortKeys, Keyed, sortMembers_eq, mapMembers_eq, List.map_map]
    refine (sortedBy_perm.map _).nodup_iff.mpr ?_
    have keys : (fun m : String × Json => nfc m.1) ∘ (fun m => (m.1, m.2.sortKeys)) ∘
        (fun m : String × Json => (nfc m.1, m.2.map nfc id)) = fun m => nfc m.1 :=
      funext fun m => Platform.nfc_idem m.1
    rw [List.map_map, keys]
    exact part
  | null | bool | constant | num | str | arr => exact part

/-- The text of an ordered value with keys in NFC is canonical exactly when every number in it is
written back as it stands. -/
lemma canonicalPlainJson_print {f : Number → List Char} {j : Json} (ht : Tokens f tok j.parts)
    (text : ∀ n, NumberText (f n)) (ordered : normalJson j = j) (keys : ∀ p ∈ j.parts, Keyed p) :
    canonicalPlainJson (String.ofList (j.printWith f)) = .ok () ↔
      ∀ n, .num n ∈ j.parts → renderNumber (tok n) = .ok (f n) := by
  have chars (n) : NumberText (numberChars n) := by
    cases h : renderNumber n with
    | ok cs => exact numberChars_ok h ▸ (renderNumber_token h).1
    | error e =>
      rw [numberChars, h]
      exact numberText_nil
  have plain : (∀ p ∈ (j.map id tok).parts, Plain p) ↔
      ∀ n, .num n ∈ j.parts → ∃ cs, renderNumber (tok n) = .ok cs := by
    simp only [mem_parts_map, forall_exists_index, and_imp, forall_apply_eq_imp_iff₂, plain_map]
    constructor
    · exact fun h n hn => (h _ hn).2 n rfl
    · intro h p hp
      refine ⟨keys p hp, ?_⟩
      rintro n rfl
      exact h n hp
  simp only [canonicalPlainJson_iff, Json.parse_printWith ht, Option.some.injEq, exists_eq_left',
    plain, normalJson_map, ordered, Json.printWith_map, String.toList_ofList]
  rw [Json.printWith_inj (fun n => chars (tok n)) text]
  constructor
  · rintro ⟨render, same⟩ n hn
    obtain ⟨cs, hcs⟩ := render n hn
    rw [hcs, ← same n hn, numberChars_ok hcs]
  · intro h
    exact ⟨fun n hn => ⟨_, h n hn⟩, fun n hn => numberChars_ok (h n hn)⟩

end

end

/-! ### Values the program writes -/

/-- Different ASCII keys. -/
def PlainKeys (keys : List String) : Prop := keys.Nodup ∧ ∀ key ∈ keys, isAscii key

instance (keys : List String) : Decidable (PlainKeys keys) := by
  unfold PlainKeys
  infer_instance

/-- A value whose objects have different ASCII keys and whose numbers are written back as they
stand. -/
def Tidy (j : Json) : Prop := ∀ p ∈ j.parts, match p with
  | .constant _ => False
  | .num n => renderNumber n = .ok n.print
  | .obj l => PlainKeys (l.map Prod.fst)
  | _ => True

/-- The members of a tidy object. -/
def MembersTidy (ms : List (String × Json)) : Prop := ∀ m ∈ ms, Tidy m.2

section
variable {l : List Json} {ms : List (String × Json)}

@[simp] lemma membersTidy_nil : MembersTidy [] := by simp [MembersTidy]

@[simp] lemma membersTidy_cons {k : String} {j : Json} :
    MembersTidy ((k, j) :: ms) ↔ Tidy j ∧ MembersTidy ms := by
  simp only [MembersTidy, List.forall_mem_cons]

@[simp] lemma membersTidy_append {ms' : List (String × Json)} :
    MembersTidy (ms ++ ms') ↔ MembersTidy ms ∧ MembersTidy ms' := by
  simp only [MembersTidy, List.forall_mem_append]

@[simp] lemma tidy_null : Tidy .null := by simp [Tidy, Json.parts]
@[simp] lemma tidy_bool {b : Bool} : Tidy (.bool b) := by simp [Tidy, Json.parts]
@[simp] lemma tidy_str {s : String} : Tidy (.str s) := by simp [Tidy, Json.parts]

/-- An integer is written back as it stands when it has few enough digits. -/
lemma renderNumber_ofInt {i : Int} : renderNumber (.ofInt i) = .ok (Number.ofInt i).print ↔
    (natChars i.natAbs).length ≤ maxIntDigits := by
  have value : (if (Number.ofInt i).neg then -((Number.ofInt i).int : Int)
      else (Number.ofInt i).int) = i := by
    simp only [Number.ofInt, decide_eq_true_eq]
    omega
  rw [renderNumber, loadNumber, if_pos ⟨rfl, rfl⟩, value]
  by_cases long : maxIntDigits < (natChars (Number.ofInt i).int).length
  · rw [if_pos long, error_bind]
    constructor
    · intro h
      cases h
    · exact fun h => absurd long (not_lt.mpr h)
  · rw [if_neg long, ok_bind, dumpsValue, intChars_ofInt]
    exact ⟨fun _ => not_lt.mp long, fun _ => rfl⟩

@[simp] lemma tidy_int {i : Int} : Tidy (.int i) ↔ (natChars i.natAbs).length ≤ maxIntDigits := by
  rw [← renderNumber_ofInt]
  simp [Tidy, Json.int, Json.parts]

@[simp] lemma tidy_arr : Tidy (.arr l) ↔ ∀ j ∈ l, Tidy j := by
  rw [Tidy, forall_parts_arr]
  simp only [true_and]
  rfl

@[simp] lemma tidy_obj : Tidy (.obj ms) ↔ PlainKeys (ms.map Prod.fst) ∧ MembersTidy ms := by
  rw [Tidy, forall_parts_obj]
  rfl

end

section
variable [Platform]

mutual

/-- The normal form of a value with ASCII keys orders them. -/
lemma Tidy.normal : ∀ {j : Json}, Tidy j → normalJson j = j.sortKeys
  | .null, _ | .bool _, _ | .constant _, _ | .num _, _ | .str _, _ => rfl
  | .arr l, h => by
    rw [normal_arr, Json.sortKeys, sortElems_eq]
    exact congrArg Json.arr (List.map_congr_left (tidyElems_normal (tidy_arr.mp h)))
  | .obj ms, h => by
    obtain ⟨⟨-, ascii⟩, members⟩ := tidy_obj.mp h
    have same : ∀ m ∈ ms, (nfc m.1, normalJson m.2) = (m.1, m.2.sortKeys) := by
      intro m hm
      rw [Platform.nfc_ascii _ (ascii _ (List.mem_map_of_mem hm)), tidyMembers_normal members m hm]
    rw [normal_obj, Json.sortKeys, sortMembers_eq, List.map_congr_left same]

/-- Tidy elements only have their members sorted. -/
lemma tidyElems_normal : ∀ {l : List Json}, (∀ j ∈ l, Tidy j) → ∀ j ∈ l, normalJson j = j.sortKeys
  | [], _ => fun _ h => absurd h List.not_mem_nil
  | j :: l, h => by
    rw [List.forall_mem_cons] at h ⊢
    exact ⟨h.1.normal, tidyElems_normal h.2⟩

/-- Tidy members only have their members sorted. -/
lemma tidyMembers_normal : ∀ {ms : List (String × Json)}, MembersTidy ms →
    ∀ m ∈ ms, normalJson m.2 = m.2.sortKeys
  | [], _ => fun _ h => absurd h List.not_mem_nil
  | (_, j) :: ms, h => by
    rw [membersTidy_cons] at h
    exact List.forall_mem_cons.mpr ⟨h.1.normal, tidyMembers_normal h.2⟩

end

omit [Platform] in
/-- Ordering the keys keeps a value tidy. -/
lemma Tidy.sortKeys {j : Json} (h : Tidy j) : Tidy j.sortKeys := by
  intro p hp
  obtain ⟨q, hq, rfl⟩ := mem_parts_sortKeys.mp hp
  have part := h q hq
  cases q with
  | obj l =>
    have keys : ((sortedBy Prod.fst (sortMembers l)).map Prod.fst).Perm (l.map Prod.fst) := by
      refine (sortedBy_perm.map _).trans ?_
      rw [sortMembers_eq, List.map_map]
      exact .refl _
    exact ⟨keys.nodup_iff.mpr part.1, fun key hk => part.2 key (keys.mem_iff.mp hk)⟩
  | null | bool | constant | num | str | arr => exact part

/-- The text of a tidy value is canonical. -/
lemma Tidy.canonical {j : Json} (h : Tidy j) : canonicalPlainJson j.dumps = .ok () := by
  have sorted := h.sortKeys
  have keyed : ∀ p ∈ j.sortKeys.parts, Keyed p := by
    intro p hp
    have part := sorted p hp
    cases p with
    | obj l =>
      have keys : (l.map fun m => nfc m.1) = l.map Prod.fst :=
        List.map_congr_left fun m hm => Platform.nfc_ascii _ (part.2 _ (List.mem_map_of_mem hm))
      rw [Keyed, keys]
      exact part.1
    | constant => exact part
    | null | bool | num | str | arr => trivial
  have ordered : normalJson j.sortKeys = j.sortKeys := by
    rw [sorted.normal, Json.sortKeys_idem]
  rw [Json.dumps, Json.print_eq, canonicalPlainJson_print (fun n _ => n.isToken) ?_ ordered keyed]
  · exact fun n hn => sorted _ hn
  · exact fun n => n.numberText

end

end GAM
