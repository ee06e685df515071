import GAM.Consequences.Divergence
import GAM.Traces.Digest

/-!
# What the outcome digests identify

A number is hashed as the object `$decimal` of its canonical text, inside the same JSON that outcomes
range over. So the digests identify more than equal values: numbers that round to the same text, and
a number with the object that it is encoded as. `Alike` is that relation, read off the values.
-/

namespace GAM
open Lib

/-! ### Members by their keys -/

section
variable {α : Type} {l l' : List (String × α)}

/-- Mappings have one sorted form when they have the same member under every key. -/
lemma sortedBy_lookup (nd : (l.map Prod.fst).Nodup) (nd' : (l'.map Prod.fst).Nodup) :
    sortedBy Prod.fst l = sortedBy Prod.fst l' ↔ ∀ k, l.lookup k = l'.lookup k := by
  constructor
  · intro h k
    have right : (sortedBy Prod.fst l).Perm l' := h ▸ sortedBy_perm
    have perm : l.Perm l' := sortedBy_perm.symm.trans right
    cases e : l'.lookup k with
    | some a => exact lookup_of_mem nd (perm.mem_iff.mpr ((mem_iff_lookup nd').mpr e))
    | none =>
      refine lookup_of_notMem fun hk => ?_
      obtain ⟨m, hm, rfl⟩ := List.mem_map.mp hk
      rw [lookup_of_mem nd' (perm.mem_iff.mp hm)] at e
      cases e
  · intro h
    have perm : l.Perm l' := by
      refine (List.perm_ext_iff_of_nodup nd.of_map nd'.of_map).mpr fun m => ?_
      rw [mem_iff_lookup nd, mem_iff_lookup nd', h]
    refine sortedBy_eq_of_perm perm fun a ha b hb e => ?_
    exact List.inj_on_of_nodup_map nd ha hb e

lemma lookup_map {β : Type} {f : α → β} {k : String} :
    (l.map fun m => (m.1, f m.2)).lookup k = (l.lookup k).map f := by
  induction l with
  | nil => rfl
  | cons m l ih =>
    rw [List.map_cons, List.lookup_cons, List.lookup_cons]
    cases k == m.1
    · exact ih
    · rfl

end

/-! ### Outcomes -/

section
variable [Platform]

/-- A value as it is parsed: strings and keys in NFC, keys distinct, numbers finite. -/
inductive IsOutcome : Value → Prop where
  | null : IsOutcome .none
  | bool {b} : IsOutcome (.bool b)
  | number {d : Decimal} :
    d.isFinite = true →
    IsOutcome (.decimal d)
  | str {s} :
    nfc s = s →
    IsOutcome (.str s)
  | array {l : List Value} :
    (∀ v ∈ l, IsOutcome v) →
    IsOutcome (.tuple l)
  | object {l : List (String × Value)} :
    (l.map Prod.fst).Nodup →
    (∀ m ∈ l, nfc m.1 = m.1) →
    (∀ m ∈ l, IsOutcome m.2) →
    IsOutcome (.dict l)

lemma IsOutcome.str_fixed {s : String} (h : IsOutcome (.str s)) : nfc s = s := by
  cases h with
  | str fixed => exact fixed

mutual

lemma isOutcome_tree : ∀ {j : Json}, (∀ p ∈ j.parts, Keyed p) →
    IsOutcome (decimalValue (outcomeTree j))
  | .null, _ => .null
  | .bool _, _ => .bool
  | .constant _, h => (h _ (Json.mem_parts _)).elim
  | .num _, _ => .number rfl
  | .str s, _ => .str (Platform.nfc_idem s)
  | .arr l, h => by
    rw [outcomeTree, Json.mapStrings, decimalValue]
    exact .array (isOutcome_elems (forall_parts_arr.mp h).2)
  | .obj ms, h => by
    obtain ⟨keyed, inner⟩ := forall_parts_obj.mp h
    have keys : (decimalMembers (mapStringsMembers nfc ms)).map Prod.fst =
        ms.map fun m => nfc m.1 := by
      rw [decimalMembers_eq, mapStringsMembers_eq, List.map_map, List.map_map]
      rfl
    have members := isOutcome_members inner
    rw [outcomeTree, Json.mapStrings, decimalValue]
    exact .object (keys ▸ keyed) (fun m hm => (members m hm).1) fun m hm => (members m hm).2

lemma isOutcome_elems : ∀ {l : List Json}, (∀ j ∈ l, ∀ p ∈ j.parts, Keyed p) →
    ∀ v ∈ decimalElems (mapStringsElems nfc l), IsOutcome v
  | [], _ => fun _ h => absurd h List.not_mem_nil
  | j :: l, h => by
    rw [List.forall_mem_cons] at h
    rw [mapStringsElems, decimalElems, List.forall_mem_cons]
    exact ⟨isOutcome_tree h.1, isOutcome_elems h.2⟩

lemma isOutcome_members : ∀ {ms : List (String × Json)}, (∀ m ∈ ms, ∀ p ∈ m.2.parts, Keyed p) →
    ∀ m ∈ decimalMembers (mapStringsMembers nfc ms), nfc m.1 = m.1 ∧ IsOutcome m.2
  | [], _ => fun _ h => absurd h List.not_mem_nil
  | (k, j) :: ms, h => by
    rw [List.forall_mem_cons] at h
    rw [mapStringsMembers, decimalMembers, List.forall_mem_cons]
    exact ⟨⟨Platform.nfc_idem k, isOutcome_tree h.1⟩, isOutcome_members h.2⟩

end

/-- What is parsed without lone surrogates is an outcome. -/
lemma parseOutcome_isOutcome {text : String} {v : Value} (h : parseOutcome text = .ok v)
    (unicode : v.isUnicode = true) : IsOutcome v := by
  obtain ⟨j, -, keyed, -, rfl⟩ := parseOutcome_ok.mp ⟨h, unicode⟩
  exact isOutcome_tree keyed

/-! ### Codes -/

/-- The canonical encoding of a value, with its keys ordered. -/
def code (v : Value) : Json := (((canonicalValue v).toOption).getD .null).sortKeys

lemma code_eq {v : Value} {j : Json} (h : canonicalValue v = .ok j) : code v = j.sortKeys := by
  rw [code, h]
  rfl

lemma code_str {s : String} (h : nfc s = s) : code (.str s) = .str s := by
  rw [code_eq (j := .str (nfc s)) rfl, h]
  rfl

lemma code_decimal {d : Decimal} (h : Encodes (.decimal d)) :
    ∃ cs, d.canonicalChars = some cs ∧
      code (.decimal d) = .obj [("$decimal", .str (String.ofList cs))] := by
  obtain ⟨-, j, h⟩ := h
  have hj := code_eq h
  simp only [canonicalValue, decimalText, bind_eq_ok, pure_eq_ok, Except.ok.injEq] at h
  obtain ⟨text, ht, rfl⟩ := h
  split at ht
  · split at ht
    · rename_i cs hcs
      cases ht
      exact ⟨cs, hcs, hj⟩
    · cases ht
  · cases ht

lemma code_tuple {l : List Value} (h : Encodes (.tuple l)) :
    code (.tuple l) = .arr (l.map code) := by
  obtain ⟨-, j, h⟩ := h
  rw [code_eq h]
  simp only [canonicalValue, bind_eq_ok, pure_eq_ok, Except.ok.injEq] at h
  obtain ⟨js, hjs, rfl⟩ := h
  rw [Json.sortKeys, sortElems_eq]
  congr 1
  induction l generalizing js with
  | nil =>
    cases hjs
    rfl
  | cons v l ih =>
    simp only [canonicalElems, bind_eq_ok, pure_eq_ok, Except.ok.injEq] at hjs
    obtain ⟨j, hj, js, hjs, rfl⟩ := hjs
    rw [List.map_cons, List.map_cons, ih js hjs, code_eq hj]

/-- A mapping is encoded when its members are, under distinct keys in NFC. -/
lemma code_dict {l : List (String × Value)} (fixed : ∀ m ∈ l, nfc m.1 = m.1)
    (h : Encodes (.dict l)) :
    code (.dict l) = .obj (sortedBy Prod.fst (l.map fun m => (m.1, code m.2))) ∧
      ∀ m ∈ l, Encodes m.2 := by
  obtain ⟨us, j, h⟩ := h
  rw [code_eq h]
  simp only [canonicalValue, bind_eq_ok, pure_eq_ok, Except.ok.injEq] at h
  obtain ⟨ms, hms, rfl⟩ := h
  refine ⟨?_, ((encodes_mapping l []).mp ⟨Value.isUnicode_dict.mp us, ms, hms⟩).2.2⟩
  rw [Json.sortKeys, sortMembers_eq, normalizedMapping_eq hms, List.map_map]
  refine congrArg (fun l => Json.obj (sortedBy Prod.fst l)) (List.map_congr_left fun m hm => ?_)
  change (nfc m.1, _) = _
  rw [fixed m hm]
  rfl

end

/-- Values with one encoding: as `SameOutcome`, but numbers need only round to one text, and a
number is like the object that it is encoded as. -/
inductive Alike : Value → Value → Prop where
  | null : Alike .none .none
  | bool {b} : Alike (.bool b) (.bool b)
  | str {s} : Alike (.str s) (.str s)
  | rounded {p a : Decimal} :
    p.canonicalChars = a.canonicalChars →
    Alike (.decimal p) (.decimal a)
  | tagged {d : Decimal} {cs : List Char} :
    d.canonicalChars = some cs →
    Alike (.decimal d) (.dict [("$decimal", .str (String.ofList cs))])
  | untagged {d : Decimal} {cs : List Char} :
    d.canonicalChars = some cs →
    Alike (.dict [("$decimal", .str (String.ofList cs))]) (.decimal d)
  | array {pItems aItems : List Value} :
    (∀ i : Nat, pItems[i]? = none ↔ aItems[i]? = none) →
    (∀ (i : Nat) v w, pItems[i]? = some v → aItems[i]? = some w → Alike v w) →
    Alike (.tuple pItems) (.tuple aItems)
  | object {pMap aMap : List (String × Value)} :
    (∀ key, pMap.lookup key = none ↔ aMap.lookup key = none) →
    (∀ key v w, pMap.lookup key = some v → aMap.lookup key = some w → Alike v w) →
    Alike (.dict pMap) (.dict aMap)

/-- Different values with one encoding. -/
def Confused (p a : Value) : Prop := Alike p a ∧ ¬SameOutcome p a

/-- Options are mapped to one value when both are absent or their contents are. -/
lemma option_map_eq {α β : Type} {f : α → β} {o p : Option α} :
    o.map f = p.map f ↔ (o = none ↔ p = none) ∧ ∀ v w, o = some v → p = some w → f v = f w := by
  cases o <;> cases p <;> simp

section
variable [Platform]

/-- Only the object of its text has the encoding of a number. -/
lemma code_dict_tag {l : List (String × Value)} {cs : List Char}
    (fixed : ∀ m ∈ l, nfc m.1 = m.1) (outcomes : ∀ m ∈ l, IsOutcome m.2) (h : Encodes (.dict l)) :
    code (.dict l) = .obj [("$decimal", .str (String.ofList cs))] ↔
      l = [("$decimal", .str (String.ofList cs))] := by
  obtain ⟨hcode, inner⟩ := code_dict fixed h
  constructor
  swap
  · rintro rfl
    rw [hcode, List.map_cons, List.map_nil, sortedBy_singleton,
      code_str (outcomes _ List.mem_cons_self).str_fixed]
  intro e
  rw [hcode, Json.obj.injEq] at e
  have perm := (e ▸ sortedBy_perm :
    [("$decimal", Json.str (String.ofList cs))].Perm (l.map fun m => (m.1, code m.2)))
  have single := List.perm_singleton.mp perm.symm
  cases l with
  | nil => cases single
  | cons m l =>
    cases l with
    | cons n l => exact absurd (congrArg List.length single) (by simp)
    | nil =>
      obtain ⟨k, v⟩ := m
      have outcome : IsOutcome v := outcomes _ List.mem_cons_self
      have encodes : Encodes v := inner _ List.mem_cons_self
      rw [List.map_cons, List.map_nil, List.cons.injEq, Prod.mk.injEq] at single
      obtain ⟨⟨key, hv⟩, -⟩ := single
      dsimp only at key hv
      subst key
      -- only a string is encoded as a string
      cases outcome with
      | null | bool => cases hv
      | number _ =>
        obtain ⟨cs', -, e⟩ := code_decimal encodes
        rw [e] at hv
        cases hv
      | str normal =>
        rw [code_str normal] at hv
        cases hv
        rfl
      | array _ =>
        rw [code_tuple encodes] at hv
        cases hv
      | object _ normal _ =>
        rw [(code_dict normal encodes).1] at hv
        cases hv

/-- The kind of an encoding. -/
def codeKind : Json → JsonKind
  | .null => .null
  | .bool _ => .boolean
  | .str _ => .string
  | .arr _ => .array
  | .obj _ => .object
  | _ => .number

/-- The kind of the encoding of an outcome: numbers are encoded as objects. -/
def encodedKind : Value → JsonKind
  | .none => .null
  | .bool _ => .boolean
  | .str _ => .string
  | .tuple _ => .array
  | _ => .object

lemma codeKind_code {v : Value} (h : IsOutcome v) (e : Encodes v) :
    codeKind (code v) = encodedKind v := by
  cases h with
  | null | bool => rfl
  | number _ =>
    obtain ⟨cs, -, hc⟩ := code_decimal e
    rw [hc]
    rfl
  | str fixed =>
    rw [code_str fixed]
    rfl
  | array _ =>
    rw [code_tuple e]
    rfl
  | object _ fixed _ =>
    rw [(code_dict fixed e).1]
    rfl

omit [Platform] in
lemma Alike.kind {p a : Value} (h : Alike p a) : encodedKind p = encodedKind a := by
  cases h <;> rfl

/-- Objects have one encoding when they have the same keys, with one encoding under each. -/
lemma code_dict_iff {l l' : List (String × Value)} (nd : (l.map Prod.fst).Nodup)
    (nd' : (l'.map Prod.fst).Nodup) (fixed : ∀ m ∈ l, nfc m.1 = m.1)
    (fixed' : ∀ m ∈ l', nfc m.1 = m.1) (e : Encodes (.dict l)) (e' : Encodes (.dict l')) :
    code (.dict l) = code (.dict l') ↔ ∀ key, (l.lookup key = none ↔ l'.lookup key = none) ∧
      ∀ v w, l.lookup key = some v → l'.lookup key = some w → code v = code w := by
  have keys (l : List (String × Value)) :
      (l.map fun m => (m.1, code m.2)).map Prod.fst = l.map Prod.fst := by
    rw [List.map_map]
    rfl
  rw [(code_dict fixed e).1, (code_dict fixed' e').1, Json.obj.injEq,
    sortedBy_lookup ((keys l).symm ▸ nd) ((keys l').symm ▸ nd')]
  simp only [lookup_map, option_map_eq]

/-- Arrays have one encoding when their elements have, one by one. -/
lemma code_tuple_iff {l l' : List Value} (e : Encodes (.tuple l)) (e' : Encodes (.tuple l')) :
    code (.tuple l) = code (.tuple l') ↔ ∀ i : Nat, (l[i]? = none ↔ l'[i]? = none) ∧
      ∀ v w, l[i]? = some v → l'[i]? = some w → code v = code w := by
  rw [code_tuple e, code_tuple e', Json.arr.injEq, List.ext_getElem?_iff]
  simp only [List.getElem?_map, option_map_eq]

lemma codeKind_ne {p a : Value} (hp : IsOutcome p) (ha : IsOutcome a) (ep : Encodes p)
    (ea : Encodes a) (kind : encodedKind p ≠ encodedKind a) : code p = code a ↔ Alike p a := by
  refine iff_of_false (fun e => kind ?_) fun h => kind h.kind
  rw [← codeKind_code hp ep, e, codeKind_code ha ea]

/-- Outcomes have one encoding exactly when they are alike. -/
lemma code_eq_iff {p a : Value} (hp : IsOutcome p) (ha : IsOutcome a) (ep : Encodes p)
    (ea : Encodes a) : code p = code a ↔ Alike p a := by
  by_cases kind : encodedKind p = encodedKind a
  swap
  · exact codeKind_ne hp ha ep ea kind
  induction hp generalizing a with
  | null =>
    cases ha with
    | null => exact iff_of_true rfl .null
    | _ => cases kind
  | @bool b =>
    cases ha with
    | @bool c =>
      constructor
      · intro e
        cases Json.bool.inj e
        exact .bool
      · rintro ⟨⟩
        rfl
    | _ => cases kind
  | str fixed =>
    cases ha with
    | str fixed' =>
      rw [code_str fixed, code_str fixed', Json.str.injEq]
      constructor
      · rintro rfl
        exact .str
      · rintro ⟨⟩
        rfl
    | _ => cases kind
  | @number d finite =>
    obtain ⟨cs, hcs, hcode⟩ := code_decimal ep
    cases ha with
    | @number d' finite' =>
      obtain ⟨cs', hcs', hcode'⟩ := code_decimal ea
      rw [hcode, hcode']
      constructor
      · intro e
        have texts : String.ofList cs = String.ofList cs' := by simpa using e
        exact .rounded (hcs.trans ((String.ofList_injective texts) ▸ hcs'.symm))
      · rintro ⟨⟩
        rename_i same
        rw [hcs, hcs', Option.some.injEq] at same
        rw [same]
    -- a number's tag is an object with one member, so an object may have the same code
    | @object l nd fixed outcomes =>
      rw [hcode, eq_comm, code_dict_tag fixed outcomes ea]
      constructor
      · rintro rfl
        exact .tagged hcs
      · intro h
        cases h with
        | tagged hcs' =>
          rw [hcs, Option.some.injEq] at hcs'
          rw [hcs']
    | _ => cases kind
  | @array l outcomes ih =>
    cases ha with
    | @array l' outcomes' =>
      have inner := encodes_tuple.mp ep
      have inner' := encodes_tuple.mp ea
      -- the kinds of the elements need not be the same
      have each (i : Nat) (v w : Value) (hv : l[i]? = some v) (hw : l'[i]? = some w) :
          code v = code w ↔ Alike v w := by
        have mv := List.mem_of_getElem? hv
        have mw := List.mem_of_getElem? hw
        by_cases kind : encodedKind v = encodedKind w
        · exact ih v mv (outcomes' w mw) (inner v mv) (inner' w mw) kind
        · exact codeKind_ne (outcomes v mv) (outcomes' w mw) (inner v mv) (inner' w mw) kind
      rw [code_tuple_iff ep ea]
      constructor
      · intro h
        exact .array (fun i => (h i).1) fun i v w hv hw => (each i v w hv hw).mp ((h i).2 v w hv hw)
      · intro h
        cases h with
        | array lengths elements =>
          exact fun i => ⟨lengths i, fun v w hv hw => (each i v w hv hw).mpr (elements i v w hv hw)⟩
    | _ => cases kind
  | @object l nd fixed outcomes ih =>
    cases ha with
    -- and the other way around
    | number finite =>
      obtain ⟨cs, hcs, hcode⟩ := code_decimal ea
      rw [hcode, code_dict_tag fixed outcomes ep]
      constructor
      · rintro rfl
        exact .untagged hcs
      · intro h
        cases h with
        | untagged hcs' =>
          rw [hcs, Option.some.injEq] at hcs'
          rw [hcs']
    | @object l' nd' fixed' outcomes' =>
      have inner := (code_dict fixed ep).2
      have inner' := (code_dict fixed' ea).2
      have each (key : String) (v w : Value) (hv : l.lookup key = some v)
          (hw : l'.lookup key = some w) : code v = code w ↔ Alike v w := by
        have mv := (mem_iff_lookup nd).mpr hv
        have mw := (mem_iff_lookup nd').mpr hw
        by_cases kind : encodedKind v = encodedKind w
        · exact ih _ mv (outcomes' _ mw) (inner _ mv) (inner' _ mw) kind
        · exact codeKind_ne (outcomes _ mv) (outcomes' _ mw) (inner _ mv) (inner' _ mw) kind
      rw [code_dict_iff nd nd' fixed fixed' ep ea]
      constructor
      · intro h
        exact .object (fun key => (h key).1)
          fun key v w hv hw => (each key v w hv hw).mp ((h key).2 v w hv hw)
      · intro h
        cases h with
        | object keys members =>
          exact fun key => ⟨keys key, fun v w hv hw =>
            (each key v w hv hw).mpr (members key v w hv hw)⟩
    | _ => cases kind

/-- The same values are alike. -/
lemma SameOutcome.alike {p a : Value} (h : SameOutcome p a) (hp : IsOutcome p) (ha : IsOutcome a) :
    Alike p a := by
  induction h with
  | null => exact .null
  | bool => exact .bool
  | str => exact .str
  | number e =>
    cases hp with
    | number fp =>
      cases ha with
      | number fa => exact .rounded (Decimal.canonicalChars_congr fp fa e)
  | array lengths _ ih =>
    cases hp with
    | array inner =>
      cases ha with
      | array inner' =>
        refine .array lengths fun i v w hv hw => ih i v w hv hw ?_ ?_
        · exact inner v (List.mem_of_getElem? hv)
        · exact inner' w (List.mem_of_getElem? hw)
  | object keys _ ih =>
    cases hp with
    | object nd _ inner =>
      cases ha with
      | object nd' _ inner' =>
        refine .object keys fun key v w hv hw => ih key v w hv hw ?_ ?_
        · exact inner _ ((mem_iff_lookup nd).mpr hv)
        · exact inner' _ ((mem_iff_lookup nd').mpr hw)

/-- The two outcome digests are the same exactly when the outcomes are alike, when the digest
function does not confuse their texts. -/
lemma digest_eq_iff {p a : Value} {d e : String} (hp : IsOutcome p) (ha : IsOutcome a)
    (hd : canonicalSha256 p = .ok d) (he : canonicalSha256 a = .ok e)
    (distinct : ∀ t t', canonicalJson p = .ok t → canonicalJson a = .ok t' →
      sha256 t = sha256 t' → t = t') : d = e ↔ Alike p a := by
  obtain ⟨hu, j, hj, rfl⟩ := canonicalSha256_eq_ok.mp hd
  obtain ⟨hu', k, hk, rfl⟩ := canonicalSha256_eq_ok.mp he
  rw [← code_eq_iff hp ha ⟨hu, j, hj⟩ ⟨hu', k, hk⟩, code_eq hj, code_eq hk]
  constructor
  · intro e
    exact Json.dumps_injective (distinct _ _ (canonicalJson_eq_ok.mpr ⟨hu, j, hj, rfl⟩)
      (canonicalJson_eq_ok.mpr ⟨hu', k, hk, rfl⟩) e)
  · intro e
    rw [Json.dumps, Json.dumps, e]

/-- Equality of the two digests of an accepted comparison means equality of the outcomes, exactly
when the outcomes are not confused by their encoding. -/
theorem outcome_digests {ctx : Context} {predictedJson actualJson : String} {threshold : Decimal}
    {r : DivergenceResult} {p a : Value}
    (h : compareJson ctx predictedJson actualJson threshold = .ok r)
    (hp : parseOutcome predictedJson = .ok p) (ha : parseOutcome actualJson = .ok a)
    (distinct : ∀ t t', canonicalJson p = .ok t → canonicalJson a = .ok t' →
      sha256 t = sha256 t' → t = t') :
    (r.predictedDigest = r.actualDigest ↔ SameOutcome p a) ↔ ¬Confused p a := by
  obtain ⟨-, p', a', hp', ha', -, -, predicted, actual, -⟩ := compareJson_ok.mp h
  rw [hp] at hp'
  rw [ha] at ha'
  cases hp'
  cases ha'
  have outcome := parseOutcome_isOutcome hp (canonicalSha256_eq_ok.mp predicted).1
  have outcome' := parseOutcome_isOutcome ha (canonicalSha256_eq_ok.mp actual).1
  rw [digest_eq_iff outcome outcome' predicted actual distinct]
  constructor
  · rintro same ⟨alike, different⟩
    exact different (same.mp alike)
  · intro clear
    refine ⟨fun alike => ?_, fun same => same.alike outcome outcome'⟩
    by_contra different
    exact clear ⟨alike, different⟩

end

/-- One, written with and without a fraction. -/
theorem outcome_digests_one :
    let _ := asciiPlatform
    ∃ r p a, compareJson .exact "1" "1.0" (.finite false 5 (-1)) = .ok r ∧
      ((r.predictedDigest = r.actualDigest ↔ SameOutcome p a) ↔ ¬Confused p a) := by
  intro _
  have one : parseOutcome "1" = .ok (.decimal (.finite false 1 0)) :=
    parseOutcome_tree (Json.parse_print (.num ⟨false, 1, [], none⟩)) (by simp [Json.parts, Keyed])
      (by simpa [Json.parts] using by decide)
  have fraction : parseOutcome "1.0" = .ok (.decimal (.finite false 10 (-1))) :=
    parseOutcome_tree (Json.parse_print (.num ⟨false, 1, [0], none⟩)) (by simp [Json.parts, Keyed])
      (by simpa [Json.parts] using by decide)
  have leaves : compare .exact (.decimal (.finite false 1 0)) (.decimal (.finite false 10 (-1))) "" =
      .ok [⟨"", true, true, .number, 0⟩] := by
    have score : numberScore .exact (Decimal.finite false 1 0).value
        (Decimal.finite false 10 (-1)).value = some 0 := by
      norm_num [numberScore, Decimal.value, Decimal.signed, Context.sub, Context.abs, Context.div]
    rw [compare, score]
    rfl
  have score : averageScore .exact [0] = some 0 := by
    have digits : Context.halfEven 0 = 0 := rfl
    norm_num [averageScore, Context.sum, Context.add, Context.div, Context.quantize, Context.exact,
      Context.round, digits]
  have text : canonicalJson (.decimal (.finite false 1 0)) =
      canonicalJson (.decimal (.finite false 10 (-1))) := rfl
  obtain ⟨d, hd⟩ := (encodes_decimal (d := .finite false 1 0) rfl (by decide)).digest
  obtain ⟨e, he⟩ := (encodes_decimal (d := .finite false 10 (-1)) rfl (by decide)).digest
  have accepted : compareJson .exact "1" "1.0" (.finite false 5 (-1)) =
      .ok ⟨"json-divergence-v1", d, e, _, 0, .finite false 5 (-1)⟩ :=
    compareJson_ok.mpr ⟨⟨rfl, by norm_num [Decimal.value, Decimal.signed]⟩, _, _, one, fraction, leaves,
      score, hd, he, rfl, rfl⟩
  refine ⟨_, _, _, accepted, outcome_digests accepted one fraction fun t t' ht ht' _ => ?_⟩
  rw [text, ht'] at ht
  exact (Except.ok.inj ht).symm

/-- A number and the object it is encoded as have one digest. -/
theorem outcome_digests_tag :
    let _ := asciiPlatform
    ∃ r p a, compareJson .default "1" "\x7b\"$decimal\":\"1\"\x7d" (.finite false 5 (-1)) = .ok r ∧
      parseOutcome "1" = .ok p ∧ parseOutcome "\x7b\"$decimal\":\"1\"\x7d" = .ok a ∧
      ¬(r.predictedDigest = r.actualDigest ↔ SameOutcome p a) := by
  intro _
  have one : parseOutcome "1" = .ok (.decimal (.finite false 1 0)) :=
    parseOutcome_tree (Json.parse_print (.num ⟨false, 1, [], none⟩)) (by simp [Json.parts, Keyed])
      (by simpa [Json.parts] using by decide)
  have tag : parseOutcome "\x7b\"$decimal\":\"1\"\x7d" = .ok (.dict [("$decimal", .str "1")]) :=
    parseOutcome_tree (Json.parse_print (.obj [("$decimal", .str "1")]))
      (by simp [Json.parts, Keyed, partsMembers]) (by simp [Json.parts, partsMembers])
  have leaves : compare .default (.decimal (.finite false 1 0)) (.dict [("$decimal", .str "1")]) "" =
      .ok [⟨"", true, true, .typeMismatch, 1⟩] := by
    rw [compare_mismatch (by simp) (by simp) (by simp) (by simp) (by simp) (by simp) (by simp)]
    rfl
  obtain ⟨d, hd⟩ := (encodes_decimal (d := .finite false 1 0) rfl (by decide)).digest
  have hd' : canonicalSha256 (.dict [("$decimal", .str "1")]) = .ok d := hd ▸ rfl
  have accepted : compareJson .default "1" "\x7b\"$decimal\":\"1\"\x7d" (.finite false 5 (-1)) =
      .ok ⟨"json-divergence-v1", d, d, _, 1, .finite false 5 (-1)⟩ :=
    compareJson_ok.mpr ⟨⟨rfl, by norm_num [Decimal.value, Decimal.signed]⟩, _, _, one, tag, leaves,
      averageScore_one, hd, hd', rfl, rfl⟩
  refine ⟨_, _, _, accepted, one, tag, fun same => ?_⟩
  cases same.mp rfl

end GAM
