import GAM.Consequences.Report
import GAM.Memory.Rendering

/-!
# Reading a report again

Printing after parsing is a projection: the text of an outcome is delivered by its column as it was
written and printed again as it is, unless a number in it rounds to a negative zero. The leaves have
no number tokens, so their text comes back in any case. Hence the row of a report is read as the
report, and a call that repeats its key is answered from the row.
-/

namespace GAM
open Lib

section
variable [Platform] {text written : String} {j : Json}

/-- Replacing the strings keeps what reading requires of the keys. -/
lemma keyed_outcomeTree (h : ∀ p ∈ j.parts, Keyed p) : ∀ p ∈ (outcomeTree j).parts, Keyed p := by
  intro p hp
  obtain ⟨q, hq, rfl⟩ := mem_parts_mapStrings.mp hp
  have part := h q hq
  cases q with
  | obj l =>
    rw [Json.mapStrings, Keyed, mapStringsMembers_eq, List.map_map]
    exact part
  | null | bool | constant | num | str | arr => exact part

/-- When a text has an outcome text, and which. -/
lemma outcomeText_ok : outcomeText text = .ok written ↔
    ∃ j, Json.parse text = some j ∧ (∀ p ∈ j.parts, Keyed p) ∧
      (∀ n, .num n ∈ j.parts → Decimal.accepts n = true ∧ Prints n) ∧
      written = String.ofList ((normalJson (outcomeTree j)).printWith decimalChars) := by
  simp only [outcomeText, bind_eq_ok, plainOutcome, pure_eq_ok, Except.ok.injEq, ensure_eq_ok,
    exists_unit]
  constructor
  · rintro ⟨v, parse, unicode, cs, print, rfl⟩
    obtain ⟨j, parsed, keyed, accepted, rfl⟩ := parseOutcome_ok.mp ⟨parse, unicode⟩
    obtain ⟨prints, rfl⟩ := (plainText_decimalValue (keyed_outcomeTree keyed)).mp print
    exact ⟨j, parsed, keyed, fun n hn => ⟨accepted n hn, prints n (num_mem_mapStrings.mpr hn)⟩, rfl⟩
  · rintro ⟨j, parsed, keyed, numbers, rfl⟩
    exact ⟨_, parseOutcome_tree parsed keyed fun n hn => (numbers n hn).1, decimalValue_unicode _, _,
      (plainText_decimalValue (keyed_outcomeTree keyed)).mpr
        ⟨fun n hn => (numbers n (num_mem_mapStrings.mp hn)).2, rfl⟩, rfl⟩

/-- No number of the text is written as a negative zero. -/
def Unsigned (text : String) : Prop :=
  ∀ j, Json.parse text = some j → ∀ n, .num n ∈ j.parts → decimalChars n ≠ ['-', '0']

end

mutual

/-- A tree without constants is standard JSON. -/
lemma isStandard_of_parts : ∀ {j : Json}, (∀ c, .constant c ∉ j.parts) → isStandard j = true
  | .null, _ | .bool _, _ | .num _, _ | .str _, _ => rfl
  | .constant c, h => absurd (Json.mem_parts _) (h c)
  | .arr l, h => by
    rw [isStandard, standardElems_iff]
    refine isStandard_elems fun j hj c hc => h c ?_
    exact mem_parts_arr.mpr (.inr ⟨j, hj, hc⟩)
  | .obj ms, h => by
    rw [isStandard, standardMembers_iff]
    refine isStandard_members fun m hm c hc => h c ?_
    exact mem_parts_obj.mpr (.inr ⟨m, hm, hc⟩)

lemma isStandard_elems : ∀ {l : List Json}, (∀ j ∈ l, ∀ c, .constant c ∉ j.parts) →
    ∀ j ∈ l, isStandard j = true
  | [], _ => fun _ h => absurd h List.not_mem_nil
  | j :: l, h => by
    rw [List.forall_mem_cons] at h
    exact List.forall_mem_cons.mpr ⟨isStandard_of_parts h.1, isStandard_elems h.2⟩

lemma isStandard_members : ∀ {ms : List (String × Json)},
    (∀ m ∈ ms, ∀ c, .constant c ∉ m.2.parts) → ∀ m ∈ ms, isStandard m.2 = true
  | [], _ => fun _ h => absurd h List.not_mem_nil
  | (_, j) :: ms, h => by
    rw [List.forall_mem_cons] at h
    exact List.forall_mem_cons.mpr ⟨isStandard_of_parts h.1, isStandard_members h.2⟩

end

section
variable [Platform] {text written : String} {j : Json}

/-- Replacing the strings and ordering the keys are done once. -/
lemma outcomeTree_normal : outcomeTree (normalJson (outcomeTree j)) = normalJson (outcomeTree j) := by
  rw [outcomeTree, normalJson, Json.mapStrings_sortKeys, Json.mapStrings_map, outcomeTree,
    Json.mapStrings_idem Platform.nfc_idem]

lemma sortKeys_normal : (normalJson j).sortKeys = normalJson j := by
  rw [normalJson, Json.sortKeys_idem]

/-- The text of an outcome is delivered as it was written, and is its own outcome text. -/
lemma outcomeText_again (h : outcomeText text = .ok written) (unsigned : Unsigned text) :
    castJsonb written = .ok written ∧ outcomeText written = .ok written := by
  obtain ⟨j, parsed, keyed, texts, rfl⟩ := outcomeText_ok.mp h
  have numbers (n : Number) (hn : .num n ∈ (normalJson (outcomeTree j)).parts) :
      Prints n ∧ decimalChars n ≠ ['-', '0'] := by
    have source := num_mem_mapStrings.mp (num_mem_normal.mp hn)
    exact ⟨(texts n source).2, unsigned j parsed n source⟩
  have keyed' := keyed_normal (keyed_outcomeTree keyed)
  have tree : outcomeTree (normalJson (outcomeTree j)) = normalJson (outcomeTree j) :=
    outcomeTree_normal
  have normal : normalJson (normalJson (outcomeTree j)) = normalJson (outcomeTree j) :=
    normalJson_idem _
  generalize normalJson (outcomeTree j) = k at numbers keyed' tree normal
  -- the text is read as the tree whose numbers are the written ones
  have again : Json.parse (String.ofList (k.printWith decimalChars)) = some (k.map id decimalToken) :=
    parse_decimal fun n hn => (numbers n hn).1
  have keyedAgain : ∀ p ∈ (k.map id decimalToken).parts, Keyed p := by
    intro p hp
    obtain ⟨q, hq, rfl⟩ := mem_parts_map.mp hp
    have part := keyed' q hq
    cases q with
    | obj l =>
      rw [Json.map, Keyed, mapMembers_eq, List.map_map]
      exact part
    | null | bool | constant | num | str | arr => exact part
  have normalAgain : normalJson (k.map id decimalToken) = k.map id decimalToken := by
    rw [normalJson_map, normal]
  constructor
  · refine castJsonb_ok.mpr ⟨_, again, isStandard_of_parts fun c hc => keyedAgain _ hc, ?_⟩
    have sorted : (k.map id decimalToken).sortKeys = k.map id decimalToken := by
      rw [← normalAgain, sortKeys_normal]
    rw [Json.dumps, sorted, Json.print_eq, Json.printWith_map]
    refine congrArg _ (Json.printWith_congr k fun n hn => ?_)
    exact (decimalToken_print (numbers n hn).1).1.symm
  · refine outcomeText_ok.mpr ⟨_, again, keyedAgain, ?_, ?_⟩
    · intro m hm
      obtain ⟨n, hn, rfl⟩ := num_mem_map.mp hm
      exact ⟨(numbers n hn).1.accepts, ((numbers n hn).1.again (numbers n hn).2).1⟩
    · have treeAgain : outcomeTree (k.map id decimalToken) = k.map id decimalToken := by
        rw [outcomeTree, Json.mapStrings_map, ← outcomeTree, tree]
      rw [treeAgain, normalAgain, Json.printWith_map]
      refine congrArg _ (Json.printWith_congr k fun n hn => ?_)
      exact ((numbers n hn).1.again (numbers n hn).2).2.symm

end

/-! ### The leaves -/

section
variable [Platform] {l : List Json} {ms : List (String × Json)}

/-- A part that the encoder writes and reads back as it is. -/
def Settled : Json → Prop
  | .constant _ | .num _ => False
  | .str s => nfc s = s
  | .obj l => (l.map Prod.fst).Nodup ∧ ∀ m ∈ l, nfc m.1 = m.1
  | _ => True

lemma Settled.keyed {j : Json} (h : Settled j) : Keyed j := by
  cases j with
  | obj l =>
    have same : (l.map fun m => nfc m.1) = l.map Prod.fst := List.map_congr_left h.2
    rw [Keyed, same]
    exact h.1
  | constant | num => exact h.elim
  | null | bool | str | arr => trivial

mutual

/-- A settled tree is encoded as itself after it is parsed. -/
lemma settled_value : ∀ {j : Json}, (∀ p ∈ j.parts, Settled p) →
    canonicalValue (decimalValue (outcomeTree j)) = .ok j
  | .null, _ | .bool _, _ => rfl
  | .constant _, h | .num _, h => (h _ (Json.mem_parts _)).elim
  | .str s, h => by
    have fixed : nfc s = s := h _ (Json.mem_parts _)
    rw [outcomeTree, Json.mapStrings, decimalValue, canonicalValue, Platform.nfc_idem, fixed]
  | .arr l, h => by
    rw [outcomeTree, Json.mapStrings, decimalValue, canonicalValue,
      settled_elems (forall_parts_arr.mp h).2]
    rfl
  | .obj ms, h => by
    obtain ⟨⟨nd, fixed⟩, inner⟩ := forall_parts_obj.mp h
    rw [outcomeTree, Json.mapStrings, decimalValue, canonicalValue,
      settled_members nd fixed (fun _ _ => List.not_mem_nil) inner]
    rfl

lemma settled_elems : ∀ {l : List Json}, (∀ j ∈ l, ∀ p ∈ j.parts, Settled p) →
    canonicalElems (decimalElems (mapStringsElems nfc l)) = .ok l
  | [], _ => rfl
  | j :: l, h => by
    rw [List.forall_mem_cons] at h
    have first : canonicalValue (decimalValue (j.mapStrings nfc)) = .ok j := settled_value h.1
    rw [mapStringsElems, decimalElems, canonicalElems, first, settled_elems h.2]
    rfl

lemma settled_members : ∀ {ms : List (String × Json)} {seen : List String},
    (ms.map Prod.fst).Nodup → (∀ m ∈ ms, nfc m.1 = m.1) → (∀ m ∈ ms, m.1 ∉ seen) →
    (∀ m ∈ ms, ∀ p ∈ m.2.parts, Settled p) →
      normalizedMapping seen (decimalMembers (mapStringsMembers nfc ms)) = .ok ms
  | [], _, _, _, _, _ => rfl
  | (k, j) :: ms, seen, nd, fixed, new, h => by
    rw [List.map_cons, List.nodup_cons] at nd
    rw [List.forall_mem_cons] at fixed new h
    have first : canonicalValue (decimalValue (j.mapStrings nfc)) = .ok j := settled_value h.1
    have key : nfc (nfc k) = k := (Platform.nfc_idem k).trans fixed.1
    have later : ∀ m ∈ ms, m.1 ∉ k :: seen := by
      intro m hm
      rw [List.mem_cons, not_or]
      refine ⟨fun e => nd.1 ?_, new.2 m hm⟩
      rw [← e]
      exact List.mem_map.mpr ⟨m, hm, rfl⟩
    rw [mapStringsMembers, decimalMembers, normalizedMapping, key, first,
      settled_members nd.2 fixed.2 later h.2]
    simp [ensure, new.1]

end

/-- Ordering the keys keeps a tree settled. -/
lemma settled_sortKeys {j : Json} (h : ∀ p ∈ j.parts, Settled p) :
    ∀ p ∈ j.sortKeys.parts, Settled p := by
  intro p hp
  obtain ⟨q, hq, rfl⟩ := mem_parts_sortKeys.mp hp
  have part := h q hq
  cases q with
  | obj l =>
    rw [Json.sortKeys, sortMembers_eq]
    have perm := (@sortedBy_perm _ _ _ Prod.fst (l.map fun m => (m.1, m.2.sortKeys))).map Prod.fst
    rw [List.map_map] at perm
    refine ⟨perm.nodup_iff.mpr part.1, fun m hm => ?_⟩
    obtain ⟨a, ha, e⟩ := List.mem_map.mp (perm.mem_iff.mp (List.mem_map_of_mem hm))
    rw [← e]
    exact part.2 a ha
  | null | bool | constant | num | str | arr => exact part

/-- A settled text is written again as it is. -/
lemma leafText_settled {j : Json} (h : ∀ p ∈ j.parts, Settled p) : leafText j.dumps = .ok j.dumps := by
  have sorted := settled_sortKeys h
  have value := parseOutcome_tree (Json.parse_dumps j) (fun p hp => (sorted p hp).keyed)
    fun n hn => absurd (sorted _ hn) id
  rw [leafText, value]
  change canonicalJson _ = _
  refine canonicalJson_eq_ok.mpr ⟨decimalValue_unicode _, _, settled_value sorted, ?_⟩
  rw [Json.dumps, Json.sortKeys_idem, ← Json.dumps]

omit [Platform] in
lemma isNumberChar_ascii {c : Char} (h : isNumberChar c = true) : c.toNat < 128 := by
  rw [isNumberChar, Bool.or_eq_true] at h
  rcases h with h | h
  · rw [Char.isDigit, Bool.and_eq_true, decide_eq_true_eq, decide_eq_true_eq] at h
    exact lt_of_le_of_lt (UInt32.le_iff_toNat_le.mp h.2) (by decide)
  · have signs : ['-', '+', '.', 'e', 'E'].all (fun c => c.toNat < 128) = true := rfl
    exact of_decide_eq_true (List.all_eq_true.mp signs c (of_decide_eq_true h))

/-- The text of a decimal is in NFC. -/
lemma decimalText_fixed {d : Decimal} {text : String} (h : decimalText d = .ok text) :
    nfc text = text := by
  rw [decimalText] at h
  split at h
  · rename_i finite
    split at h
    · rename_i cs e
      cases h
      have chars := (Decimal.canonicalChars_token finite e).1
      exact Platform.nfc_ascii _ fun c hc =>
        isNumberChar_ascii (chars c (by rwa [String.toList_ofList] at hc))
    · cases h
  · cases h

lemma settled_str {s : String} (h : nfc s = s) : ∀ p ∈ (Json.str s).parts, Settled p := by
  intro p hp
  simp only [Json.parts, List.mem_singleton] at hp
  rw [hp]
  exact h

omit [Platform] in
/-- The encoding of a leaf. -/
lemma leaf_value [Platform] {leaf : DivergenceLeaf} {j : Json}
    (h : canonicalValue (toValue leaf) = .ok j) :
    ∃ score, decimalText (decimalOf leaf.score) = .ok score ∧
      j = .obj [("json_pointer", .str (nfc leaf.jsonPointer)),
        ("predicted_present", .bool leaf.predictedPresent),
        ("actual_present", .bool leaf.actualPresent), ("kind", .str (nfc leaf.kind.text)),
        ("score", .obj [("$decimal", .str score)])] := by
  cases e : decimalText (decimalOf leaf.score) with
  | error err =>
    have : canonicalValue (toValue leaf) = .error err := by
      simp [toValue, canonicalValue, canonicalFields, e, Bind.bind, Except.bind]
    rw [this] at h
    cases h
  | ok score =>
    have : canonicalValue (toValue leaf) = .ok (.obj [("json_pointer", .str (nfc leaf.jsonPointer)),
        ("predicted_present", .bool leaf.predictedPresent),
        ("actual_present", .bool leaf.actualPresent), ("kind", .str (nfc leaf.kind.text)),
        ("score", .obj [("$decimal", .str score)])]) := by
      simp [toValue, canonicalValue, canonicalFields, e, Bind.bind, Except.bind, pure, Except.pure]
    rw [this] at h
    exact ⟨score, rfl, (Except.ok.inj h).symm⟩

/-- A leaf is encoded as a settled tree. -/
lemma settled_leaf {leaf : DivergenceLeaf} {j : Json} (h : canonicalValue (toValue leaf) = .ok j) :
    ∀ p ∈ j.parts, Settled p := by
  obtain ⟨score, hs, rfl⟩ := leaf_value h
  have keyed {ms : List (String × Json)} {keys : List String} (plain : PlainKeys keys)
      (e : ms.map Prod.fst = keys) : Settled (.obj ms) := by
    subst e
    exact ⟨plain.1, fun m hm => Platform.nfc_ascii _ (plain.2 _ (List.mem_map_of_mem hm))⟩
  have scored : ∀ p ∈ (Json.obj [("$decimal", .str score)]).parts, Settled p := by
    have plain : PlainKeys ["$decimal"] := by decide
    refine forall_parts_obj.mpr ⟨keyed plain rfl, ?_⟩
    simpa using settled_str (decimalText_fixed hs)
  have plain : PlainKeys ["json_pointer", "predicted_present", "actual_present", "kind", "score"] := by
    decide
  refine forall_parts_obj.mpr ⟨keyed plain rfl, ?_⟩
  simp only [List.forall_mem_cons]
  refine ⟨settled_str (Platform.nfc_idem _), ?_, ?_, settled_str (Platform.nfc_idem _), scored,
    fun _ h => absurd h List.not_mem_nil⟩
  · simp [Json.parts, Settled]
  · simp [Json.parts, Settled]

lemma settled_leaves {leaves : List DivergenceLeaf} {js : List Json}
    (h : canonicalElems (leaves.map toValue) = .ok js) : ∀ j ∈ js, ∀ p ∈ j.parts, Settled p := by
  induction leaves generalizing js with
  | nil =>
    cases h
    exact fun _ h => absurd h List.not_mem_nil
  | cons leaf leaves ih =>
    rw [List.map_cons, canonicalElems, bind_eq_ok] at h
    obtain ⟨j, first, h⟩ := h
    obtain ⟨js', rest, h⟩ := bind_eq_ok.mp h
    cases h
    exact List.forall_mem_cons.mpr ⟨settled_leaf first, ih rest⟩

/-- The text of the leaves is delivered as it was written, and is read as itself. -/
lemma leafText_again {leaves : List DivergenceLeaf} {text : String}
    (h : canonicalJson (.tuple (leaves.map toValue)) = .ok text) :
    castJsonb text = .ok text ∧ leafText text = .ok text := by
  obtain ⟨-, j, value, rfl⟩ := canonicalJson_eq_ok.mp h
  refine ⟨castJsonb_dump h, leafText_settled ?_⟩
  rw [canonicalValue, bind_eq_ok] at value
  obtain ⟨js, elems, value⟩ := value
  cases value
  exact forall_parts_arr.mpr ⟨trivial, settled_leaves elems⟩

end

end GAM
