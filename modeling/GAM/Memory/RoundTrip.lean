import GAM.Memory.StoredSnapshot

/-!
# Decoding what was written

`Normal v` says that every text in `v` is in NFC, and `Decodes decode a` that the decoder returns
`a` whatever the written value of `a` is read back as. A decoder that reads a record field by field
decodes it when it decodes the fields: `Loaded` collects what is known of the fields of a loaded
record, and each decoder of `memory.py` has one lemma.
-/

namespace GAM
open Lib

section
variable [Platform]

mutual

/-- Every string in the value is in NFC. -/
def Normal : Value → Prop
  | .str s => nfc s = s
  | .tuple l | .list l => NormalElems l
  | .dict l | .record l => NormalFields l
  | _ => True

/-- The items of a list. -/
def NormalElems : List Value → Prop
  | [] => True
  | v :: l => Normal v ∧ NormalElems l

/-- The fields of a record or a mapping. -/
def NormalFields : List (String × Value) → Prop
  | [] => True
  | (_, v) :: l => Normal v ∧ NormalFields l

end

lemma normalElems_iff {l : List Value} : NormalElems l ↔ ∀ v ∈ l, Normal v := by
  induction l with
  | nil => simp [NormalElems]
  | cons v l ih => rw [NormalElems, ih, List.forall_mem_cons]

lemma normalFields_iff {l : List (String × Value)} : NormalFields l ↔ ∀ f ∈ l, Normal f.2 := by
  induction l with
  | nil => simp [NormalFields]
  | cons f l ih => rw [NormalFields, ih, List.forall_mem_cons]

mutual

/-- Where normalization leaves every text alone, every value is in NFC. -/
lemma normal_of_id (h : ∀ s, nfc s = s) : ∀ v, Normal v
  | .str s => h s
  | .tuple l | .list l => normalElems_of_id h l
  | .dict l | .record l => normalFields_of_id h l
  | .none | .bool _ | .int _ | .float _ | .decimal _ | .enum .. | .points _ | .textDict _ => trivial

lemma normalElems_of_id (h : ∀ s, nfc s = s) : ∀ l, NormalElems l
  | [] => trivial
  | v :: l => ⟨normal_of_id h v, normalElems_of_id h l⟩

lemma normalFields_of_id (h : ∀ s, nfc s = s) : ∀ l, NormalFields l
  | [] => trivial
  | (_, v) :: l => ⟨normal_of_id h v, normalFields_of_id h l⟩

end

/-- The written value of `a` is decoded to `a`. -/
def Decodes {α : Type} [ToValue α] (decode : Value → Except PyError α) (a : α) : Prop :=
  ∀ w, ReadsBack (toValue a) w → decode w = .ok a

/-- The mapping has, under the name of every field, what the field is read back as. -/
def Loaded (vs fields : List (String × Value)) : Prop :=
  ∀ key v, (key, v) ∈ fields → Normal v ∧ Stored vs key v

/-- A record in NFC is read back as the mapping of its fields. -/
lemma loaded_record {fields : List (String × Value)} {w} (nd : (fields.map Prod.fst).Nodup)
    (hn : Normal (.record fields)) (h : ReadsBack (.record fields) w) :
    ∃ vs, w = .dict vs ∧ (∀ k ∉ fields.map Prod.fst, vs.lookup k = none) ∧ Loaded vs fields := by
  obtain ⟨vs, rfl, absent, present⟩ := readsBack_record nd h
  exact ⟨vs, rfl, absent, fun key v hm => ⟨normalFields_iff.mp hn _ hm, present key v hm⟩⟩

namespace Loaded
variable {vs fields : List (String × Value)}

lemma text (h : Loaded vs fields) (key s : String) (hm : (key, Value.str s) ∈ fields) :
    textField key (.dict vs) = .ok s := by
  obtain ⟨hn, stored⟩ := h key _ hm
  rw [textField_stored stored]
  exact congrArg Except.ok hn

lemma optText (h : Loaded vs fields) (key : String) (o : Option String)
    (hm : (key, toValue o) ∈ fields) : optTextField key (.dict vs) = .ok o := by
  cases o with
  | none =>
    obtain ⟨w, hl, hw⟩ := (h key _ hm).2
    cases readsBack_none hw
    rw [optTextField, getKey_found hl]
    rfl
  | some s =>
    have found := h.text key s hm
    obtain ⟨w, hl, hw⟩ := (h key _ hm).2
    cases readsBack_str hw
    rw [optTextField, getKey_found hl, found]
    rfl

lemma enum {α : Type} [ToValue α] {type : EnumType α} (h : Loaded vs fields) (key : String) (a : α)
    (hm : (key, toValue a) ∈ fields) (ha : Decodes (enumOf type) a) :
    enumField type key (.dict vs) = .ok a := by
  obtain ⟨w, hl, hw⟩ := (h key _ hm).2
  rw [enumField, subscript_found hl]
  exact ha w hw

lemma bool (h : Loaded vs fields) (key : String) (b : Bool) (hm : (key, Value.bool b) ∈ fields) :
    boolField key (.dict vs) = .ok b := by
  obtain ⟨w, hl, j, hj, hw⟩ := (h key _ hm).2
  cases hj
  cases hw
  rw [boolField, subscript_found hl]
  rfl

end Loaded

/-- A list is decoded when its items are. -/
lemma mapAll_decodes {α : Type} [ToValue α] {decode : Value → Except PyError α} {l : List α} {ws}
    (hd : ∀ a ∈ l, Decodes decode a) (hw : List.Forall₂ ReadsBack (l.map toValue) ws) :
    mapAll decode ws = .ok l := by
  induction l generalizing ws with
  | nil =>
    cases hw
    rfl
  | cons a l ih =>
    rw [List.forall_mem_cons] at hd
    cases hw with
    | cons h hw =>
      rw [mapAll, hd.1 _ h, ih hd.2 hw]
      rfl

/-- A text in NFC is an item that is decoded. -/
lemma text_decodes {s : String} (h : Normal (toValue s)) : Decodes (fun v => .ok (pyStr v)) s := by
  intro w hw
  cases readsBack_str hw
  exact congrArg Except.ok h

/-- A member is read by its tag and name. -/
lemma enum_decodes {α : Type} [ToValue α] {enumType : EnumType α} {a : α} {type member tag : String}
    (hv : toValue a = .enum type member) (ht : enumTag type = some tag)
    (hn : enumType.byName member = some a) : Decodes (enumOf enumType) a := by
  intro w hw
  rw [hv] at hw
  cases readsBack_enum ht hw
  have stored : [("$enum", Value.str tag), ("member", .str member)].lookup "member" =
      some (.str member) := rfl
  simp [enumOf, enumOfRaw, subscript, stored, EnumType.subscript, hn]

/-! ### The decoders of `memory.py` -/

lemma witness_decodes {a : Witness} : Decodes (enumOf witnessType) a :=
  enum_decodes (Witness.toValue_eq a) rfl (by cases a <;> rfl)

lemma operatorFamily_decodes {a : OperatorFamily} : Decodes (enumOf operatorFamilyType) a :=
  enum_decodes (OperatorFamily.toValue_eq a) rfl (by cases a <;> rfl)

lemma dependencyState_decodes {a : DependencyState} : Decodes (enumOf dependencyStateType) a :=
  enum_decodes (DependencyState.toValue_eq a) rfl (by cases a <;> rfl)

namespace Loaded
variable {vs fields : List (String × Value)}

lemma list {α : Type} [ToValue α] {decode : Value → Except PyError α} (h : Loaded vs fields)
    (key : String) (l : List α) (hm : (key, toValue l) ∈ fields) (hd : ∀ a ∈ l, Decodes decode a) :
    listField decode key (.dict vs) = .ok l := by
  obtain ⟨w, hl, hw⟩ := (h key _ hm).2
  obtain ⟨ws, rfl, hws⟩ := readsBack_tuple hw
  rw [listField, subscript_found hl]
  exact mapAll_decodes hd hws

/-- The items of a list in NFC are in NFC. -/
lemma normal_items {α : Type} [ToValue α] (h : Loaded vs fields) (key : String) (l : List α)
    (hm : (key, toValue l) ∈ fields) : ∀ a ∈ l, Normal (toValue a) := by
  intro a ha
  exact normalElems_iff.mp (h key _ hm).1 _ (List.mem_map_of_mem ha)

lemma texts (h : Loaded vs fields) (key : String) (l : List String)
    (hm : (key, toValue l) ∈ fields) : textsField key (.dict vs) = .ok l :=
  h.list key l hm fun a ha => text_decodes (h.normal_items key l hm a ha)

end Loaded

lemma evidence_decodes {r : EvidenceRef} (hn : Normal (toValue r)) : Decodes evidenceOf r := by
  intro w hw
  obtain ⟨vs, rfl, -, h⟩ := loaded_record (by simp) hn hw
  simp only [evidenceOf, h.text "ref_id" r.refId (by simp), h.text "kind" r.kind (by simp),
    h.text "digest" r.digest (by simp), ok_bind, pure_eq_ok]

lemma gap_decodes {r : EvidenceGap} (hn : Normal (toValue r)) : Decodes gapOf r := by
  intro w hw
  obtain ⟨vs, rfl, -, h⟩ := loaded_record (by simp) hn hw
  simp only [gapOf, h.text "gap_id" r.gapId (by simp),
    h.enum "witness" r.witness (by simp) witness_decodes,
    h.text "subject_ref" r.subjectRef (by simp), h.text "question" r.question (by simp),
    h.text "needed" r.needed (by simp), h.text "resolution_rule_id" r.resolutionRuleId (by simp),
    ok_bind, pure_eq_ok]

lemma dependency_decodes {r : DependencyRef} (hn : Normal (toValue r)) :
    Decodes dependencyOf r := by
  intro w hw
  obtain ⟨vs, rfl, -, h⟩ := loaded_record (by simp) hn hw
  have evidence := h.list "evidence_refs" r.evidenceRefs (by simp)
    fun a ha => evidence_decodes (h.normal_items "evidence_refs" r.evidenceRefs (by simp) a ha)
  simp only [dependencyOf, h.text "dependency_id" r.dependencyId (by simp),
    h.text "subject_ref" r.subjectRef (by simp), h.text "predicate" r.predicate (by simp),
    h.text "expected_json" r.expectedJson (by simp),
    h.optText "observed_json" r.observedJson (by simp),
    h.enum "state" r.state (by simp) dependencyState_decodes,
    h.text "snapshot_digest" r.snapshotDigest (by simp), evidence,
    h.bool "necessary_for_yes" r.necessaryForYes (by simp),
    h.bool "sufficient_if_true" r.sufficientIfTrue (by simp), ok_bind, pure_eq_ok]

/-- A key of a loaded record. -/
lemma Loaded.contains {vs fields : List (String × Value)} (h : Loaded vs fields) (key : String)
    (v : Value) (hm : (key, v) ∈ fields) : containsKey key (.dict vs) = .ok true := by
  obtain ⟨w, hl, -⟩ := (h key v hm).2
  have mem : key ∈ vs.map Prod.fst := by
    by_contra hk
    rw [lookup_of_notMem hk] at hl
    cases hl
  exact congrArg Except.ok (List.contains_iff_mem.mpr mem)

omit [Platform] in
/-- A key that is not looked up is not there. -/
lemma containsKey_absent {vs : List (String × Value)} {key : String} (h : vs.lookup key = none) :
    containsKey key (.dict vs) = .ok false := by
  refine congrArg Except.ok (Bool.eq_false_iff.mpr fun hc => ?_)
  obtain ⟨⟨k, v⟩, hm, rfl⟩ := List.mem_map.mp (List.contains_iff_mem.mp hc)
  have differs := List.lookup_eq_none_iff.mp h _ hm
  simp at differs

lemma traceStep_decodes {r : TraceStep} (hn : Normal (toValue r)) : Decodes traceStepOf r := by
  intro w hw
  cases r with
  | operator r =>
    obtain ⟨vs, rfl, absent, h⟩ := loaded_record (by simp) hn hw
    have kind : containsKey "decisive_fact_step_ids" (.dict vs) = .ok false :=
      containsKey_absent (absent _ (by simp))
    have evidence := h.list "evidence_refs" r.evidenceRefs (by simp)
      fun a ha => evidence_decodes (h.normal_items "evidence_refs" r.evidenceRefs (by simp) a ha)
    simp [traceStepOf, kind, h.text "step_id" r.stepId (by simp),
      h.text "rule_id" r.ruleId (by simp),
      h.enum "family" r.family (by simp) operatorFamily_decodes,
      h.text "pole" r.pole (by simp), h.text "subject_ref" r.subjectRef (by simp),
      h.texts "object_refs" r.objectRefs (by simp),
      h.text "result_json" r.resultJson (by simp), evidence]
  | reducer r =>
    obtain ⟨vs, rfl, absent, h⟩ := loaded_record (by simp) hn hw
    have kind := h.contains "decisive_fact_step_ids" (toValue r.decisiveFactStepIds) (by simp)
    simp [traceStepOf, kind, h.text "step_id" r.stepId (by simp),
      h.text "rule_id" r.ruleId (by simp),
      h.enum "family" r.family (by simp) operatorFamily_decodes,
      h.text "pole" r.pole (by simp),
      h.texts "decisive_fact_step_ids" r.decisiveFactStepIds (by simp),
      h.text "result_json" r.resultJson (by simp)]

end

end GAM
