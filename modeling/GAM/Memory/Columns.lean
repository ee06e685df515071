import GAM.Memory.Append
import GAM.Memory.RoundTrip

/-!
# Columns

What the columns of a row keep of the values that are written to them: a `JSONB` column delivers the
canonical text of a dumped value as it was written, and a list column is decoded to the list.
-/

namespace GAM
open Lib

lemma standardElems_iff {l : List Json} : standardElems l = true ↔ ∀ j ∈ l, isStandard j = true := by
  induction l with
  | nil => simp [standardElems]
  | cons j l ih => rw [standardElems, Bool.and_eq_true, ih, List.forall_mem_cons]

lemma standardMembers_iff {l : List (String × Json)} :
    standardMembers l = true ↔ ∀ m ∈ l, isStandard m.2 = true := by
  induction l with
  | nil => simp [standardMembers]
  | cons m l ih => rw [standardMembers, Bool.and_eq_true, ih, List.forall_mem_cons]

mutual

/-- Ordering the keys keeps a value standard. -/
lemma isStandard_sortKeys : ∀ {j : Json}, isStandard j = true → isStandard j.sortKeys = true
  | .null, h | .bool _, h | .constant _, h | .num _, h | .str _, h => h
  | .arr l, h => by
    rw [isStandard, standardElems_iff] at h
    rw [Json.sortKeys, isStandard, standardElems_iff]
    exact standardElems_sortKeys h
  | .obj l, h => by
    rw [isStandard, standardMembers_iff] at h
    rw [Json.sortKeys, isStandard, standardMembers_iff]
    intro m hm
    exact standardMembers_sortKeys h m (mem_sortedBy.mp hm)

lemma standardElems_sortKeys : ∀ {l : List Json}, (∀ j ∈ l, isStandard j = true) →
    ∀ j ∈ sortElems l, isStandard j = true
  | [], _ => by simp [sortElems]
  | j :: l, h => by
    rw [List.forall_mem_cons] at h
    rw [sortElems, List.forall_mem_cons]
    exact ⟨isStandard_sortKeys h.1, standardElems_sortKeys h.2⟩

lemma standardMembers_sortKeys : ∀ {l : List (String × Json)}, (∀ m ∈ l, isStandard m.2 = true) →
    ∀ m ∈ sortMembers l, isStandard m.2 = true
  | [], _ => by simp [sortMembers]
  | (_, j) :: l, h => by
    rw [List.forall_mem_cons] at h
    rw [sortMembers, List.forall_mem_cons]
    exact ⟨isStandard_sortKeys h.1, standardMembers_sortKeys h.2⟩

end

section
variable [Platform]

mutual

/-- An encoded value is standard JSON. -/
lemma canonicalValue_standard : ∀ {v j}, canonicalValue v = .ok j → isStandard j = true
  | .none, _, h | .bool _, _, h | .int _, _, h | .str _, _, h => by
    cases h
    rfl
  | .float x, j, h => by
    rw [canonicalValue] at h
    split at h
    · cases h
      rfl
    · cases h
  | .decimal d, j, h => by
    simp only [canonicalValue, bind_eq_ok, pure_eq_ok, Except.ok.injEq] at h
    obtain ⟨text, -, rfl⟩ := h
    rfl
  | .enum type member, j, h => by
    rw [canonicalValue] at h
    split at h
    · cases h
      rfl
    · cases h
  | .tuple l, j, h => by
    simp only [canonicalValue, bind_eq_ok, pure_eq_ok, Except.ok.injEq] at h
    obtain ⟨js, hjs, rfl⟩ := h
    exact standardElems_iff.mpr (canonicalElems_standard hjs)
  | .record fields, j, h => by
    simp only [canonicalValue, bind_eq_ok, pure_eq_ok, Except.ok.injEq] at h
    obtain ⟨ms, hms, rfl⟩ := h
    exact standardMembers_iff.mpr (canonicalFields_standard hms)
  | .dict l, j, h => by
    simp only [canonicalValue, bind_eq_ok, pure_eq_ok, Except.ok.injEq] at h
    obtain ⟨ms, hms, rfl⟩ := h
    exact standardMembers_iff.mpr (normalizedMapping_standard hms)
  | .list _, _, h => by cases h
  | .points _, _, h => by
    cases h
    rfl
  | .textDict l, j, h => by
    simp only [canonicalValue, bind_eq_ok, pure_eq_ok, Except.ok.injEq] at h
    obtain ⟨ms, hms, rfl⟩ := h
    exact standardMembers_iff.mpr (normalizedTextMapping_standard hms)

lemma canonicalElems_standard : ∀ {l js}, canonicalElems l = .ok js →
    ∀ j ∈ js, isStandard j = true
  | [], _, h => by
    cases h
    simp
  | v :: l, js, h => by
    simp only [canonicalElems, bind_eq_ok, pure_eq_ok, Except.ok.injEq] at h
    obtain ⟨j, hj, js, hjs, rfl⟩ := h
    exact List.forall_mem_cons.mpr ⟨canonicalValue_standard hj, canonicalElems_standard hjs⟩

lemma canonicalFields_standard : ∀ {l ms}, canonicalFields l = .ok ms →
    ∀ m ∈ ms, isStandard m.2 = true
  | [], _, h => by
    cases h
    simp
  | (_, v) :: l, ms, h => by
    simp only [canonicalFields, bind_eq_ok, pure_eq_ok, Except.ok.injEq] at h
    obtain ⟨j, hj, ms, hms, rfl⟩ := h
    exact List.forall_mem_cons.mpr ⟨canonicalValue_standard hj, canonicalFields_standard hms⟩

lemma normalizedMapping_standard : ∀ {l seen ms}, normalizedMapping seen l = .ok ms →
    ∀ m ∈ ms, isStandard m.2 = true
  | [], _, _, h => by
    cases h
    simp
  | (_, v) :: l, seen, ms, h => by
    simp only [normalizedMapping, bind_eq_ok, pure_eq_ok, Except.ok.injEq, ensure_eq_ok,
      exists_unit] at h
    obtain ⟨-, j, hj, ms, hms, rfl⟩ := h
    exact List.forall_mem_cons.mpr ⟨canonicalValue_standard hj, normalizedMapping_standard hms⟩

lemma normalizedTextMapping_standard : ∀ {l seen ms}, normalizedTextMapping seen l = .ok ms →
    ∀ m ∈ ms, isStandard m.2 = true
  | [], _, _, h => by
    cases h
    simp
  | (_, v) :: l, seen, ms, h => by
    simp only [normalizedTextMapping, bind_eq_ok, pure_eq_ok, Except.ok.injEq, ensure_eq_ok,
      exists_unit] at h
    obtain ⟨-, j, hj, ms, hms, rfl⟩ := h
    exact List.forall_mem_cons.mpr ⟨canonicalValue_standard hj, normalizedTextMapping_standard hms⟩

end

omit [Platform] in
/-- A document without constants is stored as it is printed. -/
lemma castJsonb_dumps {j : Json} (standard : isStandard j = true) : castJsonb j.dumps = .ok j.dumps := by
  rw [castJsonb, Json.parse_dumps]
  simp only [isStandard_sortKeys standard, if_true]
  rw [Json.dumps, Json.sortKeys_idem]
  rfl

/-- A dumped value is delivered as it was written. -/
lemma castJsonb_dump {v : Value} {text : String} (h : dump v = .ok text) :
    castJsonb text = .ok text := by
  obtain ⟨-, j, hj, rfl⟩ := canonicalJson_eq_ok.mp h
  exact castJsonb_dumps (canonicalValue_standard hj)

/-- A dumped record is a JSON object. -/
lemma jsonbTypeof_record {fields : List (String × Value)} {text : String}
    (h : dump (.record fields) = .ok text) : jsonbTypeof text = "object" := by
  obtain ⟨-, j, hj, rfl⟩ := canonicalJson_eq_ok.mp h
  simp only [canonicalValue, bind_eq_ok, pure_eq_ok, Except.ok.injEq] at hj
  obtain ⟨ms, -, rfl⟩ := hj
  rw [jsonbTypeof, Json.parse_dumps]
  rfl

/-- A dumped tuple is a JSON array. -/
lemma jsonbTypeof_tuple {l : List Value} {text : String} (h : dump (.tuple l) = .ok text) :
    jsonbTypeof text = "array" := by
  obtain ⟨-, j, hj, rfl⟩ := canonicalJson_eq_ok.mp h
  simp only [canonicalValue, bind_eq_ok, pure_eq_ok, Except.ok.injEq] at hj
  obtain ⟨js, -, rfl⟩ := hj
  rw [jsonbTypeof, Json.parse_dumps]
  rfl

/-- A dumped list is loaded and decoded to the list. -/
lemma tupleOf_dumped {α : Type} [ToValue α] [IsTextual α] {decode : Value → Except PyError α}
    {text : String} {l : List α} (h : dump (toValue l) = .ok text)
    (hd : ∀ a ∈ l, Decodes decode a) :
    ∃ items, tupleOf (.str text) = .ok items ∧ mapAll decode items = .ok l := by
  obtain ⟨hu, j, hj, -⟩ := canonicalJson_eq_ok.mp h
  obtain ⟨w, hw⟩ := (textual_toValue (a := l)).readsBack ⟨hu, j, hj⟩
  obtain ⟨text', hd', loads⟩ := loaded_dump hu hw
  rw [h] at hd'
  cases hd'
  obtain ⟨ws, rfl, hws⟩ := readsBack_tuple hw
  refine ⟨ws, ?_, mapAll_decodes hd hws⟩
  simp only [tupleOf, loads, ok_bind, pure_eq_ok]

/-- A dumped list is decoded to the list. -/
lemma listField_dumped {α : Type} [ToValue α] [IsTextual α] {decode : Value → Except PyError α}
    {vs : List (String × Value)} {key text : String} {l : List α}
    (hl : vs.lookup key = some (.str text)) (h : dump (toValue l) = .ok text)
    (hd : ∀ a ∈ l, Decodes decode a) : listField decode key (.dict vs) = .ok l := by
  obtain ⟨items, loads, decoded⟩ := tupleOf_dumped h hd
  rw [listField, subscript_found hl]
  simp only [ok_bind, loads]
  exact decoded

end

end GAM
