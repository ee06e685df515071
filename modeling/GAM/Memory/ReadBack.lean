import GAM.Traces.Digest
import GAM.Memory.Decode

/-!
# What a dumped value reads back as

`ReadsBack v w` says that `json.loads` of the canonical text of `v` returns `w`. It is described
constructor by constructor: a tuple comes back as a list, a record as a mapping with the record's
field names, and an enumeration member, a decimal or a float as a tagged mapping. Every encoded
value without integers is read back.
-/

namespace GAM
open Lib

/-- Member by member, what an object is read as. -/
lemma loadMembers_forall₂ {ms vs} (h : loadMembers ms = .ok vs) :
    List.Forall₂ (fun m v => m.1 = v.1 ∧ loadValue m.2 = .ok v.2) ms vs := by
  induction ms generalizing vs with
  | nil =>
    cases h
    exact .nil
  | cons m ms ih =>
    obtain ⟨k, j⟩ := m
    simp only [loadMembers, bind_eq_ok, pure_eq_ok, Except.ok.injEq] at h
    obtain ⟨v, hv, vs', h', rfl⟩ := h
    exact .cons ⟨rfl, hv⟩ (ih h')

/-- An object without repeated keys is read as the mapping of its members. -/
lemma loadValue_obj {ms : List (String × Json)} {w} (nd : (ms.map Prod.fst).Nodup)
    (h : loadValue (Json.obj ms).sortKeys = .ok w) :
    ∃ vs, w = .dict vs ∧ (∀ k ∉ ms.map Prod.fst, vs.lookup k = none) ∧
      ∀ k j, (k, j) ∈ ms → ∃ v, vs.lookup k = some v ∧ loadValue j.sortKeys = .ok v := by
  simp only [Json.sortKeys, loadValue, bind_eq_ok, pure_eq_ok, Except.ok.injEq] at h
  obtain ⟨vs, hvs, rfl⟩ := h
  have rel := loadMembers_forall₂ hvs
  have keys := forall₂_keys rel fun _ _ h => h.1
  have perm : (vs.map Prod.fst).Perm (ms.map Prod.fst) := by
    rw [← keys]
    refine (sortedBy_perm.map Prod.fst).trans ?_
    rw [sortMembers_eq, List.map_map]
    exact .refl _
  have ndv : (vs.map Prod.fst).Nodup := perm.nodup_iff.mpr nd
  refine ⟨vs, by rw [lastWins_of_nodup ndv], fun k hk => ?_, fun k j hj => ?_⟩
  · exact lookup_of_notMem fun hm => hk (perm.mem_iff.mp hm)
  · have hs : (k, j.sortKeys) ∈ sortedBy Prod.fst (sortMembers ms) := by
      rw [mem_sortedBy, sortMembers_eq]
      exact List.mem_map_of_mem hj
    obtain ⟨⟨k', v⟩, hv, rfl, hl⟩ := forall₂_mem_left rel _ hs
    exact ⟨v, lookup_of_mem ndv hv, hl⟩

section
variable [Platform]

/-- The canonical text of `v` is read as `w`. -/
def ReadsBack (v w : Value) : Prop := ∃ j, canonicalValue v = .ok j ∧ loadValue j.sortKeys = .ok w

/-- Reading the dumped text. -/
lemma loaded_dump {v w : Value} (hu : v.isUnicode = true) (h : ReadsBack v w) :
    ∃ text, dump v = .ok text ∧ loaded (.str text) = .ok w := by
  obtain ⟨j, hj, hw⟩ := h
  refine ⟨j.dumps, ?_, ?_⟩
  · exact canonicalJson_eq_ok.mpr ⟨hu, j, hj, rfl⟩
  · rw [loaded, jsonLoads_dumps, hw]

/-- A record is read back as the mapping of its fields. -/
lemma readsBack_record {fields : List (String × Value)} {w} (nd : (fields.map Prod.fst).Nodup)
    (h : ReadsBack (.record fields) w) :
    ∃ vs, w = .dict vs ∧ (∀ k ∉ fields.map Prod.fst, vs.lookup k = none) ∧
      ∀ k v, (k, v) ∈ fields → ∃ w, vs.lookup k = some w ∧ ReadsBack v w := by
  obtain ⟨j, hj, hw⟩ := h
  simp only [canonicalValue, bind_eq_ok, pure_eq_ok, Except.ok.injEq] at hj
  obtain ⟨ms, hms, rfl⟩ := hj
  have rel := canonicalFields_forall₂ hms
  have keys := forall₂_keys rel fun _ _ h => h.1
  obtain ⟨vs, rfl, absent, present⟩ := loadValue_obj (keys ▸ nd) hw
  refine ⟨vs, rfl, fun k hk => absent k (keys ▸ hk), fun k v hv => ?_⟩
  obtain ⟨⟨k', j⟩, hj, rfl, hc⟩ := forall₂_mem_left rel _ hv
  obtain ⟨w, hl, hw⟩ := present _ _ hj
  exact ⟨w, hl, j, hc, hw⟩

lemma readsBack_none {w} (h : ReadsBack .none w) : w = .none := by
  obtain ⟨j, hj, hw⟩ := h
  cases hj
  cases hw
  rfl

lemma readsBack_str {s : String} {w} (h : ReadsBack (.str s) w) : w = .str (nfc s) := by
  obtain ⟨j, hj, hw⟩ := h
  cases hj
  cases hw
  rfl

lemma readsBack_enum {type member tag : String} {w} (ht : enumTag type = some tag)
    (h : ReadsBack (.enum type member) w) :
    w = .dict [("$enum", .str tag), ("member", .str member)] := by
  obtain ⟨j, hj, hw⟩ := h
  rw [canonicalValue, ht] at hj
  cases hj
  have hs : (Json.obj [("$enum", .str tag), ("member", .str member)]).sortKeys =
      .obj [("$enum", .str tag), ("member", .str member)] := by
    simp [Json.sortKeys, sortMembers, sortedBy, List.insertionSort]
  rw [hs] at hw
  cases hw
  rfl

/-- A tuple is read back as the list of its items. -/
lemma readsBack_tuple {l : List Value} {w} (h : ReadsBack (.tuple l) w) :
    ∃ ws, w = .list ws ∧ List.Forall₂ ReadsBack l ws := by
  obtain ⟨j, hj, hw⟩ := h
  simp only [canonicalValue, bind_eq_ok, pure_eq_ok, Except.ok.injEq] at hj
  obtain ⟨js, hjs, rfl⟩ := hj
  simp only [Json.sortKeys, loadValue, bind_eq_ok, pure_eq_ok, Except.ok.injEq] at hw
  obtain ⟨ws, hws, rfl⟩ := hw
  refine ⟨ws, rfl, ?_⟩
  induction l generalizing js ws with
  | nil =>
    cases hjs
    cases hws
    exact .nil
  | cons v l ih =>
    simp only [canonicalElems, bind_eq_ok, pure_eq_ok, Except.ok.injEq] at hjs
    obtain ⟨j, hj, js', hjs', rfl⟩ := hjs
    simp only [sortElems, loadElems, bind_eq_ok, pure_eq_ok, Except.ok.injEq] at hws
    obtain ⟨w, hw, ws', hws', rfl⟩ := hws
    exact .cons ⟨j, hj, hw⟩ (ih js' hjs' ws' hws')

/-! ### Records without integers -/

end

mutual

/-- A value whose numbers are all written as texts: it has no integer, and no container but tuples
and records. -/
def Textual : Value → Prop
  | .int _ | .list _ | .dict _ | .points _ | .textDict _ => False
  | .tuple l => TextualElems l
  | .record fields => TextualFields fields
  | _ => True

/-- The items of a list. -/
def TextualElems : List Value → Prop
  | [] => True
  | v :: l => Textual v ∧ TextualElems l

/-- The fields of a record. -/
def TextualFields : List (String × Value) → Prop
  | [] => True
  | (_, v) :: l => Textual v ∧ TextualFields l

end

@[simp] lemma textualElems_iff {l : List Value} : TextualElems l ↔ ∀ v ∈ l, Textual v := by
  induction l with
  | nil => simp [TextualElems]
  | cons v l ih => rw [TextualElems, ih, List.forall_mem_cons]

@[simp] lemma textualFields_nil : TextualFields [] := trivial

@[simp] lemma textualFields_cons {k : String} {v : Value} {l : List (String × Value)} :
    TextualFields ((k, v) :: l) ↔ Textual v ∧ TextualFields l := .rfl

section
variable {α : Type} [ToValue α]

/-- The values of a type are textual. -/
class IsTextual (α : Type) [ToValue α] : Prop where
  textual : ∀ a : α, Textual (toValue a)

@[simp] lemma textual_toValue [h : IsTextual α] {a : α} : Textual (toValue a) := h.textual a

instance : IsTextual Bool := ⟨fun _ => trivial⟩
instance : IsTextual String := ⟨fun _ => trivial⟩
instance : IsTextual Binary64 := ⟨fun _ => trivial⟩
instance : IsTextual Decimal := ⟨fun _ => trivial⟩
instance : IsTextual Verdict := ⟨fun _ => trivial⟩
instance : IsTextual Risk := ⟨fun _ => trivial⟩
instance : IsTextual Witness := ⟨fun _ => trivial⟩
instance : IsTextual OperatorFamily := ⟨fun _ => trivial⟩
instance : IsTextual DependencyState := ⟨fun _ => trivial⟩
instance : IsTextual DecisionValue := ⟨fun _ => trivial⟩
instance : IsTextual PolicyEffect := ⟨fun _ => trivial⟩
instance : IsTextual ExecutionStatus := ⟨fun _ => trivial⟩

instance [h : IsTextual α] : IsTextual (Option α) :=
  ⟨fun
    | none => trivial
    | some a => h.textual a⟩

instance [h : IsTextual α] : IsTextual (List α) :=
  ⟨fun l => by
    rw [toValue_list, Textual, textualElems_iff]
    intro v hv
    obtain ⟨a, -, rfl⟩ := List.mem_map.mp hv
    exact h.textual a⟩

end

section
variable {type member : String} {b : Bool} {s : String} {x : Binary64} {d : Decimal}
  {l : List Value} {fields : List (String × Value)}

@[simp] lemma textual_none : Textual .none := trivial
@[simp] lemma textual_bool : Textual (.bool b) := trivial
@[simp] lemma textual_str : Textual (.str s) := trivial
@[simp] lemma textual_float : Textual (.float x) := trivial
@[simp] lemma textual_decimal : Textual (.decimal d) := trivial
@[simp] lemma textual_enum : Textual (.enum type member) := trivial

lemma textual_record : Textual (.record fields) ↔ TextualFields fields := .rfl

end

/-- A list of textual values is textual. -/
@[simp] lemma textual_list {α : Type} [ToValue α] [IsTextual α] {l : List α} :
    Textual (.tuple (l.map toValue)) := textual_toValue (α := List α)

instance : IsTextual EvidenceRef := ⟨fun _ => textual_record.mpr (by simp)⟩
instance : IsTextual EvidenceGap := ⟨fun _ => textual_record.mpr (by simp)⟩
instance : IsTextual EvidenceRequirement := ⟨fun _ => textual_record.mpr (by simp)⟩
instance : IsTextual DependencyRef := ⟨fun _ => textual_record.mpr (by simp)⟩
instance : IsTextual PolicyRule := ⟨fun _ => textual_record.mpr (by simp)⟩
instance : IsTextual PolicyInput := ⟨fun _ => textual_record.mpr (by simp)⟩
instance : IsTextual ExclusionRef := ⟨fun _ => textual_record.mpr (by simp)⟩
instance : IsTextual ConsequenceRef := ⟨fun _ => textual_record.mpr (by simp)⟩
instance : IsTextual PrecedentRef := ⟨fun _ => textual_record.mpr (by simp)⟩
instance : IsTextual CapabilityFact := ⟨fun _ => textual_record.mpr (by simp)⟩
instance : IsTextual Proposal := ⟨fun _ => textual_record.mpr (by simp)⟩
instance : IsTextual OperatorTraceStep := ⟨fun _ => textual_record.mpr (by simp)⟩
instance : IsTextual ReducerTraceStep := ⟨fun _ => textual_record.mpr (by simp)⟩
instance : IsTextual TraceStep := ⟨fun
  | .operator s => textual_toValue (a := s)
  | .reducer s => textual_toValue (a := s)⟩
instance : IsTextual PriorEvaluationTrace := ⟨fun _ => textual_record.mpr (by simp)⟩
instance : IsTextual EvaluationSnapshot := ⟨fun _ => textual_record.mpr (by simp)⟩

end GAM
