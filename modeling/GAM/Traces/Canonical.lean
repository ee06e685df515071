import GAM.Lib.Checks
import GAM.Models.Records
import GAM.Platform

/-!
# Canonical serialization

The canonical encoding of `traces.py`: a value becomes JSON with tagged enumeration members,
decimals and floats, texts in NFC, and is hashed as its compact text with sorted keys.
-/

namespace GAM
open Lib

section
variable [Platform]

/-- The registered enumeration tags (Python `_ENUM_TAGS`). -/
def enumTag : String → Option String
  | "Verdict" => some "gam.public.v1/Verdict"
  | "Risk" => some "gam.public.v1/Risk"
  | "OperatorFamily" => some "gam.public.v1/OperatorFamily"
  | "Witness" => some "gam.public.v1/Witness"
  | "DependencyState" => some "gam.memory.v1/DependencyState"
  | "DecisionValue" => some "gam.memory.v1/DecisionValue"
  | "PolicyEffect" => some "gam.policy.v1/PolicyEffect"
  | "ExecutionStatus" => some "gam.execution.v1/ExecutionStatus"
  | _ => none

/-- The text of a finite decimal (Python `_decimal_text`); a normalization that overflows raises. -/
def decimalText (d : Decimal) : Except PyError String :=
  if d.isFinite then
    match d.canonicalChars with
    | some cs => .ok (String.ofList cs)
    | none => .error .arithmeticError
  else reject "non-finite Decimal"

mutual

/-- Python `_canonical_value`. -/
def canonicalValue : Value → Except PyError Json
  | .none => .ok .null
  | .bool b => .ok (.bool b)
  | .int i => .ok (.int i)
  | .float f =>
    if f.isFinite then .ok (.obj [("$float", .str (String.ofList f.format17))])
    else reject "non-finite float"
  | .decimal d => do
    let text ← decimalText d
    return .obj [("$decimal", .str text)]
  | .str s => .ok (.str (nfc s))
  | .enum type member =>
    match enumTag type with
    | some tag => .ok (.obj [("$enum", .str tag), ("member", .str member)])
    | none => reject "unregistered Enum type"
  | .tuple l => do
    let js ← canonicalElems l
    return .arr js
  | .record fields => do
    let ms ← canonicalFields fields
    return .obj ms
  | .dict l => do
    let ms ← normalizedMapping [] l
    return .obj ms
  | .list _ => reject "unsupported canonical type: list"
  -- the text cannot be encoded: `canonicalJson` raises on it once the rest has been looked at
  | .points t => .ok (.str t.shown)
  | .textDict l => do
    let ms ← normalizedTextMapping [] l
    return .obj ms

/-- The items of a list. -/
def canonicalElems : List Value → Except PyError (List Json)
  | [] => .ok []
  | v :: l => do
    let j ← canonicalValue v
    let js ← canonicalElems l
    return j :: js

/-- The fields of a record. -/
def canonicalFields : List (String × Value) → Except PyError (List (String × Json))
  | [] => .ok []
  | (name, v) :: l => do
    let j ← canonicalValue v
    let ms ← canonicalFields l
    return (name, j) :: ms

/-- Python `_normalized_mapping`; `seen` are the keys already taken. -/
def normalizedMapping (seen : List String) :
    List (String × Value) → Except PyError (List (String × Json))
  | [] => .ok []
  | (rawKey, v) :: l => do
    let key := nfc rawKey
    ensure (key ∉ seen) (.contractViolation "normalized mapping-key collision")
    let j ← canonicalValue v
    let ms ← normalizedMapping (key :: seen) l
    return (key, j) :: ms

/-- `_normalized_mapping` with a lone surrogate among the keys. -/
def normalizedTextMapping (seen : List Text) :
    List (Text × Value) → Except PyError (List (String × Json))
  | [] => .ok []
  | (rawKey, v) :: l => do
    let key := nfcText rawKey
    ensure (key ∉ seen) (.contractViolation "normalized mapping-key collision")
    let j ← canonicalValue v
    let ms ← normalizedTextMapping (key :: seen) l
    return (key.shown, j) :: ms

end

/-- Python `canonical_json_bytes`, as text; a lone surrogate has no encoding. -/
def canonicalJson (v : Value) : Except PyError String := do
  let j ← canonicalValue v
  ensure (v.isUnicode = true) .valueError
  return j.dumps

/-- Python `canonical_sha256`. -/
def canonicalSha256 (v : Value) : Except PyError String := do
  let text ← canonicalJson v
  return sha256 text

/-- A mapping of a schema name and the fields of a record that the digest covers. -/
def digestPayload (head : List (String × Value)) (excluded : List String) (v : Value) : Value :=
  match v with
  | .record fields => .dict (head ++ fields.filter fun f => f.1 ∉ excluded)
  | v => v

/-- Python `_result_payload` of a finalized result. -/
def checkPayload (r : CheckResult) : Value :=
  digestPayload [("schema", .str "gam.evaluation-trace.v1"), ("status", .str "FINALIZED")]
    ["trace_digest"] (toValue r)

/-- Python `_result_payload` of a BLOCKED result. -/
def blockedPayload (r : BlockedResult) : Value :=
  digestPayload [("schema", .str "gam.evaluation-trace.v1"), ("status", .str "BLOCKED")]
    ["trace_digest"] (toValue r)

/-- Python `_prior_payload`. -/
def priorPayload (p : PriorEvaluationTrace) : Value :=
  digestPayload [("schema", .str "gam.evaluation-trace.v1"), ("status", .str "FINALIZED")]
    ["proposal_id", "trace_digest"] (toValue p)

/-- The payload `snapshot_digest` hashes. -/
def snapshotPayload (s : EvaluationSnapshot) : Value :=
  digestPayload [("schema", .str "gam.evaluation-snapshot.v1")] ["snapshot_digest"] (toValue s)

/-- Python `check_result_digest`. -/
def checkResultDigest (r : CheckResult) : Except PyError String := canonicalSha256 (checkPayload r)

/-- Python `blocked_result_digest`. -/
def blockedResultDigest (r : BlockedResult) : Except PyError String :=
  canonicalSha256 (blockedPayload r)

/-- Python `snapshot_digest`. -/
def snapshotDigest (s : EvaluationSnapshot) : Except PyError String :=
  canonicalSha256 (snapshotPayload s)

mutual

/-- The encoder raises contract violations and the overflow of a decimal. -/
lemma canonicalValue_raises : ∀ v, OnlyRaises PyError.IsTraceError (canonicalValue v)
  | .none | .bool _ | .int _ | .str _ | .list _ => by simp [canonicalValue]
  | .float f => by
    unfold canonicalValue
    split <;> simp
  | .decimal d => by
    simp only [canonicalValue, decimalText]
    split
    · split <;> simp
    · simp
  | .enum type member => by
    unfold canonicalValue
    split <;> simp
  | .tuple l => by simpa [canonicalValue] using canonicalElems_raises l
  | .record fields => by simpa [canonicalValue] using canonicalFields_raises fields
  | .dict l => by simpa [canonicalValue] using normalizedMapping_raises l []
  | .points _ => by simp [canonicalValue]
  | .textDict l => by simpa [canonicalValue] using normalizedTextMapping_raises l []

/-- Encoding the elements raises an error of the trace or none. -/
lemma canonicalElems_raises : ∀ l, OnlyRaises PyError.IsTraceError (canonicalElems l)
  | [] => by simp [canonicalElems]
  | v :: l => by simp [canonicalElems, canonicalValue_raises v, canonicalElems_raises l]

/-- Encoding the fields raises an error of the trace or none. -/
lemma canonicalFields_raises : ∀ l, OnlyRaises PyError.IsTraceError (canonicalFields l)
  | [] => by simp [canonicalFields]
  | (_, v) :: l => by simp [canonicalFields, canonicalValue_raises v, canonicalFields_raises l]

/-- Encoding a mapping raises an error of the trace or none. -/
lemma normalizedMapping_raises :
    ∀ l seen, OnlyRaises PyError.IsTraceError (normalizedMapping seen l)
  | [], _ => by simp [normalizedMapping]
  | (key, v) :: l, seen => by
    simp [normalizedMapping, canonicalValue_raises v, normalizedMapping_raises l (nfc key :: seen)]

/-- Encoding a mapping of texts raises an error of the trace or none. -/
lemma normalizedTextMapping_raises :
    ∀ l seen, OnlyRaises PyError.IsTraceError (normalizedTextMapping seen l)
  | [], _ => by simp [normalizedTextMapping]
  | (key, v) :: l, seen => by
    simp [normalizedTextMapping, canonicalValue_raises v,
      normalizedTextMapping_raises l (nfcText key :: seen)]

end

/-- Member by member, what a record is encoded as. -/
lemma canonicalFields_forall₂ {fields ms} (h : canonicalFields fields = .ok ms) :
    List.Forall₂ (fun f m => f.1 = m.1 ∧ canonicalValue f.2 = .ok m.2) fields ms := by
  induction fields generalizing ms with
  | nil =>
    cases h
    exact .nil
  | cons f fields ih =>
    obtain ⟨name, v⟩ := f
    simp only [canonicalFields, bind_eq_ok, pure_eq_ok, Except.ok.injEq] at h
    obtain ⟨j, hj, ms', h', rfl⟩ := h
    exact .cons ⟨rfl, hj⟩ (ih h')

/-- Member by member, what a mapping is encoded as. -/
lemma normalizedMapping_forall₂ {l : List (String × Value)} {seen ms}
    (h : normalizedMapping seen l = .ok ms) :
    List.Forall₂ (fun f m => nfc f.1 = m.1 ∧ canonicalValue f.2 = .ok m.2) l ms := by
  induction l generalizing seen ms with
  | nil =>
    cases h
    exact .nil
  | cons f l ih =>
    obtain ⟨key, v⟩ := f
    simp only [normalizedMapping, bind_eq_ok, pure_eq_ok, Except.ok.injEq, ensure_eq_ok,
      exists_unit] at h
    obtain ⟨-, j, hj, ms', h', rfl⟩ := h
    exact .cons ⟨rfl, hj⟩ (ih h')

/-- The normalized keys of a mapping differ. -/
lemma normalizedMapping_nodup {l : List (String × Value)} {seen ms}
    (h : normalizedMapping seen l = .ok ms) :
    (l.map fun f => nfc f.1).Nodup ∧ ∀ f ∈ l, nfc f.1 ∉ seen := by
  induction l generalizing seen ms with
  | nil => simp
  | cons f l ih =>
    obtain ⟨key, v⟩ := f
    simp only [normalizedMapping, bind_eq_ok, pure_eq_ok, Except.ok.injEq, ensure_eq_ok,
      exists_unit] at h
    obtain ⟨free, -, -, ms', h', -⟩ := h
    obtain ⟨nd, apart⟩ := ih h'
    refine ⟨List.nodup_cons.mpr ⟨?_, nd⟩, List.forall_mem_cons.mpr ⟨free, fun f hf taken => ?_⟩⟩
    · intro hk
      obtain ⟨f, hf, e⟩ := List.mem_map.mp hk
      exact apart f hf (e ▸ List.mem_cons_self)
    · exact apart f hf (List.mem_cons_of_mem _ taken)

/-- A value is written when it is encoded and holds no lone surrogate. -/
lemma canonicalJson_eq_ok {v : Value} {text : String} : canonicalJson v = .ok text ↔
    v.isUnicode = true ∧ ∃ j, canonicalValue v = .ok j ∧ j.dumps = text := by
  simp only [canonicalJson, bind_eq_ok, ensure_eq_ok, exists_unit, pure_eq_ok, Except.ok.injEq]
  grind

/-- A digest is taken of every value without surrogates that is encoded. -/
lemma canonicalSha256_eq_ok {v : Value} {d : String} : canonicalSha256 v = .ok d ↔
    v.isUnicode = true ∧ ∃ j, canonicalValue v = .ok j ∧ sha256 j.dumps = d := by
  simp only [canonicalSha256, bind_eq_ok, canonicalJson_eq_ok, pure_eq_ok, Except.ok.injEq]
  grind

/-- Hashing raises what encoding raises. -/
lemma canonicalSha256_raises {v : Value} : OnlyRaises PyError.IsTraceError (canonicalSha256 v) := by
  simp [canonicalSha256, canonicalJson, canonicalValue_raises v]

/-- The value has a canonical encoding. -/
def Encodes (v : Value) : Prop := v.isUnicode = true ∧ ∃ j, canonicalValue v = .ok j

section
variable {v : Value} {l : List Value} {fields : List (String × Value)}

/-- A list is encoded exactly where each of its elements is. -/
lemma encodes_elems : ((∀ v ∈ l, v.isUnicode = true) ∧ ∃ js, canonicalElems l = .ok js) ↔
    ∀ v ∈ l, Encodes v := by
  induction l with
  | nil => simp [canonicalElems]
  | cons v l ih =>
    rw [List.forall_mem_cons, List.forall_mem_cons, ← ih]
    simp only [canonicalElems, bind_eq_ok, pure_eq_ok, Except.ok.injEq, Encodes]
    constructor
    · rintro ⟨⟨hu, us⟩, _, j, hj, js, hjs, -⟩
      exact ⟨⟨hu, j, hj⟩, us, js, hjs⟩
    · rintro ⟨⟨hu, j, hj⟩, us, js, hjs⟩
      exact ⟨⟨hu, us⟩, _, j, hj, js, hjs, rfl⟩

/-- The fields are encoded exactly where each value is. -/
lemma encodes_fields : ((∀ f ∈ fields, f.2.isUnicode = true) ∧
    ∃ ms, canonicalFields fields = .ok ms) ↔ ∀ f ∈ fields, Encodes f.2 := by
  induction fields with
  | nil => simp [canonicalFields]
  | cons f fields ih =>
    obtain ⟨name, v⟩ := f
    rw [List.forall_mem_cons, List.forall_mem_cons, ← ih]
    simp only [canonicalFields, bind_eq_ok, pure_eq_ok, Except.ok.injEq, Encodes]
    constructor
    · rintro ⟨⟨hu, us⟩, _, j, hj, ms, hms, -⟩
      exact ⟨⟨hu, j, hj⟩, us, ms, hms⟩
    · rintro ⟨⟨hu, j, hj⟩, us, ms, hms⟩
      exact ⟨⟨hu, us⟩, _, j, hj, ms, hms, rfl⟩

/-- A mapping is encoded when its normalized keys differ and its values are encoded. -/
lemma encodes_mapping (fields : List (String × Value)) (seen : List String) :
    ((∀ f ∈ fields, f.2.isUnicode = true) ∧ ∃ ms, normalizedMapping seen fields = .ok ms) ↔
      (fields.map fun f => nfc f.1).Nodup ∧ (∀ f ∈ fields, nfc f.1 ∉ seen) ∧
        ∀ f ∈ fields, Encodes f.2 := by
  induction fields generalizing seen with
  | nil => simp [normalizedMapping]
  | cons f fields ih =>
    obtain ⟨key, v⟩ := f
    have step : ((∀ f ∈ (key, v) :: fields, f.2.isUnicode = true) ∧
        ∃ ms, normalizedMapping seen ((key, v) :: fields) = .ok ms) ↔
        nfc key ∉ seen ∧ Encodes v ∧ (∀ f ∈ fields, f.2.isUnicode = true) ∧
          ∃ ms, normalizedMapping (nfc key :: seen) fields = .ok ms := by
      simp only [List.forall_mem_cons, normalizedMapping, bind_eq_ok, pure_eq_ok, Except.ok.injEq,
        ensure_eq_ok, exists_unit, Encodes]
      constructor
      · rintro ⟨⟨hu, us⟩, _, hk, j, hj, ms, hms, -⟩
        exact ⟨hk, ⟨hu, j, hj⟩, us, ms, hms⟩
      · rintro ⟨hk, ⟨hu, j, hj⟩, us, ms, hms⟩
        exact ⟨⟨hu, us⟩, _, hk, j, hj, ms, hms, rfl⟩
    rw [step, ih]
    simp only [List.map_cons, List.nodup_cons, List.mem_map, List.mem_cons, not_exists, not_and,
      not_or, forall_eq_or_imp]
    constructor
    · rintro ⟨hk, hv, nd, hd, he⟩
      exact ⟨⟨fun f hf => (hd f hf).1, nd⟩, ⟨hk, fun f hf => (hd f hf).2⟩, hv, he⟩
    · rintro ⟨⟨hd, nd⟩, ⟨hk, hs⟩, hv, he⟩
      exact ⟨hk, hv, nd, fun f hf => ⟨hd f hf, hs f hf⟩, he⟩

@[simp] lemma encodes_none : Encodes .none := ⟨rfl, _, rfl⟩
@[simp] lemma encodes_bool {b : Bool} : Encodes (.bool b) := ⟨rfl, _, rfl⟩
@[simp] lemma encodes_int {i : Int} : Encodes (.int i) := ⟨rfl, _, rfl⟩
@[simp] lemma encodes_str {s : String} : Encodes (.str s) := ⟨rfl, _, rfl⟩

@[simp] lemma encodes_tuple : Encodes (.tuple l) ↔ ∀ v ∈ l, Encodes v := by
  rw [← encodes_elems]
  simp only [Encodes, Value.isUnicode_tuple, canonicalValue, bind_eq_ok, pure_eq_ok,
    Except.ok.injEq]
  constructor
  · rintro ⟨us, _, js, h, -⟩
    exact ⟨us, js, h⟩
  · rintro ⟨us, js, h⟩
    exact ⟨us, _, js, h, rfl⟩

@[simp] lemma encodes_record : Encodes (.record fields) ↔ ∀ f ∈ fields, Encodes f.2 := by
  rw [← encodes_fields]
  simp only [Encodes, Value.isUnicode_record, canonicalValue, bind_eq_ok, pure_eq_ok,
    Except.ok.injEq]
  constructor
  · rintro ⟨us, _, ms, h, -⟩
    exact ⟨us, ms, h⟩
  · rintro ⟨us, ms, h⟩
    exact ⟨us, _, ms, h, rfl⟩

/-- A mapping with distinct ASCII keys is encoded when its values are. -/
lemma encodes_dict (nd : (fields.map Prod.fst).Nodup) (ascii : ∀ f ∈ fields, isAscii f.1) :
    Encodes (.dict fields) ↔ ∀ f ∈ fields, Encodes f.2 := by
  have keys : (fields.map fun f => nfc f.1) = fields.map Prod.fst :=
    List.map_congr_left fun f hf => Platform.nfc_ascii _ (ascii f hf)
  have := encodes_mapping fields []
  simp only [keys, nd, List.not_mem_nil, not_false_eq_true, implies_true, true_and] at this
  rw [← this]
  simp only [Encodes, Value.isUnicode_dict, canonicalValue, bind_eq_ok, pure_eq_ok,
    Except.ok.injEq]
  constructor
  · rintro ⟨us, _, ms, h, -⟩
    exact ⟨us, ms, h⟩
  · rintro ⟨us, ms, h⟩
    exact ⟨us, _, ms, h, rfl⟩

/-- A hashed mapping had its members encoded. -/
lemma canonicalSha256_dict {d} (h : canonicalSha256 (.dict fields) = .ok d) :
    ∀ f ∈ fields, Encodes f.2 := by
  rw [canonicalSha256_eq_ok, Value.isUnicode_dict] at h
  obtain ⟨us, _, h, _⟩ := h
  simp only [canonicalValue, bind_eq_ok] at h
  obtain ⟨ms, hms, _⟩ := h
  exact ((encodes_mapping fields []).mp ⟨us, ms, hms⟩).2.2

/-- An encoded value has a digest. -/
lemma Encodes.digest (h : Encodes v) : ∃ d, canonicalSha256 v = .ok d := by
  obtain ⟨hu, j, h⟩ := h
  exact ⟨_, canonicalSha256_eq_ok.mpr ⟨hu, j, h, rfl⟩⟩

/-- Only finite decimals are encoded. -/
lemma encodes_decimal_finite {d : Decimal} (h : Encodes (.decimal d)) : d.isFinite = true := by
  obtain ⟨-, j, h⟩ := h
  cases hd : d.isFinite with
  | true => rfl
  | false => simp [canonicalValue, decimalText, hd, reject] at h

/-- A decimal is encoded when it is finite and its normalization does not overflow. -/
lemma encodes_decimal {d : Decimal} (hf : d.isFinite = true) (hc : d.canonicalChars.isSome = true) :
    Encodes (.decimal d) := by
  obtain ⟨cs, hc⟩ := Option.isSome_iff_exists.mp hc
  simp [Encodes, canonicalValue, decimalText, hf, hc]

@[simp] lemma encodes_float {f : Binary64} : Encodes (.float f) ↔ f.isFinite = true := by
  cases hf : f.isFinite <;> simp [Encodes, canonicalValue, hf, reject]

end

/-- A snapshot with a digest has finite divergences. -/
lemma snapshotDigest_divergence {s : EvaluationSnapshot} {d} (h : snapshotDigest s = .ok d) :
    ∀ p ∈ s.precedents, ∀ r ∈ p.consequenceRefs, r.divergence.isFinite = true := by
  intro p hp r hr
  have hs := canonicalSha256_dict h ("precedents", toValue s.precedents) (by simp [toValue])
  have hp := encodes_tuple.mp hs (toValue p) (List.mem_map_of_mem hp)
  have hl := encodes_record.mp hp ("consequence_refs", toValue p.consequenceRefs) (by simp)
  have hr := encodes_tuple.mp hl (toValue r) (List.mem_map_of_mem hr)
  have hd := encodes_record.mp hr ("divergence", toValue r.divergence) (by simp)
  exact encodes_decimal_finite hd

/-- A digest is 64 lower-case hexadecimal digits. -/
lemma canonicalSha256_hex {v : Value} {d : String} (h : canonicalSha256 v = .ok d) :
    isHex64 d = true := by
  simp only [canonicalSha256, bind_eq_ok, pure_eq_ok] at h
  obtain ⟨text, _, h⟩ := h
  cases h
  exact Platform.sha256_hex text

end

end GAM
