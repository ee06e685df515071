import GAM.Memory.Decode
import GAM.Traces.DecimalJson

/-!
# Outcome texts

The reader and the writer of `consequences.py`: a text is read with decimals, keys and strings are
put in NFC and colliding keys refused; a value is written in plain decimal notation.
-/

namespace GAM
open Lib

section
variable [Platform]

/-- Python `_json_pairs`; `taken` are the keys so far. -/
def outcomePairs {κ : Type} [DecidableEq κ] (normalize : κ → κ) (taken : List κ) :
    List (κ × Value) → Except PyError (List (κ × Value))
  | [] => .ok []
  | (rawKey, value) :: l => do
    let key := normalize rawKey
    ensure (key ∉ taken) (.integrity "duplicate or normalized-colliding JSON key")
    let rest ← outcomePairs normalize (key :: taken) l
    return (key, value) :: rest

/-- The hooks of `_parse_json`. -/
def outcomeHooks : Hooks PyError Value where
  invalid := .integrity "invalid JSON input"
  null := .none
  bool := .bool
  constant := fun _ => corrupt "non-finite JSON number"
  number := decimalNumber
  str := fun t => .ok (.text t)
  arr := .list
  obj := fun l => do
    let ms ← outcomePairs nfcText [] l
    return .ofMembers ms

mutual

/-- What these hooks make of a tree. -/
def loadOutcome : Json → Except PyError Value
  | .null => .ok .none
  | .bool b => .ok (.bool b)
  | .constant _ => corrupt "non-finite JSON number"
  | .num n => decimalNumber n
  | .str s => .ok (.str s)
  | .arr l => do
    let vs ← loadOutcomeElems l
    return .list vs
  | .obj l => do
    let ms ← loadOutcomeMembers l
    let ms ← outcomePairs nfc [] ms
    return .dict ms

/-- The items of an array. -/
def loadOutcomeElems : List Json → Except PyError (List Value)
  | [] => .ok []
  | j :: l => do
    let v ← loadOutcome j
    let vs ← loadOutcomeElems l
    return v :: vs

/-- The members of an object, in the order of the text. -/
def loadOutcomeMembers : List (String × Json) → Except PyError (List (String × Value))
  | [] => .ok []
  | (k, j) :: l => do
    let v ← loadOutcome j
    let vs ← loadOutcomeMembers l
    return (k, v) :: vs

end

mutual

/-- Python `_normalize_json`. -/
def normalizeOutcome : Value → Except PyError Value
  | .str s => .ok (.str (nfc s))
  | .none => .ok .none
  | .bool b => .ok (.bool b)
  | .decimal d => .ok (.decimal d)
  | .list l => do
    let vs ← normalizeOutcomes l
    return .tuple vs
  | .dict l => do
    let ms ← normalizeOutcomeMembers l
    return .dict ms
  | .points t => .ok (.points (nfcText t))
  | .textDict l => do
    let ms ← normalizeOutcomeTexts l
    return .textDict ms
  | _ => corrupt "unsupported JSON value"

/-- The items of a list. -/
def normalizeOutcomes : List Value → Except PyError (List Value)
  | [] => .ok []
  | v :: l => do
    let v ← normalizeOutcome v
    let vs ← normalizeOutcomes l
    return v :: vs

/-- The members of a mapping. -/
def normalizeOutcomeMembers :
    List (String × Value) → Except PyError (List (String × Value))
  | [] => .ok []
  | (k, v) :: l => do
    let v ← normalizeOutcome v
    let vs ← normalizeOutcomeMembers l
    return (k, v) :: vs

/-- The members of a mapping whose keys may be no strings. -/
def normalizeOutcomeTexts : List (Text × Value) → Except PyError (List (Text × Value))
  | [] => .ok []
  | (k, v) :: l => do
    let v ← normalizeOutcome v
    let vs ← normalizeOutcomeTexts l
    return (k, v) :: vs

end

/-- Python `_parse_json`. -/
def parseOutcome (text : String) : Except PyError Value := do
  let value ← outcomeHooks.scan text
  normalizeOutcome value

/-- What `_plain_json` of this module raises. -/
def outcomeErrors : PlainErrors PyError where
  nonFinite := .integrity "non-finite JSON number"
  overflow := .arithmeticError
  unsupported := .integrity "unsupported JSON value"

/-- Python `_plain_json`. Of a value with a lone surrogate it makes a text that no column and no
digest takes; the exception that follows is raised here. -/
def plainOutcome (v : Value) : Except PyError String := do
  ensure (v.isUnicode = true) .valueError
  let cs ← plainText outcomeErrors v
  return String.ofList cs

/-- The tree of an outcome: the parsed text with its strings in NFC. -/
def outcomeTree (j : Json) : Json := j.mapStrings nfc

/-- What reading an outcome requires of a part. -/
def Taken : Json → Prop
  | .constant _ => False
  | .num n => Decimal.accepts n = true
  | .obj l => (l.map fun m => nfc m.1).Nodup
  | _ => True

lemma taken_iff {p : Json} : Taken p ↔ Keyed p ∧ ∀ n, p = .num n → Decimal.accepts n = true := by
  cases p <;> simp [Taken, Keyed]

/-- On strings the keys are those of strings. -/
lemma outcomePairs_textMembers {l : List (String × Value)} {taken : List String} :
    outcomePairs nfcText (taken.map textOf) (textMembers l) =
      (outcomePairs nfc taken l).map textMembers := by
  induction l generalizing taken with
  | nil => rfl
  | cons m l ih =>
    obtain ⟨key, item⟩ := m
    have member (k : String) : textOf k ∈ taken.map textOf ↔ k ∈ taken := by simp
    have rest := @ih (nfc key :: taken)
    rw [List.map_cons] at rest
    simp only [textMembers_cons, outcomePairs, nfcText_textOf, member, rest]
    by_cases free : nfc key ∈ taken
    · simp [ensure, free]
    simp only [ensure, free, not_false_eq_true, if_true, ok_bind]
    cases outcomePairs nfc (nfc key :: taken) l <;> rfl

mutual

/-- The hooks make of a tree what `loadOutcome` does. -/
lemma load_outcome : ∀ j : Json, j.load outcomeHooks = loadOutcome j
  | .null | .bool _ | .constant _ | .num _ => rfl
  | .str s => by simp [Json.load, outcomeHooks, loadOutcome]
  | .arr l => by
    rw [Json.load, load_outcomeElems l, loadOutcome]
    rfl
  | .obj l => by
    rw [Json.load, load_outcomeMembers l, loadOutcome]
    cases loadOutcomeMembers l with
    | error e => rfl
    | ok ms =>
      have keys := @outcomePairs_textMembers _ ms []
      simp only [except_map_ok, ok_bind, outcomeHooks]
      rw [List.map_nil] at keys
      rw [keys]
      cases outcomePairs nfc [] ms <;> simp

lemma load_outcomeElems : ∀ l : List Json, loadItems outcomeHooks l = loadOutcomeElems l
  | [] => rfl
  | j :: l => by rw [loadItems, load_outcome j, load_outcomeElems l, loadOutcomeElems]

lemma load_outcomeMembers : ∀ l : List (String × Json),
    loadPairs outcomeHooks l = (loadOutcomeMembers l).map textMembers
  | [] => rfl
  | (k, j) :: l => by
    rw [loadPairs, load_outcome j, load_outcomeMembers l, loadOutcomeMembers]
    cases loadOutcome j with
    | error e => rfl
    | ok v => cases loadOutcomeMembers l <;> rfl

end

omit [Platform] in
/-- The keys that are checked stay, normalized. -/
lemma outcomePairs_map {κ : Type} [DecidableEq κ] {normalize : κ → κ} {l : List (κ × Value)}
    {taken ms} (h : outcomePairs normalize taken l = .ok ms) :
    ms = l.map fun m => (normalize m.1, m.2) := by
  induction l generalizing taken ms with
  | nil =>
    cases h
    rfl
  | cons m l ih =>
    obtain ⟨key, item⟩ := m
    simp only [outcomePairs, bind_eq_ok, pure_eq_ok, Except.ok.injEq, ensure_eq_ok,
      exists_unit] at h
    obtain ⟨-, rest, h, rfl⟩ := h
    rw [ih h, List.map_cons]

/-- A lone surrogate is carried along. -/
lemma outcomeHooks_keeps : Keeps outcomeHooks (Value.isUnicode · = true) where
  str t a lone e := by
    cases e
    exact Value.text_lone lone
  arr l a ha lone all := lone (Value.isUnicode_list.mp all a ha)
  obj l a e m hm lone := by
    simp only [outcomeHooks, bind_eq_ok, pure_eq_ok, Except.ok.injEq] at e
    obtain ⟨ms, h, rfl⟩ := e
    rw [outcomePairs_map h]
    refine Value.ofMembers_lone (m := (nfcText m.1, m.2)) (List.mem_map_of_mem hm) ?_
    rwa [nfcText_isUnicode]

mutual

/-- Normalization keeps lone surrogates. -/
lemma normalizeOutcome_unicode : ∀ {v w : Value}, normalizeOutcome v = .ok w →
    w.isUnicode = true → v.isUnicode = true
  | .str _, _, _, _ | .none, _, _, _ | .bool _, _, _, _ | .decimal _, _, _, _ => rfl
  | .list l, w, h, hw => by
    simp only [normalizeOutcome, bind_eq_ok, pure_eq_ok, Except.ok.injEq] at h
    obtain ⟨vs, h, rfl⟩ := h
    exact Value.isUnicode_list.mpr (normalizeOutcomes_unicode h (Value.isUnicode_tuple.mp hw))
  | .dict l, w, h, hw => by
    simp only [normalizeOutcome, bind_eq_ok, pure_eq_ok, Except.ok.injEq] at h
    obtain ⟨ms, h, rfl⟩ := h
    exact Value.isUnicode_dict.mpr (normalizeOutcomeMembers_unicode h (Value.isUnicode_dict.mp hw))
  | .points t, w, h, hw => by
    cases h
    cases hw
  | .textDict l, w, h, hw => by
    simp only [normalizeOutcome, bind_eq_ok, pure_eq_ok, Except.ok.injEq] at h
    obtain ⟨ms, -, rfl⟩ := h
    cases hw
  | .int _, _, h, _ | .float _, _, h, _ | .enum .., _, h, _ | .tuple _, _, h, _
  | .record _, _, h, _ => by cases h

lemma normalizeOutcomes_unicode : ∀ {l ws : List Value}, normalizeOutcomes l = .ok ws →
    (∀ w ∈ ws, w.isUnicode = true) → ∀ v ∈ l, v.isUnicode = true
  | [], _, _, _ => by simp
  | v :: l, ws, h, hw => by
    simp only [normalizeOutcomes, bind_eq_ok, pure_eq_ok, Except.ok.injEq] at h
    obtain ⟨w, hv, ws, hl, rfl⟩ := h
    rw [List.forall_mem_cons] at hw ⊢
    exact ⟨normalizeOutcome_unicode hv hw.1, normalizeOutcomes_unicode hl hw.2⟩

lemma normalizeOutcomeMembers_unicode : ∀ {l ms : List (String × Value)},
    normalizeOutcomeMembers l = .ok ms → (∀ m ∈ ms, m.2.isUnicode = true) →
      ∀ m ∈ l, m.2.isUnicode = true
  | [], _, _, _ => by simp
  | (k, v) :: l, ms, h, hw => by
    simp only [normalizeOutcomeMembers, bind_eq_ok, pure_eq_ok, Except.ok.injEq] at h
    obtain ⟨w, hv, ws, hl, rfl⟩ := h
    rw [List.forall_mem_cons] at hw ⊢
    exact ⟨normalizeOutcome_unicode hv hw.1, normalizeOutcomeMembers_unicode hl hw.2⟩

end

lemma outcomePairs_eq_ok {l : List (String × Value)} {taken : List String} {ms} :
    outcomePairs nfc taken l = .ok ms ↔ (l.map fun m => nfc m.1).Nodup ∧ (∀ m ∈ l, nfc m.1 ∉ taken) ∧
      ms = l.map fun m => (nfc m.1, m.2) := by
  induction l generalizing taken ms with
  | nil => simp [outcomePairs, eq_comm]
  | cons m l ih =>
    obtain ⟨key, item⟩ := m
    simp only [outcomePairs, bind_eq_ok, pure_eq_ok, Except.ok.injEq, ensure_eq_ok, exists_unit, ih,
      List.map_cons, List.nodup_cons, List.mem_map, List.mem_cons, not_or, not_exists, not_and,
      forall_eq_or_imp]
    constructor
    · rintro ⟨free, rest, ⟨nd, apart, rfl⟩, rfl⟩
      exact ⟨⟨fun m hm => (apart m hm).1, nd⟩, ⟨free, fun m hm => (apart m hm).2⟩, rfl⟩
    · rintro ⟨⟨apart, nd⟩, ⟨free, others⟩, rfl⟩
      exact ⟨free, _, ⟨nd, fun m hm => ⟨apart m hm, others m hm⟩, rfl⟩, rfl⟩

lemma loadOutcomeMembers_keys {ms : List (String × Json)} {vs} (h : loadOutcomeMembers ms = .ok vs) :
    vs.map Prod.fst = ms.map Prod.fst := by
  induction ms generalizing vs with
  | nil =>
    cases h
    rfl
  | cons m ms ih =>
    obtain ⟨k, j⟩ := m
    simp only [loadOutcomeMembers, bind_eq_ok, pure_eq_ok, Except.ok.injEq] at h
    obtain ⟨v, -, vs', h', rfl⟩ := h
    rw [List.map_cons, List.map_cons, ih h']

lemma normalizeOutcomeMembers_map {vs : List (String × Value)} {ms} (key : String → String) :
    normalizeOutcomeMembers (vs.map fun m => (key m.1, m.2)) = .ok ms ↔
      ∃ ns, normalizeOutcomeMembers vs = .ok ns ∧ ms = ns.map fun m => (key m.1, m.2) := by
  induction vs generalizing ms with
  | nil => simp [normalizeOutcomeMembers, eq_comm]
  | cons m vs ih =>
    obtain ⟨k, v⟩ := m
    simp only [List.map_cons, normalizeOutcomeMembers, bind_eq_ok, pure_eq_ok, Except.ok.injEq, ih]
    constructor
    · rintro ⟨v, hv, _, ⟨ns, hns, rfl⟩, rfl⟩
      exact ⟨_, ⟨v, hv, ns, hns, rfl⟩, rfl⟩
    · rintro ⟨_, ⟨v, hv, ns, hns, rfl⟩, rfl⟩
      exact ⟨v, hv, _, ⟨ns, hns, rfl⟩, rfl⟩

mutual

/-- When a tree is read, and as what. -/
lemma load_normalize : ∀ {j : Json} {w : Value},
    (∃ v, loadOutcome j = .ok v ∧ normalizeOutcome v = .ok w) ↔
      (∀ p ∈ j.parts, Taken p) ∧ w = decimalValue (outcomeTree j)
  | .null, w | .bool _, w | .str _, w => by
    simp only [loadOutcome, Except.ok.injEq, exists_eq_left', normalizeOutcome, Json.parts,
      List.mem_singleton, forall_eq, Taken, true_and, outcomeTree, Json.mapStrings, decimalValue]
    exact eq_comm
  | .num n, w => by
    simp only [loadOutcome, decimalNumber_ok, Json.parts, List.mem_singleton, forall_eq, Taken,
      outcomeTree, Json.mapStrings, decimalValue]
    constructor
    · rintro ⟨_, ⟨accepted, rfl⟩, h⟩
      cases h
      exact ⟨accepted, rfl⟩
    · rintro ⟨accepted, rfl⟩
      exact ⟨_, ⟨accepted, rfl⟩, rfl⟩
  | .constant _, w => by simp [loadOutcome, corrupt, Json.parts, Taken]
  | .arr l, w => by
    have elems := @load_normalizeElems l
    simp only [loadOutcome, bind_eq_ok, pure_eq_ok, Except.ok.injEq, forall_parts_arr, Taken,
      true_and, outcomeTree, Json.mapStrings, decimalValue]
    constructor
    · rintro ⟨_, ⟨vs, hvs, rfl⟩, h⟩
      simp only [normalizeOutcome, bind_eq_ok, pure_eq_ok, Except.ok.injEq] at h
      obtain ⟨ws, hws, rfl⟩ := h
      obtain ⟨keyed, rfl⟩ := elems.mp ⟨vs, hvs, hws⟩
      exact ⟨keyed, rfl⟩
    · rintro ⟨keyed, rfl⟩
      obtain ⟨vs, hvs, hws⟩ := elems.mpr ⟨keyed, rfl⟩
      refine ⟨_, ⟨vs, hvs, rfl⟩, ?_⟩
      simp only [normalizeOutcome, hws, ok_bind, pure_eq_ok]
  | .obj ms, w => by
    have members := @load_normalizeMembers ms
    -- texts are normalized in two steps: the keys with their object, the rest afterwards
    have renamed : decimalMembers (mapStringsMembers nfc ms) =
        (ms.map fun m => (m.1, decimalValue (outcomeTree m.2))).map fun m => (nfc m.1, m.2) := by
      rw [decimalMembers_eq, mapStringsMembers_eq, List.map_map, List.map_map]
      rfl
    simp only [loadOutcome, bind_eq_ok, pure_eq_ok, Except.ok.injEq, forall_parts_obj, Taken,
      outcomeTree, Json.mapStrings, decimalValue, outcomePairs_eq_ok, renamed]
    constructor
    · rintro ⟨_, ⟨vs, hvs, _, ⟨nd, -, rfl⟩, rfl⟩, h⟩
      simp only [normalizeOutcome, bind_eq_ok, pure_eq_ok, Except.ok.injEq,
        normalizeOutcomeMembers_map] at h
      obtain ⟨_, ⟨ns, hns, rfl⟩, rfl⟩ := h
      obtain ⟨keyed, rfl⟩ := members.mp ⟨vs, hvs, hns⟩
      have keys := congrArg (List.map nfc) (loadOutcomeMembers_keys hvs)
      rw [List.map_map, List.map_map] at keys
      exact ⟨⟨keys ▸ nd, keyed⟩, rfl⟩
    · rintro ⟨⟨nd, keyed⟩, rfl⟩
      obtain ⟨vs, hvs, hns⟩ := members.mpr ⟨keyed, rfl⟩
      have keys := congrArg (List.map nfc) (loadOutcomeMembers_keys hvs)
      rw [List.map_map, List.map_map] at keys
      refine ⟨_, ⟨vs, hvs, _, ⟨keys.symm ▸ nd, by simp, rfl⟩, rfl⟩, ?_⟩
      simp only [normalizeOutcome, (normalizeOutcomeMembers_map nfc).mpr ⟨_, hns, rfl⟩, ok_bind,
        pure_eq_ok]
      rfl

lemma load_normalizeElems : ∀ {l : List Json} {ws : List Value},
    (∃ vs, loadOutcomeElems l = .ok vs ∧ normalizeOutcomes vs = .ok ws) ↔
      (∀ j ∈ l, ∀ p ∈ j.parts, Taken p) ∧ ws = decimalElems (mapStringsElems nfc l)
  | [], ws => by
    simp [loadOutcomeElems, normalizeOutcomes, mapStringsElems, decimalElems, eq_comm]
  | j :: l, ws => by
    rw [List.forall_mem_cons, mapStringsElems, decimalElems]
    simp only [loadOutcomeElems, bind_eq_ok, pure_eq_ok, Except.ok.injEq]
    constructor
    · rintro ⟨_, ⟨v, hv, vs, hvs, rfl⟩, h⟩
      simp only [normalizeOutcomes, bind_eq_ok, pure_eq_ok, Except.ok.injEq] at h
      obtain ⟨w, hw, ws, hws, rfl⟩ := h
      obtain ⟨head, rfl⟩ := load_normalize.mp ⟨v, hv, hw⟩
      obtain ⟨tail, rfl⟩ := load_normalizeElems.mp ⟨vs, hvs, hws⟩
      exact ⟨⟨head, tail⟩, rfl⟩
    · rintro ⟨⟨head, tail⟩, rfl⟩
      obtain ⟨v, hv, hw⟩ := load_normalize.mpr ⟨head, rfl⟩
      obtain ⟨vs, hvs, hws⟩ := load_normalizeElems.mpr ⟨tail, rfl⟩
      refine ⟨_, ⟨v, hv, vs, hvs, rfl⟩, ?_⟩
      simp only [normalizeOutcomes, hw, hws, ok_bind, pure_eq_ok]
      rfl

lemma load_normalizeMembers : ∀ {ms : List (String × Json)} {ns : List (String × Value)},
    (∃ vs, loadOutcomeMembers ms = .ok vs ∧ normalizeOutcomeMembers vs = .ok ns) ↔
      (∀ m ∈ ms, ∀ p ∈ m.2.parts, Taken p) ∧
        ns = ms.map fun m => (m.1, decimalValue (outcomeTree m.2))
  | [], ns => by simp [loadOutcomeMembers, normalizeOutcomeMembers, eq_comm]
  | (k, j) :: ms, ns => by
    rw [List.forall_mem_cons, List.map_cons]
    simp only [loadOutcomeMembers, bind_eq_ok, pure_eq_ok, Except.ok.injEq]
    constructor
    · rintro ⟨_, ⟨v, hv, vs, hvs, rfl⟩, h⟩
      simp only [normalizeOutcomeMembers, bind_eq_ok, pure_eq_ok, Except.ok.injEq] at h
      obtain ⟨w, hw, ws, hws, rfl⟩ := h
      obtain ⟨head, rfl⟩ := load_normalize.mp ⟨v, hv, hw⟩
      obtain ⟨tail, rfl⟩ := load_normalizeMembers.mp ⟨vs, hvs, hws⟩
      exact ⟨⟨head, tail⟩, rfl⟩
    · rintro ⟨⟨head, tail⟩, rfl⟩
      obtain ⟨v, hv, hw⟩ := load_normalize.mpr ⟨head, rfl⟩
      obtain ⟨vs, hvs, hws⟩ := load_normalizeMembers.mpr ⟨tail, rfl⟩
      refine ⟨_, ⟨v, hv, vs, hvs, rfl⟩, ?_⟩
      simp only [normalizeOutcomeMembers, hw, hws, ok_bind, pure_eq_ok]

end

lemma taken_parts {j : Json} : (∀ p ∈ j.parts, Taken p) ↔
    (∀ p ∈ j.parts, Keyed p) ∧ ∀ n, .num n ∈ j.parts → Decimal.accepts n = true := by
  simp only [taken_iff]
  constructor
  · exact fun h => ⟨fun p hp => (h p hp).1, fun n hn => (h _ hn).2 n rfl⟩
  · rintro ⟨keyed, accepted⟩ p hp
    refine ⟨keyed p hp, ?_⟩
    rintro n rfl
    exact accepted n hp

/-- A text is read as a value without lone surrogates when it has a tree without non-finite numbers,
colliding keys and numbers beyond the limits, and as the value of its tree. -/
lemma parseOutcome_ok {text : String} {v : Value} : parseOutcome text = .ok v ∧ v.isUnicode = true ↔
    ∃ j, Json.parse text = some j ∧ (∀ p ∈ j.parts, Keyed p) ∧
      (∀ n, .num n ∈ j.parts → Decimal.accepts n = true) ∧ v = decimalValue (outcomeTree j) := by
  have tree (j : Json) : (∀ p ∈ j.parts, Keyed p) ∧
      (∀ n, .num n ∈ j.parts → Decimal.accepts n = true) ∧ v = decimalValue (outcomeTree j) ↔
      (∀ p ∈ j.parts, Taken p) ∧ v = decimalValue (outcomeTree j) := by
    rw [taken_parts, and_assoc]
  simp only [tree, parseOutcome, bind_eq_ok]
  constructor
  · rintro ⟨⟨w, read, normal⟩, hv⟩
    obtain ⟨j, parsed, load⟩ := Hooks.scan_unicode _ outcomeHooks_keeps read
      (normalizeOutcome_unicode normal hv)
    rw [load_outcome] at load
    exact ⟨j, parsed, load_normalize.mp ⟨w, load, normal⟩⟩
  · rintro ⟨j, parsed, taken⟩
    obtain ⟨w, load, normal⟩ := load_normalize.mpr taken
    refine ⟨⟨w, ?_, normal⟩, ?_⟩
    · rw [outcomeHooks.scan_parse parsed, load_outcome, load]
    · rw [taken.2]
      exact decimalValue_unicode _

/-- A text is read as its tree. -/
lemma parseOutcome_tree {text : String} {j : Json} (parsed : Json.parse text = some j)
    (keyed : ∀ p ∈ j.parts, Keyed p) (accepted : ∀ n, .num n ∈ j.parts → Decimal.accepts n = true) :
    parseOutcome text = .ok (decimalValue (outcomeTree j)) :=
  (parseOutcome_ok.mpr ⟨j, parsed, keyed, accepted, rfl⟩).1

end

end GAM
