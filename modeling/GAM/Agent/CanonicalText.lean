import GAM.Traces.Canonical
import GAM.Traces.DecimalJson

/-!
# The JSON texts of a draft

The reader and the writer of `agent.py`: a text of the model's answer is read with decimals, keys are
put in NFC, colliding keys and the names of authority fields are refused, and the value is written in
plain decimal notation. The gate reads that text again with integers and doubles, so it accepts
exactly the texts whose numbers both notations write alike.
-/

namespace GAM
open Lib

/-- What the agent raises: `AgentContractError`, or an error of what it calls. -/
inductive AgentError where
  | contract (message : String)
  | python (error : PyError)
deriving DecidableEq, Repr

/-- Python `_FORBIDDEN_OUTPUT_KEYS`. -/
def forbiddenOutputKeys : List String :=
  ["verdict", "risk", "decision", "trace", "operator", "witness", "receipt", "command",
    "credential", "execution"]

/-- Python `CanonicalJson`. -/
structure CanonicalJson where
  utf8 : String
  digest : String
deriving DecidableEq, Repr

section
variable [Platform]

/-- `object_pairs` of `_canonical_json_text`; `result` and `normalized` are the keys so far. -/
def agentPairs {κ : Type} [DecidableEq κ] (name : String) (normalize : κ → κ)
    (result normalized : List κ) : List (κ × Value) → Except AgentError (List (κ × Value))
  | [] => .ok []
  | (key, item) :: l => do
    let canonicalKey := normalize key
    ensure (¬(key ∈ result ∨ canonicalKey ∈ normalized))
      (.contract (name ++ " contains a duplicate object key"))
    let rest ← agentPairs name normalize (key :: result) (canonicalKey :: normalized) l
    return (key, item) :: rest

/-- The hooks of `_canonical_json_text`. -/
def agentHooks (name : String) : Hooks AgentError Value where
  invalid := .contract (name ++ " is not valid JSON")
  null := .none
  bool := .bool
  constant := fun _ => .error (.contract (name ++ " contains a non-finite number"))
  number := fun n => (decimalNumber n).mapError .python
  str := fun t => .ok (.text t)
  arr := .list
  obj := fun l => do
    let ms ← agentPairs name nfcText [] [] l
    return .ofMembers ms

mutual

/-- What these hooks make of a tree. -/
def loadAgent (name : String) : Json → Except AgentError Value
  | .null => .ok .none
  | .bool b => .ok (.bool b)
  | .constant _ => .error (.contract (name ++ " contains a non-finite number"))
  | .num n => (decimalNumber n).mapError .python
  | .str s => .ok (.str s)
  | .arr l => do
    let vs ← loadAgentElems name l
    return .list vs
  | .obj l => do
    let ms ← loadAgentMembers name l
    let ms ← agentPairs name nfc [] [] ms
    return .dict ms

/-- The items of an array. -/
def loadAgentElems (name : String) : List Json → Except AgentError (List Value)
  | [] => .ok []
  | j :: l => do
    let v ← loadAgent name j
    let vs ← loadAgentElems name l
    return v :: vs

/-- The members of an object, in the order of the text. -/
def loadAgentMembers (name : String) :
    List (String × Json) → Except AgentError (List (String × Value))
  | [] => .ok []
  | (k, j) :: l => do
    let v ← loadAgent name j
    let vs ← loadAgentMembers name l
    return (k, v) :: vs

end

mutual

/-- Python `_json_value`. -/
def agentValue (casefold : String → String) : Value → Except AgentError Value
  | .none => .ok .none
  | .str s => .ok (.str s)
  | .bool b => .ok (.bool b)
  | .int i => .ok (.decimal (.finite (decide (i < 0)) i.natAbs 0))
  | .decimal d => do
    ensure d.isFinite (.contract "JSON number is non-finite")
    return .decimal d
  | .float _ => .error (.contract "binary floating-point JSON is forbidden")
  | .tuple l | .list l => do
    let vs ← agentValues casefold l
    return .tuple vs
  | .dict l => do
    let ms ← agentMembers casefold [] l
    return .dict ms
  | .points t => .ok (.points t)
  | .textDict l => do
    let ms ← agentTextMembers casefold [] l
    return .textDict ms
  | _ => .error (.contract "model output contains a non-JSON value")

/-- The items of a list. -/
def agentValues (casefold : String → String) : List Value → Except AgentError (List Value)
  | [] => .ok []
  | v :: l => do
    let v ← agentValue casefold v
    let vs ← agentValues casefold l
    return v :: vs

/-- The members of a mapping; `result` is the keys that have been taken. -/
def agentMembers (casefold : String → String) (result : List String) :
    List (String × Value) → Except AgentError (List (String × Value))
  | [] => .ok []
  | (rawKey, item) :: l => do
    let key := nfc rawKey
    ensure (key ∉ result) (.contract "JSON object has a normalized duplicate key")
    ensure (casefold key ∉ forbiddenOutputKeys)
      (.contract "model output contains an authority field")
    let v ← agentValue casefold item
    let rest ← agentMembers casefold (key :: result) l
    return (key, v) :: rest

/-- The members of a mapping whose keys may be no strings. -/
def agentTextMembers (casefold : String → String) (result : List Text) :
    List (Text × Value) → Except AgentError (List (Text × Value))
  | [] => .ok []
  | (rawKey, item) :: l => do
    let key := nfcText rawKey
    ensure (key ∉ result) (.contract "JSON object has a normalized duplicate key")
    -- folding keeps a lone surrogate, and no name of a field has one
    ensure (key.string?.any (fun k => casefold k ∈ forbiddenOutputKeys) = false)
      (.contract "model output contains an authority field")
    let v ← agentValue casefold item
    let rest ← agentTextMembers casefold (key :: result) l
    return (key, v) :: rest

end

/-- What `_plain_json` of this module raises. -/
def agentErrors : PlainErrors AgentError where
  nonFinite := .contract "JSON number is non-finite"
  overflow := .python .arithmeticError
  unsupported := .python .attributeError

/-- A value that is a mapping. -/
def isMapping : Value → Bool
  | .dict _ | .textDict _ => true
  | _ => false

/-- Python `_canonical`. -/
def agentCanonical (casefold : String → String) (requireObject : Bool) (value : Value) :
    Except AgentError CanonicalJson := do
  let normalized ← agentValue casefold value
  ensure (requireObject = true → isMapping normalized)
    (.contract "proposal parameters are not an object")
  -- a text with a lone surrogate cannot be encoded
  ensure (normalized.isUnicode = true) (.python .valueError)
  let raw ← plainText agentErrors normalized
  let digest ← (canonicalSha256 normalized).mapError .python
  return ⟨String.ofList raw, digest⟩

/-- Python `_canonical_json_text`. -/
def canonicalJsonText (casefold : String → String) (name : String) (requireObject : Bool)
    (value : String) : Except AgentError CanonicalJson := do
  let parsed ← (agentHooks name).scan value
  agentCanonical casefold requireObject parsed

/-! ### What is read -/

section
variable {κ : Type} [DecidableEq κ] {name : String} {normalize : κ → κ} {l : List (κ × Value)}
  {result normalized : List κ} {ms : List (κ × Value)}

omit [Platform] in
/-- Pairs are taken exactly where no two names have one normal form. -/
lemma agentPairs_ok (h : agentPairs name normalize result normalized l = .ok ms) :
    (l.map fun m => normalize m.1).Nodup ∧ (∀ m ∈ l, normalize m.1 ∉ normalized) ∧ ms = l := by
  induction l generalizing result normalized ms with
  | nil =>
    cases h
    simp
  | cons m l ih =>
    obtain ⟨key, item⟩ := m
    simp only [agentPairs, bind_eq_ok, pure_eq_ok, Except.ok.injEq, ensure_eq_ok, exists_unit,
      not_or] at h
    obtain ⟨⟨-, free⟩, rest, tail, rfl⟩ := h
    obtain ⟨nodup, apart, rfl⟩ := ih tail
    have first : normalize key ∉ rest.map fun m => normalize m.1 := by
      intro taken
      obtain ⟨m, hm, e⟩ := List.mem_map.mp taken
      exact apart m hm (e ▸ List.mem_cons_self)
    refine ⟨List.nodup_cons.mpr ⟨first, nodup⟩, ?_, rfl⟩
    rw [List.forall_mem_cons]
    exact ⟨free, fun m hm taken => apart m hm (List.mem_cons_of_mem _ taken)⟩

end

/-- On strings the keys are those of strings. -/
lemma agentPairs_textMembers {name : String} {l : List (String × Value)}
    {result normalized : List String} :
    agentPairs name nfcText (result.map textOf) (normalized.map textOf) (textMembers l) =
      (agentPairs name nfc result normalized l).map textMembers := by
  induction l generalizing result normalized with
  | nil => rfl
  | cons m l ih =>
    obtain ⟨key, item⟩ := m
    have member (k : String) (taken : List String) : textOf k ∈ taken.map textOf ↔ k ∈ taken := by simp
    have rest := @ih (key :: result) (nfc key :: normalized)
    rw [List.map_cons, List.map_cons] at rest
    simp only [textMembers_cons, agentPairs, nfcText_textOf, member, rest]
    by_cases taken : key ∈ result ∨ nfc key ∈ normalized
    · simp [ensure, taken]
    simp only [ensure, taken, not_false_eq_true, if_true, ok_bind]
    cases agentPairs name nfc (key :: result) (nfc key :: normalized) l <;> rfl

mutual

/-- The hooks make of a tree what `loadAgent` does. -/
lemma load_agent {name : String} : ∀ j : Json, j.load (agentHooks name) = loadAgent name j
  | .null | .bool _ | .constant _ | .num _ => rfl
  | .str s => by simp [Json.load, agentHooks, loadAgent]
  | .arr l => by
    rw [Json.load, load_agentElems l, loadAgent]
    rfl
  | .obj l => by
    rw [Json.load, load_agentPairs l, loadAgent]
    cases loadAgentMembers name l with
    | error e => rfl
    | ok ms =>
      have keys := @agentPairs_textMembers _ name ms [] []
      simp only [except_map_ok, ok_bind, agentHooks]
      rw [List.map_nil] at keys
      rw [keys]
      cases agentPairs name nfc [] [] ms <;> simp

/-- Elements are loaded by the hooks as by the loader of trees. -/
lemma load_agentElems {name : String} : ∀ l : List Json,
    loadItems (agentHooks name) l = loadAgentElems name l
  | [] => rfl
  | j :: l => by rw [loadItems, load_agent j, load_agentElems l, loadAgentElems]

/-- Members are loaded by the hooks as by the loader of trees. -/
lemma load_agentPairs {name : String} : ∀ l : List (String × Json),
    loadPairs (agentHooks name) l = (loadAgentMembers name l).map textMembers
  | [] => rfl
  | (k, j) :: l => by
    rw [loadPairs, load_agent j, load_agentPairs l, loadAgentMembers]
    cases loadAgent name j with
    | error e => rfl
    | ok v => cases loadAgentMembers name l <;> rfl

end

/-- A text with a tree is read as the tree is. -/
lemma agentHooks_parse {name text : String} {j : Json} (parsed : Json.parse text = some j) :
    (agentHooks name).scan text = loadAgent name j := by
  rw [Hooks.scan_parse _ parsed, load_agent]

/-- A lone surrogate is carried along. -/
lemma agentHooks_keeps {name : String} : Keeps (agentHooks name) (Value.isUnicode · = true) where
  str t a lone e := by
    cases e
    exact Value.text_lone lone
  arr l a ha lone all := lone (Value.isUnicode_list.mp all a ha)
  obj l a e m hm lone := by
    simp only [agentHooks, bind_eq_ok, pure_eq_ok, Except.ok.injEq] at e
    obtain ⟨ms, h, rfl⟩ := e
    obtain ⟨-, -, rfl⟩ := agentPairs_ok h
    exact Value.ofMembers_lone hm lone

/-- Loading leaves the names as they are. -/
lemma loadAgentMembers_keys {name : String} {ms : List (String × Json)} {vs}
    (h : loadAgentMembers name ms = .ok vs) : vs.map Prod.fst = ms.map Prod.fst := by
  induction ms generalizing vs with
  | nil =>
    cases h
    rfl
  | cons m ms ih =>
    obtain ⟨k, j⟩ := m
    simp only [loadAgentMembers, bind_eq_ok, pure_eq_ok, Except.ok.injEq] at h
    obtain ⟨v, -, vs', h', rfl⟩ := h
    rw [List.map_cons, List.map_cons, ih h']

/-! ### What is kept -/

/-- No key of an object is, in NFC and case-folded, the name of an authority field. -/
def NamesNoAuthority (casefold : String → String) : Json → Prop
  | .obj l => ∀ m ∈ l, casefold (nfc m.1) ∉ forbiddenOutputKeys
  | _ => True

/-- What the agent requires of the keys of a part. -/
def AgentKeys (casefold : String → String) (p : Json) : Prop := Keyed p ∧ NamesNoAuthority casefold p

section
variable {casefold : String → String} {name : String}

/-- Members that are kept have no forbidden name. -/
lemma agentMembers_names {l : List (String × Value)} {result : List String} {ms}
    (h : agentMembers casefold result l = .ok ms) :
    ∀ m ∈ l, casefold (nfc m.1) ∉ forbiddenOutputKeys := by
  induction l generalizing result ms with
  | nil => exact fun _ h => absurd h List.not_mem_nil
  | cons m l ih =>
    obtain ⟨key, item⟩ := m
    simp only [agentMembers, bind_eq_ok, ensure_eq_ok, exists_unit] at h
    obtain ⟨-, free, _, -, rest, tail, -⟩ := h
    exact List.forall_mem_cons.mpr ⟨free, ih tail⟩

mutual

/-- A tree that is read and kept has distinct keys without authority, and is the value of its tree. -/
lemma load_agentValue : ∀ {j : Json} {v w : Value}, loadAgent name j = .ok v →
    agentValue casefold v = .ok w → (∀ p ∈ j.parts, AgentKeys casefold p) ∧ w = decimalValue j
  | .null, _, _, hv, hw | .bool _, _, _, hv, hw | .str _, _, _, hv, hw => by
    cases hv
    cases hw
    simp [Json.parts, AgentKeys, Keyed, NamesNoAuthority, decimalValue]
  | .num n, _, _, hv, hw => by
    obtain ⟨-, rfl⟩ := decimalNumber_ok.mp (mapError_eq_ok.mp hv)
    cases hw
    simp [Json.parts, AgentKeys, Keyed, NamesNoAuthority, decimalValue]
  | .constant _, _, _, hv, _ => by cases hv
  | .arr l, _, w, hv, hw => by
    simp only [loadAgent, bind_eq_ok, pure_eq_ok, Except.ok.injEq] at hv
    obtain ⟨vs, hvs, rfl⟩ := hv
    simp only [agentValue, bind_eq_ok, pure_eq_ok, Except.ok.injEq] at hw
    obtain ⟨ws, hws, rfl⟩ := hw
    obtain ⟨keyed, rfl⟩ := load_agentValues hvs hws
    exact ⟨forall_parts_arr.mpr ⟨⟨trivial, trivial⟩, keyed⟩, rfl⟩
  | .obj ms, _, w, hv, hw => by
    simp only [loadAgent, bind_eq_ok, pure_eq_ok, Except.ok.injEq] at hv
    obtain ⟨vs, hvs, paired, hpairs, rfl⟩ := hv
    obtain ⟨nodup, -, rfl⟩ := agentPairs_ok hpairs
    simp only [agentValue, bind_eq_ok, pure_eq_ok, Except.ok.injEq] at hw
    obtain ⟨ws, hws, rfl⟩ := hw
    have names := agentMembers_names hws
    obtain ⟨keyed, rfl⟩ := load_agentMembers hvs hws
    have keys := loadAgentMembers_keys hvs
    have distinct : Keyed (.obj ms) := by
      have forms := congrArg (List.map nfc) keys
      rw [List.map_map, List.map_map] at forms
      rw [Keyed]
      exact forms ▸ nodup
    have unnamed : NamesNoAuthority casefold (.obj ms) := by
      rw [← List.forall_mem_map (f := Prod.fst) (P := fun k => casefold (nfc k) ∉ _), keys] at names
      exact fun m hm => names m.1 (List.mem_map_of_mem hm)
    exact ⟨forall_parts_obj.mpr ⟨⟨distinct, unnamed⟩, keyed⟩, rfl⟩

/-- Elements that are loaded and kept have the agent's keys. -/
lemma load_agentValues : ∀ {l : List Json} {vs ws : List Value}, loadAgentElems name l = .ok vs →
    agentValues casefold vs = .ok ws →
      (∀ j ∈ l, ∀ p ∈ j.parts, AgentKeys casefold p) ∧ ws = decimalElems l
  | [], _, _, hv, hw => by
    cases hv
    cases hw
    exact ⟨fun _ h => absurd h List.not_mem_nil, rfl⟩
  | j :: l, _, ws, hv, hw => by
    simp only [loadAgentElems, bind_eq_ok, pure_eq_ok, Except.ok.injEq] at hv
    obtain ⟨v, hv, vs, hvs, rfl⟩ := hv
    simp only [agentValues, bind_eq_ok, pure_eq_ok, Except.ok.injEq] at hw
    obtain ⟨w, hw, ws, hws, rfl⟩ := hw
    obtain ⟨head, rfl⟩ := load_agentValue hv hw
    obtain ⟨tail, rfl⟩ := load_agentValues hvs hws
    exact ⟨List.forall_mem_cons.mpr ⟨head, tail⟩, rfl⟩

/-- Members that are loaded and kept have the agent's keys. -/
lemma load_agentMembers : ∀ {ms : List (String × Json)} {vs ws : List (String × Value)}
    {result : List String}, loadAgentMembers name ms = .ok vs →
    agentMembers casefold result vs = .ok ws →
      (∀ m ∈ ms, ∀ p ∈ m.2.parts, AgentKeys casefold p) ∧ ws = decimalMembers ms
  | [], _, _, _, hv, hw => by
    cases hv
    cases hw
    exact ⟨fun _ h => absurd h List.not_mem_nil, rfl⟩
  | (k, j) :: ms, _, ws, _, hv, hw => by
    simp only [loadAgentMembers, bind_eq_ok, pure_eq_ok, Except.ok.injEq] at hv
    obtain ⟨v, hv, vs, hvs, rfl⟩ := hv
    simp only [agentMembers, bind_eq_ok, pure_eq_ok, Except.ok.injEq] at hw
    obtain ⟨_, -, _, -, w, hw, ws, hws, rfl⟩ := hw
    obtain ⟨head, rfl⟩ := load_agentValue hv hw
    obtain ⟨tail, rfl⟩ := load_agentMembers hvs hws
    exact ⟨List.forall_mem_cons.mpr ⟨head, tail⟩, rfl⟩

end

end

mutual

/-- A value that is kept without lone surrogates was read without them. -/
lemma agentValue_unicode {casefold : String → String} : ∀ {v w : Value},
    agentValue casefold v = .ok w → w.isUnicode = true → v.isUnicode = true
  | .none, _, _, _ | .str _, _, _, _ | .bool _, _, _, _ | .int _, _, _, _ | .decimal _, _, _, _ => rfl
  | .tuple l, w, h, hw => by
    simp only [agentValue, bind_eq_ok, pure_eq_ok, Except.ok.injEq] at h
    obtain ⟨ws, h, rfl⟩ := h
    exact Value.isUnicode_tuple.mpr (agentValues_unicode h (Value.isUnicode_tuple.mp hw))
  | .list l, w, h, hw => by
    simp only [agentValue, bind_eq_ok, pure_eq_ok, Except.ok.injEq] at h
    obtain ⟨ws, h, rfl⟩ := h
    exact Value.isUnicode_list.mpr (agentValues_unicode h (Value.isUnicode_tuple.mp hw))
  | .dict l, w, h, hw => by
    simp only [agentValue, bind_eq_ok, pure_eq_ok, Except.ok.injEq] at h
    obtain ⟨ms, h, rfl⟩ := h
    exact Value.isUnicode_dict.mpr (agentMembers_unicode h (Value.isUnicode_dict.mp hw))
  | .points t, w, h, hw => by
    cases h
    cases hw
  | .textDict l, w, h, hw => by
    simp only [agentValue, bind_eq_ok, pure_eq_ok, Except.ok.injEq] at h
    obtain ⟨ms, -, rfl⟩ := h
    cases hw
  | .float _, _, h, _ | .enum .., _, h, _ | .record _, _, h, _ => by cases h

/-- The elements were read without lone surrogates. -/
lemma agentValues_unicode {casefold : String → String} : ∀ {l ws : List Value},
    agentValues casefold l = .ok ws → (∀ w ∈ ws, w.isUnicode = true) → ∀ v ∈ l, v.isUnicode = true
  | [], _, _, _ => List.forall_mem_nil _
  | v :: l, ws, h, hw => by
    simp only [agentValues, bind_eq_ok, pure_eq_ok, Except.ok.injEq] at h
    obtain ⟨w, hv, ws, hl, rfl⟩ := h
    rw [List.forall_mem_cons] at hw ⊢
    exact ⟨agentValue_unicode hv hw.1, agentValues_unicode hl hw.2⟩

/-- The values of the members were read without lone surrogates. -/
lemma agentMembers_unicode {casefold : String → String} : ∀ {l ms : List (String × Value)}
    {result : List String}, agentMembers casefold result l = .ok ms →
      (∀ m ∈ ms, m.2.isUnicode = true) → ∀ m ∈ l, m.2.isUnicode = true
  | [], _, _, _, _ => List.forall_mem_nil _
  | (k, v) :: l, ms, _, h, hw => by
    simp only [agentMembers, bind_eq_ok, pure_eq_ok, Except.ok.injEq] at h
    obtain ⟨_, -, _, -, w, hv, ws, hl, rfl⟩ := h
    rw [List.forall_mem_cons] at hw ⊢
    exact ⟨agentValue_unicode hv hw.1, agentMembers_unicode hl hw.2⟩

end

/-- A text that is read and kept without lone surrogates has a tree, and is kept as its value. -/
lemma agentHooks_kept {casefold : String → String} {name text : String} {v w : Value}
    (read : (agentHooks name).scan text = .ok v) (value : agentValue casefold v = .ok w)
    (unicode : w.isUnicode = true) :
    ∃ j, Json.parse text = some j ∧ (∀ p ∈ j.parts, AgentKeys casefold p) ∧ w = decimalValue j := by
  obtain ⟨j, parsed, load⟩ := Hooks.scan_unicode _ agentHooks_keeps read
    (agentValue_unicode value unicode)
  rw [load_agent] at load
  exact ⟨j, parsed, load_agentValue load value⟩

/-- The value of a tree is a mapping when the tree is an object. -/
lemma isMapping_decimalValue {j : Json} (h : isMapping (decimalValue j) = true) :
    ∃ ms, j = .obj ms := by
  cases j with
  | obj ms => exact ⟨ms, rfl⟩
  | null | bool | constant | num | str | arr => cases h

/-- A text the agent accepts is written as its tree in normal form, with its numbers as decimals. -/
lemma canonicalJsonText_kept {casefold : String → String} {name : String} {requireObject : Bool}
    {text : String} {c : CanonicalJson}
    (h : canonicalJsonText casefold name requireObject text = .ok c) :
    ∃ j, Json.parse text = some j ∧ (∀ p ∈ j.parts, AgentKeys casefold p) ∧
      (∀ n, .num n ∈ j.parts → Prints n) ∧ (requireObject = true → ∃ ms, j = .obj ms) ∧
      c.utf8 = String.ofList ((normalJson j).printWith decimalChars) := by
  simp only [canonicalJsonText, agentCanonical, bind_eq_ok, pure_eq_ok, Except.ok.injEq, ensure_eq_ok,
    exists_unit] at h
  obtain ⟨v, read, w, value, object, unicode, raw, hraw, _, -, rfl⟩ := h
  obtain ⟨j, parsed, keys, rfl⟩ := agentHooks_kept read value unicode
  obtain ⟨prints, rfl⟩ := (plainText_decimalValue fun p hp => (keys p hp).1).mp hraw
  exact ⟨j, parsed, keys, prints, fun required => isMapping_decimalValue (object required), rfl⟩

/-- What an accepted text says, and what is kept of it. -/
lemma canonicalJsonText_ok {casefold : String → String} {name : String} {requireObject : Bool}
    {text : String} {c : CanonicalJson}
    (h : canonicalJsonText casefold name requireObject text = .ok c) :
    ∃ j, Json.parse text = some j ∧ (∀ p ∈ j.parts, Keyed p) ∧ (∀ n, .num n ∈ j.parts → Prints n) ∧
      c.utf8 = String.ofList ((normalJson j).printWith decimalChars) := by
  obtain ⟨j, parsed, keys, prints, -, written⟩ := canonicalJsonText_kept h
  exact ⟨j, parsed, fun p hp => (keys p hp).1, prints, written⟩

end

/-! ### What the gate makes of it -/

/-- The gate writes the number as it stands: it is an integer the interpreter reads, and not a zero
with a sign, or a fraction in the shortest digits of its double. -/
def KeepsText (n : Number) : Prop :=
  if n.frac = [] then (natChars n.int).length ≤ maxIntDigits ∧ ¬(n.neg = true ∧ n.int = 0)
  else (Binary64.ofNumber n).repr = n.print

instance (n : Number) : Decidable (KeepsText n) := by
  unfold KeepsText
  infer_instance

/-- A number without exponent is written back as it stands when the gate keeps its text. -/
lemma renderNumber_keeps {n : Number} (plain : n.exp = none) :
    renderNumber n = .ok n.print ↔ KeepsText n := by
  rw [renderNumber, loadNumber, KeepsText]
  by_cases whole : n.frac = []
  · rw [if_pos ⟨whole, plain⟩, if_pos whole]
    split
    · rename_i long
      simp only [error_bind, reduceCtorEq, false_iff, not_and]
      exact fun short => absurd long (Nat.not_lt.mpr short)
    · rename_i short
      have read : (natChars n.int).length ≤ maxIntDigits := Nat.not_lt.mp short
      simp only [ok_bind, dumpsValue, Except.ok.injEq, Number.print, whole, plain, fracChars, expChars,
        List.append_nil, read, true_and, not_and]
      cases sign : n.neg with
      | false => simp [intChars]
      | true =>
        by_cases zero : n.int = 0
        · simp [intChars, zero]
        · simp [intChars, zero]
  · rw [if_neg fun h => whole h.1, if_neg whole]
    simp only [ok_bind, dumpsValue]
    split
    · rw [Except.ok.injEq]
    · rename_i infinite
      simp only [reduceCtorEq, false_iff]
      -- an infinity has letters, a printed number has none
      intro text
      have letter : 'n' ∈ (Binary64.ofNumber n).repr := by
        cases h : Binary64.ofNumber n with
        | finite => exact absurd (by rw [h]; rfl) infinite
        | infinity neg => simp [Binary64.repr]
        | nan => simp [Binary64.repr]
      exact absurd (n.numberText 'n' (text ▸ letter)) (by decide)

/-- A decimal's text is rendered the same exactly where the number keeps it. -/
lemma renderNumber_decimal {n : Number} (h : Prints n) :
    renderNumber (decimalToken n) = .ok (decimalChars n) ↔ KeepsText (decimalToken n) := by
  obtain ⟨text, plain⟩ := decimalToken_print h
  rw [← text]
  exact renderNumber_keeps plain

section
variable [Platform]

/-- The gate accepts what the agent writes exactly when it keeps the text of every number. -/
theorem canonicalJsonText_gate {casefold : String → String} {name : String} {requireObject : Bool}
    {text : String} {c : CanonicalJson} {j : Json}
    (accepted : canonicalJsonText casefold name requireObject text = .ok c)
    (parsed : Json.parse text = some j) :
    canonicalPlainJson c.utf8 = .ok () ↔ ∀ n, .num n ∈ j.parts → KeepsText (decimalToken n) := by
  obtain ⟨j', parsed', keyed, prints, written⟩ := canonicalJsonText_ok accepted
  cases parsed.symm.trans parsed'
  rw [written, canonicalPlainJson_decimal keyed prints]
  constructor
  · exact fun kept n hn => (renderNumber_decimal (prints n hn)).mp (kept n hn)
  · exact fun kept n hn => (renderNumber_decimal (prints n hn)).mpr (kept n hn)

/-- The text of one number is canonical when the gate keeps it. -/
lemma canonicalPlainJson_number {n : Number} (h : Prints n) :
    canonicalPlainJson (String.ofList (decimalChars n)) = .ok () ↔ KeepsText (decimalToken n) := by
  have only {m : Number} : .num m ∈ (Json.num n).parts ↔ m = n := by simp [Json.parts]
  have number := canonicalPlainJson_decimal (j := .num n) (by simp [Json.parts, Keyed])
    fun m hm => only.mp hm ▸ h
  simp only [only, forall_eq, renderNumber_decimal h] at number
  exact number

/-- A number is accepted when the constructor takes it and it has a text as a decimal. -/
lemma canonicalJsonText_number {casefold : String → String} {name : String} {n : Number}
    (accepted : Decimal.accepts n = true) (h : Prints n) : ∃ d, canonicalJsonText casefold name false (String.ofList n.print) =
      .ok ⟨String.ofList (decimalChars n), d⟩ := by
  obtain ⟨d, hd⟩ := (encodes_decimal (d := .ofNumber n) rfl (by rw [h]; rfl)).digest
  have text : plainText agentErrors (.decimal (.ofNumber n)) = .ok (decimalChars n) :=
    plainNumber_ok.mpr ⟨h, rfl⟩
  refine ⟨d, ?_⟩
  have read : (agentHooks name).scan (String.ofList n.print) = .ok (.decimal (.ofNumber n)) := by
    have number : loadAgent name (.num n) = .ok (.decimal (.ofNumber n)) :=
      mapError_eq_ok.mpr (decimalNumber_ok.mpr ⟨accepted, rfl⟩)
    exact (agentHooks_parse (Json.parse_print (.num n))).trans number
  have finite : (Decimal.ofNumber n).isFinite = true := rfl
  simp only [canonicalJsonText, read, agentCanonical, agentValue, ok_bind, ensure_pos finite,
    pure_eq_ok, Bool.false_eq_true, false_implies, ensure_pos trivial, Value.isUnicode_decimal, text, hd,
    Except.mapError]

end

/-- A tenth, written with two zeros more. -/
theorem canonicalJsonText_gate_tenth :
    let _ := asciiPlatform
    ∃ d, canonicalJsonText id "predicted outcome" false "0.100" = .ok ⟨"0.1", d⟩ ∧
      canonicalPlainJson "0.1" = .ok () := by
  intro _
  obtain ⟨d, accepted⟩ := @canonicalJsonText_number _ id "predicted outcome"
    ⟨false, 0, [1, 0, 0], none⟩ (by decide +kernel) (by decide +kernel)
  refine ⟨d, accepted, (canonicalJsonText_gate accepted (Json.parse_print (.num _))).mpr ?_⟩
  intro n hn
  cases List.mem_singleton.mp hn
  decide +kernel

/-- A hundred-thousandth is written in positional notation, and by the gate in scientific
notation. -/
theorem canonicalJsonText_gate_small :
    let _ := asciiPlatform
    ∃ d, canonicalJsonText id "predicted outcome" false "0.00001" = .ok ⟨"0.00001", d⟩ ∧
      canonicalPlainJson "0.00001" ≠ .ok () := by
  intro _
  have prints : Prints ⟨false, 0, [0, 0, 0, 0, 1], none⟩ := by decide +kernel
  have text : decimalChars ⟨false, 0, [0, 0, 0, 0, 1], none⟩ =
      ['0', '.', '0', '0', '0', '0', '1'] := by decide +kernel
  have input : String.ofList (Number.print ⟨false, 0, [0, 0, 0, 0, 1], none⟩) = "0.00001" := rfl
  obtain ⟨d, accepted⟩ := @canonicalJsonText_number _ id "predicted outcome" _ (by decide +kernel) prints
  rw [input, text] at accepted
  refine ⟨d, accepted, fun canonical => ?_⟩
  have gate := canonicalPlainJson_number prints
  rw [text] at gate
  exact absurd (gate.mp canonical) (by decide +kernel)

end GAM
