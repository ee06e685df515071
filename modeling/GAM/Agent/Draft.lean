import GAM.Agent.CanonicalText
import GAM.Governance.Config

/-!
# Drafts

`_draft` of `agent.py`: what the model answers is validated against the schema, its texts are checked
and put in NFC, its dependency requests are told apart by their normalized keys, and its four kinds of
JSON text are kept in canonical form. What is kept is read back with the keys the agent has checked.
-/

namespace GAM
open Lib

/-- Python `DependencyRequestSchema`. -/
structure DependencyRequestSchema where
  dependencyKey : String
  predicate : String
  expectedJson : String
  necessaryForYes : Bool
  sufficientIfTrue : Bool

/-- Python `ProposalDraftSchema`. -/
structure ProposalDraftSchema where
  actionType : String
  target : String
  reasoning : String
  purpose : String
  evidenceRefs : List String
  predictedOutcome : String
  parameters : String
  impactAssessment : String
  dependencyRequests : List DependencyRequestSchema

/-- Python `DependencyRequest`. -/
structure DependencyRequest where
  dependencyKey : String
  predicate : String
  expectedJson : String
  necessaryForYes : Bool
  sufficientIfTrue : Bool
deriving DecidableEq, Repr

/-- Python `ProposalDraft`. -/
structure ProposalDraft where
  actionType : String
  target : String
  reasoning : String
  purpose : String
  evidenceRefs : List String
  predictedOutcome : CanonicalJson
  parameters : CanonicalJson
  impactAssessment : CanonicalJson
  dependencyRequests : List DependencyRequest
deriving DecidableEq, Repr

/-- What the model call returns: an instance of the schema, or an object that `model_validate` reads
as one or refuses. -/
inductive ModelOutput (α : Type) where
  | schema (s : ProposalDraftSchema)
  | object (o : α)

section
variable [Platform]

/-- Python `_text` of `agent.py`. -/
def agentText (value name : String) (maximum : Nat) : Except AgentError String := do
  ensure (value ≠ "" ∧ isStripped value = true) (.contract (name ++ " is empty or padded"))
  let normalized := nfc value
  ensure (normalized.utf8ByteSize ≤ maximum) (.contract (name ++ " exceeds its byte limit"))
  return normalized

/-- The loop of `_draft` over the dependency requests; `keys` are the normalized keys so far. -/
def draftRequests (casefold : String → String) (keys : List String) :
    List DependencyRequestSchema → Except AgentError (List DependencyRequest)
  | [] => .ok []
  | item :: l => do
    let key ← (normalizeActionTargetKey item.dependencyKey).mapError .python
    ensure (key ∉ keys) (.contract "model dependency request is duplicated")
    let predicate ← agentText item.predicate "dependency predicate" 256
    let expected ← canonicalJsonText casefold "dependency expected value" false item.expectedJson
    let rest ← draftRequests casefold (key :: keys) l
    return ⟨key, predicate, expected.utf8, item.necessaryForYes, item.sufficientIfTrue⟩ :: rest

/-- The schema of a model output. -/
def draftSchema {α : Type} (modelValidate : α → Option ProposalDraftSchema) :
    ModelOutput α → Except AgentError ProposalDraftSchema
  | .schema s => .ok s
  | .object o =>
    match modelValidate o with
    | some s => .ok s
    | none => .error (.contract "model output failed strict validation")

/-- Python `_draft`. -/
def draft {α : Type} (casefold : String → String) (modelValidate : α → Option ProposalDraftSchema)
    (parsed : ModelOutput α) (allowlist : List String) : Except AgentError ProposalDraft := do
  let schema ← draftSchema modelValidate parsed
  let refs := schema.evidenceRefs
  ensure (refs = sortedBy id refs.dedup ∧ ∀ item ∈ refs, item ∈ allowlist)
    (.contract "model evidence references are unknown or duplicated")
  let dependencies ← draftRequests casefold [] schema.dependencyRequests
  let actionType ← agentText schema.actionType "action type" 256
  let target ← agentText schema.target "target" 1024
  let reasoning ← agentText schema.reasoning "reasoning" 4096
  let purpose ← agentText schema.purpose "purpose" 1024
  let predicted ← canonicalJsonText casefold "predicted outcome" false schema.predictedOutcome
  let parameters ← canonicalJsonText casefold "proposal parameters" true schema.parameters
  let impact ← canonicalJsonText casefold "impact assessment" false schema.impactAssessment
  return ⟨actionType, target, reasoning, purpose, refs, predicted, parameters, impact,
    sortedBy DependencyRequest.dependencyKey dependencies⟩

/-- The JSON texts a draft keeps. -/
def ProposalDraft.jsonTexts (d : ProposalDraft) : List String :=
  d.predictedOutcome.utf8 :: d.parameters.utf8 :: d.impactAssessment.utf8 ::
    d.dependencyRequests.map DependencyRequest.expectedJson

/-! ### What a kept text reads as -/

section
variable {casefold : String → String}

/-- Normal form keeps the names of the keys. -/
lemma namesNoAuthority_normal {j : Json} (h : ∀ p ∈ j.parts, NamesNoAuthority casefold p) :
    ∀ p ∈ (normalJson j).parts, NamesNoAuthority casefold p := by
  intro p hp
  obtain ⟨q, hq, rfl⟩ := mem_parts_sortKeys.mp hp
  obtain ⟨r, hr, rfl⟩ := mem_parts_map.mp hq
  have part := h r hr
  cases r with
  | obj l =>
    rw [Json.map, Json.sortKeys, NamesNoAuthority, sortMembers_eq, mapMembers_eq, List.map_map]
    intro _ sorted
    obtain ⟨m, hm, rfl⟩ := List.mem_map.mp (mem_sortedBy.mp sorted)
    rw [Function.comp_apply, Platform.nfc_idem]
    exact part m hm
  | null | bool | constant | num | str | arr => trivial

/-- Other number literals keep what the agent requires of the keys. -/
lemma agentKeys_map {tok : Number → Number} {p : Json} (h : AgentKeys casefold p) :
    AgentKeys casefold (p.map id tok) := by
  obtain ⟨keyed, names⟩ := h
  cases p with
  | obj l =>
    rw [AgentKeys, Json.map, Keyed, NamesNoAuthority, mapMembers_eq, List.map_map]
    refine ⟨keyed, ?_⟩
    intro _ mapped
    obtain ⟨m, hm, rfl⟩ := List.mem_map.mp mapped
    exact names m hm
  | constant => exact keyed.elim
  | null | bool | num | str | arr => exact ⟨trivial, trivial⟩

/-- A text the agent keeps is read back as a tree with the keys it has checked. -/
lemma canonicalJsonText_read {name : String} {requireObject : Bool} {text : String}
    {c : CanonicalJson} (h : canonicalJsonText casefold name requireObject text = .ok c) :
    ∃ t, Json.parse c.utf8 = some t ∧ (∀ p ∈ t.parts, AgentKeys casefold p) ∧
      (requireObject = true → ∃ ms, t = .obj ms) := by
  obtain ⟨j, -, keys, prints, object, written⟩ := canonicalJsonText_kept h
  have printed : ∀ n, .num n ∈ (normalJson j).parts → Prints n :=
    fun n hn => prints n (num_mem_normal.mp hn)
  refine ⟨(normalJson j).map id decimalToken, written ▸ parse_decimal printed, ?_, ?_⟩
  · intro p hp
    obtain ⟨q, hq, rfl⟩ := mem_parts_map.mp hp
    exact agentKeys_map ⟨keyed_normal (fun p hp => (keys p hp).1) q hq,
      namesNoAuthority_normal (fun p hp => (keys p hp).2) q hq⟩
  · intro required
    obtain ⟨ms, rfl⟩ := object required
    rw [normal_obj]
    exact ⟨_, rfl⟩

/-- Every request the loop keeps has an expected value that was accepted. -/
lemma draftRequests_expected {l : List DependencyRequestSchema} {keys : List String} {ds}
    (h : draftRequests casefold keys l = .ok ds) :
    ∀ d ∈ ds, ∃ text c, canonicalJsonText casefold "dependency expected value" false text = .ok c ∧
      d.expectedJson = c.utf8 := by
  induction l generalizing keys ds with
  | nil =>
    cases h
    exact fun _ hd => absurd hd List.not_mem_nil
  | cons item l ih =>
    simp only [draftRequests, bind_eq_ok, pure_eq_ok, Except.ok.injEq] at h
    obtain ⟨_, -, _, -, _, -, expected, accepted, rest, tail, rfl⟩ := h
    exact List.forall_mem_cons.mpr ⟨⟨item.expectedJson, expected, accepted, rfl⟩, ih tail⟩

/-- A draft is kept with texts that were accepted, and its parameters are those of an object. -/
lemma draft_accepted {α : Type} {modelValidate : α → Option ProposalDraftSchema}
    {parsed : ModelOutput α} {allowlist : List String} {d : ProposalDraft}
    (h : draft casefold modelValidate parsed allowlist = .ok d) :
    (∀ text ∈ d.jsonTexts, ∃ name requireObject raw c,
      canonicalJsonText casefold name requireObject raw = .ok c ∧ text = c.utf8) ∧
    ∃ raw, canonicalJsonText casefold "proposal parameters" true raw = .ok d.parameters := by
  simp only [draft, bind_eq_ok, pure_eq_ok, Except.ok.injEq] at h
  obtain ⟨schema, -, _, -, dependencies, loop, _, -, _, -, _, -, _, -, predicted, hpredicted,
    parameters, hparameters, impact, himpact, rfl⟩ := h
  refine ⟨?_, schema.parameters, hparameters⟩
  intro text kept
  simp only [ProposalDraft.jsonTexts, List.mem_cons, List.mem_map, mem_sortedBy] at kept
  rcases kept with rfl | rfl | rfl | ⟨request, hrequest, rfl⟩
  · exact ⟨_, _, _, _, hpredicted, rfl⟩
  · exact ⟨_, _, _, _, hparameters, rfl⟩
  · exact ⟨_, _, _, _, himpact, rfl⟩
  · obtain ⟨raw, c, accepted, e⟩ := draftRequests_expected loop request hrequest
    exact ⟨_, _, raw, c, accepted, e⟩

/-- In the texts a draft keeps, no object at any depth has two keys of one NFC form or a key that is
the name of an authority field, and the parameters are an object. -/
theorem draft_jsonTexts {α : Type} {modelValidate : α → Option ProposalDraftSchema}
    {parsed : ModelOutput α} {allowlist : List String} {d : ProposalDraft}
    (h : draft casefold modelValidate parsed allowlist = .ok d) :
    (∀ text ∈ d.jsonTexts, ∃ t, Json.parse text = some t ∧ ∀ ms, .obj ms ∈ t.parts →
      (ms.map fun m => nfc m.1).Nodup ∧ ∀ m ∈ ms, casefold (nfc m.1) ∉ forbiddenOutputKeys) ∧
    ∃ ms, Json.parse d.parameters.utf8 = some (.obj ms) := by
  obtain ⟨texts, raw, parameters⟩ := draft_accepted h
  constructor
  · intro text kept
    obtain ⟨name, requireObject, raw, c, accepted, rfl⟩ := texts text kept
    obtain ⟨t, read, keys, -⟩ := canonicalJsonText_read accepted
    exact ⟨t, read, fun ms hms => keys (.obj ms) hms⟩
  · obtain ⟨t, read, -, object⟩ := canonicalJsonText_read parameters
    obtain ⟨ms, rfl⟩ := object rfl
    exact ⟨ms, read⟩

end

/-- A text is accepted when its tree is, and is kept as its tree is written. -/
lemma canonicalJsonText_succeeds {casefold : String → String} {name : String} {requireObject : Bool}
    {text : String} {j : Json} {v w : Value} {raw : List Char} (parsed : Json.parse text = some j)
    (load : loadAgent name j = .ok v) (value : agentValue casefold v = .ok w)
    (object : requireObject = true → isMapping w = true)
    (plain : plainText agentErrors w = .ok raw) (encodes : Encodes w) :
    ∃ digest, canonicalJsonText casefold name requireObject text =
      .ok ⟨String.ofList raw, digest⟩ := by
  obtain ⟨digest, hash⟩ := encodes.digest
  refine ⟨digest, ?_⟩
  have read : (agentHooks name).scan text = .ok v := (agentHooks_parse parsed).trans load
  simp only [canonicalJsonText, read, agentCanonical, value, ok_bind, ensure_pos object,
    ensure_pos encodes.1, plain, hash, Except.mapError, pure_eq_ok]

/-- A draft with one dependency and one parameter. -/
def replicaDraft : ProposalDraftSchema where
  actionType := "scale"
  target := "demo"
  reasoning := "load"
  purpose := "capacity"
  evidenceRefs := []
  predictedOutcome := "null"
  parameters := "\x7b\"replicas\":null\x7d"
  impactAssessment := "null"
  dependencyRequests := [⟨"cluster", "ready", "null", true, false⟩]

/-- The draft is accepted; case folding is that of its one key. -/
lemma draft_replica : ∃ d, @draft _ Unit id (fun _ => none) (.schema replicaDraft) [] = .ok d := by
  have null (name) : ∃ digest, canonicalJsonText id name false "null" = .ok ⟨_, digest⟩ :=
    canonicalJsonText_succeeds (Json.parse_print .null) rfl rfl (by decide) rfl encodes_none
  have key : nfc "replicas" = "replicas" := Platform.nfc_ascii _ (by decide)
  have load : loadAgent "proposal parameters" (.obj [("replicas", .null)]) =
      .ok (.dict [("replicas", .none)]) := by
    simp [loadAgent, loadAgentMembers, agentPairs, ensure]
  have value : agentValue id (.dict [("replicas", .none)]) = .ok (.dict [("replicas", .none)]) := by
    simp [agentValue, agentMembers, key, ensure, forbiddenOutputKeys]
  have encodes : Encodes (.dict [("replicas", .none)]) := by
    rw [encodes_dict (by decide) (by decide)]
    simp
  have parameters : ∃ digest, canonicalJsonText id "proposal parameters" true
      "\x7b\"replicas\":null\x7d" = .ok ⟨_, digest⟩ :=
    canonicalJsonText_succeeds (Json.parse_print (.obj [("replicas", .null)])) load value
      (fun _ => rfl) rfl encodes
  have text {s name : String} {maximum : Nat} (plain : isAscii s) (stripped : isStripped s = true)
      (ne : s ≠ "") (short : s.utf8ByteSize ≤ maximum) : agentText s name maximum = .ok s := by
    simp only [agentText, Platform.nfc_ascii s plain, bind_eq_ok, ensure_eq_ok, exists_unit]
    exact ⟨⟨ne, stripped⟩, short, rfl⟩
  have cluster : normalizeActionTargetKey "cluster" = .ok "cluster" :=
    normalize_ascii (by decide) (by decide) (by decide) (by decide) (by decide)
  have requests : ∃ ds, draftRequests id [] replicaDraft.dependencyRequests = .ok ds := by
    obtain ⟨digest, expected⟩ := null "dependency expected value"
    have predicate := @text "ready" "dependency predicate" 256 (by decide) (by decide) (by decide)
      (by decide)
    simp [replicaDraft, draftRequests, cluster, predicate, expected, ensure, Except.mapError]
  obtain ⟨ds, requests⟩ := requests
  obtain ⟨_, predicted⟩ := null "predicted outcome"
  obtain ⟨_, impact⟩ := null "impact assessment"
  obtain ⟨_, parameters⟩ := parameters
  have action := @text "scale" "action type" 256 (by decide) (by decide) (by decide) (by decide)
  have target := @text "demo" "target" 1024 (by decide) (by decide) (by decide) (by decide)
  have reasoning := @text "load" "reasoning" 4096 (by decide) (by decide) (by decide) (by decide)
  have purpose := @text "capacity" "purpose" 1024 (by decide) (by decide) (by decide) (by decide)
  simp only [draft, draftSchema, bind_eq_ok, pure_eq_ok, ensure_eq_ok, exists_unit,
    Except.ok.injEq]
  exact ⟨_, _, rfl, ⟨rfl, fun _ h => absurd h List.not_mem_nil⟩, ds, requests, _, action, _, target, _,
    reasoning, _, purpose, _, predicted, _, parameters, _, impact, rfl⟩

end

/-- A draft with one parameter and one dependency, whose names are no authority fields. -/
theorem draft_jsonTexts_replica :
    let _ := asciiPlatform
    ∃ d, @draft _ Unit id (fun _ => none) (.schema replicaDraft) [] = .ok d ∧
      (∀ text ∈ d.jsonTexts, ∃ t, Json.parse text = some t ∧ ∀ ms, .obj ms ∈ t.parts →
        (ms.map fun m => nfc m.1).Nodup ∧ ∀ m ∈ ms, nfc m.1 ∉ forbiddenOutputKeys) ∧
      ∃ ms, Json.parse d.parameters.utf8 = some (.obj ms) := by
  intro _
  obtain ⟨d, accepted⟩ := draft_replica
  exact ⟨d, accepted, draft_jsonTexts accepted⟩

end GAM
