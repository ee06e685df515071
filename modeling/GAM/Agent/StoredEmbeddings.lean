import GAM.Agent.Embeddings
import GAM.Memory.LoadedProposal
import GAM.System.Progress

/-!
# Embeddings that are stored

Whatever the provider answers, a vector that `embed_many` returns is finite and already in the single
precision of the vector column. It has a digest, it passes `normalize_embedding_vector` unchanged, and its
text is read back as it is, but for the sign of a zero.
-/

namespace GAM
open Lib

/-- The components of a vector are as the vector column keeps them. -/
structure SingleVector (l : List Binary64) : Prop where
  length : l.length = pinnedEmbeddingDimensions
  single : ∀ x ∈ l, x.toSingle = some x

namespace SingleVector
variable {l : List Binary64}

/-- A vector of single floats is finite. -/
lemma finite (h : SingleVector l) : ∀ x ∈ l, x.isFinite = true :=
  fun x hx => Binary64.isFinite_of_toSingle (h.single x hx)

/-- The vector is normalised to itself. -/
lemma normalize (h : SingleVector l) : normalizeEmbeddingVector l = .ok l := by
  rw [normalizeEmbeddingVector_ok, List.forall₂_same]
  exact ⟨h.length, h.single⟩

/-- The text of the vector is read back as the vector with its zeros unsigned. -/
lemma reads (h : SingleVector l) :
    ∃ text, vectorText l = .ok text ∧ readEmbedding text = .ok (l.map unsignedZero) := by
  have written : vectorText l = .ok (String.ofList (commaSeparated '[' ']' (l.map Binary64.format17))) := by
    rw [vectorText, ensure_pos h.length]
    rfl
  exact ⟨_, written, readEmbedding_single h.single written⟩

end SingleVector

/-- What the numbers of a response are normalised to. -/
lemma normalizeResponse_single {items : List Value} {l : List Binary64}
    (h : normalizeResponse items = .ok l) : SingleVector l := by
  simp only [normalizeResponse, bind_eq_ok, exists_unit, ensure_eq_ok, mapAll_eq_ok] at h
  obtain ⟨length, components⟩ := h
  refine ⟨components.length_eq.symm.trans length, fun y hy => ?_⟩
  obtain ⟨v, -, rounds⟩ := forall₂_mem_right components y hy
  simp only [normalizeComponent, bind_eq_ok, exists_unit] at rounds
  obtain ⟨-, x, -, rounded⟩ := rounds
  cases single : x.toSingle with
  | none =>
    rw [single] at rounded
    cases rounded
  | some z =>
    rw [single] at rounded
    cases rounded
    exact Binary64.toSingle_idem single

/-- An item of a response that passes, with its number and its vector. -/
lemma responseItem_ok {item : EmbeddingItem} {k : Int} {l : List Binary64}
    (h : responseItem item = .ok (k, l)) : item.index.bind intOf = some k ∧
      ∃ items, item.embedding = some items ∧ normalizeResponse items = .ok l := by
  rw [responseItem] at h
  split at h
  · rename_i index items indexed embedded
    simp only [bind_eq_ok, exists_unit, pure_eq_ok, Except.ok.injEq, Prod.mk.injEq] at h
    obtain ⟨-, v, normalized, rfl, rfl⟩ := h
    exact ⟨indexed, items, embedded, normalized⟩
  · cases h

section
variable [Platform]

variable {create : List String → Except PyError (Option (List EmbeddingItem))} {texts : List String}
  {vectors : List (List Binary64)}

/-- What `embed_many` returns are the vectors of the items that the provider has answered. -/
lemma embedMany_items (h : embedMany create texts = .ok vectors) : vectors.length = texts.length ∧
    ∃ canonical items, canonicalTexts texts = .ok canonical ∧ create canonical = .ok (some items) ∧
      items.map (fun item => item.index.bind intOf) = (List.range texts.length).map (some ∘ Int.ofNat) ∧
      List.Forall₂ (fun item l => ∃ numbers, item.embedding = some numbers ∧
        normalizeResponse numbers = .ok l) items vectors := by
  simp only [embedMany, bind_eq_ok] at h
  obtain ⟨canonical, checked, data, answered, read⟩ := h
  have count : canonical.length = texts.length := by
    simp only [canonicalTexts, bind_eq_ok, exists_unit, mapAll_eq_ok] at checked
    exact checked.2.length_eq.symm
  have created : create canonical = .ok data := by
    cases made : create canonical with
    | ok a =>
      rw [made] at answered
      exact answered
    | error e =>
      rw [made] at answered
      cases e <;> cases answered
  cases data with
  | none => cases read
  | some items =>
    simp only [responseVectors, bind_eq_ok, exists_unit, ensure_eq_ok, pure_eq_ok, Except.ok.injEq,
      mapAll_eq_ok] at read
    obtain ⟨indexed, rounds, order, -, rfl⟩ := read
    have length : (indexed.map Prod.snd).length = texts.length := by
      have same := congrArg List.length order
      rwa [List.length_map, List.length_map, List.length_range, ← List.length_map Prod.snd, count] at same
    have named : items.map (fun item => item.index.bind intOf) = (indexed.map Prod.fst).map some := by
      rw [List.map_map, ← List.forall₂_eq_eq_eq, List.forall₂_map_left_iff, List.forall₂_map_right_iff]
      exact rounds.imp fun item round passed => (responseItem_ok passed).1
    rw [order, List.map_map, count] at named
    refine ⟨length, canonical, items, checked, created, named, ?_⟩
    rw [List.forall₂_map_right_iff]
    exact rounds.imp fun item round passed => (responseItem_ok passed).2

/-- Every vector that is returned has single floats. -/
lemma embedMany_single (h : embedMany create texts = .ok vectors) : ∀ l ∈ vectors, SingleVector l := by
  obtain ⟨-, _, _, -, -, -, numbers⟩ := embedMany_items h
  intro l hl
  obtain ⟨item, -, _, -, normalized⟩ := forall₂_mem_right numbers l hl
  exact normalizeResponse_single normalized

/-- Python `embed_one`. -/
def embedOne (create : List String → Except PyError (Option (List EmbeddingItem))) (text : String) :
    Except PyError (List Binary64) := do
  let vectors ← embedMany create [text]
  -- one text has one vector, so that the subscript does not fail
  return vectors.headD []

/-- The vector of one text is a vector of `embed_many`. -/
lemma embedOne_single {text : String} {l : List Binary64} (h : embedOne create text = .ok l) :
    SingleVector l := by
  simp only [embedOne, bind_eq_ok, pure_eq_ok, Except.ok.injEq] at h
  obtain ⟨vectors, embedded, rfl⟩ := h
  have length := (embedMany_items embedded).1
  cases vectors with
  | nil => cases length
  | cons v vectors => exact embedMany_single embedded v List.mem_cons_self

end

/-- What `embed_many` returns, whatever the provider answers: for every text, in order, the vector of the
item with its number, normalised to single precision. Normalising it again changes nothing, and it is read
back from its text, and from a column that keeps the text's components, as it is but for the signs of its
zeros. -/
theorem embedMany_stored [Engine] {create : List String → Except PyError (Option (List EmbeddingItem))}
    {texts : List String} {vectors : List (List Binary64)} (h : embedMany create texts = .ok vectors) :
    vectors.length = texts.length ∧
    (∃ canonical items, canonicalTexts texts = .ok canonical ∧ create canonical = .ok (some items) ∧
      items.map (fun item => item.index.bind intOf) = (List.range texts.length).map (some ∘ Int.ofNat) ∧
      List.Forall₂ (fun item l => ∃ numbers, item.embedding = some numbers ∧
        normalizeResponse numbers = .ok l) items vectors) ∧
    ∀ l ∈ vectors, normalizeEmbeddingVector l = .ok l ∧
      ∃ text, vectorText l = .ok text ∧ readEmbedding text = .ok (l.map unsignedZero) ∧
        ∀ column, castVector text = .ok column → KeepsVector l →
          readEmbedding column = .ok (l.map unsignedZero) := by
  obtain ⟨length, items⟩ := embedMany_items h
  have single := embedMany_single h
  refine ⟨length, items, fun l hl => ⟨(single l hl).normalize, ?_⟩⟩
  obtain ⟨text, written, read⟩ := (single l hl).reads
  exact ⟨text, written, read, fun column cast keeps => (keeps text column written cast).trans read⟩

/-- A provider that answers one number everywhere. -/
def constantProvider (v : Value) (texts : List String) : Except PyError (Option (List EmbeddingItem)) :=
  .ok (some (texts.mapIdx fun n _ =>
    ⟨some (.int n), some (List.replicate pinnedEmbeddingDimensions v)⟩))

section
variable [Platform] {v : Value} {x : Binary64}

omit [Platform] in
/-- The item of a constant provider, when the number is one of single precision. -/
lemma responseItem_constant (number : isNumber v = true) (value : pyFloat v = .ok x)
    (single : x.toSingle = some x) (n : Nat) :
    responseItem ⟨some (.int n), some (List.replicate pinnedEmbeddingDimensions v)⟩ =
      .ok ((n : Int), List.replicate pinnedEmbeddingDimensions x) := by
  have numbers : (List.replicate pinnedEmbeddingDimensions v).all isNumber = true := by
    rw [List.all_eq_true]
    intro w hw
    cases List.eq_of_mem_replicate hw
    exact number
  have normalized : normalizeResponse (List.replicate pinnedEmbeddingDimensions v) =
      .ok (List.replicate pinnedEmbeddingDimensions x) := by
    rw [normalizeResponse, ensure_pos List.length_replicate, ok_bind, mapAll_of_ok (g := fun _ => x),
      List.map_replicate]
    intro w hw
    cases List.eq_of_mem_replicate hw
    rw [normalizeComponent, ensure_pos number, ok_bind, value, ok_bind, single]
  simp only [responseItem, Option.bind_some, intOf, ensure_pos numbers, normalized, ok_bind, pure_eq_ok]

/-- What is embedded by a constant provider. -/
lemma embedMany_constant {texts canonical : List String} (number : isNumber v = true)
    (value : pyFloat v = .ok x) (single : x.toSingle = some x) (finite : x.isFinite = true)
    (accepted : canonicalTexts texts = .ok canonical) :
    embedMany (constantProvider v) texts =
      .ok (canonical.map fun _ => List.replicate pinnedEmbeddingDimensions x) := by
  let vector := List.replicate pinnedEmbeddingDimensions x
  have items : mapAll responseItem (canonical.mapIdx fun n _ =>
      ⟨some (.int n), some (List.replicate pinnedEmbeddingDimensions v)⟩) =
        .ok (canonical.mapIdx fun n _ => ((n : Int), vector)) := by
    rw [mapAll_eq_ok, List.forall₂_iff_get]
    refine ⟨by rw [List.length_mapIdx, List.length_mapIdx], fun n _ _ => ?_⟩
    rw [List.get_eq_getElem, List.get_eq_getElem, List.getElem_mapIdx, List.getElem_mapIdx]
    exact responseItem_constant number value single n
  have order : (canonical.mapIdx fun n _ => ((n : Int), vector)).map Prod.fst =
      (List.range canonical.length).map Int.ofNat := by
    refine List.ext_getElem (by simp) fun n _ _ => ?_
    simp
  have same : (canonical.mapIdx fun n _ => ((n : Int), vector)).map Prod.snd =
      canonical.map fun _ => vector := by
    refine List.ext_getElem (by simp) fun n _ _ => ?_
    simp
  have valid : validateVectors (canonical.map fun _ => vector) canonical.length = .ok () := by
    have all : vector.all Binary64.isFinite = true := by
      rw [List.all_eq_true]
      intro y hy
      cases List.eq_of_mem_replicate hy
      exact finite
    rw [validateVectors, ensure_pos (List.length_map _), ok_bind, forAll_eq_ok]
    intro l hl
    obtain ⟨_, -, rfl⟩ := List.mem_map.mp hl
    rw [ensure_pos List.length_replicate, ok_bind, ensure_pos all]
  rw [embedMany, accepted, ok_bind, constantProvider, embeddingFailure, ok_bind]
  simp only [responseVectors, items, ok_bind, ensure_pos order, same, valid, pure_eq_ok]
  rfl

end

/-- A provider that answers ones. -/
theorem embedMany_stored_ones :
    let _ := asciiEngine
    ∃ l text column, embedMany (fun texts => .ok (some (texts.mapIdx fun n _ =>
        ⟨some (.int n), some (List.replicate pinnedEmbeddingDimensions (.int 1))⟩))) ["task", "goal"] =
      .ok [l, l] ∧ normalizeEmbeddingVector l = .ok l ∧ vectorText l = .ok text ∧
      castVector text = .ok column ∧ readEmbedding column = .ok (l.map unsignedZero) := by
  intro _
  have texts : canonicalTexts ["task", "goal"] = .ok ["task", "goal"] := rfl
  have embedded := @embedMany_constant _ (.int 1) (.ofDecimal false 1 0) _ _ rfl rfl rfl rfl texts
  obtain ⟨again, text, written, -, stored⟩ := (embedMany_stored embedded).2.2 _ List.mem_cons_self
  refine ⟨_, text, text, embedded, again, written, rfl, stored text rfl ?_⟩
  intro text' column _ cast
  cases (show castVector text' = .ok text' from rfl).symm.trans cast
  rfl

end GAM
