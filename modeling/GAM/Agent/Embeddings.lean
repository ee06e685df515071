import GAM.Memory.Decode

/-!
# Embeddings

`embeddings.py`: the texts of a batch are checked and put in NFC, the response is read item by item, and
each vector is rounded to the single precision in which the database keeps it. The two digests bind the
texts and the rounded vectors. A batch that is returned has one vector for each text, in the order of the
texts, and rounding it once more changes nothing.
-/

namespace GAM
open Lib

/-- An item of the response: `index` and `embedding`, with `getattr` of what is absent. A `Sequence` is the
list of its items. -/
structure EmbeddingItem where
  index : Option Value
  embedding : Option (List Value)

/-- `isinstance(index, int)`, with the value it has in a comparison. -/
def intOf : Value → Option Int
  | .int i => some i
  | .bool b => some (if b then 1 else 0)
  | _ => none

section
variable [Platform]

/-- The text of one member of a batch. -/
def canonicalEmbeddingText (text : String) : Except PyError String := do
  ensure (text ≠ "" ∧ isStripped text = true) (.embedding "embedding input is empty or padded")
  return nfc text

/-- Python `_canonical_texts`. -/
def canonicalTexts (texts : List String) : Except PyError (List String) := do
  ensure (texts ≠ []) (.embedding "embedding batch is empty")
  mapAll canonicalEmbeddingText texts

/-- Python `embedding_input_digest`. -/
def embeddingInputDigest (texts : List String) : Except PyError String := do
  let texts ← canonicalTexts texts
  canonicalSha256 (.dict
    [("model", .str pinnedEmbeddingModel), ("dimensions", .int pinnedEmbeddingDimensions),
      ("input", .tuple (texts.map .str))])

/-- Python `embedding_output_digest`. -/
def embeddingOutputDigest (texts : List String) (vectors : List (List Binary64)) :
    Except PyError String := do
  let texts ← canonicalTexts texts
  ensure (vectors.length = texts.length) (.embedding "embedding response cardinality mismatch")
  let normalized ← mapAll normalizeEmbeddingVector vectors
  let inputDigest ← embeddingInputDigest texts
  canonicalSha256 (.dict
    [("model", .str pinnedEmbeddingModel), ("dimensions", .int pinnedEmbeddingDimensions),
      ("input_digest", .str inputDigest),
      ("output", .tuple (normalized.map fun vector => .tuple (vector.map .float)))])

end

/-- One round of the loop of `_response_vectors`. -/
def responseItem (item : EmbeddingItem) : Except PyError (Int × List Binary64) :=
  match item.index.bind intOf, item.embedding with
  | some index, some embedding => do
    ensure (embedding.all isNumber = true) (.embedding "embedding response item is malformed")
    let vector ← normalizeResponse embedding
    return (index, vector)
  | _, _ => .error (.embedding "embedding response item is malformed")

/-- Python `_validate_vectors`, of vectors of floats. -/
def validateVectors (vectors : List (List Binary64)) (expectedCount : Nat) : Except PyError Unit := do
  ensure (vectors.length = expectedCount) (.embedding "embedding response cardinality mismatch")
  forAll (fun vector => do
    ensure (vector.length = pinnedEmbeddingDimensions)
      (.embedding "embedding response dimensions mismatch")
    ensure (vector.all Binary64.isFinite = true)
      (.embedding "embedding response contains an invalid value")) vectors

/-- Python `_response_vectors`, of the `data` of a response. -/
def responseVectors (data : Option (List EmbeddingItem)) (expectedCount : Nat) :
    Except PyError (List (List Binary64)) :=
  match data with
  | none => .error (.embedding "embedding response data is absent")
  | some items => do
    let indexed ← mapAll responseItem items
    ensure (indexed.map Prod.fst = (List.range expectedCount).map Int.ofNat)
      (.embedding "embedding response order is invalid")
    let vectors := indexed.map Prod.snd
    validateVectors vectors expectedCount
    return vectors

section
variable [Platform]

/-- `except EmbeddingError: raise` and `except Exception`. -/
def embeddingFailure {α : Type} : Except PyError α → Except PyError α
  | .error (.embedding message) => .error (.embedding message)
  | .error _ => .error (.embedding "embedding request failed")
  | .ok a => .ok a

/-- Python `embed_many`, of what the transport answers to the texts: the `data` of its response, or an
exception. The configuration is pinned by its own type. -/
def embedMany (create : List String → Except PyError (Option (List EmbeddingItem)))
    (texts : List String) : Except PyError (List (List Binary64)) := do
  let texts ← canonicalTexts texts
  let data ← embeddingFailure (create texts)
  responseVectors data texts.length

end

end GAM
