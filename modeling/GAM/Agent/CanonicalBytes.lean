import GAM.Memory.Evidence

/-!
# The bytes of the adapter

`ccloud_tool.py`: the adapter puts JSON in NFC, writes it with `json.dumps` and sorted keys, and digests
the bytes.
-/

namespace GAM
open Lib

/-- Python `EvidenceBlocked`, or an exception of the interpreter. -/
inductive CaptureError where
  | blocked (message : String)
  | python (e : PyError)
deriving DecidableEq, Repr

mutual

/-- The integers in a value. -/
def integersOf : Value → List Int
  | .int i => [i]
  | .list l | .tuple l => integersOfElems l
  | .dict l => integersOfMembers l
  | _ => []

/-- The integers in the items of a list. -/
def integersOfElems : List Value → List Int
  | [] => []
  | v :: l => integersOf v ++ integersOfElems l

/-- The integers in the values of a mapping. -/
def integersOfMembers : List (String × Value) → List Int
  | [] => []
  | (_, v) :: l => integersOf v ++ integersOfMembers l

end

section
variable [Platform]

mutual

/-- Python `normalize_json`. -/
def normalizeJson : Value → Except CaptureError Value
  | .none => .ok .none
  | .bool b => .ok (.bool b)
  | .int i => .ok (.int i)
  | .float f => if f.isFinite then .ok (.float f) else .error (.blocked "non-finite JSON number")
  | .str s => .ok (.str (nfc s))
  | .list l => do
    let vs ← normalizeElems l
    return .list vs
  | .dict l => do
    let ms ← normalizeMembers [] l
    return .dict ms
  | .points t => .ok (.points (nfcText t))
  | .textDict l => do
    let ms ← normalizeTextMembers [] l
    return .textDict ms
  | _ => .error (.blocked "unsupported JSON value")

/-- The items of a list. -/
def normalizeElems : List Value → Except CaptureError (List Value)
  | [] => .ok []
  | v :: l => do
    let w ← normalizeJson v
    let ws ← normalizeElems l
    return w :: ws

/-- The members of a mapping; `taken` are the normalized keys so far. -/
def normalizeMembers (taken : List String) :
    List (String × Value) → Except CaptureError (List (String × Value))
  | [] => .ok []
  | (rawKey, item) :: l => do
    let key := nfc rawKey
    ensure (key ∉ taken) (.blocked "normalized JSON key collision")
    let w ← normalizeJson item
    let ms ← normalizeMembers (key :: taken) l
    return (key, w) :: ms

/-- The same where a key has a lone surrogate. -/
def normalizeTextMembers (taken : List Text) :
    List (Text × Value) → Except CaptureError (List (Text × Value))
  | [] => .ok []
  | (rawKey, item) :: l => do
    let key := nfcText rawKey
    ensure (key ∉ taken) (.blocked "normalized JSON key collision")
    let w ← normalizeJson item
    let ms ← normalizeTextMembers (key :: taken) l
    return (key, w) :: ms

end

/-- The characters of `canonical_bytes`; `json.dumps` does not write longer integers than `json.loads`
reads, and a lone surrogate has no encoding. -/
def canonicalChars (v : Value) : Except CaptureError (List Char) := do
  let normalized ← normalizeJson v
  ensure (∀ i ∈ integersOf normalized, (natChars i.natAbs).length ≤ maxIntDigits) (.python .valueError)
  ensure (normalized.isUnicode = true) (.python .valueError)
  (dumpsValue normalized).mapError .python

/-- Python `canonical_bytes`, decoded. -/
def canonicalBytes (v : Value) : Except CaptureError String := do
  let cs ← canonicalChars v
  return String.ofList cs

/-- Python `canonical_digest`. -/
def canonicalDigest (v : Value) : Except CaptureError String := do
  let text ← canonicalBytes v
  return sha256 text

end

end GAM
