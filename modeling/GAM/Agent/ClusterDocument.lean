import GAM.Agent.CanonicalBytes
import GAM.Lib.JsonHooks

/-!
# The cluster document

What `ccloud_tool.py` makes of the output of a command: the strict reading, the closure document, the
target that it is compared with, and the search for what a document must not hold. `findall`, groups and
backtracking are not needed: every pattern is searched for, so its repetitions are followed as far as
they go and the search begins again at every character.
-/

namespace GAM
open Lib

/-! ### Patterns -/

/-- A match begins somewhere in the text. -/
def searches (pattern : List Char → Bool) : List Char → Bool
  | [] => pattern []
  | c :: cs => pattern (c :: cs) || searches pattern cs

/-- A character under `(?i)`: the letters of ASCII and what folds to them. -/
def foldChar (c : Char) : Char :=
  if c = 'ſ' then 's'
  else if c = '\u212a' then 'k'
  else if c = 'İ' ∨ c = 'ı' then 'i'
  else c.toLower

/-- What follows a word, under `(?i)`. -/
def afterWord : List Char → List Char → Option (List Char)
  | [], cs => some cs
  | _ :: _, [] => none
  | w :: ws, c :: cs => if foldChar c = w then afterWord ws cs else none

/-- `://[^\s]+`. -/
def hasAddress (cs : List Char) : Bool :=
  match afterWord [':', '/', '/'] cs with
  | some (c :: _) => !isPySpace c
  | _ => false

/-- `CONNECTION_STRING`: `(?i)postgres(?:ql)?://[^\s]+`. -/
def connectionString (cs : List Char) : Bool :=
  (afterWord "postgres".toList cs).any fun rest =>
    hasAddress rest || (afterWord ['q', 'l'] rest).any hasAddress

/-- `[^\s@]`. -/
def isMailChar (c : Char) : Bool := !isPySpace c && c != '@'

/-- `EMAIL`: `[^\s@]+@[^\s@]+`. -/
def email (cs : List Char) : Bool :=
  match cs.takeWhile isMailChar, cs.dropWhile isMailChar with
  | _ :: _, '@' :: c :: _ => isMailChar c
  | _, _ => false

/-- `(?:[0-9]{1,3}\.){n}[0-9]{1,3}`. -/
def dottedNumbers : Nat → List Char → Bool
  | 0, cs => cs.head?.any Char.isDigit
  | n + 1, cs =>
    match (cs.takeWhile Char.isDigit).length, cs.dropWhile Char.isDigit with
    | k, '.' :: rest => 1 ≤ k && k ≤ 3 && dottedNumbers n rest
    | _, _ => false

/-- `[A-Za-z0-9-]`. -/
def isLabelChar (c : Char) : Bool := c.isAlphanum || c == '-'

/-- `(?:[A-Za-z0-9-]+\.)+[A-Za-z]{2,}`; a match of the group alone is one of its repetition. -/
def hostName (cs : List Char) : Bool :=
  match cs.takeWhile isLabelChar, cs.dropWhile isLabelChar with
  | _ :: _, '.' :: a :: b :: _ => a.isAlpha && b.isAlpha
  | _, _ => false

/-- `NETWORK_ADDRESS`; the port at its end may be missing. -/
def networkAddress (cs : List Char) : Bool := dottedNumbers 3 cs || hostName cs

/-- One of the three patterns is found. -/
def isSensitive (cs : List Char) : Bool :=
  searches connectionString cs || searches email cs || searches networkAddress cs

/-- The names of `CREDENTIAL_FIELD`, with the separators that may stand in them. -/
def credentialFields : List String :=
  ["accesskey", "access_key", "access-key", "authorization", "credential", "password", "privatekey",
    "private_key", "private-key", "secret", "sessionkey", "session_key", "session-key", "token"]

/-- `CREDENTIAL_FIELD.fullmatch`. -/
def isCredentialField (key : String) : Bool :=
  credentialFields.any fun name => afterWord name.toList key.toList == some []

/-- `REGION.fullmatch`: `[a-z]{2}-[a-z]+-[0-9]`. -/
def isRegion (name : String) : Bool :=
  match name.toList with
  | a :: b :: '-' :: rest =>
    a.isLower && b.isLower && rest.takeWhile Char.isLower != [] &&
      match rest.dropWhile Char.isLower with
      | ['-', d] => d.isDigit
      | _ => false
  | _ => false

/-! ### The document -/

/-- The hooks of `strict_json`; `_pairs` refuses a repeated key. -/
def strictHooks : Hooks CaptureError Value where
  invalid := .blocked "invalid JSON document"
  null := .none
  bool := .bool
  constant := fun _ => .error (.blocked "non-finite JSON number")
  number := fun n => (loadNumber n).mapError .python
  str := fun t => .ok (.text t)
  arr := .list
  obj := fun l => do
    ensure (l.map Prod.fst).Nodup (.blocked "duplicate JSON key")
    return .ofMembers l

/-- Python `strict_json`. -/
def strictJson (raw : ByteArray) : Except CaptureError Value :=
  match String.fromUTF8? raw with
  | some text => strictHooks.scan text
  | none => .error (.blocked "invalid JSON document")

/-- Python `CLUSTER_DOCUMENT_FIELDS`. -/
def clusterDocumentFields : List String :=
  ["account_id", "cloud_provider", "cockroach_version", "config", "created_at", "creator_id",
    "egress_traffic_policy", "id", "name", "network_visibility", "operation_status", "parent_id", "plan",
    "regions", "sql_dns", "state", "updated_at", "upgrade_status"]

/-- The text of a region entry: the entry itself, or its name. -/
def regionText (item : Value) : Option Text :=
  match item.codePoints? with
  | some t => some t
  | none => do
    let members ← item.textMembers?
    let name ← members.lookup (textOf "name")
    name.codePoints?

/-- One entry of `_region_names`. -/
def regionName (item : Value) : Except CaptureError String :=
  match regionText item with
  | none => .error (.blocked "cluster region entry is invalid")
  | some name =>
    match name.string? with
    | some s => do
      ensure (isRegion s = true) (.blocked "cluster region name is invalid")
      return s
    | none => .error (.blocked "cluster region name is invalid")

/-- Python `_region_names`. -/
def regionNames (value : Value) : Except CaptureError (List String) :=
  match value with
  | .list (item :: items) => do
    let names ← mapAll regionName (item :: items)
    ensure (names = sortedBy id names.dedup) (.blocked "cluster regions are not sorted and unique")
    return names
  | _ => .error (.blocked "cluster regions are invalid")

/-- Python `_field`, for one name. -/
def clusterField (document : List (Text × Value)) (name : String) : Except CaptureError Value :=
  match document.lookup (textOf name) with
  | some v => .ok v
  | none => .error (.blocked "cluster document field is missing or ambiguous")

/-- A field that is a text. -/
def clusterText (v : Value) : Except CaptureError Text :=
  match v.codePoints? with
  | some t => .ok t
  | none => .error (.blocked "cluster output field type is invalid")

/-- The closure document; the texts that are taken over as they stand have the type `τ`. -/
structure ClusterDocument (τ : Type) where
  name : τ
  clusterIdDigest : String
  cockroachVersion : String
  state : τ
  wirePlan : τ
  plan : String
  cloud : τ
  regions : List String
deriving DecidableEq, Repr

/-- A document of strings, as one of texts. -/
def ClusterDocument.texts (d : ClusterDocument String) : ClusterDocument Text :=
  { d with
    name := textOf d.name, state := textOf d.state, wirePlan := textOf d.wirePlan,
    cloud := textOf d.cloud }

/-- The document as a mapping. -/
def ClusterDocument.value (d : ClusterDocument String) : Value :=
  .dict [("name", .str d.name), ("cluster_id_digest", .str d.clusterIdDigest),
    ("cockroach_version", .str d.cockroachVersion), ("state", .str d.state),
    ("wire_plan", .str d.wirePlan), ("plan", .str d.plan), ("cloud", .str d.cloud),
    ("regions", .list (d.regions.map .str))]

/-- `CCLOUD_COMPAT_VERSION`, `CCAPI_COMPAT_VERSION` and the plan they are read as `BASIC` for.
Python `normalize_legacy_plan`. -/
def normalizeLegacyPlan (wirePlan : Text) (ccloudVersion ccapiVersion : String) :
    Except CaptureError String :=
  if wirePlan = textOf "BASIC" then .ok "BASIC"
  else if wirePlan = textOf "SERVERLESS" ∧ ccloudVersion = "v0.6.12" ∧ ccapiVersion = "2023-04-10" then
    .ok "BASIC"
  else .error (.blocked "ccloud plan compatibility binding mismatch")

section
variable [Platform]

/-- `\d+(?:\.\d+){n}` at the beginning of a text; a run of digits ends where no digit follows. -/
def numbersAt : Nat → List Char → Option (List Char)
  | 0, cs =>
    match cs.takeWhile Platform.isDecimal with
    | [] => none
    | run => some run
  | n + 1, cs =>
    match cs.takeWhile Platform.isDecimal, cs.dropWhile Platform.isDecimal with
    | [], _ => none
    | run, '.' :: rest => (numbersAt n rest).map fun numbers => run ++ '.' :: numbers
    | _, _ => none

/-- `v?(\d+\.\d+\.\d+)(?![0-9])` at the beginning of a text. -/
def versionAt : List Char → Option (List Char)
  | 'v' :: cs => numbersAt 2 cs
  | cs => numbersAt 2 cs

/-- The first match after `(?<![0-9])`; the flag says that a digit stands before the text. -/
def findVersion : Bool → List Char → Option (List Char)
  | _, [] => none
  | true, c :: cs => findVersion c.isDigit cs
  | false, c :: cs => (versionAt (c :: cs)).or (findVersion c.isDigit cs)

/-- Python `_version`; a lone surrogate is in no match. -/
def clusterVersion (text : Text) : Except CaptureError String :=
  match findVersion false text.shown.toList with
  | some numbers => .ok (String.ofList ('v' :: numbers))
  | none => .error (.blocked "ccloud version is ambiguous")

/-- The object of the output, which may stand alone in an array. -/
def clusterObject (value : Value) : Except CaptureError (List (Text × Value)) :=
  match value with
  | .list l =>
    match l with
    | [item] =>
      match item.textMembers? with
      | some document => .ok document
      | none => .error (.blocked "cluster output array is not exactly one object")
    | _ => .error (.blocked "cluster output array is not exactly one object")
  | _ =>
    match value.textMembers? with
    | some document => .ok document
    | none => .error (.blocked "cluster output envelope is invalid")

/-- `sha256_bytes(text.encode())`. -/
def textDigest (text : Text) : Except CaptureError String :=
  match text.string? with
  | some s => .ok (sha256 s)
  | none => .error (.python .valueError)

/-- Python `normalize_cluster_document`. -/
def normalizeClusterDocument (raw : ByteArray) (ccloudVersion ccapiVersion : String) :
    Except CaptureError (ClusterDocument Text × List String) := do
  let value ← strictJson raw
  let document ← clusterObject value
  ensure ((∀ field ∈ document.map Prod.fst, field ∈ clusterDocumentFields.map textOf) ∧
    ∀ field ∈ clusterDocumentFields.map textOf, field ∈ document.map Prod.fst)
    (.blocked "cluster output fields differ from the bound ccloud shape")
  let rawId ← clusterField document "id"
  let name ← clusterField document "name"
  let version ← clusterField document "cockroach_version"
  let state ← clusterField document "state"
  let wirePlan ← clusterField document "plan"
  let cloud ← clusterField document "cloud_provider"
  let regionValue ← clusterField document "regions"
  let regions ← regionNames regionValue
  let rawId ← clusterText rawId
  let name ← clusterText name
  let version ← clusterText version
  let state ← clusterText state
  let wirePlan ← clusterText wirePlan
  let cloud ← clusterText cloud
  let versionNormalized ← clusterVersion version
  let semanticPlan ← normalizeLegacyPlan wirePlan ccloudVersion ccapiVersion
  let idDigest ← textDigest rawId
  return ({ name := name, clusterIdDigest := idDigest, cockroachVersion := versionNormalized,
            state := state, wirePlan := wirePlan, plan := semanticPlan, cloud := cloud,
            regions := regions }, ["cluster_id"])

end

/-! ### The target -/

/-- What `build_capture` takes from the version artifact. -/
structure VersionArtifact where
  ccloudAuthProfileDigest : String
  expectedClusterIdDigest : String
  provisioningReceiptDigest : String
  ccloudExecutable : String
  ccloudExecutableSha256 : String
  ccloudJsonFlag : String
  ccloudVersion : String
  ccapiVersion : String
  ccloudHelpDigest : String
  ccloudConfigDigest : String
  observedCockroachVersion : String
  targetWirePlan : String
  targetPlan : String
  requiredVersionFamily : String

/-- `CLUSTER_NAME` of the adapter. -/
def boundClusterName : String := "kingly-dreamer"

/-- The document that `_validate_target` expects. -/
def VersionArtifact.expected (artifact : VersionArtifact) : ClusterDocument String :=
  { name := boundClusterName, clusterIdDigest := artifact.expectedClusterIdDigest,
    cockroachVersion := artifact.observedCockroachVersion, state := "CREATED",
    wirePlan := artifact.targetWirePlan, plan := artifact.targetPlan, cloud := "AWS",
    regions := ["us-east-1"] }

/-- Python `_validate_target`; the document that it lets through is one of strings, and is returned so. -/
def validateTarget (document : ClusterDocument Text) (artifact : VersionArtifact) :
    Except CaptureError (ClusterDocument String) := do
  let expected := artifact.expected
  ensure (document = expected.texts) (.blocked "ccloud target binding mismatch")
  ensure ((artifact.requiredVersionFamily ++ ".").toList <+: expected.cockroachVersion.toList)
    (.blocked "ccloud target version family mismatch")
  let semanticPlan ←
    normalizeLegacyPlan (textOf expected.wirePlan) artifact.ccloudVersion artifact.ccapiVersion
  ensure (semanticPlan = artifact.targetPlan) (.blocked "ccloud target semantic plan mismatch")
  return expected

section
variable [Platform]

/-- The text of a value has none of the patterns. -/
def guardText (v : Value) : Except CaptureError Unit := do
  let cs ← canonicalChars v
  ensure (isSensitive cs = false)
    (.blocked "sensitive ccloud output survived normalization")

mutual

/-- Python `_redaction_guard`. -/
def redactionGuard : Value → Except CaptureError Unit
  | .dict l => do
    guardText (.dict l)
    guardMembers l
  | .list l => do
    guardText (.list l)
    guardElems l
  | v => guardText v

/-- The items of a list. -/
def guardElems : List Value → Except CaptureError Unit
  | [] => .ok ()
  | item :: l => do
    redactionGuard item
    guardElems l

/-- The members of a mapping. -/
def guardMembers : List (String × Value) → Except CaptureError Unit
  | [] => .ok ()
  | (key, item) :: l => do
    ensure (isCredentialField key = false) (.blocked "credential field survived normalization")
    redactionGuard item
    guardMembers l

end

end

section
variable {pattern : List Char → Bool} {cs : List Char} {artifact : VersionArtifact}

/-- The strict reading of what the writer wrote is that of the tree with its keys in order. -/
lemma strictJson_dumps {j : Json} : strictJson j.dumps.toUTF8 = j.sortKeys.load strictHooks := by
  have decoded : String.fromUTF8? j.dumps.toUTF8 = some j.dumps := dif_pos j.dumps.isValidUTF8
  rw [strictJson, decoded]
  exact strictHooks.scan_parse (Json.parse_dumps j)

/-- The document that is let through is the expected one. -/
lemma validateTarget_ok {document : ClusterDocument Text} {target : ClusterDocument String}
    (h : validateTarget document artifact = .ok target) :
    document = target.texts ∧ target = artifact.expected := by
  simp only [validateTarget, bind_eq_ok, ensure_eq_ok, pure_eq_ok, Except.ok.injEq] at h
  obtain ⟨-, rfl, -, -, _, -, -, -, rfl⟩ := h
  exact ⟨rfl, rfl⟩

/-- The redactions of a document are those of the identifier. -/
lemma normalizeClusterDocument_manifest [Platform] {raw : ByteArray} {ccloudVersion ccapiVersion : String}
    {document : ClusterDocument Text} {redactions : List String}
    (h : normalizeClusterDocument raw ccloudVersion ccapiVersion = .ok (document, redactions)) :
    redactions = ["cluster_id"] := by
  simp only [normalizeClusterDocument, bind_eq_ok] at h
  obtain ⟨_, -, _, -, _, -, _, -, _, -, _, -, _, -, _, -, _, -, _, -, _, -, _, -, _, -, _, -, _, -,
    _, -, _, -, _, -, _, -, _, -, h⟩ := h
  exact (congrArg Prod.snd (Except.ok.inj h)).symm

/-- What passes the guard is written without the patterns. -/
lemma redactionGuard_ok [Platform] {v : Value} (h : redactionGuard v = .ok ()) :
    ∃ cs, canonicalChars v = .ok cs ∧ isSensitive cs = false := by
  have guarded : guardText v = .ok () := by
    cases v with
    | dict l =>
      simp only [redactionGuard, bind_eq_ok] at h
      exact h.choose_spec.1
    | list l =>
      simp only [redactionGuard, bind_eq_ok] at h
      exact h.choose_spec.1
    | _ => simpa only [redactionGuard] using h
  simpa only [guardText, bind_eq_ok, ensure_eq_ok] using guarded

end

end GAM
