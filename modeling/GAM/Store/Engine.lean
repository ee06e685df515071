import GAM.Lib.JsonParse
import GAM.Lib.Checks
import GAM.Platform

/-!
# The database engine

What a column does to the text that is written to it. A `UUID` column keeps the canonical text, a
`JSONB` column the value, a `VECTOR` column its components; each is represented by the text that the
driver delivers for it. The delivered JSON is compact here; whoever reads it parses it. `Engine` is
the part of the driver and the engine that the program relies on.
-/

namespace GAM
open Lib

/-- `UUID(value)` succeeds and prints as `value`: 32 lower-case hexadecimal digits in five groups. -/
def isUuid (value : String) : Bool :=
  let cs := value.toList
  let hex (l : List Char) := l.all fun c => c.isDigit || ('a' ≤ c && c ≤ 'f')
  let dash (l : List Char) := l == ['-']
  cs.length == 36 && hex (cs.take 8) && dash ((cs.drop 8).take 1) && hex ((cs.drop 9).take 4) &&
    dash ((cs.drop 13).take 1) && hex ((cs.drop 14).take 4) && dash ((cs.drop 18).take 1) &&
    hex ((cs.drop 19).take 4) && dash ((cs.drop 23).take 1) && hex (cs.drop 24)

/-- The engine: what `$1::UUID` and `$1::TIMESTAMPTZ` make of a text, and what a text becomes in a
`VECTOR(1536)` column. -/
class Engine extends Platform where
  uuid : String → Option String
  uuid_canonical : ∀ {s u}, uuid s = some u → isUuid u = true
  uuid_self : ∀ {u}, isUuid u = true → uuid u = some u
  timestamp : String → Option String
  vector : String → Option String

/-- An engine that accepts canonical identifiers, takes no text for a time and delivers a vector as it
was written. -/
@[reducible] def asciiEngine : Engine :=
  { asciiPlatform with
    uuid := fun s => if isUuid s then some s else none
    uuid_canonical := fun {s u} h => by
      split at h
      · cases h
        assumption
      · cases h
    uuid_self := fun {u} h => if_pos h
    timestamp := fun _ => none
    vector := some }

/-- The same engine behind a connection with a codec that takes times as texts. -/
@[reducible] def codecEngine : Engine := { asciiEngine with timestamp := some }

section
variable [Engine]

/-- `$1::UUID`; a text that is no identifier is refused by the driver. -/
def castUuid (s : String) : Except PyError String :=
  match Engine.uuid s with
  | some u => .ok u
  | none => .error .valueError

/-- `$1::UUID` of a value that may be `None`. -/
def castOptUuid : Option String → Except PyError (Option String)
  | none => .ok none
  | some s => do
    let u ← castUuid s
    return some u

/-- What the cast returns is a canonical identifier. -/
lemma castUuid_canonical {s u : String} (h : castUuid s = .ok u) : isUuid u = true := by
  rw [castUuid] at h
  split at h
  · rename_i hs
    cases h
    exact Engine.uuid_canonical hs
  · cases h

/-- A canonical identifier is its own value. -/
lemma castUuid_self {u : String} (h : isUuid u = true) : castUuid u = .ok u := by
  rw [castUuid, Engine.uuid_self h]

/-- A canonical identifier is cast to itself. -/
lemma castOptUuid_self {o : Option String} (h : ∀ id ∈ o, isUuid id = true) :
    castOptUuid o = .ok o := by
  cases o with
  | none => rfl
  | some id => rw [castOptUuid, castUuid_self (h id rfl), ok_bind, pure_eq_ok]

/-- The value of an identifier is its own value. -/
lemma castUuid_idem {s u : String} (h : castUuid s = .ok u) : castUuid u = .ok u :=
  castUuid_self (castUuid_canonical h)

/-- `$1::TIMESTAMPTZ` of a text. The driver encodes a time from a `datetime`; a text that it does not
take is a `DataError`, which is a `ValueError`. -/
def castTimestamp (s : String) : Except PyError String :=
  match Engine.timestamp s with
  | some t => .ok t
  | none => .error .valueError

/-- `$1::VECTOR`. -/
def castVector (s : String) : Except PyError String :=
  match Engine.vector s with
  | some v => .ok v
  | none => .error (.sqlError "22P02")

end

mutual

/-- A value of standard JSON: none of the three constants of the dialect. -/
def isStandard : Json → Bool
  | .constant _ => false
  | .arr l => standardElems l
  | .obj l => standardMembers l
  | _ => true

/-- The items of an array. -/
def standardElems : List Json → Bool
  | [] => true
  | j :: l => isStandard j && standardElems l

/-- The values of the members of an object. -/
def standardMembers : List (String × Json) → Bool
  | [] => true
  | (_, j) :: l => isStandard j && standardMembers l

end

/-- `$1::JSONB`. -/
def castJsonb (text : String) : Except PyError String :=
  match Json.parse text with
  | some j => if isStandard j then .ok j.dumps else .error (.sqlError "22P02")
  | none => .error (.sqlError "22P02")

/-- SQL `jsonb_typeof`. -/
def jsonbTypeof (text : String) : String :=
  match Json.parse text with
  | some .null => "null"
  | some (.bool _) => "boolean"
  | some (.num _) | some (.constant _) => "number"
  | some (.str _) => "string"
  | some (.arr _) => "array"
  | some (.obj _) => "object"
  | none => ""

example : isUuid "00000000-0000-0000-0000-00000000000a" = true := by decide

end GAM
