import GAM.Governance.Config
import GAM.Memory.Decode
import GAM.Store.ExecutionTables

/-!
# Effects and their records

The pure part of `executor.py`: the scalar value of a proposal's parameters, the allowlist of its
action and target, the digests of decisions, attempts and receipts, and the checks on the rows that
are read back.
-/

namespace GAM
open Lib

/-- Python `ExecutionBlocked`, raised. -/
def blockExecution {α : Type} (message : String) : Except PyError α :=
  .error (.executionBlocked message)

/-- The hooks of `_json_scalar`. -/
def parameterHooks : Hooks PyError Value where
  invalid := .executionBlocked "parameters are not canonical JSON"
  null := .none
  bool := .bool
  constant := fun _ => blockExecution "parameters contain a non-finite value"
  number := decimalNumber
  str := fun t => .ok (.text t)
  arr := .list
  obj := fun l => do
    ensure (l.map Prod.fst).Nodup (.executionBlocked "parameters contain a duplicate key")
    return .ofMembers l

/-- Python `_plain_json` of `executor.py`. -/
def scalarChars : Value → Except PyError (List Char)
  | .none => .ok ['n', 'u', 'l', 'l']
  | .bool true => .ok ['t', 'r', 'u', 'e']
  | .bool false => .ok ['f', 'a', 'l', 's', 'e']
  | .decimal d => if d.isFinite then plainDecimal d else blockExecution "JSON number is non-finite"
  | .str s => .ok (stringChars s)
  -- the text is encoded next, which refuses the lone surrogate
  | .points _ => .error .valueError
  | _ => blockExecution "value is not a JSON scalar"

/-- A loaded array or object. -/
def isContainer : Value → Bool
  | .dict _ | .textDict _ | .list _ => true
  | _ => false

/-- Python `_json_scalar`: the canonical text of the value under `value`. -/
def jsonScalar (text : String) : Except PyError String := do
  let parameters ← parameterHooks.scan text
  let value ← match parameters with
    | .dict [("value", value)] => .ok value
    | _ => blockExecution "parameters must contain exactly value"
  ensure (isContainer value = false)
    (.executionBlocked "demo value must be a JSON scalar")
  let cs ← scalarChars value
  let canonical := String.ofList cs
  ensure (canonical.utf8ByteSize ≤ 256) (.executionBlocked "demo value exceeds its byte limit")
  ensure (text = "\x7b\"value\":" ++ canonical ++ "\x7d")
    (.executionBlocked "parameters are not canonical JSON")
  return canonical

/-- The escape of a UTF-16 code unit. -/
def unicodeEscape (n : Nat) : List Char :=
  ['\\', 'u', hexChar (n / 4096), hexChar (n / 256 % 16), hexChar (n / 16 % 16), hexChar (n % 16)]

/-- One character of a string token in ASCII. -/
def asciiChars (c : Char) : List Char :=
  if c.toNat < 127 then escapeChar c
  else if c.toNat < 65536 then unicodeEscape c.toNat
  else unicodeEscape (55296 + (c.toNat - 65536) / 1024) ++
    unicodeEscape (56320 + (c.toNat - 65536) % 1024)

/-- `json.dumps` of a text. -/
def asciiString (s : String) : List Char := '"' :: (s.toList.flatMap asciiChars ++ ['"'])

/-- `json.dumps` of a key that may be no string. -/
def asciiKey (t : Text) : List Char :=
  let point : Point → List Char
    | .char c => asciiChars c
    | p => unicodeEscape p.code
  '"' :: (t.flatMap point ++ ['"'])

/-- `json.dumps(.., sort_keys=True, separators=(",", ":"))` of texts and numbers under names. -/
def asciiObject (l : List (String × (String ⊕ Nat))) : String :=
  String.ofList (commaSeparated '\x7b' '\x7d' ((sortedBy Prod.fst l).map fun m =>
    asciiString m.1 ++ ':' :: m.2.elim asciiString natChars))

/-- Python `_database_json` of a text column. -/
def databaseJson (text : String) : Except PyError String := do
  let parsed ← (decimalHooks .valueError).scan text
  match parsed with
  | .dict l => do
    let ms ← mapAll (fun m : String × Value => do
      let cs ← scalarChars m.2
      return asciiString m.1 ++ ':' :: cs) (sortedBy Prod.fst l)
    return String.ofList (commaSeparated '\x7b' '\x7d' ms)
  | .textDict l => do
    let ms ← mapAll (fun m : Text × Value => do
      let cs ← scalarChars m.2
      return asciiKey m.1 ++ ':' :: cs) (sortedBy (fun m => m.1.map Point.code) l)
    return String.ofList (commaSeparated '\x7b' '\x7d' ms)
  | v => do
    let cs ← scalarChars v
    return String.ofList cs

section
variable [Platform]

/-- Python `decision_digest`. -/
def decisionDigest (d : DecisionRecord) : Except PyError String :=
  canonicalSha256 (.dict
    [("schema", .str "gam.decision.v1"), ("proposal_id", .str d.proposalId),
      ("evaluation_id", .str d.evaluationId),
      ("evaluation_trace_digest", .str d.evaluationTraceDigest), ("decision", toValue d.decision),
      ("decided_by", .str d.decidedBy), ("rationale", .str d.rationale),
      ("conditions", .str d.conditionsJson), ("idempotency_key", .str d.idempotencyKey)])

/-- Python `attempt_digest`. -/
def attemptDigest (a : ExecutionAttempt) : Except PyError String :=
  canonicalSha256 (.dict
    [("schema", .str "gam.execution-attempt.v1"), ("proposal_id", .str a.proposalId),
      ("evaluation_id", .str a.evaluationId),
      ("evaluation_trace_digest", .str a.evaluationTraceDigest),
      ("decision_id", .str a.decisionId), ("decision_value", toValue a.decisionValue),
      ("decision_digest", .str a.decisionDigest), ("action_type_key", .str a.actionTypeKey),
      ("action_digest", .str a.actionDigest), ("target_key", .str a.targetKey),
      ("effect_key", .str a.effectKey), ("requested_value", .str a.requestedValueJson),
      ("started_at", .str a.startedAt), ("finished_at", .str a.finishedAt),
      ("terminal_status", toValue a.terminalStatus), ("demo_effect_id", toValue a.demoEffectId),
      ("before_effect_digest", .str a.beforeEffectDigest),
      ("after_effect_digest", toValue a.afterEffectDigest),
      ("observed_effect_version", toValue a.observedEffectVersion),
      ("outcome", .str a.outcomeJson), ("outcome_digest", .str a.outcomeDigest),
      ("executor_id", .str a.executorId), ("idempotency_key", .str a.idempotencyKey),
      ("error_code", toValue a.errorCode), ("safe_message", toValue a.safeMessage)])

/-- Python `receipt_digest`. -/
def receiptDigest (r : ExecutionReceipt) : Except PyError String :=
  canonicalSha256 (.dict
    [("schema", .str "gam.execution-receipt.v1"), ("attempt_id", .str r.attemptId),
      ("attempt_digest", .str r.attemptDigest), ("proposal_id", .str r.proposalId),
      ("evaluation_id", .str r.evaluationId),
      ("evaluation_trace_digest", .str r.evaluationTraceDigest),
      ("decision_id", .str r.decisionId), ("decision_digest", .str r.decisionDigest),
      ("action_digest", .str r.actionDigest),
      ("attempt_terminal_status", toValue r.attemptTerminalStatus),
      ("target_key", .str r.targetKey), ("outcome_digest", .str r.outcomeDigest),
      ("before_effect_digest", .str r.beforeEffectDigest),
      ("after_effect_digest", toValue r.afterEffectDigest),
      ("observed_effect_version", toValue r.observedEffectVersion),
      ("executor_id", .str r.executorId), ("idempotency_key", .str r.idempotencyKey),
      ("verified", .bool r.verified)])

/-- Python `_decision`. -/
def decisionOfRow (row : DecisionRecord) : Except PyError DecisionRecord := do
  let conditions ← databaseJson row.conditionsJson
  let record := { row with conditionsJson := conditions }
  let digest ← decisionDigest record
  ensure (record.decisionDigest = digest) (.executionBlocked "decision digest mismatch")
  return record

/-- Python `_receipt`. -/
def receiptOfRow (row : ExecutionReceipt) : Except PyError ExecutionReceipt := do
  ensure (row.verified = true) (.executionBlocked "execution receipt digest mismatch")
  let digest ← receiptDigest row
  ensure (row.receiptDigest = digest) (.executionBlocked "execution receipt digest mismatch")
  return row

/-- Python `_validate_effect`. -/
def validateEffect (p : Proposal) : Except PyError (String × String) := do
  ensure (p.actionType = "SET_DEMO_VALUE" ∧ p.actionTypeKey = "set_demo_value")
    (.executionBlocked "proposal action is not allowlisted")
  let prefixChars := "demo_kv:".toList
  ensure (prefixChars <+: p.target.toList ∧ p.targetKey = lower p.target)
    (.executionBlocked "demo target binding is invalid")
  let key := String.ofList (p.target.toList.drop prefixChars.length)
  ensure (isEffectKey key = true ∧ p.targetKey = "demo_kv:" ++ key)
    (.executionBlocked "demo effect key is invalid")
  ensure (p.targetKey.utf8ByteSize ≤ 256) (.executionBlocked "demo target exceeds its byte limit")
  let value ← jsonScalar p.parametersJson
  return (key, value)

end

end GAM
