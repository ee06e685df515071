import GAM.Traces.Canonical
import GAM.Traces.PlainJson

/-!
# Validation of traces, results and snapshots

The validators of `traces.py`. Each runs its checks in the order of the source and stops at the
first that fails. `validateFields` is the reflective walk over a record: it goes by field names,
checks every `.._digest` and `.._json` text and descends into nested records.
-/

namespace GAM
open Lib

section
variable [Platform]

/-- Whether a field name ends in a suffix. -/
def hasSuffix (suffix name : String) : Bool := suffix.toList.isSuffixOf name.toList

/-- Python `_validate_digest`. -/
def validateDigest (value fieldName : String) : Except PyError Unit :=
  ensure (isHex64 value = true) (.contractViolation ("invalid digest: " ++ fieldName))

/-- The digest check of one field; absent values pass. -/
def validateDigestField (name : String) : Value → Except PyError Unit
  | .none => .ok ()
  | .str s => validateDigest s name
  | _ => reject ("digest is not text: " ++ name)

/-- The JSON check of one field; absent values pass. -/
def validateJsonField (name : String) : Value → Except PyError Unit
  | .none => .ok ()
  | .str s => canonicalPlainJson s
  | _ => reject ("JSON field is not text: " ++ name)

mutual

/-- Python `_validate_dataclass_fields`. -/
def validateFields : Value → Except PyError Unit
  | .record fields => validateFieldList fields
  | _ => reject "expected dataclass record"

/-- The fields of a record. -/
def validateFieldList : List (String × Value) → Except PyError Unit
  | [] => .ok ()
  | (name, item) :: fields => do
    checkWhen (hasSuffix "_digest" name) (validateDigestField name item)
    checkWhen (hasSuffix "_json" name) (validateJsonField name item)
    validateNested item
    validateFieldList fields

/-- Nested records are validated; other values pass. -/
def validateNested : Value → Except PyError Unit
  | .tuple l => validateChildren l
  | .record fields => validateFieldList fields
  | _ => .ok ()

/-- The items of a list. -/
def validateChildren : List Value → Except PyError Unit
  | [] => .ok ()
  | .record fields :: l => do
    validateFieldList fields
    validateChildren l
  | _ :: l => validateChildren l

end

/-- A character of a rule identifier after its first. -/
def isRuleChar (c : Char) : Bool := c.isUpper || c.isDigit || c == '_'

/-- Python `STEP_RULE_ID`. -/
def isStepRuleId (s : String) : Bool :=
  match s.toList with
  | c :: cs => c.isUpper && decide (cs.length ≤ 63) && cs.all isRuleChar
  | [] => false

/-- The optional part of a fact rule identifier. -/
def isFactSuffix : List Char → Bool
  | [] => true
  | '_' :: c :: cs => (c :: cs).all isRuleChar
  | _ => false

/-- Python `FACT_RULE_ID`. -/
def isFactRuleId (s : String) : Bool :=
  match s.toList with
  | 'F' :: a :: b :: cs =>
    ((a == '0' && '1' ≤ b && b ≤ '9') || (a == '1' && '0' ≤ b && b ≤ '2')) && isFactSuffix cs
  | _ => false

/-- A number below 100 in two digits. -/
def twoDigits (n : Nat) : String :=
  String.ofList [Nat.digitChar (n / 10), Nat.digitChar (n % 10)]

/-- Python `make_step_id`. -/
def makeStepId (evaluationId : String) (ordinal : Nat) (ruleId : String) :
    Except PyError String := do
  ensure (evaluationId ≠ "" ∧ 1 ≤ ordinal ∧ ordinal ≤ 99)
    (.contractViolation "invalid trace ordinal")
  ensure (isStepRuleId ruleId = true) (.contractViolation "invalid trace rule ID")
  return evaluationId ++ ":" ++ twoDigits ordinal ++ ":" ++ ruleId

/-- Python `PINNED_EMBEDDING_MODEL`. -/
def pinnedEmbeddingModel : String := "text-embedding-3-small"
/-- Python `PINNED_EMBEDDING_DIMENSIONS`. -/
def pinnedEmbeddingDimensions : Nat := 1536

/-- Python `_validate_proposal`. -/
def validateProposal (p : Proposal) : Except PyError Unit := do
  validateFields (toValue p)
  ensure (p.embeddingModel = pinnedEmbeddingModel ∧
      p.embedding.length = pinnedEmbeddingDimensions ∧ p.embedding.all Binary64.isFinite = true)
    (.contractViolation "proposal embedding contract mismatch")
  ensure ((p.parentProposalId = none ∧ p.sourceModifyDecisionId = none ∧
        p.sourceModifyDecisionValue = none) ∨
      (p.parentProposalId ≠ none ∧ p.sourceModifyDecisionId ≠ none ∧
        p.sourceModifyDecisionValue = some .modify))
    (.contractViolation "proposal MODIFY lineage is incomplete")

/-- All three values are present, or none is. -/
def Together {α β γ : Type} (a : Option α) (b : Option β) (c : Option γ) : Prop :=
  (a.isNone ∧ b.isNone ∧ c.isNone) ∨ (a.isSome ∧ b.isSome ∧ c.isSome)

instance {α β γ : Type} (a : Option α) (b : Option β) (c : Option γ) :
    Decidable (Together a b c) := by
  unfold Together
  infer_instance

/-- Python `_validate_precedent`. -/
def validatePrecedent (p : PrecedentRef) : Except PyError Unit := do
  validateFields (toValue p)
  ensure (Together p.decision p.decisionId p.decisionDigest)
    (.contractViolation "precedent decision binding is partial")
  ensure (Together p.receiptId p.receiptDigest p.receiptTerminalStatus)
    (.contractViolation "precedent receipt binding is partial")
  ensure (p.consequenceRefs = [] ∨ p.receiptTerminalStatus = some .observed)
    (.contractViolation "consequence requires an OBSERVED receipt")
  ensure (p.similarity.isNone ≠ p.similarityErrorCode.isNone)
    (.contractViolation "precedent similarity/error binding mismatch")
  ensure (p.similarity.all Decimal.isFinite = true)
    (.contractViolation "precedent similarity is non-finite")

/-- Python `_validate_gap_scope`; `ids` are the identifiers so far. -/
def validateGapScope (ids : List String) : List EvidenceGap → Except PyError Unit
  | [] => .ok ()
  | gap :: gaps => do
    validateFields (toValue gap)
    ensure (gap.gapId ≠ "" ∧ gap.gapId ∉ ids ∧ gap.resolutionRuleId ≠ "")
      (.contractViolation "evidence gap identity is invalid")
    validateGapScope (gap.gapId :: ids) gaps

/-- Python `_REDUCER_BINDINGS`. -/
def reducerBinding : String → Option (OperatorFamily × String)
  | "R1_NO" => some (.everySome, "SOME")
  | "R2_MAYBE" => some (.everySome, "SOME")
  | "R3_IFF" => some (.everySome, "SOME")
  | "R4_YES" => some (.everySome, "EVERY")
  | _ => none

/-- The checks of one step that depend on its kind. -/
def validateStepKind (blocked : Bool) (seen : List String) : TraceStep → Except PyError Unit
  | .reducer step => do
    ensure (reducerBinding step.ruleId = some (step.family, step.pole))
      (.contractViolation "reducer family/pole binding mismatch")
    ensure (step.decisiveFactStepIds ≠ [] ∧ (∀ item ∈ step.decisiveFactStepIds, item ∈ seen) ∧
        step.stepId ∉ step.decisiveFactStepIds)
      (.contractViolation "reducer decisive-step binding mismatch")
  | .operator step =>
    ensure (blocked = true ∨ reducerBinding step.ruleId = none)
      (.contractViolation "reducer step is not typed ReducerTraceStep")

/-- The loop of `_validate_trace` over the steps, from an ordinal on and with the step identifiers
seen so far. -/
def validateSteps (evaluationId : String) (blocked : Bool) :
    Nat → List String → List TraceStep → Except PyError Unit
  | _, _, [] => .ok ()
  | ordinal, seen, step :: steps => do
    validateFields (toValue step)
    let expected ← makeStepId evaluationId ordinal step.ruleId
    ensure (step.stepId = expected ∧ step.stepId ∉ seen)
      (.contractViolation "trace step identity/ordinal mismatch")
    ensure (step.pole ∈ allowedPoles step.family)
      (.contractViolation "operator pole is not allowed for family")
    validateStepKind blocked (step.stepId :: seen) step
    validateSteps evaluationId blocked (ordinal + 1) (step.stepId :: seen) steps

/-- The ordinals at which a rule occurs, ascending (an entry of Python `rule_positions`). -/
def rulePositions (trace : List TraceStep) (ruleId : String) : List Nat :=
  ((trace.zipIdx 1).filter fun step => step.1.ruleId == ruleId).map Prod.snd

/-- Ordinals come in adjacent pairs. -/
def adjacentPairs : List Nat → Bool
  | [] => true
  | left :: right :: rest => right == left + 1 && adjacentPairs rest
  | [_] => false

/-- The checks of `_validate_trace` on the positions of one rule. -/
def validatePositions (trace : List TraceStep) (ruleId : String) : Except PyError Unit :=
  if ruleId = "F10_DEPENDENCY_FORMULA" then
    ensure (adjacentPairs (rulePositions trace ruleId) = true)
      (.contractViolation "F10 trace pairs are not adjacent")
  else
    ensure ((rulePositions trace ruleId).length = 1)
      (.contractViolation "duplicate trace rule ID")

/-- The last step is the BECAUSE step of the given identifier. -/
def IsTerminal (becauseStepId : String) : Option TraceStep → Prop
  | some step => step.stepId = becauseStepId ∧ step.family = .because ∧ step.pole = "BECAUSE"
  | none => False

instance (becauseStepId : String) (step : Option TraceStep) :
    Decidable (IsTerminal becauseStepId step) := by
  unfold IsTerminal
  split <;> infer_instance

/-- The end of `_validate_trace` for a BLOCKED trace. -/
def validateBlockedEnd (trace : List TraceStep) (becauseStepId : Option String) :
    Except PyError Unit := do
  ensure (∀ step ∈ trace, step.reducer? = none)
    (.contractViolation "BLOCKED trace contains a reducer")
  ensure (becauseStepId = none)
    (.contractViolation "BLOCKED trace cannot name terminal BECAUSE")

/-- The end of `_validate_trace` for a finalized trace. -/
def validateTerminal (trace : List TraceStep) : Option String → Except PyError Unit
  | none => reject "terminal BECAUSE step is absent"
  | some becauseStepId => do
    ensure (becauseStepId ∈ trace.map TraceStep.stepId)
      (.contractViolation "terminal BECAUSE step is absent")
    ensure (IsTerminal becauseStepId trace.getLast?)
      (.contractViolation "BECAUSE must be the terminal trace step")

/-- Python `_validate_trace`. -/
def validateTrace (evaluationId : String) (trace : List TraceStep) (becauseStepId : Option String)
    (blocked : Bool) : Except PyError Unit := do
  ensure (trace ≠ [] ∧ trace.length ≤ 99) (.contractViolation "trace cardinality is invalid")
  validateSteps evaluationId blocked 1 [] trace
  forAll (validatePositions trace) (trace.map TraceStep.ruleId)
  if blocked then validateBlockedEnd trace becauseStepId
  else validateTerminal trace becauseStepId

/-- Python `_validate_changed_fact_ids`. -/
def validateChangedFactIds (values : List String) : Except PyError Unit := do
  ensure (values = sortedBy id values.dedup)
    (.contractViolation "changed fact-rule IDs are not sorted and unique")
  ensure (values.all isFactRuleId = true)
    (.contractViolation "changed fact-rule ID is outside F01-F12")

/-- Python `validate_check_result`. -/
def validateCheckResult (r : CheckResult) : Except PyError CheckResult := do
  validateFields (toValue r)
  validateGapScope [] r.evidenceGaps
  validateChangedFactIds r.changedFactRuleIds
  validateTrace r.evaluationId r.operatorTrace (some r.becauseStepId) false
  ensure (r.verdict ≠ .iff ∨ ∃ item ∈ r.dependencies, item.state = .unresolved)
    (.contractViolation "IFF result has no unresolved dependency")
  ensure (r.profileVersion ≠ some "") (.contractViolation "empty profile version")
  let digest ← checkResultDigest r
  ensure (r.traceDigest = digest) (.contractViolation "finalized trace digest mismatch")
  return r

/-- Python `validate_blocked_result`. -/
def validateBlockedResult (r : BlockedResult) : Except PyError BlockedResult := do
  validateFields (toValue r)
  validateGapScope [] r.evidenceGaps
  ensure (r.profileVersion = none ∧ r.changedFactRuleIds = [])
    (.contractViolation "BLOCKED profile/changed-fact fields must be empty")
  validateTrace r.evaluationId (r.operatorTrace.map .operator) none true
  ensure (r.errorCode ≠ "" ∧ r.safeMessage ≠ "")
    (.contractViolation "BLOCKED safe error fields are empty")
  let digest ← blockedResultDigest r
  ensure (r.traceDigest = digest) (.contractViolation "BLOCKED trace digest mismatch")
  return r

/-- Python `_validate_prior`. -/
def validatePrior (p : PriorEvaluationTrace) (proposalId : String) : Except PyError Unit := do
  validateFields (toValue p)
  ensure (p.proposalId = proposalId)
    (.contractViolation "prior evaluation belongs to another proposal")
  validateChangedFactIds p.changedFactRuleIds
  validateGapScope [] p.evidenceGaps
  validateTrace p.evaluationId p.operatorTrace (some p.becauseStepId) false
  let digest ← canonicalSha256 (priorPayload p)
  ensure (p.traceDigest = digest) (.contractViolation "prior evaluation trace digest mismatch")

/-- Python `validate_snapshot`. -/
def validateSnapshot (s : EvaluationSnapshot) : Except PyError EvaluationSnapshot := do
  validateFields (toValue s)
  validateProposal s.proposal
  ensure (s.evaluationId ≠ "" ∧ s.snapshotId ≠ "")
    (.contractViolation "snapshot identity is empty")
  checkSome (fun prior => validatePrior prior s.proposal.proposalId) s.priorEvaluation
  forAll validatePrecedent s.precedents
  forAll (fun capability => validateFields (toValue capability)) s.capabilities
  ensure (s.dependencies.map DependencyRef.dependencyId).Nodup
    (.contractViolation "duplicate snapshot dependency ID")
  let digest ← snapshotDigest s
  ensure (s.snapshotDigest = digest) (.contractViolation "snapshot digest mismatch")
  return s

/-- Python `finalize_check_result`. -/
def finalizeCheckResult (r : CheckResult) : Except PyError CheckResult := do
  let digest ← checkResultDigest r
  validateCheckResult { r with traceDigest := digest }

/-- Python `finalize_blocked_result`. -/
def finalizeBlockedResult (r : BlockedResult) : Except PyError BlockedResult := do
  let digest ← blockedResultDigest r
  validateBlockedResult { r with traceDigest := digest }

/-- Python `finalize_snapshot`. -/
def finalizeSnapshot (s : EvaluationSnapshot) : Except PyError EvaluationSnapshot := do
  let digest ← snapshotDigest s
  validateSnapshot { s with snapshotDigest := digest }

/-- A finalized snapshot is valid and keeps what was finalized. -/
lemma finalizeSnapshot_ok {body s : EvaluationSnapshot} (h : finalizeSnapshot body = .ok s) :
    ∃ digest, s = { body with snapshotDigest := digest } ∧ validateSnapshot s = .ok s := by
  simp only [finalizeSnapshot, bind_eq_ok] at h
  obtain ⟨digest, -, valid⟩ := h
  have same : s = { body with snapshotDigest := digest } := by
    simp only [validateSnapshot, bind_eq_ok, exists_unit, pure_eq_ok, Except.ok.injEq] at valid
    obtain ⟨-, -, -, -, -, -, -, _, -, -, same⟩ := valid
    exact same.symm
  subst same
  exact ⟨digest, rfl, valid⟩

/-! ### What the validators raise -/

omit [Platform] in
/-- A digest is accepted or refused with an error of the check. -/
lemma validateDigestField_raises {name v} :
    OnlyRaises PyError.IsCheckError (validateDigestField name v) := by
  unfold validateDigestField
  split <;> simp [validateDigest]

/-- A JSON text is accepted or refused with an error of the check. -/
lemma validateJsonField_raises {name v} :
    OnlyRaises PyError.IsCheckError (validateJsonField name v) := by
  unfold validateJsonField
  split <;> simp [canonicalPlainJson_raises]

mutual

/-- The fields are accepted or refused with an error of the check. -/
lemma validateFieldList_raises : ∀ l, OnlyRaises PyError.IsCheckError (validateFieldList l)
  | [] => by simp [validateFieldList]
  | (_, item) :: fields => by
    simp [validateFieldList, validateDigestField_raises, validateJsonField_raises,
      validateNested_raises item, validateFieldList_raises fields]

/-- A nested value is accepted or refused with an error of the check. -/
lemma validateNested_raises : ∀ v, OnlyRaises PyError.IsCheckError (validateNested v)
  | .tuple l => by simpa [validateNested] using validateChildren_raises l
  | .record fields => by simpa [validateNested] using validateFieldList_raises fields
  | .none | .bool _ | .int _ | .float _ | .decimal _ | .str _ | .enum .. | .list _ | .dict _
  | .points _ | .textDict _ => by
    simp [validateNested]

/-- The records of a tuple are accepted or refused with an error of the check. -/
lemma validateChildren_raises : ∀ l, OnlyRaises PyError.IsCheckError (validateChildren l)
  | [] => by simp [validateChildren]
  | .record fields :: l => by
    simp [validateChildren, validateFieldList_raises fields, validateChildren_raises l]
  | .none :: l | .bool _ :: l | .int _ :: l | .float _ :: l | .decimal _ :: l | .str _ :: l
  | .enum .. :: l | .list _ :: l | .dict _ :: l | .tuple _ :: l | .points _ :: l
  | .textDict _ :: l => by
    simpa [validateChildren] using validateChildren_raises l

end

/-- A record is accepted or refused with an error of the check. -/
lemma validateFields_raises {v : Value} : OnlyRaises PyError.IsCheckError (validateFields v) := by
  cases v <;> simp [validateFields, validateFieldList_raises]

omit [Platform] in
/-- A step id is made or refused with an error of the check. -/
lemma makeStepId_raises {evaluationId ordinal ruleId} :
    OnlyRaises PyError.IsCheckError (makeStepId evaluationId ordinal ruleId) := by
  simp [makeStepId]

/-- The gaps' scope is accepted or refused with an error of the check. -/
lemma validateGapScope_raises {gaps ids} :
    OnlyRaises PyError.IsCheckError (validateGapScope ids gaps) := by
  induction gaps generalizing ids with
  | nil => simp [validateGapScope]
  | cons gap gaps ih => simp [validateGapScope, validateFields_raises, ih]

omit [Platform] in
/-- A step's kind is accepted or refused with an error of the check. -/
lemma validateStepKind_raises {blocked seen step} :
    OnlyRaises PyError.IsCheckError (validateStepKind blocked seen step) := by
  cases step <;> simp [validateStepKind]

/-- The steps are accepted or refused with an error of the check. -/
lemma validateSteps_raises {evaluationId blocked ordinal seen steps} :
    OnlyRaises PyError.IsCheckError (validateSteps evaluationId blocked ordinal seen steps) := by
  induction steps generalizing ordinal seen with
  | nil => simp [validateSteps]
  | cons step steps ih =>
    simp [validateSteps, validateFields_raises, makeStepId_raises, validateStepKind_raises, ih]

omit [Platform] in
/-- The rules' positions are accepted or refused with an error of the check. -/
lemma validatePositions_raises {trace ruleId} :
    OnlyRaises PyError.IsCheckError (validatePositions trace ruleId) := by
  unfold validatePositions
  split <;> simp

/-- A trace is accepted or refused with an error of the check. -/
lemma validateTrace_raises {evaluationId trace becauseStepId blocked} :
    OnlyRaises PyError.IsCheckError
      (validateTrace evaluationId trace becauseStepId blocked) := by
  simp only [validateTrace, onlyRaises_bind, onlyRaises_ensure, validateSteps_raises, true_and]
  refine ⟨by simp, fun _ _ _ _ => ⟨onlyRaises_forAll fun _ _ => validatePositions_raises, ?_⟩⟩
  intro _ _
  split
  · simp [validateBlockedEnd]
  · cases becauseStepId <;> simp [validateTerminal]

omit [Platform] in
/-- The changed facts are accepted or refused with an error of the check. -/
lemma validateChangedFactIds_raises {values} :
    OnlyRaises PyError.IsCheckError (validateChangedFactIds values) := by
  simp [validateChangedFactIds]

/-- A proposal is accepted or refused with an error of the check. -/
lemma validateProposal_raises {p} : OnlyRaises PyError.IsCheckError (validateProposal p) := by
  simp [validateProposal, validateFields_raises]

/-- A precedent is accepted or refused with an error of the check. -/
lemma validatePrecedent_raises {p} : OnlyRaises PyError.IsCheckError (validatePrecedent p) := by
  simp [validatePrecedent, validateFields_raises]

omit [Platform] in
/-- A check raises what the trace validators raise. -/
lemma Lib.OnlyRaises.trace {α : Type} {x : Except PyError α} (h : OnlyRaises PyError.IsCheckError x) :
    OnlyRaises PyError.IsTraceError x := h.mono fun _ => PyError.IsCheckError.isTraceError

/-- A prior evaluation is accepted or refused with an error of the trace. -/
lemma validatePrior_raises {p proposalId} :
    OnlyRaises PyError.IsTraceError (validatePrior p proposalId) := by
  simp [validatePrior, validateFields_raises.trace, validateChangedFactIds_raises.trace,
    validateGapScope_raises.trace, validateTrace_raises.trace, canonicalSha256_raises]

/-- The snapshot validator raises contract violations and errors of numbers, nothing else. -/
lemma validateSnapshot_raises {s} : OnlyRaises PyError.IsTraceError (validateSnapshot s) := by
  simp [validateSnapshot, validateFields_raises.trace, validateProposal_raises.trace,
    validatePrior_raises, onlyRaises_forAll, validatePrecedent_raises.trace, snapshotDigest,
    canonicalSha256_raises]

end

end GAM
