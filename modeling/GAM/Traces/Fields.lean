import GAM.Traces.Validate

/-!
# What the reflective validation checks

`validateFields` walks over a record by the names of its fields. For each record this module lists
what the walk comes down to: which texts must be digests, which must be canonical JSON, and which
fields are walked in turn.
-/

namespace GAM
open Lib

section
variable [Platform]

/-- A text that the walk accepts under a `.._json` name. -/
def PlainJson (text : String) : Prop := canonicalPlainJson text = .ok ()

/-- A value that the walk accepts as a field. -/
def FieldsValid {α : Type} [ToValue α] (a : α) : Prop := validateNested (toValue a) = .ok ()

/-- The walk descends into a tuple, but not into a tuple inside a tuple. -/
class Flat (α : Type) [ToValue α] : Prop where
  ne_tuple : ∀ (a : α) (l : List Value), toValue a ≠ .tuple l

instance : Flat String := ⟨by simp⟩
instance : Flat Binary64 := ⟨by simp⟩
/-- The values of a type are records. -/
class IsRecord (α : Type) [ToValue α] : Prop where
  fields : ∀ a : α, ∃ fields, toValue a = .record fields

instance {α : Type} [ToValue α] [h : IsRecord α] : Flat α :=
  ⟨fun a l e => by
    obtain ⟨fields, hf⟩ := h.fields a
    rw [hf] at e
    cases e⟩

instance : IsRecord EvidenceRef := ⟨fun _ => ⟨_, rfl⟩⟩
instance : IsRecord EvidenceGap := ⟨fun _ => ⟨_, rfl⟩⟩
instance : IsRecord EvidenceRequirement := ⟨fun _ => ⟨_, rfl⟩⟩
instance : IsRecord DependencyRef := ⟨fun _ => ⟨_, rfl⟩⟩
instance : IsRecord PolicyRule := ⟨fun _ => ⟨_, rfl⟩⟩
instance : IsRecord ExclusionRef := ⟨fun _ => ⟨_, rfl⟩⟩
instance : IsRecord ConsequenceRef := ⟨fun _ => ⟨_, rfl⟩⟩
instance : IsRecord PrecedentRef := ⟨fun _ => ⟨_, rfl⟩⟩
instance : IsRecord CapabilityFact := ⟨fun _ => ⟨_, rfl⟩⟩
instance : IsRecord Proposal := ⟨fun _ => ⟨_, rfl⟩⟩
instance : IsRecord PriorEvaluationTrace := ⟨fun _ => ⟨_, rfl⟩⟩
instance : IsRecord EvaluationSnapshot := ⟨fun _ => ⟨_, rfl⟩⟩
instance : IsRecord CheckResult := ⟨fun _ => ⟨_, rfl⟩⟩
instance : IsRecord BlockedResult := ⟨fun _ => ⟨_, rfl⟩⟩
instance : IsRecord OperatorTraceStep := ⟨fun _ => ⟨_, rfl⟩⟩
instance : IsRecord TraceStep := ⟨fun
  | .operator _ => ⟨_, rfl⟩
  | .reducer _ => ⟨_, rfl⟩⟩

/-- The walk over a record. -/
@[simp] lemma validateFields_toValue {α : Type} [ToValue α] [h : IsRecord α] {a : α} :
    validateFields (toValue a) = .ok () ↔ FieldsValid a := by
  obtain ⟨fields, hf⟩ := h.fields a
  rw [FieldsValid, hf, validateFields, validateNested]

lemma plainJson_empty : PlainJson "\x7b\x7d" := rfl

@[simp] lemma validateJsonField_str {name text : String} :
    validateJsonField name (.str text) = .ok () ↔ PlainJson text := .rfl

@[simp] lemma validateJsonField_opt {name : String} {o : Option String} :
    validateJsonField name (toValue o) = .ok () ↔ ∀ text ∈ o, PlainJson text := by
  cases o <;> simp [validateJsonField, PlainJson]

omit [Platform] in
@[simp] lemma validateDigestField_str {name text : String} :
    validateDigestField name (.str text) = .ok () ↔ isHex64 text = true := by
  simp [validateDigestField, validateDigest]

omit [Platform] in
@[simp] lemma validateDigestField_opt {name : String} {o : Option String} :
    validateDigestField name (toValue o) = .ok () ↔ ∀ text ∈ o, isHex64 text = true := by
  cases o <;> simp [validateDigestField, validateDigest]

@[simp] lemma fieldsValid_str {text : String} : FieldsValid text := rfl
@[simp] lemma fieldsValid_float {x : Binary64} : FieldsValid x := rfl

@[simp] lemma fieldsValid_decimal {x : Decimal} : FieldsValid x := rfl
@[simp] lemma fieldsValid_decision {x : DecisionValue} : FieldsValid x := rfl
@[simp] lemma fieldsValid_status {x : ExecutionStatus} : FieldsValid x := rfl

@[simp] lemma validateNested_toValue {α : Type} [ToValue α] {a : α} :
    validateNested (toValue a) = .ok () ↔ FieldsValid a := .rfl

@[simp] lemma fieldsValid_option {α : Type} [ToValue α] {o : Option α} :
    FieldsValid o ↔ ∀ a ∈ o, FieldsValid a := by
  cases o with
  | none => exact ⟨fun _ _ h => (nomatch h), fun _ => rfl⟩
  | some a =>
    have some : FieldsValid (some a) ↔ FieldsValid a := .rfl
    simp [some]

@[simp] lemma validateChildren_map {α : Type} [ToValue α] [Flat α] {l : List α} :
    validateChildren (l.map toValue) = .ok () ↔ ∀ a ∈ l, FieldsValid a := by
  induction l with
  | nil => simp [validateChildren]
  | cons a l ih =>
    rw [List.forall_mem_cons, ← ih, List.map_cons, FieldsValid]
    cases h : toValue a <;> simp [validateChildren, validateNested]
    exact absurd h (Flat.ne_tuple a _)

@[simp] lemma fieldsValid_list {α : Type} [ToValue α] [Flat α] {l : List α} :
    FieldsValid l ↔ ∀ a ∈ l, FieldsValid a := by
  rw [← validateChildren_map, FieldsValid, toValue_list, validateNested]

@[simp] lemma EvidenceRef.fieldsValid {r : EvidenceRef} : FieldsValid r := by
  rw [FieldsValid, show toValue r = .record _ from rfl]
  simp [validateNested, validateFieldList, hasSuffix, List.isSuffixOf, List.isPrefixOf]

@[simp] lemma EvidenceGap.fieldsValid {r : EvidenceGap} : FieldsValid r := by
  rw [FieldsValid, show toValue r = .record _ from rfl]
  simp [validateNested, validateFieldList, hasSuffix, List.isSuffixOf, List.isPrefixOf]

@[simp] lemma EvidenceRequirement.fieldsValid {r : EvidenceRequirement} : FieldsValid r := by
  rw [FieldsValid, show toValue r = .record _ from rfl]
  simp [validateNested, validateFieldList, hasSuffix, List.isSuffixOf, List.isPrefixOf]

@[simp] lemma DependencyRef.fieldsValid {r : DependencyRef} :
    FieldsValid r ↔ PlainJson r.expectedJson ∧ (∀ text ∈ r.observedJson, PlainJson text) ∧
      isHex64 r.snapshotDigest = true := by
  rw [FieldsValid, show toValue r = .record _ from rfl]
  simp [validateNested, validateFieldList, hasSuffix, List.isSuffixOf, List.isPrefixOf]

@[simp] lemma PolicyRule.fieldsValid {r : PolicyRule} : FieldsValid r := by
  rw [FieldsValid, show toValue r = .record _ from rfl]
  simp [validateNested, validateFieldList, hasSuffix, List.isSuffixOf, List.isPrefixOf]

@[simp] lemma PolicyInput.fieldsValid {r : PolicyInput} :
    FieldsValid r ↔ isHex64 r.policyDigest = true := by
  rw [FieldsValid, show toValue r = .record _ from rfl]
  simp [validateNested, validateFieldList, hasSuffix, List.isSuffixOf, List.isPrefixOf]

@[simp] lemma ExclusionRef.fieldsValid {r : ExclusionRef} :
    FieldsValid r ↔ isHex64 r.sourceEvaluationTraceDigest = true ∧
      isHex64 r.sourceDecisionDigest = true ∧ isHex64 r.exclusionDigest = true := by
  rw [FieldsValid, show toValue r = .record _ from rfl]
  simp [validateNested, validateFieldList, hasSuffix, List.isSuffixOf, List.isPrefixOf]

@[simp] lemma ConsequenceRef.fieldsValid {r : ConsequenceRef} :
    FieldsValid r ↔ isHex64 r.receiptDigest = true ∧ isHex64 r.predictedSnapshotDigest = true ∧
      isHex64 r.actualSnapshotDigest = true ∧ isHex64 r.reportDigest = true := by
  rw [FieldsValid, show toValue r = .record _ from rfl]
  simp [validateNested, validateFieldList, hasSuffix, List.isSuffixOf, List.isPrefixOf]

@[simp] lemma PrecedentRef.fieldsValid {r : PrecedentRef} :
    FieldsValid r ↔ isHex64 r.proposalDigest = true ∧ isHex64 r.actionDigest = true ∧
      (∀ d ∈ r.decisionDigest, isHex64 d = true) ∧ isHex64 r.traceDigest = true ∧
      (∀ d ∈ r.receiptDigest, isHex64 d = true) ∧ ∀ x ∈ r.consequenceRefs, FieldsValid x := by
  rw [FieldsValid, show toValue r = .record _ from rfl]
  simp [validateNested, validateFieldList, hasSuffix, List.isSuffixOf, List.isPrefixOf]

@[simp] lemma CapabilityFact.fieldsValid {r : CapabilityFact} :
    FieldsValid r ↔ isHex64 r.snapshotDigest = true := by
  rw [FieldsValid, show toValue r = .record _ from rfl]
  simp [validateNested, validateFieldList, hasSuffix, List.isSuffixOf, List.isPrefixOf]

@[simp] lemma Proposal.fieldsValid {r : Proposal} :
    FieldsValid r ↔ PlainJson r.parametersJson ∧ PlainJson r.impactAssessmentJson ∧
      PlainJson r.predictedOutcomeJson ∧ (∀ d ∈ r.dependencies, FieldsValid d) ∧
      isHex64 r.embeddingInputDigest = true ∧ isHex64 r.actionDigest = true ∧
      isHex64 r.proposalDigest = true := by
  rw [FieldsValid, show toValue r = .record _ from rfl]
  simp [validateNested, validateFieldList, hasSuffix, List.isSuffixOf, List.isPrefixOf]

@[simp] lemma OperatorTraceStep.fieldsValid {r : OperatorTraceStep} :
    FieldsValid r ↔ PlainJson r.resultJson := by
  rw [FieldsValid, show toValue r = .record _ from rfl]
  simp [validateNested, validateFieldList, hasSuffix, List.isSuffixOf, List.isPrefixOf]

@[simp] lemma ReducerTraceStep.fieldsValid {r : ReducerTraceStep} :
    FieldsValid r ↔ PlainJson r.resultJson := by
  rw [FieldsValid, show toValue r = .record _ from rfl]
  simp [validateNested, validateFieldList, hasSuffix, List.isSuffixOf, List.isPrefixOf]

/-- The text of a step is canonical JSON. -/
def TraceStep.resultJson : TraceStep → String
  | .operator s => s.resultJson
  | .reducer s => s.resultJson

@[simp] lemma TraceStep.fieldsValid {r : TraceStep} :
    FieldsValid r ↔ PlainJson r.resultJson := by
  cases r with
  | operator r => exact r.fieldsValid
  | reducer r => exact r.fieldsValid

@[simp] lemma PriorEvaluationTrace.fieldsValid {r : PriorEvaluationTrace} :
    FieldsValid r ↔ (∀ x ∈ r.operatorTrace, PlainJson x.resultJson) ∧
      (∀ d ∈ r.dependencies, FieldsValid d) ∧ isHex64 r.ruleConfigDigest = true ∧
      isHex64 r.inputSnapshotDigest = true ∧ isHex64 r.policyDigest = true ∧
      isHex64 r.traceDigest = true := by
  rw [FieldsValid, show toValue r = .record _ from rfl]
  simp [validateNested, validateFieldList, hasSuffix, List.isSuffixOf, List.isPrefixOf]

@[simp] lemma CheckResult.fieldsValid {r : CheckResult} :
    FieldsValid r ↔ (∀ x ∈ r.operatorTrace, PlainJson x.resultJson) ∧
      (∀ d ∈ r.dependencies, FieldsValid d) ∧ isHex64 r.ruleConfigDigest = true ∧
      isHex64 r.inputSnapshotDigest = true ∧ isHex64 r.policyDigest = true ∧
      isHex64 r.traceDigest = true := by
  rw [FieldsValid, show toValue r = .record _ from rfl]
  simp [validateNested, validateFieldList, hasSuffix, List.isSuffixOf, List.isPrefixOf]

@[simp] lemma BlockedResult.fieldsValid {r : BlockedResult} :
    FieldsValid r ↔ (∀ x ∈ r.operatorTrace, PlainJson x.resultJson) ∧
      (∀ d ∈ r.dependencies, FieldsValid d) ∧ isHex64 r.ruleConfigDigest = true ∧
      isHex64 r.inputSnapshotDigest = true ∧ isHex64 r.policyDigest = true ∧
      isHex64 r.traceDigest = true := by
  rw [FieldsValid, show toValue r = .record _ from rfl]
  simp [validateNested, validateFieldList, hasSuffix, List.isSuffixOf, List.isPrefixOf]

@[simp] lemma EvaluationSnapshot.fieldsValid {r : EvaluationSnapshot} :
    FieldsValid r ↔ FieldsValid r.proposal ∧ isHex64 r.policy.policyDigest = true ∧
      (∀ p ∈ r.precedents, FieldsValid p) ∧ (∀ e ∈ r.exclusions, FieldsValid e) ∧
      (∀ c ∈ r.capabilities, FieldsValid c) ∧ (∀ d ∈ r.dependencies, FieldsValid d) ∧
      (∀ p ∈ r.priorEvaluation, FieldsValid p) ∧ isHex64 r.snapshotDigest = true := by
  rw [FieldsValid, show toValue r = .record _ from rfl]
  simp [validateNested, validateFieldList, hasSuffix, List.isSuffixOf, List.isPrefixOf]

end

end GAM
