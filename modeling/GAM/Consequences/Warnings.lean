import GAM.Cli.Decide
import GAM.Consequences.Report
import GAM.Governance.FirstEvaluation
import GAM.Governance.OpenFacts
import GAM.Memory.Precedents

/-!
# Divergence warnings

`get_divergence_warnings` selects the reports to warn of with one comprehension over the precedents. The
gate selects them in stages: F04 the near precedents, F05 those with the keys of the proposal, F06 the
approved ones, and F08 their reports at or above the threshold. The gate asks for the approval and the
comprehension for the status OBSERVED; a finalized evaluation has checked that status in the approved
precedents, and the receipts table has reports nowhere else.
-/

namespace GAM
open Lib

/-- Python `_NEAR_THRESHOLD`. -/
def nearThreshold : Decimal := .finite false 85000000 (-8)

/-- A precedent that the comprehension of `get_divergence_warnings` goes into. -/
def qualifyingPrecedent (proposal : Proposal) (precedent : PrecedentRef) : Bool :=
  precedent.similarity.any nearThreshold.le && precedent.actionTypeKey == proposal.actionTypeKey &&
    precedent.targetKey == proposal.targetKey

/-- A report that the comprehension selects. -/
def qualifyingConsequence (consequence : ConsequenceRef) : Bool :=
  consequence.receiptTerminalStatus == .observed && defaultThreshold.le consequence.divergence

/-- The `qualifying_ids` of `get_divergence_warnings`. -/
def qualifyingIds (proposal : Proposal) (precedents : List PrecedentRef) : List String :=
  (((precedents.filter (qualifyingPrecedent proposal)).flatMap PrecedentRef.consequenceRefs).filter
    qualifyingConsequence).map ConsequenceRef.consequenceId

/-- The order of `reports.sort`: the highest score first, then the identifier. -/
def ConsequenceReport.urgency (report : ConsequenceReport) : ℚ ×ₗ String :=
  toLex (-report.divergenceScore.value, report.consequenceId)

/-- Python `get_divergence_warnings`, in one transaction. -/
def getDivergenceWarnings [VectorEngine] (db : Store) (currentProposalId : String) (limit : Int) :
    Except PyError (List ConsequenceReport) := do
  ensure (0 < limit) (.integrity "warning limit must be positive")
  let proposal ← getProposal db.toDatabase currentProposalId
  match db.latestFinalized currentProposalId with
  | none => .error (.integrity "current proposal has no finalized evaluation")
  | some latest => do
    let precedents ← searchPrecedents db proposal.embedding 5 latest.id
    let ids := qualifyingIds proposal precedents
    if ids = [] then return []
    let reports ← mapAll reportFromRow (db.consequences.filter fun row => row.id ∈ ids)
    return (sortedBy ConsequenceReport.urgency reports).take limit.toNat

/-- The warnings are rows that the comprehension selects from what the search returns. -/
lemma getDivergenceWarnings_selected [VectorEngine] {db : Store} {currentProposalId : String}
    {limit : Int} {warnings : List ConsequenceReport}
    (h : getDivergenceWarnings db currentProposalId limit = .ok warnings) :
    ∃ proposal latest precedents, getProposal db.toDatabase currentProposalId = .ok proposal ∧
      db.latestFinalized currentProposalId = some latest ∧
      searchPrecedents db proposal.embedding 5 latest.id = .ok precedents ∧
      ∀ report ∈ warnings, ∃ row ∈ db.consequences, row.id ∈ qualifyingIds proposal precedents ∧
        reportFromRow row = .ok report := by
  simp only [getDivergenceWarnings, bind_eq_ok, exists_unit] at h
  obtain ⟨-, proposal, stored, h⟩ := h
  split at h
  · cases h
  rename_i latest selected
  simp only [bind_eq_ok] at h
  obtain ⟨precedents, found, h⟩ := h
  refine ⟨proposal, latest, precedents, stored, selected, found, fun report hreport => ?_⟩
  split at h
  · cases h
    exact absurd hreport List.not_mem_nil
  · simp only [bind_eq_ok, pure_eq_ok, Except.ok.injEq] at h
    obtain ⟨reports, read, rfl⟩ := h
    have listed := mem_sortedBy.mp (List.mem_of_mem_take hreport)
    obtain ⟨row, hrow, read⟩ := forall₂_mem_right (mapAll_eq_ok.mp read) report listed
    obtain ⟨stored, selected⟩ := List.mem_filter.mp hrow
    exact ⟨row, stored, of_decide_eq_true selected, read⟩

/-! ### The two selections -/

lemma nearThreshold_le {d : Decimal} :
    nearThreshold.le d = true ↔ d.isFinite = true ∧ 17 / 20 ≤ d.value := by
  have value : nearThreshold.value = 17 / 20 := by
    norm_num [nearThreshold, Decimal.value, Decimal.signed]
  have finite : nearThreshold.isFinite = true := rfl
  rw [Decimal.le, value, finite, Bool.true_and, Bool.and_eq_true, decide_eq_true_eq]

lemma defaultThreshold_le {d : Decimal} :
    defaultThreshold.le d = true ↔ d.isFinite = true ∧ 1 / 2 ≤ d.value := by
  have value : defaultThreshold.value = 1 / 2 := by
    norm_num [defaultThreshold, Decimal.value, Decimal.signed]
  have finite : defaultThreshold.isFinite = true := rfl
  rw [Decimal.le, value, finite, Bool.true_and, Bool.and_eq_true, decide_eq_true_eq]

/-- The comprehension goes into the precedents that qualify for the gate. -/
lemma qualifyingPrecedent_iff {s : EvaluationSnapshot} {p : PrecedentRef} (listed : p ∈ s.precedents) :
    qualifyingPrecedent s.proposal p = true ↔ Qualifies s p := by
  rw [Qualifies, and_iff_right listed, SameKeys, Near]
  cases similarity : p.similarity with
  | none => simp [qualifyingPrecedent, similarity]
  | some d => simp [qualifyingPrecedent, similarity, nearThreshold_le, and_assoc]

lemma mem_qualifyingIds {s : EvaluationSnapshot} (fin : FiniteDivergence s) {id : String} :
    id ∈ qualifyingIds s.proposal s.precedents ↔ ∃ p, Qualifies s p ∧ ∃ r ∈ p.consequenceRefs,
      r.receiptTerminalStatus = .observed ∧ 1 / 2 ≤ r.divergence.value ∧ r.consequenceId = id := by
  simp only [qualifyingIds, List.mem_map, List.mem_filter, List.mem_flatMap, qualifyingConsequence,
    Bool.and_eq_true, beq_iff_eq, defaultThreshold_le]
  constructor
  · rintro ⟨r, ⟨⟨p, ⟨listed, qualifies⟩, hr⟩, observed, -, high⟩, id⟩
    exact ⟨p, (qualifyingPrecedent_iff listed).mp qualifies, r, hr, observed, high, id⟩
  · rintro ⟨p, qualifies, r, hr, observed, high, id⟩
    exact ⟨r, ⟨⟨p, ⟨qualifies.1, (qualifyingPrecedent_iff qualifies.1).mpr qualifies⟩, hr⟩, observed,
      fin p qualifies.1 r hr, high⟩, id⟩

section
variable [Platform] {s : EvaluationSnapshot} {c : RuleConfig} {r : CheckResult}

omit [Platform] in
lemma finiteDivergence_canonical (fin : FiniteDivergence (canonicalSnapshot s)) : FiniteDivergence s :=
  fun p hp r hr => fin _ (mem_precedents_canonical.mpr ⟨p, hp, rfl⟩) r
    (by simpa [canonicalPrecedent] using hr)

/-- A finalized evaluation has found the reports of the approved precedents observed. -/
lemma evaluateProposal_observed (h : evaluateProposal s c = .ok (.check r)) {p : PrecedentRef}
    (approved : Approved s p) : ∀ r ∈ p.consequenceRefs, r.receiptTerminalStatus = .observed := by
  obtain ⟨priorId, adm, evaluated⟩ := evaluateCanonical_check.mp h
  obtain ⟨pinned, -⟩ := admit_facts adm
  obtain ⟨f, hf⟩ : ∃ f, collectFindings (canonicalSnapshot s) c priorId = .ok f := by
    obtain ⟨f, _, hf, -⟩ := evaluateAdmitted_reduction evaluated
    exact ⟨f, hf⟩
  obtain ⟨bound, -⟩ := (collect_ok_iff priorId).mp ⟨f, hf⟩
  intro r hr
  have report : (canonicalPrecedent p, r) ∈ consequenceReports (canonicalSnapshot s) c :=
    (mem_consequenceReports pinned).mpr
      ⟨approved_canonical.mpr ⟨p, approved, rfl⟩, by simpa [canonicalPrecedent] using hr⟩
  have checked := bound _ report
  simp only [consequenceBound, Bool.and_eq_true, beq_iff_eq] at checked
  exact checked.1

/-- The warnings of a finalized evaluation are its high reports of approved precedents. -/
lemma evaluateProposal_warnings (h : evaluateProposal s c = .ok (.check r)) {id : String} :
    id ∈ r.consequenceWarningRefs ↔ ∃ p, Approved s p ∧
      ∃ r ∈ p.consequenceRefs, 1 / 2 ≤ r.divergence.value ∧ r.consequenceId = id := by
  obtain ⟨priorId, adm, evaluated⟩ := evaluateCanonical_check.mp h
  obtain ⟨pinned, fin⟩ := admit_facts adm
  have listed : r.consequenceWarningRefs =
      sortedBy (fun x => x) (consequenceWarnings (canonicalSnapshot s) c) := by
    simp only [evaluateAdmitted, bind_eq_ok, pure_eq_ok, Except.ok.injEq] at evaluated
    obtain ⟨_, -, _, -, _, -, _, -, _, -, _, -, result⟩ := evaluated
    rw [← result]
    rfl
  rw [listed, mem_sortedBy, mem_consequenceWarnings pinned fin]
  exact (OpenFact.divergence id).holds_canonical

/-- When only approved precedents have reports, the warnings of a finalized evaluation are the reports
that `get_divergence_warnings` selects from the same precedents. -/
theorem evaluateProposal_qualifying (h : evaluateProposal s c = .ok (.check r))
    (receipts : ∀ p ∈ s.precedents, p.consequenceRefs ≠ [] → p.decision = some .approve)
    (id : String) :
    id ∈ r.consequenceWarningRefs ↔ id ∈ qualifyingIds s.proposal s.precedents := by
  obtain ⟨priorId, adm, -⟩ := evaluateCanonical_check.mp h
  have fin := finiteDivergence_canonical (admit_facts adm).2
  rw [evaluateProposal_warnings h, mem_qualifyingIds fin]
  refine exists_congr fun p => ?_
  constructor
  · rintro ⟨approved, r, hr, high, id⟩
    exact ⟨approved.1, r, hr, evaluateProposal_observed h approved r hr, high, id⟩
  · rintro ⟨qualifies, r, hr, -, high, id⟩
    exact ⟨⟨qualifies, receipts p qualifies.1 (List.ne_nil_of_mem hr)⟩, r, hr, high, id⟩

/-- A report at 0.75 of an approved precedent at 0.9. -/
def divergedPrecedent : PrecedentRef :=
  { proposalId := "earlier", proposalDigest := zeroDigest, actionDigest := zeroDigest,
    actionTypeKey := "set_demo_value", targetKey := "demo_kv:alpha", decision := some .approve,
    decisionId := some "decision", decisionDigest := some zeroDigest,
    similarity := some (.finite false 9 (-1)), similarityErrorCode := none,
    evaluationId := "evaluation", traceDigest := zeroDigest, receiptId := some "receipt",
    receiptDigest := some zeroDigest, receiptTerminalStatus := some .observed,
    consequenceRefs := [
      { consequenceId := "consequence", receiptId := "receipt", receiptTerminalStatus := .observed,
        receiptDigest := zeroDigest, predictedSnapshotDigest := zeroDigest,
        actualSnapshotDigest := zeroDigest, comparisonVersion := "gam-divergence/1.1",
        divergence := .finite false 75 (-2), divergenceThreshold := .finite false 5 (-1),
        reportDigest := zeroDigest }] }

omit [Platform] in
lemma diverged_value : (Decimal.finite false 75 (-2)).value = 3 / 4 := by
  norm_num [Decimal.value, Decimal.signed]

lemma diverged_valid : validatePrecedent divergedPrecedent = .ok () := by
  have fields : FieldsValid divergedPrecedent := by
    rw [PrecedentRef.fieldsValid]
    simp [divergedPrecedent, zeroDigest_hex]
  simp only [validatePrecedent, bind_eq_ok, ensure_eq_ok, exists_unit, validateFields_toValue]
  exact ⟨fields, by simp [Together, divergedPrecedent], by simp [Together, divergedPrecedent],
    .inr rfl, by simp [divergedPrecedent], rfl⟩

lemma diverged_encodes : Encodes (toValue divergedPrecedent) := by
  have similarity : Encodes (.decimal (.finite false 9 (-1))) := encodes_decimal rfl (by decide)
  have divergence : Encodes (.decimal (.finite false 75 (-2))) := encodes_decimal rfl (by decide)
  have threshold : Encodes (.decimal (.finite false 5 (-1))) := encodes_decimal rfl (by decide)
  rw [show toValue divergedPrecedent = .record _ from rfl]
  simp [divergedPrecedent, show ∀ r : ConsequenceRef, toValue r = .record _ from fun _ => rfl,
    similarity, divergence, threshold]

lemma diverged_bound : ∀ r ∈ divergedPrecedent.consequenceRefs,
    consequenceBound pinnedConfig r = true := by
  have threshold : Decimal.eqv (.finite false 5 (-1)) pinnedConfig.divergenceThreshold = true := by
    norm_num [Decimal.eqv, Decimal.isFinite, Decimal.value, Decimal.signed, pinnedConfig]
  simp [divergedPrecedent, consequenceBound, threshold]

lemma diverged_finalized : ∃ r,
    evaluateProposal (firstSnapshot [] [divergedPrecedent] [] []) pinnedConfig = .ok (.check r) :=
  Proper.finalized
    { ruleOrder := rfl
      refOrder := rfl
      exclusionOrder := rfl
      precedentOrder := rfl
      few := by decide
      valid := List.forall_mem_singleton.mpr diverged_valid
      encodes := List.forall_mem_singleton.mpr diverged_encodes
      bound := List.forall_mem_singleton.mpr diverged_bound
      fields := fun _ h => absurd h List.not_mem_nil
      checked := rfl }

lemma diverged_approved : Approved (firstSnapshot [] [divergedPrecedent] [] []) divergedPrecedent := by
  have similarity : (Decimal.finite false 9 (-1)).value = 9 / 10 := by
    norm_num [Decimal.value, Decimal.signed]
  refine ⟨⟨List.mem_cons_self, ⟨_, rfl, rfl, ?_⟩, rfl, rfl⟩, rfl⟩
  rw [similarity]
  norm_num

end

/-- The gate warns of the report of the precedent, and so does the retrieval. -/
theorem evaluateProposal_qualifying_one :
    let _ := asciiPlatform
    let s := firstSnapshot [] [divergedPrecedent] [] []
    ∃ r, evaluateProposal s pinnedConfig = .ok (.check r) ∧ "consequence" ∈ r.consequenceWarningRefs ∧
      "consequence" ∈ qualifyingIds s.proposal s.precedents := by
  intro _ s
  obtain ⟨r, hr⟩ := diverged_finalized
  have warned : "consequence" ∈ r.consequenceWarningRefs :=
    (evaluateProposal_warnings hr).mpr ⟨_, diverged_approved, _, List.mem_cons_self,
      diverged_value ▸ by norm_num, rfl⟩
  refine ⟨r, hr, warned, (evaluateProposal_qualifying hr ?_ "consequence").mp warned⟩
  intro p hp _
  obtain rfl := List.mem_singleton.mp hp
  rfl

end GAM
