import GAM.Consequences.Divergence
import GAM.Consequences.ReadBack

/-!
# Reports and their keys

The row of a committed report is read as the report, and the key of a report answers for it ever
after: a call that repeats the receipt, the observation, the reporter and the outcome up to its text
returns the report, and any other call with the key is refused.
-/

namespace GAM
open Lib

section
variable [Platform] {ctx : Context} {context : ReceiptContext} {report : ConsequenceReport}
variable {consequenceId actualText reportedBy key : String} {observationNumber : Int}

/-- What is known of a report that was built. -/
structure Reported (context : ReceiptContext) (consequenceId : String) (observationNumber : Int)
    (actualText reportedBy key : String) (report : ConsequenceReport) : Prop where
  consequence : report.consequenceId = consequenceId
  proposal : report.proposalId = context.receipt.proposalId
  receipt : report.receiptId = context.receipt.receiptId
  observation : report.observationNumber = observationNumber
  predicted : outcomeText context.predictedOutcome = .ok report.predictedOutcomeJson
  actual : report.actualOutcomeJson = actualText
  leaves : ∃ leaves : List DivergenceLeaf,
    canonicalJson (.tuple (leaves.map toValue)) = .ok report.leafReportJson
  score : ∃ q, report.divergenceScore = sixPlaces q
  threshold : report.divergenceThreshold = defaultThreshold
  reporter : report.reportedBy = reportedBy
  idempotency : report.idempotencyKey = key
  digest : reportRecordDigest report = .ok report.reportDigest

/-- What building a report gives. -/
lemma buildReport_reported (h : buildReport ctx consequenceId context observationNumber actualText
      reportedBy key = .ok report) :
    Reported context consequenceId observationNumber actualText reportedBy key report := by
  obtain ⟨_, _, h⟩ := bind_eq_ok.mp h
  obtain ⟨_, _, h⟩ := bind_eq_ok.mp h
  obtain ⟨_, _, h⟩ := bind_eq_ok.mp h
  obtain ⟨predictedText, predicted, h⟩ := bind_eq_ok.mp h
  obtain ⟨divergence, compared, h⟩ := bind_eq_ok.mp h
  obtain ⟨leaves, encoded, h⟩ := bind_eq_ok.mp h
  obtain ⟨digest, record, h⟩ := bind_eq_ok.mp h
  cases h
  obtain ⟨-, _, _, -, -, -, -, -, -, -, threshold⟩ := compareJson_ok.mp compared
  exact { consequence := rfl, proposal := rfl, receipt := rfl, observation := rfl,
          predicted := predicted, actual := rfl, leaves := ⟨_, encoded⟩, score := ⟨_, rfl⟩,
          threshold := threshold, reporter := rfl, idempotency := rfl, digest := record }

/-- A report that was read has the outcome text of its column. -/
lemma reportFromRow_actual {row : ConsequenceRow} (h : reportFromRow row = .ok report) :
    outcomeText row.actualOutcome = .ok report.actualOutcomeJson := by
  obtain ⟨_, _, h⟩ := bind_eq_ok.mp h
  obtain ⟨actual, text, h⟩ := bind_eq_ok.mp h
  obtain ⟨_, _, h⟩ := bind_eq_ok.mp h
  obtain ⟨_, _, h⟩ := bind_eq_ok.mp h
  obtain ⟨_, _, h⟩ := bind_eq_ok.mp h
  cases h
  exact text

/-- The row of a report whose texts are delivered as they were written is read as the report. -/
lemma reportFromRow_args (digest : reportRecordDigest report = .ok report.reportDigest)
    (predicted : outcomeText report.predictedOutcomeJson = .ok report.predictedOutcomeJson)
    (actual : outcomeText report.actualOutcomeJson = .ok report.actualOutcomeJson)
    (leaves : leafText report.leafReportJson = .ok report.leafReportJson) :
    reportFromRow (consequenceArgs report) = .ok report := by
  have same (r : ConsequenceReport) (h : r = report) : (do
      let digest ← reportRecordDigest r
      ensure (r.reportDigest = digest) (.integrity "stored consequence report digest mismatch")
      return r) = .ok report := by
    rw [h, digest]
    simp [ensure]
  have row := consequenceArgs report
  simp only [reportFromRow, consequenceArgs, predicted, actual, leaves]
  exact same _ rfl

end

section
variable [ColumnTypes] {context : ReceiptContext} {report : ConsequenceReport}

lemma decimal_fixed {d column : Decimal} (h : ColumnTypes.decimal d = .ok column)
    (places : ∃ coeff, d = .finite false coeff (-6)) : column = d := by
  obtain ⟨coeff, rfl⟩ := places
  exact ColumnTypes.decimal_places h

/-- The columns deliver the values of a report that was built as they were written. -/
lemma castConsequence_args {row : ConsequenceRow}
    (h : castConsequence (consequenceArgs report) = .ok row)
    (ids : isUuid report.consequenceId = true ∧ isUuid report.proposalId = true ∧
      isUuid report.receiptId = true)
    (predicted : castJsonb report.predictedOutcomeJson = .ok report.predictedOutcomeJson)
    (actual : castJsonb report.actualOutcomeJson = .ok report.actualOutcomeJson)
    (leaves : castJsonb report.leafReportJson = .ok report.leafReportJson)
    (score : ∃ q, report.divergenceScore = sixPlaces q)
    (threshold : report.divergenceThreshold = defaultThreshold) :
    row = consequenceArgs report := by
  obtain ⟨q, score⟩ := score
  simp only [castConsequence, bind_eq_ok, pure_eq_ok] at h
  obtain ⟨_, id, _, proposal, _, receipt, _, predictedColumn, _, actualColumn, _, leafColumn, _,
    scoreColumn, _, thresholdColumn, h⟩ := h
  have id := Except.ok.inj ((castUuid_self ids.1).symm.trans id)
  have proposal := Except.ok.inj ((castUuid_self ids.2.1).symm.trans proposal)
  have receipt := Except.ok.inj ((castUuid_self ids.2.2).symm.trans receipt)
  have predicted := Except.ok.inj (predicted.symm.trans predictedColumn)
  have actual := Except.ok.inj (actual.symm.trans actualColumn)
  have leaves := Except.ok.inj (leaves.symm.trans leafColumn)
  have score := decimal_fixed scoreColumn ⟨_, score⟩
  have threshold := decimal_fixed thresholdColumn ⟨_, threshold⟩
  rw [← Except.ok.inj h, ← id, ← proposal, ← receipt, ← predicted, ← actual, ← leaves, score, threshold]
  rfl

end

section
variable [ColumnTypes] {ctx : Context} {db db' : Store} {report : ConsequenceReport}
variable {consequenceId receiptId actualOutcomeJson reportedBy key : String}
variable {observationNumber : Int}

omit [ColumnTypes] in
lemma insertConsequence_rows {row : ConsequenceRow} (h : insertConsequence db row = .ok db') :
    db'.consequences = db.consequences ++ [row] := by
  simp only [insertConsequence, bind_eq_ok, pure_eq_ok] at h
  obtain ⟨_, _, _, _, _, _, _, _, _, _, _, _, h⟩ := h
  rw [← Except.ok.inj h]

/-- A committed report, step by step: its outcome text, its receipt and its row. -/
lemma reportConsequence_committed
    (h : reportConsequence ctx db consequenceId receiptId observationNumber actualOutcomeJson
      reportedBy key = .ok (report, db'))
    (committed : db'.consequences ≠ db.consequences) :
    (0 < observationNumber ∧ reportedBy ≠ "" ∧ key ≠ "") ∧
      (∀ row ∈ db.consequences, row.idempotencyKey ≠ key) ∧
      ∃ actualText context row, outcomeText actualOutcomeJson = .ok actualText ∧
        receiptContext db.toDatabase receiptId = some context ∧
        Reported context consequenceId observationNumber actualText reportedBy key report ∧
        castConsequence (consequenceArgs report) = .ok row ∧
        db'.consequences = db.consequences ++ [row] := by
  rw [reportConsequence, bind_eq_ok] at h
  obtain ⟨_, valid, h⟩ := h
  obtain ⟨actualText, text, h⟩ := bind_eq_ok.mp h
  split at h
  · -- a row with the key answers, and nothing is appended
    obtain ⟨_, _, h⟩ := bind_eq_ok.mp h
    obtain ⟨_, _, h⟩ := bind_eq_ok.mp h
    cases h
    exact absurd rfl committed
  · rename_i unused
    split at h
    · cases h
    · rename_i context found
      obtain ⟨built, building, h⟩ := bind_eq_ok.mp h
      obtain ⟨⟨_, after⟩, append, h⟩ := bind_eq_ok.mp h
      cases h
      have reported := buildReport_reported building
      rw [appendConsequence, bind_eq_ok] at append
      obtain ⟨_, _, append⟩ := append
      rw [reported.idempotency, unused] at append
      obtain ⟨row, cast, append⟩ := bind_eq_ok.mp append
      obtain ⟨_, insert, append⟩ := bind_eq_ok.mp append
      cases append
      refine ⟨ensure_eq_ok.mp valid, ?_, actualText, context, row, text, found, reported, cast, ?_⟩
      · intro row hr e
        have := List.find?_eq_none.mp unused row hr
        rw [decide_eq_true_eq] at this
        exact this e
      · exact insertConsequence_rows insert

omit [ColumnTypes] in
/-- The receipt that the query joins is a row, with the id asked for. -/
lemma receiptContext_rows {db : Database} {context : ReceiptContext}
    (h : receiptContext db receiptId = some context) :
    context.receipt ∈ db.receipts ∧ context.receipt.receiptId = receiptId := by
  simp only [receiptContext, Option.bind_eq_bind, Option.bind_eq_some_iff] at h
  obtain ⟨receipt, found, _, _, _, _, _, _, _, _, h⟩ := h
  cases h
  have key : receipt.receiptId = receiptId := by simpa using List.find?_some found
  exact ⟨List.mem_of_find?_eq_some found, key⟩

omit [ColumnTypes] in
/-- The row that answers for a key from its commit on. -/
lemma find_committed {later : Store} {row : ConsequenceRow}
    (unused : ∀ r ∈ db.consequences, r.idempotencyKey ≠ key)
    (commit : db'.consequences = db.consequences ++ [row]) (stored : row.idempotencyKey = key)
    (kept : db'.consequences <+: later.consequences) :
    later.consequences.find? (fun r => r.idempotencyKey = key) = some row := by
  obtain ⟨rest, e⟩ := kept
  have before : db.consequences.find? (fun r => r.idempotencyKey = key) = none := by
    refine List.find?_eq_none.mpr fun r hr => ?_
    rw [decide_eq_true_eq]
    exact unused r hr
  rw [← e, commit, List.append_assoc, List.find?_append, before, List.singleton_append]
  simp [stored]

/-- A call whose key has a row is answered from the row. -/
lemma reportConsequence_answered {row : ConsequenceRow} {actualText : String}
    (valid : 0 < observationNumber ∧ reportedBy ≠ "" ∧ key ≠ "")
    (text : outcomeText actualOutcomeJson = .ok actualText)
    (answer : db.consequences.find? (fun r => r.idempotencyKey = key) = some row)
    (read : reportFromRow row = .ok report) :
    reportConsequence ctx db consequenceId receiptId observationNumber actualOutcomeJson reportedBy
      key = (do
        ensure (report.receiptId = receiptId ∧ report.observationNumber = observationNumber ∧
            report.actualOutcomeJson = actualText ∧ report.reportedBy = reportedBy)
          (.conflict "consequence idempotency key conflicts")
        return (report, db)) := by
  rw [reportConsequence, ensure_pos valid, text]
  simp only [ok_bind, answer, read]

/-- A committed report is read back from its row. From then on the same call, up to the text of the
outcome, returns the report and appends nothing, and every other call with the key raises: the
conflict, when its arguments pass the checks that come before the key. -/
theorem reportConsequence_replay
    (h : reportConsequence ctx db consequenceId receiptId observationNumber actualOutcomeJson
      reportedBy key = .ok (report, db'))
    (committed : db'.consequences ≠ db.consequences) (uuid : isUuid consequenceId = true)
    (columns : ∀ r ∈ db.receipts, isUuid r.receiptId = true ∧ isUuid r.proposalId = true)
    (predicted : ∀ context, receiptContext db.toDatabase receiptId = some context →
      Unsigned context.predictedOutcome)
    (actual : Unsigned actualOutcomeJson) :
    (∃ row, db'.consequences = db.consequences ++ [row] ∧ reportFromRow row = .ok report) ∧
      ∀ (ctx' : Context) (later : Store) (newId : String),
        db'.consequences <+: later.consequences →
        (∀ text, outcomeText text = outcomeText actualOutcomeJson →
          reportConsequence ctx' later newId receiptId observationNumber text reportedBy key =
            .ok (report, later)) ∧
        ∀ otherReceipt otherNumber otherText otherReporter,
          ¬(otherReceipt = receiptId ∧ otherNumber = observationNumber ∧
            outcomeText otherText = outcomeText actualOutcomeJson ∧ otherReporter = reportedBy) →
          ∃ e, reportConsequence ctx' later newId otherReceipt otherNumber otherText otherReporter
              key = .error e ∧
            (0 < otherNumber → otherReporter ≠ "" → (∃ t, outcomeText otherText = .ok t) →
              e = .conflict "consequence idempotency key conflicts") := by
  obtain ⟨valid, unused, actualText, context, row, text, found, reported, cast, commit⟩ :=
    reportConsequence_committed h committed
  obtain ⟨member, receipt⟩ := receiptContext_rows found
  have ids := columns _ member
  -- the three JSON columns are read back as they were written
  obtain ⟨predictedColumn, predictedAgain⟩ :=
    outcomeText_again reported.predicted (predicted _ found)
  obtain ⟨actualColumn, actualAgain⟩ := outcomeText_again text actual
  rw [← reported.actual] at actualColumn actualAgain
  obtain ⟨leaves, encoded⟩ := reported.leaves
  obtain ⟨leafColumn, leafAgain⟩ := leafText_again encoded
  have uuids : isUuid report.consequenceId = true ∧ isUuid report.proposalId = true ∧
      isUuid report.receiptId = true := by
    rw [reported.consequence, reported.proposal, reported.receipt]
    exact ⟨uuid, ids.2, ids.1⟩
  have stored := castConsequence_args cast uuids predictedColumn actualColumn leafColumn
    reported.score reported.threshold
  have read : reportFromRow row = .ok report := by
    rw [stored]
    exact reportFromRow_args reported.digest predictedAgain actualAgain leafAgain
  refine ⟨⟨row, commit, read⟩, fun ctx' later newId kept => ?_⟩
  -- a key is answered with its first row, which every later store keeps
  have answer := find_committed unused commit
    (by rw [stored]; exact reported.idempotency) kept
  constructor
  · intro text' same
    have matches' := And.intro reported.receipt (And.intro reported.observation
      (And.intro reported.actual reported.reporter))
    rw [receipt] at matches'
    rw [reportConsequence_answered valid (same.trans text) answer read, ensure_pos matches']
    rfl
  · intro otherReceipt otherNumber otherText otherReporter other
    -- the checks that come before the key is looked up
    by_cases arguments : 0 < otherNumber ∧ otherReporter ≠ "" ∧ key ≠ ""
    · cases parsed : outcomeText otherText with
      | error err =>
        refine ⟨err, ?_, fun _ _ ⟨_, ht⟩ => nomatch ht⟩
        rw [reportConsequence, ensure_pos arguments, parsed]
        rfl
      | ok otherActual =>
        have differs : ¬(report.receiptId = otherReceipt ∧ report.observationNumber = otherNumber ∧
            report.actualOutcomeJson = otherActual ∧ report.reportedBy = otherReporter) := by
          rintro ⟨rfl, rfl, rfl, rfl⟩
          rw [reported.receipt, receipt, reported.observation, reported.reporter, parsed, text,
            reported.actual] at other
          exact other ⟨rfl, rfl, rfl, rfl⟩
        refine ⟨.conflict "consequence idempotency key conflicts", ?_, fun _ _ _ => rfl⟩
        rw [reportConsequence_answered arguments parsed answer read, ensure_neg differs]
        rfl
    · refine ⟨.integrity "consequence identity fields are invalid", ?_, fun number reporter _ => ?_⟩
      · rw [reportConsequence, ensure_neg arguments]
        rfl
      · exact absurd ⟨number, reporter, valid.2.2⟩ arguments

end

/-! ### A report -/

/-- The receipt of an observed effect. -/
def observedReceipt (digest : String) : ExecutionReceipt where
  receiptId := "00000000-0000-0000-0000-000000000006"
  attemptId := "00000000-0000-0000-0000-000000000005"
  attemptDigest := zeroDigest
  proposalId := "00000000-0000-0000-0000-000000000001"
  evaluationId := "00000000-0000-0000-0000-000000000002"
  evaluationTraceDigest := zeroDigest
  decisionId := "00000000-0000-0000-0000-000000000003"
  decisionValue := .approve
  decisionDigest := zeroDigest
  actionDigest := zeroDigest
  targetKey := "demo_kv:key"
  attemptTerminalStatus := .observed
  outcomeDigest := zeroDigest
  beforeEffectDigest := zeroDigest
  afterEffectDigest := some zeroDigest
  observedEffectVersion := some 1
  executorId := "executor"
  idempotencyKey := "execution"
  verified := true
  receiptDigest := digest

/-- A proposal, its approved evaluation, the observed effect and its receipt. -/
def observedStore (digest : String) : Store where
  proposals := [
    { id := "00000000-0000-0000-0000-000000000001", parentProposalId := none,
      sourceModifyDecisionId := none, sourceModifyDecisionValue := none, agentId := "agent",
      sessionId := "session", actionType := "SET_DEMO_VALUE", actionTypeKey := "set_demo_value",
      target := "demo_kv:key", targetKey := "demo_kv:key", reasoning := "reasoning",
      purpose := "purpose", parameters := "\x7b\"value\":true\x7d", impactAssessment := "\x7b\x7d",
      predictedOutcome := "null", evidence := "[]", dependencies := "[]", embedding := "[]",
      embeddingModel := "text-embedding-3-small", embeddingInputDigest := zeroDigest,
      actionDigest := zeroDigest, proposalDigest := zeroDigest }]
  evaluations := [
    { id := "00000000-0000-0000-0000-000000000002",
      proposalId := "00000000-0000-0000-0000-000000000001", priorEvaluationId := none,
      evaluatorVersion := "evaluator", ruleConfigDigest := zeroDigest, inputSnapshot := "\x7b\x7d",
      inputSnapshotDigest := zeroDigest, profileVersion := none, policySnapshot := "\x7b\x7d",
      policyDigest := zeroDigest, verdict := some .yes, risk := some .low, operatorTrace := "[]",
      evidenceGaps := "[]", dependencies := "[]", precedentRefs := "[]",
      consequenceWarningRefs := "[]", changedFactRuleIds := "[]", becauseStepId := some "step",
      traceDigest := zeroDigest, status := .finalized, blockedReason := none }]
  decisions := [
    { decisionId := "00000000-0000-0000-0000-000000000003",
      proposalId := "00000000-0000-0000-0000-000000000001",
      evaluationId := "00000000-0000-0000-0000-000000000002", evaluationTraceDigest := zeroDigest,
      decision := .approve, decidedBy := "decider", rationale := "rationale",
      conditionsJson := "\x7b\x7d", decisionDigest := zeroDigest, idempotencyKey := "decision" }]
  attempts := [
    { attemptId := "00000000-0000-0000-0000-000000000005",
      proposalId := "00000000-0000-0000-0000-000000000001",
      evaluationId := "00000000-0000-0000-0000-000000000002", evaluationTraceDigest := zeroDigest,
      decisionId := "00000000-0000-0000-0000-000000000003", decisionValue := .approve,
      decisionDigest := zeroDigest, actionTypeKey := "set_demo_value", actionDigest := zeroDigest,
      targetKey := "demo_kv:key", effectKey := "key", requestedValueJson := "true",
      startedAt := "0", finishedAt := "1", terminalStatus := .observed,
      demoEffectId := some "00000000-0000-0000-0000-000000000004", beforeEffectDigest := zeroDigest,
      afterEffectDigest := some zeroDigest, observedEffectVersion := some 1,
      outcomeJson := "\x7b\x7d", outcomeDigest := zeroDigest, attemptDigest := zeroDigest,
      executorId := "executor", idempotencyKey := "execution", errorCode := none,
      safeMessage := none }]
  receipts := [observedReceipt digest]

/-- What the query joins to the receipt. -/
def observedContext (digest : String) : ReceiptContext where
  receipt := observedReceipt digest
  predictedOutcome := "null"
  evaluationStatus := .finalized
  demoEffectId := some "00000000-0000-0000-0000-000000000004"

lemma observedStore_context (digest : String) :
    receiptContext (observedStore digest).toDatabase "00000000-0000-0000-0000-000000000006" =
      some (observedContext digest) := by
  simp [receiptContext, observedStore, observedReceipt, observedContext]

/-- The report of an outcome of another kind where `null` was predicted. -/
def observedReport (outcome receipt predicted actual leaves digest : String) :
    ConsequenceReport where
  consequenceId := "00000000-0000-0000-0000-000000000007"
  proposalId := "00000000-0000-0000-0000-000000000001"
  receiptId := "00000000-0000-0000-0000-000000000006"
  receiptTerminalStatus := .observed
  receiptDigest := receipt
  observationNumber := 1
  predictedSnapshotDigest := predicted
  actualSnapshotDigest := actual
  comparisonVersion := "json-divergence-v1"
  predictedOutcomeJson := "null"
  actualOutcomeJson := outcome
  leafReportJson := leaves
  divergenceScore := sixPlaces 1
  divergenceThreshold := defaultThreshold
  divergenceSummary := "MORE"
  reportedBy := "reporter"
  reportDigest := digest
  idempotencyKey := "key"

/-- Observing an outcome of another kind where `null` was predicted is reported. -/
lemma observed_reported {text outcome : String} {value : Value} :
    let _ := asciiColumns
    outcomeText text = .ok outcome → parseOutcome outcome = .ok value → Encodes value →
      compare .default .none value "" = .ok [⟨"", true, true, .typeMismatch, 1⟩] →
      castJsonb outcome = .ok outcome →
    ∃ digest report db, reportConsequence .default (observedStore digest)
        "00000000-0000-0000-0000-000000000007" "00000000-0000-0000-0000-000000000006" 1 text
        "reporter" "key" = .ok (report, db) ∧ db.consequences = [consequenceArgs report] ∧
          report.actualOutcomeJson = outcome := by
  intro _ text actual encodes leaves column
  have receiptOk : ∃ digest, GAM.receiptDigest (observedReceipt "") = .ok digest := by
    refine Encodes.digest ((encodes_dict (by decide) (by decide)).mpr ?_)
    simp [observedReceipt, toValue]
  obtain ⟨digest, receipt⟩ := receiptOk
  have receipt : GAM.receiptDigest (observedReceipt digest) = .ok digest := receipt
  have found := observedStore_context digest
  have predicted : parseOutcome "null" = .ok .none :=
    parseOutcome_tree (Json.parse_print .null) (by simp [Json.parts, Keyed]) (by simp [Json.parts])
  obtain ⟨d, hd⟩ := @Encodes.digest _ .none (by simp)
  obtain ⟨e, he⟩ := encodes.digest
  have range : 0 ≤ defaultThreshold.value ∧ defaultThreshold.value ≤ 1 := by
    norm_num [defaultThreshold, Decimal.value, Decimal.signed]
  -- one leaf at the root, of another type, so the score is one
  have compared : compareJson .default "null" outcome defaultThreshold =
      .ok ⟨"json-divergence-v1", d, e, _, 1, defaultThreshold⟩ :=
    compareJson_ok.mpr ⟨⟨rfl, range⟩, _, _, predicted, actual, leaves, averageScore_one, hd, he, rfl,
      rfl⟩
  have score : Encodes (.decimal (sixPlaces 1)) := encodes_decimal rfl (by decide +kernel)
  have threshold : Encodes (.decimal defaultThreshold) := encodes_decimal rfl (by decide +kernel)
  obtain ⟨leafUnicode, leafJson, leafTree⟩ : Encodes
      (.tuple [toValue (⟨"", true, true, .typeMismatch, 1⟩ : DivergenceLeaf)]) := by
    have one : Encodes (.decimal (decimalOf 1)) := encodes_decimal rfl (by decide +kernel)
    simp [toValue, one]
  have encoded : dump
      (.tuple [toValue (⟨"", true, true, .typeMismatch, 1⟩ : DivergenceLeaf)]) =
        .ok leafJson.dumps := by
    rw [dump, canonicalJson_eq_ok]
    exact ⟨leafUnicode, _, leafTree, rfl⟩
  obtain ⟨reportDigest, hr⟩ := reportRecordDigest_ok
    (r := observedReport outcome digest d e leafJson.dumps zeroDigest) score threshold
  have record : reportRecordDigest (observedReport outcome digest d e leafJson.dumps reportDigest) =
      .ok reportDigest := hr
  -- each check of the builder in its order
  have built : buildReport .default "00000000-0000-0000-0000-000000000007" (observedContext digest) 1
        outcome "reporter" "key" =
      .ok (observedReport outcome digest d e leafJson.dumps reportDigest) := by
    have prediction : outcomeText "null" = .ok "null" := by
      rw [outcomeText, predicted]
      rfl
    have bound : (observedReceipt digest).receiptDigest = digest := rfl
    rw [buildReport, observedContext, receipt, ok_bind, ensure_pos bound, ok_bind,
      ensure_pos ⟨rfl, rfl, Option.some_ne_none _, Option.some_ne_none _, Option.some_ne_none _, rfl⟩,
      ok_bind, prediction, ok_bind, compared, ok_bind, List.map_singleton, show canonicalJson _ = _ from encoded, ok_bind]
    simp only [if_pos range.2]
    change (reportRecordDigest (observedReport outcome digest d e leafJson.dumps zeroDigest) >>= _) = _
    rw [hr]
    rfl
  have valid : validateReport (observedReport outcome digest d e leafJson.dumps reportDigest) = .ok () := by
    have observed : (observedReport outcome digest d e leafJson.dumps reportDigest).receiptTerminalStatus =
        .observed ∧ (0 : Int) < 1 := ⟨rfl, by decide⟩
    have own : (observedReport outcome digest d e leafJson.dumps reportDigest).reportDigest = reportDigest :=
      rfl
    rw [validateReport, record]
    exact (congrArg (· >>= _) (ensure_pos observed)).trans (ensure_pos own)
  have id1 : isUuid "00000000-0000-0000-0000-000000000001" = true := by decide
  have id6 : isUuid "00000000-0000-0000-0000-000000000006" = true := by decide
  have id7 : isUuid "00000000-0000-0000-0000-000000000007" = true := by decide
  have nullColumn : castJsonb "null" = .ok "null" :=
    castJsonb_ok.mpr ⟨_, Json.parse_print .null, rfl, rfl⟩
  have columns : castConsequence (consequenceArgs
      (observedReport outcome digest d e leafJson.dumps reportDigest)) =
        .ok (consequenceArgs (observedReport outcome digest d e leafJson.dumps reportDigest)) := by
    simp only [castConsequence, consequenceArgs, observedReport, castUuid_self id1,
      castUuid_self id6, castUuid_self id7, nullColumn, column, castJsonb_dump encoded, ok_bind]
    rfl
  -- the table's checks, its keys and its references; the tables are empty but for the receipt
  have insert : insertConsequence (observedStore digest)
      (consequenceArgs (observedReport outcome digest d e leafJson.dumps reportDigest)) =
        .ok { observedStore digest with
              consequences := [consequenceArgs
                (observedReport outcome digest d e leafJson.dumps reportDigest)] } := by
    have lengths {v : Value} {t : String} (h : canonicalSha256 v = .ok t) : isDigestLength t = true :=
      isDigestLength_of_hex (canonicalSha256_hex h)
    have one : (sixPlaces 1).value = 1 := by
      norm_num [sixPlaces, Decimal.value, Decimal.signed]
    have half : defaultThreshold.value = 1 / 2 := by
      norm_num [defaultThreshold, Decimal.value, Decimal.signed]
    have none (r : ConsequenceRow) : r ∉ ([] : List ConsequenceRow) := List.not_mem_nil
    simp only [insertConsequence, bind_eq_ok, ensure_eq_ok, exists_unit, pure_eq_ok]
    refine ⟨⟨rfl, Int.one_pos⟩, jsonbTypeof_tuple encoded, ⟨rfl, ?_, ?_, rfl, half⟩,
      ⟨lengths hr, lengths hd, lengths he, lengths receipt⟩,
      ⟨fun r hr => absurd hr (none r), fun r hr => absurd hr (none r),
        fun r hr => absurd hr (none r)⟩,
      ⟨⟨_, List.mem_singleton_self _, rfl⟩, ⟨_, List.mem_singleton_self _, rfl⟩⟩, rfl⟩
    · exact one.symm ▸ zero_le_one
    · exact one.symm ▸ le_refl _
  have append : appendConsequence (observedStore digest)
      (observedReport outcome digest d e leafJson.dumps reportDigest) =
        .ok ("00000000-0000-0000-0000-000000000007",
          { observedStore digest with
            consequences := [consequenceArgs
              (observedReport outcome digest d e leafJson.dumps reportDigest)] }) := by
    rw [appendConsequence, valid]
    change (castConsequence _ >>= _) = _
    rw [columns]
    change (insertConsequence _ _ >>= _) = _
    rw [insert]
    rfl
  refine ⟨digest, observedReport outcome digest d e leafJson.dumps reportDigest,
    { observedStore digest with
      consequences := [consequenceArgs (observedReport outcome digest d e leafJson.dumps reportDigest)] },
    ?_, rfl, rfl⟩
  rw [reportConsequence, ensure_pos ⟨by decide, by decide, by decide⟩, ok_bind, text, ok_bind]
  have empty : (observedStore digest).consequences = [] := rfl
  simp only [empty, List.find?_nil, found, built, append, ok_bind]
  rfl

/-- Observing `true` is reported. -/
lemma true_reported :
    let _ := asciiColumns
    ∃ digest report db, reportConsequence .default (observedStore digest)
        "00000000-0000-0000-0000-000000000007" "00000000-0000-0000-0000-000000000006" 1 "true"
        "reporter" "key" = .ok (report, db) ∧ db.consequences ≠ [] := by
  intro _
  have actual : parseOutcome "true" = .ok (.bool true) :=
    parseOutcome_tree (Json.parse_print (.bool true)) (by simp [Json.parts, Keyed])
      (by simp [Json.parts])
  have leaves : compare .default .none (.bool true) "" =
      .ok [⟨"", true, true, .typeMismatch, 1⟩] := by
    rw [compare_mismatch (by simp) (by simp) (by simp) (by simp) (by simp) (by simp) (by simp)]
    rfl
  have text : outcomeText "true" = .ok "true" := by
    rw [outcomeText, actual]
    rfl
  obtain ⟨digest, report, db, run, rows, -⟩ := observed_reported text actual (by simp) leaves
    (castJsonb_ok.mpr ⟨_, Json.parse_print (.bool true), rfl, rfl⟩)
  exact ⟨digest, report, db, run, rows ▸ List.cons_ne_nil _ _⟩

/-- The report of `true` is read back, and its key answers again. -/
theorem reportConsequence_replay_true :
    let _ := asciiColumns
    ∃ report db, (∃ row ∈ db.consequences, reportFromRow row = .ok report) ∧
      reportConsequence .default db "00000000-0000-0000-0000-000000000008"
        "00000000-0000-0000-0000-000000000006" 1 "true" "reporter" "key" = .ok (report, db) := by
  intro _
  obtain ⟨digest, report, db, run, committed⟩ := true_reported
  have unsigned {j : Json} (h : ∀ n, .num n ∉ j.parts) : Unsigned (String.ofList j.print) := by
    intro k parsed n hn
    rw [Json.parse_print, Option.some.injEq] at parsed
    rw [← parsed] at hn
    exact absurd hn (h n)
  obtain ⟨⟨row, rows, read⟩, answers⟩ := reportConsequence_replay run committed (by decide)
    (fun r hr => by
      cases List.mem_singleton.mp hr
      exact ⟨(by decide : isUuid "00000000-0000-0000-0000-000000000006" = true),
        (by decide : isUuid "00000000-0000-0000-0000-000000000001" = true)⟩)
    (fun context found => by
      cases found.symm.trans (observedStore_context digest)
      exact unsigned (j := .null) (by simp [Json.parts]))
    (unsigned (j := .bool true) (by simp [Json.parts]))
  refine ⟨report, db, ⟨row, ?_, read⟩, (answers _ db _ List.prefix_rfl).1 _ rfl⟩
  rw [rows]
  exact List.mem_append_right _ (List.mem_singleton_self row)

/-- A number that rounds to a negative zero. -/
def underflow : Number := ⟨true, 1, [], some (-1000030)⟩

/-- Observing a number that rounds to a negative zero is reported. -/
lemma underflow_reported :
    let _ := asciiColumns
    ∃ digest report db, reportConsequence .default (observedStore digest)
        "00000000-0000-0000-0000-000000000007" "00000000-0000-0000-0000-000000000006" 1
        (String.ofList underflow.print) "reporter" "key" = .ok (report, db) ∧
      db.consequences = [consequenceArgs report] ∧ report.actualOutcomeJson = "-0" := by
  intro _
  have source : Json.parse (String.ofList underflow.print) = some (.num underflow) :=
    Json.parse_print (.num underflow)
  have zero : Json.parse "-0" = some (.num ⟨true, 0, [], none⟩) :=
    Json.parse_print (.num ⟨true, 0, [], none⟩)
  have chars : decimalChars underflow = ['-', '0'] := by decide +kernel
  have text : outcomeText (String.ofList underflow.print) = .ok "-0" := by
    refine outcomeText_ok.mpr ⟨_, source, by simp [Json.parts, Keyed], ?_, ?_⟩
    · intro n hn
      simp only [Json.parts, List.mem_singleton, Json.num.injEq] at hn
      rw [hn]
      exact ⟨by decide +kernel, by decide +kernel⟩
    · change _ = String.ofList (decimalChars underflow)
      rw [chars]
  have actual : parseOutcome "-0" = .ok (.decimal (.finite true 0 0)) :=
    parseOutcome_tree zero (by simp [Json.parts, Keyed]) (by simpa [Json.parts] using by decide)
  have leaves : compare .default .none (.decimal (.finite true 0 0)) "" =
      .ok [⟨"", true, true, .typeMismatch, 1⟩] := by
    rw [compare_mismatch (by simp) (by simp) (by simp) (by simp) (by simp) (by simp) (by simp)]
    rfl
  exact observed_reported text actual (encodes_decimal rfl (by decide)) leaves
    (castJsonb_ok.mpr ⟨_, zero, rfl, rfl⟩)

/-- A used key with an observation number of zero raises the error of the arguments. And the row of
an outcome that was written as a negative zero is not read as its report. -/
theorem reportConsequence_reused :
    let _ := asciiColumns
    (∃ digest report db, reportConsequence .default (observedStore digest)
        "00000000-0000-0000-0000-000000000007" "00000000-0000-0000-0000-000000000006" 1 "true"
        "reporter" "key" = .ok (report, db) ∧ db.consequences ≠ [] ∧
      reportConsequence .default db "00000000-0000-0000-0000-000000000008"
        "00000000-0000-0000-0000-000000000006" 0 "true" "reporter" "key" =
          .error (.integrity "consequence identity fields are invalid")) ∧
    ∃ digest report db, reportConsequence .default (observedStore digest)
        "00000000-0000-0000-0000-000000000007" "00000000-0000-0000-0000-000000000006" 1
        (String.ofList underflow.print) "reporter" "key" = .ok (report, db) ∧
      db.consequences ≠ [] ∧ ∀ row ∈ db.consequences, reportFromRow row ≠ .ok report := by
  intro _
  constructor
  · obtain ⟨digest, report, db, run, committed⟩ := true_reported
    refine ⟨digest, report, db, run, committed, ?_⟩
    rw [reportConsequence, ensure_neg (by decide)]
    rfl
  · obtain ⟨digest, report, db, run, rows, outcome⟩ := underflow_reported
    refine ⟨digest, report, db, run, rows ▸ List.cons_ne_nil _ _, fun row hr read => ?_⟩
    rw [rows, List.mem_singleton] at hr
    rw [hr] at read
    have again : outcomeText "-0" = .ok "-0" := by
      have text := reportFromRow_actual read
      rwa [show (consequenceArgs report).actualOutcome = report.actualOutcomeJson from rfl, outcome]
        at text
    have zero : outcomeText "-0" = .ok "0" := by
      have parsed : Json.parse "-0" = some (.num ⟨true, 0, [], none⟩) :=
        Json.parse_print (.num ⟨true, 0, [], none⟩)
      rw [outcomeText, parseOutcome_tree parsed (by simp [Json.parts, Keyed])
        (by simpa [Json.parts] using by decide)]
      rfl
    rw [again] at zero
    exact absurd (Except.ok.inj zero) (by decide)

end GAM
