import GAM.System.Decisions
import GAM.System.DurableProposals

/-!
# Decisions that succeed

When the records that a decision is about are stored, the first decision of a store and its exclusion
pass every constraint of the schema. A proposal and its first evaluation, appended to the empty store and
read back from their rows, are such records, so that runs with decisions exist.
-/

namespace GAM
open Lib

section
variable [Engine] {db : Database} {a : DecisionRequest} {p : Proposal} {draw : DecisionDraw}

/-- What the store needs for a decision: the proposal, and the evaluation in a finalized row. -/
structure ReadyToDecide (db : Database) (a : DecisionRequest) : Prop where
  proposal : References ProposalRow.id db.proposals a.proposalId
  evaluation : References (fun r => (r.id, r.proposalId, r.traceDigest, r.status)) db.evaluations
    (a.evaluationId, a.proposalId, a.traceDigest, .finalized)

/-- A decision has a digest. -/
lemma decisionDigest_ok (d : DecisionRecord) : ∃ digest, decisionDigest d = .ok digest := by
  refine Encodes.digest ?_
  rw [encodes_dict]
  · cases d.decision <;> simp [toValue]
  · simp
  · simp
    decide

/-- Every request makes a decision. -/
lemma newDecision_succeeds (a : DecisionRequest) (decisionId : String) :
    ∃ d, newDecision a decisionId = .ok d := by
  obtain ⟨digest, h⟩ := decisionDigest_ok
    { decisionId, proposalId := a.proposalId, evaluationId := a.evaluationId,
      evaluationTraceDigest := a.traceDigest, decision := a.decision, decidedBy := a.decidedBy,
      rationale := a.rationale, conditionsJson := "\x7b\x7d", decisionDigest := zeroDigest,
      idempotencyKey := a.idempotencyKey }
  exact ⟨_, bind_eq_ok.mpr ⟨digest, h, rfl⟩⟩

/-- The first decision of a store is inserted. -/
lemma insertDecision_succeeds {d : DecisionRecord} (is : IsDecisionOf a draw.decisionId d)
    (new : db.decisions = []) (trace : isHex64 a.traceDigest = true) (home : ReadyToDecide db a) :
    insertDecision db d = .ok { db with decisions := [d] } := by
  have digest : isDigestLength d.decisionDigest = true :=
    isDigestLength_of_hex (canonicalSha256_hex is.digest)
  have object : jsonbTypeof d.conditionsJson = "object" := by
    rw [is.conditions, jsonbTypeof, show Json.parse "\x7b\x7d" = some (.obj []) from
      Json.parse_print (.obj [])]
  simp only [insertDecision, new, bind_eq_ok, ensure_eq_ok, exists_unit, pure_eq_ok, List.nil_append,
    Fresh, List.not_mem_nil, false_implies, implies_true, is.trace, is.proposal, is.evaluation]
  exact ⟨⟨isDigestLength_of_hex trace, digest, object⟩, ⟨trivial, trivial, trivial, trivial⟩,
    ⟨home.proposal, home.evaluation⟩, trivial⟩

/-- The first decision of a store goes through. -/
lemma decideTransaction_succeeds (valid : checkRequest a = .ok ()) (new : db.decisions = [])
    (unasked : a.exclusionRequested = false) (home : ReadyToDecide db a) :
    ∃ d, IsDecisionOf a draw.decisionId d ∧
      decideTransaction db a p draw = .ok ((d, none), { db with decisions := [d] }) := by
  have request := checkRequest_ok valid
  have trace : isHex64 a.traceDigest = true := by
    simp only [checkRequest, bind_eq_ok, ensure_eq_ok, exists_unit] at valid
    exact valid.2.2.2.2.2.2
  obtain ⟨d, created⟩ := newDecision_succeeds a draw.decisionId
  have is := newDecision_ok created
  refine ⟨d, is, ?_⟩
  have undecided : ∀ row ∈ db.decisions, row.proposalId ≠ a.proposalId := by
    rw [new]
    exact fun _ h => absurd h List.not_mem_nil
  have unused : db.decisions.find? (fun row => row.idempotencyKey = a.idempotencyKey) = none := by
    rw [new]
    rfl
  simp only [decideTransaction, unused, castUuid_self request.proposalId, ok_bind,
    ensure_pos undecided, created, is.cast request, insertDecision_succeeds is new trace home, unasked]
  rfl

/-- An exclusion has a digest. -/
lemma exclusionDigest_ok (e : ExclusionRef) : ∃ digest, exclusionDigest e = .ok digest := by
  refine Encodes.digest ?_
  rw [encodes_dict]
  · cases e.sourceDecisionValue <;> simp [toValue]
  · simp
  · simp
    decide

/-- The first exclusion of a store is inserted after its decision. -/
lemma appendExclusion_succeeds {d : DecisionRecord} (is : IsDecisionOf a draw.decisionId d)
    (valid : ValidRequest a) (trace : isHex64 a.traceDigest = true) (asked : a.exclusionRequested = true)
    (decided : db.decisions = [d]) (new : db.exclusions = []) (home : ReadyToDecide db a) :
    ∃ e, IsExclusionOf p d e ∧
      appendExclusion db p d draw.exclusionId = .ok (e, { db with exclusions := [e] }) := by
  obtain ⟨digest, hd⟩ := exclusionDigest_ok
    { exclusionId := draw.exclusionId, actionType := p.actionType, actionTypeKey := p.actionTypeKey,
      target := p.target, targetKey := p.targetKey, reason := d.rationale,
      sourceProposalId := d.proposalId, sourceEvaluationId := d.evaluationId,
      sourceEvaluationTraceDigest := d.evaluationTraceDigest, sourceDecisionId := d.decisionId,
      sourceDecisionValue := .reject, sourceDecisionDigest := d.decisionDigest,
      exclusionDigest := zeroDigest,
      idempotencyKey := "exclude:" ++ sha256 ("gam.exclusion-idempotency.v1\x00" ++ d.idempotencyKey) }
  obtain ⟨e, he⟩ : ∃ e : ExclusionRef, e =
      { exclusionId := draw.exclusionId, actionType := p.actionType, actionTypeKey := p.actionTypeKey,
        target := p.target, targetKey := p.targetKey, reason := d.rationale,
        sourceProposalId := d.proposalId, sourceEvaluationId := d.evaluationId,
        sourceEvaluationTraceDigest := d.evaluationTraceDigest, sourceDecisionId := d.decisionId,
        sourceDecisionValue := .reject, sourceDecisionDigest := d.decisionDigest,
        exclusionDigest := digest,
        idempotencyKey := "exclude:" ++
          sha256 ("gam.exclusion-idempotency.v1\x00" ++ d.idempotencyKey) } := ⟨_, rfl⟩
  have written : IsExclusionOf p d e := by
    subst he
    exact ⟨rfl, rfl, rfl, rfl, rfl, rfl, rfl, rfl, rfl, rfl, rfl, hd⟩
  have id : e.exclusionId = draw.exclusionId := by rw [he]
  have insert : insertExclusion db e = .ok { db with exclusions := [e] } := by
    obtain ⟨g, hg, same⟩ := home.evaluation
    have evaluation : (g.id, g.proposalId, g.traceDigest) =
        (a.evaluationId, a.proposalId, a.traceDigest) := by
      simp only [Prod.mk.injEq] at same ⊢
      exact ⟨same.1, same.2.1, same.2.2.1⟩
    simp only [insertExclusion, new, bind_eq_ok, ensure_eq_ok, exists_unit, pure_eq_ok,
      List.nil_append, Fresh, List.not_mem_nil, false_implies, implies_true, written.trace, is.trace,
      written.proposal, is.proposal, written.evaluation, is.evaluation]
    refine ⟨⟨isDigestLength_of_hex trace, ?_, ?_, written.value⟩, ⟨trivial, trivial, trivial⟩,
      ⟨home.proposal, ⟨g, hg, evaluation⟩, d, decided ▸ List.mem_cons_self, ?_⟩, trivial⟩
    · exact isDigestLength_of_hex (written.decisionDigest ▸ canonicalSha256_hex is.digest)
    · exact isDigestLength_of_hex (canonicalSha256_hex written.digest)
    · rw [DecisionRecord.binding, is.decision, valid.rejected asked, is.proposal, is.evaluation,
        is.trace, written.decision, written.value, written.decisionDigest]
  refine ⟨e, written, ?_⟩
  simp only [appendExclusion, hd, ok_bind, ← he, written.cast is valid id, insert]
  rfl

/-- The first REJECT with exclusion of a store goes through. -/
lemma decideTransaction_excludes (valid : checkRequest a = .ok ())
    (new : db.decisions = [] ∧ db.exclusions = []) (asked : a.exclusionRequested = true)
    (home : ReadyToDecide db a) :
    ∃ d e, IsDecisionOf a draw.decisionId d ∧ IsExclusionOf p d e ∧
      decideTransaction db a p draw =
        .ok ((d, some e), { db with decisions := [d], exclusions := [e] }) := by
  have request := checkRequest_ok valid
  have trace : isHex64 a.traceDigest = true := by
    simp only [checkRequest, bind_eq_ok, ensure_eq_ok, exists_unit] at valid
    exact valid.2.2.2.2.2.2
  obtain ⟨d, created⟩ := newDecision_succeeds a draw.decisionId
  have is := newDecision_ok created
  obtain ⟨e, written, append⟩ := @appendExclusion_succeeds _ { db with decisions := [d] } a p draw d is
    request trace asked rfl new.2 ⟨home.proposal, home.evaluation⟩
  refine ⟨d, e, is, written, ?_⟩
  have undecided : ∀ row ∈ db.decisions, row.proposalId ≠ a.proposalId := by
    rw [new.1]
    exact fun _ h => absurd h List.not_mem_nil
  have unused : db.decisions.find? (fun row => row.idempotencyKey = a.idempotencyKey) = none := by
    rw [new.1]
    rfl
  simp only [decideTransaction, unused, castUuid_self request.proposalId, ok_bind,
    ensure_pos undecided, created, is.cast request, insertDecision_succeeds is new.1 trace home, asked,
    if_true, append]
  rfl

end

/-! ### A proposal with its first evaluation -/

section
variable [Engine] {db : Database} {p : Proposal} {s : EvaluationSnapshot} {r : CheckResult}
  {row : ProposalRow} {evaluation : EvaluationRow}

/-- The columns of a written finalized evaluation that decisions and later evaluations refer to. -/
lemma evaluationArgs_columns {proposalId : String} (h : evaluationArgs proposalId s (.check r) =
    .ok evaluation) : evaluation.id = r.evaluationId ∧ evaluation.proposalId = proposalId ∧
      evaluation.evaluatorVersion = r.evaluatorVersion ∧ evaluation.traceDigest = r.traceDigest ∧
      evaluation.status = .finalized := by
  simp only [evaluationArgs, bind_eq_ok, pure_eq_ok, Except.ok.injEq] at h
  obtain ⟨_, -, _, -, _, -, _, -, _, -, _, -, _, -, _, -, rfl⟩ := h
  exact ⟨rfl, rfl, rfl, rfl, rfl⟩

omit [Engine] in
/-- A finalized evaluation that was appended last is the latest one. -/
lemma latestFinalized_last {proposalId : String} {rows : List EvaluationRow} {last : EvaluationRow}
    (evaluations : db.evaluations = rows ++ [last]) (about : last.proposalId = proposalId)
    (status : last.status = .finalized) : db.latestFinalized proposalId = some last := by
  have history : List.filter (fun r => r.proposalId = proposalId) [last] = [last] := by
    rw [List.filter_singleton, decide_eq_true about, cond_true]
  have finalized : List.filter (fun r => r.status = .finalized) [last] = [last] := by
    rw [List.filter_singleton, decide_eq_true status, cond_true]
  rw [Database.latestFinalized, Database.history, evaluations, List.filter_append, history,
    List.filter_append, finalized, List.getLast?_concat]

/-- The rows of a proposal and of its first result, from which both are read back. -/
structure FirstRows (p : Proposal) (s : EvaluationSnapshot) (r : CheckResult) (row : ProposalRow)
    (evaluation : EvaluationRow) : Prop where
  proposal_written : proposalArgs p = .ok row
  evaluation_written : evaluationArgs p.proposalId s (.check r) = .ok evaluation
  proposal_reads : proposalFromMapping row.mapping = .ok p
  evaluation_reads : resultFromRow evaluation.mapping = .ok (.check r)
  proposalId_uuid : isUuid p.proposalId = true
  evaluationId_uuid : isUuid r.evaluationId = true
  valid : validateCheckResult r = .ok r

/-- A storable and durable proposal is appended to the empty store with a first result that is bound to
its snapshot. -/
lemma storable_firstRows (storable : p.Storable) (durable : p.Durable)
    (valid : validateProposal p = .ok ()) (own : isUuid p.proposalId = true)
    (he : isUuid r.evaluationId = true) (nfc : ∀ s, nfc s = s)
    (vector : ∀ text, castVector text = .ok text) (same : proposalEq s.proposal p = true)
    (bound : validateEvaluationBinding s (.check r) = .ok ())
    (first : s.priorEvaluation = none ∧ r.priorEvaluationId = none ∧ r.changedFactRuleIds = []) :
    ∃ row evaluation, FirstRows p s r row evaluation ∧ appendProposalAndEvaluation emptyStore p s
      (.check r) = .ok ((p.proposalId, r.evaluationId),
        { proposals := [row], evaluations := [evaluation] }) := by
  obtain ⟨row, evaluation, written, args, append⟩ := storable_proposed emptyStore storable valid own he
    vector same bound first (fun _ h => absurd h List.not_mem_nil)
    (fun _ h => absurd h List.not_mem_nil) (fun _ h => absurd h List.not_mem_nil)
  refine ⟨row, evaluation, ⟨written, args, ?_, ?_, own, he, ?_⟩, append⟩
  · obtain ⟨_, again, cast, -⟩ := storable.columns valid own vector
    cases written.symm.trans again
    obtain ⟨parent, decision, -⟩ := storable.root
    have ids : p.Identified := by
      refine ⟨own, fun _ h => ?_, fun _ h => ?_⟩
      · exact absurd (parent ▸ h) (Option.not_mem_none _)
      · exact absurd (decision ▸ h) (Option.not_mem_none _)
    have keeps : KeepsVector p.embedding := by
      intro text column _ cast
      cases (vector text).symm.trans cast
      rfl
    obtain ⟨fields, finite⟩ := validateProposal_parts valid
    exact (proposalFromMapping_durable (normal_of_id nfc _) ids fields finite keeps written cast).mpr
      durable
  · have normal : EvaluationResult.Normal (.check r) := normal_of_id nfc _
    exact result_decodes normal (validateEvaluationBinding_ok bound).2 (fun _ h => by cases h) args
  · have accepted := (validateEvaluationBinding_ok bound).2
    simp only [validateResult, bind_eq_ok] at accepted
    obtain ⟨v, accepted, -⟩ := accepted
    rw [accepted, validateCheckResult_self accepted]

/-- A request to decide on a result of a proposal. -/
structure DecidesOn (a : DecisionRequest) (p : Proposal) (r : CheckResult) : Prop where
  request : checkRequest a = .ok ()
  proposal : a.proposalId = p.proposalId
  evaluation : a.evaluationId = r.evaluationId
  trace : a.traceDigest = r.traceDigest

namespace FirstRows
variable {a : DecisionRequest} (h : FirstRows p s r row evaluation)
include h

/-- A checked result's trace digest has its form. -/
lemma trace_hex : isHex64 r.traceDigest = true := by
  have valid := h.valid
  simp only [validateCheckResult, bind_eq_ok, ensure_eq_ok, exists_unit] at valid
  obtain ⟨-, -, -, -, -, -, _, digest, same, -⟩ := valid
  exact same ▸ canonicalSha256_hex digest

/-- The proposal is found. -/
lemma found (proposals : db.proposals = [row]) : getProposal db p.proposalId = .ok p := by
  have id : row.id = p.proposalId := (proposalArgs_binds h.proposal_written).1
  have one : db.proposals.find? (fun r => r.id = p.proposalId) = some row := by
    rw [proposals, List.find?_singleton, if_pos (decide_eq_true id)]
  rw [getProposal, findRow_eq h.proposalId_uuid one, ok_bind, h.proposal_reads]

/-- The evaluation is found. -/
lemma read (evaluations : ∃ rest, db.evaluations = evaluation :: rest) :
    getEvaluation db r.evaluationId = .ok (.check r) := by
  obtain ⟨rest, evaluations⟩ := evaluations
  have id : evaluation.id = r.evaluationId := (evaluationArgs_columns h.evaluation_written).1
  have one : db.evaluations.find? (fun row => row.id = r.evaluationId) = some evaluation := by
    rw [evaluations, List.find?_cons, id, decide_eq_true rfl]
  rw [getEvaluation, findRow_eq h.evaluationId_uuid one, ok_bind, h.evaluation_reads]

/-- The proposal and the evaluation are found and checked. -/
lemma checked (asks : DecidesOn a p r) (proposals : db.proposals = [row])
    (evaluations : ∃ rest, db.evaluations = evaluation :: rest) : CheckedDecision db a p where
  request := asks.request
  proposal := asks.proposal ▸ h.found proposals
  evaluation := by
    refine ⟨_, r, asks.evaluation ▸ h.read evaluations, ?_⟩
    have about : (r.evaluationId, r.traceDigest) = (a.evaluationId, a.traceDigest) :=
      Prod.ext asks.evaluation.symm asks.trace.symm
    rw [checkEvaluation, h.valid, ok_bind, ensure_pos (Prod.mk.inj about)]
    rfl

/-- The decision is ready in a store with the evaluation. -/
lemma ready (asks : DecidesOn a p r) (proposals : db.proposals = [row])
    (stored : evaluation ∈ db.evaluations) : ReadyToDecide db a := by
  obtain ⟨id, about, -, trace, status⟩ := evaluationArgs_columns h.evaluation_written
  refine ⟨⟨row, by rw [proposals, List.mem_singleton], ?_⟩, evaluation, stored, ?_⟩
  · exact (proposalArgs_binds h.proposal_written).1.trans asks.proposal.symm
  · rw [asks.evaluation, asks.proposal, asks.trace]
    exact Prod.ext id (Prod.ext about (Prod.ext trace status))

/-- The evaluation is the latest finalized one when it is the only one. -/
lemma latestFinalized (evaluations : db.evaluations = [evaluation]) :
    db.latestFinalized p.proposalId = some evaluation := by
  obtain ⟨-, about, -, -, status⟩ := evaluationArgs_columns h.evaluation_written
  exact @latestFinalized_last _ _ [] _ evaluations about status

/-- The check for a newer evaluation finds none. -/
lemma isLatest (asks : DecidesOn a p r) (evaluations : db.evaluations = [evaluation]) :
    checkLatest db a = .ok () := by
  obtain ⟨id, -, -, trace, -⟩ := evaluationArgs_columns h.evaluation_written
  refine ensure_eq_ok.mpr ⟨evaluation, ?_, id.trans asks.evaluation.symm, trace.trans asks.trace.symm⟩
  rw [asks.proposal]
  exact h.latestFinalized evaluations

/-- A client has checked the evaluation and will insert its decision. -/
lemma deciding {guard : Database → List Call → Call → Database → Prop} {q : Proposal}
    {s' : EvaluationSnapshot} {r' : EvaluationResult} (asks : DecidesOn a p r)
    (proposed : Runs emptyStore (.propose q s' r')
      { proposals := [row], evaluations := [evaluation] } .done)
    (own : guard emptyStore [] (.propose q s' r') { proposals := [row], evaluations := [evaluation] })
    (quiet : ∀ db others c, guard db others c db) :
    clients.ReachableUnder guard emptyStore ⟨{ proposals := [row], evaluations := [evaluation] },
      [.done] ++ [.decideInsert a p]⟩ := by
  have known : CheckedDecision { proposals := [row], evaluations := [evaluation] } a p :=
    h.checked asks rfl ⟨[], rfl⟩
  obtain ⟨_, _, read, checked⟩ := known.evaluation
  have latest := @isLatest _ { proposals := [row], evaluations := [evaluation] } _ _ _ _ _ _ h asks rfl
  have start : clients.ReachableUnder guard emptyStore ⟨emptyStore, []⟩ := .refl
  exact (((start.call .propose proposed own).call .decide (.loaded known.request known.proposal)
    (quiet ..)).continue (.checked read checked) (quiet ..)).continue (.latest latest) (quiet ..)

end FirstRows

/-- A request to decide on a result. -/
def requestOn (p : Proposal) (r : CheckResult) (key : String) (decision : DecisionValue)
    (exclude : Bool) : DecisionRequest where
  proposalId := p.proposalId
  evaluationId := r.evaluationId
  traceDigest := r.traceDigest
  decision := decision
  decidedBy := "decider"
  rationale := "because"
  idempotencyKey := key
  exclusionRequested := exclude

/-- A request for a first evaluation decides on it. -/
lemma FirstRows.asks {key : String} {decision : DecisionValue} {exclude : Bool}
    (h : FirstRows p s r row evaluation) (rejected : exclude = true → decision = .reject)
    (hk : isUuid key = true) : DecidesOn (requestOn p r key decision exclude) p r := by
  have decider : checkCliText "decider" "decided_by" 256 = .ok () := by decide
  have because : checkCliText "because" "rationale" 4096 = .ok () := by decide
  refine ⟨?_, rfl, rfl, rfl⟩
  simp only [checkRequest, bind_eq_ok, ensure_eq_ok, exists_unit]
  exact ⟨rejected, hk, decider, because, h.proposalId_uuid, h.evaluationId_uuid, h.trace_hex⟩

end

/-! ### The smallest proposal -/

section
variable [Engine] {proposalId first : String}

/-- The smallest proposal and its first result. -/
def firstResult (proposalId first version : String) : CheckResult :=
  minimalResult version (minimalSnapshot first (minimalProposal proposalId "reason") none)

/-- The smallest proposal is appended to the empty store with a first result of its own. -/
lemma minimal_firstRows {s : EvaluationSnapshot} {r : CheckResult} (hp : isUuid proposalId = true)
    (he : isUuid r.evaluationId = true) (nfc : ∀ s, nfc s = s)
    (vector : ∀ text, castVector text = .ok text)
    (about : s.proposal = minimalProposal proposalId "reason")
    (bound : validateEvaluationBinding s (.check r) = .ok ())
    (first : s.priorEvaluation = none ∧ r.priorEvaluationId = none ∧ r.changedFactRuleIds = []) :
    ∃ row evaluation, FirstRows (minimalProposal proposalId "reason") s r row evaluation ∧
      Runs emptyStore (.propose (minimalProposal proposalId "reason") s (.check r))
        { proposals := [row], evaluations := [evaluation] } .done := by
  have valid := minimalProposal_valid proposalId "reason"
  have same : proposalEq s.proposal (minimalProposal proposalId "reason") = true := by
    rw [about]
    exact proposalEq_self (validateProposal_eqv valid)
  obtain ⟨row, evaluation, rows, append⟩ := storable_firstRows
    (@minimalBody_storable _ _ _ (.obj []) rfl) (minimalProposal_durable proposalId "reason") valid hp he
    nfc vector same bound first
  exact ⟨row, evaluation, rows, .proposed append⟩

/-- A client is about to insert its decision on the smallest proposal, which has one evaluation. -/
lemma minimal_decided (version : String) {key : String} (decision : DecisionValue)
    (draw : DecisionDraw) (hp : isUuid proposalId = true) (hf : isUuid first = true)
    (hk : isUuid key = true) (nfc : ∀ s, nfc s = s) (vector : ∀ text, castVector text = .ok text) :
    let p := minimalProposal proposalId "reason"
    let r := firstResult proposalId first version
    ∃ row evaluation d, FirstRows p (minimalSnapshot first p none) r row evaluation ∧
      clients.Reachable emptyStore ⟨{ proposals := [row], evaluations := [evaluation] },
        [.done] ++ [.decideInsert (requestOn p r key decision false) p]⟩ ∧
      IsDecisionOf (requestOn p r key decision false) draw.decisionId d ∧
      decideTransaction { proposals := [row], evaluations := [evaluation] }
        (requestOn p r key decision false) p draw =
          .ok ((d, none), { proposals := [row], evaluations := [evaluation], decisions := [d] }) := by
  intro p r
  have nonempty : first ≠ "" := by
    rintro rfl
    exact absurd hf (by decide)
  obtain ⟨row, evaluation, rows, proposed⟩ := minimal_firstRows (r := r) hp hf nfc vector rfl
    (minimal_bound nonempty fun _ h => by cases h) ⟨rfl, rfl, rfl⟩
  have asks : DecidesOn (requestOn p r key decision false) p r := rows.asks (fun h => nomatch h) hk
  have ready : ReadyToDecide { proposals := [row], evaluations := [evaluation] }
      (requestOn p r key decision false) := rows.ready asks rfl List.mem_cons_self
  obtain ⟨d, is, decided⟩ := decideTransaction_succeeds asks.request rfl rfl ready
  exact ⟨row, evaluation, d, rows, rows.deciding asks proposed trivial fun _ _ _ => trivial, is, decided⟩

/-- A second evaluation goes through after the first one. -/
lemma minimal_reevaluated {db : Database} {s : EvaluationSnapshot} {r : CheckResult} {row : ProposalRow}
    {evaluation : EvaluationRow} {second version : String}
    (h : FirstRows (minimalProposal proposalId "reason") s r row evaluation)
    (proposals : db.proposals = [row]) (evaluations : db.evaluations = [evaluation])
    (hs : isUuid second = true) (distinct : r.evaluationId ≠ second)
    (versions : r.evaluatorVersion ≠ version) :
    ∃ s r evaluation', Runs db (.reevaluate s (.check r))
      { db with evaluations := [evaluation, evaluation'] } .done ∧ evaluation'.id = second ∧
      evaluation'.proposalId = proposalId ∧ evaluation'.status = .finalized := by
  obtain ⟨id, about, produced, trace, -⟩ := evaluationArgs_columns h.evaluation_written
  have isLatest : db.latest proposalId = some evaluation := by
    simp only [Database.latest, Database.history, evaluations, List.filter_singleton,
      decide_eq_true (show evaluation.proposalId = proposalId from about), cond_true]
    rfl
  obtain ⟨evaluation', args, append⟩ := reevaluate_succeeds "reason" version h.proposalId_uuid hs h.valid
    isLatest (id ▸ h.evaluationId_uuid) id trace
    ⟨row, by rw [proposals, List.mem_singleton], (proposalArgs_binds h.proposal_written).1⟩
    (fun e he => by
      rw [evaluations, List.mem_singleton] at he
      exact he ▸ id ▸ distinct)
    (fun e he => by
      rw [evaluations, List.mem_singleton] at he
      exact .inr (he ▸ produced ▸ versions))
  obtain ⟨id', about', -, -, status'⟩ := evaluationArgs_columns args
  rw [evaluations] at append
  exact ⟨_, _, evaluation', .reevaluated append, id', about', status'⟩

end

end GAM
