import GAM.System.Decided
import GAM.System.StoreBinding

/-!
# Exclusions over runs

A REJECT with exclusion stores the keys of the rejected proposal. The exclusion stays, `get_exclusions`
returns it for those keys ever after, and the gate forbids every proposal that has them. `ExclusionKeys`
is the invariant of the store: the keys of a proposal with a finalized evaluation are the normalised
ones, so that an exclusion that copies them passes the checks of admission.
-/

namespace GAM
open Lib

section
variable [Engine] {db db' : Database}

/-! ### Runs in which results come from the gate -/

/-- A finalized result is the one that the gate returns for its snapshot. -/
def Call.OwnResult : Call → Prop
  | .propose _ s (.check r) | .reevaluate s (.check r) =>
    ∃ config, evaluateProposal s config = .ok (.check r)
  | _ => True

/-- The digested text of a prior trace collides with that of no BLOCKED result. -/
def Call.PriorApart : Call → Prop
  | .reevaluate s _ => ∀ prior ∈ s.priorEvaluation, ∀ b t t',
      canonicalJson (priorPayload prior) = .ok t → canonicalJson (blockedPayload b) = .ok t' →
      sha256 t = sha256 t' → t = t'
  | _ => True

/-- A step that writes nothing, or writes a result of the gate. -/
def ownResults (db : Database) (_ : List Call) (c : Call) (db' : Database) : Prop :=
  db' = db ∨ c.OwnResult ∧ c.PriorApart

/-! ### Keys -/

/-- The keys are those of the action type and the target. -/
structure KeysOf (actionType actionTypeKey target targetKey : String) : Prop where
  action : normalizeActionTargetKey actionType = .ok actionTypeKey
  target : normalizeActionTargetKey target = .ok targetKey

/-- A proposal that the gate has evaluated has its keys. -/
lemma evaluateProposal_keys {s : EvaluationSnapshot} {c : RuleConfig} {r : CheckResult}
    (h : evaluateProposal s c = .ok (.check r)) :
    KeysOf s.proposal.actionType s.proposal.actionTypeKey s.proposal.target s.proposal.targetKey := by
  obtain ⟨bindings, -⟩ := evaluateProposal_bindings h
  simp only [checkBindings, checkKey, bind_eq_ok, ensure_eq_ok, exists_unit] at bindings
  obtain ⟨⟨_, action, rfl⟩, ⟨_, target, rfl⟩, -⟩ := bindings
  exact ⟨action, target⟩

/-- An exclusion of keys that are those of its action type and target is checked. -/
lemma KeysOf.checked {e : ExclusionRef} (h : KeysOf e.actionType e.actionTypeKey e.target e.targetKey)
    (value : e.sourceDecisionValue = .reject) : checkExclusion e = .ok () := by
  simp only [checkExclusion, checkKey, bind_eq_ok, ensure_eq_ok, exists_unit]
  exact ⟨⟨_, h.action, rfl⟩, ⟨_, h.target, rfl⟩, value⟩

/-- A stored proposal has the action, the target and the keys of its record. -/
lemma IsProposalOf.keys {p : Proposal} {row : ProposalRow} (h : IsProposalOf p row) :
    row.actionType = p.actionType ∧ row.actionTypeKey = p.actionTypeKey ∧ row.target = p.target ∧
      row.targetKey = p.targetKey := by
  obtain ⟨args, ha, hc⟩ := h.args
  simp only [proposalArgs, bind_eq_ok, pure_eq_ok, Except.ok.injEq] at ha
  obtain ⟨_, -, _, -, _, -, rfl⟩ := ha
  simp only [castProposal, bind_eq_ok, pure_eq_ok, Except.ok.injEq] at hc
  obtain ⟨_, -, _, -, _, -, _, -, _, -, _, -, _, -, _, -, _, -, rfl⟩ := hc
  exact ⟨rfl, rfl, rfl, rfl⟩

omit [Engine] in
/-- Equal proposals have the same action, target and keys. -/
lemma proposalEq_keys {p q : Proposal} (h : proposalEq p q = true) :
    p.actionType = q.actionType ∧ p.actionTypeKey = q.actionTypeKey ∧ p.target = q.target ∧
      p.targetKey = q.targetKey := by
  simp only [proposalEq, Bool.and_eq_true, decide_eq_true_eq, Proposal.mk.injEq] at h
  tauto

/-- No prior trace that was accepted carries the digest of a BLOCKED result. -/
lemma prior_apart {s : EvaluationSnapshot} {r : EvaluationResult} {prior : PriorEvaluationTrace}
    {b : BlockedResult} (apart : (Call.reevaluate s r).PriorApart) (named : s.priorEvaluation = some prior)
    (bound : validateEvaluationBinding s r = .ok ()) :
    blockedResultDigest b ≠ .ok prior.traceDigest := by
  intro digest
  obtain ⟨⟨v, valid⟩, -⟩ := validateEvaluationBinding_ok bound
  have accepted : validatePrior prior s.proposal.proposalId = .ok () := by
    rw [validateSnapshot_eq] at valid
    simp only [validateBeforeDigest, bind_eq_ok, ensure_eq_ok, exists_unit, named, checkSome_some] at valid
    exact valid.1.2.2.2.1
  simp only [validatePrior, bind_eq_ok, ensure_eq_ok, exists_unit] at accepted
  obtain ⟨_, own, same⟩ : ∃ d, canonicalSha256 (priorPayload prior) = .ok d ∧ prior.traceDigest = d := by
    tauto
  have texts := sameJson_of_digest (same ▸ own) digest fun t t' => apart prior named b t t'
  -- a finalized result has more fields than a BLOCKED one
  exact absurd (sameJson_dict_length texts) (by decide : (18 : Nat) ≠ 15)

/-! ### The invariant -/

/-- What exclusions rest on. -/
structure ExclusionKeys (db : Database) : Prop where
  /-- A proposal with a finalized evaluation has its keys. -/
  keys : ∀ g ∈ db.evaluations, g.status = .finalized → ∀ q ∈ db.proposals, q.id = g.proposalId →
    KeysOf q.actionType q.actionTypeKey q.target q.targetKey
  /-- A BLOCKED row carries the digest of a BLOCKED result. -/
  blocked : ∀ g ∈ db.evaluations, g.status = .blocked → ∃ b, blockedResultDigest b = .ok g.traceDigest
  /-- A stored exclusion passes the checks of admission. -/
  checked : ∀ e ∈ db.exclusions, checkExclusion e = .ok ()

/-- A stored BLOCKED result has its digest. -/
lemma IsEvaluationOf.blocked {proposalId : String} {s : EvaluationSnapshot} {r : EvaluationResult}
    {g : EvaluationRow} (h : IsEvaluationOf proposalId s r g)
    (bound : validateEvaluationBinding s r = .ok ()) (status : g.status = .blocked) :
    ∃ b, blockedResultDigest b = .ok g.traceDigest := by
  cases r with
  | check r =>
    rw [h.status.mpr rfl] at status
    cases status
  | blocked b =>
    obtain ⟨-, valid⟩ := validateEvaluationBinding_ok bound
    obtain ⟨_, valid, -⟩ := bind_eq_ok.mp valid
    simp only [validateBlockedResult, bind_eq_ok, ensure_eq_ok, exists_unit] at valid
    obtain ⟨-, -, -, -, -, digest, own, same, -⟩ := valid
    exact ⟨b, own.trans (congrArg Except.ok (h.trace.trans same).symm)⟩

/-- A finalized row is of a finalized result. -/
lemma IsEvaluationOf.check {proposalId : String} {s : EvaluationSnapshot} {r : EvaluationResult}
    {g : EvaluationRow} (h : IsEvaluationOf proposalId s r g) (status : g.status = .finalized) :
    ∃ c, r = .check c := by
  cases r with
  | check c => exact ⟨c, rfl⟩
  | blocked b => cases h.status.mp status

/-- A first evaluation keeps the invariant: the gate has normalised the keys of its proposal. -/
lemma ExclusionKeys.propose {p : Proposal} {s : EvaluationSnapshot} {r : EvaluationResult}
    {row : ProposalRow} {evaluation : EvaluationRow} (inv : ExclusionKeys db) (g : Genealogy db)
    (own : (Call.propose p s r).OwnResult) (bound : validateEvaluationBinding s r = .ok ())
    (same : proposalEq s.proposal p = true) (proposal : IsProposalOf p row)
    (evaluated : IsEvaluationOf p.proposalId s r evaluation) (new : ∀ q ∈ db.proposals, q.id ≠ row.id) :
    ExclusionKeys { db with proposals := db.proposals ++ [row],
                            evaluations := db.evaluations ++ [evaluation] } where
  keys := by
    intro e he status q hq about
    have home : evaluation.proposalId = row.id :=
      Except.ok.inj (evaluated.proposalId.symm.trans proposal.id)
    rcases List.mem_append.mp he with he | he
    · obtain ⟨p', hp', id⟩ := g.homes e he
      rcases List.mem_append.mp hq with hq | hq
      · exact inv.keys e he status q hq about
      · cases List.mem_singleton.mp hq
        exact absurd (id.trans about.symm) (new p' hp')
    · cases List.mem_singleton.mp he
      rcases List.mem_append.mp hq with hq | hq
      · exact absurd (about.trans home) (new q hq)
      · cases List.mem_singleton.mp hq
        obtain ⟨c, rfl⟩ := evaluated.check status
        obtain ⟨_, returned⟩ := own
        obtain ⟨a, ak, t, tk⟩ := proposal.keys
        obtain ⟨a', ak', t', tk'⟩ := proposalEq_keys same
        rw [a, ak, t, tk, ← a', ← ak', ← t', ← tk']
        exact evaluateProposal_keys returned
  blocked := by
    intro e he status
    rcases List.mem_append.mp he with he | he
    · exact inv.blocked e he status
    · cases List.mem_singleton.mp he
      exact evaluated.blocked bound status
  checked := inv.checked

/-- A later evaluation keeps the invariant: the evaluation before it is finalized. -/
lemma ExclusionKeys.reevaluate {s : EvaluationSnapshot} {r : EvaluationResult}
    {prior : PriorEvaluationTrace} {latest evaluation : EvaluationRow} (inv : ExclusionKeys db)
    (apart : (Call.reevaluate s r).PriorApart) (bound : validateEvaluationBinding s r = .ok ())
    (named : s.priorEvaluation = some prior)
    (evaluated : IsEvaluationOf s.proposal.proposalId s r evaluation)
    (isLatest : db.latest evaluation.proposalId = some latest)
    (digest : latest.traceDigest = prior.traceDigest) :
    ExclusionKeys { db with evaluations := db.evaluations ++ [evaluation] } where
  keys := by
    intro e he status q hq about
    rcases List.mem_append.mp he with he | he
    · exact inv.keys e he status q hq about
    · cases List.mem_singleton.mp he
      obtain ⟨stored, home⟩ := mem_history.mp (List.mem_of_getLast? isLatest)
      have finalized : latest.status = .finalized := by
        cases hl : latest.status with
        | finalized => rfl
        | blocked =>
          obtain ⟨b, hb⟩ := inv.blocked latest stored hl
          exact absurd (digest ▸ hb) (prior_apart apart named bound)
      exact inv.keys latest stored finalized q hq (about.trans home.symm)
  blocked := by
    intro e he status
    rcases List.mem_append.mp he with he | he
    · exact inv.blocked e he status
    · cases List.mem_singleton.mp he
      exact evaluated.blocked bound status
  checked := inv.checked

/-- The proposal of a checked decision has its keys when the evaluation that is decided on is stored. -/
lemma CheckedDecision.keys {a : DecisionRequest} {p : Proposal} (known : CheckedDecision db a p)
    (inv : ExclusionKeys db)
    (home : ∃ g ∈ db.evaluations, g.proposalId = a.proposalId ∧ g.status = .finalized) :
    KeysOf p.actionType p.actionTypeKey p.target p.targetKey := by
  obtain ⟨q, found, loaded⟩ := bind_eq_ok.mp known.proposal
  obtain ⟨hq, cast⟩ := findRow_ok found
  rw [castUuid_self (checkRequest_ok known.request).proposalId] at cast
  obtain ⟨g, hg, about, status⟩ := home
  obtain ⟨a, ak, t, tk⟩ := proposalFromMapping_keys loaded
  rw [a, ak, t, tk]
  exact inv.keys g hg status q hq ((Except.ok.inj cast).symm.trans about.symm)

/-- A decision keeps the invariant: its exclusion copies the keys of the proposal. -/
lemma ExclusionKeys.decide {a : DecisionRequest} {p : Proposal} {draw : DecisionDraw}
    {answer : DecisionRecord × Option ExclusionRef} {row : DecisionRecord}
    {exclusions : List ExclusionRef} (inv : ExclusionKeys db) (known : CheckedDecision db a p)
    (w : DecisionWrite db a p draw answer row exclusions) :
    ExclusionKeys { db with decisions := db.decisions ++ [row],
                            exclusions := db.exclusions ++ exclusions } where
  keys := inv.keys
  blocked := inv.blocked
  checked := by
    intro e he
    rcases List.mem_append.mp he with he | he
    · exact inv.checked e he
    obtain ⟨same, written⟩ := w.rows (checkRequest_ok known.request)
    have stored := w.inserted
    simp only [insertDecision, bind_eq_ok, ensure_eq_ok, exists_unit] at stored
    obtain ⟨-, -, ⟨-, g, hg, refers⟩, -⟩ := stored
    have about : g.proposalId = a.proposalId := by
      rw [← w.record.proposal, ← same]
      exact congrArg (fun x => x.2.1) refers
    have status : g.status = .finalized := congrArg (fun x => x.2.2.2) refers
    have keys := known.keys inv ⟨g, hg, about, status⟩
    have exclusion := w.exclusion
    generalize answer.2 = asked at exclusion
    cases exclusion with
    | unasked => cases he
    | @asked e' row' _ asked is id cast _ =>
      cases List.mem_singleton.mp he
      rw [is.cast w.record (checkRequest_ok known.request) id] at cast
      cases Except.ok.inj cast
      refine KeysOf.checked ?_ is.value
      rw [is.actionType, is.actionTypeKey, is.target, is.targetKey]
      exact keys

/-- What one transaction keeps. -/
lemma ExclusionKeys.step {c c' : Call} {others : List Call} (inv : ExclusionKeys db) (g : Genealogy db)
    (known : c.Knows db) (h : Runs db c db' c') (guard : ownResults db others c db') :
    ExclusionKeys db' := by
  rcases guard with rfl | ⟨own, apart⟩
  · exact inv
  cases h with
  | aborted | failed | loaded | checked | latest | refused => exact inv
  | proposed append =>
    obtain ⟨bound, same, -, -, -, append⟩ := appendProposalAndEvaluation_ok append
    obtain ⟨id, cast, ⟨rfl, -⟩ | ⟨row, evaluation, proposal, evaluated, new, -, rfl⟩⟩ :=
      firstAppend_ok append
    · exact inv
    · have home : id = row.id := Except.ok.inj (cast.symm.trans proposal.id)
      exact inv.propose g own bound same proposal evaluated (home ▸ new)
  | reevaluated append =>
    obtain ⟨prior, named, -, bound, _, -, ⟨rfl, -⟩ | ⟨proposalId, latest, evaluation, cast, isLatest, -,
      digest, evaluated, -, rfl⟩⟩ := appendReEvaluation_ok append
    · exact inv
    · have home : proposalId = evaluation.proposalId :=
        Except.ok.inj (cast.symm.trans evaluated.proposalId)
      exact inv.reevaluate apart bound named evaluated (home ▸ isLatest) digest
  | decided decided =>
    obtain ⟨rfl, -⟩ | ⟨row, exclusions, write, rfl⟩ := decideTransaction_cases decided
    · exact inv
    · exact inv.decide known write
  | executed _ executed =>
    obtain rfl | ⟨_, _, _, _, _, -, rfl⟩ := executeTransaction_ok executed
    · exact inv
    · exact ⟨inv.keys, inv.blocked, inv.checked⟩
  | recovered recovered =>
    obtain rfl | ⟨_, _, -, -, -, -, -, rfl⟩ := errorTransaction_ok recovered
    · exact inv
    · exact ⟨inv.keys, inv.blocked, inv.checked⟩

/-- In every store that such a run reaches the exclusions pass the checks of admission. -/
lemma reachable_exclusionKeys {k : Config Database Call}
    (h : clients.ReachableUnder ownResults emptyStore k) : ExclusionKeys k.store := by
  refine (Protocol.invariant (P := clients) (I := fun db => Genealogy db ∧ ExclusionKeys db)
    (G := fun db c => c.Knows db) ⟨?_, ?_⟩ ?_ ?_ ?_ h).1.2
  · exact @reachable_genealogy _ _ Protocol.anyRun .refl
  · exact ⟨fun _ h => absurd h List.not_mem_nil, fun _ h => absurd h List.not_mem_nil,
      fun _ h => absurd h List.not_mem_nil⟩
  · intro _ c _ start
    cases start with
    | _ => trivial
  · intro _ _ _ _ _ inv known step guard
    exact ⟨⟨inv.1.step step, inv.2.step inv.1 known step guard⟩, known.step step⟩
  · intro _ _ _ _ _ _ _ _ step _ _ known
    exact known.grown (runs_grows step)

/-! ### What the gate answers -/

/-- A NO of high risk, or a BLOCKED result. -/
def EvaluationResult.Refuses : EvaluationResult → Prop
  | .check r => r.verdict = .no ∧ r.risk = .high
  | .blocked _ => True

/-- The proposal carries the keys, or its action type and target are normalised to them. -/
def HasKeys (p : Proposal) (actionTypeKey targetKey : String) : Prop :=
  (p.actionTypeKey = actionTypeKey ∧ p.targetKey = targetKey) ∨
    (normalizeActionTargetKey p.actionType = .ok actionTypeKey ∧
      normalizeActionTargetKey p.target = .ok targetKey)

/-- A proposal with the keys of an exclusion is refused when it is finalized. -/
lemma excluded_refused {s : EvaluationSnapshot} {c : RuleConfig} {r : CheckResult} {e : ExclusionRef}
    (listed : e ∈ s.exclusions) (keys : HasKeys s.proposal e.actionTypeKey e.targetKey)
    (h : evaluateProposal s c = .ok (.check r)) : r.verdict = .no ∧ r.risk = .high := by
  have own := evaluateProposal_keys h
  have same : SameKeys s.proposal e.actionTypeKey e.targetKey := by
    rcases keys with ⟨action, target⟩ | ⟨action, target⟩
    · exact ⟨action.symm, target.symm⟩
    · exact ⟨Except.ok.inj (action.symm.trans own.action), Except.ok.inj (target.symm.trans own.target)⟩
  have forbidden : Forbidden s := .inr (.inl ⟨e, listed, same⟩)
  obtain ⟨priorId, adm, evaluated⟩ := evaluateCanonical_check.mp h
  obtain ⟨pinned, fin⟩ := admit_facts adm
  have outcome := evaluateAdmitted_outcome pinned fin evaluated
  rw [declaredOutcome_canonical, declaredOutcome, if_pos forbidden, Prod.mk.injEq] at outcome
  exact outcome

/-- Once a REJECT with exclusion has been committed, its exclusion is returned for its keys ever after
and passes the checks of admission; over every snapshot with those exclusions and a proposal with those
keys the gate finalizes nothing but a NO of high risk, and it answers with that or with a BLOCKED result
exactly when it does not raise. -/
theorem exclusions_honoured {l r : List Call} {a : DecisionRequest} {p : Proposal}
    {draw : DecisionDraw} {d : DecisionRecord} {e : ExclusionRef} {k : Config Database Call}
    (reached : clients.ReachableUnder ownResults emptyStore ⟨db, l ++ .decideInsert a p :: r⟩)
    (decided : decideTransaction db a p draw = .ok ((d, some e), db'))
    (committed : db'.exclusions = db.exclusions ++ [e])
    (run : clients.Leads ownResults ⟨db', l ++ .done :: r⟩ k) :
    e ∈ getExclusions k.store p.actionTypeKey p.targetKey ∧ checkExclusion e = .ok () ∧
    ∀ s : EvaluationSnapshot, s.exclusions = getExclusions k.store p.actionTypeKey p.targetKey →
      HasKeys s.proposal p.actionTypeKey p.targetKey →
      (∀ r, evaluateProposal s pinnedConfig = .ok (.check r) → r.verdict = .no ∧ r.risk = .high) ∧
      ((∃ o, evaluateProposal s pinnedConfig = .ok o ∧ o.Refuses) ↔
        Answered (canonicalSnapshot s) pinnedConfig) := by
  obtain ⟨rfl, -⟩ | ⟨row, exclusions, write, same⟩ := decideTransaction_cases decided
  · exact absurd committed (by simp)
  -- the request was checked in an earlier transaction, and still holds
  have known : CheckedDecision db a p :=
    reachable_knows reached _ (List.mem_append_right _ List.mem_cons_self)
  have copied : e.actionTypeKey = p.actionTypeKey ∧ e.targetKey = p.targetKey := by
    have exclusion := write.exclusion
    generalize written : (d, some e).2 = asked at exclusion
    cases exclusion with
    | unasked => cases written
    | asked _ is _ _ _ =>
      cases written
      exact ⟨is.actionTypeKey, is.targetKey⟩
  have step : clients.Step ownResults ⟨db, l ++ .decideInsert a p :: r⟩ ⟨db', l ++ .done :: r⟩ :=
    .run (.decided decided) (.inr ⟨trivial, trivial⟩)
  have stored : e ∈ k.store.exclusions := by
    refine (leads_grows run).exclusions.subset ?_
    rw [committed]
    exact List.mem_append_right _ List.mem_cons_self
  have listed : e ∈ getExclusions k.store p.actionTypeKey p.targetKey :=
    mem_getExclusions.mpr ⟨stored, copied⟩
  refine ⟨listed, (reachable_exclusionKeys ((reached.step step).trans run)).checked e stored, ?_⟩
  intro s built keys
  -- with the exclusion listed, F03 refuses whatever the rest of the snapshot says
  have refused {r : CheckResult} (h : evaluateProposal s pinnedConfig = .ok (.check r)) :
      r.verdict = .no ∧ r.risk = .high := by
    refine excluded_refused (built ▸ listed) ?_ h
    rw [copied.1, copied.2]
    exact keys
  refine ⟨fun r => refused, ?_⟩
  rw [← evaluateCanonical_answers pinnedConfig_valid]
  constructor
  · rintro ⟨o, answer, -⟩
    exact ⟨o, answer⟩
  · rintro ⟨o, answer⟩
    refine ⟨o, answer, ?_⟩
    cases o with
    | check r => exact refused answer
    | blocked b => trivial

/-! ### A run with an exclusion -/

/-- A first result has no prior evaluation and reports no change. -/
lemma evaluateProposal_first {s : EvaluationSnapshot} {c : RuleConfig} {r : CheckResult}
    (h : evaluateProposal s c = .ok (.check r)) (first : s.priorEvaluation = none) :
    r.priorEvaluationId = none ∧ r.changedFactRuleIds = [] := by
  obtain ⟨priorId, adm, evaluated⟩ := evaluateCanonical_check.mp h
  have none : (canonicalSnapshot s).priorEvaluation = none := first
  have prior := admission_prior adm
  rw [none] at prior
  simp only [evaluateAdmitted, changedFactIds, none, bind_eq_ok, pure_eq_ok, Except.ok.injEq]
    at evaluated
  obtain ⟨_, -, _, -, _, -, _, -, _, rfl, _, -, rfl⟩ := evaluated
  exact ⟨prior, rfl⟩

/-- The smallest proposal is denied, and then rejected with an exclusion. -/
lemma excluded_run {proposalId first key : String} (draw : DecisionDraw) (hp : isUuid proposalId = true)
    (hf : isUuid first = true) (hk : isUuid key = true) (nfc : ∀ s, nfc s = s)
    (vector : ∀ text, castVector text = .ok text) :
    ∃ db a d e, clients.ReachableUnder ownResults emptyStore
        ⟨db, [.done] ++ [.decideInsert a (minimalProposal proposalId "reason")]⟩ ∧
      IsDecisionOf a draw.decisionId d ∧
      IsExclusionOf (minimalProposal proposalId "reason") d e ∧ isHex64 a.traceDigest = true ∧
      db.exclusions = [] ∧ decideTransaction db a (minimalProposal proposalId "reason") draw =
        .ok ((d, some e), { db with decisions := [d], exclusions := [e] }) := by
  have nonempty : first ≠ "" := by
    rintro rfl
    exact absurd hf (by decide)
  obtain ⟨r, evaluated, valid⟩ := denied_demo proposalId nonempty
  obtain ⟨-, -, id, -⟩ := evaluateProposal_bindings evaluated
  have id : r.evaluationId = first := id
  have accepted : validateResult (.check r) = .ok () := by
    rw [validateResult, valid]
    rfl
  have canonical := @Proper.demo_canonical _ _ _ _ _ first proposalId none denied_proper
  obtain ⟨bound, -⟩ := validateEvaluationBinding_same
    (denied_proper.demo_valid nonempty fun _ h => by cases h) evaluated accepted
    (by rw [canonical]) (by rw [canonical])
  obtain ⟨row, evaluation, rows, proposed⟩ := minimal_firstRows hp (id ▸ hf) nfc vector rfl bound
    ⟨rfl, evaluateProposal_first evaluated rfl⟩
  let p := minimalProposal proposalId "reason"
  have asks : DecidesOn (requestOn p r key .reject true) p r := rows.asks (fun _ => rfl) hk
  have reached := @FirstRows.deciding _ _ _ _ _ _ _ rows ownResults _ _ _ asks proposed
    (.inr ⟨⟨_, evaluated⟩, trivial⟩) fun _ _ _ => .inl rfl
  have ready : ReadyToDecide { proposals := [row], evaluations := [evaluation] }
      (requestOn p r key .reject true) := rows.ready asks rfl List.mem_cons_self
  obtain ⟨d, e, decision, exclusion, decided⟩ := @decideTransaction_excludes _ _ _ p draw asks.request
    ⟨rfl, rfl⟩ rfl ready
  exact ⟨_, _, d, e, reached, decision, exclusion, rows.trace_hex, rfl, decided⟩

/-- A later evaluation of the keys with the exclusion, after a prior trace that has a number for a
result. -/
def excludedSnapshot (e : ExclusionRef) : EvaluationSnapshot :=
  demoSnapshot "second" "proposal" [] [] [e] []
    (some (priorOfResult
      (scalarResult (minimalSnapshot "first" (minimalProposal "proposal" "reason") none)) "proposal"))

variable {e : ExclusionRef}

/-- A valid exclusion makes a proper first snapshot. -/
lemma excluded_proper (fields : FieldsValid e) (checked : checkExclusion e = .ok ()) :
    Proper [] [] [e] [] where
  ruleOrder := rfl
  refOrder := rfl
  exclusionOrder := rfl
  precedentOrder := rfl
  few := by decide
  valid := fun _ h => absurd h List.not_mem_nil
  encodes := fun _ h => absurd h List.not_mem_nil
  bound := fun _ h => absurd h List.not_mem_nil
  fields := fun _ h => List.mem_singleton.mp h ▸ fields
  checked := forAll_eq_ok.mpr fun _ h => List.mem_singleton.mp h ▸ checked

/-- That evaluation is over a valid snapshot. -/
lemma excludedSnapshot_valid (fields : FieldsValid e) (checked : checkExclusion e = .ok ()) :
    validateSnapshot (excludedSnapshot e) = .ok (excludedSnapshot e) := by
  refine (excluded_proper fields checked).demo_valid (by decide) fun x hx => ?_
  cases hx
  refine priorOfResult_valid (scalarResult_valid rfl digestOf_hex digestOf_hex ?_)
  exact fun h => by cases h

/-- The gate raises on it. -/
lemma excludedSnapshot_unanswered (fields : FieldsValid e) (checked : checkExclusion e = .ok ()) :
    ¬∃ o, evaluateProposal (excludedSnapshot e) pinnedConfig = .ok o := by
  have proper := excluded_proper fields checked
  have input : validateInput (excludedSnapshot e) pinnedConfig = .ok () := by
    refine proper.demo_input (by decide) fun x hx => ?_
    cases hx
    exact priorOfResult_valid (scalarResult_valid rfl digestOf_hex digestOf_hex fun h => by cases h)
  have adm : admission (excludedSnapshot e) pinnedConfig = .ok (some "first") := by
    rw [admission, input, ok_bind]
    simp [bindPrior, excludedSnapshot, demoSnapshot, sealedSnapshot, ensure_pos, priorOfResult,
      scalarResult, sealedResult, minimalResult, minimalSnapshot]
  have traceable : Traceable (excludedSnapshot e) pinnedConfig :=
    { reports := fun _ h => absurd h List.not_mem_nil
      capabilities := List.nodup_nil
      length := by
        have bound : stepCount (excludedSnapshot e) pinnedConfig ≤ 10 + 2 * 0 := stepCount_le
        omega
      evaluationId := (by decide : "second" ≠ "") }
  have canonical : canonicalSnapshot (excludedSnapshot e) = excludedSnapshot e := proper.demo_canonical
  rw [evaluateProposal, canonical, evaluateCanonical_answers pinnedConfig_valid]
  exact fun h => h.prior ⟨_, adm⟩ traceable _ rfl rfl

end

/-- The exclusion of a rejected proposal is listed for its keys as soon as it is committed. -/
theorem exclusions_honoured_first :
    let _ := asciiEngine
    ∃ (k : Config Database Call) (e : ExclusionRef),
      clients.ReachableUnder ownResults emptyStore k ∧
      e ∈ getExclusions k.store "set_demo_value" "demo_kv:alpha" ∧ checkExclusion e = .ok () := by
  intro _
  let draw : DecisionDraw := ⟨"00000000-0000-0000-0000-000000000004",
    "00000000-0000-0000-0000-000000000005", by decide, by decide⟩
  obtain ⟨db, a, d, e, reached, -, -, -, new, decided⟩ := @excluded_run asciiEngine
    "00000000-0000-0000-0000-000000000001" "00000000-0000-0000-0000-000000000002"
    "00000000-0000-0000-0000-000000000003" draw (by decide) (by decide) (by decide) (fun _ => rfl)
    fun _ => rfl
  have committed : [e] = db.exclusions ++ [e] := by rw [new]; rfl
  obtain ⟨listed, checked, -⟩ := @exclusions_honoured _ _ _ [.done] [] _ _ _ _ _ _ reached decided committed
    .refl
  refine ⟨_, e, reached.step (.run (.decided decided) (.inr ⟨trivial, trivial⟩)), listed, checked⟩

/-- After a REJECT with exclusion the gate raises over a valid snapshot with the exclusion and the
keys. -/
theorem exclusions_unanswered :
    let _ := asciiEngine
    ∃ (db db' : Database) (l r : List Call) (a : DecisionRequest) (p : Proposal) (draw : DecisionDraw)
      (d : DecisionRecord) (e : ExclusionRef) (s : EvaluationSnapshot),
      clients.ReachableUnder ownResults emptyStore ⟨db, l ++ .decideInsert a p :: r⟩ ∧
      decideTransaction db a p draw = .ok ((d, some e), db') ∧
      db'.exclusions = db.exclusions ++ [e] ∧
      s.exclusions = getExclusions db' p.actionTypeKey p.targetKey ∧
      HasKeys s.proposal p.actionTypeKey p.targetKey ∧ validateSnapshot s = .ok s ∧
      ¬∃ o, evaluateProposal s pinnedConfig = .ok o := by
  intro _
  let draw : DecisionDraw := ⟨"00000000-0000-0000-0000-000000000004",
    "00000000-0000-0000-0000-000000000005", by decide, by decide⟩
  obtain ⟨db, a, d, e, reached, decision, exclusion, trace, new, decided⟩ := @excluded_run asciiEngine
    "00000000-0000-0000-0000-000000000001" "00000000-0000-0000-0000-000000000002"
    "00000000-0000-0000-0000-000000000003" draw (by decide) (by decide) (by decide) (fun _ => rfl)
    fun _ => rfl
  have step := reached.step (.run (.decided decided) (.inr ⟨trivial, trivial⟩))
  have checked : checkExclusion e = .ok () :=
    (reachable_exclusionKeys step).checked e (List.mem_singleton.mpr rfl)
  have fields : FieldsValid e := by
    rw [ExclusionRef.fieldsValid, exclusion.trace, decision.trace, exclusion.decisionDigest]
    exact ⟨trace, canonicalSha256_hex decision.digest, canonicalSha256_hex exclusion.digest⟩
  have listed : getExclusions { db with decisions := [d], exclusions := [e] } "set_demo_value"
      "demo_kv:alpha" = [e] := by
    have action : e.actionTypeKey = "set_demo_value" := exclusion.actionTypeKey
    have target : e.targetKey = "demo_kv:alpha" := exclusion.targetKey
    simp [getExclusions, action, target]
  exact ⟨db, _, [.done], [], a, _, draw, d, e, excludedSnapshot e, reached, decided, by rw [new]; rfl,
    listed.symm, .inl ⟨rfl, rfl⟩, excludedSnapshot_valid fields checked,
    excludedSnapshot_unanswered fields checked⟩

end GAM
