import GAM.System.Evaluations

/-!
# The prior of a re-evaluation

`reevaluate_with_consequence` takes the latest FINALIZED evaluation of a proposal for the prior, and
`append_re_evaluation` demands the latest of any status. The two are the same as long as no
re-evaluation of a finalized proposal is stored BLOCKED: then only the first evaluation of a proposal
can be BLOCKED. A BLOCKED re-evaluation is the latest ever after, and nothing can name it as prior.
-/

namespace GAM
open Lib

/-- Every evaluation of a proposal but its first is finalized. -/
def LaterFinalized (db : Database) : Prop :=
  ∀ id, ∀ r ∈ (db.history id).tail, r.status = .finalized

/-- The latest finalized evaluation is the latest of all. -/
lemma LaterFinalized.latest {db : Database} {id : String} {row : EvaluationRow}
    (h : LaterFinalized db) (selected : db.latestFinalized id = some row) :
    db.latest id = some row := by
  have later := h id
  rw [Database.latestFinalized] at selected
  rw [Database.latest]
  cases e : db.history id with
  | nil =>
    rw [e] at selected
    cases selected
  | cons first rest =>
    rw [e] at selected later
    obtain rfl | ⟨l, last, rfl⟩ := rest.eq_nil_or_concat'
    · obtain ⟨member, -⟩ := List.mem_filter.mp (List.mem_of_getLast? selected)
      rw [List.mem_singleton.mp member]
      rfl
    · have status : last.status = .finalized := later last (by simp)
      rw [← List.cons_append, List.filter_append, List.filter_singleton] at selected
      simp only [status, decide_true, cond_true, List.getLast?_append, List.getLast?_singleton,
        Option.some_or] at selected
      rw [← List.cons_append, List.getLast?_append, List.getLast?_singleton, Option.some_or, selected]

/-- A proposal with a latest evaluation has a history. -/
lemma history_ne_nil {db : Database} {id : String} {row : EvaluationRow}
    (h : db.latest id = some row) : db.history id ≠ [] := by
  intro e
  rw [Database.latest, e] at h
  cases h

section
variable [Engine] {db db' : Database} {c c' : Call}

/-- A re-evaluation that writes is finalized. -/
def noBlockedReEvaluation (db : Database) (_ : List Call) (c : Call) (db' : Database) : Prop :=
  db' = db ∨ ∀ s r, c = .reevaluate s r → r.isFinalized = true

/-- A transaction that stores no BLOCKED re-evaluation keeps the later evaluations finalized. -/
lemma LaterFinalized.step {others : List Call} (g : Genealogy db) (later : LaterFinalized db)
    (h : Runs db c db' c') (guard : noBlockedReEvaluation db others c db') :
    LaterFinalized db' := by
  rcases runs_genealogy h with ⟨-, same⟩ | ⟨p, s, r, row, evaluation, rfl, w, rfl⟩ |
    ⟨s, r, latest, evaluation, rfl, w, rfl⟩
  · intro id
    rw [Database.history, same]
    exact later id
  · have home : row.id = evaluation.proposalId := by
      have value := w.evaluated.proposalId
      rw [w.proposal.id] at value
      exact Except.ok.inj value
    intro id r hr
    have hr : r ∈ (if evaluation.proposalId = id then db.history id ++ [evaluation]
        else db.history id).tail := by
      rw [← history_append]
      exact hr
    split at hr
    · rename_i own
      -- the proposal is new, so that this is its first evaluation
      rw [g.history_nil fun q hq => own ▸ home ▸ w.new q hq] at hr
      exact absurd hr List.not_mem_nil
    · exact later id r hr
  · have status : evaluation.status = .finalized := by
      have written : db ≠ { db with evaluations := db.evaluations ++ [evaluation] } := by
        intro same
        have := congrArg (fun d : Database => d.evaluations.length) same
        simp at this
      exact w.evaluated.status.mpr (guard.resolve_left (Ne.symm written) s r rfl)
    intro id r hr
    rw [history_append] at hr
    split at hr
    · rename_i own
      rw [List.tail_append_of_ne_nil (own ▸ history_ne_nil w.isLatest)] at hr
      rcases List.mem_append.mp hr with hr | hr
      · exact later id r hr
      · rw [List.mem_singleton.mp hr]
        exact status
    · exact later id r hr

/-- In a run without BLOCKED re-evaluations, the later evaluations of every proposal are finalized. -/
lemma reachable_laterFinalized {k : Config Database Call}
    (h : clients.ReachableUnder noBlockedReEvaluation emptyStore k) : LaterFinalized k.store := by
  refine (Protocol.store_invariant (I := fun db => Genealogy db ∧ LaterFinalized db) ?_ ?_ h).2
  · exact ⟨@reachable_genealogy _ ⟨emptyStore, []⟩ Protocol.anyRun .refl,
      fun _ _ h => absurd h List.not_mem_nil⟩
  · intro db others c db' c' inv run guard
    exact ⟨inv.1.step run, inv.2.step inv.1 run guard⟩

/-! ### Refusals that are not conflicts -/

/-- The exceptions of the checks and of an insert. -/
@[simp] def PyError.NotConflict : PyError → Prop
  | .conflict _ => False
  | _ => True

omit [Engine] in
lemma PyError.IsTraceError.notConflict {e : PyError} (h : e.IsTraceError) : e.NotConflict := by
  cases e <;> simp_all

omit [Engine] in
lemma onlyRaises_asIntegrity {α : Type} {message : String} {x : Except PyError α}
    (h : OnlyRaises PyError.IsTraceError x) :
    OnlyRaises PyError.NotConflict (asIntegrity message x) := by
  cases x with
  | ok a => trivial
  | error e => cases e <;> simp_all [asIntegrity]

/-- The checks before a transaction raise no conflict. -/
lemma validateEvaluationBinding_raises {s : EvaluationSnapshot} {r : EvaluationResult} :
    OnlyRaises PyError.NotConflict (validateEvaluationBinding s r) := by
  have result : OnlyRaises PyError.IsTraceError (validateResult r) := by
    cases r with
    | check r =>
      simp [validateResult, validateCheckResult, validateFields_raises.trace,
        validateChangedFactIds_raises.trace, validateGapScope_raises.trace,
        validateTrace_raises.trace, checkResultDigest, canonicalSha256_raises]
    | blocked r =>
      simp [validateResult, validateBlockedResult, validateFields_raises.trace,
        validateGapScope_raises.trace, validateTrace_raises.trace, blockedResultDigest,
        canonicalSha256_raises]
  have digest (v : Value) : OnlyRaises PyError.NotConflict (canonicalSha256 v) :=
    canonicalSha256_raises.mono fun _ => PyError.IsTraceError.notConflict
  have checks : OnlyRaises PyError.NotConflict
      (asIntegrity "snapshot or evaluation digest validation failed" (do
        let _ ← validateSnapshot s
        validateResult r)) :=
    onlyRaises_asIntegrity (onlyRaises_bind.mpr ⟨validateSnapshot_raises, fun _ _ => result⟩)
  simp only [validateEvaluationBinding, onlyRaises_bind, checks, true_and]
  simp [proposalActionDigest, proposalRecordDigest, memoryPolicyDigest, digest]

/-- Storing an evaluation raises no conflict. -/
lemma storeEvaluation_raises {proposalId : String} {s : EvaluationSnapshot} {r : EvaluationResult} :
    OnlyRaises PyError.NotConflict (storeEvaluation db proposalId s r) := by
  have dumps (v : Value) : OnlyRaises PyError.NotConflict (dump v) := by
    simp only [dump, canonicalJson, onlyRaises_bind, onlyRaises_ensure, pure_eq_ok, onlyRaises_ok,
      PyError.NotConflict, implies_true, and_true]
    exact (canonicalValue_raises v).mono fun _ => PyError.IsTraceError.notConflict
  have args : OnlyRaises PyError.NotConflict (evaluationArgs proposalId s r) := by
    cases r with
    | check r => simp [evaluationArgs, dumps]
    | blocked r => simp [evaluationArgs, dumps]
  have uuid (id : String) : OnlyRaises PyError.NotConflict (castUuid id) := by
    rw [castUuid]
    split <;> simp
  have optUuid (id : Option String) : OnlyRaises PyError.NotConflict (castOptUuid id) := by
    cases id <;> simp [castOptUuid, uuid]
  have jsonb (text : String) : OnlyRaises PyError.NotConflict (castJsonb text) := by
    rw [castJsonb]
    split
    · split <;> simp
    · simp
  simp [storeEvaluation, args, castEvaluation, uuid, optUuid, jsonb, insertEvaluation,
    checkViolation, uniqueViolation, referenceViolation]

/-- A re-evaluation over the latest evaluation is not refused as stale. -/
lemma appendReEvaluation_fresh {s : EvaluationSnapshot} {r : EvaluationResult} {proposalId : String}
    {prior : PriorEvaluationTrace} {row : EvaluationRow} (latest : db.latest proposalId = some row)
    (about : castUuid s.proposal.proposalId = .ok proposalId) (named : s.priorEvaluation = some prior)
    (id : prior.evaluationId = row.id) (digest : prior.traceDigest = row.traceDigest) :
    appendReEvaluation db s r ≠ .error (.conflict "re-evaluation prior is stale") := by
  intro h
  rw [appendReEvaluation, named] at h
  rcases bind_eq_error.mp h with h | ⟨_, -, h⟩
  · exact validateEvaluationBinding_raises.of_error h
  rcases bind_eq_error.mp h with h | ⟨_, -, h⟩
  · cases (ensure_eq_error.mp h).2
  rcases bind_eq_error.mp h with h | ⟨evaluationId, -, h⟩
  · rw [castUuid] at h
    split at h <;> cases h
  split at h
  · rcases bind_eq_error.mp h with h | ⟨_, -, h⟩
    · exact absurd (ensure_eq_error.mp h).2 (by decide)
    · cases h
  · have fresh : ∃ l ∈ db.latest proposalId, l.id = prior.evaluationId ∧
        l.traceDigest = prior.traceDigest := ⟨row, latest, id.symm, digest.symm⟩
    rw [about, ok_bind, ensure_pos fresh, ok_bind] at h
    rcases bind_eq_error.mp h with h | ⟨_, -, h⟩
    · exact storeEvaluation_raises.of_error h
    · cases h

/-- A result that was read has the identifier and the trace digest of its row. -/
lemma resultFromRow_row {row : EvaluationRow} {r : CheckResult}
    (h : resultFromRow row.mapping = .ok (.check r)) :
    r.evaluationId = row.id ∧ r.traceDigest = row.traceDigest := by
  have trace : textField "trace_digest" row.mapping = .ok row.traceDigest := textField_column rfl
  have key (default : Value) : getKeyOr "evaluation_id" default row.mapping = .ok (.str row.id) := rfl
  simp only [resultFromRow, key, ok_bind] at h
  obtain ⟨_, -, h⟩ := bind_eq_ok.mp h
  obtain ⟨_, -, h⟩ := bind_eq_ok.mp h
  obtain ⟨_, -, h⟩ := bind_eq_ok.mp h
  obtain ⟨_, -, h⟩ := bind_eq_ok.mp h
  obtain ⟨_, -, h⟩ := bind_eq_ok.mp h
  obtain ⟨_, -, h⟩ := bind_eq_ok.mp h
  obtain ⟨_, -, h⟩ := bind_eq_ok.mp h
  obtain ⟨_, -, h⟩ := bind_eq_ok.mp h
  split at h
  · -- a BLOCKED row gives no finalized result
    obtain ⟨_, -, h⟩ := bind_eq_ok.mp h
    split at h
    · cases h
    · simp only [bind_eq_ok, pure_eq_ok, Except.ok.injEq, reduceCtorEq, and_false, exists_false] at h
  · simp only [trace, bind_eq_ok, pure_eq_ok, Except.ok.injEq, EvaluationResult.check.injEq,
      exists_eq_right] at h
    obtain ⟨_, -, _, -, _, -, _, -, _, -, _, -, _, -, _, -, _, -, _, rfl, checked⟩ := h
    rw [validateCheckResult_self checked]
    exact ⟨rfl, rfl⟩

/-- In a run that stores no BLOCKED re-evaluation, the evaluation that is selected as prior is the
latest of its proposal, and a re-evaluation over it is not refused as stale. -/
theorem reevaluation_prior {k : Config Database Call} {proposalId : String} {row : EvaluationRow}
    (h : clients.ReachableUnder noBlockedReEvaluation emptyStore k)
    (selected : k.store.latestFinalized proposalId = some row) :
    k.store.latest proposalId = some row ∧
      ∀ latest s r, resultFromRow row.mapping = .ok (.check latest) →
        s.priorEvaluation = some (priorOfResult latest proposalId) →
        castUuid s.proposal.proposalId = .ok proposalId →
        appendReEvaluation k.store s r ≠ .error (.conflict "re-evaluation prior is stale") := by
  have isLatest := (reachable_laterFinalized h).latest selected
  refine ⟨isLatest, fun latest s r read named about => ?_⟩
  obtain ⟨id, digest⟩ := resultFromRow_row read
  exact appendReEvaluation_fresh isLatest about named id digest

/-! ### A BLOCKED re-evaluation -/

section
variable {proposalId version : String} {latest : EvaluationRow}

/-- A valid BLOCKED result is stored when it is new and its prior is the latest evaluation. -/
lemma storeEvaluation_blocked {s : EvaluationSnapshot} {b : BlockedResult}
    (bound : validateEvaluationBinding s (.blocked b) = .ok ()) (hid : isUuid b.evaluationId = true)
    (hp : isUuid proposalId = true) (home : ∃ p ∈ db.proposals, p.id = proposalId)
    (fresh : ∀ row ∈ db.evaluations, row.id ≠ b.evaluationId)
    (unlike : ∀ row ∈ db.evaluations, row.evaluatorVersion ≠ b.evaluatorVersion)
    (profile : b.profileVersion = none)
    (prior : b.priorEvaluationId = some latest.id ∧ isUuid latest.id = true ∧
      latest ∈ db.evaluations ∧ latest.proposalId = proposalId) :
    ∃ row, row.proposalId = proposalId ∧ row.status = .blocked ∧ row.id = b.evaluationId ∧
      storeEvaluation db proposalId s (.blocked b) =
        .ok { db with evaluations := db.evaluations ++ [row] } := by
  obtain ⟨args, ha⟩ := evaluationArgs_ok bound proposalId
  have valid := (validateEvaluationBinding_ok bound).2
  simp only [validateResult, validateBlockedResult, bind_eq_ok, ensure_eq_ok, exists_unit,
    validateFields_toValue, BlockedResult.fieldsValid] at valid
  obtain ⟨_, ⟨⟨-, -, config, snapshot, policy, digest⟩, -⟩, -⟩ := valid
  have cast : castEvaluation args = .ok args := by
    refine castEvaluation_self ha ?_ ?_ ?_ <;>
      simp only [evaluationArgs, bind_eq_ok, pure_eq_ok, Except.ok.injEq] at ha <;>
      obtain ⟨_, -, _, -, _, -, _, -, _, -, _, -, rfl⟩ := ha
    · exact hid
    · exact hp
    · intro x hx
      rw [show b.priorEvaluationId = some x from hx, Option.some.injEq] at prior
      exact prior.1 ▸ prior.2.1
  refine ⟨args, ?_⟩
  simp only [storeEvaluation, ha, cast, ok_bind]
  simp only [evaluationArgs, bind_eq_ok, pure_eq_ok, Except.ok.injEq] at ha
  obtain ⟨_, hs, _, hl, _, ht, _, hg, _, hd, _, hc, rfl⟩ := ha
  have empty : jsonbTypeof "[]" = "array" := jsonbTypeof_tuple (l := []) rfl
  simp only [insertEvaluation, bind_eq_ok, ensure_eq_ok, exists_unit, pure_eq_ok]
  refine ⟨trivial, trivial, trivial, ⟨jsonbTypeof_record hs, jsonbTypeof_record hl,
    jsonbTypeof_tuple ht, jsonbTypeof_tuple hg, jsonbTypeof_tuple hd, empty, empty,
    jsonbTypeof_tuple hc⟩, .inr ⟨trivial, trivial, trivial, trivial, Option.some_ne_none _⟩, .inl profile,
    ⟨isDigestLength_of_hex config, isDigestLength_of_hex snapshot, isDigestLength_of_hex policy,
      isDigestLength_of_hex digest, fun v hv => absurd (profile.symm.trans hv) (Option.some_ne_none v).symm⟩, .inl ?_, fresh, ?_,
    home, ?_, trivial⟩
  · rw [prior.1]
    exact Option.some_ne_none _
  · intro row hrow e
    simp only [Prod.mk.injEq] at e
    exact unlike row hrow e.2.1
  · intro x hx
    rw [show b.priorEvaluationId = some x from hx, Option.some.injEq] at prior
    exact ⟨latest, List.mem_cons_of_mem _ prior.2.2.1, Prod.ext prior.1.symm prior.2.2.2⟩

/-- A BLOCKED re-evaluation after the first result of a proposal is stored, and is the latest from
then on. -/
lemma blocked_latest {first second : String} (hp : isUuid proposalId = true)
    (hf : isUuid first = true) (hs : isUuid second = true) (distinct : first ≠ second)
    (versions : version ≠ pinnedConfig.evaluatorVersion)
    (vector : ∀ text, castVector text = .ok text) :
    ∃ (k : Config Database Call) (row : EvaluationRow), clients.Reachable emptyStore k ∧
      k.store.latestFinalized proposalId = some row ∧ k.store.latest proposalId ≠ some row := by
  have named {id : String} (h : isUuid id = true) : id ≠ "" := by
    rintro rfl
    exact absurd h (by decide)
  let p := minimalProposal proposalId "reason"
  let s := minimalSnapshot first p none
  let r := minimalResult version s
  let s' := minimalSnapshot second p (some (priorOfResult r proposalId))
  -- first append: a finalized evaluation, produced by another version
  obtain ⟨row, evaluation, hrow, hev, hpropose⟩ := propose_succeeds emptyStore "reason" version hp
    hf vector (fun _ h => by cases h) (fun _ h => by cases h) (fun _ h => by cases h)
  have home : row.id = proposalId := (proposalArgs_binds hrow).1
  have columns : evaluation.id = first ∧ evaluation.proposalId = proposalId ∧
      evaluation.evaluatorVersion = version ∧ evaluation.traceDigest = r.traceDigest ∧
      evaluation.status = .finalized := by
    have h := hev
    simp only [evaluationArgs, bind_eq_ok, pure_eq_ok, Except.ok.injEq] at h
    obtain ⟨_, -, _, -, _, -, _, -, _, -, _, -, _, -, _, -, rfl⟩ := h
    exact ⟨rfl, rfl, rfl, rfl, rfl⟩
  obtain ⟨id, about, produced, digest, finalized⟩ := columns
  -- second append: a BLOCKED result that names it as its prior
  obtain ⟨b, stepId, d, parts, -, valid⟩ := @blockedResult_ok _ s' pinnedConfig (some first)
    "INTERNAL_EVALUATOR_ERROR" "deterministic evaluator rejected malformed input" (by decide)
    (by decide)
  have prior : ∀ x ∈ s'.priorEvaluation, validatePrior x proposalId = .ok () := by
    intro x hx
    cases hx
    exact priorOfResult_valid (minimalResult_valid (named hf) digestOf_hex digestOf_hex (Option.some_ne_none "").symm)
  have bound : validateEvaluationBinding s' (.blocked b) = .ok () := by
    have safe {d : String} (h : isHex64 d = true) : safeDigest d = d := if_pos h
    refine minimal_binding (named hs) prior ?_ ?_
    · rw [validateResult, valid]
      rfl
    · rw [parts]
      exact ⟨if_neg (named hs), safe digestOf_hex, safe digestOf_hex, rfl⟩
  let db₁ : Database := { proposals := [row], evaluations := [evaluation] }
  have isLatest : db₁.latest proposalId = some evaluation := by
    simp [db₁, Database.latest, Database.history, about]
  have columns : b.evaluationId = second ∧ b.priorEvaluationId = some first ∧
      b.evaluatorVersion = pinnedConfig.evaluatorVersion ∧ b.profileVersion = none := by
    rw [parts]
    exact ⟨if_neg (named hs), rfl, rfl, rfl⟩
  obtain ⟨bid, bprior, bversion, bprofile⟩ := columns
  have stored : ∃ row, row.proposalId = proposalId ∧ row.status = .blocked ∧
      row.id = b.evaluationId ∧ storeEvaluation db₁ proposalId s' (.blocked b) =
        .ok { db₁ with evaluations := db₁.evaluations ++ [row] } := by
    refine storeEvaluation_blocked bound (bid ▸ hs) hp ⟨row, List.mem_singleton_self row, home⟩ ?_ ?_
      bprofile ⟨bprior.trans (congrArg some id.symm), id ▸ hf, List.mem_singleton_self evaluation, about⟩
    · intro e he
      cases List.mem_singleton.mp he
      rw [id, bid]
      exact distinct
    · intro e he
      cases List.mem_singleton.mp he
      rw [produced, bversion]
      exact versions
  obtain ⟨blocked, home', status, id', hstore⟩ := stored
  have append : appendReEvaluation db₁ s' (.blocked b) = .ok ((proposalId, b.evaluationId),
      { db₁ with evaluations := db₁.evaluations ++ [blocked] }) := by
    have unstored : db₁.evaluations.find? (fun r => r.id = second) = none := by
      simp [db₁, id, distinct]
    have fits : ∃ l ∈ db₁.latest proposalId, l.id = (priorOfResult r proposalId).evaluationId ∧
        l.traceDigest = (priorOfResult r proposalId).traceDigest := ⟨evaluation, isLatest, id, digest⟩
    have uuid : castUuid (EvaluationResult.blocked b).evaluationId = .ok second :=
      (congrArg castUuid bid).trans (castUuid_self hs)
    have proposal : castUuid s'.proposal.proposalId = .ok proposalId := castUuid_self hp
    rw [appendReEvaluation, bound, ok_bind,
      show s'.priorEvaluation = some (priorOfResult r proposalId) from rfl]
    simp only [nextAppend, uuid, ok_bind, unstored, proposal, ensure_pos fits]
    rw [ensure_pos ⟨bprior, rfl⟩, ok_bind, show s'.proposal.proposalId = proposalId from rfl, hstore]
    rfl
  -- after both, the latest evaluation is not the latest finalized one
  have start : clients.Reachable emptyStore ⟨emptyStore, []⟩ := .refl
  refine ⟨_, evaluation, (start.call .propose (.proposed hpropose) trivial).call .reevaluate
    (.reevaluated append) trivial, ?_, ?_⟩
  · simp [db₁, Database.latestFinalized, Database.history, about, home', finalized, status]
  · have other : blocked ≠ evaluation := by
      rintro rfl
      rw [finalized] at status
      cases status
    simp [db₁, Database.latest, Database.history, about, home', other]

end

end

/-- The prior of a proposal that was evaluated twice is its second evaluation, and a third one over it is
not refused as stale. -/
theorem reevaluation_prior_twice :
    let _ := asciiEngine
    ∃ (k : Config Database Call) (proposalId : String) (row : EvaluationRow) (latest : CheckResult)
      (s : EvaluationSnapshot) (r : EvaluationResult),
      clients.ReachableUnder noBlockedReEvaluation emptyStore k ∧ k.store.evaluations.length = 2 ∧
        k.store.latestFinalized proposalId = some row ∧ k.store.latest proposalId = some row ∧
        resultFromRow row.mapping = .ok (.check latest) ∧
        s.priorEvaluation = some (priorOfResult latest proposalId) ∧
        appendReEvaluation k.store s r ≠ .error (.conflict "re-evaluation prior is stale") := by
  intro _
  have proposalId : isUuid "00000000-0000-0000-0000-000000000001" = true := by decide
  have first : isUuid "00000000-0000-0000-0000-000000000002" = true := by decide
  have second : isUuid "00000000-0000-0000-0000-000000000003" = true := by decide
  obtain ⟨row, evaluation, evaluation', hrow, -, hev', propose, reevaluate⟩ := evaluated_twice
    "reason" "reason" "gam-gate/1.0" "gam-gate/1.1" proposalId first second (by decide) (by decide)
    fun _ => rfl
  have start : clients.ReachableUnder noBlockedReEvaluation emptyStore ⟨emptyStore, []⟩ := .refl
  have run := (start.call .propose propose (.inr fun _ _ e => nomatch e)).call .reevaluate reevaluate
    (.inr fun s r e => (Call.reevaluate.inj e).2 ▸ rfl)
  let p := minimalProposal "00000000-0000-0000-0000-000000000001" "reason"
  let s := minimalSnapshot "00000000-0000-0000-0000-000000000002" p none
  let s' := minimalSnapshot "00000000-0000-0000-0000-000000000003" p
    (some (priorOfResult (minimalResult "gam-gate/1.0" s) "00000000-0000-0000-0000-000000000001"))
  have accepted : validateResult (.check (minimalResult "gam-gate/1.1" s')) = .ok () :=
    minimalResult_accepted (by decide)
  have read : resultFromRow evaluation'.mapping = .ok (.check (minimalResult "gam-gate/1.1" s')) :=
    result_decodes (normal_of_id (fun _ => rfl) _) accepted (fun _ h => by cases h) hev'
  have about : evaluation'.proposalId = "00000000-0000-0000-0000-000000000001" ∧
      evaluation'.status = .finalized := by
    simp only [evaluationArgs, bind_eq_ok, pure_eq_ok, Except.ok.injEq] at hev'
    obtain ⟨_, -, _, -, _, -, _, -, _, -, _, -, _, -, _, -, rfl⟩ := hev'
    exact ⟨rfl, rfl⟩
  have selected : Database.latestFinalized
      { proposals := [row], evaluations := [evaluation, evaluation'] }
      "00000000-0000-0000-0000-000000000001" = some evaluation' := by
    rw [Database.latestFinalized, Database.history, List.filter_filter]
    change (List.filter _ ([evaluation] ++ [evaluation'])).getLast? = _
    rw [List.filter_append, List.filter_singleton]
    simp [about]
  let third := minimalSnapshot "00000000-0000-0000-0000-000000000004" p
    (some (priorOfResult (minimalResult "gam-gate/1.1" s') "00000000-0000-0000-0000-000000000001"))
  obtain ⟨latest, current⟩ := reevaluation_prior run selected
  exact ⟨_, _, evaluation', _, third, .check (minimalResult "gam-gate/1.2" third), run, rfl, selected, latest,
    read, rfl, current _ _ _ read rfl (castUuid_self proposalId)⟩

/-- After a BLOCKED re-evaluation the prior that is selected is not the latest evaluation. -/
theorem reevaluation_prior_blocked :
    let _ := asciiEngine
    ∃ (k : Config Database Call) (proposalId : String) (row : EvaluationRow),
      clients.Reachable emptyStore k ∧ k.store.latestFinalized proposalId = some row ∧
        k.store.latest proposalId ≠ some row := by
  intro _
  have proposalId : isUuid "00000000-0000-0000-0000-000000000001" = true := by decide
  have first : isUuid "00000000-0000-0000-0000-000000000002" = true := by decide
  have second : isUuid "00000000-0000-0000-0000-000000000003" = true := by decide
  obtain ⟨k, row, reached, selected, other⟩ := @blocked_latest _ _ "gam-gate/1.0" _ _ proposalId
    first second (by decide) (by decide) fun _ => rfl
  exact ⟨k, _, row, reached, selected, other⟩

end GAM
