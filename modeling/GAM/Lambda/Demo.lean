import GAM.System.Evaluations

/-!
# The public demo

A demo route of `lambda/handler.py` reads the finalized evaluation of a profile back, with its
proposal and its snapshot, and compares the three; `_public` answers `/health` from the state of the
connection, and turns what is raised into a code and a status. Every stored evaluation carries the text
of a validated snapshot (`SnapshotsStored`), and no such text is decoded, so in every reachable store each
demo route is refused, and the number of the evaluations under its profile decides with which code
(`publicDemo_refused`).
-/

namespace GAM
open Lib

/-! ### The handler -/

/-- Python `DEMO_PROFILES`. -/
def demoProfiles : List (String × String) :=
  [("/v1/demo/maybe-novel", "gam-demo-maybe-v1"), ("/v1/demo/no-exclusion", "gam-demo-no-v1"),
    ("/v1/demo/iff-dependency", "gam-demo-iff-v1"),
    ("/v1/demo/consequence-warning", "gam-demo-consequence-v1")]

/-- Python `BoundaryError`, or any other exception. -/
inductive LambdaError where
  | boundary (code : String) (status : Nat)
  | python (e : PyError)
deriving DecidableEq, Repr

/-- The finalized evaluations under a profile. -/
def profileRows (db : Database) (profile : String) : List EvaluationRow :=
  db.evaluations.filter fun row => row.profileVersion = some profile ∧ row.status = .finalized

section
variable [Engine]

/-- Python `_demo`. Each of its three transactions finds a store of its own, or raises. -/
def demo (profile : String) (selected evaluated proposed : Except PyError Database) :
    Except LambdaError (Proposal × CheckResult) := do
  let db ← selected.mapError .python
  -- the third row of a profile is not fetched
  match (sortedBy EvaluationRow.id (profileRows db profile)).take 2 with
  | [] => .error (.boundary "PROFILE_NOT_READY" 404)
  | [row] => do
    let db ← evaluated.mapError .python
    let result ← (getEvaluation db row.id).mapError .python
    let db ← proposed.mapError .python
    let proposal ← (getProposal db row.proposalId).mapError .python
    let decoded ← (snapshotFromJson (.str row.inputSnapshot)).mapError .python
    let snapshot ← (validateSnapshot decoded).mapError .python
    match result with
    | .blocked _ => .error (.boundary "DIGEST_MISMATCH" 409)
    | .check result => do
      let valid ← (validateCheckResult result).mapError .python
      ensure (valid.traceDigest = row.traceDigest ∧ result.profileVersion = some profile ∧
          snapshot.profileVersion = some profile ∧ snapshot.evaluationId = result.evaluationId ∧
          snapshot.proposal.proposalId = proposal.proposalId ∧
          snapshot.proposal.proposalDigest = proposal.proposalDigest)
        (.boundary "DIGEST_MISMATCH" 409)
      return (proposal, result)
  | _ => .error (.boundary "DIGEST_MISMATCH" 409)

/-- What the body of an answer is made of. -/
inductive PublicAnswer where
  | health
  | demo (proposal : Proposal) (result : CheckResult)

/-- The code and the status of what `_public` lets through, or hides behind one code. -/
def LambdaError.refusal : LambdaError → String × Nat
  | .boundary code status => (code, status)
  | .python _ => ("DATABASE_UNAVAILABLE", 503)

/-- Python `_public`, once the request and its query are accepted; `health` is what `_health` raises. -/
def publicDemo (path : String) (health : Except LambdaError Unit)
    (selected evaluated proposed : Except PyError Database) :
    Except (String × Nat) PublicAnswer :=
  if path = "/health" then
    match health with
    | .ok () => .ok .health
    | .error e => .error e.refusal
  else
    match demoProfiles.lookup path with
    | none => .error ("NOT_FOUND", 404)
    | some profile =>
      match demo profile selected evaluated proposed with
      | .ok answer => .ok (.demo answer.1 answer.2)
      | .error e => .error e.refusal

end

/-! ### What the routes answer -/

section
variable [Engine] {db : Database}

/-- The code and the status of a refused route, by the number of evaluations under its profile. -/
def demoRefusal : Nat → String × Nat
  | 0 => ("PROFILE_NOT_READY", 404)
  | 1 => ("DATABASE_UNAVAILABLE", 503)
  | _ => ("DIGEST_MISMATCH", 409)

omit [Engine] in
/-- What comes after a step that may raise raises, so the step or what comes after it does. -/
lemma raised_bind {α β : Type} {x : Except PyError α} {f : α → Except LambdaError β}
    (h : ∀ a, ∃ e, f a = .error (.python e)) :
    ∃ e, (x.mapError .python >>= f) = .error (.python e) := by
  cases x with
  | error e => exact ⟨e, rfl⟩
  | ok a => exact h a

/-- A demo whose only row is not decoded raises something that has no code of its own. -/
lemma demo_undecodable {profile : String} {row : EvaluationRow} {e : PyError}
    {evaluated proposed : Except PyError Database}
    (one : sortedBy EvaluationRow.id (profileRows db profile) = [row])
    (undecodable : snapshotFromJson (.str row.inputSnapshot) = .error e) :
    ∃ e, demo profile (.ok db) evaluated proposed = .error (.python e) := by
  have selected : (Except.ok db : Except PyError Database).mapError LambdaError.python = .ok db := rfl
  simp only [demo, selected, ok_bind, one, List.take]
  -- four steps come before the decoder, and each of them may raise
  refine raised_bind fun store => raised_bind fun result => raised_bind fun store' =>
    raised_bind fun proposal => ⟨e, ?_⟩
  rw [undecodable]
  rfl

/-- In every reachable store every path but `/health` is refused: a demo path because its profile has no
finalized evaluation, or more than one, or because the snapshot of the only one is not decoded. -/
theorem publicDemo_refused {k : Config Database Call} (h : clients.Reachable emptyStore k)
    {path : String} (apart : path ≠ "/health") (health : Except LambdaError Unit)
    (evaluated proposed : Except PyError Database) :
    publicDemo path health (.ok k.store) evaluated proposed =
      .error ((demoProfiles.lookup path).elim ("NOT_FOUND", 404) fun profile =>
        demoRefusal (profileRows k.store profile).length) := by
  have stored : SnapshotsStored k.store := reachable_snapshotsStored h
  unfold publicDemo
  rw [if_neg apart]
  cases demoProfiles.lookup path with
  | none => rfl
  | some profile =>
    have length := @length_sortedBy _ _ _ EvaluationRow.id (profileRows k.store profile)
    have member : ∀ row ∈ sortedBy EvaluationRow.id (profileRows k.store profile),
        row ∈ k.store.evaluations :=
      fun row hr => List.mem_of_mem_filter (mem_sortedBy.mp hr)
    rw [Option.elim, ← length]
    cases rows : sortedBy EvaluationRow.id (profileRows k.store profile) with
    | nil =>
      simp only [demo, Except.mapError, ok_bind, rows]
      rfl
    | cons row rest =>
      cases rest with
      | nil =>
        have undecodable := stored.undecodable (member row (by simp [rows]))
        obtain ⟨e, raised⟩ := @demo_undecodable _ _ _ _ _ evaluated proposed rows undecodable
        simp only [raised]
        rfl
      | cons row' rest =>
        simp only [demo, Except.mapError, ok_bind, rows]
        rfl

/-! ### A finalized evaluation under a profile -/

/-- The smallest snapshot under a profile. -/
def profiledSnapshot (evaluationId profile : String) (p : Proposal) : EvaluationSnapshot :=
  sealedSnapshot { minimalSnapshot evaluationId p none with profileVersion := some profile }

/-- The smallest result of the smallest snapshot under a profile is bound to it. -/
lemma profiled_bound {proposalId reasoning evaluationId profile version : String}
    (hid : evaluationId ≠ "") (hv : profile ≠ "") :
    let s := profiledSnapshot evaluationId profile (minimalProposal proposalId reasoning)
    validateEvaluationBinding s (.check (minimalResult version s)) = .ok () := by
  intro s
  have finite := minimalProposal_finite proposalId reasoning
  have plain := @minimalSnapshot_valid _ evaluationId (minimalProposal proposalId reasoning) none
    (minimalProposal_valid proposalId reasoning) hid fun _ h => nomatch h
  have digest : snapshotDigest s = .ok s.snapshotDigest :=
    sealedSnapshot_digest (snapshotDigest_ok finite rfl rfl rfl rfl)
  have valid : validateSnapshot s = .ok s := by
    simp only [validateSnapshot, bind_eq_ok, ensure_eq_ok, exists_unit, validateFields_toValue,
      EvaluationSnapshot.fieldsValid] at plain ⊢
    obtain ⟨⟨proposal, policy, precedents, exclusions, capabilities, dependencies, prior, -⟩, accepted,
      identity, none, recalled, ready, distinct, -⟩ := plain
    exact ⟨⟨proposal, policy, precedents, exclusions, capabilities, dependencies, prior, digestOf_hex⟩,
      accepted, identity, none, recalled, ready, distinct, _, digest, rfl, rfl⟩
  have result : validateCheckResult (minimalResult version s) = .ok (minimalResult version s) :=
    minimalResult_valid hid digestOf_hex digestOf_hex fun named => hv (Option.some.inj named)
  refine proposed_binding valid rfl rfl ?_ ⟨rfl, rfl, rfl, rfl⟩
  simp only [validateResult, result, ok_bind, pure_eq_ok]

/-- The smallest proposal is appended with a finalized evaluation under the profile. -/
lemma profiled_reached {proposalId evaluationId profile : String} (hp : isUuid proposalId = true)
    (he : isUuid evaluationId = true) (hv : profile ≠ "")
    (vector : ∀ text, castVector text = .ok text) :
    ∃ k : Config Database Call, clients.Reachable emptyStore k ∧
      (profileRows k.store profile).length = 1 := by
  have nonempty : evaluationId ≠ "" := by
    rintro rfl
    exact absurd he (by decide)
  have bound := @profiled_bound _ proposalId "reason" evaluationId profile "gam-gate/1.0" nonempty hv
  have about : (profiledSnapshot evaluationId profile (minimalProposal proposalId "reason")).proposal =
      minimalProposal proposalId "reason" := rfl
  obtain ⟨row, evaluation, -, written, propose⟩ := propose_result (r := minimalResult "gam-gate/1.0"
      (profiledSnapshot evaluationId profile (minimalProposal proposalId "reason")))
    emptyStore hp he vector about bound ⟨rfl, rfl, rfl⟩ (fun _ h => nomatch h) (fun _ h => nomatch h)
    (fun _ h => nomatch h)
  have start : clients.Reachable emptyStore ⟨emptyStore, []⟩ := .refl
  refine ⟨_, start.call .propose (.proposed propose) trivial, ?_⟩
  simp only [evaluationArgs, bind_eq_ok, pure_eq_ok, Except.ok.injEq] at written
  obtain ⟨_, -, _, -, _, -, _, -, _, -, _, -, _, -, _, -, rfl⟩ := written
  simp [profileRows, emptyStore, minimalResult, sealedResult, profiledSnapshot, sealedSnapshot]

end

/-- A profile with one finalized evaluation is unavailable. -/
theorem publicDemo_refused_maybe :
    let _ := asciiEngine
    ∃ k : Config Database Call, clients.Reachable emptyStore k ∧
      (profileRows k.store "gam-demo-maybe-v1").length = 1 ∧
      ∀ health evaluated proposed,
        publicDemo "/v1/demo/maybe-novel" health (.ok k.store) evaluated proposed =
          .error ("DATABASE_UNAVAILABLE", 503) := by
  intro _
  have proposalId : isUuid "00000000-0000-0000-0000-000000000001" = true := by decide
  have first : isUuid "00000000-0000-0000-0000-000000000002" = true := by decide
  obtain ⟨k, reached, one⟩ := @profiled_reached _ _ _ "gam-demo-maybe-v1" proposalId first (by decide)
    fun _ => rfl
  refine ⟨k, reached, one, fun health evaluated proposed => ?_⟩
  rw [publicDemo_refused reached (by decide)]
  show Except.error (demoRefusal (profileRows k.store "gam-demo-maybe-v1").length) = _
  rw [one]
  rfl

end GAM
