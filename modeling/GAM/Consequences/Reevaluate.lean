import GAM.Consequences.Report
import GAM.Memory.Precedents
import GAM.Memory.ProposalCodec
import GAM.System.Decisions

/-!
# Re-evaluation with a consequence

`reevaluate_with_consequence` reads the proposal, its latest finalized evaluation and the named report,
decodes the snapshot of that evaluation and assembles the next one. With the evaluation as its prior the
next snapshot is not stale (`reevaluationBody_fresh`), but no stored snapshot is decoded, so in every
reachable store the call raises (`reevaluateWithConsequence_refused`).
-/

namespace GAM
open Lib

/-- What a re-evaluation takes from outside: two identifiers of `uuid4` and the time. -/
structure ReevaluationDraw where
  evaluationId : String
  snapshotId : String
  capturedAt : String

/-- The snapshot that is assembled, before its digest: the proposal, the precedents and the exclusions of
the store, and the policy, the capabilities and the dependencies of the snapshot before. -/
def reevaluationBody (draw : ReevaluationDraw) (base : EvaluationSnapshot) (proposal : Proposal)
    (latest : CheckResult) (proposalId : String) (precedents : List PrecedentRef)
    (exclusions : List ExclusionRef) : EvaluationSnapshot where
  evaluationId := draw.evaluationId
  snapshotId := draw.snapshotId
  profileVersion := base.profileVersion
  proposal := proposal
  policy := base.policy
  precedents := precedents
  exclusions := exclusions
  capabilities := base.capabilities
  dependencies := base.dependencies
  priorEvaluation := some (priorOfResult latest proposalId)
  capturedAt := draw.capturedAt
  snapshotDigest := zeroDigest

/-- The latest finalized evaluation of a proposal, with its row. -/
def latestEvaluation [Engine] (db : Database) (proposalId : String) :
    Except PyError (EvaluationRow × CheckResult) := do
  let id ← castUuid proposalId
  match db.latestFinalized id with
  | none => corrupt "proposal has no finalized evaluation"
  | some row => do
    match ← resultFromRow row.mapping with
    | .check latest => return (row, latest)
    | .blocked _ => corrupt "latest finalized evaluation is invalid"

/-- The report with an identifier. -/
def namedConsequence [Engine] (db : Store) (consequenceId : String) :
    Except PyError ConsequenceReport := do
  let id ← castUuid consequenceId
  match db.consequences.find? fun row => row.id = id with
  | none => corrupt "named consequence was not found"
  | some row => reportFromRow row

/-- Python `reevaluate_with_consequence`, in its transaction. -/
def reevaluateWithConsequence [VectorEngine] (db : Store)
    (proposalId consequenceId requestedBy : String) (draw : ReevaluationDraw) :
    Except PyError (EvaluationResult × Store) := do
  ensure (requestedBy ≠ "") (.integrity "requesting human identity is empty")
  let proposal ← getProposal db.toDatabase proposalId
  let (row, latest) ← latestEvaluation db.toDatabase proposalId
  let consequence ← namedConsequence db consequenceId
  let base ← snapshotFromJson (.str row.inputSnapshot)
  let precedents ← searchPrecedents db proposal.embedding 5 latest.evaluationId
  ensure (∃ precedent ∈ precedents, ∃ ref ∈ precedent.consequenceRefs,
      ref.consequenceId = consequence.consequenceId)
    (.integrity "named consequence is not a current precedent")
  let exclusions := getExclusions db.toDatabase proposal.actionTypeKey proposal.targetKey
  let snapshot ← finalizeSnapshot
    (reevaluationBody draw base proposal latest proposalId precedents exclusions)
  let config ← defaultRuleConfig
  let result ← evaluateProposal snapshot config
  ensure (result.priorEvaluationId = some latest.evaluationId)
    (.integrity "evaluator returned invalid prior genealogy")
  let (_, database) ← appendReEvaluation db.toDatabase snapshot result
  return (result, { db with toDatabase := database })

/-! ### What is selected and assembled -/

section
variable [Engine] {proposalId : String} {row : EvaluationRow} {latest : CheckResult}

lemma latestEvaluation_ok {db : Database} (h : latestEvaluation db proposalId = .ok (row, latest)) :
    ∃ id, castUuid proposalId = .ok id ∧ db.latestFinalized id = some row ∧
      resultFromRow row.mapping = .ok (.check latest) := by
  obtain ⟨id, cast, h⟩ := bind_eq_ok.mp h
  cases selected : db.latestFinalized id with
  | none =>
    rw [selected] at h
    cases h
  | some row' =>
    rw [selected] at h
    obtain ⟨result, read, h⟩ := bind_eq_ok.mp h
    cases result with
    | blocked _ => cases h
    | check latest' =>
      cases h
      exact ⟨id, cast, selected, read⟩

/-- In a run that stores no BLOCKED re-evaluation, the assembled snapshot is not refused as stale,
whatever snapshot its parts were taken from. -/
theorem reevaluationBody_fresh {k : Config Database Call} {proposal : Proposal} {s : EvaluationSnapshot}
    {draw base precedents exclusions} (h : clients.ReachableUnder noBlockedReEvaluation emptyStore k)
    (found : getProposal k.store proposalId = .ok proposal)
    (selected : latestEvaluation k.store proposalId = .ok (row, latest))
    (finalized : finalizeSnapshot
      (reevaluationBody draw base proposal latest proposalId precedents exclusions) = .ok s)
    (r : EvaluationResult) :
    appendReEvaluation k.store s r ≠ .error (.conflict "re-evaluation prior is stale") := by
  obtain ⟨digest, same, -⟩ := finalizeSnapshot_ok finalized
  obtain ⟨id, cast, newest, read⟩ := latestEvaluation_ok selected
  obtain ⟨stored, hrow, decoded⟩ := bind_eq_ok.mp found
  have about : castUuid s.proposal.proposalId = .ok id := by
    have own : proposal.proposalId = id :=
      (proposalFromMapping_row decoded).1.trans (Except.ok.inj ((findRow_ok hrow).2.symm.trans cast))
    rw [same, reevaluationBody, own]
    exact castUuid_idem cast
  have named : s.priorEvaluation = some (priorOfResult latest proposalId) := by
    rw [same, reevaluationBody]
  obtain ⟨rowId, trace⟩ := resultFromRow_row read
  have isLatest : k.store.latest id = some row := (reachable_laterFinalized h).latest newest
  exact appendReEvaluation_fresh isLatest about named rowId trace

end

/-- In every reachable store, whatever facts and reports are beside it, a re-evaluation with a consequence
raises: at the latest where the snapshot of the latest evaluation is decoded. -/
theorem reevaluateWithConsequence_refused [VectorEngine] {k : Config Database Call} {db : Store}
    (h : clients.Reachable emptyStore k) (same : db.toDatabase = k.store)
    (proposalId consequenceId requestedBy : String) (draw : ReevaluationDraw) :
    ∃ e, reevaluateWithConsequence db proposalId consequenceId requestedBy draw = .error e := by
  have stored : SnapshotsStored db.toDatabase := same ▸ reachable_snapshotsStored h
  cases answered : reevaluateWithConsequence db proposalId consequenceId requestedBy draw with
  | error e => exact ⟨e, rfl⟩
  | ok answer =>
    obtain ⟨-, -, answered⟩ := bind_eq_ok.mp answered
    obtain ⟨proposal, -, answered⟩ := bind_eq_ok.mp answered
    obtain ⟨⟨row, latest⟩, selected, answered⟩ := bind_eq_ok.mp answered
    obtain ⟨consequence, -, answered⟩ := bind_eq_ok.mp answered
    obtain ⟨base, decoded, -⟩ := bind_eq_ok.mp answered
    obtain ⟨_, -, newest, -⟩ := latestEvaluation_ok selected
    have mem : row ∈ db.evaluations :=
      List.mem_of_mem_filter (List.mem_of_mem_filter (List.mem_of_getLast? newest))
    cases (stored.undecodable mem).symm.trans decoded

end GAM
