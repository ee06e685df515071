import GAM.System.Progress

/-!
# Evaluations in every run

The evaluations of a proposal form one chain in every reachable store (`evaluation_history`). Every
stored evaluation carries the snapshot it is about (`SnapshotsStored`), with the proposal in it. A first append compares
that proposal with the one it stores; a re-evaluation is linked to the stored proposal by its
identifier only. When the digests of the two agree for every re-evaluation that is written, they
agree in every reachable store (`evaluations_bound`).
-/

namespace GAM
open Lib

/-- Equal proposals have one identifier and one digest. -/
lemma proposalEq_digest {p q : Proposal} (h : proposalEq p q = true) :
    p.proposalId = q.proposalId ∧ p.proposalDigest = q.proposalDigest := by
  simp only [proposalEq, Bool.and_eq_true, decide_eq_true_eq, Proposal.mk.injEq] at h
  exact ⟨h.1.1.1, by tauto⟩

section
variable [Engine] {db : Database} {s : EvaluationSnapshot} {r : EvaluationResult}

/-- No stored evaluation has the identifier of the result. -/
def NewEvaluation (db : Database) (r : EvaluationResult) : Prop :=
  ∀ id, castUuid r.evaluationId = .ok id → ∀ row ∈ db.evaluations, row.id ≠ id

/-- The snapshot names another prior than the latest evaluation of its proposal, or one although
there is none, or none although there is one. -/
def NamesOther (db : Database) (s : EvaluationSnapshot) : Prop :=
  ∀ id, castUuid s.proposal.proposalId = .ok id →
    s.priorEvaluation.map PriorEvaluationTrace.evaluationId ≠ (db.latest id).map EvaluationRow.id

/-- A first append of a new evaluation that names another prior raises. -/
lemma NamesOther.propose_fails (g : Genealogy db) (new : NewEvaluation db r) (other : NamesOther db s)
    (p : Proposal) : ∃ e, appendProposalAndEvaluation db p s r = .error e := by
  cases h : appendProposalAndEvaluation db p s r with
  | error e => exact ⟨e, rfl⟩
  | ok answer =>
    obtain ⟨ids, db'⟩ := answer
    obtain ⟨-, same, prior, -, -, h⟩ := appendProposalAndEvaluation_ok h
    obtain ⟨id, hid, ⟨-, -, evaluationId, he, row, hrow, rfl, -⟩ | ⟨_, _, -, -, unstored, -⟩⟩ :=
      firstAppend_ok h
    · exact absurd rfl (new _ he row hrow)
    · refine absurd ?_ (other id ((proposalEq_digest same).1 ▸ hid))
      rw [prior, Database.latest, g.history_nil unstored]
      rfl

/-- A re-evaluation with a new identifier that names another prior raises. -/
lemma NamesOther.reevaluate_fails (new : NewEvaluation db r) (other : NamesOther db s) :
    ∃ e, appendReEvaluation db s r = .error e := by
  cases h : appendReEvaluation db s r with
  | error e => exact ⟨e, rfl⟩
  | ok answer =>
    obtain ⟨ids, db'⟩ := answer
    obtain ⟨prior, hs, -, -, id, hid, ⟨-, row, hrow, rfl⟩ | ⟨proposalId, latest, _, hp, hl, hn, -⟩⟩ :=
      appendReEvaluation_ok h
    · exact absurd rfl (new _ hid row hrow)
    · refine absurd ?_ (other proposalId hp)
      rw [hs, hl, Option.map_some, Option.map_some, hn]

/-- A call that raises leaves the store as it is. -/
lemma propose_error {p db' c'} (he : ∃ e, appendProposalAndEvaluation db p s r = .error e)
    (h : Runs db (.propose p s r) db' c') : db' = db := by
  obtain ⟨e, he⟩ := he
  cases h with
  | aborted | failed => rfl
  | proposed h =>
    rw [he] at h
    cases h

/-- A refused re-evaluation leaves the store. -/
lemma reevaluate_error {db' c'} (he : ∃ e, appendReEvaluation db s r = .error e)
    (h : Runs db (.reevaluate s r) db' c') : db' = db := by
  obtain ⟨e, he⟩ := he
  cases h with
  | aborted | failed => rfl
  | reevaluated h =>
    rw [he] at h
    cases h

omit [Engine] in
/-- Rows of one history that name one prior are one row. -/
lemma Genealogy.unshared (g : Genealogy db) {a b : EvaluationRow} (ha : a ∈ db.evaluations)
    (hb : b ∈ db.evaluations) {id} (hpa : a.priorEvaluationId = some id)
    (hpb : b.priorEvaluationId = some id) : a = b := by
  have named {x : EvaluationRow} (hx : x ∈ db.evaluations) (hp : x.priorEvaluationId = some id) :
      ∃ y ∈ db.evaluations, y.id = id ∧ y.proposalId = x.proposalId := by
    rcases (g.linked x.proposalId).prior_mem x (mem_history.mpr ⟨hx, rfl⟩) with hn | ⟨y, hy, he⟩
    · rw [hp] at hn
      cases hn
    · obtain ⟨hy, home⟩ := mem_history.mp hy
      rw [hp] at he
      exact ⟨y, hy, (Option.some.inj he).symm, home⟩
  obtain ⟨y, hy, hyid, hyp⟩ := named ha hpa
  obtain ⟨z, hz, hzid, hzp⟩ := named hb hpb
  -- both name the same row, so they are evaluations of one proposal
  cases List.inj_on_of_nodup_map g.ids hy hz (hyid.trans hzid.symm)
  have home : b ∈ db.history a.proposalId := mem_history.mpr ⟨hb, hzp.symm.trans hyp⟩
  have linear := (g.linked a.proposalId).linearHistory (List.ne_nil_of_mem home)
    ((List.filter_sublist.map _).nodup g.ids)
  obtain ⟨i, hi, ei⟩ := List.getElem_of_mem (mem_history.mpr ⟨ha, rfl⟩)
  obtain ⟨j, hj, ej⟩ := List.getElem_of_mem home
  have same : i = j := by
    apply linear.unshared i j hi hj
    rw [ei, ej, hpa, hpb]
  subst same
  exact ei.symm.trans ej

/-- The evaluations of every proposal form one chain in every reachable store, and a new evaluation
that names another prior than the latest one is refused. -/
theorem evaluation_history {k : Config Database Call} (h : clients.Reachable emptyStore k) :
    (∀ p ∈ k.store.proposals, LinearHistory (k.store.history p.id)) ∧
    (∀ r ∈ k.store.evaluations, ∃ p ∈ k.store.proposals, p.id = r.proposalId) ∧
    (k.store.evaluations.map EvaluationRow.id).Nodup ∧
    (∀ a ∈ k.store.evaluations, ∀ b ∈ k.store.evaluations, ∀ id,
      a.priorEvaluationId = some id → b.priorEvaluationId = some id → a = b) ∧
    ∀ s r, NewEvaluation k.store r → NamesOther k.store s →
      (∀ p, ∃ e, appendProposalAndEvaluation k.store p s r = .error e) ∧
      (∃ e, appendReEvaluation k.store s r = .error e) ∧
      ∀ p db' c', Runs k.store (.propose p s r) db' c' ∨ Runs k.store (.reevaluate s r) db' c' →
        db' = k.store := by
  have g : Genealogy k.store := reachable_genealogy h
  refine ⟨fun p hp => ?_, g.homes, g.ids, fun a ha b hb id => g.unshared ha hb, ?_⟩
  · obtain ⟨r, hr, he⟩ := g.evaluated p hp
    exact (g.linked p.id).linearHistory (List.ne_nil_of_mem (mem_history.mpr ⟨hr, he⟩))
      ((List.filter_sublist.map _).nodup g.ids)
  · intro s r new other
    refine ⟨other.propose_fails g new, other.reevaluate_fails new, fun p db' c' run => ?_⟩
    rcases run with run | run
    · exact propose_error (other.propose_fails g new p) run
    · exact reevaluate_error (other.reevaluate_fails new) run

end

/-- The chain of a proposal that was evaluated twice. -/
theorem evaluation_history_twice :
    let _ := asciiEngine
    ∃ k : Config Database Call, clients.Reachable emptyStore k ∧ k.store.evaluations.length = 2 ∧
      ∀ p ∈ k.store.proposals, LinearHistory (k.store.history p.id) := by
  intro _
  have proposalId : isUuid "00000000-0000-0000-0000-000000000001" = true := by decide
  have first : isUuid "00000000-0000-0000-0000-000000000002" = true := by decide
  have second : isUuid "00000000-0000-0000-0000-000000000003" = true := by decide
  obtain ⟨row, evaluation, evaluation', -, -, -, propose, reevaluate⟩ := evaluated_twice
    "reason" "reason" "gam-gate/1.0" "gam-gate/1.1" proposalId first second (by decide) (by decide)
    fun _ => rfl
  have start : clients.Reachable emptyStore ⟨emptyStore, []⟩ := .refl
  have reached := (start.call .propose propose trivial).call .reevaluate reevaluate trivial
  exact ⟨_, reached, rfl, (evaluation_history reached).1⟩

/-! ### Stored snapshots -/

section
variable [Engine] {db db' : Database}

/-- Every stored evaluation carries the text of a validated snapshot. -/
def SnapshotsStored (db : Database) : Prop :=
  ∀ row ∈ db.evaluations, ∃ s t, validateSnapshot s = .ok t ∧
    dump (toValue s) = .ok row.inputSnapshot

/-- An evaluation is written with the snapshot it is bound to. -/
lemma SnapshotsStored.append {proposalId s r row} (stored : SnapshotsStored db)
    (bound : validateEvaluationBinding s r = .ok ()) (written : IsEvaluationOf proposalId s r row) :
    ∀ e ∈ db.evaluations ++ [row], ∃ s t, validateSnapshot s = .ok t ∧
      dump (toValue s) = .ok e.inputSnapshot := by
  intro e he
  rcases List.mem_append.mp he with he | he
  · exact stored e he
  · cases List.mem_singleton.mp he
    obtain ⟨text, hd, hc⟩ := written.snapshot
    rw [castJsonb_dump hd] at hc
    cases hc
    obtain ⟨⟨t, valid⟩, -⟩ := validateEvaluationBinding_ok bound
    exact ⟨s, t, valid, hd⟩

/-- Every transaction keeps snapshots stored. -/
lemma SnapshotsStored.step {c c'} (stored : SnapshotsStored db) (h : Runs db c db' c') :
    SnapshotsStored db' := by
  obtain ⟨-, he⟩ | ⟨p, s, r, row, evaluation, -, w, rfl⟩ | ⟨s, r, latest, evaluation, -, w, rfl⟩ :=
    runs_genealogy h
  · unfold SnapshotsStored
    rw [he]
    exact stored
  · exact stored.append w.bound w.evaluated
  · exact stored.append w.bound w.evaluated

/-- Snapshots are stored in every reachable store. -/
lemma reachable_snapshotsStored {k : Config Database Call} (h : clients.Reachable emptyStore k) :
    SnapshotsStored k.store := by
  refine Protocol.store_invariant (P := clients) (I := SnapshotsStored)
    (fun _ h => absurd h List.not_mem_nil) ?_ h
  intro s others c s' c' stored hr _
  exact stored.step hr

/-- The snapshot of a stored evaluation is not decoded. -/
lemma SnapshotsStored.undecodable (stored : SnapshotsStored db) {row : EvaluationRow}
    (h : row ∈ db.evaluations) :
    snapshotFromJson (.str row.inputSnapshot) = .error (.keyError "parameters") := by
  obtain ⟨s, t, valid, hd⟩ := stored row h
  obtain ⟨w, hw⟩ := (textual_toValue (a := s)).readsBack (validateSnapshot_encodes valid)
  obtain ⟨text, hd', hl⟩ := loaded_dump (validateSnapshot_encodes valid).1 hw
  cases hd.symm.trans hd'
  exact snapshotFromJson_stored hw hl

end

/-- The characters of a digest come no later than `f`. -/
lemma isHex64_le {s : String} (h : isHex64 s = true) : ∀ c ∈ s.toList, c.toNat ≤ 102 := by
  rw [isHex64, Bool.and_eq_true, List.all_eq_true] at h
  intro c hc
  have range := h.2 c hc
  simp only [Char.isDigit, ge_iff_le, Bool.or_eq_true, Bool.and_eq_true, decide_eq_true_eq,
    Char.le_def, UInt32.le_iff_toNat_le] at range
  rcases range with ⟨-, h⟩ | ⟨-, h⟩
  · exact le_trans h (by decide)
  · exact h

/-- A digest is a text of ASCII characters. -/
lemma isHex64_ascii {s : String} (h : isHex64 s = true) : isAscii s :=
  fun c hc => Nat.lt_of_le_of_lt (isHex64_le h c hc) (by decide)

section
variable [Platform]

/-- The proposal digest in a stored snapshot. -/
def embeddedDigest (text : String) : Except PyError Value := do
  let s ← loaded (.str text)
  let p ← subscript "proposal" s
  subscript "proposal_digest" p

/-- The snapshot of a written row carries the digest of its proposal. -/
lemma embeddedDigest_dump {s : EvaluationSnapshot} {text : String}
    (h : dump (toValue s) = .ok text) :
    embeddedDigest text = .ok (.str (nfc s.proposal.proposalDigest)) := by
  obtain ⟨hu, j, hj, -⟩ := canonicalJson_eq_ok.mp h
  obtain ⟨w, hw⟩ := (textual_toValue (a := s)).readsBack ⟨hu, j, hj⟩
  obtain ⟨text', hd, loads⟩ := loaded_dump hu hw
  rw [h] at hd
  cases hd
  obtain ⟨vs, rfl, -, present⟩ := readsBack_record (by simp) hw
  obtain ⟨p, hp, hw⟩ := present "proposal" (toValue s.proposal) (by simp)
  obtain ⟨ps, rfl, -, present⟩ := readsBack_record (by simp) hw
  obtain ⟨d, hd, hw⟩ := present "proposal_digest" (toValue s.proposal.proposalDigest) (by simp)
  cases readsBack_str hw
  simp only [embeddedDigest, loads, ok_bind, subscript_found hp, subscript_found hd]

/-- A bound snapshot carries digests that reproduce. -/
lemma validateEvaluationBinding_hex {s r} (h : validateEvaluationBinding s r = .ok ()) :
    isHex64 s.proposal.proposalDigest = true := by
  simp only [validateEvaluationBinding, bind_eq_ok, exists_unit, ensure_eq_ok] at h
  obtain ⟨-, _, -, -, digest, hd, he, -⟩ := h
  rw [he]
  exact canonicalSha256_hex hd

end

section
variable [Engine]

/-- The proposal in the snapshot of every evaluation has the digest of the stored proposal. -/
def BoundToProposal (db : Database) : Prop :=
  ∀ r ∈ db.evaluations, ∃ p ∈ db.proposals, p.id = r.proposalId ∧
    (∀ q ∈ db.proposals, q.id = r.proposalId → q = p) ∧
    embeddedDigest r.inputSnapshot = .ok (.str p.proposalDigest)

/-- A re-evaluation that writes is about the stored proposal: its snapshot has the digest of the
stored row. -/
def sameProposal (db : Database) (_ : List Call) (c : Call) (db' : Database) : Prop :=
  db' = db ∨ ∀ s r, c = .reevaluate s r → ∀ row ∈ db.proposals,
    castUuid s.proposal.proposalId = .ok row.id → s.proposal.proposalDigest = row.proposalDigest

/-- The snapshot of a written evaluation carries the digest of its proposal. -/
lemma IsEvaluationOf.embedded {proposalId s r row} (h : IsEvaluationOf proposalId s r row)
    (hb : validateEvaluationBinding s r = .ok ()) :
    embeddedDigest row.inputSnapshot = .ok (.str s.proposal.proposalDigest) := by
  obtain ⟨text, hd, hc⟩ := h.snapshot
  rw [castJsonb_dump hd] at hc
  cases hc
  rw [embeddedDigest_dump hd, Platform.nfc_ascii _ (isHex64_ascii (validateEvaluationBinding_hex hb))]

/-- A transaction that keeps re-evaluations to the stored proposal keeps evaluations bound. -/
lemma BoundToProposal.step {db db' : Database} {others c c'} (b : BoundToProposal db)
    (h : Runs db c db' c') (guard : sameProposal db others c db') :
    BoundToProposal db' := by
  obtain ⟨hp, he⟩ | ⟨p, s, r, row, evaluation, -, w, rfl⟩ | ⟨s, r, latest, evaluation, rfl, w, rfl⟩ :=
    runs_genealogy h
  · unfold BoundToProposal
    rw [hp, he]
    exact b
  · have home : row.id = evaluation.proposalId := by
      have value := w.evaluated.proposalId
      rw [w.proposal.id] at value
      exact Except.ok.inj value
    have new : ∀ q ∈ db.proposals, q.id ≠ evaluation.proposalId := home ▸ w.new
    intro e he
    rcases List.mem_append.mp he with he | he
    · obtain ⟨q, hq, hid, unique, hd⟩ := b e he
      refine ⟨q, List.mem_append_left _ hq, hid, fun q' hq' hid' => ?_, hd⟩
      rcases List.mem_append.mp hq' with hq' | hq'
      · exact unique q' hq' hid'
      · cases List.mem_singleton.mp hq'
        exact absurd (hid.trans hid'.symm) (w.new q hq)
    · cases List.mem_singleton.mp he
      refine ⟨row, List.mem_append_right _ List.mem_cons_self, home, fun q hq hid => ?_, ?_⟩
      · rcases List.mem_append.mp hq with hq | hq
        · exact absurd hid (new q hq)
        · exact List.mem_singleton.mp hq
      · rw [w.evaluated.embedded w.bound, (proposalEq_digest w.same).2, w.proposal.digest]
  · obtain ⟨hl, home⟩ := mem_history.mp (List.mem_of_getLast? w.isLatest)
    intro e he
    rcases List.mem_append.mp he with he | he
    · exact b e he
    · cases List.mem_singleton.mp he
      obtain ⟨q, hq, hid, unique, -⟩ := b latest hl
      rw [home] at hid unique
      refine ⟨q, hq, hid, unique, ?_⟩
      have written : db ≠ { db with evaluations := db.evaluations ++ [evaluation] } := by
        intro same
        have := congrArg (fun d : Database => d.evaluations.length) same
        simp at this
      have digest := guard.resolve_left (Ne.symm written) s r rfl q hq
        (hid ▸ w.evaluated.proposalId)
      rw [w.evaluated.embedded w.bound, digest]

/-- In every run whose re-evaluations are about the stored proposal, every stored evaluation carries
the digest of the proposal it refers to. -/
theorem evaluations_bound {k : Config Database Call}
    (h : clients.ReachableUnder sameProposal emptyStore k) : BoundToProposal k.store := by
  refine Protocol.store_invariant (P := clients) (I := BoundToProposal)
    (fun _ h => absurd h List.not_mem_nil) ?_ h
  intro s others c s' c' bound hr hg
  exact bound.step hr hg

/-- A proposal that is evaluated twice as it was stored. -/
lemma twice_bound (reasoning version version' : String) {proposalId first second : String}
    (hp : isUuid proposalId = true) (hf : isUuid first = true) (hs : isUuid second = true)
    (distinct : first ≠ second) (versions : version ≠ version')
    (vector : ∀ text, castVector text = .ok text) :
    ∃ k : Config Database Call, clients.ReachableUnder sameProposal emptyStore k ∧
      k.store.evaluations.length = 2 := by
  obtain ⟨row, evaluation, evaluation', hrow, -, -, propose, reevaluate⟩ := evaluated_twice
    reasoning reasoning version version' hp hf hs distinct versions vector
  have start : clients.ReachableUnder sameProposal emptyStore ⟨emptyStore, []⟩ := .refl
  have first := start.call .propose propose (.inr fun _ _ e => nomatch e)
  refine ⟨_, first.call .reevaluate reevaluate (.inr fun s r e q hq _ => ?_), rfl⟩
  cases List.mem_singleton.mp hq
  obtain ⟨rfl, -⟩ := Call.reevaluate.inj e
  exact (proposalArgs_binds hrow).2.symm

/-- A re-evaluation whose snapshot has another proposal under the stored identifier is accepted, and
leaves an evaluation that is not bound. -/
lemma reevaluation_unbinds {reasoning reasoning' : String} (version version' : String)
    {proposalId first second : String}
    (hp : isUuid proposalId = true) (hf : isUuid first = true) (hs : isUuid second = true)
    (distinct : first ≠ second) (versions : version ≠ version')
    (vector : ∀ text, castVector text = .ok text)
    (differ : (minimalProposal proposalId reasoning).proposalDigest ≠
      (minimalProposal proposalId reasoning').proposalDigest) :
    ∃ k : Config Database Call, clients.Reachable emptyStore k ∧ ¬BoundToProposal k.store := by
  obtain ⟨row, evaluation, evaluation', hrow, -, hev, propose, reevaluate⟩ := evaluated_twice
    reasoning reasoning' version version' hp hf hs distinct versions vector
  have start : clients.Reachable emptyStore ⟨emptyStore, []⟩ := .refl
  refine ⟨_, (start.call .propose propose trivial).call .reevaluate reevaluate trivial, fun bound => ?_⟩
  obtain ⟨p, hp, -, -, hd⟩ := bound evaluation' (by simp)
  cases List.mem_singleton.mp hp
  simp only [evaluationArgs, bind_eq_ok, pure_eq_ok, Except.ok.injEq] at hev
  obtain ⟨_, -, _, -, text, htext, _, -, _, -, _, -, _, -, _, -, rfl⟩ := hev
  have hex : isHex64 (minimalProposal proposalId reasoning').proposalDigest = true := digestOf_hex
  rw [embeddedDigest_dump htext, (proposalArgs_binds hrow).2] at hd
  change Except.ok (Value.str (nfc (minimalProposal proposalId reasoning').proposalDigest)) = _ at hd
  rw [Platform.nfc_ascii _ (isHex64_ascii hex)] at hd
  exact differ (Value.str.inj (Except.ok.inj hd)).symm

end

/-- The bound evaluations of a proposal that was evaluated twice. -/
theorem evaluations_bound_twice :
    let _ := asciiEngine
    ∃ k : Config Database Call, clients.ReachableUnder sameProposal emptyStore k ∧
      k.store.evaluations.length = 2 ∧ BoundToProposal k.store := by
  intro _
  have proposalId : isUuid "00000000-0000-0000-0000-000000000001" = true := by decide
  have first : isUuid "00000000-0000-0000-0000-000000000002" = true := by decide
  have second : isUuid "00000000-0000-0000-0000-000000000003" = true := by decide
  obtain ⟨k, reached, two⟩ := twice_bound "reason" "gam-gate/1.0" "gam-gate/1.1" proposalId first
    second (by decide) (by decide) fun _ => rfl
  exact ⟨k, reached, two, evaluations_bound reached⟩

/-- A digest function that tells texts with the member `"reasoning":"other"` from the others. -/
def marked (text : String) : String :=
  match (Json.parse text).bind (Json.get? "reasoning") with
  | some (.str "other") => String.ofList (List.replicate 64 '1')
  | _ => zeroDigest

/-- The marking digest has its form. -/
lemma marked_hex (text : String) : isHex64 (marked text) = true := by
  unfold marked
  split
  · decide
  · decide

/-- An engine that keeps vectors as they are written, and whose digest tells the smallest proposal with the
reasoning "reason" from the one with the reasoning "other". -/
structure TellsReasoning (E : Engine) : Prop where
  vector : ∀ text, castVector text = .ok text
  differ : (minimalProposal "00000000-0000-0000-0000-000000000001" "reason").proposalDigest ≠
    (minimalProposal "00000000-0000-0000-0000-000000000001" "other").proposalDigest

/-- Some engine does. -/
lemma marked_tells : TellsReasoning { asciiEngine with sha256 := marked, sha256_hex := marked_hex } := by
  let _ : Engine := { asciiEngine with sha256 := marked, sha256_hex := marked_hex }
  refine ⟨fun _ => rfl, ?_⟩
  have digest := minimalProposal_reasoning "00000000-0000-0000-0000-000000000001"
  obtain ⟨text, ms, hd, hp, hl⟩ := digest "reason"
  obtain ⟨text', ms', hd', hp', hl'⟩ := digest "other"
  have hl : ms.lookup "reasoning" = some (.str "reason") := hl
  have hl' : ms'.lookup "reasoning" = some (.str "other") := hl'
  rw [hd, hd']
  change marked text ≠ marked text'
  simp [marked, hp, hp', Json.get?, hl, hl', zeroDigest]

/-- An evaluation need not be bound to its proposal: after a proposal with the reasoning "reason", a
re-evaluation of a snapshot with the reasoning "other" is stored, under every digest that tells them apart. -/
theorem evaluations_unbound :
    (∃ E : Engine, TellsReasoning E) ∧ ∀ E : Engine, TellsReasoning E →
      ∃ k : Config Database Call, (@clients E).Reachable emptyStore k ∧ ¬BoundToProposal k.store := by
  refine ⟨⟨_, marked_tells⟩, fun E tells => ?_⟩
  have proposalId : isUuid "00000000-0000-0000-0000-000000000001" = true := by decide
  have first : isUuid "00000000-0000-0000-0000-000000000002" = true := by decide
  have second : isUuid "00000000-0000-0000-0000-000000000003" = true := by decide
  exact reevaluation_unbinds "gam-gate/1.0" "gam-gate/1.1" proposalId first second (by decide) (by decide)
    tells.vector tells.differ

end GAM
