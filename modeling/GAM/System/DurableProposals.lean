import GAM.Memory.LoadedProposal
import GAM.System.Growth
import GAM.System.Progress

/-!
# What a stored proposal is loaded as

An appended proposal stays in the store whatever commits after it, and `get_proposal` returns it as it
was appended, in every later store, exactly when it is `Durable`.
-/

namespace GAM
open Lib

/-- A component that equals a finite one is finite. -/
lemma Binary64.isFinite_of_eqv {x y : Binary64} (same : x.eqv y = true) (finite : x.isFinite = true) :
    y.isFinite = true := by
  cases y with
  | finite => rfl
  | infinity => cases x with
    | finite => cases same
    | infinity | nan => cases finite
  | nan => cases x with
    | finite => cases same
    | infinity | nan => cases finite

section
variable [Platform] {p q : Proposal} {s : EvaluationSnapshot} {r : EvaluationResult}

omit [Platform] in
/-- Equal proposals differ at most in their embeddings, whose components are equal. -/
lemma proposalEq_iff : proposalEq p q = true ↔ p = { q with embedding := p.embedding } ∧
    List.Forall₂ (fun x y => x.eqv y = true) p.embedding q.embedding := by
  simp only [proposalEq, Bool.and_eq_true, decide_eq_true_eq, beq_iff_eq, List.all_eq_true, Prod.forall,
    List.forall₂_iff_zip, and_assoc]
  refine and_congr ⟨fun same => ?_, fun same => ?_⟩ Iff.rfl
  · exact congrArg (fun r : Proposal => { r with embedding := p.embedding }) same
  · rw [same]

omit [Platform] in
/-- Components that equal finite ones are finite. -/
lemma components_finite {a b : List Binary64} (same : List.Forall₂ (fun x y => x.eqv y = true) a b)
    (finite : ∀ x ∈ a, x.isFinite = true) : ∀ y ∈ b, y.isFinite = true := by
  induction same with
  | nil => exact finite
  | cons eqv _ ih =>
    rw [List.forall_mem_cons] at finite ⊢
    exact ⟨Binary64.isFinite_of_eqv eqv finite.1, ih finite.2⟩

omit [Platform] in
/-- Components that equal finite ones are the same without the signs of their zeros. -/
lemma components_unsigned {a b : List Binary64} (same : List.Forall₂ (fun x y => x.eqv y = true) a b)
    (finite : ∀ x ∈ a, x.isFinite = true) : a.map unsignedZero = b.map unsignedZero := by
  induction same with
  | nil => rfl
  | cons eqv _ ih =>
    rw [List.forall_mem_cons] at finite
    rw [List.map_cons, List.map_cons, unsignedZero_of_eqv eqv finite.1, ih finite.2]

/-- A proposal that equals an accepted one is accepted. -/
lemma proposalEq_valid (same : proposalEq p q = true) (valid : FieldsValid p)
    (finite : ∀ x ∈ p.embedding, x.isFinite = true) :
    FieldsValid q ∧ ∀ x ∈ q.embedding, x.isFinite = true := by
  obtain ⟨fields, components⟩ := proposalEq_iff.mp same
  refine ⟨?_, components_finite components finite⟩
  rw [fields, Proposal.fieldsValid] at valid
  rw [Proposal.fieldsValid]
  exact valid

/-- The proposal of a bound snapshot is accepted. -/
lemma validateEvaluationBinding_proposal (bound : validateEvaluationBinding s r = .ok ()) :
    FieldsValid s.proposal ∧ ∀ x ∈ s.proposal.embedding, x.isFinite = true := by
  obtain ⟨⟨v, valid⟩, -⟩ := validateEvaluationBinding_ok bound
  have accepted : validateProposal s.proposal = .ok () := by
    rw [validateSnapshot_eq] at valid
    simp only [validateBeforeDigest, bind_eq_ok, ensure_eq_ok, exists_unit] at valid
    tauto
  exact validateProposal_parts accepted

end

section
variable [Engine] {db db' : Database} {p : Proposal} {s : EvaluationSnapshot} {r : EvaluationResult}
  {ids : String × String} {row : ProposalRow}

/-- A stored proposal is loaded as the row that was written for it. -/
lemma getProposal_appended {later : Database} (canonical : isUuid p.proposalId = true)
    (written : IsProposalOf p row) (new : ∀ q ∈ db.proposals, q.id ≠ p.proposalId)
    (grown : db.proposals ++ [row] <+: later.proposals) :
    getProposal later p.proposalId = proposalFromMapping row.mapping := by
  have id : row.id = p.proposalId :=
    (Except.ok.inj ((castUuid_self canonical).symm.trans written.id)).symm
  have found : later.proposals.find? (fun row => row.id = p.proposalId) = some row :=
    find_appended (fun q hq => decide_eq_false (new q hq)) (decide_eq_true id) grown
  rw [getProposal, findRow, castUuid_self canonical, ok_bind, found]
  rfl

/-- In a later store an appended proposal is loaded as it was appended exactly when it is durable. -/
lemma getProposal_kept {later : Database} (normal : Normal (toValue p)) (canonical : p.Identified)
    (new : ∀ q ∈ db.proposals, q.id ≠ p.proposalId) (keeps : KeepsVector p.embedding)
    (appended : appendProposalAndEvaluation db p s r = .ok (ids, db')) (grown : db'.Grows later) :
    getProposal later p.proposalId = .ok p ↔ p.Durable := by
  obtain ⟨bound, same, -, -, -, append⟩ := appendProposalAndEvaluation_ok appended
  obtain ⟨id, cast, ⟨-, ⟨row, stored, named⟩, -⟩ | ⟨row, _, written, -, -, -, rfl⟩⟩ :=
    firstAppend_ok append
  · rw [castUuid_self canonical.own] at cast
    cases cast
    exact absurd named (new row stored)
  · obtain ⟨valid, finite⟩ := validateEvaluationBinding_proposal bound
    obtain ⟨valid, finite⟩ := proposalEq_valid same valid finite
    obtain ⟨args, ha, hc⟩ := written.args
    rw [getProposal_appended canonical.own written new grown.proposals]
    exact proposalFromMapping_durable normal canonical valid finite keeps ha hc

/-- In every store that is reached after a proposal was appended, `get_proposal` returns the proposal
as it was appended exactly when it is durable. -/
theorem getProposal_durable {guard} {calls : List Call} {k : Config Database Call}
    (normal : Normal (toValue p)) (canonical : p.Identified)
    (new : ∀ q ∈ db.proposals, q.id ≠ p.proposalId) (keeps : KeepsVector p.embedding)
    (appended : appendProposalAndEvaluation db p s r = .ok (ids, db'))
    (run : clients.Leads guard ⟨db', calls⟩ k) :
    getProposal k.store p.proposalId = .ok p ↔ p.Durable := by
  have grown : db'.Grows k.store := leads_grows run
  exact getProposal_kept normal canonical new keeps appended grown

end

/-- The numbers of a printed document are those of its tree. -/
lemma steady_dumps {j : Json} {text : String} (printed : text = j.dumps)
    (steady : ∀ n, .num n ∈ j.parts → Steady n) :
    ∀ j', Json.parse text = some j' → ∀ n, .num n ∈ j'.parts → Steady n := by
  intro j' parsed n hn
  rw [printed, Json.parse_dumps] at parsed
  cases parsed
  exact steady n (num_mem_sortKeys.mp hn)

/-- The smallest proposal is durable. -/
lemma minimalProposal_durable [Platform] (proposalId reasoning : String) :
    (minimalProposal proposalId reasoning).Durable := by
  constructor
  · rw [List.forall_mem_cons, List.forall_mem_cons, List.forall_mem_singleton]
    have empty := @steady_dumps (.obj []) _ rfl (by simp [Json.parts, partsMembers])
    refine ⟨steady_dumps dumps_value.symm ?_, empty, empty⟩
    simp [Json.parts, partsMembers]
  · intro x hx
    cases List.eq_of_mem_replicate hx
    exact ⟨rfl, rfl⟩

/-- The smallest proposal is loaded as it was appended. -/
theorem getProposal_durable_zeros :
    let _ := asciiEngine
    ∃ (p : Proposal) (s : EvaluationSnapshot) (r : EvaluationResult) (ids : String × String)
      (db' : Database), appendProposalAndEvaluation emptyStore p s r = .ok (ids, db') ∧
      getProposal db' p.proposalId = .ok p := by
  intro _
  have own : isUuid "00000000-0000-0000-0000-000000000001" = true := by decide
  have first : isUuid "00000000-0000-0000-0000-000000000002" = true := by decide
  have vector : ∀ text, castVector text = .ok text := fun _ => rfl
  obtain ⟨row, evaluation, -, -, appended⟩ := propose_succeeds emptyStore "none" "gam-gate/1.0" own
    first vector (fun _ h => absurd h List.not_mem_nil) (fun _ h => absurd h List.not_mem_nil)
    fun _ h => absurd h List.not_mem_nil
  have keeps : KeepsVector (minimalProposal "00000000-0000-0000-0000-000000000001" "none").embedding := by
    intro text column _ cast
    cases (vector text).symm.trans cast
    rfl
  have canonical : (minimalProposal "00000000-0000-0000-0000-000000000001" "none").Identified :=
    ⟨own, fun _ h => absurd h (Option.not_mem_none _), fun _ h => absurd h (Option.not_mem_none _)⟩
  refine ⟨_, _, _, _, _, appended, (@getProposal_durable _ _ _ _ _ _ _ Protocol.anyRun [] _
    (normal_of_id (fun _ => rfl) _) canonical (fun _ h => absurd h List.not_mem_nil) keeps appended
    .refl).mpr (minimalProposal_durable _ _)⟩

end GAM
