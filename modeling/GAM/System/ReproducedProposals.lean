import GAM.System.DurableProposals
import GAM.System.Refusals
import GAM.Traces.Binding

/-!
# Digests that a stored proposal reproduces

The executor computes the two digests of a proposal again after it was loaded. A proposal may be appended
under a snapshot whose embedding differs from its own in the sign of a zero, and the digests are those of
the snapshot. What is loaded equals the appended proposal and reproduces its digests exactly when the
proposal of the snapshot is `Durable`.
-/

namespace GAM
open Lib

section
variable [Platform]

/-- What the record digest of a proposal is taken of. -/
def proposalPayload (p : Proposal) : Value :=
  digestPayload [("schema", .str "gam.proposal.v1")] ["proposal_digest"] (toValue p)

/-- The digests of a proposal are its own, as the executor compares them. -/
structure Proposal.Authentic (p : Proposal) : Prop where
  record : proposalRecordDigest p = .ok p.proposalDigest
  action : proposalActionDigest p = .ok p.actionDigest

/-- Proposals with one encoding have their embeddings printed alike. -/
lemma Proposal.embedding_bound {p q : Proposal} (h : SameJson (proposalPayload p) (proposalPayload q)) :
    p.embedding.map Binary64.format17 = q.embedding.map Binary64.format17 := by
  have rel := @sameJson_dict _ [_, _, _, _, _, _, _, _, _, _, _, _, _, _, _, _, _, _, _, _, _, _]
    [_, _, _, _, _, _, _, _, _, _, _, _, _, _, _, _, _, _, _, _, _, _] h rfl
  simp only [List.forall₂_cons] at rel
  obtain ⟨-, -, -, -, -, -, -, -, -, -, -, -, -, -, -, -, -, -, embedding, -⟩ := rel
  exact sameJson_list embedding fun _ _ => sameJson_float

end

section
variable [Engine] {db db' : Database} {p q : Proposal} {s : EvaluationSnapshot} {r : EvaluationResult}
  {ids : String × String} {args row : ProposalRow}

/-- The numbers of the documents of a proposal are steady. -/
def Proposal.SteadyDocuments (p : Proposal) : Prop :=
  ∀ text ∈ [p.parametersJson, p.impactAssessmentJson, p.predictedOutcomeJson],
    ∀ j, Json.parse text = some j → ∀ n, .num n ∈ j.parts → Steady n

/-- A proposal in single precision is loaded as an equal one exactly when its documents are steady, and then
its embedding is loaded without the signs of its zeros. -/
lemma proposalFromMapping_equal (normal : Normal (toValue p)) (canonical : p.Identified)
    (single : ∀ x ∈ p.embedding, x.toSingle = some x) (keeps : KeepsVector p.embedding)
    (valid : FieldsValid p) (written : proposalArgs p = .ok args) (cast : castProposal args = .ok row) :
    (proposalFromMapping row.mapping = .ok q ∧ proposalEq q p = true) ↔
      p.SteadyDocuments ∧ q = { p with embedding := p.embedding.map unsignedZero } := by
  rw [Proposal.fieldsValid] at valid
  obtain ⟨parameters, impact, outcome, -⟩ := valid
  obtain ⟨writes, castParameters, castImpact, castOutcome, text, vector, castEmbedding⟩ :=
    castProposal_writes canonical written cast
  have read : readEmbedding row.embedding = .ok (p.embedding.map unsignedZero) := by
    rw [keeps text _ vector castEmbedding, readEmbedding_single single vector]
  rw [proposalFromMapping_columns normal writes, Proposal.SteadyDocuments, List.forall_mem_cons,
    List.forall_mem_cons, List.forall_mem_singleton, ← column_iff parameters castParameters,
    ← column_iff impact castImpact, ← column_iff outcome castOutcome]
  constructor
  · rintro ⟨⟨a, b, c, e, ha, hb, hc, he, rfl⟩, same⟩
    cases read.symm.trans he
    obtain ⟨fields, -⟩ := proposalEq_iff.mp same
    obtain ⟨rfl, rfl, rfl⟩ : a = p.parametersJson ∧ b = p.impactAssessmentJson ∧
        c = p.predictedOutcomeJson :=
      ⟨congrArg Proposal.parametersJson fields, congrArg Proposal.impactAssessmentJson fields,
        congrArg Proposal.predictedOutcomeJson fields⟩
    exact ⟨⟨ha, hb, hc⟩, rfl⟩
  · rintro ⟨⟨ha, hb, hc⟩, rfl⟩
    refine ⟨⟨_, _, _, _, ha, hb, hc, read, rfl⟩, proposalEq_iff.mpr ⟨rfl, ?_⟩⟩
    rw [List.forall₂_map_left_iff, List.forall₂_same]
    exact fun x hx => unsignedZero_eqv (Binary64.isFinite_of_toSingle (single x hx))

/-- The proposal writer and loader are inverse up to the digests exactly on durable proposals. What is
loaded of an appended proposal in single precision equals it and reproduces its two digests, as the executor
asks, exactly when the numbers of its documents are steady and the embedding under which the digests were
taken has no negative zero. -/
theorem proposalFromMapping_reproduces (normal : Normal (toValue p)) (canonical : p.Identified)
    (single : ∀ x ∈ p.embedding, x.toSingle = some x) (keeps : KeepsVector p.embedding)
    (appended : appendProposalAndEvaluation db p s r = .ok (ids, db'))
    (written : proposalArgs p = .ok args) (cast : castProposal args = .ok row)
    (distinct : ∀ q t t', proposalFromMapping row.mapping = .ok q →
      canonicalJson (proposalPayload q) = .ok t → canonicalJson (proposalPayload s.proposal) = .ok t' →
        sha256 t = sha256 t' → t = t') :
    (∃ q, proposalFromMapping row.mapping = .ok q ∧ proposalEq q p = true ∧ q.Authentic) ↔
      p.SteadyDocuments ∧ ∀ x ∈ s.proposal.embedding, unsignedZero x = x := by
  obtain ⟨bound, same, -⟩ := appendProposalAndEvaluation_ok appended
  obtain ⟨valid, finite⟩ := validateEvaluationBinding_proposal bound
  obtain ⟨-, -, action, record, -⟩ := validateEvaluationBinding_iff.mp bound
  obtain ⟨fields, components⟩ := proposalEq_iff.mp same
  have unsigned := components_unsigned components finite
  have loads : ∀ {q}, _ := fun {q} => @proposalFromMapping_equal _ p q args row normal canonical single keeps
    (proposalEq_valid same valid finite).1 written cast
  constructor
  · rintro ⟨q, loaded, equal, authentic⟩
    obtain ⟨steady, rfl⟩ := loads.mp ⟨loaded, equal⟩
    refine ⟨steady, ?_⟩
    have record' : canonicalSha256 (proposalPayload s.proposal) = .ok p.proposalDigest := by
      rw [show p.proposalDigest = s.proposal.proposalDigest by rw [fields]]
      exact record
    have one := sameJson_of_digest authentic.record record' fun t t' ht ht' => distinct _ t t' loaded ht ht'
    have printed := Proposal.embedding_bound one
    rw [← unsigned, List.map_map, List.map_inj_left] at printed
    exact fun x hx => format17_unsigned (printed x hx).symm
  · rintro ⟨steady, plain⟩
    have own : s.proposal = { p with embedding := p.embedding.map unsignedZero } := by
      rw [← unsigned, List.map_congr_left plain, List.map_id']
      exact fields
    obtain ⟨loaded, equal⟩ := loads.mpr ⟨steady, own⟩
    exact ⟨s.proposal, loaded, equal, record, action⟩

end

/-! ### A proposal with an assessment -/

section
variable [Engine] {impact : Json}

/-- The smallest proposal with an assessment of its own. -/
def assessedProposal (impact : Json) : Proposal :=
  sealedProposal { minimalBody "00000000-0000-0000-0000-000000000001" "reason" with
    impactAssessmentJson := impact.dumps }

/-- The assessed proposal's embedding is zero. -/
lemma assessedProposal_zeros : ∀ x ∈ (assessedProposal impact).embedding, x = .zero :=
  fun _ hx => List.eq_of_mem_replicate hx

/-- It is appended to the empty store, with the proposal of its snapshot. -/
lemma assessedProposal_appended (plain : PlainJson impact.dumps) (standard : isStandard impact = true)
    (vector : ∀ text, castVector text = .ok text) :
    ∃ s r row ids db', s.proposal = assessedProposal impact ∧
      appendProposalAndEvaluation emptyStore (assessedProposal impact) s r = .ok (ids, db') ∧
      proposalArgs (assessedProposal impact) = .ok row ∧ castProposal row = .ok row := by
  have finite : ∀ x ∈ (assessedProposal impact).embedding, x.isFinite = true :=
    fun x hx => assessedProposal_zeros x hx ▸ rfl
  have valid : validateProposal (assessedProposal impact) = .ok () :=
    sealedProposal_valid plainJson_value plain plainJson_empty rfl zeroDigest_hex
      ⟨rfl, List.length_replicate, finite⟩ ⟨rfl, rfl, rfl⟩
  have own : isUuid (assessedProposal impact).proposalId = true :=
    (by decide : isUuid "00000000-0000-0000-0000-000000000001" = true)
  have first : isUuid "00000000-0000-0000-0000-000000000002" = true := by decide
  let s := minimalSnapshot "00000000-0000-0000-0000-000000000002" (assessedProposal impact) none
  let r := minimalResult "gam-gate/1.0" s
  have named : s.evaluationId ≠ "" := (by decide : "00000000-0000-0000-0000-000000000002" ≠ "")
  have bound : validateEvaluationBinding s (.check r) = .ok () :=
    validateEvaluationBinding_iff.mpr ⟨⟨s, minimalSnapshot_valid valid named fun _ h => by cases h⟩,
      minimalResult_accepted named,
      sealedProposal_action, sealedProposal_record finite, digestOf_ok policyInputDigest_ok, rfl, rfl, rfl, rfl⟩
  obtain ⟨row, evaluation, written, -, appended⟩ := storable_proposed emptyStore
    (minimalBody_storable standard) valid own first vector (proposalEq_self (validateProposal_eqv valid)) bound
    ⟨rfl, rfl, rfl⟩ (fun _ h => absurd h List.not_mem_nil) (fun _ h => absurd h List.not_mem_nil)
    fun _ h => absurd h List.not_mem_nil
  obtain ⟨row', written', cast, -⟩ := (minimalBody_storable standard).columns valid own vector
  cases written.symm.trans written'
  exact ⟨s, _, row, _, _, rfl, appended, written, cast⟩

omit [Engine] in
/-- An assessment of one number that is rendered as it is printed. -/
lemma cost_tidy {n : Number} (own : renderNumber n = .ok n.print) : Tidy (.obj [("cost", .num n)]) := by
  have number : Tidy (.num n) := by
    intro p hp
    cases List.mem_singleton.mp hp
    exact own
  exact tidy_obj.mpr ⟨(by decide : PlainKeys ["cost"]), membersTidy_cons.mpr ⟨number, membersTidy_nil⟩⟩

end

/-- The premises of an appended proposal with an assessment, over columns that keep what is written. -/
lemma assessedProposal_premises {impact : Json} :
    let _ := asciiEngine
    Normal (toValue (assessedProposal impact)) ∧ (assessedProposal impact).Identified ∧
      (∀ x ∈ (assessedProposal impact).embedding, x.toSingle = some x) ∧
      KeepsVector (assessedProposal impact).embedding := by
  intro _
  have own : isUuid (assessedProposal impact).proposalId = true :=
    (by decide : isUuid "00000000-0000-0000-0000-000000000001" = true)
  refine ⟨normal_of_id (fun _ => rfl) _, ⟨own, ?_, ?_⟩, fun x hx => ?_, fun text column _ cast => ?_⟩
  · exact fun _ h => absurd h (Option.not_mem_none _)
  · exact fun _ h => absurd h (Option.not_mem_none _)
  · rw [assessedProposal_zeros x hx]
    rfl
  · cases (show castVector text = .ok text from rfl).symm.trans cast
    rfl

/-- An assessment ends in a zero after the point. The proposal is appended, and nothing equal to it is
loaded. -/
theorem proposalFromMapping_point :
    let _ := asciiEngine
    ∃ (p : Proposal) (s : EvaluationSnapshot) (r : EvaluationResult) (row : ProposalRow)
      (ids : String × String) (db' : Database),
      appendProposalAndEvaluation emptyStore p s r = .ok (ids, db') ∧ Normal (toValue p) ∧ p.Identified ∧
      (∀ x ∈ p.embedding, x.toSingle = some x) ∧ KeepsVector p.embedding ∧
      proposalArgs p = .ok row ∧ castProposal row = .ok row ∧
      p.impactAssessmentJson = (Json.obj [("cost", .num ⟨false, 1, [0], none⟩)]).dumps ∧
      ¬∃ q, proposalFromMapping row.mapping = .ok q ∧ proposalEq q p = true := by
  intro _
  have tidy := @cost_tidy ⟨false, 1, [0], none⟩ (by decide +kernel)
  obtain ⟨s, r, row, ids, db', about, appended, written, cast⟩ :=
    assessedProposal_appended tidy.canonical rfl fun _ => rfl
  obtain ⟨normal, canonical, single, keeps⟩ := @assessedProposal_premises
    (.obj [("cost", .num ⟨false, 1, [0], none⟩)])
  refine ⟨_, s, r, row, ids, db', appended, normal, canonical, single, keeps, written, cast, rfl, ?_⟩
  rintro ⟨q, loaded⟩
  obtain ⟨bound, -⟩ := appendProposalAndEvaluation_ok appended
  have valid := (validateEvaluationBinding_proposal bound).1
  rw [about] at valid
  obtain ⟨steady, -⟩ := (proposalFromMapping_equal normal canonical single keeps valid written cast).mp loaded
  have number := steady _ (List.mem_cons_of_mem _ List.mem_cons_self) _ (Json.parse_dumps _)
    ⟨false, 1, [0], none⟩ (by simp [Json.sortKeys, sortMembers, sortedBy, Json.parts, partsMembers])
  exact number.2.1 0 rfl rfl

/-- With a whole number in its place the proposal is loaded as it was and reproduces its digests. -/
theorem proposalFromMapping_reproduces_whole :
    let _ := asciiEngine
    ∃ (p q : Proposal) (s : EvaluationSnapshot) (r : EvaluationResult) (row : ProposalRow)
      (ids : String × String) (db' : Database),
      appendProposalAndEvaluation emptyStore p s r = .ok (ids, db') ∧
      p.impactAssessmentJson = (Json.obj [("cost", .num ⟨false, 1, [], none⟩)]).dumps ∧
      proposalArgs p = .ok row ∧ castProposal row = .ok row ∧
      proposalFromMapping row.mapping = .ok q ∧ proposalEq q p = true ∧ q.Authentic := by
  intro _
  have tidy := @cost_tidy ⟨false, 1, [], none⟩ (by decide +kernel)
  obtain ⟨s, r, row, ids, db', about, appended, written, cast⟩ :=
    assessedProposal_appended tidy.canonical rfl fun _ => rfl
  obtain ⟨normal, canonical, single, keeps⟩ := @assessedProposal_premises
    (.obj [("cost", .num ⟨false, 1, [], none⟩)])
  obtain ⟨bound, -⟩ := appendProposalAndEvaluation_ok appended
  have valid := (validateEvaluationBinding_proposal bound).1
  rw [about] at valid
  -- the documents hold one number, the integer one
  have one : Steady ⟨false, 1, [], none⟩ := by
    refine ⟨rfl, fun _ h => absurd h (Option.not_mem_none _), 1, 0, ?_, by decide, by decide⟩
    norm_num [Decimal.ofNumber, Decimal.value_finite]
  have steady : (assessedProposal (.obj [("cost", .num ⟨false, 1, [], none⟩)])).SteadyDocuments := by
    rw [Proposal.SteadyDocuments, List.forall_mem_cons, List.forall_mem_cons, List.forall_mem_singleton]
    refine ⟨steady_dumps dumps_value.symm ?_, steady_dumps rfl ?_, @steady_dumps (.obj []) _ rfl ?_⟩
    · simp [Json.parts, partsMembers]
    · simpa [Json.parts, partsMembers] using one
    · simp [Json.parts, partsMembers]
  have unsigned : ∀ x ∈ s.proposal.embedding, unsignedZero x = x := by
    rw [about]
    intro x hx
    rw [assessedProposal_zeros x hx]
    rfl
  have same : s.proposal = { s.proposal with embedding := s.proposal.embedding.map unsignedZero } := by
    rw [List.map_congr_left unsigned, List.map_id']
  rw [← about] at steady normal canonical single keeps valid written appended
  -- what is loaded is the proposal of the snapshot itself, so that no other text is compared
  have loads := (proposalFromMapping_equal normal canonical single keeps valid written cast).mpr
    ⟨steady, same⟩
  obtain ⟨q, loaded, equal, authentic⟩ := (proposalFromMapping_reproduces normal canonical single keeps
    appended written cast fun q t t' loaded ht ht' _ => by
      cases loads.1.symm.trans loaded
      exact Except.ok.inj (ht.symm.trans ht')).mpr ⟨steady, unsigned⟩
  exact ⟨_, q, s, r, row, ids, db', appended, congrArg Proposal.impactAssessmentJson about, written, cast,
    loaded, equal, authentic⟩

end GAM
