import GAM.Governance.Minimal
import GAM.Memory.ResultCodec
import GAM.System.History

/-!
# Transactions that succeed

When the identifiers of a valid finalized result are canonical and new and what it refers to is
stored, its insert passes every constraint of the schema. The smallest proposals and their results
can be appended to any store in which they are new, so that runs of the clients exist.
-/

namespace GAM
open Lib

section
variable [Engine] {db : Database}

/-- The columns of a written row under canonical identifiers are its arguments. -/
lemma castEvaluation_self {proposalId s r args} (h : evaluationArgs proposalId s r = .ok args)
    (hid : isUuid args.id = true) (hp : isUuid args.proposalId = true)
    (hprior : ∀ prior ∈ args.priorEvaluationId, isUuid prior = true) :
    castEvaluation args = .ok args := by
  have prior := castOptUuid_self hprior
  have delivered := deliverEvaluation_self h
  simp only [deliverEvaluation, bind_eq_ok, pure_eq_ok, Except.ok.injEq] at delivered
  obtain ⟨_, h₁, _, h₂, _, h₃, _, h₄, _, h₅, _, h₆, _, h₇, _, h₈, he⟩ := delivered
  simp only [castEvaluation, castUuid_self hid, castUuid_self hp, prior, h₁, h₂, h₃, h₄, h₅, h₆,
    h₇, h₈, ok_bind, pure_eq_ok]
  exact congrArg Except.ok he

/-- A valid finalized result is stored when it is new and what it refers to is stored. -/
lemma storeEvaluation_succeeds (db : Database) {proposalId s} {r : CheckResult}
    (hb : validateEvaluationBinding s (.check r) = .ok ()) (hid : isUuid r.evaluationId = true)
    (hp : isUuid proposalId = true) (home : ∃ p ∈ db.proposals, p.id = proposalId)
    (fresh : ∀ row ∈ db.evaluations, row.id ≠ r.evaluationId)
    (unlike : ∀ row ∈ db.evaluations,
      row.proposalId ≠ proposalId ∨ row.evaluatorVersion ≠ r.evaluatorVersion)
    (prior : ∀ prior ∈ r.priorEvaluationId,
      ∃ row ∈ db.evaluations, row.id = prior ∧ row.proposalId = proposalId ∧ isUuid prior = true)
    (changed : r.priorEvaluationId ≠ none ∨ r.changedFactRuleIds = []) :
    ∃ row, evaluationArgs proposalId s (.check r) = .ok row ∧
      storeEvaluation db proposalId s (.check r) =
        .ok { db with evaluations := db.evaluations ++ [row] } := by
  obtain ⟨args, ha⟩ := evaluationArgs_ok hb proposalId
  have valid := (validateEvaluationBinding_ok hb).2
  simp only [validateResult, validateCheckResult, bind_eq_ok, ensure_eq_ok, exists_unit,
    validateFields_toValue, CheckResult.fieldsValid] at valid
  obtain ⟨_, ⟨⟨-, -, config, snapshot, policy, digest⟩, -, -, -, -, profile, -⟩, -⟩ := valid
  -- the identifiers are canonical, so the columns take the row as it is
  have cast : castEvaluation args = .ok args := by
    refine castEvaluation_self ha ?_ ?_ ?_ <;>
      simp only [evaluationArgs, bind_eq_ok, pure_eq_ok, Except.ok.injEq] at ha <;>
      obtain ⟨_, -, _, -, _, -, _, -, _, -, _, -, _, -, _, -, rfl⟩ := ha
    · exact hid
    · exact hp
    · intro x hx
      obtain ⟨-, -, -, -, hu⟩ := prior x hx
      exact hu
  refine ⟨args, ha, ?_⟩
  simp only [storeEvaluation, ha, cast, ok_bind]
  simp only [evaluationArgs, bind_eq_ok, pure_eq_ok, Except.ok.injEq] at ha
  obtain ⟨_, hp, _, hw, _, hs, _, hl, _, ht, _, hg, _, hd, _, hc, rfl⟩ := ha
  simp only [insertEvaluation, bind_eq_ok, ensure_eq_ok, exists_unit, pure_eq_ok]
  -- the checks of the table in its order
  refine ⟨⟨jsonbTypeof_record hs, jsonbTypeof_record hl, jsonbTypeof_tuple ht, jsonbTypeof_tuple hg,
    jsonbTypeof_tuple hd, jsonbTypeof_tuple hp, jsonbTypeof_tuple hw, jsonbTypeof_tuple hc⟩,
    .inl ⟨trivial, by simp, by simp, by simp, trivial⟩, .inr trivial, ⟨isDigestLength_of_hex config,
    isDigestLength_of_hex snapshot, isDigestLength_of_hex policy, isDigestLength_of_hex digest,
    fun v hv e => profile (e ▸ hv)⟩, ?_, fresh, ?_, home, ?_, trivial⟩
  · rcases changed with h | h
    · exact .inl h
    · rw [h] at hc
      cases hc
      exact .inr rfl
  · intro row hrow e
    simp only [Prod.mk.injEq] at e
    rcases unlike row hrow with h | h
    · exact h e.1
    · exact h e.2.1
  · intro x hx
    obtain ⟨row, hrow, rfl, hproposal, -⟩ := prior x hx
    exact ⟨row, List.mem_cons_of_mem _ hrow, Prod.ext rfl hproposal⟩

/-! ### Proposals -/

/-- The columns that bind a written proposal. -/
lemma proposalArgs_binds {p : Proposal} {row : ProposalRow} (h : proposalArgs p = .ok row) :
    row.id = p.proposalId ∧ row.proposalDigest = p.proposalDigest := by
  simp only [proposalArgs, bind_eq_ok, pure_eq_ok, Except.ok.injEq] at h
  obtain ⟨_, -, _, -, _, -, rfl⟩ := h
  exact ⟨rfl, rfl⟩

omit [Engine] in
/-- A proposal without a component that differs from itself equals itself. -/
lemma proposalEq_self {p : Proposal} (h : ∀ x ∈ p.embedding, x.eqv x = true) :
    proposalEq p p = true := by
  have zipped : ∀ x ∈ p.embedding.zip p.embedding, x.1.eqv x.2 = true := by
    intro x hx
    rw [List.zip_eq_zipWith, List.zipWith_self] at hx
    obtain ⟨y, hy, rfl⟩ := List.mem_map.mp hx
    exact h y hy
  simp only [proposalEq, decide_true, beq_self_eq_true, Bool.and_self, Bool.true_and,
    List.all_eq_true]
  exact zipped

omit [Engine] in
/-- The fields of a valid proposal are valid, and its components are finite. -/
lemma validateProposal_parts [Platform] {p : Proposal} (valid : validateProposal p = .ok ()) :
    FieldsValid p ∧ ∀ x ∈ p.embedding, x.isFinite = true := by
  simp only [validateProposal, bind_eq_ok, ensure_eq_ok, exists_unit, validateFields_toValue,
    List.all_eq_true] at valid
  exact ⟨valid.1, valid.2.1.2.2⟩

omit [Engine] in
/-- The components of a valid proposal equal themselves. -/
lemma validateProposal_eqv [Platform] {p : Proposal} (valid : validateProposal p = .ok ()) :
    ∀ x ∈ p.embedding, x.eqv x = true :=
  fun x hx => Binary64.eqv_self ((validateProposal_parts valid).2 x hx)

/-- A proposal without lineage, whose documents are stored as they are and whose parameters are an
object. -/
structure Proposal.Storable (p : Proposal) : Prop where
  parameters : castJsonb p.parametersJson = .ok p.parametersJson
  impact : castJsonb p.impactAssessmentJson = .ok p.impactAssessmentJson
  predicted : castJsonb p.predictedOutcomeJson = .ok p.predictedOutcomeJson
  object : jsonbTypeof p.parametersJson = "object"
  root : p.parentProposalId = none ∧ p.sourceModifyDecisionId = none ∧ p.sourceModifyDecisionValue = none

/-- The columns of such a proposal are its arguments, and they meet the constraints of the schema. -/
lemma Proposal.Storable.columns {p : Proposal} (h : p.Storable) (valid : validateProposal p = .ok ())
    (own : isUuid p.proposalId = true) (vector : ∀ text, castVector text = .ok text) :
    ∃ row, proposalArgs p = .ok row ∧ castProposal row = .ok row ∧ ∀ db : Database,
      (∀ q ∈ db.proposals, q.id ≠ p.proposalId) →
        insertProposal db row = .ok { db with proposals := db.proposals ++ [row] } := by
  simp only [validateProposal, bind_eq_ok, ensure_eq_ok, exists_unit, validateFields_toValue,
    Proposal.fieldsValid] at valid
  obtain ⟨⟨-, -, -, -, input, action, record⟩, ⟨model, size, -⟩, -⟩ := valid
  obtain ⟨parent, decision, value⟩ := h.root
  have evidence : ∃ text, dump (toValue p.evidenceRefs) = .ok text :=
    dump_ok (encodes_tuple.mpr (by simp))
  have dependencies : ∃ text, dump (toValue p.dependencies) = .ok text :=
    dump_ok (encodes_tuple.mpr (by simp))
  obtain ⟨evidence, he⟩ := evidence
  obtain ⟨dependencies, hd⟩ := dependencies
  have text : ∃ text, vectorText p.embedding = .ok text := ⟨_, by rw [vectorText, ensure_pos size]; rfl⟩
  obtain ⟨text, ht⟩ := text
  refine ⟨_, by rw [proposalArgs, he, hd, ht]; rfl, ?_, fun db new => ?_⟩
  · simp only [castProposal, castUuid_self own, parent, decision, castOptUuid, h.parameters, h.impact,
      h.predicted, castJsonb_dump he, castJsonb_dump hd, vector, ok_bind, pure_eq_ok]
  · simp only [insertProposal, bind_eq_ok, ensure_eq_ok, exists_unit, pure_eq_ok, parent, decision, value]
    exact ⟨model, ⟨jsonbTypeof_tuple he, h.object, jsonbTypeof_tuple hd⟩, ⟨isDigestLength_of_hex input,
      isDigestLength_of_hex action, isDigestLength_of_hex record⟩, .inl ⟨trivial, trivial, rfl⟩, new,
      fun _ hq => absurd hq (Option.not_mem_none _), fun _ hq => absurd hq (Option.not_mem_none _), trivial⟩

/-- Such a proposal is appended with a first result that is bound to its snapshot. -/
lemma storable_proposed {p : Proposal} {s : EvaluationSnapshot} {r : CheckResult} (db : Database)
    (h : p.Storable) (valid : validateProposal p = .ok ()) (own : isUuid p.proposalId = true)
    (he : isUuid r.evaluationId = true) (vector : ∀ text, castVector text = .ok text)
    (same : proposalEq s.proposal p = true) (bound : validateEvaluationBinding s (.check r) = .ok ())
    (first : s.priorEvaluation = none ∧ r.priorEvaluationId = none ∧ r.changedFactRuleIds = [])
    (newProposal : ∀ row ∈ db.proposals, row.id ≠ p.proposalId)
    (newEvaluation : ∀ row ∈ db.evaluations, row.id ≠ r.evaluationId)
    (unlike : ∀ row ∈ db.evaluations, row.proposalId ≠ p.proposalId) :
    ∃ row evaluation, proposalArgs p = .ok row ∧
      evaluationArgs p.proposalId s (.check r) = .ok evaluation ∧
      appendProposalAndEvaluation db p s (.check r) =
        .ok ((p.proposalId, r.evaluationId), { db with
          proposals := db.proposals ++ [row], evaluations := db.evaluations ++ [evaluation] }) := by
  obtain ⟨row, written, cast, inserts⟩ := h.columns valid own vector
  have unstored : db.proposals.find? (fun r => r.id = p.proposalId) = none := by
    rw [List.find?_eq_none]
    intro r hr
    simpa using newProposal r hr
  obtain ⟨evaluation, args, stored⟩ := storeEvaluation_succeeds
    { db with proposals := db.proposals ++ [row] } bound he own
    ⟨row, List.mem_append_right _ List.mem_cons_self, (proposalArgs_binds written).1⟩ newEvaluation
    (fun r hr => .inl (unlike r hr)) (by simp [first.2.1]) (.inr first.2.2)
  refine ⟨row, evaluation, written, args, ?_⟩
  rw [appendProposalAndEvaluation, bound, ok_bind, ensure_pos ⟨same, first⟩, ok_bind, firstAppend,
    castUuid_self own, ok_bind, unstored]
  simp only [written, cast, inserts db newProposal, ok_bind, stored]
  rfl

/-! ### The smallest records -/

section
variable {proposalId reasoning evaluationId version : String} {prior : Option PriorEvaluationTrace}

/-- The smallest result is bound to its snapshot. -/
lemma minimal_bound (hid : evaluationId ≠ "")
    (hprior : ∀ x ∈ prior, validatePrior x proposalId = .ok ()) :
    let s := minimalSnapshot evaluationId (minimalProposal proposalId reasoning) prior
    validateEvaluationBinding s (.check (minimalResult version s)) = .ok () :=
  minimal_binding hid hprior (minimalResult_accepted hid) ⟨rfl, rfl, rfl, rfl⟩

/-- The documents of a proposal to set a demo value are stored as they are. -/
lemma minimalBody_storable {impact : Json} (standard : isStandard impact = true) :
    (sealedProposal { minimalBody proposalId reasoning with impactAssessmentJson := impact.dumps }).Storable := by
  have value : castJsonb "\x7b\"value\":true\x7d" = .ok "\x7b\"value\":true\x7d" ∧
      jsonbTypeof "\x7b\"value\":true\x7d" = "object" := by
    rw [jsonbTypeof, ← dumps_value, Json.parse_dumps]
    exact ⟨castJsonb_dumps rfl, rfl⟩
  have empty : castJsonb (Json.obj []).dumps = .ok (Json.obj []).dumps := castJsonb_dumps rfl
  exact ⟨value.1, castJsonb_dumps standard, empty, value.2, ⟨rfl, rfl, rfl⟩⟩

/-- The smallest proposal is appended with a first result that is bound to its snapshot. -/
lemma propose_result {s : EvaluationSnapshot} {r : CheckResult} (db : Database)
    (hp : isUuid proposalId = true) (he : isUuid r.evaluationId = true)
    (vector : ∀ text, castVector text = .ok text)
    (about : s.proposal = minimalProposal proposalId reasoning)
    (bound : validateEvaluationBinding s (.check r) = .ok ())
    (first : s.priorEvaluation = none ∧ r.priorEvaluationId = none ∧ r.changedFactRuleIds = [])
    (newProposal : ∀ row ∈ db.proposals, row.id ≠ proposalId)
    (newEvaluation : ∀ row ∈ db.evaluations, row.id ≠ r.evaluationId)
    (unlike : ∀ row ∈ db.evaluations, row.proposalId ≠ proposalId) :
    ∃ row evaluation, proposalArgs (minimalProposal proposalId reasoning) = .ok row ∧
      evaluationArgs proposalId s (.check r) = .ok evaluation ∧
      appendProposalAndEvaluation db (minimalProposal proposalId reasoning) s (.check r) =
        .ok ((proposalId, r.evaluationId), { db with
          proposals := db.proposals ++ [row], evaluations := db.evaluations ++ [evaluation] }) := by
  have valid := minimalProposal_valid proposalId reasoning
  have same : proposalEq s.proposal (minimalProposal proposalId reasoning) = true := by
    rw [about]
    exact proposalEq_self (validateProposal_eqv valid)
  have storable : (minimalProposal proposalId reasoning).Storable := @minimalBody_storable _ _ _ (.obj []) rfl
  exact storable_proposed db storable valid hp he vector same bound first newProposal newEvaluation
    unlike

/-- The smallest proposal is stored with its first result when both are new. -/
lemma propose_succeeds (db : Database) (reasoning version : String) (hp : isUuid proposalId = true)
    (he : isUuid evaluationId = true) (vector : ∀ text, castVector text = .ok text)
    (newProposal : ∀ row ∈ db.proposals, row.id ≠ proposalId)
    (newEvaluation : ∀ row ∈ db.evaluations, row.id ≠ evaluationId)
    (unlike : ∀ row ∈ db.evaluations, row.proposalId ≠ proposalId) :
    let p := minimalProposal proposalId reasoning
    let s := minimalSnapshot evaluationId p none
    ∃ row evaluation, proposalArgs p = .ok row ∧
      evaluationArgs proposalId s (.check (minimalResult version s)) = .ok evaluation ∧
      appendProposalAndEvaluation db p s (.check (minimalResult version s)) =
        .ok ((proposalId, evaluationId), { db with
          proposals := db.proposals ++ [row], evaluations := db.evaluations ++ [evaluation] }) := by
  intro p s
  have nonempty : evaluationId ≠ "" := by
    rintro rfl
    exact absurd he (by decide)
  have bound : validateEvaluationBinding s (.check (minimalResult version s)) = .ok () :=
    minimal_bound nonempty fun _ h => by cases h
  exact propose_result db hp he vector rfl bound ⟨rfl, rfl, rfl⟩ newProposal newEvaluation unlike

/-- The smallest re-evaluation after the latest, finalized result is stored when it is new. -/
lemma reevaluate_succeeds {db : Database} {r v : CheckResult} {latest : EvaluationRow}
    (reasoning version : String) (hp : isUuid proposalId = true) (he : isUuid evaluationId = true)
    (valid : validateCheckResult r = .ok v) (isLatest : db.latest proposalId = some latest)
    (canonical : isUuid latest.id = true) (hid : latest.id = r.evaluationId)
    (digest : latest.traceDigest = r.traceDigest) (home : ∃ p ∈ db.proposals, p.id = proposalId)
    (newEvaluation : ∀ row ∈ db.evaluations, row.id ≠ evaluationId)
    (unlike : ∀ row ∈ db.evaluations, row.proposalId ≠ proposalId ∨ row.evaluatorVersion ≠ version) :
    let s := minimalSnapshot evaluationId (minimalProposal proposalId reasoning)
      (some (priorOfResult r proposalId))
    ∃ evaluation,
      evaluationArgs proposalId s (.check (minimalResult version s)) = .ok evaluation ∧
      appendReEvaluation db s (.check (minimalResult version s)) =
        .ok ((proposalId, evaluationId), { db with evaluations := db.evaluations ++ [evaluation] }) := by
  intro s
  have nonempty : evaluationId ≠ "" := by
    rintro rfl
    exact absurd he (by decide)
  have bound : validateEvaluationBinding s (.check (minimalResult version s)) = .ok () := by
    refine minimal_bound nonempty fun x hx => ?_
    cases hx
    exact priorOfResult_valid valid
  obtain ⟨hl, hh⟩ := mem_history.mp (List.mem_of_getLast? isLatest)
  have unstored : db.evaluations.find? (fun r => r.id = evaluationId) = none := by
    rw [List.find?_eq_none]
    intro r hr
    simpa using newEvaluation r hr
  obtain ⟨evaluation, hargs, hstore⟩ := storeEvaluation_succeeds db bound he hp home newEvaluation unlike
    (fun x hx => by
      cases hx
      exact ⟨latest, hl, hid, hh, (hid ▸ canonical : isUuid r.evaluationId = true)⟩) (.inl nofun)
  refine ⟨evaluation, hargs, ?_⟩
  have fits : ∃ l ∈ db.latest proposalId, l.id = (priorOfResult r proposalId).evaluationId ∧
      l.traceDigest = (priorOfResult r proposalId).traceDigest := ⟨latest, isLatest, hid, digest⟩
  have named : castUuid (EvaluationResult.check (minimalResult version s)).evaluationId =
      .ok evaluationId := castUuid_self he
  have about : castUuid s.proposal.proposalId = .ok proposalId := castUuid_self hp
  have prior : s.priorEvaluation = some (priorOfResult r proposalId) := rfl
  rw [appendReEvaluation, bound, ok_bind, prior]
  simp only [nextAppend, named, ok_bind, unstored, about, ensure_pos fits]
  rw [ensure_pos ⟨rfl, rfl⟩, ok_bind, show s.proposal.proposalId = proposalId from rfl, hstore]
  rfl

/-- Some proposal is appended to the empty store and evaluated once more, the proposal in the second
snapshot with a reasoning of its own. -/
lemma evaluated_twice (reasoning reasoning' version version' : String) {first second : String}
    (hp : isUuid proposalId = true) (hf : isUuid first = true) (hs : isUuid second = true) (distinct : first ≠ second)
    (versions : version ≠ version') (vector : ∀ text, castVector text = .ok text) :
    let p := minimalProposal proposalId reasoning
    let s := minimalSnapshot first p none
    let r := minimalResult version s
    let s' := minimalSnapshot second (minimalProposal proposalId reasoning')
      (some (priorOfResult r proposalId))
    let r' := minimalResult version' s'
    ∃ row evaluation evaluation', proposalArgs p = .ok row ∧
      evaluationArgs proposalId s (.check r) = .ok evaluation ∧
      evaluationArgs proposalId s' (.check r') = .ok evaluation' ∧
      Runs emptyStore (.propose p s (.check r))
        { proposals := [row], evaluations := [evaluation] } .done ∧
      Runs { proposals := [row], evaluations := [evaluation] } (.reevaluate s' (.check r'))
        { proposals := [row], evaluations := [evaluation, evaluation'] } .done := by
  intro p s r s' r'
  obtain ⟨row, evaluation, hrow, hev, hpropose⟩ := propose_succeeds emptyStore reasoning
    version hp hf vector (fun _ h => by cases h)
    (fun _ h => by cases h) (fun _ h => by cases h)
  have home : row.id = proposalId := (proposalArgs_binds hrow).1
  have columns : evaluation.id = first ∧ evaluation.proposalId = proposalId ∧
      evaluation.evaluatorVersion = version ∧ evaluation.traceDigest = r.traceDigest := by
    have h := hev
    simp only [evaluationArgs, bind_eq_ok, pure_eq_ok, Except.ok.injEq] at h
    obtain ⟨_, -, _, -, _, -, _, -, _, -, _, -, _, -, _, -, rfl⟩ := h
    exact ⟨rfl, rfl, rfl, rfl⟩
  obtain ⟨id, about, produced, digest⟩ := columns
  have nonempty : first ≠ "" := by
    rintro rfl
    exact absurd hf (by decide)
  have valid : validateCheckResult r = .ok r :=
    minimalResult_valid nonempty digestOf_hex digestOf_hex (Option.some_ne_none "").symm
  have isLatest : Database.latest { proposals := [row], evaluations := [evaluation] } proposalId =
      some evaluation := by simp [Database.latest, Database.history, about]
  obtain ⟨evaluation', hev', hreevaluate⟩ := reevaluate_succeeds reasoning'
    version' hp hs valid isLatest (id ▸ hf) id digest
    ⟨row, List.mem_cons_self, home⟩
    (fun e he => by
      cases List.mem_singleton.mp he
      exact id ▸ distinct)
    (fun e he => by
      cases List.mem_singleton.mp he
      exact .inr (produced ▸ versions))
  exact ⟨row, evaluation, evaluation', hrow, hev, hev', .proposed hpropose, .reevaluated hreevaluate⟩

end

end

end GAM
