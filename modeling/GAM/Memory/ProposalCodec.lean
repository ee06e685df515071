import GAM.Memory.ResultCodec

/-!
# The proposal row codec

What `_proposal_from_mapping` makes of the row that `_proposal_args` writes: the text columns and the
lists come back as they were, the three JSON documents as `_plain_json` renders them, and the
embedding as its components are read from the vector column.
-/

namespace GAM
open Lib

section
variable [Platform]

/-- The components that are read from a loaded vector. -/
def componentsOf (raw : Value) : Except PyError (List Binary64) := do
  let items ← iterate raw
  let floats ← mapAll floatOf items
  normalizeEmbeddingVector floats

/-- The embedding that is read from the text of a vector column. -/
def readEmbedding (text : String) : Except PyError (List Binary64) := do
  let raw ← embeddingOf (.dict [("embedding", .str text)])
  componentsOf raw

/-- The columns of a proposal. -/
structure WritesProposal (p : Proposal) (row : ProposalRow) : Prop where
  evidence : dump (toValue p.evidenceRefs) = .ok row.evidence
  dependencies : dump (toValue p.dependencies) = .ok row.dependencies
  decision : row.sourceModifyDecisionValue = p.sourceModifyDecisionValue.map DecisionValue.value
  proposal : p = { p with
    proposalId := row.id, parentProposalId := row.parentProposalId,
    sourceModifyDecisionId := row.sourceModifyDecisionId, agentId := row.agentId,
    sessionId := row.sessionId, actionType := row.actionType, actionTypeKey := row.actionTypeKey,
    target := row.target, targetKey := row.targetKey, reasoning := row.reasoning,
    purpose := row.purpose, embeddingModel := row.embeddingModel,
    embeddingInputDigest := row.embeddingInputDigest, actionDigest := row.actionDigest,
    proposalDigest := row.proposalDigest }

/-- The columns of a row that hold a text, and those that may hold one. -/
lemma ProposalRow.texts (row : ProposalRow) :
    textField "agent_id" row.mapping = .ok row.agentId ∧
    textField "session_id" row.mapping = .ok row.sessionId ∧
    textField "action_type" row.mapping = .ok row.actionType ∧
    textField "action_type_key" row.mapping = .ok row.actionTypeKey ∧
    textField "target" row.mapping = .ok row.target ∧
    textField "target_key" row.mapping = .ok row.targetKey ∧
    textField "reasoning" row.mapping = .ok row.reasoning ∧
    textField "purpose" row.mapping = .ok row.purpose ∧
    textField "embedding_model" row.mapping = .ok row.embeddingModel ∧
    textField "embedding_input_digest" row.mapping = .ok row.embeddingInputDigest ∧
    textField "action_digest" row.mapping = .ok row.actionDigest ∧
    textField "proposal_digest" row.mapping = .ok row.proposalDigest ∧
    optTextField "parent_proposal_id" row.mapping = .ok row.parentProposalId ∧
    optTextField "source_modify_decision_id" row.mapping = .ok row.sourceModifyDecisionId :=
  ⟨rfl, rfl, rfl, rfl, rfl, rfl, rfl, rfl, rfl, rfl, rfl, rfl, optTextField_column rfl,
    optTextField_column rfl⟩

omit [Platform] in
/-- The JSON documents of a row. -/
lemma ProposalRow.documents (row : ProposalRow) :
    plainField "parameters" row.mapping = plainJson (.str row.parameters) ∧
    plainField "impact_assessment" row.mapping = plainJson (.str row.impactAssessment) ∧
    plainField "predicted_outcome" row.mapping = plainJson (.str row.predictedOutcome) :=
  ⟨rfl, rfl, rfl⟩

/-- The decision column of a row. -/
lemma optDecision_column {row : ProposalRow} {o : Option DecisionValue}
    (h : row.sourceModifyDecisionValue = o.map DecisionValue.value) :
    optEnumField decisionValueType "source_modify_decision_value" row.mapping = .ok o := by
  have found : getKey "source_modify_decision_value" row.mapping =
      .ok (toValue row.sourceModifyDecisionValue) := rfl
  have again : subscript "source_modify_decision_value" row.mapping =
      .ok (toValue row.sourceModifyDecisionValue) := rfl
  rw [optEnumField, found, enumField, again, h]
  cases o with
  | none => rfl
  | some d => cases d <;> rfl

/-- Three of the fields of a loaded proposal. -/
lemma proposalFromMapping_ok {raw : Value} {p : Proposal} (h : proposalFromMapping raw = .ok p) :
    (∃ default id, getKey "id" raw = .ok default ∧ getKeyOr "proposal_id" default raw = .ok id ∧
      p.proposalId = pyStr id) ∧
    textField "target" raw = .ok p.target ∧ textField "action_digest" raw = .ok p.actionDigest := by
  simp only [proposalFromMapping, bind_eq_ok, pure_eq_ok, Except.ok.injEq] at h
  obtain ⟨_, -, default, first, id, named, _, -, _, -, _, -, _, -, _, -, _, -, _, -, _, target, _, -, _,
    -, _, -, _, -, _, -, _, -, _, -, _, -, _, -, _, -, _, -, _, action, _, -, rfl⟩ := h
  exact ⟨⟨default, id, first, named, rfl⟩, target, action⟩

/-- The action, the target and the keys of a loaded proposal. -/
lemma proposalFromMapping_texts {raw : Value} {p : Proposal} (h : proposalFromMapping raw = .ok p) :
    textField "action_type" raw = .ok p.actionType ∧
    textField "action_type_key" raw = .ok p.actionTypeKey ∧ textField "target" raw = .ok p.target ∧
    textField "target_key" raw = .ok p.targetKey := by
  simp only [proposalFromMapping, bind_eq_ok, pure_eq_ok, Except.ok.injEq] at h
  obtain ⟨_, -, _, -, _, -, _, -, _, -, _, -, _, -, _, -, _, action, _, actionKey, _, target, _,
    targetKey, _, -, _, -, _, -, _, -, _, -, _, -, _, -, _, -, _, -, _, -, _, -, _, -, rfl⟩ := h
  exact ⟨action, actionKey, target, targetKey⟩

/-- A loaded proposal has the action, the target and the keys of its row. -/
lemma proposalFromMapping_keys {p : Proposal} {row : ProposalRow}
    (h : proposalFromMapping row.mapping = .ok p) :
    p.actionType = row.actionType ∧ p.actionTypeKey = row.actionTypeKey ∧ p.target = row.target ∧
      p.targetKey = row.targetKey := by
  obtain ⟨action, actionKey, target, targetKey⟩ := proposalFromMapping_texts h
  obtain ⟨-, -, action', actionKey', target', targetKey', -⟩ := ProposalRow.texts row
  rw [action'] at action
  rw [actionKey'] at actionKey
  rw [target'] at target
  rw [targetKey'] at targetKey
  exact ⟨(Except.ok.inj action).symm, (Except.ok.inj actionKey).symm, (Except.ok.inj target).symm,
    (Except.ok.inj targetKey).symm⟩

/-- A loaded proposal has the identifier, the target and the action digest of its row. -/
lemma proposalFromMapping_row {p : Proposal} {row : ProposalRow}
    (h : proposalFromMapping row.mapping = .ok p) :
    p.proposalId = row.id ∧ p.target = row.target ∧ p.actionDigest = row.actionDigest := by
  obtain ⟨⟨default, id, first, named, same⟩, target, action⟩ := proposalFromMapping_ok h
  obtain ⟨-, -, -, -, target', -, -, -, -, -, action', -, -, -⟩ := ProposalRow.texts row
  have first' : getKey "id" row.mapping = .ok (.str row.id) := rfl
  have named' : getKeyOr "proposal_id" (.str row.id) row.mapping = .ok (.str row.id) := rfl
  rw [first'] at first
  cases first
  rw [named'] at named
  cases named
  rw [target'] at target
  rw [action'] at action
  exact ⟨by rw [same, pyStr_str], (Except.ok.inj target).symm, (Except.ok.inj action).symm⟩

/-- What a written proposal is loaded as. -/
lemma proposalFromMapping_columns {p q : Proposal} {row : ProposalRow} (hn : Normal (toValue p))
    (h : WritesProposal p row) : proposalFromMapping row.mapping = .ok q ↔
      ∃ parameters impact predicted embedding, plainJson (.str row.parameters) = .ok parameters ∧
        plainJson (.str row.impactAssessment) = .ok impact ∧
        plainJson (.str row.predictedOutcome) = .ok predicted ∧
        readEmbedding row.embedding = .ok embedding ∧
        q = { p with
          parametersJson := parameters, impactAssessmentJson := impact,
          predictedOutcomeJson := predicted, embedding := embedding } := by
  obtain ⟨agent, session, type, typeKey, target, targetKey, reasoning, purpose, model, input, action,
    record, parent, source⟩ := ProposalRow.texts row
  obtain ⟨parameters, impact, predicted⟩ := ProposalRow.documents row
  have decision := optDecision_column h.decision
  have evidence : listField evidenceOf "evidence" row.mapping = .ok p.evidenceRefs :=
    listField_dumped rfl h.evidence fun a ha =>
      evidence_decodes (normal_field hn "evidence_refs" (by simp) a ha)
  have dependencies : listField dependencyOf "dependencies" row.mapping = .ok p.dependencies :=
    listField_dumped rfl h.dependencies fun a ha =>
      dependency_decodes (normal_field hn "dependencies" (by simp) a ha)
  have vector : embeddingOf row.mapping = embeddingOf (.dict [("embedding", .str row.embedding)]) :=
    rfl
  have id : getKey "id" row.mapping = .ok (.str row.id) := rfl
  have named : getKeyOr "proposal_id" (.str row.id) row.mapping = .ok (.str row.id) := rfl
  simp only [proposalFromMapping, readEmbedding, vector]
  cases embeddingOf (.dict [("embedding", .str row.embedding)]) with
  | error e => simp
  | ok raw =>
    simp only [id, named, ok_bind, agent, session, type, typeKey, target, targetKey, reasoning,
      purpose, model, input, action, record, parent, source, decision, evidence, dependencies,
      parameters, impact, predicted, pyStr_str, bind_eq_ok, pure_eq_ok, Except.ok.injEq]
    rw [h.proposal]
    constructor
    · rintro ⟨a, ha, b, hb, c, hc, e, he, rfl⟩
      refine ⟨a, b, c, e, ha, hb, hc, ?_, rfl⟩
      simpa only [componentsOf, bind_eq_ok] using he
    · rintro ⟨a, b, c, e, ha, hb, hc, he, rfl⟩
      refine ⟨a, ha, b, hb, c, hc, e, ?_, rfl⟩
      simpa only [componentsOf, bind_eq_ok] using he

end

end GAM
