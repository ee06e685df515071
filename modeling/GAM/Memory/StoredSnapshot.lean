import GAM.Governance.Minimal
import GAM.Memory.ReadBack

/-!
# Stored snapshots

A snapshot is stored by `_dump`, which writes every record under its own field names, and loaded by
`_snapshot_from_json`, which reads the proposal in it as a row of the proposals table. The row names
its JSON columns `parameters`, `impact_assessment` and `predicted_outcome`, the record
`parameters_json` and so on, so no stored snapshot is decoded.
-/

namespace GAM
open Lib

section
variable [Platform]

mutual

/-- What a textual value is written as can be read. -/
lemma Textual.loads : ∀ {v j}, Textual v → canonicalValue v = .ok j → Loads j
  | .none, _, _, h | .bool _, _, _, h | .str _, _, _, h => by
    cases h
    simp
  | .float x, j, _, h => by
    rw [canonicalValue] at h
    split at h
    · cases h
      simp
    · cases h
  | .decimal d, j, _, h => by
    simp only [canonicalValue, bind_eq_ok, pure_eq_ok, Except.ok.injEq] at h
    obtain ⟨text, -, rfl⟩ := h
    simp
  | .enum type member, j, _, h => by
    rw [canonicalValue] at h
    split at h
    · cases h
      simp
    · cases h
  | .tuple l, j, ht, h => by
    simp only [canonicalValue, bind_eq_ok, pure_eq_ok, Except.ok.injEq] at h
    obtain ⟨js, hjs, rfl⟩ := h
    exact loads_arr.mpr (Textual.loadsElems (by simpa [Textual] using ht) hjs)
  | .record fields, j, ht, h => by
    simp only [canonicalValue, bind_eq_ok, pure_eq_ok, Except.ok.injEq] at h
    obtain ⟨ms, hms, rfl⟩ := h
    exact loads_obj.mpr (Textual.loadsFields (textual_record.mp ht) hms)
  | .int _, _, ht, _ | .list _, _, ht, _ | .dict _, _, ht, _ | .points _, _, ht, _
  | .textDict _, _, ht, _ => by cases ht

lemma Textual.loadsElems :
    ∀ {l js}, (∀ v ∈ l, Textual v) → canonicalElems l = .ok js → ∀ j ∈ js, Loads j
  | [], _, _, h => by
    cases h
    simp
  | v :: l, _, ht, h => by
    rw [List.forall_mem_cons] at ht
    simp only [canonicalElems, bind_eq_ok, pure_eq_ok, Except.ok.injEq] at h
    obtain ⟨j, hj, js, hjs, rfl⟩ := h
    exact List.forall_mem_cons.mpr ⟨ht.1.loads hj, Textual.loadsElems ht.2 hjs⟩

lemma Textual.loadsFields :
    ∀ {l ms}, TextualFields l → canonicalFields l = .ok ms → MembersLoad ms
  | [], _, _, h => by
    cases h
    exact membersLoad_nil
  | (_, v) :: l, _, ht, h => by
    rw [textualFields_cons] at ht
    simp only [canonicalFields, bind_eq_ok, pure_eq_ok, Except.ok.injEq] at h
    obtain ⟨j, hj, ms, hms, rfl⟩ := h
    exact membersLoad_cons.mpr ⟨ht.1.loads hj, Textual.loadsFields ht.2 hms⟩

end

/-- An encoded textual value is read back as something. -/
lemma Textual.readsBack {v : Value} (ht : Textual v) (h : Encodes v) : ∃ w, ReadsBack v w := by
  obtain ⟨-, j, hj⟩ := h
  obtain ⟨w, hw⟩ := (loads_sortKeys j).mpr (ht.loads hj)
  exact ⟨w, j, hj, hw⟩

/-- A validated snapshot is encoded: its digest covered all other fields. -/
lemma validateSnapshot_encodes {s t : EvaluationSnapshot} (h : validateSnapshot s = .ok t) :
    Encodes (toValue s) := by
  simp only [validateSnapshot, bind_eq_ok] at h
  obtain ⟨-, -, -, -, -, -, -, -, -, -, -, -, -, -, d, hd, -⟩ := h
  have fields := canonicalSha256_dict hd
  rw [show toValue s = .record _ from rfl, encodes_record]
  intro f hf
  by_cases hs : f.1 = "snapshot_digest"
  · simp only [List.mem_cons, List.not_mem_nil, or_false] at hf
    rcases hf with rfl | rfl | rfl | rfl | rfl | rfl | rfl | rfl | rfl | rfl | rfl | rfl <;>
      first
      | exact encodes_str
      | simp at hs
  · exact fields f (List.mem_append_right _ (List.mem_filter.mpr ⟨hf, by simpa using hs⟩))

end

/-! ### Fields of a loaded record -/

section
variable {vs : List (String × Value)} {key : String}

lemma subscript_found {v : Value} (h : vs.lookup key = some v) :
    subscript key (.dict vs) = .ok v := by
  rw [subscript, h]

lemma subscript_absent (h : vs.lookup key = none) :
    subscript key (.dict vs) = .error (.keyError key) := by
  rw [subscript, h]

lemma getKey_found {v : Value} (h : vs.lookup key = some v) : getKey key (.dict vs) = .ok v := by
  rw [getKey, h]
  rfl

lemma getKey_absent (h : vs.lookup key = none) : getKey key (.dict vs) = .ok .none := by
  rw [getKey, h]
  rfl

lemma getKeyOr_ok {d : Value} : ∃ v, getKeyOr key d (.dict vs) = .ok v := ⟨_, rfl⟩

variable [Platform]

/-- The mapping `vs` has what `v` is read back as under the key. -/
def Stored (vs : List (String × Value)) (key : String) (v : Value) : Prop :=
  ∃ w, vs.lookup key = some w ∧ ReadsBack v w

/-- A text is read as a text. -/
lemma textField_stored {s : String} (h : Stored vs key (.str s)) :
    textField key (.dict vs) = .ok (nfc s) := by
  obtain ⟨w, hl, hw⟩ := h
  cases readsBack_str hw
  rw [textField, subscript_found hl]
  rfl

/-- A text or `None` is read as such. -/
lemma optTextField_stored {o : Option String} (h : Stored vs key (toValue o)) :
    ∃ t, optTextField key (.dict vs) = .ok t := by
  obtain ⟨w, hl, hw⟩ := h
  rw [optTextField, getKey_found hl, textField, subscript_found hl]
  cases o with
  | none =>
    cases readsBack_none hw
    exact ⟨_, rfl⟩
  | some s =>
    cases readsBack_str hw
    exact ⟨_, rfl⟩

/-- A decision or `None` is read as such. -/
lemma optDecisionField_stored {o : Option DecisionValue} (h : Stored vs key (toValue o)) :
    ∃ d, optEnumField decisionValueType key (.dict vs) = .ok d := by
  obtain ⟨w, hl, hw⟩ := h
  rw [optEnumField, getKey_found hl, enumField, subscript_found hl]
  cases o with
  | none =>
    cases readsBack_none hw
    exact ⟨_, rfl⟩
  | some d =>
    cases readsBack_enum rfl hw
    cases d <;> exact ⟨_, rfl⟩

/-- A tuple is an embedding to iterate over. -/
lemma embeddingOf_stored {l : List Value} (h : Stored vs "embedding" (.tuple l)) :
    ∃ v, embeddingOf (.dict vs) = .ok v := by
  obtain ⟨w, hl, hw⟩ := h
  obtain ⟨floats, rfl, -⟩ := readsBack_tuple hw
  rw [embeddingOf, subscript_found hl]
  exact ⟨_, rfl⟩

/-- The decoder looks for the column name of the parameters, which the stored record does not
have. -/
lemma proposalFromMapping_stored {p : Proposal} {w} (h : ReadsBack (toValue p) w) :
    proposalFromMapping w = .error (.keyError "parameters") := by
  obtain ⟨vs, rfl, absent, present⟩ := readsBack_record (by simp) h
  have text (key s : String) (hk) : textField key (.dict vs) = .ok (nfc s) :=
    textField_stored (present key (.str s) hk)
  obtain ⟨_, embedding⟩ := embeddingOf_stored (present "embedding" (toValue p.embedding) (by simp))
  obtain ⟨_, id⟩ : ∃ v, getKeyOr "proposal_id" .none (.dict vs) = .ok v := getKeyOr_ok
  obtain ⟨_, parent⟩ := optTextField_stored
    (present "parent_proposal_id" (toValue p.parentProposalId) (by simp))
  obtain ⟨_, source⟩ := optTextField_stored
    (present "source_modify_decision_id" (toValue p.sourceModifyDecisionId) (by simp))
  obtain ⟨_, value⟩ := optDecisionField_stored
    (present "source_modify_decision_value" (toValue p.sourceModifyDecisionValue) (by simp))
  have parameters : plainField "parameters" (.dict vs) = .error (.keyError "parameters") := by
    rw [plainField, subscript_absent (absent "parameters" (by simp))]
    rfl
  rw [proposalFromMapping, embedding, getKey_absent (absent "id" (by simp))]
  simp only [ok_bind, id, parent, source, value, text "agent_id" p.agentId (by simp),
    text "session_id" p.sessionId (by simp), text "action_type" p.actionType (by simp),
    text "action_type_key" p.actionTypeKey (by simp), text "target" p.target (by simp),
    text "target_key" p.targetKey (by simp), text "reasoning" p.reasoning (by simp),
    text "purpose" p.purpose (by simp), parameters, error_bind]

/-- The decoder stops in the proposal of a stored snapshot. -/
lemma snapshotFromJson_stored {s : EvaluationSnapshot} {w text} (h : ReadsBack (toValue s) w)
    (hl : loaded (.str text) = .ok w) :
    snapshotFromJson (.str text) = .error (.keyError "parameters") := by
  obtain ⟨vs, rfl, -, present⟩ := readsBack_record (by simp) h
  obtain ⟨p, hp, readsBack⟩ := present "proposal" (toValue s.proposal) (by simp)
  rw [snapshotFromJson, hl]
  simp only [ok_bind, subscript_found hp, proposalFromMapping_stored readsBack, error_bind]

/-- No stored snapshot is decoded: the text of a validated snapshot is written, and reading it stops
at the parameters of the proposal, whatever the snapshot holds. -/
theorem stored_snapshot_undecodable {s t : EvaluationSnapshot} (h : validateSnapshot s = .ok t) :
    ∃ text, dump (toValue s) = .ok text ∧
      snapshotFromJson (.str text) = .error (.keyError "parameters") := by
  obtain ⟨w, hw⟩ := (textual_toValue (a := s)).readsBack (validateSnapshot_encodes h)
  obtain ⟨text, hd, hl⟩ := loaded_dump (validateSnapshot_encodes h).1 hw
  exact ⟨text, hd, snapshotFromJson_stored hw hl⟩

end

/-- The smallest snapshot is validated and not decoded. -/
theorem minimal_snapshot_undecodable :
    let _ := asciiPlatform
    let s := minimalSnapshot "first" (minimalProposal "proposal" "reason") none
    validateSnapshot s = .ok s ∧ ∃ text, dump (toValue s) = .ok text ∧
      snapshotFromJson (.str text) = .error (.keyError "parameters") := by
  intro _ s
  have valid : validateSnapshot s = .ok s :=
    minimalSnapshot_valid (minimalProposal_valid "proposal" "reason") (by decide)
      fun _ h => nomatch h
  exact ⟨valid, stored_snapshot_undecodable valid⟩

/-- Storing and loading does not give a snapshot back, even when its embedding is in single
precision and, as every text is on this platform, its texts are normalized. -/
theorem stored_snapshot_lost :
    ¬∀ s t text, @validateSnapshot asciiPlatform s = .ok t →
      (∀ x ∈ s.proposal.embedding, x.toSingle = some x) → @dump asciiPlatform (toValue s) = .ok text →
        @snapshotFromJson asciiPlatform (.str text) = .ok s := by
  intro h
  let _ := asciiPlatform
  have valid : validateSnapshot (minimalSnapshot "first" (minimalProposal "proposal" "reason") none) =
      .ok _ :=
    minimalSnapshot_valid (minimalProposal_valid "proposal" "reason") (by decide)
      fun _ h => nomatch h
  obtain ⟨w, hw⟩ := (textual_toValue (a := minimalSnapshot "first"
    (minimalProposal "proposal" "reason") none)).readsBack (validateSnapshot_encodes valid)
  obtain ⟨text, hd, hl⟩ := loaded_dump (validateSnapshot_encodes valid).1 hw
  have single : ∀ x ∈ (minimalProposal "proposal" "reason").embedding, x.toSingle = some x := by
    intro x hx
    cases List.eq_of_mem_replicate hx
    decide
  have decoded := h _ _ text valid single hd
  rw [snapshotFromJson_stored hw hl] at decoded
  cases decoded

end GAM
