import GAM.Governance.Verdict
import GAM.Memory.Precedents

/-!
# The limit on precedents

The query limits the proposals it takes, the gate the precedents it is given, and there is one
precedent for each FINALIZED evaluation of those proposals. A proposal gains an evaluation with every
re-evaluation, so that the result of a search can be more than the gate accepts.
-/

namespace GAM
open Lib

/-- An engine with the distances of equal and of orthogonal vectors. -/
@[reducible] def nearEngine : VectorEngine :=
  { asciiEngine with
    distance := fun a b => if a = b then 0 else 1
    similarity := fun a b => Binary64.ofDecimal false (if a = b then 1 else 0) 0
    tie := fun _ _ => 0 }

/-- A vector of ones. -/
def ones : List Binary64 := List.replicate 1536 (.ofDecimal false 1 0)

/-- Its text. -/
def onesText : String := String.ofList (commaSeparated '[' ']' (ones.map Binary64.format17))

lemma ones_text : vectorText ones = .ok onesText := by
  rw [vectorText, ensure_pos]
  · rfl
  · rw [ones, List.length_replicate]
    rfl

/-- A proposal with that vector. -/
def nearProposal : ProposalRow where
  id := "00000000-0000-0000-0000-00000000000a"
  parentProposalId := none
  sourceModifyDecisionId := none
  sourceModifyDecisionValue := none
  agentId := "agent"
  sessionId := "session"
  actionType := "deploy"
  actionTypeKey := "deploy"
  target := "prod"
  targetKey := "prod"
  reasoning := "because"
  purpose := "release"
  parameters := "\x7b\x7d"
  impactAssessment := "\x7b\x7d"
  predictedOutcome := "\x7b\x7d"
  evidence := "[]"
  dependencies := "[]"
  embedding := onesText
  embeddingModel := "text-embedding-3-small"
  embeddingInputDigest := zeroDigest
  actionDigest := zeroDigest
  proposalDigest := zeroDigest

/-- An evaluation of it under a name of one digit. -/
def nearEvaluation (digit : Char) : EvaluationRow where
  id := String.ofList ("00000000-0000-0000-0000-00000000000".toList ++ [digit])
  proposalId := nearProposal.id
  priorEvaluationId := none
  evaluatorVersion := "gam-gate/1.1"
  ruleConfigDigest := zeroDigest
  inputSnapshot := "\x7b\x7d"
  inputSnapshotDigest := String.ofList (List.replicate 64 digit)
  profileVersion := none
  policySnapshot := "\x7b\x7d"
  policyDigest := zeroDigest
  verdict := some .maybe
  risk := some .medium
  operatorTrace := "[]"
  evidenceGaps := "[]"
  dependencies := "[]"
  precedentRefs := "[]"
  consequenceWarningRefs := "[]"
  changedFactRuleIds := "[]"
  becauseStepId := some "because"
  traceDigest := zeroDigest
  status := .finalized
  blockedReason := none

/-- A proposal that was evaluated under each of the digits. -/
def evaluatedUnder (digits : List Char) : Database where
  proposals := [nearProposal]
  evaluations := digits.map nearEvaluation

/-- The schema accepts an evaluation under a new digit. -/
lemma insert_near {digits : List Char} {d : Char} (new : d ∉ digits) :
    insertEvaluation (evaluatedUnder digits) (nearEvaluation d) =
      .ok (evaluatedUnder (digits ++ [d])) := by
  have object : jsonbTypeof "\x7b\x7d" = "object" := by rfl
  have array : jsonbTypeof "[]" = "array" := by rfl
  have zeros : isDigestLength zeroDigest = true := by decide
  have digest : isDigestLength (String.ofList (List.replicate 64 d)) = true := by
    rw [isDigestLength, String.length_ofList, List.length_replicate]
    rfl
  have names (c : Char) (hc : c ∈ digits) : (nearEvaluation c).id ≠ (nearEvaluation d).id := by
    intro e
    have e := List.append_cancel_left (String.ofList_injective e)
    exact new (List.singleton_inj.mp e ▸ hc)
  have inputs (c : Char) (hc : c ∈ digits) :
      (nearEvaluation c).inputSnapshotDigest ≠ (nearEvaluation d).inputSnapshotDigest := by
    intro e
    have e := (List.replicate_inj.mp (String.ofList_injective e)).2
    exact new ((e.resolve_left (by decide)) ▸ hc)
  simp only [insertEvaluation]
  rw [ensure_pos ⟨object, object, array, array, array, array, array, array⟩, ok_bind,
    ensure_pos (.inl ⟨rfl, Option.some_ne_none _, Option.some_ne_none _, Option.some_ne_none _, rfl⟩),
    ok_bind, ensure_pos (.inl rfl), ok_bind,
    ensure_pos ⟨zeros, digest, zeros, zeros, fun _ none => by cases none⟩, ok_bind,
    ensure_pos (.inr rfl), ok_bind, ensure_pos, ok_bind, ensure_pos, ok_bind, ensure_pos, ok_bind, ensure_pos, ok_bind]
  · simp [evaluatedUnder]
  · exact fun _ none => by cases none
  · exact ⟨nearProposal, List.mem_singleton_self _, rfl⟩
  · intro r hr e
    obtain ⟨c, hc, rfl⟩ := List.mem_map.mp hr
    simp only [Prod.mk.injEq] at e
    exact inputs c hc e.2.2.2.1
  · intro r hr
    obtain ⟨c, hc, rfl⟩ := List.mem_map.mp hr
    exact names c hc

/-- The evaluations under a list of digits are inserted one after another. -/
lemma near_inserted {digits : List Char} (nodup : digits.Nodup) :
    (digits.map nearEvaluation).foldlM insertEvaluation (evaluatedUnder []) =
      .ok (evaluatedUnder digits) := by
  induction digits using List.reverseRecOn with
  | nil => rfl
  | append_singleton digits d ih =>
    rw [List.nodup_append] at nodup
    have new : d ∉ digits := fun h => nodup.2.2 d h d (List.mem_singleton_self d) rfl
    rw [List.map_append, List.foldlM_append, ih nodup.1, List.map_singleton, ok_bind,
      List.foldlM_cons, insert_near new]
    rfl

/-- The identifier of an evaluation that is not among them. -/
def newEvaluation : String := "00000000-0000-0000-0000-00000000000b"

/-- A search among them recalls each. -/
lemma near_recalled [VectorEngine] {digits : List Char} (nodup : digits.Nodup)
    (new : 'b' ∉ digits) {vector : String} :
    ((evaluatedUnder digits).recalledIds vector newEvaluation).card = digits.length := by
  have candidates : (evaluatedUnder digits).candidates vector = [nearProposal] := by
    rw [Database.candidates, evaluatedUnder, sortedBy_singleton]
    rfl
  have finalized : (evaluatedUnder digits).finalizedBut newEvaluation nearProposal =
      digits.map nearEvaluation := by
    refine List.filter_eq_self.mpr fun g hg => ?_
    obtain ⟨d, hd, rfl⟩ := List.mem_map.mp hg
    refine decide_eq_true ⟨rfl, rfl, fun e => ?_⟩
    have e := List.append_cancel_left (String.ofList_injective e)
    exact new (List.singleton_inj.mp e ▸ hd)
  have recalled : (evaluatedUnder digits).recalled vector newEvaluation =
      digits.map fun d => (nearProposal, nearEvaluation d) := by
    rw [Database.recalled, candidates, List.flatMap_singleton, finalized, List.map_map]
    rfl
  rw [Database.recalledIds, recalled, List.map_map, List.toFinset_card_of_nodup, List.length_map]
  refine nodup.map fun c d e => ?_
  have e : (nearEvaluation c).id = (nearEvaluation d).id := congrArg Prod.snd (toLex_inj.mp e)
  exact List.singleton_inj.mp (List.append_cancel_left (String.ofList_injective e))

/-- A search among them returns one precedent for each. -/
lemma near_search {digits : List Char} (nodup : digits.Nodup) (new : 'b' ∉ digits) :
    ∃ refs, @searchPrecedents nearEngine { evaluatedUnder digits with } ones 5 newEvaluation =
      .ok refs ∧ refs.length = digits.length := by
  have known : @castUuid nearEngine.toEngine newEvaluation = .ok newEvaluation :=
    @castUuid_self nearEngine.toEngine _ (by decide)
  have similar : ∀ p ∈ [nearProposal],
      (@VectorEngine.similarity nearEngine p.embedding onesText).isFinite = true := by
    intro p hp
    rw [List.mem_singleton.mp hp]
    change (Binary64.ofDecimal false (if onesText = onesText then 1 else 0) 0).isFinite = true
    rw [if_pos rfl]
    decide
  obtain ⟨refs, found⟩ := @searchPrecedents_succeeds nearEngine { evaluatedUnder digits with }
    ones onesText onesText newEvaluation newEvaluation ones_text rfl known similar
    (fun _ h => nomatch h)
  refine ⟨refs, found, ?_⟩
  rw [@searchPrecedents_length nearEngine _ _ _ _ onesText _ _ _ ones_text rfl known found]
  exact @near_recalled nearEngine _ nodup new _

/-- A search returns at most five precedents, and no snapshot over them is BLOCKED for their number,
exactly when the five nearest proposals have together at most five FINALIZED evaluations other than
the current one. -/
theorem searchPrecedents_limit [VectorEngine] {db : Store} {embedding : List Binary64}
    {text vector current id : String} {refs : List PrecedentRef}
    (written : vectorText embedding = .ok text) (cast : castVector text = .ok vector)
    (known : castUuid current = .ok id)
    (found : searchPrecedents db embedding 5 current = .ok refs) :
    (refs.length ≤ 5 ∧ ∀ (s : EvaluationSnapshot) (c : RuleConfig) (b : BlockedResult),
      s.precedents = refs → evaluateProposal s c = .ok (.blocked b) →
        b.errorCode ≠ "PRECEDENT_LIMIT_EXCEEDED") ↔
    (db.recalledIds vector id).card ≤ 5 := by
  have count := searchPrecedents_length written cast known found
  constructor
  · rintro ⟨few, -⟩
    exact count ▸ few
  · intro few
    have few : refs.length ≤ 5 := count ▸ few
    refine ⟨few, fun s c b given blocked => ?_⟩
    exact evaluateProposal_within (given ▸ few) blocked

/-- The theorem at one evaluation, which is recalled. -/
theorem searchPrecedents_limit_one : ∃ refs,
    @searchPrecedents nearEngine { evaluatedUnder ['1'] with } ones 5 newEvaluation = .ok refs ∧
    ((refs.length ≤ 5 ∧ ∀ (s : EvaluationSnapshot) (c : RuleConfig) (b : BlockedResult),
      s.precedents = refs → @evaluateProposal nearEngine.toPlatform s c = .ok (.blocked b) →
        b.errorCode ≠ "PRECEDENT_LIMIT_EXCEEDED") ↔
      (@Database.recalledIds nearEngine (evaluatedUnder ['1']) onesText newEvaluation).card ≤ 5) := by
  obtain ⟨refs, found, -⟩ := near_search (List.nodup_singleton '1') (by decide)
  exact ⟨refs, found, @searchPrecedents_limit nearEngine _ _ _ onesText _ _ _ ones_text rfl
    (@castUuid_self nearEngine.toEngine _ (by decide)) found⟩

/-- Six evaluations of one proposal, as the schema accepts them: the search returns six precedents. -/
theorem searchPrecedents_six :
    (['1', '2', '3', '4', '5', '6'].map nearEvaluation).foldlM insertEvaluation
        { proposals := [nearProposal] } =
      .ok (evaluatedUnder ['1', '2', '3', '4', '5', '6']) ∧
    ∃ refs, @searchPrecedents nearEngine
        { evaluatedUnder ['1', '2', '3', '4', '5', '6'] with } ones 5 newEvaluation = .ok refs ∧
      refs.length = 6 := by
  exact ⟨near_inserted (by decide), near_search (by decide) (by decide)⟩

end GAM
