import GAM.Governance.Accepted

/-!
# Change reports

What a re-evaluation reports as changed, told by what the facts of the two evaluations mean.
`FactStep.meaning` is what a fact says apart from the evaluation that says it. A projection reads it back
from the recorded text, so a rule is reported exactly when the two evaluations say different things under
it: no report hides a change, and what only identifies an evaluation is no change.
-/

namespace GAM
open Lib

/-! ### Shallow values and records that are read back -/

/-- The values that a projection keeps. -/
inductive Shallow : Json → Prop
  | bool (b : Bool) : Shallow (.bool b)
  | text (s : String) : Shallow (.str s)
  | texts (l : List String) : Shallow (jsonStrs l)

/-- Printed texts load as themselves. -/
lemma loadElems_texts (l : List String) : loadElems (l.map .str) = .ok (l.map .str) := by
  induction l with
  | nil => rfl
  | cons s l ih =>
    rw [List.map_cons, List.map_cons, loadElems, loadValue, ih]
    rfl

/-- Texts have no members to sort. -/
lemma sortElems_texts (l : List String) : sortElems (l.map .str) = l.map .str := by
  induction l with
  | nil => rfl
  | cons s l ih => rw [List.map_cons, sortElems, ih, show (Json.str s).sortKeys = .str s from rfl]

/-- Lists of texts compare equal where they are. -/
lemma valuesEq_texts {l l' : List String} : valuesEq (l.map .str) (l'.map .str) = true ↔ l = l' := by
  induction l generalizing l' with
  | nil => cases l' <;> simp [valuesEq]
  | cons s l ih => cases l' <;> simp [valuesEq, valueEq, ih]

/-- Shallow values are told apart by what is read back. -/
lemma Shallow.valueEq {j j' : Json} {v v' : Value} (flat : Shallow j) (flat' : Shallow j')
    (h : loadValue j.sortKeys = .ok v) (h' : loadValue j'.sortKeys = .ok v') :
    valueEq v v' = true ↔ j = j' := by
  have texts (l : List String) : loadValue (jsonStrs l).sortKeys = .ok (.list (l.map .str)) := by
    rw [jsonStrs, Json.sortKeys, sortElems_texts, loadValue, loadElems_texts]
    rfl
  have injective (l l' : List String) : jsonStrs l = jsonStrs l' ↔ l = l' := by
    rw [jsonStrs, jsonStrs, Json.arr.injEq]
    exact (List.map_injective_iff.mpr fun _ _ e => Json.str.inj e).eq_iff
  -- three shapes on either side; two of different shapes are never equal
  cases flat with
  | bool b =>
    cases h
    cases flat' with
    | bool b' =>
      cases h'
      cases b <;> cases b' <;> simp [GAM.valueEq, numericValue]
    | text s' =>
      cases h'
      simp [GAM.valueEq, numericValue]
    | texts l' =>
      rw [texts] at h'
      cases h'
      simp [GAM.valueEq, numericValue, jsonStrs]
  | text s =>
    cases h
    cases flat' with
    | bool b' =>
      cases h'
      simp [GAM.valueEq, numericValue]
    | text s' =>
      cases h'
      simp [GAM.valueEq]
    | texts l' =>
      rw [texts] at h'
      cases h'
      simp [GAM.valueEq, numericValue, jsonStrs]
  | texts l =>
    rw [texts] at h
    cases h
    cases flat' with
    | bool b' =>
      cases h'
      simp [GAM.valueEq, numericValue, jsonStrs]
    | text s' =>
      cases h'
      simp [GAM.valueEq, numericValue, jsonStrs]
    | texts l' =>
      rw [texts] at h'
      cases h'
      rw [GAM.valueEq, valuesEq_texts, injective]

/-- The members are read back one by one. -/
lemma loadMembers_each {ms : List (String × Json)} {vs : List (String × Value)}
    (h : loadMembers ms = .ok vs) :
    vs.map Prod.fst = ms.map Prod.fst ∧
      ∀ k j, (k, j) ∈ ms → ∃ v, (k, v) ∈ vs ∧ loadValue j = .ok v := by
  induction ms generalizing vs with
  | nil =>
    cases h
    exact ⟨rfl, fun _ _ h => absurd h List.not_mem_nil⟩
  | cons m ms ih =>
    obtain ⟨k, j⟩ := m
    simp only [loadMembers, bind_eq_ok, pure_eq_ok, Except.ok.injEq] at h
    obtain ⟨v, hv, vs, hvs, rfl⟩ := h
    obtain ⟨keys, each⟩ := ih hvs
    refine ⟨by rw [List.map_cons, List.map_cons, keys], fun k' j' hm => ?_⟩
    cases hm with
    | head => exact ⟨v, List.mem_cons_self, hv⟩
    | tail _ hm =>
      obtain ⟨v', hv', value⟩ := each k' j' hm
      exact ⟨v', List.mem_cons_of_mem _ hv', value⟩

/-- What is read back of a record, entry by entry. -/
lemma loads_record {ms : List (String × Json)} (nodup : (ms.map Prod.fst).Nodup) (load : MembersLoad ms) :
    ∃ vs, jsonLoads (Json.obj ms).dumps = .ok (.dict vs) ∧ (vs.map Prod.fst).Perm (ms.map Prod.fst) ∧
      ∀ k j, (k, j) ∈ ms → ∃ v, (k, v) ∈ vs ∧ loadValue j.sortKeys = .ok v := by
  let sorted := sortedBy Prod.fst (sortMembers ms)
  have loads : MembersLoad sorted := by
    intro m hm
    exact (loads_sortMembers ms).mpr load m (mem_sortedBy.mp hm)
  obtain ⟨vs, hvs⟩ := loads_members.mpr loads
  obtain ⟨keys, each⟩ := loadMembers_each hvs
  have perm : (vs.map Prod.fst).Perm (ms.map Prod.fst) := by
    have unsorted : (sortMembers ms).map Prod.fst = ms.map Prod.fst := by
      rw [sortMembers_eq, List.map_map]
      rfl
    rw [keys, ← unsorted]
    exact sortedBy_perm.map _
  refine ⟨vs, ?_, perm, fun k j hm => ?_⟩
  · rw [jsonLoads_dumps, Json.sortKeys, loadValue, hvs]
    exact congrArg (fun l => Except.ok (Value.dict l)) (lastWins_of_nodup (perm.nodup_iff.mpr nodup))
  · have hm' : (k, j.sortKeys) ∈ sorted := by
      rw [mem_sortedBy, sortMembers_eq]
      exact List.mem_map.mpr ⟨(k, j), hm, rfl⟩
    exact each k _ hm'

/-- Mappings with the same keys are equal when their entries are. -/
lemma valueEq_dict {l l' : List (String × Value)} (nodup : (l.map Prod.fst).Nodup)
    (nodup' : (l'.map Prod.fst).Nodup) (same : ∀ k, k ∈ l.map Prod.fst ↔ k ∈ l'.map Prod.fst) :
    valueEq (.dict l) (.dict l') = true ↔
      ∀ k v v', (k, v) ∈ l → (k, v') ∈ l' → valueEq v v' = true := by
  have perm : (l.map Prod.fst).Perm (l'.map Prod.fst) := (List.perm_ext_iff_of_nodup nodup nodup').mpr same
  have length : l.length = l'.length := by
    rw [← List.length_map (f := Prod.fst), perm.length_eq, List.length_map]
  have each (part : List (String × Value)) (sub : ∀ m ∈ part, m ∈ l) :
      membersIn part l' = true ↔ ∀ k v v', (k, v) ∈ part → (k, v') ∈ l' → valueEq v v' = true := by
    induction part with
    | nil => simp [membersIn]
    | cons m part ih =>
      obtain ⟨k, v⟩ := m
      have entry : k ∈ l'.map Prod.fst := (same k).mp (List.mem_map_of_mem (sub _ List.mem_cons_self))
      obtain ⟨⟨_, w⟩, hw, rfl⟩ := List.mem_map.mp entry
      have found := (mem_iff_lookup nodup').mp hw
      rw [membersIn, found, Bool.and_eq_true, ih fun m hm => sub m (List.mem_cons_of_mem _ hm)]
      constructor
      · rintro ⟨head, tail⟩ k v v' hm hm'
        rcases List.mem_cons.mp hm with e | hm
        · cases e
          rw [mem_iff_lookup nodup', found] at hm'
          cases hm'
          exact head
        · exact tail k v v' hm hm'
      · intro all
        exact ⟨all _ v w List.mem_cons_self hw,
          fun k v v' hm hm' => all k v v' (List.mem_cons_of_mem _ hm) hm'⟩
  rw [valueEq, length, beq_self_eq_true, Bool.true_and, each l fun _ h => h]

/-! ### What facts mean -/

section
variable [Platform] {s : EvaluationSnapshot} {c : RuleConfig} {f : Findings}

attribute [simp] Shallow.bool Shallow.text Shallow.texts

/-- The keys of a fact's result that say something beyond their evaluation. -/
def keptKeys (ruleId : String) : List String :=
  if ruleId = F01 then
    ["proposal_id", "proposal_digest", "action_digest", "policy_digest", "rule_config_digest"]
  else projectionKeys ruleId

/-- A member of a fact's result. -/
def FactStep.member (d : FactStep) (key : String) : Json :=
  match d.result with
  | .obj ms => (ms.lookup key).getD .null
  | _ => .null

/-- What a fact says, apart from the evaluation that says it. -/
def FactStep.meaning (d : FactStep) : String × String × List Json :=
  (d.family.value, d.pole, (keptKeys d.ruleId).map d.member)

/-- What the facts say under a rule. -/
def Findings.meaning (f : Findings) (ruleId : String) : List (String × String × List Json) :=
  (f.descriptors.filter fun d => d.ruleId == ruleId).map FactStep.meaning

/-- The members that a projection keeps are there and flat; F01 has no others but what binds it. -/
def FactStep.KeepsFlat (d : FactStep) : Prop :=
  ∃ ms, d.result = .obj ms ∧ (∀ k ∈ keptKeys d.ruleId, ∃ j, (k, j) ∈ ms ∧ Shallow j) ∧
    (d.ruleId = F01 → ∀ k ∈ ms.map Prod.fst, k ∈ keptKeys F01 ∨ k ∈ bindingKeys)

omit [Platform] in
/-- F01 keeps no nested member. -/
lemma bind_flat {priorId : Option String} : ∀ d ∈ (bindFindings s c priorId).descriptors, d.KeepsFlat := by
  intro d hd
  cases List.mem_singleton.mp hd
  refine ⟨_, rfl, by simp [keptKeys], fun _ => ?_⟩
  simp only [List.map_cons, List.map_nil]
  decide

/-- F02 keeps no nested member. -/
lemma scope_flat : ∀ d ∈ (scopeFindings s).descriptors, d.KeepsFlat := by
  have step (pole : String) (a b : Bool) : (scopeStep s pole a b).KeepsFlat := by
    simp [scopeStep, FactStep.KeepsFlat, keptKeys, projectionKeys, F01, F02]
  unfold scopeFindings
  split
  · simp [step]
  · split <;> simp [step]

omit [Platform] in
/-- F03 keeps no nested member. -/
lemma exclusion_flat : ∀ d ∈ (exclusionFindings s).descriptors, d.KeepsFlat := by
  dsimp only [exclusionFindings]
  split
  · simp
  · simp [FactStep.KeepsFlat, keptKeys, projectionKeys, F01, F02, F03]

/-- F04 keeps no nested member. -/
lemma retrieval_flat : ∀ d ∈ (retrievalFindings s c).descriptors, d.KeepsFlat := by
  simp [retrievalFindings, FactStep.KeepsFlat, keptKeys, projectionKeys, F01, F02, F03, F04]

/-- F05 keeps no nested member. -/
lemma identity_flat : ∀ d ∈ (identityFindings s c).descriptors, d.KeepsFlat := by
  dsimp only [identityFindings]
  split
  · simp
  · simp [FactStep.KeepsFlat, keptKeys, projectionKeys, F01, F02, F03, F04, F05]

/-- F06 keeps no nested member. -/
lemma conflict_flat : ∀ d ∈ (conflictFindings s c).descriptors, d.KeepsFlat := by
  dsimp only [conflictFindings]
  split
  · simp
  · simp [FactStep.KeepsFlat, keptKeys, projectionKeys, F01, F02, F03, F04, F05, F06]

/-- F07 keeps no nested member. -/
lemma evidence_flat : ∀ d ∈ (evidenceFindings s).descriptors, d.KeepsFlat := by
  simp [evidenceFindings, FactStep.KeepsFlat, keptKeys, projectionKeys, F01, F02, F03, F04, F05, F06, F07]

/-- F08 keeps no nested member. -/
lemma divergence_flat : ∀ d ∈ (divergenceBody s c).descriptors, d.KeepsFlat := by
  simp [divergenceBody, FactStep.KeepsFlat, keptKeys, projectionKeys, F01, F02, F03, F04, F05, F06, F07, F08]

/-- F09 keeps no nested member. -/
lemma capability_flat : ∀ d ∈ (capabilityBody s).descriptors, d.KeepsFlat := by
  dsimp only [capabilityBody]
  split
  · simp
  · simp [FactStep.KeepsFlat, keptKeys, projectionKeys, F01, F02, F03, F04, F05, F06, F07, F08, F09]

/-- F10 keeps no nested member. -/
lemma dependencies_flat {ds : List DependencyRef} :
    ∀ d ∈ (dependenciesFindings ds).descriptors, d.KeepsFlat := by
  have step (d : DependencyRef) (pole : String) (more : List (String × Json)) :
      (dependencyStep d pole (dependencyResult d ++ more)).KeepsFlat := by
    simp [dependencyStep, dependencyResult, FactStep.KeepsFlat, keptKeys, projectionKeys,
      F01, F02, F03, F04, F05, F06, F07, F08, F09, F10]
  rw [dependencies_descriptors]
  intro x hx
  obtain ⟨d, -, hx⟩ := List.mem_flatMap.mp hx
  simp only [dependencySteps, List.mem_cons, List.not_mem_nil, or_false] at hx
  rcases hx with rfl | rfl
  · exact step d "IF" []
  · exact step d "THEN" _

omit [Platform] in
/-- F11 keeps no nested member. -/
lemma aggregate_flat : ∀ d ∈ (aggregateFindings s f).descriptors, d.KeepsFlat := by
  simp [aggregateFindings, FactStep.KeepsFlat, keptKeys, projectionKeys, F01, F02, F03, F04, F05, F06, F07,
    F08, F09, F10, F11]

/-- Every fact has the members that are kept. -/
lemma collect_flat {priorId : Option String} (e : collectFindings s c priorId = .ok f) :
    ∀ d ∈ f.descriptors, d.KeepsFlat := by
  obtain ⟨d, hd, -, rfl⟩ := collectFindings_eq_ok.mp e
  simp only [factFindings, Findings.descriptors_append, List.forall_mem_append]
  exact ⟨⟨⟨⟨⟨⟨⟨⟨⟨⟨bind_flat, scope_flat⟩, exclusion_flat⟩, retrieval_flat⟩, identity_flat⟩,
    conflict_flat⟩, evidence_flat⟩, fun x hx => divergence_flat x (divergence_facts hd x hx)⟩,
    capability_flat⟩, dependencies_flat⟩, aggregate_flat⟩

/-! ### Projections keep the meaning -/

/-- What the projection of a fact holds. -/
def FactStep.Keeps (d : FactStep) (v : Value) : Prop :=
  ∃ ws, v = .tuple [.str d.family.value, .str d.pole, .dict ws] ∧ (ws.map Prod.fst).Nodup ∧
    (∀ k, k ∈ ws.map Prod.fst ↔ k ∈ keptKeys d.ruleId) ∧
    ∀ k w, (k, w) ∈ ws → Shallow (d.member k) ∧ loadValue (d.member k).sortKeys = .ok w

omit [Platform] in
/-- The projection of a fact's step. -/
lemma projection_keeps {d : FactStep} {i : Nat} {evaluationId : String} {trace : List TraceStep}
    {gaps : List EvidenceGap} (clean : d.Clean) (flat : d.KeepsFlat) :
    ∃ v, projection trace gaps (builtStep evaluationId (d, i)) = .ok (d.ruleId, v) ∧ d.Keeps v := by
  obtain ⟨id, ms, result, plain, tidy⟩ := clean
  obtain ⟨ms', result', kept, bound⟩ := flat
  cases result.symm.trans result'
  obtain ⟨vs, loaded, perm, entries⟩ := loads_record plain.1 (tidyMembers_load tidy)
  have nodup : (vs.map Prod.fst).Nodup := perm.nodup_iff.mpr plain.1
  -- a kept key has one entry, and that is its member
  have entry : ∀ k ∈ keptKeys d.ruleId, ∃ v, (k, v) ∈ vs ∧ Shallow (d.member k) ∧
      loadValue (d.member k).sortKeys = .ok v := by
    intro k hk
    obtain ⟨j, hj, flat⟩ := kept k hk
    obtain ⟨v, hv, value⟩ := entries k j hj
    have member : d.member k = j := by
      rw [FactStep.member, result]
      exact congrArg (·.getD .null) ((mem_iff_lookup plain.1).mp hj)
    exact ⟨v, hv, member ▸ flat, member ▸ value⟩
  have distinct : F12 ∉ factIds ∧ (∀ rule ∈ factIds, (keptKeys rule).Nodup) ∧
      ∀ k ∈ keptKeys F01, k ∉ bindingKeys := by decide
  have step : (builtStep evaluationId (d, i)).ruleId = d.ruleId := rfl
  have text : jsonLoads (builtStep evaluationId (d, i)).resultJson = .ok (.dict vs) := by
    rw [builtStep, result, loaded]
  have other : d.ruleId ≠ F12 := fun same => distinct.1 (same ▸ id)
  rw [projection, step, if_neg other, factProjection, text, step]
  by_cases first : d.ruleId = F01
  · refine ⟨_, ?_, vs.filter fun m => m.1 ∉ bindingKeys, rfl, ?_, ?_, ?_⟩
    · rw [ok_bind, if_pos first]
      rfl
    · exact nodup.sublist (List.filter_sublist.map _)
    · intro k
      rw [first]
      constructor
      · intro hk
        obtain ⟨⟨_, w⟩, hw, rfl⟩ := List.mem_map.mp hk
        obtain ⟨hw, free⟩ := List.mem_filter.mp hw
        have key := bound first _ (perm.mem_iff.mp (List.mem_map_of_mem hw))
        exact key.resolve_right (of_decide_eq_true free)
      · intro hk
        obtain ⟨v, hv, -⟩ := entry k (first ▸ hk)
        exact List.mem_map_of_mem (List.mem_filter.mpr ⟨hv, decide_eq_true (distinct.2.2 k hk)⟩)
    · intro k w hw
      obtain ⟨hw, free⟩ := List.mem_filter.mp hw
      have key := bound first _ (perm.mem_iff.mp (List.mem_map_of_mem hw))
      obtain ⟨v, hv, flat, value⟩ := entry k (first ▸ key.resolve_right (of_decide_eq_true free))
      cases (mem_iff_lookup nodup).mp hv ▸ (mem_iff_lookup nodup).mp hw
      exact ⟨flat, value⟩
  · have keys : keptKeys d.ruleId = projectionKeys d.ruleId := if_neg first
    rw [keys] at entry
    refine ⟨_, ?_, (projectionKeys d.ruleId).map fun k => (k, (vs.lookup k).getD .none), rfl, ?_, ?_, ?_⟩
    · rw [ok_bind, if_neg first]
      rfl
    · rw [List.map_map, ← keys]
      exact (List.map_id _).symm ▸ distinct.2.1 _ id
    · intro k
      rw [List.map_map, keys]
      exact Iff.of_eq (congrArg (k ∈ ·) (List.map_id _))
    · intro k w hw
      obtain ⟨k', hk, same⟩ := List.mem_map.mp hw
      cases same
      obtain ⟨v, hv, flat, value⟩ := entry k hk
      rw [(mem_iff_lookup nodup).mp hv]
      exact ⟨flat, value⟩

omit [Platform] in
/-- The projections of two facts under a rule are equal when the facts mean the same. -/
lemma FactStep.Keeps.valueEq {d d' : FactStep} {v v' : Value} (h : d.Keeps v) (h' : d'.Keeps v')
    (rule : d.ruleId = d'.ruleId) : valueEq v v' = true ↔ d.meaning = d'.meaning := by
  obtain ⟨ws, rfl, nodup, keys, entries⟩ := h
  obtain ⟨ws', rfl, nodup', keys', entries'⟩ := h'
  have same : ∀ k, k ∈ ws.map Prod.fst ↔ k ∈ ws'.map Prod.fst := by
    intro k
    rw [keys, keys', rule]
  have members : GAM.valueEq (.dict ws) (.dict ws') = true ↔
      (keptKeys d.ruleId).map d.member = (keptKeys d'.ruleId).map d'.member := by
    rw [valueEq_dict nodup nodup' same, ← rule, List.map_inj_left]
    constructor
    · intro all k hk
      obtain ⟨⟨_, w⟩, hw, rfl⟩ := List.mem_map.mp ((keys k).mpr hk)
      obtain ⟨⟨_, w'⟩, hw', e⟩ := List.mem_map.mp ((same _).mp (List.mem_map_of_mem hw))
      cases e
      obtain ⟨flat, value⟩ := entries _ _ hw
      obtain ⟨flat', value'⟩ := entries' _ _ hw'
      exact (flat.valueEq flat' value value').mp (all _ w w' hw hw')
    · intro all k w w' hw hw'
      obtain ⟨flat, value⟩ := entries _ _ hw
      obtain ⟨flat', value'⟩ := entries' _ _ hw'
      exact (flat.valueEq flat' value value').mpr (all k ((keys k).mp (List.mem_map_of_mem hw)))
  simp only [FactStep.meaning, Prod.mk.injEq, ← members, GAM.valueEq, valuesEq, Bool.and_eq_true,
    beq_iff_eq, and_true]

/-! ### The groups of a trace -/

omit [Platform] in
/-- Values that stand for things are equal, list by list, when the things are. -/
lemma valuesEq_iff {α γ : Type} {R : α → Value → Prop} {g : α → γ} {as bs : List α} {vs ws : List Value}
    (h : List.Forall₂ R as vs) (h' : List.Forall₂ R bs ws)
    (same : ∀ a ∈ as, ∀ b ∈ bs, ∀ v w, R a v → R b w → (valueEq v w = true ↔ g a = g b)) :
    valuesEq vs ws = true ↔ as.map g = bs.map g := by
  induction h generalizing bs ws with
  | nil => cases h' <;> simp [valuesEq]
  | cons head _ ih =>
    cases h' with
    | nil => simp [valuesEq]
    | cons head' tail' =>
      have rest := ih tail' fun a ha b hb => same a (List.mem_cons_of_mem _ ha) b (List.mem_cons_of_mem _ hb)
      have first := same _ List.mem_cons_self _ List.mem_cons_self _ _ head head'
      simp only [valuesEq, Bool.and_eq_true, first, rest, List.map_cons, List.cons.injEq]

omit [Platform] in
/-- The projections of the steps that were built of facts. -/
lemma projections_facts {evaluationId : String} {trace : List TraceStep} {gaps : List EvidenceGap}
    {tail : List OperatorTraceStep} {ds : List FactStep} {n : Nat} {l : List (String × Value)}
    (h : List.Forall₂ (fun step e => projection trace gaps step = .ok e)
      ((ds.zipIdx n).map (builtStep evaluationId) ++ tail) l)
    (all : ∀ d ∈ ds, d.Clean ∧ d.KeepsFlat) :
    ∃ l₁ l₂, l = l₁ ++ l₂ ∧ List.Forall₂ (fun d e => e.1 = d.ruleId ∧ FactStep.Keeps d e.2) ds l₁ ∧
      List.Forall₂ (fun step e => projection trace gaps step = .ok e) tail l₂ := by
  induction ds generalizing n l with
  | nil => exact ⟨[], l, rfl, .nil, h⟩
  | cons d ds ih =>
    rw [List.zipIdx_cons, List.map_cons, List.cons_append] at h
    cases h with
    | cons head rest =>
      obtain ⟨l₁, l₂, rfl, facts, last⟩ := ih rest fun d hd => all d (List.mem_cons_of_mem _ hd)
      obtain ⟨clean, flat⟩ := all d List.mem_cons_self
      obtain ⟨v, hv, keeps⟩ := @projection_keeps d n evaluationId trace gaps clean flat
      cases hv.symm.trans head
      exact ⟨_ :: l₁, l₂, rfl, .cons ⟨rfl, keeps⟩ facts, last⟩

/-- What the terminal step concludes, as its projection records it. -/
def conclusionValue (verdict : Verdict) (risk : Risk) (decisive : List String) (gaps : List EvidenceGap) :
    Value :=
  .dict
    [("family", .str OperatorFamily.because.value), ("pole", .str "BECAUSE"),
      ("verdict", .str verdict.name), ("risk", .str risk.value),
      ("decisive_rule_ids", .list (decisive.map .str)),
      ("gap_signatures", .list ((sortedBy gapTuple gaps).map gapValue))]

/-- The rules of the steps that a terminal step refers to. -/
def BuiltTrace.decisiveRules (t : BuiltTrace) : List String :=
  sortedBy id (t.because.objectRefs.filterMap (ruleOfStep t.steps))

omit [Platform] in
/-- The projection of a finalized trace's conclusion is F12's value. -/
lemma projection_conclusion {red : Reduction} {t : BuiltTrace} (h : buildTrace s f red = .ok t) :
    projection t.steps red.gaps t.because =
      .ok (F12, conclusionValue red.verdict red.risk t.decisiveRules red.gaps) := by
  obtain ⟨-, -, reducerId, becauseId, -, terminal⟩ := buildTrace_parts h
  have sorted : (Json.obj [("verdict", .str red.verdict.name), ("risk", .str red.risk.value)]).sortKeys =
      .obj [("risk", .str red.risk.value), ("verdict", .str red.verdict.name)] := by
    simp [Json.sortKeys, sortMembers, sortedBy, List.insertionSort]
  have text : jsonLoads t.because.resultJson =
      .ok (.dict [("risk", .str red.risk.value), ("verdict", .str red.verdict.name)]) := by
    rw [terminal, becauseStep, jsonLoads_dumps, sorted]
    rfl
  have rule : t.because.ruleId = F12 := terminal ▸ rfl
  have family : t.because.family = .because ∧ t.because.pole = "BECAUSE" := terminal ▸ ⟨rfl, rfl⟩
  rw [projection, if_pos rule, becauseProjection, text, family.1, family.2, rule]
  rfl

omit [Platform] in
/-- Lists of gaps compare equal where their tuples are. -/
lemma gapValues_eq {l l' : List EvidenceGap} :
    valuesEq (l.map gapValue) (l'.map gapValue) = true ↔ l.map gapTuple = l'.map gapTuple := by
  have each : ∀ g g', valueEq (gapValue g) (gapValue g') = true ↔ gapTuple g = gapTuple g' := by
    intro g g'
    simp only [gapValue, gapTuple, GAM.valueEq, valuesEq, Bool.and_eq_true, beq_iff_eq, and_true,
      EmbeddingLike.apply_eq_iff_eq, Prod.mk.injEq]
  refine valuesEq_iff (R := fun g v => v = gapValue g) ?_ ?_ fun g _ g' _ v w hv hw => ?_
  · exact List.forall₂_map_right_iff.mpr (List.forall₂_same.mpr fun _ _ => rfl)
  · exact List.forall₂_map_right_iff.mpr (List.forall₂_same.mpr fun _ _ => rfl)
  · rw [hv, hw]
    exact each g g'

omit [Platform] in
/-- Conclusions are told apart by verdict, risk, decisive rules and what the gaps ask. -/
lemma conclusion_eq {v v' : Verdict} {k k' : Risk} {d d' : List String} {g g' : List EvidenceGap} :
    valueEq (conclusionValue v k d g) (conclusionValue v' k' d' g') = true ↔
      v = v' ∧ k = k' ∧ d = d' ∧
        (sortedBy gapTuple g).map gapTuple = (sortedBy gapTuple g').map gapTuple := by
  have verdicts : v.name = v'.name ↔ v = v' := by
    cases v <;> cases v' <;> decide
  have risks : k.value = k'.value ↔ k = k' := by
    cases k <;> cases k' <;> decide
  simp [conclusionValue, GAM.valueEq, membersIn, List.lookup_cons, valuesEq_texts, gapValues_eq, verdicts, risks]

end

end GAM
