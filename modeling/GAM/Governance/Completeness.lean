import GAM.Governance.FirstEvaluation

/-!
# Evidence completeness

The F07 step of a finalized result, and what it says about the refs of a proposal. The refs are
gathered into one per kind, the last by identifier, before they are looked at; so a requirement with a
valid ref is marked satisfied exactly when the last ref of its kind is a valid one.
-/

namespace GAM
open Lib

/-- A requirement of an ALLOW rule with the proposal's keys. -/
def Required (s : EvaluationSnapshot) (q : EvidenceRequirement) : Prop :=
  ∃ rule, Rules s .allow rule ∧ q ∈ rule.requiredEvidence

/-- Some ref of a kind is valid. -/
def HasValid (refs : List EvidenceRef) (kind : String) : Prop :=
  ∃ ref ∈ refs, ref.kind = kind ∧ evidenceValid ref = true

/-- In the order of identifiers, no ref of the kind comes after some valid one. -/
def ValidLast (refs : List EvidenceRef) (kind : String) : Prop :=
  ∃ before ref after, sortedBy EvidenceRef.refId refs = before ++ ref :: after ∧ ref.kind = kind ∧
    evidenceValid ref = true ∧ ∀ other ∈ after, other.kind ≠ kind

section
variable [Platform]

/-- The F07 step of a trace marks a requirement. -/
def Marks (trace : List TraceStep) (q : EvidenceRequirement) (mark : Bool) : Prop :=
  ∃ step all rows evidence, .operator step ∈ trace ∧ step.ruleId = F07 ∧
    step.resultJson = (Json.obj [("all_satisfied", all), ("requirements", .arr rows)]).dumps ∧
    .obj [("requirement_id", .str q.requirementId), ("kind", .str q.kind), ("satisfied", .bool mark),
      ("evidence_ref_id", evidence)] ∈ rows

variable {s : EvaluationSnapshot} {c : RuleConfig} {f : Findings} {r : CheckResult}
  {priorId : Option String} {q : EvidenceRequirement}

/-! ### The F07 step -/

omit [Platform] in
/-- A descriptor of a rule's block is under the rule. -/
lemma AtMostOne.rule {ruleId : String} {l : List FactStep} {d : FactStep} (h : AtMostOne ruleId l)
    (hd : d ∈ l) : d.ruleId = ruleId := by
  obtain rfl | ⟨_, rfl, under⟩ := h
  · cases hd
  · rw [List.mem_singleton.mp hd]
    exact under.1

/-- Only the block of F07 has facts under its rule. -/
lemma evidence_descriptor (e : collectFindings s c priorId = .ok f) {d : FactStep}
    (hd : d ∈ f.descriptors) (rule : d.ruleId = F07) : d ∈ (evidenceFindings s).descriptors := by
  obtain ⟨divergence, hdiv, -, rfl⟩ := collectFindings_eq_ok.mp e
  have other {ruleId : String} (own : d.ruleId = ruleId) (ne : F07 ≠ ruleId) :
      d ∈ (evidenceFindings s).descriptors := absurd (rule.symm.trans own) ne
  simp only [factFindings, Findings.descriptors_append, List.mem_append] at hd
  rcases hd with ((((((((((h | h) | h) | h) | h) | h) | h) | h) | h) | h) | h)
  · exact other (AtMostOne.rule (.inr bind_under) h) (by decide)
  · exact other (scope_under.rule h) (by decide)
  · exact other (exclusion_under.rule h) (by decide)
  · exact other (AtMostOne.rule (.inr retrieval_under) h) (by decide)
  · exact other (identity_under.rule h) (by decide)
  · exact other (conflict_under.rule h) (by decide)
  · exact h
  · exact other ((divergence_under hdiv).rule h) (by decide)
  · exact other (capability_under.rule h) (by decide)
  · rw [dependencyFindings, dependencies_descriptors] at h
    obtain ⟨dependency, -, h⟩ := List.mem_flatMap.mp h
    simp only [dependencySteps, List.mem_cons, List.not_mem_nil, or_false] at h
    rcases h with rfl | rfl
    · exact @other F10 rfl (by decide)
    · exact @other F10 rfl (by decide)
  · obtain ⟨last, hlast, under, -⟩ := aggregate_under (s := s)
      (f := factFindings s c priorId divergence (capabilityBody s))
    exact other (AtMostOne.rule (.inr ⟨last, hlast, under⟩) h) (by decide)

/-- The result of the F07 step. -/
def evidenceResult (s : EvaluationSnapshot) : Json :=
  .obj
    [("all_satisfied", .bool ((requirements s).filter fun r => !satisfied s r).isEmpty),
      ("requirements", .arr ((requirements s).map (requirementRow s)))]

/-- The F07 steps of a finalized result have the rows of the requirements, and there is one. -/
lemma evaluateAdmitted_evidence (h : evaluateAdmitted s c priorId = .ok r) :
    (∃ step, .operator step ∈ r.operatorTrace ∧ step.ruleId = F07) ∧
      ∀ step, .operator step ∈ r.operatorTrace → step.ruleId = F07 →
        step.resultJson = (evidenceResult s).dumps := by
  simp only [evaluateAdmitted, bind_eq_ok, pure_eq_ok, Except.ok.injEq] at h
  obtain ⟨f, hf, red, -, _, -, t, ht, changed, -, digest, -, rfl⟩ := h
  obtain ⟨hfacts, -, reducerId, becauseId, -, hbecause⟩ := buildTrace_parts ht
  have steps {step} : .operator step ∈ t.steps ↔ step ∈ t.facts ∨ step = t.because := by
    simp [BuiltTrace.steps]
  constructor
  · obtain ⟨d, hd, under⟩ := evidence_under (s := s)
    have mem : d ∈ f.descriptors := by
      obtain ⟨divergence, -, -, rfl⟩ := collectFindings_eq_ok.mp hf
      simp [factFindings, hd]
    obtain ⟨i, hi⟩ := @built_mem s.evaluationId _ 1 _ mem
    exact ⟨_, steps.mpr (.inl (hfacts ▸ hi)), under.1⟩
  · intro step hstep rule
    obtain hstep | rfl := steps.mp hstep
    · obtain ⟨d, hd, i, rfl⟩ := mem_built (hfacts ▸ hstep)
      cases List.mem_singleton.mp (evidence_descriptor hf hd rule)
      rfl
    · rw [hbecause] at rule
      exact absurd rule (by decide : F12 ≠ F07)

/-- The mark of a requirement is that of its kind. -/
lemma evaluateAdmitted_marks (h : evaluateAdmitted s c priorId = .ok r) (hq : q ∈ requirements s)
    {mark : Bool} : Marks r.operatorTrace q mark ↔ satisfied s q = mark := by
  obtain ⟨⟨step, hstep, rule⟩, only⟩ := evaluateAdmitted_evidence h
  constructor
  · rintro ⟨step, all, rows, evidence, hstep, rule, text, row⟩
    have same := Json.sortKeys_of_dumps (text.symm.trans (only step hstep rule))
    obtain ⟨m, hm, key, value⟩ := sortKeys_member same ("requirements", .arr rows) (by simp)
    simp only [List.mem_cons, List.not_mem_nil, or_false] at hm
    rcases hm with rfl | rfl
    · exact absurd (show "all_satisfied" = "requirements" from key) (by decide)
    have listed : (Json.obj _).sortKeys ∈ rows.map Json.sortKeys := List.mem_map_of_mem row
    rw [← sortKeys_elems value] at listed
    obtain ⟨_, hrow, alike⟩ := List.mem_map.mp listed
    obtain ⟨q', -, rfl⟩ := List.mem_map.mp hrow
    have kind : q'.kind = q.kind := by
      obtain ⟨m, hm, key, value⟩ := sortKeys_member alike.symm ("kind", .str q.kind) (by simp)
      simp only [List.mem_cons, List.not_mem_nil, or_false] at hm
      rcases hm with rfl | rfl | rfl | rfl <;> simp_all [Json.sortKeys]
    have marked : satisfied s q' = mark := by
      obtain ⟨m, hm, key, value⟩ := sortKeys_member alike.symm ("satisfied", .bool mark) (by simp)
      simp only [List.mem_cons, List.not_mem_nil, or_false] at hm
      rcases hm with rfl | rfl | rfl | rfl <;> simp_all [Json.sortKeys]
    rw [← marked, satisfied, satisfied, kind]
  · rintro rfl
    exact ⟨step, _, _, _, hstep, rule, only step hstep rule, List.mem_map_of_mem hq⟩

/-! ### The last ref of a kind -/

omit [Platform] in
/-- A requirement is satisfied when the last ref of its kind is valid. -/
lemma satisfied_validLast : satisfied s q = true ↔ ValidLast s.proposal.evidenceRefs q.kind := by
  rw [satisfied, Option.any_eq_true]
  simp only [evidenceByKind, List.find?_eq_some_iff_append, beq_iff_eq, Bool.not_eq_true',
    beq_eq_false_iff_ne]
  constructor
  · rintro ⟨ref, ⟨kind, after, before, split, later⟩, valid⟩
    rw [List.reverse_eq_append_iff, List.reverse_cons, List.append_assoc, List.singleton_append] at split
    exact ⟨_, ref, _, split, kind, valid, fun other h => later other (List.mem_reverse.mp h)⟩
  · rintro ⟨before, ref, after, split, kind, valid, later⟩
    refine ⟨ref, ⟨kind, after.reverse, before.reverse, ?_, ?_⟩, valid⟩
    · rw [split, List.reverse_append, List.reverse_cons, List.append_assoc, List.singleton_append]
    · exact fun other h => later other (List.mem_reverse.mp h)

omit [Platform] in
/-- A ref that comes last is one of the refs. -/
lemma ValidLast.hasValid {refs : List EvidenceRef} {kind : String} (h : ValidLast refs kind) :
    HasValid refs kind := by
  obtain ⟨before, ref, after, split, kind, valid, -⟩ := h
  refine ⟨ref, ?_, kind, valid⟩
  have listed : ref ∈ sortedBy EvidenceRef.refId refs := by
    rw [split]
    exact List.mem_append_right _ List.mem_cons_self
  exact mem_sortedBy.mp listed

omit [Platform] in
/-- The canonical snapshot requires the same evidence. -/
lemma required_canonical : Required (canonicalSnapshot s) q ↔ Required s q := by
  simp only [Required, rules_canonical]
  constructor
  · rintro ⟨_, ⟨rule, applies, rfl⟩, hq⟩
    exact ⟨rule, applies, mem_sortedBy.mp hq⟩
  · rintro ⟨rule, applies, hq⟩
    exact ⟨_, ⟨rule, applies, rfl⟩, mem_sortedBy.mpr hq⟩

omit [Platform] in
/-- The canonical snapshot has the same governing evidence valid. -/
lemma validLast_canonical {kind : String} :
    ValidLast (canonicalSnapshot s).proposal.evidenceRefs kind ↔
      ValidLast s.proposal.evidenceRefs kind := by
  simp only [ValidLast, canonicalSnapshot, sortedBy_idem]

/-- The F07 step marks a requirement satisfied exactly when the last ref of its kind is valid. -/
lemma evaluateProposal_marks (h : evaluateProposal s c = .ok (.check r)) (hq : Required s q) :
    Marks r.operatorTrace q true ↔ ValidLast s.proposal.evidenceRefs q.kind := by
  obtain ⟨priorId, -, evaluated⟩ := evaluateCanonical_check.mp h
  have listed : q ∈ requirements (canonicalSnapshot s) :=
    mem_requirements.mpr (required_canonical.mpr hq)
  rw [evaluateAdmitted_marks evaluated listed, satisfied_validLast, validLast_canonical]

/-- In a finalized result the requirements with a valid ref of their kind are the ones marked satisfied
exactly when the last ref of each such kind is valid; and one more ref leaves the satisfied ones
satisfied exactly when it leaves the last ref of their kinds valid. -/
theorem evaluateProposal_evidence (h : evaluateProposal s c = .ok (.check r)) :
    ((∀ q, Required s q →
        (Marks r.operatorTrace q true ↔ HasValid s.proposal.evidenceRefs q.kind)) ↔
      ∀ q, Required s q → HasValid s.proposal.evidenceRefs q.kind →
        ValidLast s.proposal.evidenceRefs q.kind) ∧
    ∀ s' r' ref, evaluateProposal s' c = .ok (.check r') → (∀ q, Required s' q ↔ Required s q) →
      s'.proposal.evidenceRefs.Perm (ref :: s.proposal.evidenceRefs) →
      ((∀ q, Required s q → Marks r.operatorTrace q true → Marks r'.operatorTrace q true) ↔
        ∀ q, Required s q → ValidLast s.proposal.evidenceRefs q.kind →
          ValidLast s'.proposal.evidenceRefs q.kind) := by
  constructor
  · constructor
    · intro marks q hq valid
      exact (evaluateProposal_marks h hq).mp ((marks q hq).mpr valid)
    · intro last q hq
      rw [evaluateProposal_marks h hq]
      exact ⟨ValidLast.hasValid, last q hq⟩
  · intro s' r' ref h' same _
    constructor
    · intro kept q hq last
      have marked := kept q hq ((evaluateProposal_marks h hq).mpr last)
      exact (evaluateProposal_marks h' ((same q).mpr hq)).mp marked
    · intro kept q hq marked
      have last := kept q hq ((evaluateProposal_marks h hq).mp marked)
      exact (evaluateProposal_marks h' ((same q).mpr hq)).mpr last

/-! ### A hidden ref -/

/-- A rule that asks for a document. -/
def documentRule : PolicyRule where
  ruleId := "rule"
  actionTypeKey := "set_demo_value"
  targetKey := none
  effect := .allow
  because := "documented"
  requiredEvidence := [⟨"requirement", "document", .what, "subject", "F07_EVIDENCE_COMPLETENESS"⟩]
  requiredCapabilityIds := []
  requireConsequence := false

/-- A first evaluation under that rule, with documents in order. -/
lemma document_finalized {refs : List EvidenceRef} (ordered : sortedBy EvidenceRef.refId refs = refs) :
    ∃ r, evaluateProposal (firstSnapshot [documentRule] [] [] refs) pinnedConfig = .ok (.check r) :=
  Proper.finalized
    { ruleOrder := rfl
      refOrder := ordered
      exclusionOrder := rfl
      precedentOrder := rfl
      few := by decide
      valid := fun _ h => absurd h List.not_mem_nil
      encodes := fun _ h => absurd h List.not_mem_nil
      bound := fun _ h => absurd h List.not_mem_nil
      fields := fun _ h => absurd h List.not_mem_nil
      checked := rfl }

/-- The document rule requires a document. -/
lemma document_required {refs : List EvidenceRef} :
    Required (firstSnapshot [documentRule] [] [] refs)
      ⟨"requirement", "document", .what, "subject", "F07_EVIDENCE_COMPLETENESS"⟩ :=
  ⟨documentRule, ⟨List.mem_cons_self, rfl, .inl rfl, rfl⟩, List.mem_cons_self⟩

end

/-- A valid document satisfies a requirement, and a second document without a digest, whose identifier
comes later, makes the requirement a gap. -/
theorem evaluateProposal_evidence_hidden :
    let _ := asciiPlatform
    let valid : EvidenceRef := ⟨"a", "document", zeroDigest⟩
    let invalid : EvidenceRef := ⟨"b", "document", ""⟩
    let s := firstSnapshot [documentRule] [] [] [valid]
    let s' := firstSnapshot [documentRule] [] [] [valid, invalid]
    let q : EvidenceRequirement :=
      ⟨"requirement", "document", .what, "subject", "F07_EVIDENCE_COMPLETENESS"⟩
    ∃ r r', evaluateProposal s pinnedConfig = .ok (.check r) ∧
      evaluateProposal s' pinnedConfig = .ok (.check r') ∧ Required s q ∧ Required s' q ∧
      Marks r.operatorTrace q true ∧ HasValid s'.proposal.evidenceRefs q.kind ∧
      ¬Marks r'.operatorTrace q true := by
  intro _ valid invalid s s' q
  have order : sortedBy EvidenceRef.refId [valid, invalid] = [valid, invalid] := by decide
  obtain ⟨r, hr⟩ := @document_finalized _ [valid] rfl
  obtain ⟨r', hr'⟩ := @document_finalized _ [valid, invalid] order
  refine ⟨r, r', hr, hr', document_required, document_required, ?_, ?_, ?_⟩
  · rw [evaluateProposal_marks hr document_required]
    exact ⟨[], valid, [], rfl, rfl, by decide, fun _ h => absurd h List.not_mem_nil⟩
  · exact ⟨valid, List.mem_cons_self, rfl, by decide⟩
  · rw [evaluateProposal_marks hr' document_required]
    rintro ⟨before, ref, after, split, kind, holds, later⟩
    have split : [valid, invalid] = before ++ ref :: after := order.symm.trans split
    cases before with
    | nil =>
      obtain ⟨rfl, rfl⟩ := List.cons.inj split
      exact later invalid List.mem_cons_self rfl
    | cons first rest =>
      obtain ⟨-, split⟩ := List.cons.inj split
      cases rest with
      | nil =>
        obtain ⟨rfl, -⟩ := List.cons.inj split
        exact absurd holds (by decide)
      | cons => exact absurd (List.cons.inj split).2 (by simp)

/-- With one document the proviso holds. -/
theorem evaluateProposal_evidence_one :
    let _ := asciiPlatform
    let s := firstSnapshot [documentRule] [] [] [⟨"a", "document", zeroDigest⟩]
    ∃ r, evaluateProposal s pinnedConfig = .ok (.check r) ∧ ∀ q, Required s q →
      (Marks r.operatorTrace q true ↔ HasValid s.proposal.evidenceRefs q.kind) := by
  intro _ s
  obtain ⟨r, hr⟩ := @document_finalized _ [⟨"a", "document", zeroDigest⟩] rfl
  refine ⟨r, hr, (evaluateProposal_evidence hr).1.mpr ?_⟩
  rintro q - ⟨ref, mem, kind, valid⟩
  obtain rfl := List.mem_singleton.mp mem
  exact ⟨[], _, [], rfl, kind, valid, fun _ h => absurd h List.not_mem_nil⟩

end GAM
