import GAM.Traces.Digest

/-!
# What a trace digest binds

The canonical encoding is injective on results, up to the normal form of their texts and the trace
digest itself. `SameJson` relates values with one encoding; it is inverted constructor by constructor
and then record by record, so that two results with one encoding agree in every nested step, gap,
dependency and evidence reference. `trace_digest_binding` adds the digest function, of which it
needs that it does not confuse these two texts.
-/

namespace GAM
open Lib

/-- Members under the same distinct keys are the same members when they are sorted to one list. -/
lemma sortedBy_fst_inj {α : Type} {l l' : List (String × α)} (nd : (l.map Prod.fst).Nodup)
    (keys : l.map Prod.fst = l'.map Prod.fst) (h : sortedBy Prod.fst l = sortedBy Prod.fst l') :
    l = l' := by
  have perm : l.Perm l' := by
    have p : (sortedBy Prod.fst l).Perm l' := h ▸ sortedBy_perm
    exact sortedBy_perm.symm.trans p
  apply List.ext_getElem perm.length_eq
  intro i hi hi'
  have mem : l[i] ∈ l' := perm.mem_iff.mp (List.getElem_mem hi)
  have key : l[i].1 = l'[i].1 := by
    have hk : (l.map Prod.fst)[i]? = (l'.map Prod.fst)[i]? := by rw [keys]
    simpa [hi, hi'] using hk
  exact List.inj_on_of_nodup_map (keys ▸ nd) mem (List.getElem_mem hi') key

/-- Objects under the same distinct keys have the same members when they are printed alike. -/
lemma sortKeys_obj_inj {ms ns : List (String × Json)} (nd : (ms.map Prod.fst).Nodup)
    (keys : ms.map Prod.fst = ns.map Prod.fst) (e : (Json.obj ms).sortKeys = (Json.obj ns).sortKeys) :
    List.Forall₂ (fun m n => m.2.sortKeys = n.2.sortKeys) ms ns := by
  have sorted : ms.map (fun m => (m.1, m.2.sortKeys)) = ns.map fun m => (m.1, m.2.sortKeys) := by
    rw [Json.sortKeys, Json.sortKeys, Json.obj.injEq, sortMembers_eq, sortMembers_eq] at e
    have fst (l : List (String × Json)) :
        (l.map fun m => (m.1, m.2.sortKeys)).map Prod.fst = l.map Prod.fst := by
      rw [List.map_map]
      rfl
    apply sortedBy_fst_inj _ _ e
    · rwa [fst]
    · rwa [fst, fst]
  rw [← List.forall₂_eq_eq_eq, List.forall₂_map_left_iff, List.forall₂_map_right_iff] at sorted
  exact sorted.imp fun m n h => (Prod.mk.inj h).2

section
variable [Platform]

/-- The values have one canonical encoding, up to the order of members. -/
def SameJson (v w : Value) : Prop :=
  ∃ j k, canonicalValue v = .ok j ∧ canonicalValue w = .ok k ∧ j.sortKeys = k.sortKeys

/-! ### Scalars -/

/-- Texts encoded alike have one normal form. -/
lemma sameJson_str {s t : String} (h : SameJson (.str s) (.str t)) : nfc s = nfc t := by
  obtain ⟨_, _, hj, hk, e⟩ := h
  cases hj
  cases hk
  exact Json.str.inj e

/-- Booleans encoded alike are equal. -/
lemma sameJson_bool {b c : Bool} (h : SameJson (.bool b) (.bool c)) : b = c := by
  obtain ⟨_, _, hj, hk, e⟩ := h
  cases hj
  cases hk
  exact Json.bool.inj e

/-- Floats encoded alike have one printed text. -/
lemma sameJson_float {x y : Binary64} (h : SameJson (.float x) (.float y)) : x.format17 = y.format17 := by
  obtain ⟨j, k, hj, hk, e⟩ := h
  simp only [canonicalValue] at hj hk
  split at hj
  · split at hk
    · cases hj
      cases hk
      simpa [Json.sortKeys, sortMembers, sortedBy, String.ofList_inj] using e
    · cases hk
  · cases hj

/-- Members encoded alike have one name. -/
lemma sameJson_enum {type a b : String} (h : SameJson (.enum type a) (.enum type b)) : a = b := by
  obtain ⟨j, k, hj, hk, e⟩ := h
  simp only [canonicalValue] at hj hk
  cases ht : enumTag type with
  | none =>
    rw [ht] at hj
    cases hj
  | some tag =>
    rw [ht] at hj hk
    cases hj
    cases hk
    have sorted (m : String) : (Json.obj [("$enum", .str tag), ("member", .str m)]).sortKeys =
        .obj [("$enum", .str tag), ("member", .str m)] := by
      simp [Json.sortKeys, sortMembers, sortedBy, List.insertionSort]
    rw [sorted, sorted] at e
    simpa using e

/-- Optional texts encoded alike are both absent or have one normal form. -/
lemma sameJson_opt {o p : Option String} (h : SameJson (toValue o) (toValue p)) :
    o.map nfc = p.map nfc := by
  cases o with
  | none =>
    cases p with
    | none => rfl
    | some t =>
      obtain ⟨_, _, hj, hk, e⟩ := h
      cases hj
      cases hk
      cases e
  | some s =>
    cases p with
    | none =>
      obtain ⟨_, _, hj, hk, e⟩ := h
      cases hj
      cases hk
      cases e
    | some t => exact congrArg some (sameJson_str h)

/-! ### Tuples, records and mappings -/

/-- Tuples encoded alike are so element by element. -/
lemma sameJson_tuple {l l' : List Value} (h : SameJson (.tuple l) (.tuple l')) :
    List.Forall₂ SameJson l l' := by
  obtain ⟨_, _, hj, hk, e⟩ := h
  simp only [canonicalValue, bind_eq_ok, pure_eq_ok, Except.ok.injEq] at hj hk
  obtain ⟨js, hjs, rfl⟩ := hj
  obtain ⟨ks, hks, rfl⟩ := hk
  rw [Json.sortKeys, Json.sortKeys, Json.arr.injEq] at e
  induction l generalizing l' js ks with
  | nil =>
    cases hjs
    cases l' with
    | nil => exact .nil
    | cons w l' =>
      simp only [canonicalElems, bind_eq_ok, pure_eq_ok, Except.ok.injEq] at hks
      obtain ⟨_, _, _, _, rfl⟩ := hks
      cases e
  | cons v l ih =>
    simp only [canonicalElems, bind_eq_ok, pure_eq_ok, Except.ok.injEq] at hjs
    obtain ⟨j, hj, js, hjs, rfl⟩ := hjs
    cases l' with
    | nil =>
      cases hks
      cases e
    | cons w l' =>
      simp only [canonicalElems, bind_eq_ok, pure_eq_ok, Except.ok.injEq] at hks
      obtain ⟨k, hk, ks, hks, rfl⟩ := hks
      obtain ⟨head, tail⟩ := List.cons.inj e
      exact .cons ⟨j, k, hj, hk, head⟩ (ih js hjs ks hks tail)

/-- A tuple of modelled values is the same item by item. -/
lemma sameJson_list {α β : Type} [ToValue α] {f : α → β} {l l' : List α}
    (h : SameJson (toValue l) (toValue l'))
    (same : ∀ a b, SameJson (toValue a) (toValue b) → f a = f b) : l.map f = l'.map f := by
  have rel := sameJson_tuple h
  rw [List.forall₂_map_left_iff, List.forall₂_map_right_iff] at rel
  clear h
  induction rel with
  | nil => rfl
  | @cons a b l l' hab _ ih => rw [List.map_cons, List.map_cons, same a b hab, ih]

/-- Members that are encoded alike, one after the other. -/
lemma sameJson_members {R : String × Value → String × Json → Prop}
    (hR : ∀ f m, R f m → canonicalValue f.2 = .ok m.2) {fs gs : List (String × Value)} {ms ns}
    (h : List.Forall₂ R fs ms) (h' : List.Forall₂ R gs ns)
    (e : List.Forall₂ (fun m n => m.2.sortKeys = n.2.sortKeys) ms ns) :
    List.Forall₂ (fun f g => SameJson f.2 g.2) fs gs := by
  induction e generalizing fs gs with
  | nil =>
    cases h
    cases h'
    exact .nil
  | @cons m n ms ns emn _ ih =>
    cases h with
    | cons hm h =>
      cases h' with
      | cons hn h' => exact .cons ⟨m.2, n.2, hR _ _ hm, hR _ _ hn, emn⟩ (ih h h')

/-- Records with the same distinct field names are encoded alike when their fields are. -/
lemma sameJson_record {fs gs : List (String × Value)} (h : SameJson (.record fs) (.record gs))
    (nd : (fs.map Prod.fst).Nodup) (keys : fs.map Prod.fst = gs.map Prod.fst) :
    List.Forall₂ (fun f g => SameJson f.2 g.2) fs gs := by
  obtain ⟨_, _, hj, hk, e⟩ := h
  simp only [canonicalValue, bind_eq_ok, pure_eq_ok, Except.ok.injEq] at hj hk
  obtain ⟨ms, hms, rfl⟩ := hj
  obtain ⟨ns, hns, rfl⟩ := hk
  have left := canonicalFields_forall₂ hms
  have right := canonicalFields_forall₂ hns
  have hm := forall₂_keys left fun _ _ h => h.1
  have hn := forall₂_keys right fun _ _ h => h.1
  apply sameJson_members (fun _ _ h => h.2) left right
  exact sortKeys_obj_inj (hm ▸ nd) (hm ▸ hn ▸ keys) e

/-- Records that are encoded alike have the same field names. -/
lemma sameJson_names {fs gs : List (String × Value)} (h : SameJson (.record fs) (.record gs)) :
    (fs.map Prod.fst).Perm (gs.map Prod.fst) := by
  obtain ⟨_, _, hj, hk, e⟩ := h
  simp only [canonicalValue, bind_eq_ok, pure_eq_ok, Except.ok.injEq] at hj hk
  obtain ⟨ms, hms, rfl⟩ := hj
  obtain ⟨ns, hns, rfl⟩ := hk
  rw [forall₂_keys (canonicalFields_forall₂ hms) fun _ _ h => h.1,
    forall₂_keys (canonicalFields_forall₂ hns) fun _ _ h => h.1]
  have names (l : List (String × Json)) :
      ((sortedBy Prod.fst (sortMembers l)).map Prod.fst).Perm (l.map Prod.fst) := by
    have fst : (sortMembers l).map Prod.fst = l.map Prod.fst := by
      rw [sortMembers_eq, List.map_map]
      rfl
    exact fst ▸ sortedBy_perm.map Prod.fst
  rw [Json.sortKeys, Json.sortKeys, Json.obj.injEq] at e
  exact (names ms).symm.trans (e ▸ names ns)

/-- Mappings with the same keys are encoded alike when their values are. -/
lemma sameJson_dict {fs gs : List (String × Value)} (h : SameJson (.dict fs) (.dict gs))
    (keys : fs.map Prod.fst = gs.map Prod.fst) :
    List.Forall₂ (fun f g => SameJson f.2 g.2) fs gs := by
  obtain ⟨_, _, hj, hk, e⟩ := h
  simp only [canonicalValue, bind_eq_ok, pure_eq_ok, Except.ok.injEq] at hj hk
  obtain ⟨ms, hms, rfl⟩ := hj
  obtain ⟨ns, hns, rfl⟩ := hk
  have left := normalizedMapping_forall₂ hms
  have right := normalizedMapping_forall₂ hns
  have normal {l : List (String × Value)} {ks : List (String × Json)}
      (rel : List.Forall₂ (fun f m => nfc f.1 = m.1 ∧ canonicalValue f.2 = .ok m.2) l ks) :
      ks.map Prod.fst = (l.map Prod.fst).map nfc := by
    induction rel with
    | nil => rfl
    | cons h _ ih => rw [List.map_cons, List.map_cons, List.map_cons, ih, h.1]
  have nd := (normalizedMapping_nodup hms).1
  apply sameJson_members (fun _ _ h => h.2) left right
  refine sortKeys_obj_inj ?_ ?_ e
  · rw [normal left, List.map_map]
    exact nd
  · rw [normal left, normal right, keys]

/-- Mappings that are encoded alike have as many members. -/
lemma sameJson_dict_length {fs gs : List (String × Value)} (h : SameJson (.dict fs) (.dict gs)) :
    fs.length = gs.length := by
  obtain ⟨_, _, hj, hk, e⟩ := h
  simp only [canonicalValue, bind_eq_ok, pure_eq_ok, Except.ok.injEq] at hj hk
  obtain ⟨ms, hms, rfl⟩ := hj
  obtain ⟨ns, hns, rfl⟩ := hk
  have sizes (l : List (String × Json)) :
      (sortedBy Prod.fst (sortMembers l)).length = l.length := by
    rw [length_sortedBy, sortMembers_eq, List.length_map]
  rw [Json.sortKeys, Json.sortKeys, Json.obj.injEq] at e
  rw [(normalizedMapping_forall₂ hms).length_eq, (normalizedMapping_forall₂ hns).length_eq,
    ← sizes ms, ← sizes ns, e]

/-! ### Records in normal form -/

/-- The texts of a record in NFC. -/
def EvidenceRef.normalized (r : EvidenceRef) : EvidenceRef where
  refId := nfc r.refId
  kind := nfc r.kind
  digest := nfc r.digest

/-- The encoding reads the texts in NFC. -/
def EvidenceGap.normalized (r : EvidenceGap) : EvidenceGap where
  gapId := nfc r.gapId
  witness := r.witness
  subjectRef := nfc r.subjectRef
  question := nfc r.question
  needed := nfc r.needed
  resolutionRuleId := nfc r.resolutionRuleId

/-- The encoding reads the texts in NFC. -/
def DependencyRef.normalized (r : DependencyRef) : DependencyRef where
  dependencyId := nfc r.dependencyId
  subjectRef := nfc r.subjectRef
  predicate := nfc r.predicate
  expectedJson := nfc r.expectedJson
  observedJson := r.observedJson.map nfc
  state := r.state
  snapshotDigest := nfc r.snapshotDigest
  evidenceRefs := r.evidenceRefs.map EvidenceRef.normalized
  necessaryForYes := r.necessaryForYes
  sufficientIfTrue := r.sufficientIfTrue

/-- The encoding reads the texts in NFC. -/
def OperatorTraceStep.normalized (r : OperatorTraceStep) : OperatorTraceStep where
  stepId := nfc r.stepId
  ruleId := nfc r.ruleId
  family := r.family
  pole := nfc r.pole
  subjectRef := nfc r.subjectRef
  objectRefs := r.objectRefs.map nfc
  resultJson := nfc r.resultJson
  evidenceRefs := r.evidenceRefs.map EvidenceRef.normalized

/-- The encoding reads the texts in NFC. -/
def ReducerTraceStep.normalized (r : ReducerTraceStep) : ReducerTraceStep where
  stepId := nfc r.stepId
  ruleId := nfc r.ruleId
  family := r.family
  pole := nfc r.pole
  decisiveFactStepIds := r.decisiveFactStepIds.map nfc
  resultJson := nfc r.resultJson

/-- The encoding reads the texts in NFC. -/
def TraceStep.normalized : TraceStep → TraceStep
  | .operator r => .operator r.normalized
  | .reducer r => .reducer r.normalized

/-- A finalized result in NFC, without its trace digest. -/
def CheckResult.normalized (r : CheckResult) : CheckResult where
  verdict := r.verdict
  risk := r.risk
  operatorTrace := r.operatorTrace.map TraceStep.normalized
  evidenceGaps := r.evidenceGaps.map EvidenceGap.normalized
  dependencies := r.dependencies.map DependencyRef.normalized
  precedentRefs := r.precedentRefs.map nfc
  consequenceWarningRefs := r.consequenceWarningRefs.map nfc
  becauseStepId := nfc r.becauseStepId
  evaluationId := nfc r.evaluationId
  profileVersion := r.profileVersion.map nfc
  priorEvaluationId := r.priorEvaluationId.map nfc
  changedFactRuleIds := r.changedFactRuleIds.map nfc
  evaluatorVersion := nfc r.evaluatorVersion
  ruleConfigDigest := nfc r.ruleConfigDigest
  inputSnapshotDigest := nfc r.inputSnapshotDigest
  policyDigest := nfc r.policyDigest
  traceDigest := ""

/-- A BLOCKED result in NFC, without its trace digest. -/
def BlockedResult.normalized (r : BlockedResult) : BlockedResult where
  evaluationId := nfc r.evaluationId
  profileVersion := r.profileVersion.map nfc
  priorEvaluationId := r.priorEvaluationId.map nfc
  changedFactRuleIds := r.changedFactRuleIds.map nfc
  errorCode := nfc r.errorCode
  safeMessage := nfc r.safeMessage
  operatorTrace := r.operatorTrace.map OperatorTraceStep.normalized
  evidenceGaps := r.evidenceGaps.map EvidenceGap.normalized
  dependencies := r.dependencies.map DependencyRef.normalized
  evaluatorVersion := nfc r.evaluatorVersion
  ruleConfigDigest := nfc r.ruleConfigDigest
  inputSnapshotDigest := nfc r.inputSnapshotDigest
  policyDigest := nfc r.policyDigest
  traceDigest := ""

/-- A result in NFC, without its trace digest. -/
def EvaluationResult.normalized : EvaluationResult → EvaluationResult
  | .check r => .check r.normalized
  | .blocked r => .blocked r.normalized

omit [Platform] in
/-- The name says which verdict it is. -/
lemma Verdict.name_inj {a b : Verdict} (h : a.name = b.name) : a = b := by
  cases a <;> cases b <;> simp [Verdict.name] at h ⊢

omit [Platform] in
/-- The name says which risk it is. -/
lemma Risk.name_inj {a b : Risk} (h : a.name = b.name) : a = b := by
  cases a <;> cases b <;> simp [Risk.name] at h ⊢

omit [Platform] in
/-- The name says which witness it is. -/
lemma Witness.name_inj {a b : Witness} (h : a.name = b.name) : a = b := by
  cases a <;> cases b <;> simp [Witness.name] at h ⊢

omit [Platform] in
/-- The name says which family it is. -/
lemma OperatorFamily.name_inj {a b : OperatorFamily} (h : a.name = b.name) : a = b := by
  cases a <;> cases b <;> simp [OperatorFamily.name] at h ⊢

omit [Platform] in
/-- The name says which state it is. -/
lemma DependencyState.name_inj {a b : DependencyState} (h : a.name = b.name) : a = b := by
  cases a <;> cases b <;> simp [DependencyState.name] at h ⊢

/-- Evidence encoded alike has one normal form. -/
lemma EvidenceRef.bound {a b : EvidenceRef} (h : SameJson (toValue a) (toValue b)) :
    a.normalized = b.normalized := by
  have rel := sameJson_record h (by simp) (by simp)
  simp only [List.forall₂_cons] at rel
  obtain ⟨ref, kind, digest, -⟩ := rel
  simp only [EvidenceRef.normalized, sameJson_str ref, sameJson_str kind, sameJson_str digest]

/-- Gaps encoded alike have one normal form. -/
lemma EvidenceGap.bound {a b : EvidenceGap} (h : SameJson (toValue a) (toValue b)) :
    a.normalized = b.normalized := by
  have rel := sameJson_record h (by simp) (by simp)
  simp only [List.forall₂_cons] at rel
  obtain ⟨id, witness, subject, question, needed, rule, -⟩ := rel
  simp only [EvidenceGap.normalized, sameJson_str id, Witness.name_inj (sameJson_enum witness),
    sameJson_str subject, sameJson_str question, sameJson_str needed, sameJson_str rule]

/-- Dependencies encoded alike have one normal form. -/
lemma DependencyRef.bound {a b : DependencyRef} (h : SameJson (toValue a) (toValue b)) :
    a.normalized = b.normalized := by
  have rel := sameJson_record h (by simp) (by simp)
  simp only [List.forall₂_cons] at rel
  obtain ⟨id, subject, predicate, expected, observed, state, digest, refs, necessary, sufficient,
    -⟩ := rel
  simp only [DependencyRef.normalized, sameJson_str id, sameJson_str subject,
    sameJson_str predicate, sameJson_str expected, sameJson_opt observed,
    DependencyState.name_inj (sameJson_enum state), sameJson_str digest,
    sameJson_list refs fun _ _ => EvidenceRef.bound, sameJson_bool necessary,
    sameJson_bool sufficient]

/-- Operator steps encoded alike have one normal form. -/
lemma OperatorTraceStep.bound {a b : OperatorTraceStep} (h : SameJson (toValue a) (toValue b)) :
    a.normalized = b.normalized := by
  have rel := sameJson_record h (by simp) (by simp)
  simp only [List.forall₂_cons] at rel
  obtain ⟨id, rule, family, pole, subject, objects, result, refs, -⟩ := rel
  simp only [OperatorTraceStep.normalized, sameJson_str id, sameJson_str rule,
    OperatorFamily.name_inj (sameJson_enum family), sameJson_str pole, sameJson_str subject,
    sameJson_list objects fun _ _ => sameJson_str, sameJson_str result,
    sameJson_list refs fun _ _ => EvidenceRef.bound]

/-- Reducer steps encoded alike have one normal form. -/
lemma ReducerTraceStep.bound {a b : ReducerTraceStep} (h : SameJson (toValue a) (toValue b)) :
    a.normalized = b.normalized := by
  have rel := sameJson_record h (by simp) (by simp)
  simp only [List.forall₂_cons] at rel
  obtain ⟨id, rule, family, pole, decisive, result, -⟩ := rel
  simp only [ReducerTraceStep.normalized, sameJson_str id, sameJson_str rule,
    OperatorFamily.name_inj (sameJson_enum family), sameJson_str pole,
    sameJson_list decisive fun _ _ => sameJson_str, sameJson_str result]

/-- The two kinds of steps have different field names, so their encodings differ. -/
lemma TraceStep.kinds_differ {a : OperatorTraceStep} {b : ReducerTraceStep} :
    ¬SameJson (toValue a) (toValue b) ∧ ¬SameJson (toValue b) (toValue a) := by
  constructor
  · intro h
    exact absurd (sameJson_names h).length_eq (by decide : (8 : Nat) ≠ 6)
  · intro h
    exact absurd (sameJson_names h).length_eq (by decide : (6 : Nat) ≠ 8)

/-- Steps encoded alike have one normal form. -/
lemma TraceStep.bound {a b : TraceStep} (h : SameJson (toValue a) (toValue b)) :
    a.normalized = b.normalized := by
  cases a with
  | operator a =>
    cases b with
    | operator b => exact congrArg TraceStep.operator (OperatorTraceStep.bound h)
    | reducer b => exact absurd h TraceStep.kinds_differ.1
  | reducer a =>
    cases b with
    | operator b => exact absurd h TraceStep.kinds_differ.2
    | reducer b => exact congrArg TraceStep.reducer (ReducerTraceStep.bound h)

/-! ### Results -/

/-- Checked results encoded alike have one normal form. -/
lemma CheckResult.bound {a b : CheckResult} (h : SameJson (checkPayload a) (checkPayload b)) :
    a.normalized = b.normalized := by
  have rel := @sameJson_dict _ [_, _, _, _, _, _, _, _, _, _, _, _, _, _, _, _, _, _]
    [_, _, _, _, _, _, _, _, _, _, _, _, _, _, _, _, _, _] h rfl
  simp only [List.forall₂_cons] at rel
  obtain ⟨-, -, verdict, risk, trace, gaps, dependencies, precedents, warnings, because, evaluation,
    profile, prior, changed, version, config, snapshot, policy, -⟩ := rel
  simp only [CheckResult.normalized, Verdict.name_inj (sameJson_enum verdict),
    Risk.name_inj (sameJson_enum risk), sameJson_list trace fun _ _ => TraceStep.bound,
    sameJson_list gaps fun _ _ => EvidenceGap.bound,
    sameJson_list dependencies fun _ _ => DependencyRef.bound,
    sameJson_list precedents fun _ _ => sameJson_str, sameJson_list warnings fun _ _ => sameJson_str,
    sameJson_str because, sameJson_str evaluation, sameJson_opt profile, sameJson_opt prior,
    sameJson_list changed fun _ _ => sameJson_str, sameJson_str version, sameJson_str config,
    sameJson_str snapshot, sameJson_str policy]

/-- Blocked results encoded alike have one normal form. -/
lemma BlockedResult.bound {a b : BlockedResult} (h : SameJson (blockedPayload a) (blockedPayload b)) :
    a.normalized = b.normalized := by
  have rel := @sameJson_dict _ [_, _, _, _, _, _, _, _, _, _, _, _, _, _, _]
    [_, _, _, _, _, _, _, _, _, _, _, _, _, _, _] h rfl
  simp only [List.forall₂_cons] at rel
  obtain ⟨-, -, evaluation, profile, prior, changed, code, message, trace, gaps, dependencies, version,
    config, snapshot, policy, -⟩ := rel
  simp only [BlockedResult.normalized, sameJson_str evaluation, sameJson_opt profile,
    sameJson_opt prior, sameJson_list changed fun _ _ => sameJson_str, sameJson_str code,
    sameJson_str message, sameJson_list trace fun _ _ => OperatorTraceStep.bound,
    sameJson_list gaps fun _ _ => EvidenceGap.bound,
    sameJson_list dependencies fun _ _ => DependencyRef.bound, sameJson_str version,
    sameJson_str config, sameJson_str snapshot, sameJson_str policy]

/-- Python `_result_payload`. -/
def resultPayload : EvaluationResult → Value
  | .check r => checkPayload r
  | .blocked r => blockedPayload r

/-- Python `check_result_digest` and `blocked_result_digest`. -/
def resultDigest : EvaluationResult → Except PyError String
  | .check r => checkResultDigest r
  | .blocked r => blockedResultDigest r

/-- The digest of a result is that of its payload. -/
lemma resultDigest_eq {r : EvaluationResult} :
    resultDigest r = canonicalSha256 (resultPayload r) := by cases r <;> rfl

/-- Payloads with one encoding are of results that agree. -/
lemma EvaluationResult.bound {r r' : EvaluationResult}
    (h : SameJson (resultPayload r) (resultPayload r')) : r.normalized = r'.normalized := by
  cases r with
  | check r =>
    cases r' with
    | check r' => exact congrArg EvaluationResult.check (CheckResult.bound h)
    -- a finalized result has more fields than a BLOCKED one
    | blocked r' => exact absurd (sameJson_dict_length h) (by decide : (18 : Nat) ≠ 15)
  | blocked r =>
    cases r' with
    | check r' => exact absurd (sameJson_dict_length h) (by decide : (15 : Nat) ≠ 18)
    | blocked r' => exact congrArg EvaluationResult.blocked (BlockedResult.bound h)

/-- Values with one digest have one canonical encoding, when their texts do not collide. -/
lemma sameJson_of_digest {v w : Value} {d : String} (h : canonicalSha256 v = .ok d)
    (h' : canonicalSha256 w = .ok d)
    (distinct : ∀ t t', canonicalJson v = .ok t → canonicalJson w = .ok t' →
      sha256 t = sha256 t' → t = t') : SameJson v w := by
  simp only [canonicalSha256, bind_eq_ok, pure_eq_ok, Except.ok.injEq] at h h'
  obtain ⟨t, ht, hd⟩ := h
  obtain ⟨t', ht', hd'⟩ := h'
  have text : t = t' := distinct t t' ht ht' (hd.trans hd'.symm)
  obtain ⟨-, j, hj, rfl⟩ := canonicalJson_eq_ok.mp ht
  obtain ⟨-, k, hk, rfl⟩ := canonicalJson_eq_ok.mp ht'
  have parsed : Json.parse j.dumps = Json.parse k.dumps := congrArg Json.parse text
  rw [Json.parse_dumps, Json.parse_dumps, Option.some.injEq] at parsed
  exact ⟨j, k, hj, hk, parsed⟩

/-- The trace digest is binding: results with one digest have the same status and agree on every
field but the digest, up to NFC, when the digest function does not confuse their texts. -/
theorem trace_digest_binding {r r' : EvaluationResult} {d : String} (h : resultDigest r = .ok d)
    (h' : resultDigest r' = .ok d)
    (distinct : ∀ t t', canonicalJson (resultPayload r) = .ok t →
      canonicalJson (resultPayload r') = .ok t' → sha256 t = sha256 t' → t = t') :
    r.normalized = r'.normalized := by
  rw [resultDigest_eq] at h h'
  exact EvaluationResult.bound (sameJson_of_digest h h' distinct)

end

/-- A result with two steps, a gap and a dependency, and the same result with another trace digest. -/
theorem trace_digest_binding_same :
    let _ := asciiPlatform
    let digest := String.ofList (List.replicate 64 '0')
    let ref : EvidenceRef := ⟨"ref", "kind", digest⟩
    let step : TraceStep := .operator
      ⟨"first:01:F01_THIS_BIND", "F01_THIS_BIND", .this, "THIS", "proposal", ["object"], "\x7b\x7d", [ref]⟩
    let reduction : TraceStep := .reducer
      ⟨"first:02:R2_MAYBE", "R2_MAYBE", .everySome, "SOME", ["first:01:F01_THIS_BIND"], "\x7b\x7d"⟩
    let r : CheckResult :=
      { verdict := .maybe, risk := .medium, operatorTrace := [step, reduction],
        evidenceGaps := [⟨"gap", .what, "proposal", "question", "needed", "F05"⟩],
        dependencies := [⟨"dependency", "subject", "predicate", "1", some "2", .true, digest, [ref], true, false⟩],
        precedentRefs := ["precedent"], consequenceWarningRefs := [], becauseStepId := "first:03:F12",
        evaluationId := "first", profileVersion := none, priorEvaluationId := none,
        changedFactRuleIds := [], evaluatorVersion := "gam-gate/1.1", ruleConfigDigest := "",
        inputSnapshotDigest := "", policyDigest := "", traceDigest := "" }
    (EvaluationResult.check r).normalized =
      (EvaluationResult.check { r with traceDigest := "other" }).normalized := by
  intro _ digest ref step reduction r
  obtain ⟨d, h⟩ := checkResultDigest_ok r
  have h' : checkResultDigest { r with traceDigest := "other" } = .ok d := h
  refine trace_digest_binding (r := .check r) h h' fun t t' ht ht' _ => ?_
  have same : canonicalJson (resultPayload (.check { r with traceDigest := "other" })) =
      canonicalJson (resultPayload (.check r)) := rfl
  rw [same, ht] at ht'
  exact Except.ok.inj ht'

end GAM
