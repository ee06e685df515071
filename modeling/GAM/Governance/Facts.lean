import GAM.Governance.Admission

/-!
# The fact blocks

The blocks F01 to F11 of `evaluate_proposal`. The source appends to six accumulators; here each
block returns what it appends, a `Findings`, and the blocks are concatenated in their order. Only
two blocks can stop the evaluation: F08 on a consequence that is not bound to an OBSERVED receipt
under the pinned threshold, and F09 on a capability that is listed twice.
-/

namespace GAM
open Lib

/-- A fact before it has a step identifier (Python `_Step`). -/
structure FactStep where
  ruleId : String
  family : OperatorFamily
  pole : String
  subjectRef : String
  objectRefs : List String
  result : Json
  evidenceRefs : List EvidenceRef := []

/-- What a block appends to the accumulators of `evaluate_proposal`. -/
structure Findings where
  descriptors : List FactStep := []
  candidateGaps : List EvidenceGap := []
  rawR1 : List String := []
  rawR2 : List String := []
  rawR3 : List String := []
  decisiveRules : List String := []

instance : Append Findings where
  append a b :=
    { descriptors := a.descriptors ++ b.descriptors
      candidateGaps := a.candidateGaps ++ b.candidateGaps
      rawR1 := a.rawR1 ++ b.rawR1
      rawR2 := a.rawR2 ++ b.rawR2
      rawR3 := a.rawR3 ++ b.rawR3
      decisiveRules := a.decisiveRules ++ b.decisiveRules }

section
variable {a b : Findings}

@[simp] lemma Findings.descriptors_append :
    (a ++ b).descriptors = a.descriptors ++ b.descriptors := rfl
@[simp] lemma Findings.candidateGaps_append :
    (a ++ b).candidateGaps = a.candidateGaps ++ b.candidateGaps := rfl
@[simp] lemma Findings.rawR1_append : (a ++ b).rawR1 = a.rawR1 ++ b.rawR1 := rfl
@[simp] lemma Findings.rawR2_append : (a ++ b).rawR2 = a.rawR2 ++ b.rawR2 := rfl
@[simp] lemma Findings.rawR3_append : (a ++ b).rawR3 = a.rawR3 ++ b.rawR3 := rfl
@[simp] lemma Findings.decisiveRules_append :
    (a ++ b).decisiveRules = a.decisiveRules ++ b.decisiveRules := rfl

end

section
variable [Platform]

/-- The rule identifiers of the facts and of the closing step. -/
def F01 : String := "F01_THIS_BIND"
def F02 : String := "F02_SCOPE_BOUNDARY"
def F03 : String := "F03_EXCLUSION_IDENTITY"
def F04 : String := "F04_PRECEDENT_RETRIEVAL"
def F05 : String := "F05_PRECEDENT_IDENTITY"
def F06 : String := "F06_PRECEDENT_CONFLICT"
def F07 : String := "F07_EVIDENCE_COMPLETENESS"
def F08 : String := "F08_DIVERGENCE_BOUNDARY"
def F09 : String := "F09_CAPABILITY_SNAPSHOT"
def F10 : String := "F10_DEPENDENCY_FORMULA"
def F11 : String := "F11_CONDITION_AGGREGATE"
def F12 : String := "F12_FINAL_BECAUSE"

/-- A list of texts as JSON. -/
def jsonStrs (l : List String) : Json := .arr (l.map .str)

/-- An optional text as JSON. -/
def jsonOpt (o : Option String) : Json := o.elim .null .str

/-- The digest input of a gap identifier. -/
def gapSignature (witness : Witness) (subjectRef question needed ruleId : String) : Json :=
  .obj [("witness", .str (nfc witness.value)), ("subject_ref", .str (nfc subjectRef)),
    ("question", .str (nfc question)), ("needed", .str (nfc needed)),
    ("resolution_rule_id", .str (nfc ruleId))]

/-- Python `_gap`. -/
def gap (witness : Witness) (subjectRef question needed ruleId : String) : EvidenceGap where
  gapId := "gap-" ++
    String.ofList ((sha256 (gapSignature witness subjectRef question needed ruleId).dumps).toList.take 24)
  witness := witness
  subjectRef := subjectRef
  question := question
  needed := needed
  resolutionRuleId := ruleId

/-- The digest behind a gap identifier is the canonical digest of the signature. -/
lemma canonicalSha256_gapSignature {witness : Witness} {a b c d : String} :
    canonicalSha256 (.dict [("witness", .str witness.value), ("subject_ref", .str a),
      ("question", .str b), ("needed", .str c), ("resolution_rule_id", .str d)]) =
    .ok (sha256 (gapSignature witness a b c d).dumps) := by
  have h₁ := Platform.nfc_ascii "witness" (by decide)
  have h₂ := Platform.nfc_ascii "subject_ref" (by decide)
  have h₃ := Platform.nfc_ascii "question" (by decide)
  have h₄ := Platform.nfc_ascii "needed" (by decide)
  have h₅ := Platform.nfc_ascii "resolution_rule_id" (by decide)
  simp [canonicalSha256, canonicalJson, canonicalValue, normalizedMapping, gapSignature, ensure,
    h₁, h₂, h₃, h₄, h₅]

/-- F01: the identities and digests the evaluation is bound to. -/
def bindFindings (s : EvaluationSnapshot) (c : RuleConfig) (priorId : Option String) : Findings :=
  let p := s.proposal
  { descriptors := [{
      ruleId := F01, family := .this, pole := "THIS", subjectRef := p.proposalId, objectRefs := [],
      result := .obj
        [("proposal_id", .str p.proposalId), ("proposal_digest", .str p.proposalDigest),
          ("action_digest", .str p.actionDigest), ("snapshot_id", .str s.snapshotId),
          ("snapshot_digest", .str s.snapshotDigest),
          ("profile_version", jsonOpt s.profileVersion), ("prior_evaluation_id", jsonOpt priorId),
          ("prior_trace_digest", jsonOpt (s.priorEvaluation.map (·.traceDigest))),
          ("policy_digest", .str s.policy.policyDigest),
          ("rule_config_digest", .str c.ruleConfigDigest), ("captured_at", .str s.capturedAt)] }]
    decisiveRules := [F01, F11] }

/-- The rules that apply to the proposal's keys. -/
def applicableRules (s : EvaluationSnapshot) : List PolicyRule :=
  sortedBy PolicyRule.ruleId (s.policy.rules.filter fun rule =>
    rule.actionTypeKey == s.proposal.actionTypeKey &&
      (rule.targetKey == none || rule.targetKey == some s.proposal.targetKey))

/-- The rules that deny the action. -/
def denyRules (s : EvaluationSnapshot) : List PolicyRule :=
  (applicableRules s).filter fun rule => rule.effect == .deny

/-- The rules that allow the action. -/
def allowRules (s : EvaluationSnapshot) : List PolicyRule :=
  (applicableRules s).filter fun rule => rule.effect == .allow

/-- The F02 step. -/
def scopeStep (s : EvaluationSnapshot) (pole : String) (hasAllow hasDeny : Bool) : FactStep where
  ruleId := F02
  family := .insideOutside
  pole := pole
  subjectRef := s.proposal.proposalId
  objectRefs := (applicableRules s).map PolicyRule.ruleId
  result := .obj
    [("has_allow", .bool hasAllow), ("has_deny", .bool hasDeny),
      ("applicable_rule_ids", jsonStrs ((applicableRules s).map PolicyRule.ruleId))]

/-- F02: policy scope. -/
def scopeFindings (s : EvaluationSnapshot) : Findings :=
  let p := s.proposal
  if denyRules s ≠ [] then
    { descriptors := [scopeStep s "OUTSIDE" (!(allowRules s).isEmpty) true]
      rawR1 := ["F02_HARD_POLICY_OUTSIDE"]
      decisiveRules := [F02] }
  else if allowRules s ≠ [] then
    { descriptors := [scopeStep s "INSIDE" true false] }
  else
    { candidateGaps :=
        [gap .whence p.proposalId "Whence comes the policy authority for this action?"
          "an applicable digest-bound policy rule" F02,
        gap .place p.proposalId "Where is this target inside the allowed boundary?"
          "an exact or wildcard target scope" F02]
      rawR2 := ["F02_POLICY_SOURCE_UNRESOLVED", "F02_TARGET_SCOPE_UNRESOLVED"] }

/-- Whether keys are those of the proposal. -/
def sameKeys (p : Proposal) (actionTypeKey targetKey : String) : Bool :=
  actionTypeKey == p.actionTypeKey && targetKey == p.targetKey

/-- A row of the F03 result. -/
def exclusionRow (p : Proposal) (e : ExclusionRef) : Json :=
  .obj
    [("exclusion_id", .str e.exclusionId),
      ("classification", .str (if sameKeys p e.actionTypeKey e.targetKey then "SAME" else "NOT-SAME")),
      ("exclusion_digest", .str e.exclusionDigest), ("action_type", .str e.actionType),
      ("action_type_key", .str e.actionTypeKey), ("target", .str e.target),
      ("target_key", .str e.targetKey), ("source_proposal_id", .str e.sourceProposalId),
      ("source_evaluation_id", .str e.sourceEvaluationId),
      ("source_trace_digest", .str e.sourceEvaluationTraceDigest),
      ("source_decision_id", .str e.sourceDecisionId),
      ("source_decision", .str e.sourceDecisionValue.value),
      ("source_decision_digest", .str e.sourceDecisionDigest)]

/-- Whether an exclusion has the proposal's keys. -/
def someExcluded (s : EvaluationSnapshot) : Bool :=
  (sortedExclusions s.exclusions).any fun e => sameKeys s.proposal e.actionTypeKey e.targetKey

/-- F03: active exclusions. -/
def exclusionFindings (s : EvaluationSnapshot) : Findings :=
  let p := s.proposal
  let exclusions := sortedExclusions s.exclusions
  let someSame := someExcluded s
  { descriptors :=
      if exclusions = [] then []
      else [{
        ruleId := F03, family := .sameNotSame, pole := if someSame then "SAME" else "NOT-SAME",
        subjectRef := p.proposalId, objectRefs := exclusions.map ExclusionRef.exclusionId,
        result := .obj
          [("some_same", .bool someSame), ("exclusions", .arr (exclusions.map (exclusionRow p)))] }]
    rawR1 := if someSame then ["F03_ACTIVE_EXCLUSION_SAME"] else []
    decisiveRules := if someSame then [F03] else [] }

/-- The retrieval class of a precedent. -/
inductive Retrieval where
  | unresolved
  | near
  | far
deriving DecidableEq, Repr

/-- The text of a retrieval. -/
def Retrieval.value : Retrieval → String
  | .unresolved => "UNRESOLVED"
  | .near => "NEAR"
  | .far => "FAR"

/-- The classification of the F04 loop. -/
def retrieval (c : RuleConfig) (p : PrecedentRef) : Retrieval :=
  match p.similarity with
  | none => .unresolved
  | some similarity => if c.similarityThreshold.le similarity then .near else .far

/-- The precedents at or above the threshold, in canonical order. -/
def nearPrecedents (s : EvaluationSnapshot) (c : RuleConfig) : List PrecedentRef :=
  (sortedPrecedents s.precedents).filter fun p => retrieval c p == .near

/-- A row of the F04 result. -/
def retrievalRow (c : RuleConfig) (p : PrecedentRef) : Json :=
  .obj
    [("proposal_id", .str p.proposalId), ("evaluation_id", .str p.evaluationId),
      ("similarity", jsonOpt (p.similarity.map fun d => String.ofList d.strChars)),
      ("classification", .str (retrieval c p).value),
      ("error_code", jsonOpt p.similarityErrorCode)]

/-- F04: precedent retrieval. -/
def retrievalFindings (s : EvaluationSnapshot) (c : RuleConfig) : Findings :=
  let precedents := sortedPrecedents s.precedents
  let unresolved := precedents.filter fun p => retrieval c p == .unresolved
  let near := nearPrecedents s c
  { descriptors := [{
      ruleId := F04, family := .nearFar, pole := if near ≠ [] then "NEAR" else "FAR",
      subjectRef := s.proposal.proposalId, objectRefs := precedents.map PrecedentRef.proposalId,
      result := .obj
        [("candidate_count", .int precedents.length),
          ("valid_count", .int (precedents.length - unresolved.length)),
          ("unresolved_count", .int unresolved.length), ("some_near", .bool (!near.isEmpty)),
          ("some_unresolved", .bool (!unresolved.isEmpty)),
          ("all_unresolved",
            .bool (!precedents.isEmpty && unresolved.length == precedents.length)),
          ("candidates", .arr (precedents.map (retrievalRow c)))] }]
    candidateGaps := unresolved.map fun p =>
      gap .which p.proposalId "Which exact similarity can be recomputed?"
        "a fixed-scale cosine similarity for this candidate" F04
    rawR2 := unresolved.map fun p => "F04_SIMILARITY_UNRESOLVED:" ++ p.proposalId }

/-- The near precedents with the proposal's keys. -/
def identityQualifying (s : EvaluationSnapshot) (c : RuleConfig) : List PrecedentRef :=
  (nearPrecedents s c).filter fun p => sameKeys s.proposal p.actionTypeKey p.targetKey

/-- The approved ones among them. -/
def approvedPrecedents (s : EvaluationSnapshot) (c : RuleConfig) : List PrecedentRef :=
  (identityQualifying s c).filter fun p => p.decision == some .approve

/-- A row of the F05 result. -/
def identityRow (proposal : Proposal) (p : PrecedentRef) : Json :=
  let same := sameKeys proposal p.actionTypeKey p.targetKey
  .obj
    [("proposal_id", .str p.proposalId), ("evaluation_id", .str p.evaluationId),
      ("retrieval_classification", .str "NEAR"),
      ("identity_classification", .str (if same then "SAME" else "NOT-SAME")),
      ("qualifying", .bool same)]

/-- F05: precedent identity, and the missing approval. -/
def identityFindings (s : EvaluationSnapshot) (c : RuleConfig) : Findings :=
  let p := s.proposal
  let near := nearPrecedents s c
  let qualifying := identityQualifying s c
  { descriptors :=
      if near = [] then []
      else [{
        ruleId := F05, family := .sameNotSame,
        pole := if qualifying ≠ [] then "SAME" else "NOT-SAME", subjectRef := p.proposalId,
        objectRefs := near.map PrecedentRef.proposalId,
        result := .obj
          [("some_qualifying", .bool (!qualifying.isEmpty)),
            ("candidates", .arr (near.map (identityRow p)))] }]
    candidateGaps :=
      if approvedPrecedents s c = [] then
        [gap .which p.proposalId
          "Which exact approved action-type-and-target precedent qualifies?"
          "one NEAR and exact SAME approved precedent with required consequence" F05]
      else []
    rawR2 := if approvedPrecedents s c = [] then ["F05_NO_QUALIFYING_APPROVE"] else [] }

/-- Whether an approval stands beside a rejection or a modification. -/
def precedentConflict (s : EvaluationSnapshot) (c : RuleConfig) : Bool :=
  let decisions := (identityQualifying s c).map PrecedentRef.decision
  decisions.contains (some .approve) &&
    (decisions.contains (some .reject) || decisions.contains (some .modify))

/-- A row of the F06 result. -/
def conflictRow (p : PrecedentRef) : Json :=
  .obj
    [("proposal_id", .str p.proposalId), ("evaluation_id", .str p.evaluationId),
      ("decision", jsonOpt (p.decision.map DecisionValue.value)),
      ("decision_id", jsonOpt p.decisionId)]

/-- F06: conflicting precedents. -/
def conflictFindings (s : EvaluationSnapshot) (c : RuleConfig) : Findings :=
  let p := s.proposal
  let qualifying := identityQualifying s c
  let decisions := qualifying.map PrecedentRef.decision
  let conflict := precedentConflict s c
  { descriptors :=
      if qualifying = [] then []
      else [{
        ruleId := F06, family := .togetherAlone, pole := if conflict then "ALONE" else "TOGETHER",
        subjectRef := p.proposalId, objectRefs := qualifying.map PrecedentRef.evaluationId,
        result := .obj
          [("approved", .bool (decisions.contains (some .approve))),
            ("rejected", .bool (decisions.contains (some .reject))),
            ("modified", .bool (decisions.contains (some .modify))),
            ("undecided", .bool (decisions.contains none)), ("conflict", .bool conflict),
            ("decisions", .arr (qualifying.map conflictRow))] }]
    candidateGaps :=
      if conflict then
        [gap .which p.proposalId "Which conflicting precedent decisions should govern?"
          "human reconciliation of qualifying precedent decisions" F06]
      else []
    rawR2 := if conflict then ["F06_PRECEDENT_CONFLICT"] else [] }

/-- The requirements of the ALLOW rules, in canonical order. -/
def requirements (s : EvaluationSnapshot) : List EvidenceRequirement :=
  sortedBy EvidenceRequirement.requirementId ((allowRules s).flatMap PolicyRule.requiredEvidence)

/-- The evidence ref of a kind: the last in the order of identifiers (Python `evidence_by_kind`). -/
def evidenceByKind (s : EvaluationSnapshot) (kind : String) : Option EvidenceRef :=
  (sortedBy EvidenceRef.refId s.proposal.evidenceRefs).reverse.find? fun ref => ref.kind == kind

/-- Python `_evidence_valid`. -/
def evidenceValid (ref : EvidenceRef) : Bool :=
  ref.refId ≠ "" && ref.kind ≠ "" && isHex64 ref.digest

/-- Whether the governing evidence of a requirement is valid. -/
def satisfied (s : EvaluationSnapshot) (r : EvidenceRequirement) : Bool :=
  (evidenceByKind s r.kind).any evidenceValid

/-- A row of the F07 result. -/
def requirementRow (s : EvaluationSnapshot) (r : EvidenceRequirement) : Json :=
  .obj
    [("requirement_id", .str r.requirementId), ("kind", .str r.kind),
      ("satisfied", .bool (satisfied s r)),
      ("evidence_ref_id", jsonOpt ((evidenceByKind s r.kind).map EvidenceRef.refId))]

/-- F07: evidence completeness. -/
def evidenceFindings (s : EvaluationSnapshot) : Findings :=
  let missing := (requirements s).filter fun r => !satisfied s r
  { descriptors := [{
      ruleId := F07, family := .togetherAlone,
      pole := if missing ≠ [] then "ALONE" else "TOGETHER", subjectRef := s.proposal.proposalId,
      objectRefs := (requirements s).map EvidenceRequirement.requirementId,
      result := .obj
        [("all_satisfied", .bool missing.isEmpty),
          ("requirements", .arr ((requirements s).map (requirementRow s)))],
      evidenceRefs := (requirements s).filterMap fun r => evidenceByKind s r.kind }]
    candidateGaps := missing.map fun r =>
      gap r.witness r.subjectRef ("What resolves evidence requirement " ++ r.requirementId ++ "?")
        ("valid evidence of kind " ++ r.kind) r.resolutionRuleId
    rawR2 := missing.map fun r => "F07_EVIDENCE_MISSING:" ++ r.requirementId }

/-- Whether a YES needs an observed consequence. -/
def consequenceRequired (s : EvaluationSnapshot) (c : RuleConfig) : Bool :=
  c.requireConsequenceForYes && (allowRules s).any PolicyRule.requireConsequence

/-- The reports on approved precedents, with their precedent, in canonical order. -/
def consequenceReports (s : EvaluationSnapshot) (c : RuleConfig) :
    List (PrecedentRef × ConsequenceRef) :=
  sortedBy (fun pair => toLex (pair.2.receiptId, pair.2.consequenceId))
    ((approvedPrecedents s c).flatMap fun p => p.consequenceRefs.map fun r => (p, r))

/-- A report is bound to an OBSERVED receipt under the pinned threshold. -/
def consequenceBound (c : RuleConfig) (r : ConsequenceRef) : Bool :=
  r.receiptTerminalStatus == .observed && r.divergenceThreshold.eqv c.divergenceThreshold

/-- Whether a divergence is at or above the threshold. -/
def highDivergence (c : RuleConfig) (r : ConsequenceRef) : Bool :=
  c.divergenceThreshold.le r.divergence

/-- A row of the F08 result. -/
def reportRow (c : RuleConfig) (pair : PrecedentRef × ConsequenceRef) : Json :=
  .obj
    [("precedent_proposal_id", .str pair.1.proposalId), ("receipt_id", .str pair.2.receiptId),
      ("consequence_id", .str pair.2.consequenceId),
      ("divergence", .str (String.ofList pair.2.divergence.strChars)),
      ("classification", .str (if highDivergence c pair.2 then "MORE" else "LESS"))]

/-- The approved precedents without a consequence. -/
def missingConsequence (s : EvaluationSnapshot) (c : RuleConfig) : List PrecedentRef :=
  (approvedPrecedents s c).filter fun p => p.consequenceRefs.isEmpty

/-- The identifiers of the reports with high divergence. -/
def consequenceWarnings (s : EvaluationSnapshot) (c : RuleConfig) : List String :=
  ((consequenceReports s c).filter fun pair => highDivergence c pair.2).map (·.2.consequenceId)

/-- The findings of F08 once the reports are bound. -/
def divergenceBody (s : EvaluationSnapshot) (c : RuleConfig) : Findings :=
  let approved := approvedPrecedents s c
  let reports := consequenceReports s c
  let high := consequenceWarnings s c
  let missing := (missingConsequence s c).map PrecedentRef.proposalId
  let demanded := if consequenceRequired s c then missing else []
  { descriptors := [{
      ruleId := F08, family := .moreLess, pole := if high ≠ [] then "MORE" else "LESS",
      subjectRef := s.proposal.proposalId, objectRefs := approved.map PrecedentRef.proposalId,
      result := .obj
        [("qualifying_precedent_ids", jsonStrs (approved.map PrecedentRef.proposalId)),
          ("missing_consequence_precedent_ids", jsonStrs missing),
          ("report_count", .int reports.length), ("some_more", .bool (!high.isEmpty)),
          ("some_missing_consequence", .bool (!demanded.isEmpty)),
          ("reports", .arr (reports.map (reportRow c)))] }]
    candidateGaps :=
      (high.map fun id =>
        gap .what id
          "What accepted outcome or mitigation resolves the observed divergence?"
          "reviewed actual outcome or a new bounded proposal" F08) ++
      demanded.flatMap fun id =>
        [gap .when id "When was the approved effect observed?"
          "a fresh OBSERVED receipt-bound consequence report" F08,
        gap .what id "What actual outcome followed the approved effect?"
          "canonical actual outcome bound to that OBSERVED receipt" F08]
    rawR2 :=
      (high.map fun id => "F08_HIGH_DIVERGENCE:" ++ id) ++
      demanded.map fun id => "F08_MISSING_CONSEQUENCE:" ++ id }

/-- F08: divergence of approved precedents; stops on a report that is not bound. -/
def divergenceFindings (s : EvaluationSnapshot) (c : RuleConfig) : Except PyError Findings :=
  if approvedPrecedents s c = [] then .ok {}
  else do
    ensure ((consequenceReports s c).all (fun pair => consequenceBound c pair.2) = true)
      (.blocked "INVALID_CONSEQUENCE" "consequence binding is invalid")
    return divergenceBody s c

/-- The capabilities the ALLOW rules require, sorted and without repetition. -/
def requiredCapabilityIds (s : EvaluationSnapshot) : List String :=
  sortedBy id ((allowRules s).flatMap PolicyRule.requiredCapabilityIds).dedup

/-- The capability of an identifier (Python `capabilities_by_id`). -/
def capabilityById (s : EvaluationSnapshot) (id : String) : Option CapabilityFact :=
  s.capabilities.find? fun capability => capability.capabilityId == id

/-- What F09 records of one required capability. -/
def capabilityState (s : EvaluationSnapshot) (id : String) : Option DependencyState :=
  (capabilityById s id).map CapabilityFact.state

/-- A row of the F09 result. -/
def capabilityRow (s : EvaluationSnapshot) (id : String) : Json :=
  .obj
    [("capability_id", .str id),
      ("state", .str ((capabilityState s id).elim "MISSING" DependencyState.value))]

/-- The gaps of one required capability. -/
def capabilityGaps (s : EvaluationSnapshot) (id : String) : List EvidenceGap :=
  match capabilityState s id with
  | none =>
    [gap .which id "Which exact required capability is available?"
      "a bound capability identity and snapshot" F09,
    gap .how id "How was the required capability validated?" "fresh capability proof" F09]
  | some .unresolved =>
    [gap .how id "How can this capability be resolved?" "fresh bound capability proof" F09]
  | some _ => []

/-- The R2 predicates of one required capability. -/
def capabilityR2 (s : EvaluationSnapshot) (id : String) : List String :=
  match capabilityState s id with
  | none => ["F09_CAPABILITY_MISSING:" ++ id]
  | some .unresolved => ["F09_CAPABILITY_UNRESOLVED:" ++ id]
  | some _ => []

/-- Whether a required capability is in a state, or absent. -/
def someRequired (s : EvaluationSnapshot) (state : Option DependencyState) : Bool :=
  (requiredCapabilityIds s).any fun id => capabilityState s id == state

/-- The findings of F09 on the required capabilities. -/
def capabilityBody (s : EvaluationSnapshot) : Findings :=
  let ids := requiredCapabilityIds s
  let someFalse := someRequired s (some .false)
  let someUnresolved := someRequired s (some .unresolved)
  let someMissing := someRequired s none
  { descriptors :=
      if ids = [] then []
      else [{
        ruleId := F09, family := .canCannot,
        pole := if someFalse || someUnresolved || someMissing then "CANNOT" else "CAN",
        subjectRef := s.proposal.proposalId, objectRefs := ids,
        result := .obj
          [("some_false", .bool someFalse), ("some_unresolved", .bool someUnresolved),
            ("some_missing", .bool someMissing), ("capabilities", .arr (ids.map (capabilityRow s)))],
        evidenceRefs := ids.flatMap fun id =>
          (capabilityById s id).elim [] CapabilityFact.evidenceRefs }]
    candidateGaps := ids.flatMap (capabilityGaps s)
    rawR1 := (ids.filter fun id => capabilityState s id == some .false).map fun id =>
      "F09_CAPABILITY_FALSE:" ++ id
    rawR2 := ids.flatMap (capabilityR2 s)
    decisiveRules := if someFalse then [F09] else [] }

/-- F09: required capabilities; stops on a capability that is listed twice. -/
def capabilityFindings (s : EvaluationSnapshot) : Except PyError Findings := do
  ensure (s.capabilities.map CapabilityFact.capabilityId).Nodup
    (.blocked "DUPLICATE_CAPABILITY" "capability identity is duplicated")
  return capabilityBody s

/-- The fields both F10 steps of a dependency record. -/
def dependencyResult (d : DependencyRef) : List (String × Json) :=
  [("dependency_id", .str d.dependencyId), ("predicate", .str d.predicate),
    ("expected_json", .str d.expectedJson), ("observed_json", jsonOpt d.observedJson),
    ("state", .str d.state.value), ("necessary_for_yes", .bool d.necessaryForYes),
    ("sufficient_if_true", .bool d.sufficientIfTrue),
    ("predicate_satisfied", .bool (d.state == .true)), ("snapshot_digest", .str d.snapshotDigest)]

/-- One of the two F10 steps of a dependency. -/
def dependencyStep (d : DependencyRef) (pole : String) (result : List (String × Json)) : FactStep where
  ruleId := F10
  family := .ifThen
  pole := pole
  subjectRef := d.dependencyId
  objectRefs := []
  result := .obj result
  evidenceRefs := d.evidenceRefs

/-- The pair of F10 steps of a dependency. -/
def dependencySteps (d : DependencyRef) : List FactStep :=
  [dependencyStep d "IF" (dependencyResult d),
    dependencyStep d "THEN" (dependencyResult d ++
      [("then", .str "dependency TRUE under a fresh bound snapshot permits re-evaluation")])]

/-- An UNRESOLVED dependency decides by IFF when it is necessary and sufficient. -/
def completeFormula (d : DependencyRef) : Bool := d.necessaryForYes && d.sufficientIfTrue

/-- The findings of one dependency. -/
def oneDependency (d : DependencyRef) : Findings :=
  match d.state with
  | .true => { descriptors := dependencySteps d }
  | .false =>
    { descriptors := dependencySteps d
      rawR1 := ["F10_DEPENDENCY_FALSE:" ++ d.dependencyId]
      decisiveRules := [F10] }
  | .unresolved =>
    if completeFormula d then
      { descriptors := dependencySteps d
        rawR3 := ["F10_COMPLETE_FORMULA:" ++ d.dependencyId] }
    else
      { descriptors := dependencySteps d
        candidateGaps :=
          [gap .which d.dependencyId "Which exact dependency state applies?"
            "a fresh dependency fact" F10,
          gap .how d.dependencyId "How can the dependency predicate be validated?"
            "bound dependency evidence" F10]
        rawR2 := ["F10_INCOMPLETE_FORMULA:" ++ d.dependencyId] }

/-- F10 over a list of dependencies. -/
def dependenciesFindings : List DependencyRef → Findings
  | [] => {}
  | d :: ds => oneDependency d ++ dependenciesFindings ds

/-- The dependencies in canonical order. -/
def sortedDependencies (s : EvaluationSnapshot) : List DependencyRef :=
  sortedBy DependencyRef.dependencyId s.dependencies

/-- F10: dependency formulas. -/
def dependencyFindings (s : EvaluationSnapshot) : Findings :=
  dependenciesFindings (sortedDependencies s)

/-- The predicates the fact blocks triggered, sorted and without repetition. -/
def triggeredPredicates (f : Findings) : List String :=
  sortedBy id (f.rawR1 ++ f.rawR2 ++ f.rawR3).dedup

/-- F11: the aggregate of the triggered predicates. -/
def aggregateFindings (s : EvaluationSnapshot) (f : Findings) : Findings :=
  let triggered := triggeredPredicates f
  { descriptors := [{
      ruleId := F11, family := .everySome, pole := if triggered ≠ [] then "SOME" else "EVERY",
      subjectRef := s.proposal.proposalId, objectRefs := [],
      result := .obj [("triggered_predicate_ids", jsonStrs triggered)] }] }

/-- The findings before F11, given those of the two blocks that can stop. -/
def factFindings (s : EvaluationSnapshot) (c : RuleConfig) (priorId : Option String)
    (divergence capability : Findings) : Findings :=
  bindFindings s c priorId ++ scopeFindings s ++ exclusionFindings s ++ retrievalFindings s c ++
    identityFindings s c ++ conflictFindings s c ++ evidenceFindings s ++ divergence ++
    capability ++ dependencyFindings s

/-- All fact blocks. -/
def collectFindings (s : EvaluationSnapshot) (c : RuleConfig) (priorId : Option String) :
    Except PyError Findings := do
  let divergence ← divergenceFindings s c
  let capability ← capabilityFindings s
  let facts := factFindings s c priorId divergence capability
  return facts ++ aggregateFindings s facts

end

end GAM
