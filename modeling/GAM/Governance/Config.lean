import Mathlib.Data.List.Dedup
import GAM.Traces.Validate

/-!
# Rule configuration, keys and record digests

The pinned configuration of the evaluator, the normalization of action and target keys, and the
digests of `governance.py` over a policy, an action and a proposal.
-/

namespace GAM
open Lib

section
variable [Platform]

/-- Python `_stop`. -/
def stop {α : Type} (code message : String) : Except PyError α := .error (.blocked code message)

/-- Python `_ZERO_DIGEST`. -/
def zeroDigest : String := "0000000000000000000000000000000000000000000000000000000000000000"

/-- Python `RuleConfig`, with its defaults. -/
structure RuleConfig where
  ruleConfigDigest : String
  evaluatorVersion : String := "gam-gate/1.1"
  similarityThreshold : Decimal := .finite false 85000000 (-8)
  divergenceThreshold : Decimal := .finite false 50000 (-5)
  precedentTopK : Nat := 5
  requireConsequenceForYes : Bool := true
  similarityEqualQualifies : Bool := true
  divergenceEqualIsHigh : Bool := true
  normalizationVersion : String := "gam-normalize/1.1"
  actionTypeKey : String := "normalized(action_type)"
  targetKey : String := "normalized(target)"
  exactClassKey : String := "action_type_key + U+001F + target_key"

instance : ToValue RuleConfig :=
  ⟨fun c => .record
    [("rule_config_digest", toValue c.ruleConfigDigest),
      ("evaluator_version", toValue c.evaluatorVersion),
      ("similarity_threshold", toValue c.similarityThreshold),
      ("divergence_threshold", toValue c.divergenceThreshold),
      ("precedent_top_k", toValue c.precedentTopK),
      ("require_consequence_for_yes", toValue c.requireConsequenceForYes),
      ("similarity_equal_qualifies", toValue c.similarityEqualQualifies),
      ("divergence_equal_is_high", toValue c.divergenceEqualIsHigh),
      ("normalization_version", toValue c.normalizationVersion),
      ("action_type_key", toValue c.actionTypeKey), ("target_key", toValue c.targetKey),
      ("exact_class_key", toValue c.exactClassKey)]⟩

/-- Python `rule_config_payload`. -/
def ruleConfigPayload (c : RuleConfig) : Value :=
  digestPayload [("schema", .str "gam.rule-config.v1")] ["rule_config_digest"] (toValue c)

/-- Python `compute_rule_config_digest`. -/
def computeRuleConfigDigest (c : RuleConfig) : Except PyError String :=
  canonicalSha256 (ruleConfigPayload c)

/-- Python `default_rule_config`. -/
def defaultRuleConfig : Except PyError RuleConfig := do
  let digest ← computeRuleConfigDigest { ruleConfigDigest := zeroDigest }
  return { ruleConfigDigest := digest }

/-- Whether a configuration equals the default one with its digest, decimals by value. -/
def RuleConfig.isPinned (c : RuleConfig) : Prop :=
  c.evaluatorVersion = "gam-gate/1.1" ∧
  c.similarityThreshold.eqv (.finite false 85000000 (-8)) = true ∧
  c.divergenceThreshold.eqv (.finite false 50000 (-5)) = true ∧
  c.precedentTopK = 5 ∧ c.requireConsequenceForYes = true ∧ c.similarityEqualQualifies = true ∧
  c.divergenceEqualIsHigh = true ∧ c.normalizationVersion = "gam-normalize/1.1" ∧
  c.actionTypeKey = "normalized(action_type)" ∧ c.targetKey = "normalized(target)" ∧
  c.exactClassKey = "action_type_key + U+001F + target_key"

instance (c : RuleConfig) : Decidable c.isPinned := by
  unfold RuleConfig.isPinned
  infer_instance

/-- Python `_validate_config`. -/
def validateConfig (c : RuleConfig) : Except PyError Unit := do
  ensure c.isPinned
    (.blocked "INVALID_RULE_CONFIG" "rule configuration is not the pinned contract")
  let digest ← computeRuleConfigDigest c
  ensure (c.ruleConfigDigest = digest)
    (.blocked "INVALID_RULE_CONFIG" "rule configuration is not the pinned contract")

/-- The white space the key normalization strips and folds. -/
def isKeySpace (c : Char) : Bool :=
  c == '\t' || c == '\n' || c == '\x0b' || c == '\x0c' || c == '\r' || c == ' '

/-- Drop white space at both ends. -/
def stripSpace (cs : List Char) : List Char :=
  ((cs.dropWhile isKeySpace).reverse.dropWhile isKeySpace).reverse

/-- Fold every run of white space into one space; the flag says that a run is open. -/
def foldSpace : Bool → List Char → List Char
  | _, [] => []
  | inRun, c :: cs =>
    if isKeySpace c then if inRun then foldSpace true cs else ' ' :: foldSpace true cs
    else c :: foldSpace false cs

/-- Python `normalize_action_target_key`. -/
def normalizeActionTargetKey (value : String) : Except PyError String :=
  let normalized := nfc (lower (String.ofList (foldSpace false (stripSpace (nfc value).toList))))
  if normalized = "" then
    stop "EMPTY_NORMALIZED_KEY" "action or target key normalizes to empty"
  else .ok normalized

/-- An ASCII text without runs of white space is normalized by its lower case. -/
lemma normalize_ascii {a b : String} (ha : isAscii a) (hb : isAscii b) (hn : b ≠ "")
    (hs : String.ofList (foldSpace false (stripSpace a.toList)) = a)
    (hl : String.ofList (a.toList.map Char.toLower) = b) : normalizeActionTargetKey a = .ok b := by
  simp only [normalizeActionTargetKey, Platform.nfc_ascii a ha, hs, Platform.lower_ascii a ha, hl,
    Platform.nfc_ascii b hb, if_neg hn]

/-- A rule with its unordered members in canonical order. -/
def canonicalRule (rule : PolicyRule) : PolicyRule :=
  { rule with
    requiredEvidence := sortedBy EvidenceRequirement.requirementId rule.requiredEvidence
    requiredCapabilityIds := sortedBy id rule.requiredCapabilityIds.dedup }

/-- The rules of a policy in canonical order. -/
def canonicalRules (rules : List PolicyRule) : List PolicyRule :=
  (sortedBy PolicyRule.ruleId rules).map canonicalRule

/-- Python `policy_input_digest`. -/
def policyInputDigest (policy : PolicyInput) : Except PyError String :=
  canonicalSha256 (.dict
    [("schema", .str "gam.policy-input.v1"), ("policy_version", .str policy.policyVersion),
      ("rules", toValue (canonicalRules policy.rules))])

/-- Python `proposal_action_digest`. -/
def proposalActionDigest (p : Proposal) : Except PyError String :=
  canonicalSha256 (.dict
    [("schema", .str "gam.action.v1"), ("action_type", .str p.actionType),
      ("action_type_key", .str p.actionTypeKey), ("target", .str p.target),
      ("target_key", .str p.targetKey), ("parameters_json", .str p.parametersJson)])

/-- Python `proposal_record_digest`. -/
def proposalRecordDigest (p : Proposal) : Except PyError String :=
  canonicalSha256
    (digestPayload [("schema", .str "gam.proposal.v1")] ["proposal_digest"] (toValue p))

end

end GAM
