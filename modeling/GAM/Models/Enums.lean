import GAM.Lib.Value

/-!
# Enumerations

The enumerations of `verdict.py`, `witnesses.py`, `operators.py` and `models.py`. Each has its
member name (`name`), which the canonical encoding writes, and, where the code reads it, its value
(`value`). `allowedPoles` is the table `ALLOWED_POLES`.
-/

namespace GAM
open Lib

/-- The four-valued verdict (Python `Verdict`). -/
inductive Verdict where
  | no
  | yes
  | maybe
  | iff
deriving DecidableEq, Repr

/-- The name of a member. -/
def Verdict.name : Verdict → String
  | .no => "NO"
  | .yes => "YES"
  | .maybe => "MAYBE"
  | .iff => "IFF"

instance : ToValue Verdict := ⟨fun x => .enum "Verdict" x.name⟩

@[simp] lemma Verdict.toValue_eq (x : Verdict) : toValue x = .enum "Verdict" x.name := rfl

/-- The risk class (Python `Risk`). -/
inductive Risk where
  | low
  | medium
  | high
deriving DecidableEq, Repr

/-- The name of a member. -/
def Risk.name : Risk → String
  | .low => "LOW"
  | .medium => "MEDIUM"
  | .high => "HIGH"

/-- The value of a member, which is its name. -/
def Risk.value (x : Risk) : String := x.name

instance : ToValue Risk := ⟨fun x => .enum "Risk" x.name⟩

@[simp] lemma Risk.toValue_eq (x : Risk) : toValue x = .enum "Risk" x.name := rfl

/-- The axis an evidence gap asks along (Python `Witness`). -/
inductive Witness where
  | what
  | place
  | which
  | when
  | forWhat
  | how
  | whence
deriving DecidableEq, Repr

/-- The name of a member. -/
def Witness.name : Witness → String
  | .what => "WHAT"
  | .place => "WHERE"
  | .which => "WHICH"
  | .when => "WHEN"
  | .forWhat => "FOR_WHAT"
  | .how => "HOW"
  | .whence => "WHENCE"

/-- The value of a member. -/
def Witness.value : Witness → String
  | .what => "WHAT"
  | .place => "WHERE"
  | .which => "WHICH"
  | .when => "WHEN"
  | .forWhat => "FOR-WHAT"
  | .how => "HOW"
  | .whence => "WHENCE"

instance : ToValue Witness := ⟨fun x => .enum "Witness" x.name⟩

@[simp] lemma Witness.toValue_eq (x : Witness) : toValue x = .enum "Witness" x.name := rfl

/-- The family of a trace step (Python `OperatorFamily`). -/
inductive OperatorFamily where
  | this
  | sameNotSame
  | ifThen
  | because
  | insideOutside
  | nearFar
  | canCannot
  | togetherAlone
  | moreLess
  | everySome
deriving DecidableEq, Repr

/-- The name of a member. -/
def OperatorFamily.name : OperatorFamily → String
  | .this => "THIS"
  | .sameNotSame => "SAME_NOT_SAME"
  | .ifThen => "IF_THEN"
  | .because => "BECAUSE"
  | .insideOutside => "INSIDE_OUTSIDE"
  | .nearFar => "NEAR_FAR"
  | .canCannot => "CAN_CANNOT"
  | .togetherAlone => "TOGETHER_ALONE"
  | .moreLess => "MORE_LESS"
  | .everySome => "EVERY_SOME"

/-- The value of a member. -/
def OperatorFamily.value : OperatorFamily → String
  | .this => "THIS"
  | .sameNotSame => "SAME/NOT-SAME"
  | .ifThen => "IF/THEN"
  | .because => "BECAUSE"
  | .insideOutside => "INSIDE/OUTSIDE"
  | .nearFar => "NEAR/FAR"
  | .canCannot => "CAN/CANNOT"
  | .togetherAlone => "TOGETHER/ALONE"
  | .moreLess => "MORE/LESS"
  | .everySome => "EVERY/SOME"

instance : ToValue OperatorFamily := ⟨fun x => .enum "OperatorFamily" x.name⟩

@[simp] lemma OperatorFamily.toValue_eq (x : OperatorFamily) : toValue x = .enum "OperatorFamily" x.name := rfl

/-- The state of a dependency or a capability (Python `DependencyState`). -/
inductive DependencyState where
  | true
  | false
  | unresolved
deriving DecidableEq, Repr

/-- The name of a member. -/
def DependencyState.name : DependencyState → String
  | .true => "TRUE"
  | .false => "FALSE"
  | .unresolved => "UNRESOLVED"

/-- The value of a member, which is its name. -/
def DependencyState.value (x : DependencyState) : String := x.name

instance : ToValue DependencyState := ⟨fun x => .enum "DependencyState" x.name⟩

@[simp] lemma DependencyState.toValue_eq (x : DependencyState) : toValue x = .enum "DependencyState" x.name := rfl

/-- A human decision (Python `DecisionValue`). -/
inductive DecisionValue where
  | approve
  | reject
  | modify
deriving DecidableEq, Repr

/-- The name of a member. -/
def DecisionValue.name : DecisionValue → String
  | .approve => "APPROVE"
  | .reject => "REJECT"
  | .modify => "MODIFY"

/-- The value of a member, which is its name. -/
def DecisionValue.value (x : DecisionValue) : String := x.name

instance : ToValue DecisionValue := ⟨fun x => .enum "DecisionValue" x.name⟩

@[simp] lemma DecisionValue.toValue_eq (x : DecisionValue) : toValue x = .enum "DecisionValue" x.name := rfl

/-- The effect of a policy rule (Python `PolicyEffect`). -/
inductive PolicyEffect where
  | allow
  | deny
deriving DecidableEq, Repr

/-- The name of a member. -/
def PolicyEffect.name : PolicyEffect → String
  | .allow => "ALLOW"
  | .deny => "DENY"

/-- The value of a member, which is its name. -/
def PolicyEffect.value (x : PolicyEffect) : String := x.name

instance : ToValue PolicyEffect := ⟨fun x => .enum "PolicyEffect" x.name⟩

@[simp] lemma PolicyEffect.toValue_eq (x : PolicyEffect) : toValue x = .enum "PolicyEffect" x.name := rfl

/-- The terminal status of an execution (Python `ExecutionStatus`). -/
inductive ExecutionStatus where
  | observed
  | error
deriving DecidableEq, Repr

/-- The name of a member. -/
def ExecutionStatus.name : ExecutionStatus → String
  | .observed => "OBSERVED"
  | .error => "ERROR"

/-- The value of a member, which is its name. -/
def ExecutionStatus.value (x : ExecutionStatus) : String := x.name

instance : ToValue ExecutionStatus := ⟨fun x => .enum "ExecutionStatus" x.name⟩

@[simp] lemma ExecutionStatus.toValue_eq (x : ExecutionStatus) : toValue x = .enum "ExecutionStatus" x.name := rfl

/-- The poles a family admits (Python `ALLOWED_POLES`). -/
def allowedPoles : OperatorFamily → List String
  | .this => ["THIS"]
  | .sameNotSame => ["SAME", "NOT-SAME"]
  | .ifThen => ["IF", "THEN"]
  | .because => ["BECAUSE"]
  | .insideOutside => ["INSIDE", "OUTSIDE"]
  | .nearFar => ["NEAR", "FAR"]
  | .canCannot => ["CAN", "CANNOT"]
  | .togetherAlone => ["TOGETHER", "ALONE"]
  | .moreLess => ["MORE", "LESS"]
  | .everySome => ["EVERY", "SOME"]

end GAM
