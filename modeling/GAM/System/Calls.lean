import GAM.Lib.Interleaving
import GAM.Cli.Decide
import GAM.Executor.Execute

/-!
# The clients of the store

The calls that the application, decider and executor roles make on one store, as a protocol of
interleaved transactions. A call is represented by the transaction it will run next, with what it has
loaded so far. A transaction that raises writes nothing: the call ends, or runs it again after a
serialization failure.
-/

namespace GAM
open Lib

/-- A call and the transaction it will run next. -/
inductive Call where
  | propose (p : Proposal) (s : EvaluationSnapshot) (r : EvaluationResult)
  | reevaluate (s : EvaluationSnapshot) (r : EvaluationResult)
  | decide (a : DecisionRequest)
  | decideLoaded (a : DecisionRequest) (p : Proposal)
  | decideChecked (a : DecisionRequest) (p : Proposal)
  | decideInsert (a : DecisionRequest) (p : Proposal)
  | execute (executorId : String) (command : DemoExecutionCommand)
  | recover (failed : FailedEffect)
  | done

/-- The calls that clients make. -/
inductive Call.Starts : Call → Prop
  | propose {p s r} : Call.Starts (.propose p s r)
  | reevaluate {s r} : Call.Starts (.reevaluate s r)
  | decide {a} : Call.Starts (.decide a)
  | execute {executorId command} : Call.Starts (.execute executorId command)

section
variable [Engine]

/-- One transaction of a call. -/
inductive Runs : Database → Call → Database → Call → Prop
  /-- A serialization failure; the transaction is run again. -/
  | aborted {db c} : Runs db c db c
  /-- The call raises. -/
  | failed {db c} : Runs db c db .done
  | proposed {db db' p s r ids} : appendProposalAndEvaluation db p s r = .ok (ids, db') →
      Runs db (.propose p s r) db' .done
  | reevaluated {db db' s r ids} : appendReEvaluation db s r = .ok (ids, db') →
      Runs db (.reevaluate s r) db' .done
  | loaded {db a p} : checkRequest a = .ok () → getProposal db a.proposalId = .ok p →
      Runs db (.decide a) db (.decideLoaded a p)
  | checked {db a p r r'} : getEvaluation db a.evaluationId = .ok r →
      checkEvaluation a r = .ok r' → Runs db (.decideLoaded a p) db (.decideChecked a p)
  | latest {db a p} : checkLatest db a = .ok () →
      Runs db (.decideChecked a p) db (.decideInsert a p)
  | decided {db db' a p draw answer} : decideTransaction db a p draw = .ok (answer, db') →
      Runs db (.decideInsert a p) db' .done
  | executed {db db' executorId command draw receipt} : checkCommand executorId command = .ok () →
      executeTransaction db command draw = .ok (.recorded receipt db') →
      Runs db (.execute executorId command) db' .done
  | refused {db executorId command draw failed} : checkCommand executorId command = .ok () →
      executeTransaction db command draw = .ok (.rolledBack failed) →
      Runs db (.execute executorId command) db (.recover failed)
  | recovered {db db' failed draw receipt} :
      errorTransaction db failed draw = .ok (receipt, db') → Runs db (.recover failed) db' .done

/-- The clients on one store. -/
def clients : Protocol Database Call where
  starts := Call.Starts
  runs := Runs

/-- The store before anything was committed. -/
def emptyStore : Database := {}

end

end GAM
