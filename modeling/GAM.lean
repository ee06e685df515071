import GAM.Lib.AppendOnly
import GAM.Lib.Binary64
import GAM.Lib.Checks
import GAM.Lib.Decimal
import GAM.Lib.DecimalContext
import GAM.Lib.DecimalNormal
import GAM.Lib.DecimalRange
import GAM.Lib.Interleaving
import GAM.Lib.Json
import GAM.Lib.JsonHooks
import GAM.Lib.JsonParse
import GAM.Lib.JsonTree
import GAM.Lib.Nearest
import GAM.Lib.NumberText
import GAM.Lib.Pointer
import GAM.Lib.Program
import GAM.Lib.Query
import GAM.Lib.Retry
import GAM.Lib.Runs
import GAM.Lib.Sha256
import GAM.Lib.Single
import GAM.Lib.Sorted
import GAM.Lib.Steady
import GAM.Lib.Text
import GAM.Lib.Utf8Order
import GAM.Lib.Value
import GAM.Platform
import GAM.Models.Enums
import GAM.Models.Records
import GAM.Store.Engine
import GAM.Store.ExecutionTables
import GAM.Store.MemoryTables
import GAM.Store.Tables
import GAM.Traces.Binding
import GAM.Traces.Canonical
import GAM.Traces.DecimalJson
import GAM.Traces.Digest
import GAM.Traces.Fields
import GAM.Traces.PlainJson
import GAM.Traces.PlainTexts
import GAM.Traces.Validate
import GAM.Governance.Accepted
import GAM.Governance.Admission
import GAM.Governance.ChangeReport
import GAM.Governance.ChangeSoundness
import GAM.Governance.Changes
import GAM.Governance.Checked
import GAM.Governance.Completeness
import GAM.Governance.Config
import GAM.Governance.Evaluate
import GAM.Governance.Facts
import GAM.Governance.Finalized
import GAM.Governance.FirstEvaluation
import GAM.Governance.Gaps
import GAM.Governance.Keys
import GAM.Governance.Minimal
import GAM.Governance.OpenFacts
import GAM.Governance.Outcomes
import GAM.Governance.Reordering
import GAM.Governance.Strictness
import GAM.Governance.Trace
import GAM.Governance.ValidatedTrace
import GAM.Governance.Verdict
import GAM.Memory.Access
import GAM.Memory.Append
import GAM.Memory.Columns
import GAM.Memory.Decode
import GAM.Memory.DependencyFacts
import GAM.Memory.Evidence
import GAM.Memory.LoadedProposal
import GAM.Memory.Precedents
import GAM.Memory.ProposalCodec
import GAM.Memory.ReadBack
import GAM.Memory.Rendering
import GAM.Memory.ResultCodec
import GAM.Memory.RoundTrip
import GAM.Memory.Rows
import GAM.Memory.StoredSnapshot
import GAM.Memory.Transaction
import GAM.Memory.VectorText
import GAM.Executor.Effect
import GAM.Executor.Execute
import GAM.Executor.Records
import GAM.Cli.Decide
import GAM.Consequences.Addresses
import GAM.Consequences.Compare
import GAM.Consequences.Digests
import GAM.Consequences.Divergence
import GAM.Consequences.Outcome
import GAM.Consequences.ReadBack
import GAM.Consequences.Reevaluate
import GAM.Consequences.Replay
import GAM.Consequences.Report
import GAM.Consequences.Warnings
import GAM.Agent.AllOrNothing
import GAM.Agent.CalmTask
import GAM.Agent.CanonicalBytes
import GAM.Agent.CanonicalText
import GAM.Agent.Capture
import GAM.Agent.ClusterDocument
import GAM.Agent.Draft
import GAM.Agent.Embeddings
import GAM.Agent.Process
import GAM.Agent.Snapshot
import GAM.Agent.StoredEmbeddings
import GAM.Agent.StoredTask
import GAM.Agent.Task
import GAM.System.Appends
import GAM.System.Calls
import GAM.System.CalmSessions
import GAM.System.CaptureDigests
import GAM.System.CurrentEvaluation
import GAM.System.Decided
import GAM.System.DecisionReplay
import GAM.System.Decisions
import GAM.System.DurableProposals
import GAM.System.EffectChain
import GAM.System.Evaluations
import GAM.System.ExactlyOnce
import GAM.System.Exclusions
import GAM.System.Executed
import GAM.System.Executions
import GAM.System.Growth
import GAM.System.History
import GAM.System.PrecedentLimit
import GAM.System.PrintedValues
import GAM.System.Progress
import GAM.System.ReEvaluation
import GAM.System.Refusals
import GAM.System.ReproducedProposals
import GAM.System.Signals
import GAM.System.StoreBinding
import GAM.System.TerminalReceipts
import GAM.System.Transactions
import GAM.Lambda.Demo
