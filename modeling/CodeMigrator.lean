import CodeMigrator.Planning.Assignment
import CodeMigrator.Runtime.AdviceLedger
import CodeMigrator.Runtime.Callers
import CodeMigrator.Runtime.IntegrationLedger
import CodeMigrator.Runtime.CheckpointIndexes
import CodeMigrator.Api.DraftEventStream
import CodeMigrator.Runtime.ApiIdempotency
import CodeMigrator.Runtime.IntegrationHolders
import CodeMigrator.Runtime.RoundReservations
import CodeMigrator.Runtime.ProjectAdoption
import CodeMigrator.Workspace.PushGuard
import CodeMigrator.Workspace.RepairQueue
import CodeMigrator.Workspace.RunRepository
import CodeMigrator.Workspace.SymlinkScope
import CodeMigrator.Workspace.CheckpointRestart
import CodeMigrator.Workspace.FrozenGeneration
import CodeMigrator.Runtime.RepairRefusals
import CodeMigrator.Runtime.StatusStream
import CodeMigrator.Runtime.Verdicts
import CodeMigrator.Runtime.GraphReplay
import CodeMigrator.Core.Redaction
import CodeMigrator.Runtime.CrossRunFairness
import CodeMigrator.Verification.Attribution
import CodeMigrator.Verification.DiagnosticLines
import CodeMigrator.Runtime.RepairHistories
import CodeMigrator.Analysis.Modules
import CodeMigrator.Core.ScopeContainment
import CodeMigrator.Core.SpecDepth
import CodeMigrator.Planning.DerivedPlans
import CodeMigrator.Planning.Retry
import CodeMigrator.Runtime.ContextFits
import CodeMigrator.Runtime.Eviction
import CodeMigrator.Runtime.PaidCalls
import CodeMigrator.Runtime.BudgetBreaker
import CodeMigrator.Runtime.ToolTranscripts
import CodeMigrator.Sandbox.Command
import CodeMigrator.Verification.Execution
import CodeMigrator.Verification.FingerprintIdentity
import CodeMigrator.Workspace.Provisioning
import CodeMigrator.Workspace.ReadTool
import CodeMigrator.Planning.Cycles
import CodeMigrator.Planning.GroupNames
import CodeMigrator.Analysis.Impact
import CodeMigrator.Runtime.AdviceHash
import CodeMigrator.Runtime.DraftFlow
import CodeMigrator.Runtime.Continuations
import CodeMigrator.Runtime.ActorRegistry
import CodeMigrator.Web.EventStream
