import CodeMigrator.Core.Run
import CodeMigrator.Planning.Models
import CodeMigrator.Runtime.AgentRuns
import CodeMigrator.Runtime.Budget

/-!
# Runtime messages and facts

`runtime/contracts.py`. A future of the source is the number under which its outcome
is reported; the event timestamps are left out.
-/

namespace CodeMigrator
open Lib

/-- Event data: the fields of a JSON object. -/
abbrev EventData := List (String × Json)

/-- `EventSpec`. -/
structure EventSpec where
  eventType : String
  data : EventData
  deriving DecidableEq

/-- `RuntimeEvent`. -/
structure RuntimeEvent where
  sequence : Nat
  eventType : String
  data : EventData
  deriving DecidableEq

/-- `CandidateCheckpointFact`. -/
structure CandidateCheckpointFact where
  agentRunId : AgentRunId
  sliceId : SliceId
  generation : CandidateGeneration
  expectedCandidateOid : String
  candidateOid : String
  receiptSha256 : Sha256
  oidsAreNonEmpty : expectedCandidateOid ≠ "" ∧ candidateOid ≠ ""
  deriving DecidableEq

/-- `RunState`. -/
structure RunState where
  runId : RunId
  status : RunStatus
  version : Int
  cancelRequested : Bool
  failureReason : Option FailureReason
  newCallsEnabled : Bool
  budgetUsage : BudgetUsage
  budgetWarningEmitted : Bool
  activeDispatches : List ActiveDispatch
  continuationCounts : List (Int × Int)
  terminalSliceFailures : List String
  adoptedAdviceIds : List String
  pendingAdviceIds : List String
  reportingHalted : Bool
  createRequest : Option CreateRun
  frozenPlanSha256 : Option String
  candidateCheckpoints : List CandidateCheckpointFact
  deriving DecidableEq

/-- `RunState(run_id)`: every other field has its default. -/
def RunState.default (runId : RunId) : RunState :=
  { runId := runId
    status := .created
    version := 0
    cancelRequested := false
    failureReason := none
    newCallsEnabled := true
    budgetUsage := ⟨0, 0, 0⟩
    budgetWarningEmitted := false
    activeDispatches := []
    continuationCounts := []
    terminalSliceFailures := []
    adoptedAdviceIds := []
    pendingAdviceIds := []
    reportingHalted := false
    createRequest := none
    frozenPlanSha256 := none
    candidateCheckpoints := [] }

/-- `RuntimeSnapshot`. -/
structure RuntimeSnapshot where
  state : RunState
  events : List RuntimeEvent
  deriving DecidableEq

/-- The exceptions that the store and the actor raise, with their texts. `raised` is an
exception of another component. -/
inductive RuntimeFailure where
  | storeCommitError (message : String)
  | valueError (message : String)
  | assertionError
  | runCommandRejected (code : String)
  | raised
  deriving DecidableEq

/-! ## Receipts and payloads -/

/-- `RunCreatedReceipt`. -/
structure RunCreatedReceipt where
  runId : RunId
  receiptKey : String
  eventSequence : Nat
  stateVersion : Int
  identifiesInitialCommit : eventSequence = 1 ∧ stateVersion = 1
  keyMatchesRun : receiptKey = "run.created:" ++ runId.str
  deriving DecidableEq

/-- `ActorPhaseReceipt`. -/
structure ActorPhaseReceipt where
  runId : RunId
  receiptKey : String
  eventSequence : Nat
  isValid : receiptKey ≠ "" ∧ 1 ≤ eventSequence
  deriving DecidableEq

/-- The constructor of `ActorPhaseReceipt`, which raises. -/
def actorPhaseReceipt (runId : RunId) (receiptKey : String) (eventSequence : Nat) :
    Except RuntimeFailure ActorPhaseReceipt :=
  if isValid : receiptKey ≠ "" ∧ 1 ≤ eventSequence then
    .ok ⟨runId, receiptKey, eventSequence, isValid⟩
  else .error (.valueError "actor phase receipt is invalid")

theorem actorPhaseReceipt_ok {runId : RunId} {receiptKey : String} {eventSequence : Nat}
    {receipt : ActorPhaseReceipt}
    (made : actorPhaseReceipt runId receiptKey eventSequence = .ok receipt) :
    receipt.receiptKey = receiptKey ∧ receipt.eventSequence = eventSequence := by
  unfold actorPhaseReceipt at made
  split at made
  · cases made
    exact ⟨rfl, rfl⟩
  · cases made

/-- `ExecuteRoundResult`. -/
structure ExecuteRoundResult where
  receipt : ActorPhaseReceipt
  complete : Bool
  deriving DecidableEq

/-- `CandidateCheckpointClaim`. -/
structure CandidateCheckpointClaim where
  agentRunId : AgentRunId
  receipt : Option CheckpointReceipt
  deriving DecidableEq

/-- `ExecutionRoundDecision`. -/
structure ExecutionRoundDecision where
  complete : Bool
  dispatchCount : Nat
  completedWriteAgentRunIds : List AgentRunId
  candidateClaims : List CandidateCheckpointClaim
  terminalAgentRunIds : List AgentRunId
  deriving DecidableEq

/-- `IntegrationReceipt`. -/
structure IntegrationReceipt where
  intent : IntegrationIntent
  verifiedCommitOid : String
  receiptSha256 : Sha256
  eventSequence : Nat
  headMatchesIntent : verifiedCommitOid = intent.prospectiveCommitOid
  sequenceIsPositive : 1 ≤ eventSequence

instance : DecidableEq IntegrationReceipt := fun left right =>
  decidable_of_iff (left.intent = right.intent ∧ left.verifiedCommitOid = right.verifiedCommitOid ∧
      left.receiptSha256 = right.receiptSha256 ∧ left.eventSequence = right.eventSequence) (by
    cases left
    cases right
    simp)

/-- `VerificationSummary`. -/
structure VerificationSummary where
  passed : Bool
  resultSha256 : Sha256
  deriving DecidableEq

/-- `ReportSummary`. -/
structure ReportSummary where
  resultSha256 : Sha256
  status : RunStatus
  statusIsSuccessful : status = .completed ∨ status = .partiallyCompleted
  deriving DecidableEq

/-- `PlanAgentCompletion` (`runtime/run_graph.py`). -/
structure PlanAgentCompletion where
  record : AgentRun
  receipt : AgentRunReceipt
  resultObject : CasObject
  planObject : CasObject
  deriving DecidableEq

/-! ## Messages -/

/-- What becomes of the transaction that a create command brings along: the caller
commits it or rolls it back, and a rollback undoes the creation. -/
inductive TransactionOutcome where
  | committed | rolledBack
  deriving DecidableEq

/-- The payload of a workflow command with the kind it goes with. `other` is a kind the
actor does not know, or a payload whose type is not the one of its kind. -/
inductive WorkflowPayload where
  | acceptPlan (completion : PlanAgentCompletion) (frozenPlan : FrozenPlan)
  | executeRound
  | agentRunStarted (agentRunId : AgentRunId)
  | agentRunTerminal (record : AgentRun) (receipt : AgentRunReceipt) (resultObject : CasObject)
  | integrationIntent (intent : IntegrationIntent)
  | integrationCompleted (intent : IntegrationIntent) (verifiedCommitOid : String)
  | verification (result : VerificationSummary)
  | report (result : ReportSummary)
  | other (kind : String)
  deriving DecidableEq

/-- `WorkflowCommandMessage.kind`. -/
def WorkflowPayload.kind : WorkflowPayload → String
  | acceptPlan .. => "accept_plan"
  | executeRound => "execute_round"
  | agentRunStarted _ => "agent_run_started"
  | agentRunTerminal .. => "agent_run_terminal"
  | integrationIntent _ => "integration_intent"
  | integrationCompleted .. => "integration_completed"
  | verification _ => "verification"
  | report _ => "report"
  | other kind => kind

/-- What a command is refused with whose payload does not fit its kind, or whose kind is unknown. -/
def refusedPayload : String → RuntimeFailure
  | "accept_plan" => .valueError "PLAN acceptance payload is invalid"
  | "agent_run_started" => .valueError "AgentRun start payload is invalid"
  | "agent_run_terminal" => .valueError "AgentRun terminal payload is invalid"
  | "integration_intent" => .storeCommitError "integration intent failed Run owner validation"
  | "integration_completed" => .valueError "integration completion payload is invalid"
  | "verification" => .storeCommitError "VERIFY requires deterministic verification facts"
  | "report" => .storeCommitError "REPORT requires deterministic report facts"
  | _ => .valueError "unsupported Run workflow command"

/-- `WorkflowCommandMessage`. -/
structure WorkflowCommandMessage where
  runId : RunId
  logicalKey : String
  payload : WorkflowPayload
  response : Nat
  deriving DecidableEq

/-- `RuntimeMessage`, with the three payloads of `ApiCommand` as messages of their own. -/
inductive RuntimeMessage where
  /-- `CreateRunCommand`. -/
  | create (runId : RunId) (createRun : CreateRun) (transaction : Option TransactionOutcome)
  /-- `CancelCommand`. -/
  | cancel (expectedVersion : Int) (response : Option Nat)
  /-- `SessionInputCommand`. -/
  | sessionInput (kind : String) (payload : EventData)
  /-- `ExecutionReceiptMessage`. -/
  | executionReceipt (runId : RunId) (dispatch : ActiveDispatch) (resultStatus : Option String)
      (started : Bool)
  /-- `BudgetEventMessage`. -/
  | budget (inputTokens outputTokens costMicros : Int)
  /-- `RecoveryCommandMessage`. -/
  | recovery (trigger : String) (activeDispatchIds missingIntentIds : List String)
      (checkpointCorrupt refDrift : Bool)
  /-- `AdviceMessage`. -/
  | advice (advice : Advice)
  /-- `WorkflowCommandMessage`. -/
  | workflow (command : WorkflowCommandMessage)
  /-- `ExecutionRoundFinishedMessage`: the decision of a round, or the error it ended
  with. -/
  | executionRoundFinished (logicalKey : String) (decision : Option ExecutionRoundDecision)
      (error : Option RuntimeFailure)
  deriving DecidableEq

/-! ## Lifecycle events -/

/-- The slice fields of a lifecycle event. -/
def sliceData (sliceRef : Option SliceGenerationRef) : EventData :=
  match sliceRef with
  | none => []
  | some ref => [("slice_id", .str ref.sliceId.str), ("generation", .int ref.generation.val)]

/-- `agent_run_lifecycle_spec(record)`; `none` is its `ValueError`. -/
def agentRunStartedSpec (record : AgentRun) : Option EventSpec :=
  if record.isTerminal then none
  else some ⟨"agent_run.started",
    [("receipt_key", .str ("agent_run.started:" ++ record.agentRunId.str)),
      ("agent_run_id", .str record.agentRunId.str), ("phase", .str record.phase.value),
      ("session_kind", .str record.sessionKind.value)] ++ sliceData record.sliceRef⟩

/-- `agent_run_lifecycle_spec(record, receipt)`; `none` is its `ValueError`. -/
def agentRunTerminalSpec (record : AgentRun) (receipt : AgentRunReceipt) : Option EventSpec :=
  if record.isTerminal = false ∨ receipt.agentRunId ≠ record.agentRunId then none
  else some ⟨"agent_run.terminal",
    [("receipt_key", .str ("agent_run.terminal:" ++ record.agentRunId.str)),
      ("agent_run_id", .str record.agentRunId.str), ("phase", .str record.phase.value),
      ("session_kind", .str record.sessionKind.value),
      ("exit", (record.exit.map (fun exit => Json.str exit.value)).getD .null),
      ("receipt_category", .str receipt.category)] ++ sliceData record.sliceRef⟩

/-- `_run_status_changed_event` (`runtime/actor.py`). -/
def runStatusChangedEvent (state : RunState) : EventSpec :=
  ⟨"run.status_changed", ("run_status", Json.str state.status.value) ::
    (match state.failureReason with
    | none => []
    | some reason => [("failure_reason", .str reason.value)])⟩

end CodeMigrator
