import CodeMigrator.Runtime.Advice
import CodeMigrator.Runtime.Store

/-!
# The Run actor

`RunActor` of `runtime/actor.py`: one mailbox message is handled at a time, against the
actor's own state and the store. Calls of ports and answers of futures are recorded
in the order in which they are made. What the actor is configured with is
`ActorConfig`; what the outside does while one message is handled is `Surroundings`.
-/

namespace CodeMigrator
open Lib

/-- The calls that the actor makes of its ports. -/
inductive PortCall where
  | cancelIntegration (runId : RunId)
  | cancel (runId : RunId)
  | schedule (runId : RunId) (generation : Int)
  | writeCheckpoint (state : RunState)
  | archive (runId : RunId)
  | dispatchAdopted (advice : Advice)
  | advanceOneRound (runId : RunId) (logicalKey : String)
  deriving DecidableEq

/-- What a future is answered with. -/
inductive Reply where
  | phaseReceipt (receipt : ActorPhaseReceipt)
  | roundResult (result : ExecuteRoundResult)
  | intent (intent : IntegrationIntent)
  | state (state : RunState)
  deriving DecidableEq

/-- The constructor arguments of `RunActor` and its attribute
`max_continuations_per_generation`; a port is there or not. The digests are those of
`canonical_payload`, `checkpoint_receipt_digest`, `advice_proposal_hash` and
`_make_integration_receipt`, `none` where the canonical JSON raises. -/
structure ActorConfig where
  runId : RunId
  budgetLimits : BudgetLimits
  adviceContext : AdviceValidationContext
  checkpointWriter : Bool
  cancellationPort : Bool
  continuationPort : Bool
  archivePort : Bool
  integrationCoordinator : Bool
  repairAdvicePort : Bool
  executionScheduler : Bool
  candidateCheckpointVerifier : Bool
  repr : Json → String
  planPayloadDigest : FrozenPlan → Option String
  checkpointReceiptDigest : CheckpointReceipt → Option Sha256
  adviceProposalHash : Advice → Option String
  integrationReceiptDigest : IntegrationIntent → String → Sha256
  maxContinuationsPerGeneration : Nat := 3

/-- The answers that the outside gives while one message is handled: the verdict of the
secret registry, the port calls that raise, and the receipts that M-08 has committed,
`none` where its verifier raises. -/
structure Surroundings where
  rejects : EventData → Bool
  portRaises : PortCall → Bool
  isCommittedReceipt : CheckpointReceipt → Option Bool

/-- The fields of `RunActor` that change. -/
structure RunActor where
  state : Option RunState
  lastError : Option RuntimeFailure
  lastDispatchAcceptance : Option Bool
  createReceipt : Option RunCreatedReceipt
  executionRoundResponses : Dict String (List Nat)
  executionRoundTasks : List String
  deriving DecidableEq

/-- An actor that was not started on an existing Run. -/
def RunActor.fresh : RunActor := ⟨none, none, none, none, .empty, []⟩

/-- The actor with its store, the port calls made and the futures answered. -/
structure World where
  store : RuntimeStore
  actor : RunActor
  calls : List PortCall
  replies : List (Nat × Except RuntimeFailure Reply)

/-- How a handler ends: normally or with an exception. -/
abbrev Handled := World × Option RuntimeFailure

namespace World

/-- The handler returns. -/
def done (world : World) : Handled := (world, none)

/-- The handler raises. -/
def raise (world : World) (failure : RuntimeFailure) : Handled := (world, some failure)

def setState (world : World) (state : Option RunState) : World :=
  { world with actor := { world.actor with state := state } }

def setLastError (world : World) (failure : RuntimeFailure) : World :=
  { world with actor := { world.actor with lastError := some failure } }

def setAcceptance (world : World) (accepted : Bool) : World :=
  { world with actor := { world.actor with lastDispatchAcceptance := some accepted } }

def setCreateReceipt (world : World) (receipt : Option RunCreatedReceipt) : World :=
  { world with actor := { world.actor with createReceipt := receipt } }

def setStore (world : World) (store : RuntimeStore) : World := { world with store := store }

/-- `response.set_result` and `response.set_exception` of a future that is not done. -/
def reply (world : World) (response : Nat) (outcome : Except RuntimeFailure Reply) : World :=
  if world.replies.any (·.1 = response) then world
  else { world with replies := world.replies ++ [(response, outcome)] }

/-- The same for a response that may be absent. -/
def replyTo (world : World) (response : Option Nat) (outcome : Except RuntimeFailure Reply) :
    World :=
  match response with
  | none => world
  | some response => world.reply response outcome

/-- A port call whose exception is kept in `last_error`. -/
def callPort (world : World) (around : Surroundings) (present : Bool) (call : PortCall) : World :=
  if present then
    let called := { world with calls := world.calls ++ [call] }
    if around.portRaises call then called.setLastError .raised else called
  else world

end World

section Lookups

/-- `_event_for_receipt`. -/
def eventForReceipt (snapshot : Option RuntimeSnapshot) (receiptKey : String) :
    Option RuntimeEvent :=
  match snapshot with
  | none => none
  | some snapshot => snapshot.events.reverse.find? fun event =>
    Json.field? event.data "receipt_key" = some (.str receiptKey)

/-- `_has_agent_run_event`. -/
def hasAgentRunEvent (snapshot : Option RuntimeSnapshot) (eventType : String)
    (agentRunId : AgentRunId) : Bool :=
  match snapshot with
  | none => false
  | some snapshot => snapshot.events.any fun event =>
    event.eventType = eventType ∧
      Json.field? event.data "agent_run_id" = some (.str agentRunId.str)

/-- `_run_created_receipt`; the constructor of the receipt may raise. -/
def runCreatedReceipt (snapshot : Option RuntimeSnapshot) (runId : RunId) :
    Except RuntimeFailure (Option RunCreatedReceipt) :=
  let key := "run.created:" ++ runId.str
  match snapshot with
  | none => .ok none
  | some snapshot =>
    match snapshot.events.find? (fun event => event.eventType = "run.created" ∧
        Json.field? event.data "receipt_key" = some (.str key)) with
    | none => .ok none
    | some event =>
      match (Json.field? event.data "state_version").getD (.int 1) with
      | .int version =>
        if initial : event.sequence = 1 ∧ version = 1 then
          .ok (some ⟨runId, key, event.sequence, version, initial, rfl⟩)
        else .error (.valueError "RunCreated receipt must identify the initial Run commit")
      | _ => .error .raised

/-- `_dispatch_key` without the Run, which is the same for every dispatch of an actor:
canonical JSON distinguishes different subjects. -/
def dispatchKey (dispatch : ActiveDispatch) : ExecutionSubject × UUID :=
  (dispatch.subject, dispatch.checkId)

end Lookups

section Handlers

variable (config : ActorConfig) (around : Surroundings)

/-- The events that `_commit` writes: a change of status is announced. -/
def committedEvents (previous : Option RunState) (state : RunState) (events : List EventSpec) :
    List EventSpec :=
  match previous with
  | none => events
  | some previous =>
    if previous.status ≠ state.status then events ++ [runStatusChangedEvent state] else events

/-- `_commit`. -/
def commit (world : World) (state : RunState) (events : List EventSpec) : World × Bool :=
  match world.store.commit around.rejects state
      (committedEvents world.actor.state state events) with
  | (store, .error failure) => ((world.setStore store).setLastError failure, false)
  | (store, .ok snapshot) => ((world.setStore store).setState (some snapshot.state), true)

/-! ## Commands of the API -/

/-- The two events of a created Run. -/
def createdEvents (state : RunState) : List EventSpec :=
  [⟨"run.created",
    [("status", .str state.status.value), ("receipt_key", .str ("run.created:" ++ state.runId.str)),
      ("state_version", .int state.version)]⟩,
    runStatusChangedEvent state]

/-- The state of a created Run. -/
def createdState (runId : RunId) (createRun : CreateRun) : RunState :=
  { RunState.default runId with
    status := .planning
    version := 1
    createRequest := some createRun }

/-- `_rollback_uncommitted_create`, with the rollback of the store. -/
def rollbackCreate (world : World) : World :=
  ((world.setStore { world.store with
    snapshots := world.store.snapshots.erase config.runId }).setState none).setCreateReceipt none

/-- `_handle_create`. -/
def handleCreate (world : World) (runId : RunId) (createRun : CreateRun)
    (transaction : Option TransactionOutcome) : Handled :=
  if runId ≠ config.runId then world.done
  else
    match world.actor.state with
    | some state =>
      if state.createRequest ≠ some createRun then (world.setCreateReceipt none).done
      else
        match runCreatedReceipt (world.store.load config.runId) config.runId with
        | .error failure => world.raise failure
        | .ok receipt => (world.setCreateReceipt receipt).done
    | none =>
      let state := createdState config.runId createRun
      match world.store.create around.rejects state (createdEvents state) transaction.isSome with
      | (store, .error failure) => (world.setStore store).raise failure
      | (store, .ok snapshot) =>
        let created := (world.setStore store).setState (some snapshot.state)
        match runCreatedReceipt (some snapshot) config.runId with
        | .error failure => created.raise failure
        | .ok receipt =>
          match transaction with
          | some .rolledBack => (rollbackCreate config (created.setCreateReceipt receipt)).done
          | _ => (created.setCreateReceipt receipt).done

/-- `_handle_cancel`. -/
def handleCancel (world : World) (expectedVersion : Int) (response : Option Nat) : Handled :=
  match world.actor.state with
  | none => (world.replyTo response (.error (.runCommandRejected "NOT_FOUND"))).done
  | some state =>
    if expectedVersion ≠ state.version then
      (world.replyTo response (.error (.runCommandRejected "STALE_VERSION"))).done
    else if state.status.isTerminal then
      (world.replyTo response (.error (.runCommandRejected "PHASE_STATUS_MISMATCH"))).done
    else
      let next := { state with
        status := .cancelled
        cancelRequested := true
        newCallsEnabled := false
        activeDispatches := []
        version := state.version + 1 }
      match commit around world next [⟨"run.cancelled", []⟩] with
      | (world, true) =>
        let revoked := { world with calls := world.calls ++
          if config.integrationCoordinator then [PortCall.cancelIntegration config.runId] else [] }
        let called := revoked.callPort around config.cancellationPort (.cancel config.runId)
        (called.replyTo response (.ok (.state next))).done
      | (world, false) =>
        (world.replyTo response
          (.error (.storeCommitError "Run cancellation was not committed"))).done

/-- `_handle_advice_confirmation`. -/
def handleAdviceConfirmation (world : World) (state : RunState) (payload : EventData) : Handled :=
  let adviceId := (((Json.field? payload "advice_id").getD (.str "")).text config.repr)
  if adviceId ∉ state.pendingAdviceIds then
    (commit around world state
      [⟨"advice.confirmation_rejected", [("advice_id", .str adviceId)]⟩]).1.done
  else
    let next := { state with
      pendingAdviceIds := state.pendingAdviceIds.filter (· ≠ adviceId)
      adoptedAdviceIds := state.adoptedAdviceIds ++ [adviceId]
      version := state.version + 1 }
    (commit around world next [⟨"advice.confirmed", [("advice_id", .str adviceId)]⟩]).1.done

/-- The generation of a stopped segment: absent is 0, and only the integers 0, 1 and 2
are generations. -/
def segmentGeneration (payload : EventData) : Option Int :=
  match (Json.field? payload "generation").getD (.int 0) with
  | .int generation => if generation ∈ [0, 1, 2] then some generation else none
  | _ => none

/-- The `progress` of a stopped segment. -/
def segmentProgress (payload : EventData) : Bool :=
  Json.field? payload "material_progress" == some (.bool true) ||
    ((Json.field? payload "checkpoint_diff").map Json.truthy).getD false

/-- The order of `sorted` on pairs of integers. -/
def pairLe (left right : Int × Int) : Prop :=
  left.1 < right.1 ∨ left.1 = right.1 ∧ left.2 ≤ right.2

instance : DecidableRel pairLe := fun _ _ => inferInstanceAs (Decidable (_ ∨ _))

/-- How often a generation was continued. -/
def continuationCount (state : RunState) (generation : Int) : Int :=
  ((Dict.ofPairs state.continuationCounts).get? generation).getD 0

/-- Whether a stopped segment is continued. -/
def segmentEligible (state : RunState) (generation : Int) (payload : EventData) : Bool :=
  state.newCallsEnabled && segmentProgress payload &&
    decide (continuationCount state generation < config.maxContinuationsPerGeneration)

/-- The state after a stopped segment. -/
def segmentState (state : RunState) (generation : Int) (payload : EventData) : RunState :=
  let eligible := segmentEligible config state generation payload
  let current := continuationCount state generation
  let counts := (Dict.ofPairs state.continuationCounts).set generation
    (if eligible then current + 1 else current)
  let sliceId := ((Json.field? payload "slice_id").getD (.str "unknown")).text config.repr
  { state with
    continuationCounts := counts.entries.insertionSort pairLe
    terminalSliceFailures :=
      if eligible = false ∧ sliceId ∉ state.terminalSliceFailures then
        state.terminalSliceFailures ++ [sliceId]
      else state.terminalSliceFailures
    version := state.version + 1 }

/-- The event of a stopped segment. -/
def segmentEvent (state : RunState) (generation : Int) (payload : EventData) : EventSpec :=
  if segmentEligible config state generation payload then
    ⟨"session.continuation_scheduled", [("generation", .int generation),
      ("continuation", .int (continuationCount state generation + 1))]⟩
  else
    ⟨"slice.terminal_failed", [("generation", .int generation),
      ("reason", .str "INDEPENDENT_SLICE_TERMINAL_FAILURE")]⟩

/-- `_handle_segment_stopped`. -/
def handleSegmentStopped (world : World) (state : RunState) (payload : EventData) : Handled :=
  match segmentGeneration payload with
  | none =>
    (commit around world { state with version := state.version + 1 }
      [⟨"slice.terminal_failed", [("reason", .str "INVALID_GENERATION")]⟩]).1.done
  | some generation =>
    match commit around world (segmentState config state generation payload)
        [segmentEvent config state generation payload] with
    | (world, committed) =>
      (world.callPort around
        (committed && segmentEligible config state generation payload && config.continuationPort)
        (.schedule config.runId generation)).done

/-- `_handle_session_input`. -/
def handleSessionInput (world : World) (kind : String) (payload : EventData) : Handled :=
  match world.actor.state with
  | none => world.done
  | some state =>
    if state.status.isTerminal then world.done
    else if kind = "confirm_advice" then handleAdviceConfirmation config around world state payload
    else if kind = "segment_stopped" then handleSegmentStopped config around world state payload
    else
      (commit around world { state with version := state.version + 1 }
        [⟨"session.input.accepted", [("kind", .str kind)]⟩]).1.done

/-! ## Dispatches, budget, recovery and advice -/

/-- The event of a started dispatch. -/
def dispatchStartedEvent (dispatch : ActiveDispatch) : EventSpec :=
  ⟨"dispatch.started", [("attempt_id", .str dispatch.dispatchAttemptId.str),
    ("check_id", .str dispatch.checkId.str)]⟩

/-- `_start_dispatch`. -/
def startDispatch (world : World) (state : RunState) (dispatch : ActiveDispatch) : Handled :=
  if state.cancelRequested ∨ state.newCallsEnabled = false then (world.setAcceptance false).done
  else if state.activeDispatches.any (fun active => dispatchKey active = dispatchKey dispatch) then
    (world.setAcceptance false).done
  else
    let next := { state with
      status := .executing
      activeDispatches := state.activeDispatches ++ [dispatch]
      version := state.version + 1 }
    match commit around world next [dispatchStartedEvent dispatch] with
    | (world, committed) => (world.setAcceptance committed).done

/-- `_finish_dispatch`. -/
def finishDispatch (world : World) (state : RunState) (dispatch : ActiveDispatch)
    (resultStatus : Option String) : Handled :=
  if state.activeDispatches.find? (fun active => dispatchKey active = dispatchKey dispatch) ≠
      some dispatch then
    ((commit around world state [⟨"LATE_DISPATCH_RESULT",
      [("attempt_id", .str dispatch.dispatchAttemptId.str)]⟩]).1.setAcceptance false).done
  else
    let next := { state with
      activeDispatches := state.activeDispatches.filter (· ≠ dispatch)
      version := state.version + 1 }
    -- an absent and an empty status are reported as unknown
    let status := if resultStatus.getD "" = "" then "UNKNOWN" else resultStatus.getD ""
    ((commit around world next [⟨"dispatch.completed", [("status", .str status)]⟩]).1.setAcceptance
      true).done

/-- `_handle_execution`. -/
def handleExecution (world : World) (runId : RunId) (dispatch : ActiveDispatch)
    (resultStatus : Option String) (started : Bool) : Handled :=
  match world.actor.state with
  | none => (world.setAcceptance false).done
  | some state =>
    if runId ≠ config.runId then
      if started then (world.setAcceptance false).done
      else
        ((commit around world state
          [⟨"LATE_DISPATCH_RESULT", [("reason", .str "RUN_ID_MISMATCH")]⟩]).1.setAcceptance
            false).done
    else if started then
      if state.status.isTerminal ∨ state.newCallsEnabled = false then
        (world.setAcceptance false).done
      else startDispatch around world state dispatch
    else finishDispatch around world state dispatch resultStatus

/-- The warning of a budget evaluation. -/
def budgetWarning (evaluation : BudgetEvaluation) : List EventSpec :=
  if evaluation.warning then
    [⟨"budget.warning", [("utilization", .float evaluation.utilization)]⟩]
  else []

/-- The state with the usage of a budget evaluation. -/
def budgetState (state : RunState) (evaluation : BudgetEvaluation) : RunState :=
  { state with
    budgetUsage := evaluation.usage
    budgetWarningEmitted := state.budgetWarningEmitted || evaluation.warning
    version := state.version + 1 }

/-- The state of a Run whose budget is exhausted. -/
def exhaustedState (state : RunState) (evaluation : BudgetEvaluation) : RunState :=
  { budgetState state evaluation with
    status := .failed
    failureReason := some .budgetExhausted
    newCallsEnabled := false
    activeDispatches := [] }

/-- The events of an exhausted budget; a port that raised has left its own. -/
def exhaustedEvents (evaluation : BudgetEvaluation) (writeFailed archiveFailed : Bool) :
    List EventSpec :=
  budgetWarning evaluation ++ [⟨"checkpoint.pre", []⟩] ++
    (if writeFailed then [⟨"checkpoint.write_failed", []⟩] else []) ++
    (if archiveFailed then [⟨"archive.failed", []⟩] else []) ++
    [⟨"run.archived", []⟩, ⟨"run.failed", [("reason", .str "BUDGET_EXHAUSTED")]⟩,
      ⟨"budget.exhausted", []⟩]

/-- `_handle_budget`. -/
def handleBudget (world : World) (inputTokens outputTokens costMicros : Int) : Handled :=
  match world.actor.state with
  | none => world.done
  | some state =>
    if state.status.isTerminal then world.done
    else
      match evaluateBudget state.budgetUsage config.budgetLimits inputTokens outputTokens
          costMicros state.budgetWarningEmitted with
      | none => world.raise .raised
      | some evaluation =>
        if evaluation.exhausted then
          let write : PortCall := .writeCheckpoint
            { budgetState state evaluation with newCallsEnabled := false }
          let archive : PortCall := .archive config.runId
          let written := world.callPort around config.checkpointWriter write
          let archived := written.callPort around config.archivePort archive
          (commit around archived (exhaustedState state evaluation)
            (exhaustedEvents evaluation (config.checkpointWriter && around.portRaises write)
              (config.archivePort && around.portRaises archive))).1.done
        else
          (commit around world (budgetState state evaluation) (budgetWarning evaluation)).1.done

/-- `text.split(":", 1)[1]`. -/
def afterColon (text : String) : String :=
  String.ofList ((text.toList.dropWhile (· != ':')).drop 1)

/-- The event of one item of a recovery plan. -/
def recoveryEvent (item : String) : EventSpec :=
  if startsWith item "dispatch.interrupted:" then
    ⟨"dispatch.interrupted", [("dispatch_id", .str (afterColon item))]⟩
  else ⟨item, []⟩

/-- `_handle_recovery`. -/
def handleRecovery (world : World) (trigger : String)
    (activeDispatchIds missingIntentIds : List String) (checkpointCorrupt refDrift : Bool) :
    Handled :=
  match world.actor.state with
  | none => world.done
  | some state =>
    match RecoveryTrigger.ofValue trigger with
    | none => world.raise (.valueError "not a valid RecoveryTrigger")
    | some trigger =>
      let plan := RecoveryCoordinator.trigger trigger activeDispatchIds missingIntentIds
        checkpointCorrupt refDrift
      let next := { state with
        activeDispatches := []
        reportingHalted := plan.reportHalted
        version := state.version + 1 }
      (commit around world next (plan.events.map recoveryEvent)).1.done

/-- What `_handle_advice` decides: the next state, the event, and whether the advice is
adopted now. -/
structure AdviceDecision where
  next : RunState
  event : EventSpec
  adopted : Bool

/-- The event of an advice decision. -/
def adviceEvent (eventType reason proposalHash : String) : EventSpec :=
  ⟨eventType, [("reason", .str reason), ("proposal_hash", .str proposalHash)]⟩

/-- The part of `_handle_advice` before the commit. -/
def decideAdvice (state : RunState) (advice : Advice) (result : AdviceValidationResult) :
    AdviceDecision :=
  let adviceId := advice.adviceId.str
  match result.disposition with
  | .autoAdopted =>
    if adviceId ∈ state.adoptedAdviceIds then
      ⟨state, adviceEvent "advice.duplicate" result.reason result.proposalHash, false⟩
    else
      ⟨{ state with
          adoptedAdviceIds := state.adoptedAdviceIds ++ [adviceId]
          version := state.version + 1 },
        adviceEvent "advice.adopted" result.reason result.proposalHash, true⟩
  | .confirmationRequired =>
    if adviceId ∈ state.pendingAdviceIds then
      ⟨state, adviceEvent "advice.duplicate" result.reason result.proposalHash, false⟩
    else
      ⟨{ state with
          pendingAdviceIds := state.pendingAdviceIds ++ [adviceId]
          version := state.version + 1 },
        adviceEvent "advice.confirmation_required" result.reason result.proposalHash, false⟩
  | .discarded => ⟨state, adviceEvent "advice.discarded" result.reason result.proposalHash, false⟩

/-- `_handle_advice`. -/
def handleAdvice (world : World) (advice : Advice) : Handled :=
  match world.actor.state with
  | none => world.done
  | some state =>
    if advice.runId ≠ config.runId then
      (commit around world state [adviceEvent "advice.discarded" "RUN_ID_MISMATCH" ""]).1.done
    else
      match evaluateAdvice config.repr (config.adviceProposalHash advice) advice
          config.adviceContext with
      | none => world.raise .raised
      | some result =>
        let decision := decideAdvice state advice result
        match commit around world decision.next [decision.event] with
        | (world, committed) =>
          (world.callPort around
            (committed && decision.adopted && advice.kind == .repairDecision &&
              config.repairAdvicePort)
            (.dispatchAdopted advice)).done

end Handlers

end CodeMigrator
