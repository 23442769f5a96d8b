import CodeMigrator.Runtime.Workflow

/-!
# What a Run can do

`RunStep` is the Run as a transition system over its persisted state: one constructor
for every branch of the actor that commits, with the guards under which the branch is
reached, the events it appends and the outbound work it starts. `CoreStep` puts a Run
step into the part of the world that matters for it: the snapshot, the actor's copy of
the state, the agent runs and their receipts, and the work started so far.
-/

namespace CodeMigrator
open Lib

/-- The calls that start work outside the actor. -/
def PortCall.isWork : PortCall → Bool
  | schedule .. | dispatchAdopted _ => true
  | _ => false

/-- The Run takes no new calls, or was asked to end. -/
def RunState.Stopped (state : RunState) : Prop :=
  state.newCallsEnabled = false ∨ state.cancelRequested = true

/-- One committed step of a Run: the message handled, the state before, the events
appended, the work started and the state afterwards. -/
inductive RunStep (config : ActorConfig) :
    RuntimeMessage → RunState → List EventSpec → List PortCall → RunState → Prop where
  | acceptPlan (command : WorkflowCommandMessage) (completion : PlanAgentCompletion)
      (frozenPlan : FrozenPlan) (terminalEvent : EventSpec) (state : RunState)
      (planning : state.status = .planning)
      (spec : agentRunTerminalSpec completion.record completion.receipt = some terminalEvent) :
      RunStep config (.workflow command) state
        [terminalEvent, planAcceptedEvent command.logicalKey completion.record.agentRunId
          frozenPlan.planHash.text, runStatusChangedEvent (acceptedState state frozenPlan)] []
        (acceptedState state frozenPlan)
  | agentRunStarted (command : WorkflowCommandMessage) (record : AgentRun) (event : EventSpec)
      (state : RunState) (active : state.status = .planning ∨ state.status = .executing)
      (spec : agentRunStartedSpec record = some event) :
      RunStep config (.workflow command) state [event] []
        { state with version := state.version + 1 }
  | agentRunTerminal (command : WorkflowCommandMessage) (record : AgentRun)
      (receipt : AgentRunReceipt) (terminalEvent : EventSpec) (state : RunState)
      (executing : state.status = .executing)
      (spec : agentRunTerminalSpec record receipt = some terminalEvent) :
      RunStep config (.workflow command) state [terminalEvent] []
        { state with version := state.version + 1 }
  | integrationCompleted (command : WorkflowCommandMessage) (intent : IntegrationIntent)
      (verifiedCommitOid : String) (state : RunState) (executing : state.status = .executing)
      (planned : state.frozenPlanSha256 ≠ none) :
      RunStep config (.workflow command) state
        (integrationEvents command.logicalKey intent verifiedCommitOid) []
        { state with version := state.version + 1 }
  | executionRound (logicalKey : String) (decision : ExecutionRoundDecision)
      (facts : List CandidateCheckpointFact) (terminalEvents candidateEvents : List EventSpec)
      (state : RunState) (executing : state.status = .executing)
      (planned : state.frozenPlanSha256 ≠ none)
      (terminals : ∀ event ∈ terminalEvents, event.eventType = "agent_run.terminal")
      (candidates : ∀ event ∈ candidateEvents, event.eventType = "slice.candidate.accepted") :
      RunStep config (.executionRoundFinished logicalKey (some decision) none) state
        (committedEvents (some state) (roundState state decision facts)
          (terminalEvents ++ candidateEvents ++ [roundEvent logicalKey decision])) []
        (roundState state decision facts)
  | verification (command : WorkflowCommandMessage) (data : EventData) (state : RunState)
      (verifying : state.status = .verifying) :
      RunStep config (.workflow command) state
        (committedEvents (some state)
          { state with status := .reporting, version := state.version + 1 }
          [⟨"run.verify.completed", data⟩]) []
        { state with status := .reporting, version := state.version + 1 }
  | report (command : WorkflowCommandMessage) (result : ReportSummary) (data : EventData)
      (state : RunState) (reporting : state.status = .reporting) :
      RunStep config (.workflow command) state
        (committedEvents (some state)
          { state with status := result.status, version := state.version + 1 }
          [⟨"run.report.completed", data⟩]) []
        { state with status := result.status, version := state.version + 1 }
  | cancel (expectedVersion : Int) (response : Option Nat) (state : RunState)
      (live : state.status.isTerminal = false) (current : expectedVersion = state.version) :
      RunStep config (.cancel expectedVersion response) state
        (committedEvents (some state)
          { state with
            status := .cancelled, cancelRequested := true, newCallsEnabled := false
            activeDispatches := [], version := state.version + 1 }
          [⟨"run.cancelled", []⟩]) []
        { state with
          status := .cancelled, cancelRequested := true, newCallsEnabled := false
          activeDispatches := [], version := state.version + 1 }
  | sessionInput (kind : String) (payload : EventData) (state : RunState)
      (live : state.status.isTerminal = false) :
      RunStep config (.sessionInput kind payload) state
        [⟨"session.input.accepted", [("kind", .str kind)]⟩] []
        { state with version := state.version + 1 }
  | confirmationRejected (kind : String) (payload : EventData) (adviceId : String)
      (state : RunState) (live : state.status.isTerminal = false)
      (unknown : adviceId ∉ state.pendingAdviceIds) :
      RunStep config (.sessionInput kind payload) state
        [⟨"advice.confirmation_rejected", [("advice_id", .str adviceId)]⟩] [] state
  | adviceConfirmed (kind : String) (payload : EventData) (adviceId : String) (state : RunState)
      (live : state.status.isTerminal = false) (pending : adviceId ∈ state.pendingAdviceIds) :
      RunStep config (.sessionInput kind payload) state
        [⟨"advice.confirmed", [("advice_id", .str adviceId)]⟩] []
        { state with
          pendingAdviceIds := state.pendingAdviceIds.filter (· ≠ adviceId)
          adoptedAdviceIds := state.adoptedAdviceIds ++ [adviceId]
          version := state.version + 1 }
  | invalidSegment (kind : String) (payload : EventData) (state : RunState)
      (live : state.status.isTerminal = false) :
      RunStep config (.sessionInput kind payload) state
        [⟨"slice.terminal_failed", [("reason", .str "INVALID_GENERATION")]⟩] []
        { state with version := state.version + 1 }
  | segmentStopped (kind : String) (payload : EventData) (generation : Int) (state : RunState)
      (live : state.status.isTerminal = false)
      (valid : segmentGeneration payload = some generation) :
      RunStep config (.sessionInput kind payload) state
        [segmentEvent config state generation payload]
        (if segmentEligible config state generation payload && config.continuationPort then
          [.schedule config.runId generation] else [])
        (segmentState config state generation payload)
  | lateDispatchResult (runId : RunId) (dispatch : ActiveDispatch) (resultStatus : Option String)
      (data : EventData) (state : RunState) :
      RunStep config (.executionReceipt runId dispatch resultStatus false) state
        [⟨"LATE_DISPATCH_RESULT", data⟩] [] state
  | dispatchStarted (dispatch : ActiveDispatch) (resultStatus : Option String) (state : RunState)
      (live : state.status.isTerminal = false) (enabled : state.newCallsEnabled = true)
      (unused : state.activeDispatches.any
        (fun active => dispatchKey active = dispatchKey dispatch) = false) :
      RunStep config (.executionReceipt config.runId dispatch resultStatus true) state
        (committedEvents (some state)
          { state with
            status := .executing
            activeDispatches := state.activeDispatches ++ [dispatch]
            version := state.version + 1 }
          [dispatchStartedEvent dispatch]) []
        { state with
          status := .executing
          activeDispatches := state.activeDispatches ++ [dispatch]
          version := state.version + 1 }
  | dispatchCompleted (dispatch : ActiveDispatch) (resultStatus : Option String)
      (status : String) (state : RunState) (active : dispatch ∈ state.activeDispatches) :
      RunStep config (.executionReceipt config.runId dispatch resultStatus false) state
        [⟨"dispatch.completed", [("status", .str status)]⟩] []
        { state with
          activeDispatches := state.activeDispatches.filter (· ≠ dispatch)
          version := state.version + 1 }
  | budget (inputTokens outputTokens costMicros : Int) (evaluation : BudgetEvaluation)
      (state : RunState) (live : state.status.isTerminal = false) :
      RunStep config (.budget inputTokens outputTokens costMicros) state
        (budgetWarning evaluation) [] (budgetState state evaluation)
  | budgetExhausted (inputTokens outputTokens costMicros : Int) (evaluation : BudgetEvaluation)
      (writeFailed archiveFailed : Bool) (state : RunState)
      (live : state.status.isTerminal = false) :
      RunStep config (.budget inputTokens outputTokens costMicros) state
        (committedEvents (some state) (exhaustedState state evaluation)
          (exhaustedEvents evaluation writeFailed archiveFailed)) []
        (exhaustedState state evaluation)
  | recovery (trigger : String) (activeDispatchIds missingIntentIds : List String)
      (checkpointCorrupt refDrift : Bool) (kind : RecoveryTrigger) (state : RunState)
      (known : RecoveryTrigger.ofValue trigger = some kind) :
      RunStep config
        (.recovery trigger activeDispatchIds missingIntentIds checkpointCorrupt refDrift) state
        ((RecoveryCoordinator.trigger kind activeDispatchIds missingIntentIds checkpointCorrupt
          refDrift).events.map recoveryEvent) []
        { state with
          activeDispatches := [], reportingHalted := refDrift, version := state.version + 1 }
  | adviceMismatch (advice : Advice) (state : RunState) (foreign : advice.runId ≠ config.runId) :
      RunStep config (.advice advice) state
        [adviceEvent "advice.discarded" "RUN_ID_MISMATCH" ""] [] state
  | advice (advice : Advice) (result : AdviceValidationResult) (state : RunState)
      (own : advice.runId = config.runId)
      (evaluated : evaluateAdvice config.repr (config.adviceProposalHash advice) advice
        config.adviceContext = some result) :
      RunStep config (.advice advice) state
        [(decideAdvice state advice result).event]
        (if (decideAdvice state advice result).adopted && advice.kind == .repairDecision &&
            config.repairAdvicePort then [.dispatchAdopted advice] else [])
        (decideAdvice state advice result).next

/-- The part of the world that a Run step reads or changes. -/
structure Core where
  persisted : Option RuntimeSnapshot
  state : Option RunState
  agentRuns : Dict AgentRunId AgentRun
  agentReceipts : Dict AgentRunId AgentRunReceipt
  work : List PortCall

def World.core (config : ActorConfig) (world : World) : Core :=
  { persisted := world.store.load config.runId
    state := world.actor.state
    agentRuns := world.store.agentRuns
    agentReceipts := world.store.agentReceipts
    work := world.calls.filter PortCall.isWork }

/-- The agent run belongs to the actor's Run. -/
def OwnedBy (config : ActorConfig) (record : AgentRun) : Prop :=
  record.ownerKind = "run" ∧ record.ownerId = config.runId

/-- The snapshot after a committed step. -/
def RuntimeSnapshot.extend (snapshot : RuntimeSnapshot) (state : RunState)
    (events : List EventSpec) : RuntimeSnapshot :=
  ⟨state, snapshot.events ++ RuntimeStore.numbered (snapshot.events.length + 1) events⟩

@[simp] theorem RuntimeSnapshot.extend_state (snapshot : RuntimeSnapshot) (state : RunState)
    (events : List EventSpec) : (snapshot.extend state events).state = state := rfl

/-- The snapshot of a created Run. -/
def createdSnapshot (config : ActorConfig) (createRun : CreateRun) : RuntimeSnapshot :=
  ⟨createdState config.runId createRun,
    RuntimeStore.numbered 1 (createdEvents (createdState config.runId createRun))⟩

/-- One step of the world, as far as the Run is concerned. -/
inductive CoreStep (config : ActorConfig) : Input → Core → Core → Prop where
  | stay (input : Input) (core : Core) : CoreStep config input core core
  | create (input : Input) (core : Core) (createRun : CreateRun) (absent : core.persisted = none) :
      CoreStep config input core
        { core with
          persisted := some (createdSnapshot config createRun)
          state := some (createdState config.runId createRun) }
  | commit (message : RuntimeMessage) (around : Surroundings) (core : Core)
      (snapshot : RuntimeSnapshot) (events : List EventSpec) (work : List PortCall)
      (next : RunState) (found : core.persisted = some snapshot)
      (run : RunStep config message snapshot.state events work next) :
      CoreStep config (.message message around) core
        { core with
          persisted := some (snapshot.extend next events)
          state := some next
          work := core.work ++ work }
  | own (message : RuntimeMessage) (around : Surroundings) (core : Core)
      (snapshot : RuntimeSnapshot) (events : List EventSpec) (next : RunState)
      (record current : AgentRun) (receipt : AgentRunReceipt) (terminalEvent : EventSpec)
      (found : core.persisted = some snapshot)
      (run : RunStep config message snapshot.state events [] next)
      (executing : next.status = .executing)
      (before : core.agentRuns.get? record.agentRunId = some current)
      (spec : agentRunTerminalSpec record receipt = some terminalEvent)
      (announced : terminalEvent ∈ events) :
      CoreStep config (.message message around) core
        { core with
          persisted := some (snapshot.extend next events)
          state := some next
          agentRuns := core.agentRuns.set record.agentRunId record
          agentReceipts := core.agentReceipts.set record.agentRunId receipt }
  | register (input : Input) (core : Core) (record : AgentRun)
      (absent : core.agentRuns.get? record.agentRunId = none)
      (owner : OwnedBy config record → core.persisted ≠ none) :
      CoreStep config input core
        { core with agentRuns := core.agentRuns.set record.agentRunId record }

/-! ## Frames -/

theorem decideAdvice_frame (state : RunState) (advice : Advice) (result : AdviceValidationResult) :
    ∃ adopted pending version, (decideAdvice state advice result).next =
      { state with
        adoptedAdviceIds := adopted, pendingAdviceIds := pending, version := version } := by
  simp only [decideAdvice]
  cases result.disposition with
  | autoAdopted =>
    by_cases known : advice.adviceId.str ∈ state.adoptedAdviceIds
    · simp only [if_pos known]
      exact ⟨_, _, _, rfl⟩
    · simp only [if_neg known]
      exact ⟨_, _, _, rfl⟩
  | confirmationRequired =>
    by_cases known : advice.adviceId.str ∈ state.pendingAdviceIds
    · simp only [if_pos known]
      exact ⟨_, _, _, rfl⟩
    · simp only [if_neg known]
      exact ⟨_, _, _, rfl⟩
  | discarded => exact ⟨_, _, _, rfl⟩

theorem decideAdvice_status (state : RunState) (advice : Advice)
    (result : AdviceValidationResult) :
    (decideAdvice state advice result).next.status = state.status := by
  obtain ⟨adopted, pending, version, equal⟩ := decideAdvice_frame state advice result
  rw [equal]

section Frames

variable {config : ActorConfig} {message : RuntimeMessage} {state next : RunState}
  {events : List EventSpec} {work : List PortCall}

theorem RunStep.runId_eq (run : RunStep config message state events work next) :
    next.runId = state.runId := by
  cases run with
  | advice advice result _ own evaluated =>
    obtain ⟨adopted, pending, version, equal⟩ := decideAdvice_frame state advice result
    rw [equal]
  | _ => rfl

theorem RunStep.planning_of (run : RunStep config message state events work next)
    (planning : next.status = .planning) : state.status = .planning := by
  cases run with
  | advice advice result _ own evaluated =>
    obtain ⟨adopted, pending, version, equal⟩ := decideAdvice_frame state advice result
    rw [equal] at planning
    exact planning
  | executionRound logicalKey decision =>
    simp only [roundState] at planning
    split at planning <;> cases planning
  | report command result =>
    rcases result.statusIsSuccessful with successful | successful
    · exact absurd (successful.symm.trans planning) (by decide)
    · exact absurd (successful.symm.trans planning) (by decide)
  | acceptPlan => cases planning
  | verification => cases planning
  | cancel => cases planning
  | dispatchStarted => cases planning
  | budgetExhausted => cases planning
  | _ => exact planning

/-- New calls are switched off and cancellation is requested only together with the end of
the Run. -/
theorem RunStep.stopped (run : RunStep config message state events work next)
    (before : state.Stopped → state.status.isTerminal = true) (stopped : next.Stopped) :
    next.status.isTerminal = true := by
  -- a step out of a live status that keeps the two flags cannot have found them set
  have live : ∀ {status : RunStatus}, state.status = status → status.isTerminal = false →
      ¬ state.Stopped := by
    intro status same isLive flagged
    have terminal := before flagged
    rw [same, isLive] at terminal
    cases terminal
  cases run with
  | acceptPlan command completion frozenPlan terminalEvent _ planning =>
    exact absurd stopped (live planning rfl)
  | executionRound logicalKey decision facts terminalEvents candidateEvents _ executing =>
    exact absurd stopped (live executing rfl)
  | verification command data _ verifying => exact absurd stopped (live verifying rfl)
  | dispatchStarted dispatch resultStatus _ isLive => exact absurd stopped (live rfl isLive)
  | report command result =>
    rcases result.statusIsSuccessful with successful | successful
    · simp only [successful]
      rfl
    · simp only [successful]
      rfl
  | cancel => rfl
  | budgetExhausted => rfl
  | advice advice result _ own evaluated =>
    obtain ⟨adopted, pending, version, equal⟩ := decideAdvice_frame state advice result
    rw [equal] at stopped ⊢
    exact before stopped
  | _ => exact before stopped

end Frames

/-! ## The invariant -/

/-- The sequences of the ledger are positive. -/
def RuntimeSnapshot.Sequenced (snapshot : RuntimeSnapshot) : Prop :=
  ∀ event ∈ snapshot.events, 1 ≤ event.sequence

/-- What holds between the actor, its Run's snapshot and the agent runs: the actor's
state is the persisted one, and a receipt of one of the Run's agent runs has left its
event in the ledger, a plan receipt also the planning phase behind. -/
structure Coherent (config : ActorConfig) (core : Core) : Prop where
  synced : core.state = core.persisted.map (·.state)
  runId : ∀ snapshot, core.persisted = some snapshot → snapshot.state.runId = config.runId
  receiptsHaveRuns : ∀ id receipt, core.agentReceipts.get? id = some receipt →
    ∃ record, core.agentRuns.get? id = some record
  runsHaveOwner : ∀ id record, core.agentRuns.get? id = some record → OwnedBy config record →
    core.persisted ≠ none
  planReceipts : ∀ id record receipt snapshot, core.agentRuns.get? id = some record →
    core.agentReceipts.get? id = some receipt → OwnedBy config record →
    core.persisted = some snapshot → receipt.category = "plan.accepted" →
    snapshot.state.status ≠ .planning
  terminalReceipts : ∀ id record receipt snapshot, core.agentRuns.get? id = some record →
    core.agentReceipts.get? id = some receipt → OwnedBy config record →
    core.persisted = some snapshot → ∃ event ∈ snapshot.events,
      Json.field? event.data "receipt_key" = some (.str ("agent_run.terminal:" ++ id.str))
  stopped : ∀ snapshot, core.persisted = some snapshot → snapshot.state.Stopped →
    snapshot.state.status.isTerminal = true
  sequenced : ∀ snapshot, core.persisted = some snapshot → snapshot.Sequenced

/-- A world in which the Run does not exist yet. -/
structure Fresh (config : ActorConfig) (world : World) : Prop where
  noRun : world.store.load config.runId = none
  noState : world.actor.state = none
  noAgentRuns : ∀ id record, world.store.agentRuns.get? id = some record → ¬ OwnedBy config record
  receiptsHaveRuns : ∀ id receipt, world.store.agentReceipts.get? id = some receipt →
    ∃ record, world.store.agentRuns.get? id = some record

theorem Fresh.coherent {config : ActorConfig} {world : World} (fresh : Fresh config world) :
    Coherent config (world.core config) := by
  have none_ : (world.core config).persisted = none := fresh.noRun
  have empty : ∀ {snapshot : RuntimeSnapshot}, (world.core config).persisted ≠ some snapshot := by
    intro snapshot found
    rw [none_] at found
    cases found
  refine ⟨?_, ?_, fresh.receiptsHaveRuns, ?_, ?_, ?_, ?_, ?_⟩
  · rw [none_]
    exact fresh.noState
  · exact fun snapshot found => absurd found empty
  · exact fun id record found owned => absurd owned (fresh.noAgentRuns id record found)
  · exact fun id record receipt snapshot _ _ _ found _ => absurd found empty
  · exact fun id record receipt snapshot _ _ _ found => absurd found empty
  · exact fun snapshot found => absurd found empty
  · exact fun snapshot found => absurd found empty

section Preservation

variable {config : ActorConfig} {core after : Core} {snapshot : RuntimeSnapshot}
  {events : List EventSpec}

theorem RuntimeSnapshot.mem_extend {state : RunState} {event : RuntimeEvent}
    (member : event ∈ snapshot.events) : event ∈ (snapshot.extend state events).events :=
  List.mem_append_left _ member

theorem RuntimeSnapshot.mem_extend_new (snapshot : RuntimeSnapshot) (state : RunState)
    {event : EventSpec} (member : event ∈ events) :
    ∃ entry ∈ (snapshot.extend state events).events,
      entry.eventType = event.eventType ∧ entry.data = event.data := by
  obtain ⟨index, at_⟩ := List.mem_iff_getElem?.mp member
  have numbered : (event, index + (snapshot.events.length + 1)) ∈
      events.zipIdx (snapshot.events.length + 1) := by
    rw [List.mk_mem_zipIdx_iff_le_and_getElem?_sub]
    refine ⟨by omega, ?_⟩
    rw [Nat.add_sub_cancel]
    exact at_
  exact ⟨_, List.mem_append_right _ (List.mem_map_of_mem numbered), rfl, rfl⟩

theorem sequence_of_numbered {first : Nat} {event : RuntimeEvent}
    (member : event ∈ RuntimeStore.numbered first events) : first ≤ event.sequence := by
  obtain ⟨⟨spec, sequence⟩, inside, rfl⟩ := List.mem_map.mp member
  exact (List.mem_zipIdx inside).1

theorem RuntimeSnapshot.Sequenced.extend (sequenced : snapshot.Sequenced) (state : RunState)
    (events : List EventSpec) : (snapshot.extend state events).Sequenced := by
  intro event member
  rcases List.mem_append.mp member with earlier | new
  · exact sequenced event earlier
  · exact (Nat.le_add_left 1 _).trans (sequence_of_numbered new)

theorem Coherent.commit (coherent : Coherent config core) {message : RuntimeMessage}
    {work : List PortCall} {next : RunState} (found : core.persisted = some snapshot)
    (run : RunStep config message snapshot.state events work next) (works : List PortCall) :
    Coherent config { core with
      persisted := some (snapshot.extend next events), state := some next, work := works } := by
  refine ⟨rfl, ?_, coherent.receiptsHaveRuns, ?_, ?_, ?_, ?_, ?_⟩
  · rintro _ ⟨⟩
    exact run.runId_eq.trans (coherent.runId snapshot found)
  · intro id record hasRun owned absent
    cases absent
  · rintro id record receipt _ hasRun hasReceipt owned ⟨⟩ category planning
    exact coherent.planReceipts id record receipt snapshot hasRun hasReceipt owned found category
      (run.planning_of planning)
  · rintro id record receipt _ hasRun hasReceipt owned ⟨⟩
    obtain ⟨event, member, key⟩ :=
      coherent.terminalReceipts id record receipt snapshot hasRun hasReceipt owned found
    exact ⟨event, RuntimeSnapshot.mem_extend member, key⟩
  · rintro _ ⟨⟩
    exact run.stopped (coherent.stopped snapshot found)
  · rintro _ ⟨⟩
    exact (coherent.sequenced snapshot found).extend next events

theorem agentRunTerminalSpec_key {record : AgentRun} {receipt : AgentRunReceipt} {event : EventSpec}
    (spec : agentRunTerminalSpec record receipt = some event) :
    event.eventType = "agent_run.terminal" ∧ Json.field? event.data "receipt_key" =
      some (.str ("agent_run.terminal:" ++ record.agentRunId.str)) := by
  unfold agentRunTerminalSpec at spec
  split at spec
  · cases spec
  · cases spec
    exact ⟨rfl, rfl⟩

theorem CoreStep.coherent {input : Input} (step : CoreStep config input core after)
    (coherent : Coherent config core) : Coherent config after := by
  cases step with
  | stay => exact coherent
  | create _ _ createRun absent =>
    refine ⟨rfl, ?_, coherent.receiptsHaveRuns, ?_, ?_, ?_, ?_, ?_⟩
    · rintro _ ⟨⟩
      rfl
    · exact fun id record hasRun owned => absurd absent
        (coherent.runsHaveOwner id record hasRun owned)
    · exact fun id record receipt _ hasRun _ owned => absurd absent
        (coherent.runsHaveOwner id record hasRun owned)
    · exact fun id record receipt _ hasRun _ owned => absurd absent
        (coherent.runsHaveOwner id record hasRun owned)
    · rintro _ ⟨⟩ (disabled | requested)
      · cases disabled
      · cases requested
    · rintro _ ⟨⟩ event member
      exact sequence_of_numbered member
  | commit message around _ snapshot events work next found run =>
    exact coherent.commit found run _
  | own message around _ snapshot events next record current receipt terminalEvent found run
      executing before spec announced =>
      have kept := coherent.commit found run core.work
      refine ⟨kept.synced, kept.runId, ?_, ?_, ?_, ?_, kept.stopped, kept.sequenced⟩
      · intro id other hasReceipt
        rw [Dict.get?_set] at hasReceipt ⊢
        split at hasReceipt
        · exact ⟨record, by simp [*]⟩
        · rename_i different
          rw [if_neg different]
          exact coherent.receiptsHaveRuns id other hasReceipt
      · intro id other hasRun owned absent
        cases absent
      · rintro id other otherReceipt _ hasRun hasReceipt owned ⟨⟩ category planning
        exact absurd (executing.symm.trans planning) (by decide)
      · rintro id other otherReceipt _ hasRun hasReceipt owned ⟨⟩
        rw [Dict.get?_set] at hasRun hasReceipt
        by_cases same : id = record.agentRunId
        · subst same
          obtain ⟨event, member, _, data⟩ := snapshot.mem_extend_new next announced
          refine ⟨event, member, ?_⟩
          rw [data]
          exact (agentRunTerminalSpec_key spec).2
        · rw [if_neg same] at hasRun hasReceipt
          exact kept.terminalReceipts id other otherReceipt _ hasRun hasReceipt owned rfl
  | register _ _ record absent owner =>
    have noReceipt : ∀ id receipt, core.agentReceipts.get? id = some receipt →
        id ≠ record.agentRunId := by
      intro id receipt hasReceipt same
      obtain ⟨other, found⟩ := coherent.receiptsHaveRuns id receipt hasReceipt
      rw [same, absent] at found
      cases found
    refine ⟨coherent.synced, coherent.runId, ?_, ?_, ?_, ?_, coherent.stopped, coherent.sequenced⟩
    · intro id receipt hasReceipt
      rw [Dict.get?_set, if_neg (noReceipt id receipt hasReceipt)]
      exact coherent.receiptsHaveRuns id receipt hasReceipt
    · intro id other hasRun owned
      rw [Dict.get?_set] at hasRun
      split at hasRun
      · cases hasRun
        exact owner owned
      · exact coherent.runsHaveOwner id other hasRun owned
    · intro id other receipt snapshot hasRun hasReceipt
      rw [Dict.get?_set, if_neg (noReceipt id receipt hasReceipt)] at hasRun
      exact coherent.planReceipts id other receipt snapshot hasRun hasReceipt
    · intro id other receipt snapshot hasRun hasReceipt
      rw [Dict.get?_set, if_neg (noReceipt id receipt hasReceipt)] at hasRun
      exact coherent.terminalReceipts id other receipt snapshot hasRun hasReceipt

end Preservation

end CodeMigrator
