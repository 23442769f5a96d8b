import CodeMigrator.Lib.Versioned
import CodeMigrator.Runtime.PlanHistory
import CodeMigrator.Runtime.Postgres

/-!
# Status and version of a Run

Every commit of the actor builds the next state and its events by hand. Here each of them is held
to what the readers rely on: the last `run.status_changed` event of the ledger tells the persisted
status, and a version names one persisted state, so that a cancellation of an expected version
ends the state that was seen under it. Over PostgreSQL this needs the actor to work on the
persisted state: the reading after a committed write may raise, and the actor goes on with its
old copy.
-/

namespace CodeMigrator
open Lib

/-! ## The status in the ledger -/

/-- The status that the last `run.status_changed` event carries. -/
def toldStatus (events : List RuntimeEvent) : Option Json :=
  (events.reverse.find? (fun event => event.eventType == "run.status_changed")).bind
    (fun event => Json.field? event.data "run_status")

/-- The ledger tells the persisted status. -/
def RuntimeSnapshot.TellsStatus (snapshot : RuntimeSnapshot) : Prop :=
  toldStatus snapshot.events = some (.str snapshot.state.status.value)

/-- None of the events changes the status. -/
def Silent (events : List EventSpec) : Prop :=
  ∀ event ∈ events, event.eventType ≠ "run.status_changed"

@[simp] theorem silent_nil : Silent [] := by
  intro event member
  cases member

@[simp] theorem silent_cons {event : EventSpec} {events : List EventSpec} :
    Silent (event :: events) ↔ event.eventType ≠ "run.status_changed" ∧ Silent events :=
  List.forall_mem_cons

@[simp] theorem silent_append {left right : List EventSpec} :
    Silent (left ++ right) ↔ Silent left ∧ Silent right :=
  List.forall_mem_append

/-- What a step tells about the status: it ends with the event of the next one, or says nothing
and keeps it. -/
inductive StatusEffect (state next : RunState) (events : List EventSpec) : Prop where
  | tells (earlier : List EventSpec) (listed : events = earlier ++ [runStatusChangedEvent next])
  | keeps (silent : Silent events) (same : next.status = state.status)

theorem Silent.committed {state next : RunState} {events : List EventSpec}
    (silent : Silent events) :
    StatusEffect state next (committedEvents (some state) next events) := by
  by_cases same : state.status = next.status
  · rw [committedEvents_same events same]
    exact .keeps silent same.symm
  · rw [committedEvents_moved events same]
    exact .tells events rfl

theorem budgetWarning_silent (evaluation : BudgetEvaluation) :
    Silent (budgetWarning evaluation) := by
  unfold budgetWarning
  split
  · simp
  · simp

theorem exhaustedEvents_silent (evaluation : BudgetEvaluation) (writeFailed archiveFailed : Bool) :
    Silent (exhaustedEvents evaluation writeFailed archiveFailed) := by
  have warning := budgetWarning_silent evaluation
  unfold exhaustedEvents
  cases writeFailed <;> cases archiveFailed <;> simp [warning]

theorem decideAdvice_silent (state : RunState) (advice : Advice) (result : AdviceValidationResult) :
    Silent [(decideAdvice state advice result).event] := by
  simp only [decideAdvice]
  repeat' split
  all_goals simp [adviceEvent]

theorem agentRunStartedSpec_type {record : AgentRun} {event : EventSpec}
    (spec : agentRunStartedSpec record = some event) : event.eventType = "agent_run.started" := by
  unfold agentRunStartedSpec at spec
  split at spec
  · cases spec
  · cases spec
    rfl

theorem RunStep.statusEffect {config : ActorConfig} {message : RuntimeMessage}
    {state next : RunState} {events : List EventSpec} {work : List PortCall}
    (run : RunStep config message state events work next) : StatusEffect state next events := by
  cases run with
  | acceptPlan command completion frozenPlan terminalEvent =>
    exact .tells [terminalEvent, planAcceptedEvent command.logicalKey
      completion.record.agentRunId frozenPlan.planHash.text] rfl
  | agentRunStarted command record event _ active spec =>
    exact .keeps (by simp [agentRunStartedSpec_type spec]) rfl
  | agentRunTerminal command record receipt terminalEvent _ executing spec =>
    exact .keeps (by simp [(agentRunTerminalSpec_key spec).1]) rfl
  | integrationCompleted => exact .keeps (by simp [integrationEvents]) rfl
  | executionRound logicalKey decision facts terminalEvents candidateEvents _ executing planned
      terminals candidates =>
      refine Silent.committed ?_
      rw [silent_append, silent_append]
      refine ⟨⟨?_, ?_⟩, by simp [roundEvent]⟩
      · intro event member
        rw [terminals event member]
        decide
      · intro event member
        rw [candidates event member]
        decide
  | verification => exact Silent.committed (by simp)
  | report => exact Silent.committed (by simp)
  | cancel => exact Silent.committed (by simp)
  | segmentStopped kind payload generation =>
    refine .keeps ?_ rfl
    unfold segmentEvent
    split
    · simp
    · simp
  | dispatchStarted => exact Silent.committed (by simp [dispatchStartedEvent])
  | budget inputTokens outputTokens costMicros evaluation =>
    exact .keeps (budgetWarning_silent evaluation) rfl
  | budgetExhausted inputTokens outputTokens costMicros evaluation writeFailed archiveFailed =>
    exact (exhaustedEvents_silent evaluation writeFailed archiveFailed).committed
  | recovery trigger activeDispatchIds missingIntentIds checkpointCorrupt refDrift kind =>
    exact .keeps (recoveryEvents_other (by decide) (by decide) kind _ _ _ _) rfl
  | adviceMismatch => exact .keeps (by simp [adviceEvent]) rfl
  | advice advice result =>
    exact .keeps (decideAdvice_silent _ advice result) (decideAdvice_status _ advice result)
  | _ => exact .keeps (by simp) rfl

theorem toldStatus_silent {snapshot : RuntimeSnapshot} {next : RunState} {events : List EventSpec}
    (silent : Silent events) :
    toldStatus (snapshot.extend next events).events = toldStatus snapshot.events := by
  have none_ : (RuntimeStore.numbered (snapshot.events.length + 1) events).reverse.find?
      (fun event => event.eventType == "run.status_changed") = none := by
    rw [List.find?_eq_none]
    intro event member
    obtain ⟨spec, isSpec, sameType, -⟩ := numbered_origin (List.mem_reverse.mp member)
    rw [sameType, beq_iff_eq]
    exact silent spec isSpec
  simp only [toldStatus, RuntimeSnapshot.extend, List.reverse_append, List.find?_append, none_,
    Option.none_or]

theorem toldStatus_tells (snapshot : RuntimeSnapshot) (next : RunState)
    (earlier : List EventSpec) :
    toldStatus (snapshot.extend next (earlier ++ [runStatusChangedEvent next])).events =
      some (.str next.status.value) := by
  have last : RuntimeStore.numbered (snapshot.events.length + 1)
      (earlier ++ [runStatusChangedEvent next]) =
        RuntimeStore.numbered (snapshot.events.length + 1) earlier ++
          [⟨snapshot.events.length + 1 + earlier.length, "run.status_changed",
            (runStatusChangedEvent next).data⟩] := numbered_append _ _ _
  simp only [toldStatus, RuntimeSnapshot.extend, last, ← List.append_assoc, List.reverse_append,
    List.reverse_singleton, List.singleton_append]
  rfl

theorem createdSnapshot_tellsStatus (config : ActorConfig) (createRun : CreateRun) :
    (createdSnapshot config createRun).TellsStatus := by
  simp [RuntimeSnapshot.TellsStatus, createdSnapshot, createdEvents, createdState, toldStatus,
    RuntimeStore.numbered, runStatusChangedEvent, Json.field?, Dict.lookup]

theorem RunStep.tellsStatus {config : ActorConfig} {message : RuntimeMessage}
    {snapshot : RuntimeSnapshot} {next : RunState} {events : List EventSpec} {work : List PortCall}
    (run : RunStep config message snapshot.state events work next)
    (told : snapshot.TellsStatus) : (snapshot.extend next events).TellsStatus := by
  cases run.statusEffect with
  | tells earlier listed =>
    rw [listed]
    exact toldStatus_tells snapshot next earlier
  | keeps silent same =>
    rw [RuntimeSnapshot.TellsStatus, toldStatus_silent silent, RuntimeSnapshot.extend_state, same]
    exact told

/-! ## The version of a step -/

theorem RunStep.versionEffect {config : ActorConfig} {message : RuntimeMessage}
    {state next : RunState} {events : List EventSpec} {work : List PortCall}
    (run : RunStep config message state events work next) :
    next = state ∨ state.version < next.version := by
  cases run with
  | confirmationRejected => exact .inl rfl
  | lateDispatchResult => exact .inl rfl
  | adviceMismatch => exact .inl rfl
  | advice advice result =>
    simp only [decideAdvice]
    repeat' split
    all_goals first
      | exact .inl rfl
      | exact .inr (Int.lt_succ _)
  | _ => exact .inr (Int.lt_succ _)

theorem RunStep.cancel_current {config : ActorConfig} {expectedVersion : Int}
    {response : Option Nat} {state next : RunState} {events : List EventSpec}
    {work : List PortCall}
    (run : RunStep config (.cancel expectedVersion response) state events work next) :
    state.version = expectedVersion ∧ expectedVersion < next.version := by
  cases run with
  | cancel _ _ _ live current => exact ⟨current.symm, current ▸ Int.lt_succ _⟩

/-! ## The persisted state and its readers -/

/-- The state of the Run as a reader of the store gets it; `read` is what becomes of a state on
its way through the store. -/
def readState (config : ActorConfig) (read : RunState → RunState) (world : World) :
    Option RunState :=
  (world.store.load config.runId).map fun snapshot => read snapshot.state

/-- The version that a cancellation expects. -/
def Input.expectedVersion : Input → Option Int
  | .message (.cancel expectedVersion _) _ => some expectedVersion
  | _ => none

/-- The version that a cancellation expects, over PostgreSQL. -/
def PgInput.expectedVersion : PgInput → Option Int
  | .message (.cancel expectedVersion _) _ _ => some expectedVersion
  | _ => none

/-- The event stream tells the truth: the persisted status is announced in every state of the
run, and versions are what their readers take them for. -/
structure TruthfulStream {ι : Type} (step : World → ι → World) (read : RunState → RunState)
    (expects : ι → Option Int) (config : ActorConfig) (start : World) (inputs : List ι) : Prop where
  told : Always step (fun world => ∀ snapshot, world.store.load config.runId = some snapshot →
    snapshot.TellsStatus) start inputs
  versions : Versioned step (readState config read) RunState.version expects start inputs

section Steps

variable {config : ActorConfig} {world : World}

theorem CoreStep.advances {input : Input} {core after : Core} (read : RunState → RunState)
    (version : ∀ state, (read state).version = state.version)
    (step : CoreStep config input core after) {seen : RunState}
    (found : core.persisted.map (fun snapshot => read snapshot.state) = some seen) :
    ∃ later, after.persisted.map (fun snapshot => read snapshot.state) = some later ∧
      (later = seen ∨ seen.version < later.version) := by
  obtain ⟨snapshot, stored, rfl⟩ := Option.map_eq_some_iff.mp found
  rcases step.of_persisted stored with
    ⟨kept, -⟩ | ⟨message, around, events, work, next, -, run, written, -⟩
  · exact ⟨read snapshot.state, by rw [kept, Option.map_some], .inl rfl⟩
  · refine ⟨read next, by rw [written, Option.map_some, RuntimeSnapshot.extend_state], ?_⟩
    rcases run.versionEffect with same | raised
    · exact .inl (by rw [same])
    · rw [version, version]
      exact .inr raised

theorem CoreStep.conditional {around : Surroundings} {expectedVersion : Int}
    {response : Option Nat} {core after : Core} (read : RunState → RunState)
    (version : ∀ state, (read state).version = state.version)
    (step : CoreStep config (.message (.cancel expectedVersion response) around) core after)
    {snapshot : RuntimeSnapshot} (stored : core.persisted = some snapshot)
    (effect : after.persisted.map (fun snapshot => read snapshot.state) ≠
      core.persisted.map (fun snapshot => read snapshot.state)) :
    (read snapshot.state).version = expectedVersion ∧
      ∃ later, after.persisted.map (fun snapshot => read snapshot.state) = some later ∧
        expectedVersion < later.version := by
  rcases step.of_persisted stored with
    ⟨kept, -⟩ | ⟨message, other, events, work, next, same, run, written, -⟩
  · rw [kept, stored] at effect
    exact absurd rfl effect
  · cases same
    obtain ⟨current, raised⟩ := run.cancel_current
    refine ⟨(version _).trans current, read next, ?_, ?_⟩
    · rw [written, Option.map_some, RuntimeSnapshot.extend_state]
    · rw [version]
      exact raised

theorem CoreStep.tellsStatus {input : Input} {core after : Core}
    (step : CoreStep config input core after)
    (told : ∀ snapshot, core.persisted = some snapshot → snapshot.TellsStatus) :
    ∀ snapshot, after.persisted = some snapshot → snapshot.TellsStatus := by
  intro later found
  cases stored : core.persisted with
  | none =>
    rcases step.of_absent stored with absent | ⟨createRun, written⟩
    · rw [absent] at found
      cases found
    · rw [written] at found
      cases found
      exact createdSnapshot_tellsStatus config createRun
  | some snapshot =>
    rcases step.of_persisted stored with
      ⟨kept, -⟩ | ⟨message, around, events, work, next, -, run, written, -⟩
    · rw [kept] at found
      cases found
      exact told _ stored
    · rw [written] at found
      cases found
      exact run.tellsStatus (told snapshot stored)

theorem cancel_absent (around : Surroundings) (absent : world.actor.state = none)
    (expectedVersion : Int) (response : Option Nat) :
    (turn config around world (.cancel expectedVersion response)).core config =
      world.core config := by
  rw [turn_core_eq]
  simp only [handle, handleCancel, absent]
  exact core_replyTo config world _ _

end Steps

/-! ## Runs in memory -/

section Memory

variable {config : ActorConfig} {world : World}

theorem step_advances (coherent : Coherent config (world.core config)) (input : Input) :
    Advances (readState config id) RunState.version world (step config world input) :=
  fun _ found => (step_core coherent input).advances id (fun _ => rfl) found

theorem step_conditional (coherent : Coherent config (world.core config)) (input : Input) :
    Conditional (step config) (readState config id) RunState.version Input.expectedVersion world
      input := by
  intro expected expecting effect
  unfold Input.expectedVersion at expecting
  split at expecting
  case h_2 => cases expecting
  rename_i expectedVersion response around
  cases expecting
  cases stored : world.store.load config.runId with
  | none =>
    have absent : world.actor.state = none := by
      have synced : world.actor.state = (world.store.load config.runId).map (·.state) :=
        coherent.synced
      rw [synced, stored, Option.map_none]
    have same : ((turn config around world (.cancel expected response)).core config).persisted =
        (world.core config).persisted :=
      congrArg Core.persisted (cancel_absent around absent expected response)
    exact absurd (congrArg (Option.map fun snapshot : RuntimeSnapshot => id snapshot.state) same)
      effect
  | some snapshot =>
    obtain ⟨current, later, found, raised⟩ := (step_core coherent
      (.message (.cancel expected response) around)).conditional id (fun _ => rfl) stored effect
    refine ⟨snapshot.state, later, ?_, current, found, raised⟩
    rw [readState, stored, Option.map_some, id]

theorem truthful_in_memory (fresh : Fresh config world) (inputs : List Input) :
    TruthfulStream (step config) id Input.expectedVersion config world inputs := by
  refine ⟨?_, versioned_of_along ?_⟩
  · intro earlier rest split
    exact (snapshot_invariant (createdSnapshot_tellsStatus config)
      (fun run told => run.tellsStatus told) fresh earlier).holds
  · refine along_of_invariant (fun reached => Coherent config (reached.core config))
      (fun _ input coherent => step_coherent coherent input) ?_ fresh.coherent inputs
    intro reached input coherent
    exact ⟨step_advances coherent input, step_conditional coherent input⟩

end Memory

/-! ## Runs over PostgreSQL -/

section Pg

variable {config : ActorConfig} {world : World}

/-- The snapshot as it is read from the database. -/
def RuntimeSnapshot.reloaded (snapshot : RuntimeSnapshot) : RuntimeSnapshot :=
  ⟨snapshot.state.reloaded, snapshot.events⟩

/-- The actor works on the persisted state when it handles a message. -/
def HandledInSync (config : ActorConfig) (world : World) : PgInput → Prop
  | .message .. => world.actor.state = (world.store.load config.runId).map (·.state)
  | _ => True

/-- The actor as it would be on the persisted state. -/
def World.synced (config : ActorConfig) (world : World) : World :=
  world.setState ((world.store.load config.runId).map (·.state))

/-- Two cores with the same agent runs, and the same Run up to the reading from the database. -/
structure SameStored (left right : Core) : Prop where
  persisted : left.persisted.map RuntimeSnapshot.reloaded =
    right.persisted.map RuntimeSnapshot.reloaded
  agentRuns : left.agentRuns = right.agentRuns
  agentReceipts : left.agentReceipts = right.agentReceipts

/-- What holds of the database after a run, whatever the actor's copy of the state is. -/
structure PgReached (config : ActorConfig) (world : World) : Prop where
  coherent : Coherent config ((world.synced config).core config)
  told : ∀ snapshot, world.store.load config.runId = some snapshot → snapshot.TellsStatus

theorem SameStored.refl (core : Core) : SameStored core core := ⟨rfl, rfl, rfl⟩

theorem sameStored_reread (config : ActorConfig) (world : World) :
    SameStored (world.core config) ((world.reread config).core config) := by
  refine ⟨?_, ?_, ?_⟩
  · have reloaded : (world.reread config).store.load config.runId =
        (world.store.load config.runId).map RuntimeSnapshot.reloaded :=
      RuntimeStore.load_reread world.store config.runId
    simp only [World.core, reloaded, Option.map_map]
    rfl
  · simp only [World.core, World.reread, World.setState, World.setStore, RuntimeStore.reread]
    split <;> rfl
  · simp only [World.core, World.reread, World.setState, World.setStore, RuntimeStore.reread]
    split <;> rfl

theorem SameStored.found {left right : Core} (same : SameStored left right)
    {snapshot : RuntimeSnapshot} (found : right.persisted = some snapshot) :
    ∃ other, left.persisted = some other ∧ other.reloaded = snapshot.reloaded := by
  have equal := same.persisted
  rw [found, Option.map_some] at equal
  exact Option.map_eq_some_iff.mp equal

theorem SameStored.coherent {left right : Core} (same : SameStored left right)
    (coherent : Coherent config left) :
    Coherent config { right with state := right.persisted.map (·.state) } := by
  refine ⟨rfl, ?_, ?_, ?_, ?_, ?_, ?_, ?_⟩
  · intro snapshot found
    obtain ⟨other, foundOther, equal⟩ := same.found found
    have runId : other.state.runId = snapshot.state.runId :=
      congrArg (fun read => read.state.runId) equal
    exact runId ▸ coherent.runId other foundOther
  · rw [← same.agentRuns, ← same.agentReceipts]
    exact coherent.receiptsHaveRuns
  · intro id record hasRun owned absent
    rw [← same.agentRuns] at hasRun
    refine coherent.runsHaveOwner id record hasRun owned ?_
    have equal := same.persisted
    rw [absent, Option.map_none] at equal
    exact Option.map_eq_none_iff.mp equal
  · intro id record receipt snapshot hasRun hasReceipt owned found category
    obtain ⟨other, foundOther, equal⟩ := same.found found
    rw [← same.agentRuns] at hasRun
    rw [← same.agentReceipts] at hasReceipt
    have status : other.state.status = snapshot.state.status :=
      congrArg (fun read => read.state.status) equal
    exact status ▸ coherent.planReceipts id record receipt other hasRun hasReceipt owned foundOther
      category
  · intro id record receipt snapshot hasRun hasReceipt owned found
    obtain ⟨other, foundOther, equal⟩ := same.found found
    rw [← same.agentRuns] at hasRun
    rw [← same.agentReceipts] at hasReceipt
    have events : other.events = snapshot.events := congrArg (fun read => read.events) equal
    exact events ▸ coherent.terminalReceipts id record receipt other hasRun hasReceipt owned
      foundOther
  · intro snapshot found stopped
    obtain ⟨other, foundOther, equal⟩ := same.found found
    have status : other.state.status = snapshot.state.status :=
      congrArg (fun read => read.state.status) equal
    have calls : other.state.newCallsEnabled = snapshot.state.newCallsEnabled :=
      congrArg (fun read => read.state.newCallsEnabled) equal
    have requested : other.state.cancelRequested = snapshot.state.cancelRequested :=
      congrArg (fun read => read.state.cancelRequested) equal
    have ended := coherent.stopped other foundOther (by
      rw [RunState.Stopped, calls, requested]
      exact stopped)
    exact status ▸ ended
  · intro snapshot found
    obtain ⟨other, foundOther, equal⟩ := same.found found
    have events : other.events = snapshot.events := congrArg (fun read => read.events) equal
    exact fun event member => coherent.sequenced other foundOther event (events ▸ member)

theorem SameStored.tellsStatus {left right : Core} (same : SameStored left right)
    (told : ∀ snapshot, left.persisted = some snapshot → snapshot.TellsStatus) :
    ∀ snapshot, right.persisted = some snapshot → snapshot.TellsStatus := by
  intro snapshot found
  obtain ⟨other, foundOther, equal⟩ := same.found found
  have events : other.events = snapshot.events := congrArg (fun read => read.events) equal
  have status : other.state.status = snapshot.state.status :=
    congrArg (fun read => read.state.status) equal
  have announced := told other foundOther
  rw [RuntimeSnapshot.TellsStatus, events, status] at announced
  exact announced

/-- A step over PostgreSQL is a step of the Run, up to the reading from the database; a
cancellation before the Run exists does nothing. -/
structure StepsAs (config : ActorConfig) (world : World) (pgInput : PgInput) (input : Input)
    (after : Core) : Prop where
  step : CoreStep config input ((world.synced config).core config) after
  expects : input.expectedVersion = pgInput.expectedVersion
  stored : SameStored after ((pgStep config world pgInput).core config)
  absent : ∀ expectedVersion, pgInput.expectedVersion = some expectedVersion →
    world.store.load config.runId = none → after.persisted = none

theorem pgTurn_stepsAs (coherent : Coherent config (world.core config))
    (inSync : world.actor.state = (world.store.load config.runId).map (·.state))
    (message : RuntimeMessage) (around : Surroundings) (fault : Option StoreFault) :
    ∃ after, CoreStep config (.message message around) (world.core config) after ∧
      SameStored after ((pgTurn config around fault world message).core config) ∧
      ∀ expectedVersion response, message = .cancel expectedVersion response →
        world.store.load config.runId = none → after.persisted = none := by
  -- a turn from a store that refuses the next write, or takes it
  have turned : ∀ refuses, CoreStep config (.message message around) (world.core config)
      ((turn config around (world.refusing refuses) message).core config) := by
    intro refuses
    have same : Coherent config ((world.refusing refuses).core config) := coherent
    have handled := handle_core around same message
    rw [turn_core_eq]
    exact handled
  have absent : ∀ refuses expectedVersion response, message = .cancel expectedVersion response →
      world.store.load config.runId = none →
      ((turn config around (world.refusing refuses) message).core config).persisted = none := by
    rintro refuses expectedVersion response rfl missing
    have none_ : (world.refusing refuses).actor.state = none := by
      show world.actor.state = none
      rw [inSync, missing, Option.map_none]
    rw [cancel_absent around none_]
    exact missing
  -- the turn in which the write raises
  have refused : ∀ failure, ∃ after, CoreStep config (.message message around)
      (world.core config) after ∧
      SameStored after ((refusedTurn config around world message failure).core config) ∧
      ∀ expectedVersion response, message = .cancel expectedVersion response →
        world.store.load config.runId = none → after.persisted = none := by
    intro failure
    unfold refusedTurn
    dsimp only
    split
    · exact ⟨_, turned true, .refl _, absent true⟩
    split
    · exact ⟨_, turned true, .refl _, absent true⟩
    · refine ⟨_, .stay _ _, ⟨?_, ?_, ?_⟩, fun _ _ _ missing => missing⟩
      · rw [core_uncaught]
        rfl
      · rw [core_uncaught]
        rfl
      · rw [core_uncaught]
        rfl
  unfold pgTurn
  by_cases conflict : createConflicts config world message = true
  · rw [if_pos conflict]
    exact ⟨_, .stay _ _, .refl _, fun _ _ _ missing => missing⟩
  rw [if_neg conflict]
  match fault with
  | none => exact ⟨_, turned false, sameStored_reread config _, absent false⟩
  | some ⟨.beforeCommit, failure⟩ => exact refused failure
  | some ⟨.reload, failure⟩ =>
    -- the store is the one of the committed turn, whatever the actor makes of the exception
    refine ⟨_, turned false, ?_, absent false⟩
    have reread := sameStored_reread config
      ((refusedTurn config around world message failure).setStore
        (turn config around (world.refusing false) message).store)
    exact ⟨reread.persisted, reread.agentRuns, reread.agentReceipts⟩

theorem pgStep_stepsAs (reached : PgReached config world) (pgInput : PgInput)
    (inSync : HandledInSync config world pgInput) :
    ∃ input after, StepsAs config world pgInput input after := by
  cases pgInput with
  | message message around fault =>
    have synced : world.synced config = world := by
      rw [World.synced, ← inSync]
      rfl
    have coherent := reached.coherent
    rw [synced] at coherent
    obtain ⟨after, step, stored, absent⟩ := pgTurn_stepsAs coherent inSync message around fault
    refine ⟨.message message around, after, ?_, ?_, stored, ?_⟩
    · rw [synced]
      exact step
    · cases message with
      | _ => rfl
    · intro expectedVersion expecting missing
      cases message with
      | cancel version response => exact absent version response rfl missing
      | _ => cases expecting
  | createAgentRun record =>
    have coherent : Coherent config (((world.refusing false).synced config).core config) :=
      reached.coherent
    refine ⟨.createAgentRun record, _, step_core coherent (.createAgentRun record), rfl,
      ⟨rfl, rfl, rfl⟩, ?_⟩
    intro expectedVersion expecting
    cases expecting
  | addCasReference object ownerKind ownerId referenceKey =>
    have coherent : Coherent config (((world.refusing false).synced config).core config) :=
      reached.coherent
    refine ⟨.addCasReference object ownerKind ownerId referenceKey, _,
      step_core coherent (.addCasReference object ownerKind ownerId referenceKey), rfl,
      ⟨rfl, rfl, rfl⟩, ?_⟩
    intro expectedVersion expecting
    cases expecting
  | start =>
    refine ⟨.start, _, .stay _ _, rfl, ?_, ?_⟩
    · simp only [pgStep, step]
      split <;> exact ⟨rfl, rfl, rfl⟩
    · intro expectedVersion expecting
      cases expecting

theorem StepsAs.reached {pgInput : PgInput} {input : Input} {after : Core}
    (steps : StepsAs config world pgInput input after) (reached : PgReached config world) :
    PgReached config (pgStep config world pgInput) :=
  ⟨steps.stored.coherent (steps.step.coherent reached.coherent),
    steps.stored.tellsStatus (steps.step.tellsStatus reached.told)⟩

theorem StepsAs.read {pgInput : PgInput} {input : Input} {after : Core}
    (steps : StepsAs config world pgInput input after) :
    readState config RunState.reloaded (pgStep config world pgInput) =
      after.persisted.map fun snapshot => snapshot.state.reloaded := by
  have read := congrArg (Option.map RuntimeSnapshot.state) steps.stored.persisted
  rw [Option.map_map, Option.map_map] at read
  exact read.symm

theorem StepsAs.advances {pgInput : PgInput} {input : Input} {after : Core}
    (steps : StepsAs config world pgInput input after) :
    Advances (readState config RunState.reloaded) RunState.version world
      (pgStep config world pgInput) := by
  intro seen found
  rw [steps.read]
  exact steps.step.advances RunState.reloaded (fun _ => rfl) found

theorem StepsAs.conditional {pgInput : PgInput} {input : Input} {after : Core}
    (steps : StepsAs config world pgInput input after) :
    Conditional (pgStep config) (readState config RunState.reloaded) RunState.version
      PgInput.expectedVersion world pgInput := by
  intro expected expecting effect
  rw [steps.read] at effect ⊢
  cases stored : world.store.load config.runId with
  | none =>
    refine absurd ?_ effect
    rw [steps.absent expected expecting stored, readState, stored]
  | some snapshot =>
    have same := steps.expects
    rw [expecting] at same
    unfold Input.expectedVersion at same
    split at same
    case h_2 => cases same
    cases same
    obtain ⟨current, later, found, raised⟩ :=
      steps.step.conditional RunState.reloaded (fun _ => rfl) stored effect
    refine ⟨snapshot.state.reloaded, later, ?_, current, found, raised⟩
    rw [readState, stored, Option.map_some]

theorem Fresh.pgReached (fresh : Fresh config world) : PgReached config world := by
  have synced : world.synced config = world := by
    rw [World.synced, fresh.noRun, Option.map_none, ← fresh.noState]
    rfl
  refine ⟨?_, ?_⟩
  · rw [synced]
    exact fresh.coherent
  · intro snapshot found
    rw [fresh.noRun] at found
    cases found

/-- Over PostgreSQL the stream tells the truth in every run in which each message finds the actor
on the persisted state. -/
theorem truthful_over_postgres (fresh : Fresh config world) (inputs : List PgInput)
    (inSync : Along (pgStep config) (HandledInSync config) world inputs) :
    TruthfulStream (pgStep config) RunState.reloaded PgInput.expectedVersion config world
      inputs := by
  have keeps : ∀ reached input, PgReached config reached → HandledInSync config reached input →
      PgReached config (pgStep config reached input) := by
    intro reached input holds handled
    obtain ⟨other, after, steps⟩ := pgStep_stepsAs holds input handled
    exact steps.reached holds
  refine ⟨?_, versioned_of_along ?_⟩
  · have always := always_of_along (PgReached config) keeps fresh.pgReached inSync
    intro earlier rest split
    exact (always earlier rest split).told
  · refine along_of_along (PgReached config) keeps ?_ fresh.pgReached inSync
    intro reached input holds handled
    obtain ⟨other, after, steps⟩ := pgStep_stepsAs holds input handled
    exact ⟨steps.advances, steps.conditional⟩

end Pg

/-- The event stream tells the truth about status and version: over the store in memory in every
run, and over PostgreSQL in every run in which each message is handled while the actor's state is
the persisted one. -/
theorem status_stream_truthful (config : ActorConfig) (world : World)
    (fresh : Fresh config world) :
    (∀ inputs : List Input,
      TruthfulStream (step config) id Input.expectedVersion config world inputs) ∧
    ∀ inputs : List PgInput, Along (pgStep config) (HandledInSync config) world inputs →
      TruthfulStream (pgStep config) RunState.reloaded PgInput.expectedVersion config world
        inputs :=
  ⟨truthful_in_memory fresh, truthful_over_postgres fresh⟩

/-! ### A lost reading -/

namespace SampleRun

/-- A cancelled Run; the cancellation was refused once before. -/
def toSyncedCancel : List PgInput :=
  [healthy (.create runId createRun none), faulty .beforeCommit (.cancel 1 (some 0)),
    healthy (.cancel 1 (some 1)), healthy (.sessionInput "note" [])]

/-- The cancellation is committed and its reading lost; the next message is handled on the old
state. -/
def toLostCancel : List PgInput :=
  [healthy (.create runId createRun none), faulty .reload (.cancel 1 (some 0)),
    healthy (.sessionInput "note" [])]

/-- The persisted version and status. -/
def persistedVersion (world : World) : Option (Int × RunStatus) :=
  (readState config RunState.reloaded world).map fun state => (state.version, state.status)

end SampleRun

open SampleRun in
theorem status_stream_truthful_sample :
    TruthfulStream (step config) id Input.expectedVersion config start toCancelled ∧
      TruthfulStream (pgStep config) RunState.reloaded PgInput.expectedVersion config start
        toSyncedCancel :=
  ⟨(status_stream_truthful config start start_fresh).1 toCancelled,
    (status_stream_truthful config start start_fresh).2 toSyncedCancel
      ⟨rfl, rfl, rfl, rfl, trivial⟩⟩

open SampleRun in
/-- After a lost reading two persisted states of the Run have the version 2: the cancelled one, and
the one that is written over it. -/
theorem lost_reading_repeats_version :
    ¬ ∀ inputs : List PgInput, TruthfulStream (pgStep config) RunState.reloaded
      PgInput.expectedVersion config start inputs := by
  intro always
  have cancelled : persistedVersion (runFrom (pgStep config) start (toLostCancel.take 2)) =
      some (2, .cancelled) := by decide
  have planning : persistedVersion (runFrom (pgStep config) start toLostCancel) =
      some (2, .planning) := by decide
  obtain ⟨seen, found, first⟩ := Option.map_eq_some_iff.mp cancelled
  obtain ⟨next, foundNext, second⟩ := Option.map_eq_some_iff.mp planning
  have same : seen = next := (always toLostCancel).versions.identifies (toLostCancel.take 2)
    (toLostCancel.drop 2) [] rfl seen next found foundNext
    ((congrArg Prod.fst first).trans (congrArg Prod.fst second).symm)
  rw [same, second] at first
  exact absurd (congrArg Prod.snd first) (by decide)

end CodeMigrator
