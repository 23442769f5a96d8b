import CodeMigrator.Lib.Transition
import CodeMigrator.Planning.Ledger
import CodeMigrator.Runtime.WorkflowRefinement

/-!
# Phases of a Run

What holds over every sequence of inputs from a world in which the Run does not exist
yet: how its persisted status moves, what a terminal status freezes, and which work
is started after the end. A step either leaves the persisted Run alone or commits a
`RunStep`, so every result is one case analysis of `RunStep` and an induction over
the run.
-/

namespace CodeMigrator
open Lib

section Steps

variable {config : ActorConfig} {world : World} {input : Input} {snapshot : RuntimeSnapshot}

theorem CoreStep.of_persisted {core after : Core} (step : CoreStep config input core after)
    (found : core.persisted = some snapshot) :
    (after.persisted = some snapshot ∧ after.work = core.work) ∨
      ∃ message around events work next, input = .message message around ∧
        RunStep config message snapshot.state events work next ∧
        after.persisted = some (snapshot.extend next events) ∧ after.work = core.work ++ work := by
  cases step with
  | stay => exact .inl ⟨found, rfl⟩
  | register => exact .inl ⟨found, rfl⟩
  | create _ _ createRun absent =>
    rw [found] at absent
    cases absent
  | commit message around _ before events work next stored run =>
    rw [found] at stored
    cases stored
    exact .inr ⟨message, around, events, work, next, rfl, run, rfl, rfl⟩
  | own message around _ before events next record current receipt terminalEvent stored run =>
    rw [found] at stored
    cases stored
    exact .inr ⟨message, around, events, [], next, rfl, run, rfl, (List.append_nil _).symm⟩

theorem CoreStep.of_absent {core after : Core} (step : CoreStep config input core after)
    (absent : core.persisted = none) :
    after.persisted = none ∨ ∃ createRun, after.persisted = some (createdSnapshot config createRun) := by
  cases step with
  | stay => exact .inl absent
  | register => exact .inl absent
  | create _ _ createRun _ => exact .inr ⟨createRun, rfl⟩
  | commit message around _ before events work next stored run =>
    rw [absent] at stored
    cases stored
  | own message around _ before events next record current receipt terminalEvent stored run =>
    rw [absent] at stored
    cases stored

theorem Coherent.running (coherent : Coherent config (world.core config))
    (found : world.store.load config.runId = some snapshot)
    (live : snapshot.state.status.isTerminal = false) :
    snapshot.state.newCallsEnabled = true ∧ snapshot.state.cancelRequested = false := by
  have notStopped : ¬ snapshot.state.Stopped := by
    intro stopped
    have ended := coherent.stopped snapshot found stopped
    rw [live] at ended
    cases ended
  simpa [RunState.Stopped] using notStopped

theorem Fresh.coherent_after (fresh : Fresh config world) (inputs : List Input) :
    Coherent config ((runFrom (step config) world inputs).core config) :=
  runFrom_invariant (fun reached : World => Coherent config (reached.core config))
    (fun _ input coherent => step_coherent coherent input) fresh.coherent inputs

theorem persisted_of_commit (around : Surroundings) (loaded : Loaded config world snapshot)
    {next : RunState} (own : next.runId = config.runId) {events : List EventSpec}
    (handled : (step config world input).core config =
      (commit around world next events).1.core config) :
    (step config world input).store.load config.runId =
      if writable around world (committedEvents (some snapshot.state) next events) then
        some (snapshot.extend next (committedEvents (some snapshot.state) next events))
      else some snapshot := by
  obtain ⟨-, committed⟩ := commit_core around loaded.stored loaded.current own events
  rw [committed] at handled
  have persisted := congrArg Core.persisted handled
  rw [apply_ite Core.persisted] at persisted
  rw [← loaded.stored]
  exact persisted

/-- `R` relates the persisted states of the Run before and after. -/
def Persisted (config : ActorConfig) (R : RunState → RunState → Prop) (before after : World) :
    Prop :=
  ∀ snapshot, before.store.load config.runId = some snapshot →
    ∃ later, after.store.load config.runId = some later ∧ R snapshot.state later.state

section Relation

variable {R : RunState → RunState → Prop}

theorem Persisted.refl (refl : ∀ state, R state state) (world : World) :
    Persisted config R world world :=
  fun snapshot found => ⟨snapshot, found, refl snapshot.state⟩

theorem Persisted.trans
    (trans : ∀ first second third, R first second → R second third → R first third)
    {first second third : World} (before : Persisted config R first second)
    (after : Persisted config R second third) : Persisted config R first third := by
  intro snapshot found
  obtain ⟨middle, foundMiddle, toMiddle⟩ := before snapshot found
  obtain ⟨last, foundLast, toLast⟩ := after middle foundMiddle
  exact ⟨last, foundLast, trans _ _ _ toMiddle toLast⟩

end Relation

/-! ## Invariants of the persisted Run -/

/-- The invariant of the world, with one of the persisted Run. -/
structure Reached (config : ActorConfig) (I : RuntimeSnapshot → Prop) (world : World) : Prop where
  coherent : Coherent config (world.core config)
  holds : ∀ snapshot, world.store.load config.runId = some snapshot → I snapshot

section Invariant

variable {I : RuntimeSnapshot → Prop}
  (created : ∀ createRun, I (createdSnapshot config createRun))
  (keeps : ∀ {message snapshot events work next},
    RunStep config message snapshot.state events work next → I snapshot →
      I (snapshot.extend next events))

theorem Fresh.reached (fresh : Fresh config world) : Reached config I world := by
  refine ⟨fresh.coherent, ?_⟩
  intro snapshot found
  rw [fresh.noRun] at found
  cases found

include created keeps in
theorem Reached.step (reached : Reached config I world) (input : Input) :
    Reached config I (step config world input) := by
  have one := step_core reached.coherent input
  refine ⟨step_coherent reached.coherent input, ?_⟩
  intro later foundLater
  have foundLater : ((CodeMigrator.step config world input).core config).persisted = some later :=
    foundLater
  cases found : world.store.load config.runId with
  | none =>
    rcases one.of_absent found with absent | ⟨createRun, written⟩
    · rw [absent] at foundLater
      cases foundLater
    · rw [written] at foundLater
      cases foundLater
      exact created createRun
  | some snapshot =>
    rcases one.of_persisted found with
      ⟨kept, _⟩ | ⟨message, around, events, work, next, _, run, written, _⟩
    · rw [kept] at foundLater
      cases foundLater
      exact reached.holds _ found
    · rw [written] at foundLater
      cases foundLater
      exact keeps run (reached.holds snapshot found)

include created keeps in
theorem snapshot_invariant (fresh : Fresh config world) (inputs : List Input) :
    Reached config I (runFrom (step config) world inputs) :=
  runFrom_invariant (Reached config I) (fun _ input reached => reached.step created keeps input)
    fresh.reached inputs

include created keeps in
/-- What every Run step respects, under the invariant, holds between any two states of a
run. -/
theorem persisted_throughout {R : RunState → RunState → Prop} (fresh : Fresh config world)
    (refl : ∀ state, R state state)
    (trans : ∀ first second third, R first second → R second third → R first third)
    (respects : ∀ {message snapshot events work next},
      RunStep config message snapshot.state events work next → I snapshot →
        R snapshot.state next) (inputs : List Input) :
    Throughout (step config) (Persisted config R) world inputs := by
  rw [throughout_iff (Persisted.refl refl) (fun _ _ _ => Persisted.trans trans)]
  refine along_of_invariant (Reached config I)
    (fun _ input reached => reached.step created keeps input) ?_ fresh.reached inputs
  intro world input reached snapshot found
  rcases (step_core reached.coherent input).of_persisted found with
    ⟨kept, _⟩ | ⟨message, around, events, work, next, _, run, written, _⟩
  · exact ⟨snapshot, kept, refl _⟩
  · exact ⟨_, written, respects run (reached.holds snapshot found)⟩

end Invariant

end Steps

/-! ## Forward -/

/-- How far a Run has come; its four ends are equally far. -/
def RunStatus.rank : RunStatus → Nat
  | created => 0
  | planning => 1
  | executing => 2
  | verifying => 3
  | reporting => 4
  | completed | partiallyCompleted | failed | cancelled => 5

/-- The status stays or gets further. -/
def RunStatus.Forward (before after : RunStatus) : Prop := before = after ∨ before.rank < after.rank

instance (before after : RunStatus) : Decidable (before.Forward after) :=
  inferInstanceAs (Decidable (_ ∨ _))

theorem RunStatus.rank_of_terminal (status : RunStatus) :
    status.isTerminal = true → status.rank = 5 := by
  cases status <;> decide

theorem RunStatus.rank_of_live (status : RunStatus) :
    status.isTerminal = false → status.rank < 5 := by
  cases status <;> decide

theorem RunStatus.Forward.trans {first second third : RunStatus} (before : first.Forward second)
    (after : second.Forward third) : first.Forward third := by
  rcases before with rfl | before
  · exact after
  · rcases after with rfl | after
    · exact .inr before
    · exact .inr (before.trans after)

theorem RunStatus.Forward.of_live {before after : RunStatus} (live : before.isTerminal = false)
    (ended : after.isTerminal = true) : before.Forward after := by
  right
  rw [after.rank_of_terminal ended]
  exact before.rank_of_live live

/-- The persisted status of the Run moves forward. -/
def MovesForward (config : ActorConfig) : World → World → Prop :=
  Persisted config (fun before after => before.status.Forward after.status)

section Forward

variable {config : ActorConfig} {world : World}

/-- A started dispatch in the verification or reporting phase is the only step that
goes back. -/
theorem RunStep.forward {message : RuntimeMessage} {state next : RunState}
    {events : List EventSpec} {work : List PortCall}
    (run : RunStep config message state events work next) :
    state.status.Forward next.status ∨
      ∃ dispatch resultStatus, message = .executionReceipt config.runId dispatch resultStatus true ∧
        (state.status = .verifying ∨ state.status = .reporting) ∧
        state.activeDispatches.any (fun active => dispatchKey active = dispatchKey dispatch) =
          false := by
  cases run with
  | acceptPlan command completion frozenPlan terminalEvent _ planning =>
    left; right
    rw [planning]
    show 1 < 2
    omega
  | executionRound logicalKey decision facts terminalEvents candidateEvents _ executing =>
    left
    cases complete : decision.complete with
    | false =>
      left
      simp only [roundState, executing, complete, Bool.false_eq_true, if_false]
    | true =>
      right
      simp only [roundState, executing, complete, if_true]
      show 2 < 3
      omega
  | verification command data _ verifying =>
    left; right
    rw [verifying]
    show 3 < 4
    omega
  | report command result data _ reporting =>
    left
    refine .of_live (by rw [reporting]; rfl) ?_
    rcases result.statusIsSuccessful with successful | successful
    · rw [successful]
      rfl
    · rw [successful]
      rfl
  | cancel expectedVersion response _ live => exact .inl (.of_live live rfl)
  | budgetExhausted inputTokens outputTokens costMicros evaluation writeFailed archiveFailed _ live =>
    exact .inl (.of_live live rfl)
  | dispatchStarted dispatch resultStatus _ live enabled unused =>
    cases status : state.status with
    | created => left; right; show 0 < 2; omega
    | planning => left; right; show 1 < 2; omega
    | executing => left; left; rfl
    | verifying => exact .inr ⟨dispatch, resultStatus, rfl, .inl rfl, unused⟩
    | reporting => exact .inr ⟨dispatch, resultStatus, rfl, .inr rfl, unused⟩
    | _ =>
      rw [status] at live
      cases live
  | advice advice result =>
    left; left
    exact (decideAdvice_status state advice result).symm
  | _ => exact .inl (.inl rfl)

/-- The state that a started dispatch leaves. -/
def startedState (state : RunState) (dispatch : ActiveDispatch) : RunState :=
  { state with
    status := .executing
    activeDispatches := state.activeDispatches ++ [dispatch]
    version := state.version + 1 }

/-- The events of a dispatch that takes the Run back to its execution. -/
def lateStartEvents (state : RunState) (dispatch : ActiveDispatch) : List EventSpec :=
  [dispatchStartedEvent dispatch, runStatusChangedEvent { state with status := .executing }]

/-- A dispatch starts while the Run is verified or reported on, and the start is
committed. -/
def LateDispatchStart (config : ActorConfig) (world : World) : Input → Prop
  | .message (.executionReceipt runId dispatch _ true) around =>
    runId = config.runId ∧ ∃ snapshot, world.store.load config.runId = some snapshot ∧
      (snapshot.state.status = .verifying ∨ snapshot.state.status = .reporting) ∧
      snapshot.state.activeDispatches.any
        (fun active => dispatchKey active = dispatchKey dispatch) = false ∧
      writable around world (lateStartEvents snapshot.state dispatch) = true
  | _ => False

/-- What a started dispatch does in the verification or reporting phase: nothing there
looks at the phase. -/
theorem lateDispatch_persisted (coherent : Coherent config (world.core config))
    {snapshot : RuntimeSnapshot} (found : world.store.load config.runId = some snapshot)
    (late : snapshot.state.status = .verifying ∨ snapshot.state.status = .reporting)
    {dispatch : ActiveDispatch} (unused : snapshot.state.activeDispatches.any
      (fun active => dispatchKey active = dispatchKey dispatch) = false)
    (resultStatus : Option String) (around : Surroundings) :
    (step config world (.message (.executionReceipt config.runId dispatch resultStatus true)
      around)).store.load config.runId =
      if writable around world (lateStartEvents snapshot.state dispatch) then
        some (snapshot.extend (startedState snapshot.state dispatch)
          (lateStartEvents snapshot.state dispatch))
      else some snapshot := by
  have loaded := coherent.loaded_of_found found
  have live : snapshot.state.status.isTerminal = false := by
    rcases late with late | late
    · rw [late]
      rfl
    · rw [late]
      rfl
  obtain ⟨enabled, running⟩ := coherent.running found live
  have moved : snapshot.state.status ≠ .executing := by
    rcases late with late | late
    · rw [late]
      decide
    · rw [late]
      decide
  have events : committedEvents (some snapshot.state) (startedState snapshot.state dispatch)
      [dispatchStartedEvent dispatch] = lateStartEvents snapshot.state dispatch :=
    committedEvents_moved _ moved
  have own : (startedState snapshot.state dispatch).runId = config.runId := loaded.runId
  rw [← events]
  refine persisted_of_commit around loaded own ?_
  dsimp only [step]
  rw [turn_core_eq]
  simp [handle, handleExecution, startDispatch, loaded.current, live, enabled, running, unused,
    startedState, World.done]

theorem step_movesForward_iff (coherent : Coherent config (world.core config)) (input : Input) :
    MovesForward config world (step config world input) ↔ ¬ LateDispatchStart config world input := by
  constructor
  · intro forward late
    unfold LateDispatchStart at late
    split at late
    · rename_i runId dispatch resultStatus around
      obtain ⟨rfl, snapshot, found, phase, unused, committed⟩ := late
      have written := lateDispatch_persisted coherent found phase unused resultStatus around
      rw [if_pos committed] at written
      obtain ⟨later, foundLater, moved⟩ := forward snapshot found
      rw [written] at foundLater
      cases foundLater
      have back : snapshot.state.status.Forward .executing := moved
      rcases phase with phase | phase
      · rw [phase] at back
        revert back
        decide
      · rw [phase] at back
        revert back
        decide
    · exact late
  · intro notLate snapshot found
    rcases (step_core coherent input).of_persisted found with
      ⟨kept, _⟩ | ⟨message, around, events, work, next, rfl, run, written, _⟩
    · exact ⟨snapshot, kept, .inl rfl⟩
    · rcases run.forward with forward | ⟨dispatch, resultStatus, rfl, phase, unused⟩
      · exact ⟨_, written, forward⟩
      · -- the only way back is closed, so the start was not committed
        have written := lateDispatch_persisted coherent found phase unused resultStatus around
        have refused : ¬ writable around world (lateStartEvents snapshot.state dispatch) = true :=
          fun committed => notLate ⟨rfl, snapshot, found, phase, unused, committed⟩
        rw [if_neg refused] at written
        exact ⟨snapshot, written, .inl rfl⟩

/-- The persisted status of a Run moves forward throughout a sequence of inputs exactly
when no dispatch start is committed during verification or reporting. -/
theorem phase_forward_iff (config : ActorConfig) (world : World) (fresh : Fresh config world)
    (inputs : List Input) :
    Throughout (step config) (MovesForward config) world inputs ↔
      Along (step config) (fun reached input => ¬ LateDispatchStart config reached input) world
        inputs := by
  have refl : ∀ reached, MovesForward config reached reached :=
    Persisted.refl fun _ => .inl rfl
  have trans : ∀ first second third, MovesForward config first second →
      MovesForward config second third → MovesForward config first third := by
    intro first second third before after
    refine Persisted.trans ?_ before after
    intro _ _ _ toSecond toThird
    exact RunStatus.Forward.trans toSecond toThird
  rw [throughout_iff refl trans]
  exact along_iff (fun reached => Coherent config (reached.core config))
    (fun _ input coherent _ => step_coherent coherent input)
    (fun _ input coherent => step_movesForward_iff coherent input) fresh.coherent inputs

end Forward

/-! ### A Run up to its verification -/

namespace SampleRun

open TwoSlices (zeroDigest frozenApart)

def runId : RunId := ⟨1⟩

def artifact : ArtifactRef := ⟨zeroDigest.text, 1, "application/json"⟩

def createRun : CreateRun :=
  { source := .registeredProject ⟨2⟩ ⟨3⟩
    branchPrefix := ⟨"migrate", by decide⟩
    frozenArtifacts := ⟨artifact, artifact, artifact, artifact⟩ }

/-- An actor with every port; all its digests are the same text. -/
def config : ActorConfig :=
  { runId := runId
    budgetLimits := .default
    adviceContext := { AdviceValidationContext.default with attributionCandidates := [⟨7⟩] }
    checkpointWriter := true
    cancellationPort := true
    continuationPort := true
    archivePort := true
    integrationCoordinator := true
    repairAdvicePort := true
    executionScheduler := true
    candidateCheckpointVerifier := true
    repr := fun _ => ""
    planPayloadDigest := fun _ => some zeroDigest.text
    checkpointReceiptDigest := fun _ => some zeroDigest
    adviceProposalHash := fun _ => some zeroDigest.text
    integrationReceiptDigest := fun _ _ => zeroDigest }

/-- Nothing is rejected and no port raises. -/
def calm : Surroundings := ⟨fun _ => false, fun _ => false, fun _ => some true⟩

def planner : AgentRunFields :=
  { agentRunId := ⟨4⟩
    ownerKind := "run"
    ownerId := runId
    logicalTaskKey := "plan"
    phase := .plan
    sessionKind := .planAuxiliary
    threadId := "00000000-0000-0000-0000-000000000005"
    modelBindingSha256 := zeroDigest.text
    contextSha256 := zeroDigest.text
    toolsetSha256 := zeroDigest.text
    templateSha256 := zeroDigest.text
    sliceRef := none
    writeScopeSha256 := none
    checkpointSha256 := none
    candidateCheckpointSha256 := none
    resultSha256 := none
    usageSha256 := none
    retryOf := none
    continuationOf := none
    restartedFrom := none
    state := .created
    exit := none }

def plannerCreated : AgentRun := ⟨planner, by decide⟩
def plannerClosed : AgentRun :=
  ⟨{ planner with state := .closed, exit := some .completed, resultSha256 := some zeroDigest.text },
    by decide⟩

def completion : PlanAgentCompletion :=
  ⟨plannerClosed, ⟨⟨6⟩, ⟨4⟩, "plan.accepted", by decide⟩, ⟨zeroDigest, 1⟩, ⟨zeroDigest, 1⟩⟩

def command (logicalKey : String) (payload : WorkflowPayload) (response : Nat) : Input :=
  .message (.workflow ⟨runId, logicalKey, payload, response⟩) calm

/-- From the creation to the verification phase. -/
def toVerification : List Input :=
  [.message (.create runId createRun none) calm,
    .createAgentRun plannerCreated,
    command ("agent_run.started:" ++ (⟨4⟩ : UUID).str) (.agentRunStarted ⟨4⟩) 0,
    command ("run.plan.accepted:" ++ runId.str) (.acceptPlan completion frozenApart) 1,
    command ("run.execute.round:" ++ runId.str ++ ":0") .executeRound 2,
    .message (.executionRoundFinished ("run.execute.round:" ++ runId.str ++ ":0")
      (some ⟨true, 0, [], [], []⟩) none) calm]

def dispatch : ActiveDispatch := ⟨⟨8⟩, .finalVerified "c0", ⟨9⟩, "c0", rfl⟩

/-- A dispatch that checks the verified commit. -/
def lateDispatch : Input := .message (.executionReceipt runId dispatch none true) calm

def start : World := ⟨.empty, .fresh, [], []⟩

theorem start_fresh : Fresh config start where
  noRun := rfl
  noState := rfl
  noAgentRuns := fun _ _ found => by cases found
  receiptsHaveRuns := fun _ _ found => by cases found

/-- A Run that is cancelled at once. -/
def toCancelled : List Input :=
  [.message (.create runId createRun none) calm, .message (.cancel 1 none) calm]

def recover : Input := .message (.recovery "startup" ["d"] [] false true) calm

/-- Advice to repair a slice that the failure was attributed to. -/
def repair : Advice :=
  ⟨⟨10⟩, .repairDecision, runId, .executeSupervisor, [("repair_set", .arr [.str (⟨7⟩ : UUID).str])],
    zeroDigest.text⟩

end SampleRun

open SampleRun in
theorem phase_forward_toVerification :
    Throughout (step config) (MovesForward config) start toVerification :=
  (phase_forward_iff config start start_fresh toVerification).mpr
    ⟨id, id, id, id, id, id, trivial⟩

open SampleRun in
/-- A dispatch that starts during verification takes the Run back to its execution. -/
theorem phase_goes_back :
    ((runFrom (step config) start toVerification).store.load runId).map (·.state.status) =
        some .verifying ∧
      ((runFrom (step config) start (toVerification ++ [lateDispatch])).store.load runId).map
        (·.state.status) = some .executing ∧
      ¬ Throughout (step config) (MovesForward config) start (toVerification ++ [lateDispatch]) := by
  have before : ((runFrom (step config) start toVerification).store.load runId).map
      (·.state.status) = some .verifying := by decide
  have after : ((runFrom (step config) start (toVerification ++ [lateDispatch])).store.load
      runId).map (·.state.status) = some .executing := by decide
  refine ⟨before, after, ?_⟩
  intro forward
  obtain ⟨snapshot, found, verifying⟩ := Option.map_eq_some_iff.mp before
  obtain ⟨later, foundLater, moved⟩ :=
    forward toVerification [lateDispatch] [] (List.append_nil _).symm snapshot found
  have executing : later.state.status = .executing := by
    have same : (some later).map (·.state.status) = some .executing := by
      rw [← foundLater]
      exact after
    exact Option.some.inj same
  rw [verifying, executing] at moved
  revert moved
  decide

/-! ## The end -/

/-- What a terminal state fixes, and that no dispatch is added to it. -/
structure Settled (before after : RunState) : Prop where
  status : after.status = before.status
  failureReason : after.failureReason = before.failureReason
  cancelRequested : after.cancelRequested = before.cancelRequested
  newCallsEnabled : after.newCallsEnabled = before.newCallsEnabled
  frozenPlanSha256 : after.frozenPlanSha256 = before.frozenPlanSha256
  candidateCheckpoints : after.candidateCheckpoints = before.candidateCheckpoints
  continuationCounts : after.continuationCounts = before.continuationCounts
  terminalSliceFailures : after.terminalSliceFailures = before.terminalSliceFailures
  budgetUsage : after.budgetUsage = before.budgetUsage
  activeDispatches : List.Sublist after.activeDispatches before.activeDispatches

theorem Settled.refl (state : RunState) : Settled state state :=
  ⟨rfl, rfl, rfl, rfl, rfl, rfl, rfl, rfl, rfl, List.Sublist.refl _⟩

theorem Settled.trans {first second third : RunState} (before : Settled first second)
    (after : Settled second third) : Settled first third :=
  { status := after.status.trans before.status
    failureReason := after.failureReason.trans before.failureReason
    cancelRequested := after.cancelRequested.trans before.cancelRequested
    newCallsEnabled := after.newCallsEnabled.trans before.newCallsEnabled
    frozenPlanSha256 := after.frozenPlanSha256.trans before.frozenPlanSha256
    candidateCheckpoints := after.candidateCheckpoints.trans before.candidateCheckpoints
    continuationCounts := after.continuationCounts.trans before.continuationCounts
    terminalSliceFailures := after.terminalSliceFailures.trans before.terminalSliceFailures
    budgetUsage := after.budgetUsage.trans before.budgetUsage
    activeDispatches := after.activeDispatches.trans before.activeDispatches }

section End

variable {config : ActorConfig} {world : World} {state : RunState} {advice : Advice}
  {result : AdviceValidationResult}

theorem RunStep.settled {message : RuntimeMessage} {next : RunState} {events : List EventSpec}
    {work : List PortCall} (run : RunStep config message state events work next)
    (ended : state.status.isTerminal = true) : Settled state next := by
  have closed : ∀ {status : RunStatus}, state.status = status → status.isTerminal = false →
      Settled state next := by
    intro status same live
    rw [same, live] at ended
    cases ended
  cases run with
  | acceptPlan command completion frozenPlan terminalEvent _ planning => exact closed planning rfl
  | agentRunStarted command record event _ active =>
    rcases active with planning | executing
    · exact closed planning rfl
    · exact closed executing rfl
  | agentRunTerminal command record receipt terminalEvent _ executing => exact closed executing rfl
  | integrationCompleted command intent verifiedCommitOid _ executing => exact closed executing rfl
  | executionRound logicalKey decision facts terminalEvents candidateEvents _ executing =>
    exact closed executing rfl
  | verification command data _ verifying => exact closed verifying rfl
  | report command result data _ reporting => exact closed reporting rfl
  | cancel expectedVersion response _ live => exact closed rfl live
  | sessionInput kind payload _ live => exact closed rfl live
  | confirmationRejected kind payload adviceId _ live => exact closed rfl live
  | adviceConfirmed kind payload adviceId _ live => exact closed rfl live
  | invalidSegment kind payload _ live => exact closed rfl live
  | segmentStopped kind payload generation _ live => exact closed rfl live
  | dispatchStarted dispatch resultStatus _ live => exact closed rfl live
  | budget inputTokens outputTokens costMicros evaluation _ live => exact closed rfl live
  | budgetExhausted inputTokens outputTokens costMicros evaluation writeFailed archiveFailed _
      live => exact closed rfl live
  | lateDispatchResult => exact Settled.refl state
  | dispatchCompleted =>
    exact ⟨rfl, rfl, rfl, rfl, rfl, rfl, rfl, rfl, rfl, List.filter_sublist⟩
  | recovery => exact ⟨rfl, rfl, rfl, rfl, rfl, rfl, rfl, rfl, rfl, List.nil_sublist _⟩
  | adviceMismatch => exact Settled.refl state
  | advice advice result =>
    obtain ⟨adopted, pending, version, equal⟩ := decideAdvice_frame state advice result
    rw [equal]
    exact ⟨rfl, rfl, rfl, rfl, rfl, rfl, rfl, rfl, rfl, List.Sublist.refl _⟩

/-- Once the persisted status is terminal, no further inputs change what it fixes. -/
theorem terminal_absorbs (config : ActorConfig) (world : World) (fresh : Fresh config world)
    (inputs : List Input) :
    Throughout (step config)
      (Persisted config fun before after => before.status.isTerminal = true → Settled before after)
      world inputs := by
  refine persisted_throughout (I := fun _ => True) (fun _ => trivial) (fun _ _ => trivial) fresh
    (fun state _ => Settled.refl state) ?_ (fun run _ => run.settled) inputs
  intro first second third before after ended
  have toSecond := before ended
  rw [← toSecond.status] at ended
  exact toSecond.trans (after ended)

open SampleRun in
theorem terminal_absorbs_cancelled :
    ∃ before after,
      (runFrom (step SampleRun.config) start toCancelled).store.load runId = some before ∧
        before.state.status = .cancelled ∧
        (runFrom (step SampleRun.config) start (toCancelled ++ [recover])).store.load runId =
          some after ∧
        Settled before.state after.state := by
  have cancelled : ((runFrom (step SampleRun.config) start toCancelled).store.load runId).map
      (·.state.status) = some .cancelled := by decide
  obtain ⟨before, found, status⟩ := Option.map_eq_some_iff.mp cancelled
  obtain ⟨after, foundAfter, settled⟩ := terminal_absorbs SampleRun.config start start_fresh
    (toCancelled ++ [recover]) toCancelled [recover] [] (List.append_nil _).symm before found
  exact ⟨before, after, found, status, foundAfter, settled (by rw [status]; rfl)⟩

/-! ## Work after the end -/

/-- After the end of the Run the step starts no work and adopts no advice. -/
def QuietAfterEnd (config : ActorConfig) (world : World) (input : Input) : Prop :=
  ∀ snapshot, world.store.load config.runId = some snapshot →
    (snapshot.state.status.isTerminal = true ∨ snapshot.state.newCallsEnabled = false) →
    (step config world input).calls.filter PortCall.isWork = world.calls.filter PortCall.isWork ∧
      ∃ later, (step config world input).store.load config.runId = some later ∧
        later.state.adoptedAdviceIds = snapshot.state.adoptedAdviceIds

/-- The advice is one that the Run adopts on its own: it passes the checks and was not
adopted before. -/
def Adoptable (config : ActorConfig) (state : RunState) (advice : Advice)
    (result : AdviceValidationResult) : Prop :=
  advice.runId = config.runId ∧
    evaluateAdvice config.repr (config.adviceProposalHash advice) advice config.adviceContext =
      some result ∧
    result.disposition = .autoAdopted ∧ advice.adviceId.str ∉ state.adoptedAdviceIds

/-- Adoptable advice arrives after the end of the Run, and its adoption is committed. -/
def LateAdoption (config : ActorConfig) (world : World) : Input → Prop
  | .message (.advice advice) around =>
    ∃ snapshot result, world.store.load config.runId = some snapshot ∧
      (snapshot.state.status.isTerminal = true ∨ snapshot.state.newCallsEnabled = false) ∧
      Adoptable config snapshot.state advice result ∧
      writable around world [adviceEvent "advice.adopted" result.reason result.proposalHash] = true
  | _ => False

theorem decideAdvice_adopted (auto : result.disposition = .autoAdopted)
    (unknown : advice.adviceId.str ∉ state.adoptedAdviceIds) :
    decideAdvice state advice result =
      ⟨{ state with
          adoptedAdviceIds := state.adoptedAdviceIds ++ [advice.adviceId.str]
          version := state.version + 1 },
        adviceEvent "advice.adopted" result.reason result.proposalHash, true⟩ := by
  simp only [decideAdvice, auto, if_neg unknown]

theorem decideAdvice_other
    (other : ¬ (result.disposition = .autoAdopted ∧ advice.adviceId.str ∉ state.adoptedAdviceIds)) :
    (decideAdvice state advice result).adopted = false ∧
      (decideAdvice state advice result).next.adoptedAdviceIds = state.adoptedAdviceIds := by
  simp only [decideAdvice]
  cases disposition : result.disposition with
  | autoAdopted =>
    have known : advice.adviceId.str ∈ state.adoptedAdviceIds := by
      by_contra unknown
      exact other ⟨disposition, unknown⟩
    simp only [if_pos known, and_self]
  | confirmationRequired =>
    by_cases pending : advice.adviceId.str ∈ state.pendingAdviceIds
    · simp only [if_pos pending, and_self]
    · simp only [if_neg pending, and_self]
  | discarded => exact ⟨rfl, rfl⟩

theorem RunStep.quiet {message : RuntimeMessage} {next : RunState} {events : List EventSpec}
    {work : List PortCall} (run : RunStep config message state events work next)
    (ended : state.status.isTerminal = true) :
    (work = [] ∧ next.adoptedAdviceIds = state.adoptedAdviceIds) ∨
      ∃ advice result, message = .advice advice ∧ Adoptable config state advice result := by
  cases run with
  | adviceConfirmed kind payload adviceId _ live =>
    rw [ended] at live
    cases live
  | segmentStopped kind payload generation _ live =>
    rw [ended] at live
    cases live
  | advice advice result _ own evaluated =>
    by_cases adoptable :
        result.disposition = .autoAdopted ∧ advice.adviceId.str ∉ state.adoptedAdviceIds
    · exact .inr ⟨advice, result, rfl, own, evaluated, adoptable⟩
    · obtain ⟨notAdopted, same⟩ := decideAdvice_other adoptable
      refine .inl ⟨?_, same⟩
      rw [notAdopted, Bool.false_and, Bool.false_and]
      rfl
  | _ => exact .inl ⟨rfl, rfl⟩

theorem adoptable_core (coherent : Coherent config (world.core config)) {snapshot : RuntimeSnapshot}
    (found : world.store.load config.runId = some snapshot)
    (adoptable : Adoptable config snapshot.state advice result) (around : Surroundings) :
    (step config world (.message (.advice advice) around)).core config =
      if writable around world [adviceEvent "advice.adopted" result.reason result.proposalHash] then
        { world.core config with
          persisted := some (snapshot.extend (decideAdvice snapshot.state advice result).next
            [adviceEvent "advice.adopted" result.reason result.proposalHash])
          state := some (decideAdvice snapshot.state advice result).next
          work := (world.core config).work ++
            if advice.kind == .repairDecision && config.repairAdvicePort then
              [.dispatchAdopted advice] else [] }
      else world.core config := by
  have loaded := coherent.loaded_of_found found
  obtain ⟨own, evaluated, auto, unknown⟩ := adoptable
  have decided := decideAdvice_adopted auto unknown
  have status := decideAdvice_status snapshot.state advice result
  have ownNext : (decideAdvice snapshot.state advice result).next.runId = config.runId := by
    rw [decided]
    exact loaded.runId
  have called := commit_then_call_core around loaded.stored loaded.current ownNext status.symm
    [adviceEvent "advice.adopted" result.reason result.proposalHash]
    (advice.kind == .repairDecision && config.repairAdvicePort) (.dispatchAdopted advice) rfl
  rw [← called]
  dsimp only [step]
  rw [turn_core_eq]
  simp [handle, handleAdvice, loaded.current, own, evaluated, decided, World.done, Bool.and_assoc]

theorem step_quiet_iff (coherent : Coherent config (world.core config)) (input : Input) :
    QuietAfterEnd config world input ↔ ¬ LateAdoption config world input := by
  constructor
  · intro quiet late
    unfold LateAdoption at late
    split at late
    · rename_i advice around
      obtain ⟨snapshot, result, found, ended, adoptable, committed⟩ := late
      have handled := adoptable_core coherent found adoptable around
      rw [if_pos committed] at handled
      obtain ⟨_, later, foundLater, same⟩ := quiet snapshot found ended
      have written : (step config world (.message (.advice advice) around)).store.load config.runId =
          _ := congrArg Core.persisted handled
      rw [written] at foundLater
      cases foundLater
      rw [RuntimeSnapshot.extend_state, decideAdvice_adopted adoptable.2.2.1 adoptable.2.2.2] at same
      have length := congrArg List.length same
      simp at length
    · exact late
  · intro notLate snapshot found ended
    have terminal : snapshot.state.status.isTerminal = true := by
      rcases ended with terminal | disabled
      · exact terminal
      · exact coherent.stopped snapshot found (.inl disabled)
    rcases (step_core coherent input).of_persisted found with
      ⟨kept, calm⟩ | ⟨message, around, events, work, next, rfl, run, written, works⟩
    · exact ⟨calm, snapshot, kept, rfl⟩
    · rcases run.quiet terminal with ⟨rfl, same⟩ | ⟨advice, result, rfl, adoptable⟩
      · rw [List.append_nil] at works
        exact ⟨works, _, written, same⟩
      · -- no late adoption is committed, so the commit failed
        have refused : ¬ writable around world
            [adviceEvent "advice.adopted" result.reason result.proposalHash] = true :=
          fun committed => notLate ⟨snapshot, result, found, ended, adoptable, committed⟩
        have handled := adoptable_core coherent found adoptable around
        rw [if_neg refused] at handled
        exact ⟨congrArg Core.work handled, snapshot,
          (congrArg Core.persisted handled).trans found, rfl⟩

/-- After the end of a Run no work is started and no advice adopted, exactly when no
adoptable advice is committed then. -/
theorem quiet_after_end_iff (config : ActorConfig) (world : World) (fresh : Fresh config world)
    (inputs : List Input) :
    Along (step config) (QuietAfterEnd config) world inputs ↔
      Along (step config) (fun reached input => ¬ LateAdoption config reached input) world inputs :=
  along_iff (fun reached => Coherent config (reached.core config))
    (fun _ input coherent _ => step_coherent coherent input)
    (fun _ input coherent => step_quiet_iff coherent input) fresh.coherent inputs

open SampleRun in
theorem quiet_after_end_cancelled :
    Along (step SampleRun.config) (QuietAfterEnd SampleRun.config) start (toCancelled ++ [recover]) :=
  (quiet_after_end_iff SampleRun.config start start_fresh (toCancelled ++ [recover])).mpr
    ⟨id, id, id, trivial⟩

open SampleRun in
/-- A cancelled Run adopts advice and has it dispatched. -/
theorem late_advice_dispatched :
    ((runFrom (step SampleRun.config) start toCancelled).store.load runId).map (·.state.status) =
        some .cancelled ∧
      (runFrom (step SampleRun.config) start
        (toCancelled ++ [.message (.advice repair) calm])).calls.filter PortCall.isWork =
        [.dispatchAdopted repair] ∧
      ¬ Along (step SampleRun.config) (QuietAfterEnd SampleRun.config) start
        (toCancelled ++ [.message (.advice repair) calm]) := by
  have cancelled : ((runFrom (step SampleRun.config) start toCancelled).store.load runId).map
      (·.state.status) = some .cancelled := by decide
  have before : (runFrom (step SampleRun.config) start toCancelled).calls.filter PortCall.isWork =
      [] := by decide
  have after : (runFrom (step SampleRun.config) start
      (toCancelled ++ [.message (.advice repair) calm])).calls.filter PortCall.isWork =
      [.dispatchAdopted repair] := by decide
  refine ⟨cancelled, after, ?_⟩
  intro quiet
  obtain ⟨snapshot, found, status⟩ := Option.map_eq_some_iff.mp cancelled
  obtain ⟨silent, _⟩ := quiet.of_append.2.1 snapshot found (.inl (by rw [status]; rfl))
  rw [runFrom_append] at after
  have empty := (silent.symm.trans after).symm.trans before
  cases empty

end End

end CodeMigrator
