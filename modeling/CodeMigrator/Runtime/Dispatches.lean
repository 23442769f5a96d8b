import CodeMigrator.Runtime.Phases

/-!
# Dispatch acknowledgements

`dispatch_started` and `execution_receipt` of `RunActor` (`runtime/actor.py`) answer their
caller through one attribute of the actor, `_last_dispatch_acceptance`. Here a call is
alone with the actor: it clears the attribute, has its message handled and reads the
attribute again. The results say what a positive answer promises about the store.
-/

namespace CodeMigrator
open Lib

/-- `self._last_dispatch_acceptance = None`. -/
def World.clearAcceptance (world : World) : World :=
  { world with actor := { world.actor with lastDispatchAcceptance := none } }

/-- `self._last_dispatch_acceptance is True`. -/
def World.accepted (world : World) : Bool := world.actor.lastDispatchAcceptance == some true

section Calls

variable (config : ActorConfig) (around : Surroundings) (world : World)

/-- The body that the two calls share. -/
def acknowledge (message : RuntimeMessage) : World × Bool :=
  let handled := turn config around world.clearAcceptance message
  (handled, handled.accepted)

/-- `dispatch_started`. -/
def dispatchStarted (dispatch : Option ActiveDispatch) : World × Bool :=
  match dispatch with
  | none => (world, false)
  | some dispatch =>
    acknowledge config around world (.executionReceipt config.runId dispatch none true)

/-- `execution_receipt`. -/
def executionReceipt (dispatch : ActiveDispatch) (status : String) : World × Bool :=
  acknowledge config around world (.executionReceipt config.runId dispatch (some status) false)

end Calls

/-! ## What an answer promises -/

/-- The dispatch was added to the persisted Run. -/
def DurablyStarted (config : ActorConfig) (before after : World) (dispatch : ActiveDispatch) :
    Prop :=
  ∃ snapshot later, before.store.load config.runId = some snapshot ∧
    after.store.load config.runId = some later ∧
    later.state.activeDispatches = snapshot.state.activeDispatches ++ [dispatch]

/-- The `dispatch.completed` event of a status. -/
def dispatchCompletedEvent (status : String) : EventSpec :=
  ⟨"dispatch.completed", [("status", .str (if status = "" then "UNKNOWN" else status))]⟩

/-- The dispatch was taken out of the persisted Run, with its event in the ledger. -/
def DurablyCompleted (config : ActorConfig) (before after : World) (dispatch : ActiveDispatch)
    (status : String) : Prop :=
  ∃ snapshot later, before.store.load config.runId = some snapshot ∧
    after.store.load config.runId = some later ∧
    dispatch ∈ snapshot.state.activeDispatches ∧
    later.state.activeDispatches = snapshot.state.activeDispatches.filter (· ≠ dispatch) ∧
    later.events = snapshot.events ++
      RuntimeStore.numbered (snapshot.events.length + 1) [dispatchCompletedEvent status]

/-- The persisted dispatches of a Run. -/
def persistedDispatches (config : ActorConfig) (world : World) : Option (List ActiveDispatch) :=
  (world.store.load config.runId).map (·.state.activeDispatches)

/-- `dispatch_started` answers true for a durable start and false for none. -/
def StartAnswered (config : ActorConfig) (around : Surroundings) (world : World)
    (dispatch : ActiveDispatch) : Prop :=
  let called := dispatchStarted config around world (some dispatch)
  if called.2 then DurablyStarted config world called.1 dispatch
  else persistedDispatches config called.1 = persistedDispatches config world

/-- `execution_receipt` answers true for a durable completion and false for none. -/
def ReceiptAnswered (config : ActorConfig) (around : Surroundings) (world : World)
    (dispatch : ActiveDispatch) (status : String) : Prop :=
  let called := executionReceipt config around world dispatch status
  if called.2 then DurablyCompleted config world called.1 dispatch status
  else persistedDispatches config called.1 = persistedDispatches config world

/-- The receipt is one of an active dispatch, and the store refuses to write it. -/
def ReceiptRefused (config : ActorConfig) (around : Surroundings) (world : World)
    (dispatch : ActiveDispatch) (status : String) : Prop :=
  ∃ snapshot, world.store.load config.runId = some snapshot ∧
    snapshot.state.activeDispatches.find? (fun active => dispatchKey active = dispatchKey dispatch) =
      some dispatch ∧
    writable around world [dispatchCompletedEvent status] = false

section Answers

variable {config : ActorConfig} {world : World} (around : Surroundings) {state : RunState}
  {log : List RuntimeEvent}

@[simp] theorem core_clearAcceptance : (world.clearAcceptance).core config = world.core config :=
  rfl

theorem turn_executionReceipt (config : ActorConfig) (around : Surroundings) (world : World)
    (runId : RunId) (dispatch : ActiveDispatch)
    (resultStatus : Option String) (started : Bool) :
    turn config around world (.executionReceipt runId dispatch resultStatus started) =
      (handleExecution config around world runId dispatch resultStatus started).1 := by
  have normal : (handleExecution config around world runId dispatch resultStatus started).2 =
      none := by
    unfold handleExecution startDispatch finishDispatch
    repeat' split
    all_goals rfl
  simp only [turn, handle]
  split
  · rename_i after equal
    rw [equal]
  · rename_i after failure equal
    rw [equal] at normal
    cases normal

theorem load_commit {snapshot : RuntimeSnapshot} (loaded : Loaded config world snapshot)
    {next : RunState} (own : next.runId = config.runId) (events : List EventSpec) :
    (commit around world next events).1.store.load config.runId =
      if writable around world (committedEvents (some snapshot.state) next events) then
        some (snapshot.extend next (committedEvents (some snapshot.state) next events))
      else some snapshot := by
  have persisted := congrArg Core.persisted (commit_core around loaded.stored loaded.current own events).2
  rw [apply_ite Core.persisted] at persisted
  rw [← loaded.stored]
  exact persisted

theorem persistedDispatches_commit {snapshot : RuntimeSnapshot}
    (loaded : Loaded config world snapshot) (events : List EventSpec) :
    persistedDispatches config (commit around world snapshot.state events).1 =
      persistedDispatches config world := by
  unfold persistedDispatches
  rw [load_commit around loaded loaded.runId, loaded.stored]
  split
  · rfl
  · rfl

theorem startDispatch_answered (loaded : Loaded config world ⟨state, log⟩)
    (dispatch : ActiveDispatch) :
    if (startDispatch around world state dispatch).1.accepted then
      DurablyStarted config world (startDispatch around world state dispatch).1 dispatch
    else persistedDispatches config (startDispatch around world state dispatch).1 =
      persistedDispatches config world := by
  simp only [startDispatch]
  by_cases stopped : state.cancelRequested = true ∨ state.newCallsEnabled = false
  · rw [if_pos stopped]
    exact rfl
  rw [if_neg stopped]
  by_cases used : state.activeDispatches.any
      (fun active => dispatchKey active = dispatchKey dispatch) = true
  · rw [if_pos used]
    exact rfl
  rw [if_neg used]
  have own : (startedState state dispatch).runId = config.runId := loaded.runId
  have flag := (commit_core around loaded.stored loaded.current own [dispatchStartedEvent dispatch]).1
  have stored := load_commit around loaded own [dispatchStartedEvent dispatch]
  rw [← flag] at stored
  change if (some (commit around world (startedState state dispatch)
      [dispatchStartedEvent dispatch]).2 == some true) = true then _ else _
  cases committed : (commit around world (startedState state dispatch)
      [dispatchStartedEvent dispatch]).2 with
  | true =>
    rw [committed, if_pos rfl] at stored
    exact ⟨_, _, loaded.stored, stored, rfl⟩
  | false =>
    rw [committed, if_neg (by decide)] at stored
    have same : persistedDispatches config (commit around world (startedState state dispatch)
        [dispatchStartedEvent dispatch]).1 = persistedDispatches config world := by
      rw [persistedDispatches, persistedDispatches, stored, loaded.stored]
    exact same

theorem startAnswered (coherent : Coherent config (world.core config))
    (dispatch : ActiveDispatch) : StartAnswered config around world dispatch := by
  simp only [StartAnswered, dispatchStarted, acknowledge, turn_executionReceipt, handleExecution]
  cases current : world.clearAcceptance.actor.state with
  | none => exact rfl
  | some state =>
    have cleared : Coherent config (world.clearAcceptance.core config) := coherent
    obtain ⟨log, loaded⟩ := cleared.loaded current
    simp only [ne_eq, not_true_eq_false, if_false, if_true]
    by_cases stopped : state.status.isTerminal = true ∨ state.newCallsEnabled = false
    · rw [if_pos stopped]
      exact rfl
    · rw [if_neg stopped]
      exact startDispatch_answered around loaded dispatch

/-- The state that a completed dispatch leaves. -/
def completedState (state : RunState) (dispatch : ActiveDispatch) : RunState :=
  { state with
    activeDispatches := state.activeDispatches.filter (· ≠ dispatch)
    version := state.version + 1 }

theorem finishDispatch_late (loaded : Loaded config world ⟨state, log⟩) {dispatch : ActiveDispatch}
    (late : state.activeDispatches.find?
      (fun active => dispatchKey active = dispatchKey dispatch) ≠ some dispatch)
    (resultStatus : Option String) :
    (finishDispatch around world state dispatch resultStatus).1.accepted = false ∧
      persistedDispatches config (finishDispatch around world state dispatch resultStatus).1 =
        persistedDispatches config world := by
  simp only [finishDispatch, if_pos late]
  exact ⟨rfl, persistedDispatches_commit around loaded _⟩

/-- The answer of `_finish_dispatch` to the result of an active dispatch: it is true
whether or not the store has written the completion. -/
theorem finishDispatch_active (loaded : Loaded config world ⟨state, log⟩)
    {dispatch : ActiveDispatch}
    (active : state.activeDispatches.find?
      (fun active => dispatchKey active = dispatchKey dispatch) = some dispatch) (status : String) :
    (finishDispatch around world state dispatch (some status)).1.accepted = true ∧
      (finishDispatch around world state dispatch (some status)).1.store.load config.runId =
        if writable around world [dispatchCompletedEvent status] then
          some (RuntimeSnapshot.extend ⟨state, log⟩ (completedState state dispatch)
            [dispatchCompletedEvent status])
        else some ⟨state, log⟩ := by
  have found : ¬ state.activeDispatches.find?
      (fun active => dispatchKey active = dispatchKey dispatch) ≠ some dispatch := not_not.mpr active
  simp only [finishDispatch, if_neg found]
  have own : (completedState state dispatch).runId = config.runId := loaded.runId
  have same : state.status = (completedState state dispatch).status := rfl
  have written := load_commit around loaded own [dispatchCompletedEvent status]
  rw [committedEvents_same _ same] at written
  exact ⟨rfl, written⟩

/-- `execution_receipt` answers by what the store has exactly when the store does not
refuse the receipt of an active dispatch. -/
theorem receiptAnswered_iff (coherent : Coherent config (world.core config))
    (dispatch : ActiveDispatch) (status : String) :
    ReceiptAnswered config around world dispatch status ↔
      ¬ ReceiptRefused config around world dispatch status := by
  simp only [ReceiptAnswered, executionReceipt, acknowledge, turn_executionReceipt, handleExecution]
  cases current : world.clearAcceptance.actor.state with
  | none =>
    have absent := coherent.absent current
    refine ⟨?_, fun _ => rfl⟩
    rintro - ⟨snapshot, found, -⟩
    rw [absent] at found
    cases found
  | some state =>
    have cleared : Coherent config (world.clearAcceptance.core config) := coherent
    obtain ⟨log, loaded⟩ := cleared.loaded current
    have stored : world.store.load config.runId = some ⟨state, log⟩ := loaded.stored
    simp only [ne_eq, not_true_eq_false, if_false, Bool.false_eq_true]
    by_cases active : state.activeDispatches.find?
        (fun active => dispatchKey active = dispatchKey dispatch) = some dispatch
    · obtain ⟨accepted, written⟩ := finishDispatch_active around loaded active status
      rw [if_pos accepted]
      constructor
      · rintro ⟨snapshot, later, found, foundLater, member, removed, -⟩ ⟨_, same, -, refused⟩
        rw [stored] at found same
        cases found
        have refused : writable around world.clearAcceptance [dispatchCompletedEvent status] =
            false := refused
        rw [refused, if_neg (by decide)] at written
        rw [written] at foundLater
        cases foundLater
        rw [removed] at member
        simp at member
      · intro notRefused
        have committed : writable around world.clearAcceptance [dispatchCompletedEvent status] =
            true := by
          by_contra refused
          exact notRefused ⟨_, stored, active, Bool.not_eq_true _ ▸ refused⟩
        rw [committed, if_pos rfl] at written
        exact ⟨_, _, stored, written, List.mem_of_find?_eq_some active, rfl, rfl⟩
    · obtain ⟨refused, same⟩ := finishDispatch_late around loaded active (some status)
      rw [if_neg (by rw [refused]; decide)]
      refine ⟨?_, fun _ => same⟩
      rintro - ⟨snapshot, found, matching, -⟩
      rw [stored] at found
      cases found
      exact active matching

end Answers

/-- In every state that a Run can reach, `dispatch_started` and `execution_receipt` answer
true for what the store has written and false for what it has not, exactly when the
store does not refuse the receipt of an active dispatch. -/
theorem dispatch_answers_iff (config : ActorConfig) (world : World) (fresh : Fresh config world)
    (inputs : List Input) (around : Surroundings) (dispatch : ActiveDispatch) (status : String) :
    (StartAnswered config around (runFrom (step config) world inputs) dispatch ∧
        ReceiptAnswered config around (runFrom (step config) world inputs) dispatch status) ↔
      ¬ ReceiptRefused config around (runFrom (step config) world inputs) dispatch status := by
  have coherent := fresh.coherent_after inputs
  rw [receiptAnswered_iff around coherent dispatch status]
  exact ⟨And.right, fun kept => ⟨startAnswered around coherent dispatch, kept⟩⟩

namespace SampleRun

/-- A Run with one active dispatch. -/
def toDispatched : List Input := [.message (.create runId createRun none) calm, lateDispatch]

end SampleRun

open SampleRun in
theorem dispatch_answers_written :
    ReceiptAnswered config calm (runFrom (step config) start toDispatched) dispatch "PASSED" := by
  refine ((dispatch_answers_iff config start start_fresh toDispatched calm dispatch "PASSED").mpr
    ?_).2
  rintro ⟨snapshot, -, -, refused⟩
  have writes : writable calm (runFrom (step config) start toDispatched)
      [dispatchCompletedEvent "PASSED"] = true := by decide
  rw [writes] at refused
  cases refused

open SampleRun in
/-- A receipt that the store refuses is acknowledged, and the dispatch stays active. -/
theorem refused_receipt_acknowledged :
    (executionReceipt config calm (runFrom (step config) start (toDispatched ++ [.failNextCommit]))
        dispatch "PASSED").2 = true ∧
      persistedDispatches config (executionReceipt config calm
        (runFrom (step config) start (toDispatched ++ [.failNextCommit])) dispatch "PASSED").1 =
        some [dispatch] ∧
      ¬ ReceiptAnswered config calm
        (runFrom (step config) start (toDispatched ++ [.failNextCommit])) dispatch "PASSED" := by
  have answer : (executionReceipt config calm
      (runFrom (step config) start (toDispatched ++ [.failNextCommit])) dispatch "PASSED").2 =
      true := by decide
  have kept : persistedDispatches config (executionReceipt config calm
      (runFrom (step config) start (toDispatched ++ [.failNextCommit])) dispatch "PASSED").1 =
      some [dispatch] := by decide
  refine ⟨answer, kept, ?_⟩
  intro answered
  simp only [ReceiptAnswered, answer, if_true] at answered
  obtain ⟨snapshot, later, -, foundLater, -, removed, -⟩ := answered
  rw [persistedDispatches, foundLater, Option.map_some, Option.some.injEq, removed] at kept
  have member : dispatch ∈ snapshot.state.activeDispatches.filter (· ≠ dispatch) := by
    rw [kept]
    exact List.mem_singleton_self _
  simp at member

end CodeMigrator
