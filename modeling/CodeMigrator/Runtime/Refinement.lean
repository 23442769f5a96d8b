import CodeMigrator.Lib.Sequence
import CodeMigrator.Runtime.ReceiptKeys

/-!
# What a handler does to the Run

`Effect` says what a handler of the actor can do to the Run, from any world: it leaves the
Run, adopts what the store has, or commits a step of the state that the actor has. One
lemma for each handler; a handler that commits is traced back to what `commit`,
`commit_agent_run_receipt` or `commit_integration_receipt` wrote. The refinement of the
transition system, the standing of the Run and the growth of its ledger all follow from
the effect.
-/

namespace CodeMigrator
open Lib

section Frame

variable (config : ActorConfig)

@[simp] theorem core_setLastError (world : World) (failure : RuntimeFailure) :
    (world.setLastError failure).core config = world.core config := rfl

@[simp] theorem core_setAcceptance (world : World) (accepted : Bool) :
    (world.setAcceptance accepted).core config = world.core config := rfl

@[simp] theorem core_setCreateReceipt (world : World) (receipt : Option RunCreatedReceipt) :
    (world.setCreateReceipt receipt).core config = world.core config := rfl

@[simp] theorem core_reply (world : World) (response : Nat)
    (outcome : Except RuntimeFailure Reply) :
    (world.reply response outcome).core config = world.core config := by
  unfold World.reply
  split
  · rfl
  · rfl

@[simp] theorem core_replyTo (world : World) (response : Option Nat)
    (outcome : Except RuntimeFailure Reply) :
    (world.replyTo response outcome).core config = world.core config := by
  cases response with
  | none => rfl
  | some response => exact core_reply config world response outcome

@[simp] theorem core_replyReceipt (world : World) (command : WorkflowCommandMessage)
    (sequence : Nat) : (replyReceipt config world command sequence).1.core config =
      world.core config := by
  unfold replyReceipt
  split
  · rfl
  · exact core_reply config world _ _

theorem core_finishExecutionRound (world : World) (logicalKey : String)
    (outcome : Except RuntimeFailure ExecuteRoundResult) :
    (finishExecutionRound world logicalKey outcome).core config = world.core config := by
  have answers : ∀ (responses : List Nat) (start : World),
      (responses.foldl (fun world response => world.reply response (outcome.map .roundResult))
        start).core config = start.core config := by
    intro responses
    induction responses with
    | nil => exact fun start => rfl
    | cons response responses ih =>
      intro start
      rw [List.foldl_cons, ih, core_reply]
  exact answers _ _

theorem core_report (world : World) (message : RuntimeMessage) (failure : RuntimeFailure) :
    (report world message failure).core config = world.core config := by
  unfold report
  cases message with
  | workflow command => simp
  | cancel expectedVersion response => simp
  | executionRoundFinished logicalKey decision error => simp [core_finishExecutionRound]
  | _ => simp

theorem core_callPort (world : World) (around : Surroundings) (present : Bool) (call : PortCall) :
    (world.callPort around present call).core config =
      { world.core config with
        work := (world.core config).work ++
          if present && call.isWork then [call] else [] } := by
  cases present with
  | false => simp [World.callPort]
  | true =>
    have added : ({ world with calls := world.calls ++ [call] } : World).core config =
        { world.core config with
          work := (world.core config).work ++ if call.isWork then [call] else [] } := by
      simp only [World.core, List.filter_append]
      cases kind : call.isWork with
      | false => simp [kind]
      | true => simp [kind]
    unfold World.callPort
    by_cases raises : around.portRaises call
    · simpa [raises] using added
    · simpa [raises] using added

theorem core_callPort_other (world : World) (around : Surroundings) (present : Bool)
    {call : PortCall} (other : call.isWork = false) :
    (world.callPort around present call).core config = world.core config := by
  rw [core_callPort, other, Bool.and_false]
  simp

theorem core_setStore {world : World} {store : RuntimeStore}
    (snapshots : store.snapshots = world.store.snapshots)
    (agentRuns : store.agentRuns = world.store.agentRuns)
    (agentReceipts : store.agentReceipts = world.store.agentReceipts) :
    (world.setStore store).core config = world.core config := by
  simp only [World.core, World.setStore, RuntimeStore.load, snapshots, agentRuns, agentReceipts]

end Frame

/-! ## Commits -/

section Commits

variable {config : ActorConfig} {around : Surroundings} {world : World} {snapshot : RuntimeSnapshot}
  {state next : RunState} {message : RuntimeMessage} {events : List EventSpec}

/-- The actor works on the Run that the store has. -/
structure Loaded (config : ActorConfig) (world : World) (snapshot : RuntimeSnapshot) : Prop where
  stored : world.store.load config.runId = some snapshot
  current : world.actor.state = some snapshot.state
  runId : snapshot.state.runId = config.runId

theorem Loaded.callPort (loaded : Loaded config world snapshot) (around : Surroundings)
    (present : Bool) (call : PortCall) :
    Loaded config (world.callPort around present call) snapshot := by
  unfold World.callPort
  split
  · dsimp only
    split
    · exact ⟨loaded.stored, loaded.current, loaded.runId⟩
    · exact ⟨loaded.stored, loaded.current, loaded.runId⟩
  · exact loaded

theorem Coherent.loaded (coherent : Coherent config (world.core config))
    (current : world.actor.state = some state) : ∃ log, Loaded config world ⟨state, log⟩ := by
  have synced : world.actor.state = (world.store.load config.runId).map (·.state) :=
    coherent.synced
  rw [current] at synced
  obtain ⟨snapshot, stored, same⟩ := Option.map_eq_some_iff.mp synced.symm
  subst same
  exact ⟨snapshot.events, stored, current, coherent.runId snapshot stored⟩

theorem Coherent.loaded_of_found (coherent : Coherent config (world.core config))
    (found : world.store.load config.runId = some snapshot) : Loaded config world snapshot := by
  have synced : world.actor.state = (world.store.load config.runId).map (·.state) :=
    coherent.synced
  rw [found, Option.map_some] at synced
  exact ⟨found, synced, coherent.runId snapshot found⟩

theorem Coherent.absent (coherent : Coherent config (world.core config))
    (none_ : world.actor.state = none) : world.store.load config.runId = none := by
  have synced : world.actor.state = (world.store.load config.runId).map (·.state) :=
    coherent.synced
  rw [none_] at synced
  exact Option.map_eq_none_iff.mp synced.symm

theorem RuntimeStore.commit_eq {store : RuntimeStore}
    (stored : store.load state.runId = some snapshot) (rejects : EventData → Bool)
    (events : List EventSpec) :
    store.commit rejects state events =
      if store.failNext then
        ({ store with failNext := false }, .error (.storeCommitError "injected commit failure"))
      else if events.any (fun event => rejects event.data) then
        (store, .error (.storeCommitError "observation rejected"))
      else
        ({ store with
            snapshots := store.snapshots.set state.runId (snapshot.extend state events)
            commitCount := store.commitCount + 1 }, .ok (snapshot.extend state events)) := by
  simp only [RuntimeStore.commit, stored, Option.isNone_some, Bool.false_eq_true, if_false,
    RuntimeStore.write, RuntimeStore.fail, RuntimeStore.materialize, Option.map_some,
    Option.getD_some]
  by_cases fails : store.failNext = true
  · rw [if_pos fails, if_pos fails]
  · rw [if_neg fails, if_neg fails]
    by_cases rejected : events.any (fun event => rejects event.data) = true
    · simp only [if_pos rejected]
    · simp only [if_neg rejected, RuntimeSnapshot.extend]

theorem RuntimeStore.create_eq {store : RuntimeStore} (absent : store.load state.runId = none)
    (rejects : EventData → Bool) (events : List EventSpec) (transaction : Bool) :
    store.create rejects state events transaction =
      if store.failNext then
        ({ store with failNext := false }, .error (.storeCommitError "injected commit failure"))
      else if events.any (fun event => rejects event.data) then
        (store, .error (.storeCommitError "observation rejected"))
      else
        ({ store with
            snapshots := store.snapshots.set state.runId ⟨state, numbered 1 events⟩
            commitCount := store.commitCount + 1 }, .ok ⟨state, numbered 1 events⟩) := by
  simp only [RuntimeStore.create, absent, Option.isSome_none, Bool.false_eq_true, and_false,
    if_false, RuntimeStore.write, RuntimeStore.fail, RuntimeStore.materialize, Option.map_none,
    Option.getD_none, List.length_nil, Nat.zero_add, List.nil_append]
  by_cases fails : store.failNext = true
  · rw [if_pos fails, if_pos fails]
  · rw [if_neg fails, if_neg fails]
    by_cases rejected : events.any (fun event => rejects event.data) = true
    · simp only [if_pos rejected]
    · simp only [if_neg rejected]

/-- The store takes the next write of the events. -/
def writable (around : Surroundings) (world : World) (events : List EventSpec) : Bool :=
  !world.store.failNext && !events.any (fun event => around.rejects event.data)

variable (around) in
theorem commit_core (stored : world.store.load config.runId = some snapshot)
    (current : world.actor.state = some state) (own : next.runId = config.runId)
    (events : List EventSpec) :
    (commit around world next events).2 =
        writable around world (committedEvents (some state) next events) ∧
      (commit around world next events).1.core config =
        if writable around world (committedEvents (some state) next events) then
          { world.core config with
            persisted := some (snapshot.extend next (committedEvents (some state) next events))
            state := some next }
        else world.core config := by
  have stored : world.store.load next.runId = some snapshot := by rw [own, stored]
  simp only [commit, current, RuntimeStore.commit_eq stored, writable]
  by_cases fails : world.store.failNext = true
  · simp only [fails, if_true, Bool.not_true, Bool.false_and, Bool.false_eq_true, if_false,
      true_and]
    rfl
  · rw [Bool.not_eq_true] at fails
    simp only [fails, Bool.false_eq_true, if_false, Bool.not_false, Bool.true_and]
    cases rejected : (committedEvents (some state) next events).any
        (fun event => around.rejects event.data) with
    | true => exact ⟨rfl, rfl⟩
    | false =>
      refine ⟨rfl, ?_⟩
      simp [World.core, World.setState, World.setStore, RuntimeStore.load, own,
        RuntimeSnapshot.extend]

/-- Without a Run in the store there is nothing to write over. -/
theorem commit_absent (missing : world.store.load config.runId = none)
    (own : next.runId = config.runId) (events : List EventSpec) :
    (commit around world next events).2 = false ∧
      (commit around world next events).1.core config = world.core config := by
  simp only [commit, RuntimeStore.commit, own, missing, Option.isNone_none, if_true,
    RuntimeStore.fail]
  exact ⟨trivial, rfl⟩

theorem writable_healthy (taken : writable around world events = true) :
    world.store.failNext = false := by
  simp only [writable, Bool.and_eq_true, Bool.not_eq_true'] at taken
  exact taken.1

theorem committedEvents_same (events : List EventSpec) (same : state.status = next.status) :
    committedEvents (some state) next events = events := by
  simp only [committedEvents, same, ne_eq, not_true_eq_false, if_false]

theorem committedEvents_moved (events : List EventSpec) (moved : state.status ≠ next.status) :
    committedEvents (some state) next events = events ++ [runStatusChangedEvent next] :=
  if_pos moved

theorem commit_then_call_core (around : Surroundings)
    (stored : world.store.load config.runId = some snapshot)
    (current : world.actor.state = some state) (own : next.runId = config.runId)
    (same : state.status = next.status) (events : List EventSpec) (present : Bool)
    (call : PortCall) (isWork : call.isWork = true) :
    ((commit around world next events).1.callPort around
        ((commit around world next events).2 && present) call).core config =
      if writable around world events then
        { world.core config with
          persisted := some (snapshot.extend next events)
          state := some next
          work := (world.core config).work ++ if present then [call] else [] }
      else world.core config := by
  obtain ⟨flag, after⟩ := commit_core around stored current own events
  rw [committedEvents_same events same] at flag after
  rw [core_callPort, flag, after, isWork, Bool.and_true]
  cases writable around world events with
  | false => simp only [Bool.false_and, Bool.false_eq_true, if_false, List.append_nil]
  | true => simp only [Bool.true_and, if_true]

end Commits

/-! ## Effects -/

/-- The message makes the actor write the end of its Run: a cancellation of the current
version, a budget that is exhausted, or the report of a Run that is reporting. -/
def EndsRun (config : ActorConfig) (world : World) : RuntimeMessage → Prop
  | .cancel expectedVersion _ => ∃ state, world.actor.state = some state ∧
      expectedVersion = state.version ∧ state.status.isTerminal = false
  | .budget inputTokens outputTokens costMicros => ∃ state evaluation,
      world.actor.state = some state ∧ state.status.isTerminal = false ∧
      evaluateBudget state.budgetUsage config.budgetLimits inputTokens outputTokens costMicros
        state.budgetWarningEmitted = some evaluation ∧ evaluation.exhausted = true
  | .workflow command => ∃ state result, world.actor.state = some state ∧
      state.status = .reporting ∧ command.payload = .report result ∧
      command.runId = config.runId ∧
      eventForReceipt (world.store.load config.runId) command.logicalKey = none
  | _ => False

/-- The command creates a Run that the database has, which the actor does not know of: the
`INSERT` violates the primary key. -/
def createConflicts (config : ActorConfig) (world : World) : RuntimeMessage → Bool
  | .create runId _ _ =>
    runId = config.runId ∧ world.actor.state = none ∧ (world.store.load config.runId).isSome
  | _ => false

/-- The actor works on a state of its own Run; the database may have another one. -/
def OwnState (config : ActorConfig) (world : World) : Prop :=
  ∀ state, world.actor.state = some state → state.runId = config.runId

/-- What a handler of the message can do to the Run. The store refuses the write or takes
it; only a message that `ends` the Run moves it to a terminal status, and what is written
has receipt keys as `keys` says. A receipt that is there already is only taken up by a
state that the store does not have. -/
inductive Effect (config : ActorConfig) (message : RuntimeMessage) (refuses : Bool) (ends : Prop)
    (keys : List String → Prop) (core : Core) : Core → Prop where
  | stays : Effect config message refuses ends keys core core
  | adopts (snapshot : RuntimeSnapshot) (found : core.persisted = some snapshot) :
      Effect config message refuses ends keys core { core with state := some snapshot.state }
  | replays (state next : RunState) (events : List EventSpec) (current : core.state = some state)
      (run : RunStep config message state events [] next)
      (live : state.status.isTerminal = false) (alive : next.status.isTerminal = false)
      (diverged : ¬ Coherent config core) :
      Effect config message refuses ends keys core { core with state := some next }
  | creates (createRun : CreateRun) (healthy : refuses = false) (absent : core.persisted = none)
      (unknown : core.state = none) :
      Effect config message refuses ends keys core
        { core with
          persisted := some (createdSnapshot config createRun)
          state := some (createdState config.runId createRun) }
  | commits (state next : RunState) (snapshot : RuntimeSnapshot) (events : List EventSpec)
      (work : List PortCall) (healthy : refuses = false) (current : core.state = some state)
      (found : core.persisted = some snapshot)
      (run : RunStep config message state events work next)
      (ending : next.status.isTerminal = true → state.status.isTerminal = true ∨ ends)
      (keyed : keys (specKeys events)) :
      Effect config message refuses ends keys core
        { core with
          persisted := some (snapshot.extend next events)
          state := some next
          work := core.work ++ work }
  | owns (state next : RunState) (snapshot : RuntimeSnapshot) (events : List EventSpec)
      (record before : AgentRun) (receipt : AgentRunReceipt) (terminalEvent : EventSpec)
      (healthy : refuses = false) (current : core.state = some state)
      (found : core.persisted = some snapshot)
      (run : RunStep config message state events [] next) (executing : next.status = .executing)
      (registered : core.agentRuns.get? record.agentRunId = some before)
      (spec : agentRunTerminalSpec record receipt = some terminalEvent)
      (announced : terminalEvent ∈ events) (keyed : keys (specKeys events)) :
      Effect config message refuses ends keys core
        { core with
          persisted := some (snapshot.extend next events)
          state := some next
          agentRuns := core.agentRuns.set record.agentRunId record
          agentReceipts := core.agentReceipts.set record.agentRunId receipt }

/-- What a handler does, from the world to the world after it. -/
def Does (config : ActorConfig) (message : RuntimeMessage) (ends : Prop)
    (keys : List String → Prop) (world after : World) : Prop :=
  Effect config message world.store.failNext ends keys (world.core config) (after.core config)

/-- Any receipt keys. -/
def AnyKeys (_ : List String) : Prop := True

section Effects

variable {config : ActorConfig} {world : World} {message : RuntimeMessage} {ends : Prop}
  {keys : List String → Prop} {state next : RunState} {events : List EventSpec}

theorem Does.of_core {after : World} (same : after.core config = world.core config) :
    Does config message ends keys world after := by
  unfold Does
  rw [same]
  exact .stays

/-- A step of a state that the store has is a step of the transition system. -/
theorem Does.coreStep {after : World} (does : Does config message ends keys world after)
    (coherent : Coherent config (world.core config)) (around : Surroundings) :
    CoreStep config (.message message around) (world.core config) (after.core config) := by
  have stored : ∀ {state : RunState} {snapshot : RuntimeSnapshot},
      (world.core config).state = some state → (world.core config).persisted = some snapshot →
      state = snapshot.state := by
    intro state snapshot current found
    have synced := coherent.synced
    rw [current, found, Option.map_some] at synced
    exact Option.some.inj synced
  unfold Does at does
  generalize after.core config = reached at does ⊢
  cases does with
  | stays => exact .stay _ _
  | adopts snapshot found =>
    have same : { world.core config with state := some snapshot.state } = world.core config := by
      have synced := coherent.synced
      rw [found, Option.map_some] at synced
      rw [← synced]
    rw [same]
    exact .stay _ _
  | replays state next events current run live alive diverged => exact absurd coherent diverged
  | creates createRun healthy absent unknown => exact .create _ _ createRun absent
  | commits state next snapshot events work healthy current found run =>
    rw [stored current found] at run
    exact .commit message around _ snapshot events work next found run
  | owns state next snapshot events record before receipt terminalEvent healthy current found run
      executing registered spec announced =>
    rw [stored current found] at run
    exact .own message around _ snapshot events next record before receipt terminalEvent found run
      executing registered spec announced

variable (around : Surroundings)

theorem commit_does (current : world.actor.state = some state) (own : state.runId = config.runId)
    (run : RunStep config message state (committedEvents (some state) next events) [] next)
    (ending : next.status.isTerminal = true → state.status.isTerminal = true ∨ ends)
    (keyed : keys (specKeys events)) :
    Does config message ends keys world (commit around world next events).1 := by
  have ownNext : next.runId = config.runId := run.runId_eq.trans own
  cases stored : world.store.load config.runId with
  | none => exact .of_core (commit_absent stored ownNext events).2
  | some snapshot =>
    unfold Does
    rw [(commit_core around stored current ownNext events).2]
    split
    · rename_i taken
      have effect : Effect config message world.store.failNext ends keys (world.core config) _ :=
        .commits state next snapshot _ [] (writable_healthy taken) current stored run ending
          ((specKeys_committedEvents (some state) next events).symm ▸ keyed)
      rw [List.append_nil] at effect
      exact effect
    · exact .stays

theorem commit_does_same (current : world.actor.state = some state)
    (own : state.runId = config.runId) (same : state.status = next.status)
    (run : RunStep config message state events [] next) (keyed : keys (specKeys events)) :
    Does config message ends keys world (commit around world next events).1 := by
  refine commit_does around current own ?_ (fun terminal => .inl (same ▸ terminal)) keyed
  rw [committedEvents_same events same]
  exact run

theorem commit_then_call_does (current : world.actor.state = some state)
    (own : state.runId = config.runId) {present : Bool} {call : PortCall}
    (isWork : call.isWork = true) (same : state.status = next.status)
    (run : RunStep config message state events (if present then [call] else []) next)
    (keyed : keys (specKeys events)) :
    Does config message ends keys world ((commit around world next events).1.callPort around
      ((commit around world next events).2 && present) call) := by
  have ownNext : next.runId = config.runId := run.runId_eq.trans own
  cases stored : world.store.load config.runId with
  | none =>
    refine .of_core ?_
    rw [(commit_absent stored ownNext events).1, Bool.false_and]
    exact (commit_absent stored ownNext events).2
  | some snapshot =>
    unfold Does
    rw [commit_then_call_core around stored current ownNext same events present call isWork]
    split
    · rename_i taken
      exact .commits state next snapshot events _ (writable_healthy taken) current stored run
        (fun terminal => .inl (same ▸ terminal)) keyed
    · exact .stays

end Effects

/-! ## Commands of the API -/

section Handlers

variable {config : ActorConfig} {world : World} (around : Surroundings) {state : RunState}
  {ends : Prop}

theorem core_created {createRun : CreateRun} (receipt : Option RunCreatedReceipt) :
    (((world.setStore { world.store with
        snapshots := world.store.snapshots.set config.runId (createdSnapshot config createRun)
        commitCount := world.store.commitCount + 1 }).setState
      (some (createdState config.runId createRun))).setCreateReceipt receipt).core config =
      { world.core config with
        persisted := some (createdSnapshot config createRun)
        state := some (createdState config.runId createRun) } := by
  simp [World.core, World.setCreateReceipt, World.setState, World.setStore, RuntimeStore.load]

theorem core_rolledBack (absent : world.store.load config.runId = none)
    (none_ : world.actor.state = none) (created : World)
    (agentRuns : created.store.agentRuns = world.store.agentRuns)
    (agentReceipts : created.store.agentReceipts = world.store.agentReceipts)
    (calls : created.calls = world.calls) :
    (rollbackCreate config created).core config = world.core config := by
  simp only [World.core, rollbackCreate, World.setCreateReceipt, World.setState, World.setStore,
    RuntimeStore.load, Dict.get?_erase_self, agentRuns, agentReceipts, calls, none_]
  rw [← absent]
  rfl

theorem handleCreate_does (runId : RunId) (createRun : CreateRun)
    (transaction : Option TransactionOutcome)
    (free : createConflicts config world (.create runId createRun transaction) = false) :
    Does config (.create runId createRun transaction) ends AnyKeys world
      (handleCreate config around world runId createRun transaction).1 := by
  unfold handleCreate
  by_cases foreign : runId ≠ config.runId
  · rw [if_pos foreign]
    exact .of_core rfl
  rw [if_neg foreign]
  cases current : world.actor.state with
  | some state =>
    by_cases differs : state.createRequest ≠ some createRun
    · simp only [if_pos differs]
      exact .of_core rfl
    simp only [if_neg differs]
    cases runCreatedReceipt (world.store.load config.runId) config.runId with
    | error failure => exact .of_core rfl
    | ok receipt => exact .of_core rfl
  | none =>
    have absent : world.store.load config.runId = none := by
      simpa [createConflicts, not_not.mp foreign, current] using free
    have absentState : world.store.load (createdState config.runId createRun).runId = none :=
      absent
    simp only [RuntimeStore.create_eq absentState]
    by_cases fails : world.store.failNext = true
    · simp only [if_pos fails]
      exact .of_core rfl
    by_cases rejected : (createdEvents (createdState config.runId createRun)).any
        (fun event => around.rejects event.data) = true
    · simp only [if_neg fails, if_pos rejected]
      exact .of_core rfl
    simp only [if_neg fails, if_neg rejected]
    have created : Effect config (.create runId createRun transaction) world.store.failNext ends
        AnyKeys (world.core config) _ :=
      .creates createRun (Bool.not_eq_true _ ▸ fails) absent current
    split
    · rw [← core_created none] at created
      exact created
    · rename_i receipt _
      split
      · refine .of_core (core_rolledBack absent current _ ?_ ?_ ?_)
        · rfl
        · rfl
        · rfl
      · rw [← core_created receipt] at created
        exact created

theorem handleCancel_does (own : OwnState config world) (expectedVersion : Int)
    (response : Option Nat) :
    Does config (.cancel expectedVersion response)
      (EndsRun config world (.cancel expectedVersion response)) AnyKeys world
      (handleCancel config around world expectedVersion response).1 := by
  unfold handleCancel
  cases current : world.actor.state with
  | none => exact .of_core (core_replyTo config world _ _)
  | some state =>
    by_cases stale : expectedVersion ≠ state.version
    · simp only [if_pos stale]
      exact .of_core (core_replyTo config world _ _)
    by_cases terminal : state.status.isTerminal = true
    · simp only [if_neg stale, if_pos terminal]
      exact .of_core (core_replyTo config world _ _)
    simp only [if_neg stale, if_neg terminal]
    rw [Bool.not_eq_true] at terminal
    have ending : EndsRun config world (.cancel expectedVersion response) :=
      ⟨state, current, not_not.mp stale, terminal⟩
    have does : Does config (.cancel expectedVersion response) _ AnyKeys world _ :=
      commit_does around current (own state current)
        (.cancel expectedVersion response state terminal (not_not.mp stale))
        (fun _ => .inr ending) trivial
    split
    · rename_i after committed
      rw [committed] at does
      unfold Does at does ⊢
      simp only [World.done, core_replyTo]
      rw [core_callPort_other config _ around _ rfl]
      simpa [World.core, PortCall.isWork, apply_ite] using does
    · rename_i after failed
      rw [failed] at does
      unfold Does at does ⊢
      simpa [World.done] using does

theorem handleSessionInput_does (own : OwnState config world) (kind : String)
    (payload : EventData) :
    Does config (.sessionInput kind payload) ends AnyKeys world
      (handleSessionInput config around world kind payload).1 := by
  unfold handleSessionInput
  cases current : world.actor.state with
  | none => exact .of_core rfl
  | some state =>
    have ownRun := own state current
    by_cases terminal : state.status.isTerminal = true
    · simp only [if_pos terminal]
      exact .of_core rfl
    have live : state.status.isTerminal = false := Bool.not_eq_true _ ▸ terminal
    simp only [if_neg terminal]
    by_cases confirmation : kind = "confirm_advice"
    · simp only [if_pos confirmation, handleAdviceConfirmation]
      split
      · rename_i unknown
        exact commit_does_same around current ownRun rfl
          (.confirmationRejected kind payload _ state live unknown) trivial
      · rename_i pending
        exact commit_does_same around current ownRun rfl
          (.adviceConfirmed kind payload _ state live (not_not.mp pending)) trivial
    by_cases segment : kind = "segment_stopped"
    · simp only [if_neg confirmation, if_pos segment, handleSegmentStopped]
      cases valid : segmentGeneration payload with
      | none =>
        exact commit_does_same around current ownRun rfl
          (.invalidSegment kind payload state live) trivial
      | some generation =>
        simp only [Bool.and_assoc]
        exact commit_then_call_does around current ownRun rfl rfl
          (.segmentStopped kind payload generation state live valid) trivial
    simp only [if_neg confirmation, if_neg segment]
    exact commit_does_same around current ownRun rfl (.sessionInput kind payload state live) trivial

/-! ## Dispatches, budget, recovery and advice -/

theorem handleExecution_does (own : OwnState config world) (runId : RunId)
    (dispatch : ActiveDispatch) (resultStatus : Option String) (started : Bool) :
    Does config (.executionReceipt runId dispatch resultStatus started) ends (· = []) world
      (handleExecution config around world runId dispatch resultStatus started).1 := by
  unfold handleExecution
  cases current : world.actor.state with
  | none => exact .of_core rfl
  | some state =>
    have ownRun := own state current
    by_cases foreign : runId ≠ config.runId
    · simp only [if_pos foreign]
      cases started with
      | true => exact .of_core rfl
      | false =>
        exact commit_does_same around current ownRun rfl
          (.lateDispatchResult runId dispatch resultStatus _ state) rfl
    have same : runId = config.runId := not_not.mp foreign
    subst same
    simp only [if_neg foreign]
    cases started with
    | false =>
      simp only [Bool.false_eq_true, if_false, finishDispatch]
      split
      · exact commit_does_same around current ownRun rfl
          (.lateDispatchResult config.runId dispatch resultStatus _ state) rfl
      · rename_i found
        have active : dispatch ∈ state.activeDispatches :=
          List.mem_of_find?_eq_some (not_not.mp found)
        exact commit_does_same around current ownRun rfl
          (.dispatchCompleted dispatch resultStatus _ state active) rfl
    | true =>
      by_cases stopped : state.status.isTerminal = true ∨ state.newCallsEnabled = false
      · simp only [if_true, if_pos stopped]
        exact .of_core rfl
      simp only [if_true, if_neg stopped, startDispatch]
      rw [not_or, Bool.not_eq_true, Bool.not_eq_false] at stopped
      split
      · exact .of_core rfl
      split
      · exact .of_core rfl
      · rename_i unused
        exact commit_does around current ownRun
          (.dispatchStarted dispatch resultStatus state stopped.1 stopped.2
            (Bool.not_eq_true _ ▸ unused)) (fun terminal => by cases terminal) rfl

theorem failNext_callPort (present : Bool) (call : PortCall) :
    (world.callPort around present call).store.failNext = world.store.failNext := by
  unfold World.callPort
  repeat' split
  all_goals rfl

theorem state_callPort (present : Bool) (call : PortCall) :
    (world.callPort around present call).actor.state = world.actor.state := by
  unfold World.callPort
  repeat' split
  all_goals rfl

theorem handleBudget_does (own : OwnState config world)
    (inputTokens outputTokens costMicros : Int) :
    Does config (.budget inputTokens outputTokens costMicros)
      (EndsRun config world (.budget inputTokens outputTokens costMicros)) AnyKeys world
      (handleBudget config around world inputTokens outputTokens costMicros).1 := by
  unfold handleBudget
  cases current : world.actor.state with
  | none => exact .of_core rfl
  | some state =>
    have ownRun := own state current
    by_cases terminal : state.status.isTerminal = true
    · simp only [if_pos terminal]
      exact .of_core rfl
    have live : state.status.isTerminal = false := Bool.not_eq_true _ ▸ terminal
    simp only [if_neg terminal]
    split
    · exact .of_core rfl
    rename_i evaluation evaluated
    split
    · rename_i exhausted
      have ending : EndsRun config world (.budget inputTokens outputTokens costMicros) :=
        ⟨state, evaluation, current, live, evaluated, exhausted⟩
      -- the ports are called before the commit, and leave the Run alone
      have called : ∀ (write archive : PortCall) (writeFailed archiveFailed : Bool),
          write.isWork = false → archive.isWork = false →
          Does config (.budget inputTokens outputTokens costMicros)
            (EndsRun config world (.budget inputTokens outputTokens costMicros)) AnyKeys world
            (commit around ((world.callPort around config.checkpointWriter write).callPort around
              config.archivePort archive) (exhaustedState state evaluation)
              (exhaustedEvents evaluation writeFailed archiveFailed)).1 := by
        intro write archive writeFailed archiveFailed other another
        have same : ((world.callPort around config.checkpointWriter write).callPort around
            config.archivePort archive).actor.state = some state := by
          rw [state_callPort, state_callPort, current]
        have does : Does config (.budget inputTokens outputTokens costMicros)
            (EndsRun config world (.budget inputTokens outputTokens costMicros)) AnyKeys _ _ :=
          commit_does around same ownRun (.budgetExhausted inputTokens outputTokens costMicros
            evaluation writeFailed archiveFailed state live) (fun _ => .inr ending) trivial
        unfold Does at does ⊢
        rw [core_callPort_other config _ around _ another,
          core_callPort_other config _ around _ other, failNext_callPort,
          failNext_callPort] at does
        exact does
      exact called _ _ _ _ rfl rfl
    · exact commit_does_same around current ownRun rfl
        (.budget inputTokens outputTokens costMicros evaluation state live) trivial

theorem handleRecovery_does (own : OwnState config world) (trigger : String)
    (activeDispatchIds missingIntentIds : List String) (checkpointCorrupt refDrift : Bool) :
    Does config
      (.recovery trigger activeDispatchIds missingIntentIds checkpointCorrupt refDrift) ends AnyKeys
      world (handleRecovery around world trigger activeDispatchIds missingIntentIds
        checkpointCorrupt refDrift).1 := by
  unfold handleRecovery
  cases current : world.actor.state with
  | none => exact .of_core rfl
  | some state =>
    cases known : RecoveryTrigger.ofValue trigger with
    | none => exact .of_core rfl
    | some kind =>
      exact commit_does_same around current (own state current) rfl
        (.recovery trigger activeDispatchIds missingIntentIds checkpointCorrupt refDrift kind
          state known) trivial

theorem handleAdvice_does (own : OwnState config world) (advice : Advice) :
    Does config (.advice advice) ends AnyKeys world (handleAdvice config around world advice).1 := by
  unfold handleAdvice
  cases current : world.actor.state with
  | none => exact .of_core rfl
  | some state =>
    have ownRun := own state current
    by_cases foreign : advice.runId ≠ config.runId
    · simp only [if_pos foreign]
      exact commit_does_same around current ownRun rfl (.adviceMismatch advice state foreign) trivial
    simp only [if_neg foreign]
    split
    · exact .of_core rfl
    · rename_i result evaluated
      simp only [Bool.and_assoc]
      refine commit_then_call_does around current ownRun rfl
        (decideAdvice_status state advice result).symm ?_ trivial
      rw [← Bool.and_assoc]
      exact .advice advice result state (not_not.mp foreign) evaluated

end Handlers

end CodeMigrator
