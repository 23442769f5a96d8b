import CodeMigrator.Runtime.RoundTrip
import CodeMigrator.Runtime.Standing

/-!
# The actor over PostgreSQL

`RunActor` over `PostgreSQLRuntimeStore` (`runtime/store.py`). A write of the store is
one transaction, after which `commit` reads the Run again. An exception can come before
the transaction commits or from the reading afterwards, and the actor keeps its state in
both cases: `_commit` catches a `StoreCommitError`, any other exception ends the handler.
The transactions themselves do what the calls of `InMemoryRuntimeStore` do, except that
a Run cannot be created twice, also not inside a transaction of the caller.
-/

namespace CodeMigrator
open Lib

/-! ## Turns with store failures -/

/-- Where a write of the store raises. -/
inductive FaultPoint where
  | beforeCommit
  | reload
  deriving DecidableEq

/-- An exception out of a write of the store. -/
structure StoreFault where
  point : FaultPoint
  failure : RuntimeFailure

/-- The state as `_decode_state` reads what `_dump_json` wrote (`decodeState_dumpJson`). -/
def RunState.reloaded (state : RunState) : RunState := { state with reportingHalted := false }

/-- The stored Run as `load` gives it. -/
def RuntimeStore.reread (store : RuntimeStore) (runId : RunId) : RuntimeStore :=
  match store.load runId with
  | none => store
  | some snapshot =>
    { store with
      snapshots := store.snapshots.set runId ⟨snapshot.state.reloaded, snapshot.events⟩ }

theorem RuntimeStore.load_reread (store : RuntimeStore) (runId : RunId) :
    (store.reread runId).load runId =
      (store.load runId).map fun snapshot => ⟨snapshot.state.reloaded, snapshot.events⟩ := by
  unfold RuntimeStore.reread
  cases stored : store.load runId with
  | none => exact stored
  | some snapshot => simp [RuntimeStore.load]

namespace World

/-- The next write of the store raises, or none does. -/
def refusing (world : World) (refuses : Bool) : World :=
  world.setStore { world.store with failNext := refuses }

/-- The Run as it comes back from the database. -/
def reread (config : ActorConfig) (world : World) : World :=
  (world.setStore (world.store.reread config.runId)).setState
    (world.actor.state.map RunState.reloaded)

end World

section Turns

variable (config : ActorConfig) (around : Surroundings)

/-- The end of a handler whose store call raises something that no handler expects. A
finished round is closed by its own handler. -/
def uncaught (world : World) (message : RuntimeMessage) (failure : RuntimeFailure) : World :=
  match message with
  | .executionRoundFinished logicalKey _ _ => finishExecutionRound world logicalKey (.error failure)
  | _ => report world message failure

/-- One turn of the mailbox in which the write of the store raises, as far as the actor is
concerned. A handler makes at most one write; the port calls before it are made. -/
def refusedTurn (world : World) (message : RuntimeMessage) (failure : RuntimeFailure) : World :=
  let refused := turn config around (world.refusing true) message
  if refused.store.failNext then refused
  else
    match failure with
    | .storeCommitError _ => refused
    | failure => uncaught { world with calls := refused.calls } message failure

/-- One turn of the mailbox over PostgreSQL. -/
def pgTurn (fault : Option StoreFault) (world : World) (message : RuntimeMessage) : World :=
  if createConflicts config world message then
    world.setLastError (.storeCommitError "unable to create runtime run")
  else
    let committed := turn config around (world.refusing false) message
    match fault with
    | none => committed.reread config
    | some ⟨.beforeCommit, failure⟩ =>
      (refusedTurn config around world message failure).refusing false
    | some ⟨.reload, failure⟩ =>
      ((refusedTurn config around world message failure).setStore committed.store).reread config

end Turns

/-- What can happen next over PostgreSQL. -/
inductive PgInput where
  | message (message : RuntimeMessage) (around : Surroundings) (fault : Option StoreFault)
  | createAgentRun (record : AgentRun)
  | addCasReference (object : CasObject) (ownerKind : String) (ownerId : UUID)
      (referenceKey : String)
  | start

/-- The step of an input over PostgreSQL. -/
def pgStep (config : ActorConfig) (world : World) : PgInput → World
  | .message message around fault => pgTurn config around fault world message
  | .createAgentRun record => step config (world.refusing false) (.createAgentRun record)
  | .addCasReference object ownerKind ownerId referenceKey =>
    step config (world.refusing false) (.addCasReference object ownerKind ownerId referenceKey)
  | .start => step config world .start

/-! ## Runs over PostgreSQL -/

section Runs

variable {config : ActorConfig} {world : World} (around : Surroundings)

/-- What the database and the actor say about the Run. -/
def World.standing (config : ActorConfig) (world : World) : Standing :=
  (world.core config).standing

theorem standing_reread : (world.reread config).standing config = world.standing config := by
  simp only [World.standing, Core.standing, World.core, World.reread, World.setState, World.setStore,
    RuntimeStore.load_reread, Option.map_map]
  rfl

theorem createConflicts_refusing (refuses : Bool) (message : RuntimeMessage) :
    createConflicts config (world.refusing refuses) message =
      createConflicts config world message := by
  cases message with
  | _ => rfl

theorem endsRun_refusing (refuses : Bool) (message : RuntimeMessage) :
    EndsRun config (world.refusing refuses) message = EndsRun config world message := by
  cases message with
  | _ => rfl

theorem Aligned.ownState (aligned : Aligned config (world.standing config)) :
    OwnState config world := by
  intro state current
  refine aligned.currentOwn state.phase ?_
  simp only [World.standing, Core.standing, World.core, current, Option.map_some]

theorem refusing_follows (aligned : Aligned config (world.standing config))
    {message : RuntimeMessage} (free : createConflicts config world message = false)
    (refuses : Bool) :
    Follows config (EndsRun config world message) refuses (world.standing config)
      ((turn config around (world.refusing refuses) message).standing config) := by
  rw [← createConflicts_refusing refuses] at free
  rw [← endsRun_refusing refuses]
  exact turn_follows around aligned.ownState free

theorem core_uncaught (message : RuntimeMessage) (failure : RuntimeFailure) :
    (uncaught world message failure).core config = world.core config := by
  cases message with
  | executionRoundFinished logicalKey decision error =>
    exact core_finishExecutionRound config world _ _
  | _ => exact core_report config world _ failure

theorem refusedTurn_follows (aligned : Aligned config (world.standing config))
    {message : RuntimeMessage} (free : createConflicts config world message = false)
    (failure : RuntimeFailure) :
    Follows config (EndsRun config world message) true (world.standing config)
      ((refusedTurn config around world message failure).standing config) := by
  have refused := refusing_follows around aligned free true
  simp only [refusedTurn]
  split
  · exact refused
  split
  · exact refused
  · unfold World.standing
    rw [core_uncaught]
    exact .kept _

/-- What the database keeps of one step: a Run that has ended stays ended. -/
def TerminalKept (config : ActorConfig) (earlier later : World) : Prop :=
  ∀ snapshot, earlier.store.load config.runId = some snapshot →
    snapshot.state.status.isTerminal = true →
    ∃ final, later.store.load config.runId = some final ∧ final.state.status.isTerminal = true

theorem endedStatus_persisted (world : World) (status : RunStatus) :
    endedStatus (world.standing config).persisted = some status ↔
      ∃ snapshot, world.store.load config.runId = some snapshot ∧
        snapshot.state.status = status ∧ status.isTerminal = true := by
  cases stored : world.store.load config.runId with
  | none => simp [World.standing, Core.standing, World.core, stored]
  | some snapshot =>
    have found : (world.standing config).persisted = some snapshot.state.phase := by
      simp only [World.standing, Core.standing, World.core, stored, Option.map_some]
    rw [found]
    cases ended : snapshot.state.status.isTerminal with
    | true =>
      rw [RunState.phase, endedStatus_ended ended]
      grind
    | false =>
      rw [RunState.phase, endedStatus_live ended]
      grind

/-- The input is a message that ends the Run, and the write of its end commits while the
reading afterwards raises. -/
def LosesEnd (config : ActorConfig) (world : World) : PgInput → Prop
  | .message message _ (some ⟨.reload, _⟩) => EndsRun config world message
  | _ => False

theorem pgTurn_aligned (aligned : Aligned config (world.standing config))
    (message : RuntimeMessage) (fault : Option StoreFault)
    (safe : ¬ LosesEnd config world (.message message around fault)) :
    Aligned config ((pgTurn config around fault world message).standing config) ∧
      ∀ status, endedStatus (world.standing config).persisted = some status →
        endedStatus ((pgTurn config around fault world message).standing config).persisted =
          some status := by
  unfold pgTurn
  by_cases conflict : createConflicts config world message = true
  · rw [if_pos conflict]
    exact ⟨aligned, fun _ ended => ended⟩
  rw [if_neg conflict]
  rw [Bool.not_eq_true] at conflict
  have committed := refusing_follows around aligned conflict false
  match fault with
  | none =>
    dsimp only
    rw [standing_reread]
    exact committed.aligned aligned
  | some ⟨.beforeCommit, failure⟩ => exact (refusedTurn_follows around aligned conflict failure).aligned aligned
  | some ⟨.reload, failure⟩ =>
    have refused := refusedTurn_follows around aligned conflict failure
    have samePersisted := (committed.endedStatus_eq aligned safe).1
    have sameCurrent := (refused.endedStatus_eq aligned safe).2
    dsimp only
    rw [standing_reread]
    refine ⟨⟨(committed.own aligned).1, (refused.own aligned).2, ?_⟩, ?_⟩
    · exact samePersisted.trans (aligned.ended.trans sameCurrent.symm)
    · intro status ended
      exact samePersisted.trans ended

theorem pgStep_aligned (aligned : Aligned config (world.standing config)) (input : PgInput)
    (safe : ¬ LosesEnd config world input) :
    Aligned config ((pgStep config world input).standing config) ∧
      ∀ status, endedStatus (world.standing config).persisted = some status →
        endedStatus ((pgStep config world input).standing config).persisted = some status := by
  cases input with
  | message message around fault => exact pgTurn_aligned around aligned message fault safe
  | createAgentRun record =>
    have same : (pgStep config world (.createAgentRun record)).standing config =
        world.standing config := by
      simp only [pgStep, step, RuntimeStore.createOrGetAgentRun, RuntimeStore.fail]
      repeat' split
      all_goals rfl
    rw [same]
    exact ⟨aligned, fun _ ended => ended⟩
  | addCasReference object ownerKind ownerId referenceKey =>
    have same : (pgStep config world
        (.addCasReference object ownerKind ownerId referenceKey)).standing config =
          world.standing config := by
      simp only [pgStep, step, RuntimeStore.addCasReference, RuntimeStore.fail]
      repeat' split
      all_goals rfl
    rw [same]
    exact ⟨aligned, fun _ ended => ended⟩
  | start =>
    have started : Follows config False false (world.standing config)
        ((pgStep config world .start).standing config) := by
      simp only [pgStep, step]
      split
      · exact .kept _
      · have reached : (({ world with actor := { RunActor.fresh with
            state := (world.store.load config.runId).map (·.state)
            createReceipt := ‹Option RunCreatedReceipt› } } : World).standing config) =
              { world.standing config with current := (world.standing config).persisted } := by
          simp only [World.standing, Core.standing, World.core, Option.map_map]
          rfl
        rw [reached]
        exact .adopted _
    exact started.aligned aligned

/-- An actor that was started on what the database has of its Run. -/
structure Started (config : ActorConfig) (world : World) : Prop where
  loaded : world.actor.state = (world.store.load config.runId).map (·.state)
  runId : ∀ snapshot, world.store.load config.runId = some snapshot →
    snapshot.state.runId = config.runId

theorem Started.aligned (started : Started config world) :
    Aligned config (world.standing config) := by
  have same : (world.standing config).current = (world.standing config).persisted := by
    simp only [World.standing, Core.standing, World.core, started.loaded, Option.map_map]
    rfl
  have own : ∀ phase, (world.standing config).persisted = some phase → phase.1 = config.runId := by
    intro phase found
    obtain ⟨snapshot, stored, rfl⟩ := Option.map_eq_some_iff.mp found
    exact started.runId snapshot stored
  refine ⟨own, ?_, by rw [same]⟩
  rw [same]
  exact own

theorem TerminalKept.refl (world : World) : TerminalKept config world world :=
  fun snapshot stored terminal => ⟨snapshot, stored, terminal⟩

theorem TerminalKept.trans (first second third : World) (earlier : TerminalKept config first second)
    (later : TerminalKept config second third) : TerminalKept config first third := by
  intro snapshot stored terminal
  obtain ⟨between, found, ended⟩ := earlier snapshot stored terminal
  exact later between found ended

theorem pgStep_terminalKept (aligned : Aligned config (world.standing config)) (input : PgInput)
    (safe : ¬ LosesEnd config world input) :
    TerminalKept config world (pgStep config world input) := by
  intro snapshot stored terminal
  have before := (endedStatus_persisted world _).mpr ⟨snapshot, stored, rfl, terminal⟩
  obtain ⟨final, found, same, ended⟩ :=
    (endedStatus_persisted _ _).mp ((pgStep_aligned aligned input safe).2 _ before)
  exact ⟨final, found, by rw [same]; exact ended⟩

end Runs

/-- A terminal status in the database is never overwritten by another one, in every run in
which no reading fails right after the write of the Run's end. -/
theorem terminal_status_survives (config : ActorConfig) (start : World)
    (started : Started config start) (inputs : List PgInput)
    (safe : Along (pgStep config) (fun world input => ¬ LosesEnd config world input) start inputs) :
    Throughout (pgStep config) (TerminalKept config) start inputs := by
  rw [throughout_iff TerminalKept.refl TerminalKept.trans]
  refine along_of_along (fun world => Aligned config (world.standing config)) ?_ ?_
    started.aligned safe
  · intro world input aligned unharmed
    exact (pgStep_aligned aligned input unharmed).1
  · intro world input aligned unharmed
    exact pgStep_terminalKept aligned input unharmed

namespace SampleRun

/-- A message whose write of the store raises at the given point, with an exception of the
database driver. -/
def faulty (point : FaultPoint) (message : RuntimeMessage) : PgInput :=
  .message message calm (some ⟨point, .raised⟩)

def healthy (message : RuntimeMessage) : PgInput := .message message calm none

/-- A cancelled Run after one refused cancellation and one lost reading. -/
def toPgCancelled : List PgInput :=
  [healthy (.create runId createRun none), faulty .beforeCommit (.cancel 1 (some 0)),
    faulty .reload (.sessionInput "note" []), healthy (.cancel 1 (some 1)),
    healthy (.sessionInput "note" [])]

theorem start_started : Started config start := by
  refine ⟨rfl, ?_⟩
  intro snapshot stored
  cases stored

/-- The persisted status of the Run. -/
def persistedStatus (world : World) : Option RunStatus :=
  (world.store.load config.runId).map (·.state.status)

end SampleRun

open SampleRun in
theorem terminal_status_survives_cancelled :
    Throughout (pgStep config) (TerminalKept config) start toPgCancelled ∧
      persistedStatus (runFrom (pgStep config) start toPgCancelled) = some .cancelled := by
  refine ⟨terminal_status_survives config start start_started toPgCancelled ?_, by decide⟩
  exact ⟨id, id, id, id, id, trivial⟩

open SampleRun in
/-- The cancellation is committed, the reading after it raises, and the next session input
writes the actor's old status over it. -/
theorem cancelled_run_overwritten :
    persistedStatus (runFrom (pgStep config) start [healthy (.create runId createRun none),
        faulty .reload (.cancel 1 (some 0))]) = some .cancelled ∧
      persistedStatus (runFrom (pgStep config) start [healthy (.create runId createRun none),
        faulty .reload (.cancel 1 (some 0)), healthy (.sessionInput "note" [])]) =
          some .planning ∧
      ¬ Throughout (pgStep config) (TerminalKept config) start
        [healthy (.create runId createRun none), faulty .reload (.cancel 1 (some 0)),
          healthy (.sessionInput "note" [])] := by
  have before : persistedStatus (runFrom (pgStep config) start
      [healthy (.create runId createRun none), faulty .reload (.cancel 1 (some 0))]) =
        some .cancelled := by decide
  have after : persistedStatus (runFrom (pgStep config) start
      [healthy (.create runId createRun none), faulty .reload (.cancel 1 (some 0)),
        healthy (.sessionInput "note" [])]) = some .planning := by decide
  refine ⟨before, after, ?_⟩
  intro kept
  obtain ⟨snapshot, stored, cancelled⟩ := Option.map_eq_some_iff.mp before
  obtain ⟨later, planning, moved⟩ := Option.map_eq_some_iff.mp after
  have ended : snapshot.state.status.isTerminal = true := by
    rw [cancelled]
    rfl
  obtain ⟨final, found, terminal⟩ := kept [healthy (.create runId createRun none),
    faulty .reload (.cancel 1 (some 0))] [healthy (.sessionInput "note" [])] [] rfl snapshot
    stored ended
  rw [List.cons_append, List.cons_append, List.nil_append, planning] at found
  cases found
  rw [moved] at terminal
  cases terminal

end CodeMigrator
