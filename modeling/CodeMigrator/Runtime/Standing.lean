import CodeMigrator.Runtime.Phases

/-!
# Where the Run stands

What a turn of the actor does to the Run in the store and to the actor's copy of it,
without the assumption that the two agree. A handler decides from the actor's copy and
`commit` writes the outcome over whatever the store has, so the two are followed side by
side, as far as the Run and its status go.
-/

namespace CodeMigrator
open Lib

/-- The Run and its status, as far as a write can change them. -/
def RunState.phase (state : RunState) : RunId × RunStatus := (state.runId, state.status)

/-- The status of a Run that has ended. -/
def endedStatus (phase : Option (RunId × RunStatus)) : Option RunStatus :=
  (phase.map (·.2)).filter RunStatus.isTerminal

/-- What the database and the actor say about the Run. -/
structure Standing where
  persisted : Option (RunId × RunStatus)
  current : Option (RunId × RunStatus)

def Core.standing (core : Core) : Standing :=
  ⟨core.persisted.map (·.state.phase), core.state.map RunState.phase⟩

/-- What a handler can do to the standing of the Run. The store refuses the write or takes
it; only a message that `ends` the Run moves it to a terminal status. -/
inductive Follows (config : ActorConfig) (ends : Prop) (refuses : Bool) :
    Standing → Standing → Prop where
  | kept (standing : Standing) : Follows config ends refuses standing standing
  | adopted (standing : Standing) :
      Follows config ends refuses standing { standing with current := standing.persisted }
  | replayed (standing : Standing) (status next : RunStatus)
      (current : standing.current = some (config.runId, status))
      (live : status.isTerminal = false) (alive : next.isTerminal = false) :
      Follows config ends refuses standing { standing with current := some (config.runId, next) }
  | created (standing : Standing) (status : RunStatus) (healthy : refuses = false)
      (absent : standing.persisted = none) (unknown : standing.current = none)
      (live : status.isTerminal = false) :
      Follows config ends refuses standing
        ⟨some (config.runId, status), some (config.runId, status)⟩
  | written (standing : Standing) (status next : RunStatus) (healthy : refuses = false)
      (current : standing.current = some (config.runId, status))
      (keeps : status.isTerminal = true → next = status)
      (moves : next.isTerminal = true → status.isTerminal = true ∨ ends) :
      Follows config ends refuses standing ⟨some (config.runId, next), some (config.runId, next)⟩

/-- The database and the actor know the same Run, and agree on whether and how it ended. -/
structure Aligned (config : ActorConfig) (standing : Standing) : Prop where
  persistedOwn : ∀ phase, standing.persisted = some phase → phase.1 = config.runId
  currentOwn : ∀ phase, standing.current = some phase → phase.1 = config.runId
  ended : endedStatus standing.persisted = endedStatus standing.current

section Standing

variable {config : ActorConfig} {ends : Prop} {refuses : Bool} {standing after : Standing}

@[simp] theorem endedStatus_none : endedStatus none = none := rfl

theorem endedStatus_live {runId : RunId} {status : RunStatus} (live : status.isTerminal = false) :
    endedStatus (some (runId, status)) = none := by
  simp [endedStatus, live]

theorem endedStatus_ended {runId : RunId} {status : RunStatus} (ended : status.isTerminal = true) :
    endedStatus (some (runId, status)) = some status := by
  simp [endedStatus, ended]

theorem Follows.endedStatus_eq (follows : Follows config ends refuses standing after)
    (aligned : Aligned config standing) (open_ : ¬ ends) :
    endedStatus after.persisted = endedStatus standing.persisted ∧
      endedStatus after.current = endedStatus standing.current := by
  cases follows with
  | kept => exact ⟨rfl, rfl⟩
  | adopted => exact ⟨rfl, aligned.ended⟩
  | replayed status next current live alive =>
    rw [current, endedStatus_live live]
    exact ⟨rfl, endedStatus_live alive⟩
  | created status healthy absent unknown live =>
    rw [absent, unknown]
    exact ⟨endedStatus_live live, endedStatus_live live⟩
  | written status next healthy current keeps moves =>
    rw [aligned.ended, current]
    cases ended : status.isTerminal with
    | true =>
      rw [keeps ended]
      exact ⟨rfl, rfl⟩
    | false =>
      have alive : next.isTerminal = false := by
        by_contra terminal
        rcases moves (Bool.not_eq_false _ ▸ terminal) with before | ending
        · rw [ended] at before
          cases before
        · exact open_ ending
      rw [endedStatus_live ended]
      exact ⟨endedStatus_live alive, endedStatus_live alive⟩

theorem Follows.own (follows : Follows config ends refuses standing after)
    (aligned : Aligned config standing) :
    (∀ phase, after.persisted = some phase → phase.1 = config.runId) ∧
      (∀ phase, after.current = some phase → phase.1 = config.runId) := by
  cases follows with
  | kept => exact ⟨aligned.persistedOwn, aligned.currentOwn⟩
  | adopted => exact ⟨aligned.persistedOwn, aligned.persistedOwn⟩
  | replayed =>
    refine ⟨aligned.persistedOwn, ?_⟩
    rintro _ ⟨⟩
    rfl
  | created =>
    constructor
    · rintro _ ⟨⟩
      rfl
    · rintro _ ⟨⟩
      rfl
  | written =>
    constructor
    · rintro _ ⟨⟩
      rfl
    · rintro _ ⟨⟩
      rfl

/-- After a handler whose write was not interrupted the database and the actor agree, and a
Run that had ended has ended the same way. -/
theorem Follows.aligned (follows : Follows config ends refuses standing after)
    (aligned : Aligned config standing) :
    Aligned config after ∧ ∀ status, endedStatus standing.persisted = some status →
      endedStatus after.persisted = some status := by
  obtain ⟨persistedOwn, currentOwn⟩ := follows.own aligned
  cases follows with
  | kept => exact ⟨aligned, fun _ ended => ended⟩
  | adopted => exact ⟨⟨persistedOwn, currentOwn, rfl⟩, fun _ ended => ended⟩
  | replayed status next current live alive =>
    have running : endedStatus standing.persisted = none := by
      rw [aligned.ended, current, endedStatus_live live]
    exact ⟨⟨persistedOwn, currentOwn, running.trans (endedStatus_live alive).symm⟩,
      fun _ ended => ended⟩
  | created status healthy absent unknown live =>
    refine ⟨⟨persistedOwn, currentOwn, rfl⟩, ?_⟩
    intro other ended
    rw [absent] at ended
    cases ended
  | written status next healthy current keeps moves =>
    refine ⟨⟨persistedOwn, currentOwn, rfl⟩, ?_⟩
    intro other ended
    rw [aligned.ended, current] at ended
    cases terminal : status.isTerminal with
    | true =>
      rw [keeps terminal]
      exact ended
    | false =>
      rw [endedStatus_live terminal] at ended
      cases ended

end Standing

/-! ## Handlers -/

section Handlers

variable {config : ActorConfig} {world : World} {message : RuntimeMessage} {ends : Prop}
  {refuses : Bool} {keys : List String → Prop}

theorem standing_of_current {core : Core} {state : RunState} (current : core.state = some state)
    (own : state.runId = config.runId) :
    core.standing.current = some (config.runId, state.status) := by
  simp only [Core.standing, current, Option.map_some, RunState.phase, own]

theorem Follows.of_run {core : Core} {state next : RunState} {events : List EventSpec}
    {work : List PortCall} (run : RunStep config message state events work next)
    (current : core.state = some state) (own : state.runId = config.runId)
    (healthy : refuses = false)
    (ending : next.status.isTerminal = true → state.status.isTerminal = true ∨ ends) :
    Follows config ends refuses core.standing ⟨some next.phase, some next.phase⟩ := by
  have phase : next.phase = (config.runId, next.status) := by
    rw [RunState.phase, run.runId_eq, own]
  rw [phase]
  exact .written _ state.status next.status healthy (standing_of_current current own)
    (fun ended => (run.settled ended).status) ending

theorem Effect.follows {core after : Core}
    (effect : Effect config message refuses ends keys core after)
    (own : ∀ state, core.state = some state → state.runId = config.runId) :
    Follows config ends refuses core.standing after.standing := by
  cases effect with
  | stays => exact .kept _
  | adopts snapshot found =>
    have reached : ({ core with state := some snapshot.state } : Core).standing =
        { core.standing with current := core.standing.persisted } := by
      simp only [Core.standing, found, Option.map_some]
    rw [reached]
    exact .adopted _
  | replays state next events current run live alive diverged =>
    have phase : next.phase = (config.runId, next.status) := by
      rw [RunState.phase, run.runId_eq, own state current]
    have reached : ({ core with state := some next } : Core).standing =
        { core.standing with current := some (config.runId, next.status) } := by
      simp only [Core.standing, Option.map_some, phase]
    rw [reached]
    exact .replayed _ state.status next.status (standing_of_current current (own state current))
      live alive
  | creates createRun healthy absent unknown =>
    refine .created _ .planning healthy ?_ ?_ rfl
    · simp only [Core.standing, absent, Option.map_none]
    · simp only [Core.standing, unknown, Option.map_none]
  | commits state next snapshot events work healthy current found run ending keyed =>
    exact .of_run run current (own state current) healthy ending
  | owns state next snapshot events record before receipt terminalEvent healthy current found run
      executing =>
    have live : next.status.isTerminal = false := by
      rw [executing]
      rfl
    exact .of_run run current (own state current) healthy
      (fun terminal => absurd terminal (Bool.not_eq_true _ ▸ live))

theorem turn_follows (around : Surroundings) (own : OwnState config world)
    (free : createConflicts config world message = false) :
    Follows config (EndsRun config world message) world.store.failNext
      (world.core config).standing ((turn config around world message).core config).standing := by
  rw [turn_core_eq]
  obtain ⟨keys, does⟩ := handle_does around own free
  exact Effect.follows does own

end Handlers

end CodeMigrator
