import CodeMigrator.Core.Enums
import CodeMigrator.Core.Ids
import CodeMigrator.Lib.Dict
import CodeMigrator.Lib.Transition

/-!
# The actor registry

`ActorRegistry` of `runtime/actor.py`. Its methods run concurrently on one event loop. What a method
does from one `await` to the next is one move, and every method that waits for `_lock` may be the
next to take it when it is free.
-/

namespace CodeMigrator
open Lib

/-- What the holder of `_lock` awaits: the snapshot in `get_or_create`, the start of its actor, or
the stop of the actor that `rebuild` replaces. -/
inductive LockHolder where
  | loading (runId : RunId)
  | starting (runId : RunId) (actor : Nat)
  | stopping (runId : RunId) (actor : Nat)

/-- The Run that the holder is busy with. -/
def LockHolder.runId : LockHolder → RunId
  | loading runId | starting runId _ | stopping runId _ => runId

/-- `ActorRegistry`, with the actors that `close` has taken out and not stopped yet. -/
structure ActorRegistry where
  admissionOpen : Bool
  actors : Dict RunId Nat
  holder : Option LockHolder
  retiring : List (RunId × Nat)

namespace ActorRegistry

/-- A part of a method between two awaits. `failed` is an exception of the store, of the factory or
of the start; a stop does not raise and is not cancelled. -/
inductive Move where
  | getOrCreate (runId : RunId)
  | loaded (status : Option RunStatus) (actor : Nat)
  | started
  | failed
  | registerCommitted (runId : RunId) (actor : Nat)
  | rebuild (runId : RunId)
  | stopped
  | closeAdmission
  | clear
  | retired (runId : RunId) (actor : Nat)

/-- A new registry. -/
def new : ActorRegistry := ⟨true, .empty, none, []⟩

/-- The registry after a move; a move that its state does not allow changes nothing. -/
def step (registry : ActorRegistry) (move : Move) : ActorRegistry :=
  match move, registry.holder with
  | .getOrCreate runId, none =>
    if registry.admissionOpen ∧ registry.actors.get? runId = none then
      { registry with holder := some (.loading runId) }
    else registry
  | .loaded status actor, some (.loading runId) =>
    if registry.admissionOpen ∧ status.any (!·.isTerminal) then
      { registry with holder := some (.starting runId actor) }
    else { registry with holder := none }
  | .started, some (.starting runId actor) =>
    { registry with actors := registry.actors.set runId actor, holder := none }
  | .failed, some (.loading _) => { registry with holder := none }
  | .failed, some (.starting ..) => { registry with holder := none }
  | .registerCommitted runId actor, none =>
    if registry.admissionOpen ∧ registry.actors.get? runId = none then
      { registry with actors := registry.actors.set runId actor }
    else registry
  | .rebuild runId, none =>
    match registry.actors.get? runId with
    | none => registry
    | some actor =>
      { registry with
        actors := registry.actors.erase runId
        holder := some (.stopping runId actor) }
  | .stopped, some (.stopping ..) => { registry with holder := none }
  | .closeAdmission, _ => { registry with admissionOpen := false }
  | .clear, none =>
    { registry with
      admissionOpen := false
      actors := .empty
      retiring := registry.retiring ++ registry.actors.entries }
  | .retired runId actor, _ =>
    { registry with retiring := registry.retiring.erase (runId, actor) }
  | _, _ => registry

/-- The actor of the Run is registered, or was and its stop has not finished. -/
def Owns (registry : ActorRegistry) (runId : RunId) (actor : Nat) : Prop :=
  registry.actors.get? runId = some actor ∨ registry.holder = some (.stopping runId actor) ∨
    (runId, actor) ∈ registry.retiring

/-- `close` has cleared the registry. -/
structure Cleared (registry : ActorRegistry) : Prop where
  closed : registry.admissionOpen = false
  empty : registry.actors = .empty
  idle : ∀ holder, registry.holder = some holder → ∃ runId, holder = .loading runId

/-- The Run that the lock is held for has no actor, and `close` stops actors of different Runs. -/
structure Sound (registry : ActorRegistry) : Prop where
  absent : ∀ holder, registry.holder = some holder → registry.actors.get? holder.runId = none
  cleared : registry.retiring ≠ [] → registry.Cleared
  once : ∀ runId first second, (runId, first) ∈ registry.retiring →
    (runId, second) ∈ registry.retiring → first = second

variable {registry : ActorRegistry}

theorem Cleared.step (cleared : registry.Cleared) (move : Move) : (registry.step move).Cleared := by
  obtain ⟨closed, empty, idle⟩ := cleared
  unfold ActorRegistry.step
  split
  all_goals constructor
  all_goals simp_all

/-- Only `close` hands actors over to be stopped, and it leaves the registry cleared. -/
theorem retiring_step (registry : ActorRegistry) (move : Move) :
    (registry.step move).retiring.Sublist registry.retiring ∨
      (registry.step move).retiring = registry.retiring ++ registry.actors.entries ∧
        (registry.step move).Cleared := by
  unfold ActorRegistry.step
  split
  case h_10 held =>
    right
    exact ⟨rfl, rfl, rfl, fun holder waits => nomatch held.symm.trans waits⟩
  case h_11 => exact .inl List.erase_sublist
  all_goals left
  all_goals repeat' split
  all_goals exact List.Sublist.refl _

theorem Sound.step (sound : registry.Sound) (move : Move) : (registry.step move).Sound := by
  obtain ⟨absent, cleared, once⟩ := sound
  refine ⟨?_, fun retiring => ?_, ?_⟩
  · unfold ActorRegistry.step
    repeat' split
    all_goals intro holder held
    all_goals simp_all
    all_goals subst held
    all_goals simp_all [LockHolder.runId, Dict.get?_erase_self]
  · by_cases before : registry.retiring = []
    · rcases registry.retiring_step move with fewer | ⟨-, clears⟩
      · rw [before] at fewer
        exact absurd (List.sublist_nil.mp fewer) retiring
      · exact clears
    · exact (cleared before).step move
  · intro runId first second member other
    rcases registry.retiring_step move with fewer | ⟨more, -⟩
    · exact once runId first second (fewer.subset member) (fewer.subset other)
    · rw [more] at member other
      by_cases before : registry.retiring = []
      · rw [before, List.nil_append, ← Dict.get?_eq_some_iff] at member other
        exact Option.some.inj (member.symm.trans other)
      · rw [(cleared before).empty] at member other
        exact once runId first second (by simpa [Dict.empty] using member)
          (by simpa [Dict.empty] using other)

theorem Sound.owns_once (sound : registry.Sound) {runId : RunId} {first second : Nat}
    (owns : registry.Owns runId first) (other : registry.Owns runId second) : first = second := by
  obtain ⟨absent, cleared, once⟩ := sound
  rcases owns with here | held | retiring
  · rcases other with also | held | retiring
    · rw [here, Option.some.injEq] at also
      exact also
    · exact nomatch here.symm.trans (absent _ held)
    · rw [(cleared (List.ne_nil_of_mem retiring)).empty] at here
      cases here
  · rcases other with here | also | retiring
    · exact nomatch here.symm.trans (absent _ held)
    · rw [held] at also
      cases also
      rfl
    · obtain ⟨runId, loading⟩ := (cleared (List.ne_nil_of_mem retiring)).idle _ held
      cases loading
  · have taken := cleared (List.ne_nil_of_mem retiring)
    rcases other with here | held | also
    · rw [taken.empty] at here
      cases here
    · obtain ⟨runId, loading⟩ := taken.idle _ held
      cases loading
    · exact once _ _ _ retiring also

/-- Over every interleaving no Run has two actors of the registry, and once `close` has cleared it
no actor is registered again. -/
theorem registry_owns_once (moves : List Move) :
    (∀ runId first second, (runFrom step new moves).Owns runId first →
      (runFrom step new moves).Owns runId second → first = second) ∧
    ∀ later, (runFrom step new moves).holder = none →
      (runFrom step new (moves ++ .clear :: later)).actors = .empty := by
  have start : new.Sound :=
    ⟨fun _ held => (nomatch held), fun retiring => absurd rfl retiring,
      fun _ _ _ member => (nomatch member)⟩
  constructor
  · intro runId first second
    exact (runFrom_invariant Sound (fun _ move sound => sound.step move) start moves).owns_once
  · intro later free
    rw [runFrom_append, runFrom_cons]
    generalize runFrom step new moves = registry at free ⊢
    have cleared : (registry.step .clear).Cleared := by
      simp only [ActorRegistry.step, free]
      exact ⟨rfl, rfl, fun _ held => nomatch held⟩
    exact (runFrom_invariant Cleared (fun _ move cleared => cleared.step move) cleared later).empty

/-- A call asks for the Run while `rebuild` stops its actor, and gets another one after that. -/
def rebuilt : List Move :=
  [.getOrCreate ⟨1⟩, .loaded (some .planning) 1, .started, .rebuild ⟨1⟩, .getOrCreate ⟨1⟩, .stopped,
    .getOrCreate ⟨1⟩, .loaded (some .planning) 2, .started]

theorem registry_owns_once_rebuilt :
    ((runFrom step new (rebuilt.take 5)).Owns ⟨1⟩ 1 ∧ (runFrom step new rebuilt).Owns ⟨1⟩ 2) ∧
    (∀ first second, (runFrom step new rebuilt).Owns ⟨1⟩ first →
      (runFrom step new rebuilt).Owns ⟨1⟩ second → first = second) ∧
    (runFrom step new (rebuilt ++ .clear :: rebuilt)).actors = .empty :=
  ⟨⟨.inr (.inl rfl), .inl rfl⟩, (registry_owns_once rebuilt).1 ⟨1⟩,
    (registry_owns_once rebuilt).2 rebuilt rfl⟩

end ActorRegistry

end CodeMigrator
