import CodeMigrator.Lib.Rotation
import CodeMigrator.Runtime.RoundSelection

/-!
# Fairness across Runs

`next` without `only_run_id` visits the Runs from the cursor on and moves the cursor behind the
Run that it serves, so that a Run with an eligible item is served before any other Run is served
twice. `next` for one Run moves the same cursor, also over Runs that wait for their turn.
-/

namespace CodeMigrator
open Lib

namespace FairScheduler

/-! ## The property -/

/-- The item can be dispatched: its predecessors are settled and it is not, it is neither in
flight nor awaiting its integration, its pool is available and its scope is free. -/
structure Eligible (scheduler : FairScheduler) (activeScopes : Finset String)
    (availablePools : Finset ResourcePool) (runId : String) (item : ReadySlice) : Prop where
  queued : item ∈ scheduler.queue runId
  unsettled : item.sliceId ∉ scheduler.integratedIn runId ∧ item.sliceId ∉ scheduler.failedIn runId
  unreserved : item.identity ∉ scheduler.inFlight
  notAwaiting : item.identity ∉ scheduler.awaitingIntegration
  requires : item.requiresDependencies ⊆ scheduler.integratedIn runId
  orderedBefore : item.orderedBeforeDependencies ⊆
    scheduler.integratedIn runId ∪ scheduler.failedIn runId
  pool : item.resourcePool ∈ availablePools
  free : ¬ ScopesOverlap item.writeScope (activeScopes ∪ scheduler.reservedScopes runId)

/-- A call of `next` returns an item of the Run. -/
def Serves (runId : String) (scheduler : FairScheduler) : Operation → Prop
  | .next activeScopes availablePools onlyRunId => ∃ item,
      (scheduler.next activeScopes availablePools onlyRunId).2 = some item ∧ item.runId = runId
  | _ => False

/-- At a call of `next` the Run has an eligible item. -/
def Waits (runId : String) (scheduler : FairScheduler) : Operation → Prop
  | .next activeScopes availablePools _ =>
    ∃ item, scheduler.Eligible activeScopes availablePools runId item
  | _ => True

/-- No Run is submitted for the first time. -/
def OpensNone (scheduler : FairScheduler) : Operation → Prop
  | .submit item => (scheduler.queues.get? item.runId).isSome
  | _ => True

/-- `next` with `only_run_id = None`. -/
def Operation.ForAnyRun : Operation → Prop
  | .next _ _ none => True
  | _ => False

/-- The turn of a Run in the rotation from the cursor on. -/
def turnOf (scheduler : FairScheduler) (runId : String) : Nat :=
  turn scheduler.runOrder.length scheduler.cursor (scheduler.runOrder.idxOf runId)

/-- A call of `next` for one Run that has an eligible item is not for one whose turn comes
between those of the waiting Run and of the Run that was served before it. -/
def KeepsTurn (served waiting : String) (scheduler : FairScheduler) : Operation → Prop
  | .next activeScopes availablePools (some runId) =>
    (∃ item, scheduler.Eligible activeScopes availablePools runId item) →
      ¬ (scheduler.turnOf waiting < scheduler.turnOf runId ∧
        scheduler.turnOf runId < scheduler.turnOf served)
  | _ => True

/-- Between two calls that serve a Run, with no new Run between them, every other Run that
waits at each call is served; `condition` is what the calls between them meet. -/
def FairUnder (condition : String → String → FairScheduler → Operation → Prop)
    (operations : List Operation) : Prop :=
  ∀ before first between second rest served waiting,
    operations = before ++ first :: (between ++ second :: rest) →
    first.ForAnyRun → second.ForAnyRun → waiting ≠ served →
    Serves served (runFrom FairScheduler.step empty before) first →
    Along FairScheduler.step
      (fun scheduler operation => OpensNone scheduler operation ∧
        Waits waiting scheduler operation ∧ condition served waiting scheduler operation)
      (runFrom FairScheduler.step empty (before ++ [first])) between →
    Waits waiting (runFrom FairScheduler.step empty (before ++ first :: between)) second →
    Serves served (runFrom FairScheduler.step empty (before ++ first :: between)) second →
    ∃ earlier operation later, between = earlier ++ operation :: later ∧
      Serves waiting (runFrom FairScheduler.step empty (before ++ first :: earlier)) operation

/-! ## The order of the Runs -/

/-- The Runs in the order are different and have queues, and the cursor is at one of them. -/
structure Rotating (scheduler : FairScheduler) : Prop where
  sane : Sane scheduler
  known : ∀ runId ∈ scheduler.runOrder, (scheduler.queues.get? runId).isSome
  nodup : scheduler.runOrder.Nodup
  cursor : scheduler.cursor < scheduler.runOrder.length ∨ scheduler.cursor = 0

variable {scheduler : FairScheduler} {after : FairScheduler}

/-- A queue is set and the order and the cursor stay. -/
structure SameOrder (before after : FairScheduler) : Prop where
  runOrder : after.runOrder = before.runOrder
  cursor : after.cursor = before.cursor
  known : ∀ runId, (before.queues.get? runId).isSome → (after.queues.get? runId).isSome

theorem SameOrder.of_frame {before : FairScheduler} (runOrder : after.runOrder = before.runOrder)
    (cursor : after.cursor = before.cursor) (queues : after.queues = before.queues) :
    SameOrder before after :=
  ⟨runOrder, cursor, fun _ known => queues ▸ known⟩

theorem SameOrder.refl (scheduler : FairScheduler) : SameOrder scheduler scheduler :=
  .of_frame rfl rfl rfl

theorem SameOrder.setQueue {before : FairScheduler} (same : SameOrder before after) (runId : String)
    (items : List ReadySlice) : SameOrder before (after.setQueue runId items) := by
  refine ⟨same.runOrder, same.cursor, ?_⟩
  intro other known
  simp only [FairScheduler.setQueue, Dict.get?_set]
  split
  · rfl
  · exact same.known other known

theorem opened_known {runId : String} (known : (scheduler.queues.get? runId).isSome) :
    scheduler.opened runId = scheduler := by
  unfold opened
  rw [if_neg]
  simp [Option.isSome_iff_ne_none.mp known]

theorem submit_known {item : ReadySlice} (known : (scheduler.queues.get? item.runId).isSome) :
    SameOrder scheduler (scheduler.submit item).1 := by
  unfold submit
  rw [opened_known known]
  dsimp only
  split
  · exact (SameOrder.refl scheduler).setQueue _ _
  · split
    · exact .refl scheduler
    · split
      · exact .refl scheduler
      · split
        · exact .refl scheduler
        · apply SameOrder.setQueue
          split
          · exact .of_frame rfl rfl rfl
          · exact .refl scheduler

theorem submit_new {item : ReadySlice} (new : scheduler.queues.get? item.runId = none) :
    (scheduler.submit item).1 =
      { scheduler with runOrder := scheduler.runOrder ++ [item.runId] }.setQueue item.runId
        [item] := by
  have empty : scheduler.queue item.runId = [] := by
    unfold queue
    rw [new]
    rfl
  unfold submit
  rw [empty]
  simp [opened, new]

theorem step_frame {operation : Operation} (notSubmit : ∀ item, operation ≠ .submit item)
    (notNext : ∀ activeScopes availablePools onlyRunId,
      operation ≠ .next activeScopes availablePools onlyRunId) :
    SameOrder scheduler (scheduler.step operation) := by
  cases operation with
  | submit item => exact absurd rfl (notSubmit item)
  | next activeScopes availablePools onlyRunId => exact absurd rfl (notNext _ _ _)
  | release runId sliceId generation =>
    simp only [FairScheduler.step, release]
    split
    · exact .refl scheduler
    · exact .of_frame rfl rfl rfl
  | awaitIntegration runId sliceId generation =>
    simp only [FairScheduler.step, awaitIntegration]
    split
    · exact .refl scheduler
    · exact .of_frame rfl rfl rfl
  | markIntegrated runId sliceId generation =>
    simp only [FairScheduler.step, markIntegrated]
    split
    · split
      · exact .of_frame rfl rfl rfl
      · exact .refl scheduler
    · split
      · exact .of_frame rfl rfl rfl
      · exact .of_frame rfl rfl rfl
  | restoreCommittedFacts runId integratedSliceIds terminalFailureSliceIds =>
    exact .of_frame rfl rfl rfl

theorem Rotating.same (rotating : Rotating scheduler) (sane : Sane after)
    (same : SameOrder scheduler after) : Rotating after := by
  refine ⟨sane, ?_, ?_, ?_⟩
  · intro runId member
    rw [same.runOrder] at member
    exact same.known runId (rotating.known runId member)
  · rw [same.runOrder]
    exact rotating.nodup
  · rw [same.runOrder, same.cursor]
    exact rotating.cursor

/-! ## What next serves -/

theorem candidate_iff {activeScopes : Finset String} {availablePools : Finset ResourcePool}
    {runId : String} :
    (∃ item, scheduler.Eligible activeScopes availablePools runId item) ↔
      (scheduler.candidate activeScopes availablePools runId).isSome := by
  unfold candidate
  rw [List.find?_isSome]
  constructor
  · intro waits
    obtain ⟨item, eligible⟩ := waits
    refine ⟨item, eligible.queued, ?_⟩
    have free : overlaps item.writeScope (activeScopes ∪ scheduler.reservedScopes runId) = false := by
      rw [Bool.eq_false_iff, ne_eq, overlaps_iff]
      exact eligible.free
    simp only [isReady, Bool.and_eq_true, decide_eq_true_eq, Bool.not_eq_true', free, and_true]
    exact ⟨⟨eligible.unsettled.1, eligible.unsettled.2, eligible.unreserved, eligible.notAwaiting,
      eligible.requires, eligible.orderedBefore⟩, eligible.pool⟩
  · intro found
    obtain ⟨item, queued, passes⟩ := found
    simp only [isReady, Bool.and_eq_true, decide_eq_true_eq, Bool.not_eq_true'] at passes
    obtain ⟨⟨⟨unintegrated, unfailed, unreserved, notAwaiting, requires, ordered⟩, pool⟩, free⟩ :=
      passes
    refine ⟨item, queued, ⟨unintegrated, unfailed⟩, unreserved, notAwaiting, requires, ordered,
      pool, ?_⟩
    intro overlap
    rw [(overlaps_iff _ _).mpr overlap] at free
    cases free

/-- What `next` selects is the first item of a Run, and `next` for any Run selects from the first
Run that waits. -/
theorem selection_first (rotating : Rotating scheduler) {activeScopes : Finset String}
    {availablePools : Finset ResourcePool} {onlyRunId : Option String} {index : Nat}
    {item : ReadySlice}
    (selected : scheduler.selection activeScopes availablePools onlyRunId = some (index, item)) :
    index < scheduler.runOrder.length ∧ scheduler.runOrder.idxOf item.runId = index ∧
      item.runId ∈ scheduler.runOrder ∧
      (scheduler.candidate activeScopes availablePools item.runId).isSome ∧
      (∀ runId, onlyRunId = some runId → runId = item.runId) ∧
      (onlyRunId = none → ∀ runId ∈ scheduler.runOrder,
        (scheduler.candidate activeScopes availablePools runId).isSome →
        scheduler.turnOf item.runId ≤ scheduler.turnOf runId) := by
  obtain ⟨offset, inRange, found, missed⟩ := findSome?_range selected
  have inside : scheduler.cursor < scheduler.runOrder.length := by
    have := rotating.cursor
    omega
  dsimp only at found
  split at found
  · cases found
  next runId at_ =>
    split at found
    · cases found
    next asked =>
      obtain ⟨chosen, candidate, same⟩ := Option.map_eq_some_iff.mp found
      obtain ⟨position, rfl⟩ := Prod.mk.inj same
      have bound : index < scheduler.runOrder.length := by
        rw [← position]
        exact Nat.mod_lt _ (by omega)
      rw [position, List.getElem?_eq_getElem bound, Option.some.injEq] at at_
      obtain rfl : chosen.runId = runId :=
        rotating.sane.own runId chosen (List.mem_of_find?_eq_some candidate)
      have first : scheduler.runOrder.idxOf chosen.runId = index := by
        rw [← at_]
        exact rotating.nodup.idxOf_getElem index bound
      refine ⟨bound, first, at_ ▸ List.getElem_mem bound, by rw [candidate]; rfl, ?_, ?_⟩
      · intro other only
        rw [only] at asked
        simpa using asked
      · intro any other member waits
        have otherBound := List.idxOf_lt_length_of_mem member
        rw [turnOf, first, ← position, turn_visited inside inRange]
        by_contra earlier
        have nothing := missed (scheduler.turnOf other) (by omega)
        dsimp only at nothing
        rw [turnOf, visited_at_turn inside otherBound, List.getElem?_eq_getElem otherBound,
          List.getElem_idxOf, any] at nothing
        simp only [Option.any_none, Bool.false_eq_true, if_false, Option.map_eq_none_iff] at nothing
        rw [nothing] at waits
        cases waits

section Next

variable {activeScopes : Finset String} {availablePools : Finset ResourcePool}
  {onlyRunId : Option String}

theorem next_none
    (selected : scheduler.selection activeScopes availablePools onlyRunId = none) :
    scheduler.next activeScopes availablePools onlyRunId = (scheduler, none) := by
  unfold next
  rw [selected]

theorem next_some {index : Nat} {item : ReadySlice}
    (selected : scheduler.selection activeScopes availablePools onlyRunId = some (index, item)) :
    scheduler.next activeScopes availablePools onlyRunId =
      (scheduler.reserve item ((index + 1) % scheduler.runOrder.length), some item) := by
  unfold next
  rw [selected]
  rfl

theorem selection_of_serves {runId : String}
    (serves : Serves runId scheduler (.next activeScopes availablePools onlyRunId)) :
    ∃ index item, scheduler.selection activeScopes availablePools onlyRunId = some (index, item) ∧
      item.runId = runId := by
  obtain ⟨item, returned, own⟩ := serves
  cases selected : scheduler.selection activeScopes availablePools onlyRunId with
  | none =>
    rw [next_none selected] at returned
    cases returned
  | some chosen =>
    rw [next_some selected, Option.some.injEq] at returned
    exact ⟨chosen.1, chosen.2, rfl, returned ▸ own⟩

end Next

theorem Rotating.step (rotating : Rotating scheduler) (operation : Operation) :
    Rotating (scheduler.step operation) := by
  have sane := rotating.sane.step operation
  cases operation with
  | submit item =>
    cases new : scheduler.queues.get? item.runId with
    | some items => exact rotating.same sane (submit_known (by rw [new]; rfl))
    | none =>
      have absent : item.runId ∉ scheduler.runOrder := by
        intro member
        have known := rotating.known _ member
        rw [new] at known
        cases known
      refine ⟨sane, ?_, ?_, ?_⟩
      · intro runId member
        simp only [FairScheduler.step, submit_new new] at member ⊢
        simp only [FairScheduler.setQueue, List.mem_append, List.mem_singleton,
          Dict.get?_set] at member ⊢
        split
        · rfl
        · next different =>
          rcases member with old | rfl
          · exact rotating.known runId old
          · exact absurd rfl different
      · simp only [FairScheduler.step, submit_new new]
        exact List.Nodup.append rotating.nodup (List.nodup_singleton _)
          (List.disjoint_singleton.mpr absent)
      · simp only [FairScheduler.step, submit_new new, FairScheduler.setQueue,
          List.length_append, List.length_singleton]
        have := rotating.cursor
        omega
  | next activeScopes availablePools onlyRunId =>
    cases selected : scheduler.selection activeScopes availablePools onlyRunId with
    | none =>
      simp only [FairScheduler.step, next_none selected]
      exact rotating
    | some chosen =>
      have bound := (selection_first rotating selected).1
      refine ⟨sane, ?_, ?_, ?_⟩
      · simp only [FairScheduler.step, next_some selected]
        exact rotating.known
      · simp only [FairScheduler.step, next_some selected]
        exact rotating.nodup
      · simp only [FairScheduler.step, next_some selected]
        exact Or.inl (Nat.mod_lt _ (Nat.zero_lt_of_lt bound))
  | _ => exact rotating.same sane (step_frame (by simp) (by simp))

theorem rotating_empty : Rotating empty := by
  refine ⟨sane_empty, ?_, ?_, Or.inr rfl⟩
  · intro runId member
    cases member
  · exact List.nodup_nil

/-- The Run has its turn before the other one. -/
structure Ahead (waiting served : String) (scheduler : FairScheduler) : Prop where
  rotating : Rotating scheduler
  waits : waiting ∈ scheduler.runOrder
  was : served ∈ scheduler.runOrder
  turns : scheduler.turnOf waiting < scheduler.turnOf served

theorem Rotating.inside (rotating : Rotating scheduler) {runId : String}
    (member : runId ∈ scheduler.runOrder) : scheduler.cursor < scheduler.runOrder.length := by
  have := rotating.cursor
  have := List.length_pos_of_mem member
  omega

variable {waiting served : String}

theorem Ahead.same (ahead : Ahead waiting served scheduler) (rotating : Rotating after)
    (same : SameOrder scheduler after) : Ahead waiting served after := by
  refine ⟨rotating, ?_, ?_, ?_⟩
  · rw [same.runOrder]
    exact ahead.waits
  · rw [same.runOrder]
    exact ahead.was
  · unfold turnOf
    rw [same.runOrder, same.cursor]
    exact ahead.turns

theorem Ahead.step (ahead : Ahead waiting served scheduler) {operation : Operation}
    (opensNone : OpensNone scheduler operation) (waits : Waits waiting scheduler operation)
    (keepsTurn : KeepsTurn served waiting scheduler operation)
    (unserved : ¬ Serves waiting scheduler operation) :
    Ahead waiting served (scheduler.step operation) := by
  have rotating := ahead.rotating.step operation
  cases operation with
  | submit item => exact ahead.same rotating (submit_known opensNone)
  | next activeScopes availablePools onlyRunId =>
    cases selected : scheduler.selection activeScopes availablePools onlyRunId with
    | none =>
      simp only [FairScheduler.step, next_none selected]
      exact ahead
    | some chosen =>
      obtain ⟨index, item⟩ := chosen
      obtain ⟨bound, position, member, offers, asked, first⟩ :=
        selection_first ahead.rotating selected
      have inside := ahead.rotating.inside member
      have waitingBound := List.idxOf_lt_length_of_mem ahead.waits
      have servedBound := List.idxOf_lt_length_of_mem ahead.was
      have different : scheduler.turnOf item.runId ≠ scheduler.turnOf waiting := by
        intro same
        apply unserved
        refine ⟨item, by rw [next_some selected], ?_⟩
        have positions := turn_inj inside (position ▸ bound) waitingBound same
        exact (List.idxOf_inj member).mp positions
      have outside : scheduler.turnOf item.runId < scheduler.turnOf waiting ∨
          scheduler.turnOf served ≤ scheduler.turnOf item.runId := by
        cases only : onlyRunId with
        | none =>
          have := first only waiting ahead.waits (candidate_iff.mp waits)
          omega
        | some runId =>
          obtain rfl := asked runId only
          rw [only] at keepsTurn
          have kept := keepsTurn (candidate_iff.mpr offers)
          omega
      refine ⟨rotating, ?_, ?_, ?_⟩
      · simp only [FairScheduler.step, next_some selected]
        exact ahead.waits
      · simp only [FairScheduler.step, next_some selected]
        exact ahead.was
      · simp only [FairScheduler.step, next_some selected]
        rw [turnOf, position] at outside
        exact turn_behind_lt inside bound waitingBound servedBound ahead.turns outside
  | _ => exact ahead.same rotating (step_frame (by simp) (by simp))

/-! ## Every history -/

theorem runOrder_of_along {P : FairScheduler → Operation → Prop}
    (opens : ∀ scheduler operation, P scheduler operation → OpensNone scheduler operation)
    {between : List Operation} (along : Along FairScheduler.step P scheduler between) :
    (runFrom FairScheduler.step scheduler between).runOrder = scheduler.runOrder := by
  induction between generalizing scheduler with
  | nil => rfl
  | cons operation between ih =>
    obtain ⟨now, later⟩ := along
    rw [runFrom_cons, ih later]
    cases operation with
    | submit item => exact (submit_known (opens _ _ now)).runOrder
    | next activeScopes availablePools onlyRunId =>
      cases selected : scheduler.selection activeScopes availablePools onlyRunId with
      | none => simp only [FairScheduler.step, next_none selected]
      | some chosen =>
        simp only [FairScheduler.step, next_some selected]
        rfl
    | _ => exact (step_frame (by simp) (by simp)).runOrder

theorem served_or_ahead {between : List Operation}
    (along : Along FairScheduler.step (fun scheduler operation => OpensNone scheduler operation ∧
      Waits waiting scheduler operation ∧ KeepsTurn served waiting scheduler operation)
      scheduler between) (ahead : Ahead waiting served scheduler) :
    (∃ earlier operation later, between = earlier ++ operation :: later ∧
        Serves waiting (runFrom FairScheduler.step scheduler earlier) operation) ∨
      Ahead waiting served (runFrom FairScheduler.step scheduler between) := by
  induction between generalizing scheduler with
  | nil => exact Or.inr ahead
  | cons operation between ih =>
    obtain ⟨⟨opensNone, waits, keepsTurn⟩, rest⟩ := along
    by_cases serves : Serves waiting scheduler operation
    · exact Or.inl ⟨[], operation, between, rfl, serves⟩
    · rcases ih rest (ahead.step opensNone waits keepsTurn serves) with
        ⟨earlier, other, later, rfl, found⟩ | still
      · exact Or.inl ⟨operation :: earlier, other, later, rfl, found⟩
      · exact Or.inr still

theorem ahead_of_served (rotating : Rotating scheduler) {operation : Operation}
    (serves : Serves served scheduler operation)
    (member : waiting ∈ (scheduler.step operation).runOrder) (different : waiting ≠ served) :
    Ahead waiting served (scheduler.step operation) := by
  cases operation with
  | next activeScopes availablePools onlyRunId =>
    obtain ⟨index, item, selected, rfl⟩ := selection_of_serves serves
    obtain ⟨bound, position, was, -⟩ := selection_first rotating selected
    have after := rotating.step (.next activeScopes availablePools onlyRunId)
    simp only [FairScheduler.step, next_some selected] at member after ⊢
    have apart : scheduler.runOrder.idxOf waiting ≠ index := by
      intro same
      exact different ((List.idxOf_inj member).mp (same.trans position.symm))
    refine ⟨after, member, was, ?_⟩
    show turn scheduler.runOrder.length ((index + 1) % scheduler.runOrder.length)
        (scheduler.runOrder.idxOf waiting) <
      turn scheduler.runOrder.length ((index + 1) % scheduler.runOrder.length)
        (scheduler.runOrder.idxOf item.runId)
    rw [position]
    exact turn_behind_self (rotating.inside was) bound (List.idxOf_lt_length_of_mem member) apart
  | _ => exact absurd serves id

theorem Ahead.not_served (ahead : Ahead waiting served scheduler) {operation : Operation}
    (anyRun : operation.ForAnyRun) (waits : Waits waiting scheduler operation) :
    ¬ Serves served scheduler operation := by
  intro serves
  cases operation with
  | next activeScopes availablePools onlyRunId =>
    cases onlyRunId with
    | some runId => exact anyRun
    | none =>
      obtain ⟨index, item, selected, rfl⟩ := selection_of_serves serves
      obtain ⟨-, -, -, -, -, first⟩ := selection_first ahead.rotating selected
      have := first rfl waiting ahead.waits (candidate_iff.mp waits)
      have := ahead.turns
      omega
  | _ => exact serves

theorem mem_runOrder_of_waits (rotating : Rotating scheduler) {operation : Operation}
    (anyRun : operation.ForAnyRun) (waits : Waits waiting scheduler operation) :
    waiting ∈ scheduler.runOrder := by
  cases operation with
  | next activeScopes availablePools onlyRunId =>
    obtain ⟨item, eligible⟩ := waits
    have queued := eligible.queued
    unfold queue at queued
    cases items : scheduler.queues.get? waiting with
    | none => simp [items] at queued
    | some queue => exact rotating.sane.opened waiting queue items
  | _ => exact absurd anyRun id

/-- A Run that waits is served between two services of another one, in every history whose calls
for one Run keep the turns. -/
theorem next_fair_across_runs (operations : List Operation) : FairUnder KeepsTurn operations := by
  intro before first between second rest served waiting history firstAny secondAny different
    servesFirst along waits servesSecond
  have split : before ++ first :: between = (before ++ [first]) ++ between := by simp
  rw [split, runFrom_append] at waits servesSecond
  have rotating : ∀ inputs, Rotating (runFrom FairScheduler.step empty inputs) :=
    fun inputs => runFrom_invariant Rotating (fun _ operation holds => holds.step operation)
      rotating_empty inputs
  have member := mem_runOrder_of_waits (runFrom_append FairScheduler.step _ _ between ▸
    rotating ((before ++ [first]) ++ between)) secondAny waits
  rw [runOrder_of_along (fun _ _ holds => holds.1) along] at member
  have ahead : Ahead waiting served (runFrom FairScheduler.step empty (before ++ [first])) := by
    rw [runFrom_append] at member ⊢
    exact ahead_of_served (rotating before) servesFirst member different
  rcases served_or_ahead along ahead with ⟨earlier, operation, later, shape, serves⟩ | still
  · refine ⟨earlier, operation, later, shape, ?_⟩
    rw [show before ++ first :: earlier = (before ++ [first]) ++ earlier by simp, runFrom_append]
    exact serves
  · exact absurd servesSecond (still.not_served secondAny waits)

/-- A slice without predecessors. -/
def freeSlice (runId sliceId : String) : ReadySlice where
  runId := runId
  sliceId := sliceId
  dependencies := ∅
  writeScope := {sliceId}
  resourcePool := .model
  generation := 0
  orderedBeforeDependencies := ∅
  requiresDependencies := ∅
  generationNatural := by decide
  kindsCover := by decide

/-- Three Runs wait; the first is served, then the second in its turn, and the others follow. -/
def turns : List Operation :=
  [.submit (freeSlice "s" "one"), .submit (freeSlice "s" "two"), .submit (freeSlice "x" "one"),
    .submit (freeSlice "r" "one"), .submit (freeSlice "r" "two"), .next ∅ {.model} none,
    .next ∅ {.model} (some "x"), .next ∅ {.model} none, .next ∅ {.model} none]

/-- A call for the Run whose turn it is passes nobody over: the third Run is served. -/
theorem next_fair_in_turn : ∃ earlier operation later,
    [.next ∅ {.model} (some "x"), .next ∅ {.model} none] = earlier ++ operation :: later ∧
      Serves "r" (runFrom FairScheduler.step empty
        (turns.take 5 ++ .next ∅ {.model} none :: earlier)) operation := by
  refine next_fair_across_runs turns (turns.take 5) (.next ∅ {.model} none)
    [.next ∅ {.model} (some "x"), .next ∅ {.model} none] (.next ∅ {.model} none) [] "s" "r" rfl
    trivial trivial (by decide) ?_ ?_ ?_ ?_
  · exact ⟨freeSlice "s" "one", by decide, rfl⟩
  · refine ⟨⟨trivial, candidate_iff.mpr (by decide), fun _ => ?_⟩,
      ⟨trivial, candidate_iff.mpr (by decide), trivial⟩, trivial⟩
    decide
  · exact candidate_iff.mpr (by decide)
  · exact ⟨freeSlice "s" "two", by decide, rfl⟩

/-- Three Runs wait; the first is served, then the third out of turn, then the first again. -/
def overtaking : List Operation :=
  [.submit (freeSlice "s" "one"), .submit (freeSlice "s" "two"), .submit (freeSlice "r" "one"),
    .submit (freeSlice "x" "one"), .next ∅ {.model} none, .next ∅ {.model} (some "x"),
    .next ∅ {.model} none]

/-- A call for one Run takes the turn of the others: the second Run is passed over. -/
theorem run_overtaken : ¬ FairUnder (fun _ _ _ _ => True) overtaking := by
  intro fair
  have served := fair (overtaking.take 4) (.next ∅ {.model} none) [.next ∅ {.model} (some "x")]
    (.next ∅ {.model} none) [] "s" "r" rfl trivial trivial (by decide)
    ⟨freeSlice "s" "one", by decide, rfl⟩
    ⟨⟨trivial, candidate_iff.mpr (by decide), trivial⟩, trivial⟩
    (candidate_iff.mpr (by decide)) ⟨freeSlice "s" "two", by decide, rfl⟩
  obtain ⟨earlier, operation, later, shape, serves⟩ := served
  cases earlier with
  | nil =>
    obtain ⟨rfl, -⟩ := List.cons.inj shape
    obtain ⟨item, returned, own⟩ := serves
    have returnsX : (next (runFrom FairScheduler.step empty
        (overtaking.take 4 ++ [.next ∅ {.model} none])) ∅ {.model} (some "x")).2 =
        some (freeSlice "x" "one") := by decide
    rw [show overtaking.take 4 ++ [.next ∅ {.model} none] =
      overtaking.take 4 ++ (.next ∅ {.model} none) :: [] from rfl, returned] at returnsX
    rw [Option.some.inj returnsX] at own
    exact absurd own (by decide)
  | cons first earlier => simp at shape

end FairScheduler

end CodeMigrator
