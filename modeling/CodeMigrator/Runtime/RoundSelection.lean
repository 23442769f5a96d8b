import CodeMigrator.Runtime.ExecutionRounds
import CodeMigrator.Runtime.Reservations

/-!
# Selection of a round

The loop of a round goes through the queue of its Run once, in order, and takes each slice that
is ready and whose scope is free of the ones that it has taken. A slice that an earlier round
has left in the queue is taken like the others; a round stalls on it although its own work items
may be ready, and it stalls wrongly in no other way.
-/

namespace CodeMigrator
open Lib

namespace FairScheduler

variable {scheduler : FairScheduler} {activeScopes : Finset String}
  {availablePools : Finset ResourcePool} {runId : String} {item : ReadySlice}

/-! ## The next slice of one Run -/

/-- Every Run that has a queue is in the order of the Runs. -/
def Opened (scheduler : FairScheduler) : Prop :=
  ∀ runId items, scheduler.queues.get? runId = some items → runId ∈ scheduler.runOrder

/-- What `next` demands of an item of a Run. -/
def fits (scheduler : FairScheduler) (activeScopes : Finset String)
    (availablePools : Finset ResourcePool) (runId : String) (item : ReadySlice) : Bool :=
  scheduler.isReady runId item && decide (item.resourcePool ∈ availablePools) &&
    !overlaps item.writeScope (activeScopes ∪ scheduler.reservedScopes runId)

/-- The scheduler after `next` has returned an item. -/
def reserve (scheduler : FairScheduler) (item : ReadySlice) (cursor : Nat) : FairScheduler :=
  { scheduler with
    inFlight := insert item.identity scheduler.inFlight
    inFlightScopes := scheduler.inFlightScopes.set item.identity item.writeScope
    cursor := cursor }

theorem exists_offset {length position : Nat} (cursor : Nat) (bound : position < length) :
    ∃ offset < length, (cursor + offset) % length = position := by
  refine ⟨(position + length - cursor % length) % length, Nat.mod_lt _ (by omega), ?_⟩
  have below : cursor % length < length := Nat.mod_lt _ (by omega)
  calc (cursor + (position + length - cursor % length) % length) % length
      = (cursor % length + (position + length - cursor % length)) % length := by
        rw [Nat.add_mod_mod, Nat.mod_add_mod]
    _ = (position + length) % length := by
        rw [show cursor % length + (position + length - cursor % length) = position + length by omega]
    _ = position := by rw [Nat.add_mod_right, Nat.mod_eq_of_lt bound]

theorem selection_only :
    scheduler.selection activeScopes availablePools (some runId) =
      (List.range scheduler.runOrder.length).findSome? fun offset =>
        let index := (scheduler.cursor + offset) % scheduler.runOrder.length
        if scheduler.runOrder[index]? = some runId then
          (scheduler.candidate activeScopes availablePools runId).map (index, ·)
        else none := by
  unfold selection
  congr 1
  funext offset
  dsimp only
  split
  next absent => simp [absent]
  next other at_ =>
    rw [at_]
    by_cases same : other = runId
    · subst same
      simp
    · simp [same, Ne.symm same]

theorem next_only (opened : Opened scheduler) :
    (scheduler.candidate activeScopes availablePools runId = none ∧
        scheduler.next activeScopes availablePools (some runId) = (scheduler, none)) ∨
      ∃ item cursor, scheduler.candidate activeScopes availablePools runId = some item ∧
        scheduler.next activeScopes availablePools (some runId) =
          (scheduler.reserve item cursor, some item) := by
  unfold next
  cases chosen : scheduler.selection activeScopes availablePools (some runId) with
  | none =>
    refine .inl ⟨?_, rfl⟩
    rw [selection_only, List.findSome?_eq_none_iff] at chosen
    cases found : scheduler.candidate activeScopes availablePools runId with
    | none => rfl
    | some item =>
      have member : runId ∈ scheduler.runOrder := by
        have queued := List.mem_of_find?_eq_some found
        unfold queue at queued
        cases items : scheduler.queues.get? runId with
        | none => simp [items] at queued
        | some queue => exact opened runId queue items
      obtain ⟨position, bound, at_⟩ := List.mem_iff_getElem.mp member
      obtain ⟨offset, inRange, visits⟩ := exists_offset scheduler.cursor bound
      have missed := chosen offset (List.mem_range.mpr inRange)
      dsimp only at missed
      rw [visits, List.getElem?_eq_getElem bound, at_, if_pos rfl, found] at missed
      cases missed
  | some pair =>
    obtain ⟨index, item⟩ := pair
    rw [selection_only] at chosen
    obtain ⟨offset, -, result⟩ := List.exists_of_findSome?_eq_some chosen
    dsimp only at result
    split at result
    · obtain ⟨other, found, same⟩ := Option.map_eq_some_iff.mp result
      obtain ⟨-, rfl⟩ := Prod.mk.inj same
      exact .inr ⟨other, _, found, rfl⟩
    · cases result

/-! ## Reservations of the loop -/

theorem mem_reservedScopes {path : String} : path ∈ scheduler.reservedScopes runId ↔
    ∃ identity scopes, scheduler.inFlightScopes.get? identity = some scopes ∧ identity.1 = runId ∧
      path ∈ scopes := by
  have union : ∀ sets : List (Finset String),
      path ∈ sets.foldr (· ∪ ·) ∅ ↔ ∃ scopes ∈ sets, path ∈ scopes := by
    intro sets
    induction sets with
    | nil => simp
    | cons first sets ih => simp [ih]
  unfold reservedScopes
  rw [union]
  constructor
  · rintro ⟨scopes, member, inside⟩
    obtain ⟨⟨identity, same⟩, entry, rfl⟩ := List.mem_map.mp member
    obtain ⟨stored, own⟩ := List.mem_filter.mp entry
    exact ⟨identity, same, (Dict.get?_eq_some_iff _ _ _).mpr stored, by simpa using own, inside⟩
  · rintro ⟨identity, scopes, found, own, inside⟩
    refine ⟨scopes, List.mem_map.mpr ⟨(identity, scopes), ?_, rfl⟩, inside⟩
    exact List.mem_filter.mpr ⟨(Dict.get?_eq_some_iff _ _ _).mp found, by simpa using own⟩

theorem reservedScopes_reserve (own : item.runId = runId)
    (fresh : scheduler.inFlightScopes.get? item.identity = none) (cursor : Nat) :
    (scheduler.reserve item cursor).reservedScopes runId =
      scheduler.reservedScopes runId ∪ item.writeScope := by
  ext path
  rw [Finset.mem_union, mem_reservedScopes, mem_reservedScopes]
  constructor
  · rintro ⟨identity, scopes, found, ofRun, inside⟩
    simp only [reserve, Dict.get?_set] at found
    split at found
    · exact .inr (Option.some.inj found ▸ inside)
    · exact .inl ⟨identity, scopes, found, ofRun, inside⟩
  · rintro (⟨identity, scopes, found, ofRun, inside⟩ | inside)
    · refine ⟨identity, scopes, ?_, ofRun, inside⟩
      have different : identity ≠ item.identity := by
        rintro rfl
        rw [fresh] at found
        cases found
      simp only [reserve, Dict.get?_set, if_neg different, found]
    · refine ⟨item.identity, item.writeScope, ?_, own, inside⟩
      simp only [reserve, Dict.get?_set, if_pos]

/-! ## The greedy choice -/

/-- From the queue, in order: each item that is ready and whose scope is free of the taken
ones, and of the ones chosen before it. -/
def greedy (ready : ReadySlice → Bool) : Finset String → List ReadySlice → List ReadySlice
  | _, [] => []
  | taken, item :: rest =>
    if ready item && !overlaps item.writeScope taken then
      item :: greedy ready (taken ∪ item.writeScope) rest
    else greedy ready taken rest

theorem greedy_eq_nil {ready : ReadySlice → Bool} {taken : Finset String} {items : List ReadySlice}
    (nothing : greedy ready taken items = []) :
    ∀ item ∈ items, (ready item && !overlaps item.writeScope taken) = false := by
  induction items with
  | nil => exact fun _ member => absurd member List.not_mem_nil
  | cons first items ih =>
    unfold greedy at nothing
    split at nothing
    · cases nothing
    · next passed =>
      intro item member
      rcases List.mem_cons.mp member with rfl | later
      · simpa using passed
      · exact ih nothing item later

/-- The items of the plan's resource pools that the scheduler takes for ready. -/
def poolReady (scheduler : FairScheduler) (availablePools : Finset ResourcePool) (runId : String)
    (item : ReadySlice) : Bool :=
  scheduler.isReady runId item && decide (item.resourcePool ∈ availablePools)

theorem fits_eq (item : ReadySlice) :
    scheduler.fits activeScopes availablePools runId item =
      (scheduler.poolReady availablePools runId item &&
        !overlaps item.writeScope (activeScopes ∪ scheduler.reservedScopes runId)) := rfl

theorem poolReady_reserve {other : ReadySlice} (different : other.identity ≠ item.identity)
    (cursor : Nat) :
    (scheduler.reserve item cursor).poolReady availablePools runId other =
      scheduler.poolReady availablePools runId other := by
  have kept : other.identity ∈ (scheduler.reserve item cursor).inFlight ↔
      other.identity ∈ scheduler.inFlight := by
    simp [reserve, different]
  simp only [poolReady, isReady, kept]
  rfl

theorem fits_reserve_false {other : ReadySlice} (own : item.runId = runId)
    (fresh : scheduler.inFlightScopes.get? item.identity = none) (cursor : Nat)
    (misfit : scheduler.fits activeScopes availablePools runId other = false) :
    (scheduler.reserve item cursor).fits (activeScopes ∪ item.writeScope) availablePools runId other =
      false := by
  by_cases same : other.identity = item.identity
  · simp [fits, isReady, reserve, same]
  · rw [fits_eq] at misfit ⊢
    rw [poolReady_reserve same, reservedScopes_reserve own fresh]
    cases ready : scheduler.poolReady availablePools runId other with
    | false => rfl
    | true =>
      rw [ready, Bool.true_and] at misfit
      rw [Bool.true_and]
      simp only [Bool.not_eq_false'] at misfit ⊢
      rw [overlaps_iff] at misfit ⊢
      refine misfit.mono ?_
      intro path inside
      simp only [Finset.mem_union] at inside ⊢
      tauto

/-! ## Calls of a round -/

/-- The invariant of the reservations, with every queue in the order of the Runs. -/
structure Sane (scheduler : FairScheduler) : Prop extends Reserved scheduler where
  opened : Opened scheduler

theorem sane_empty : Sane empty := ⟨reserved_empty, fun _ _ found => by cases found⟩

theorem Opened.frame (opened : Opened scheduler) {other : FairScheduler}
    (queues : other.queues = scheduler.queues) (runOrder : other.runOrder = scheduler.runOrder) :
    Opened other := by
  intro runId items found
  rw [queues] at found
  rw [runOrder]
  exact opened runId items found

theorem Opened.setQueue (opened : Opened scheduler) (known : runId ∈ scheduler.runOrder)
    (items : List ReadySlice) : Opened (scheduler.setQueue runId items) := by
  intro other queue found
  simp only [FairScheduler.setQueue, Dict.get?_set] at found
  split at found
  · next same => exact same ▸ known
  · exact opened other queue found

theorem Opened.opened (opened : Opened scheduler) (runId : String) :
    Opened (scheduler.opened runId) ∧ runId ∈ (scheduler.opened runId).runOrder := by
  unfold FairScheduler.opened
  split
  · constructor
    · intro other items found
      exact List.mem_append_left _ (opened other items found)
    · exact List.mem_append_right _ (List.mem_singleton_self runId)
  · next present =>
    refine ⟨opened, ?_⟩
    cases found : scheduler.queues.get? runId with
    | none => rw [found] at present; simp at present
    | some items => exact opened runId items found

theorem Opened.submit (opened : Opened scheduler) (item : ReadySlice) :
    Opened (scheduler.submit item).1 := by
  obtain ⟨start, known⟩ := opened.opened item.runId
  unfold FairScheduler.submit
  dsimp only
  split
  · exact start.setQueue known _
  · split
    · exact start
    · split
      · exact start
      · split
        · exact start
        · refine Opened.setQueue ?_ ?_ _
          · split
            · exact start.frame rfl rfl
            · exact start
          · split
            · exact known
            · exact known

theorem Opened.step (opened : Opened scheduler) (operation : Operation) :
    Opened (scheduler.step operation) := by
  cases operation with
  | submit item => exact opened.submit item
  | next activeScopes availablePools onlyRunId =>
    simp only [FairScheduler.step, next]
    split
    · exact opened
    · exact opened.frame rfl rfl
  | release runId sliceId generation =>
    simp only [FairScheduler.step, release]
    split
    · exact opened
    · exact opened.frame rfl rfl
  | awaitIntegration runId sliceId generation =>
    simp only [FairScheduler.step, awaitIntegration]
    split
    · exact opened
    · exact opened.frame rfl rfl
  | markIntegrated runId sliceId generation =>
    simp only [FairScheduler.step, markIntegrated]
    split
    · split
      · exact opened.frame rfl rfl
      · exact opened
    · split
      · exact opened.frame rfl rfl
      · exact opened.frame rfl rfl
  | restoreCommittedFacts runId integrated failed => exact opened.frame rfl rfl

/-- Every operation of the scheduler keeps it sane. -/
theorem Sane.step (sane : Sane scheduler) (operation : Operation) : Sane (scheduler.step operation) :=
  ⟨sane.toReserved.step operation, sane.opened.step operation⟩

theorem inTurn_invariant {α : Type} {Inv : FairScheduler → Prop}
    {call : FairScheduler → α → FairScheduler × Except String Unit} {xs : List α}
    (keeps : ∀ scheduler, ∀ x ∈ xs, Inv scheduler → Inv (call scheduler x).1)
    (holds : Inv scheduler) : Inv (inTurn call scheduler xs).1 := by
  induction xs generalizing scheduler with
  | nil => exact holds
  | cons x xs ih =>
    have first := keeps scheduler x List.mem_cons_self holds
    unfold inTurn
    split
    · next next text raised =>
      rw [raised] at first
      exact first
    · next next made =>
      rw [made] at first
      exact ih (fun scheduler y member => keeps scheduler y (List.mem_cons_of_mem _ member)) first

theorem releaseAll_invariant {Inv : FairScheduler → Prop}
    (keeps : ∀ scheduler operation, Inv scheduler → Inv (scheduler.step operation)) (runId : String)
    (items : List ExecutionWorkItem) (holds : Inv scheduler) :
    Inv (scheduler.releaseAll runId items) := by
  induction items generalizing scheduler with
  | nil => exact holds
  | cons item items ih =>
    exact ih (keeps scheduler (.release runId item.ready.sliceId (some item.ready.generation)) holds)

end FairScheduler

namespace ExecutionRounds
open FairScheduler

variable {checkpointReceiptDigest : CheckpointReceipt → Option Sha256}
  {plan : ExecutionRoundPlan checkpointReceiptDigest} {scheduler : FairScheduler}
  {Inv : FairScheduler → Prop}

/-! ## What a round keeps -/

section Invariant

variable (keeps : ∀ scheduler operation, Inv scheduler → Inv (scheduler.step operation))

include keeps

theorem restorePlan_invariant (holds : Inv scheduler) : Inv (restorePlan scheduler plan).1 := by
  have restored := keeps scheduler (.restoreCommittedFacts plan.runId.str plan.completedSliceIds
    plan.terminalSliceFailures) holds
  have awaited : Inv (inTurn (fun (scheduler : FairScheduler) (pending : String × Int) =>
      scheduler.awaitIntegration plan.runId.str pending.1 pending.2)
      (scheduler.restoreCommittedFacts plan.runId.str plan.completedSliceIds
        plan.terminalSliceFailures) plan.pendingIntegrations).1 := by
    refine inTurn_invariant ?_ restored
    intro scheduler pending _ inv
    exact keeps scheduler (.awaitIntegration plan.runId.str pending.1 pending.2) inv
  unfold restorePlan
  dsimp only
  split
  · next raised =>
    rw [raised] at awaited
    exact awaited
  · next made =>
    rw [made] at awaited
    exact inTurn_invariant (fun scheduler item _ inv => keeps scheduler (.submit item.ready) inv)
      awaited

theorem select_invariant (places : Nat) : ∀ {scheduler : FairScheduler} (activeScopes : Finset String)
    (offered : List ReadySlice) (selected : List ExecutionWorkItem), Inv scheduler →
    Inv (select plan places scheduler activeScopes offered selected).scheduler := by
  induction places with
  | zero => exact fun _ _ _ holds => holds
  | succ places ih =>
    intro scheduler activeScopes offered selected holds
    have stepped : Inv (scheduler.next activeScopes plan.availablePools (some plan.runId.str)).1 :=
      keeps scheduler (.next activeScopes plan.availablePools (some plan.runId.str)) holds
    unfold select
    split
    · next returned =>
      rw [returned] at stepped
      exact stepped
    · next next ready returned =>
      rw [returned] at stepped
      split
      · exact releaseAll_invariant keeps _ _
          (keeps next (.release ready.runId ready.sliceId (some ready.generation)) stepped)
      · exact ih _ _ _ stepped

theorem recover_invariant (runKey : String) (terminals : List ExecutionAgentOutcome)
    (holds : Inv scheduler) : Inv (recover scheduler runKey terminals).1 := by
  refine inTurn_invariant ?_ holds
  intro scheduler terminal _ inv
  split
  · next sliceRef _ _ =>
    exact keeps scheduler
      (.awaitIntegration runKey sliceRef.sliceId.str (sliceRef.generation : Nat)) inv
  · exact inv

theorem beginRound_invariant (maxParallelism : Nat) (runId : RunId) (holds : Inv scheduler) :
    Inv (beginRound maxParallelism scheduler runId plan).1 := by
  have restored := @restorePlan_invariant _ plan _ _ keeps holds
  unfold beginRound
  split
  · exact holds
  split
  · next raised =>
    rw [raised] at restored
    exact restored
  next loaded made =>
  rw [made] at restored
  split
  · exact restored
  have selected := @select_invariant _ plan _ keeps maxParallelism _ ∅ [] [] restored
  dsimp only at selected ⊢
  split
  · exact selected
  split
  · exact selected
  have recovered := recover_invariant keeps plan.runId.str plan.recoveredTerminals selected
  split
  · next raised =>
    rw [raised] at recovered
    exact recovered
  · next done =>
    rw [done] at recovered
    exact recovered

theorem finishRound_invariant (round : DispatchedRound checkpointReceiptDigest) (gathered : Gathered)
    (holds : Inv scheduler) : Inv (finishRound scheduler round gathered).1 := by
  unfold finishRound
  split
  · exact releaseAll_invariant keeps _ _ holds
  split
  · exact releaseAll_invariant keeps _ _ holds
  next outcomes _ =>
  have recorded : Inv (recordOutcomes scheduler round.plan.runId.str
      (round.selected.zip outcomes)).1 := by
    refine inTurn_invariant ?_ holds
    rintro scheduler ⟨item, outcome⟩ _ inv
    dsimp only
    split
    · exact keeps scheduler
        (.release round.plan.runId.str item.ready.sliceId (some item.ready.generation)) inv
    · exact keeps scheduler
        (.awaitIntegration round.plan.runId.str item.ready.sliceId item.ready.generation) inv
  split
  · next raised =>
    rw [raised] at recorded
    exact recorded
  · next done =>
    rw [done] at recorded
    exact recorded

end Invariant

end ExecutionRounds

end CodeMigrator
