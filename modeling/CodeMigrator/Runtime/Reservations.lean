import CodeMigrator.Runtime.FairScheduler

/-!
# Reservations of the scheduler

What holds after every history of calls: every reservation belongs to the item that is queued
for its slice, and the reserved scopes of a Run do not overlap. What `next` returns is ready,
and a completion of an old generation leaves the current one alone.
-/

namespace CodeMigrator
open Lib

namespace FairScheduler

/-! ## Lists of items -/

section Items

variable {items : List ReadySlice} {item other : ReadySlice} {index : Nat}

theorem find?_sliceId (distinct : (items.map (·.sliceId)).Nodup) (member : item ∈ items) :
    items.find? (·.sliceId = item.sliceId) = some item := by
  induction items with
  | nil => exact absurd member List.not_mem_nil
  | cons first items ih =>
    rw [List.map_cons, List.nodup_cons] at distinct
    rcases List.mem_cons.mp member with rfl | later
    · simp
    · have different : ¬ first.sliceId = item.sliceId := by
        intro same
        exact distinct.1 (same ▸ List.mem_map_of_mem later)
      rw [List.find?_cons_of_neg (by simpa using different)]
      exact ih distinct.2 later

theorem map_sliceId_set (found : items[index]? = some other) (same : other.sliceId = item.sliceId) :
    (items.set index item).map (·.sliceId) = items.map (·.sliceId) := by
  rw [List.map_set, ← same]
  obtain ⟨bound, at_⟩ := List.getElem?_eq_some_iff.mp found
  rw [← at_, ← List.getElem_map (fun item : ReadySlice => item.sliceId)]
  · exact List.set_getElem_self _
  · simpa using bound

theorem mem_set_of_ne (found : items[index]? = some other) {kept : ReadySlice}
    (member : kept ∈ items) (different : kept ≠ other) : kept ∈ items.set index item := by
  obtain ⟨position, at_⟩ := List.mem_iff_getElem?.mp member
  have apart : index ≠ position := by
    rintro rfl
    rw [found] at at_
    exact different (Option.some.inj at_).symm
  exact List.mem_iff_getElem?.mpr ⟨position, by rw [List.getElem?_set_ne apart, at_]⟩

end Items

/-! ## Scopes -/

/-- One path lies below the other, by segments. -/
def Nested (inner outer : String) : Prop := Below inner (rstrip outer '/')

/-- Two scopes have a path in common, or a path of the one lies below a path of the other. -/
def ScopesOverlap (left right : Finset String) : Prop :=
  ∃ first ∈ left, ∃ second ∈ right,
    first = second ∨ Nested first second ∨ Nested second first

theorem overlaps_iff (left right : Finset String) :
    overlaps left right = true ↔ ScopesOverlap left right := by
  simp only [overlaps, ScopesOverlap, pathsOverlap, Nested, decide_eq_true_eq, Bool.or_eq_true,
    beq_iff_eq, startsWith_slash_iff, or_assoc]

theorem ScopesOverlap.symm {left right : Finset String} (overlap : ScopesOverlap left right) :
    ScopesOverlap right left := by
  obtain ⟨first, inLeft, second, inRight, clash⟩ := overlap
  refine ⟨second, inRight, first, inLeft, ?_⟩
  rcases clash with same | below | above
  · exact .inl same.symm
  · exact .inr (.inr below)
  · exact .inr (.inl above)

theorem ScopesOverlap.mono {left right more : Finset String} (overlap : ScopesOverlap left right)
    (inside : right ⊆ more) : ScopesOverlap left more := by
  obtain ⟨first, inLeft, second, inRight, clash⟩ := overlap
  exact ⟨first, inLeft, second, inside inRight, clash⟩

theorem mem_foldr_union {scopes : Finset String} {sets : List (Finset String)} (member : scopes ∈ sets) :
    scopes ⊆ sets.foldr (· ∪ ·) ∅ := by
  induction sets with
  | nil => exact absurd member List.not_mem_nil
  | cons first sets ih =>
    rw [List.foldr_cons]
    rcases List.mem_cons.mp member with rfl | later
    · exact Finset.subset_union_left
    · exact (ih later).trans Finset.subset_union_right

theorem subset_reservedScopes {scheduler : FairScheduler} {identity : SliceIdentity}
    {scopes : Finset String} (reserved : scheduler.inFlightScopes.get? identity = some scopes) :
    scopes ⊆ scheduler.reservedScopes identity.1 := by
  have entry := (Dict.get?_eq_some_iff _ _ _).mp reserved
  refine mem_foldr_union (List.mem_map.mpr ⟨(identity, scopes), ?_, rfl⟩)
  exact List.mem_filter.mpr ⟨entry, by simp⟩

/-! ## What next returns -/

/-- What `next` demands of the item that it returns. -/
structure Dispatchable (scheduler : FairScheduler) (item : ReadySlice) : Prop where
  queued : item ∈ scheduler.queue item.runId
  unsettled : item.sliceId ∉ scheduler.integratedIn item.runId ∧
    item.sliceId ∉ scheduler.failedIn item.runId
  unreserved : item.identity ∉ scheduler.inFlight
  notAwaiting : item.identity ∉ scheduler.awaitingIntegration
  requires : item.requiresDependencies ⊆ scheduler.integratedIn item.runId
  orderedBefore : item.orderedBeforeDependencies ⊆
    scheduler.integratedIn item.runId ∪ scheduler.failedIn item.runId
  apart : ¬ ScopesOverlap item.writeScope (scheduler.reservedScopes item.runId)

/-- The items of a queue belong to its Run and are for different slices. -/
structure Queued (scheduler : FairScheduler) : Prop where
  own : ∀ runId, ∀ item ∈ scheduler.queue runId, item.runId = runId
  distinct : ∀ runId, ((scheduler.queue runId).map (·.sliceId)).Nodup

section Next

variable {scheduler : FairScheduler} {activeScopes : Finset String}
  {availablePools : Finset ResourcePool} {onlyRunId : Option String}

theorem candidate_dispatchable (queued : Queued scheduler) {runId : String} {item : ReadySlice}
    (found : scheduler.candidate activeScopes availablePools runId = some item) :
    Dispatchable scheduler item := by
  have member := List.mem_of_find?_eq_some found
  have passes := List.find?_some found
  obtain rfl := queued.own runId item member
  simp only [Bool.and_eq_true, isReady, decide_eq_true_eq, Bool.not_eq_true'] at passes
  obtain ⟨⟨⟨unintegrated, unfailed, unreserved, notAwaiting, requires, ordered⟩, -⟩, free⟩ := passes
  refine ⟨member, ⟨unintegrated, unfailed⟩, unreserved, notAwaiting, requires, ordered, ?_⟩
  intro overlap
  rw [(overlaps_iff _ _).mpr (overlap.mono Finset.subset_union_right)] at free
  cases free

theorem next_cases (queued : Queued scheduler) :
    scheduler.next activeScopes availablePools onlyRunId = (scheduler, none) ∨
      ∃ item cursor, Dispatchable scheduler item ∧
        scheduler.next activeScopes availablePools onlyRunId =
          ({ scheduler with
              inFlight := insert item.identity scheduler.inFlight
              inFlightScopes := scheduler.inFlightScopes.set item.identity item.writeScope
              cursor := cursor }, some item) := by
  unfold next
  cases selected : scheduler.selection activeScopes availablePools onlyRunId with
  | none => exact .inl rfl
  | some chosen =>
    obtain ⟨index, item⟩ := chosen
    obtain ⟨offset, -, visited⟩ := List.exists_of_findSome?_eq_some selected
    refine .inr ⟨item, _, ?_, rfl⟩
    dsimp only at visited
    split at visited
    · cases visited
    · split at visited
      · cases visited
      · obtain ⟨found, chosen, same⟩ := Option.map_eq_some_iff.mp visited
        cases same
        exact candidate_dispatchable queued chosen

end Next

/-! ## The invariant -/

/-- Every reservation has a scope and belongs to a queued item, and the scopes of one Run do
not overlap. -/
structure Reserved (scheduler : FairScheduler) : Prop extends Queued scheduler where
  keys : ∀ identity, identity ∈ scheduler.inFlight ↔
    ∃ scopes, scheduler.inFlightScopes.get? identity = some scopes
  current : ∀ identity ∈ scheduler.inFlight,
    ∃ item ∈ scheduler.queue identity.1, item.identity = identity
  apart : ∀ left right leftScopes rightScopes,
    scheduler.inFlightScopes.get? left = some leftScopes →
    scheduler.inFlightScopes.get? right = some rightScopes → left.1 = right.1 → left ≠ right →
    ¬ ScopesOverlap leftScopes rightScopes

theorem reserved_empty : Reserved empty where
  own := fun _ item member => absurd member List.not_mem_nil
  distinct := fun _ => List.nodup_nil
  keys := by simp [empty]
  current := by simp [empty]
  apart := by simp [empty]

section Steps

variable {scheduler : FairScheduler}

theorem Reserved.frame (reserved : Reserved scheduler) {other : FairScheduler}
    (queues : other.queues = scheduler.queues) (inFlight : other.inFlight = scheduler.inFlight)
    (scopes : other.inFlightScopes = scheduler.inFlightScopes) : Reserved other := by
  have queue : other.queue = scheduler.queue := by
    unfold FairScheduler.queue
    rw [queues]
  refine ⟨⟨?_, ?_⟩, ?_, ?_, ?_⟩
  · rw [queue]
    exact reserved.own
  · rw [queue]
    exact reserved.distinct
  · rw [inFlight, scopes]
    exact reserved.keys
  · rw [inFlight, queue]
    exact reserved.current
  · rw [scopes]
    exact reserved.apart

theorem Reserved.unreserve (reserved : Reserved scheduler) (identity : SliceIdentity) :
    Reserved (scheduler.unreserve identity) where
  own := reserved.own
  distinct := reserved.distinct
  keys := by
    intro other
    simp only [FairScheduler.unreserve, Finset.mem_erase, Dict.get?_erase]
    by_cases same : other = identity
    · simp [same]
    · simp [same, reserved.keys other]
  current := fun other member => reserved.current other (Finset.mem_of_mem_erase member)
  apart := by
    intro left right leftScopes rightScopes atLeft atRight
    simp only [FairScheduler.unreserve, Dict.get?_erase] at atLeft atRight
    split at atLeft
    · cases atLeft
    split at atRight
    · cases atRight
    exact reserved.apart left right leftScopes rightScopes atLeft atRight

theorem Reserved.next (reserved : Reserved scheduler) (activeScopes : Finset String)
    (availablePools : Finset ResourcePool) (onlyRunId : Option String) :
    Reserved (scheduler.next activeScopes availablePools onlyRunId).1 := by
  rcases next_cases reserved.toQueued with unchanged | ⟨item, cursor, dispatchable, taken⟩
  · rw [unchanged]
    exact reserved
  rw [taken]
  have free : ∀ {identity : SliceIdentity} {scopes : Finset String},
      scheduler.inFlightScopes.get? identity = some scopes → identity.1 = item.runId →
      ¬ ScopesOverlap item.writeScope scopes := by
    intro identity scopes found sameRun overlap
    have inside := subset_reservedScopes found
    rw [sameRun] at inside
    exact dispatchable.apart (overlap.mono inside)
  refine ⟨⟨reserved.own, reserved.distinct⟩, ?_, ?_, ?_⟩
  · intro identity
    simp only [Finset.mem_insert, Dict.get?_set]
    by_cases same : identity = item.identity
    · simp [same]
    · simp [same, reserved.keys identity]
  · intro identity member
    rcases Finset.mem_insert.mp member with rfl | earlier
    · exact ⟨item, dispatchable.queued, rfl⟩
    · exact reserved.current identity earlier
  · intro left right leftScopes rightScopes atLeft atRight sameRun different
    simp only [Dict.get?_set] at atLeft atRight
    split at atLeft
    · rename_i isLeft
      cases atLeft
      subst isLeft
      rw [if_neg (Ne.symm different)] at atRight
      exact free atRight sameRun.symm
    · split at atRight
      · rename_i isRight
        cases atRight
        subst isRight
        exact fun overlap => free atLeft sameRun overlap.symm
      · exact reserved.apart left right leftScopes rightScopes atLeft atRight sameRun different

theorem queue_setQueue (scheduler : FairScheduler) (runId other : String) (items : List ReadySlice) :
    (scheduler.setQueue runId items).queue other =
      if other = runId then items else scheduler.queue other := by
  unfold queue setQueue
  rw [Dict.get?_set]
  by_cases same : other = runId
  · rw [if_pos same, if_pos same]
    rfl
  · rw [if_neg same, if_neg same]

theorem Reserved.setQueue (reserved : Reserved scheduler) {runId : String}
    {items : List ReadySlice} (own : ∀ item ∈ items, item.runId = runId)
    (distinct : (items.map (·.sliceId)).Nodup)
    (keeps : ∀ item ∈ scheduler.queue runId, item.identity ∈ scheduler.inFlight → item ∈ items) :
    Reserved (scheduler.setQueue runId items) := by
  refine ⟨⟨?_, ?_⟩, reserved.keys, ?_, reserved.apart⟩
  · intro other item member
    rw [queue_setQueue] at member
    split at member
    · rename_i same
      rw [same]
      exact own item member
    · exact reserved.own other item member
  · intro other
    rw [queue_setQueue]
    split
    · exact distinct
    · exact reserved.distinct other
  · intro identity member
    obtain ⟨item, queued, same⟩ := reserved.current identity member
    refine ⟨item, ?_, same⟩
    rw [queue_setQueue]
    split
    · rename_i sameRun
      rw [sameRun] at queued
      exact keeps item queued (same ▸ member)
    · exact queued

theorem opened_frame (scheduler : FairScheduler) (runId : String) :
    (scheduler.opened runId).queues = scheduler.queues ∧
      (scheduler.opened runId).inFlight = scheduler.inFlight ∧
      (scheduler.opened runId).inFlightScopes = scheduler.inFlightScopes := by
  unfold opened
  split
  · exact ⟨rfl, rfl, rfl⟩
  · exact ⟨rfl, rfl, rfl⟩

theorem Reserved.append (reserved : Reserved scheduler) {item : ReadySlice}
    (absent : ∀ other ∈ scheduler.queue item.runId, other.sliceId ≠ item.sliceId) :
    Reserved (scheduler.setQueue item.runId (scheduler.queue item.runId ++ [item])) := by
  refine reserved.setQueue ?_ ?_ ?_
  · intro other member
    rcases List.mem_append.mp member with earlier | last
    · exact reserved.own item.runId other earlier
    · rw [List.mem_singleton.mp last]
  · rw [List.map_append, List.nodup_append]
    refine ⟨reserved.distinct item.runId, List.nodup_singleton _, ?_⟩
    intro sliceId earlier last isLast same
    obtain ⟨other, member, rfl⟩ := List.mem_map.mp earlier
    rw [List.map_singleton, List.mem_singleton] at isLast
    exact absent other member (same.trans isLast)
  · exact fun other member _ => List.mem_append_left _ member

theorem Reserved.replace (reserved : Reserved scheduler) {item existing : ReadySlice} {index : Nat}
    (found : (scheduler.queue item.runId)[index]? = some existing)
    (sameSlice : existing.sliceId = item.sliceId)
    (sameItem : existing.identity ∈ scheduler.inFlight → existing = item) :
    Reserved (scheduler.setQueue item.runId ((scheduler.queue item.runId).set index item)) := by
  refine reserved.setQueue ?_ ?_ ?_
  · intro other member
    rcases List.mem_or_eq_of_mem_set member with earlier | rfl
    · exact reserved.own item.runId other earlier
    · rfl
  · rw [map_sliceId_set found sameSlice]
    exact reserved.distinct item.runId
  · intro other member inFlight
    by_cases isExisting : other = existing
    · rw [isExisting] at inFlight ⊢
      obtain ⟨bound, -⟩ := List.getElem?_eq_some_iff.mp found
      rw [sameItem inFlight]
      exact List.mem_set bound item
    · exact mem_set_of_ne found member isExisting

theorem Reserved.submit (reserved : Reserved scheduler) (item : ReadySlice) :
    Reserved (scheduler.submit item).1 := by
  obtain ⟨queues, inFlight, scopes⟩ := opened_frame scheduler item.runId
  have opened := reserved.frame queues inFlight scopes
  have sameQueue : (scheduler.opened item.runId).queue item.runId = scheduler.queue item.runId := by
    unfold queue
    rw [queues]
  unfold FairScheduler.submit
  rw [← sameQueue, ← inFlight]
  dsimp only
  generalize scheduler.opened item.runId = start at opened
  cases position : (start.queue item.runId).findIdx? (·.sliceId = item.sliceId) with
  | none =>
    apply opened.append
    intro other member
    simpa using List.findIdx?_eq_none_iff.mp position other member
  | some index =>
    dsimp only
    cases found : (start.queue item.runId)[index]? with
    | none => exact opened
    | some existing =>
      dsimp only
      split
      · exact opened
      split
      · exact opened
      rename_i unequal
      have sameSlice : existing.sliceId = item.sliceId := by
        obtain ⟨bound, passes, -⟩ := List.findIdx?_eq_some_iff_getElem.mp position
        obtain ⟨_, at_⟩ := List.getElem?_eq_some_iff.mp found
        rw [at_] at passes
        simpa using passes
      have sameItem : existing.identity ∈ start.inFlight → existing = item := by
        intro reserved
        by_contra different
        exact unequal ⟨different, reserved⟩
      split
      · have forgotten : Reserved (start.forget item.runId item.sliceId) :=
          opened.frame rfl rfl rfl
        exact forgotten.replace found sameSlice sameItem
      · exact opened.replace found sameSlice sameItem

theorem Reserved.markIntegrated (reserved : Reserved scheduler) (runId sliceId : String)
    (generation : Option Int) : Reserved (scheduler.markIntegrated runId sliceId generation) := by
  unfold FairScheduler.markIntegrated
  dsimp only
  have released : ∀ {marked : FairScheduler} (selected : Int), marked.queues = scheduler.queues →
      marked.inFlight = scheduler.inFlight →
      marked.inFlightScopes = scheduler.inFlightScopes →
      Reserved (marked.unreserve (runId, sliceId, selected)) := by
    intro marked selected queues inFlight scopes
    exact (reserved.frame queues inFlight scopes).unreserve _
  by_cases isCurrent : generation = none ∨ generation = scheduler.generationFor runId sliceId none
  · rw [if_pos isCurrent]
    split
    · exact reserved.frame rfl rfl rfl
    · exact released _ rfl rfl rfl
  · rw [if_neg isCurrent]
    split
    · exact reserved.frame rfl rfl rfl
    · exact released _ rfl rfl rfl

theorem Reserved.step (reserved : Reserved scheduler) (operation : Operation) :
    Reserved (scheduler.step operation) := by
  cases operation with
  | submit item => exact reserved.submit item
  | next activeScopes availablePools onlyRunId =>
    exact reserved.next activeScopes availablePools onlyRunId
  | release runId sliceId generation =>
    simp only [FairScheduler.step, release]
    split
    · exact reserved
    · exact reserved.unreserve _
  | awaitIntegration runId sliceId generation =>
    simp only [FairScheduler.step, awaitIntegration]
    split
    · exact reserved
    · refine Reserved.unreserve ?_ _
      exact reserved.frame rfl rfl rfl
  | markIntegrated runId sliceId generation =>
    exact reserved.markIntegrated runId sliceId generation
  | restoreCommittedFacts runId integratedSliceIds terminalFailureSliceIds =>
    exact reserved.frame rfl rfl rfl

end Steps

/-! ## Every history -/

/-- The reservations are exactly the slices in flight, each is for the generation that is
queued for its slice, and those of one Run do not overlap. -/
structure ReservationsSound (scheduler : FairScheduler) : Prop where
  keys : ∀ identity, identity ∈ scheduler.inFlight ↔ identity ∈ scheduler.inFlightScopes.keys
  current : ∀ runId sliceId generation, (runId, sliceId, generation) ∈ scheduler.inFlight →
    ∃ item, scheduler.queuedItem runId sliceId = some item ∧
      item.identity = (runId, sliceId, generation)
  oneGeneration : ∀ runId sliceId generation other,
    (runId, sliceId, generation) ∈ scheduler.inFlight →
    (runId, sliceId, other) ∈ scheduler.inFlight → generation = other
  apart : ∀ runId left right leftGeneration rightGeneration leftScopes rightScopes, left ≠ right →
    scheduler.inFlightScopes.get? (runId, left, leftGeneration) = some leftScopes →
    scheduler.inFlightScopes.get? (runId, right, rightGeneration) = some rightScopes →
    ¬ ScopesOverlap leftScopes rightScopes

variable {scheduler : FairScheduler}

theorem Reserved.sound (reserved : Reserved scheduler) : ReservationsSound scheduler := by
  have current : ∀ runId sliceId generation, (runId, sliceId, generation) ∈ scheduler.inFlight →
      ∃ item, scheduler.queuedItem runId sliceId = some item ∧
        item.identity = (runId, sliceId, generation) := by
    intro runId sliceId generation member
    obtain ⟨item, queued, same⟩ := reserved.current _ member
    have found := find?_sliceId (reserved.distinct runId) queued
    rw [show item.sliceId = sliceId from congrArg (fun identity => identity.2.1) same] at found
    exact ⟨item, found, same⟩
  refine ⟨?_, current, ?_, ?_⟩
  · intro identity
    rw [Dict.mem_keys_iff]
    exact reserved.keys identity
  · intro runId sliceId generation other first second
    obtain ⟨item, found, same⟩ := current runId sliceId generation first
    obtain ⟨again, foundAgain, sameAgain⟩ := current runId sliceId other second
    rw [found] at foundAgain
    cases foundAgain
    rw [same] at sameAgain
    exact congrArg (fun identity => identity.2.2) sameAgain
  · intro runId left right leftGeneration rightGeneration leftScopes rightScopes different atLeft
      atRight
    refine reserved.apart _ _ _ _ atLeft atRight rfl ?_
    exact fun same => different (congrArg (fun identity => identity.2.1) same)

/-- The reservations are sound after every history of calls. -/
theorem reservations_sound (operations : List Operation) :
    Always FairScheduler.step ReservationsSound empty operations :=
  fun earlier _ _ => (runFrom_invariant Reserved (fun _ operation reserved => reserved.step operation)
    reserved_empty earlier).sound

/-- What a call does to the facts that dependencies rest on: `next` returns an item whose
predecessors are settled and that is neither settled, reserved nor awaiting its integration; a
completion of another generation than the queued one integrates nothing and leaves the
reservation and the awaiting mark of the queued one. -/
def DependencySafe (scheduler : FairScheduler) : Operation → Prop
  | .next activeScopes availablePools onlyRunId => ∀ item,
      (scheduler.next activeScopes availablePools onlyRunId).2 = some item →
      item.requiresDependencies ⊆ scheduler.integratedIn item.runId ∧
        item.orderedBeforeDependencies ⊆
          scheduler.integratedIn item.runId ∪ scheduler.failedIn item.runId ∧
        item.sliceId ∉ scheduler.integratedIn item.runId ∧
        item.sliceId ∉ scheduler.failedIn item.runId ∧ item.identity ∉ scheduler.inFlight ∧
        item.identity ∉ scheduler.awaitingIntegration
  | .markIntegrated runId sliceId (some generation) =>
    (scheduler.queuedItem runId sliceId).map (·.generation) ≠ some generation →
    (∀ other, (scheduler.markIntegrated runId sliceId (some generation)).integratedIn other =
        scheduler.integratedIn other) ∧
      ∀ item, scheduler.queuedItem runId sliceId = some item →
        ((runId, sliceId, item.generation) ∈
            (scheduler.markIntegrated runId sliceId (some generation)).inFlight ↔
          (runId, sliceId, item.generation) ∈ scheduler.inFlight) ∧
        (scheduler.markIntegrated runId sliceId (some generation)).inFlightScopes.get?
            (runId, sliceId, item.generation) =
          scheduler.inFlightScopes.get? (runId, sliceId, item.generation) ∧
        ((runId, sliceId, item.generation) ∈
            (scheduler.markIntegrated runId sliceId (some generation)).awaitingIntegration ↔
          (runId, sliceId, item.generation) ∈ scheduler.awaitingIntegration)
  | _ => True

theorem markIntegrated_stale {runId sliceId : String} {generation : Int}
    (stale : (scheduler.queuedItem runId sliceId).map (·.generation) ≠ some generation) :
    scheduler.markIntegrated runId sliceId (some generation) =
      scheduler.unreserve (runId, sliceId, generation) := by
  have other : ¬ (some generation = none ∨
      some generation = scheduler.generationFor runId sliceId none) := by
    rintro (impossible | current)
    · cases impossible
    · exact stale current.symm
  unfold markIntegrated
  dsimp only
  rw [if_neg other]
  rfl

theorem Reserved.dependencySafe (reserved : Reserved scheduler) (operation : Operation) :
    DependencySafe scheduler operation := by
  match operation with
  | .next activeScopes availablePools onlyRunId =>
    intro item returned
    rcases next_cases reserved.toQueued with unchanged | ⟨other, cursor, dispatchable, taken⟩
    · rw [unchanged] at returned
      cases returned
    · rw [taken] at returned
      cases returned
      exact ⟨dispatchable.requires, dispatchable.orderedBefore, dispatchable.unsettled.1,
        dispatchable.unsettled.2, dispatchable.unreserved, dispatchable.notAwaiting⟩
  | .markIntegrated runId sliceId (some generation) =>
    intro stale
    rw [markIntegrated_stale stale]
    refine ⟨fun _ => rfl, ?_⟩
    intro item queued
    have different : ¬ (runId, sliceId, item.generation) = (runId, sliceId, generation) := by
      intro same
      apply stale
      rw [queued]
      exact congrArg (fun identity => some identity.2.2) same
    refine ⟨?_, ?_, Iff.rfl⟩
    · simp only [FairScheduler.unreserve, Finset.mem_erase, ne_eq, different, not_false_eq_true, true_and]
    · simp only [FairScheduler.unreserve, Dict.get?_erase, if_neg different]
  | .markIntegrated _ _ none => trivial
  | .submit _ | .release .. | .awaitIntegration .. | .restoreCommittedFacts .. => trivial

/-- Every call of every history is safe for the dependencies. -/
theorem dispatch_dependency_safe (operations : List Operation) :
    Along FairScheduler.step DependencySafe empty operations :=
  along_of_invariant Reserved (fun _ operation reserved => reserved.step operation)
    (fun _ operation reserved => reserved.dependencySafe operation) reserved_empty operations

end FairScheduler

end CodeMigrator
