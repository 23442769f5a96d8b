import CodeMigrator.Runtime.RoundSelection

/-!
# Stalls of a round

When a round may raise `ExecutionScheduleStalled` although a work item of its plan is ready:
exactly when one of the slices that the loop takes from the queue is left there by an earlier
round, because the plan no longer lists it.
-/

namespace CodeMigrator
open Lib

namespace ExecutionRounds
open FairScheduler

variable {checkpointReceiptDigest : CheckpointReceipt → Option Sha256}
  {plan : ExecutionRoundPlan checkpointReceiptDigest} {scheduler : FairScheduler}

/-! ## The loop -/

/-- A slice of the queue is a work item of the plan. -/
def Listed (plan : ExecutionRoundPlan checkpointReceiptDigest) (ready : ReadySlice) : Prop :=
  ∃ item ∈ plan.workItems, item.ready = ready

theorem workBySlice_cases (plan : ExecutionRoundPlan checkpointReceiptDigest) (ready : ReadySlice) :
    ((plan.workBySlice ready.sliceId).filter (·.ready = ready) = none ∧ ¬ Listed plan ready) ∨
      ∃ item ∈ plan.workItems, item.ready = ready ∧
        (plan.workBySlice ready.sliceId).filter (·.ready = ready) = some item := by
  cases found : (plan.workBySlice ready.sliceId).filter (·.ready = ready) with
  | some item =>
    obtain ⟨bySlice, same⟩ := Option.filter_eq_some_iff.mp found
    exact .inr ⟨item, List.mem_of_find?_eq_some bySlice, by simpa using same, rfl⟩
  | none =>
    refine .inl ⟨rfl, ?_⟩
    rintro ⟨item, member, rfl⟩
    have distinct : (plan.workItems.map (·.ready.sliceId)).Nodup := plan.valid.idsDistinct
    have only : plan.workBySlice item.ready.sliceId = some item := by
      unfold ExecutionRoundPlan.workBySlice
      generalize plan.workItems = items at distinct member
      induction items with
      | nil => exact absurd member List.not_mem_nil
      | cons first items ih =>
        rw [List.map_cons, List.nodup_cons] at distinct
        rcases List.mem_cons.mp member with rfl | later
        · simp
        · have different : ¬ first.ready.sliceId = item.ready.sliceId := by
            intro same
            exact distinct.1 (same ▸ List.mem_map_of_mem later)
          rw [List.find?_cons_of_neg (by simpa using different)]
          exact ih distinct.2 later
    rw [only] at found
    simp at found

/-- The loop has passed a part of the queue: nothing fits there any more, the readiness of the
rest is as it was at first, and the scopes are those that are reserved or active. -/
structure Passed (plan : ExecutionRoundPlan checkpointReceiptDigest) (ready : ReadySlice → Bool)
    (scheduler : FairScheduler) (activeScopes taken : Finset String)
    (before rest : List ReadySlice) : Prop where
  sane : Sane scheduler
  queue : scheduler.queue plan.runId.str = before ++ rest
  past : ∀ item ∈ before,
    scheduler.fits activeScopes plan.availablePools plan.runId.str item = false
  same : ∀ item ∈ rest,
    scheduler.poolReady plan.availablePools plan.runId.str item = ready item
  scopes : activeScopes ∪ scheduler.reservedScopes plan.runId.str = taken

section Passed

variable {ready : ReadySlice → Bool} {activeScopes taken : Finset String}
  {before rest : List ReadySlice} {first : ReadySlice}

theorem Passed.fits_first (passed : Passed plan ready scheduler activeScopes taken before (first :: rest)) :
    scheduler.fits activeScopes plan.availablePools plan.runId.str first =
      (ready first && !overlaps first.writeScope taken) := by
  rw [fits_eq, passed.scopes, passed.same first List.mem_cons_self]

theorem Passed.skip (passed : Passed plan ready scheduler activeScopes taken before (first :: rest))
    (misfit : scheduler.fits activeScopes plan.availablePools plan.runId.str first = false) :
    Passed plan ready scheduler activeScopes taken (before ++ [first]) rest where
  sane := passed.sane
  queue := by rw [passed.queue, List.append_assoc]; rfl
  past := by
    intro item member
    rcases List.mem_append.mp member with earlier | last
    · exact passed.past item earlier
    · rw [List.mem_singleton.mp last]
      exact misfit
  same := fun item member => passed.same item (List.mem_cons_of_mem _ member)
  scopes := passed.scopes

theorem Passed.candidate (passed : Passed plan ready scheduler activeScopes taken before rest) :
    scheduler.candidate activeScopes plan.availablePools plan.runId.str =
      rest.find? (scheduler.fits activeScopes plan.availablePools plan.runId.str) := by
  show (scheduler.queue plan.runId.str).find?
    (scheduler.fits activeScopes plan.availablePools plan.runId.str) = _
  have none : before.find? (scheduler.fits activeScopes plan.availablePools plan.runId.str) =
      none := by
    refine List.find?_eq_none.mpr ?_
    intro item member
    rw [Bool.not_eq_true]
    exact passed.past item member
  rw [passed.queue, List.find?_append, none, Option.none_or]

theorem Passed.take (passed : Passed plan ready scheduler activeScopes taken before (first :: rest))
    (fitting : scheduler.fits activeScopes plan.availablePools plan.runId.str first = true)
    {cursor : Nat}
    (returned : scheduler.next activeScopes plan.availablePools (some plan.runId.str) =
      (scheduler.reserve first cursor, some first)) :
    Passed plan ready (scheduler.reserve first cursor) (activeScopes ∪ first.writeScope)
      (taken ∪ first.writeScope) (before ++ [first]) rest := by
  have member : first ∈ scheduler.queue plan.runId.str := by simp [passed.queue]
  have own : first.runId = plan.runId.str := passed.sane.own _ first member
  have fresh : scheduler.inFlightScopes.get? first.identity = none := by
    cases stored : scheduler.inFlightScopes.get? first.identity with
    | none => rfl
    | some scopes =>
      have reserved := (passed.sane.keys first.identity).mpr ⟨scopes, stored⟩
      simp [fits, isReady, reserved] at fitting
  have apart : ∀ other ∈ rest, other.identity ≠ first.identity := by
    intro other later identical
    have distinct := passed.sane.distinct plan.runId.str
    rw [passed.queue, List.map_append, List.map_cons] at distinct
    have once := (List.nodup_cons.mp (List.nodup_append.mp distinct).2.1).1
    have sameSlice : other.sliceId = first.sliceId :=
      congrArg (fun identity : SliceIdentity => identity.2.1) identical
    exact once (sameSlice ▸ List.mem_map_of_mem later)
  refine ⟨?_, ?_, ?_, ?_, ?_⟩
  · have stepped := passed.sane.step
      (.next activeScopes plan.availablePools (some plan.runId.str))
    have isReserve : scheduler.step
        (.next activeScopes plan.availablePools (some plan.runId.str)) =
        scheduler.reserve first cursor := congrArg Prod.fst returned
    rw [isReserve] at stepped
    exact stepped
  · show scheduler.queue plan.runId.str = _
    rw [passed.queue, List.append_assoc]
    rfl
  · intro other earlier
    rcases List.mem_append.mp earlier with earlier | last
    · exact fits_reserve_false own fresh cursor (passed.past other earlier)
    · rw [List.mem_singleton.mp last]
      simp [fits, isReady, reserve]
  · intro other later
    rw [poolReady_reserve (apart other later)]
    exact passed.same other (List.mem_cons_of_mem _ later)
  · rw [reservedScopes_reserve own fresh, ← passed.scopes]
    ext path
    simp only [Finset.mem_union]
    tauto

end Passed

/-- The places that are left go to the greedy choice from the rest of the queue; the loop stalls
exactly when the plan does not list one of these slices. -/
theorem select_spec (ready : ReadySlice → Bool) (rest : List ReadySlice) :
    ∀ {scheduler : FairScheduler} {activeScopes taken : Finset String} {before : List ReadySlice}
      (places : Nat) (offered : List ReadySlice) (selected : List ExecutionWorkItem),
      Passed plan ready scheduler activeScopes taken before rest →
      (∃ items, (∀ item ∈ items, item ∈ plan.workItems) ∧
          (greedy ready taken rest).take places = items.map (·.ready) ∧
          (select plan places scheduler activeScopes offered selected).items =
            .ok (selected ++ items)) ∨
        (∃ left ∈ (greedy ready taken rest).take places, ¬ Listed plan left) ∧
          ∃ text, (select plan places scheduler activeScopes offered selected).items =
            .error (.stalled text) := by
  induction rest with
  | nil =>
    intro scheduler activeScopes taken before places offered selected passed
    refine .inl ⟨[], by simp, by simp [greedy], ?_⟩
    cases places with
    | zero => simp [select]
    | succ places =>
      rcases next_only passed.sane.opened with ⟨-, returned⟩ | ⟨item, cursor, some, -⟩
      · unfold select
        rw [returned]
        simp
      · rw [passed.candidate] at some
        cases some
  | cons first rest ih =>
    intro scheduler activeScopes taken before places offered selected passed
    unfold greedy
    rw [← passed.fits_first]
    cases fitting : scheduler.fits activeScopes plan.availablePools plan.runId.str first with
    | false => exact ih places offered selected (passed.skip fitting)
    | true =>
      cases places with
      | zero => exact .inl ⟨[], by simp, rfl, by simp [select]⟩
      | succ places =>
        rw [if_pos rfl, List.take_succ_cons]
        have candidate := passed.candidate
        rw [List.find?_cons_of_pos fitting] at candidate
        rcases next_only passed.sane.opened with ⟨absent, -⟩ | ⟨item, cursor, chosen, returned⟩
        · rw [candidate] at absent
          cases absent
        rw [candidate] at chosen
        obtain rfl := Option.some.inj chosen
        unfold select
        rw [returned]
        dsimp only
        rcases workBySlice_cases plan first with
          ⟨unlisted, leftover⟩ | ⟨item, listed, isFirst, found⟩
        · rw [unlisted]
          exact .inr ⟨⟨first, List.mem_cons_self, leftover⟩, _, rfl⟩
        rw [found]
        dsimp only
        rcases ih places (offered ++ [first]) (selected ++ [item])
            (passed.take fitting returned) with
          ⟨items, known, chosen, done⟩ | ⟨⟨left, later, leftover⟩, text, stalled⟩
        · refine .inl ⟨item :: items, ?_, ?_, ?_⟩
          · intro other member
            rcases List.mem_cons.mp member with rfl | later
            · exact listed
            · exact known other later
          · rw [List.map_cons, isFirst, chosen]
          · rw [done, List.append_assoc]
            rfl
        · exact .inr ⟨⟨left, List.mem_cons_of_mem _ later, leftover⟩, text, stalled⟩

/-! ## The scheduler with the facts of the plan -/

section Submit

variable {item : ReadySlice}

theorem submit_cases (done : (scheduler.submit item).2 = .ok ()) :
    (∀ other ∈ scheduler.queue item.runId, other.sliceId ≠ item.sliceId) ∧
        (scheduler.submit item).1 = (scheduler.opened item.runId).setQueue item.runId
          (scheduler.queue item.runId ++ [item]) ∨
      ∃ index existing, (scheduler.queue item.runId)[index]? = some existing ∧
        existing.sliceId = item.sliceId ∧
        ((scheduler.submit item).1 = (scheduler.opened item.runId).setQueue item.runId
            ((scheduler.queue item.runId).set index item) ∨
          (scheduler.submit item).1 =
            ((scheduler.opened item.runId).forget item.runId item.sliceId).setQueue item.runId
              ((scheduler.queue item.runId).set index item)) := by
  unfold FairScheduler.submit at done ⊢
  dsimp only at done ⊢
  cases found : (scheduler.queue item.runId).findIdx? (·.sliceId = item.sliceId) with
  | none =>
    refine .inl ⟨?_, rfl⟩
    intro other member
    simpa using List.findIdx?_eq_none_iff.mp found other member
  | some index =>
    rw [found] at done
    obtain ⟨bound, same, -⟩ := List.findIdx?_eq_some_iff_getElem.mp found
    have at_ := List.getElem?_eq_getElem bound
    dsimp only at done ⊢
    rw [at_] at done ⊢
    dsimp only at done ⊢
    refine .inr ⟨index, _, at_, by simpa using same, ?_⟩
    split at done
    · cases done
    next unreplaced =>
    split at done
    · cases done
    next unchanged =>
    rw [if_neg unreplaced, if_neg unchanged]
    by_cases generation : (scheduler.queue item.runId)[index].generation ≠ item.generation
    · rw [if_pos generation]
      exact .inr rfl
    · rw [if_neg generation]
      exact .inl rfl

theorem submit_queue (done : (scheduler.submit item).2 = .ok ()) :
    item ∈ (scheduler.submit item).1.queue item.runId ∧
      ∀ other ∈ scheduler.queue item.runId, other.sliceId ≠ item.sliceId →
        other ∈ (scheduler.submit item).1.queue item.runId := by
  rcases submit_cases done with ⟨-, appended⟩ | ⟨index, existing, at_, same, replaced⟩
  · rw [appended, queue_setQueue, if_pos rfl]
    exact ⟨by simp, fun other member _ => List.mem_append_left _ member⟩
  · have queue : (scheduler.submit item).1.queue item.runId =
        (scheduler.queue item.runId).set index item := by
      rcases replaced with replaced | replaced
      · rw [replaced, queue_setQueue, if_pos rfl]
      · rw [replaced, queue_setQueue, if_pos rfl]
    rw [queue]
    refine ⟨?_, ?_⟩
    · obtain ⟨bound, -⟩ := List.getElem?_eq_some_iff.mp at_
      exact List.mem_of_getElem? (List.getElem?_set_self bound)
    · intro other member different
      refine mem_set_of_ne at_ member ?_
      rintro rfl
      exact different same

/-- What is integrated stays when the submitted slice is not, and nothing new awaits its
integration. -/
theorem submit_facts (done : (scheduler.submit item).2 = .ok ())
    (apart : item.sliceId ∉ scheduler.integratedIn item.runId) :
    (scheduler.submit item).1.integratedIn item.runId = scheduler.integratedIn item.runId ∧
      (scheduler.submit item).1.awaitingIntegration ⊆ scheduler.awaitingIntegration := by
  have opened : ∀ runId, (scheduler.opened runId).integrated = scheduler.integrated ∧
      (scheduler.opened runId).awaitingIntegration = scheduler.awaitingIntegration := by
    intro runId
    unfold FairScheduler.opened
    split
    · exact ⟨rfl, rfl⟩
    · exact ⟨rfl, rfl⟩
  have kept : ∀ items, ((scheduler.opened item.runId).setQueue item.runId items).integratedIn item.runId =
      scheduler.integratedIn item.runId := by
    intro items
    show ((scheduler.opened item.runId).integrated.get? item.runId).getD ∅ = _
    rw [(opened item.runId).1]
    rfl
  rcases submit_cases done with ⟨-, appended⟩ | ⟨index, existing, -, -, replaced | replaced⟩
  · rw [appended]
    exact ⟨kept _, (opened item.runId).2.subset⟩
  · rw [replaced]
    exact ⟨kept _, (opened item.runId).2.subset⟩
  · rw [replaced]
    constructor
    · show (((scheduler.opened item.runId).integrated.set item.runId
        (((scheduler.opened item.runId).integratedIn item.runId).erase item.sliceId)).get?
          item.runId).getD ∅ = _
      rw [Dict.get?_set, if_pos rfl, Option.getD_some]
      have same : (scheduler.opened item.runId).integratedIn item.runId =
          scheduler.integratedIn item.runId := by
        unfold integratedIn
        rw [(opened item.runId).1]
      rw [same, Finset.erase_eq_of_notMem apart]
    · intro identity member
      have awaited := (Finset.mem_filter.mp member).1
      rw [(opened item.runId).2] at awaited
      exact awaited

end Submit

/-- After all the items of a plan are submitted, they are queued, and the integrated slices are
as before. -/
theorem submitAll_facts {runKey : String} {items : List ExecutionWorkItem} :
    ∀ {scheduler : FairScheduler}, (items.map (·.ready.sliceId)).Nodup →
      (∀ item ∈ items, item.ready.runId = runKey) →
      (∀ item ∈ items, item.ready.sliceId ∉ scheduler.integratedIn runKey) →
      (inTurn (fun scheduler item => scheduler.submit item.ready) scheduler items).2 = .ok () →
      let submitted := (inTurn (fun (scheduler : FairScheduler) (item : ExecutionWorkItem) =>
        scheduler.submit item.ready) scheduler items).1
      (∀ item ∈ items, item.ready ∈ submitted.queue runKey) ∧
        (∀ other ∈ scheduler.queue runKey, (∀ item ∈ items, other.sliceId ≠ item.ready.sliceId) →
          other ∈ submitted.queue runKey) ∧
        submitted.integratedIn runKey = scheduler.integratedIn runKey ∧
        submitted.awaitingIntegration ⊆ scheduler.awaitingIntegration := by
  induction items with
  | nil =>
    intro scheduler _ _ _ _
    exact ⟨fun _ member => absurd member List.not_mem_nil, fun _ member _ => member, rfl, subset_rfl⟩
  | cons first items ih =>
    intro scheduler distinct own apart done
    rw [List.map_cons, List.nodup_cons] at distinct
    have isOwn := own first List.mem_cons_self
    unfold inTurn at done ⊢
    cases result : scheduler.submit first.ready with
    | mk next outcome =>
      cases outcome with
      | error text =>
        rw [result] at done
        cases done
      | ok returned =>
        rw [result] at done
        dsimp only at done ⊢
        have made : (scheduler.submit first.ready).2 = .ok () := congrArg Prod.snd result
        have queued := submit_queue made
        have facts := submit_facts made
          (isOwn.symm ▸ apart first List.mem_cons_self)
        rw [isOwn, result] at queued facts
        obtain ⟨here, others, integrated, awaiting⟩ := ih distinct.2
          (fun item member => own item (List.mem_cons_of_mem _ member))
          (fun item member => by
            rw [facts.1]
            exact apart item (List.mem_cons_of_mem _ member)) done
        refine ⟨?_, ?_, integrated.trans facts.1, awaiting.trans facts.2⟩
        · intro item member
          rcases List.mem_cons.mp member with rfl | later
          · refine others _ queued.1 ?_
            intro other later same
            exact distinct.1 (same ▸ List.mem_map_of_mem later)
          · exact here item later
        · intro other member different
          refine others other (queued.2 other member (different first List.mem_cons_self)) ?_
          exact fun item later => different item (List.mem_cons_of_mem _ later)

theorem awaitAll_facts {runKey : String} (pending : List (String × Int)) :
    ∀ {scheduler : FairScheduler},
      let awaited := (inTurn (fun (scheduler : FairScheduler) (pending : String × Int) =>
        scheduler.awaitIntegration runKey pending.1 pending.2) scheduler pending).1
      awaited.integrated = scheduler.integrated ∧
        ∀ identity ∈ awaited.awaitingIntegration, identity ∈ scheduler.awaitingIntegration ∨
          (identity.2.1, identity.2.2) ∈ pending := by
  induction pending with
  | nil => exact ⟨rfl, fun _ member => .inl member⟩
  | cons first pending ih =>
    intro scheduler
    unfold inTurn
    have step : (scheduler.awaitIntegration runKey first.1 first.2).1.integrated =
          scheduler.integrated ∧
        ∀ identity ∈ (scheduler.awaitIntegration runKey first.1 first.2).1.awaitingIntegration,
          identity ∈ scheduler.awaitingIntegration ∨ (identity.2.1, identity.2.2) = first := by
      unfold awaitIntegration
      split
      · exact ⟨rfl, fun _ member => .inl member⟩
      · refine ⟨rfl, ?_⟩
        intro identity member
        rcases Finset.mem_insert.mp member with rfl | earlier
        · exact .inr rfl
        · exact .inl earlier
    cases result : scheduler.awaitIntegration runKey first.1 first.2 with
    | mk next outcome =>
      rw [result] at step
      cases outcome with
      | error text =>
        refine ⟨step.1, ?_⟩
        intro identity member
        rcases step.2 identity member with earlier | rfl
        · exact .inl earlier
        · exact .inr List.mem_cons_self
      | ok returned =>
        obtain ⟨integrated, awaiting⟩ := @ih next
        refine ⟨integrated.trans step.1, ?_⟩
        intro identity member
        rcases awaiting identity member with earlier | later
        · rcases step.2 identity earlier with earliest | rfl
          · exact .inl earliest
          · exact .inr List.mem_cons_self
        · exact .inr (List.mem_cons_of_mem _ later)

variable {loaded : FairScheduler}

/-- The scheduler that a round selects from: the work items are queued, what is integrated is what
the plan says, and no work item awaits its integration. -/
theorem restorePlan_facts (done : restorePlan scheduler plan = (loaded, .ok ())) :
    (∀ item ∈ plan.workItems, item.ready ∈ loaded.queue plan.runId.str) ∧
      loaded.integratedIn plan.runId.str = plan.completedSliceIds ∧
      ∀ item ∈ plan.workItems, item.ready.identity ∉ loaded.awaitingIntegration := by
  have awaited := @awaitAll_facts plan.runId.str plan.pendingIntegrations
    (scheduler.restoreCommittedFacts plan.runId.str plan.completedSliceIds plan.terminalSliceFailures)
  unfold restorePlan at done
  dsimp only at done awaited
  split at done
  · cases done
  next next made =>
  rw [made] at awaited
  have integrated : next.integratedIn plan.runId.str = plan.completedSliceIds := by
    unfold integratedIn
    rw [awaited.1]
    simp [restoreCommittedFacts, Dict.get?_set]
  have submitted := @submitAll_facts plan.runId.str plan.workItems next plan.valid.idsDistinct
    (fun item member => (plan.valid.sameRun item member).2)
    (fun item member => by
      rw [integrated]
      exact plan.valid.completedApart _
        (List.mem_append_left _ (List.mem_map_of_mem (f := fun item : ExecutionWorkItem =>
          item.ready.sliceId) member)))
    (congrArg Prod.snd done)
  rw [done] at submitted
  dsimp only at submitted
  refine ⟨submitted.1, submitted.2.2.1.trans integrated, ?_⟩
  intro item member awaits
  rcases awaited.2 _ (submitted.2.2.2 awaits) with restored | pending
  · have other := (Finset.mem_filter.mp restored).2
    exact other (plan.valid.sameRun item member).2
  · exact plan.valid.pendingApart item member pending

/-! ## Ready work items -/

/-- A work item is ready: its predecessors are settled, its pool is available and its scope is
free, and the slice has neither failed nor is it running. -/
structure ReadyItem (plan : ExecutionRoundPlan checkpointReceiptDigest) (loaded : FairScheduler)
    (item : ReadySlice) : Prop where
  requires : item.requiresDependencies ⊆ plan.completedSliceIds
  orderedBefore : item.orderedBeforeDependencies ⊆
    plan.completedSliceIds ∪ loaded.failedIn plan.runId.str
  pool : item.resourcePool ∈ plan.availablePools
  free : ¬ ScopesOverlap item.writeScope (loaded.reservedScopes plan.runId.str)
  unfailed : item.sliceId ∉ loaded.failedIn plan.runId.str
  idle : item.identity ∉ loaded.inFlight

/-- The slices that the places of a round go to, from the queue as the plan leaves it. -/
def chosen (plan : ExecutionRoundPlan checkpointReceiptDigest) (places : Nat)
    (loaded : FairScheduler) : List ReadySlice :=
  (greedy (loaded.poolReady plan.availablePools plan.runId.str)
    (loaded.reservedScopes plan.runId.str) (loaded.queue plan.runId.str)).take places

theorem ready_iff (done : restorePlan scheduler plan = (loaded, .ok ())) {item : ExecutionWorkItem}
    (member : item ∈ plan.workItems) :
    (loaded.poolReady plan.availablePools plan.runId.str item.ready &&
        !overlaps item.ready.writeScope (loaded.reservedScopes plan.runId.str)) = true ↔
      ReadyItem plan loaded item.ready := by
  obtain ⟨-, integrated, awaiting⟩ := restorePlan_facts done
  have unsettled : item.ready.sliceId ∉ plan.completedSliceIds :=
    plan.valid.completedApart _ (List.mem_append_left _ (List.mem_map_of_mem
      (f := fun item : ExecutionWorkItem => item.ready.sliceId) member))
  have free : (!overlaps item.ready.writeScope (loaded.reservedScopes plan.runId.str)) = true ↔
      ¬ ScopesOverlap item.ready.writeScope (loaded.reservedScopes plan.runId.str) := by
    rw [← overlaps_iff]
    simp
  rw [Bool.and_eq_true, free]
  simp only [poolReady, isReady, Bool.and_eq_true, decide_eq_true_eq, integrated]
  constructor
  · rintro ⟨⟨⟨-, unfailed, idle, -, requires, ordered⟩, pool⟩, free⟩
    exact ⟨requires, ordered, pool, free, unfailed, idle⟩
  · rintro ⟨requires, ordered, pool, free, unfailed, idle⟩
    exact ⟨⟨⟨unsettled, unfailed, idle, awaiting item member, requires, ordered⟩, pool⟩, free⟩

/-! ## Stalls -/

/-- What a round does with its selection: it dispatches work items of its plan only, and it stalls
only when no work item of the plan is ready. -/
def NeverStalls (state : ExecutionRounds checkpointReceiptDigest) :
    RoundInput checkpointReceiptDigest → Prop
  | .loaded runId plan =>
    let result := (beginRound state.maxParallelism state.scheduler runId plan).2.2
    (∀ round, result = .ok (.dispatched round) → ∀ item ∈ round.selected, item ∈ plan.workItems) ∧
      ∀ text, result = .error (.stalled text) →
        ∀ item ∈ plan.workItems, ¬ ReadyItem plan (restorePlan state.scheduler plan).1 item.ready
  | .gathered _ _ => True

/-- A plan with a ready work item meets no leftover: every slice that the places of the round go
to is a work item of it. -/
def NoLeftover (state : ExecutionRounds checkpointReceiptDigest) :
    RoundInput checkpointReceiptDigest → Prop
  | .loaded runId plan =>
    plan.runId = runId → plan.complete = false →
      ∀ loaded, restorePlan state.scheduler plan = (loaded, .ok ()) →
        (∃ item ∈ plan.workItems, ReadyItem plan loaded item.ready) →
        ∀ left ∈ chosen plan state.maxParallelism loaded, Listed plan left
  | .gathered _ _ => True

theorem chosen_ne_nil (done : restorePlan scheduler plan = (loaded, .ok ())) {places : Nat}
    (positive : 0 < places) {item : ExecutionWorkItem} (member : item ∈ plan.workItems)
    (ready : ReadyItem plan loaded item.ready) : chosen plan places loaded ≠ [] := by
  intro nothing
  unfold chosen at nothing
  have none := greedy_eq_nil ((List.take_eq_nil_iff.mp nothing).resolve_left (by omega))
    item.ready ((restorePlan_facts done).1 item member)
  rw [(ready_iff done member).mpr ready] at none
  cases none

theorem sane_step (scheduler : FairScheduler) (operation : Operation) (sane : Sane scheduler) :
    Sane (scheduler.step operation) := sane.step operation

theorem neverStalls_iff (state : ExecutionRounds checkpointReceiptDigest)
    (sane : Sane state.scheduler) (input : RoundInput checkpointReceiptDigest) :
    NeverStalls state input ↔ NoLeftover state input := by
  cases input with
  | gathered index gathered => exact Iff.rfl
  | loaded runId plan =>
    unfold NeverStalls NoLeftover beginRound
    dsimp only
    by_cases other : plan.runId ≠ runId
    · rw [if_pos other]
      exact ⟨fun _ same => absurd same other, fun _ => by simp⟩
    rw [if_neg other]
    cases made : restorePlan state.scheduler plan with
    | mk loaded outcome =>
    cases outcome with
    | error text => simp
    | ok done =>
    dsimp only
    by_cases complete : plan.complete = true
    · rw [if_pos complete]
      simp [complete]
    rw [if_neg complete]
    have passed : Passed plan (loaded.poolReady plan.availablePools plan.runId.str) loaded ∅
        (loaded.reservedScopes plan.runId.str) [] (loaded.queue plan.runId.str) := by
      have restored := @restorePlan_invariant _ plan _ _ sane_step sane
      rw [made] at restored
      refine ⟨restored, rfl, fun _ member => absurd member List.not_mem_nil, fun _ _ => rfl, ?_⟩
      exact Finset.empty_union _
    have spec := select_spec _ _ state.maxParallelism [] [] passed
    rcases spec with ⟨items, known, places, selected⟩ | ⟨⟨left, taken, leftover⟩, text, stalled⟩
    · -- Every chosen slice is listed; the other stall means that nothing is chosen.
      rw [selected]
      dsimp only
      have listed : ∀ left ∈ chosen plan state.maxParallelism loaded, Listed plan left := by
        intro left member
        unfold chosen at member
        rw [places] at member
        obtain ⟨item, inside, same⟩ := List.mem_map.mp member
        exact ⟨item, known item inside, same⟩
      refine ⟨fun _ _ _ again reloaded _ => ?_, fun _ => ⟨?_, ?_⟩⟩
      · obtain ⟨rfl, -⟩ := Prod.mk.inj reloaded
        exact listed
      · intro round dispatched item member
        split at dispatched
        · cases dispatched
        · split at dispatched
          · cases dispatched
          · cases dispatched
            exact known item member
      · intro text stalled item member ready
        split at stalled
        · next nothing =>
          refine chosen_ne_nil made state.parallelismPositive member ready ?_
          unfold chosen
          rw [places, show items = [] from nothing.1]
          rfl
        · split at stalled
          · cases stalled
          · cases stalled
    · -- A leftover is chosen, and the round stalls on it.
      rw [stalled]
      dsimp only
      constructor
      · rintro ⟨-, none⟩ _ _ again reloaded ⟨item, member, ready⟩
        obtain ⟨rfl, -⟩ := Prod.mk.inj reloaded
        exact absurd ready (none text rfl item member)
      · intro noLeftover
        refine ⟨by simp, ?_⟩
        intro text' _ item member ready
        exact leftover (noLeftover (not_not.mp other) (by simpa using complete) loaded rfl
          ⟨item, member, ready⟩ left taken)

/-! ## Histories of rounds -/

theorem step_sane {state : ExecutionRounds checkpointReceiptDigest} (sane : Sane state.scheduler)
    (input : RoundInput checkpointReceiptDigest) : Sane (state.step input).scheduler := by
  cases input with
  | loaded runId plan =>
    have begun := @beginRound_invariant _ plan _ _ sane_step state.maxParallelism runId sane
    unfold step
    dsimp only
    split
    · next result =>
      rw [result] at begun
      exact begun
    · next result =>
      rw [result] at begun
      exact begun
  | gathered index gathered =>
    unfold step
    dsimp only
    split
    · exact sane
    · exact finishRound_invariant sane_step _ _ sane

/-- In every history of rounds, of any Runs in any order, a round dispatches work items of its
plan only and stalls only when none of them is ready, exactly when it meets no leftover of an
earlier round. -/
theorem rounds_never_stall_iff (maxParallelism : Nat) (positive : 0 < maxParallelism)
    (inputs : List (RoundInput checkpointReceiptDigest)) :
    Along step NeverStalls (init checkpointReceiptDigest maxParallelism positive) inputs ↔
      Along step NoLeftover (init checkpointReceiptDigest maxParallelism positive) inputs :=
  along_iff (fun state => Sane state.scheduler) (fun _ input sane _ => step_sane sane input)
    (fun state input sane => neverStalls_iff state sane input) sane_empty inputs

end ExecutionRounds

namespace SampleRounds
open ExecutionRounds

def runId : RunId := ⟨1⟩

def zeros : Sha256 := .zeros

/-- A digest in the place of `checkpoint_receipt_digest`. -/
def receiptDigest (_ : CheckpointReceipt) : Option Sha256 := some zeros

/-- A slice without dependencies that writes one file. -/
def ready (sliceId : SliceId) (file : String) : ReadySlice :=
  ⟨runId.str, sliceId.str, ∅, {file}, .model, 0, ∅, ∅, le_rfl, rfl⟩

def material (sliceId : SliceId) (file : RepoRelativePath) : ExecutionSessionMaterial :=
  ⟨runId, ⟨sliceId, .implementation, [], ⟨⟨[file], []⟩⟩, [], 0⟩, ⟨sliceId, 0, some "base"⟩,
    "execute:" ++ sliceId.str ++ ":g0", rfl, by simp⟩

def first : ExecutionWorkItem :=
  ⟨ready ⟨7⟩ "a", material ⟨7⟩ ⟨"a", by decide⟩, rfl, rfl, rfl, rfl⟩

def second : ExecutionWorkItem :=
  ⟨ready ⟨8⟩ "b", material ⟨8⟩ ⟨"b", by decide⟩, rfl, rfl, rfl, rfl⟩

/-- The run of the first slice has left a candidate. -/
def recovered : ExecutionAgentOutcome :=
  { record :=
      ⟨{ agentRunId := ⟨12⟩
         ownerKind := "run"
         ownerId := runId
         logicalTaskKey := "execute:00000000-0000-0000-0000-000000000007:g0"
         phase := .execute
         sessionKind := .implementation
         threadId := "00000000-0000-0000-0000-000000000013"
         modelBindingSha256 := zeros.text
         contextSha256 := zeros.text
         toolsetSha256 := zeros.text
         templateSha256 := zeros.text
         sliceRef := some ⟨⟨7⟩, 0, some "base"⟩
         writeScopeSha256 := none
         checkpointSha256 := none
         candidateCheckpointSha256 := some zeros.text
         resultSha256 := some zeros.text
         usageSha256 := none
         retryOf := none
         continuationOf := none
         restartedFrom := none
         state := .closed
         exit := some .completed }, by decide⟩
    candidateReceipt := some
      ⟨runId, ⟨7⟩, 0, "base", "candidate",
        ⟨⟨runId, ⟨7⟩, 0, "verified", "base"⟩, 1, 1, zeros, true⟩, zeros⟩ }

/-- A plan of the two slices; of those that are no work items, the first one is recovered. -/
def planOf (workItems : List ExecutionWorkItem) (terminals : List ExecutionAgentOutcome) :
    ExecutionRoundPlanFields :=
  ⟨runId, workItems, ∅, {first.ready.sliceId, second.ready.sliceId}, {.model}, terminals, ∅, []⟩

/-- The plan of the first round. -/
def bothPlan : ExecutionRoundPlan receiptDigest :=
  ⟨planOf [first, second] [],
    { idsDistinct := by decide
      recoveredDistinct := by decide
      completedKnown := by decide
      failuresKnown := by decide
      pendingKnown := by decide
      completedApart := by decide
      recoveredApart := by decide
      pendingApart := by decide
      sameRun := by decide
      idsKnown := by decide
      dependenciesKnown := by decide
      hasPool := by decide
      recoveredValid := by simp [planOf] }⟩

theorem recovered_valid :
    ExecutionRoundPlanFields.RecoveredValid receiptDigest runId recovered where
  owner := by decide
  phase := rfl
  hasSlice := by decide
  closed := by decide
  completed := by decide
  receiptMatches := by
    rintro receipt sliceRef found ref
    cases found
    cases ref
    exact ⟨by decide, zeros, rfl, rfl⟩
  noReceipt := by decide

/-- The plan after a restart of the round: the first slice waits for the receipt of its round. -/
def recoveredPlan : ExecutionRoundPlan receiptDigest :=
  ⟨planOf [second] [recovered],
    { idsDistinct := by decide
      recoveredDistinct := by decide
      completedKnown := by decide
      failuresKnown := by decide
      pendingKnown := by decide
      completedApart := by decide
      recoveredApart := by decide
      pendingApart := by decide
      sameRun := by decide
      idsKnown := by decide
      dependenciesKnown := by decide
      hasPool := by decide
      recoveredValid := by
        intro terminal member
        rw [List.mem_singleton.mp member]
        exact recovered_valid }⟩

/-- The first round is cancelled when the first slice has finished. -/
def interrupted : List (RoundInput receiptDigest) :=
  [.loaded runId bothPlan, .gathered 0 .cancelled]

theorem rounds_never_stall_iff_interrupted :
    Along step NeverStalls (init receiptDigest 2 (by decide)) interrupted ↔
      Along step NoLeftover (init receiptDigest 2 (by decide)) interrupted :=
  rounds_never_stall_iff 2 (by decide) interrupted

/-- The scheduler after the interrupted round. -/
def afterInterruption : ExecutionRounds receiptDigest :=
  runFrom step (init receiptDigest 2 Nat.zero_lt_two) interrupted

theorem second_ready :
    ReadyItem recoveredPlan (restorePlan afterInterruption.scheduler recoveredPlan).1 second.ready where
  requires := by decide
  orderedBefore := by decide
  pool := by decide
  free := by
    rw [← FairScheduler.overlaps_iff]
    decide
  unfailed := by decide
  idle := by decide

/-- The next round stalls on the first slice, although the second one is ready. -/
theorem recovered_round_stalls :
    ¬ Along step NeverStalls (init receiptDigest 2 (by decide))
      (interrupted ++ [.loaded runId recoveredPlan]) := by
  intro along
  have stalled : ∃ text,
      (beginRound 2 afterInterruption.scheduler runId recoveredPlan).2.2 = .error (.stalled text) :=
    ⟨"EXECUTE scheduler selected a Slice absent from the frozen round plan", rfl⟩
  obtain ⟨text, stalls⟩ := stalled
  exact (Along.of_append along).2.1.2 text stalls second List.mem_cons_self second_ready

end SampleRounds

end CodeMigrator
