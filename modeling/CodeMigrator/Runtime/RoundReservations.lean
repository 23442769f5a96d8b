import CodeMigrator.Lib.Sequence
import CodeMigrator.Runtime.RoundStalls

/-!
# Reservations of a round

Every exit of a round gives back what its selection has reserved: the stall on a leftover, the
cancellation and the first failed dispatch release all slices, and after a normal end each slice
is released or awaits its integration.
-/

namespace CodeMigrator
open Lib

namespace FairScheduler

variable {scheduler : FairScheduler} {runKey : String} {identity : SliceIdentity}

theorem release_inFlight (scheduler : FairScheduler) (runKey sliceId : String) (generation : Int) :
    (scheduler.release runKey sliceId (some generation)).inFlight =
      scheduler.inFlight.erase (runKey, sliceId, generation) := rfl

theorem mem_releaseAll {items : List ExecutionWorkItem}
    (reserved : identity ∈ (scheduler.releaseAll runKey items).inFlight) :
    identity ∈ scheduler.inFlight ∧
      ∀ item ∈ items, identity ≠ (runKey, item.ready.sliceId, item.ready.generation) := by
  induction items generalizing scheduler with
  | nil => exact ⟨reserved, fun _ member => absurd member List.not_mem_nil⟩
  | cons first items ih =>
    obtain ⟨before, others⟩ := ih reserved
    rw [release_inFlight] at before
    obtain ⟨notFirst, held⟩ := Finset.mem_erase.mp before
    refine ⟨held, ?_⟩
    intro item member
    rcases List.mem_cons.mp member with rfl | later
    · exact notFirst
    · exact others item later

theorem awaitIntegration_natural (scheduler : FairScheduler) (runKey sliceId : String)
    {generation : Int} (natural : 0 ≤ generation) :
    ∃ next, scheduler.awaitIntegration runKey sliceId generation = (next, .ok ()) ∧
      next.inFlight = scheduler.inFlight.erase (runKey, sliceId, generation) ∧
      next.awaitingIntegration =
        insert (runKey, sliceId, generation) scheduler.awaitingIntegration := by
  unfold awaitIntegration
  rw [if_neg (by omega)]
  exact ⟨_, rfl, rfl, rfl⟩

theorem inTurn_ok {α : Type} {call : FairScheduler → α → FairScheduler × Except String Unit}
    {xs : List α} (quiet : ∀ scheduler, ∀ x ∈ xs, (call scheduler x).2 = .ok ()) :
    ∀ scheduler, (inTurn call scheduler xs).2 = .ok () := by
  induction xs with
  | nil => exact fun _ => rfl
  | cons x xs ih =>
    intro scheduler
    have first := quiet scheduler x List.mem_cons_self
    unfold inTurn
    split
    · next raised =>
      rw [raised] at first
      cases first
    · exact ih (fun scheduler y later => quiet scheduler y (List.mem_cons_of_mem _ later)) _

end FairScheduler

namespace ExecutionRounds
open FairScheduler

variable {checkpointReceiptDigest : CheckpointReceipt → Option Sha256}
  {plan : ExecutionRoundPlan checkpointReceiptDigest} {scheduler : FairScheduler}
  {state : ExecutionRounds checkpointReceiptDigest}

/-! ## Selection -/

/-- The items that the loop selects are the slices that `next` has returned, and work items of
the plan; when it stalls, none of these slices is left reserved. -/
theorem select_offered (places : Nat) : ∀ {scheduler : FairScheduler} (activeScopes : Finset String)
    (selected : List ExecutionWorkItem), (∀ item ∈ selected, item ∈ plan.workItems) →
    let selection := select plan places scheduler activeScopes (selected.map (·.ready)) selected
    (∀ items, selection.items = .ok items →
        selection.offered = items.map (·.ready) ∧ ∀ item ∈ items, item ∈ plan.workItems) ∧
      ∀ error, selection.items = .error error →
        ∀ ready ∈ selection.offered, ready.identity ∉ selection.scheduler.inFlight := by
  have done : ∀ (scheduler : FairScheduler) (selected : List ExecutionWorkItem),
      (∀ item ∈ selected, item ∈ plan.workItems) →
      let selection : Selection := ⟨scheduler, selected.map (·.ready), .ok selected⟩
      (∀ items, selection.items = .ok items →
          selection.offered = items.map (·.ready) ∧ ∀ item ∈ items, item ∈ plan.workItems) ∧
        ∀ error, selection.items = .error error →
          ∀ ready ∈ selection.offered, ready.identity ∉ selection.scheduler.inFlight := by
    intro scheduler selected known
    refine ⟨?_, fun error raised => by cases raised⟩
    intro items same
    cases same
    exact ⟨rfl, known⟩
  induction places with
  | zero => exact fun _ selected known => done _ selected known
  | succ places ih =>
    intro scheduler activeScopes selected known
    unfold select
    split
    · exact done _ selected known
    next next ready returned =>
    rcases workBySlice_cases plan ready with ⟨unlisted, -⟩ | ⟨item, listed, same, found⟩
    · rw [unlisted]
      constructor
      · intro items returned
        cases returned
      · intro error _ other member reserved
        obtain ⟨held, apart⟩ := mem_releaseAll reserved
        rw [release_inFlight] at held
        rcases List.mem_append.mp member with earlier | last
        · obtain ⟨item, inside, rfl⟩ := List.mem_map.mp earlier
          refine apart item inside ?_
          rw [← (plan.valid.sameRun item (known item inside)).2]
          rfl
        · rw [List.mem_singleton.mp last] at held
          exact Finset.notMem_erase _ _ held
    · rw [found]
      have known' : ∀ other ∈ selected ++ [item], other ∈ plan.workItems := by
        intro other member
        rcases List.mem_append.mp member with earlier | last
        · exact known other earlier
        · rw [List.mem_singleton.mp last]
          exact listed
      have step := @ih next (activeScopes ∪ ready.writeScope) (selected ++ [item]) known'
      rw [List.map_append, List.map_singleton, same] at step
      exact step

theorem recover_ok (scheduler : FairScheduler) (runKey : String)
    (terminals : List ExecutionAgentOutcome) : (recover scheduler runKey terminals).2 = .ok () := by
  refine inTurn_ok ?_ scheduler
  intro scheduler terminal _
  split
  · next sliceRef _ _ =>
    obtain ⟨next, marked, -⟩ := scheduler.awaitIntegration_natural runKey sliceRef.sliceId.str
      (Int.natCast_nonneg (sliceRef.generation : Nat))
    rw [marked]
  · rfl

/-! ## Outcomes -/

/-- What recording the outcomes does: no item stays reserved, and each one with a candidate
awaits its integration. -/
structure Recorded (scheduler : FairScheduler) (runKey : String)
    (pairs : List (ExecutionWorkItem × ExecutionAgentOutcome)) (next : FairScheduler) : Prop where
  shrinks : next.inFlight ⊆ scheduler.inFlight
  released : ∀ pair ∈ pairs,
    (runKey, pair.1.ready.sliceId, pair.1.ready.generation) ∉ next.inFlight
  marks : scheduler.awaitingIntegration ⊆ next.awaitingIntegration
  awaits : ∀ pair ∈ pairs, pair.2.candidateReceipt ≠ none →
    (runKey, pair.1.ready.sliceId, pair.1.ready.generation) ∈ next.awaitingIntegration

theorem recordOutcomes_recorded (runKey : String)
    (pairs : List (ExecutionWorkItem × ExecutionAgentOutcome)) : ∀ scheduler : FairScheduler,
    ∃ next, recordOutcomes scheduler runKey pairs = (next, .ok ()) ∧
      Recorded scheduler runKey pairs next := by
  induction pairs with
  | nil =>
    intro scheduler
    exact ⟨scheduler, rfl, subset_rfl, fun _ member => absurd member List.not_mem_nil, subset_rfl,
      fun _ member => absurd member List.not_mem_nil⟩
  | cons first pairs ih =>
    intro scheduler
    obtain ⟨item, outcome⟩ := first
    -- The first outcome is recorded with one call, which gives its reservation back.
    have step : ∃ middle : FairScheduler,
        recordOutcomes scheduler runKey ((item, outcome) :: pairs) =
          recordOutcomes middle runKey pairs ∧
        middle.inFlight =
          scheduler.inFlight.erase (runKey, item.ready.sliceId, item.ready.generation) ∧
        scheduler.awaitingIntegration ⊆ middle.awaitingIntegration ∧
        (outcome.candidateReceipt ≠ none →
          (runKey, item.ready.sliceId, item.ready.generation) ∈ middle.awaitingIntegration) := by
      cases candidate : outcome.candidateReceipt with
      | none =>
        refine ⟨scheduler.release runKey item.ready.sliceId (some item.ready.generation), ?_, rfl,
          subset_rfl, fun some => absurd rfl some⟩
        unfold recordOutcomes
        rw [inTurn]
        simp [candidate]
      | some receipt =>
        obtain ⟨middle, marked, inFlight, awaiting⟩ := scheduler.awaitIntegration_natural runKey
          item.ready.sliceId item.ready.generationNatural
        refine ⟨middle, ?_, inFlight, ?_, fun _ => ?_⟩
        · unfold recordOutcomes
          rw [inTurn]
          simp [candidate, marked]
        · rw [awaiting]
          exact Finset.subset_insert _ _
        · rw [awaiting]
          exact Finset.mem_insert_self _ _
    obtain ⟨middle, same, inFlight, marks, awaits⟩ := step
    obtain ⟨next, done, recorded⟩ := ih middle
    refine ⟨next, same.trans done, ?_, ?_, marks.trans recorded.marks, ?_⟩
    · refine recorded.shrinks.trans ?_
      rw [inFlight]
      exact Finset.erase_subset _ _
    · intro pair member reserved
      rcases List.mem_cons.mp member with rfl | later
      · have held := recorded.shrinks reserved
        rw [inFlight] at held
        exact Finset.notMem_erase _ _ held
      · exact recorded.released pair later reserved
    · intro pair member candidate
      rcases List.mem_cons.mp member with rfl | later
      · exact recorded.marks (awaits candidate)
      · exact recorded.awaits pair later candidate

/-! ## Every exit -/

/-- What a round leaves behind: a round that is over without a dispatch leaves no slice reserved
that `next` has returned to it; a round that dispatches goes on with exactly these slices, and
leaves none of them reserved when it is over; and when it returns, each slice that delivered a
candidate awaits its integration. -/
def LeavesNothing (state : ExecutionRounds checkpointReceiptDigest) :
    RoundInput checkpointReceiptDigest → Prop
  | .loaded runId plan =>
    let (scheduler, offered, result) := beginRound state.maxParallelism state.scheduler runId plan
    (∀ round, result = .ok (.dispatched round) → offered = round.selected.map (·.ready)) ∧
      ((∀ round, result ≠ .ok (.dispatched round)) →
        ∀ ready ∈ offered, ready.identity ∉ scheduler.inFlight)
  | .gathered index gathered => ∀ round, state.running[index]? = some round →
      let (scheduler, result) := finishRound state.scheduler round gathered
      (∀ item ∈ round.selected, item.ready.identity ∉ scheduler.inFlight) ∧
        ∀ decision sessions, result = .ok decision → gathered = .answered sessions →
          ∀ item ∈ round.selected, ∀ outcome,
            dispatch checkpointReceiptDigest item (sessions item) = .ok outcome →
            outcome.candidateReceipt ≠ none →
            item.ready.identity ∈ scheduler.awaitingIntegration

/-- The running rounds dispatch work items of their plans. -/
def RunningListed (state : ExecutionRounds checkpointReceiptDigest) : Prop :=
  ∀ round ∈ state.running, ∀ item ∈ round.selected, item ∈ round.plan.workItems

theorem beginRound_cases (maxParallelism : Nat) (scheduler : FairScheduler) (runId : RunId)
    (plan : ExecutionRoundPlan checkpointReceiptDigest) :
    (∃ next offered result, beginRound maxParallelism scheduler runId plan = (next, offered, result) ∧
        (∀ round, result ≠ .ok (.dispatched round)) ∧
        ∀ ready ∈ offered, ready.identity ∉ next.inFlight) ∨
      ∃ next round, beginRound maxParallelism scheduler runId plan =
          (next, round.selected.map (·.ready), .ok (.dispatched round)) ∧
        round.plan = plan ∧ ∀ item ∈ round.selected, item ∈ plan.workItems := by
  unfold beginRound
  split
  · exact .inl ⟨_, _, _, rfl, by simp, by simp⟩
  split
  · exact .inl ⟨_, _, _, rfl, by simp, by simp⟩
  next loaded _ =>
  split
  · exact .inl ⟨_, _, _, rfl, by simp, by simp⟩
  have selection := @select_offered _ plan maxParallelism loaded ∅ [] (by simp)
  simp only [List.map_nil] at selection
  dsimp only
  cases items : (select plan maxParallelism loaded ∅ [] []).items with
  | error error => exact .inl ⟨_, _, _, rfl, by simp, selection.2 error items⟩
  | ok selected =>
    obtain ⟨offered, known⟩ := selection.1 selected items
    dsimp only
    split
    · next nothing =>
      refine .inl ⟨_, _, _, rfl, by simp, ?_⟩
      rw [offered, nothing.1]
      simp
    have recovered := recover_ok (select plan maxParallelism loaded ∅ [] []).scheduler
      plan.runId.str plan.recoveredTerminals
    split
    · next raised =>
      rw [raised] at recovered
      cases recovered
    · rw [offered]
      exact .inr ⟨_, ⟨plan, selected, _, _, _⟩, rfl, rfl, known⟩

theorem step_running (listed : RunningListed state) (input : RoundInput checkpointReceiptDigest) :
    RunningListed (state.step input) := by
  cases input with
  | loaded runId plan =>
    unfold step
    dsimp only
    rcases beginRound_cases state.maxParallelism state.scheduler runId plan with
      ⟨next, offered, result, begun, noRound, -⟩ | ⟨next, round, begun, rfl, known⟩
    · rw [begun]
      split
      · next same =>
        cases same
        exact absurd rfl (noRound _)
      · exact listed
    · rw [begun]
      intro other member
      rcases List.mem_append.mp member with earlier | last
      · exact listed other earlier
      · rw [List.mem_singleton.mp last]
        exact known
  | gathered index gathered =>
    unfold step
    dsimp only
    split
    · exact listed
    · exact fun other member => listed other (List.mem_of_mem_eraseIdx member)

theorem step_leavesNothing (listed : RunningListed state)
    (input : RoundInput checkpointReceiptDigest) : LeavesNothing state input := by
  cases input with
  | loaded runId plan =>
    unfold LeavesNothing
    dsimp only
    rcases beginRound_cases state.maxParallelism state.scheduler runId plan with
      ⟨next, offered, result, begun, noRound, free⟩ | ⟨next, round, begun, -, -⟩
    · rw [begun]
      exact ⟨fun round same => absurd same (noRound round), fun _ => free⟩
    · rw [begun]
      refine ⟨?_, fun noRound => absurd rfl (noRound round)⟩
      intro other same
      cases same
      rfl
  | gathered index gathered =>
    intro round found
    have known := listed round (List.mem_of_getElem? found)
    have identity : ∀ item ∈ round.selected, item.ready.identity =
        (round.plan.runId.str, item.ready.sliceId, item.ready.generation) := by
      intro item member
      rw [← (round.plan.valid.sameRun item (known item member)).2]
      rfl
    have released : ∀ item ∈ round.selected, item.ready.identity ∉
        (state.scheduler.releaseAll round.plan.runId.str round.selected).inFlight := by
      intro item member reserved
      exact (mem_releaseAll reserved).2 item member (identity item member)
    unfold finishRound
    cases gathered with
    | cancelled => exact ⟨released, fun decision sessions returned => by cases returned⟩
    | answered sessions =>
      cases collected : outcomes round sessions with
      | error text =>
        simp only [collected]
        exact ⟨released, fun decision sessions returned => by cases returned⟩
      | ok outcomes =>
        simp only [collected]
        obtain ⟨next, done, recorded⟩ := recordOutcomes_recorded round.plan.runId.str
          (round.selected.zip outcomes) state.scheduler
        rw [done]
        refine ⟨?_, ?_⟩
        · intro item member
          obtain ⟨outcome, inside, -⟩ := mapM_zip collected member
          rw [identity item member]
          exact recorded.released _ inside
        · intro decision answered _ same item member outcome delivered candidate
          cases same
          obtain ⟨other, inside, dispatched⟩ := mapM_zip collected member
          rw [delivered] at dispatched
          obtain rfl := Except.ok.inj dispatched
          rw [identity item member]
          exact recorded.awaits _ inside candidate

/-- In every history of rounds, of any Runs in any order, no exit of a round leaves one of its
slices reserved, and the candidates of a round that returns await their integration. -/
theorem rounds_leave_nothing (maxParallelism : Nat) (positive : 0 < maxParallelism)
    (inputs : List (RoundInput checkpointReceiptDigest)) :
    Along step LeavesNothing (init checkpointReceiptDigest maxParallelism positive) inputs :=
  along_of_invariant RunningListed (fun _ input listed => step_running listed input)
    (fun _ input listed => step_leavesNothing listed input)
    (fun _ member => absurd member List.not_mem_nil) inputs

end ExecutionRounds

open SampleRounds ExecutionRounds in
theorem rounds_leave_nothing_interrupted :
    Along step LeavesNothing (init receiptDigest 2 (by decide))
      (interrupted ++ [.loaded runId recoveredPlan]) :=
  rounds_leave_nothing 2 (by decide) _

end CodeMigrator
