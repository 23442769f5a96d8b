import CodeMigrator.Runtime.Phases

/-!
# The plan behind a verified Run

The ledger of a Run tells how it came to its verification: one accepted plan, then a
complete execution round, then the change of status. A Run can be executing without a
plan, through a dispatch, but the rounds of such a Run are refused, so the invariant
`PlanHistory` holds in every phase.
-/

namespace CodeMigrator
open Lib

/-- The phases that need a plan behind them. -/
def RunStatus.pastExecution : RunStatus → Bool
  | verifying | reporting | completed | partiallyCompleted => true
  | _ => false

def RuntimeEvent.acceptsPlan (event : RuntimeEvent) : Bool := event.eventType == "run.plan.accepted"

/-- The event of an execution round that was the last one. -/
def RuntimeEvent.CompletesExecution (event : RuntimeEvent) : Prop :=
  event.eventType = "run.execute.round" ∧ Json.field? event.data "complete" = some (.bool true)

/-- The event of the change of status to verification. -/
def RuntimeEvent.EntersVerification (event : RuntimeEvent) : Prop :=
  event.eventType = "run.status_changed" ∧
    Json.field? event.data "run_status" = some (.str RunStatus.verifying.value)

/-- The ledger shows the plan, then the last round, then the change of status. -/
def LeadsToVerification (plan : RuntimeEvent) (events : List RuntimeEvent) : Prop :=
  ∃ round entry, round.CompletesExecution ∧ entry.EntersVerification ∧
    List.Sublist [plan, round, entry] events

/-- What the ledger of a Run says about its plan. -/
structure PlanHistory (snapshot : RuntimeSnapshot) : Prop where
  planning : snapshot.state.status = .planning → snapshot.state.frozenPlanSha256 = none
  unplanned : snapshot.state.frozenPlanSha256 = none →
    snapshot.events.filter RuntimeEvent.acceptsPlan = [] ∧
      snapshot.state.status.pastExecution = false
  planned : ∀ planSha256, snapshot.state.frozenPlanSha256 = some planSha256 →
    ∃ plan, snapshot.events.filter RuntimeEvent.acceptsPlan = [plan] ∧
      Json.field? plan.data "plan_sha256" = some (.str planSha256) ∧
      (snapshot.state.status.pastExecution = true → LeadsToVerification plan snapshot.events)

/-! ## The events of a step -/

section Events

variable {events : List EventSpec} {state next : RunState}

theorem numbered_origin {first : Nat} {event : RuntimeEvent}
    (member : event ∈ RuntimeStore.numbered first events) :
    ∃ spec ∈ events, event.eventType = spec.eventType ∧ event.data = spec.data := by
  obtain ⟨⟨spec, sequence⟩, numbered, same⟩ := List.mem_map.mp member
  subst same
  exact ⟨spec, List.fst_mem_of_mem_zipIdx numbered, rfl, rfl⟩

theorem numbered_append (first : Nat) (left right : List EventSpec) :
    RuntimeStore.numbered first (left ++ right) =
      RuntimeStore.numbered first left ++ RuntimeStore.numbered (first + left.length) right := by
  simp only [RuntimeStore.numbered, List.zipIdx_append, List.map_append]

/-- No event of the step accepts a plan. -/
def NoPlan (events : List EventSpec) : Prop :=
  ∀ event ∈ events, event.eventType ≠ "run.plan.accepted"

@[simp] theorem noPlan_nil : NoPlan [] := by
  intro event member
  cases member

@[simp] theorem noPlan_cons {event : EventSpec} :
    NoPlan (event :: events) ↔ event.eventType ≠ "run.plan.accepted" ∧ NoPlan events :=
  List.forall_mem_cons

@[simp] theorem noPlan_append {left right : List EventSpec} :
    NoPlan (left ++ right) ↔ NoPlan left ∧ NoPlan right :=
  List.forall_mem_append

theorem NoPlan.committed (none_ : NoPlan events) :
    NoPlan (committedEvents (some state) next events) := by
  by_cases same : state.status = next.status
  · rw [committedEvents_same events same]
    exact none_
  · rw [committedEvents_moved events same]
    simpa [runStatusChangedEvent] using none_

theorem NoPlan.filter_extend {snapshot : RuntimeSnapshot} (none_ : NoPlan events) :
    (snapshot.extend next events).events.filter RuntimeEvent.acceptsPlan =
      snapshot.events.filter RuntimeEvent.acceptsPlan := by
  have empty : (RuntimeStore.numbered (snapshot.events.length + 1) events).filter
      RuntimeEvent.acceptsPlan = [] := by
    rw [List.filter_eq_nil_iff]
    intro event member accepts
    obtain ⟨spec, isSpec, sameType, _⟩ := numbered_origin member
    apply none_ spec isSpec
    rw [← sameType]
    exact eq_of_beq accepts
  simp only [RuntimeSnapshot.extend, List.filter_append, empty, List.append_nil]

/-- The items of a recovery plan without an id. -/
def recoveryItems : List String :=
  ["recovery.actor_rebuilt", "dispatch.interrupted", "git.refs.reconciled", "receipts.repaired",
    "checkpoint.discarded", "recovery.ref_drift", "recovery.completed"]

/-- An event that is named otherwise is none of a recovery: the items with an id begin with
another letter. -/
theorem recoveryEvents_other {name : String} (begins : name.toList.head? = some 'r')
    (other : name ∉ recoveryItems) (trigger : RecoveryTrigger)
    (activeDispatchIds missingIntentIds : List String) (checkpointCorrupt refDrift : Bool) :
    ∀ event ∈ (RecoveryCoordinator.trigger trigger activeDispatchIds missingIntentIds
      checkpointCorrupt refDrift).events.map recoveryEvent, event.eventType ≠ name := by
  have named : ∀ (c : Char) (rest : List Char) (id : String), c ≠ 'r' →
      String.ofList (c :: rest) ++ id ≠ name := by
    intro c rest id differs same
    rw [← same, String.toList_append, String.toList_ofList, List.cons_append, List.head?_cons,
      Option.some.injEq] at begins
    exact differs begins
  simp only [recoveryItems, List.mem_cons, List.not_mem_nil, or_false, not_or] at other
  obtain ⟨rebuilt, interrupted, reconciled, repaired, discarded, drift, completed⟩ := other
  have items : ∀ item ∈ (RecoveryCoordinator.trigger trigger activeDispatchIds missingIntentIds
      checkpointCorrupt refDrift).events, item ≠ name := by
    simp only [RecoveryCoordinator.trigger, List.forall_mem_append, List.forall_mem_map,
      List.forall_mem_singleton]
    refine ⟨⟨⟨⟨⟨⟨Ne.symm rebuilt, ?_⟩, ?_⟩, ?_⟩, ?_⟩, ?_⟩, Ne.symm completed⟩
    · exact fun id _ => named 'd' "ispatch.interrupted:".toList id (by decide)
    · simp [Ne.symm reconciled, Ne.symm repaired]
    · exact fun id _ => named 'i' "ntegration.intent.retry:".toList id (by decide)
    · cases checkpointCorrupt <;> simp [Ne.symm discarded]
    · cases refDrift <;> simp [Ne.symm drift]
  intro event member
  obtain ⟨item, isItem, rfl⟩ := List.mem_map.mp member
  unfold recoveryEvent
  split
  · exact Ne.symm interrupted
  · exact items item isItem

theorem recoveryEvents_noPlan (trigger : RecoveryTrigger)
    (activeDispatchIds missingIntentIds : List String) (checkpointCorrupt refDrift : Bool) :
    NoPlan ((RecoveryCoordinator.trigger trigger activeDispatchIds missingIntentIds
      checkpointCorrupt refDrift).events.map recoveryEvent) :=
  recoveryEvents_other (by decide) (by decide) _ _ _ _ _

/-- What a step means for the plan: it accepts one, or completes the execution of one, or
does neither. -/
inductive PlanEffect (state next : RunState) (events : List EventSpec) : Prop where
  | accepts (terminalEvent plan : EventSpec) (planSha256 : String)
      (planning : state.status = .planning)
      (listed : events = [terminalEvent, plan, runStatusChangedEvent next])
      (terminal : terminalEvent.eventType = "agent_run.terminal")
      (accepted : plan.eventType = "run.plan.accepted")
      (names : Json.field? plan.data "plan_sha256" = some (.str planSha256))
      (frozen : next.frozenPlanSha256 = some planSha256) (executing : next.status = .executing)
  | completes (earlier : List EventSpec) (round : EventSpec)
      (listed : events = earlier ++ [round, runStatusChangedEvent next]) (none_ : NoPlan earlier)
      (isRound : round.eventType = "run.execute.round")
      (complete : Json.field? round.data "complete" = some (.bool true))
      (planned : state.frozenPlanSha256 ≠ none)
      (frozen : next.frozenPlanSha256 = state.frozenPlanSha256)
      (verifying : next.status = .verifying)
  | neither (none_ : NoPlan events) (frozen : next.frozenPlanSha256 = state.frozenPlanSha256)
      (past : next.status.pastExecution = true → state.status.pastExecution = true)

theorem budgetWarning_noPlan (evaluation : BudgetEvaluation) :
    NoPlan (budgetWarning evaluation) := by
  unfold budgetWarning
  split
  · simp
  · simp

theorem exhaustedEvents_noPlan (evaluation : BudgetEvaluation) (writeFailed archiveFailed : Bool) :
    NoPlan (exhaustedEvents evaluation writeFailed archiveFailed) := by
  have warning := budgetWarning_noPlan evaluation
  unfold exhaustedEvents
  cases writeFailed <;> cases archiveFailed <;> simp [warning]

theorem decideAdvice_noPlan (state : RunState) (advice : Advice)
    (result : AdviceValidationResult) : NoPlan [(decideAdvice state advice result).event] := by
  simp only [decideAdvice]
  repeat' split
  all_goals simp [adviceEvent]

theorem executionRound_planEffect (executing : state.status = .executing)
    (planned : state.frozenPlanSha256 ≠ none) (logicalKey : String)
    (decision : ExecutionRoundDecision) (facts : List CandidateCheckpointFact)
    {earlier : List EventSpec} (none_ : NoPlan earlier) :
    PlanEffect state (roundState state decision facts)
      (committedEvents (some state) (roundState state decision facts)
        (earlier ++ [roundEvent logicalKey decision])) := by
  cases complete : decision.complete with
  | true =>
    have verifying : (roundState state decision facts).status = .verifying := by
      simp only [roundState, complete, if_true]
    have moved : state.status ≠ (roundState state decision facts).status := by
      rw [executing, verifying]
      decide
    rw [committedEvents_moved _ moved, List.append_assoc]
    refine .completes earlier (roundEvent logicalKey decision) rfl none_ rfl ?_ planned rfl verifying
    simp [roundEvent, Json.field?, Dict.lookup, complete]
  | false =>
    have still : (roundState state decision facts).status = .executing := by
      simp only [roundState, complete, Bool.false_eq_true, if_false]
    refine .neither ?_ rfl ?_
    · apply NoPlan.committed
      simp [none_, roundEvent]
    · rw [still]
      exact fun past => by cases past

theorem RunStep.planEffect {config : ActorConfig} {message : RuntimeMessage} {work : List PortCall}
    (run : RunStep config message state events work next) : PlanEffect state next events := by
  cases run with
  | acceptPlan command completion frozenPlan terminalEvent _ planning spec =>
    exact .accepts terminalEvent _ frozenPlan.planHash.text planning rfl
      (agentRunTerminalSpec_key spec).1 rfl rfl rfl rfl
  | agentRunStarted command record event _ active spec =>
    have started : event.eventType = "agent_run.started" := by
      unfold agentRunStartedSpec at spec
      split at spec
      · cases spec
      · cases spec
        rfl
    exact .neither (by simp [started]) rfl id
  | agentRunTerminal command record receipt terminalEvent _ executing spec =>
    exact .neither (by simp [(agentRunTerminalSpec_key spec).1]) rfl id
  | integrationCompleted => exact .neither (by simp [integrationEvents]) rfl id
  | executionRound logicalKey decision facts terminalEvents candidateEvents _ executing planned
      terminals candidates =>
      refine executionRound_planEffect executing planned logicalKey decision facts ?_
      rw [noPlan_append]
      refine ⟨?_, ?_⟩
      · intro event member
        rw [terminals event member]
        decide
      · intro event member
        rw [candidates event member]
        decide
  | verification command data _ verifying =>
    refine .neither (.committed (by simp)) rfl ?_
    rw [verifying]
    exact fun _ => rfl
  | report command result data _ reporting =>
    refine .neither (.committed (by simp)) rfl ?_
    rw [reporting]
    exact fun _ => rfl
  | cancel => exact .neither (.committed (by simp)) rfl (fun past => by cases past)
  | segmentStopped kind payload generation =>
    refine .neither ?_ rfl id
    unfold segmentEvent
    split
    · simp
    · simp
  | dispatchStarted =>
    exact .neither (.committed (by simp [dispatchStartedEvent])) rfl (fun past => by cases past)
  | budget inputTokens outputTokens costMicros evaluation =>
    exact .neither (budgetWarning_noPlan evaluation) rfl id
  | budgetExhausted inputTokens outputTokens costMicros evaluation writeFailed archiveFailed =>
    exact .neither (exhaustedEvents_noPlan evaluation writeFailed archiveFailed).committed rfl
      (fun past => by cases past)
  | recovery trigger activeDispatchIds missingIntentIds checkpointCorrupt refDrift kind =>
    exact .neither (recoveryEvents_noPlan kind _ _ _ _) rfl id
  | adviceMismatch => exact .neither (by simp [adviceEvent]) rfl id
  | advice advice result =>
    obtain ⟨adopted, pending, version, equal⟩ := decideAdvice_frame state advice result
    refine .neither (decideAdvice_noPlan state advice result) ?_ ?_
    · rw [equal]
    · rw [equal]
      exact id
  | _ => exact .neither (by simp) rfl id

end Events

/-! ## The invariant -/

section Invariant

theorem createdSnapshot_planHistory (config : ActorConfig) (createRun : CreateRun) :
    PlanHistory (createdSnapshot config createRun) where
  planning := fun _ => rfl
  unplanned := fun _ => ⟨rfl, rfl⟩
  planned := by
    intro planSha256 frozen
    cases frozen

variable {snapshot : RuntimeSnapshot} {next : RunState}

theorem LeadsToVerification.extend {plan : RuntimeEvent}
    (leads : LeadsToVerification plan snapshot.events) (next : RunState) (events : List EventSpec) :
    LeadsToVerification plan (snapshot.extend next events).events := by
  obtain ⟨round, entry, isRound, isEntry, ordered⟩ := leads
  exact ⟨round, entry, isRound, isEntry, ordered.trans (List.sublist_append_left _ _)⟩

theorem leadsToVerification_of_round {plan : RuntimeEvent} (member : plan ∈ snapshot.events)
    (verifying : next.status = .verifying) {earlier : List EventSpec} {round : EventSpec}
    (isRound : round.eventType = "run.execute.round")
    (complete : Json.field? round.data "complete" = some (.bool true)) :
    LeadsToVerification plan
      (snapshot.extend next (earlier ++ [round, runStatusChangedEvent next])).events := by
  let position := snapshot.events.length + 1 + earlier.length
  let entry := runStatusChangedEvent next
  refine ⟨⟨position, round.eventType, round.data⟩, ⟨position + 1, entry.eventType, entry.data⟩,
    ⟨isRound, complete⟩, ⟨rfl, ?_⟩, ?_⟩
  · simp [entry, runStatusChangedEvent, Json.field?, Dict.lookup, verifying]
  · have first : List.Sublist [plan] snapshot.events := List.singleton_sublist.mpr member
    have second : List.Sublist
        [(⟨position, round.eventType, round.data⟩ : RuntimeEvent),
          ⟨position + 1, entry.eventType, entry.data⟩]
        (RuntimeStore.numbered (snapshot.events.length + 1) (earlier ++ [round, entry])) := by
      rw [numbered_append]
      exact List.sublist_append_right _ _
    exact first.append second

theorem PlanHistory.step {config : ActorConfig} {message : RuntimeMessage} {events : List EventSpec}
    {work : List PortCall} (run : RunStep config message snapshot.state events work next)
    (history : PlanHistory snapshot) : PlanHistory (snapshot.extend next events) := by
  have stillPlanning : next.status = .planning → snapshot.state.status = .planning :=
    run.planning_of
  cases run.planEffect with
  | accepts terminalEvent plan planSha256 planning listed terminal accepted names frozen executing =>
    have noneBefore := (history.unplanned (history.planning planning)).1
    refine ⟨?_, ?_, ?_⟩
    · intro planning
      exact absurd (executing.symm.trans planning) (by decide)
    · intro unplanned
      exact absurd (frozen.symm.trans unplanned) (by simp)
    · intro hash sameFrozen
      have same : planSha256 = hash := Option.some.inj (frozen.symm.trans sameFrozen)
      subst same
      refine ⟨⟨snapshot.events.length + 1 + 1, plan.eventType, plan.data⟩, ?_, names, ?_⟩
      · simp [RuntimeSnapshot.extend, noneBefore, listed, RuntimeStore.numbered,
          RuntimeEvent.acceptsPlan, terminal, accepted, runStatusChangedEvent]
      · intro past
        rw [RuntimeSnapshot.extend_state, executing] at past
        cases past
  | completes earlier round listed none_ isRound complete planned frozen verifying =>
    have noPlan : NoPlan events := by
      rw [listed]
      simp [none_, isRound, runStatusChangedEvent]
    refine ⟨?_, ?_, ?_⟩
    · intro planning
      exact absurd (verifying.symm.trans planning) (by decide)
    · intro unplanned
      exact absurd (frozen.symm.trans unplanned) planned
    · intro hash sameFrozen
      obtain ⟨plan, only, names, _⟩ := history.planned hash (frozen.symm.trans sameFrozen)
      have member : plan ∈ snapshot.events := ((mem_of_filter_singleton only plan).mpr rfl).1
      refine ⟨plan, noPlan.filter_extend.trans only, names, ?_⟩
      intro _
      rw [listed]
      exact leadsToVerification_of_round member verifying isRound complete
  | neither none_ frozen past =>
    refine ⟨?_, ?_, ?_⟩
    · intro planning
      exact frozen.trans (history.planning (stillPlanning planning))
    · intro unplanned
      obtain ⟨noneBefore, notPast⟩ := history.unplanned (frozen.symm.trans unplanned)
      refine ⟨none_.filter_extend.trans noneBefore, ?_⟩
      rw [Bool.eq_false_iff]
      intro pastNow
      rw [past pastNow] at notPast
      cases notPast
    · intro hash sameFrozen
      obtain ⟨plan, only, names, leads⟩ := history.planned hash (frozen.symm.trans sameFrozen)
      refine ⟨plan, none_.filter_extend.trans only, names, ?_⟩
      intro pastNow
      exact (leads (past pastNow)).extend next events

theorem PlanHistory.frozen_kept {config : ActorConfig} {message : RuntimeMessage}
    {events : List EventSpec} {work : List PortCall}
    (run : RunStep config message snapshot.state events work next) (history : PlanHistory snapshot)
    (planSha256 : String) (frozenBefore : snapshot.state.frozenPlanSha256 = some planSha256) :
    next.frozenPlanSha256 = some planSha256 := by
  cases run.planEffect with
  | accepts terminalEvent plan other planning =>
    have none_ := history.planning planning
    rw [frozenBefore] at none_
    cases none_
  | completes earlier round listed none_ isRound complete planned frozen =>
    exact frozen.trans frozenBefore
  | neither none_ frozen => exact frozen.trans frozenBefore

/-- A Run that is verified, reported on or done has a frozen plan, its ledger accepts
exactly that plan, and shows the last execution round before the verification; and a
frozen plan is never replaced. -/
theorem verified_run_has_plan (config : ActorConfig) (world : World) (fresh : Fresh config world)
    (inputs : List Input) :
    (∀ snapshot, (runFrom (step config) world inputs).store.load config.runId = some snapshot →
      snapshot.state.status.pastExecution = true →
      ∃ planSha256 plan, snapshot.state.frozenPlanSha256 = some planSha256 ∧
        snapshot.events.filter RuntimeEvent.acceptsPlan = [plan] ∧
        Json.field? plan.data "plan_sha256" = some (.str planSha256) ∧
        LeadsToVerification plan snapshot.events) ∧
    Throughout (step config)
      (Persisted config fun before after => ∀ planSha256,
        before.frozenPlanSha256 = some planSha256 → after.frozenPlanSha256 = some planSha256)
      world inputs := by
  have created := createdSnapshot_planHistory config
  constructor
  · intro snapshot found past
    have history := (snapshot_invariant created PlanHistory.step fresh inputs).holds snapshot found
    cases frozen : snapshot.state.frozenPlanSha256 with
    | none =>
      rw [(history.unplanned frozen).2] at past
      cases past
    | some planSha256 =>
      obtain ⟨plan, only, names, leads⟩ := history.planned planSha256 frozen
      exact ⟨planSha256, plan, rfl, only, names, leads past⟩
  · refine persisted_throughout created PlanHistory.step fresh (fun _ _ frozen => frozen) ?_
      PlanHistory.frozen_kept inputs
    intro first second third toSecond toThird planSha256 frozen
    exact toThird planSha256 (toSecond planSha256 frozen)

end Invariant

open SampleRun in
theorem verified_run_has_plan_sample :
    ∃ snapshot plan, (runFrom (step config) start toVerification).store.load runId = some snapshot ∧
      snapshot.state.status = .verifying ∧
      snapshot.events.filter RuntimeEvent.acceptsPlan = [plan] ∧
      LeadsToVerification plan snapshot.events := by
  have verifying : ((runFrom (step config) start toVerification).store.load runId).map
      (·.state.status) = some .verifying := by decide +kernel
  obtain ⟨snapshot, found, status⟩ := Option.map_eq_some_iff.mp verifying
  obtain ⟨planSha256, plan, _, only, _, leads⟩ :=
    (verified_run_has_plan config start start_fresh toVerification).1 snapshot found
      (by rw [status]; rfl)
  exact ⟨snapshot, plan, found, status, only, leads⟩

end CodeMigrator
