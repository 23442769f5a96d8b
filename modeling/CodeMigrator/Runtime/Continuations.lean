import CodeMigrator.Runtime.Phases

/-!
# The continuation budget

A segment of a slice that stops with progress is continued, and every generation has a budget
of `max_continuations_per_generation` continuations (`_handle_segment_stopped` of
`runtime/actor.py`). The count of a generation is rebuilt from the persisted pairs at every
stop; the continuation itself is a port call outside of the commit. The results bound the
counts in every reachable state, and the port calls by the counts that are durable when they
are made.
-/

namespace CodeMigrator
open Lib

/-- The recorded continuations are within the budget of their generations, and a failed slice is
listed once. -/
structure RunState.ContinuationsBounded (limit : Nat) (state : RunState) : Prop where
  distinct : (state.continuationCounts.map Prod.fst).Nodup
  generations : ∀ entry ∈ state.continuationCounts, entry.1 = 0 ∨ entry.1 = 1 ∨ entry.1 = 2
  bounds : ∀ entry ∈ state.continuationCounts, 0 ≤ entry.2 ∧ entry.2 ≤ limit
  failuresOnce : state.terminalSliceFailures.Nodup

/-- The call continues a segment of the generation. -/
def PortCall.schedules (generation : Int) : PortCall → Bool
  | schedule _ scheduled => scheduled == generation
  | _ => false

/-- How many of the calls continue a segment of the generation. -/
def scheduledCalls (calls : List PortCall) (generation : Int) : Nat :=
  calls.countP (PortCall.schedules generation)

/-- The durable count of a generation. -/
def recordedCount (persisted : Option RuntimeSnapshot) (generation : Int) : Int :=
  (persisted.map fun snapshot => continuationCount snapshot.state generation).getD 0

/-! ## A stopped segment -/

section Segment

variable {config : ActorConfig} {state : RunState} {generation : Int} {payload : EventData}

theorem segmentGeneration_valid (valid : segmentGeneration payload = some generation) :
    generation = 0 ∨ generation = 1 ∨ generation = 2 := by
  unfold segmentGeneration at valid
  split at valid
  · split at valid
    · next listed =>
      rw [Option.some.injEq] at valid
      subst valid
      simpa using listed
    · cases valid
  · cases valid

/-- The new count of the generation of a stopped segment. -/
def segmentCount (config : ActorConfig) (state : RunState) (generation : Int)
    (payload : EventData) : Int :=
  if segmentEligible config state generation payload then continuationCount state generation + 1
  else continuationCount state generation

theorem segmentState_counts :
    (segmentState config state generation payload).continuationCounts.Perm
      ((Dict.ofPairs state.continuationCounts).set generation
        (segmentCount config state generation payload)).entries :=
  List.perm_insertionSort pairLe _

theorem continuationCount_segmentState (query : Int) :
    continuationCount (segmentState config state generation payload) query =
      if query = generation then segmentCount config state generation payload
      else continuationCount state query := by
  rw [continuationCount, Dict.get?_ofPairs_perm segmentState_counts, Dict.get?_set]
  split
  · rfl
  · rfl

theorem segmentState_entry {entry : Int × Int}
    (member : entry ∈ (segmentState config state generation payload).continuationCounts) :
    entry = (generation, segmentCount config state generation payload) ∨
      entry ∈ state.continuationCounts := by
  have found := (Dict.get?_eq_some_iff _ entry.1 entry.2).mpr
    (segmentState_counts.mem_iff.mp member)
  rw [Dict.get?_set] at found
  split at found
  · next same =>
    left
    rw [Option.some.injEq] at found
    rw [found, ← same]
  · exact .inr (Dict.mem_of_get?_ofPairs found)

theorem RunState.ContinuationsBounded.count {limit : Nat} (bounded : state.ContinuationsBounded limit)
    (generation : Int) :
    0 ≤ continuationCount state generation ∧ continuationCount state generation ≤ limit := by
  unfold continuationCount
  cases found : (Dict.ofPairs state.continuationCounts).get? generation with
  | none => exact ⟨le_refl 0, Int.natCast_nonneg limit⟩
  | some count => exact bounded.bounds _ (Dict.mem_of_get?_ofPairs found)

/-- A continuation is counted only below the limit, and a failed slice is added only when it is
not listed yet. -/
theorem segmentState_bounded
    (bounded : state.ContinuationsBounded config.maxContinuationsPerGeneration)
    (valid : segmentGeneration payload = some generation) :
    (segmentState config state generation payload).ContinuationsBounded
      config.maxContinuationsPerGeneration := by
  have current := bounded.count generation
  have new : 0 ≤ segmentCount config state generation payload ∧
      segmentCount config state generation payload ≤ config.maxContinuationsPerGeneration := by
    unfold segmentCount
    split
    · next eligible =>
      simp only [segmentEligible, Bool.and_eq_true, decide_eq_true_eq] at eligible
      omega
    · exact current
  refine ⟨?_, ?_, ?_, ?_⟩
  · exact (segmentState_counts.map Prod.fst).nodup_iff.mpr (Dict.nodup _)
  · intro entry member
    rcases segmentState_entry member with rfl | old
    · exact segmentGeneration_valid valid
    · exact bounded.generations entry old
  · intro entry member
    rcases segmentState_entry member with rfl | old
    · exact new
    · exact bounded.bounds entry old
  · simp only [segmentState]
    split
    · next added =>
      rw [← List.concat_eq_append]
      exact bounded.failuresOnce.concat added.2
    · exact bounded.failuresOnce

end Segment

/-! ## Steps of the Run -/

section Steps

variable {config : ActorConfig} {world : World} {state next : RunState} {work : List PortCall}
  {message : RuntimeMessage} {events : List EventSpec}

theorem RunState.ContinuationsBounded.of_same {limit : Nat}
    (bounded : state.ContinuationsBounded limit)
    (counts : next.continuationCounts = state.continuationCounts)
    (failures : next.terminalSliceFailures = state.terminalSliceFailures) :
    next.ContinuationsBounded limit :=
  ⟨counts ▸ bounded.distinct, counts ▸ bounded.generations, counts ▸ bounded.bounds,
    failures ▸ bounded.failuresOnce⟩

/-- What a step does to the continuations of a Run: it keeps them within the budget, and the
counts grow by the continuations that it starts at least. -/
structure Counted (config : ActorConfig) (state : RunState) (work : List PortCall)
    (next : RunState) : Prop where
  bounded : state.ContinuationsBounded config.maxContinuationsPerGeneration →
    next.ContinuationsBounded config.maxContinuationsPerGeneration
  grows : ∀ generation, continuationCount state generation + scheduledCalls work generation ≤
    continuationCount next generation

theorem Counted.of_same (counts : next.continuationCounts = state.continuationCounts)
    (failures : next.terminalSliceFailures = state.terminalSliceFailures)
    (idle : ∀ generation, scheduledCalls work generation = 0) : Counted config state work next where
  bounded := fun bounded => bounded.of_same counts failures
  grows := by
    intro generation
    rw [idle generation, continuationCount, continuationCount, counts]
    simp

theorem segmentState_counted {generation : Int} {payload : EventData}
    (valid : segmentGeneration payload = some generation) :
    Counted config state
      (if segmentEligible config state generation payload && config.continuationPort then
        [.schedule config.runId generation] else [])
      (segmentState config state generation payload) where
  bounded := fun bounded => segmentState_bounded bounded valid
  grows := by
    intro query
    rw [continuationCount_segmentState, segmentCount]
    by_cases same : query = generation
    · subst same
      cases segmentEligible config state query payload with
      | false => simp [scheduledCalls]
      | true =>
        cases config.continuationPort with
        | false => simp [scheduledCalls]
        | true => simp [scheduledCalls, PortCall.schedules]
    · rw [if_neg same]
      have other : ∀ present : Bool, scheduledCalls
          (if present then [.schedule config.runId generation] else []) query = 0 := by
        intro present
        cases present with
        | false => rfl
        | true => simp [scheduledCalls, PortCall.schedules, Ne.symm same]
      rw [other]
      simp

theorem RunStep.counted (run : RunStep config message state events work next) :
    Counted config state work next := by
  cases run with
  | segmentStopped kind payload generation _ live valid => exact segmentState_counted valid
  | advice advice result =>
    obtain ⟨adopted, pending, version, equal⟩ := decideAdvice_frame state advice result
    rw [equal]
    refine .of_same rfl rfl fun generation => ?_
    split
    · rfl
    · rfl
  | _ => exact .of_same rfl rfl fun _ => rfl

/-- Only a stopped segment starts a continuation. -/
theorem RunStep.schedules_of (run : RunStep config message state events work next) :
    (∀ generation, scheduledCalls work generation = 0) ∨
      ∃ kind payload, message = .sessionInput kind payload := by
  cases run with
  | segmentStopped kind payload => exact .inr ⟨kind, payload, rfl⟩
  | advice =>
    refine .inl fun generation => ?_
    split
    · rfl
    · rfl
  | _ => exact .inl fun _ => rfl

theorem scheduledCalls_append (first second : List PortCall) (generation : Int) :
    scheduledCalls (first ++ second) generation =
      scheduledCalls first generation + scheduledCalls second generation :=
  List.countP_append

theorem scheduledCalls_core (config : ActorConfig) (world : World) (generation : Int) :
    scheduledCalls (world.core config).work generation = scheduledCalls world.calls generation := by
  rw [scheduledCalls, World.core, List.countP_filter, scheduledCalls]
  refine List.countP_congr fun call _ => ?_
  cases call with
  | schedule => simp [PortCall.isWork]
  | _ => simp [PortCall.schedules]

/-! ## Runs -/

/-- The continuations of a world: those of the actor's state and of the persisted one are within
the budget, and a generation was continued at most as often as its durable count says. -/
structure WithinBudget (config : ActorConfig) (world : World) : Prop where
  held : ∀ state, world.actor.state = some state →
    state.ContinuationsBounded config.maxContinuationsPerGeneration
  durable : ∀ snapshot, world.store.load config.runId = some snapshot →
    snapshot.state.ContinuationsBounded config.maxContinuationsPerGeneration
  scheduled : ∀ generation, (scheduledCalls world.calls generation : Int) ≤
    recordedCount (world.store.load config.runId) generation

/-- A continuation is the last thing that its step does: when the port is called, the store has
a count that exceeds the earlier continuations of the generation. -/
def ContinuesCommitted (config : ActorConfig) (world : World) (input : Input) : Prop :=
  ∀ generation, scheduledCalls (step config world input).calls generation =
      scheduledCalls world.calls generation ∨
    ∃ (committed : World) (around : Surroundings), committed.calls = world.calls ∧
      (scheduledCalls world.calls generation : Int) <
        recordedCount (committed.store.load config.runId) generation ∧
      step config world input =
        committed.callPort around true (.schedule config.runId generation)

/-- The invariant, on the part of the world that matters for the Run. -/
structure Budgeted (config : ActorConfig) (core : Core) : Prop where
  coherent : Coherent config core
  durable : ∀ snapshot, core.persisted = some snapshot →
    snapshot.state.ContinuationsBounded config.maxContinuationsPerGeneration
  scheduled : ∀ generation,
    (scheduledCalls core.work generation : Int) ≤ recordedCount core.persisted generation

theorem createdState_bounded (limit : Nat) (runId : RunId) (createRun : CreateRun) :
    (createdState runId createRun).ContinuationsBounded limit where
  distinct := List.nodup_nil
  generations := fun _ member => by cases member
  bounds := fun _ member => by cases member
  failuresOnce := List.nodup_nil

theorem Budgeted.commit {core : Core} {snapshot : RuntimeSnapshot} (budgeted : Budgeted config core)
    (found : core.persisted = some snapshot)
    (run : RunStep config message snapshot.state events work next) :
    next.ContinuationsBounded config.maxContinuationsPerGeneration ∧
      ∀ generation, (scheduledCalls (core.work ++ work) generation : Int) ≤
        continuationCount next generation := by
  refine ⟨run.counted.bounded (budgeted.durable snapshot found), fun generation => ?_⟩
  have before := budgeted.scheduled generation
  have grows := run.counted.grows generation
  rw [found] at before
  simp only [recordedCount, Option.map_some, Option.getD_some] at before
  rw [scheduledCalls_append]
  omega

theorem CoreStep.budgeted {input : Input} {core after : Core}
    (step : CoreStep config input core after) (budgeted : Budgeted config core) :
    Budgeted config after := by
  refine ⟨step.coherent budgeted.coherent, ?_, ?_⟩
  · intro later found
    cases step with
    | stay => exact budgeted.durable later found
    | register => exact budgeted.durable later found
    | create =>
      cases found
      exact createdState_bounded _ _ _
    | commit message around _ snapshot events work next stored run =>
      cases found
      exact (budgeted.commit stored run).1
    | own message around _ snapshot events next record current receipt terminalEvent stored run =>
      cases found
      exact (budgeted.commit stored run).1
  · intro generation
    have before := budgeted.scheduled generation
    cases step with
    | stay => exact before
    | register => exact before
    | create _ _ createRun absent =>
      rw [absent] at before
      exact before
    | commit message around _ snapshot events work next stored run =>
      exact (budgeted.commit stored run).2 generation
    | own message around _ snapshot events next record current receipt terminalEvent stored run =>
      have kept := (budgeted.commit stored run).2 generation
      rw [List.append_nil] at kept
      exact kept

theorem Budgeted.within (budgeted : Budgeted config (world.core config)) :
    WithinBudget config world where
  held := by
    intro state current
    obtain ⟨log, loaded⟩ := budgeted.coherent.loaded current
    exact budgeted.durable _ loaded.stored
  durable := budgeted.durable
  scheduled := by
    intro generation
    rw [← scheduledCalls_core config]
    exact budgeted.scheduled generation

theorem commit_calls (around : Surroundings) (world : World) (state : RunState)
    (events : List EventSpec) : (commit around world state events).1.calls = world.calls := by
  unfold commit
  split
  · rfl
  · rfl

theorem step_sessionInput (around : Surroundings) (kind : String) (payload : EventData) :
    step config world (.message (.sessionInput kind payload) around) =
      (handleSessionInput config around world kind payload).1 := by
  have normal : (handleSessionInput config around world kind payload).2 = none := by
    simp only [handleSessionInput, handleAdviceConfirmation, handleSegmentStopped]
    repeat' split
    all_goals rfl
  simp only [step, turn, handle]
  rw [← Prod.eta (handleSessionInput config around world kind payload), normal]

theorem callPort_calls (around : Surroundings) (world : World) (present : Bool) (call : PortCall) :
    (world.callPort around present call).calls = world.calls ++ if present then [call] else [] := by
  unfold World.callPort
  cases present with
  | false => simp
  | true =>
    by_cases raises : around.portRaises call
    · simp [raises, World.setLastError]
    · simp [raises]

theorem scheduledCalls_other {generation other : Int} (different : generation ≠ other)
    (calls : List PortCall) (runId : RunId) :
    scheduledCalls (calls ++ [.schedule runId other]) generation =
      scheduledCalls calls generation := by
  rw [scheduledCalls_append]
  simp [scheduledCalls, PortCall.schedules, Ne.symm different]

/-- The continuation of a stopped segment comes after the commit of its count. -/
theorem handleSegmentStopped_continues (budgeted : Budgeted config (world.core config))
    (around : Surroundings) {log : List RuntimeEvent} (loaded : Loaded config world ⟨state, log⟩)
    (payload : EventData) (generation : Int) :
    scheduledCalls (handleSegmentStopped config around world state payload).1.calls generation =
        scheduledCalls world.calls generation ∨
      ∃ committed : World, committed.calls = world.calls ∧
        (scheduledCalls world.calls generation : Int) <
          recordedCount (committed.store.load config.runId) generation ∧
        (handleSegmentStopped config around world state payload).1 =
          committed.callPort around true (.schedule config.runId generation) := by
  unfold handleSegmentStopped
  cases valid : segmentGeneration payload with
  | none => exact .inl (by simp only [World.done, commit_calls])
  | some stopped =>
    have own : (segmentState config state stopped payload).runId = config.runId := loaded.runId
    obtain ⟨flag, core⟩ := commit_core around loaded.stored loaded.current own [segmentEvent config state stopped payload]
    dsimp only [World.done]
    cases continued : (commit around world (segmentState config state stopped payload)
        [segmentEvent config state stopped payload]).2 &&
      segmentEligible config state stopped payload && config.continuationPort with
    | false => exact .inl (by rw [callPort_calls, commit_calls]; simp)
    | true =>
      by_cases same : generation = stopped
      · subst same
        have both := continued
        rw [Bool.and_eq_true, Bool.and_eq_true] at both
        obtain ⟨⟨committed, eligible⟩, -⟩ := both
        right
        refine ⟨_, commit_calls around world _ _, ?_, rfl⟩
        -- the store now has the state in which this continuation is counted
        rw [← flag, committed, if_pos rfl] at core
        have stored : (commit around world (segmentState config state generation payload)
            [segmentEvent config state generation payload]).1.store.load config.runId = _ :=
          congrArg Core.persisted core
        have before := budgeted.within.scheduled generation
        rw [loaded.stored] at before
        rw [stored]
        simp only [recordedCount, Option.map_some, Option.getD_some, RuntimeSnapshot.extend_state]
          at before ⊢
        rw [continuationCount_segmentState, if_pos rfl, segmentCount, if_pos eligible]
        omega
      · left
        rw [callPort_calls, commit_calls, if_pos rfl, scheduledCalls_other same]

theorem handleSessionInput_continues (budgeted : Budgeted config (world.core config))
    (around : Surroundings) (kind : String) (payload : EventData) (generation : Int) :
    scheduledCalls (handleSessionInput config around world kind payload).1.calls generation =
        scheduledCalls world.calls generation ∨
      ∃ committed : World, committed.calls = world.calls ∧
        (scheduledCalls world.calls generation : Int) <
          recordedCount (committed.store.load config.runId) generation ∧
        (handleSessionInput config around world kind payload).1 =
          committed.callPort around true (.schedule config.runId generation) := by
  unfold handleSessionInput
  cases current : world.actor.state with
  | none => exact .inl rfl
  | some state =>
    obtain ⟨log, loaded⟩ := budgeted.coherent.loaded current
    by_cases terminal : state.status.isTerminal = true
    · simp only [if_pos terminal]
      exact .inl rfl
    simp only [if_neg terminal]
    by_cases confirmation : kind = "confirm_advice"
    · simp only [if_pos confirmation, handleAdviceConfirmation]
      left
      split
      · rw [World.done, commit_calls]
      · rw [World.done, commit_calls]
    by_cases segment : kind = "segment_stopped"
    · simp only [if_neg confirmation, if_pos segment]
      exact handleSegmentStopped_continues budgeted around loaded payload generation
    simp only [if_neg confirmation, if_neg segment]
    exact .inl (by rw [World.done, commit_calls])

theorem Budgeted.continuesCommitted (budgeted : Budgeted config (world.core config))
    (input : Input) : ContinuesCommitted config world input := by
  -- only a session input starts a continuation
  have quiet : ∀ work, (∀ generation, scheduledCalls work generation = 0) →
      ((step config world input).core config).work = (world.core config).work ++ work →
      ContinuesCommitted config world input := by
    intro work idle works generation
    left
    rw [← scheduledCalls_core config, works, scheduledCalls_append, idle, scheduledCalls_core,
      Nat.add_zero]
  by_cases session : ∃ kind payload around, input = .message (.sessionInput kind payload) around
  · obtain ⟨kind, payload, around, rfl⟩ := session
    intro generation
    rw [step_sessionInput]
    rcases handleSessionInput_continues budgeted around kind payload generation with
      same | ⟨committed, calls, counted, after⟩
    · exact .inl same
    · exact .inr ⟨committed, around, calls, counted, after⟩
  · have one := step_core budgeted.coherent input
    generalize (step config world input).core config = after at one quiet
    generalize world.core config = before at one quiet
    cases one with
    | stay => exact quiet [] (fun _ => rfl) (List.append_nil _).symm
    | create => exact quiet [] (fun _ => rfl) (List.append_nil _).symm
    | register => exact quiet [] (fun _ => rfl) (List.append_nil _).symm
    | own => exact quiet [] (fun _ => rfl) (List.append_nil _).symm
    | commit message around _ snapshot events work next stored run =>
      rcases run.schedules_of with idle | ⟨kind, payload, rfl⟩
      · exact quiet work idle rfl
      · exact absurd ⟨kind, payload, around, rfl⟩ session

theorem Fresh.budgeted (fresh : Fresh config world) (idle : world.calls = []) :
    Budgeted config (world.core config) where
  coherent := fresh.coherent
  durable := by
    intro snapshot found
    have absent : (world.core config).persisted = none := fresh.noRun
    rw [absent] at found
    cases found
  scheduled := by
    intro generation
    have absent : (world.core config).persisted = none := fresh.noRun
    rw [scheduledCalls_core, idle, absent]
    exact le_refl 0

/-- Over every sequence of messages, failed writes and new actors on the stored Run, the
continuations stay within the budget, and every one is durable before it is started. -/
theorem continuations_within_budget (config : ActorConfig) (world : World)
    (fresh : Fresh config world) (idle : world.calls = []) (inputs : List Input) :
    WithinBudget config (runFrom (step config) world inputs) ∧
      Along (step config) (ContinuesCommitted config) world inputs := by
  have keeps : ∀ (reached : World) (input : Input), Budgeted config (reached.core config) →
      Budgeted config ((step config reached input).core config) := by
    intro reached input budgeted
    exact (step_core budgeted.coherent input).budgeted budgeted
  have start := fresh.budgeted idle
  constructor
  · exact (runFrom_invariant (fun reached : World => Budgeted config (reached.core config)) keeps
      start inputs).within
  · exact along_of_invariant (fun reached : World => Budgeted config (reached.core config)) keeps
      (fun _ input budgeted => budgeted.continuesCommitted input) start inputs

end Steps

/-- A Run whose segments stop twice with progress. -/
def SampleRun.toContinuations : List Input :=
  [.message (.create runId createRun none) calm,
    .message (.sessionInput "segment_stopped" [("material_progress", .bool true)]) calm,
    .message (.sessionInput "segment_stopped" [("material_progress", .bool true)]) calm]

open SampleRun in
theorem continuations_within_budget_twice :
    (runFrom (step SampleRun.config) start toContinuations).calls =
        [.schedule runId 0, .schedule runId 0] ∧
      WithinBudget SampleRun.config (runFrom (step SampleRun.config) start toContinuations) :=
  ⟨by decide,
    (continuations_within_budget SampleRun.config start start_fresh rfl toContinuations).1⟩

end CodeMigrator
