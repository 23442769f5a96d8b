import CodeMigrator.Runtime.Dispatches

/-!
# Candidate checkpoints

The candidate checkpoints of a Run over every sequence of inputs. The claims of an
execution round are accepted one by one against a list that the earlier ones have
changed already; `FactStep` is what one accepted claim does to it.
-/

namespace CodeMigrator
open Lib Relation

/-- The slice and the generation of a fact. -/
def CandidateCheckpointFact.pair (fact : CandidateCheckpointFact) :
    SliceId × CandidateGeneration :=
  (fact.sliceId, fact.generation)

/-- One accepted claim: the first fact of a slice and generation starts at the baseline of
its agent run, a later one at the commit of the fact that it replaces. -/
inductive FactStep (store : RuntimeStore) :
    List CandidateCheckpointFact → List CandidateCheckpointFact → Prop where
  | first (facts : List CandidateCheckpointFact) (fact : CandidateCheckpointFact)
      (record : AgentRun) (sliceRef : SliceGenerationRef)
      (absent : currentFact facts fact.sliceId fact.generation = none)
      (stored : record ∈ store.agentRuns.values) (own : record.agentRunId = fact.agentRunId)
      (slice : record.sliceRef = some sliceRef)
      (pair : fact.pair = (sliceRef.sliceId, sliceRef.generation))
      (baseline : sliceRef.baselineCandidateOid = some fact.expectedCandidateOid)
      (advances : fact.candidateOid ≠ fact.expectedCandidateOid) :
      FactStep store facts (facts ++ [fact])
  | replaces (facts : List CandidateCheckpointFact) (current fact : CandidateCheckpointFact)
      (found : currentFact facts fact.sliceId fact.generation = some current)
      (continues : fact.expectedCandidateOid = current.candidateOid)
      (advances : fact.candidateOid ≠ fact.expectedCandidateOid) :
      FactStep store facts (facts.replace current fact)

/-- At most one fact for each slice and generation, and each one moves its candidate. -/
structure FactsSound (facts : List CandidateCheckpointFact) : Prop where
  distinct : (facts.map CandidateCheckpointFact.pair).Nodup
  advance : ∀ fact ∈ facts, fact.candidateOid ≠ fact.expectedCandidateOid

section Facts

variable {store : RuntimeStore} {facts after : List CandidateCheckpointFact}
  {generation : CandidateGeneration} {fact : CandidateCheckpointFact}

theorem currentFact_none {sliceId : SliceId} (absent : currentFact facts sliceId generation = none) :
    (sliceId, generation) ∉ facts.map CandidateCheckpointFact.pair := by
  intro member
  obtain ⟨fact, isFact, same⟩ := List.mem_map.mp member
  obtain ⟨rfl, rfl⟩ := Prod.mk.inj same
  exact List.find?_eq_none.mp absent fact isFact (decide_eq_true ⟨rfl, rfl⟩)

theorem currentFact_some {sliceId : SliceId} {current : CandidateCheckpointFact}
    (found : currentFact facts sliceId generation = some current) :
    current ∈ facts ∧ current.pair = (sliceId, generation) := by
  have same := List.find?_some found
  simp only [decide_eq_true_eq] at same
  exact ⟨List.mem_of_find?_eq_some found, Prod.ext same.1 same.2⟩

theorem map_pair_replace {current : CandidateCheckpointFact} (same : fact.pair = current.pair) :
    (facts.replace current fact).map CandidateCheckpointFact.pair =
      facts.map CandidateCheckpointFact.pair := by
  induction facts with
  | nil => rfl
  | cons head rest ih =>
    rw [List.replace_cons]
    split
    · rename_i isHead
      rw [List.map_cons, List.map_cons, same, ← beq_iff_eq.mp isHead]
    · rw [List.map_cons, List.map_cons, ih]

theorem mem_of_mem_replace {current other : CandidateCheckpointFact}
    (member : other ∈ facts.replace current fact) : other = fact ∨ other ∈ facts := by
  induction facts with
  | nil => cases member
  | cons head rest ih =>
    rw [List.replace_cons] at member
    split at member
    · rcases List.mem_cons.mp member with rfl | later
      · exact .inl rfl
      · exact .inr (List.mem_cons_of_mem _ later)
    · rcases List.mem_cons.mp member with rfl | later
      · exact .inr List.mem_cons_self
      · exact (ih later).imp_right (List.mem_cons_of_mem _)

theorem FactStep.sound (step : FactStep store facts after) (sound : FactsSound facts) :
    FactsSound after := by
  cases step with
  | first fact record sliceRef absent stored own slice pair baseline advances =>
    refine ⟨?_, ?_⟩
    · rw [List.map_append]
      refine List.nodup_append.mpr ⟨sound.distinct, List.nodup_singleton _, ?_⟩
      intro earlier member other single
      rw [List.map_singleton, List.mem_singleton] at single
      rw [single]
      rintro rfl
      exact currentFact_none absent member
    · intro other member
      rcases List.mem_append.mp member with member | single
      · exact sound.advance other member
      · rw [List.mem_singleton.mp single]
        exact advances
  | replaces current fact found continues advances =>
    refine ⟨?_, ?_⟩
    · rw [map_pair_replace (currentFact_some found).2.symm]
      exact sound.distinct
    · intro other member
      rcases mem_of_mem_replace member with rfl | member
      · exact advances
      · exact sound.advance other member

theorem factSteps_sound (steps : ReflTransGen (FactStep store) facts after)
    (sound : FactsSound facts) : FactsSound after := by
  induction steps with
  | refl => exact sound
  | tail _ step ih => exact step.sound ih

theorem FactsSound.current (sound : FactsSound facts) (member : fact ∈ facts) :
    currentFact facts fact.sliceId fact.generation = some fact := by
  cases found : currentFact facts fact.sliceId fact.generation with
  | none => exact absurd (List.mem_map_of_mem member) (currentFact_none found)
  | some other =>
    obtain ⟨isFact, same⟩ := currentFact_some found
    rw [List.inj_on_of_nodup_map sound.distinct isFact member same]

end Facts

/-! ## Rounds -/

section Rounds

variable {config : ActorConfig} {around : Surroundings} {world : World}
  {facts : List CandidateCheckpointFact} {fact : CandidateCheckpointFact} {events : List EventSpec}

/-- The fact that a checked claim stands for: one that is there, or a new one that goes on
from the current commit of its slice. -/
theorem claimedFact_ok {record : AgentRun} {sliceRef : SliceGenerationRef}
    {receipt : CheckpointReceipt} {digest : Sha256}
    (claimed : claimedFact facts record sliceRef receipt digest = .ok fact) :
    fact ∈ facts ∨
      (∀ item ∈ facts, item.receiptSha256 ≠ fact.receiptSha256) ∧
        record.agentRunId = fact.agentRunId ∧
        fact.pair = (sliceRef.sliceId, sliceRef.generation) ∧
        fact.expectedCandidateOid = receipt.expectedCandidateOid ∧
        fact.candidateOid = receipt.newCandidateOid ∧
        ∀ current, currentFact facts fact.sliceId fact.generation = some current →
          fact.expectedCandidateOid = current.candidateOid := by
  unfold claimedFact at claimed
  split at claimed
  · rename_i previous found
    split at claimed
    · cases claimed
    · cases claimed
      exact .inl (List.mem_of_find?_eq_some found)
  · rename_i unknown
    have fresh : ∀ item ∈ facts, item.receiptSha256 ≠ digest := by
      intro item member same
      exact List.find?_eq_none.mp unknown item member (decide_eq_true same)
    cases found : currentFact facts sliceRef.sliceId sliceRef.generation with
    | none =>
      simp only [found] at claimed
      split at claimed
      · cases claimed
      split at claimed
      rotate_left
      · cases claimed
      cases claimed
      refine .inr ⟨fresh, rfl, rfl, rfl, rfl, ?_⟩
      intro current some_
      rw [found] at some_
      cases some_
    | some current =>
      simp only [found] at claimed
      split at claimed
      · cases claimed
      rename_i continues
      split at claimed
      rotate_left
      · cases claimed
      cases claimed
      refine .inr ⟨fresh, rfl, rfl, rfl, rfl, ?_⟩
      intro other some_
      rw [found] at some_
      cases some_
      exact Option.some.inj (not_not.mp continues)

/-- What a valid claim stands for: a fact that is there, or one that starts at the baseline
of its agent run and at the current commit of its slice. -/
theorem validateCandidateClaim_ok {claim : CandidateCheckpointClaim}
    (valid : validateCandidateClaim config around world claim facts = .ok fact) :
    fact ∈ facts ∨
      (∀ item ∈ facts, item.receiptSha256 ≠ fact.receiptSha256) ∧
        (∃ record sliceRef, record ∈ world.store.agentRuns.values ∧
          record.agentRunId = fact.agentRunId ∧ record.sliceRef = some sliceRef ∧
          fact.pair = (sliceRef.sliceId, sliceRef.generation) ∧
          sliceRef.baselineCandidateOid = some fact.expectedCandidateOid) ∧
        fact.candidateOid ≠ fact.expectedCandidateOid ∧
        ∀ current, currentFact facts fact.sliceId fact.generation = some current →
          fact.expectedCandidateOid = current.candidateOid := by
  simp only [validateCandidateClaim] at valid
  split at valid
  rotate_left
  · cases valid
  split at valid
  rotate_left
  · cases valid
  rename_i record terminalReceipt stored hasReceipt
  split at valid
  rotate_left
  · cases valid
  rename_i sliceRef claimant slice
  split at valid
  · cases valid
  rename_i digest isDigest
  split at valid
  · cases valid
  rename_i checked
  split at valid
  · cases valid
  · cases valid
  rw [Bool.not_eq_false] at checked
  simp only [claimIsValid, Bool.decide_and, Bool.and_eq_true, decide_eq_true_eq] at checked
  obtain ⟨-, -, -, -, baseline, -, -, -, -, -, advances⟩ := checked
  rcases claimedFact_ok valid with known | ⟨unknown, own, pair, expected, candidate, continues⟩
  · exact .inl known
  · refine .inr ⟨unknown, ⟨record, sliceRef, ?_, own, slice, pair, ?_⟩, ?_, continues⟩
    · exact List.mem_map_of_mem ((Dict.get?_eq_some_iff _ _ _).mp stored)
    · rw [expected]
      exact baseline
    · rw [expected, candidate]
      exact advances

theorem acceptClaims_steps {claims : List CandidateCheckpointClaim}
    {accepted : List CandidateCheckpointFact × List EventSpec} (sound : FactsSound facts)
    (computed : acceptClaims config around world claims facts events = .ok accepted) :
    ReflTransGen (FactStep world.store) facts accepted.1 := by
  induction claims generalizing facts events with
  | nil =>
    cases computed
    exact .refl
  | cons claim claims ih =>
    rw [acceptClaims] at computed
    split at computed
    · cases computed
    rename_i fact valid
    rcases validateCandidateClaim_ok valid with
      known | ⟨unknown, ⟨record, sliceRef, stored, own, slice, pair, baseline⟩, advances, continues⟩
    · -- a replay: the fact is its own current one
      rw [sound.current known] at computed
      simp only [if_true] at computed
      exact ih sound computed
    · split at computed
      · rename_i absent
        have step := FactStep.first facts fact record sliceRef absent stored own slice pair baseline
          advances
        exact .head step (ih (step.sound sound) computed)
      · rename_i current found
        rw [if_neg (unknown current (currentFact_some found).1)] at computed
        have step : FactStep world.store facts (facts.replace current fact) :=
          .replaces facts current fact found (continues current found) advances
        exact .head step (ih (step.sound sound) computed)

/-- How an execution round ends for those who asked for it. -/
def roundOutcome (config : ActorConfig) (around : Surroundings) (world : World)
    (logicalKey : String) (decision : Option ExecutionRoundDecision)
    (error : Option RuntimeFailure) : Except RuntimeFailure ExecuteRoundResult :=
  match error, world.actor.state, decision with
  | some failure, _, _ => .error failure
  | none, some state, some decision =>
    (commitExecutionRound config around world logicalKey state decision).2
  | _, _, _ => .error (.storeCommitError "EXECUTE round completion is missing its Run facts")

theorem eventForReceipt_round {snapshot : RuntimeSnapshot} {next : RunState} {logicalKey : String}
    {decision : ExecutionRoundDecision} (member : roundEvent logicalKey decision ∈ events) :
    eventForReceipt (some (snapshot.extend next events)) logicalKey ≠ none := by
  intro missing
  obtain ⟨entry, isEntry, -, data⟩ := snapshot.mem_extend_new next member
  refine eventForReceipt_none missing isEntry ?_
  rw [data]
  rfl

theorem mem_committedEvents {next : RunState} {event : EventSpec} (previous : Option RunState)
    (member : event ∈ events) : event ∈ committedEvents previous next events := by
  unfold committedEvents
  split
  · exact member
  · split
    · exact List.mem_append_left _ member
    · exact member

/-- A round is refused and leaves the Run, or it is written with the facts of its claims, and a
receipt under a key is the answer. -/
theorem commitExecutionRound_cases (around : Surroundings) {state : RunState} {log : List RuntimeEvent}
    (loaded : Loaded config world ⟨state, log⟩)
    (sequenced : (RuntimeSnapshot.mk state log).Sequenced) (logicalKey : String)
    (decision : ExecutionRoundDecision) :
    (∃ failure, (commitExecutionRound config around world logicalKey state decision).2 =
        .error failure ∧
      (commitExecutionRound config around world logicalKey state decision).1.store.load
        config.runId = some ⟨state, log⟩) ∨
    (∃ facts candidateEvents events,
      (logicalKey ≠ "" → ∃ result,
        (commitExecutionRound config around world logicalKey state decision).2 = .ok result) ∧
      acceptClaims config around world decision.candidateClaims state.candidateCheckpoints [] =
        .ok (facts, candidateEvents) ∧
      (commitExecutionRound config around world logicalKey state decision).1.store.load
        config.runId = some (RuntimeSnapshot.extend ⟨state, log⟩ (roundState state decision facts)
          events)) := by
  unfold commitExecutionRound
  cases decided : decideRound config around world logicalKey state decision with
  | error failure => exact .inl ⟨failure, rfl, loaded.stored⟩
  | ok written =>
    obtain ⟨next, events⟩ := written
    unfold decideRound at decided
    split at decided
    · cases decided
    split at decided
    · cases decided
    split at decided
    · cases decided
    rename_i terminalEvents terminals
    split at decided
    · cases decided
    rename_i facts candidateEvents claims
    cases decided
    have own : (roundState state decision facts).runId = config.runId := loaded.runId
    have flag := (commit_core around loaded.stored loaded.current own
      (terminalEvents.flatten ++ candidateEvents ++ [roundEvent logicalKey decision])).1
    have stored := load_commit around loaded own
      (terminalEvents.flatten ++ candidateEvents ++ [roundEvent logicalKey decision])
    rw [← flag] at stored
    dsimp only
    split
    · rename_i after failed
      rw [failed, if_neg Bool.false_ne_true] at stored
      exact .inl ⟨_, rfl, stored⟩
    · rename_i after committed
      rw [committed, if_pos rfl] at stored
      have announced : roundEvent logicalKey decision ∈
          terminalEvents.flatten ++ candidateEvents ++ [roundEvent logicalKey decision] :=
        List.mem_append_right _ (List.mem_singleton_self _)
      obtain ⟨event, found⟩ :=
        Option.ne_none_iff_exists'.mp (eventForReceipt_round (mem_committedEvents _ announced))
      have positive := sequenced.extend _ _ event
        (List.mem_reverse.mp (List.mem_of_find?_eq_some found))
      rw [← stored] at found
      rw [found]
      refine .inr ⟨facts, candidateEvents, _, fun keyed =>
        ⟨⟨⟨config.runId, logicalKey, event.sequence, keyed, positive⟩, decision.complete⟩, ?_⟩,
        claims, stored⟩
      dsimp only
      rw [actorPhaseReceipt, dif_pos ⟨keyed, positive⟩]
      rfl

end Rounds

/-! ## Runs -/

/-- The candidate checkpoints of the persisted Run. -/
def candidateFacts (config : ActorConfig) (world : World) : List CandidateCheckpointFact :=
  ((world.store.load config.runId).map (·.state.candidateCheckpoints)).getD []

/-- The candidate checkpoints of the persisted Run are sound. -/
def CandidatesSound (config : ActorConfig) (world : World) : Prop :=
  FactsSound (candidateFacts config world)

/-- The step changes the candidate checkpoints by accepted claims only. -/
def CandidatesExtended (config : ActorConfig) (world : World) (input : Input) : Prop :=
  ReflTransGen (FactStep world.store) (candidateFacts config world)
    (candidateFacts config (step config world input))

/-- A round under a key that ends with an error leaves the persisted Run as it is, and so does the
request for a round, whether it is refused or not. Without a key there is no receipt for a round
that is written. -/
def RefusedRoundKeeps (config : ActorConfig) (world : World) (input : Input) : Prop :=
  match input with
  | .message (.executionRoundFinished logicalKey decision error) around =>
    logicalKey ≠ "" →
      ∀ failure, roundOutcome config around world logicalKey decision error = .error failure →
      (step config world input).store.load config.runId = world.store.load config.runId
  | .message (.workflow command) _ =>
    command.payload = .executeRound →
      (step config world input).store.load config.runId = world.store.load config.runId
  | _ => True

section Runs

variable {config : ActorConfig} {world : World}

theorem RunStep.candidates {message : RuntimeMessage} {state next : RunState}
    {events : List EventSpec} {work : List PortCall}
    (run : RunStep config message state events work next) :
    next.candidateCheckpoints = state.candidateCheckpoints ∨
      ∃ logicalKey decision, message = .executionRoundFinished logicalKey (some decision) none := by
  cases run with
  | executionRound logicalKey decision => exact .inr ⟨logicalKey, decision, rfl⟩
  | advice advice result =>
    left
    obtain ⟨adopted, pending, version, equal⟩ := decideAdvice_frame state advice result
    rw [equal]
  | _ => exact .inl rfl

theorem finishedRound_cases (coherent : Coherent config (world.core config)) (around : Surroundings)
    (logicalKey : String) (decision : Option ExecutionRoundDecision)
    (error : Option RuntimeFailure) :
    let input := Input.message (.executionRoundFinished logicalKey decision error) around
    (∃ failure, roundOutcome config around world logicalKey decision error = .error failure ∧
        (step config world input).store.load config.runId = world.store.load config.runId) ∨
      ∃ snapshot decided facts candidateEvents events,
        (logicalKey ≠ "" → ∃ result,
          roundOutcome config around world logicalKey decision error = .ok result) ∧
        world.store.load config.runId = some snapshot ∧
        acceptClaims config around world decided snapshot.state.candidateCheckpoints [] =
          .ok (facts, candidateEvents) ∧
        ∃ next, next.candidateCheckpoints = facts ∧
          (step config world input).store.load config.runId = some (snapshot.extend next events) := by
  intro input
  have persisted : (step config world input).store.load config.runId =
      ((handleExecutionRoundFinished config around world logicalKey decision error).1.core
        config).persisted :=
    congrArg Core.persisted (turn_core_eq around (.executionRoundFinished logicalKey decision error))
  rw [persisted]
  clear persisted
  cases error with
  | some failure =>
    simp only [handleExecutionRoundFinished, roundOutcome, World.done, core_finishExecutionRound]
    exact .inl ⟨failure, rfl, rfl⟩
  | none =>
    cases current : world.actor.state with
    | none =>
      simp only [handleExecutionRoundFinished, roundOutcome, current, World.done,
        core_finishExecutionRound]
      exact .inl ⟨_, rfl, rfl⟩
    | some state =>
      cases decision with
      | none =>
        simp only [handleExecutionRoundFinished, roundOutcome, current, World.done,
          core_finishExecutionRound]
        exact .inl ⟨_, rfl, rfl⟩
      | some decision =>
        obtain ⟨log, loaded⟩ := coherent.loaded current
        simp only [handleExecutionRoundFinished, roundOutcome, current, World.done,
          core_finishExecutionRound]
        rcases commitExecutionRound_cases around loaded (coherent.sequenced _ loaded.stored)
            logicalKey decision with
          ⟨failure, refused, kept⟩ |
          ⟨facts, candidateEvents, events, done, claims, written⟩
        · exact .inl ⟨failure, refused, kept.trans loaded.stored.symm⟩
        · exact .inr ⟨⟨state, log⟩, _, facts, candidateEvents, events, done,
            loaded.stored, claims, roundState state decision facts, rfl, written⟩

theorem step_candidatesExtended (coherent : Coherent config (world.core config))
    (sound : CandidatesSound config world) (input : Input) :
    CandidatesExtended config world input := by
  have same : (step config world input).store.load config.runId = world.store.load config.runId →
      CandidatesExtended config world input := by
    intro kept
    rw [CandidatesExtended, candidateFacts, candidateFacts, kept]
  cases found : world.store.load config.runId with
  | none =>
    rcases (step_core coherent input).of_absent found with absent | ⟨createRun, written⟩
    · exact same (Eq.trans absent found.symm)
    · have after : (step config world input).store.load config.runId = _ := written
      rw [CandidatesExtended, candidateFacts, candidateFacts, found, after]
      exact .refl
  | some snapshot =>
    rcases (step_core coherent input).of_persisted found with
      ⟨kept, _⟩ | ⟨message, around, events, work, next, rfl, run, written, _⟩
    · exact same (Eq.trans kept found.symm)
    rcases run.candidates with unchanged | ⟨logicalKey, decision, rfl⟩
    · have after : (step config world _).store.load config.runId = _ := written
      rw [CandidatesExtended, candidateFacts, candidateFacts, found, after, Option.map_some,
        Option.map_some, Option.getD_some, Option.getD_some, RuntimeSnapshot.extend_state,
        unchanged]
    · rcases finishedRound_cases coherent around logicalKey (some decision) none with
        ⟨_, _, kept⟩ | ⟨before, decided, facts, candidateEvents, _, _, stored, claims, next,
          accepted, after⟩
      · exact same kept
      · rw [found] at stored
        cases stored
        rw [CandidatesSound, candidateFacts, found] at sound
        rw [CandidatesExtended, candidateFacts, candidateFacts, found, after, Option.map_some,
          Option.map_some, Option.getD_some, Option.getD_some, RuntimeSnapshot.extend_state,
          accepted]
        exact acceptClaims_steps sound claims

theorem handleWorkflowCommand_round (around : Surroundings) {command : WorkflowCommandMessage}
    (isRound : command.payload = .executeRound) :
    (handleWorkflowCommand config around world command).1.core config = world.core config := by
  unfold handleWorkflowCommand
  split
  · rfl
  split
  · exact replayCommand_core command _
  split
  · simp only [isRound]
    exact scheduleExecutionRound_core command _
  · rfl

theorem step_refusedRoundKeeps (coherent : Coherent config (world.core config)) (input : Input) :
    RefusedRoundKeeps config world input := by
  unfold RefusedRoundKeeps
  split
  · rename_i logicalKey decision error around
    intro keyed failure refused
    rcases finishedRound_cases coherent around logicalKey decision error with
      ⟨_, _, kept⟩ | ⟨_, _, _, _, _, done, _⟩
    · exact kept
    · obtain ⟨result, done⟩ := done keyed
      rw [refused] at done
      cases done
  · rename_i command around
    intro isRound
    have persisted : (step config world (.message (.workflow command) around)).store.load
        config.runId = ((handleWorkflowCommand config around world command).1.core
          config).persisted :=
      congrArg Core.persisted (turn_core_eq around (.workflow command))
    rw [persisted, handleWorkflowCommand_round around isRound]
    rfl
  · trivial

/-- Over every sequence of inputs a Run has at most one candidate checkpoint for each slice
and generation, which moved its candidate; each one started at the baseline of its
agent run or at the commit of the one it replaced; and a refused round leaves the Run. -/
theorem candidate_checkpoint_chain (config : ActorConfig) (world : World)
    (fresh : Fresh config world) (inputs : List Input) :
    Always (step config) (CandidatesSound config) world inputs ∧
      Along (step config) (CandidatesExtended config) world inputs ∧
      Along (step config) (RefusedRoundKeeps config) world inputs := by
  have empty : CandidatesSound config world := by
    rw [CandidatesSound, candidateFacts, fresh.noRun]
    exact ⟨List.nodup_nil, fun _ member => absurd member List.not_mem_nil⟩
  have keeps : ∀ (reached : World) (input : Input),
      Coherent config (reached.core config) ∧ CandidatesSound config reached →
      Coherent config ((step config reached input).core config) ∧
        CandidatesSound config (step config reached input) := by
    intro reached input invariant
    exact ⟨step_coherent invariant.1 input,
      factSteps_sound (step_candidatesExtended invariant.1 invariant.2 input) invariant.2⟩
  refine ⟨?_, ?_, ?_⟩
  · rw [always_iff empty]
    exact along_of_invariant _ keeps (fun reached input invariant => (keeps reached input invariant).2)
      ⟨fresh.coherent, empty⟩ inputs
  · exact along_of_invariant _ keeps
      (fun reached input invariant => step_candidatesExtended invariant.1 invariant.2 input)
      ⟨fresh.coherent, empty⟩ inputs
  · exact along_of_invariant _ keeps
      (fun reached input invariant => step_refusedRoundKeeps invariant.1 input)
      ⟨fresh.coherent, empty⟩ inputs

end Runs

namespace SampleRun

open TwoSlices (zeroDigest)

/-- An agent run that writes a slice. -/
def writer : AgentRunFields :=
  { planner with
    agentRunId := ⟨12⟩
    logicalTaskKey := "slice"
    phase := .execute
    sessionKind := .implementation
    threadId := "00000000-0000-0000-0000-000000000013"
    sliceRef := some ⟨⟨7⟩, 0, some "base"⟩
    writeScopeSha256 := some zeroDigest.text }

def writerCreated : AgentRun := ⟨writer, by decide +kernel⟩
def writerClosed : AgentRun :=
  ⟨{ writer with
      state := .closed, exit := some .completed, resultSha256 := some zeroDigest.text
      candidateCheckpointSha256 := some zeroDigest.text }, by decide +kernel⟩

/-- The checkpoint that the writer has left. -/
def checkpoint : CheckpointReceipt :=
  { runId := runId
    sliceId := ⟨7⟩
    generation := 0
    expectedCandidateOid := "base"
    newCandidateOid := "candidate"
    manifest := ⟨⟨runId, ⟨7⟩, 0, "verified", "base"⟩, 1, 1, zeroDigest, true⟩
    idempotencyKey := zeroDigest }

def roundKey : String := "run.execute.round:" ++ runId.str ++ ":0"

/-- A round in which the writer claims its checkpoint. -/
def claimingRound : ExecutionRoundDecision :=
  ⟨false, 1, [⟨12⟩], [⟨⟨12⟩, some checkpoint⟩], [⟨12⟩]⟩

/-- From the creation to an accepted candidate. -/
def toCandidate : List Input :=
  toVerification.take 4 ++
    [.createAgentRun writerCreated,
      command ("agent_run.started:" ++ (⟨12⟩ : UUID).str) (.agentRunStarted ⟨12⟩) 2,
      command ("agent_run.terminal:" ++ (⟨12⟩ : UUID).str)
        (.agentRunTerminal writerClosed ⟨⟨14⟩, ⟨12⟩, "session.terminal", by decide⟩ ⟨zeroDigest, 1⟩) 3,
      command roundKey .executeRound 4,
      .message (.executionRoundFinished roundKey (some claimingRound) none) calm]

end SampleRun

open SampleRun in
theorem candidate_checkpoint_chain_claimed :
    (candidateFacts config (runFrom (step config) start toCandidate)).map
        (fun fact => (fact.expectedCandidateOid, fact.candidateOid)) = [("base", "candidate")] ∧
      CandidatesSound config (runFrom (step config) start toCandidate) :=
  ⟨by decide +kernel, (candidate_checkpoint_chain config start start_fresh toCandidate).1 toCandidate
    [] (List.append_nil _).symm⟩

end CodeMigrator
