import CodeMigrator.Runtime.Answers

/-!
# Commands take effect once

A command whose key is in the ledger is replayed, so that its event is the only one under
the key. The end of an execution round is the one commit that does not look for its key
again: what keeps the round apart is that no other command takes the key while the round
is running.
-/

namespace CodeMigrator
open Lib

/-! ## Keys in use -/

/-- The receipt keys of the Run's ledger. -/
def Core.keys (core : Core) : List String :=
  match core.persisted with
  | none => []
  | some snapshot => receiptKeys snapshot.events

/-- The key under which a future was answered successfully. -/
def answeredKey? : Except RuntimeFailure Reply → Option String
  | .ok reply => reply.key?
  | .error _ => none

/-- The key under which a future was answered with an intent. -/
def intentKey? : Except RuntimeFailure Reply → Option String
  | .ok (.intent intent) => some ("integration.intent:" ++ intent.idempotencyKey)
  | _ => none

/-- A command with the key was answered successfully. -/
def World.Answered (world : World) (key : String) : Prop :=
  ∃ entry ∈ world.replies, answeredKey? entry.2 = some key

/-- The persisting of an intent was answered successfully. -/
def World.IntentAnswered (world : World) (key : String) : Prop :=
  ∃ entry ∈ world.replies, intentKey? entry.2 = some key

instance (world : World) (key : String) : Decidable (world.IntentAnswered key) :=
  inferInstanceAs (Decidable (∃ _ ∈ _, _))

/-- The key of a command that starts an agent run is the one of its event, and that of a
plan is not the one of the end of the planning agent run. -/
def OwnKey (world : World) (logicalKey : String) : WorkflowPayload → Prop
  | .acceptPlan completion _ =>
    logicalKey ≠ "agent_run.terminal:" ++ completion.record.agentRunId.str
  | .agentRunStarted agentRunId =>
    (world.store.agentRuns.get? agentRunId).all fun record =>
      logicalKey = "agent_run.started:" ++ record.agentRunId.str
  | _ => True

instance (world : World) (logicalKey : String) :
    (payload : WorkflowPayload) → Decidable (OwnKey world logicalKey payload)
  | .acceptPlan .. => inferInstanceAs (Decidable (_ ≠ _))
  | .agentRunStarted _ => inferInstanceAs (Decidable (_ = true))
  | .executeRound | .agentRunTerminal .. | .integrationIntent _ | .integrationCompleted ..
  | .verification _ | .report _ | .other _ => isTrue trivial

/-- Commands of different kinds keep their keys apart: only requests for a round use the key
of a running round, and only intents the key of an answered one. A round that ends was
running. -/
def KeysApart (world : World) : Input → Prop
  | .message (.workflow command) _ =>
    OwnKey world command.logicalKey command.payload ∧
      (command.payload.kind ≠ "execute_round" →
        command.logicalKey ∉ world.actor.executionRoundTasks) ∧
      (command.payload.kind ≠ "integration_intent" → ¬ world.IntentAnswered command.logicalKey)
  | .message (.executionRoundFinished logicalKey _ _) _ =>
    logicalKey ∈ world.actor.executionRoundTasks
  | _ => True

instance (world : World) : (input : Input) → Decidable (KeysApart world input)
  | .message (.workflow _) _ => inferInstanceAs (Decidable (_ ∧ _ ∧ _))
  | .message (.executionRoundFinished ..) _ => inferInstanceAs (Decidable (_ ∈ _))
  | .message (.create ..) _ | .message (.cancel ..) _ | .message (.sessionInput ..) _
  | .message (.executionReceipt ..) _ | .message (.budget ..) _ | .message (.recovery ..) _
  | .message (.advice _) _ | .createAgentRun _ | .addCasReference .. | .failNextCommit
  | .start => isTrue trivial

section Keys

variable {config : ActorConfig} {keys : List String} {core after : Core}

theorem Core.keys_of_persisted {snapshot : RuntimeSnapshot}
    (found : core.persisted = some snapshot) : core.keys = receiptKeys snapshot.events := by
  unfold Core.keys
  rw [found]

theorem Core.keys_of_absent (absent : core.persisted = none) : core.keys = [] := by
  unfold Core.keys
  rw [absent]

theorem Core.keys_of_kept (same : after.persisted = core.persisted) : after.keys = core.keys := by
  unfold Core.keys
  rw [same]

theorem Grows.keys_eq (grows : Grows config keys core after) (stored : core.persisted ≠ none) :
    after.keys = core.keys ∨ after.keys = core.keys ++ keys := by
  cases grows with
  | kept same => exact .inl (Core.keys_of_kept same)
  | created createRun absent => exact absurd absent stored
  | wrote snapshot next events before written keyed =>
    refine .inr ?_
    rw [Core.keys_of_persisted written, Core.keys_of_persisted before, receiptKeys_extend, keyed]

theorem Grows.unique (grows : Grows config keys core after) (unique : core.keys.Nodup)
    (distinct : keys.Nodup) (unused : ∀ key ∈ keys, key ∉ core.keys) : after.keys.Nodup := by
  cases grows with
  | kept same =>
    rw [Core.keys_of_kept same]
    exact unique
  | created createRun absent written =>
    rw [Core.keys_of_persisted written, receiptKeys_createdSnapshot]
    exact List.nodup_singleton _
  | wrote snapshot next events before written keyed =>
    rw [Core.keys_of_persisted written, receiptKeys_extend, keyed, ← Core.keys_of_persisted before]
    refine List.nodup_append'.mpr ⟨unique, distinct, ?_⟩
    exact fun key earlier new => unused key new earlier

theorem Grows.keeps_event {P : RuntimeEvent → Prop} (grows : Grows config keys core after)
    (written : ∃ snapshot, core.persisted = some snapshot ∧ ∃ event ∈ snapshot.events, P event) :
    ∃ snapshot, after.persisted = some snapshot ∧ ∃ event ∈ snapshot.events, P event := by
  obtain ⟨snapshot, stored, event, listed, holds⟩ := written
  cases grows with
  | kept same =>
    rw [same]
    exact ⟨snapshot, stored, event, listed, holds⟩
  | created createRun absent =>
    rw [absent] at stored
    cases stored
  | wrote previous next events before written =>
    rw [before] at stored
    cases stored
    exact ⟨_, written, event, RuntimeSnapshot.mem_extend listed, holds⟩

theorem NamesEvent.grows {receipt : ActorPhaseReceipt} (names : NamesEvent core.persisted receipt)
    (grows : Grows config keys core after) : NamesEvent after.persisted receipt :=
  grows.keeps_event names

theorem NamesEvent.sequence_eq {left right : ActorPhaseReceipt}
    (first : NamesEvent core.persisted left) (second : NamesEvent core.persisted right)
    (unique : core.keys.Nodup) (same : left.receiptKey = right.receiptKey) :
    left.eventSequence = right.eventSequence := by
  obtain ⟨snapshot, found, event, listed, keyed, sequence⟩ := first
  obtain ⟨_, again, other, otherListed, otherKeyed, otherSequence⟩ := second
  rw [found] at again
  cases again
  rw [Core.keys_of_persisted found] at unique
  rw [← same] at otherKeyed
  have equal : event = other := eq_of_nodup_filterMap unique listed otherListed keyed otherKeyed
  rw [← sequence, ← otherSequence, equal]

end Keys

/-! ## The invariant -/

/-- What holds while the keys are kept apart: the keys of the ledger are different, a running
round has a key that is neither in the ledger nor answered, and every receipt that was
answered names its event. -/
structure OnceSound (config : ActorConfig) (world : World) : Prop where
  coherent : Coherent config (world.core config)
  announced : Announced config (world.core config)
  unique : (world.core config).keys.Nodup
  absent : (world.core config).persisted = none → world.actor.executionRoundTasks = []
  planning : ∀ snapshot, (world.core config).persisted = some snapshot →
    snapshot.state.status = .planning → world.actor.executionRoundTasks = [] ∧
      ∀ id : AgentRunId, "agent_run.terminal:" ++ id.str ∉ receiptKeys snapshot.events
  running : ∀ task ∈ world.actor.executionRoundTasks,
    task ∉ (world.core config).keys ∧ ¬ world.IntentAnswered task
  receipts : ∀ entry ∈ world.replies, ∀ reply receipt, entry.2 = .ok reply →
    reply.receipt? = some receipt → NamesEvent (world.core config).persisted receipt

/-- A step that writes events with the given keys, opens the round `opens` and answers under
`key`, with what the invariant needs of them. -/
structure KeyedStep (config : ActorConfig) (keys : List String) (opens key : Option String)
    (world after : World) : Prop where
  grows : Grows config keys (world.core config) (after.core config)
  sides : Sides opens key (after.core config).persisted world after
  distinct : keys.Nodup
  unused : ∀ own ∈ keys, own ∉ (world.core config).keys
  idle : ∀ task ∈ after.actor.executionRoundTasks, task ∉ keys ∧ key ≠ some task
  opened : ∀ task, opens = some task → task ∉ (world.core config).keys ∧
    ¬ world.IntentAnswered task ∧ ∃ snapshot, (world.core config).persisted = some snapshot ∧
      snapshot.state.status = .executing

section Invariant

variable {config : ActorConfig} {world after : World} {keys : List String} {opens key : Option String}

theorem Fresh.onceSound (fresh : Fresh config world) (unanswered : world.replies = [])
    (idle : world.actor.executionRoundTasks = []) : OnceSound config world := by
  have none_ : (world.core config).persisted = none := fresh.noRun
  refine ⟨fresh.coherent, ?_, ?_, fun _ => idle, ?_, ?_, ?_⟩
  · intro id record receipt snapshot _ _ _ found
    rw [none_] at found
    cases found
  · rw [Core.keys_of_absent none_]
    exact List.nodup_nil
  · intro snapshot found
    rw [none_] at found
    cases found
  · rw [idle]
    simp
  · rw [unanswered]
    simp

section

variable (one : KeyedStep config keys opens key world after)
include one

theorem KeyedStep.task_free (sound : OnceSound config world) {task : String}
    (member : task ∈ after.actor.executionRoundTasks) :
    task ∉ (world.core config).keys ∧ ¬ world.IntentAnswered task ∧
      (world.core config).persisted ≠ none := by
  rcases one.sides.tasks task member with earlier | opened
  · obtain ⟨unwritten, unanswered⟩ := sound.running task earlier
    refine ⟨unwritten, unanswered, ?_⟩
    intro absent
    rw [sound.absent absent] at earlier
    cases earlier
  · obtain ⟨unwritten, unanswered, snapshot, found, -⟩ := one.opened task opened
    refine ⟨unwritten, unanswered, ?_⟩
    rw [found]
    exact Option.some_ne_none _

theorem KeyedStep.planning_idle (sound : OnceSound config world) {snapshot : RuntimeSnapshot}
    (found : (world.core config).persisted = some snapshot)
    (planning : snapshot.state.status = .planning) : after.actor.executionRoundTasks = [] := by
  refine List.eq_nil_iff_forall_not_mem.mpr ?_
  intro task member
  rcases one.sides.tasks task member with earlier | opened
  · rw [(sound.planning snapshot found planning).1] at earlier
    cases earlier
  · obtain ⟨-, -, other, again, executing⟩ := one.opened task opened
    rw [found] at again
    cases again
    exact absurd (executing.symm.trans planning) (by decide)

theorem KeyedStep.absent_idle (sound : OnceSound config world)
    (absent : (world.core config).persisted = none) : after.actor.executionRoundTasks = [] := by
  refine List.eq_nil_iff_forall_not_mem.mpr ?_
  intro task member
  exact (one.task_free sound member).2.2 absent

theorem KeyedStep.task_unanswered (sound : OnceSound config world) {task : String}
    (member : task ∈ after.actor.executionRoundTasks) : ¬ after.IntentAnswered task := by
  rintro ⟨entry, answered, keyed⟩
  rcases one.sides.replies entry answered with earlier | answers
  · exact (one.task_free sound member).2.1 ⟨entry, earlier, keyed⟩
  · unfold intentKey? at keyed
    split at keyed
    · rename_i intent equal
      refine (one.idle task member).2 ((answers _ equal).1 task ?_)
      exact keyed
    · cases keyed

theorem KeyedStep.onceSound {input : Input} (sound : OnceSound config world)
    (core : CoreStep config input (world.core config) (after.core config)) :
    OnceSound config after where
  coherent := core.coherent sound.coherent
  announced := core.announced sound.coherent sound.announced
  unique := one.grows.unique sound.unique one.distinct one.unused
  absent := by
    intro absent
    refine one.absent_idle sound ?_
    cases one.grows with
    | kept same => exact same.symm.trans absent
    | created createRun before => exact before
    | wrote snapshot next events before written =>
      rw [written] at absent
      cases absent
  planning := by
    intro snapshot found planning
    cases one.grows with
    | kept same =>
      rw [same] at found
      exact ⟨one.planning_idle sound found planning, (sound.planning snapshot found planning).2⟩
    | created createRun before written =>
      rw [written] at found
      cases found
      refine ⟨one.absent_idle sound before, ?_⟩
      intro id member
      rw [receiptKeys_createdSnapshot, List.mem_singleton] at member
      exact createKey_ne_terminalKey _ _ member.symm
    | wrote previous next events before written keyed terminals =>
      rw [written] at found
      cases found
      have earlier : previous.state.status = .planning := by
        rcases core.of_persisted before with ⟨kept, -⟩ | ⟨_, _, _, _, following, -, run, again, -⟩
        · rw [written] at kept
          rw [← Option.some.inj kept]
          exact planning
        · rw [written] at again
          have same : next = following := congrArg RuntimeSnapshot.state (Option.some.inj again)
          rw [← same] at run
          exact run.planning_of planning
      refine ⟨one.planning_idle sound before earlier, ?_⟩
      intro id member
      rw [receiptKeys_extend, keyed, List.mem_append] at member
      rcases member with old | new
      · exact (sound.planning previous before earlier).2 id old
      · exact terminals planning id new
  running := by
    intro task member
    refine ⟨?_, one.task_unanswered sound member⟩
    obtain ⟨unwritten, -, stored⟩ := one.task_free sound member
    rcases one.grows.keys_eq stored with same | extended
    · rw [same]
      exact unwritten
    · rw [extended, List.mem_append]
      rintro (old | new)
      · exact unwritten old
      · exact (one.idle task member).1 new
  receipts := by
    intro entry answered reply receipt equal found
    rcases one.sides.replies entry answered with earlier | answers
    · exact (sound.receipts entry earlier reply receipt equal found).grows one.grows
    · exact (answers reply equal).2 receipt found

end

end Invariant

/-! ## Steps -/

section Steps

variable {config : ActorConfig} {world after : World} {keys : List String}
  {command : WorkflowCommandMessage} {input : Input}

theorem KeyedStep.unkeyed (grows : Grows config [] (world.core config) (after.core config))
    (sides : Sides none none (after.core config).persisted world after) :
    KeyedStep config [] none none world after where
  grows := grows
  sides := sides
  distinct := List.nodup_nil
  unused := fun own member => absurd member List.not_mem_nil
  idle := fun task _ => ⟨List.not_mem_nil, fun impossible => by cases impossible⟩
  opened := fun task impossible => by cases impossible

theorem KeyedStep.of_command (grows : Grows config keys (world.core config) (after.core config))
    (replies : Replies config none command world after) (distinct : keys.Nodup)
    (unused : ∀ own ∈ keys, own ∉ (world.core config).keys ∧ own ∉ world.actor.executionRoundTasks)
    (quiet : command.logicalKey ∉ world.actor.executionRoundTasks) :
    KeyedStep config keys none (some command.logicalKey) world after where
  grows := grows
  sides := replies
  distinct := distinct
  unused := fun own member => (unused own member).1
  idle := by
    intro task member
    rcases replies.tasks task member with earlier | impossible
    · refine ⟨fun new => (unused task new).2 earlier, ?_⟩
      rintro ⟨⟩
      exact quiet earlier
    · cases impossible
  opened := fun task impossible => by cases impossible

theorem KeyedStep.of_own
    (grows : Grows config [command.logicalKey] (world.core config) (after.core config))
    (replies : Replies config none command world after)
    (unused : command.logicalKey ∉ (world.core config).keys)
    (quiet : command.logicalKey ∉ world.actor.executionRoundTasks) :
    KeyedStep config [command.logicalKey] none (some command.logicalKey) world after := by
  refine .of_command grows replies (List.nodup_singleton _) ?_ quiet
  intro own member
  rw [List.mem_singleton.mp member]
  exact ⟨unused, quiet⟩

theorem KeyedStep.reported {opens key : Option String} {around : Surroundings} {message : RuntimeMessage}
    (one : KeyedStep config keys opens key world (handle config around world message).1) :
    KeyedStep config keys opens key world (turn config around world message) := by
  have same : (turn config around world message).core config =
      (handle config around world message).1.core config := turn_core_eq around message
  have reported : Sides none key ((turn config around world message).core config).persisted
      (handle config around world message).1 (turn config around world message) := by
    unfold CodeMigrator.turn
    rcases handle config around world message with ⟨handled, _ | failure⟩
    · exact .of_desk rfl
    · exact .report handled message failure
  refine ⟨?_, ?_, one.distinct, one.unused, ?_, one.opened⟩
  · rw [same]
    exact one.grows
  · rw [same] at reported ⊢
    refine ⟨?_, ?_⟩
    · intro task member
      rcases reported.tasks task member with earlier | impossible
      · exact one.sides.tasks task earlier
      · cases impossible
    · intro entry member
      rcases reported.replies entry member with earlier | answered
      · exact one.sides.replies entry earlier
      · exact .inr answered
  · intro task member
    rcases reported.tasks task member with earlier | impossible
    · exact one.idle task earlier
    · cases impossible

variable (around : Surroundings)

theorem unused_of_missing {snapshot : RuntimeSnapshot} {key : String}
    (stored : world.store.load config.runId = some snapshot)
    (missing : eventForReceipt (some snapshot) key = none) : key ∉ (world.core config).keys := by
  have found : (world.core config).persisted = some snapshot := stored
  rw [Core.keys_of_persisted found]
  exact eventForReceipt_eq_none.mp missing

/-- A command that is replayed has its key in the ledger, so that no round is running under
it. -/
theorem replayCommand_keyed (sound : OnceSound config world) {event : RuntimeEvent}
    (found : eventForReceipt (world.store.load config.runId) command.logicalKey = some event) :
    KeyedStep config [] none (some command.logicalKey) world
      (replayCommand config world command event).1 := by
  cases stored : world.store.load config.runId with
  | none =>
    rw [stored] at found
    cases found
  | some snapshot =>
    rw [stored] at found
    obtain ⟨listed, keyed⟩ := eventForReceipt_eq_some found
    have persisted : (world.core config).persisted = some snapshot := stored
    have inLedger : command.logicalKey ∈ (world.core config).keys := by
      rw [Core.keys_of_persisted persisted]
      exact mem_receiptKeys.mpr ⟨event, listed, keyed⟩
    refine .of_command (.of_core (replayCommand_core command event))
      (replayCommand_replies stored found) List.nodup_nil ?_ ?_
    · simp
    · exact fun running => (sound.running _ running).1 inLedger

theorem scheduleExecutionRound_keyed {state : RunState} {log : List RuntimeEvent}
    (loaded : Loaded config world ⟨state, log⟩)
    (unused : command.logicalKey ∉ (world.core config).keys)
    (unanswered : ¬ world.IntentAnswered command.logicalKey) :
    ∃ opens, KeyedStep config [] opens none world
        (scheduleExecutionRound config world command state).1 ∧
      ∀ task, opens = some task → command.logicalKey = task := by
  refine ⟨_, ⟨.of_core (scheduleExecutionRound_core command state),
    scheduleExecutionRound_sides state _, List.nodup_nil, ?_, ?_, ?_⟩, ?_⟩
  · exact fun own member => absurd member List.not_mem_nil
  · exact fun task _ => ⟨List.not_mem_nil, fun impossible => by cases impossible⟩
  · intro task opened
    split at opened
    · rename_i executing
      cases opened
      exact ⟨unused, unanswered, _, loaded.stored, executing⟩
    · cases opened
  · intro task opened
    split at opened
    · exact Option.some.inj opened
    · cases opened

theorem acceptPlan_refused {state : RunState} {completion : PlanAgentCompletion}
    {frozenPlan : FrozenPlan} (past : state.status ≠ .planning) :
    (acceptPlan config around world command state completion frozenPlan).1.core config =
      world.core config := by
  simp only [acceptPlan]
  cases refusal : planRefusal config world state completion frozenPlan with
  | some failure => rfl
  | none => exact absurd (planRefusal_none refusal).1 past

/-- A plan is accepted while the Run is planning: no agent run has ended and no round is
running. -/
theorem acceptPlan_keyed (sound : OnceSound config world) {state : RunState}
    {log : List RuntimeEvent} (loaded : Loaded config world ⟨state, log⟩)
    {completion : PlanAgentCompletion} (frozenPlan : FrozenPlan)
    (own : command.logicalKey ≠ "agent_run.terminal:" ++ completion.record.agentRunId.str)
    (unused : command.logicalKey ∉ (world.core config).keys)
    (quiet : command.logicalKey ∉ world.actor.executionRoundTasks) :
    ∃ keys, KeyedStep config keys none (some command.logicalKey) world
      (acceptPlan config around world command state completion frozenPlan).1 := by
  have grows := (acceptPlan_does around sound.coherent.ownState loaded.current command completion
    frozenPlan).grows_command
  have replies : Replies config none command world
      (acceptPlan config around world command state completion frozenPlan).1 :=
    acceptPlan_replies around state completion frozenPlan
  by_cases planning : state.status = .planning
  · obtain ⟨idle, terminals⟩ := sound.planning _ loaded.stored planning
    refine ⟨_, .of_command grows replies ?_ ?_ quiet⟩
    · exact List.nodup_cons.mpr
        ⟨fun member => own (List.mem_singleton.mp member).symm, List.nodup_singleton _⟩
    · intro key member
      rw [List.mem_cons, List.mem_singleton] at member
      rcases member with rfl | rfl
      · have stored : (world.core config).persisted = some ⟨state, log⟩ := loaded.stored
        rw [Core.keys_of_persisted stored, idle]
        exact ⟨terminals _, List.not_mem_nil⟩
      · exact ⟨unused, quiet⟩
  · refine ⟨[], .of_command (.of_core (acceptPlan_refused around planning)) replies
      List.nodup_nil ?_ quiet⟩
    exact fun key member => absurd member List.not_mem_nil

/-- The key of the command or of the round that an input is about. -/
def Input.logicalKey? : Input → Option String
  | .message (.workflow command) _ => some command.logicalKey
  | .message (.executionRoundFinished logicalKey _ _) _ => some logicalKey
  | _ => none

/-- The round that an input requests. -/
def Input.requests? : Input → Option String
  | .message (.workflow ⟨_, logicalKey, .executeRound, _⟩) _ => some logicalKey
  | _ => none

/-- A step with its keys: what it answers is under the key of the input, and the round it
opens is the one that the input requests. -/
def InputStep (config : ActorConfig) (input : Input) (world after : World) : Prop :=
  ∃ keys opens key, KeyedStep config keys opens key world after ∧
    (∀ own, key = some own → input.logicalKey? = some own) ∧
    ∀ task, opens = some task → input.requests? = some task

theorem InputStep.closed {key : Option String} (one : KeyedStep config keys none key world after)
    (named : ∀ own, key = some own → input.logicalKey? = some own) :
    InputStep config input world after :=
  ⟨keys, none, key, one, named, fun task impossible => by cases impossible⟩

theorem InputStep.silent (one : KeyedStep config keys none none world after) :
    InputStep config input world after :=
  .closed one fun own impossible => by cases impossible

theorem InputStep.reported
    (one : InputStep config (.message (.workflow command) around) world
      (handle config around world (.workflow command)).1) :
    InputStep config (.message (.workflow command) around) world
      (turn config around world (.workflow command)) := by
  obtain ⟨keys, opens, key, keyed, named, requested⟩ := one
  exact ⟨keys, opens, key, keyed.reported, named, requested⟩

theorem handleWorkflowCommand_keyed (sound : OnceSound config world)
    (apart : KeysApart world (.message (.workflow command) around)) :
    InputStep config (.message (.workflow command) around) world
      (handleWorkflowCommand config around world command).1 := by
  obtain ⟨ownKey, notRound, notIntent⟩ := apart
  have same : KeyedStep config [] none none world world :=
    .unkeyed (.of_core rfl) (.of_desk rfl)
  have own : ∀ own, some command.logicalKey = some own →
      Input.logicalKey? (.message (.workflow command) around) = some own := fun own equal => equal
  unfold handleWorkflowCommand
  split
  · exact .silent same
  split
  · rename_i event found
    exact .closed (replayCommand_keyed sound found) own
  rename_i missing
  split
  · rename_i state snapshot current stored
    obtain ⟨log, loaded⟩ := sound.coherent.loaded current
    rw [loaded.stored] at stored missing
    cases stored
    have unused := unused_of_missing loaded.stored missing
    have ownState := sound.coherent.ownState
    cases payload : command.payload with
    | acceptPlan completion frozenPlan =>
      rw [payload] at ownKey notRound
      obtain ⟨keys, one⟩ := acceptPlan_keyed around sound loaded frozenPlan ownKey unused
        (notRound (by simp [WorkflowPayload.kind]))
      exact .closed one own
    | executeRound =>
      rw [payload] at notIntent
      obtain ⟨opens, one, requested⟩ :=
        scheduleExecutionRound_keyed loaded unused (notIntent (by simp [WorkflowPayload.kind]))
      refine ⟨[], opens, none, one, ?_, ?_⟩
      · intro own impossible
        cases impossible
      intro task opened
      obtain ⟨runId, logicalKey, payload, response⟩ := command
      cases payload
      rw [← requested task opened]
      rfl
    | agentRunStarted agentRunId =>
      rw [payload] at ownKey notRound
      have does : Does config (.workflow command) True _ world _ :=
        recordAgentRunStarted_does around ownState loaded.current command agentRunId
      refine .closed (.of_own (does.grows ?_ (.inr fun _ _ _ _ => RuntimeMessage.noConfusion))
        (recordAgentRunStarted_replies around state agentRunId) unused
        (notRound (by simp [WorkflowPayload.kind]))) own
      rintro _ ⟨record, registered, rfl⟩
      have keyed : (world.store.agentRuns.get? agentRunId).all
          (fun record => command.logicalKey = "agent_run.started:" ++ record.agentRunId.str) :=
        ownKey
      rw [registered] at keyed
      rw [of_decide_eq_true keyed]
    | agentRunTerminal record receipt resultObject =>
      rw [payload] at notRound
      exact .closed (.of_own
        (recordAgentRunTerminal_does around ownState loaded.current command loaded.stored record
          receipt resultObject missing).grows_command
        (recordAgentRunTerminal_replies around state _ record receipt resultObject) unused
        (notRound (by simp [WorkflowPayload.kind]))) own
    | integrationIntent intent =>
      rw [payload] at notRound
      refine .closed (.of_command (.of_core (persistIntegrationIntent_core command state intent))
        (persistIntegrationIntent_replies state intent) List.nodup_nil ?_
        (notRound (by simp [WorkflowPayload.kind]))) own
      exact fun key member => absurd member List.not_mem_nil
    | integrationCompleted intent verifiedCommitOid =>
      rw [payload] at notRound
      exact .closed (.of_own
        (recordIntegrationCompleted_does around loaded.current command intent
          verifiedCommitOid).grows_command
        (recordIntegrationCompleted_replies around state intent verifiedCommitOid) unused
        (notRound (by simp [WorkflowPayload.kind]))) own
    | verification result =>
      rw [payload] at notRound
      exact .closed (.of_own
        (commitVerification_does around ownState loaded.current command result).grows_command
        (commitVerification_replies around state result) unused
        (notRound (by simp [WorkflowPayload.kind]))) own
    | report result =>
      rw [payload] at notRound
      exact .closed (.of_own
        (commitReport_does around ownState loaded.current command result
          fun _ => trivial).grows_command
        (commitReport_replies around state result) unused
        (notRound (by simp [WorkflowPayload.kind]))) own
    | other kind => exact .silent same
  · exact .silent same

theorem commitExecutionRound_answers (logicalKey : String) (state : RunState)
    (decision : ExecutionRoundDecision) :
    (commitExecutionRound config around world logicalKey state decision).1.desk = world.desk ∧
      Answers (some logicalKey)
        ((commitExecutionRound config around world logicalKey state decision).1.core config).persisted
        ((commitExecutionRound config around world logicalKey state decision).2.map
          .roundResult) := by
  unfold commitExecutionRound
  split
  · exact ⟨rfl, .error _⟩
  · split
    · rename_i committed
      exact ⟨desk_of_commit around committed, .error _⟩
    · rename_i written committed
      split
      · exact ⟨desk_of_commit around committed, .error _⟩
      · rename_i event found
        refine ⟨desk_of_commit around committed, ?_⟩
        cases stored : written.store.load config.runId with
        | none =>
          rw [stored] at found
          cases found
        | some snapshot =>
          rw [stored] at found
          cases made : actorPhaseReceipt config.runId logicalKey event.sequence with
          | error failure => exact .error failure
          | ok receipt => exact .receipt stored found made (.inr ⟨decision.complete, rfl⟩)

theorem handleExecutionRoundFinished_keyed (sound : OnceSound config world) {logicalKey : String}
    (running : logicalKey ∈ world.actor.executionRoundTasks)
    (decision : Option ExecutionRoundDecision) (error : Option RuntimeFailure) :
    KeyedStep config [logicalKey] none (some logicalKey) world
      (handleExecutionRoundFinished config around world logicalKey decision error).1 := by
  have closes : ∀ (between : World) (outcome : Except RuntimeFailure ExecuteRoundResult),
      Grows config [logicalKey] (world.core config) (between.core config) →
      between.desk = world.desk →
      Answers (some logicalKey) (between.core config).persisted (outcome.map .roundResult) →
      KeyedStep config [logicalKey] none (some logicalKey) world
        (finishExecutionRound between logicalKey outcome) := by
    intro between outcome grows desk answers
    have core : (finishExecutionRound between logicalKey outcome).core config =
        between.core config := core_finishExecutionRound config between logicalKey outcome
    obtain ⟨sides, closed⟩ : Sides none (some logicalKey) (between.core config).persisted between
        (finishExecutionRound between logicalKey outcome) ∧ _ :=
      Sides.finish between logicalKey answers
    refine ⟨?_, ?_, List.nodup_singleton _, ?_, ?_, fun task impossible => by cases impossible⟩
    · rw [core]
      exact grows
    · rw [core]
      exact (Sides.of_desk desk).trans sides
    · intro own member
      rw [List.mem_singleton.mp member]
      exact (sound.running logicalKey running).1
    · intro task member
      have different : task ≠ logicalKey := fun same => closed (same ▸ member)
      refine ⟨fun own => different (List.mem_singleton.mp own), ?_⟩
      rintro ⟨⟩
      exact different rfl
  unfold handleExecutionRoundFinished
  split
  · exact closes world _ (.of_core rfl) rfl (.error _)
  · rename_i state decision current
    obtain ⟨log, loaded⟩ := sound.coherent.loaded current
    obtain ⟨desk, answers⟩ :
        (commitExecutionRound config around world logicalKey state decision).1.desk = world.desk ∧ _ :=
      commitExecutionRound_answers around logicalKey state decision
    have does : Does config (.executionRoundFinished logicalKey (some decision) none) True _ world _ :=
      commitExecutionRound_does around sound.coherent.ownState current logicalKey decision
    refine closes _ _ (does.grows ?_ (.inr fun _ _ _ _ => RuntimeMessage.noConfusion)) desk answers
    rintro _ ⟨ended, rfl, silent⟩
    rw [silent _ loaded.stored sound.announced]
    rfl
  · exact closes world _ (.of_core rfl) rfl (.error _)

theorem step_keyed (sound : OnceSound config world) (apart : KeysApart world input) :
    InputStep config input world (step config world input) := by
  -- what happens outside the mailbox leaves the answers and the ledger alone
  have outside : (∀ message around, input ≠ .message message around) →
      Sides none none ((step config world input).core config).persisted world
        (step config world input) →
      InputStep config input world (step config world input) := by
    intro other sides
    refine .silent (.unkeyed ((step_core sound.coherent input).grows ?_) sides)
    exact fun message around equal => absurd equal (other message around)
  cases input with
  | message message around =>
    by_cases unkeyed : message.isUnkeyed = true
    · refine .silent (KeyedStep.reported (.unkeyed ?_ (handle_sides around unkeyed _)))
      refine (handle_core around sound.coherent message).grows ?_
      rintro _ _ ⟨⟩
      exact unkeyed
    · cases message with
      | workflow command =>
        exact .reported around (handleWorkflowCommand_keyed around sound apart)
      | executionRoundFinished logicalKey decision error =>
        exact .closed (KeyedStep.reported
          (handleExecutionRoundFinished_keyed around sound apart decision error))
          fun own equal => equal
      | executionReceipt runId dispatch resultStatus started =>
        exact .silent (KeyedStep.reported (.unkeyed
          ((handleExecution_does around sound.coherent.ownState runId dispatch resultStatus
            started : Does config _ True _ world _).grows (fun _ same => same) (.inl rfl))
          (handleExecution_sides around _ runId dispatch resultStatus started)))
      | _ => exact absurd rfl unkeyed
  | createAgentRun record => exact outside (fun _ _ => Input.noConfusion) (.of_desk rfl)
  | addCasReference object ownerKind ownerId referenceKey =>
    exact outside (fun _ _ => Input.noConfusion) (.of_desk rfl)
  | failNextCommit => exact outside (fun _ _ => Input.noConfusion) (.of_desk rfl)
  | start =>
    refine outside (fun _ _ => Input.noConfusion) ?_
    dsimp only [step]
    split
    · exact .of_desk rfl
    · exact ⟨fun task member => absurd member List.not_mem_nil, fun entry member => .inl member⟩

theorem OnceSound.step (sound : OnceSound config world) (apart : KeysApart world input) :
    OnceSound config (step config world input) := by
  obtain ⟨keys, opens, key, one, -⟩ := step_keyed sound apart
  exact one.onceSound sound (step_core sound.coherent input)

end Steps

/-! ## Repetitions -/

/-- The ledger has one event for each receipt key, and all receipts under one key have the
sequence number of one event. -/
def TakenOnce (config : ActorConfig) (world : World) : Prop :=
  (∀ snapshot, world.store.load config.runId = some snapshot →
    (receiptKeys snapshot.events).Nodup) ∧
  ∀ first ∈ world.replies, ∀ second ∈ world.replies, ∀ left right leftReceipt rightReceipt,
    first.2 = .ok left → second.2 = .ok right → left.receipt? = some leftReceipt →
    right.receipt? = some rightReceipt → leftReceipt.receiptKey = rightReceipt.receiptKey →
    leftReceipt.eventSequence = rightReceipt.eventSequence

/-- A command whose key was answered successfully before, and the end of a round with such a
key, leave the Run's state and its ledger as they are. -/
def RepeatKeeps (config : ActorConfig) (world : World) (input : Input) : Prop :=
  match input with
  | .message (.workflow ⟨_, logicalKey, _, _⟩) _
  | .message (.executionRoundFinished logicalKey _ _) _ =>
    world.Answered logicalKey →
      (step config world input).store.load config.runId = world.store.load config.runId ∧
        (step config world input).actor.state = world.actor.state
  | _ => True

section Repetitions

variable {config : ActorConfig} {world : World}

theorem OnceSound.answered (sound : OnceSound config world) {key : String}
    (answered : world.Answered key) :
    key ∈ (world.core config).keys ∨ world.IntentAnswered key := by
  obtain ⟨⟨response, outcome⟩, listed, keyed⟩ := answered
  cases outcome with
  | error failure => cases keyed
  | ok reply =>
    have named : ∀ receipt, reply.receipt? = some receipt → receipt.receiptKey = key →
        key ∈ (world.core config).keys := by
      intro receipt found same
      obtain ⟨snapshot, stored, event, inLedger, eventKey, -⟩ :=
        sound.receipts _ listed reply receipt rfl found
      rw [Core.keys_of_persisted stored, ← same]
      exact mem_receiptKeys.mpr ⟨event, inLedger, eventKey⟩
    cases reply with
    | phaseReceipt receipt => exact .inl (named receipt rfl (Option.some.inj keyed))
    | roundResult result => exact .inl (named result.receipt rfl (Option.some.inj keyed))
    | intent intent => exact .inr ⟨_, listed, keyed⟩
    | state state => cases keyed

theorem OnceSound.takenOnce (sound : OnceSound config world) : TakenOnce config world := by
  refine ⟨?_, ?_⟩
  · intro snapshot stored
    have persisted : (world.core config).persisted = some snapshot := stored
    rw [← Core.keys_of_persisted persisted]
    exact sound.unique
  · intro first firstListed second secondListed left right leftReceipt rightReceipt leftOk rightOk
      leftFound rightFound same
    exact (sound.receipts first firstListed left leftReceipt leftOk leftFound).sequence_eq
      (sound.receipts second secondListed right rightReceipt rightOk rightFound) sound.unique same

theorem OnceSound.repeated_command (sound : OnceSound config world)
    {command : WorkflowCommandMessage} {around : Surroundings}
    (apart : KeysApart world (.message (.workflow command) around))
    (answered : world.Answered command.logicalKey) :
    (handleWorkflowCommand config around world command).1.core config = world.core config := by
  obtain ⟨-, -, notIntent⟩ := apart
  unfold handleWorkflowCommand
  split
  · rfl
  split
  · exact replayCommand_core command _
  rename_i missing
  split
  · rename_i state snapshot current stored
    rw [stored] at missing
    have intent : world.IntentAnswered command.logicalKey := by
      rcases sound.answered answered with written | intent
      · exact absurd written (unused_of_missing stored missing)
      · exact intent
    have kind : command.payload.kind = "integration_intent" :=
      not_not.mp fun other => notIntent other intent
    cases payload : command.payload with
    | integrationIntent intent => exact persistIntegrationIntent_core command state intent
    | other kind => rfl
    | _ =>
      rw [payload] at kind
      simp [WorkflowPayload.kind] at kind
  · rfl

theorem OnceSound.repeatKeeps (sound : OnceSound config world) {input : Input}
    (apart : KeysApart world input) : RepeatKeeps config world input := by
  unfold RepeatKeeps
  split
  · rename_i runId logicalKey payload response around
    intro answered
    have same : (turn config around world (.workflow ⟨runId, logicalKey, payload, response⟩)).core
        config = world.core config :=
      (turn_core_eq around _).trans (sound.repeated_command apart answered)
    exact ⟨congrArg Core.persisted same, congrArg Core.state same⟩
  · rename_i logicalKey decision error around
    intro answered
    obtain ⟨unwritten, unanswered⟩ := sound.running logicalKey apart
    rcases sound.answered answered with written | intent
    · exact absurd written unwritten
    · exact absurd intent unanswered
  · trivial

/-- While commands of different kinds keep their keys apart, every command takes effect
once: the ledger has at most one event for each receipt key, all receipts that are answered
under one key have the sequence number of that event, and a command that repeats an answered
key leaves the state and the ledger of the Run unchanged. -/
theorem commands_take_effect_once (fresh : Fresh config world) (unanswered : world.replies = [])
    (idle : world.actor.executionRoundTasks = []) {inputs : List Input}
    (apart : Along (step config) KeysApart world inputs) :
    Always (step config) (TakenOnce config) world inputs ∧
      Along (step config) (RepeatKeeps config) world inputs := by
  have start := fresh.onceSound unanswered idle
  have keeps : ∀ state input, OnceSound config state → KeysApart state input →
      OnceSound config (step config state input) := fun _ _ sound apart => sound.step apart
  refine ⟨?_, ?_⟩
  · intro earlier rest split
    exact (always_of_along (OnceSound config) keeps start apart earlier rest split).takenOnce
  · exact along_of_along (OnceSound config) keeps (fun _ _ sound apart => sound.repeatKeeps apart)
      start apart

end Repetitions

namespace SampleRun

def finishRound (logicalKey : String) (decision : ExecutionRoundDecision) : Input :=
  .message (.executionRoundFinished logicalKey (some decision) none) calm

/-- Two requests for one round, whose commit fails, two more, whose commit succeeds, and one
that is answered from the ledger. -/
def repeatedRound : List Input :=
  toCandidate.take 8 ++
    [command roundKey .executeRound 5, .failNextCommit, finishRound roundKey claimingRound,
      command roundKey .executeRound 6, command roundKey .executeRound 7,
      finishRound roundKey claimingRound, command roundKey .executeRound 8]

/-- The key of the writer's start. -/
def startKey : String := "agent_run.started:" ++ (⟨12⟩ : UUID).str

/-- A round is requested under the key of the writer's start, the start is recorded while the
round is running, and the round ends; the start is recorded again. -/
def sharedKey : List Input :=
  toVerification.take 4 ++
    [.createAgentRun writerCreated, command startKey .executeRound 2,
      command startKey (.agentRunStarted ⟨12⟩) 3, finishRound startKey ⟨false, 0, [], [], []⟩,
      command startKey (.agentRunStarted ⟨12⟩) 4]

/-- The sequence numbers answered, by response; none for a failure. -/
def answeredSequences (world : World) : List (Nat × Option Nat) :=
  world.replies.map fun entry =>
    (entry.1, entry.2.toOption.bind fun reply => reply.receipt?.map (·.eventSequence))

end SampleRun

open SampleRun in
theorem commands_take_effect_once_repeated :
    answeredSequences (runFrom (step config) start repeatedRound) =
        [(0, some 3), (1, some 5), (2, some 7), (3, some 8), (4, none), (5, none), (6, some 10),
          (7, some 10), (8, some 10)] ∧
      Always (step config) (TakenOnce config) start repeatedRound ∧
      Along (step config) (RepeatKeeps config) start repeatedRound :=
  ⟨by decide +kernel, commands_take_effect_once start_fresh rfl rfl (by decide +kernel)⟩

open SampleRun in
/-- The end of a round does not look for its key in the ledger again: the key that a start
has taken meanwhile gets a second event, and the start is answered with another sequence
number. -/
theorem receipt_key_taken_twice :
    answeredSequences (runFrom (step config) start sharedKey) =
        [(0, some 3), (1, some 5), (3, some 7), (2, some 8), (4, some 8)] ∧
      ¬ TakenOnce config (runFrom (step config) start sharedKey) := by
  refine ⟨by decide +kernel, ?_⟩
  rintro ⟨unique, -⟩
  have repeated : ((runFrom (step config) start sharedKey).store.load runId).map
      (fun snapshot => decide (receiptKeys snapshot.events).Nodup) = some false := by decide +kernel
  cases stored : (runFrom (step config) start sharedKey).store.load runId with
  | none =>
    rw [stored] at repeated
    cases repeated
  | some snapshot =>
    rw [stored, Option.map_some, Option.some.injEq, decide_eq_false_iff_not] at repeated
    exact repeated (unique snapshot stored)

end CodeMigrator
