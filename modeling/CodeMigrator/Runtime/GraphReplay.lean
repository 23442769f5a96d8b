import CodeMigrator.Runtime.RunGraph

/-!
# Replay of the graph

The saved checkpoints and the ledger are two records of one Run. What ties them is that a
checkpoint is saved after the receipts of all steps before it, and that the receipt of a
round keeps the flag that the round was answered with: from any checkpoint the graph
repeats the recorded steps without writing and goes on with the first that has no receipt.
-/

namespace CodeMigrator
open Lib RunWorkflowGraph

/-! ## Keys of one kind -/

/-- The key begins with the text of a kind. -/
def KeyOf (kind key : String) : Prop := ∃ rest, key = kind ++ rest

/-- The text before the Run's id and the index in the key of a round. -/
def roundKind : String := "run.execute.round:"

/-- The text before the key of an intent. -/
def intentKind : String := "integration.intent:"

section Keys

variable {config : ActorConfig} {world : World} {key : String} {command : WorkflowCommandMessage}

theorem KeyOf.apart {left right : String} (keyed : KeyOf left key) (position : Nat)
    (differ : position < left.toList.length ∧ position < right.toList.length ∧
      left.toList[position]? ≠ right.toList[position]?) : ¬ KeyOf right key := by
  rintro ⟨second, same⟩
  obtain ⟨first, rfl⟩ := keyed
  exact key_ne_key position differ.1 differ.2.1 differ.2.2 first second same

theorem KeyOf.ne_empty {kind : String} (keyed : KeyOf kind key) (named : kind.toList ≠ []) :
    key ≠ "" := by
  obtain ⟨rest, rfl⟩ := keyed
  intro empty
  have chars := congrArg String.toList empty
  rw [String.toList_append] at chars
  exact named (List.append_eq_nil_iff.mp chars).1

theorem IntentAnswered.keyOf (answered : world.IntentAnswered key) : KeyOf intentKind key := by
  obtain ⟨⟨response, outcome⟩, -, keyed⟩ := answered
  unfold intentKey? at keyed
  split at keyed
  · rename_i intent equal
    exact ⟨intent.idempotencyKey, (Option.some.inj keyed).symm⟩
  · cases keyed

/-- A command of the graph carries the key of its step. -/
def FromGraph (command : WorkflowCommandMessage) : Prop :=
  match command.payload with
  | .executeRound => KeyOf roundKind command.logicalKey
  | .verification _ => KeyOf "run.verify.completed:" command.logicalKey
  | .report _ => KeyOf "run.report.completed:" command.logicalKey
  | _ => False

/-- The agent runs are stored under their own ids. -/
def Filed (core : Core) : Prop :=
  ∀ id record, core.agentRuns.get? id = some record → record.agentRunId = id

theorem CoreStep.filed {input : Input} {core after : Core} (step : CoreStep config input core after)
    (filed : Filed core) : Filed after := by
  have added : ∀ record : AgentRun, ∀ id stored,
      (core.agentRuns.set record.agentRunId record).get? id = some stored →
      stored.agentRunId = id := by
    intro record id stored found
    rw [Dict.get?_set] at found
    split at found
    · rename_i same
      rw [← Option.some.inj found]
      exact same.symm
    · exact filed id stored found
  cases step with
  | stay => exact filed
  | create => exact filed
  | commit => exact filed
  | own message around _ snapshot events next record => exact added record
  | register _ _ record => exact added record

/-- An input that keeps the keys apart, and in which the rounds and no other commands have
the keys of rounds. -/
structure Admissible (world : World) (input : Input) : Prop where
  apart : KeysApart world input
  rounds : ∀ command around, input = .message (.workflow command) around →
    (command.payload = .executeRound ↔ KeyOf roundKind command.logicalKey)

theorem Admissible.of_command {around : Surroundings}
    (tasks : ∀ task ∈ world.actor.executionRoundTasks, KeyOf roundKind task)
    (own : OwnKey world command.logicalKey command.payload)
    (rounds : command.payload = .executeRound ↔ KeyOf roundKind command.logicalKey)
    (intents : command.payload.kind ≠ "integration_intent" → ¬ KeyOf intentKind command.logicalKey) :
    Admissible world (.message (.workflow command) around) := by
  refine ⟨⟨own, ?_, ?_⟩, ?_⟩
  · intro other running
    refine other ?_
    rw [rounds.mpr (tasks _ running)]
    rfl
  · exact fun other answered => intents other (IntentAnswered.keyOf answered)
  · rintro _ _ ⟨⟩
    exact rounds

theorem Admissible.of_owner {around : Surroundings} (filed : Filed (world.core config))
    (tasks : ∀ task ∈ world.actor.executionRoundTasks, KeyOf roundKind task)
    (own : OwnerCommand command) : Admissible world (.message (.workflow command) around) := by
  obtain ⟨runId, logicalKey, payload, response⟩ := command
  -- a kind of key that is not that of rounds
  have closed : payload ≠ .executeRound → ¬ KeyOf roundKind logicalKey →
      (payload = .executeRound ↔ KeyOf roundKind logicalKey) :=
    fun other foreign => ⟨fun same => absurd same other, fun keyed => absurd keyed foreign⟩
  cases payload with
  | acceptPlan completion frozenPlan =>
    have keyed : KeyOf "run.plan.accepted:" logicalKey := ⟨_, own⟩
    refine .of_command tasks ?_ (closed WorkflowPayload.noConfusion ?_) fun _ => ?_
    · intro same
      exact keyed.apart 0 (by decide) ⟨_, same⟩
    · exact keyed.apart 4 (by decide)
    · exact keyed.apart 0 (by decide)
  | agentRunStarted agentRunId =>
    have keyed : KeyOf "agent_run.started:" logicalKey := ⟨_, own⟩
    refine .of_command tasks ?_ (closed WorkflowPayload.noConfusion ?_) fun _ => ?_
    · show (world.store.agentRuns.get? agentRunId).all _
      cases registered : world.store.agentRuns.get? agentRunId with
      | none => rfl
      | some record =>
        have same : record.agentRunId = agentRunId := filed agentRunId record registered
        refine decide_eq_true ?_
        rw [same]
        exact own
    · exact keyed.apart 0 (by decide)
    · exact keyed.apart 0 (by decide)
  | agentRunTerminal record receipt resultObject =>
    have keyed : KeyOf "agent_run.terminal:" logicalKey := ⟨_, own⟩
    refine .of_command tasks trivial (closed WorkflowPayload.noConfusion ?_) fun _ => ?_
    · exact keyed.apart 0 (by decide)
    · exact keyed.apart 0 (by decide)
  | integrationIntent intent =>
    have keyed : KeyOf intentKind logicalKey := ⟨_, own⟩
    refine .of_command tasks trivial (closed WorkflowPayload.noConfusion ?_) ?_
    · exact keyed.apart 0 (by decide)
    · exact fun other => absurd rfl other
  | integrationCompleted intent verifiedCommitOid =>
    have keyed : KeyOf "integration.completed:" logicalKey := ⟨_, own⟩
    refine .of_command tasks trivial (closed WorkflowPayload.noConfusion ?_) fun _ => ?_
    · exact keyed.apart 0 (by decide)
    · exact keyed.apart 12 (by decide)
  | executeRound => exact absurd own id
  | verification result => exact absurd own id
  | report result => exact absurd own id
  | other kind => exact absurd own id

theorem Admissible.of_graph {around : Surroundings}
    (tasks : ∀ task ∈ world.actor.executionRoundTasks, KeyOf roundKind task)
    (sent : FromGraph command) : Admissible world (.message (.workflow command) around) := by
  obtain ⟨runId, logicalKey, payload, response⟩ := command
  cases payload with
  | executeRound =>
    have keyed : KeyOf roundKind logicalKey := sent
    refine .of_command tasks trivial ⟨fun _ => keyed, fun _ => rfl⟩ fun _ => ?_
    exact keyed.apart 0 (by decide)
  | verification result =>
    have keyed : KeyOf "run.verify.completed:" logicalKey := sent
    refine .of_command tasks trivial ⟨WorkflowPayload.noConfusion, fun round => ?_⟩ fun _ => ?_
    · exact absurd round (keyed.apart 4 (by decide))
    · exact keyed.apart 0 (by decide)
  | report result =>
    have keyed : KeyOf "run.report.completed:" logicalKey := sent
    refine .of_command tasks trivial ⟨WorkflowPayload.noConfusion, fun round => ?_⟩ fun _ => ?_
    · exact absurd round (keyed.apart 4 (by decide))
    · exact keyed.apart 0 (by decide)
  | _ => exact absurd sent id

end Keys

/-! ## The flags of rounds -/

/-- The ledger has an event with the key and the flag. -/
def HasFlag (persisted : Option RuntimeSnapshot) (key : String) (complete : Bool) : Prop :=
  ∃ snapshot, persisted = some snapshot ∧ ∃ event ∈ snapshot.events,
    receiptKey? event.data = some key ∧
      (Json.field? event.data "complete" == some (.bool true)) = complete

/-- What is answered under the key of a round has the flag of the ledger. -/
def Flagged (persisted : Option RuntimeSnapshot) (outcome : Except RuntimeFailure Reply) : Prop :=
  ∀ result, outcome = .ok (.roundResult result) → KeyOf roundKind result.receipt.receiptKey →
    HasFlag persisted result.receipt.receiptKey result.complete

section Flags

variable {config : ActorConfig} {world : World} {around : Surroundings}
  {persisted : Option RuntimeSnapshot} {outcome : Except RuntimeFailure Reply}
  {entry : Nat × Except RuntimeFailure Reply} {logicalKey : String}

theorem HasFlag.grows {keys : List String} {core after : Core} {key : String} {complete : Bool}
    (flag : HasFlag core.persisted key complete) (grows : Grows config keys core after) :
    HasFlag after.persisted key complete :=
  grows.keeps_event flag

theorem Flagged.error (failure : RuntimeFailure) : Flagged persisted (.error failure) := by
  intro result impossible
  cases impossible

theorem Flagged.of_answers {key : Option String} (answers : Answers key persisted outcome)
    (foreign : ∀ own, key = some own → ¬ KeyOf roundKind own) : Flagged persisted outcome := by
  rintro result rfl keyed
  exact absurd keyed (foreign _ ((answers _ rfl).1 _ rfl))

theorem mem_reply {response : Nat} (member : entry ∈ (world.reply response outcome).replies) :
    entry ∈ world.replies ∨ entry.2 = outcome := by
  unfold World.reply at member
  split at member
  · exact .inl member
  · rcases List.mem_append.mp member with earlier | added
    · exact .inl earlier
    · rw [List.mem_singleton.mp added]
      exact .inr rfl

theorem mem_finishExecutionRound {outcome : Except RuntimeFailure ExecuteRoundResult}
    (member : entry ∈ (finishExecutionRound world logicalKey outcome).replies) :
    entry ∈ world.replies ∨ entry.2 = outcome.map .roundResult := by
  have answered : ∀ (responses : List Nat) (start : World),
      entry ∈ (responses.foldl
        (fun world response => world.reply response (outcome.map .roundResult)) start).replies →
      entry ∈ start.replies ∨ entry.2 = outcome.map .roundResult := by
    intro responses
    induction responses with
    | nil => exact fun start member => .inl member
    | cons response responses ih =>
      intro start member
      rcases ih _ member with earlier | same
      · exact mem_reply earlier
      · exact .inr same
  unfold finishExecutionRound at member
  rcases answered _ _ member with earlier | same
  · exact .inl earlier
  · exact .inr same

theorem executeRound_flagged {command : WorkflowCommandMessage}
    (payload : command.payload = .executeRound)
    (member : entry ∈ (turn config around world (.workflow command)).replies) :
    entry ∈ world.replies ∨
      Flagged ((turn config around world (.workflow command)).core config).persisted entry.2 := by
  have core : (turn config around world (.workflow command)).core config =
      (handleWorkflowCommand config around world command).1.core config := turn_core_eq around _
  rw [core]
  -- the `except` clause answers with a failure
  have handled : entry ∈ (handleWorkflowCommand config around world command).1.replies ∨
      ∃ failure, entry.2 = .error failure := by
    unfold CodeMigrator.turn at member
    simp only [handle] at member
    rcases equal : handleWorkflowCommand config around world command with ⟨after, _ | failure⟩
    · rw [equal] at member
      exact .inl member
    · rw [equal] at member
      rcases mem_reply member with earlier | same
      · exact .inl earlier
      · exact .inr ⟨failure, same⟩
  rcases handled with written | ⟨failure, same⟩
  · unfold handleWorkflowCommand at written ⊢
    split at written
    · exact .inl written
    split at written
    · rename_i own _ event found
      rw [if_neg own, replayCommand_core]
      simp only [replayCommand, payload, WorkflowPayload.kind] at written
      rw [if_neg (by decide), if_pos trivial] at written
      split at written
      · exact .inl written
      · rename_i receipt made
        rcases mem_reply written with earlier | same
        · exact .inl earlier
        · refine .inr ?_
          rw [same]
          rintro result ⟨⟩ -
          cases stored : world.store.load config.runId with
          | none =>
            rw [stored] at found
            cases found
          | some snapshot =>
            rw [stored] at found
            obtain ⟨listed, keyed⟩ := eventForReceipt_eq_some found
            exact ⟨snapshot, stored, event, listed, by rw [(actorPhaseReceipt_ok made).1]; exact keyed,
              rfl⟩
    · refine .inl ?_
      rw [payload] at written
      split at written
      · dsimp only [scheduleExecutionRound] at written
        repeat' split at written
        all_goals exact written
      · exact written
  · refine .inr ?_
    rw [same]
    exact .error failure

theorem decideRound_event {state : RunState} {decision : ExecutionRoundDecision} {next : RunState}
    {events : List EventSpec}
    (decided : decideRound config around world logicalKey state decision = .ok (next, events)) :
    roundEvent logicalKey decision ∈ events ∧ next.runId = state.runId := by
  unfold decideRound at decided
  repeat' split at decided
  all_goals first
    | cases decided
      done
    | cases decided
      refine ⟨?_, rfl⟩
      exact List.mem_append_right _ (List.mem_singleton_self _)

theorem commitExecutionRound_flag {state : RunState} {log : List RuntimeEvent}
    (loaded : Loaded config world ⟨state, log⟩) (logicalKey : String)
    (decision : ExecutionRoundDecision) :
    Flagged ((commitExecutionRound config around world logicalKey state decision).1.core
        config).persisted
      ((commitExecutionRound config around world logicalKey state decision).2.map .roundResult) := by
  unfold commitExecutionRound
  cases decided : decideRound config around world logicalKey state decision with
  | error failure => exact .error failure
  | ok written =>
    obtain ⟨next, events⟩ := written
    obtain ⟨listed, own⟩ := decideRound_event decided
    obtain ⟨committed, core⟩ := commit_core around loaded.stored loaded.current (own.trans loaded.runId) events
    dsimp only
    split
    · exact .error _
    · rename_i after equal
      rw [equal] at committed core
      rw [← committed, if_pos rfl] at core
      dsimp only at core
      split
      · exact .error _
      · rename_i found _
        cases made : actorPhaseReceipt config.runId logicalKey found.sequence with
        | error failure => exact .error failure
        | ok receipt =>
        rintro result ⟨⟩ -
        have announced : roundEvent logicalKey decision ∈
            committedEvents (some state) next events := by
          unfold committedEvents
          dsimp only
          split
          · exact List.mem_append_left _ listed
          · exact listed
        obtain ⟨event, inLedger, -, data⟩ := RuntimeSnapshot.mem_extend_new ⟨state, log⟩ next announced
        rw [core]
        refine ⟨_, rfl, event, inLedger, ?_, ?_⟩
        · rw [data, (actorPhaseReceipt_ok made).1]
          rfl
        · rw [data]
          show (some (Json.bool decision.complete) == some (.bool true)) = decision.complete
          cases decision.complete with
          | true => rfl
          | false => rfl

theorem roundFinished_flagged (coherent : Coherent config (world.core config))
    {decision : Option ExecutionRoundDecision} {error : Option RuntimeFailure}
    (member : entry ∈ (handleExecutionRoundFinished config around world logicalKey decision
      error).1.replies) :
    entry ∈ world.replies ∨ Flagged ((handleExecutionRoundFinished config around world logicalKey
      decision error).1.core config).persisted entry.2 := by
  have closes : ∀ (between : World) (outcome : Except RuntimeFailure ExecuteRoundResult),
      between.replies = world.replies →
      Flagged (between.core config).persisted (outcome.map .roundResult) →
      entry ∈ (finishExecutionRound between logicalKey outcome).replies →
      entry ∈ world.replies ∨
        Flagged ((finishExecutionRound between logicalKey outcome).core config).persisted entry.2 := by
    intro between outcome replies flagged member
    rw [core_finishExecutionRound]
    rcases mem_finishExecutionRound member with earlier | same
    · rw [replies] at earlier
      exact .inl earlier
    · rw [same]
      exact .inr flagged
  unfold handleExecutionRoundFinished at member ⊢
  split at member
  · rename_i failure
    exact closes world _ rfl (.error failure) member
  · rename_i state decision current
    obtain ⟨log, loaded⟩ := coherent.loaded current
    have desk : (commitExecutionRound config around world logicalKey state decision).1.desk =
        world.desk := (commitExecutionRound_answers around logicalKey state decision).1
    exact closes _ _ (congrArg Prod.snd desk) (commitExecutionRound_flag loaded logicalKey decision)
      member
  · exact closes world _ rfl (.error _) member

end Flags

/-! ## The actor under the graph -/

/-- What holds of the actor while its commands have the keys of their kinds. -/
structure ActorSound (config : ActorConfig) (world : World) : Prop where
  once : OnceSound config world
  filed : Filed (world.core config)
  tasks : ∀ task ∈ world.actor.executionRoundTasks, KeyOf roundKind task
  flags : ∀ entry ∈ world.replies, Flagged (world.core config).persisted entry.2

section Actor

variable {config : ActorConfig} {world : World} {around : Surroundings} {input : Input}

theorem Input.requests?_eq_some {task : String} (requested : input.requests? = some task) :
    ∃ command around,
      input = .message (.workflow command) around ∧ command.payload = .executeRound ∧
        command.logicalKey = task := by
  unfold Input.requests? at requested
  split at requested
  · exact ⟨_, _, rfl, rfl, Option.some.inj requested⟩
  · cases requested

theorem handleExecutionRoundFinished_done (logicalKey : String)
    (decision : Option ExecutionRoundDecision) (error : Option RuntimeFailure) :
    (handleExecutionRoundFinished config around world logicalKey decision error).2 = none := by
  unfold handleExecutionRoundFinished
  split
  · rfl
  · rfl
  · rfl

theorem ActorSound.flagged (sound : ActorSound config world) (admissible : Admissible world input)
    {entry : Nat × Except RuntimeFailure Reply} (member : entry ∈ (step config world input).replies) :
    entry ∈ world.replies ∨ Flagged ((step config world input).core config).persisted entry.2 := by
  obtain ⟨keys, opens, key, keyed, named, -⟩ := step_keyed sound.once admissible.apart
  -- an input without the key of a round
  have foreign : (∀ own, input.logicalKey? = some own → ¬ KeyOf roundKind own) →
      entry ∈ world.replies ∨ Flagged ((step config world input).core config).persisted entry.2 := by
    intro other
    rcases keyed.sides.replies entry member with earlier | answers
    · exact .inl earlier
    · exact .inr (.of_answers answers fun own same => other own (named own same))
  cases input with
  | message message around =>
    cases message with
    | workflow command =>
      by_cases round : command.payload = .executeRound
      · exact executeRound_flagged round member
      · refine foreign ?_
        rintro _ ⟨⟩ keyed
        exact round ((admissible.rounds command around rfl).mpr keyed)
    | executionRoundFinished logicalKey decision error =>
      have ended : turn config around world (.executionRoundFinished logicalKey decision error) =
          (handleExecutionRoundFinished config around world logicalKey decision error).1 := by
        unfold CodeMigrator.turn
        simp only [handle]
        rcases equal : handleExecutionRoundFinished config around world logicalKey decision error
          with ⟨after, raised⟩
        have done : raised = none := by
          have finished : (handleExecutionRoundFinished config around world logicalKey decision
              error).2 = none := handleExecutionRoundFinished_done logicalKey decision error
          rw [equal] at finished
          exact finished
        rw [done]
      rw [step, ended] at member ⊢
      exact roundFinished_flagged sound.once.coherent member
    | _ => exact foreign fun own impossible => by cases impossible
  | _ => exact foreign fun own impossible => by cases impossible

theorem Flagged.grows {keys : List String} {core after : Core}
    {outcome : Except RuntimeFailure Reply} (flagged : Flagged core.persisted outcome)
    (grows : Grows config keys core after) : Flagged after.persisted outcome :=
  fun result equal keyed => (flagged result equal keyed).grows grows

theorem ActorSound.step (sound : ActorSound config world) (admissible : Admissible world input) :
    ActorSound config (step config world input) ∧ ∃ keys,
      Grows config keys (world.core config) ((CodeMigrator.step config world input).core config) := by
  obtain ⟨keys, opens, key, keyed, named, requested⟩ := step_keyed sound.once admissible.apart
  have core := step_core sound.once.coherent input
  refine ⟨⟨keyed.onceSound sound.once core, core.filed sound.filed, ?_, ?_⟩, keys, keyed.grows⟩
  · intro task member
    rcases keyed.sides.tasks task member with earlier | opened
    · exact sound.tasks task earlier
    · obtain ⟨command, around, rfl, round, rfl⟩ := Input.requests?_eq_some (requested task opened)
      exact (admissible.rounds command around rfl).mp round
  · intro entry member
    rcases sound.flagged admissible member with earlier | flagged
    · exact (sound.flags entry earlier).grows keyed.grows
    · exact flagged

theorem recorded_command_core {command : WorkflowCommandMessage}
    (recorded : command.logicalKey ∈ (world.core config).keys) :
    (turn config around world (.workflow command)).core config = world.core config := by
  rw [turn_core_eq]
  simp only [handle]
  unfold handleWorkflowCommand
  split
  · rfl
  split
  · exact replayCommand_core command _
  rename_i missing
  split
  · rename_i state snapshot current stored
    rw [stored] at missing
    exact absurd recorded (unused_of_missing stored missing)
  · rfl

end Actor

/-! ## Receipts and steps -/

section Receipts

variable {config : ActorConfig} {world : World}

theorem hasReceipt_iff {runId : RunId} {key : String} : hasReceipt config world runId key = true ↔
    runId = config.runId ∧ key ≠ "" ∧ key ∈ (world.core config).keys := by
  have persisted : (world.core config).persisted = world.store.load config.runId := rfl
  unfold hasReceipt Core.keys
  rw [persisted]
  cases world.store.load config.runId with
  | none => simp
  | some snapshot =>
    simp only [Option.any_some, hasCommittedOwnerReceipt, Bool.decide_and, decide_not,
      Bool.and_eq_true, decide_eq_true_eq, Bool.not_eq_true', decide_eq_false_iff_not,
      List.any_eq_true, mem_receiptKeys, receiptKey?_eq_some]

theorem GraphStep.recorded_of_key {step : GraphStep}
    (plain : ∀ index complete, step ≠ .round index complete)
    (listed : step.key config.runId ∈ (world.core config).keys) :
    step.Recorded (world.core config).persisted config.runId := by
  unfold Core.keys at listed
  split at listed
  · cases listed
  · rename_i snapshot stored
    obtain ⟨event, member, keyed⟩ := mem_receiptKeys.mp listed
    refine ⟨snapshot, stored, event, member, keyed, ?_⟩
    exact fun index complete same => absurd same (plain index complete)

theorem GraphStep.recorded_of_flag {persisted : Option RuntimeSnapshot} {index : Nat}
    {complete : Bool} (flag : HasFlag persisted (roundKey config.runId index) complete) :
    (GraphStep.round index complete).Recorded persisted config.runId := by
  obtain ⟨snapshot, stored, event, listed, keyed, flagged⟩ := flag
  refine ⟨snapshot, stored, event, listed, keyed, ?_⟩
  rintro _ _ ⟨⟩
  exact flagged

theorem GraphStep.Recorded.grows {keys : List String} {core after : Core} {step : GraphStep}
    (recorded : step.Recorded core.persisted config.runId) (grows : Grows config keys core after) :
    step.Recorded after.persisted config.runId :=
  grows.keeps_event recorded

end Receipts

/-! ## Nodes -/

/-- A checkpoint that the ledger bears out: the steps before it have their receipts, the
rounds with their flags. -/
structure GraphCheckpoint.Reached (config : ActorConfig) (persisted : Option RuntimeSnapshot)
    (checkpoint : GraphCheckpoint) : Prop where
  own : checkpoint.state.runId = config.runId
  first : checkpoint.next = .plan → checkpoint.state.executeRound = 0
  recorded : ∀ step ∈ checkpoint.passed, step.Recorded persisted config.runId

/-- A turn of a node that keeps the graph in step with the ledger: what is returned follows a
receipt and comes next in the sequence. -/
def GraphTurn.InStep (config : ActorConfig) (persisted : Option RuntimeSnapshot)
    (before : GraphCheckpoint) : GraphTurn → Prop
  | returns state visit =>
    let after : GraphCheckpoint := ⟨state, nextNode state before.next⟩
    state.runId = before.state.runId ∧ visit.Recorded persisted config.runId ∧
      after.passed = before.passed ++ [visit]
  | waits point => point.node = before.next
  | sends point command => point.node = before.next ∧ FromGraph command
  | raises _ => True

section Nodes

variable {config : ActorConfig} {world : World} {state : GraphState}

theorem openRounds_succ (count : Nat) :
    openRounds (count + 1) = openRounds count ++ [.round count false] := by
  simp [openRounds, List.range_succ]

theorem nextNode_ne_plan (state : GraphState) (node : GraphNode) : nextNode state node ≠ .plan := by
  cases node with
  | execute =>
    show afterExecute state ≠ .plan
    unfold afterExecute
    split
    · exact GraphNode.noConfusion
    · exact GraphNode.noConfusion
  | _ => exact GraphNode.noConfusion

theorem receiptGate_none {key : String} {receipt : ActorPhaseReceipt} {mismatched uncommitted : String}
    (passes : receiptGate config world state key receipt mismatched uncommitted = none) :
    receipt.receiptKey = key ∧ key ∈ (world.core config).keys := by
  unfold receiptGate at passes
  split at passes
  · cases passes
  split at passes
  · cases passes
  · rename_i matching found
    rw [not_or, not_not, not_not] at matching
    rw [Bool.not_eq_false] at found
    exact ⟨matching.2, (hasReceipt_iff.mp found).2.2⟩

variable (own : state.runId = config.runId)
include own

theorem plan_inStep (first : state.executeRound = 0) :
    (plan config world state).InStep config (world.core config).persisted ⟨state, .plan⟩ := by
  unfold plan
  dsimp only
  split
  · rename_i found
    rw [own] at found
    refine ⟨rfl, GraphStep.recorded_of_key (fun _ _ => GraphStep.noConfusion) ?_, ?_⟩
    · exact (hasReceipt_iff.mp found).2.2
    · simp [nextNode, GraphCheckpoint.passed, openRounds, first]
  · rfl

theorem planReturned_inStep (first : state.executeRound = 0) (receipt : ActorPhaseReceipt) :
    (planReturned config world state receipt).InStep config (world.core config).persisted
      ⟨state, .plan⟩ := by
  unfold planReturned
  dsimp only
  split
  · trivial
  · rename_i passes
    have listed := (receiptGate_none passes).2
    rw [own] at listed
    refine ⟨rfl, GraphStep.recorded_of_key (fun _ _ => GraphStep.noConfusion) listed, ?_⟩
    simp [nextNode, GraphCheckpoint.passed, openRounds, first]

theorem executeReturned_inStep {result : ExecuteRoundResult}
    (flagged : Flagged (world.core config).persisted (.ok (.roundResult result))) :
    (executeReturned config world state result).InStep config (world.core config).persisted
      ⟨state, .execute⟩ := by
  unfold executeReturned
  split
  · trivial
  · rename_i passes
    have keyed := (receiptGate_none passes).1
    have flag := flagged result rfl ⟨_, keyed⟩
    rw [keyed, own] at flag
    refine ⟨rfl, GraphStep.recorded_of_flag flag, ?_⟩
    cases complete : result.complete with
    | true =>
      simp [nextNode, afterExecute, GraphCheckpoint.passed]
    | false =>
      simp [nextNode, afterExecute, GraphCheckpoint.passed, openRounds_succ]

theorem verify_inStep :
    (verify config world state).InStep config (world.core config).persisted ⟨state, .verify⟩ := by
  unfold verify
  dsimp only
  split
  · rename_i found
    rw [own] at found
    refine ⟨rfl, GraphStep.recorded_of_key (fun _ _ => GraphStep.noConfusion) ?_, ?_⟩
    · exact (hasReceipt_iff.mp found).2.2
    · simp [nextNode, GraphCheckpoint.passed]
  · rfl

theorem verifyReturned_inStep (receipt : ActorPhaseReceipt) :
    (verifyReturned config world state receipt).InStep config (world.core config).persisted
      ⟨state, .verify⟩ := by
  unfold verifyReturned
  dsimp only
  split
  · trivial
  · rename_i passes
    have listed := (receiptGate_none passes).2
    rw [own] at listed
    refine ⟨rfl, GraphStep.recorded_of_key (fun _ _ => GraphStep.noConfusion) listed, ?_⟩
    simp [nextNode, GraphCheckpoint.passed]

theorem report_inStep : (RunWorkflowGraph.report config world state).InStep config
    (world.core config).persisted ⟨state, .report⟩ := by
  unfold RunWorkflowGraph.report
  dsimp only
  split
  · rename_i found
    rw [own] at found
    refine ⟨rfl, GraphStep.recorded_of_key (fun _ _ => GraphStep.noConfusion) ?_, ?_⟩
    · exact (hasReceipt_iff.mp found).2.2
    · simp [nextNode, GraphCheckpoint.passed, wholeRun]
  · rfl

theorem reportReturned_inStep (receipt : ActorPhaseReceipt) :
    (reportReturned config world state receipt).InStep config (world.core config).persisted
      ⟨state, .report⟩ := by
  unfold reportReturned
  dsimp only
  split
  · trivial
  · rename_i passes
    have listed := (receiptGate_none passes).2
    rw [own] at listed
    refine ⟨rfl, GraphStep.recorded_of_key (fun _ _ => GraphStep.noConfusion) listed, ?_⟩
    simp [nextNode, GraphCheckpoint.passed, wholeRun]

end Nodes

/-! ## The system -/

/-- An invocation that is in step with the ledger: the steps before its checkpoint are those
before its origin and those that it has passed itself. -/
structure GraphInvocation.Follows (config : ActorConfig) (persisted : Option RuntimeSnapshot)
    (invocation : GraphInvocation) : Prop where
  reached : (GraphCheckpoint.mk invocation.state invocation.point.node).Reached config persisted
  visits : invocation.origin.passed ++ invocation.visited =
    (GraphCheckpoint.mk invocation.state invocation.point.node).passed

/-- The invariant of the graph over its actor. -/
structure GraphSound (config : ActorConfig) (system : GraphSystem) : Prop where
  actor : ActorSound config system.world
  sent : ∀ command ∈ system.sent, FromGraph command
  saved : ∀ checkpoint ∈ system.saved,
    checkpoint.Reached config (system.world.core config).persisted
  running : ∀ invocation, system.running = some invocation →
    invocation.Follows config (system.world.core config).persisted

section System

variable {config : ActorConfig} {system : GraphSystem} {invocation : GraphInvocation}

theorem GraphCheckpoint.Reached.grows {keys : List String} {core after : Core}
    {checkpoint : GraphCheckpoint} (reached : checkpoint.Reached config core.persisted)
    (grows : Grows config keys core after) : checkpoint.Reached config after.persisted :=
  ⟨reached.own, reached.first, fun step member => (reached.recorded step member).grows grows⟩

theorem GraphSound.around (sound : GraphSound config system) {input : Input}
    (admissible : Admissible system.world input) {sent : List WorkflowCommandMessage}
    (fewer : ∀ command ∈ sent, command ∈ system.sent) :
    GraphSound config
      { system with world := CodeMigrator.step config system.world input, sent := sent } := by
  obtain ⟨actor, keys, grows⟩ := sound.actor.step admissible
  refine ⟨actor, fun command member => sound.sent command (fewer command member), ?_, ?_⟩
  · exact fun checkpoint member => (sound.saved checkpoint member).grows grows
  · intro invocation running
    have follows := sound.running invocation running
    exact ⟨follows.reached.grows grows, follows.visits⟩

theorem GraphSound.follow (sound : GraphSound config system)
    (running : system.running = some invocation) {turn : GraphTurn}
    (inStep : turn.InStep config (system.world.core config).persisted
      ⟨invocation.state, invocation.point.node⟩) :
    GraphSound config (system.follow invocation turn) := by
  obtain ⟨reached, visits⟩ := sound.running invocation running
  -- a wait inside the node leaves the checkpoint as it is
  have waiting : ∀ point : GraphPoint, point.node = invocation.point.node →
      ({ invocation with point := point } : GraphInvocation).Follows config
        (system.world.core config).persisted := by
    intro point same
    refine ⟨?_, ?_⟩
    · show (GraphCheckpoint.mk invocation.state point.node).Reached config _
      rw [same]
      exact reached
    · show invocation.origin.passed ++ invocation.visited =
        (GraphCheckpoint.mk invocation.state point.node).passed
      rw [same]
      exact visits
  cases turn with
  | returns state visit =>
    obtain ⟨own, recorded, extended⟩ := inStep
    have next : (GraphCheckpoint.mk state (nextNode state invocation.point.node)).Reached config
        (system.world.core config).persisted := by
      refine ⟨own.trans reached.own, ?_, ?_⟩
      · exact fun plan => absurd plan (nextNode_ne_plan state _)
      · intro step member
        rw [extended] at member
        rcases List.mem_append.mp member with earlier | last
        · exact reached.recorded step earlier
        · rw [List.mem_singleton.mp last]
          exact recorded
    refine ⟨sound.actor, sound.sent, ?_, ?_⟩
    · intro checkpoint member
      rcases List.mem_append.mp member with earlier | last
      · exact sound.saved checkpoint earlier
      · rw [List.mem_singleton.mp last]
        exact next
    · rintro _ ⟨⟩
      refine ⟨next, ?_⟩
      show invocation.origin.passed ++ (invocation.visited ++ [visit]) = _
      rw [← List.append_assoc, visits]
      exact extended.symm
  | waits point =>
    refine ⟨sound.actor, sound.sent, sound.saved, ?_⟩
    rintro _ ⟨⟩
    exact waiting point inStep
  | sends point command =>
    obtain ⟨same, fromGraph⟩ := inStep
    refine ⟨sound.actor, ?_, sound.saved, ?_⟩
    · intro other member
      rcases List.mem_append.mp member with earlier | last
      · exact sound.sent other earlier
      · rw [List.mem_singleton.mp last]
        exact fromGraph
    · rintro _ ⟨⟩
      exact waiting point same
  | raises failure =>
    refine ⟨sound.actor, sound.sent, sound.saved, ?_⟩
    rintro _ ⟨⟩

theorem GraphSound.start (sound : GraphSound config system) (receipt : RunCreatedReceipt)
    {checkpoint : Option GraphCheckpoint}
    (known : ∀ found, checkpoint = some found → found ∈ system.saved) :
    GraphSound config (system.start config receipt checkpoint) := by
  unfold GraphSystem.start
  split
  · refine ⟨sound.actor, sound.sent, sound.saved, ?_⟩
    rintro _ ⟨⟩
  rename_i found
  rw [Bool.not_eq_false] at found
  cases checkpoint with
  | some checkpoint =>
    refine ⟨sound.actor, sound.sent, sound.saved, ?_⟩
    rintro _ ⟨⟩
    refine ⟨sound.saved checkpoint (known checkpoint rfl), ?_⟩
    exact List.append_nil _
  | none =>
    have begun : (GraphCheckpoint.mk (initial receipt) .plan).Reached config
        (system.world.core config).persisted := by
      refine ⟨(hasReceipt_iff.mp found).1, fun _ => rfl, ?_⟩
      exact fun step member => absurd member List.not_mem_nil
    refine ⟨sound.actor, sound.sent, ?_, ?_⟩
    · intro other member
      rcases List.mem_append.mp member with earlier | last
      · exact sound.saved other earlier
      · rw [List.mem_singleton.mp last]
        exact begun
    · rintro _ ⟨⟩
      exact ⟨begun, rfl⟩

theorem GraphSound.enter (sound : GraphSound config system)
    (running : system.running = some invocation) (response : Nat) :
    GraphSound config (system.enter config invocation response) := by
  obtain ⟨reached, -⟩ := sound.running invocation running
  have own : invocation.state.runId = config.runId := reached.own
  unfold GraphSystem.enter
  split
  · rename_i here
    rw [here] at reached
    refine sound.follow running ?_
    rw [here]
    exact plan_inStep own (reached.first rfl)
  · rename_i here
    refine sound.follow running ?_
    rw [here]
    exact ⟨rfl, ⟨_, rfl⟩⟩
  · rename_i here
    refine sound.follow running ?_
    rw [here]
    exact verify_inStep own
  · rename_i here
    refine sound.follow running ?_
    rw [here]
    exact report_inStep own
  · exact sound

theorem World.answer?_eq_some {world : World} {response : Nat}
    {outcome : Except RuntimeFailure Reply} (found : world.answer? response = some outcome) :
    ∃ entry ∈ world.replies, entry.2 = outcome := by
  obtain ⟨entry, listed, same⟩ := Option.map_eq_some_iff.mp found
  exact ⟨entry, List.mem_of_find?_eq_some listed, same⟩

theorem GraphSound.answered (sound : GraphSound config system)
    (running : system.running = some invocation) :
    GraphSound config (system.answered config invocation) := by
  have own : invocation.state.runId = config.runId := (sound.running invocation running).reached.own
  unfold GraphSystem.answered
  split
  · rename_i response here
    split
    · exact sound
    · rename_i result found
      obtain ⟨entry, listed, same⟩ := World.answer?_eq_some found
      have flagged := sound.actor.flags entry listed
      rw [same] at flagged
      refine sound.follow running ?_
      rw [here]
      exact executeReturned_inStep own flagged
    · exact sound.follow running trivial
    · exact sound.follow running trivial
  · rename_i response here
    split
    · exact sound
    · refine sound.follow running ?_
      rw [here]
      exact verifyReturned_inStep own _
    · exact sound.follow running trivial
    · exact sound.follow running trivial
  · rename_i response here
    split
    · exact sound
    · refine sound.follow running ?_
      rw [here]
      exact reportReturned_inStep own _
    · exact sound.follow running trivial
    · exact sound.follow running trivial
  · exact sound

theorem GraphSound.step (sound : GraphSound config system) {move : GraphMove}
    (allowed : GraphAllowed system move) : GraphSound config (GraphSystem.step config system move) := by
  -- a turn of the invocation that is running
  have turns : ∀ next : GraphSystem, (system.running = none → next = system) →
      (∀ invocation, system.running = some invocation → GraphSound config next) →
      GraphSound config next := by
    intro next idle turn
    cases running : system.running with
    | none =>
      rw [idle running]
      exact sound
    | some invocation => exact turn invocation running
  cases move with
  | around input =>
    refine sound.around ?_ fun command member => member
    cases input with
    | message message around =>
      cases message with
      | workflow command => exact .of_owner sound.actor.filed sound.actor.tasks allowed
      | executionRoundFinished logicalKey decision error =>
        exact ⟨allowed, fun _ _ impossible => by cases impossible⟩
      | _ => exact ⟨trivial, fun _ _ impossible => by cases impossible⟩
    | _ => exact ⟨trivial, fun _ _ impossible => by cases impossible⟩
  | deliver index around =>
    simp only [GraphSystem.step, GraphSystem.deliver]
    split
    · exact sound
    · rename_i command found
      have admissible : Admissible system.world (.message (.workflow command) around) :=
        .of_graph sound.actor.tasks (sound.sent command (List.mem_of_getElem? found))
      exact sound.around admissible fun other member => List.mem_of_mem_eraseIdx member
  | start receipt checkpoint =>
    refine sound.start receipt ?_
    rintro found rfl
    exact allowed
  | enter response =>
    refine turns _ (fun idle => by simp only [GraphSystem.step, idle]) fun invocation running => ?_
    simp only [GraphSystem.step, running]
    exact sound.enter running response
  | answered =>
    refine turns _ (fun idle => by simp only [GraphSystem.step, idle]) fun invocation running => ?_
    simp only [GraphSystem.step, running]
    exact sound.answered running
  | planned receipt =>
    refine turns _ (fun idle => by simp only [GraphSystem.step, idle]) fun invocation running => ?_
    simp only [GraphSystem.step, running]
    obtain ⟨reached, -⟩ := sound.running invocation running
    cases here : invocation.point with
    | planning =>
      rw [here] at reached
      refine sound.follow running ?_
      rw [here]
      exact planReturned_inStep reached.own (reached.first rfl) receipt
    | _ => exact sound
  | verified result response =>
    refine turns _ (fun idle => by simp only [GraphSystem.step, idle]) fun invocation running => ?_
    simp only [GraphSystem.step, running]
    cases here : invocation.point with
    | verifying =>
      refine sound.follow running ?_
      rw [here]
      exact ⟨rfl, ⟨_, rfl⟩⟩
    | _ => exact sound
  | reported result response =>
    refine turns _ (fun idle => by simp only [GraphSystem.step, idle]) fun invocation running => ?_
    simp only [GraphSystem.step, running]
    cases here : invocation.point with
    | reporting =>
      refine sound.follow running ?_
      rw [here]
      exact ⟨rfl, ⟨_, rfl⟩⟩
    | _ => exact sound
  | stop =>
    refine ⟨sound.actor, sound.sent, sound.saved, ?_⟩
    rintro _ ⟨⟩

end System

/-! ## Replay -/

/-- The key of the step that an invocation before a node comes to. -/
def GraphInvocation.nextKey? (invocation : GraphInvocation) : Option String :=
  let state := invocation.state
  match invocation.point with
  | .entry .plan => some (planKey state.runId)
  | .entry .execute => some (roundKey state.runId state.executeRound)
  | .entry .verify => some (verifyKey state.runId)
  | .entry .report => some (reportKey state.runId)
  | _ => none

/-- The moves of one step of a graph that is left alone, with the new future `response`: the
node begins, the actor handles what the node has sent, and the node takes the answer. -/
def undisturbed (system : GraphSystem) (response : Nat) (around : Surroundings) : List GraphMove :=
  [.enter response, .deliver system.sent.length around, .answered]

/-- The invocation has passed one step more, and the actor and its ledger are unchanged. -/
def Passes (config : ActorConfig) (system after : GraphSystem) (invocation : GraphInvocation)
    (step : GraphStep) : Prop :=
  after.world.core config = system.world.core config ∧ ∃ state, after.running =
    some ⟨invocation.origin, state, .entry (nextNode state invocation.point.node),
      invocation.visited ++ [step]⟩

/-- A graph that is left alone passes the step that comes next, with the flag of the ledger. -/
def PassesNext (config : ActorConfig) (system : GraphSystem) (invocation : GraphInvocation) : Prop :=
  ∀ response around, (∀ entry ∈ system.world.replies, entry.1 ≠ response) →
    ∃ step : GraphStep, invocation.nextKey? = some (step.key config.runId) ∧
      step.Recorded (system.world.core config).persisted config.runId ∧
      Passes config system
        (runFrom (GraphSystem.step config) system (undisturbed system response around)) invocation step

/-- Replay converges: the receipts of all steps before a saved checkpoint are in the ledger;
what an invocation has passed, with the steps before its origin, is the beginning of one
sequence, recorded with its flags, and the whole of it at the end; and a next step with a
receipt is passed. -/
structure GraphConverges (config : ActorConfig) (system : GraphSystem) : Prop where
  unique : ∀ snapshot, (system.world.core config).persisted = some snapshot →
    (receiptKeys snapshot.events).Nodup
  saved : ∀ checkpoint ∈ system.saved, ∀ step ∈ checkpoint.passed,
    step.Recorded (system.world.core config).persisted config.runId
  visited : ∀ invocation, system.running = some invocation →
    (∀ step ∈ invocation.origin.passed ++ invocation.visited,
      step.Recorded (system.world.core config).persisted config.runId) ∧
    ∃ last, invocation.origin.passed ++ invocation.visited <+: wholeRun last ∧
      (invocation.point = .entry .finish →
        invocation.origin.passed ++ invocation.visited = wholeRun last)
  replays : ∀ invocation key, system.running = some invocation → invocation.nextKey? = some key →
    key ∈ (system.world.core config).keys → PassesNext config system invocation

/-- The graph writes nothing itself, and the actor writes nothing for a command of the graph
whose receipt is in the ledger. -/
def GraphQuiet (config : ActorConfig) (system : GraphSystem) : GraphMove → Prop
  | .around _ => True
  | .deliver index around => ∀ command, system.sent[index]? = some command →
      command.logicalKey ∈ (system.world.core config).keys →
      (GraphSystem.step config system (.deliver index around)).world.core config =
        system.world.core config
  | move => (GraphSystem.step config system move).world = system.world

section Replay

variable {config : ActorConfig} {system : GraphSystem} {invocation : GraphInvocation}
  {response : Nat}

theorem GraphCheckpoint.passed_wholeRun (checkpoint : GraphCheckpoint) :
    ∃ last, checkpoint.passed <+: wholeRun last ∧
      (checkpoint.next = .finish → checkpoint.passed = wholeRun last) := by
  obtain ⟨state, next⟩ := checkpoint
  cases next with
  | plan => exact ⟨0, List.nil_prefix, fun impossible => by cases impossible⟩
  | execute =>
    refine ⟨state.executeRound, ?_, fun impossible => by cases impossible⟩
    exact List.cons_prefix_cons.mpr ⟨rfl, List.prefix_append _ _⟩
  | verify =>
    refine ⟨state.executeRound - 1, ?_, fun impossible => by cases impossible⟩
    refine List.cons_prefix_cons.mpr ⟨rfl, (List.prefix_append_right_inj _).mpr ?_⟩
    exact List.cons_prefix_cons.mpr ⟨rfl, List.nil_prefix⟩
  | report =>
    refine ⟨state.executeRound - 1, ?_, fun impossible => by cases impossible⟩
    refine List.cons_prefix_cons.mpr ⟨rfl, (List.prefix_append_right_inj _).mpr ?_⟩
    exact List.prefix_append [GraphStep.round _ true, .verify] [.report]
  | finish => exact ⟨state.executeRound - 1, List.prefix_refl _, fun _ => rfl⟩

theorem runFrom_undisturbed (response : Nat) (around : Surroundings) :
    runFrom (GraphSystem.step config) system (undisturbed system response around) =
      GraphSystem.step config (GraphSystem.step config
        (GraphSystem.step config system (.enter response))
        (.deliver system.sent.length around)) .answered := rfl

theorem passes_at_once {around : Surroundings} {state : GraphState} {visit : GraphStep}
    (entered : GraphSystem.step config system (.enter response) =
      system.follow invocation (.returns state visit)) :
    Passes config system
      (runFrom (GraphSystem.step config) system (undisturbed system response around)) invocation
      visit := by
  have handled : GraphSystem.step config (GraphSystem.step config system (.enter response))
      (.deliver system.sent.length around) = GraphSystem.step config system (.enter response) := by
    rw [entered]
    simp only [GraphSystem.step, GraphSystem.deliver, GraphSystem.follow, List.getElem?_length]
  have answered : GraphSystem.step config (GraphSystem.step config system (.enter response))
      .answered = GraphSystem.step config system (.enter response) := by
    rw [entered]
    rfl
  rw [runFrom_undisturbed, handled, answered, entered]
  exact ⟨rfl, state, rfl⟩

theorem recorded_round_answer {world : World} {key : String} {around : Surroundings}
    (coherent : Coherent config (world.core config)) (named : key ≠ "")
    (recorded : key ∈ (world.core config).keys)
    (fresh : ∀ entry ∈ world.replies, entry.1 ≠ response) :
    ∃ receipt complete, (receipt.runId = config.runId ∧ receipt.receiptKey = key) ∧
      (turn config around world (.workflow ⟨config.runId, key, .executeRound, response⟩)).answer?
          response = some (.ok (.roundResult ⟨receipt, complete⟩)) := by
  have unanswered : world.replies.any (fun entry => entry.1 = response) = false := by
    rw [List.any_eq_false]
    intro entry member same
    exact fresh entry member (of_decide_eq_true same)
  have missing : world.replies.find? (fun entry => entry.1 = response) = none := by
    rw [List.find?_eq_none]
    intro entry member same
    exact fresh entry member (of_decide_eq_true same)
  cases found : eventForReceipt (world.store.load config.runId) key with
  | none =>
    cases stored : world.store.load config.runId with
    | none =>
      rw [Core.keys_of_absent stored] at recorded
      cases recorded
    | some snapshot =>
      rw [stored] at found
      exact absurd recorded (unused_of_missing stored found)
  | some event =>
    have isValid : key ≠ "" ∧ 1 ≤ event.sequence := by
      cases stored : world.store.load config.runId with
      | none =>
        rw [stored] at found
        cases found
      | some snapshot =>
        rw [stored] at found
        exact ⟨named, coherent.sequenced snapshot stored event (eventForReceipt_eq_some found).1⟩
    refine ⟨⟨config.runId, key, event.sequence, isValid⟩,
      Json.field? event.data "complete" == some (.bool true), ⟨rfl, rfl⟩, ?_⟩
    simp [CodeMigrator.turn, handle, handleWorkflowCommand, found, replayCommand, actorPhaseReceipt,
      isValid, WorkflowPayload.kind, World.reply, unanswered, World.answer?, missing, World.done]

theorem executeReturned_recorded {world : World} {state : GraphState}
    (own : state.runId = config.runId)
    (found : hasReceipt config world config.runId (roundKey config.runId state.executeRound) = true)
    {receipt : ActorPhaseReceipt}
    (keyed : receipt.runId = config.runId ∧
      receipt.receiptKey = roundKey config.runId state.executeRound) (complete : Bool) :
    ∃ after, executeReturned config world state ⟨receipt, complete⟩ =
      .returns after (.round state.executeRound complete) := by
  unfold executeReturned receiptGate
  rw [own, if_neg (by simp [keyed]), if_neg (by simp [found])]
  exact ⟨_, rfl⟩

theorem passes_round (coherent : Coherent config (system.world.core config))
    (running : system.running = some invocation) (here : invocation.point = .entry .execute)
    (own : invocation.state.runId = config.runId)
    (recorded : roundKey config.runId invocation.state.executeRound ∈
      (system.world.core config).keys) {around : Surroundings}
    (fresh : ∀ entry ∈ system.world.replies, entry.1 ≠ response) :
    ∃ complete, Passes config system
      (runFrom (GraphSystem.step config) system (undisturbed system response around)) invocation
      (.round invocation.state.executeRound complete) := by
  have named : roundKey config.runId invocation.state.executeRound ≠ "" :=
    KeyOf.ne_empty ⟨_, rfl⟩ (by decide)
  obtain ⟨receipt, complete, keyed, answer⟩ :
      ∃ receipt complete, (receipt.runId = config.runId ∧
          receipt.receiptKey = roundKey config.runId invocation.state.executeRound) ∧
        (turn config around system.world (.workflow ⟨config.runId, roundKey config.runId
          invocation.state.executeRound, .executeRound, response⟩)).answer? response =
          some (.ok (.roundResult ⟨receipt, complete⟩)) :=
    recorded_round_answer coherent named recorded fresh
  generalize written : WorkflowCommandMessage.mk config.runId (roundKey config.runId
    invocation.state.executeRound) .executeRound response = command at answer
  have core : (turn config around system.world (.workflow command)).core config =
      system.world.core config := by
    refine recorded_command_core ?_
    rw [← written]
    exact recorded
  have found : hasReceipt config (turn config around system.world (.workflow command)) config.runId
      (roundKey config.runId invocation.state.executeRound) = true := by
    refine hasReceipt_iff.mpr ⟨rfl, named, ?_⟩
    rw [core]
    exact recorded
  have entered : GraphSystem.step config system (.enter response) =
      { system with
        sent := system.sent ++ [command]
        running := some { invocation with point := .round response } } := by
    simp only [GraphSystem.step, running, GraphSystem.enter, here, GraphSystem.follow, execute, own,
      written]
  have delivered : ∀ waiting : GraphInvocation,
      GraphSystem.step config
        { system with sent := system.sent ++ [command], running := some waiting }
        (.deliver system.sent.length around) =
      { system with
        world := turn config around system.world (.workflow command)
        sent := (system.sent ++ [command]).eraseIdx system.sent.length
        running := some waiting } := by
    intro waiting
    simp only [GraphSystem.step, GraphSystem.deliver, List.getElem?_concat_length]
  obtain ⟨state, returned⟩ := executeReturned_recorded own found keyed complete
  rw [runFrom_undisturbed, entered, delivered]
  simp only [GraphSystem.step, GraphSystem.answered, answer, returned, GraphSystem.follow,
    GraphPoint.node]
  refine ⟨complete, core, state, ?_⟩
  rw [here]
  rfl

theorem GraphSound.recorded (sound : GraphSound config system)
    (running : system.running = some invocation) {step : GraphStep}
    (passed : step ∈ invocation.origin.passed ++ invocation.visited) :
    step.Recorded (system.world.core config).persisted config.runId := by
  obtain ⟨reached, visits⟩ := sound.running invocation running
  rw [visits] at passed
  exact reached.recorded step passed

theorem GraphSound.passesNext (sound : GraphSound config system)
    (running : system.running = some invocation) {key : String}
    (next : invocation.nextKey? = some key) (listed : key ∈ (system.world.core config).keys) :
    PassesNext config system invocation := by
  intro response around fresh
  have own : invocation.state.runId = config.runId := (sound.running invocation running).reached.own
  -- the step that is passed is recorded, since the moves keep the invariant
  have settled : ∀ step : GraphStep, key = step.key config.runId →
      Passes config system
        (runFrom (GraphSystem.step config) system (undisturbed system response around)) invocation
        step →
      ∃ step : GraphStep, invocation.nextKey? = some (step.key config.runId) ∧
        step.Recorded (system.world.core config).persisted config.runId ∧
        Passes config system
          (runFrom (GraphSystem.step config) system (undisturbed system response around)) invocation
          step := by
    intro step named passed
    obtain ⟨core, state, after⟩ := passed
    refine ⟨step, next.trans (congrArg some named), ?_, core, state, after⟩
    have kept : GraphSound config
        (runFrom (GraphSystem.step config) system (undisturbed system response around)) := by
      have entered : GraphSound config (GraphSystem.step config system (.enter response)) :=
        sound.step trivial
      have delivered : GraphSound config
          (GraphSystem.step config (GraphSystem.step config system (.enter response))
            (.deliver system.sent.length around)) := entered.step trivial
      rw [runFrom_undisturbed]
      exact delivered.step trivial
    rw [← core]
    exact kept.recorded after (by simp)
  -- a node that reads its receipt returns at once
  have read : ∀ node : GraphState → GraphTurn, ∀ step : GraphStep, key = step.key config.runId →
      GraphSystem.step config system (.enter response) =
        system.follow invocation (node invocation.state) →
      (∃ after, node invocation.state = .returns after step) →
      ∃ step : GraphStep, invocation.nextKey? = some (step.key config.runId) ∧
        step.Recorded (system.world.core config).persisted config.runId ∧
        Passes config system
          (runFrom (GraphSystem.step config) system (undisturbed system response around)) invocation
          step := by
    intro node step named entered returned
    obtain ⟨after, same⟩ := returned
    rw [same] at entered
    exact settled step named (passes_at_once entered)
  have receipt : key ≠ "" → hasReceipt config system.world invocation.state.runId key = true :=
    fun named => hasReceipt_iff.mpr ⟨own, named, listed⟩
  unfold GraphInvocation.nextKey? at next
  dsimp only at next
  split at next
  · rename_i here
    cases next
    have found := receipt (KeyOf.ne_empty ⟨_, rfl⟩ (by decide))
    refine read (plan config system.world) .plan (congrArg planKey own) ?_ ⟨_, if_pos found⟩
    simp only [GraphSystem.step, running, GraphSystem.enter, here]
  · rename_i here
    cases next
    rw [own] at listed
    obtain ⟨complete, passed⟩ := passes_round sound.actor.once.coherent running here own listed fresh
    refine settled _ ?_ passed
    rw [own]
    rfl
  · rename_i here
    cases next
    have found := receipt (KeyOf.ne_empty ⟨_, rfl⟩ (by decide))
    refine read (verify config system.world) .verify (congrArg verifyKey own) ?_ ⟨_, if_pos found⟩
    simp only [GraphSystem.step, running, GraphSystem.enter, here]
  · rename_i here
    cases next
    have found := receipt (KeyOf.ne_empty ⟨_, rfl⟩ (by decide))
    refine read (RunWorkflowGraph.report config system.world) .report (congrArg reportKey own) ?_
      ⟨_, if_pos found⟩
    simp only [GraphSystem.step, running, GraphSystem.enter, here]
  · cases next

theorem GraphSound.converges (sound : GraphSound config system) : GraphConverges config system where
  unique := by
    intro snapshot stored
    rw [← Core.keys_of_persisted stored]
    exact sound.actor.once.unique
  saved := fun checkpoint member => (sound.saved checkpoint member).recorded
  visited := by
    intro invocation running
    refine ⟨fun step passed => sound.recorded running passed, ?_⟩
    obtain ⟨last, begun, ended⟩ :=
      (GraphCheckpoint.mk invocation.state invocation.point.node).passed_wholeRun
    refine ⟨last, ?_, ?_⟩
    · rw [(sound.running invocation running).visits]
      exact begun
    · intro finished
      rw [(sound.running invocation running).visits]
      refine ended ?_
      rw [finished]
      rfl
  replays := fun invocation key running next listed => sound.passesNext running next listed

@[simp] theorem GraphSystem.world_follow (turn : GraphTurn) :
    (system.follow invocation turn).world = system.world := by
  cases turn with
  | _ => rfl

@[simp] theorem GraphSystem.world_enter (response : Nat) :
    (system.enter config invocation response).world = system.world := by
  unfold GraphSystem.enter
  split
  all_goals simp only [GraphSystem.world_follow]

@[simp] theorem GraphSystem.world_answered :
    (system.answered config invocation).world = system.world := by
  unfold GraphSystem.answered
  repeat' split
  all_goals simp only [GraphSystem.world_follow]

@[simp] theorem GraphSystem.world_start (receipt : RunCreatedReceipt)
    (checkpoint : Option GraphCheckpoint) :
    (system.start config receipt checkpoint).world = system.world := by
  unfold GraphSystem.start
  repeat' split
  all_goals rfl

theorem graph_quiet (config : ActorConfig) (system : GraphSystem) (move : GraphMove) :
    GraphQuiet config system move := by
  cases move with
  | around input => trivial
  | deliver index around =>
    intro command found listed
    simp only [GraphSystem.step, GraphSystem.deliver, found]
    exact recorded_command_core listed
  | start receipt checkpoint => exact GraphSystem.world_start receipt checkpoint
  | stop => rfl
  | _ =>
    simp only [GraphQuiet, GraphSystem.step]
    repeat' split
    all_goals simp only [GraphSystem.world_follow, GraphSystem.world_enter,
      GraphSystem.world_answered]

/-- The graph over a world in which the Run does not exist yet. -/
def GraphSystem.over (world : World) : GraphSystem := ⟨world, [], [], none, none⟩

/-- Graph replay converges: however often the graph is stopped and started again, from any
saved checkpoint or from none, its invocations pass the steps of one sequence (the plan, the
rounds up to the first complete one, the verification, the report) whose receipts are in the
ledger with the same flags; a step with a receipt is passed without a change, and only such
steps are behind a checkpoint. -/
theorem graph_replay_converges {world : World} (fresh : Fresh config world)
    (filed : Filed (world.core config)) (unanswered : world.replies = [])
    (idle : world.actor.executionRoundTasks = []) {moves : List GraphMove}
    (allowed : Along (GraphSystem.step config) GraphAllowed (.over world) moves) :
    Always (GraphSystem.step config) (GraphConverges config) (.over world) moves ∧
      Along (GraphSystem.step config) (GraphQuiet config) (.over world) moves := by
  have start : GraphSound config (.over world) := by
    refine ⟨⟨fresh.onceSound unanswered idle, filed, ?_, ?_⟩, ?_, ?_, ?_⟩
    · intro task member
      have running : task ∈ world.actor.executionRoundTasks := member
      rw [idle] at running
      cases running
    · intro entry member
      have answered : entry ∈ world.replies := member
      rw [unanswered] at answered
      cases answered
    · exact fun command member => absurd member List.not_mem_nil
    · exact fun checkpoint member => absurd member List.not_mem_nil
    · rintro _ ⟨⟩
  have keeps : ∀ system move, GraphSound config system → GraphAllowed system move →
      GraphSound config (GraphSystem.step config system move) :=
    fun system move sound allowed => sound.step allowed
  refine ⟨?_, ?_⟩
  · intro earlier rest split
    exact (always_of_along (GraphSound config) keeps start allowed earlier rest split).converges
  · exact along_of_along (GraphSound config) keeps
      (fun system move _ _ => graph_quiet config system move) start allowed

end Replay

namespace SampleRun

def runCreated : RunCreatedReceipt := ⟨runId, "run.created:" ++ runId.str, 1, 1, ⟨rfl, rfl⟩, rfl⟩

/-- The graph is stopped in the planner, which commits the plan nevertheless, and in round 0,
which ends without it. It is started again from its first checkpoint and without one, and
passes both. -/
def interruptedGraph : List GraphMove :=
  (toVerification.take 2).map .around ++
    [.start runCreated none, .enter 10, .around toVerification[2], .stop, .around toVerification[3],
      .start runCreated (some ⟨initial runCreated, .plan⟩), .enter 11, .enter 12, .deliver 0 calm,
      .stop, .around toVerification[5], .start runCreated none, .enter 13, .enter 14,
      .deliver 0 calm, .answered]

end SampleRun

open SampleRun in
theorem graph_replay_converges_interrupted :
    ((runFrom (GraphSystem.step config) (.over start) interruptedGraph).running.map
          fun invocation => (invocation.point, invocation.visited)) =
        some (.entry .verify, [.plan, .round 0 true]) ∧
      Always (GraphSystem.step config) (GraphConverges config) (.over start) interruptedGraph ∧
      Along (GraphSystem.step config) (GraphQuiet config) (.over start) interruptedGraph :=
  ⟨by decide +kernel, graph_replay_converges start_fresh (fun _ _ found => by cases found) rfl rfl
    (by decide +kernel)⟩

end CodeMigrator
