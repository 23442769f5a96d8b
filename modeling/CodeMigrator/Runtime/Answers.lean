import CodeMigrator.Runtime.Receipts

/-!
# Answers to commands

What the handlers do to the futures and to the running execution rounds: a successful
answer to a command is given under the command's own key, and a receipt in it names an
event of the ledger.
-/

namespace CodeMigrator
open Lib

/-- The receipt of an answer. -/
def Reply.receipt? : Reply → Option ActorPhaseReceipt
  | phaseReceipt receipt => some receipt
  | roundResult result => some result.receipt
  | _ => none

/-- The logical key of the command that an answer is for. -/
def Reply.key? : Reply → Option String
  | phaseReceipt receipt => some receipt.receiptKey
  | roundResult result => some result.receipt.receiptKey
  | intent stored => some ("integration.intent:" ++ stored.idempotencyKey)
  | state _ => none

/-- The ledger has the event of the receipt. -/
def NamesEvent (persisted : Option RuntimeSnapshot) (receipt : ActorPhaseReceipt) : Prop :=
  ∃ snapshot, persisted = some snapshot ∧ ∃ event ∈ snapshot.events,
    receiptKey? event.data = some receipt.receiptKey ∧ event.sequence = receipt.eventSequence

/-- A successful answer is under the given key, and its receipt names an event. -/
def Answers (key : Option String) (persisted : Option RuntimeSnapshot)
    (outcome : Except RuntimeFailure Reply) : Prop :=
  ∀ reply, outcome = .ok reply → (∀ own, reply.key? = some own → key = some own) ∧
    ∀ receipt, reply.receipt? = some receipt → NamesEvent persisted receipt

/-- What a handler does to the running rounds and to the answers: it may open the round
`opens`, and what it answers successfully is under `key`. -/
structure Sides (opens key : Option String) (persisted : Option RuntimeSnapshot)
    (world after : World) : Prop where
  tasks : ∀ task ∈ after.actor.executionRoundTasks,
    task ∈ world.actor.executionRoundTasks ∨ opens = some task
  replies : ∀ entry ∈ after.replies, entry ∈ world.replies ∨ Answers key persisted entry.2

section Sides

variable {opens key : Option String} {persisted : Option RuntimeSnapshot}
  {world between after : World} {outcome : Except RuntimeFailure Reply}

theorem Answers.error (failure : RuntimeFailure) : Answers key persisted (.error failure) := by
  intro reply impossible
  cases impossible

theorem Answers.state (next : RunState) : Answers key persisted (.ok (.state next)) := by
  rintro reply ⟨⟩
  refine ⟨?_, ?_⟩
  · intro own found
    cases found
  · intro receipt found
    cases found

theorem Answers.receipt {snapshot : RuntimeSnapshot} {own : String} {event : RuntimeEvent}
    (stored : persisted = some snapshot) (found : eventForReceipt (some snapshot) own = some event)
    {runId : RunId} {receipt : ActorPhaseReceipt}
    (made : actorPhaseReceipt runId own event.sequence = .ok receipt) {reply : Reply}
    (carries : reply = .phaseReceipt receipt ∨ ∃ complete, reply = .roundResult ⟨receipt, complete⟩) :
    Answers (some own) persisted (.ok reply) := by
  obtain ⟨listed, keyed⟩ := eventForReceipt_eq_some found
  obtain ⟨rfl, sequence⟩ := actorPhaseReceipt_ok made
  have names : NamesEvent persisted receipt :=
    ⟨snapshot, stored, event, listed, keyed, sequence.symm⟩
  rintro _ ⟨⟩
  rcases carries with rfl | ⟨complete, rfl⟩
  all_goals
    refine ⟨?_, ?_⟩
    · rintro _ ⟨⟩
      rfl
    · rintro _ ⟨⟩
      exact names

/-- The rounds that are running and the answers given. -/
def World.desk (world : World) : List String × List (Nat × Except RuntimeFailure Reply) :=
  (world.actor.executionRoundTasks, world.replies)

theorem Sides.of_desk (same : after.desk = world.desk) : Sides opens key persisted world after := by
  simp only [World.desk, Prod.mk.injEq] at same
  refine ⟨?_, ?_⟩
  · intro task member
    rw [same.1] at member
    exact .inl member
  · intro entry member
    rw [same.2] at member
    exact .inl member

theorem Sides.trans (first : Sides opens key persisted world between)
    (second : Sides opens key persisted between after) : Sides opens key persisted world after := by
  refine ⟨?_, ?_⟩
  · intro task member
    rcases second.tasks task member with earlier | opened
    · exact first.tasks task earlier
    · exact .inr opened
  · intro entry member
    rcases second.replies entry member with earlier | answered
    · exact first.replies entry earlier
    · exact .inr answered

theorem Sides.reply (world : World) (response : Nat) (answers : Answers key persisted outcome) :
    Sides opens key persisted world (world.reply response outcome) := by
  unfold World.reply
  split
  · exact .of_desk rfl
  · refine ⟨fun task member => .inl member, ?_⟩
    intro entry member
    rcases List.mem_append.mp member with earlier | added
    · exact .inl earlier
    · rw [List.mem_singleton.mp added]
      exact .inr answers

theorem Sides.replyTo (world : World) (response : Option Nat)
    (answers : Answers key persisted outcome) :
    Sides opens key persisted world (world.replyTo response outcome) := by
  cases response with
  | none => exact .of_desk rfl
  | some response => exact .reply world response answers

variable (around : Surroundings)

@[simp] theorem desk_commit (state : RunState) (events : List EventSpec) :
    (commit around world state events).1.desk = world.desk := by
  unfold commit
  split
  · rfl
  · rfl

@[simp] theorem desk_callPort (present : Bool) (call : PortCall) :
    (world.callPort around present call).desk = world.desk := by
  unfold World.callPort
  repeat' split
  all_goals rfl

theorem desk_of_commit {state : RunState} {events : List EventSpec} {committed : Bool}
    (equal : commit around world state events = (after, committed)) : after.desk = world.desk := by
  have kept : (commit around world state events).1.desk = world.desk := desk_commit around state events
  rw [equal] at kept
  exact kept

theorem Sides.finish (world : World) (logicalKey : String)
    {outcome : Except RuntimeFailure ExecuteRoundResult}
    (answers : Answers key persisted (outcome.map .roundResult)) :
    Sides opens key persisted world (finishExecutionRound world logicalKey outcome) ∧
      logicalKey ∉ (finishExecutionRound world logicalKey outcome).actor.executionRoundTasks := by
  have answered : ∀ (responses : List Nat) (start : World),
      Sides opens key persisted start (responses.foldl
        (fun world response => world.reply response (outcome.map .roundResult)) start) ∧
      (responses.foldl (fun world response => world.reply response (outcome.map .roundResult))
        start).actor = start.actor := by
    intro responses
    induction responses with
    | nil => exact fun start => ⟨.of_desk rfl, rfl⟩
    | cons response responses ih =>
      intro start
      obtain ⟨sides, actor⟩ := ih (start.reply response (outcome.map .roundResult))
      have kept : (start.reply response (outcome.map .roundResult)).actor = start.actor := by
        unfold World.reply
        split
        · rfl
        · rfl
      rw [List.foldl_cons]
      exact ⟨(Sides.reply start response answers).trans sides, actor.trans kept⟩
  have closed : Sides opens key persisted world { world with actor := { world.actor with
      executionRoundResponses := world.actor.executionRoundResponses.erase logicalKey
      executionRoundTasks := world.actor.executionRoundTasks.filter (· ≠ logicalKey) } } := by
    refine ⟨?_, fun entry member => .inl member⟩
    intro task member
    exact .inl (List.mem_filter.mp member).1
  obtain ⟨sides, actor⟩ := answered ((world.actor.executionRoundResponses.get? logicalKey).getD [])
    { world with actor := { world.actor with
      executionRoundResponses := world.actor.executionRoundResponses.erase logicalKey
      executionRoundTasks := world.actor.executionRoundTasks.filter (· ≠ logicalKey) } }
  refine ⟨closed.trans sides, ?_⟩
  unfold finishExecutionRound
  rw [actor]
  simp

theorem Sides.report (world : World) (message : RuntimeMessage) (failure : RuntimeFailure) :
    Sides opens key persisted world (CodeMigrator.report world message failure) := by
  have noted : Sides opens key persisted world (world.setLastError failure) := .of_desk rfl
  unfold CodeMigrator.report
  cases message with
  | workflow command => exact noted.trans (.reply _ _ (.error failure))
  | cancel expectedVersion response => exact noted.trans (.replyTo _ _ (.error failure))
  | executionRoundFinished logicalKey decision error =>
    exact noted.trans (Sides.finish _ logicalKey (.error failure)).1
  | _ => exact noted

end Sides

/-! ## Handlers -/

section Handlers

variable {config : ActorConfig} {world : World} (around : Surroundings)

theorem handle_sides {message : RuntimeMessage} (unkeyed : message.isUnkeyed = true)
    (persisted : Option RuntimeSnapshot) :
    Sides none none persisted world (handle config around world message).1 := by
  cases message with
  | create runId createRun transaction =>
    simp only [handle, handleCreate]
    repeat' split
    all_goals exact .of_desk rfl
  | cancel expectedVersion response =>
    simp only [handle, handleCancel]
    split
    · exact .replyTo _ _ (.error _)
    split
    · exact .replyTo _ _ (.error _)
    split
    · exact .replyTo _ _ (.error _)
    split
    · rename_i after equal
      have kept := desk_of_commit around equal
      refine Sides.trans ?_ (.replyTo _ _ (.state _))
      exact .of_desk ((desk_callPort around _ _).trans kept)
    · rename_i after equal
      exact Sides.trans (.of_desk (desk_of_commit around equal)) (.replyTo _ _ (.error _))
  | sessionInput kind payload =>
    simp only [handle, handleSessionInput, handleAdviceConfirmation, handleSegmentStopped]
    repeat' split
    all_goals exact .of_desk (by simp only [World.done, desk_callPort, desk_commit])
  | budget inputTokens outputTokens costMicros =>
    simp only [handle, handleBudget]
    repeat' split
    all_goals exact .of_desk (by simp only [World.done, World.raise, desk_callPort, desk_commit])
  | recovery trigger activeDispatchIds missingIntentIds checkpointCorrupt refDrift =>
    simp only [handle, handleRecovery]
    repeat' split
    all_goals exact .of_desk (by simp only [World.done, World.raise, desk_commit])
  | advice advice =>
    simp only [handle, handleAdvice]
    repeat' split
    all_goals exact .of_desk (by simp only [World.done, World.raise, desk_callPort, desk_commit])
  | executionReceipt => cases unkeyed
  | workflow => cases unkeyed
  | executionRoundFinished => cases unkeyed

theorem handleExecution_sides (persisted : Option RuntimeSnapshot) (runId : RunId)
    (dispatch : ActiveDispatch) (resultStatus : Option String) (started : Bool) :
    Sides none none persisted world
      (handleExecution config around world runId dispatch resultStatus started).1 := by
  have kept : ∀ next events accepted,
      ((commit around world next events).1.setAcceptance accepted).desk = world.desk := by
    intro next events accepted
    exact desk_commit around next events
  simp only [handleExecution, startDispatch, finishDispatch]
  repeat' split
  all_goals first
    | exact .of_desk rfl
    | exact .of_desk (kept _ _ _)

theorem store_reply (after : World) (response : Nat) (outcome : Except RuntimeFailure Reply) :
    (after.reply response outcome).store = after.store := by
  unfold World.reply
  split
  · rfl
  · rfl

/-- What a handler of a command does to the rounds and the answers, with the ledger that it
leaves. -/
def Replies (config : ActorConfig) (opens : Option String) (command : WorkflowCommandMessage)
    (world after : World) : Prop :=
  Sides opens (some command.logicalKey) (after.store.load config.runId) world after

variable {opens : Option String} {command : WorkflowCommandMessage} {after : World}

theorem Replies.of_desk (same : after.desk = world.desk) :
    Replies config opens command world after :=
  Sides.of_desk same

theorem replyReceipt_replies {snapshot : RuntimeSnapshot} {event : RuntimeEvent}
    (same : after.desk = world.desk) (stored : after.store.load config.runId = some snapshot)
    (found : eventForReceipt (some snapshot) command.logicalKey = some event) :
    Replies config opens command world (replyReceipt config after command event.sequence).1 := by
  unfold replyReceipt
  split
  · exact .of_desk same
  · rename_i receipt made
    unfold Replies World.done
    rw [store_reply]
    exact (Sides.of_desk same).trans (.reply _ _ (.receipt stored found made (.inl rfl)))

theorem Replies.committed (same : after.desk = world.desk) (failure : RuntimeFailure) :
    Replies config opens command world (replyCommitted config after command failure).1 := by
  unfold replyCommitted
  cases stored : after.store.load config.runId with
  | none => exact .of_desk same
  | some snapshot =>
    split
    · exact .of_desk same
    · rename_i event found
      exact replyReceipt_replies same stored found

theorem acceptPlan_replies (state : RunState) (completion : PlanAgentCompletion)
    (frozenPlan : FrozenPlan) :
    Replies config opens command world
      (acceptPlan config around world command state completion frozenPlan).1 := by
  simp only [acceptPlan]
  repeat' split
  · exact .of_desk rfl
  · exact .of_desk rfl
  · exact .of_desk rfl
  · refine Replies.committed ?_ _
    rfl

theorem recordAgentRunStarted_replies (state : RunState) (agentRunId : AgentRunId) :
    Replies config opens command world
      (recordAgentRunStarted config around world command state agentRunId).1 := by
  simp only [recordAgentRunStarted]
  repeat' split
  · exact .of_desk rfl
  · exact .of_desk rfl
  · exact .of_desk rfl
  · rename_i equal
    exact .of_desk (desk_of_commit around equal)
  · rename_i equal
    exact .committed (desk_of_commit around equal) _

theorem recordAgentRunTerminal_replies (state : RunState) (snapshot : RuntimeSnapshot)
    (record : AgentRun) (receipt : AgentRunReceipt) (resultObject : CasObject) :
    Replies config opens command world (recordAgentRunTerminal config around world command state
      snapshot record receipt resultObject).1 := by
  simp only [recordAgentRunTerminal]
  repeat' split
  · exact .of_desk rfl
  · exact .of_desk rfl
  · exact .of_desk rfl
  · refine Replies.committed ?_ _
    rfl

theorem persistIntegrationIntent_replies (state : RunState) (intent : IntegrationIntent) :
    Replies config opens command world
      (persistIntegrationIntent config world command state intent).1 := by
  unfold persistIntegrationIntent
  split
  · exact .of_desk rfl
  split
  · exact .of_desk rfl
  split
  · exact .of_desk rfl
  rename_i named
  split
  · exact .of_desk rfl
  split
  · exact .of_desk rfl
  split
  · exact .of_desk rfl
  rename_i store committed _ same
  rw [not_not] at named same
  have answers : ∀ persisted, Answers (some command.logicalKey) persisted (.ok (.intent committed)) := by
    rintro persisted reply ⟨⟩
    refine ⟨?_, ?_⟩
    · rintro own ⟨⟩
      rw [named, same]
    · intro receipt found
      cases found
  have stored : ∀ persisted, Sides opens (some command.logicalKey) persisted world
      (world.setStore store) := fun persisted => .of_desk rfl
  exact (stored _).trans (.reply _ _ (answers _))

theorem recordIntegrationCompleted_replies (state : RunState) (intent : IntegrationIntent)
    (verifiedCommitOid : String) :
    Replies config opens command world
      (recordIntegrationCompleted config around world command state intent verifiedCommitOid).1 := by
  have adopted : ∀ (after : World) (receipt : IntegrationReceipt), after.desk = world.desk →
      Replies config opens command world
        (adoptIntegration config after command intent verifiedCommitOid receipt).1 := by
    intro after receipt same
    unfold adoptIntegration
    split
    · rename_i committed event stored found
      split
      · exact .of_desk same
      · rw [stored] at found
        exact replyReceipt_replies same stored found
    · exact .of_desk same
  simp only [recordIntegrationCompleted]
  repeat' split
  all_goals first
    | exact .of_desk rfl
    | exact adopted _ _ rfl

theorem commitAndReply_replies (next : RunState) (event : EventSpec) (message : String) :
    Replies config opens command world
      (commitAndReply config around world command next event message).1 := by
  unfold commitAndReply
  split
  · rename_i equal
    exact .of_desk (desk_of_commit around equal)
  · rename_i equal
    exact .committed (desk_of_commit around equal) _

theorem commitVerification_replies (state : RunState) (result : VerificationSummary) :
    Replies config opens command world
      (commitVerification config around world command state result).1 := by
  unfold commitVerification
  split
  · exact .of_desk rfl
  · exact commitAndReply_replies around _ _ _

theorem commitReport_replies (state : RunState) (result : ReportSummary) :
    Replies config opens command world
      (commitReport config around world command state result).1 := by
  unfold commitReport
  split
  · exact .of_desk rfl
  · exact commitAndReply_replies around _ _ _

theorem replayCommand_replies {snapshot : RuntimeSnapshot} {event : RuntimeEvent}
    (stored : world.store.load config.runId = some snapshot)
    (found : eventForReceipt (some snapshot) command.logicalKey = some event) :
    Replies config opens command world (replayCommand config world command event).1 := by
  have round : ∀ complete receipt,
      actorPhaseReceipt config.runId command.logicalKey event.sequence = .ok receipt →
      Replies config opens command world (world.reply command.response
        (.ok (.roundResult ⟨receipt, complete⟩))) := by
    intro complete receipt made
    unfold Replies
    rw [store_reply]
    exact .reply _ _ (.receipt stored found made (.inr ⟨complete, rfl⟩))
  simp only [replayCommand]
  repeat' split
  all_goals first
    | exact .of_desk rfl
    | exact replyReceipt_replies rfl stored found
    | exact round _ _ ‹_›

theorem scheduleExecutionRound_sides (state : RunState) (persisted : Option RuntimeSnapshot) :
    Sides (if state.status = .executing then some command.logicalKey else none) none persisted
      world (scheduleExecutionRound config world command state).1 := by
  simp only [scheduleExecutionRound]
  by_cases refused : state.status ≠ .executing ∨ state.frozenPlanSha256 = none ∨
      config.executionScheduler = false
  · rw [if_pos refused]
    exact .of_desk rfl
  rw [if_neg refused]
  simp only [not_or, not_not] at refused
  rw [if_pos refused.1]
  split
  · exact .of_desk rfl
  · refine ⟨?_, fun entry member => .inl member⟩
    intro task member
    rcases List.mem_append.mp member with earlier | opened
    · exact .inl earlier
    · exact .inr (congrArg some (List.mem_singleton.mp opened).symm)

end Handlers

end CodeMigrator
