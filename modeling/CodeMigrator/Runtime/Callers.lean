import CodeMigrator.Runtime.Dispatches

/-!
# Concurrent dispatch calls

Several callers of `dispatch_started` and `execution_receipt` share the actor's mailbox and
its attribute `_last_dispatch_acceptance` (`runtime/actor.py`). A call runs in three
parts: it clears the attribute and puts its message into the mailbox, it waits for
`Queue.join`, which is over for everybody when the mailbox has been worked off, and it
reads the attribute. The loop handles one message between two such parts: what a
handler writes to the attribute it writes last, so a call that starts while a message
is handled is one that starts before it.
-/

namespace CodeMigrator
open Lib

/-- The actor with its mailbox and the dispatch calls, which are numbered. A message of a
call carries its number; `verdicts` is what the handler decided on the own message of
each call, `returned` what each call has returned. -/
structure Mailbox where
  world : World
  queue : List (Option Nat × RuntimeMessage)
  stopping : Bool
  nextCall : Nat
  joining : List Nat
  released : List Nat
  verdicts : Dict Nat Bool
  returned : List (Nat × Bool)

/-- The mailbox of an actor on which no call is made yet. -/
def Mailbox.opened (world : World) : Mailbox := ⟨world, [], false, 0, [], [], .empty, []⟩

/-- What can happen next: a dispatch call begins, another message is submitted, the loop
handles the next message, the admission is closed, a call returns, or another component
changes the store. -/
inductive MailboxInput where
  | call (dispatch : ActiveDispatch) (resultStatus : Option String) (started : Bool)
  | submit (message : RuntimeMessage)
  | handle (around : Surroundings)
  | closeAdmission
  | resume (call : Nat)
  | store (store : RuntimeStore)

/-- The decision of the handler on a message. -/
def accepts (config : ActorConfig) (around : Surroundings) (world : World)
    (message : RuntimeMessage) : Bool :=
  (acknowledge config around world message).2

namespace Mailbox

/-- `Queue.join` is over for all who wait. -/
def release (mailbox : Mailbox) : Mailbox :=
  { mailbox with released := mailbox.released ++ mailbox.joining, joining := [] }

/-- The calls whose message is in the mailbox. -/
def queued (mailbox : Mailbox) : List Nat := mailbox.queue.filterMap (·.1)

/-- The decisions with that on a handled message, which may belong to no call. -/
def record (verdicts : Dict Nat Bool) (caller : Option Nat) (accepted : Bool) : Dict Nat Bool :=
  match caller with
  | none => verdicts
  | some call => verdicts.set call accepted

/-- The step of an input. -/
def step (config : ActorConfig) (mailbox : Mailbox) : MailboxInput → Mailbox
  | .call dispatch resultStatus started =>
    let cleared := { mailbox with world := mailbox.world.clearAcceptance }
    -- `submit` raises when the actor is stopping, after the attribute was cleared
    if mailbox.stopping then cleared
    else
      { cleared with
        queue := mailbox.queue ++ [(some mailbox.nextCall,
          .executionReceipt config.runId dispatch resultStatus started)]
        nextCall := mailbox.nextCall + 1
        joining := mailbox.joining ++ [mailbox.nextCall] }
  | .submit message =>
    if mailbox.stopping then mailbox
    else { mailbox with queue := mailbox.queue ++ [(none, message)] }
  | .handle around =>
    match mailbox.queue with
    | [] => mailbox
    | (caller, message) :: rest =>
      let handled := { mailbox with
        world := turn config around mailbox.world message
        queue := rest
        verdicts :=
          record mailbox.verdicts caller (accepts config around mailbox.world message) }
      if rest = [] then handled.release else handled
  | .closeAdmission =>
    if mailbox.stopping then mailbox
    else
      { mailbox with
        stopping := true
        queue := []
        verdicts := mailbox.queued.foldl (fun verdicts call => verdicts.set call false)
          mailbox.verdicts }.release
  | .resume call =>
    if call ∈ mailbox.released then
      { mailbox with
        released := mailbox.released.filter (· ≠ call)
        returned := mailbox.returned ++ [(call, mailbox.world.accepted)] }
    else mailbox
  | .store store => { mailbox with world := mailbox.world.setStore store }

/-- Every call that has returned has returned the decision on its own message. -/
def AnswersOwn (mailbox : Mailbox) : Prop :=
  ∀ call answer, (call, answer) ∈ mailbox.returned → mailbox.verdicts.get? call = some answer

/-- The call was decided on and has not returned yet. -/
def Outstanding (mailbox : Mailbox) (call : Nat) : Prop :=
  (call ∈ mailbox.joining ∨ call ∈ mailbox.released) ∧ (mailbox.verdicts.get? call).isSome

/-- The step takes an answer away from the call that it belongs to: a call begins or a
dispatch message is handled while another call has yet to return, or the admission is
closed on a queued call while the attribute holds an acceptance. -/
def Overwrites (mailbox : Mailbox) : MailboxInput → Prop
  | .call .. => ∃ call, mailbox.Outstanding call
  | .handle _ =>
    match mailbox.queue with
    | (_, .executionReceipt ..) :: _ => ∃ call, mailbox.Outstanding call
    | _ => False
  | .closeAdmission =>
    mailbox.stopping = false ∧ mailbox.queued ≠ [] ∧ mailbox.world.accepted = true
  | _ => False

end Mailbox

/-! ## Who writes the attribute -/

section Frame

variable (config : ActorConfig) (around : Surroundings) (world : World)

/-- The attribute that the dispatch calls read. -/
abbrev World.acceptance (world : World) : Option Bool := world.actor.lastDispatchAcceptance

@[simp] theorem acceptance_reply (response : Nat) (outcome : Except RuntimeFailure Reply) :
    (world.reply response outcome).acceptance = world.acceptance := by
  unfold World.reply
  split
  · rfl
  · rfl

@[simp] theorem acceptance_replyTo (response : Option Nat)
    (outcome : Except RuntimeFailure Reply) :
    (world.replyTo response outcome).acceptance = world.acceptance := by
  cases response with
  | none => rfl
  | some response => exact acceptance_reply world response outcome

@[simp] theorem acceptance_callPort (present : Bool) (call : PortCall) :
    (world.callPort around present call).acceptance = world.acceptance := by
  unfold World.callPort
  split
  · dsimp only
    split
    · rfl
    · rfl
  · rfl

@[simp] theorem acceptance_commit (state : RunState) (events : List EventSpec) :
    (commit around world state events).1.acceptance = world.acceptance := by
  unfold commit
  split
  · rfl
  · rfl

theorem acceptance_replyReceipt (command : WorkflowCommandMessage) (sequence : Nat) :
    (replyReceipt config world command sequence).1.acceptance = world.acceptance := by
  unfold replyReceipt
  split
  · rfl
  · exact acceptance_reply world _ _

@[simp] theorem acceptance_replyCommitted (command : WorkflowCommandMessage)
    (failure : RuntimeFailure) :
    (replyCommitted config world command failure).1.acceptance = world.acceptance := by
  unfold replyCommitted
  split
  · rfl
  · exact acceptance_replyReceipt config world _ _

theorem acceptance_finishExecutionRound (logicalKey : String)
    (outcome : Except RuntimeFailure ExecuteRoundResult) :
    (finishExecutionRound world logicalKey outcome).acceptance = world.acceptance := by
  have answers : ∀ (responses : List Nat) (start : World),
      (responses.foldl (fun world response => world.reply response (outcome.map .roundResult))
        start).acceptance = start.acceptance := by
    intro responses
    induction responses with
    | nil => exact fun start => rfl
    | cons response responses ih =>
      intro start
      rw [List.foldl_cons, ih, acceptance_reply]
  exact answers _ _

variable {world} in
theorem acceptance_of_commit {after : World} {state : RunState} {events : List EventSpec}
    {committed : Bool} (equal : commit around world state events = (after, committed)) :
    after.acceptance = world.acceptance := by
  rw [← acceptance_commit around world state events, equal]

section

variable (command : WorkflowCommandMessage)
include command

theorem acceptance_acceptPlan (state : RunState) (completion : PlanAgentCompletion)
    (frozenPlan : FrozenPlan) :
    (acceptPlan config around world command state completion frozenPlan).1.acceptance =
      world.acceptance := by
  simp only [acceptPlan]
  repeat' split
  · rfl
  · rfl
  · rfl
  · exact acceptance_replyCommitted config _ _ _

theorem acceptance_recordAgentRunStarted (state : RunState) (agentRunId : AgentRunId) :
    (recordAgentRunStarted config around world command state agentRunId).1.acceptance =
      world.acceptance := by
  simp only [recordAgentRunStarted]
  repeat' split
  · rfl
  · rfl
  · rfl
  · rename_i equal
    exact acceptance_of_commit around equal
  · rename_i equal
    rw [acceptance_replyCommitted]
    exact acceptance_of_commit around equal

theorem acceptance_recordAgentRunTerminal (state : RunState) (snapshot : RuntimeSnapshot)
    (record : AgentRun) (receipt : AgentRunReceipt) (resultObject : CasObject) :
    (recordAgentRunTerminal config around world command state snapshot record receipt
      resultObject).1.acceptance = world.acceptance := by
  simp only [recordAgentRunTerminal]
  repeat' split
  · rfl
  · rfl
  · rfl
  · exact acceptance_replyCommitted config _ _ _

theorem acceptance_persistIntegrationIntent (state : RunState) (intent : IntegrationIntent) :
    (persistIntegrationIntent config world command state intent).1.acceptance =
      world.acceptance := by
  unfold persistIntegrationIntent
  repeat' split
  all_goals first | rfl | exact acceptance_reply _ _ _

theorem acceptance_recordIntegrationCompleted (state : RunState) (intent : IntegrationIntent)
    (verifiedCommitOid : String) :
    (recordIntegrationCompleted config around world command state intent
      verifiedCommitOid).1.acceptance = world.acceptance := by
  simp only [recordIntegrationCompleted, adoptIntegration, replyReceipt]
  repeat' split
  all_goals first | rfl | exact acceptance_reply _ _ _

theorem acceptance_commitAndReply (next : RunState) (event : EventSpec) (message : String) :
    (commitAndReply config around world command next event message).1.acceptance =
      world.acceptance := by
  unfold commitAndReply
  split
  · rename_i equal
    exact acceptance_of_commit around equal
  · rename_i equal
    rw [acceptance_replyCommitted]
    exact acceptance_of_commit around equal

theorem acceptance_handleWorkflowCommand :
    (handleWorkflowCommand config around world command).1.acceptance = world.acceptance := by
  unfold handleWorkflowCommand
  split
  · rfl
  split
  · simp only [replayCommand, replyReceipt]
    repeat' split
    all_goals first | rfl | exact acceptance_reply _ _ _
  split
  · split
    · exact acceptance_acceptPlan config around world _ _ _ _
    · simp only [scheduleExecutionRound]
      repeat' split
      all_goals rfl
    · exact acceptance_recordAgentRunStarted config around world _ _ _
    · exact acceptance_recordAgentRunTerminal config around world _ _ _ _ _ _
    · exact acceptance_persistIntegrationIntent config world _ _ _
    · exact acceptance_recordIntegrationCompleted config around world _ _ _ _
    · unfold commitVerification
      split
      · rfl
      · exact acceptance_commitAndReply config around world _ _ _ _
    · unfold commitReport
      split
      · rfl
      · exact acceptance_commitAndReply config around world _ _ _ _
    · rfl
  · rfl

end

theorem acceptance_commitExecutionRound (logicalKey : String) (state : RunState)
    (decision : ExecutionRoundDecision) :
    (commitExecutionRound config around world logicalKey state decision).1.acceptance =
      world.acceptance := by
  unfold commitExecutionRound
  split
  · rfl
  split
  · rename_i equal
    exact acceptance_of_commit around equal
  · rename_i equal
    rw [← acceptance_of_commit around equal]
    split
    · rfl
    · rfl

theorem acceptance_handle (message : RuntimeMessage)
    (other : ∀ runId dispatch resultStatus started,
      message ≠ .executionReceipt runId dispatch resultStatus started) :
    (handle config around world message).1.acceptance = world.acceptance := by
  cases message with
  | create runId createRun transaction =>
    simp only [handle, handleCreate]
    repeat' split
    all_goals rfl
  | cancel expectedVersion response =>
    simp only [handle, handleCancel]
    split
    · exact acceptance_replyTo _ _ _
    split
    · exact acceptance_replyTo _ _ _
    split
    · exact acceptance_replyTo _ _ _
    split
    · rename_i equal
      have kept := acceptance_of_commit around equal
      simp only [World.done, acceptance_replyTo, acceptance_callPort]
      exact kept
    · rename_i equal
      simp only [World.done, acceptance_replyTo]
      exact acceptance_of_commit around equal
  | sessionInput kind payload =>
    simp only [handle, handleSessionInput, handleAdviceConfirmation, handleSegmentStopped]
    repeat' split
    all_goals simp only [World.done, acceptance_callPort, acceptance_commit]
  | executionReceipt runId dispatch resultStatus started =>
    exact absurd rfl (other runId dispatch resultStatus started)
  | budget inputTokens outputTokens costMicros =>
    simp only [handle, handleBudget]
    repeat' split
    all_goals simp only [World.done, World.raise, acceptance_callPort, acceptance_commit]
  | recovery trigger activeDispatchIds missingIntentIds checkpointCorrupt refDrift =>
    simp only [handle, handleRecovery]
    repeat' split
    all_goals simp only [World.done, World.raise, acceptance_commit]
  | advice advice =>
    simp only [handle, handleAdvice]
    repeat' split
    all_goals simp only [World.done, World.raise, acceptance_callPort, acceptance_commit]
  | workflow command => exact acceptance_handleWorkflowCommand config around world command
  | executionRoundFinished logicalKey decision error =>
    simp only [handle, handleExecutionRoundFinished, World.done]
    split
    · exact acceptance_finishExecutionRound _ _ _
    · rw [acceptance_finishExecutionRound, acceptance_commitExecutionRound]
    · exact acceptance_finishExecutionRound _ _ _

theorem acceptance_turn (message : RuntimeMessage)
    (other : ∀ runId dispatch resultStatus started,
      message ≠ .executionReceipt runId dispatch resultStatus started) :
    (turn config around world message).acceptance = world.acceptance := by
  rw [← acceptance_handle config around world message other]
  unfold turn report
  repeat' split
  all_goals simp_all [World.setLastError, acceptance_finishExecutionRound]

theorem commit_clearAcceptance (state : RunState) (events : List EventSpec) :
    (commit around world.clearAcceptance state events).2 = (commit around world state events).2 := by
  unfold commit
  simp only [World.clearAcceptance]
  rcases world.store.commit around.rejects state
    (committedEvents world.actor.state state events) with ⟨store, failure | snapshot⟩
  · rfl
  · rfl

theorem accepted_turn (runId : RunId) (dispatch : ActiveDispatch) (resultStatus : Option String)
    (started : Bool) :
    (turn config around world (.executionReceipt runId dispatch resultStatus started)).accepted =
      accepts config around world (.executionReceipt runId dispatch resultStatus started) := by
  have sameState : world.clearAcceptance.actor.state = world.actor.state := rfl
  simp only [accepts, acknowledge, turn_executionReceipt, handleExecution, startDispatch,
    finishDispatch, sameState]
  split
  · rfl
  · split
    · split
      · rfl
      · rfl
    · split
      · split
        · rfl
        · split
          · rfl
          · split
            · rfl
            · simp only [World.done, World.accepted, World.setAcceptance, commit_clearAcceptance]
      · split
        · rfl
        · rfl

end Frame

/-! ## The invariant -/

/-- What the attribute and the decisions have to do with each other: a call that was
decided on and has not returned finds the decision in the attribute. -/
structure Attributed (mailbox : Mailbox) : Prop where
  messages : ∀ call message, (some call, message) ∈ mailbox.queue →
    ∃ runId dispatch resultStatus started,
      message = .executionReceipt runId dispatch resultStatus started
  distinct : mailbox.queued.Nodup
  fresh : ∀ call, mailbox.nextCall ≤ call → call ∉ mailbox.queued ∧
    mailbox.verdicts.get? call = none
  undecided : ∀ call ∈ mailbox.queued, mailbox.verdicts.get? call = none
  waiting : ∀ call, call ∈ mailbox.joining → call ∈ mailbox.queued ∨
    (mailbox.verdicts.get? call).isSome
  decided : ∀ call ∈ mailbox.released, (mailbox.verdicts.get? call).isSome
  current : ∀ call verdict, call ∈ mailbox.joining ∨ call ∈ mailbox.released →
    mailbox.verdicts.get? call = some verdict → mailbox.world.accepted = verdict
  answers : mailbox.AnswersOwn

section Invariant

variable {config : ActorConfig} {mailbox : Mailbox}

theorem Attributed.opened (world : World) : Attributed (Mailbox.opened world) where
  messages := fun _ _ member => absurd member List.not_mem_nil
  distinct := List.nodup_nil
  fresh := fun _ _ => ⟨List.not_mem_nil, rfl⟩
  undecided := fun _ member => absurd member List.not_mem_nil
  waiting := fun _ member => absurd member List.not_mem_nil
  decided := fun _ member => absurd member List.not_mem_nil
  current := fun _ _ _ found => by cases found
  answers := fun _ _ member => absurd member List.not_mem_nil

section

variable (attributed : Attributed mailbox)
include attributed

theorem Attributed.release (idle : mailbox.queue = []) :
    Attributed mailbox.release where
  messages := attributed.messages
  distinct := attributed.distinct
  fresh := attributed.fresh
  undecided := attributed.undecided
  waiting := fun _ member => absurd member List.not_mem_nil
  decided := by
    intro call member
    rcases List.mem_append.mp member with member | member
    · exact attributed.decided call member
    · rcases attributed.waiting call member with queued | decided
      · rw [Mailbox.queued, idle] at queued
        cases queued
      · exact decided
  current := by
    intro call verdict member found
    refine attributed.current call verdict ?_ found
    rcases member with none_ | member
    · cases none_
    · exact (List.mem_append.mp member).symm
  answers := attributed.answers

theorem Attributed.call (idle : ∀ call, ¬ mailbox.Outstanding call) (dispatch : ActiveDispatch)
    (resultStatus : Option String) (started : Bool) :
    Attributed (mailbox.step config (.call dispatch resultStatus started)) := by
  simp only [Mailbox.step]
  have nobody : ∀ call verdict, call ∈ mailbox.joining ∨ call ∈ mailbox.released →
      mailbox.verdicts.get? call ≠ some verdict := by
    intro call verdict member found
    exact idle call ⟨member, by rw [found]; rfl⟩
  split
  · exact ⟨attributed.messages, attributed.distinct, attributed.fresh, attributed.undecided,
      attributed.waiting, attributed.decided,
      fun call verdict member found => absurd found (nobody call verdict member),
      attributed.answers⟩
  obtain ⟨notQueued, undecided⟩ := attributed.fresh mailbox.nextCall (Nat.le_refl _)
  have queued : (mailbox.queue ++ [(some mailbox.nextCall, RuntimeMessage.executionReceipt
      config.runId dispatch resultStatus started)]).filterMap (·.1) =
      mailbox.queued ++ [mailbox.nextCall] := by
    rw [List.filterMap_append]
    rfl
  refine ⟨?_, ?_, ?_, ?_, ?_, attributed.decided, ?_, attributed.answers⟩
  · intro call message member
    rcases List.mem_append.mp member with member | own
    · exact attributed.messages call message member
    · cases List.mem_singleton.mp own
      exact ⟨_, _, _, _, rfl⟩
  · simp only [Mailbox.queued, queued]
    refine List.nodup_append.mpr ⟨attributed.distinct, List.nodup_singleton _, ?_⟩
    intro call member other single
    rw [List.mem_singleton.mp single]
    exact fun same => notQueued (same ▸ member)
  · intro call later
    have later : mailbox.nextCall + 1 ≤ call := later
    obtain ⟨absent, none_⟩ := attributed.fresh call (by omega)
    refine ⟨?_, none_⟩
    simp only [Mailbox.queued, queued]
    intro member
    rcases List.mem_append.mp member with member | single
    · exact absent member
    · rw [List.mem_singleton.mp single] at later
      omega
  · intro call member
    simp only [Mailbox.queued, queued] at member
    rcases List.mem_append.mp member with member | single
    · exact attributed.undecided call member
    · rw [List.mem_singleton.mp single]
      exact undecided
  · intro call member
    simp only [Mailbox.queued, queued]
    rcases List.mem_append.mp member with member | single
    · exact (attributed.waiting call member).imp_left (List.mem_append_left _)
    · exact .inl (List.mem_append_right _ single)
  · intro call verdict member found
    have member : call ∈ mailbox.joining ++ [mailbox.nextCall] ∨ call ∈ mailbox.released := member
    have found : mailbox.verdicts.get? call = some verdict := found
    by_cases own : call = mailbox.nextCall
    · rw [own, undecided] at found
      cases found
    · refine absurd found (nobody call verdict ?_)
      rcases member with member | member
      · exact .inl ((List.mem_append.mp member).resolve_right
          fun single => own (List.mem_singleton.mp single))
      · exact .inr member

/-- The queue changes by messages of no call, and the attribute not at all for the calls
that have yet to return. -/
theorem Attributed.requeue {queue : List (Option Nat × RuntimeMessage)}
    (same : queue.filterMap (·.1) = mailbox.queued)
    (messages : ∀ call message, (some call, message) ∈ queue → (some call, message) ∈ mailbox.queue)
    {after : World}
    (kept : ∀ call, mailbox.Outstanding call → after.accepted = mailbox.world.accepted) :
    Attributed { mailbox with world := after, queue := queue } := by
  refine ⟨?_, ?_, ?_, ?_, ?_, attributed.decided, ?_, attributed.answers⟩
  · intro call message member
    exact attributed.messages call message (messages call message member)
  · simp only [Mailbox.queued, same]
    exact attributed.distinct
  · simp only [Mailbox.queued, same]
    exact attributed.fresh
  · simp only [Mailbox.queued, same]
    exact attributed.undecided
  · simp only [Mailbox.queued, same]
    exact attributed.waiting
  · intro call verdict member found
    have found : mailbox.verdicts.get? call = some verdict := found
    rw [kept call ⟨member, by rw [found]; rfl⟩]
    exact attributed.current call verdict member found

theorem Attributed.submit (message : RuntimeMessage) :
    Attributed (mailbox.step config (.submit message)) := by
  simp only [Mailbox.step]
  split
  · exact attributed
  refine attributed.requeue ?_ ?_ (fun _ _ => rfl)
  · rw [List.filterMap_append]
    exact List.append_nil _
  · intro call other member
    rcases List.mem_append.mp member with member | own
    · exact member
    · cases List.mem_singleton.mp own

theorem Attributed.handle_own {call : Nat} {message : RuntimeMessage}
    {rest : List (Option Nat × RuntimeMessage)}
    (front : mailbox.queue = (some call, message) :: rest)
    (idle : ∀ call, ¬ mailbox.Outstanding call) {after : World} :
    Attributed { mailbox with
      world := after, queue := rest
      verdicts := mailbox.verdicts.set call after.accepted } := by
  have queued : mailbox.queued = call :: rest.filterMap (·.1) := by
    rw [Mailbox.queued, front]
    rfl
  have distinct := attributed.distinct
  rw [queued, List.nodup_cons] at distinct
  have undecided := attributed.undecided call (queued ▸ List.mem_cons_self)
  refine ⟨?_, distinct.2, ?_, ?_, ?_, ?_, ?_, ?_⟩
  · intro other message member
    exact attributed.messages other message (front ▸ List.mem_cons_of_mem _ member)
  · intro other later
    obtain ⟨absent, none_⟩ := attributed.fresh other later
    rw [queued, List.mem_cons, not_or] at absent
    refine ⟨absent.2, ?_⟩
    rw [Dict.get?_set, if_neg absent.1]
    exact none_
  · intro other member
    have different : other ≠ call := fun same => distinct.1 (same ▸ member)
    rw [Dict.get?_set, if_neg different]
    exact attributed.undecided other (queued ▸ List.mem_cons_of_mem _ member)
  · intro other member
    rw [Dict.get?_set]
    by_cases own : other = call
    · rw [if_pos own]
      exact .inr rfl
    · rw [if_neg own]
      refine (attributed.waiting other member).imp_left ?_
      intro inQueue
      rw [queued] at inQueue
      exact (List.mem_cons.mp inQueue).resolve_left own
  · intro other member
    rw [Dict.get?_set]
    split
    · rfl
    · exact attributed.decided other member
  · intro other verdict member found
    rw [Dict.get?_set] at found
    by_cases own : other = call
    · rw [if_pos own] at found
      exact Option.some.inj found
    · rw [if_neg own] at found
      exact absurd ⟨member, by rw [found]; rfl⟩ (idle other)
  · intro other answer member
    have answered := attributed.answers other answer member
    have different : other ≠ call := by
      intro same
      rw [same, undecided] at answered
      cases answered
    rw [Dict.get?_set, if_neg different]
    exact answered

theorem Attributed.handle (around : Surroundings) (careful : ¬ mailbox.Overwrites (.handle around)) :
    Attributed (mailbox.step config (.handle around)) := by
  unfold Mailbox.step
  dsimp only
  split
  · exact attributed
  · rename_i caller message rest front
    have handled : Attributed { mailbox with
        world := turn config around mailbox.world message
        queue := rest
        verdicts := Mailbox.record mailbox.verdicts caller
          (accepts config around mailbox.world message) } := by
      cases caller with
      | some call =>
        obtain ⟨runId, dispatch, resultStatus, started, rfl⟩ :=
          attributed.messages call message (front ▸ List.mem_cons_self)
        simp only [Mailbox.Overwrites, front, not_exists] at careful
        rw [← accepted_turn]
        exact attributed.handle_own front careful
      | none =>
        refine attributed.requeue ?_ ?_ ?_
        · rw [Mailbox.queued, front]
          rfl
        · intro call other member
          exact front ▸ List.mem_cons_of_mem _ member
        · intro call outstanding
          have other : ∀ runId dispatch resultStatus started,
              message ≠ .executionReceipt runId dispatch resultStatus started := by
            rintro runId dispatch resultStatus started rfl
            simp only [Mailbox.Overwrites, front] at careful
            exact careful ⟨call, outstanding⟩
          have same := acceptance_turn config around mailbox.world message other
          simp only [World.accepted, same]
    split
    · rename_i worked
      exact handled.release worked
    · exact handled

end

theorem get?_foldl_reject (calls : List Nat) (verdicts : Dict Nat Bool) (call : Nat) :
    (calls.foldl (fun verdicts call => verdicts.set call false) verdicts).get? call =
      if call ∈ calls then some false else verdicts.get? call := by
  induction calls generalizing verdicts with
  | nil => simp
  | cons other calls ih =>
    rw [List.foldl_cons, ih]
    by_cases later : call ∈ calls
    · simp [later]
    · by_cases own : call = other
      · simp [own]
      · simp [later, own]

theorem Attributed.closeAdmission (attributed : Attributed mailbox)
    (careful : ¬ mailbox.Overwrites .closeAdmission) :
    Attributed (mailbox.step config .closeAdmission) := by
  simp only [Mailbox.step]
  by_cases stopping : mailbox.stopping = true
  · rw [if_pos stopping]
    exact attributed
  rw [if_neg stopping]
  apply Attributed.release
  · refine ⟨?_, List.nodup_nil, ?_, ?_, ?_, ?_, ?_, ?_⟩
    · intro call message member
      cases member
    · intro call later
      obtain ⟨absent, none_⟩ := attributed.fresh call later
      simp only [get?_foldl_reject, if_neg absent]
      exact ⟨List.not_mem_nil, none_⟩
    · intro call member
      cases member
    · intro call member
      simp only [get?_foldl_reject]
      right
      rcases attributed.waiting call member with queued | decided
      · rw [if_pos queued]
        rfl
      · split
        · rfl
        · exact decided
    · intro call member
      simp only [get?_foldl_reject]
      split
      · rfl
      · exact attributed.decided call member
    · intro call verdict member found
      simp only [get?_foldl_reject] at found
      split at found
      · rename_i queued
        cases found
        -- the call was never handled, so what the attribute holds is not its own
        by_contra accepted
        rw [Bool.not_eq_false] at accepted
        exact careful ⟨Bool.not_eq_true _ ▸ stopping, List.ne_nil_of_mem queued, accepted⟩
      · exact attributed.current call verdict member found
    · intro call answer member
      have answered := attributed.answers call answer member
      have different : call ∉ mailbox.queued := by
        intro queued
        rw [attributed.undecided call queued] at answered
        cases answered
      simp only [get?_foldl_reject, if_neg different]
      exact answered
  · rfl

theorem Attributed.resume (attributed : Attributed mailbox) (call : Nat) :
    Attributed (mailbox.step config (.resume call)) := by
  simp only [Mailbox.step]
  split
  · rename_i released
    refine ⟨attributed.messages, attributed.distinct, attributed.fresh, attributed.undecided,
      attributed.waiting, ?_, ?_, ?_⟩
    · intro other member
      exact attributed.decided other (List.mem_filter.mp member).1
    · intro other verdict member
      exact attributed.current other verdict
        (member.imp_right fun member => (List.mem_filter.mp member).1)
    · intro other answer member
      rcases List.mem_append.mp member with member | own
      · exact attributed.answers other answer member
      · cases List.mem_singleton.mp own
        obtain ⟨verdict, found⟩ := Option.isSome_iff_exists.mp (attributed.decided call released)
        show mailbox.verdicts.get? call = _
        rw [found, attributed.current call verdict (.inr released) found]
  · exact attributed

theorem Attributed.step (attributed : Attributed mailbox) (input : MailboxInput)
    (careful : ¬ mailbox.Overwrites input) : Attributed (mailbox.step config input) := by
  cases input with
  | call dispatch resultStatus started =>
    exact attributed.call (fun call outstanding => careful ⟨call, outstanding⟩) dispatch
      resultStatus started
  | submit message => exact attributed.submit message
  | handle around => exact attributed.handle around careful
  | closeAdmission => exact attributed.closeAdmission careful
  | resume call => exact attributed.resume call
  | store store =>
    exact ⟨attributed.messages, attributed.distinct, attributed.fresh, attributed.undecided,
      attributed.waiting, attributed.decided, attributed.current, attributed.answers⟩

end Invariant

/-- In every interleaving in which no step takes an answer away from its call, each
dispatch call returns the decision on its own message. -/
theorem dispatch_calls_answer_own (config : ActorConfig) (world : World)
    (inputs : List MailboxInput)
    (careful : Along (Mailbox.step config) (fun mailbox input => ¬ mailbox.Overwrites input)
      (.opened world) inputs) :
    Always (Mailbox.step config) Mailbox.AnswersOwn (.opened world) inputs := by
  have attributed : Always (Mailbox.step config) Attributed (.opened world) inputs :=
    always_of_along Attributed (fun _ input attributed careful => attributed.step input careful)
      (.opened world) careful
  intro earlier rest split
  exact (attributed earlier rest split).answers

theorem Mailbox.not_outstanding {mailbox : Mailbox}
    (idle : (mailbox.joining ++ mailbox.released).all
      (fun call => (mailbox.verdicts.get? call).isNone) = true) :
    ¬ ∃ call, mailbox.Outstanding call := by
  rintro ⟨call, member, decided⟩
  have undecided := List.all_eq_true.mp idle call (List.mem_append.mpr member)
  rw [Option.isNone_iff_eq_none] at undecided
  rw [undecided] at decided
  cases decided

namespace SampleRun

/-- Two callers start the same dispatch, and their messages are handled. -/
def twoStarts : List MailboxInput :=
  [.call dispatch none true, .call dispatch none true, .handle calm, .handle calm, .resume 0]

/-- One caller after the other. -/
def oneByOne : List MailboxInput :=
  [.call dispatch none true, .handle calm, .resume 0, .call dispatch none true, .handle calm,
    .resume 1]

/-- A Run that was just created. -/
def created : World := runFrom (step config) start [.message (.create runId createRun none) calm]

end SampleRun

open SampleRun in
theorem dispatch_calls_one_by_one :
    (runFrom (Mailbox.step config) (.opened created) oneByOne).returned = [(0, true), (1, false)] ∧
      Always (Mailbox.step config) Mailbox.AnswersOwn (.opened created) oneByOne := by
  refine ⟨by decide, dispatch_calls_answer_own config created oneByOne
    ⟨?_, ?_, id, ?_, ?_, id, trivial⟩⟩
  · exact Mailbox.not_outstanding (by decide)
  · exact Mailbox.not_outstanding (by decide)
  · exact Mailbox.not_outstanding (by decide)
  · exact Mailbox.not_outstanding (by decide)

open SampleRun in
/-- The first of two callers was accepted and is told that it was not. -/
theorem accepted_call_returns_false :
    (runFrom (Mailbox.step config) (.opened created) twoStarts).verdicts.get? 0 = some true ∧
      (runFrom (Mailbox.step config) (.opened created) twoStarts).returned = [(0, false)] ∧
      ¬ Always (Mailbox.step config) Mailbox.AnswersOwn (.opened created) twoStarts := by
  have accepted : (runFrom (Mailbox.step config) (.opened created) twoStarts).verdicts.get? 0 =
      some true := by decide
  have answer : (runFrom (Mailbox.step config) (.opened created) twoStarts).returned =
      [(0, false)] := by decide
  refine ⟨accepted, answer, ?_⟩
  intro own
  have decided := own twoStarts [] (List.append_nil _).symm 0 false
    (by rw [answer]; exact List.mem_singleton_self _)
  rw [accepted] at decided
  cases decided

end CodeMigrator
