import CodeMigrator.Runtime.Replay

/-!
# The graph of one Run

`RunWorkflowGraph` (`runtime/run_graph.py`) over the Run actor: the nodes up to each of
their waits, the edges, and what can happen between two of them. The saver of checkpoints
and the stages (`planner`, `verifier`, `reporter`) are outside the repository's code: a move
gives what they return. A stop of the graph, by the caller, by an exception or by a limit of
the graph library, may come at any wait and between nodes.
-/

namespace CodeMigrator
open Lib

/-- The values of `_RunState.phase`. -/
inductive GraphPhase where
  | plan
  | execute
  | verify
  | report
  | done
  deriving DecidableEq

/-- `_RunState`; `runId` is what `UUID` reads from the text. -/
structure GraphState where
  runId : RunId
  phase : GraphPhase
  receiptKey : String
  executeRound : Nat
  executionComplete : Bool
  deriving DecidableEq

/-- The nodes of the graph; `finish` is `END`. -/
inductive GraphNode where
  | plan
  | execute
  | verify
  | report
  | finish
  deriving DecidableEq

/-- What the saver keeps: the state and the node that comes next. -/
structure GraphCheckpoint where
  state : GraphState
  next : GraphNode
  deriving DecidableEq

/-- The steps that the graph passes: a round with the flag that it is left with. -/
inductive GraphStep where
  | plan
  | round (index : Nat) (complete : Bool)
  | verify
  | report
  deriving DecidableEq

/-- Where an invocation of the graph is: before a node, or at a wait inside it. -/
inductive GraphPoint where
  | entry (node : GraphNode)
  | planning
  | round (response : Nat)
  | verifying
  | verification (response : Nat)
  | reporting
  | report (response : Nat)
  deriving DecidableEq

/-- The node of a point. -/
def GraphPoint.node : GraphPoint → GraphNode
  | entry node => node
  | planning => .plan
  | round _ => .execute
  | verifying | verification _ => .verify
  | reporting | report _ => .report

/-- What a node does next: it returns its update, waits for a stage, sends a command to the
actor and waits for the answer, or raises. -/
inductive GraphTurn where
  | returns (state : GraphState) (visit : GraphStep)
  | waits (point : GraphPoint)
  | sends (point : GraphPoint) (command : WorkflowCommandMessage)
  | raises (failure : RuntimeFailure)

/-- `has_committed_owner_receipt` (`runtime/recovery.py`). -/
def hasCommittedOwnerReceipt (events : List RuntimeEvent) (receiptKey : String) : Bool :=
  receiptKey ≠ "" ∧ events.any fun event =>
    Json.field? event.data "receipt_key" = some (.str receiptKey)

/-- `RunActor.has_receipt`. -/
def hasReceipt (config : ActorConfig) (world : World) (runId : RunId) (receiptKey : String) : Bool :=
  runId = config.runId ∧ (world.store.load config.runId).any fun snapshot =>
    hasCommittedOwnerReceipt snapshot.events receiptKey

namespace RunWorkflowGraph

/-! ## Keys -/

def planKey (runId : RunId) : String := "run.plan.accepted:" ++ runId.str

def roundKey (runId : RunId) (roundIndex : Nat) : String :=
  "run.execute.round:" ++ (runId.str ++ ":" ++ toString roundIndex)

def verifyKey (runId : RunId) : String := "run.verify.completed:" ++ runId.str

def reportKey (runId : RunId) : String := "run.report.completed:" ++ runId.str

/-! ## Nodes -/

section Nodes

variable (config : ActorConfig) (world : World) (state : GraphState)

/-- The checks of the nodes on a receipt: the exception that they raise. -/
def receiptGate (logicalKey : String) (receipt : ActorPhaseReceipt)
    (mismatched uncommitted : String) : Option RuntimeFailure :=
  if receipt.runId ≠ state.runId ∨ receipt.receiptKey ≠ logicalKey then
    some (.valueError mismatched)
  else if hasReceipt config world state.runId logicalKey = false then
    some (.valueError uncommitted)
  else none

/-- `_plan` up to `planner.run`. -/
def plan : GraphTurn :=
  let logicalKey := planKey state.runId
  if hasReceipt config world state.runId logicalKey then
    .returns { state with phase := .execute, receiptKey := logicalKey } .plan
  else .waits .planning

/-- `_plan` after `planner.run`. -/
def planReturned (receipt : ActorPhaseReceipt) : GraphTurn :=
  let refused := "PLAN cannot advance without its committed owner receipt"
  match receiptGate config world state (planKey state.runId) receipt refused refused with
  | some failure => .raises failure
  | none => .returns { state with phase := .execute, receiptKey := receipt.receiptKey } .plan

/-- `_execute` up to the answer of the actor. -/
def execute (response : Nat) : GraphTurn :=
  .sends (.round response)
    ⟨state.runId, roundKey state.runId state.executeRound, .executeRound, response⟩

/-- `_execute` after the answer. -/
def executeReturned (result : ExecuteRoundResult) : GraphTurn :=
  match receiptGate config world state (roundKey state.runId state.executeRound) result.receipt
      "EXECUTE returned a mismatched actor receipt"
      "EXECUTE cannot advance without its committed actor receipt" with
  | some failure => .raises failure
  | none =>
    .returns
      { state with
        phase := if result.complete then .verify else .execute
        receiptKey := result.receipt.receiptKey
        executeRound := state.executeRound + 1
        executionComplete := result.complete }
      (.round state.executeRound result.complete)

/-- `_verify` up to `verifier.run`. -/
def verify : GraphTurn :=
  let logicalKey := verifyKey state.runId
  if hasReceipt config world state.runId logicalKey then
    .returns { state with phase := .report, receiptKey := logicalKey } .verify
  else .waits .verifying

/-- `_verify` from `verifier.run` to the answer of the actor. -/
def verifierReturned (result : VerificationSummary) (response : Nat) : GraphTurn :=
  .sends (.verification response)
    ⟨state.runId, verifyKey state.runId, .verification result, response⟩

/-- `_verify` after the answer. -/
def verifyReturned (receipt : ActorPhaseReceipt) : GraphTurn :=
  let logicalKey := verifyKey state.runId
  match receiptGate config world state logicalKey receipt
      "VERIFY returned a mismatched actor receipt"
      "VERIFY cannot advance without its committed actor receipt" with
  | some failure => .raises failure
  | none => .returns { state with phase := .report, receiptKey := logicalKey } .verify

/-- `_report` up to `reporter.run`. -/
def report : GraphTurn :=
  let logicalKey := reportKey state.runId
  if hasReceipt config world state.runId logicalKey then
    .returns { state with phase := .done, receiptKey := logicalKey } .report
  else .waits .reporting

/-- `_report` from `reporter.run` to the answer of the actor. -/
def reporterReturned (result : ReportSummary) (response : Nat) : GraphTurn :=
  .sends (.report response) ⟨state.runId, reportKey state.runId, .report result, response⟩

/-- `_report` after the answer. -/
def reportReturned (receipt : ActorPhaseReceipt) : GraphTurn :=
  let logicalKey := reportKey state.runId
  match receiptGate config world state logicalKey receipt
      "REPORT returned a mismatched actor receipt"
      "REPORT cannot complete without its committed actor receipt" with
  | some failure => .raises failure
  | none => .returns { state with phase := .done, receiptKey := logicalKey } .report

/-- `_after_execute`. -/
def afterExecute : GraphNode := if state.executionComplete then .verify else .execute

/-- The edges of the graph, from a node that has returned. -/
def nextNode : GraphNode → GraphNode
  | .plan => .execute
  | .execute => afterExecute state
  | .verify => .report
  | .report | .finish => .finish

/-- The state with which `start` begins without a checkpoint. -/
def initial (receipt : RunCreatedReceipt) : GraphState :=
  ⟨receipt.runId, .plan, receipt.receiptKey, 0, false⟩

end Nodes

end RunWorkflowGraph

/-! ## Invocations -/

/-- An invocation of the graph: the checkpoint it began at, its state and its point, and the
steps it has passed. -/
structure GraphInvocation where
  origin : GraphCheckpoint
  state : GraphState
  point : GraphPoint
  visited : List GraphStep
  deriving DecidableEq

/-- The actor's world with the graph: the commands that the graph has sent and the actor has
not handled, the saved checkpoints, the invocation that is running, and the exception that
ended the last one. -/
structure GraphSystem where
  world : World
  sent : List WorkflowCommandMessage
  saved : List GraphCheckpoint
  running : Option GraphInvocation
  failure : Option RuntimeFailure

/-- What can happen next: something around the graph, the handling of one of its commands, a
start from a checkpoint or from none, a turn of the running invocation (with the future that
it creates for a command), and a stop of it. -/
inductive GraphMove where
  | around (input : Input)
  | deliver (index : Nat) (around : Surroundings)
  | start (receipt : RunCreatedReceipt) (checkpoint : Option GraphCheckpoint)
  | enter (response : Nat)
  | planned (receipt : ActorPhaseReceipt)
  | verified (result : VerificationSummary) (response : Nat)
  | reported (result : ReportSummary) (response : Nat)
  | answered
  | stop

/-- The answer to a command. -/
def World.answer? (world : World) (response : Nat) : Option (Except RuntimeFailure Reply) :=
  (world.replies.find? fun entry => entry.1 = response).map (·.2)

namespace GraphSystem

open RunWorkflowGraph

variable (config : ActorConfig) (system : GraphSystem)

/-- The system after a turn of the running invocation; an update is saved with the next
node. -/
def follow (invocation : GraphInvocation) : GraphTurn → GraphSystem
  | .returns state visit =>
    let next := nextNode state invocation.point.node
    { system with
      saved := system.saved ++ [⟨state, next⟩]
      running := some { invocation with
        state := state
        point := .entry next
        visited := invocation.visited ++ [visit] } }
  | .waits point => { system with running := some { invocation with point := point } }
  | .sends point command =>
    { system with
      sent := system.sent ++ [command]
      running := some { invocation with point := point } }
  | .raises failure => { system with running := none, failure := some failure }

/-- `start`: from the saved checkpoint when there is one. -/
def start (receipt : RunCreatedReceipt) (checkpoint : Option GraphCheckpoint) : GraphSystem :=
  if hasReceipt config system.world receipt.runId receipt.receiptKey = false then
    { system with
      running := none
      failure := some (.valueError "RunWorkflowGraph requires a persisted RunCreated receipt") }
  else
    match checkpoint with
    | some checkpoint =>
      { system with running := some ⟨checkpoint, checkpoint.state, .entry checkpoint.next, []⟩ }
    | none =>
      { system with
        saved := system.saved ++ [⟨initial receipt, .plan⟩]
        running := some ⟨⟨initial receipt, .plan⟩, initial receipt, .entry .plan, []⟩ }

/-- The next node runs up to its first wait; `response` is the future of its command. -/
def enter (invocation : GraphInvocation) (response : Nat) : GraphSystem :=
  match invocation.point with
  | .entry .plan => system.follow invocation (plan config system.world invocation.state)
  | .entry .execute => system.follow invocation (execute invocation.state response)
  | .entry .verify => system.follow invocation (verify config system.world invocation.state)
  | .entry .report =>
    system.follow invocation (RunWorkflowGraph.report config system.world invocation.state)
  | _ => system

/-- A node goes on with the answer that it awaits, when there is one. -/
def answered (invocation : GraphInvocation) : GraphSystem :=
  match invocation.point with
  | .round response =>
    match system.world.answer? response with
    | none => system
    | some (.ok (.roundResult result)) =>
      system.follow invocation (executeReturned config system.world invocation.state result)
    | some (.error failure) => system.follow invocation (.raises failure)
    | some (.ok _) => system.follow invocation (.raises .raised)
  | .verification response =>
    match system.world.answer? response with
    | none => system
    | some (.ok (.phaseReceipt receipt)) =>
      system.follow invocation (verifyReturned config system.world invocation.state receipt)
    | some (.error failure) => system.follow invocation (.raises failure)
    | some (.ok _) => system.follow invocation (.raises .raised)
  | .report response =>
    match system.world.answer? response with
    | none => system
    | some (.ok (.phaseReceipt receipt)) =>
      system.follow invocation (reportReturned config system.world invocation.state receipt)
    | some (.error failure) => system.follow invocation (.raises failure)
    | some (.ok _) => system.follow invocation (.raises .raised)
  | _ => system

/-- The actor handles one of the commands that the graph has sent. -/
def deliver (index : Nat) (around : Surroundings) : GraphSystem :=
  match system.sent[index]? with
  | none => system
  | some command =>
    { system with
      world := turn config around system.world (.workflow command)
      sent := system.sent.eraseIdx index }

/-- The step of a move. -/
def step : GraphMove → GraphSystem
  | .around input => { system with world := CodeMigrator.step config system.world input }
  | .deliver index around => system.deliver config index around
  | .start receipt checkpoint => system.start config receipt checkpoint
  | .stop => { system with running := none }
  | move =>
    match system.running with
    | none => system
    | some invocation =>
      match move, invocation.point with
      | .enter response, _ => system.enter config invocation response
      | .answered, _ => system.answered config invocation
      | .planned receipt, .planning =>
        system.follow invocation (planReturned config system.world invocation.state receipt)
      | .verified result response, .verifying =>
        system.follow invocation (verifierReturned invocation.state result response)
      | .reported result response, .reporting =>
        system.follow invocation (reporterReturned invocation.state result response)
      | _, _ => system

end GraphSystem

/-! ## The moves that can happen -/

/-- The commands that the methods of `RunActor` send with a key of their own. The keys of
rounds, of the verification and of the report come from the graph. -/
def OwnerCommand (command : WorkflowCommandMessage) : Prop :=
  match command.payload with
  | .acceptPlan .. => command.logicalKey = RunWorkflowGraph.planKey command.runId
  | .agentRunStarted agentRunId => command.logicalKey = "agent_run.started:" ++ agentRunId.str
  | .agentRunTerminal record .. =>
    command.logicalKey = "agent_run.terminal:" ++ record.agentRunId.str
  | .integrationIntent intent => command.logicalKey = "integration.intent:" ++ intent.idempotencyKey
  | .integrationCompleted intent _ =>
    command.logicalKey = "integration.completed:" ++ intent.idempotencyKey
  | .executeRound | .verification _ | .report _ | .other _ => False

instance OwnerCommand.decidable : (command : WorkflowCommandMessage) → Decidable (OwnerCommand command)
  | ⟨_, _, .acceptPlan .., _⟩ | ⟨_, _, .agentRunStarted _, _⟩ | ⟨_, _, .agentRunTerminal .., _⟩
  | ⟨_, _, .integrationIntent _, _⟩ | ⟨_, _, .integrationCompleted .., _⟩ =>
    inferInstanceAs (Decidable (_ = _))
  | ⟨_, _, .executeRound, _⟩ | ⟨_, _, .verification _, _⟩ | ⟨_, _, .report _, _⟩
  | ⟨_, _, .other _, _⟩ => isFalse id

/-- Around the graph the actor gets the commands of its own methods, the end of a round comes
from a round that is running, and the graph is started from a checkpoint that was saved. -/
def GraphAllowed (system : GraphSystem) : GraphMove → Prop
  | .around (.message (.workflow command) _) => OwnerCommand command
  | .around (.message (.executionRoundFinished logicalKey _ _) _) =>
    logicalKey ∈ system.world.actor.executionRoundTasks
  | .start _ (some checkpoint) => checkpoint ∈ system.saved
  | _ => True

instance GraphAllowed.decidable (system : GraphSystem) :
    (move : GraphMove) → Decidable (GraphAllowed system move)
  | .around (.message (.workflow command) _) => OwnerCommand.decidable command
  | .around (.message (.executionRoundFinished ..) _) => inferInstanceAs (Decidable (_ ∈ _))
  | .start _ (some _) => inferInstanceAs (Decidable (_ ∈ _))
  | .around (.message (.create ..) _) | .around (.message (.cancel ..) _)
  | .around (.message (.sessionInput ..) _) | .around (.message (.executionReceipt ..) _)
  | .around (.message (.budget ..) _) | .around (.message (.recovery ..) _)
  | .around (.message (.advice _) _) | .around (.createAgentRun _) | .around (.addCasReference ..)
  | .around .failNextCommit | .around .start | .start _ none | .deliver .. | .enter _
  | .planned _ | .verified .. | .reported .. | .answered | .stop => isTrue trivial

/-! ## The sequence of steps -/

open RunWorkflowGraph in
/-- The logical key of a step. -/
def GraphStep.key (runId : RunId) : GraphStep → String
  | plan => planKey runId
  | round index _ => roundKey runId index
  | verify => verifyKey runId
  | report => reportKey runId

/-- The ledger has the event of the step; that of a round has the step's flag. -/
def GraphStep.Recorded (persisted : Option RuntimeSnapshot) (runId : RunId) (step : GraphStep) :
    Prop :=
  ∃ snapshot, persisted = some snapshot ∧ ∃ event ∈ snapshot.events,
    receiptKey? event.data = some (step.key runId) ∧
      ∀ index complete, step = .round index complete →
        (Json.field? event.data "complete" == some (.bool true)) = complete

/-- The first rounds, none of which is complete. -/
def openRounds (count : Nat) : List GraphStep := (List.range count).map (.round · false)

/-- The steps of a whole run whose first complete round is `last`. -/
def wholeRun (last : Nat) : List GraphStep :=
  .plan :: (openRounds last ++ [.round last true, .verify, .report])

/-- The steps that come before a checkpoint. -/
def GraphCheckpoint.passed (checkpoint : GraphCheckpoint) : List GraphStep :=
  let rounds := checkpoint.state.executeRound
  match checkpoint.next with
  | .plan => []
  | .execute => .plan :: openRounds rounds
  | .verify => .plan :: (openRounds (rounds - 1) ++ [.round (rounds - 1) true])
  | .report => .plan :: (openRounds (rounds - 1) ++ [.round (rounds - 1) true, .verify])
  | .finish => wholeRun (rounds - 1)

end CodeMigrator
