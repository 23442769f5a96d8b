import CodeMigrator.Runtime.Contracts
import CodeMigrator.Runtime.FairScheduler

/-!
# Execution rounds

`ExecutionRoundPlan` and `PersistentExecutionScheduler.advance_one_round` of
`runtime/execution_agent.py`. A round awaits its loader and later its dispatches, and rounds of
other Runs may come between; so it is the two parts that run without an await: `beginRound`, from
the loaded plan to the dispatches, and `finishRound`, from their outcomes on.
-/

namespace CodeMigrator
open Lib

/-! ## Plans -/

/-- What scheduling and dispatch read of an `ExecutionSessionMaterial`. -/
structure ExecutionSessionMaterial where
  runId : RunId
  slice : MigrationSlice
  sliceRef : SliceGenerationRef
  logicalTaskKey : String
  sameSlice : sliceRef.sliceId = slice.id
  hasBaseline : sliceRef.baselineCandidateOid ≠ none
  deriving DecidableEq

/-- `ExecutionWorkItem` after `__post_init__`. -/
structure ExecutionWorkItem where
  ready : ReadySlice
  material : ExecutionSessionMaterial
  sameRun : ready.runId = material.runId.str
  sameSlice : ready.sliceId = material.slice.id.str
  sameGeneration : ready.generation = (material.sliceRef.generation : Nat)
  sameScope : ready.writeScope =
    (FairScheduler.writeScope material.slice.writeScope.out).toFinset
  deriving DecidableEq

/-- `ExecutionAgentOutcome`, and `ExecutionRecoveredTerminal` with the same fields. -/
structure ExecutionAgentOutcome where
  record : AgentRun
  candidateReceipt : Option CheckpointReceipt
  deriving DecidableEq

/-- `_validate_candidate_receipt`; an absent baseline reads as `None`. -/
def candidateReceiptMatches (runId : RunId) (sliceRef : SliceGenerationRef)
    (receipt : CheckpointReceipt) : Bool :=
  let expectedOid := sliceRef.baselineCandidateOid.getD "None"
  let candidate := receipt.manifest.sliceCandidate
  decide (receipt.runId = runId ∧ receipt.sliceId = sliceRef.sliceId ∧
    receipt.generation = sliceRef.generation ∧ receipt.expectedCandidateOid = expectedOid ∧
    candidate.runId = runId ∧ candidate.sliceId = sliceRef.sliceId ∧
    candidate.generation = sliceRef.generation ∧ candidate.candidateCommitOid = expectedOid ∧
    receipt.manifest.scopeCheckPassed ∧ receipt.newCandidateOid ≠ expectedOid)

/-- The fields of `ExecutionRoundPlan`. The pending integrations are in the order in which the
round goes through them. -/
structure ExecutionRoundPlanFields where
  runId : RunId
  workItems : List ExecutionWorkItem
  completedSliceIds : Finset String
  allSliceIds : Finset String
  availablePools : Finset ResourcePool
  recoveredTerminals : List ExecutionAgentOutcome
  terminalSliceFailures : Finset String
  pendingIntegrations : List (String × Int)

/-- The slice of a terminal, as text. -/
def ExecutionAgentOutcome.sliceText (terminal : ExecutionAgentOutcome) : Option String :=
  terminal.record.sliceRef.map (·.sliceId.str)

namespace ExecutionRoundPlanFields

/-- The slices of the work items. -/
def ids (plan : ExecutionRoundPlanFields) : List String := plan.workItems.map (·.ready.sliceId)

/-- The slices of the recovered terminals. -/
def recoveredIds (plan : ExecutionRoundPlanFields) : List String :=
  plan.recoveredTerminals.filterMap ExecutionAgentOutcome.sliceText

/-- What `__post_init__` demands of a recovered terminal. -/
structure RecoveredValid (checkpointReceiptDigest : CheckpointReceipt → Option Sha256)
    (runId : RunId) (terminal : ExecutionAgentOutcome) : Prop where
  owner : terminal.record.ownerKind = "run" ∧ terminal.record.ownerId = runId
  phase : terminal.record.phase = .execute
  hasSlice : terminal.record.sliceRef ≠ none
  closed : terminal.record.isTerminal = true
  completed : terminal.record.exit = some .completed ↔ terminal.candidateReceipt ≠ none
  receiptMatches : ∀ receipt sliceRef, terminal.candidateReceipt = some receipt →
    terminal.record.sliceRef = some sliceRef →
    candidateReceiptMatches runId sliceRef receipt = true ∧
      ∃ digest, checkpointReceiptDigest receipt = some digest ∧
        terminal.record.candidateCheckpointSha256 = some digest.text
  noReceipt : terminal.candidateReceipt = none → terminal.record.candidateCheckpointSha256 = none

/-- The checks of `__post_init__`. -/
structure Valid (checkpointReceiptDigest : CheckpointReceipt → Option Sha256)
    (plan : ExecutionRoundPlanFields) : Prop where
  idsDistinct : plan.ids.Nodup
  recoveredDistinct : plan.recoveredIds.Nodup
  completedKnown : plan.completedSliceIds ⊆ plan.allSliceIds
  failuresKnown : plan.terminalSliceFailures ⊆ plan.allSliceIds
  pendingKnown : ∀ pending ∈ plan.pendingIntegrations, 0 ≤ pending.2 ∧ pending.1 ∈ plan.allSliceIds
  completedApart : ∀ sliceId ∈ plan.ids ++ plan.recoveredIds, sliceId ∉ plan.completedSliceIds
  recoveredApart : ∀ sliceId ∈ plan.ids, sliceId ∉ plan.recoveredIds
  pendingApart : ∀ item ∈ plan.workItems,
    (item.ready.sliceId, item.ready.generation) ∉ plan.pendingIntegrations
  sameRun : ∀ item ∈ plan.workItems,
    item.material.runId = plan.runId ∧ item.ready.runId = plan.runId.str
  idsKnown : ∀ sliceId ∈ plan.ids ++ plan.recoveredIds, sliceId ∈ plan.allSliceIds
  dependenciesKnown : ∀ item ∈ plan.workItems, item.ready.dependencies ⊆ plan.allSliceIds
  hasPool : plan.availablePools = ∅ → plan.workItems = []
  recoveredValid : ∀ terminal ∈ plan.recoveredTerminals,
    RecoveredValid checkpointReceiptDigest plan.runId terminal

end ExecutionRoundPlanFields

/-- `ExecutionRoundPlan`, for the digest of checkpoint receipts. -/
structure ExecutionRoundPlan (checkpointReceiptDigest : CheckpointReceipt → Option Sha256) extends
    ExecutionRoundPlanFields where
  valid : toExecutionRoundPlanFields.Valid checkpointReceiptDigest

namespace ExecutionRoundPlan

variable {checkpointReceiptDigest : CheckpointReceipt → Option Sha256}

/-- `complete`. -/
def complete (plan : ExecutionRoundPlan checkpointReceiptDigest) : Bool :=
  decide (plan.allSliceIds ⊆ plan.completedSliceIds)

/-- `work_by_slice.get`. -/
def workBySlice (plan : ExecutionRoundPlan checkpointReceiptDigest) (sliceId : String) :
    Option ExecutionWorkItem :=
  plan.workItems.find? (·.ready.sliceId = sliceId)

end ExecutionRoundPlan

/-! ## Begin of a round -/

/-- What a round raises. -/
inductive RoundError where
  | valueError (text : String)
  | stalled (text : String)
  | dispatch (text : String)
  | cancelled
  deriving DecidableEq

/-- A round whose dispatches are running. -/
structure DispatchedRound (checkpointReceiptDigest : CheckpointReceipt → Option Sha256) where
  plan : ExecutionRoundPlan checkpointReceiptDigest
  selected : List ExecutionWorkItem
  completedWriteIds : List AgentRunId
  candidateClaims : List CandidateCheckpointClaim
  terminalIds : List AgentRunId

/-- A round is over at once, or waits for its dispatches. -/
inductive BegunRound (checkpointReceiptDigest : CheckpointReceipt → Option Sha256) where
  | complete (decision : ExecutionRoundDecision)
  | dispatched (round : DispatchedRound checkpointReceiptDigest)

namespace FairScheduler

/-- Calls made one after the other, until one of them raises. -/
def inTurn {α : Type} (call : FairScheduler → α → FairScheduler × Except String Unit) :
    FairScheduler → List α → FairScheduler × Except String Unit
  | scheduler, [] => (scheduler, .ok ())
  | scheduler, x :: xs =>
    match call scheduler x with
    | (next, .error text) => (next, .error text)
    | (next, .ok ()) => inTurn call next xs

/-- The items of a round are released. -/
def releaseAll (scheduler : FairScheduler) (runId : String) (items : List ExecutionWorkItem) :
    FairScheduler :=
  items.foldl (fun scheduler item =>
    scheduler.release runId item.ready.sliceId (some item.ready.generation)) scheduler

end FairScheduler

namespace ExecutionRounds
open FairScheduler

variable {checkpointReceiptDigest : CheckpointReceipt → Option Sha256}

/-- The committed facts, the pending integrations and the work items of the plan reach the
scheduler. -/
def restorePlan (scheduler : FairScheduler) (plan : ExecutionRoundPlan checkpointReceiptDigest) :
    FairScheduler × Except String Unit :=
  let runKey := plan.runId.str
  let restored :=
    scheduler.restoreCommittedFacts runKey plan.completedSliceIds plan.terminalSliceFailures
  match inTurn (fun scheduler pending => scheduler.awaitIntegration runKey pending.1 pending.2)
      restored plan.pendingIntegrations with
  | (next, .error text) => (next, .error text)
  | (next, .ok ()) => inTurn (fun scheduler item => scheduler.submit item.ready) next plan.workItems

/-- The selection loop: the scheduler, the slices that `next` has returned, and the selected
items. -/
structure Selection where
  scheduler : FairScheduler
  offered : List ReadySlice
  items : Except RoundError (List ExecutionWorkItem)

/-- The selection loop, with the number of places that are left. -/
def select (plan : ExecutionRoundPlan checkpointReceiptDigest) :
    Nat → FairScheduler → Finset String → List ReadySlice → List ExecutionWorkItem → Selection
  | 0, scheduler, _, offered, selected => ⟨scheduler, offered, .ok selected⟩
  | places + 1, scheduler, activeScopes, offered, selected =>
    match scheduler.next activeScopes plan.availablePools (some plan.runId.str) with
    | (scheduler, none) => ⟨scheduler, offered, .ok selected⟩
    | (scheduler, some ready) =>
      match (plan.workBySlice ready.sliceId).filter (·.ready = ready) with
      | none =>
        ⟨(scheduler.release ready.runId ready.sliceId (some ready.generation)).releaseAll
            plan.runId.str selected,
          offered ++ [ready],
          .error (.stalled
            "EXECUTE scheduler selected a Slice absent from the frozen round plan")⟩
      | some item =>
        select plan places scheduler (activeScopes ∪ ready.writeScope) (offered ++ [ready])
          (selected ++ [item])

/-- A recovered candidate is marked as awaiting its integration and claimed. -/
def recover (scheduler : FairScheduler) (runKey : String) :
    List ExecutionAgentOutcome → FairScheduler × Except String Unit :=
  inTurn (fun scheduler terminal =>
    match terminal.candidateReceipt, terminal.record.sliceRef with
    | some _, some sliceRef =>
      scheduler.awaitIntegration runKey sliceRef.sliceId.str (sliceRef.generation : Nat)
    | _, _ => (scheduler, .ok ())) scheduler

/-- The claim of a terminal that has a candidate. -/
def claimOf (outcome : ExecutionAgentOutcome) : Option CandidateCheckpointClaim :=
  outcome.candidateReceipt.map fun receipt => ⟨outcome.record.agentRunId, some receipt⟩

/-- The part of `advance_one_round` between the loader and the dispatches: the scheduler, the
slices that `next` has returned, and what the round comes to. -/
def beginRound (maxParallelism : Nat) (scheduler : FairScheduler) (runId : RunId)
    (plan : ExecutionRoundPlan checkpointReceiptDigest) :
    FairScheduler × List ReadySlice × Except RoundError (BegunRound checkpointReceiptDigest) :=
  if plan.runId ≠ runId then
    (scheduler, [], .error (.valueError "EXECUTE round loader returned facts for another Run"))
  else
    match restorePlan scheduler plan with
    | (restored, .error text) => (restored, [], .error (.valueError text))
    | (restored, .ok ()) =>
      if plan.complete then (restored, [], .ok (.complete ⟨true, 0, [], [], []⟩))
      else
        let selection := select plan maxParallelism restored ∅ [] []
        match selection.items with
        | .error error => (selection.scheduler, selection.offered, .error error)
        | .ok selected =>
          if selected = [] ∧ plan.recoveredTerminals = [] then
            (selection.scheduler, selection.offered, .error (.stalled
              "EXECUTE Run is incomplete but has no DAG-ready, resource-available Slice"))
          else
            match recover selection.scheduler plan.runId.str plan.recoveredTerminals with
            | (recovered, .error text) =>
              (recovered, selection.offered, .error (.valueError text))
            | (recovered, .ok ()) =>
              let claims := plan.recoveredTerminals.filterMap claimOf
              (recovered, selection.offered, .ok (.dispatched
                ⟨plan, selected, claims.map (·.agentRunId), claims,
                  plan.recoveredTerminals.map (·.record.agentRunId)⟩))

/-! ## Dispatches -/

/-- What the session factory and the session of a slice answer: the record that the session was
created with and the outcome of its run, where neither raises. -/
structure SessionReply where
  expected : AgentRun
  outcome : Except String ExecutionAgentOutcome

/-- The record belongs to the execution of the slice. -/
def ofSlice (material : ExecutionSessionMaterial) (record : AgentRun) : Bool :=
  decide (record.ownerKind = "run" ∧ record.ownerId = material.runId ∧ record.phase = .execute ∧
    record.sliceRef = some material.sliceRef)

variable (checkpointReceiptDigest)

/-- `_dispatch`. -/
def dispatch (item : ExecutionWorkItem) (session : Except String SessionReply) :
    Except String ExecutionAgentOutcome := do
  let session ← session
  if ¬ ofSlice item.material session.expected ∨
      session.expected.logicalTaskKey ≠ item.material.logicalTaskKey then
    throw "EXECUTE session factory returned another Slice AgentRun"
  let outcome ← session.outcome
  if outcome.record.agentRunId ≠ session.expected.agentRunId ∨
      ¬ ofSlice item.material outcome.record ∨ ¬ outcome.record.isTerminal ∨
      (outcome.record.exit = some .completed) ≠ (outcome.candidateReceipt ≠ none) then
    throw "EXECUTE session returned mismatched terminal Slice facts"
  match outcome.candidateReceipt with
  | none => return outcome
  | some receipt =>
    if ¬ candidateReceiptMatches item.material.runId item.material.sliceRef receipt then
      throw "M-08 candidate checkpoint receipt does not match the Slice AgentRun"
    match checkpointReceiptDigest receipt with
    | none => throw "Out of range float values are not JSON compliant"
    | some digest =>
      if outcome.record.candidateCheckpointSha256 ≠ some digest.text then
        throw "EXECUTE AgentRun candidate digest differs from its M-08 receipt"
      return outcome

variable {checkpointReceiptDigest}

/-- The dispatches are cancelled, or each session has answered. -/
inductive Gathered where
  | cancelled
  | answered (sessions : ExecutionWorkItem → Except String SessionReply)

/-! ## End of a round -/

/-- The outcomes are recorded one after the other. -/
def recordOutcomes (scheduler : FairScheduler) (runKey : String) :
    List (ExecutionWorkItem × ExecutionAgentOutcome) → FairScheduler × Except String Unit :=
  inTurn (fun scheduler dispatched =>
    let (item, outcome) := dispatched
    if outcome.candidateReceipt.isNone then
      (scheduler.release runKey item.ready.sliceId (some item.ready.generation), .ok ())
    else scheduler.awaitIntegration runKey item.ready.sliceId item.ready.generation) scheduler

/-- The outcomes of the selected items, or the first exception among them. -/
def outcomes (round : DispatchedRound checkpointReceiptDigest)
    (sessions : ExecutionWorkItem → Except String SessionReply) :
    Except String (List ExecutionAgentOutcome) :=
  round.selected.mapM fun item => dispatch checkpointReceiptDigest item (sessions item)

/-- The part of `advance_one_round` after the dispatches. -/
def finishRound (scheduler : FairScheduler) (round : DispatchedRound checkpointReceiptDigest) :
    Gathered → FairScheduler × Except RoundError ExecutionRoundDecision
  | .cancelled => (scheduler.releaseAll round.plan.runId.str round.selected, .error .cancelled)
  | .answered sessions =>
    match outcomes round sessions with
    | .error text =>
      (scheduler.releaseAll round.plan.runId.str round.selected, .error (.dispatch text))
    | .ok outcomes =>
      match recordOutcomes scheduler round.plan.runId.str (round.selected.zip outcomes) with
      | (recorded, .error text) => (recorded, .error (.valueError text))
      | (recorded, .ok ()) =>
        let claims := outcomes.filterMap claimOf
        (recorded, .ok
          ⟨round.plan.complete, round.selected.length,
            round.completedWriteIds ++ claims.map (·.agentRunId),
            round.candidateClaims ++ claims,
            round.terminalIds ++ outcomes.map (·.record.agentRunId)⟩)

end ExecutionRounds

/-! ## Histories of rounds -/

/-- A `PersistentExecutionScheduler` and its rounds whose dispatches are running. -/
structure ExecutionRounds (checkpointReceiptDigest : CheckpointReceipt → Option Sha256) where
  maxParallelism : Nat
  parallelismPositive : 0 < maxParallelism
  scheduler : FairScheduler
  running : List (DispatchedRound checkpointReceiptDigest)

namespace ExecutionRounds

variable {checkpointReceiptDigest : CheckpointReceipt → Option Sha256}

/-- The loader of a round returns, or the dispatches of a running round are over. -/
inductive RoundInput (checkpointReceiptDigest : CheckpointReceipt → Option Sha256) where
  | loaded (runId : RunId) (plan : ExecutionRoundPlan checkpointReceiptDigest)
  | gathered (index : Nat) (gathered : Gathered)

/-- A scheduler without rounds. -/
def init (checkpointReceiptDigest : CheckpointReceipt → Option Sha256) (maxParallelism : Nat)
    (positive : 0 < maxParallelism) : ExecutionRounds checkpointReceiptDigest :=
  ⟨maxParallelism, positive, .empty, []⟩

/-- The rounds after an input. -/
def step (state : ExecutionRounds checkpointReceiptDigest) :
    RoundInput checkpointReceiptDigest → ExecutionRounds checkpointReceiptDigest
  | .loaded runId plan =>
    match beginRound state.maxParallelism state.scheduler runId plan with
    | (scheduler, _, .ok (.dispatched round)) =>
      { state with scheduler := scheduler, running := state.running ++ [round] }
    | (scheduler, _, _) => { state with scheduler := scheduler }
  | .gathered index gathered =>
    match state.running[index]? with
    | none => state
    | some round =>
      { state with
        scheduler := (finishRound state.scheduler round gathered).1
        running := state.running.eraseIdx index }

end ExecutionRounds

end CodeMigrator
