import CodeMigrator.Lib.Dict
import CodeMigrator.Lib.Transition
import Mathlib.Data.Finset.Basic

/-!
# The integration channel

`IntegrationCoordinator` of `runtime/integration.py`: ordinary and repair items of all Runs wait
in one queue, and at most the head of it is being integrated. A history keeps the calls with
their replies, so that the order of the completions and the verified head of each start can be
read off it.
-/

namespace CodeMigrator
open Lib

/-! ## The coordinator -/

/-- `IntegrationItem`. -/
structure IntegrationItem where
  runId : String
  sliceId : String
  generation : Option Int
  candidateCommitOid : String
  prospectiveChecksPassed : Bool
  repair : Bool
  repairDecisionId : Option String
  replacesSliceId : Option String
  originalGeneration : Option Int
  deriving DecidableEq

/-- `IntegrationStart`. -/
structure IntegrationStart where
  item : IntegrationItem
  baseVerifiedOid : String
  deriving DecidableEq

/-- `IntegrationCoordinator`. -/
structure IntegrationCoordinator where
  queue : List IntegrationItem
  active : Option IntegrationItem
  verifiedOids : Dict String String
  cancelledRuns : Finset String

/-- A method of the coordinator: what it leaves behind, and what it returns or raises. -/
abbrev IntegrationResult (α : Type) := IntegrationCoordinator × Except String α

namespace IntegrationCoordinator

/-- `IntegrationCoordinator()`. -/
def init : IntegrationCoordinator := ⟨[], none, .empty, ∅⟩

/-- `enqueue`. -/
def enqueue (coordinator : IntegrationCoordinator) (item : IntegrationItem) :
    IntegrationResult Bool :=
  if item.runId ∈ coordinator.cancelledRuns then (coordinator, .ok false)
  else ({ coordinator with queue := coordinator.queue ++ [item] }, .ok true)

/-- `cancel_run`. -/
def cancelRun (coordinator : IntegrationCoordinator) (runId : String) : IntegrationCoordinator :=
  { coordinator with
    cancelledRuns := insert runId coordinator.cancelledRuns
    queue := coordinator.queue.filter (fun item => item.runId ≠ runId)
    active := coordinator.active.filter (fun item => item.runId ≠ runId) }

/-- The item that is being integrated belongs to the slice. -/
def activeSlice (coordinator : IntegrationCoordinator) (runId sliceId : String) : Bool :=
  coordinator.active.any (fun item => (item.runId, item.sliceId) = (runId, sliceId))

/-- `revoke_slice`, and its alias `revoke_placeholder`. -/
def revokeSlice (coordinator : IntegrationCoordinator) (runId sliceId : String) :
    IntegrationResult Bool :=
  if coordinator.activeSlice runId sliceId then
    (coordinator, .error "active integration item cannot be revoked")
  else
    let kept := coordinator.queue.filter
      (fun item => (item.runId, item.sliceId) ≠ (runId, sliceId))
    ({ coordinator with queue := kept }, .ok (kept.length != coordinator.queue.length))

/-- `enqueue_repair`, and its alias `append_repair`. -/
def enqueueRepair (coordinator : IntegrationCoordinator) (item : IntegrationItem) :
    IntegrationResult Bool :=
  if ¬ item.repair then
    (coordinator, .error "repair integration item must be marked repair")
  else if item.generation.isSome then
    (coordinator, .error "repair integration item must not have a Slice generation")
  else if item.repairDecisionId.getD "" = "" then
    (coordinator, .error "repair integration item requires a repair decision identity")
  else coordinator.enqueue item

/-- The items of one candidate get their prospective checks. -/
def passed (runId sliceId : String) (generation : Option Int) (item : IntegrationItem) :
    IntegrationItem :=
  if (item.runId, item.sliceId, item.generation) ≠ (runId, sliceId, generation) then item
  else { item with prospectiveChecksPassed := true }

/-- `mark_prospective_passed`. -/
def markProspectivePassed (coordinator : IntegrationCoordinator) (runId sliceId : String)
    (generation : Option Int) : IntegrationCoordinator :=
  { coordinator with queue := coordinator.queue.map (passed runId sliceId generation) }

/-- `latest_verified_oid`. -/
def latestVerifiedOid (coordinator : IntegrationCoordinator) (runId : String) : Option String :=
  coordinator.verifiedOids.get? runId

/-- `register_verified_head`. -/
def registerVerifiedHead (coordinator : IntegrationCoordinator) (runId verifiedOid : String) :
    IntegrationResult Unit :=
  if runId = "" ∨ verifiedOid = "" then
    (coordinator, .error "run_id and verified_oid must be non-empty")
  else if (coordinator.latestVerifiedOid runId).any (· ≠ verifiedOid) then
    (coordinator, .error "verified head may only advance through integration completion")
  else
    ({ coordinator with verifiedOids := coordinator.verifiedOids.set runId verifiedOid }, .ok ())

/-- The head of the queue becomes the active item. -/
def begin_ (coordinator : IntegrationCoordinator) (item : IntegrationItem) (verifiedOid : String) :
    IntegrationResult (Option IntegrationStart) :=
  ({ coordinator with active := some item }, .ok (some ⟨item, verifiedOid⟩))

/-- `start_next`. -/
def startNext (coordinator : IntegrationCoordinator) (runId : String)
    (latestVerifiedOid : Option String) : IntegrationResult (Option IntegrationStart) :=
  if coordinator.active.isSome then (coordinator, .ok none)
  else if runId ∈ coordinator.cancelledRuns then (coordinator, .ok none)
  else
    match coordinator.queue with
    | [] => (coordinator, .ok none)
    | item :: _ =>
      if item.runId ≠ runId then (coordinator, .ok none)
      else if ¬ item.prospectiveChecksPassed then (coordinator, .ok none)
      else
        match coordinator.latestVerifiedOid runId, latestVerifiedOid with
        | some verifiedOid, _ => coordinator.begin_ item verifiedOid
        | none, none => (coordinator, .ok none)
        | none, some latest =>
          match coordinator.registerVerifiedHead runId latest with
          | (_, .error text) => (coordinator, .error text)
          | (registered, .ok ()) => registered.begin_ item latest

/-- `complete`. -/
def complete (coordinator : IntegrationCoordinator) (success : Bool)
    (newVerifiedOid : Option String) : IntegrationResult (Option IntegrationItem) :=
  match coordinator.active with
  | none => (coordinator, .ok none)
  | some item =>
    if ¬ success then ({ coordinator with active := none }, .ok (some item))
    else
      match newVerifiedOid with
      | none => (coordinator, .error "successful integration requires a new verified OID")
      | some oid =>
        let verified :=
          { coordinator with verifiedOids := coordinator.verifiedOids.set item.runId oid }
        match coordinator.queue with
        | [] => (verified, .error "pop from an empty deque")
        | _ :: queue => ({ verified with queue := queue, active := none }, .ok (some item))

end IntegrationCoordinator

/-! ## Histories of calls -/

/-- The calls of the coordinator. -/
inductive IntegrationCall where
  | enqueue (item : IntegrationItem)
  | enqueueRepair (item : IntegrationItem)
  | cancelRun (runId : String)
  | revokeSlice (runId sliceId : String)
  | markProspectivePassed (runId sliceId : String) (generation : Option Int)
  | registerVerifiedHead (runId verifiedOid : String)
  | startNext (runId : String) (latestVerifiedOid : Option String)
  | complete (success : Bool) (newVerifiedOid : Option String)

/-- What a call returns, or the text that it raises. -/
inductive IntegrationReply where
  | done
  | flag (changed : Bool)
  | started (start : Option IntegrationStart)
  | completed (item : Option IntegrationItem)
  | raised (text : String)

/-- The reply of a method that returns. -/
def IntegrationReply.of {α : Type} (returned : α → IntegrationReply) :
    Except String α → IntegrationReply
  | .ok value => returned value
  | .error text => .raised text

/-- A coordinator with the calls that it has answered. -/
structure IntegrationHistory where
  coordinator : IntegrationCoordinator
  log : List (IntegrationCall × IntegrationReply)

namespace IntegrationCoordinator

/-- One call. -/
def call (coordinator : IntegrationCoordinator) :
    IntegrationCall → IntegrationCoordinator × IntegrationReply
  | .enqueue item => (coordinator.enqueue item).map id (.of .flag)
  | .enqueueRepair item => (coordinator.enqueueRepair item).map id (.of .flag)
  | .cancelRun runId => (coordinator.cancelRun runId, .done)
  | .revokeSlice runId sliceId => (coordinator.revokeSlice runId sliceId).map id (.of .flag)
  | .markProspectivePassed runId sliceId generation =>
    (coordinator.markProspectivePassed runId sliceId generation, .done)
  | .registerVerifiedHead runId verifiedOid =>
    (coordinator.registerVerifiedHead runId verifiedOid).map id (.of fun _ => .done)
  | .startNext runId latestVerifiedOid =>
    (coordinator.startNext runId latestVerifiedOid).map id (.of .started)
  | .complete success newVerifiedOid =>
    (coordinator.complete success newVerifiedOid).map id (.of .completed)

end IntegrationCoordinator

namespace IntegrationHistory

def init : IntegrationHistory := ⟨.init, []⟩

/-- The history after a call. -/
def step (history : IntegrationHistory) (call : IntegrationCall) : IntegrationHistory :=
  ⟨(history.coordinator.call call).1,
    history.log ++ [(call, (history.coordinator.call call).2)]⟩

/-! ## What a log tells -/

/-- The item that an entry of the log adds to the queue. -/
def enqueuedBy : IntegrationCall × IntegrationReply → Option IntegrationItem
  | (.enqueue item, .flag true) => some item
  | (.enqueueRepair item, .flag true) => some item
  | _ => none

/-- The item that an entry completes with success, with its new verified OID. -/
def integratedBy : IntegrationCall × IntegrationReply → Option (IntegrationItem × String)
  | (.complete true (some oid), .completed (some item)) => some (item, oid)
  | _ => none

/-- The start that an entry hands out. -/
def startedBy : IntegrationCall × IntegrationReply → Option IntegrationStart
  | (.startNext _ _, .started (some start)) => some start
  | _ => none

/-- The Run that an entry cancels. -/
def cancelledBy : IntegrationCall × IntegrationReply → Option String
  | (.cancelRun runId, _) => some runId
  | _ => none

/-- The verified head that an entry offers for a Run. -/
def headBy : IntegrationCall × IntegrationReply → Option (String × String)
  | (.registerVerifiedHead runId verifiedOid, .done) => some (runId, verifiedOid)
  | (.startNext runId (some latest), .started (some _)) => some (runId, latest)
  | _ => none

/-- The items that have entered the queue, in order. -/
def enqueued (log : List (IntegrationCall × IntegrationReply)) : List IntegrationItem :=
  log.filterMap enqueuedBy

/-- The items that were completed with success, in order, with their verified OIDs. -/
def integrated (log : List (IntegrationCall × IntegrationReply)) : List (IntegrationItem × String) :=
  log.filterMap integratedBy

/-- The OID that the last successful completion of a Run has set. -/
def lastIntegrated (runId : String) (log : List (IntegrationCall × IntegrationReply)) :
    Option String :=
  (((integrated log).filter (·.1.runId = runId)).getLast?).map Prod.snd

/-- The head that a Run got first. -/
def firstHead (runId : String) (log : List (IntegrationCall × IntegrationReply)) : Option String :=
  ((log.filterMap headBy).find? (·.1 = runId)).map Prod.snd

end IntegrationHistory

/-- The item before its prospective checks. -/
def IntegrationItem.unchecked (item : IntegrationItem) : IntegrationItem :=
  { item with prospectiveChecksPassed := false }

end CodeMigrator
