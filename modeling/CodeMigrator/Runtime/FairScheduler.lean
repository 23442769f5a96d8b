import CodeMigrator.Core.Plan
import CodeMigrator.Lib.Transition
import Mathlib.Data.Finset.Lattice.Fold

/-!
# The fair scheduler

`ReadySlice` and `FairScheduler` of `runtime/scheduler.py`, with the write scope that
`ExecutionWorkItem` (`runtime/execution_agent.py`) demands of a ready slice. Sets of the source
are finite sets; a `defaultdict` is a dictionary that is read with the empty value. Every call is an
operation of a step function, so that a history is a list of operations.
-/

namespace CodeMigrator
open Lib

/-! ## Write scopes -/

namespace FairScheduler

/-- `_scopes_overlap` of the scheduler: equal paths, or one below the other. -/
def scopesOverlap (left right : List String) : Bool :=
  left.any fun first => right.any fun second =>
    first == second || startsWith first (rstrip second '/' ++ "/") ||
      startsWith second (rstrip first '/' ++ "/")

/-- The write scope of a ready slice: `write_paths` together with `create_roots`. -/
def writeScope (scope : WriteScopeOut) : List String :=
  (scope.writePaths ++ scope.createRoots).map (·.text)

theorem scopesOverlap_iff (left right : WriteScopeOut) :
    scopesOverlap (writeScope left) (writeScope right) = true ↔
      ∃ first ∈ left.writePaths ++ left.createRoots,
        ∃ second ∈ right.writePaths ++ right.createRoots,
          first.text = second.text ∨ Below first.text second.text ∨
            Below second.text first.text := by
  simp only [scopesOverlap, writeScope, List.any_map, List.any_eq_true, Function.comp_apply,
    Bool.or_eq_true, beq_iff_eq, RepoRelativePath.rstrip_text, startsWith_slash_iff, or_assoc]

end FairScheduler

/-! ## Ready slices -/

/-- `ResourcePool`. -/
inductive ResourcePool where
  | model | sandbox | adjudication
  deriving DecidableEq

/-- `ReadySlice` after `__post_init__`. -/
structure ReadySlice where
  runId : String
  sliceId : String
  dependencies : Finset String
  writeScope : Finset String
  resourcePool : ResourcePool
  generation : Int
  orderedBeforeDependencies : Finset String
  requiresDependencies : Finset String
  generationNatural : 0 ≤ generation
  kindsCover : dependencies = orderedBeforeDependencies ∪ requiresDependencies
  deriving DecidableEq

/-- The key of reservations: the Run, the slice and the generation. -/
abbrev SliceIdentity := String × String × Int

namespace ReadySlice

def identity (item : ReadySlice) : SliceIdentity := (item.runId, item.sliceId, item.generation)

end ReadySlice

/-! ## The scheduler -/

/-- `FairScheduler`. -/
structure FairScheduler where
  queues : Dict String (List ReadySlice)
  integrated : Dict String (Finset String)
  terminalFailed : Dict String (Finset String)
  awaitingIntegration : Finset SliceIdentity
  inFlight : Finset SliceIdentity
  inFlightScopes : Dict SliceIdentity (Finset String)
  runOrder : List String
  cursor : Nat

namespace FairScheduler

/-- Two paths are equal, or one is below the other. -/
def pathsOverlap (first second : String) : Bool :=
  first == second || startsWith first (rstrip second '/' ++ "/") ||
    startsWith second (rstrip first '/' ++ "/")

/-- `_scopes_overlap` on the sets of the scheduler. -/
def overlaps (left right : Finset String) : Bool :=
  decide (∃ first ∈ left, ∃ second ∈ right, pathsOverlap first second = true)

/-- `FairScheduler()`. -/
def empty : FairScheduler := ⟨.empty, .empty, .empty, ∅, ∅, .empty, [], 0⟩

/-- `self._queues[run_id]`. -/
def queue (scheduler : FairScheduler) (runId : String) : List ReadySlice :=
  (scheduler.queues.get? runId).getD []

/-- `self._integrated[run_id]`. -/
def integratedIn (scheduler : FairScheduler) (runId : String) : Finset String :=
  (scheduler.integrated.get? runId).getD ∅

/-- `self._terminal_failed[run_id]`. -/
def failedIn (scheduler : FairScheduler) (runId : String) : Finset String :=
  (scheduler.terminalFailed.get? runId).getD ∅

/-- The item that is queued for a slice. -/
def queuedItem (scheduler : FairScheduler) (runId sliceId : String) : Option ReadySlice :=
  (scheduler.queue runId).find? (·.sliceId = sliceId)

/-- `_generation_for`. -/
def generationFor (scheduler : FairScheduler) (runId sliceId : String) (generation : Option Int) :
    Option Int :=
  match generation with
  | some generation => some generation
  | none => (scheduler.queuedItem runId sliceId).map (·.generation)

/-- The awaiting marks of a slice are removed. -/
def clearAwaiting (scheduler : FairScheduler) (runId sliceId : String) : FairScheduler :=
  { scheduler with
    awaitingIntegration := scheduler.awaitingIntegration.filter
      (fun identity => (identity.1, identity.2.1) ≠ (runId, sliceId)) }

/-- The reservation of an identity is removed. -/
def unreserve (scheduler : FairScheduler) (identity : SliceIdentity) : FairScheduler :=
  { scheduler with
    inFlight := scheduler.inFlight.erase identity
    inFlightScopes := scheduler.inFlightScopes.erase identity }

/-- The facts of a slice are forgotten when it is submitted under another generation. -/
def forget (scheduler : FairScheduler) (runId sliceId : String) : FairScheduler :=
  { scheduler.clearAwaiting runId sliceId with
    integrated := scheduler.integrated.set runId ((scheduler.integratedIn runId).erase sliceId)
    terminalFailed :=
      scheduler.terminalFailed.set runId ((scheduler.failedIn runId).erase sliceId) }

def setQueue (scheduler : FairScheduler) (runId : String) (queue : List ReadySlice) :
    FairScheduler :=
  { scheduler with queues := scheduler.queues.set runId queue }

/-- A Run that is seen for the first time joins the order. -/
def opened (scheduler : FairScheduler) (runId : String) : FairScheduler :=
  if (scheduler.queues.get? runId).isNone then
    { scheduler with runOrder := scheduler.runOrder ++ [runId] }
  else scheduler

/-- `submit`. -/
def submit (scheduler : FairScheduler) (item : ReadySlice) : FairScheduler × Except String Unit :=
  let opened := scheduler.opened item.runId
  match (scheduler.queue item.runId).findIdx? (·.sliceId = item.sliceId) with
  | none => (opened.setQueue item.runId (scheduler.queue item.runId ++ [item]), .ok ())
  | some index =>
    match (scheduler.queue item.runId)[index]? with
    | none => (opened, .ok ())
    | some existing =>
      if existing.identity ∈ scheduler.inFlight ∧ existing.identity ≠ item.identity then
        (opened, .error "cannot replace a Slice generation while it is in flight")
      else if existing ≠ item ∧ existing.identity ∈ scheduler.inFlight then
        (opened, .error "cannot replace in-flight Slice scheduling facts")
      else
        let cleared :=
          if existing.generation ≠ item.generation then opened.forget item.runId item.sliceId
          else opened
        (cleared.setQueue item.runId ((scheduler.queue item.runId).set index item), .ok ())

/-- `mark_integrated`, and its alias `complete`. -/
def markIntegrated (scheduler : FairScheduler) (runId sliceId : String)
    (generation : Option Int) : FairScheduler :=
  let current := scheduler.generationFor runId sliceId none
  let marked :=
    if generation = none ∨ generation = current then
      { scheduler.clearAwaiting runId sliceId with
        integrated := scheduler.integrated.set runId (insert sliceId (scheduler.integratedIn runId))
        terminalFailed :=
          scheduler.terminalFailed.set runId ((scheduler.failedIn runId).erase sliceId) }
    else scheduler
  match generation <|> current with
  | none => marked
  | some selected => marked.unreserve (runId, sliceId, selected)

/-- `release`. -/
def release (scheduler : FairScheduler) (runId sliceId : String) (generation : Option Int) :
    FairScheduler :=
  match scheduler.generationFor runId sliceId generation with
  | none => scheduler
  | some selected => scheduler.unreserve (runId, sliceId, selected)

/-- `await_integration`. -/
def awaitIntegration (scheduler : FairScheduler) (runId sliceId : String) (generation : Int) :
    FairScheduler × Except String Unit :=
  if generation < 0 then
    (scheduler, .error "candidate generation must be a non-negative integer")
  else
    (({ scheduler with
        awaitingIntegration :=
          insert (runId, sliceId, generation) scheduler.awaitingIntegration }).unreserve
      (runId, sliceId, generation), .ok ())

/-- `restore_committed_facts`. -/
def restoreCommittedFacts (scheduler : FairScheduler) (runId : String)
    (integratedSliceIds terminalFailureSliceIds : Finset String) : FairScheduler :=
  { scheduler with
    integrated := scheduler.integrated.set runId integratedSliceIds
    terminalFailed := scheduler.terminalFailed.set runId (terminalFailureSliceIds \ integratedSliceIds)
    awaitingIntegration := scheduler.awaitingIntegration.filter (fun identity => identity.1 ≠ runId) }

/-- The scopes that are reserved in a Run. -/
def reservedScopes (scheduler : FairScheduler) (runId : String) : Finset String :=
  ((scheduler.inFlightScopes.entries.filter (fun entry => entry.1.1 = runId)).map
    Prod.snd).foldr (· ∪ ·) ∅

/-- The slice is neither settled nor reserved, and its predecessors are settled. -/
def isReady (scheduler : FairScheduler) (runId : String) (item : ReadySlice) : Bool :=
  decide (item.sliceId ∉ scheduler.integratedIn runId ∧ item.sliceId ∉ scheduler.failedIn runId ∧
    item.identity ∉ scheduler.inFlight ∧ item.identity ∉ scheduler.awaitingIntegration ∧
    item.requiresDependencies ⊆ scheduler.integratedIn runId ∧
    item.orderedBeforeDependencies ⊆ scheduler.integratedIn runId ∪ scheduler.failedIn runId)

/-- The first item of a Run that can be dispatched. -/
def candidate (scheduler : FairScheduler) (activeScopes : Finset String)
    (availablePools : Finset ResourcePool) (runId : String) : Option ReadySlice :=
  (scheduler.queue runId).find? fun item =>
    scheduler.isReady runId item && decide (item.resourcePool ∈ availablePools) &&
      !overlaps item.writeScope (activeScopes ∪ scheduler.reservedScopes runId)

/-- The Runs are visited from the cursor on: the position of the first one that has a
candidate, and the candidate. -/
def selection (scheduler : FairScheduler) (activeScopes : Finset String)
    (availablePools : Finset ResourcePool) (onlyRunId : Option String) :
    Option (Nat × ReadySlice) :=
  (List.range scheduler.runOrder.length).findSome? fun offset =>
    let index := (scheduler.cursor + offset) % scheduler.runOrder.length
    match scheduler.runOrder[index]? with
    | none => none
    | some runId =>
      if onlyRunId.any (· ≠ runId) then none
      else (scheduler.candidate activeScopes availablePools runId).map (index, ·)

/-- `next`. -/
def next (scheduler : FairScheduler) (activeScopes : Finset String)
    (availablePools : Finset ResourcePool) (onlyRunId : Option String) :
    FairScheduler × Option ReadySlice :=
  match scheduler.selection activeScopes availablePools onlyRunId with
  | none => (scheduler, none)
  | some (index, item) =>
    ({ scheduler with
        inFlight := insert item.identity scheduler.inFlight
        inFlightScopes := scheduler.inFlightScopes.set item.identity item.writeScope
        cursor := (index + 1) % scheduler.runOrder.length }, some item)

/-- The calls of a scheduler. -/
inductive Operation where
  | submit (item : ReadySlice)
  | next (activeScopes : Finset String) (availablePools : Finset ResourcePool)
      (onlyRunId : Option String)
  | release (runId sliceId : String) (generation : Option Int)
  | awaitIntegration (runId sliceId : String) (generation : Int)
  | markIntegrated (runId sliceId : String) (generation : Option Int)
  | restoreCommittedFacts (runId : String) (integratedSliceIds terminalFailureSliceIds : Finset String)

/-- The scheduler after a call. -/
def step (scheduler : FairScheduler) : Operation → FairScheduler
  | .submit item => (scheduler.submit item).1
  | .next activeScopes availablePools onlyRunId =>
    (scheduler.next activeScopes availablePools onlyRunId).1
  | .release runId sliceId generation => scheduler.release runId sliceId generation
  | .awaitIntegration runId sliceId generation =>
    (scheduler.awaitIntegration runId sliceId generation).1
  | .markIntegrated runId sliceId generation => scheduler.markIntegrated runId sliceId generation
  | .restoreCommittedFacts runId integratedSliceIds terminalFailureSliceIds =>
    scheduler.restoreCommittedFacts runId integratedSliceIds terminalFailureSliceIds

end FairScheduler

end CodeMigrator
