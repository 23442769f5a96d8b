import CodeMigrator.Runtime.DraftHistories
import CodeMigrator.Runtime.StoreCalls

/-!
# API commands

`InMemoryRuntimeStore.execute_api_command` (`runtime/store.py`) with its transaction. A
command is what it asks the store for, one operation after the other, and how it ends; it may
look at every answer. The transaction undoes what was done by a list of callbacks, which are
kept here as data. A Draft fact that was added holds the store's lock until the transaction
ends: another commit of the same command waits for it and goes on only when it is cancelled.
-/

namespace CodeMigrator
open Lib

/-! ## Commands -/

/-- The operations of a store that take the transaction of a command. -/
inductive ApiOperation (α ε : Type) where
  | create (state : RunState) (events : List EventSpec) (evolution : Option EvolutionSegmentDraft)
  | commitDraftOwnerFact (call : DraftCall α ε)

/-- What an operation returns. -/
inductive ApiReply where
  | snapshot (snapshot : RuntimeSnapshot)
  | receipt (receipt : DraftOwnerReceipt)

/-- The exceptions of a call. -/
inductive ApiFailure where
  | store (failure : RuntimeFailure)
  | draft (failure : DraftFailure)
  | cancelled
  | raised (message : String)

/-- A command. -/
inductive ApiCommand (α ε ω : Type) where
  | done (value : ω)
  | raise (failure : ApiFailure)
  | call (operation : ApiOperation α ε) (next : Except ApiFailure ApiReply → ApiCommand α ε ω)

/-- `tuple[str, UUID, str]`: the kind, the id and the receipt key of an owner. -/
structure ApiOwner where
  kind : String
  ownerId : UUID
  receiptKey : String

/-- The arguments of `execute_api_command`; `rejects` is the verdict of the secret registry
on the events of a Run. -/
structure ApiCall (α ε ω ρ : Type) where
  principalId : String
  route : String
  key : String
  canonicalBody : List UInt8
  statusCode : Nat
  command : ApiCommand α ε ω
  projectResponse : ω → Except ApiFailure ρ
  ownerReceipt : ω → Except ApiFailure (Option ApiOwner)
  createDraftGraphHandoff : Bool
  rejects : EventData → Bool

/-- The scope of an outcome. -/
abbrev ApiScope := String × String × String

def ApiCall.scope {α ε ω ρ : Type} (call : ApiCall α ε ω ρ) : ApiScope :=
  (call.principalId, call.route, call.key)

/-- The outcome of a command. -/
structure ApiOutcome (ρ : Type) where
  response : ρ
  statusCode : Nat
  owner : Option ApiOwner

/-- What `execute_api_command` returns. -/
inductive ApiAnswer (ρ : Type) where
  | conflict
  | outcome (outcome : ApiOutcome ρ) (replayed : Bool)

/-! ## The store -/

/-- The status of a Draft's graph start. -/
inductive HandoffStatus where
  | pending
  | started
  deriving DecidableEq

/-- The store with the facts of Drafts, the outcomes of API commands and the handoffs. -/
structure ApiStore (φ δ ρ : Type) extends EvolvingStore where
  draft : DraftTables φ δ
  apiCommands : Dict ApiScope (Sha256 × ApiOutcome ρ × Nat)
  graphStartHandoffs : Dict RunId String
  draftGraphStartHandoffs : Dict (UUID × String) HandoffStatus

/-- The digests and encodings. -/
structure ApiCodec (α ε φ δ : Type) extends DraftCodec α ε φ δ where
  sha256 : List UInt8 → Sha256
  intentDigest : IntegrationIntent → String → Sha256

/-- A callback of `after_rollback`. -/
inductive Undo (δ : Type) where
  | popSnapshot (runId : RunId)
  | rollbackDraftFact (key : DraftFactKey) (appended : List (DraftSessionEvent δ))

/-- `RuntimeStoreTransaction` while it is active. -/
structure ApiTransaction (δ : Type) where
  afterRollback : List (Undo δ)
  holdsLock : Bool

/-- The Run that a callback drops. -/
def Undo.runId? {δ : Type} : Undo δ → Option RunId
  | popSnapshot runId => some runId
  | rollbackDraftFact _ _ => none

/-- The fact that a callback drops. -/
def Undo.fact? {δ : Type} : Undo δ → Option (DraftFactKey × List (DraftSessionEvent δ))
  | popSnapshot _ => none
  | rollbackDraftFact key appended => some (key, appended)

/-- The time for which an outcome is kept, in microseconds. -/
def outcomeLifetime : Nat := 24 * 60 * 60 * 1000000

namespace ApiStore

variable {α ε φ δ ω ρ : Type}

/-- `InMemoryRuntimeStore()`. -/
def empty : ApiStore φ δ ρ :=
  { EvolvingStore.empty with
    draft := .empty, apiCommands := .empty, graphStartHandoffs := .empty
    draftGraphStartHandoffs := .empty }

/-- `evolution_segments`. -/
def evolutionSegments (store : ApiStore φ δ ρ) (runId : RunId) : List EvolutionSegment :=
  (store.evolution.get? runId).getD []

/-- `create` with a transaction. -/
def createInTransaction (store : ApiStore φ δ ρ) (rejects : EventData → Bool) (state : RunState)
    (events : List EventSpec) (evolution : Option EvolutionSegmentDraft) :
    ApiStore φ δ ρ × Except RuntimeFailure RuntimeSnapshot :=
  let result := store.write rejects state events evolution
  ({ store with toEvolvingStore := result.1 },
    result.2.map fun _ => ⟨state, result.1.ledger state.runId⟩)

/-- One callback. -/
def undo (store : ApiStore φ δ ρ) : Undo δ → ApiStore φ δ ρ
  | .popSnapshot runId => { store with snapshots := store.snapshots.erase runId }
  | .rollbackDraftFact key appended =>
    { store with draft := store.draft.rollbackDraftFact key appended }

/-- `transaction.finish(committed=False)`. -/
def rollback (store : ApiStore φ δ ρ) (transaction : ApiTransaction δ) : ApiStore φ δ ρ :=
  transaction.afterRollback.foldl undo store

/-- `_record_in_memory_graph_handoff`: the text of the exception. -/
def recordInMemoryGraphHandoff (store : ApiStore φ δ ρ) (owner : Option ApiOwner) :
    Option String :=
  match owner with
  | none => none
  | some owner =>
    if owner.kind = "draft" then
      if (store.draft.facts.get? (owner.ownerId, owner.receiptKey)).isNone then
        some "API command has no committed Draft owner receipt"
      else none
    else if owner.kind ≠ "run" then some "unsupported API command owner receipt"
    else if (store.ledger owner.ownerId).any (fun event =>
        event.eventType = "run.created" ∧
          Json.field? event.data "receipt_key" = some (.str owner.receiptKey)) then none
    else some "API command has no committed RunCreated receipt"

/-- The store with the outcome of a command and its handoffs. -/
def recordOutcome (store : ApiStore φ δ ρ) (scope : ApiScope) (digest : Sha256)
    (outcome : ApiOutcome ρ) (now : Nat) (createDraftGraphHandoff : Bool) : ApiStore φ δ ρ :=
  { store with
    apiCommands :=
      (store.apiCommands.erase scope).set scope (digest, outcome, now + outcomeLifetime)
    graphStartHandoffs :=
      match outcome.owner with
      | some owner =>
        if owner.kind = "run" then store.graphStartHandoffs.set owner.ownerId owner.receiptKey
        else store.graphStartHandoffs
      | none => store.graphStartHandoffs
    draftGraphStartHandoffs :=
      match outcome.owner with
      | some owner =>
        if owner.kind = "draft" ∧ createDraftGraphHandoff ∧
            (store.draftGraphStartHandoffs.get? (owner.ownerId, owner.receiptKey)).isNone then
          store.draftGraphStartHandoffs.set (owner.ownerId, owner.receiptKey) .pending
        else store.draftGraphStartHandoffs
      | none => store.draftGraphStartHandoffs }

/-- The outcome of the scope, when it has not expired. -/
def liveOutcome (store : ApiStore φ δ ρ) (scope : ApiScope) (now : Nat) :
    Option (Sha256 × ApiOutcome ρ × Nat) :=
  (store.apiCommands.get? scope).filter (fun entry => now < entry.2.2)

section Execute

variable [DecidableEq φ] [DecidableEq δ] (codec : ApiCodec α ε φ δ)

/-- `commit_draft_owner_fact` under the lock. -/
def commitDraftFact (store : ApiStore φ δ ρ) (fact : PreparedFact φ δ) :
    ApiStore φ δ ρ × Except DraftFailure (CommittedFact δ) :=
  match store.draft.commitDraftFactLocked store.failNext fact with
  | (_, .error (.injected message)) => ({ store with failNext := false }, .error (.injected message))
  | (_, .error failure) => (store, .error failure)
  | (tables, .ok committed) => ({ store with draft := tables }, .ok committed)

/-- An operation with the transaction of the command. -/
def perform (rejects : EventData → Bool) (store : ApiStore φ δ ρ) (transaction : ApiTransaction δ) :
    ApiOperation α ε → ApiStore φ δ ρ × ApiTransaction δ × Except ApiFailure ApiReply
  | .create state events evolution =>
    match store.createInTransaction rejects state events evolution with
    | (store, .error failure) => (store, transaction, .error (.store failure))
    | (store, .ok snapshot) =>
      (store, { transaction with
        afterRollback := transaction.afterRollback ++ [.popSnapshot state.runId] },
        .ok (.snapshot snapshot))
  | .commitDraftOwnerFact call =>
    match codec.prepareFact call with
    | .error failure => (store, transaction, .error (.draft failure))
    | .ok fact =>
      if transaction.holdsLock then (store, transaction, .error .cancelled)
      else
        match store.commitDraftFact fact with
        | (store, .error failure) => (store, transaction, .error (.draft failure))
        | (store, .ok committed) =>
          (store,
            if committed.created then
              ⟨transaction.afterRollback ++ [.rollbackDraftFact fact.key committed.appended],
                true⟩
            else transaction, .ok (.receipt committed.receipt))

/-- `await command(transaction)`. -/
def runCommand (rejects : EventData → Bool) : ApiCommand α ε ω → ApiStore φ δ ρ →
    ApiTransaction δ → ApiStore φ δ ρ × ApiTransaction δ × Except ApiFailure ω
  | .done value, store, transaction => (store, transaction, .ok value)
  | .raise failure, store, transaction => (store, transaction, .error failure)
  | .call operation next, store, transaction =>
    let result := store.perform codec rejects transaction operation
    runCommand rejects (next result.2.2) result.1 result.2.1

/-- What `execute_api_command` has after its command: the outcome, or the exception of
`command`, `project_response`, `owner_receipt` or the check of the owner's receipt. -/
def commandOutcome (call : ApiCall α ε ω ρ) (store : ApiStore φ δ ρ) (value : Except ApiFailure ω) :
    Except ApiFailure (ApiOutcome ρ) := do
  let value ← value
  let response ← call.projectResponse value
  let owner ← call.ownerReceipt value
  match store.recordInMemoryGraphHandoff owner with
  | some message => throw (.store (.storeCommitError message))
  | none => return ⟨response, call.statusCode, owner⟩

/-- `execute_api_command` when there is no live outcome. -/
def runApiCommand (store : ApiStore φ δ ρ) (call : ApiCall α ε ω ρ) (now : Nat) :
    ApiStore φ δ ρ × Except ApiFailure (ApiAnswer ρ) :=
  let (after, transaction, value) := runCommand codec call.rejects call.command store ⟨[], false⟩
  match commandOutcome call after value with
  | .error failure => (after.rollback transaction, .error failure)
  | .ok outcome =>
    (after.recordOutcome call.scope (codec.sha256 call.canonicalBody) outcome now
      call.createDraftGraphHandoff, .ok (.outcome outcome false))

/-- `execute_api_command`; `now` is the time at its start. -/
def executeApiCommand (store : ApiStore φ δ ρ) (call : ApiCall α ε ω ρ) (now : Nat) :
    ApiStore φ δ ρ × Except ApiFailure (ApiAnswer ρ) :=
  match store.liveOutcome call.scope now with
  | some (digest, outcome, _) =>
    if digest ≠ codec.sha256 call.canonicalBody then (store, .ok .conflict)
    else (store, .ok (.outcome outcome true))
  | none => store.runApiCommand codec call now

end Execute

end ApiStore

end CodeMigrator
