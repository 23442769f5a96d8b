import CodeMigrator.Core.Ids
import CodeMigrator.Lib.Dict
import CodeMigrator.Lib.Transition
import Mathlib.Data.List.Sort

/-!
# Facts of a Draft

The tables in which `InMemoryRuntimeStore` (`runtime/store.py`) keeps the owner facts of
Drafts and their session events, with `commit_draft_owner_fact` and the rollback of a fact
that was committed inside a transaction. The body of a fact is a `φ` and the data of an event
a `δ`; their equality is that of the source. `encode` is the canonical encoding of a body
with its digest, `prepare` is `_prepare_draft_events`.
-/

namespace CodeMigrator
open Lib

/-! ## Tables -/

/-- `DraftOwnerReceipt`. -/
structure DraftOwnerReceipt where
  draftId : UUID
  receiptKey : String
  category : String
  factSha256 : Sha256
  keyBounded : receiptKey ≠ "" ∧ receiptKey.length ≤ 256
  categoryBounded : category ≠ "" ∧ category.length ≤ 64
  deriving DecidableEq

/-- `DraftSessionEvent` in the list of its Draft. -/
structure DraftSessionEvent (δ : Type) where
  sequence : Nat
  eventType : String
  data : δ

/-- The key of a fact: its Draft and its receipt key. -/
abbrev DraftFactKey := UUID × String

/-- `_draft_facts`, `_draft_event_specs`, `_draft_events` and `_draft_terminals`. -/
structure DraftTables (φ δ : Type) where
  facts : Dict DraftFactKey (DraftOwnerReceipt × φ)
  eventSpecs : Dict DraftFactKey (List (String × δ))
  events : Dict UUID (List (DraftSessionEvent δ))
  terminals : Dict UUID Nat

/-- The exceptions of a commit: `StoreCommitError`, its subclasses, and the injected one. -/
inductive DraftFailure where
  | storeCommitError (message : String)
  | draftLedgerChanged (message : String)
  | draftOwnerFrozen (message : String)
  | injected (message : String)
  deriving DecidableEq

/-- `_DRAFT_TERMINAL_EVENTS`. -/
def draftTerminalEvents : List String := ["session.closed", "session.attached_to_run"]

/-- `_DRAFT_MUTABLE_LEDGER_CATEGORIES`. -/
def draftMutableLedgerCategories : List String :=
  ["draft.turn.requested", "draft.confirm.requested", "draft.task_revision",
    "draft.ask_user.question", "draft.ask_user.answer"]

/-- The receipt key of a freeze. -/
def freezeKey : String := "draft.freeze"

/-- A fact that is ready to be committed. -/
structure PreparedFact (φ δ : Type) where
  receipt : DraftOwnerReceipt
  payload : φ
  eventData : List (String × δ)
  expectedExistingFacts : Option (List DraftOwnerReceipt)

def PreparedFact.key {φ δ : Type} (fact : PreparedFact φ δ) : DraftFactKey :=
  (fact.receipt.draftId, fact.receipt.receiptKey)

/-- What a commit returns: the receipt, the events that it appended, and whether the fact is
new. -/
structure CommittedFact (δ : Type) where
  receipt : DraftOwnerReceipt
  appended : List (DraftSessionEvent δ)
  created : Bool

/-- Receipts in the order of their keys. -/
def sortedReceipts (receipts : List DraftOwnerReceipt) : List DraftOwnerReceipt :=
  receipts.insertionSort (fun left right => left.receiptKey ≤ right.receiptKey)

namespace DraftTables

variable {φ δ : Type} [DecidableEq φ] [DecidableEq δ]

/-- The tables of `InMemoryRuntimeStore()`. -/
def empty : DraftTables φ δ := ⟨.empty, .empty, .empty, .empty⟩

/-- The events of a Draft. -/
def eventsOf (tables : DraftTables φ δ) (draftId : UUID) : List (DraftSessionEvent δ) :=
  (tables.events.get? draftId).getD []

/-- The receipts of a Draft's facts, in the order of their keys. -/
def receiptsOf (tables : DraftTables φ δ) (draftId : UUID) : List DraftOwnerReceipt :=
  ((tables.facts.entries.insertionSort (fun left right => left.1.2 ≤ right.1.2)).filter
    (fun entry => entry.1.1 = draftId)).map (fun entry => entry.2.1)

/-- The events of a new fact. -/
def appendedEvents (first : Nat) (eventData : List (String × δ)) : List (DraftSessionEvent δ) :=
  eventData.mapIdx fun index event => ⟨first + index, event.1, event.2⟩

/-- The first terminal event of a Draft, with one more event. -/
def noteTerminal (draftId : UUID) (terminals : Dict UUID Nat) (event : DraftSessionEvent δ) :
    Dict UUID Nat :=
  if event.eventType ∈ draftTerminalEvents then
    match terminals.get? draftId with
    | none => terminals.set draftId event.sequence
    | some terminal =>
      if event.sequence < terminal then terminals.set draftId event.sequence else terminals
  else terminals

/-- The tables with a new fact. -/
def insertFact (tables : DraftTables φ δ) (fact : PreparedFact φ δ) : DraftTables φ δ :=
  let draftId := fact.receipt.draftId
  let ledger := tables.eventsOf draftId
  let appended := appendedEvents (ledger.length + 1) fact.eventData
  { facts := tables.facts.set fact.key (fact.receipt, fact.payload)
    eventSpecs := tables.eventSpecs.set fact.key fact.eventData
    events := tables.events.set draftId (ledger ++ appended)
    terminals := appended.foldl (noteTerminal draftId) tables.terminals }

/-- `_commit_draft_fact_locked`; `fails` is the flag of an injected failure. -/
def commitDraftFactLocked (tables : DraftTables φ δ) (fails : Bool) (fact : PreparedFact φ δ) :
    DraftTables φ δ × Except DraftFailure (CommittedFact δ) :=
  match tables.facts.get? fact.key with
  | some previous =>
    if previous.1 ≠ fact.receipt ∨ previous.2 ≠ fact.payload ∨
        tables.eventSpecs.get? fact.key ≠ some fact.eventData then
      (tables, .error (.storeCommitError "Draft owner fact replay mismatch"))
    else (tables, .ok ⟨previous.1, [], false⟩)
  | none =>
    if fact.receipt.category = "draft.freeze" ∧ fact.expectedExistingFacts.any (fun expected =>
        tables.receiptsOf fact.receipt.draftId ≠ sortedReceipts expected) then
      (tables, .error (.draftLedgerChanged "Draft owner facts changed before freeze commit"))
    else if fact.receipt.category ∈ draftMutableLedgerCategories ∧
        (tables.facts.get? (fact.receipt.draftId, freezeKey)).isSome then
      (tables, .error (.draftOwnerFrozen "Draft is already frozen"))
    else if fails then (tables, .error (.injected "injected commit failure"))
    else
      (tables.insertFact fact, .ok ⟨fact.receipt,
        appendedEvents ((tables.eventsOf fact.receipt.draftId).length + 1) fact.eventData, true⟩)

/-- `_rollback_draft_fact`. -/
def rollbackDraftFact (tables : DraftTables φ δ) (key : DraftFactKey)
    (appended : List (DraftSessionEvent δ)) : DraftTables φ δ :=
  let kept := (tables.eventsOf key.1).filter
    (fun event => event.sequence ∉ appended.map (·.sequence))
  let events :=
    if (tables.events.get? key.1).isNone ∨ appended = [] then tables.events
    else if kept = [] then tables.events.erase key.1
    else tables.events.set key.1 kept
  let terminal := ((((events.get? key.1).getD []).filter
    (fun event => event.eventType ∈ draftTerminalEvents)).map (·.sequence)).min?
  { facts := tables.facts.erase key
    eventSpecs := tables.eventSpecs.erase key
    events := events
    terminals :=
      match terminal with
      | none => tables.terminals.erase key.1
      | some terminal => tables.terminals.set key.1 terminal }

end DraftTables

/-! ## Calls -/

/-- The arguments of `commit_draft_owner_fact`. -/
structure DraftCall (α ε : Type) where
  draftId : UUID
  receiptKey : String
  category : String
  fact : α
  events : ε
  expectedExistingFacts : Option (List DraftOwnerReceipt)

/-- The canonical JSON of a body with its digest, and the preparation of session events;
`none` and the text are their exceptions. -/
structure DraftCodec (α ε φ δ : Type) where
  encode : α → Option (Sha256 × φ)
  prepare : ε → Except String (List (String × δ))

namespace DraftCodec

variable {α ε φ δ : Type}

/-- `_make_draft_receipt`. -/
def makeDraftReceipt (codec : DraftCodec α ε φ δ) (call : DraftCall α ε) :
    Except DraftFailure (DraftOwnerReceipt × φ) :=
  if keyBounded : call.receiptKey ≠ "" ∧ call.receiptKey.length ≤ 256 then
    if categoryBounded : call.category ≠ "" ∧ call.category.length ≤ 64 then
      match codec.encode call.fact with
      | none => .error (.storeCommitError "Draft owner fact is not canonical JSON")
      | some (digest, payload) =>
        .ok (⟨call.draftId, call.receiptKey, call.category, digest, keyBounded,
          categoryBounded⟩, payload)
    else .error (.storeCommitError "Draft owner fact category is invalid")
  else .error (.storeCommitError "Draft owner fact receipt key is invalid")

/-- What `commit_draft_owner_fact` does before it takes the lock. -/
def prepareFact (codec : DraftCodec α ε φ δ) (call : DraftCall α ε) :
    Except DraftFailure (PreparedFact φ δ) :=
  match codec.makeDraftReceipt call with
  | .error failure => .error failure
  | .ok (receipt, payload) =>
    match codec.prepare call.events with
    | .error message => .error (.storeCommitError message)
    | .ok eventData => .ok ⟨receipt, payload, eventData, call.expectedExistingFacts⟩

theorem prepareFact_receipt {codec : DraftCodec α ε φ δ} {call : DraftCall α ε}
    {fact : PreparedFact φ δ} (prepared : codec.prepareFact call = .ok fact) :
    fact.key = (call.draftId, call.receiptKey) ∧ fact.receipt.category = call.category ∧
      fact.expectedExistingFacts = call.expectedExistingFacts := by
  unfold prepareFact makeDraftReceipt at prepared
  split at prepared
  · cases prepared
  · rename_i receipt payload made
    split at prepared
    · cases prepared
    · cases prepared
      split at made
      · split at made
        · split at made
          · cases made
          · cases made
            exact ⟨rfl, rfl, rfl⟩
        · cases made
      · cases made

theorem prepareFact_events {codec : DraftCodec α ε φ δ} {call : DraftCall α ε}
    {fact : PreparedFact φ δ} (prepared : codec.prepareFact call = .ok fact) :
    codec.prepare call.events = .ok fact.eventData := by
  unfold prepareFact at prepared
  split at prepared
  · cases prepared
  · split at prepared
    · cases prepared
    · rename_i eventData made
      cases prepared
      exact made

end DraftCodec

end CodeMigrator
