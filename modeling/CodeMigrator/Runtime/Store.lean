import CodeMigrator.Runtime.Contracts

/-!
# Runtime store

`InMemoryRuntimeStore` of `runtime/store.py`, the transactionally behaving store
double. Every operation returns the store afterwards and its result or exception. The
secret registry copies event data as they are or rejects them as a whole; `rejects`
is its verdict. Evolution segments, Draft facts, checkpoint indexes and the API
command ledger are not read by the modelled operations and are left out.
-/

namespace CodeMigrator
open Lib

instance lawfulBEq_slot : LawfulBEq (RunId × String) := inferInstance

/-- The dictionaries of `InMemoryRuntimeStore`. -/
structure RuntimeStore where
  snapshots : Dict RunId RuntimeSnapshot
  agentRuns : Dict AgentRunId AgentRun
  agentRunKeys : Dict (String × UUID × String) AgentRunId
  agentThreads : Dict UUID AgentRunId
  agentReceipts : Dict AgentRunId AgentRunReceipt
  integrationIntents : Dict (RunId × String) IntegrationIntent
  integrationReceipts : Dict (RunId × String) IntegrationReceipt
  casRefs : Dict (String × UUID × String) CasObject
  failNext : Bool
  commitCount : Nat
  deriving DecidableEq

/-- The store without any entry. -/
def RuntimeStore.empty : RuntimeStore :=
  ⟨.empty, .empty, .empty, .empty, .empty, .empty, .empty, .empty, false, 0⟩

/-- The outcome of a store operation. -/
abbrev StoreResult (β : Type) := RuntimeStore × Except RuntimeFailure β

namespace RuntimeStore

/-- `raise StoreCommitError(message)`. -/
def fail {β : Type} (store : RuntimeStore) (message : String) : StoreResult β :=
  (store, .error (.storeCommitError message))

/-! ## Runs -/

/-- The events as they enter the ledger from sequence `first` on. -/
def numbered (first : Nat) (events : List EventSpec) : List RuntimeEvent :=
  (events.zipIdx first).map fun (event, sequence) => ⟨sequence, event.eventType, event.data⟩

/-- The numbered events; `none` is a rejected observation. -/
def materialize (rejects : EventData → Bool) (first : Nat) (events : List EventSpec) :
    Option (List RuntimeEvent) :=
  if events.any (fun event => rejects event.data) then none else some (numbered first events)

/-- `load`. -/
def load (store : RuntimeStore) (runId : RunId) : Option RuntimeSnapshot :=
  store.snapshots.get? runId

/-- `_write`. -/
def write (store : RuntimeStore) (rejects : EventData → Bool) (state : RunState)
    (events : List EventSpec) : StoreResult RuntimeSnapshot :=
  if store.failNext then { store with failNext := false }.fail "injected commit failure"
  else
    let previous := ((store.load state.runId).map (·.events)).getD []
    match materialize rejects (previous.length + 1) events with
    | none => store.fail "observation rejected"
    | some materialized =>
      let snapshot : RuntimeSnapshot := ⟨state, previous ++ materialized⟩
      ({ store with
          snapshots := store.snapshots.set state.runId snapshot
          commitCount := store.commitCount + 1 }, .ok snapshot)

/-- `create`, inside a transaction of the caller or on its own. -/
def create (store : RuntimeStore) (rejects : EventData → Bool) (state : RunState)
    (events : List EventSpec) (transaction : Bool) : StoreResult RuntimeSnapshot :=
  if transaction = false ∧ (store.load state.runId).isSome then store.fail "run already exists"
  else store.write rejects state events

/-- `commit`. -/
def commit (store : RuntimeStore) (rejects : EventData → Bool) (state : RunState)
    (events : List EventSpec) : StoreResult RuntimeSnapshot :=
  if (store.load state.runId).isNone then store.fail "run does not exist"
  else store.write rejects state events

/-! ## Agent runs -/

/-- `_validate_new_agent_run`: the text of the exception. -/
def validateNewAgentRun (record : AgentRun) : Option String :=
  if record.state ≠ .created ∨ record.exit ≠ none then
    some "new AgentRun must be created without an exit"
  else if record.checkpointSha256 ≠ none ∨ record.candidateCheckpointSha256 ≠ none ∨
      record.resultSha256 ≠ none ∨ record.usageSha256 ≠ none then
    some "new AgentRun cannot have terminal references"
  else none

/-- `create_or_get_agent_run`. -/
def createOrGetAgentRun (store : RuntimeStore) (record : AgentRun) : StoreResult AgentRun :=
  match validateNewAgentRun record with
  | some message => store.fail message
  | none =>
    if record.ownerKind = "run" ∧ (store.load record.ownerId).isNone then
      store.fail "AgentRun owner Run does not exist"
    else
      match (store.agentRunKeys.get? record.ownerKey).bind store.agentRuns.get? with
      | some existing =>
        if existing.sameCreationIdentity record then (store, .ok existing)
        else store.fail "AgentRun logical task identity mismatch"
      | none =>
        if (store.agentRuns.get? record.agentRunId).isSome then
          store.fail "AgentRun ID already exists"
        else
          match UUID.parse record.threadId with
          | none => (store, .error (.valueError "badly formed hexadecimal UUID string"))
          | some thread =>
            if (store.agentThreads.get? thread).isSome then
              store.fail "AgentRun thread already exists"
            else
              ({ store with
                  agentRuns := store.agentRuns.set record.agentRunId record
                  agentRunKeys := store.agentRunKeys.set record.ownerKey record.agentRunId
                  agentThreads := store.agentThreads.set thread record.agentRunId },
                .ok record)

/-- The characters of a CAS reference key. -/
def isReferenceKey (key : String) : Bool :=
  key != "" && key.toList.length ≤ 256 &&
    key.toList.all (fun c => c.isAlphanum || ['.', '_', ':', '-'].contains c)

/-- `_validate_agent_receipt`: the text of the exception. -/
def validateAgentReceipt (current : Option AgentRun) (record : AgentRun)
    (receipt : AgentRunReceipt) (state : Option RunState) (events : List EventSpec)
    (casReferences : List (String × CasObject)) : Option String :=
  match current with
  | none => some "AgentRun does not exist"
  | some current =>
    if current.sameFrozenIdentity record = false then some "AgentRun frozen identity mismatch"
    else if current.isTerminal ∨ record.isTerminal = false then
      some "AgentRun receipt requires a new terminal state"
    else if receipt.agentRunId ≠ record.agentRunId then
      some "AgentRun receipt identity mismatch"
    else if record.ownerKind = "run" ∧ state.map (·.runId) ≠ some record.ownerId then
      some "Run owner receipt requires matching Run state"
    else if record.ownerKind ≠ "run" ∧ (state ≠ none ∨ events ≠ []) then
      some "Draft owner cannot write Run facts or events"
    else if record.ownerKind ≠ "run" ∧ casReferences ≠ [] then
      some "Run receipt CAS refs require a Run owner"
    else if casReferences.any (fun reference => !isReferenceKey reference.1) then
      some "CAS reference key is invalid"
    else none

/-- Whether the store has another size for the digest of the object. -/
def sizeConflict (store : RuntimeStore) (object : CasObject) : Bool :=
  store.casRefs.values.any (fun value => value.digest = object.digest ∧ value.size ≠ object.size)

/-- The check of one CAS reference in `commit_agent_run_receipt`. -/
def referenceConflict (store : RuntimeStore) (ownerKind : String) (ownerId : UUID)
    (reference : String × CasObject) : Option String :=
  match store.casRefs.get? (ownerKind, ownerId, reference.1) with
  | some existing =>
    if existing ≠ reference.2 then some "CAS reference key already points to another object"
    else if store.sizeConflict reference.2 then some "CAS object size mismatch"
    else none
  | none => if store.sizeConflict reference.2 then some "CAS object size mismatch" else none

/-- `add_cas_reference`. -/
def addCasReference (store : RuntimeStore) (object : CasObject) (ownerKind : String)
    (ownerId : UUID) (referenceKey : String) : StoreResult Unit :=
  if store.failNext then { store with failNext := false }.fail "injected commit failure"
  else
    match store.referenceConflict ownerKind ownerId (referenceKey, object) with
    | some message => store.fail message
    | none =>
      ({ store with casRefs := store.casRefs.set (ownerKind, ownerId, referenceKey) object },
        .ok ())

/-- The part of `commit_agent_run_receipt` for a receipt that is already there: a replay
must repeat the stored facts. -/
def replayAgentRunReceipt (store : RuntimeStore) (existing : AgentRunReceipt) (record : AgentRun)
    (receipt : AgentRunReceipt) (casReferences : List (String × CasObject)) :
    StoreResult AgentRunReceipt :=
  if existing.category ≠ receipt.category ∨ existing.agentRunId ≠ receipt.agentRunId ∨
      store.agentRuns.get? record.agentRunId ≠ some record ∨
      casReferences.any (fun reference =>
        store.casRefs.get? (record.ownerKind, record.ownerId, reference.1) != some reference.2) then
    store.fail "AgentRun receipt replay mismatch"
  else (store, .ok existing)

/-- The snapshot that an owner transaction writes: the version must be the next one. -/
def ownerSnapshot (store : RuntimeStore) (rejects : EventData → Bool) (state : RunState)
    (events : List EventSpec) : Except RuntimeFailure RuntimeSnapshot :=
  match store.load state.runId with
  | none => .error (.storeCommitError "runtime run does not exist")
  | some previous =>
    if state.version ≠ previous.state.version + 1 then
      .error (.storeCommitError "Run owner state version is stale")
    else
      match materialize rejects (previous.events.length + 1) events with
      | none => .error (.storeCommitError "observation rejected")
      | some materialized => .ok ⟨state, previous.events ++ materialized⟩

/-- The snapshots behind an owner transaction; that of a Draft's agent run has no Run state. -/
def ownerSnapshots (store : RuntimeStore) (rejects : EventData → Bool) (ownerId : RunId)
    (events : List EventSpec) : Option RunState → Except RuntimeFailure (Dict RunId RuntimeSnapshot)
  | none => .ok store.snapshots
  | some state => (store.ownerSnapshot rejects state events).map (store.snapshots.set ownerId)

/-- `commit_agent_run_receipt`. -/
def commitAgentRunReceipt (store : RuntimeStore) (rejects : EventData → Bool) (record : AgentRun)
    (receipt : AgentRunReceipt) (state : Option RunState) (events : List EventSpec)
    (casReferences : List (String × CasObject)) : StoreResult AgentRunReceipt :=
  match store.agentReceipts.get? record.agentRunId with
  | some existing => store.replayAgentRunReceipt existing record receipt casReferences
  | none =>
    match validateAgentReceipt (store.agentRuns.get? record.agentRunId) record receipt
        state events casReferences with
    | some message => store.fail message
    | none =>
      match casReferences.findSome? (store.referenceConflict record.ownerKind record.ownerId) with
      | some message => store.fail message
      | none =>
        if store.failNext then
          { store with failNext := false }.fail "injected commit failure"
        else
          match store.ownerSnapshots rejects record.ownerId events state with
          | .error failure => (store, .error failure)
          | .ok snapshots =>
            ({ store with
                snapshots := snapshots
                agentRuns := store.agentRuns.set record.agentRunId record
                agentReceipts := store.agentReceipts.set record.agentRunId receipt
                casRefs := casReferences.foldl (fun refs reference =>
                  refs.set (record.ownerKind, record.ownerId, reference.1) reference.2)
                  store.casRefs
                commitCount := store.commitCount + 1 }, .ok receipt)

/-! ## Integration -/

/-- `re.fullmatch` of `length` lower-case hexadecimal characters. -/
def isHexText (length : Nat) (text : String) : Bool :=
  text.toList.length == length &&
    text.toList.all (fun c => "0123456789abcdef".toList.contains c)

/-- `_validate_integration_intent`: the text of the exception. -/
def validateIntegrationIntent (intent : IntegrationIntent) : Option String :=
  if [intent.guardSha256, intent.verificationFingerprint, intent.idempotencyKey].any
      (fun value => !isHexText 64 value) then
    some "IntegrationIntent digests are invalid"
  else if [intent.expectedVerifiedOid, intent.prospectiveCommitOid].any
      (fun value => !isHexText 40 value) then
    some "IntegrationIntent Git OIDs are invalid"
  else if intent.expectedVerifiedOid = intent.prospectiveCommitOid ∨
      intent.prospectiveCommitOid.toList.all (· == '0') then
    some "IntegrationIntent must advance to a non-zero commit"
  else none

/-- `load_latest_integration_receipt`. -/
def loadLatestIntegrationReceipt (store : RuntimeStore) (runId : RunId) :
    Option IntegrationReceipt :=
  (store.integrationReceipts.entries.filter (fun entry => entry.1.1 = runId)).foldl
    (fun latest entry =>
      match latest with
      | none => some entry.2
      | some receipt => if receipt.eventSequence < entry.2.eventSequence then some entry.2 else latest)
    none

/-- Whether the latest receipt of a Run has another head than the intent expects. -/
def headDiffers (store : RuntimeStore) (intent : IntegrationIntent) : Bool :=
  match store.loadLatestIntegrationReceipt intent.runId with
  | none => false
  | some latest => latest.verifiedCommitOid != intent.expectedVerifiedOid

/-- `persist_integration_intent`. -/
def persistIntegrationIntent (store : RuntimeStore) (intent : IntegrationIntent) :
    StoreResult IntegrationIntent :=
  match validateIntegrationIntent intent with
  | some message => store.fail message
  | none =>
    let key := (intent.runId, intent.idempotencyKey)
    if (store.load intent.runId).isNone then
      store.fail "integration intent owner Run does not exist"
    else
      match store.integrationIntents.get? key with
      | some existing =>
        if existing ≠ intent then store.fail "integration intent replay mismatch"
        else (store, .ok existing)
      | none =>
        if store.integrationIntents.keys.any (fun pending =>
            pending.1 = intent.runId ∧ pending.2 ≠ intent.idempotencyKey ∧
              pending ∉ store.integrationReceipts.keys) then
          store.fail "another integration intent is awaiting verified receipt"
        else if store.headDiffers intent then
          store.fail "integration intent expected head differs from latest receipt"
        else
          ({ store with integrationIntents := store.integrationIntents.set key intent },
            .ok intent)

/-- `_validate_integration_events`: the text of the exception. -/
def validateIntegrationEvents (intent : IntegrationIntent) (verifiedCommitOid : String)
    (events : List EventSpec) : Option String :=
  match events with
  | [completed, advanced] =>
    if completed.eventType = "integration.completed" ∧
        Json.field? completed.data "receipt_key" =
          some (.str ("integration.completed:" ++ intent.idempotencyKey)) ∧
        Json.field? completed.data "slice_id" = some (.str intent.sliceId.str) ∧
        Json.field? completed.data "generation" = some (.int intent.generation.val) ∧
        Json.field? completed.data "verified_commit_oid" = some (.str verifiedCommitOid) ∧
        advanced.eventType = "verified.advanced" ∧
        Json.field? advanced.data "slice_id" = some (.str intent.sliceId.str) ∧
        Json.field? advanced.data "generation" = some (.int intent.generation.val) ∧
        Json.field? advanced.data "commit_oid" = some (.str verifiedCommitOid) then none
    else some "integration receipt Run events do not match its intent"
  | _ => some "integration receipt requires its ordered Run events"

/-- The part of `commit_integration_receipt` for a receipt that is already there. -/
def replayIntegrationReceipt (store : RuntimeStore) (existing : IntegrationReceipt)
    (intent : IntegrationIntent) (verifiedCommitOid : String) : StoreResult IntegrationReceipt :=
  if store.integrationIntents.get? (intent.runId, intent.idempotencyKey) ≠ some intent ∨
      existing.verifiedCommitOid ≠ verifiedCommitOid then
    store.fail "integration receipt replay mismatch"
  else
    let events := ((store.load intent.runId).map (·.events)).getD []
    match events.find? (fun event =>
        event.sequence = existing.eventSequence ∧ event.eventType = "integration.completed") with
    | none => store.fail "integration receipt event replay mismatch"
    | some matching =>
      if Json.field? matching.data "receipt_key" ≠
          some (.str ("integration.completed:" ++ intent.idempotencyKey)) then
        store.fail "integration receipt event replay mismatch"
      else (store, .ok existing)

/-- `commit_integration_receipt`; `digest` is the receipt's SHA-256. -/
def commitIntegrationReceipt (store : RuntimeStore) (rejects : EventData → Bool)
    (digest : IntegrationIntent → String → Sha256) (state : RunState) (intent : IntegrationIntent)
    (verifiedCommitOid : String) (events : List EventSpec) : StoreResult IntegrationReceipt :=
  let key := (intent.runId, intent.idempotencyKey)
  match store.integrationReceipts.get? key with
  | some existing => store.replayIntegrationReceipt existing intent verifiedCommitOid
  | none =>
    match validateIntegrationIntent intent with
    | some message => store.fail message
    | none =>
      if store.integrationIntents.get? key ≠ some intent then
        store.fail "integration intent is not durably committed"
      else if head : verifiedCommitOid ≠ intent.prospectiveCommitOid then
        store.fail "verified head does not match the intent"
      else if store.headDiffers intent then
        store.fail "integration intent expected head differs from latest receipt"
      else
        match store.load intent.runId with
        | none => store.fail "integration receipt owner Run does not exist"
        | some previous =>
          if state.runId ≠ intent.runId ∨ state.version ≠ previous.state.version + 1 then
            store.fail "Run owner state version is stale"
          else
            match validateIntegrationEvents intent verifiedCommitOid events with
            | some message => store.fail message
            | none =>
              if store.failNext then
                { store with failNext := false }.fail "injected commit failure"
              else
                match materialize rejects (previous.events.length + 1) events with
                | none => store.fail "observation rejected"
                | some materialized =>
                  let receipt : IntegrationReceipt :=
                    { intent := intent
                      verifiedCommitOid := verifiedCommitOid
                      receiptSha256 := digest intent verifiedCommitOid
                      eventSequence := previous.events.length + 1
                      headMatchesIntent := not_not.mp head
                      sequenceIsPositive := by omega }
                  ({ store with
                      snapshots := store.snapshots.set intent.runId
                        ⟨state, previous.events ++ materialized⟩
                      integrationReceipts := store.integrationReceipts.set key receipt
                      commitCount := store.commitCount + 1 }, .ok receipt)

end RuntimeStore

end CodeMigrator
