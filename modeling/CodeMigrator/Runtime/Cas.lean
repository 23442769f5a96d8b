import CodeMigrator.Runtime.Store

/-!
# The content addressed store

`FileHostCAS` and `CasLedger` of `runtime/cas.py`, `CasCheckpointSaver` of
`runtime/checkpointer.py`, and the calls of `InMemoryRuntimeStore` that they make. The
operations run at the same time: a process is an operation in the middle of its atomic
steps, `casStep` lets one process take its next one. A digest's lock belongs to one
process at a time. `sha256` is `hashlib.sha256`; nothing is assumed of it.
-/

namespace CodeMigrator
open Lib

/-! ## Indexes -/

/-- The fields that checkpoints and pending writes share. -/
structure ThreadAddress where
  graphFamily : String
  ownerKind : String
  ownerId : UUID
  threadId : String
  checkpointNs : String
  checkpointId : String
  deriving DecidableEq

/-- `CheckpointIndex`. -/
structure CheckpointIndex extends ThreadAddress where
  parentCheckpointId : Option String
  object : CasObject
  deriving DecidableEq

/-- `PendingWriteIndex`. -/
structure PendingWriteIndex extends ThreadAddress where
  taskId : String
  writeIndex : Int
  object : CasObject
  deriving DecidableEq

/-- The key of a CAS reference: its owner and the owner's name for it. -/
abbrev ReferenceKey := String × UUID × String

/-- The key of the `_checkpoints` dictionary. -/
def CheckpointIndex.key (index : CheckpointIndex) : String × String × String :=
  (index.threadId, index.checkpointNs, index.checkpointId)

/-- `CheckpointIndex.reference_key`, with the owner. -/
def CheckpointIndex.reference (index : CheckpointIndex) : ReferenceKey :=
  (index.ownerKind, index.ownerId,
    "checkpoint:" ++ index.threadId ++ ":" ++ index.checkpointNs ++ ":" ++ index.checkpointId)

/-- The key of the `_pending_writes` dictionary. -/
def PendingWriteIndex.key (index : PendingWriteIndex) :
    String × String × String × String × Int :=
  (index.threadId, index.checkpointNs, index.checkpointId, index.taskId, index.writeIndex)

/-- `PendingWriteIndex.reference_key`, with the owner. -/
def PendingWriteIndex.reference (index : PendingWriteIndex) : ReferenceKey :=
  (index.ownerKind, index.ownerId,
    "write:" ++ index.threadId ++ ":" ++ index.checkpointNs ++ ":" ++ index.checkpointId ++ ":" ++
      index.taskId ++ ":" ++ toString index.writeIndex)

/-- The store with its checkpoint and pending-write indexes. -/
structure IndexedStore extends RuntimeStore where
  checkpoints : Dict (String × String × String) CheckpointIndex
  pendingWrites : Dict (String × String × String × String × Int) PendingWriteIndex

namespace IndexedStore

/-- `InMemoryRuntimeStore()`. -/
def empty : IndexedStore :=
  { RuntimeStore.empty with checkpoints := .empty, pendingWrites := .empty }

/-- The outcome of a call of the store. -/
abbrev Result (β : Type) := IndexedStore × Except RuntimeFailure β

def fail {β : Type} (store : IndexedStore) (message : String) : Result β :=
  (store, .error (.storeCommitError message))

/-- `release_cas_reference`: the reference is gone, and its object is returned when no other
reference has the digest. -/
def releaseCasReference (store : IndexedStore) (key : ReferenceKey) :
    IndexedStore × Option CasObject :=
  match store.casRefs.get? key with
  | none => (store, none)
  | some object =>
    let released := store.casRefs.erase key
    ({ store with casRefs := released },
      if released.values.any (fun value => value.digest = object.digest) then none
      else some object)

/-- `referenced_digests`. -/
def referencedDigests (store : IndexedStore) : List Sha256 :=
  store.casRefs.values.map (·.digest)

/-- Whether an index of the thread has another owner or family. -/
def belongsToAnother (address index : ThreadAddress) : Bool :=
  index.threadId = address.threadId ∧
    (index.ownerKind, index.ownerId, index.graphFamily) ≠
      (address.ownerKind, address.ownerId, address.graphFamily)

/-- `publish_checkpoint_index`. -/
def publishCheckpointIndex (store : IndexedStore) (index : CheckpointIndex) : Result Unit :=
  if store.failNext then
    { store with failNext := false }.fail "injected commit failure"
  else
    match store.checkpoints.get? index.key with
    | some existing =>
      if existing ≠ index then store.fail "checkpoint identity collision" else (store, .ok ())
    | none =>
      if store.checkpoints.values.any
            (fun item => belongsToAnother index.toThreadAddress item.toThreadAddress) ∨
          store.pendingWrites.values.any
            (fun item => belongsToAnother index.toThreadAddress item.toThreadAddress) then
        store.fail "checkpoint thread belongs to another owner"
      else
        ({ store with
            checkpoints := store.checkpoints.set index.key index
            casRefs := store.casRefs.set index.reference index.object }, .ok ())

/-- Whether an index of the thread has another owner; the family is not compared. -/
def ownedByAnother (address index : ThreadAddress) : Bool :=
  index.threadId = address.threadId ∧
    (index.ownerKind, index.ownerId) ≠ (address.ownerKind, address.ownerId)

/-- `publish_pending_write_index`: a regular write is kept, a special one (its index is
negative) is replaced. -/
def publishPendingWriteIndex (store : IndexedStore) (index : PendingWriteIndex) : Result Unit :=
  if store.checkpoints.values.any
        (fun item => ownedByAnother index.toThreadAddress item.toThreadAddress) ∨
      store.pendingWrites.values.any
        (fun item => ownedByAnother index.toThreadAddress item.toThreadAddress) then
    store.fail "pending write thread belongs to another owner"
  else
    match store.pendingWrites.get? index.key with
    | some existing =>
      if 0 ≤ index.writeIndex then (store, .ok ())
      else if store.failNext then
        { store with failNext := false }.fail "injected commit failure"
      else if (store.casRefs.get? existing.reference).isNone then (store, .error .raised)
      else
        ({ store with
            pendingWrites := store.pendingWrites.set index.key index
            casRefs := (store.casRefs.erase existing.reference).set index.reference index.object },
          .ok ())
    | none =>
      if store.failNext then
        { store with failNext := false }.fail "injected commit failure"
      else
        ({ store with
            pendingWrites := store.pendingWrites.set index.key index
            casRefs := store.casRefs.set index.reference index.object }, .ok ())

/-- The references and objects of a thread's indexes. -/
def threadIndexes (store : IndexedStore) (threadId : String) :
    List (ThreadAddress × ReferenceKey × CasObject) :=
  (store.checkpoints.values.filter (·.threadId = threadId)).map
      (fun index => (index.toThreadAddress, index.reference, index.object)) ++
    (store.pendingWrites.values.filter (·.threadId = threadId)).map
      (fun index => (index.toThreadAddress, index.reference, index.object))

/-- `delete_checkpoint_thread`: the objects that have no reference afterwards. -/
def deleteCheckpointThread (store : IndexedStore) (threadId graphFamily ownerKind : String)
    (ownerId : UUID) : Result (List CasObject) :=
  let indexes := store.threadIndexes threadId
  if indexes.any (fun item => (item.1.graphFamily, item.1.ownerKind, item.1.ownerId) ≠
      (graphFamily, ownerKind, ownerId)) then
    (store, .error (.valueError "checkpoint owner identity mismatch"))
  else
    let casRefs := (indexes.map (·.2.1)).foldl Dict.erase store.casRefs
    let live := casRefs.values.map (·.digest)
    ({ store with
        checkpoints := store.checkpoints.filterValues (·.threadId ≠ threadId)
        pendingWrites := store.pendingWrites.filterValues (·.threadId ≠ threadId)
        casRefs := casRefs },
      .ok (Dict.ofPairs ((indexes.filter (fun item => item.2.2.digest ∉ live)).map
        fun item => (item.2.2.digest, item.2.2))).values)

end IndexedStore

/-! ## Processes -/

/-- The body of an object. -/
abbrev Body := List UInt8

/-- Under what a published object is recorded: a reference of `CasLedger.put`, the index of
a checkpoint or the index of a pending write. -/
inductive Publication where
  | reference (key : ReferenceKey)
  | checkpoint (address : ThreadAddress) (parentCheckpointId : Option String)
  | pendingWrite (address : ThreadAddress) (taskId : String) (writeIndex : Int)

/-- The operations. The bodies of checkpoints and writes are what the serializer makes of
them; `collect_orphans` goes over the files that its directory listing finds. -/
inductive CasOperation where
  | put (body : Body) (key : ReferenceKey)
  | release (key : ReferenceKey)
  | collectOrphans (paths : List Sha256)
  | aput (address : ThreadAddress) (parentCheckpointId : Option String) (body : Body)
  | aputWrites (address : ThreadAddress) (taskId : String) (writes : List (Int × Body))
  | adeleteThread (threadId graphFamily ownerKind : String) (ownerId : UUID)

/-- What is left of an operation that holds no lock. -/
inductive Task where
  | done
  | publishing (queue : List (Body × Publication))
  | reading (key : ReferenceKey)
  | awaiting (key : ReferenceKey) (digest : Sha256)
  | deletingThread (threadId graphFamily ownerKind : String) (ownerId : UUID)
  | sweeping (aged : Bool) (digests : List Sha256)

/-- The next atomic step of an operation under its lock. -/
inductive Work where
  | storing (body : Body) (publication : Publication) (rest : List (Body × Publication))
  | recording (object : CasObject) (publication : Publication) (rest : List (Body × Publication))
  | popping (key : ReferenceKey)
  | inspecting (digests : List Sha256)
  | querying (aged : Bool) (digests : List Sha256)
  | deleting (target : Sha256) (next : Task)
  | unlocking (next : Task)

/-- A running operation: without a lock, or with the lock of one digest. -/
inductive Process where
  | free (task : Task)
  | holding (digest : Sha256) (work : Work)

/-- The files, the locks with their holders, the store and the processes. -/
structure CasSystem where
  files : Dict Sha256 Body
  locks : Dict Sha256 Nat
  store : IndexedStore
  processes : Dict Nat Process

/-- The first step of an operation. -/
def CasOperation.task : CasOperation → Task
  | put body key => .publishing [(body, .reference key)]
  | release key => .reading key
  | collectOrphans paths => .sweeping true paths
  | aput address parentCheckpointId body => .publishing [(body, .checkpoint address parentCheckpointId)]
  | aputWrites address taskId writes => .publishing (writes.map fun (writeIndex, body) =>
    (body, .pendingWrite address taskId writeIndex))
  | adeleteThread threadId graphFamily ownerKind ownerId =>
    .deletingThread threadId graphFamily ownerKind ownerId

/-- The store call that records a published object. -/
def Publication.record (store : IndexedStore) (object : CasObject) :
    Publication → IndexedStore.Result Unit
  | reference (ownerKind, ownerId, referenceKey) =>
    match store.addCasReference object ownerKind ownerId referenceKey with
    | (added, outcome) => ({ store with toRuntimeStore := added }, outcome)
  | checkpoint address parentCheckpointId =>
    store.publishCheckpointIndex ⟨address, parentCheckpointId, object⟩
  | pendingWrite address taskId writeIndex =>
    store.publishPendingWriteIndex ⟨address, taskId, writeIndex, object⟩

namespace CasSystem

variable (sha256 : Body → Sha256)

/-- `FileHostCAS.read`; `none` is a `CasIntegrityError`. -/
def read (files : Dict Sha256 Body) (object : CasObject) : Option Body :=
  match files.get? object.digest with
  | none => none
  | some body => if body.length = object.size ∧ sha256 body = object.digest then some body else none

/-- `FileHostCAS.put`: a file that is there is read, another one is written. -/
def putFile (files : Dict Sha256 Body) (body : Body) : Option (Dict Sha256 Body × CasObject) :=
  let object : CasObject := ⟨sha256 body, body.length⟩
  match files.get? object.digest with
  | some _ => (read sha256 files object).map fun _ => (files, object)
  | none => some (files.set object.digest body, object)

/-- The process goes on. -/
def become (system : CasSystem) (id : Nat) (process : Process) : CasSystem :=
  { system with processes := system.processes.set id process }

/-- `cas.lock(digest)`: the process gets the lock, or waits for it. -/
def acquire (system : CasSystem) (id : Nat) (digest : Sha256) (work : Work) : CasSystem :=
  match system.locks.get? digest with
  | some _ => system
  | none => { system with locks := system.locks.set digest id }.become id (.holding digest work)

/-- The end of `async with cas.lock(digest)`. -/
def unlock (system : CasSystem) (id : Nat) (digest : Sha256) (next : Task) : CasSystem :=
  { system with locks := system.locks.erase digest }.become id (.free next)

/-- The next step of a process without a lock. -/
def runTask (system : CasSystem) (id : Nat) : Task → CasSystem
  | .done | .publishing [] | .sweeping _ [] => system.become id (.free .done)
  | .publishing ((body, publication) :: rest) =>
    system.acquire id (sha256 body) (.storing body publication rest)
  | .reading key =>
    match system.store.casRefs.get? key with
    | none => system.become id (.free .done)
    | some current => system.become id (.free (.awaiting key current.digest))
  | .awaiting key digest => system.acquire id digest (.popping key)
  | .deletingThread threadId graphFamily ownerKind ownerId =>
    match system.store.deleteCheckpointThread threadId graphFamily ownerKind ownerId with
    | (store, .error _) => { system with store := store }.become id (.free .done)
    | (store, .ok candidates) =>
      { system with store := store }.become id
        (.free (.sweeping false (candidates.map CasObject.digest)))
  | .sweeping aged (digest :: digests) =>
    system.acquire id digest (if aged then .inspecting digests else .querying aged digests)

/-- The next step of a process with the lock of `digest`; `old` says whether the file has
the age that `collect_orphans` waits for. -/
def runWork (system : CasSystem) (id : Nat) (digest : Sha256) (old : Bool) : Work → CasSystem
  | .storing body publication rest =>
    match putFile sha256 system.files body with
    | none => system.become id (.holding digest (.unlocking .done))
    | some (files, object) =>
      { system with files := files }.become id
        (.holding digest (.recording object publication rest))
  | .recording object publication rest =>
    match publication.record system.store object with
    | (store, .error _) =>
      { system with store := store }.become id (.holding digest (.unlocking .done))
    | (store, .ok _) =>
      { system with store := store }.become id (.holding digest (.unlocking (.publishing rest)))
  | .popping key =>
    match system.store.releaseCasReference key with
    | (store, none) =>
      { system with store := store }.become id (.holding digest (.unlocking .done))
    | (store, some last) =>
      { system with store := store }.become id (.holding digest (.deleting last.digest .done))
  | .inspecting digests =>
    if (system.files.get? digest).isSome ∧ old then
      system.become id (.holding digest (.querying true digests))
    else system.become id (.holding digest (.unlocking (.sweeping true digests)))
  | .querying aged digests =>
    if digest ∈ system.store.referencedDigests then
      system.become id (.holding digest (.unlocking (.sweeping aged digests)))
    else system.become id (.holding digest (.deleting digest (.sweeping aged digests)))
  | .deleting target next =>
    { system with files := system.files.erase target }.become id (.holding digest (.unlocking next))
  | .unlocking next => system.unlock id digest next

end CasSystem

/-- What can happen next: an operation begins, a process takes its next step, or the call
that it is in raises and the operation ends. -/
inductive CasInput where
  | begin (id : Nat) (operation : CasOperation)
  | advance (id : Nat) (old : Bool)
  | raise (id : Nat)

/-- The step of an input. -/
def casStep (sha256 : Body → Sha256) (system : CasSystem) : CasInput → CasSystem
  | .begin id operation =>
    match system.processes.get? id with
    | some _ => system
    | none => system.become id (.free operation.task)
  | .advance id old =>
    match system.processes.get? id with
    | none => system
    | some (.free task) => system.runTask sha256 id task
    | some (.holding digest work) => system.runWork sha256 id digest old work
  | .raise id =>
    match system.processes.get? id with
    | none => system
    | some (.free _) => system.become id (.free .done)
    | some (.holding digest _) => system.unlock id digest .done

end CodeMigrator
