import CodeMigrator.Lib.Process
import CodeMigrator.Workspace.CheckpointScope

/-!
# The lifecycle of a workspace

`WorkspaceManager` of `workspace/lifecycle.py`: directories and state records that outlive the
process, and the handles and ledgers that it holds in memory. Every call to the file system, the
volume and the state store meets a fate.
-/

namespace CodeMigrator
open Lib

/-- `WorkspaceState`. -/
inductive WorkspaceState where
  | provisioned | iterating | checkpointing | frozen | discarded
  deriving DecidableEq

/-- The directory of a workspace: its path below the managed root has these parts. -/
structure WorkspacePath where
  runId : RunId
  sliceId : SliceId
  generation : CandidateGeneration
  deriving DecidableEq

/-- `WorkspaceHandle`; run, slice and generation are the parts of the path. -/
structure WorkspaceHandle where
  path : WorkspacePath
  state : WorkspaceState
  baseVerifiedOid : String
  candidateOid : Option String
  deriving DecidableEq

/-- `WorkspaceStateRecord`. -/
structure WorkspaceStateRecord where
  handle : WorkspaceHandle
  operations : List WorkspaceFileOperation

/-- What a call of the manager raises: `WorkspaceStateError`, a `ValueError` about a path, or
what the file system, the volume or the store raise. -/
inductive ManagerError where
  | state | value | port
  deriving DecidableEq

/-- The calls of the manager to other parts of the system. -/
inductive ManagerCall where
  | makeDirectory
  | writeFile (relative : String)
  | openRoot
  | createVolume
  | saveState
  | undoVolume
  | undoDirectory
  | undoState
  | loadState
  | quiesceVolume
  | destroyVolume
  | removeDirectory
  | deleteState
  deriving DecidableEq

/-- What becomes of each of the calls. -/
abbrev ManagerFates := ManagerCall → Fate

/-- Every call runs. -/
def ManagerFates.healthy : ManagerFates := fun _ => .runs

/-- The manager: what is on disk, and what the process holds in memory. -/
structure WorkspaceManager where
  directories : Dict WorkspacePath LinkedTree
  records : Dict WorkspacePath WorkspaceStateRecord
  handles : Dict WorkspacePath WorkspaceHandle
  operations : Dict WorkspacePath (List WorkspaceFileOperation)

/-- A computation of the manager. -/
abbrev Managing (α : Type) := Lib.Process WorkspaceManager ManagerError α

namespace WorkspaceManager
open Lib.Process

/-! ## State changes -/

/-- A directory with its content. -/
def setDirectory (path : WorkspacePath) (tree : LinkedTree) (manager : WorkspaceManager) :
    WorkspaceManager :=
  { manager with directories := manager.directories.set path tree }

/-- A directory is gone. -/
def removeDirectory (path : WorkspacePath) (manager : WorkspaceManager) : WorkspaceManager :=
  { manager with directories := manager.directories.erase path }

/-- A record is stored under its path. -/
def storeRecord (record : WorkspaceStateRecord) (manager : WorkspaceManager) : WorkspaceManager :=
  { manager with records := manager.records.set record.handle.path record }

/-- A record is deleted. -/
def deleteRecord (path : WorkspacePath) (manager : WorkspaceManager) : WorkspaceManager :=
  { manager with records := manager.records.erase path }

/-- The memory holds a workspace. -/
def manage (workspace : WorkspaceHandle) (operations : List WorkspaceFileOperation)
    (manager : WorkspaceManager) : WorkspaceManager :=
  { manager with
    handles := manager.handles.set workspace.path workspace
    operations := manager.operations.set workspace.path operations }

/-- The memory no longer holds a workspace. -/
def forget (path : WorkspacePath) (manager : WorkspaceManager) : WorkspaceManager :=
  { manager with
    handles := manager.handles.erase path
    operations := manager.operations.erase path }

/-- A new process starts with empty dictionaries. -/
def restart (manager : WorkspaceManager) : WorkspaceManager :=
  { manager with handles := Dict.empty, operations := Dict.empty }

/-- The ledger of a workspace. -/
def ledger (manager : WorkspaceManager) (path : WorkspacePath) : List WorkspaceFileOperation :=
  (manager.operations.get? path).getD []

/-! ## The operations -/

/-- `_require_known`. -/
def requireKnown (path : WorkspacePath) : Managing WorkspaceHandle :=
  ask (·.handles.get? path) >>= fun known =>
    match known with
    | some workspace => pure workspace
    | none => raise .state

/-- `_require`. -/
def require (path : WorkspacePath) (allowed : List WorkspaceState) : Managing WorkspaceHandle :=
  requireKnown path >>= fun workspace =>
    if workspace.state ∈ allowed then pure workspace else raise .state

/-- `_persist`. -/
def persist (fate : Fate) (workspace : WorkspaceHandle) : Managing Unit :=
  meeting fate .port (change (fun manager =>
    manager.storeRecord ⟨workspace, manager.ledger workspace.path⟩))

/-- `_set_state`: the record comes first, the memory second. -/
def setState (fate : Fate) (workspace : WorkspaceHandle) (state : WorkspaceState) :
    Managing WorkspaceHandle :=
  persist fate { workspace with state := state } >>= fun _ =>
    change (fun manager => { manager with
      handles := manager.handles.set workspace.path { workspace with state := state } }) >>= fun _ =>
      pure { workspace with state := state }

/-- `start_iteration`. -/
def startIteration (fate : Fate) (path : WorkspacePath) : Managing WorkspaceHandle :=
  require path [.provisioned] >>= fun workspace => setState fate workspace .iterating

/-- `begin_checkpoint`. -/
def beginCheckpoint (fate : Fate) (path : WorkspacePath) : Managing WorkspaceHandle :=
  require path [.iterating] >>= fun workspace => setState fate workspace .checkpointing

/-- `abort_checkpoint`. -/
def abortCheckpoint (fate : Fate) (path : WorkspacePath) : Managing WorkspaceHandle :=
  require path [.checkpointing] >>= fun workspace => setState fate workspace .iterating

/-- `freeze`. -/
def freeze (fate : Fate) (path : WorkspacePath) : Managing WorkspaceHandle :=
  require path [.iterating, .checkpointing] >>= fun workspace => setState fate workspace .frozen

/-- An operation is appended to the ledger of a workspace. -/
def appendOperation (path : WorkspacePath) (operation : WorkspaceFileOperation)
    (manager : WorkspaceManager) : WorkspaceManager :=
  { manager with operations := manager.operations.set path (manager.ledger path ++ [operation]) }

/-- `record_write`; the record is written with the caller's handle. -/
def recordWrite (fate : Fate) (workspace : WorkspaceHandle) (tool : WriteTool) (relative : String)
    (bytesWritten : Nat) (disposition : Disposition) : Managing WorkspaceFileOperation :=
  require workspace.path [.iterating] >>= fun _ =>
    if validateRelativePath relative = false then raise .value
    else
      let operation : WorkspaceFileOperation := ⟨workspace.path.runId, workspace.path.sliceId,
        workspace.path.generation, tool, relative, bytesWritten, disposition⟩
      change (appendOperation workspace.path operation) >>= fun _ =>
        persist fate workspace >>= fun _ => pure operation

/-- `record_operation`. -/
def recordOperation (fate : Fate) (operation : WorkspaceFileOperation) : Managing Unit :=
  let path : WorkspacePath := ⟨operation.runId, operation.sliceId, operation.generation⟩
  require path [.iterating] >>= fun workspace =>
    change (appendOperation path operation) >>= fun _ => persist fate workspace

/-- A file cannot be written where a file is on its way, or where its name is a directory. -/
def blocked (tree : LinkedTree) (relative : String) : Bool :=
  tree.keys.any (fun other => startsWith relative (other ++ "/") || startsWith other (relative ++ "/"))

/-- One file of a new workspace. -/
def writeFile (fates : ManagerFates) (path : WorkspacePath) (entry : String × ByteArray) :
    Managing Unit :=
  if validateRelativePath entry.1 = false then raise .value
  else
    ask (fun manager => (manager.directories.get? path).getD Dict.empty) >>= fun tree =>
      if blocked tree entry.1 then raise .port
      else meeting (fates (.writeFile entry.1)) .port
        (change (setDirectory path (tree.set entry.1 (.file entry.2))))

/-- What `provision` does about an exception. -/
def undoProvision (fates : ManagerFates) (path : WorkspacePath) : Managing Unit :=
  Lib.Process.catching (meeting (fates .undoVolume) .port (pure ())) (fun _ => pure ()) >>= fun _ =>
    meeting (fates .undoDirectory) .port (change (removeDirectory path)) >>= fun _ =>
      change (forget path) >>= fun _ =>
        meeting (fates .undoState) .port (change (deleteRecord path))

/-- `provision`. -/
def provision (fates : ManagerFates) (path : WorkspacePath) (baseVerifiedOid : String)
    (checkpointFiles : Dict String ByteArray) (candidateOid : Option String) :
    Managing WorkspaceHandle :=
  ask (·.directories.get? path) >>= fun existing =>
    if existing.isSome then raise .state
    else
      let workspace : WorkspaceHandle := ⟨path, .provisioned, baseVerifiedOid, candidateOid⟩
      meeting (fates .makeDirectory) .port (change (setDirectory path Dict.empty)) >>= fun _ =>
        each (writeFile fates path) checkpointFiles.entries >>= fun _ =>
          meeting (fates .openRoot) .port (pure ()) >>= fun _ =>
            change (manage workspace []) >>= fun _ =>
              Lib.Process.catching
                (meeting (fates .createVolume) .port (pure ()) >>= fun _ =>
                  persist (fates .saveState) workspace)
                (fun error => undoProvision fates path >>= fun _ => raise error) >>= fun _ =>
                pure workspace

/-- What `recover` makes of a state record. -/
def reattach (path : WorkspacePath) (baseVerifiedOid : String) (candidateOid : Option String) :
    Option WorkspaceStateRecord → Option WorkspaceStateRecord
  | none => some ⟨⟨path, .iterating, baseVerifiedOid, candidateOid⟩, []⟩
  | some record =>
    if record.handle.path ≠ path ∨ record.handle.baseVerifiedOid ≠ baseVerifiedOid ∨
        (candidateOid.isSome ∧ record.handle.candidateOid ≠ candidateOid) then none
    else some { record with handle := { record.handle with state := .iterating } }

/-- `recover`. -/
def recover (fates : ManagerFates) (path : WorkspacePath) (baseVerifiedOid : String)
    (candidateOid : Option String) : Managing WorkspaceHandle :=
  ask (·.handles.get? path) >>= fun known =>
    match known with
    | some existing =>
      if candidateOid.isSome ∧ existing.candidateOid ≠ candidateOid then raise .state
      else pure existing
    | none =>
      ask (·.directories.get? path) >>= fun directory =>
        if directory.isNone then raise .state
        else
          meeting (fates .loadState) .state (ask (·.records.get? path)) >>= fun record =>
            match reattach path baseVerifiedOid candidateOid record with
            | none => raise .state
            | some attached =>
              meeting (fates .openRoot) .port (pure ()) >>= fun _ =>
                change (manage attached.handle attached.operations) >>= fun _ =>
                  persist (fates .saveState) attached.handle >>= fun _ => pure attached.handle

/-- `close`. -/
def close (fates : ManagerFates) (path : WorkspacePath) : Managing Unit :=
  ask (·.handles.get? path) >>= fun known =>
    match known with
    | none =>
      meeting (fates .loadState) .state (ask (·.records.get? path)) >>= fun record =>
        ask (·.directories.get? path) >>= fun directory =>
          if record.isNone ∧ directory.isNone then pure () else raise .state
    | some _ =>
      meeting (fates .quiesceVolume) .port (pure ()) >>= fun _ =>
        meeting (fates .destroyVolume) .port (pure ()) >>= fun _ =>
          ask (·.directories.get? path) >>= fun directory =>
            (if directory.isSome then
              meeting (fates .removeDirectory) .port (change (removeDirectory path))
            else pure ()) >>= fun _ =>
              meeting (fates .deleteState) .port (change (deleteRecord path)) >>= fun _ =>
                change (forget path)

/-- The fates of the parts of a rebuild. -/
structure RebuildFates where
  recovering : ManagerFates
  closing : ManagerFates
  provisioning : ManagerFates

/-- Every call of a rebuild runs. -/
def RebuildFates.healthy : RebuildFates := ⟨.healthy, .healthy, .healthy⟩

/-- `rebuild`. -/
def rebuild (fates : RebuildFates) (workspace : WorkspaceHandle)
    (checkpointFiles : Dict String ByteArray) (candidateOid : Option String) :
    Managing WorkspaceHandle :=
  requireKnown workspace.path >>= fun _ =>
    close fates.closing workspace.path >>= fun _ =>
      provision fates.provisioning workspace.path workspace.baseVerifiedOid checkpointFiles
        candidateOid

/-- The workspace that `rebuild_from_candidate` finds, known or recovered. -/
def findCurrent (fates : ManagerFates) (workspace : WorkspaceHandle) :
    Managing (Option WorkspaceHandle) :=
  ask (·.handles.get? workspace.path) >>= fun known =>
    match known with
    | some current => pure (some current)
    | none =>
      ask (·.directories.get? workspace.path) >>= fun directory =>
        if directory.isSome then
          recover fates workspace.path workspace.baseVerifiedOid none >>= fun current =>
            pure (some current)
        else pure none

/-- `rebuild_from_candidate`. -/
def rebuildFromCandidate (fates : RebuildFates) (workspace : WorkspaceHandle) (candidateOid : String)
    (checkpointFiles : Dict String ByteArray) : Managing WorkspaceHandle :=
  if candidateOid = "" then raise .state
  else
    findCurrent fates.recovering workspace >>= fun current =>
      match current with
      | some current =>
        if current.candidateOid = some candidateOid then pure current
        else rebuild fates current checkpointFiles (some candidateOid)
      | none => rebuild fates workspace checkpointFiles (some candidateOid)

/-! ## Histories -/

/-- A call of the manager. -/
inductive Request where
  | provision (fates : ManagerFates) (path : WorkspacePath) (baseVerifiedOid : String)
      (checkpointFiles : Dict String ByteArray) (candidateOid : Option String)
  | recover (fates : ManagerFates) (path : WorkspacePath) (baseVerifiedOid : String)
      (candidateOid : Option String)
  | startIteration (fate : Fate) (path : WorkspacePath)
  | beginCheckpoint (fate : Fate) (path : WorkspacePath)
  | abortCheckpoint (fate : Fate) (path : WorkspacePath)
  | freeze (fate : Fate) (path : WorkspacePath)
  | recordWrite (fate : Fate) (workspace : WorkspaceHandle) (tool : WriteTool) (relative : String)
      (bytesWritten : Nat) (disposition : Disposition)
  | recordOperation (fate : Fate) (operation : WorkspaceFileOperation)
  | rebuild (fates : RebuildFates) (workspace : WorkspaceHandle)
      (checkpointFiles : Dict String ByteArray) (candidateOid : Option String)
  | rebuildFromCandidate (fates : RebuildFates) (workspace : WorkspaceHandle) (candidateOid : String)
      (checkpointFiles : Dict String ByteArray)
  | close (fates : ManagerFates) (path : WorkspacePath)

/-- The call without what it returns. -/
def perform : Request → Managing Unit
  | .provision fates path base files oid => provision fates path base files oid >>= fun _ => pure ()
  | .recover fates path base oid => recover fates path base oid >>= fun _ => pure ()
  | .startIteration fate path => startIteration fate path >>= fun _ => pure ()
  | .beginCheckpoint fate path => beginCheckpoint fate path >>= fun _ => pure ()
  | .abortCheckpoint fate path => abortCheckpoint fate path >>= fun _ => pure ()
  | .freeze fate path => freeze fate path >>= fun _ => pure ()
  | .recordWrite fate workspace tool relative bytes disposition =>
    recordWrite fate workspace tool relative bytes disposition >>= fun _ => pure ()
  | .recordOperation fate operation => recordOperation fate operation
  | .rebuild fates workspace files oid => rebuild fates workspace files oid >>= fun _ => pure ()
  | .rebuildFromCandidate fates workspace oid files =>
    rebuildFromCandidate fates workspace oid files >>= fun _ => pure ()
  | .close fates path => close fates path

/-- What happens to the workspaces: a call, the start of a new process, or anything at all that
becomes of a directory. -/
inductive Event where
  | call (request : Request)
  | restart
  | disk (path : WorkspacePath) (content : Option LinkedTree)

/-- The manager after an event; a process that dies takes the memory with it. -/
def step (manager : WorkspaceManager) : Event → WorkspaceManager
  | .call request =>
    match perform request manager with
    | (.error .died, after) => after.restart
    | (_, after) => after
  | .restart => manager.restart
  | .disk path (some tree) => manager.setDirectory path tree
  | .disk path none => manager.removeDirectory path

/-- A manager without workspaces. -/
def initial : WorkspaceManager := ⟨Dict.empty, Dict.empty, Dict.empty, Dict.empty⟩

/-! ## Handles and records are filed under their paths -/

/-- Handles and records are found under their own paths. -/
structure Consistent (manager : WorkspaceManager) : Prop where
  handles : ∀ path workspace, manager.handles.get? path = some workspace → workspace.path = path
  records : ∀ path record, manager.records.get? path = some record → record.handle.path = path

variable {manager : WorkspaceManager}

theorem consistent_initial : Consistent initial where
  handles := fun _ _ found => nomatch found
  records := fun _ _ found => nomatch found

section

variable (consistent : Consistent manager)
include consistent

theorem Consistent.setDirectory (path : WorkspacePath) (tree : LinkedTree) :
    Consistent (manager.setDirectory path tree) :=
  ⟨consistent.handles, consistent.records⟩

theorem Consistent.removeDirectory (path : WorkspacePath) :
    Consistent (manager.removeDirectory path) :=
  ⟨consistent.handles, consistent.records⟩

theorem Consistent.appendOperation (path : WorkspacePath) (operation : WorkspaceFileOperation) :
    Consistent (manager.appendOperation path operation) :=
  ⟨consistent.handles, consistent.records⟩

theorem Consistent.storeRecord (record : WorkspaceStateRecord) :
    Consistent (manager.storeRecord record) := by
  refine ⟨consistent.handles, ?_⟩
  intro path found stored
  rw [WorkspaceManager.storeRecord, Dict.get?_set] at stored
  split at stored
  · next same =>
      cases stored
      exact same.symm
  · exact consistent.records path found stored

theorem Consistent.deleteRecord (path : WorkspacePath) :
    Consistent (manager.deleteRecord path) := by
  refine ⟨consistent.handles, ?_⟩
  intro other found stored
  rw [WorkspaceManager.deleteRecord, Dict.get?_erase] at stored
  split at stored
  · cases stored
  · exact consistent.records other found stored

theorem Consistent.setHandle (workspace : WorkspaceHandle)
    (operations : Dict WorkspacePath (List WorkspaceFileOperation)) :
    Consistent { manager with
      handles := manager.handles.set workspace.path workspace, operations := operations } := by
  refine ⟨?_, consistent.records⟩
  intro path found held
  rw [Dict.get?_set] at held
  split at held
  · next same =>
      cases held
      exact same.symm
  · exact consistent.handles path found held

theorem Consistent.forget (path : WorkspacePath) : Consistent (manager.forget path) := by
  refine ⟨?_, consistent.records⟩
  intro other found held
  rw [WorkspaceManager.forget, Dict.get?_erase] at held
  split at held
  · cases held
  · exact consistent.handles other found held

theorem Consistent.restart : Consistent manager.restart :=
  ⟨fun _ _ found => (nomatch found), consistent.records⟩

end

theorem requireKnown_consistent (path : WorkspacePath) : Keeps Consistent (requireKnown path) := by
  refine (keeps_ask _).bind fun known => ?_
  cases known with
  | none => exact keeps_raise _
  | some workspace => exact keeps_pure _

theorem require_consistent (path : WorkspacePath) (allowed : List WorkspaceState) :
    Keeps Consistent (require path allowed) := by
  refine (requireKnown_consistent path).bind fun workspace => ?_
  split
  · exact keeps_pure _
  · exact keeps_raise _

theorem persist_consistent (fate : Fate) (workspace : WorkspaceHandle) :
    Keeps Consistent (persist fate workspace) :=
  (keeps_change fun _ consistent => consistent.storeRecord _).meeting

theorem setState_consistent (fate : Fate) (workspace : WorkspaceHandle) (state : WorkspaceState) :
    Keeps Consistent (setState fate workspace state) := by
  refine (persist_consistent fate _).bind fun _ => ?_
  refine (keeps_change fun manager consistent => ?_).bind fun _ => keeps_pure _
  exact consistent.setHandle { workspace with state := state } _

theorem recordWrite_consistent (fate : Fate) (workspace : WorkspaceHandle) (tool : WriteTool)
    (relative : String) (bytesWritten : Nat) (disposition : Disposition) :
    Keeps Consistent (recordWrite fate workspace tool relative bytesWritten disposition) := by
  refine (require_consistent _ _).bind fun _ => ?_
  split
  · exact keeps_raise _
  · refine (keeps_change fun _ consistent => consistent.appendOperation _ _).bind fun _ => ?_
    exact (persist_consistent fate workspace).bind fun _ => keeps_pure _

theorem recordOperation_consistent (fate : Fate) (operation : WorkspaceFileOperation) :
    Keeps Consistent (recordOperation fate operation) := by
  refine (require_consistent _ _).bind fun workspace => ?_
  refine (keeps_change fun _ consistent => consistent.appendOperation _ _).bind fun _ => ?_
  exact persist_consistent fate workspace

theorem writeFile_consistent (fates : ManagerFates) (path : WorkspacePath)
    (entry : String × ByteArray) : Keeps Consistent (writeFile fates path entry) := by
  rw [writeFile]
  split
  · exact keeps_raise _
  · refine (keeps_ask _).bind fun tree => ?_
    split
    · exact keeps_raise _
    · exact (keeps_change fun _ consistent => consistent.setDirectory _ _).meeting

theorem undoProvision_consistent (fates : ManagerFates) (path : WorkspacePath) :
    Keeps Consistent (undoProvision fates path) := by
  refine ((keeps_pure ()).meeting.catching fun _ => keeps_pure ()).bind fun _ => ?_
  refine (keeps_change fun _ consistent => consistent.removeDirectory path).meeting.bind fun _ => ?_
  refine (keeps_change fun _ consistent => consistent.forget path).bind fun _ => ?_
  exact (keeps_change fun _ consistent => consistent.deleteRecord path).meeting

theorem provision_consistent (fates : ManagerFates) (path : WorkspacePath) (baseVerifiedOid : String)
    (checkpointFiles : Dict String ByteArray) (candidateOid : Option String) :
    Keeps Consistent (provision fates path baseVerifiedOid checkpointFiles candidateOid) := by
  refine (keeps_ask _).bind fun existing => ?_
  split
  · exact keeps_raise _
  · refine (keeps_change fun _ consistent => consistent.setDirectory path _).meeting.bind fun _ => ?_
    refine (Keeps.each (writeFile_consistent fates path) _).bind fun _ => ?_
    refine (keeps_pure ()).meeting.bind fun _ => ?_
    refine (keeps_change fun manager consistent => ?_).bind fun _ => ?_
    · exact consistent.setHandle _ _
    · refine Keeps.bind (Keeps.catching ?_ fun error => ?_) fun _ => keeps_pure _
      · exact (keeps_pure ()).meeting.bind fun _ => persist_consistent _ _
      · exact (undoProvision_consistent fates path).bind fun _ => keeps_raise error

theorem recover_consistent (fates : ManagerFates) (path : WorkspacePath) (baseVerifiedOid : String)
    (candidateOid : Option String) :
    Keeps Consistent (recover fates path baseVerifiedOid candidateOid) := by
  refine (keeps_ask _).bind fun known => ?_
  cases known with
  | some existing =>
    dsimp only
    split
    · exact keeps_raise _
    · exact keeps_pure _
  | none =>
    refine (keeps_ask _).bind fun directory => ?_
    split
    · exact keeps_raise _
    · refine (keeps_ask _).meeting.bind fun record => ?_
      split
      · exact keeps_raise _
      · refine (keeps_pure ()).meeting.bind fun _ => ?_
        refine (keeps_change fun manager consistent => ?_).bind fun _ => ?_
        · exact consistent.setHandle _ _
        · exact (persist_consistent _ _).bind fun _ => keeps_pure _

theorem close_keeps {inv : WorkspaceManager → Prop} (fates : ManagerFates) (path : WorkspacePath)
    (removed : ∀ manager, inv manager → inv (manager.removeDirectory path))
    (deleted : ∀ manager, inv manager → inv (manager.deleteRecord path))
    (forgotten : ∀ manager, inv manager → inv (manager.forget path)) :
    Keeps inv (close fates path) := by
  refine (keeps_ask _).bind fun known => ?_
  cases known with
  | none =>
    refine (keeps_ask _).meeting.bind fun record => ?_
    refine (keeps_ask _).bind fun directory => ?_
    split
    · exact keeps_pure _
    · exact keeps_raise _
  | some _ =>
    refine (keeps_pure ()).meeting.bind fun _ => ?_
    refine (keeps_pure ()).meeting.bind fun _ => ?_
    refine (keeps_ask _).bind fun directory => ?_
    refine Keeps.bind ?_ fun _ => ?_
    · split
      · exact (keeps_change removed).meeting
      · exact keeps_pure _
    · exact (keeps_change deleted).meeting.bind fun _ => keeps_change forgotten

theorem close_consistent (fates : ManagerFates) (path : WorkspacePath) :
    Keeps Consistent (close fates path) :=
  close_keeps fates path (fun _ consistent => consistent.removeDirectory path)
    (fun _ consistent => consistent.deleteRecord path) fun _ consistent => consistent.forget path

theorem rebuild_consistent (fates : RebuildFates) (workspace : WorkspaceHandle)
    (checkpointFiles : Dict String ByteArray) (candidateOid : Option String) :
    Keeps Consistent (rebuild fates workspace checkpointFiles candidateOid) := by
  refine (requireKnown_consistent _).bind fun _ => ?_
  refine (close_consistent _ _).bind fun _ => ?_
  exact provision_consistent _ _ _ _ _

theorem rebuildFromCandidate_consistent (fates : RebuildFates) (workspace : WorkspaceHandle)
    (candidateOid : String) (checkpointFiles : Dict String ByteArray) :
    Keeps Consistent (rebuildFromCandidate fates workspace candidateOid checkpointFiles) := by
  rw [rebuildFromCandidate]
  split
  · exact keeps_raise _
  · refine Keeps.bind ?_ fun current => ?_
    · refine (keeps_ask _).bind fun known => ?_
      cases known with
      | some current => exact keeps_pure _
      | none =>
        refine (keeps_ask _).bind fun directory => ?_
        split
        · exact (recover_consistent _ _ _ _).bind fun _ => keeps_pure _
        · exact keeps_pure _
    · cases current with
      | none => exact rebuild_consistent _ _ _ _
      | some current =>
        dsimp only
        split
        · exact keeps_pure _
        · exact rebuild_consistent _ _ _ _

theorem perform_consistent (request : Request) : Keeps Consistent (perform request) := by
  have setting : ∀ (fate : Fate) (path : WorkspacePath) (allowed : List WorkspaceState)
      (state : WorkspaceState), Keeps Consistent
        (require path allowed >>= fun workspace => setState fate workspace state) :=
    fun fate path allowed state => (require_consistent path allowed).bind fun workspace =>
      setState_consistent fate workspace state
  cases request with
  | provision fates path base files oid =>
    exact (provision_consistent fates path base files oid).bind fun _ => keeps_pure ()
  | recover fates path base oid =>
    exact (recover_consistent fates path base oid).bind fun _ => keeps_pure ()
  | startIteration fate path => exact (setting fate path _ _).bind fun _ => keeps_pure ()
  | beginCheckpoint fate path => exact (setting fate path _ _).bind fun _ => keeps_pure ()
  | abortCheckpoint fate path => exact (setting fate path _ _).bind fun _ => keeps_pure ()
  | freeze fate path => exact (setting fate path _ _).bind fun _ => keeps_pure ()
  | recordWrite fate workspace tool relative bytes disposition =>
    exact (recordWrite_consistent fate workspace tool relative bytes disposition).bind
      fun _ => keeps_pure ()
  | recordOperation fate operation => exact recordOperation_consistent fate operation
  | rebuild fates workspace files oid =>
    exact (rebuild_consistent fates workspace files oid).bind fun _ => keeps_pure ()
  | rebuildFromCandidate fates workspace oid files =>
    exact (rebuildFromCandidate_consistent fates workspace oid files).bind fun _ => keeps_pure ()
  | close fates path => exact close_consistent fates path

/-- Every step keeps the manager consistent. -/
theorem step_consistent (manager : WorkspaceManager) (event : Event)
    (consistent : Consistent manager) : Consistent (step manager event) := by
  cases event with
  | call request =>
    have kept := (perform_consistent request).kept consistent
    rw [step]
    split
    · next ended =>
        rw [ended] at kept
        exact kept.restart
    · next ended =>
        rw [ended] at kept
        exact kept
  | restart => exact consistent.restart
  | disk path content =>
    cases content with
    | some tree => exact consistent.setDirectory path tree
    | none => exact consistent.removeDirectory path

/-- Every history leaves the manager consistent. -/
theorem consistent_after (history : List Event) : Consistent (runFrom step initial history) :=
  runFrom_invariant Consistent step_consistent consistent_initial history

end WorkspaceManager

end CodeMigrator
