import CodeMigrator.Workspace.CheckpointMoves

/-!
# A consumed generation

Calls of the manager and of `checkpoint`, new processes and changes of directories and refs in any
order: what becomes of a workspace whose generation a checkpoint has consumed, as long as nobody
provisions, rebuilds or reattaches it.
-/

namespace CodeMigrator
open Lib

namespace WorkspaceManager
open Lib.Process

/-! ## A shut workspace -/

/-- The workspace of a path is frozen where the process holds it. -/
structure Shut (path : WorkspacePath) (manager : WorkspaceManager) : Prop where
  consistent : Consistent manager
  frozen : ∀ workspace, manager.handles.get? path = some workspace → workspace.state = .frozen

variable {path : WorkspacePath} {manager : WorkspaceManager} {allowed : List WorkspaceState}
  {other : WorkspacePath}

section

variable (shut : Shut path manager)
include shut

theorem Shut.aside {after : WorkspaceManager} (consistent : Consistent after)
    (same : after.handles = manager.handles) : Shut path after := by
  refine ⟨consistent, ?_⟩
  rw [same]
  exact shut.frozen

theorem Shut.setDirectory (other : WorkspacePath) (tree : LinkedTree) :
    Shut path (manager.setDirectory other tree) :=
  shut.aside (shut.consistent.setDirectory other tree) rfl

theorem Shut.removeDirectory (other : WorkspacePath) : Shut path (manager.removeDirectory other) :=
  shut.aside (shut.consistent.removeDirectory other) rfl

theorem Shut.appendOperation (other : WorkspacePath) (operation : WorkspaceFileOperation) :
    Shut path (manager.appendOperation other operation) :=
  shut.aside (shut.consistent.appendOperation other operation) rfl

theorem Shut.storeRecord (record : WorkspaceStateRecord) : Shut path (manager.storeRecord record) :=
  shut.aside (shut.consistent.storeRecord record) rfl

theorem Shut.deleteRecord (other : WorkspacePath) : Shut path (manager.deleteRecord other) :=
  shut.aside (shut.consistent.deleteRecord other) rfl

theorem Shut.restart : Shut path manager.restart :=
  ⟨shut.consistent.restart, fun _ held => nomatch held⟩

theorem Shut.forget (other : WorkspacePath) : Shut path (manager.forget other) := by
  refine ⟨shut.consistent.forget other, fun workspace held => ?_⟩
  rw [WorkspaceManager.forget, Dict.get?_erase] at held
  split at held
  · cases held
  · exact shut.frozen workspace held

theorem Shut.setHandle {workspace : WorkspaceHandle}
    (operations : Dict WorkspacePath (List WorkspaceFileOperation))
    (other : workspace.path = path → workspace.state = .frozen) : Shut path { manager with
      handles := manager.handles.set workspace.path workspace, operations := operations } := by
  refine ⟨shut.consistent.setHandle workspace operations, fun found held => ?_⟩
  rw [Dict.get?_set] at held
  split at held
  · next same =>
      cases held
      exact other same.symm
  · exact shut.frozen found held

end

/-! ## The operations on it -/

theorem requireKnown_shut (other : WorkspacePath) (shut : Shut path manager) :
    (requireKnown other).After (.keeping (Shut path) fun workspace after =>
      workspace.path = other ∧ after.handles.get? other = some workspace) manager := by
  rw [requireKnown, after_bind, after_ask]
  cases known : manager.handles.get? other with
  | none => exact shut
  | some workspace => exact ⟨shut, shut.consistent.handles other workspace known, known⟩

theorem persist_shut (fate : Fate) (workspace : WorkspaceHandle) :
    Keeps (Shut path) (persist fate workspace) :=
  (keeps_change fun _ shut => shut.storeRecord _).meeting

theorem require_shut (other : WorkspacePath) (open? : WorkspaceState.frozen ∉ allowed)
    (shut : Shut path manager) :
    (require other allowed).After (.keeping (Shut path) fun workspace _ =>
      workspace.path = other ∧ other ≠ path) manager := by
  refine keeping_bind (requireKnown_shut other shut) fun workspace after shut found => ?_
  split
  · next member =>
      refine ⟨shut, found.1, ?_⟩
      rintro rfl
      rw [shut.frozen workspace found.2] at member
      exact open? member
  · exact shut

theorem setting_shut (fate : Fate) (other : WorkspacePath) (open? : WorkspaceState.frozen ∉ allowed)
    (state : WorkspaceState) :
    Keeps (Shut path) (require other allowed >>= fun workspace => setState fate workspace state) := by
  intro manager shut
  refine keeping_bind (require_shut other open? shut) fun workspace after shut found => ?_
  refine ((persist_shut fate _).bind fun _ => Keeps.bind (keeps_change fun manager shut => ?_)
    fun _ => keeps_pure _) after shut
  refine @Shut.setHandle _ _ shut { workspace with state := state } manager.operations fun same => ?_
  exact absurd (found.1.symm.trans same) found.2

theorem recordWrite_shut (fate : Fate) (workspace : WorkspaceHandle) (tool : WriteTool)
    (relative : String) (bytesWritten : Nat) (disposition : Disposition) :
    Keeps (Shut path) (recordWrite fate workspace tool relative bytesWritten disposition) := by
  intro manager shut
  refine keeping_bind (require_shut _ (by decide) shut) fun _ after shut _ => ?_
  split
  · exact shut
  · refine (Keeps.bind (keeps_change fun _ shut => shut.appendOperation _ _) fun _ => ?_) after shut
    exact (persist_shut fate workspace).bind fun _ => keeps_pure _

theorem recordOperation_shut (fate : Fate) (operation : WorkspaceFileOperation) :
    Keeps (Shut path) (recordOperation fate operation) := by
  intro manager shut
  refine keeping_bind (require_shut _ (by decide) shut) fun workspace after shut _ => ?_
  exact (Keeps.bind (keeps_change fun _ shut => shut.appendOperation _ _) fun _ =>
    persist_shut fate workspace) after shut

theorem writeFile_shut (fates : ManagerFates) (other : WorkspacePath) (entry : String × ByteArray) :
    Keeps (Shut path) (writeFile fates other entry) := by
  rw [writeFile]
  split
  · exact keeps_raise _
  · refine (keeps_ask _).bind fun tree => ?_
    split
    · exact keeps_raise _
    · exact (keeps_change fun _ shut => shut.setDirectory _ _).meeting

theorem undoProvision_shut (fates : ManagerFates) (other : WorkspacePath) :
    Keeps (Shut path) (undoProvision fates other) := by
  refine ((keeps_pure ()).meeting.catching fun _ => keeps_pure ()).bind fun _ => ?_
  refine (keeps_change fun _ shut => shut.removeDirectory other).meeting.bind fun _ => ?_
  refine (keeps_change fun _ shut => shut.forget other).bind fun _ => ?_
  exact (keeps_change fun _ shut => shut.deleteRecord other).meeting

theorem provision_shut (fates : ManagerFates) (apart : other ≠ path) (baseVerifiedOid : String)
    (checkpointFiles : Dict String ByteArray) (candidateOid : Option String) :
    Keeps (Shut path) (provision fates other baseVerifiedOid checkpointFiles candidateOid) := by
  refine (keeps_ask _).bind fun existing => ?_
  split
  · exact keeps_raise _
  · refine (keeps_change fun _ shut => shut.setDirectory other _).meeting.bind fun _ => ?_
    refine (Keeps.each (writeFile_shut fates other) _).bind fun _ => ?_
    refine (keeps_pure ()).meeting.bind fun _ => ?_
    refine (keeps_change fun manager shut => ?_).bind fun _ => ?_
    · exact shut.setHandle _ fun same => absurd same apart
    · refine Keeps.bind (Keeps.catching ?_ fun error => ?_) fun _ => keeps_pure _
      · exact (keeps_pure ()).meeting.bind fun _ => persist_shut _ _
      · exact (undoProvision_shut fates other).bind fun _ => keeps_raise error

theorem reattach_path {baseVerifiedOid : String} {candidateOid : Option String}
    {record : Option WorkspaceStateRecord} {attached : WorkspaceStateRecord}
    (found : reattach other baseVerifiedOid candidateOid record = some attached) :
    attached.handle.path = other := by
  cases record with
  | none =>
    cases found
    rfl
  | some record =>
    rw [reattach] at found
    split at found
    · cases found
    · next fits =>
        cases found
        exact not_not.mp fun different => fits (.inl different)

theorem recover_shut (fates : ManagerFates) (baseVerifiedOid : String)
    (candidateOid : Option String) (shut : Shut path manager)
    (apart : other = path → manager.handles.get? path ≠ none) :
    (recover fates other baseVerifiedOid candidateOid).After
      (.keeping (Shut path) fun workspace _ => workspace.path = other) manager := by
  rw [recover, after_bind, after_ask]
  cases known : manager.handles.get? other with
  | some existing =>
    dsimp only
    split
    · exact shut
    · exact ⟨shut, shut.consistent.handles other existing known⟩
  | none =>
    have apart : other ≠ path := by
      rintro rfl
      exact apart rfl known
    dsimp only
    rw [after_bind, after_ask]
    dsimp only
    split
    · exact shut
    · rw [after_bind]
      refine after_meeting_look rfl (fun _ => ?_) (fun _ _ => shut) (fun _ _ => shut)
      rw [after_ask]
      dsimp only
      split
      · exact shut
      · next attached found =>
          have place := reattach_path found
          rw [after_bind]
          refine after_meeting_look rfl (fun _ => ?_) (fun _ _ => shut) (fun _ _ => shut)
          rw [after_pure]
          dsimp only
          rw [after_bind, after_change]
          have taken : Shut path (manager.manage attached.handle attached.operations) :=
            shut.setHandle _ fun same => absurd (place.symm.trans same) apart
          exact keeping_bind (persist_shut _ attached.handle _ taken) fun _ after shut _ => ⟨shut, place⟩

theorem close_shut (fates : ManagerFates) (other : WorkspacePath) :
    Keeps (Shut path) (close fates other) :=
  close_keeps fates other (fun _ shut => shut.removeDirectory other)
    (fun _ shut => shut.deleteRecord other) fun _ shut => shut.forget other

theorem rebuild_shut (fates : RebuildFates) {workspace : WorkspaceHandle}
    (checkpointFiles : Dict String ByteArray) (candidateOid : Option String) (shut : Shut path manager)
    (apart : workspace.path = path → manager.handles.get? path = none) :
    (rebuild fates workspace checkpointFiles candidateOid).After
      (.keeping (Shut path) fun _ _ => True) manager := by
  refine keeping_bind (m := fun _ _ => workspace.path ≠ path) ?_ fun _ after shut apart => ?_
  · rw [requireKnown, after_bind, after_ask]
    cases known : manager.handles.get? workspace.path with
    | none => exact shut
    | some held =>
      refine ⟨shut, fun same => ?_⟩
      rw [same, apart same] at known
      cases known
  · refine ((close_shut _ _).bind fun _ => ?_) after shut
    exact provision_shut _ apart _ _ _

theorem findCurrent_shut (fates : ManagerFates) (workspace : WorkspaceHandle)
    (shut : Shut path manager) (apart : workspace.path ≠ path) :
    (findCurrent fates workspace).After (.keeping (Shut path) fun found _ =>
      ∀ current, found = some current → current.path = workspace.path) manager := by
  rw [findCurrent, after_bind, after_ask]
  cases known : manager.handles.get? workspace.path with
  | some current =>
    refine ⟨shut, ?_⟩
    rintro _ ⟨rfl⟩
    exact shut.consistent.handles workspace.path current known
  | none =>
    dsimp only
    rw [after_bind, after_ask]
    dsimp only
    split
    · refine keeping_bind (recover_shut fates _ none shut fun same => absurd same apart) ?_
      rintro current after shut place
      refine ⟨shut, ?_⟩
      rintro _ ⟨rfl⟩
      exact place
    · exact ⟨shut, fun _ found => by cases found⟩

/-- The call does not renew the workspace of the path: it does not provision or rebuild it, nor
attach it where the process does not hold it. -/
def Spares (path : WorkspacePath) (manager : WorkspaceManager) : Request → Prop
  | .provision _ other _ _ _ => other = path → manager.directories.get? path ≠ none
  | .recover _ other _ _ => other = path → manager.handles.get? path ≠ none
  | .rebuild _ workspace _ _ => workspace.path = path → manager.handles.get? path = none
  | .rebuildFromCandidate _ workspace candidateOid _ => workspace.path = path →
      match manager.handles.get? path with
      | some current => current.candidateOid = some candidateOid
      | none => manager.directories.get? path = none
  | _ => True

theorem rebuildFromCandidate_shut (fates : RebuildFates) (workspace : WorkspaceHandle)
    (candidateOid : String) (checkpointFiles : Dict String ByteArray) (shut : Shut path manager)
    (spares : Spares path manager (.rebuildFromCandidate fates workspace candidateOid checkpointFiles)) :
    (rebuildFromCandidate fates workspace candidateOid checkpointFiles).After
      (.keeping (Shut path) fun _ _ => True) manager := by
  rw [rebuildFromCandidate]
  split
  · exact shut
  · by_cases same : workspace.path = path
    · have spares := spares same
      rw [findCurrent, after_bind, after_bind, after_ask, same]
      cases known : manager.handles.get? path with
      | some current =>
        rw [known] at spares
        have spares : current.candidateOid = some candidateOid := spares
        dsimp only
        rw [after_pure]
        dsimp only
        rw [if_pos spares]
        exact ⟨shut, trivial⟩
      | none =>
        rw [known] at spares
        dsimp only
        rw [after_bind, after_ask, show manager.directories.get? path = none from spares]
        exact rebuild_shut fates _ _ shut fun _ => known
    · refine keeping_bind (findCurrent_shut fates.recovering workspace shut same) ?_
      intro found after shut place
      cases found with
      | none => exact rebuild_shut fates _ _ shut fun equal => absurd equal same
      | some current =>
        dsimp only
        split
        · exact ⟨shut, trivial⟩
        · have place := place current rfl
          exact rebuild_shut fates _ _ shut fun equal => absurd (place.symm.trans equal) same

theorem perform_shut (request : Request) (shut : Shut path manager)
    (spares : Spares path manager request) :
    (perform request).After (.keeping (Shut path) fun _ _ => True) manager := by
  cases request with
  | provision fates other base files oid =>
    refine keeping_bind (m := fun _ _ => True) ?_ fun _ _ shut _ => ⟨shut, trivial⟩
    by_cases same : other = path
    · rw [provision, after_bind, after_ask, same]
      have there : (manager.directories.get? path).isSome :=
        Option.isSome_iff_ne_none.mpr (spares same)
      dsimp only
      rw [if_pos there]
      exact shut
    · exact provision_shut fates same base files oid manager shut
  | recover fates other base oid =>
    exact keeping_bind (recover_shut fates base oid shut spares) fun _ _ shut _ => ⟨shut, trivial⟩
  | startIteration fate other =>
    exact (setting_shut fate other (by decide) _).bind (fun _ => keeps_pure ()) manager shut
  | beginCheckpoint fate other =>
    exact (setting_shut fate other (by decide) _).bind (fun _ => keeps_pure ()) manager shut
  | abortCheckpoint fate other =>
    exact (setting_shut fate other (by decide) _).bind (fun _ => keeps_pure ()) manager shut
  | freeze fate other =>
    exact (setting_shut fate other (by decide) _).bind (fun _ => keeps_pure ()) manager shut
  | recordWrite fate workspace tool relative bytes disposition =>
    exact (recordWrite_shut fate workspace tool relative bytes disposition).bind
      (fun _ => keeps_pure ()) manager shut
  | recordOperation fate operation => exact recordOperation_shut fate operation manager shut
  | rebuild fates workspace files oid =>
    exact keeping_bind (rebuild_shut fates files oid shut spares) fun _ _ shut _ => ⟨shut, trivial⟩
  | rebuildFromCandidate fates workspace oid files =>
    exact keeping_bind (rebuildFromCandidate_shut fates workspace oid files shut spares)
      fun _ _ shut _ => ⟨shut, trivial⟩
  | close fates other => exact close_shut fates other manager shut

theorem recordWrite_refused (fate : Fate) {workspace : WorkspaceHandle} (tool : WriteTool)
    (relative : String) (bytesWritten : Nat) (disposition : Disposition) (shut : Shut path manager)
    (place : workspace.path = path) (operation : WorkspaceFileOperation) (after : WorkspaceManager) :
    recordWrite fate workspace tool relative bytesWritten disposition manager ≠
      (.ok operation, after) := by
  intro ran
  have refused : (recordWrite fate workspace tool relative bytesWritten disposition).After
      ⟨fun _ _ => False, fun _ _ => True, fun _ => True⟩ manager := by
    rw [recordWrite, after_bind]
    refine (require_shut workspace.path (by decide) shut).weaken ⟨?_, fun _ _ _ => trivial, fun _ _ => trivial⟩
    rintro _ _ ⟨-, -, apart⟩
    exact absurd place apart
  rw [After, ran] at refused
  exact refused

theorem require_path (allowed : List WorkspaceState) (consistent : Consistent manager) :
    (require path allowed).After (.keeping Consistent fun workspace _ => workspace.path = path)
      manager := by
  refine keeping_bind (m := fun workspace _ => workspace.path = path) ?_ ?_
  · rw [requireKnown, after_bind, after_ask]
    cases known : manager.handles.get? path with
    | none => exact consistent
    | some workspace => exact ⟨consistent, consistent.handles path workspace known⟩
  · intro workspace after consistent place
    split
    · exact ⟨consistent, place⟩
    · exact consistent

theorem setting_path (fate : Fate) (allowed : List WorkspaceState) (state : WorkspaceState)
    (consistent : Consistent manager) :
    (require path allowed >>= fun workspace => setState fate workspace state).After
      (.keeping Consistent fun workspace after => workspace.path = path ∧
        ∀ held, after.handles.get? path = some held → held.state = state) manager := by
  refine keeping_bind (require_path allowed consistent) fun workspace after consistent place => ?_
  refine keeping_bind (persist_consistent fate _ after consistent) fun _ after consistent _ => ?_
  have taken := @Consistent.setHandle _ consistent { workspace with state := state } after.operations
  rw [after_bind, after_change]
  refine ⟨taken, place, fun held found => ?_⟩
  rw [Dict.get?_set, if_pos place.symm] at found
  cases found
  rfl

end WorkspaceManager

/-! ## The service -/

/-- What happens to the service: a call of the manager, a checkpoint, the start of a new process, or
anything at all that becomes of a directory or of the repository of the run. -/
inductive ServiceEvent where
  | call (request : WorkspaceManager.Request)
  | checkpoint (fates : CheckpointFates) (time : Nat) (request : CheckpointRequest)
  | restart
  | disk (path : WorkspacePath) (content : Option LinkedTree)
  | refs (repository : GitRepository)

namespace CheckpointService
open Lib.Process

/-- No workspaces, no stores. -/
def start (repository : GitRepository) : CheckpointWorld where
  manager := WorkspaceManager.initial
  intents := Dict.empty
  storedReceipts := Dict.empty
  receipts := Dict.empty
  pending := Dict.empty
  repository := repository
  locals := ⟨false, false, false⟩

/-- The world after an event. -/
def step (setup : CheckpointSetup) (world : CheckpointWorld) : ServiceEvent → CheckpointWorld
  | .call request => outlived (managing (WorkspaceManager.perform request) world)
  | .checkpoint fates time request => outlived (checkpoint setup fates time request world)
  | .restart => world.restart
  | .disk path (some tree) => { world with manager := world.manager.setDirectory path tree }
  | .disk path none => { world with manager := world.manager.removeDirectory path }
  | .refs repository => { world with repository := repository }

/-- The event does not renew the workspace of the path. -/
def Spared (path : WorkspacePath) (world : CheckpointWorld) : ServiceEvent → Prop
  | .call request => WorkspaceManager.Spares path world.manager request
  | _ => True

/-- A receipt is held or stored under a key. -/
def Held (world : CheckpointWorld) (key : CheckpointKey) (receipt : CheckpointReceipt) : Prop :=
  world.storedReceipts.get? key = some receipt ∨ world.receipts.get? key = some receipt

/-- The workspace is shut, and its receipts are those of an earlier world. -/
structure Barred (path : WorkspacePath) (first world : CheckpointWorld) : Prop where
  shut : WorkspaceManager.Shut path world.manager
  receipts : ∀ key receipt, key.path = path → Held world key receipt → Held first key receipt

variable {setup : CheckpointSetup} {fates : CheckpointFates} {time : Nat} {request : CheckpointRequest}
  {path : WorkspacePath} {first world : CheckpointWorld} {kept : WorkspaceManager → Prop}
  {inv : CheckpointWorld → Prop}

theorem managing_keeps {α : Type} {body : Managing α} (keeps : Keeps kept body)
    (part : ∀ world, inv world → kept world.manager)
    (whole : ∀ world manager, inv world → kept manager → inv { world with manager := manager }) :
    Keeps inv (managing body) := by
  intro world holds
  rw [managing, after_relabel, after_within]
  exact (keeps world.manager (part world holds)).weaken
    ⟨fun _ manager left => ⟨whole world manager holds left.1, trivial⟩,
      fun _ manager left => whole world manager holds left,
      fun manager left => whole world manager holds left⟩

theorem advanceCandidateRef_keeps
    (repository : ∀ world repository, inv world → inv { world with repository := repository })
    (path : WorkspacePath) (expectedOid : String) (newOid : GitOid) :
    Keeps inv (advanceCandidateRef setup fates path expectedOid newOid) := by
  refine (currentCandidateOid_keeps _ _).bind fun current => ?_
  split
  · exact keeps_raise _
  · split
    · exact keeps_pure _
    · refine (keeps_ask _).meeting.bind fun parents => ?_
      split
      · exact keeps_raise _
      · refine (keeps_ask _).bind fun present => Keeps.bind ?_ fun _ => ?_
        · refine Keeps.meeting ?_
          split
          · exact keeps_pure _
          · exact keeps_raise _
        · refine Keeps.meeting ((keeps_ask _).bind fun held => ?_)
          split
          · exact keeps_raise _
          · exact keeps_change fun _ kept => repository _ _ kept

theorem preserved_of (part : ∀ world, inv world → kept world.manager)
    (whole : ∀ world manager, inv world → kept manager → inv { world with manager := manager })
    (intents : ∀ world intents, inv world → inv { world with intents := intents })
    (pending : ∀ world pending, inv world → inv { world with pending := pending })
    (locals : ∀ world locals, inv world → inv { world with locals := locals })
    (repository : ∀ world repository, inv world → inv { world with repository := repository })
    (stored : ∀ world receipt, inv world →
      inv { world with storedReceipts := world.storedReceipts.set (keyOf request) receipt })
    (held : ∀ world receipt, inv world →
      inv { world with receipts := world.receipts.set (keyOf request) receipt })
    (known : ∀ path, Keeps kept (WorkspaceManager.requireKnown path))
    (setting : ∀ fate path allowed state, WorkspaceState.frozen ∉ allowed → Keeps kept
      (WorkspaceManager.require path allowed >>= fun workspace =>
        WorkspaceManager.setState fate workspace state))
    (closes : ∀ fates path, Keeps kept (WorkspaceManager.close fates path)) :
    Preserved setup fates time request inv where
  intents := intents
  pending := pending
  locals := locals
  stored := stored
  held := held
  known := fun path => managing_keeps (known path) part whole
  begins := fun fate path => managing_keeps (setting fate path _ _ (by decide)) part whole
  aborts := fun fate path => managing_keeps (setting fate path _ _ (by decide)) part whole
  freezes := fun fate path => managing_keeps (setting fate path _ _ (by decide)) part whole
  closes := fun fates path => managing_keeps (closes fates path) part whole
  resolves := currentCandidateOid_keeps
  creates := createCheckpoint_keeps fun world oid commit kept => repository world _ kept
  advances := fun path newOid => advanceCandidateRef_keeps repository path _ newOid

/-! ## Checkpoints of a workspace that is shut -/

theorem held_of_set {receipts : Dict CheckpointKey CheckpointReceipt} {key other : CheckpointKey}
    {receipt found : CheckpointReceipt} (apart : key ≠ other)
    (held : (receipts.set other receipt).get? key = some found) : receipts.get? key = some found := by
  rw [Dict.get?_set, if_neg apart] at held
  exact held

theorem barred_preserved (apart : request.handle.path ≠ path) :
    Preserved setup fates time request (Barred path first) := by
  have others : ∀ key : CheckpointKey, key.path = path → key ≠ keyOf request := by
    rintro key same rfl
    exact apart same
  refine preserved_of (fun _ barred => barred.shut) (fun _ _ barred shut => ⟨shut, barred.receipts⟩)
    (fun _ _ barred => ⟨barred.shut, barred.receipts⟩) (fun _ _ barred => ⟨barred.shut, barred.receipts⟩)
    (fun _ _ barred => ⟨barred.shut, barred.receipts⟩) (fun _ _ barred => ⟨barred.shut, barred.receipts⟩)
    ?_ ?_ ?_ ?_ WorkspaceManager.close_shut
  · intro world receipt barred
    refine ⟨barred.shut, fun key found same held => barred.receipts key found same ?_⟩
    exact held.imp_left (held_of_set (others key same))
  · intro world receipt barred
    refine ⟨barred.shut, fun key found same held => barred.receipts key found same ?_⟩
    exact held.imp_right (held_of_set (others key same))
  · intro other manager shut
    exact keeping_weaken (WorkspaceManager.requireKnown_shut other shut) fun _ _ _ _ => trivial
  · exact fun fate other allowed state open? => WorkspaceManager.setting_shut fate other open? state

theorem checkpoint_barred (barred : Barred request.handle.path first world) :
    (checkpoint setup fates time request).After (.keeping (Barred request.handle.path first)
      fun outcome _ => ∀ receipt, outcome = .receipt receipt → Held first (keyOf request) receipt)
      world := by
  have pending : ∀ world pending, Barred request.handle.path first world →
      Barred request.handle.path first { world with pending := pending } :=
    fun _ _ barred => ⟨barred.shut, barred.receipts⟩
  refine keeping_bind (m := fun cached _ => ∀ receipt, cached = some receipt →
    Held first (keyOf request) receipt) ?_ fun cached world barred held => ?_
  · rw [cachedReceipt, after_bind, after_ask]
    cases memory : world.receipts.get? (keyOf request) with
    | some receipt =>
      refine ⟨barred, ?_⟩
      rintro _ ⟨rfl⟩
      exact barred.receipts _ _ rfl (.inr memory)
    | none =>
      dsimp only
      refine after_meeting_look rfl (fun _ => ?_) (fun _ _ => barred) (fun _ _ => barred)
      exact ⟨barred, fun receipt stored => barred.receipts _ _ rfl (.inl stored)⟩
  · cases cached with
    | some receipt =>
      have known := held receipt rfl
      dsimp only
      rw [after_bind, after_change]
      refine ⟨⟨barred.shut, fun key found same there => ?_⟩, ?_⟩
      · rcases there with stored | memory
        · exact barred.receipts key found same (.inl stored)
        · change (world.receipts.set (keyOf request) receipt).get? key = some found at memory
          by_cases equal : key = keyOf request
          · rw [Dict.get?_set, if_pos equal] at memory
            cases memory
            rw [equal]
            exact known
          · exact barred.receipts key found same (.inr (held_of_set equal memory))
      · rintro _ ⟨rfl⟩
        exact known
    | none =>
      refine keeping_bind (loadPending_keeps pending world barred) fun pending world barred _ => ?_
      rw [after_bind, after_change]
      have barred : Barred request.handle.path first
          { world with locals := ⟨pending.isSome, false, false⟩ } := ⟨barred.shut, barred.receipts⟩
      refine keeping_bind (m := fun current _ => current = none) ?_ fun current world barred none => ?_
      · -- the workspace is not in its iteration
        refine keeping_catching ?_ fun error world barred => ?_
        · rw [after_bind, managing, after_relabel, after_within, WorkspaceManager.beginCheckpoint,
            after_bind]
          refine (WorkspaceManager.require_shut request.handle.path (by decide) barred.shut).weaken
            ⟨?_, ?_, ?_⟩
          · rintro workspace manager ⟨-, -, apart⟩
            exact absurd rfl apart
          · exact fun _ manager shut => ⟨shut, barred.receipts⟩
          · exact fun manager shut => ⟨shut, barred.receipts⟩
        · split
          · exact ⟨barred, rfl⟩
          · exact barred
      · subst none
        exact ⟨barred, fun _ found => by cases found⟩

/-! ## A consumed generation -/

/-- Handles and records are filed under their paths. -/
def Orderly (world : CheckpointWorld) : Prop := WorkspaceManager.Consistent world.manager

theorem orderly_preserved : Preserved setup fates time request Orderly :=
  preserved_of (fun _ orderly => orderly) (fun _ _ _ consistent => consistent)
    (fun _ _ orderly => orderly) (fun _ _ orderly => orderly) (fun _ _ orderly => orderly)
    (fun _ _ orderly => orderly) (fun _ _ orderly => orderly) (fun _ _ orderly => orderly)
    WorkspaceManager.requireKnown_consistent
    (fun fate path allowed state _ => (WorkspaceManager.require_consistent path allowed).bind
      fun workspace => WorkspaceManager.setState_consistent fate workspace state)
    WorkspaceManager.close_consistent

/-- A rejection that consumes the generation leaves the workspace shut. -/
def Consumes (path : WorkspacePath) (rejection : CheckpointRejection) (world : CheckpointWorld) :
    Prop :=
  rejection.generationConsumed = true → WorkspaceManager.Shut path world.manager

theorem settleConflict_consumes (workspace : WorkspaceHandle) (newOid : GitOid)
    (orderly : Orderly world) :
    (settleConflict setup fates request workspace newOid).After (.keeping Orderly
      fun refused after => ∀ rejection, refused = some rejection →
        Consumes workspace.path rejection after) world := by
  have preserved := @orderly_preserved setup fates 0 request
  have reads : Keeps Orderly (readCandidateRef setup fates workspace.path) :=
    Keeps.catching ((preserved.resolves _ _).bind fun _ => keeps_pure _) fun _ => keeps_pure _
  refine keeping_bind (reads world orderly) fun actual world orderly _ => ?_
  rw [after_bind, after_ask]
  dsimp only
  split
  · exact ⟨orderly, fun _ found => by cases found⟩
  · split
    · refine keeping_bind (preserved.aborts _ _ world orderly) fun _ after orderly _ => ⟨orderly, ?_⟩
      rintro _ ⟨rfl⟩ consumed
      cases consumed
    · rw [after_bind, after_change]
      refine keeping_bind (Keeps.meeting (keeps_change fun _ kept => preserved.intents _ _ kept) _
        (preserved.pending _ _ orderly)) fun _ world orderly _ => ?_
      refine keeping_bind (m := fun _ after => WorkspaceManager.Shut workspace.path after.manager) ?_ ?_
      · rw [managing, after_relabel, after_within]
        exact (WorkspaceManager.setting_path _ _ _ orderly).weaken
          ⟨fun _ _ left => ⟨left.1, left.1, left.2.2⟩, fun _ _ kept => kept, fun _ kept => kept⟩
      · intro _ after orderly shut
        refine ⟨orderly, ?_⟩
        rintro _ ⟨rfl⟩ _
        exact shut

theorem advance_consumes (workspace : WorkspaceHandle) (newOid : GitOid) (orderly : Orderly world) :
    (advance setup fates request workspace newOid).After (.keeping Orderly
      fun refused after => ∀ rejection, refused = some rejection →
        Consumes workspace.path rejection after) world := by
  have preserved := @orderly_preserved setup fates 0 request
  refine keeping_catching ?_ fun error after orderly => ?_
  · exact keeping_bind (preserved.advances _ _ world orderly) fun _ _ orderly _ =>
      ⟨orderly, fun _ found => by cases found⟩
  · split
    · exact settleConflict_consumes workspace newOid orderly
    · exact orderly

theorem gate_consumes (preserved : Preserved setup fates time request Orderly)
    (workspace : WorkspaceHandle) (inspection : Inspection) (orderly : Orderly world) :
    (gate fates workspace inspection).After (.keeping Orderly
      fun refused after => ∀ rejection, refused = some rejection →
        Consumes workspace.path rejection after) world := by
  rw [gate]
  split
  · refine keeping_bind (preserved.aborts _ _ world orderly) fun _ after orderly _ => ?_
    refine keeping_bind (preserved.closes _ _ after orderly) fun _ after orderly _ => ⟨orderly, ?_⟩
    rintro _ ⟨rfl⟩ consumed
    cases consumed
  · split
    · refine keeping_bind (preserved.aborts _ _ world orderly) fun _ after orderly _ => ⟨orderly, ?_⟩
      rintro _ ⟨rfl⟩ consumed
      cases consumed
    · exact ⟨orderly, fun _ found => by cases found⟩

theorem attempt_consumes (workspace : WorkspaceHandle) (pending : Option (GitOid × CheckpointManifest))
    (orderly : Orderly world) :
    (attempt setup fates time request workspace pending).After (.keeping Orderly
      fun outcome after => ∀ rejection, outcome = .rejection rejection →
        Consumes workspace.path rejection after) world := by
  have preserved := @orderly_preserved setup fates time request
  refine keeping_bind (preserved.inspect _ world orderly) fun inspection world orderly _ => ?_
  refine keeping_bind (gate_consumes preserved workspace inspection orderly) ?_
  intro refused world orderly consumes
  cases refused with
  | some rejection =>
    refine ⟨orderly, ?_⟩
    rintro _ ⟨rfl⟩
    exact consumes rejection rfl
  | none =>
    refine keeping_bind (preserved.ensureCommit _ _ _ _ world orderly) fun newOid world orderly _ => ?_
    refine keeping_bind (advance_consumes workspace newOid orderly) ?_
    intro refused world orderly consumes
    cases refused with
    | some rejection =>
      refine ⟨orderly, ?_⟩
      rintro _ ⟨rfl⟩
      exact consumes rejection rfl
    | none =>
      dsimp only
      rw [finish, after_bind, after_change]
      refine keeping_bind (preserved.freezes _ _ _ (preserved.locals _ _ orderly)) ?_
      intro _ world orderly _
      refine keeping_bind (Keeps.meeting (keeps_change fun _ kept => preserved.stored _ _ kept) _
        orderly) fun _ world orderly _ => ?_
      refine keeping_bind (Keeps.meeting (keeps_change fun _ kept => preserved.intents _ _ kept) _
        orderly) fun _ world orderly _ => ?_
      rw [after_bind, after_change]
      exact ⟨orderly, fun _ found => by cases found⟩

theorem recoverFailed_consumes (workspace : WorkspaceHandle) :
    (recoverFailed fates workspace).After ⟨fun outcome after => ∀ rejection,
      outcome = .rejection rejection → Consumes workspace.path rejection after,
      fun _ _ => True, fun _ => True⟩ world := by
  rw [recoverFailed, after_bind, after_ask]
  dsimp only
  rw [after_bind]
  refine .of_forall (fun _ world => ?_) (fun _ _ => trivial) (fun _ => trivial)
  dsimp only
  rw [after_bind]
  refine .of_forall (fun _ world => ?_) (fun _ _ => trivial) (fun _ => trivial)
  rintro _ ⟨rfl⟩ consumed
  cases consumed

theorem begin_path (orderly : Orderly world) :
    (begin? fates request).After (.keeping Orderly fun current _ => ∀ workspace,
      current = some workspace → workspace.path = request.handle.path) world := by
  refine keeping_catching ?_ fun error after orderly => ?_
  · refine keeping_bind (m := fun workspace _ => workspace.path = request.handle.path) ?_ ?_
    · rw [managing, after_relabel, after_within]
      exact (WorkspaceManager.setting_path _ _ _ orderly).weaken
        ⟨fun _ _ left => ⟨left.1, left.2.1⟩, fun _ _ kept => kept, fun _ kept => kept⟩
    · intro workspace after orderly place
      refine ⟨orderly, ?_⟩
      rintro _ ⟨rfl⟩
      exact place
  · split
    · exact ⟨orderly, fun _ found => by cases found⟩
    · exact orderly

theorem checkpoint_consumes (orderly : Orderly world) :
    (checkpoint setup fates time request).After ⟨fun outcome after => ∀ rejection,
      outcome = .rejection rejection → Consumes request.handle.path rejection after,
      fun _ _ => True, fun _ => True⟩ world := by
  have preserved := @orderly_preserved setup fates time request
  rw [checkpoint, after_bind]
  refine (cachedReceipt_keeps world orderly).weaken
    ⟨?_, fun _ _ _ => trivial, fun _ _ => trivial⟩
  rintro cached world ⟨orderly, -⟩
  cases cached with
  | some receipt =>
    dsimp only
    rw [after_bind, after_change]
    exact fun _ found => by cases found
  | none =>
    dsimp only
    rw [checkpointAnew, after_bind]
    refine (loadPending_keeps preserved.pending world orderly).weaken
      ⟨?_, fun _ _ _ => trivial, fun _ _ => trivial⟩
    rintro pending world ⟨orderly, -⟩
    dsimp only
    rw [after_bind, after_change]
    have begun := @begin_path fates request _
      (preserved.locals world ⟨pending.isSome, false, false⟩ orderly)
    dsimp only
    rw [after_bind]
    refine begun.weaken ⟨?_, fun _ _ _ => trivial, fun _ _ => trivial⟩
    rintro current world ⟨orderly, place⟩
    cases current with
    | none =>
      rintro _ ⟨rfl⟩ consumed
      cases consumed
    | some workspace =>
      have place := place workspace rfl
      dsimp only
      rw [after_catching, ← place]
      refine (attempt_consumes workspace pending orderly).weaken
        ⟨fun _ _ left => left.2, fun _ after orderly => ?_, fun _ _ => trivial⟩
      exact recoverFailed_consumes workspace

/-! ## Histories -/

theorem Barred.restart (barred : Barred path first world) : Barred path first world.restart := by
  refine ⟨barred.shut.restart, fun key receipt same held => barred.receipts key receipt same ?_⟩
  rcases held with stored | memory
  · exact .inl stored
  · cases memory

theorem step_orderly (world : CheckpointWorld) (event : ServiceEvent) (orderly : Orderly world) :
    Orderly (step setup world event) := by
  have restarts : ∀ {world : CheckpointWorld}, Orderly world → Orderly world.restart :=
    fun orderly => WorkspaceManager.Consistent.restart orderly
  cases event with
  | call request =>
    refine outlived_of (Keeps.kept ?_ orderly) restarts
    exact managing_keeps (WorkspaceManager.perform_consistent request) (fun _ orderly => orderly)
      (fun _ _ _ consistent => consistent)
  | checkpoint fates time request =>
    exact outlived_of (orderly_preserved.checkpoint.kept orderly) restarts
  | restart => exact restarts orderly
  | disk path content =>
    cases content with
    | some tree => exact WorkspaceManager.Consistent.setDirectory orderly path tree
    | none => exact WorkspaceManager.Consistent.removeDirectory orderly path
  | refs repository => exact orderly

theorem step_barred {event : ServiceEvent} (barred : Barred path first world)
    (spared : Spared path world event) : Barred path first (step setup world event) := by
  cases event with
  | call request =>
    have called : (managing (WorkspaceManager.perform request)).After
        (.keeping (Barred path first) fun _ _ => True) world := by
      rw [managing, after_relabel, after_within]
      exact (WorkspaceManager.perform_shut request barred.shut spared).weaken
        ⟨fun _ _ left => ⟨⟨left.1, barred.receipts⟩, trivial⟩,
          fun _ _ shut => ⟨shut, barred.receipts⟩, fun _ shut => ⟨shut, barred.receipts⟩⟩
    exact outlived_of called.kept Barred.restart
  | checkpoint fates time request =>
    refine outlived_of ?_ Barred.restart
    by_cases same : request.handle.path = path
    · subst same
      exact (checkpoint_barred barred).kept
    · exact (barred_preserved same).checkpoint.kept barred
  | restart => exact barred.restart
  | disk other content =>
    cases content with
    | some tree => exact ⟨barred.shut.setDirectory other tree, barred.receipts⟩
    | none => exact ⟨barred.shut.removeDirectory other, barred.receipts⟩
  | refs repository => exact ⟨barred.shut, barred.receipts⟩

/-- No write is recorded for the workspace, and no checkpoint of it returns a receipt but one that was
held or stored when the generation was consumed. -/
def StaysFrozen (setup : CheckpointSetup) (path : WorkspacePath) (consumed last : CheckpointWorld) :
    Prop :=
  (∀ fate (workspace : WorkspaceHandle) tool relative bytesWritten disposition operation after,
    workspace.path = path → WorkspaceManager.recordWrite fate workspace tool relative bytesWritten
      disposition last.manager ≠ (.ok operation, after)) ∧
  ∀ fates time (request : CheckpointRequest) receipt after, request.handle.path = path →
    checkpoint setup fates time request last = (.ok (.receipt receipt), after) →
      Held consumed (keyOf request) receipt

/-- Once a checkpoint has consumed a generation, its workspace stays frozen through every history
that does not provision, rebuild or reattach it. -/
theorem consumed_generation_stays_frozen (setup : CheckpointSetup) (repository : GitRepository)
    (earlier later : List ServiceEvent) (fates : CheckpointFates) (time : Nat)
    (request : CheckpointRequest) (rejection : CheckpointRejection) (consumed : CheckpointWorld)
    (rejected : checkpoint setup fates time request
      (runFrom (step setup) (start repository) earlier) = (.ok (.rejection rejection), consumed))
    (flagged : rejection.generationConsumed = true)
    (spared : Along (step setup) (Spared request.handle.path) consumed later) :
    StaysFrozen setup request.handle.path consumed (runFrom (step setup) consumed later) := by
  have orderly : Orderly (runFrom (step setup) (start repository) earlier) :=
    runFrom_invariant Orderly step_orderly
      (show Orderly (start repository) from WorkspaceManager.consistent_initial) earlier
  have shut : WorkspaceManager.Shut request.handle.path consumed.manager := by
    have consumes := @checkpoint_consumes setup fates time request _ orderly
    rw [After, rejected] at consumes
    exact consumes rejection rfl flagged
  have barred : Barred request.handle.path consumed (runFrom (step setup) consumed later) :=
    always_of_along (Barred request.handle.path consumed)
      (fun _ _ barred spared => step_barred barred spared) ⟨shut, fun _ _ _ held => held⟩ spared
      later [] (List.append_nil later).symm
  constructor
  · intro fate workspace tool relative bytesWritten disposition operation after place
    exact WorkspaceManager.recordWrite_refused fate tool relative bytesWritten disposition barred.shut
      place operation after
  · intro fates time again receipt after place ran
    rw [← place] at barred
    have returned := @checkpoint_barred setup fates time again _ _ barred
    rw [After, ran] at returned
    exact returned.2 receipt rfl

end CheckpointService

/-! ## A receipt that is returned again, and a process that reattaches the workspace -/

namespace SampleGenerations
open CheckpointService

/-- The base of the run. -/
def base : GitOid := SampleOids.first

/-- The commit of the first checkpoint. -/
def first : GitOid := SampleOids.second

/-- The commit of a checkpoint on top of it. -/
def second : GitOid := ⟨"3333333333333333333333333333333333333333", by decide, by decide⟩

/-- A commit that somebody else moves the candidate ref to. -/
def foreign : GitOid := ⟨"4444444444444444444444444444444444444444", by decide, by decide⟩

/-- The commit of a checkpoint on top of that one. -/
def third : GitOid := SampleOids.third

/-- A digest. -/
def digest : Sha256 := .zeros

/-- Commits are named by their parents. -/
def setup : CheckpointSetup where
  sha256 := fun _ => ""
  digest := fun _ => digest
  blobOid := fun _ => base
  commitOid := fun commit =>
    if commit.parents = [base] then first else if commit.parents = [first] then second else third
  layout := ⟨⟨1⟩⟩

/-- The workspace of a slice. -/
def workspace : WorkspaceHandle := ⟨⟨⟨1⟩, ⟨2⟩, 0⟩, .provisioned, base.text, none⟩

/-- A repository whose candidate ref names a commit. -/
def repository (head : GitOid) : GitRepository where
  commits := (((Dict.empty.set base ⟨Dict.empty, [], "base", 0⟩).set first
    ⟨Dict.empty, [base], "first", 0⟩).set second ⟨Dict.empty, [first], "second", 0⟩).set foreign
      ⟨Dict.empty, [], "foreign", 0⟩
  refs := Dict.empty.set (candidateRef setup workspace.path) head

/-- A checkpoint of the empty workspace. -/
def request (expected : GitOid) : CheckpointRequest :=
  ⟨workspace, ⟨⟨[], []⟩⟩, fun _ _ => ⟨[], []⟩, expected.text, []⟩

/-- The read of the parents fails, so the commit is there and the ref has not moved. -/
def unread : CheckpointFates := fun call => if call = .readParents then .raises false else .runs

/-- The workspace is provisioned and iterates. -/
def opened : List ServiceEvent :=
  [.call (.provision .healthy workspace.path base.text Dict.empty none),
    .call (.startIteration .runs workspace.path)]

/-- A checkpoint is under way when somebody else moves the ref. -/
def overtaken (expected : GitOid) : List ServiceEvent :=
  [.checkpoint unread 0 (request expected), .refs (repository foreign)]

/-- The rejection of a ref that was moved. -/
def forked : CheckpointRejection :=
  ⟨.candidateRefConflict, "candidate ref forked; generation is frozen", [], true, false, true, true⟩

/-- The world after the history and the checkpoint that is rejected. -/
def consumed (history : List ServiceEvent) (expected : GitOid) : CheckpointWorld :=
  (checkpoint setup .healthy 0 (request expected)
    (runFrom (CheckpointService.step setup) (start (repository base)) history)).2

/-- A new process finds the workspace frozen. -/
theorem overtaken_stays_frozen : StaysFrozen setup workspace.path
    (consumed (opened ++ overtaken base) base)
    (runFrom (CheckpointService.step setup) (consumed (opened ++ overtaken base) base) [.restart]) :=
  consumed_generation_stays_frozen setup (repository base) (opened ++ overtaken base) [.restart]
    .healthy 0 (request base) forked _ rfl rfl ⟨trivial, trivial⟩

/-- A checkpoint whose receipt is stored, and another one of the rebuilt workspace. -/
def received : List ServiceEvent :=
  opened ++ [.checkpoint .healthy 0 (request base),
    .call (.rebuild .healthy workspace Dict.empty none),
    .call (.startIteration .runs workspace.path)] ++ overtaken first

/-- A new process reattaches the workspace. -/
def reattached : List ServiceEvent :=
  [.restart, .call (.recover .healthy workspace.path base.text none)]

/-- The receipt of the first checkpoint. -/
def receipt : CheckpointReceipt :=
  receiptOf setup (request base) workspace (manifestOf setup workspace base.text []) first

set_option maxRecDepth 4000 in
/-- After a generation is consumed, the receipt of an earlier checkpoint is returned again, and a
checkpoint of the reattached workspace is accepted. -/
theorem consumed_generation_received :
    (checkpoint setup .healthy 0 (request first)
      (runFrom (CheckpointService.step setup) (start (repository base)) received)).1 = .ok (.rejection forked) ∧
    (checkpoint setup .healthy 0 (request base) (consumed received first)).1 =
      .ok (.receipt receipt) ∧
    (checkpoint setup .healthy 0 (request base)
      (runFrom (CheckpointService.step setup) (start (repository base)) (opened ++ overtaken base))).1 =
        .ok (.rejection forked) ∧
    ∃ receipt, (checkpoint setup .healthy 0 (request foreign)
      (runFrom (CheckpointService.step setup) (consumed (opened ++ overtaken base) base) reattached)).1 =
        .ok (.receipt receipt) :=
  ⟨rfl, rfl, rfl, _, rfl⟩

end SampleGenerations

end CodeMigrator
