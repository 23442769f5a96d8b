import CodeMigrator.Core.Run
import CodeMigrator.Workspace.Git
import CodeMigrator.Workspace.Lifecycle

/-!
# A checkpoint and its stores

`CheckpointService.checkpoint` (`workspace/checkpoint.py`) over `GitCandidateRefStore`
(`workspace/git.py`), call by call. Workspace state, intent, candidate ref and receipt are updated
one after the other, and every call to another part of the system meets a fate of its own.
-/

namespace CodeMigrator
open Lib

/-- The key of a checkpoint; the store files it under the digest of these. -/
structure CheckpointKey where
  path : WorkspacePath
  expectedCandidateOid : String
  baseVerifiedOid : String
  deriving DecidableEq

/-- `CheckpointIntent`. -/
structure CheckpointIntent where
  workspacePath : WorkspacePath
  expectedCandidateOid : String
  manifest : CheckpointManifest
  idempotencyKey : Sha256
  newCandidateOid : Option GitOid

/-- The members of `StableErrorCode` that a checkpoint is rejected with. -/
inductive CheckpointErrorCode where
  | checkpointWriteFailed | writeScopeViolation | candidateRefConflict
  deriving DecidableEq

/-- `CheckpointRejection`. -/
structure CheckpointRejection where
  code : CheckpointErrorCode
  message : String
  outOfScopePaths : List String
  commitCreated : Bool
  refAdvanced : Bool
  generationConsumed : Bool
  infrastructureFailure : Bool
  deriving DecidableEq

/-- What `checkpoint` returns. -/
inductive CheckpointOutcome where
  | receipt (receipt : CheckpointReceipt)
  | rejection (rejection : CheckpointRejection)
  deriving DecidableEq

/-- The variables of a running checkpoint that its handler looks at. -/
structure CheckpointLocals where
  commitCreated : Bool
  refAdvanced : Bool
  auditEmitted : Bool

/-- The manager, the checkpoint store, the memory of the service and the repository of the run. -/
structure CheckpointWorld where
  manager : WorkspaceManager
  intents : Dict CheckpointKey CheckpointIntent
  storedReceipts : Dict CheckpointKey CheckpointReceipt
  receipts : Dict CheckpointKey CheckpointReceipt
  pending : Dict CheckpointKey (GitOid × CheckpointManifest)
  repository : GitRepository
  locals : CheckpointLocals

/-- What a call raises: an error of the manager, `CandidateRefConflict`, or anything else. -/
inductive CheckpointError where
  | manager (error : ManagerError)
  | conflict
  | port
  deriving DecidableEq

/-- The calls of a checkpoint to other parts of the system, in the order of the source. -/
inductive CheckpointCall where
  | readReceipt
  | readIntent
  | persistCheckpointing
  | quiesce
  | diff
  | audit
  | persistIterating
  | closing (call : ManagerCall)
  | dropIntent
  | saveIntent
  | createResolve
  | buildTree
  | commitTree
  | saveCommit
  | advanceResolve
  | readParents
  | assertCommits
  | updateRef
  | readRef
  | dropForked
  | persistFrozen
  | saveReceipt
  | clearIntent
  | reportFailure
  | persistRecovered
  deriving DecidableEq

/-- What becomes of each of the calls. -/
abbrev CheckpointFates := CheckpointCall → Fate

/-- Every call runs. -/
def CheckpointFates.healthy : CheckpointFates := fun _ => .runs

/-- Digests, the names of Git objects, and the refs of the run. -/
structure CheckpointSetup where
  sha256 : ByteArray → String
  digest : Json → Sha256
  blobOid : ByteArray → GitOid
  commitOid : GitCommit → GitOid
  layout : GitRefLayout

/-- What `checkpoint` is called with; the diff port looks at the content of the workspace. -/
structure CheckpointRequest where
  handle : WorkspaceHandle
  scope : WriteScope
  diff : String → LinkedTree → WorkspaceDiff
  expectedCandidateOid : String
  buildExcludes : List String

/-- A computation of the service. -/
abbrev Checkpointing (α : Type) := Lib.Process CheckpointWorld CheckpointError α

namespace CheckpointWorld

/-- A new process: what was held in memory is gone. -/
def restart (world : CheckpointWorld) : CheckpointWorld :=
  { world with manager := world.manager.restart, receipts := Dict.empty, pending := Dict.empty }

/-- The content of a workspace. -/
def content (world : CheckpointWorld) (path : WorkspacePath) : LinkedTree :=
  (world.manager.directories.get? path).getD Dict.empty

end CheckpointWorld

namespace CheckpointService
open Lib.Process OutputRepository

variable (setup : CheckpointSetup) (fates : CheckpointFates) (time : Nat)
  (request : CheckpointRequest)

/-- A call of the manager. -/
def managing {α : Type} (body : Managing α) : Checkpointing α :=
  relabel .manager (within (·.manager) (fun manager world => { world with manager := manager }) body)

/-! ## `GitCandidateRefStore` -/

/-- `candidate_ref`. -/
def candidateRef (path : WorkspacePath) : String :=
  setup.layout.candidate path.sliceId path.generation

/-- `current_candidate_oid`; a failing command is a conflict. -/
def currentCandidateOid (fate : Fate) (path : WorkspacePath) : Checkpointing GitOid :=
  meeting fate .conflict (ask (fun world =>
    commitAt world.repository (candidateRef setup path))) >>= fun current =>
      match current with
      | some oid => pure oid
      | none => raise .conflict

/-- `file_map`, as JSON. -/
def fileMap (files : List WorkspaceFileFact) : Json :=
  .obj (files.map (fun file => (file.path, .obj [("sha256", .str file.sha256),
    ("size", .int file.size),
    ("symlink_target", match file.symlinkTarget with | none => .null | some target => .str target)])))

/-- The manifest of a file set. -/
def manifestOf (workspace : WorkspaceHandle) (expectedCandidateOid : String)
    (files : List WorkspaceFileFact) : CheckpointManifest where
  sliceCandidate := ⟨workspace.path.runId, workspace.path.sliceId, workspace.path.generation,
    workspace.baseVerifiedOid, expectedCandidateOid⟩
  fileCount := files.length
  totalBytes := (files.map (·.size)).sum
  fileSetDigest := setup.digest (fileMap files)
  scopeCheckPassed := true

/-- What `create_checkpoint` checks about a manifest. -/
def manifestMatches (workspace : WorkspaceHandle) (manifest : CheckpointManifest)
    (files : List WorkspaceFileFact) : Bool :=
  decide (manifest.sliceCandidate.runId = workspace.path.runId) &&
    decide (manifest.sliceCandidate.sliceId = workspace.path.sliceId) &&
    decide (manifest.sliceCandidate.generation = workspace.path.generation) &&
    decide (manifest.sliceCandidate.baseVerifiedOid = workspace.baseVerifiedOid) &&
    manifest.scopeCheckPassed &&
    decide (manifest.fileCount = files.length) &&
    decide (manifest.totalBytes = (files.map (·.size)).sum) &&
    decide (manifest.fileSetDigest = setup.digest (fileMap files))

/-- `_validate_workspace_path`. -/
def validWorkspacePath (path : String) : Bool :=
  !(path == "" || hasChar path '\x00' || startsWith path "/" || startsWith path "~" ||
      hasChar path '\\') &&
    !(split path '/').any (fun part => ["", ".", "..", ".git"].contains part)

/-- The index entry of a file fact, where the workspace still agrees with it. -/
def treeEntry (tree : LinkedTree) (file : WorkspaceFileFact) : Option (String × GitTreeEntry) :=
  if validWorkspacePath file.path = false then none
  else
    match tree.get? file.path, file.symlinkTarget with
    | some (.symlink actual), some target =>
      if actual ≠ target ∨ actual.toUTF8.size ≠ file.size ∨
          setup.sha256 actual.toUTF8 ≠ file.sha256 then none
      else some (file.path, ⟨"120000", setup.blobOid actual.toUTF8⟩)
    | some (.file data), none =>
      if data.size ≠ file.size ∨ setup.sha256 data ≠ file.sha256 then none
      else some (file.path, ⟨"100644", setup.blobOid data⟩)
    | _, _ => none

/-- `_build_workspace_tree`. -/
def buildWorkspaceTree (tree : LinkedTree) (files : List WorkspaceFileFact) : Option GitTree :=
  if (files.map (·.path)).Nodup then (files.mapM (treeEntry setup tree)).map Dict.ofPairs else none

/-- The message of a checkpoint commit. -/
def checkpointMessage (path : WorkspacePath) : String :=
  "Checkpoint slice " ++ path.sliceId.str ++ " generation " ++ toString path.generation.val

/-- `create_checkpoint`. -/
def createCheckpoint (workspace : WorkspaceHandle) (manifest : CheckpointManifest)
    (files : List WorkspaceFileFact) : Checkpointing GitOid :=
  if manifestMatches setup workspace manifest files = false then raise .port
  else
    currentCandidateOid setup (fates .createResolve) workspace.path >>= fun current =>
      if current.text ≠ manifest.sliceCandidate.candidateCommitOid then raise .conflict
      else
        meeting (fates .buildTree) .port (ask (fun world =>
          buildWorkspaceTree setup (world.content workspace.path) files)) >>= fun built =>
            match built with
            | none => raise .port
            | some tree =>
              let commit : GitCommit := ⟨tree, [current], checkpointMessage workspace.path, time⟩
              meeting (fates .commitTree) .port (change (fun world => { world with
                repository := withCommit world.repository (setup.commitOid commit) commit }))
                  >>= fun _ => pure (setup.commitOid commit)

/-- `update_ref` for the candidate ref: it must still name the current commit. -/
def moveCandidateRef (path : WorkspacePath) (current newOid : GitOid) : Checkpointing Unit :=
  ask (fun world => (world.repository.commits.get? newOid).isSome &&
      (world.repository.commits.get? current).isSome) >>= fun present =>
    meeting (fates .assertCommits) .port (if present then pure () else raise .port) >>= fun _ =>
      meeting (fates .updateRef) .conflict
        (ask (fun world => world.repository.refs.get? (candidateRef setup path)) >>= fun held =>
          if held ≠ some current then raise .conflict
          else change (fun world => { world with
            repository := { world.repository with
              refs := world.repository.refs.set (candidateRef setup path) newOid } }))

/-- `advance_candidate_ref`. -/
def advanceCandidateRef (path : WorkspacePath) (expectedOid : String) (newOid : GitOid) :
    Checkpointing Unit :=
  currentCandidateOid setup (fates .advanceResolve) path >>= fun current =>
    if current.text ≠ expectedOid then raise .conflict
    else if expectedOid = newOid.text then pure ()
    else
      meeting (fates .readParents) .port (ask (fun world =>
        (world.repository.commits.get? newOid).map (·.parents))) >>= fun parents =>
          if parents ≠ some [current] then raise .port
          else moveCandidateRef setup fates path current newOid

/-! ## The parts of `checkpoint` -/

/-- The key of a request. -/
def keyOf : CheckpointKey :=
  ⟨request.handle.path, request.expectedCandidateOid, request.handle.baseVerifiedOid⟩

/-- `_idempotency_key`. -/
def idempotencyKey (path : WorkspacePath) (manifest : CheckpointManifest) : Sha256 :=
  setup.digest (.obj [("run_id", .str path.runId.str), ("slice_id", .str path.sliceId.str),
    ("generation", .int path.generation.val),
    ("expected_candidate_oid", .str request.expectedCandidateOid),
    ("file_set_digest", .str manifest.fileSetDigest.text)])

/-- The receipt that memory or the store holds. -/
def cachedReceipt : Checkpointing (Option CheckpointReceipt) :=
  ask (·.receipts.get? (keyOf request)) >>= fun held =>
    match held with
    | some receipt => pure (some receipt)
    | none => meeting (fates .readReceipt) .port (ask (·.storedReceipts.get? (keyOf request)))

/-- The commit that an intent names. -/
def intentCommit (intent : CheckpointIntent) : Option (GitOid × CheckpointManifest) :=
  intent.newCandidateOid.map (·, intent.manifest)

/-- The commit that memory or the stored intent names. -/
def loadPending : Checkpointing (Option (GitOid × CheckpointManifest)) :=
  ask (·.pending.get? (keyOf request)) >>= fun held =>
    match held with
    | some pending => pure (some pending)
    | none =>
      meeting (fates .readIntent) .port (ask (·.intents.get? (keyOf request))) >>= fun intent =>
        match intent.bind intentCommit with
        | none => pure none
        | some pending =>
          change (fun world =>
            { world with pending := world.pending.set (keyOf request) pending }) >>= fun _ =>
              pure (some pending)

/-- What the gate finds in a workspace. -/
structure Inspection where
  structuredViolations : List String
  violations : List String
  files : List WorkspaceFileFact

/-- The gate of a request for a ledger and the content of the workspace. -/
def inspectionOf (baseVerifiedOid : String) (operations : List WorkspaceFileOperation)
    (tree : LinkedTree) : Inspection :=
  let diff := request.diff baseVerifiedOid tree
  let found := scopeViolations operations diff request.scope request.buildExcludes
  ⟨found.1, found.2, diff.files.filter (fun file => !excluded file.path request.buildExcludes)⟩

/-- The first part of the `try`: the workspace is quiesced, compared and audited. -/
def inspect (workspace : WorkspaceHandle) : Checkpointing Inspection :=
  meeting (fates .quiesce) .port (pure ()) >>= fun _ =>
    meeting (fates .diff) .port (ask (·.content workspace.path)) >>= fun tree =>
      if request.buildExcludes.all validateRelativePath = false then raise (.manager .value)
      else
        managing (WorkspaceManager.requireKnown workspace.path) >>= fun _ =>
          ask (·.manager.ledger workspace.path) >>= fun operations =>
            meeting (fates .audit) .port (pure ()) >>= fun _ =>
              change (fun world => { world with locals.auditEmitted := true }) >>= fun _ =>
                pure (inspectionOf request workspace.baseVerifiedOid operations tree)

/-- A violation of the ledger closes the workspace, one of the difference rejects it. -/
def gate (workspace : WorkspaceHandle) (inspection : Inspection) :
    Checkpointing (Option CheckpointRejection) :=
  if inspection.structuredViolations ≠ [] then
    managing (WorkspaceManager.abortCheckpoint (fates .persistIterating) workspace.path) >>= fun _ =>
      managing (WorkspaceManager.close (fun call => fates (.closing call)) workspace.path) >>= fun _ =>
        pure (some ⟨.checkpointWriteFailed, "structured write ledger crossed its frozen scope", [],
          false, false, false, true⟩)
  else if inspection.violations ≠ [] then
    managing (WorkspaceManager.abortCheckpoint (fates .persistIterating) workspace.path) >>= fun _ =>
      pure (some ⟨.writeScopeViolation, "workspace diff is outside the frozen write scope",
        inspection.violations, false, false, false, false⟩)
  else pure none

/-- The intent is saved, the commit is created, and the intent is saved with the commit. -/
def commitFiles (workspace : WorkspaceHandle) (manifest : CheckpointManifest)
    (files : List WorkspaceFileFact) : Checkpointing GitOid :=
  let key := keyOf request
  let intent : Option GitOid → CheckpointIntent := fun newOid =>
    ⟨workspace.path, request.expectedCandidateOid, manifest,
      idempotencyKey setup request workspace.path manifest, newOid⟩
  change (fun world => { world with pending := world.pending.erase key }) >>= fun _ =>
    meeting (fates .dropIntent) .port (change (fun world =>
      { world with intents := world.intents.erase key })) >>= fun _ =>
      meeting (fates .saveIntent) .port (change (fun world =>
        { world with intents := world.intents.set key (intent none) })) >>= fun _ =>
        createCheckpoint setup fates time workspace manifest files >>= fun newOid =>
          change (fun world => { world with
            locals.commitCreated := true
            pending := world.pending.set key (newOid, manifest) }) >>= fun _ =>
            meeting (fates .saveCommit) .port (change (fun world =>
              { world with intents := world.intents.set key (intent (some newOid)) })) >>= fun _ =>
              pure newOid

/-- The pending commit, if it is one of these files, or a new one. -/
def ensureCommit (workspace : WorkspaceHandle) (manifest : CheckpointManifest)
    (files : List WorkspaceFileFact) (pending : Option (GitOid × CheckpointManifest)) :
    Checkpointing GitOid :=
  match pending with
  | some (newOid, earlier) =>
    if earlier.fileSetDigest = manifest.fileSetDigest then pure newOid
    else commitFiles setup fates time request workspace manifest files
  | none => commitFiles setup fates time request workspace manifest files

/-- `_current_candidate_oid`. -/
def readCandidateRef (path : WorkspacePath) : Checkpointing (Option GitOid) :=
  catching (currentCandidateOid setup (fates .readRef) path >>= fun oid => pure (some oid))
    (fun _ => pure none)

/-- What the service makes of a `CandidateRefConflict`. -/
def settleConflict (workspace : WorkspaceHandle) (newOid : GitOid) :
    Checkpointing (Option CheckpointRejection) :=
  readCandidateRef setup fates workspace.path >>= fun actual =>
    ask (·.locals.commitCreated) >>= fun commitCreated =>
      if actual.map (·.text) = some newOid.text then pure none
      else if actual.map (·.text) = some request.expectedCandidateOid then
        managing (WorkspaceManager.abortCheckpoint (fates .persistIterating) workspace.path)
          >>= fun _ => pure (some ⟨.candidateRefConflict,
            "candidate ref was not advanced; retry is safe", [], commitCreated, false, false, false⟩)
      else
        change (fun world => { world with
          pending := world.pending.erase (keyOf request) }) >>= fun _ =>
          meeting (fates .dropForked) .port (change (fun world => { world with
            intents := world.intents.erase (keyOf request) })) >>= fun _ =>
            managing (WorkspaceManager.freeze (fates .persistFrozen) workspace.path) >>= fun _ =>
              pure (some ⟨.candidateRefConflict, "candidate ref forked; generation is frozen", [],
                commitCreated, false, true, true⟩)

/-- The ref is advanced; a conflict is settled. -/
def advance (workspace : WorkspaceHandle) (newOid : GitOid) :
    Checkpointing (Option CheckpointRejection) :=
  catching (advanceCandidateRef setup fates workspace.path request.expectedCandidateOid newOid
      >>= fun _ => pure none)
    (fun error =>
      if error = .conflict then settleConflict setup fates request workspace newOid
      else raise error)

/-- The receipt of a checkpoint. -/
def receiptOf (workspace : WorkspaceHandle) (manifest : CheckpointManifest) (newOid : GitOid) :
    CheckpointReceipt where
  runId := workspace.path.runId
  sliceId := workspace.path.sliceId
  generation := workspace.path.generation
  expectedCandidateOid := request.expectedCandidateOid
  newCandidateOid := newOid.text
  manifest := manifest
  idempotencyKey := idempotencyKey setup request workspace.path manifest

/-- The last part of the `try`: the workspace is frozen and the receipt is stored. -/
def finish (workspace : WorkspaceHandle) (receipt : CheckpointReceipt) :
    Checkpointing CheckpointOutcome :=
  change (fun world => { world with locals.refAdvanced := true }) >>= fun _ =>
    managing (WorkspaceManager.freeze (fates .persistFrozen) workspace.path) >>= fun _ =>
      meeting (fates .saveReceipt) .port (change (fun world => { world with
        storedReceipts := world.storedReceipts.set (keyOf request) receipt })) >>= fun _ =>
        meeting (fates .clearIntent) .port (change (fun world => { world with
          intents := world.intents.erase (keyOf request) })) >>= fun _ =>
          change (fun world => { world with
            receipts := world.receipts.set (keyOf request) receipt
            pending := world.pending.erase (keyOf request) }) >>= fun _ =>
            pure (.receipt receipt)

/-- The body of the `try`. -/
def attempt (workspace : WorkspaceHandle) (pending : Option (GitOid × CheckpointManifest)) :
    Checkpointing CheckpointOutcome :=
  inspect fates request workspace >>= fun inspection =>
    gate fates workspace inspection >>= fun refused =>
      match refused with
      | some rejection => pure (.rejection rejection)
      | none =>
        let manifest := manifestOf setup workspace request.expectedCandidateOid inspection.files
        ensureCommit setup fates time request workspace manifest inspection.files pending
          >>= fun newOid =>
            advance setup fates request workspace newOid >>= fun refused =>
              match refused with
              | some rejection => pure (.rejection rejection)
              | none => finish fates request workspace (receiptOf setup request workspace manifest newOid)

/-- The handler of the `try`: the workspace goes back to its iteration where it was in the
checkpoint. -/
def recoverFailed (workspace : WorkspaceHandle) : Checkpointing CheckpointOutcome :=
  ask (·.locals) >>= fun locals =>
    (if locals.auditEmitted then pure ()
      else meeting (fates .reportFailure) .port (pure ())) >>= fun _ =>
      catching (managing (WorkspaceManager.abortCheckpoint (fates .persistRecovered) workspace.path)
          >>= fun _ => pure ())
        (fun error => if error = .manager .state then pure () else raise error) >>= fun _ =>
        pure (.rejection ⟨.checkpointWriteFailed, "checkpoint failed without exposing host details",
          [], locals.commitCreated, locals.refAdvanced, false, true⟩)

/-- `begin_checkpoint`, with its `WorkspaceStateError` caught. -/
def begin? : Checkpointing (Option WorkspaceHandle) :=
  catching (managing (WorkspaceManager.beginCheckpoint (fates .persistCheckpointing)
      request.handle.path) >>= fun current => pure (some current))
    (fun error => if error = .manager .state then pure none else raise error)

/-- What is returned where the workspace cannot begin a checkpoint. -/
def notReady : CheckpointRejection :=
  ⟨.checkpointWriteFailed, "workspace is not ready for checkpoint", [], false, false, false, true⟩

/-- A checkpoint that has no receipt yet. -/
def checkpointAnew : Checkpointing CheckpointOutcome :=
  loadPending fates request >>= fun pending =>
    change (fun world => { world with locals := ⟨pending.isSome, false, false⟩ }) >>= fun _ =>
      begin? fates request >>= fun current =>
        match current with
        | none => pure (.rejection notReady)
        | some workspace =>
          catching (attempt setup fates time request workspace pending)
            (fun _ => recoverFailed fates workspace)

/-- `checkpoint`. -/
def checkpoint : Checkpointing CheckpointOutcome :=
  cachedReceipt fates request >>= fun cached =>
    match cached with
    | some receipt =>
      change (fun world => { world with
        receipts := world.receipts.set (keyOf request) receipt }) >>= fun _ =>
        pure (.receipt receipt)
    | none => checkpointAnew setup fates time request

/-- A process that has died is followed by a new one. -/
def outlived {α : Type} (ended : Except (Stop CheckpointError) α × CheckpointWorld) :
    CheckpointWorld :=
  match ended with
  | (.error .died, after) => after.restart
  | (_, after) => after

end CheckpointService

end CodeMigrator
