import CodeMigrator.Lib.Json
import CodeMigrator.Workspace.SecureRoot

/-!
# The files of a project migration

The checkpoint of `runtime/project_migration.py` with the state of every file, the target
path of a source file, and what a resumed run makes of the files it finds: the adoption of
those that are in place, and the reset of those that are no longer what was recorded.
-/

namespace CodeMigrator
open Lib

/-- `_ProjectMigrationPhase`. -/
inductive ProjectMigrationPhase where
  | preflight | analysis | plan | execute | verify | report
  deriving DecidableEq

namespace ProjectMigrationPhase

/-- The value of a phase. -/
def text : ProjectMigrationPhase → String
  | preflight => "PREFLIGHT"
  | analysis => "ANALYSIS"
  | plan => "PLAN"
  | execute => "EXECUTE"
  | verify => "VERIFY"
  | report => "REPORT"

/-- The phases in their order. -/
def order : List ProjectMigrationPhase := [preflight, analysis, plan, execute, verify, report]

/-- `_ProjectMigrationPhase(text)`. -/
def ofText? (text : String) : Option ProjectMigrationPhase := order.find? (·.text = text)

/-- `_phase_index`. -/
def index (phase : ProjectMigrationPhase) : Nat := order.idxOf phase

end ProjectMigrationPhase

/-- The exceptions of a migration, as far as its handlers tell them apart; `other` is one that
no handler names. -/
inductive Raised where
  | pathSecurity | unicode | syntax_ | fileNotFound | os | runtime | value | other
  deriving DecidableEq

namespace Raised

/-- An `OSError`. -/
def isOs : Raised → Bool
  | fileNotFound | os => true
  | _ => false

/-- A `ValueError`. -/
def isValue : Raised → Bool
  | pathSecurity | unicode | value => true
  | _ => false

/-- `except (OSError, ValueError, RuntimeError)`. -/
def handled (raised : Raised) : Bool := raised.isOs || raised.isValue || raised == runtime

/-- `_safe_error`. -/
def safeError : Raised → String
  | pathSecurity => "path security boundary violation"
  | syntax_ => "generated source syntax error"
  | unicode => "source text encoding error"
  | fileNotFound => "required file not found"
  | os => "filesystem operation failed"
  | runtime => "migration provider operation failed"
  | value => "invalid migration data"
  | other => "migration operation failed"

/-- What a call of a `SecureRoot` raises. -/
def ofPath : PathError → Raised
  | .security => pathSecurity
  | .notFound => fileNotFound
  | .tooLarge => value
  | .osError => os

end Raised

/-- `read_bytes` without a limit. -/
def FileTree.readAll (tree : FileTree) (path : String) : Except PathError ByteArray :=
  tree.readBytes path (((tree.files.get? path).map ByteArray.size).getD 0)

/-- The status of a file in the checkpoint. -/
inductive FileStatus where
  | pending | succeeded | failed
  deriving DecidableEq

/-- How a file is migrated. -/
inductive FileKind where
  | translate | copy
  deriving DecidableEq

/-- `_FileState`. -/
structure FileState where
  sourcePath : String
  targetPath : String
  sourceSha256 : Sha256
  kind : FileKind
  status : FileStatus
  attempts : Nat
  targetSha256 : Option Sha256
  error : Option String
  deriving DecidableEq

/-- What a file is a migration of. -/
structure FileIdentity where
  sourcePath : String
  targetPath : String
  sourceSha256 : Sha256
  kind : FileKind
  deriving DecidableEq

/-- The identity of a file. -/
def FileState.identity (item : FileState) : FileIdentity :=
  ⟨item.sourcePath, item.targetPath, item.sourceSha256, item.kind⟩

/-- A check as the checkpoint records it. -/
structure VerificationCheck where
  action : String
  status : String
  exitCode : Option Int
  outputSha256 : String
  deriving DecidableEq

/-- `_MigrationState` without its directory. -/
structure MigrationState where
  sourceDigest : Sha256
  descriptorDigest : Sha256
  files : List FileState
  phase : ProjectMigrationPhase
  skippedPaths : List String
  checks : List VerificationCheck
  errors : List String
  analysis : Dict String Json
  plan : Dict String Json
  deriving DecidableEq

/-- The identities of the files of a state. -/
def MigrationState.identities (state : MigrationState) : List FileIdentity :=
  state.files.map FileState.identity

/-- `text.removesuffix(finish)`. -/
def removeSuffix (text finish : String) : String :=
  if endsWith text finish then String.ofList (text.toList.take (text.toList.length - finish.toList.length))
  else text

/-- `_target_path`. -/
def targetPath (sourcePath : String) : String :=
  if sourcePath = "go.mod" then "pyproject.toml"
  else if sourcePath = "go.sum" then "requirements.lock"
  else if endsWith sourcePath "_test.go" then removeSuffix sourcePath ".go" ++ ".py"
  else if endsWith sourcePath ".go" then removeSuffix sourcePath ".go" ++ ".py"
  else sourcePath

/-- `_failed_files`. -/
def MigrationState.failedFiles (state : MigrationState) : List String :=
  (state.files.filter (·.status = .failed)).map (·.sourcePath)

/-- `_FILE_FAILURE_ERROR`. -/
def fileFailureError : String := "one or more file translations failed"

/-- `_CHECK_FAILURES`. -/
def checkFailures : List String :=
  ["COMPILE check failed", "TEST check failed", "TEST check timed out",
    "TEST verification unavailable"]

/-- What the migration uses from outside: `hashlib`, `ast.parse` and `bytes.decode`. -/
structure MigrationTools where
  sha256 : ByteArray → Sha256
  parses : String → Bool

section Recovery

variable (tools : MigrationTools)

/-- A target whose content a file of this kind may have: Python that parses, where it was to
be translated. -/
def acceptable (kind : FileKind) (content : ByteArray) : Bool :=
  match kind with
  | .translate =>
    match String.fromUTF8? content with
    | none => false
    | some text => tools.parses text
  | .copy => true

/-- The content that `_adopt_valid_target_files` adopts for a file. -/
def adoptable (tree : FileTree) (item : FileState) : Option ByteArray :=
  if item.status = .succeeded then none
  else
    match tree.exists_ item.targetPath with
    | .ok true =>
      match tree.readAll item.targetPath with
      | .ok content => if acceptable tools item.kind content then some content else none
      | .error _ => none
    | _ => none

/-- One round of `_adopt_valid_target_files`. -/
def adoptFile (tree : FileTree) (item : FileState) : FileState :=
  match adoptable tools tree item with
  | some content =>
    { item with targetSha256 := some (tools.sha256 content), status := .succeeded, error := none }
  | none => item

/-- `_adopt_valid_target_files`. -/
def adoptValidTargetFiles (state : MigrationState) : Option FileTree → MigrationState
  | none => state
  | some tree => { state with files := state.files.map (adoptFile tools tree) }

/-- `_reset_file`. -/
def resetFile (item : FileState) : FileState :=
  { item with status := .pending, targetSha256 := none, error := none }

/-- A completed file whose durable target no longer matches. -/
def stale (tree : FileTree) (item : FileState) : Bool :=
  item.status = .succeeded &&
    match tree.readAll item.targetPath with
    | .error _ => true
    | .ok content => item.targetSha256 != some (tools.sha256 content)

/-- `_reconcile_target_files`. -/
def reconcileTargetFiles (state : MigrationState) : Option FileTree → MigrationState
  | none =>
    let files := state.files.map (fun item => if item.status = .succeeded then resetFile item else item)
    { state with
      files := files
      phase := if files.any (·.status = .pending) then .execute else state.phase }
  | some tree =>
    let files := state.files.map (fun item => if stale tools tree item then resetFile item else item)
    if state.files.any (stale tools tree) then
      { state with
        files := files
        phase := .execute
        checks := []
        errors := state.errors.filter (fun error => !checkFailures.contains error) }
    else { state with files := files }

end Recovery

/-- `_validate_checkpoint_files` after the files with the source paths `seen`; its other checks
hold by the types of the fields. -/
def validateCheckpointFiles (seen : List String) : List FileState → Except Raised Unit
  | [] => .ok ()
  | item :: items =>
    if ¬ (validateRelativePath item.sourcePath && validateRelativePath item.targetPath) then
      .error .pathSecurity
    else if item.sourcePath ∈ seen then .error .value
    else if item.targetPath ≠ targetPath item.sourcePath then .error .value
    else validateCheckpointFiles (item.sourcePath :: seen) items

end CodeMigrator
