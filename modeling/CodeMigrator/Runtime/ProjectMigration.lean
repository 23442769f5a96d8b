import CodeMigrator.Lib.Process
import CodeMigrator.Runtime.ProjectFiles

/-!
# Project migrations

`ProjectMigrationRunner.run` of `runtime/project_migration.py` over a world of the target
directory, `state.json` and the memory of the process. Every write to the disk meets a
weather: the operating system may fail it, and the process may die there. A history tells
what was written, adopted, verified and reported.
-/

namespace CodeMigrator
open Lib

/-! ## Requests and reports -/

/-- What the walk over a source directory meets at a path. -/
inductive SourceEntry where
  | file (content : ByteArray)
  | directory
  | symlink (toFile : Bool)

/-- `is_file`. -/
def SourceEntry.isFile : SourceEntry → Bool
  | .file _ => true
  | .directory => false
  | .symlink toFile => toFile

/-- The directories of a request, as far as `run` and `_preflight` look at them. -/
structure SourceDirectory where
  isRealDirectory : Bool
  holdsTarget : Bool
  holdsStateDir : Bool
  entries : List (String × SourceEntry)

/-- `_SourceSnapshot` without its digest. -/
structure SourceSnapshot where
  contents : Dict String ByteArray
  skippedPaths : List String

/-- `TranslationResult`. -/
structure TranslationResult where
  content : String
  targetPath : Option String
  deriving DecidableEq

/-- `_VerificationResult`. -/
structure VerificationResult where
  status : String
  exitCode : Option Int
  outputSha256 : String
  deriving DecidableEq

/-- `ProjectMigrationRequest`: a translator answers for a source path and its text, a
verification runner for the target it is pointed at. -/
structure ProjectMigrationRequest where
  source : SourceDirectory
  target : String
  stateDir : String
  resume : Bool
  fromPhase : Option String
  translator : Option (String → String → Except Raised TranslationResult)
  verificationRunner : Option (FileTree → Except Raised VerificationResult)
  maxParallelism : Int

/-- The status of a report. -/
inductive ReportStatus where
  | completed | failed
  deriving DecidableEq

/-- The facts of a report, as the report file in the target holds them. -/
structure ProjectReport where
  status : ReportStatus
  phase : ProjectMigrationPhase
  sourceDigest : String
  includedFiles : Nat
  translatedFiles : Nat
  copiedFiles : Nat
  skippedPaths : List String
  failedFiles : List String
  checks : List VerificationCheck
  errors : List String
  deriving DecidableEq

/-- `ProjectMigrationReport`. -/
structure ProjectMigrationReport extends ProjectReport where
  target : String
  stateDir : String
  deriving DecidableEq

/-- What the runner uses beyond the tools: the digest of source contents, the identity of the
descriptor, the analysis and the writer of JSON. -/
structure RunnerTools extends MigrationTools where
  digestContents : List (String × ByteArray) → Sha256
  descriptorDigest : Sha256
  analyze : SourceSnapshot → Except Raised (Dict String Json)
  json : ProjectReport → ByteArray

/-! ## The world -/

/-- What the operating system does to a write, and whether the process dies then. -/
structure Weather where
  fault : IoFault
  dies : Bool
  deriving DecidableEq

/-- What an observer of a migration sees. -/
inductive ProjectEvent where
  /-- A file of the target was put in place, for a source file or as a scaffold. -/
  | wrote (source : Option String) (target : String) (content : ByteArray)
  /-- A resumed run took the content it found for that of a source file. -/
  | adopted (source target : String) (content : ByteArray)
  /-- The checks ran over the target. -/
  | verified (target : FileTree) (checks : List VerificationCheck)
  /-- A report was put in place in the target, beside that checkpoint. -/
  | reported (report : ProjectReport) (checkpoint : Option MigrationState) (target : FileTree)

/-- The disk, the memory of the process, what is to come and what has been. -/
structure ProjectWorld where
  /-- The target directory. -/
  target : Option FileTree
  /-- `state.json`. -/
  checkpoint : Option MigrationState
  /-- The state of the run in memory. -/
  state : MigrationState
  /-- What happens to the writes to come. -/
  weather : List Weather
  /-- Which worker goes next. -/
  turns : List Nat
  history : List ProjectEvent

/-- A computation of a migration. -/
abbrev Migration (α : Type) := Lib.Process ProjectWorld Raised α

namespace ProjectMigrationRunner
open Lib.Process

/-- What happens to the next write. -/
def nextWeather : Migration Weather := fun world =>
  match world.weather with
  | [] => (.ok ⟨.none, false⟩, world)
  | weather :: rest => (.ok weather, { world with weather := rest })

/-- The process goes on, or dies, after a write with this outcome. -/
def outlive (weather : Weather) (outcome : Except Raised Unit) : Migration Unit :=
  if weather.dies then die else ofExcept outcome

/-- A durable change that the operating system makes whole or not at all. -/
def durably (write : ProjectWorld → ProjectWorld) : Migration Unit :=
  nextWeather >>= fun weather =>
    match weather.fault with
    | .none => change write >>= fun _ => outlive weather (.ok ())
    | .sync => change write >>= fun _ => outlive weather (.error .os)
    | _ => outlive weather (.error .os)

/-- `_write_state`. -/
def writeState : Migration Unit := durably (fun world => { world with checkpoint := some world.state })

/-- Changes the state in memory. -/
def setState (update : MigrationState → MigrationState) : Migration Unit :=
  change (fun world => { world with state := update world.state })

/-- The event is told when the file was put in place. -/
def told (event : ProjectEvent) (fault : IoFault) (outcome : Except PathError Unit) : List ProjectEvent :=
  match outcome with
  | .ok () => [event]
  | .error .osError => if fault = .sync then [event] else []
  | .error _ => []

/-- `write_atomic` on the root of the target. -/
def writeTarget (path : String) (content : ByteArray)
    (event : ProjectWorld → FileTree → ProjectEvent) : Migration Unit :=
  nextWeather >>= fun weather =>
    ask id >>= fun world =>
      match world.target with
      | none => raise .fileNotFound
      | some tree =>
        if weather.fault = .access then outlive weather (.error .os)
        else
          let written := tree.writeAtomic path content weather.fault
          change (fun world =>
            { world with
              target := some written.1
              history := world.history ++
                told (event world written.1) weather.fault written.2 }) >>= fun _ =>
            outlive weather (written.2.mapError Raised.ofPath)

/-- The `mkdir` of the target directory. -/
def makeTarget : Migration Unit :=
  durably (fun world => { world with target := some (world.target.getD ⟨.empty, ∅⟩) })

/-! ## Preflight and loading -/

/-- `_EXCLUDED_PARTS` and the frontend. -/
def excluded (path : String) : Bool :=
  (split path '/').any (fun part =>
    ["frontend", ".git", ".venv", "__pycache__", ".pytest_cache"].contains part)

/-- The walk of `_preflight`: the contents and the skipped paths. -/
def walk : List (String × SourceEntry) → Except Raised (List (String × ByteArray) × List String)
  | [] => .ok ([], [])
  | (path, entry) :: rest =>
    if excluded path then do
      let (contents, skipped) ← walk rest
      return (contents, if entry.isFile then path :: skipped else skipped)
    else
      match entry with
      | .symlink _ => .error .value
      | .directory => walk rest
      | .file content => do
          let (contents, skipped) ← walk rest
          return ((path, content) :: contents, skipped)

/-- `_preflight`. -/
def preflight (source : SourceDirectory) : Except Raised SourceSnapshot :=
  if ¬ source.isRealDirectory then .error .value
  else if source.holdsTarget then .error .value
  else do
    let (contents, skipped) ← walk (source.entries.insertionSort (fun left right => pathLe left.1 right.1))
    if contents = [] then .error .value
    else .ok ⟨Dict.ofPairs contents, skipped⟩

section Tools

variable (tools : RunnerTools)

/-- The state of a fresh run. -/
def freshState (snapshot : SourceSnapshot) : MigrationState :=
  { sourceDigest := tools.digestContents snapshot.contents.entries
    descriptorDigest := tools.descriptorDigest
    files := snapshot.contents.entries.map (fun (path, content) =>
      { sourcePath := path
        targetPath := targetPath path
        sourceSha256 := tools.sha256 content
        kind := if endsWith path ".go" then .translate else .copy
        status := .pending
        attempts := 0
        targetSha256 := none
        error := none })
    phase := .preflight
    skippedPaths := snapshot.skippedPaths
    checks := []
    errors := []
    analysis := .empty
    plan := .empty }

/-- The checks of `_load_or_initialize` on a loaded checkpoint. -/
def resumable (snapshot : SourceSnapshot) (state : MigrationState) : Except Raised Unit := do
  validateCheckpointFiles [] state.files
  let checkpointPaths := state.files.map FileState.sourcePath
  if state.sourceDigest ≠ tools.digestContents snapshot.contents.entries ∨
      state.descriptorDigest ≠ tools.descriptorDigest then .error .value
  else if (∀ path ∈ checkpointPaths, path ∈ snapshot.contents.keys) ∧
      (∀ path ∈ snapshot.contents.keys, path ∈ checkpointPaths) ∧
      checkpointPaths.length = snapshot.contents.keys.length then .ok ()
  else .error .value

/-- `_load_or_initialize`. -/
def loadOrInitialize (resume : Bool) (fromPhase : Option String) (snapshot : SourceSnapshot)
    (checkpoint : Option MigrationState) (target : Option FileTree) : Except Raised MigrationState :=
  if resume then
    match checkpoint with
    | none => .error .fileNotFound
    | some state => do
        resumable tools snapshot state
        let adopted := adoptValidTargetFiles tools.toMigrationTools state target
        return if fromPhase = none then reconcileTargetFiles tools.toMigrationTools adopted target
          else adopted
  else if checkpoint.isSome then .error .value
  else if target.any (fun tree => !tree.files.entries.isEmpty || decide (tree.directories ≠ ∅)) then
    .error .value
  else .ok (freshState tools snapshot)

/-- The adoptions of a resumed run. -/
def adoptions (resume : Bool) (checkpoint : Option MigrationState) (target : Option FileTree) :
    List ProjectEvent :=
  match resume, checkpoint, target with
  | true, some state, some tree =>
    state.files.filterMap (fun item =>
      (adoptable tools.toMigrationTools tree item).map (.adopted item.sourcePath item.targetPath))
  | _, _, _ => []

/-- `_start_phase`. -/
def startPhase (request : ProjectMigrationRequest) (state : MigrationState) :
    Except Raised ProjectMigrationPhase :=
  match request.fromPhase with
  | some text =>
    if ¬ request.resume then .error .value
    else
      match ProjectMigrationPhase.ofText? text with
      | some phase => .ok phase
      | none => .error .value
  | none =>
    if ¬ request.resume then .ok .preflight
    else if state.phase = .report ∧ state.errors ≠ [] then
      .ok (if state.failedFiles ≠ [] then .execute else .verify)
    else .ok state.phase

/-! ## Analysis and plan -/

/-- `InMemorySnapshotSource`. -/
def analysisSnapshot (files : List FileState) : Except Raised Unit :=
  if files.any (fun item =>
      item.sourcePath == "" || startsWith item.sourcePath "/" || startsWith item.sourcePath "~" ||
        hasChar item.sourcePath '\\' || hasChar item.sourcePath '\x00' ||
        (split item.sourcePath '/').any (fun part => ["", ".", ".."].contains part)) then
    .error .value
  else .ok ()

/-- `_run_analysis`. -/
def runAnalysis (snapshot : SourceSnapshot) : Migration Unit :=
  ask (·.state.analysis.entries) >>= fun analysis =>
    if analysis ≠ [] then pure ()
    else
      ofExcept (tools.analyze snapshot) >>= fun result =>
        setState (fun state => { state with analysis := result, phase := .analysis }) >>= fun _ =>
          writeState

/-- The plan that `_run_plan` records. -/
def planOf (files : List FileState) : Dict String Json :=
  Dict.ofPairs
    [("file_count", .int files.length),
      ("translated_file_count", .int (files.countP (·.kind = .translate))),
      ("copied_file_count", .int (files.countP (·.kind = .copy))),
      ("integration_order", .arr (files.map (fun item => .str item.sourcePath))),
      ("coverage", .str "EXACTLY_ONCE"),
      ("scope", .str "TARGET_ROOT_ONLY")]

/-- `_run_plan`. -/
def runPlan : Migration Unit :=
  ask (·.state) >>= fun state =>
    if state.plan.entries ≠ [] then pure ()
    else if ¬ (state.files.map (·.targetPath)).Nodup then raise .value
    else
      setState (fun state => { state with plan := planOf state.files, phase := .plan }) >>= fun _ =>
        writeState

/-! ## Execution -/

/-- `_target_project_metadata`. -/
def targetProjectMetadata : ByteArray :=
  ("[project]\nname = \"click-video-migrated\"\nversion = \"0.1.0\"\n" ++
    "description = \"Python target generated by CodeMigrator\"\n" ++
    "requires-python = \">=3.12\"\ndependencies = [\"PyYAML>=6.0\"]\n\n" ++
    "[tool.pytest.ini_options]\ntestpaths = [\".\"]\n").toUTF8

/-- `text.strip()`. -/
def strip (text : List Char) : List Char :=
  ((text.dropWhile isSpace).reverse.dropWhile isSpace).reverse

/-- The code between the fences of a Markdown block, where the text starts with one. -/
def unfenced (text : List Char) : List Char :=
  if "```".toList.isPrefixOf text then
    let opened := text.drop 3
    let body := (if "python".toList.isPrefixOf opened then opened.drop 6 else opened).dropWhile isSpace
    let closed :=
      if "```".toList.isSuffixOf body then
        ((body.take (body.length - 3)).reverse.dropWhile isSpace).reverse
      else body
    strip closed
  else text

/-- `_validated_translation`. -/
def validatedTranslation (result : TranslationResult) (expectedTarget : String) :
    Except Raised String :=
  if result.targetPath.any (· ≠ expectedTarget) then .error .value
  else
    let content := String.ofList (unfenced (strip result.content.toList))
    if content = "" then .error .value
    else if tools.parses content then .ok (content ++ "\n")
    else .error .value

/-- What a worker writes for a file. -/
def fileContent (contents : Dict String ByteArray)
    (translator : Option (String → String → Except Raised TranslationResult)) (item : FileState) :
    Except Raised ByteArray :=
  match contents.get? item.sourcePath with
  | none => .error .other
  | some source =>
    if tools.sha256 source ≠ item.sourceSha256 then .error .value
    else
      match item.kind with
      | .copy => .ok (if item.sourcePath = "go.mod" then targetProjectMetadata else source)
      | .translate =>
        match translator with
        | none => .error .value
        | some translate =>
          match String.fromUTF8? source with
          | none => .error .unicode
          | some text => do
              let result ← translate item.sourcePath text
              let content ← validatedTranslation tools result item.targetPath
              return content.toUTF8

/-- How far a worker is with its file. -/
inductive WorkerStage where
  /-- It has not looked at the file yet. -/
  | submitted
  /-- It translates the file. -/
  | running
  /-- The target is written. -/
  | written (content : ByteArray)
  /-- The file failed. -/
  | refused (raised : Raised)

/-- A call of `process`: the position of its file and how far it is. -/
structure Worker where
  item : Nat
  stage : WorkerStage

/-- The file at a position. -/
def fileAt (position : Nat) : Migration FileState :=
  ask (·.state.files[position]?) >>= fun found =>
    match found with
    | some item => pure item
    | none => raise .other

/-- Changes the file at a position. -/
def setFile (position : Nat) (update : FileState → FileState) : Migration Unit :=
  setState (fun state => { state with files := state.files.modify position update })

/-- `root.exists` for a completed file. -/
def completedAndPresent (item : FileState) : Migration Bool :=
  if item.status ≠ .succeeded then pure false
  else
    ask (·.target) >>= fun target =>
      match target with
      | none => raise .os
      | some tree =>
        ofExcept ((tree.exists_ item.targetPath).mapError Raised.ofPath)

/-- A worker goes on to its next stage; `none` when it is done. -/
def advance (contents : Dict String ByteArray)
    (translator : Option (String → String → Except Raised TranslationResult)) (worker : Worker) :
    Migration (Option Worker) :=
  match worker.stage with
  | .submitted =>
    fileAt worker.item >>= fun item =>
      completedAndPresent item >>= fun present =>
        if present then pure none
        else
          setFile worker.item
              (fun item => { item with attempts := item.attempts + 1, error := none }) >>= fun _ =>
            pure (some { worker with stage := .running })
  | .running =>
    catching
      (fileAt worker.item >>= fun item =>
        ofExcept (fileContent tools contents translator item) >>= fun content =>
          writeTarget item.targetPath content
              (fun _ _ => .wrote item.sourcePath item.targetPath content) >>= fun _ =>
            pure (some { worker with stage := .written content }))
      (fun raised =>
        if raised.handled then pure (some { worker with stage := .refused raised })
        else raise raised)
  | .written content =>
    setFile worker.item (fun item =>
        { item with targetSha256 := some (tools.sha256 content), status := .succeeded }) >>= fun _ =>
      writeState >>= fun _ => pure none
  | .refused raised =>
    setFile worker.item (fun item =>
        { item with status := .failed, error := some raised.safeError }) >>= fun _ =>
      writeState >>= fun _ => pure none

/-- Which of the first workers goes next. -/
def nextTurn (choices : Nat) : Migration Nat := fun world =>
  match world.turns with
  | [] => (.ok 0, world)
  | turn :: rest => (.ok (turn % choices), { world with turns := rest })

/-- The workers after a turn of the one at a position. -/
def afterTurn (workers : List Worker) (position : Nat) : Option Worker → List Worker
  | some worker => workers.set position worker
  | none => workers.eraseIdx position

/-- The workers of `_run_execute`, `parallelism` at a time, for a number of turns. A sequential
run ends with the first exception, a parallel one raises it when all the workers are done. -/
def work (contents : Dict String ByteArray)
    (translator : Option (String → String → Except Raised TranslationResult)) (parallelism : Nat) :
    Nat → List Worker → Option Raised → Migration Unit
  | 0, _, failure => ofExcept (failure.elim (.ok ()) .error)
  | _, [], failure => ofExcept (failure.elim (.ok ()) .error)
  | turns + 1, workers, failure =>
    nextTurn (min parallelism workers.length) >>= fun position =>
      match workers[position]? with
      | none => raise .other
      | some worker =>
        catching
          (advance tools contents translator worker >>= fun after => pure (.ok after))
          (fun raised => if parallelism = 1 then raise raised else pure (.error raised)) >>=
          fun (outcome : Except Raised (Option Worker)) =>
            match outcome with
            | .ok after => work contents translator parallelism turns
                (afterTurn workers position after) failure
            | .error raised => work contents translator parallelism turns
                (workers.eraseIdx position) (some (failure.getD raised))

/-- The positions of the files that are not completed and present. -/
def pendingFrom (position : Nat) : List FileState → Migration (List Nat)
  | [] => pure []
  | item :: items =>
    completedAndPresent item >>= fun present =>
      pendingFrom (position + 1) items >>= fun rest =>
        pure (if present then rest else position :: rest)

/-- `_run_execute`. -/
def runExecute (contents : Dict String ByteArray)
    (translator : Option (String → String → Except Raised TranslationResult)) (maxParallelism : Int) :
    Migration Unit :=
  if ¬ (1 ≤ maxParallelism ∧ maxParallelism ≤ 16) then raise .value
  else
    makeTarget >>= fun _ =>
      setState (fun state =>
        { state with
          errors := state.errors.filter (· ≠ fileFailureError)
          phase := .execute }) >>= fun _ =>
        writeState >>= fun _ =>
          ask (·.state.files) >>= fun files =>
            pendingFrom 0 files >>= fun pending =>
              work tools contents translator maxParallelism.toNat (3 * pending.length)
                (pending.map (⟨·, .submitted⟩)) none

/-! ## Verification -/

/-- How the compile check ends. -/
inductive CompileOutcome where
  | passed
  | missing (targetPath : String)
  | broken
  deriving DecidableEq

/-- The compile check: the files with the hashes of what was read, and how it ends. -/
def compileFiles (tree : FileTree) : List FileState → List FileState × CompileOutcome
  | [] => ([], .passed)
  | item :: items =>
    if item.status ≠ .succeeded then
      (item :: (compileFiles tree items).1, (compileFiles tree items).2)
    else
      match tree.readAll item.targetPath with
      | .error _ => (item :: items, .missing item.targetPath)
      | .ok content =>
        let read := { item with targetSha256 := some (tools.sha256 content) }
        if acceptable tools.toMigrationTools item.kind content then
          (read :: (compileFiles tree items).1, (compileFiles tree items).2)
        else (read :: items, .broken)

/-- The hash of no output. -/
def noOutput : String := (tools.sha256 ByteArray.empty).text

/-- `[0-9a-fA-F]{64}`. -/
def isDigest (text : String) : Bool :=
  text.toList.length == 64 && text.toList.all (fun c => "0123456789abcdefABCDEF".toList.contains c)

/-- The status of a `TEST` result, where it is a known one. -/
def knownStatus (status : String) : String :=
  if ["PASSED", "FAILED", "TIMED_OUT", "INFRASTRUCTURE_ERROR"].contains status then status
  else "INFRASTRUCTURE_ERROR"

/-- The `TEST` check, and what it says when it has not passed. -/
def testCheck (verificationRunner : Option (FileTree → Except Raised VerificationResult))
    (tree : FileTree) : Except Raised (VerificationCheck × Option String) :=
  let unavailable : VerificationCheck := ⟨"TEST", "INFRASTRUCTURE_ERROR", none, noOutput tools⟩
  match verificationRunner with
  | none => .ok (unavailable, some "TEST verification unavailable")
  | some run =>
    match run tree with
    | .error raised =>
      if raised.handled then .ok (unavailable, some raised.safeError) else .error raised
    | .ok result =>
      let status := knownStatus result.status
      let output := if isDigest result.outputSha256 then result.outputSha256 else noOutput tools
      .ok (⟨"TEST", status, result.exitCode, output⟩,
        if status = "PASSED" then none
        else if status = "TIMED_OUT" then some "TEST check timed out"
        else if status = "FAILED" then some "TEST check failed"
        else some "TEST verification unavailable")

/-- An error that `_run_verify` takes back. -/
def clearable (error : String) : Bool :=
  checkFailures.contains error || startsWith error "target file missing:"

/-- Some source file is a Go test. -/
def hasTests (files : List FileState) : Bool := files.any (fun item => endsWith item.sourcePath "_test.go")

/-- What the verification of a target makes of a state. -/
def verifyTarget (verificationRunner : Option (FileTree → Except Raised VerificationResult))
    (tree : FileTree) (state : MigrationState) : Except Raised MigrationState :=
  let (files, outcome) := compileFiles tools tree state.files
  let checked := { state with files := files, phase := .verify }
  let failed := fun (errors : List String) => Except.ok
    { checked with
      checks := [⟨"COMPILE", "FAILED", some 1, noOutput tools⟩]
      errors := state.errors ++ errors ++ ["COMPILE check failed"] }
  match outcome with
  | .missing path => failed ["target file missing: " ++ path]
  | .broken => failed []
  | .passed =>
    let compiled : VerificationCheck := ⟨"COMPILE", "PASSED", some 0, noOutput tools⟩
    if hasTests state.files then do
      let (test, error) ← testCheck tools verificationRunner tree
      return { checked with checks := [compiled, test], errors := state.errors ++ error.toList }
    else .ok { checked with checks := [compiled] }

/-- `_run_verify`. -/
def runVerify (verificationRunner : Option (FileTree → Except Raised VerificationResult)) :
    Migration Unit :=
  setState (fun state =>
    { state with checks := [], errors := state.errors.filter (fun error => !clearable error) }) >>=
    fun _ => ask id >>= fun world =>
      match world.target with
      | none =>
        setState (fun state =>
          { state with
            errors := state.errors ++ [Raised.fileNotFound.safeError], phase := .verify }) >>= fun _ =>
          writeState
      | some tree =>
        ofExcept (verifyTarget tools verificationRunner tree world.state) >>= fun state =>
          change (fun world =>
            { world with
              state := state
              history := world.history ++ [.verified tree state.checks] }) >>= fun _ =>
            writeState

/-! ## Reports -/

/-- The facts of a report on a state. -/
def reportOn (state : MigrationState) (status : ReportStatus) : ProjectReport :=
  { status := status
    phase := state.phase
    sourceDigest := state.sourceDigest.text
    includedFiles := state.files.length
    translatedFiles := state.files.countP (·.kind = .translate)
    copiedFiles := state.files.countP (·.kind = .copy)
    skippedPaths := state.skippedPaths
    failedFiles := state.failedFiles
    checks := state.checks
    errors := state.errors }

/-- The report that `_run_report` writes. -/
def targetReport (state : MigrationState) : ProjectReport :=
  reportOn state (if state.errors = [] ∧ state.failedFiles = [] then .completed else .failed)

/-- `_run_report`. -/
def runReport : Migration Unit :=
  setState (fun state => { state with phase := .report }) >>= fun _ =>
    writeState >>= fun _ =>
      ask (fun world => targetReport world.state) >>= fun report =>
        makeTarget >>= fun _ =>
          writeTarget "codemigrator-report.json" (tools.json report)
            (fun world tree => .reported report world.checkpoint tree)

/-- The status that `_publish_report` reports. -/
def publishedStatus (state : MigrationState) : ReportStatus :=
  if state.phase = .report ∧ state.errors = [] then .completed else .failed

/-- `_publish_report`. -/
def publishReport (request : ProjectMigrationRequest) : Migration ProjectMigrationReport :=
  ask (fun world => publishedStatus world.state) >>= fun status =>
    setState (fun state =>
      if status = .failed ∧ state.errors = [] ∧ state.failedFiles ≠ [] then
        { state with errors := state.errors ++ [fileFailureError] }
      else state) >>= fun _ =>
      ask (·.state) >>= fun state =>
        pure { reportOn state status with target := request.target, stateDir := request.stateDir }

/-- `_failed_report`. -/
def failedReport (request : ProjectMigrationRequest) (sourceDigest : String) (raised : Raised) :
    ProjectMigrationReport :=
  { status := .failed
    phase := .preflight
    sourceDigest := sourceDigest
    includedFiles := 0
    translatedFiles := 0
    copiedFiles := 0
    skippedPaths := []
    failedFiles := []
    checks := []
    errors := [raised.safeError]
    target := request.target
    stateDir := request.stateDir }

/-! ## The run -/

/-- A phase of `run`, unless the run starts behind it. -/
def upTo (start phase : ProjectMigrationPhase) (body : Migration Unit) : Migration Unit :=
  if start.index ≤ phase.index then body else pure ()

/-- The phases of `run` from a phase on. -/
def runPhases (request : ProjectMigrationRequest) (snapshot : SourceSnapshot)
    (start : ProjectMigrationPhase) : Migration ProjectMigrationReport :=
  upTo start .analysis (runAnalysis tools snapshot) >>= fun _ =>
    upTo start .plan runPlan >>= fun _ =>
      upTo start .execute
          (runExecute tools snapshot.contents request.translator request.maxParallelism) >>= fun _ =>
        ask (·.state.failedFiles) >>= fun failed =>
          if failed ≠ [] then
            setState (fun state =>
              if fileFailureError ∈ state.errors then state
              else { state with errors := state.errors ++ [fileFailureError] }) >>= fun _ =>
              runReport tools >>= fun _ => publishReport request
          else
            upTo start .verify (runVerify tools request.verificationRunner) >>= fun _ =>
              upTo start .report (runReport tools) >>= fun _ => publishReport request

/-- The body of `run` once the state is loaded. -/
def runLoaded (request : ProjectMigrationRequest) (snapshot : SourceSnapshot) :
    Migration ProjectMigrationReport :=
  catching
    ((if request.resume then pure ()
      else setState (fun state => { state with phase := .preflight }) >>= fun _ => writeState) >>=
      fun _ => ask (·.state) >>= fun state =>
        ofExcept (analysisSnapshot state.files) >>= fun _ =>
          ofExcept (startPhase request state) >>= fun start => runPhases tools request snapshot start)
    (fun raised =>
      if raised.handled then
        setState (fun state => { state with errors := state.errors ++ [raised.safeError] }) >>= fun _ =>
          writeState >>= fun _ => runReport tools >>= fun _ => publishReport request
      else raise raised)

/-- `run`. -/
def run (request : ProjectMigrationRequest) : Migration ProjectMigrationReport :=
  if request.source.holdsStateDir then pure (failedReport request "" .value)
  else
    match preflight request.source with
    | .error raised => pure (failedReport request "" raised)
    | .ok snapshot =>
      ask id >>= fun world =>
        match loadOrInitialize tools request.resume request.fromPhase snapshot world.checkpoint
            world.target with
        | .error raised =>
          pure (failedReport request (tools.digestContents snapshot.contents.entries).text raised)
        | .ok state =>
          change (fun world =>
            { world with
              state := state
              history := world.history ++ adoptions tools request.resume world.checkpoint world.target })
            >>= fun _ => runLoaded tools request snapshot

end Tools

end ProjectMigrationRunner

end CodeMigrator
