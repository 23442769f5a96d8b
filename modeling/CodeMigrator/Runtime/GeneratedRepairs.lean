import CodeMigrator.Runtime.ProjectMigration

/-!
# Repairs of generated files

`repair_generated_file`, `record_generated_repairs` and `adopt_repaired_file` of
`runtime/migration_pipeline.py` over the directories of one migration: the source, the target and
the files `state.json`, `repairs.json` and `pipeline.json` of the state directory. A call that
raises leaves what it has written until then.
-/

namespace CodeMigrator
open Lib Lib.Process ProjectMigrationRunner

/-! ## The pipeline checkpoint -/

/-- `_STAGES`. -/
inductive PipelineStage where
  | preflight | navigation | draftAlignment | planning | execute | verifyIntegrate | report
  deriving DecidableEq

/-- The stages in their order. -/
def PipelineStage.order : List PipelineStage :=
  [.preflight, .navigation, .draftAlignment, .planning, .execute, .verifyIntegrate, .report]

/-- The status of a stage. -/
inductive StageStatus where
  | pending | running | failed | complete
  deriving DecidableEq

/-- `_PipelineCheckpoint`, as far as repairs read and write it: of the outputs it has those of
the verification stage. -/
structure PipelineCheckpoint where
  stages : PipelineStage → StageStatus
  outputs : List String
  currentStage : PipelineStage
  errors : List String

/-- `_validate_stage_progression`: behind the stages that are complete one may be active, and the
others are pending. -/
def validStageProgression (stages : PipelineStage → StageStatus) : List PipelineStage → Bool
  | [] => true
  | stage :: later =>
    if stages stage = .complete then validStageProgression stages later
    else later.all (stages · = .pending)

/-! ## The world of a migration -/

/-- What a repair or an adoption raises: a `ValueError` of its own with its text, or what the file
system, the translator or a decoder raises. -/
inductive RepairError where
  | value (message : String)
  | raised (raised : Raised)
  deriving DecidableEq

/-- The directories of a migration. A missing `state.json` is one that cannot be read; of
`repairs.json` it is the value under `repairs`. -/
structure RepairWorld where
  source : SourceDirectory
  target : Option FileTree
  checkpoint : Option MigrationState
  ledger : Option Json
  pipeline : Option PipelineCheckpoint

/-- A computation of a repair. -/
abbrev RepairProcess (α : Type) := Lib.Process RepairWorld RepairError α

/-- The source directory as a `SecureRoot` sees it. -/
def SourceDirectory.tree (source : SourceDirectory) : FileTree where
  files := Dict.ofPairs (source.entries.filterMap fun (path, entry) =>
    match entry with
    | .file content => some (path, content)
    | _ => none)
  directories := (source.entries.filterMap fun (path, entry) =>
    match entry with
    | .directory => some path
    | _ => none).toFinset

/-- `root.read_bytes(path)` on a directory that may be missing. -/
def readRoot (tree : Option FileTree) (path : String) : Except RepairError ByteArray :=
  match tree with
  | none => .error (.raised .fileNotFound)
  | some tree => (tree.readAll path).mapError fun error => .raised (.ofPath error)

/-- `content.decode("utf-8")`. -/
def decodeText (content : ByteArray) : Except RepairError String :=
  match String.fromUTF8? content with
  | none => .error (.raised .unicode)
  | some text => .ok text

/-- `_PipelineCheckpoint.from_payload`; the other checks hold by the types of the fields. -/
def PipelineCheckpoint.read (checkpoint : PipelineCheckpoint) :
    Except RepairError PipelineCheckpoint :=
  if validStageProgression checkpoint.stages PipelineStage.order then .ok checkpoint
  else .error (.value "pipeline checkpoint stage order is invalid")

/-! ## The ledger -/

/-- The keys that every record must have, with texts. -/
def repairIdentityKeys : List String :=
  ["source_path", "target_path", "status", "method", "source_sha256", "target_sha256"]

/-- A JSON text. -/
def isText : Json → Bool
  | .str _ => true
  | _ => false

/-- A JSON object. -/
def isObject : Json → Bool
  | .obj _ => true
  | _ => false

/-- The loop body of `record_generated_repairs` on one record. -/
def normalizedRepair (fields : List (String × Json)) : Except RepairError Json :=
  if ¬ repairIdentityKeys.all (fun key => (Json.field? fields key).isSome) then
    .error (.value "repair ledger entry is incomplete")
  else if ¬ repairIdentityKeys.all (fun key => (Json.field? fields key).any isText) then
    .error (.value "repair ledger entry has invalid identity")
  else
    .ok (.obj (fields.filter fun field =>
      (repairIdentityKeys ++ ["feedback_sha256", "repair_count"]).contains field.1))

/-- The entries of `repairs.json` before a record is appended. -/
def existingRepairs : Option Json → Except RepairError (List Json)
  | none => .ok []
  | some (.arr entries) =>
    if entries.all isObject then .ok entries
    else .error (.value "repair provenance ledger is invalid")
  | some _ => .error (.value "repair provenance ledger is invalid")

/-- The output of the verification stage that a ledger is. -/
def repairsOutput : String := "05-verify-integrate/repairs.json"

/-- `outputs.append(output)` and `outputs.sort()`, unless it is listed. -/
def PipelineCheckpoint.withRepairs (checkpoint : PipelineCheckpoint) : PipelineCheckpoint :=
  if repairsOutput ∈ checkpoint.outputs then checkpoint
  else { checkpoint with outputs := (checkpoint.outputs ++ [repairsOutput]).insertionSort pathLe }

/-- `record_generated_repairs`. -/
def recordGeneratedRepairs (repairs : List (List (String × Json))) : RepairProcess Unit := do
  let normalized ← ofExcept (repairs.mapM normalizedRepair)
  let ledger ← ask RepairWorld.ledger
  let existing ← ofExcept (existingRepairs ledger)
  change fun world => { world with ledger := some (.arr (existing ++ normalized)) }
  match ← ask RepairWorld.pipeline with
  | none => pure ()
  | some stored =>
    let checkpoint ← ofExcept stored.read
    change fun world => { world with pipeline := some checkpoint.withRepairs }

/-! ## Repairs -/

/-- A call of `repair_generated_file`: the source path, the translator and its feedback. -/
structure RepairCall where
  sourcePath : String
  translator : String → String → String → String → Except Raised TranslationResult
  verificationFeedback : String

section Calls

variable (tools : RunnerTools)

/-- The checked file of a repair: the record of the source path in the checkpoint. -/
def repairedItem (world : RepairWorld) (sourcePath : String) : Except RepairError FileState :=
  if world.source.holdsStateDir then
    .error (.value "repair state directory must not be inside source")
  else
    match preflight world.source with
    | .error raised =>
      if raised.handled then
        .error (.value "repair source snapshot checkpoint is unavailable")
      else .error (.raised raised)
    | .ok snapshot =>
      match world.checkpoint with
      | none => .error (.value "repair source snapshot checkpoint is unavailable")
      | some state =>
        if state.sourceDigest ≠ tools.digestContents snapshot.contents.entries then
          .error (.value "source snapshot no longer matches the migration checkpoint")
        else
          match state.files.find? (·.sourcePath = sourcePath) with
          | none => .error (.value "repair source path is not a translated checkpoint file")
          | some item =>
            if item.kind ≠ .translate then
              .error (.value "repair source path is not a translated checkpoint file")
            else
              match snapshot.contents.get? sourcePath with
              | none => .error
                  (.value "repair source path is not present in the frozen source snapshot")
              | some content =>
                if item.sourceSha256 ≠ tools.sha256 content then .error
                  (.value "source snapshot file hash does not match the migration checkpoint")
                else if item.targetPath ≠ targetPath sourcePath then .error
                  (.value "repair target path does not match the migration checkpoint")
                else .ok item

/-- What the translator makes of a file, checked. -/
def repairedContent (world : RepairWorld) (call : RepairCall) :
    Except RepairError TranslationResult := do
  let sourceBytes ← readRoot (some world.source.tree) call.sourcePath
  let sourceText ← decodeText sourceBytes
  let targetBytes ← readRoot world.target (targetPath call.sourcePath)
  let targetText ← decodeText targetBytes
  let result ← (call.translator call.sourcePath sourceText targetText
    call.verificationFeedback).mapError .raised
  let content ← (validatedTranslation tools result (targetPath call.sourcePath)).mapError .raised
  return ⟨content, result.targetPath⟩

/-- `target_root.write_atomic(path, content)`. -/
def writeRepaired (path : String) (content : ByteArray) : RepairProcess Unit := do
  match ← ask RepairWorld.target with
  | none => raise (.raised .fileNotFound)
  | some tree =>
    let written := tree.writeAtomic path content .none
    change fun world => { world with target := some written.1 }
    ofExcept (written.2.mapError fun error => .raised (.ofPath error))

/-- The record of a repair. -/
def repairRecord (item : FileState) (sourcePath feedback : String) (content : ByteArray) :
    List (String × Json) :=
  [("source_path", .str sourcePath), ("target_path", .str (targetPath sourcePath)),
    ("status", .str "APPLIED"), ("method", .str "CodeMigrator.repair_generated_file"),
    ("source_sha256", .str item.sourceSha256.text), ("target_sha256", .str (tools.sha256 content).text),
    ("feedback_sha256", .str (tools.sha256 feedback.toUTF8).text),
    ("repair_count", .int (item.attempts + 1))]

/-- `repair_generated_file`. -/
def repairGeneratedFile (call : RepairCall) : RepairProcess TranslationResult := do
  let item ← ofExcept (← ask fun world => repairedItem tools world call.sourcePath)
  let result ← ofExcept (← ask fun world => repairedContent tools world call)
  writeRepaired (targetPath call.sourcePath) result.content.toUTF8
  recordGeneratedRepairs
    [repairRecord tools item call.sourcePath call.verificationFeedback result.content.toUTF8]
  return result

/-! ## Adoption -/

/-- `receipt`: the first entry of the ledger for a file. -/
def repairReceipt (entries : List Json) (item : FileState) (path : String) :
    Option (List (String × Json)) :=
  entries.findSome? fun entry =>
    match entry with
    | .obj fields =>
      if Json.field? fields "source_path" = some (.str item.sourcePath) ∧
          Json.field? fields "target_path" = some (.str path) then some fields
      else none
    | _ => none

/-- The receipt is that of a repair which wrote this content for the file. -/
def receiptMatches (fields : List (String × Json)) (item : FileState) (content : ByteArray) : Bool :=
  Json.field? fields "status" = some (.str "APPLIED") ∧
    Json.field? fields "method" = some (.str "CodeMigrator.repair_generated_file") ∧
    Json.field? fields "source_sha256" = some (.str item.sourceSha256.text) ∧
    Json.field? fields "target_sha256" = some (.str (tools.sha256 content).text)

/-- The file with its repaired content. -/
def adoptedFile (item : FileState) (content : ByteArray) : FileState :=
  { item with status := .succeeded, targetSha256 := some (tools.sha256 content), error := none }

/-- The first file of a target path is replaced. -/
def setTarget (path : String) (adopted : FileState) : List FileState → List FileState
  | [] => []
  | item :: rest => if item.targetPath = path then adopted :: rest else item :: setTarget path adopted rest

/-- The state with the repaired file of a target path. -/
def adoption (world : RepairWorld) (path : String) : Except RepairError MigrationState :=
  match world.checkpoint with
  | none => .error (.raised .fileNotFound)
  | some state =>
    match state.files.find? (·.targetPath = path) with
    | none => .error (.value "repaired target path is not a translated checkpoint file")
    | some item =>
      if item.kind ≠ .translate then
        .error (.value "repaired target path is not a translated checkpoint file")
      else
        match world.ledger with
        | none => .error (.raised .fileNotFound)
        | some (.arr entries) => do
            let content ← readRoot world.target path
            if ¬ (String.fromUTF8? content).any tools.parses then
              .error (.value "repaired target is not valid Python")
            else
              match repairReceipt entries item path with
              | none => .error (.value "repaired target has no CodeMigrator repair provenance")
              | some fields =>
                if receiptMatches tools fields item content then
                  .ok { state with
                    files := setTarget path (adoptedFile tools item content) state.files }
                else
                  .error (.value "repair provenance does not match the target checkpoint")
        | some _ => .error (.value "repair provenance ledger is invalid")

/-- The checkpoint with only verification and report open again. -/
def PipelineCheckpoint.reopened (checkpoint : PipelineCheckpoint) : PipelineCheckpoint :=
  if checkpoint.stages .verifyIntegrate ≠ .pending ∨ checkpoint.stages .report ≠ .pending then
    { checkpoint with
      stages := fun stage =>
        if stage = .verifyIntegrate ∨ stage = .report then .pending else checkpoint.stages stage
      currentStage := .verifyIntegrate
      errors := [] }
  else checkpoint

/-- `adopt_repaired_file`. -/
def adoptRepairedFile (path : String) : RepairProcess Unit := do
  let adopted ← ofExcept (← ask fun world => adoption tools world path)
  change fun world => { world with checkpoint := some adopted }
  match ← ask RepairWorld.pipeline with
  | none => raise (.raised .fileNotFound)
  | some stored =>
    let checkpoint ← ofExcept stored.read
    change fun world => { world with pipeline := some checkpoint.reopened }

end Calls

end CodeMigrator
