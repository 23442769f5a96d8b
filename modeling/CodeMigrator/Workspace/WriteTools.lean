import CodeMigrator.Lib.Transition
import CodeMigrator.Workspace.Gateway
import CodeMigrator.Workspace.SecureRoot

/-!
# Writes through the tool gateway

`WriteFile` and `EditFile` calls of `ToolGateway` (`workspace/gateway.py`), from the dispatch
on: what they admit, what they write and which operation they record.
-/

namespace CodeMigrator
open Lib

/-! ## Calls and results -/

/-- `WriteFileCall`; its content was checked by the schema. -/
structure WriteFileCall where
  path : String
  content : String
  withinLimit : content.utf8ByteSize ≤ 64 * 1024 ^ 2

/-- `EditFileCall`; its texts and its occurrence were checked by the schema. -/
structure EditFileCall where
  path : String
  oldText : String
  newText : String
  occur : Option Nat
  notEmpty : oldText ≠ ""
  withinLimit : oldText.utf8ByteSize ≤ 1024 ^ 2 ∧ newText.utf8ByteSize ≤ 1024 ^ 2
  positive : ∀ occurrence, occur = some occurrence → 1 ≤ occurrence

/-- A call of one of the two tools that write. -/
inductive WriteCall where
  | write (call : WriteFileCall)
  | edit (call : EditFileCall)

/-- The tool of an operation. -/
inductive WriteTool where
  | writeFile | editFile
  deriving DecidableEq

/-- The name of the tool in a policy. -/
def WriteTool.name : WriteTool → String
  | writeFile => "WriteFile"
  | editFile => "EditFile"

def WriteCall.tool : WriteCall → WriteTool
  | write _ => .writeFile
  | edit _ => .editFile

/-- The disposition of a written file. -/
inductive Disposition where
  | created | overwritten
  deriving DecidableEq

/-- The members of `StableErrorCode` that the two tools return. -/
inductive ToolErrorCode where
  | staleDispatchResult | toolPhaseDenied | pathDenied | writeScopeViolation | writeLimitExceeded
  | editTargetNotFound | editAmbiguous | checkpointWriteFailed
  deriving DecidableEq

/-- `ToolError`. -/
structure ToolError where
  code : ToolErrorCode
  message : String
  retryableInPhase : Bool
  facts : List (List (String × Json))

/-- `ToolResult` of the two tools. -/
inductive ToolResult where
  | written (path : String) (bytesWritten : Nat) (disposition : Disposition)
  | edited (path : String) (replacedLine bytesBefore bytesAfter : Nat)
  | error (error : ToolError)

/-- `_error`, for an error that can be retried. -/
def toolError (code : ToolErrorCode) (message : String) (facts : List (List (String × Json))) :
    ToolResult :=
  .error ⟨code, message, true, facts⟩

/-- `_error` with `retryable=False`. -/
def finalError (code : ToolErrorCode) (message : String) : ToolResult :=
  .error ⟨code, message, false, []⟩

/-- `WorkspaceFileOperation`. -/
structure WorkspaceFileOperation where
  runId : RunId
  sliceId : SliceId
  generation : CandidateGeneration
  tool : WriteTool
  path : String
  bytesWritten : Nat
  disposition : Disposition

/-! ## The gateway -/

/-- What the two tools read of `GatewayContext`: exactly one owner, and no slice for a Draft. -/
structure GatewayContext where
  runId : Option RunId
  draftId : Option UUID
  phase : Phase
  sessionKind : SessionKind
  sliceId : Option SliceId
  generation : Option CandidateGeneration
  oneOwner : runId.isNone ≠ draftId.isNone
  draftWithoutSlice : draftId.isSome → sliceId = none ∧ generation = none

/-- `ToolGateway` as it was constructed: a Run has a workspace and a Draft has none. -/
structure ToolGateway where
  context : GatewayContext
  hasWorkspace : Bool
  writeScope : Option WriteScope
  otherWriteScopes : List WriteScope
  policy : String → List String
  runHasWorkspace : context.runId.isSome → hasWorkspace = true
  draftHasNone : context.draftId.isSome → hasWorkspace = false

/-- The workspace of a gateway, the bytes it has written and its recorded operations. -/
structure WriteSession where
  tree : FileTree
  writeBytes : Nat
  operations : List WorkspaceFileOperation

/-- `MAX_READ_BYTES`. -/
def maxReadBytes : Nat := 64 * 1024 ^ 2

namespace ToolGateway

variable (gateway : ToolGateway)

/-- `_is_allowed`. -/
def isAllowed (tool : String) : Bool :=
  if tool ∉ gateway.policy gateway.context.phase.value then false
  else if gateway.context.draftId.isSome then ["ReadFile", "QuerySourceAst", "Exec"].contains tool
  else if gateway.context.sessionKind = .exploreCoordinator then
    ["ReadFile", "QuerySourceAst", "Exec"].contains tool
  else if gateway.context.sessionKind = .executeSupervisor then
    ["ReadFile", "QuerySourceAst"].contains tool
  else true

/-- `_record_operation`, up to the call of `operation_sink`. -/
def recordOperation (session : WriteSession) (tool : WriteTool) (path : String)
    (bytesWritten : Nat) (disposition : Disposition) : WriteSession :=
  match gateway.context.runId, gateway.context.sliceId, gateway.context.generation with
  | some runId, some sliceId, some generation =>
    { session with operations := session.operations ++
        [⟨runId, sliceId, generation, tool, path, bytesWritten, disposition⟩] }
  | _, _, _ => session

/-- What `operation_sink` raises where an operation is recorded: an `OSError`, a `UnicodeError` or a
`ValueError`, by its type. -/
def sinkFailure (fault : IoFault) : Option String :=
  match gateway.context.runId, gateway.context.sliceId, gateway.context.generation, fault with
  | some _, some _, some _, .sink exception => some exception
  | _, _, _, _ => none

/-- The write scope of the gateway admits the write. -/
def admits (path : String) (existed : Bool) : Bool :=
  gateway.writeScope.any (fun scope => writeAllowed scope gateway.otherWriteScopes path existed)

/-- An exception that `dispatch` turns into a result. -/
def executionFailed (exception : String) : ToolResult :=
  toolError .checkpointWriteFailed "tool execution failed without exposing host details"
    [[("exception", .str exception)]]

/-- A path error that no handler of the tool has caught. -/
def uncaught : PathError → ToolResult
  | .security => executionFailed "PathSecurityError"
  | .notFound => executionFailed "PathNotFound"
  | .tooLarge => executionFailed "ValueError"
  | .osError => executionFailed "OSError"

/-- The file is replaced, and the operation is recorded if that succeeds. -/
def store (session : WriteSession) (tool : WriteTool) (path : String) (data : ByteArray)
    (disposition : Disposition) (fault : IoFault) (result : ToolResult) :
    WriteSession × ToolResult :=
  match session.tree.writeAtomic path data fault with
  | (tree, .error error) => ({ session with tree := tree }, uncaught error)
  | (tree, .ok ()) =>
    (gateway.recordOperation
      { session with tree := tree, writeBytes := session.writeBytes + data.size } tool path
      data.size disposition, (gateway.sinkFailure fault).elim result executionFailed)

/-- Whether the target of a write exists; a path without parents does not. -/
def targetExisted (session : WriteSession) (path : String) : Except PathError Bool :=
  match session.tree.exists_ path with
  | .error .notFound => .ok false
  | result => result

/-- `_write`. -/
def write (session : WriteSession) (call : WriteFileCall) (fault : IoFault) :
    WriteSession × ToolResult :=
  if ¬ gateway.hasWorkspace ∨ gateway.context.draftId.isSome then
    (session, finalError .toolPhaseDenied "Draft sessions cannot write candidate files")
  else if fault = .access then (session, uncaught .osError)
  else
    match targetExisted session call.path with
    | .error .security => (session, toolError .pathDenied "path failed the safety gate" [])
    | .error error => (session, uncaught error)
    | .ok existed =>
      if ¬ gateway.admits call.path existed then
        (session, toolError .writeScopeViolation "path is outside the frozen write scope"
          [[("scope", .str "frozen")]])
      else
        let data := call.content.toUTF8
        if maxReadBytes < session.writeBytes + data.size then
          (session, toolError .writeLimitExceeded "write quota has been exhausted" [])
        else
          let disposition := if existed then Disposition.overwritten else .created
          gateway.store session .writeFile call.path data disposition fault
            (.written call.path data.size disposition)

/-! ## Edits -/

/-- The positions at which `old` is found from the left without overlaps; `skip` characters are
part of the last match. -/
def positionsFrom (old : List Char) (skip position : Nat) : List Char → List Nat
  | [] => []
  | c :: rest =>
    if skip = 0 ∧ old.isPrefixOf (c :: rest) then
      position :: positionsFrom old (old.length - 1) (position + 1) rest
    else positionsFrom old (skip - 1) (position + 1) rest

/-- The characters at which `str.splitlines` breaks lines. -/
def isLineBreak (c : Char) : Bool :=
  ['\n', '\r', '\x0b', '\x0c', '\x1c', '\x1d', '\x1e', '\u0085', '\u2028', '\u2029'].contains c

/-- `len(text.splitlines())`, where a line is open or not. -/
def lineCount (openLine : Bool) : List Char → Nat
  | [] => if openLine then 1 else 0
  | '\r' :: '\n' :: rest => 1 + lineCount false rest
  | c :: rest => if isLineBreak c then 1 + lineCount false rest else lineCount true rest

/-- `text.count("\\n", 0, position) + 1`. -/
def lineAt (text : List Char) (position : Nat) : Nat := (text.take position).count '\n' + 1

/-- The position of the occurrence that the call selects among the found ones. -/
def selectOccurrence (call : EditFileCall) (text : List Char) : Except ToolResult Nat :=
  let positions := positionsFrom call.oldText.toList 0 0 text
  if positions = [] then
    .error (toolError .editTargetNotFound "edit target was not found"
      [[("line_count", .int (lineCount false text))]])
  else if call.occur.isNone ∧ 1 < positions.length then
    .error (toolError .editAmbiguous "edit target matched more than once"
      (positions.map fun position => [("line", .int (lineAt text position))]))
  else
    match positions[(call.occur.map (· - 1)).getD 0]? with
    | none =>
      .error (toolError .editTargetNotFound "requested occurrence was not found"
        [[("match_count", .int positions.length)]])
    | some position => .ok position

/-- The contents of an existing edit target. -/
def editTarget (session : WriteSession) (path : String) : Except ToolResult ByteArray :=
  let answer : PathError → ToolResult
    | .security => toolError .pathDenied "path failed the safety gate" []
    | .notFound => toolError .editTargetNotFound "edit target does not exist" []
    | error => uncaught error
  match session.tree.exists_ path with
  | .error error => .error (answer error)
  | .ok false => .error (toolError .editTargetNotFound "edit target does not exist" [])
  | .ok true => (session.tree.readBytes path maxReadBytes).mapError answer

/-- `_edit`. -/
def edit (session : WriteSession) (call : EditFileCall) (fault : IoFault) :
    WriteSession × ToolResult :=
  if ¬ gateway.hasWorkspace ∨ gateway.context.draftId.isSome then
    (session, finalError .toolPhaseDenied "Draft sessions cannot edit candidate files")
  else if fault = .access then (session, uncaught .osError)
  else
    match editTarget session call.path with
    | .error result => (session, result)
    | .ok data =>
      if ¬ gateway.admits call.path true then
        (session, toolError .writeScopeViolation "path is outside the frozen write scope" [])
      else
        match String.fromUTF8? data with
        | none =>
          (session, toolError .editTargetNotFound "edit target is not UTF-8 text" [])
        | some text =>
          match selectOccurrence call text.toList with
          | .error result => (session, result)
          | .ok position =>
            let updated := String.ofList (text.toList.take position ++ call.newText.toList ++
              text.toList.drop (position + call.oldText.length))
            let updatedBytes := updated.toUTF8
            if maxReadBytes < session.writeBytes + updatedBytes.size then
              (session, toolError .writeLimitExceeded "write quota has been exhausted" [])
            else
              gateway.store session .editFile call.path updatedBytes .overwritten fault
                (.edited call.path (lineAt text.toList position) data.size updatedBytes.size)

/-- `dispatch` of a call that the schema accepts. -/
def dispatch (session : WriteSession) (call : WriteCall) (cancelled : Bool) (fault : IoFault) :
    WriteSession × ToolResult :=
  if cancelled then
    (session, finalError .staleDispatchResult "tool call was cancelled before execution")
  else if ¬ gateway.isAllowed call.tool.name then
    (session, finalError .toolPhaseDenied "the current phase or session cannot use this tool")
  else
    match call with
    | .write call => gateway.write session call fault
    | .edit call => gateway.edit session call fault

/-- One dispatch: the call, whether it was cancelled before, and the fault it meets. -/
abbrev WriteInput := WriteCall × Bool × IoFault

/-- The session after a dispatch. -/
def step (session : WriteSession) (input : WriteInput) : WriteSession :=
  (gateway.dispatch session input.1 input.2.1 input.2.2).1

/-! ## What a dispatch does -/

variable {gateway : ToolGateway} {session : WriteSession}

/-- A dispatch changes nothing, or writes one file that the gateway admits: it records this with
its disposition, or the operating system has failed the write. -/
theorem dispatch_cases (input : WriteInput) :
    gateway.step session input = session ∨
      ∃ tool path data existed disposition, targetExisted session path = .ok existed ∧
        gateway.admits path existed = true ∧
        disposition = (if existed then Disposition.overwritten else .created) ∧
        ∃ result, gateway.step session input =
          (gateway.store session tool path data disposition input.2.2 result).1 := by
  obtain ⟨call, cancelled, fault⟩ := input
  unfold step dispatch
  dsimp only
  split
  · exact .inl rfl
  split
  · exact .inl rfl
  cases call with
  | write call =>
    dsimp only
    unfold write
    split
    · exact .inl rfl
    split
    · exact .inl rfl
    split
    · exact .inl rfl
    · exact .inl rfl
    next existed found =>
    split
    · exact .inl rfl
    next admitted =>
    dsimp only
    split
    · exact .inl rfl
    · exact .inr ⟨_, call.path, _, existed, _, found, by simpa using admitted, rfl, _, rfl⟩
  | edit call =>
    dsimp only
    unfold edit
    split
    · exact .inl rfl
    split
    · exact .inl rfl
    cases target : editTarget session call.path with
    | error result => exact .inl rfl
    | ok data =>
      have found : targetExisted session call.path = .ok true := by
        unfold editTarget at target
        unfold targetExisted
        cases exists_ : session.tree.exists_ call.path with
        | error error => rw [exists_] at target; cases target
        | ok present =>
          rw [exists_] at target
          cases present with
          | false => cases target
          | true => rfl
      dsimp only
      split
      · exact .inl rfl
      next admitted =>
      split
      · exact .inl rfl
      split
      · exact .inl rfl
      split
      · exact .inl rfl
      · exact .inr ⟨_, call.path, _, true, _, found, by simpa using admitted, rfl, _, rfl⟩

end ToolGateway

end CodeMigrator
