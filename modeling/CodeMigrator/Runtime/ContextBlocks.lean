import CodeMigrator.Lib.TextBytes
import CodeMigrator.Runtime.RepairDispatch
import CodeMigrator.Workspace.ActionProtocol

/-!
# Tool results in the context

The governed blocks of `runtime/memory.py`: what `govern_read_file`, `govern_shell_output`,
`govern_exec_result` and `govern_ast_matches` make of a tool's result. A text is the list of its
code points, and `dumps` is the JSON text of a match, where it has one.
-/

namespace CodeMigrator
open Lib

/-- `MAX_CONTEXT_BLOCK_BYTES`. -/
def maxContextBlockBytes : Nat := 256 * 1024

/-- `MAX_AST_MATCHES`. -/
def maxAstMatches : Nat := 200

/-- What the functions raise. -/
inductive ContextError where
  /-- The `ValueError` of a check of the arguments. -/
  | rejected (message : String)
  /-- The `UnicodeEncodeError` of a lone surrogate. -/
  | encoding
  /-- The `ValueError` of an integer with too many digits for a text. -/
  | digits
  /-- A match without a JSON text. -/
  | dumping
  /-- The `ValueError` of a `ContextDataBlock` that is too long. -/
  | tooLarge
  deriving DecidableEq

/-- The members of `DataBlockKind` that these blocks have. -/
inductive DataBlockKind where
  | sourceFile | sourceAst | shell | exec
  deriving DecidableEq

/-- `ContextDataBlock`. -/
structure ContextDataBlock (α : Type) where
  kind : DataBlockKind
  text : Points
  totalBytes : Nat
  truncated : Bool
  artifactRef : Option String
  rangeHint : Option Points
  facts : List α

variable {α : Type}

/-- `ContextDataBlock.__post_init__`; its reference is one that `_owned_cas_ref` has returned. -/
def ContextDataBlock.check (block : ContextDataBlock α) : Except ContextError (ContextDataBlock α) :=
  if Utf8Encodable block.text then
    if byteLength block.text ≤ maxContextBlockBytes then .ok block else .error .tooLarge
  else .error .encoding

/-- `len(text.encode("utf-8"))`. -/
def encodedBytes (text : Points) : Except ContextError Nat :=
  if Utf8Encodable text then .ok (byteLength text) else .error .encoding

/-- `_byte_prefix`. -/
def bytePrefix (value : Points) (limit : Nat) : Except ContextError Points :=
  if Utf8Encodable value then .ok (takeBytes limit value) else .error .encoding

/-- The integer has a decimal text: at most 4300 digits. -/
def Printable (value : Int) : Prop := (toString value.natAbs).length ≤ 4300

instance (value : Int) : Decidable (Printable value) := inferInstanceAs (Decidable (_ ≤ _))

/-- `str(value)` of an integer. -/
def decimalText (value : Int) : Except ContextError Points :=
  if Printable value then .ok (points (toString value)) else .error .digits

/-! ## References -/

/-- The arguments of `_owned_cas_ref`; the validator gives `none` where it raises. -/
structure CasArgument where
  artifactRef : Option String
  runId : Option RunId
  casRefValidator : Option (String → RunId → Option Bool)

/-- `_owned_cas_ref`. -/
def CasArgument.owned (cas : CasArgument) : Except ContextError (Option String) :=
  match cas.artifactRef with
  | none => .ok none
  | some value =>
    if ¬ isCasUri value then .error (.rejected "artifact_ref must be a cas:// SHA-256 URI")
    else
      let reference := String.ofList (value.toList.map Char.toLower)
      match cas.runId, cas.casRefValidator with
      | some runId, some casRefValidator =>
        match casRefValidator reference runId with
        | none => .error (.rejected "CAS ownership validation failed")
        | some false => .error (.rejected "CAS reference is not owned by the current run")
        | some true => .ok (some reference)
      | _, _ =>
        .error (.rejected "CAS ownership validation requires the current run identity")

/-! ## Read files -/

/-- The text of a read file, with the marker of its range where it is cut. -/
def readFileText (body marker : Points) (truncated : Bool) : Except ContextError Points :=
  if truncated then do
    let markerBytes ← encodedBytes marker
    let kept ← bytePrefix body (maxContextBlockBytes - markerBytes)
    .ok (kept ++ marker)
  else .ok body

/-- `govern_read_file`. -/
def governReadFile (body path : Points) (totalLines startLine : Nat) (truncated : Bool) :
    Except ContextError (ContextDataBlock α) :=
  if path = [] ∨ startLine = 0 then .error (.rejected "ReadFile context facts are invalid")
  else do
    let totalBytes ← encodedBytes body
    let truncated := truncated || decide (maxContextBlockBytes < totalBytes)
    let pathHint ← bytePrefix path 4096
    let first ← decimalText startLine
    let last ← decimalText totalLines
    let range := pathHint ++ points ":" ++ first ++ points "-" ++ last
    let text ← readFileText body
      (points "\n[truncated=true; range=" ++ range ++ points "; reread_next_range=true]") truncated
    ContextDataBlock.check ⟨.sourceFile, text, totalBytes, truncated, none, some range, []⟩

/-! ## Output of commands -/

/-- The texts of `govern_shell_output` put together, before they are stripped. -/
def shellText (exitText stdout stderr : Points) : Points :=
  points "[exit_code=" ++ exitText ++ points "]\n[stdout]\n" ++ stdout ++ points "\n[stderr]\n" ++ stderr

/-- `combined` of `govern_shell_output`. -/
def combinedText (exitText stdout stderr : Points) : Points :=
  stripPoints (shellText exitText stdout stderr)

/-- What is kept of an output that is too long. -/
def shortened (combined : Points) : Points :=
  let opening := points "[truncated=true]\n[head]\n"
  let separator := points "\n[tail]\n"
  let payloadLimit := maxContextBlockBytes - byteLength (opening ++ separator)
  let headLimit := payloadLimit / 2
  opening ++ takeBytes headLimit combined ++ separator ++
    takeLastBytes (payloadLimit - headLimit) combined

/-- The block of `govern_shell_output`. -/
def shellBlock (combined exitText : Points) (reference : Option String) : ContextDataBlock α where
  kind := .shell
  text := if maxContextBlockBytes < byteLength combined then shortened combined else combined
  totalBytes := byteLength combined
  truncated := decide (maxContextBlockBytes < byteLength combined)
  artifactRef := reference
  rangeHint := some (points "exit_code=" ++ exitText)
  facts := []

/-- `govern_shell_output`. -/
def governShellOutput (stdout stderr : Points) (exitCode : Int) (cas : CasArgument) :
    Except ContextError (ContextDataBlock α) := do
  let exitText ← decimalText exitCode
  let totalBytes ← encodedBytes (combinedText exitText stdout stderr)
  let reference ← cas.owned
  if maxContextBlockBytes < totalBytes ∧ reference = none then
    .error (.rejected "oversized Shell output requires a CAS artifact reference")
  else (shellBlock (combinedText exitText stdout stderr) exitText reference).check

/-! ## Results of programs -/

/-- The JSON text of the payload of `govern_exec_result`, its keys in order. -/
def execText (error : Option Points) (steps summary : Points) (truncated : Bool) : Points :=
  (match error with
    | some message =>
      points "\x7b\x22error\x22:" ++ jsonString message ++ points ",\x22outcome\x22:\x22FAILED\x22"
    | none => points "\x7b\x22outcome\x22:\x22OK\x22") ++
    points ",\x22step_count\x22:" ++ steps ++ points ",\x22summary\x22:" ++ jsonString summary ++
    points ",\x22truncated\x22:" ++ points (if truncated then "true" else "false") ++ points "\x7d"

/-- `summary_limit`. -/
def summaryLimit : Nat := maxContextBlockBytes - 8192

/-- `summary_text`. -/
def summaryText (summary : Points) : Points :=
  if summaryLimit < byteLength summary then
    points "[head]\n" ++ takeBytes (summaryLimit / 2) summary ++ points "\n[tail]\n" ++
      takeLastBytes (summaryLimit - summaryLimit / 2) summary
  else summary

/-- The error message, where there is one and it is not empty. -/
def errorGiven (errorMessage : Option Points) : Option Points := errorMessage.filter (· ≠ [])

/-- The summary is cut, or together with the error message too long. -/
def oversizedExec (summary : Points) (errorMessage : Option Points) : Bool :=
  decide (maxContextBlockBytes < byteLength summary + byteLength (errorMessage.getD [])) ||
    decide (summaryLimit < byteLength summary)

/-- The block of `govern_exec_result`. -/
def execBlock (summary steps : Points) (errorMessage : Option Points) (reference : Option String) :
    ContextDataBlock α where
  kind := .exec
  text := execText ((errorGiven errorMessage).map (takeBytes 4096)) steps (summaryText summary)
    (oversizedExec summary errorMessage)
  totalBytes := byteLength summary + byteLength (errorMessage.getD [])
  truncated := oversizedExec summary errorMessage
  artifactRef := reference
  rangeHint := none
  facts := []

/-- `govern_exec_result`. -/
def governExecResult (summary : Points) (stepCount : Nat) (errorMessage : Option Points)
    (cas : CasArgument) : Except ContextError (ContextDataBlock α) := do
  let _ ← encodedBytes summary
  let _ ← encodedBytes (errorMessage.getD [])
  let reference ← cas.owned
  if oversizedExec summary errorMessage = true ∧ reference = none then
    .error (.rejected "oversized Exec summary requires a CAS artifact reference")
  else
    let steps ← decimalText stepCount
    (execBlock summary steps errorMessage reference).check

/-! ## Matches in the source -/

/-- The JSON text of matches. -/
def matchesText (texts : List Points) (truncated : Bool) : Points :=
  points "\x7b\x22matches\x22:[" ++ List.intercalate (points ",") texts ++
    points "],\x22truncated\x22:" ++ points (if truncated then "true" else "false") ++ points "\x7d"

variable (dumps : α → Option Points)

/-- `json.dumps` of one match. -/
def dumpMatch (value : α) : Except ContextError Points :=
  (dumps value).elim (.error .dumping) .ok

/-- `json.dumps` of the facts. -/
def dumpFacts (facts : List α) (truncated : Bool) : Except ContextError Points := do
  let texts ← facts.mapM (dumpMatch dumps)
  .ok (matchesText texts truncated)

/-- The loop of `govern_ast_matches` from the first `count` values on. -/
def shrinkFacts (values : List α) : Nat → Bool → Except ContextError (List α × Points × Bool)
  | 0, truncated => do
    let text ← dumpFacts dumps [] truncated
    let _ ← encodedBytes text
    .ok ([], text, truncated)
  | count + 1, truncated => do
    let text ← dumpFacts dumps (values.take (count + 1)) truncated
    let size ← encodedBytes text
    if size ≤ maxContextBlockBytes then .ok (values.take (count + 1), text, truncated)
    else shrinkFacts values count true

/-- `govern_ast_matches`. -/
def governAstMatches (values : List α) : Except ContextError (ContextDataBlock α) := do
  let (facts, text, truncated) ← shrinkFacts dumps values (min maxAstMatches values.length)
    (decide (maxAstMatches < values.length))
  ContextDataBlock.check ⟨.sourceAst, text, byteLength text, truncated, none, none, facts⟩

end CodeMigrator
