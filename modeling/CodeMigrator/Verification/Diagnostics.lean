import CodeMigrator.Lib.Lines
import CodeMigrator.Verification.Checks

/-!
# Diagnostic parsers

The line parsers and the registry of `verification/diagnostics.py`. A parser reads the non-blank
lines of a tool's output: a line of its grammar becomes a mapping of its own, the others are put
together into one mapping with an unknown target.

`digest` is the SHA-256 of a normalised message and `isWord` tells the characters of `\w`.
-/

namespace CodeMigrator
open Lib

/-! ## Lines -/

/-- The boundaries of `str.splitlines`. -/
def isLineBreak (c : Char) : Bool :=
  ('\n' ≤ c && c ≤ '\r') || ('\x1c' ≤ c && c ≤ '\x1e') ||
    ['\u0085', '\u2028', '\u2029'].contains c

/-- `text.splitlines()`. -/
def textLines (text : String) : List (List Char) := splitLines isLineBreak '\r' '\n' text.toList

/-- `line.strip()`. -/
def strip (line : List Char) : List Char := stripList isSpace line

/-- The stripped lines that are not empty. -/
def meaningfulLines (text : String) : List (List Char) :=
  ((textLines text).map strip).filter (· ≠ [])

/-- `"\n".join(lines)`. -/
def joinLines (lines : List (List Char)) : String := String.ofList (List.intercalate ['\n'] lines)

/-! ## Line grammars -/

/-- `\d` of a text pattern. -/
def isDecimal (c : Char) : Bool := (toAscii c).isDigit

/-- The groups of `_FILE_LINE`. -/
structure FileLineMatch where
  path : List Char
  line : List Char
  message : List Char
  deriving DecidableEq

/-- `\s*(?P<message>.+)$` on what is left of a line: the white space is given back where the
message would be empty without it. -/
def matchMessage (rest : List Char) : Option (List Char) :=
  if rest.dropWhile isSpace ≠ [] then some (rest.dropWhile isSpace)
  else rest.getLast?.map ([·])

/-- `(?::\d+)?:\s*(?P<message>.+)$` behind the first colon: with a column if there is one. -/
def matchColumn (rest : List Char) : Option (List Char) :=
  let withColumn :=
    if rest.takeWhile isDecimal = [] then none
    else
      match rest.dropWhile isDecimal with
      | ':' :: more => matchMessage more
      | _ => none
  withColumn.or (matchMessage rest)

/-- `_FILE_LINE.match`, for a line without line feeds. -/
def matchFileLine (text : List Char) : Option FileLineMatch :=
  if text.head?.all fun first => first == ':' || isSpace first then none
  else
    match text.dropWhile (· ≠ ':') with
    | _ :: afterPath =>
      if afterPath.takeWhile isDecimal = [] then none
      else
        match afterPath.dropWhile isDecimal with
        | ':' :: rest =>
          (matchColumn rest).map fun message =>
            ⟨text.takeWhile (· ≠ ':'), afterPath.takeWhile isDecimal, message⟩
        | _ => none
    | [] => none

/-- A letter of `FAILED` without regard to case. -/
def foldLetter (c : Char) : Char := if c = '\u0131' ∨ c = '\u0130' then 'i' else c.toLower

/-- The groups of `_PYTEST_FAILURE`. -/
structure PytestMatch where
  test : List Char
  message : Option (List Char)
  deriving DecidableEq

/-- `(?:\s+-\s+(?P<message>.*))?$` behind a test. -/
def matchReason (test tail : List Char) : Option PytestMatch :=
  if tail = [] then some ⟨test, none⟩
  else
    match tail.dropWhile isSpace with
    | '-' :: more =>
      if more.takeWhile isSpace = [] then none else some ⟨test, some (more.dropWhile isSpace)⟩
    | _ => none

/-- `_PYTEST_FAILURE.match`, for a stripped line without line feeds. -/
def matchPytest (text : List Char) : Option PytestMatch :=
  if (text.take 6).map foldLetter ≠ "failed".toList then none
  else if (text.drop 6).takeWhile isSpace = [] then none
  else
    let body := (text.drop 6).dropWhile isSpace
    if body.takeWhile (!isSpace ·) = [] then none
    else matchReason (body.takeWhile (!isSpace ·)) (body.dropWhile (!isSpace ·))

/-! ## Codes -/

/-- `_CODE_SUFFIX`: a code in brackets at the end of the message. -/
def codeSuffix (message : List Char) : Option (List Char) :=
  match message.reverse.dropWhile isSpace with
  | ']' :: more =>
    let isCode (c : Char) : Bool := c.isAlphanum || c == '_' || c == '-'
    if more.takeWhile isCode ≠ [] ∧ (more.dropWhile isCode).head? = some '[' then
      some (more.takeWhile isCode).reverse
    else none
  | _ => none

section Parsers

variable (digest : String → String) (isWord : Char → Bool)

/-- `_CODE_PREFIX`: a capital letter and three to five digits at the start of the message. -/
def codePrefix (message : List Char) : Option (List Char) :=
  match message with
  | [] => none
  | first :: rest =>
    let digits := rest.takeWhile Char.isDigit
    if first.isUpper ∧ 3 ≤ digits.length ∧ digits.length ≤ 5 ∧
        !(rest.dropWhile Char.isDigit).head?.any isWord then
      some (first :: digits)
    else none

/-- `_severity_and_code`; the programs that have parsers are ASCII. -/
def severityAndCode (message : List Char) (program : String) : DiagnosticSeverity × String :=
  let severity : DiagnosticSeverity :=
    if "warning".toList <:+: message.map Char.toLower then .warning else .error
  match codeSuffix message, codePrefix isWord message with
  | some code, _ => (severity, String.ofList code)
  | none, some code => (severity, String.ofList code)
  | none, none =>
    (severity, String.ofList ((program.toList.map Char.toUpper).map fun c =>
      if c = '-' then '_' else c) ++ "_DIAGNOSTIC")

/-- `_mapping`. -/
def mapping (severity : DiagnosticSeverity) (target : DiagnosticTarget) (code message : String) :
    DiagnosticMapping := ⟨severity, target, code, digest message⟩

/-- The mapping of a text that nothing is known about. -/
def unknownMapping (message : String) : DiagnosticMapping :=
  mapping digest .error .unknown "UNKNOWN_DIAGNOSTIC" message

/-- `_safe_file`. -/
def safeFile (path : List Char) : Option RepoRelativePath :=
  if safe : isRepoRelative (String.ofList path) = true then some ⟨String.ofList path, safe⟩ else none

/-- `int(digits)`: more than 4300 digits are refused. -/
def intOfDigits (digits : List Char) : Option Int :=
  if 4300 < digits.length then none else intBase10 digits

/-- What a parser makes of a line: `none` is the `ValueError` of a number that is too long, and
`some none` a line that is not of the grammar. -/
abbrev LineParser := List Char → Option (Option DiagnosticMapping)

/-- The loop body of `_parse_file_lines`. -/
def parseFileLine (program : String) : LineParser := fun line =>
  match matchFileLine (strip line) with
  | none => some none
  | some groups =>
    match safeFile groups.path with
    | none => some (some (unknownMapping digest (String.ofList line)))
    | some path =>
      (intOfDigits groups.line).map fun number =>
        let (severity, code) := severityAndCode isWord groups.message program
        some (mapping digest severity (.fileLine path number) code
          (String.ofList groups.message))

/-- The loop body of `_parse_pytest`. -/
def parsePytestLine : LineParser := fun line =>
  match matchPytest (strip line) with
  | none => some none
  | some groups =>
    let message := groups.message.filter (· ≠ [])
    some (some (mapping digest .error (.testIdentity (String.ofList groups.test)) "PYTEST_FAILURE"
      (String.ofList (message.getD "pytest test failed".toList))))

/-! ## Parsers -/

/-- `ParsedDiagnostics`; it is complete when there are no unparsed lines. -/
structure ParsedDiagnostics where
  mappings : List DiagnosticMapping
  unparsedLines : List (List Char)

/-- The loop of `_parse_file_lines` and of `_parse_pytest`. -/
def parseLines (parseLine : LineParser) : List (List Char) → Option ParsedDiagnostics
  | [] => some ⟨[], []⟩
  | line :: lines =>
    if strip line = [] then parseLines parseLine lines
    else
      match parseLine line, parseLines parseLine lines with
      | some (some mapping), some rest => some { rest with mappings := mapping :: rest.mappings }
      | some none, some rest =>
        some { rest with unparsedLines := strip line :: rest.unparsedLines }
      | _, _ => none

/-- `_parse_file_lines`. -/
def parseFileLines (text program : String) : Option ParsedDiagnostics :=
  parseLines (parseFileLine digest isWord program) (textLines text)

/-- `_parse_pytest`. -/
def parsePytest (text _program : String) : Option ParsedDiagnostics :=
  parseLines (parsePytestLine digest) (textLines text)

/-- `_unknown`. -/
def unknownText (text : String) : List DiagnosticMapping :=
  if meaningfulLines text = [] then [] else [unknownMapping digest (joinLines (meaningfulLines text))]

/-! ## The registry -/

/-- The parsers that are registered. -/
inductive RegisteredParser where
  | pytest | fileLines
  deriving DecidableEq

/-- `DiagnosticParserRegistry.with_builtins`. -/
def withBuiltins : List ((CheckAction × String) × RegisteredParser) :=
  [((.test, "pytest"), .pytest), ((.compile, "go"), .fileLines), ((.lint, "ruff"), .fileLines),
    ((.typeCheck, "mypy"), .fileLines), ((.lint, "go"), .fileLines), ((.lint, "go vet"), .fileLines)]

/-- A registered parser is called. -/
def RegisteredParser.run (parser : RegisteredParser) (text program : String) :
    Option ParsedDiagnostics :=
  match parser with
  | pytest => parsePytest digest text program
  | fileLines => parseFileLines digest isWord text program

/-- `DiagnosticParserRegistry.parse`; `none` is the `ValueError` of a parser. -/
def parseDiagnostics (action : CheckAction) (program text : String) :
    Option (List DiagnosticMapping) :=
  match Dict.lookup (action, program) withBuiltins with
  | none => some (unknownText digest text)
  | some parser =>
    (parser.run digest isWord text program).map fun parsed =>
      let mappings := parsed.mappings ++
        if parsed.unparsedLines = [] then []
        else [unknownMapping digest (joinLines parsed.unparsedLines)]
      if mappings = [] then unknownText digest text else mappings

end Parsers

end CodeMigrator
