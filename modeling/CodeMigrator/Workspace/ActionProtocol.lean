import CodeMigrator.Lib.JsonScanner
import CodeMigrator.Lib.Lines

/-!
# Action streams

`parse_action_stream` of `workspace/protocol.py`: the actions of a model's output, each a JSON
object between two marker lines, or the whole output as one object. A text is its code points.
-/

namespace CodeMigrator
open Lib

/-! ## Lines of code points -/

/-- The boundaries of `str.splitlines`. -/
def isBoundary (c : Nat) : Bool :=
  (0x0A ≤ c && c ≤ 0x0D) || (0x1C ≤ c && c ≤ 0x1E) || [0x85, 0x2028, 0x2029].contains c

/-- `c.isspace()`. -/
def isSpacePoint (c : Nat) : Bool :=
  c == 0x20 || (0x09 ≤ c && c ≤ 0x0D) || (0x1C ≤ c && c ≤ 0x1F) ||
    [0x85, 0xA0, 0x1680, 0x2028, 0x2029, 0x202F, 0x205F, 0x3000].contains c ||
    (0x2000 ≤ c && c ≤ 0x200A)

/-- `text.splitlines()`. -/
def pointLines (text : Points) : List Points := splitLines isBoundary 0x0D 0x0A text

/-- `text.strip()`. -/
def stripPoints (text : Points) : Points :=
  ((text.dropWhile isSpacePoint).reverse.dropWhile isSpacePoint).reverse

/-- `"\n".join(lines)`. -/
def joinPoints (lines : List Points) : Points := List.intercalate [0x0A] lines

/-! ## Objects -/

/-- An `ActionProtocolError`, or an exception of the decoder that nothing catches. -/
inductive ActionError where
  | empty
  | invalidJson (line : Nat)
  | duplicateKey (key : Points)
  | nonFinite (name : Points)
  | notObject
  | expectedMarker (line : Nat)
  | missingEnd (line : Nat)
  | noSegment
  | uncaught (error : DecodeError)
  deriving DecidableEq

/-- The fields of an object. -/
abbrev Fields (F : Type) := List (Points × Document F)

/-- `JSONDecodeError.lineno` of the place that has this number of code points after it. -/
def errorLine (payload : Points) (remaining : Nat) : Nat :=
  (payload.take (payload.length - remaining)).count 0x0A + 1

section Parser

variable {F : Type} (decoder : Decoder F)

/-- `_parse_object`. -/
def parseObject (payload : Points) (lineOffset : Nat) : Except ActionError (Fields F) :=
  match loads decoder payload with
  | .ok (.obj fields) => .ok fields
  | .ok _ => .error .notObject
  | .error (.mistake remaining) => .error (.invalidJson (lineOffset + errorLine payload remaining))
  | .error (.duplicateKey key) => .error (.duplicateKey key)
  | .error (.constant name) => .error (.nonFinite name)
  | .error error => .error (.uncaught error)

/-! ## Segments -/

/-- `[cm:action]`. -/
def startMarker : Points := points "[cm:action]"

/-- `[cm:/action]`. -/
def endMarker : Points := points "[cm:/action]"

/-- The loops over the lines. `body` is there inside of a segment: the number of the line with its
first marker, and the lines after it so far. -/
def parseSegments : Nat → Option (Nat × List Points) → List Points →
    Except ActionError (List (Fields F))
  | _, none, [] => .ok []
  | _, some (start, _), [] => .error (.missingEnd start)
  | index, none, line :: lines =>
    if stripPoints line = [] then parseSegments (index + 1) none lines
    else if stripPoints line ≠ startMarker then .error (.expectedMarker (index + 1))
    else parseSegments (index + 1) (some (index + 1, [])) lines
  | index, some (start, body), line :: lines =>
    if stripPoints line = endMarker then do
      let action ← parseObject decoder (joinPoints body) start
      let actions ← parseSegments (index + 1) none lines
      return action :: actions
    else parseSegments (index + 1) (some (start, body ++ [line])) lines

/-- A line is one of `marked_lines`. -/
def isMarkerLine (line : Points) : Bool :=
  stripPoints line == startMarker || stripPoints line == endMarker

/-- `parse_action_stream`. -/
def parseActionStream (text : Points) : Except ActionError (List (Fields F)) :=
  if stripPoints text = [] then .error .empty
  else if ¬ (pointLines text).any isMarkerLine then do
    let action ← parseObject decoder text 0
    return [action]
  else do
    let actions ← parseSegments decoder 0 none (pointLines text)
    if actions = [] then .error .noSegment
    return actions

end Parser

end CodeMigrator
