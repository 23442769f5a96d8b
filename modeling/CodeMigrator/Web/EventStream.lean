import CodeMigrator.Lib.Pairs
import CodeMigrator.Lib.Parts
import CodeMigrator.Lib.Utf8
import CodeMigrator.Web.SessionProjection
import Mathlib.Algebra.Order.BigOperators.Group.List

/-!
# Event streams in the browser

`parseEnvelopeSse` and `readEvents` of `web/src/shared/api/client.ts`, over the streams that the
event endpoints write (`api/sse.py`): blocks of lines, each ended by a carriage return and a
line feed, with an empty line after each block. The bytes come in chunks that end anywhere.
-/

namespace CodeMigrator
open Lib

/-! ## Values -/

namespace Js

/-- The double that is nearest to an integer, or the even one of two. -/
def toDouble (value : Int) : PyFloat :=
  let unit := 2 ^ (value.natAbs.log2 - 52)
  let steps := value.natAbs / unit
  let rest := value.natAbs % unit
  let rounded :=
    (if 2 * rest < unit ∨ (2 * rest = unit ∧ steps % 2 = 0) then steps else steps + 1) * unit
  if 2 ^ 1024 ≤ rounded then .infinite else .finite (value.sign * rounded : Int)

/-- A number, where `typeof value === "number"`. -/
def asNumber : PyValue → Option PyFloat
  | .int value => some (toDouble value)
  | .float value => some value
  | _ => none

/-- `Number.isInteger(value) && value >= 0`. -/
def asWhole : PyFloat → Option Nat
  | .finite value => if value.den = 1 ∧ 0 ≤ value.num then some value.num.toNat else none
  | .infinite | .nan => none

/-- `value.trim()`. -/
def trim (value : String) : String := String.ofList (stripList isTrimmed value.toList)

end Js

/-! ## The parser -/

/-- Functions of JavaScript: `JSON.parse`, `none` where it throws, and `String` of a whole
number. -/
structure JsFunctions where
  parseJson : String → Option PyValue
  numberText : Nat → String

/-- `ParsedEvent`. -/
structure ParsedEvent where
  schema : String
  type : String
  data : PyEntries
  sequence : Nat
  timestampUtc : String
  sseId : String
  deriving DecidableEq

/-- `line.startsWith(name)`. -/
def startsLine (name : String) (line : List Char) : Bool := name.toList.isPrefixOf line

/-- `line.slice(count).trim()`. -/
def lineValue (count : Nat) (line : List Char) : String :=
  Js.trim (String.ofList (line.drop count))

/-- The checks of `parseEnvelopeSse` on a record. -/
def recordEvent (js : JsFunctions) (schema : String) (id : Option String) (record : PyEntries) :
    Option ParsedEvent :=
  let field (name : String) : Option PyValue := PyValue.field? record name
  match field "type", ((field "sequence").bind Js.asNumber).bind Js.asWhole, field "data" with
  | some (.str type), some sequence, some (.dict data) =>
    if field "schema" = some (.str schema) ∧
        (field "version").bind Js.asNumber = some (.finite 1) ∧ 1 ≤ sequence ∧
        (id = none ∨ id = some (js.numberText sequence)) then
      some
        { schema := schema
          type := type
          data := data
          sequence := sequence
          timestampUtc :=
            match field "timestamp_utc" with
            | some (.str text) => text
            | _ => ""
          sseId := id.getD (js.numberText sequence) }
    else none
  | _, _, _ => none

/-- The event of an identifier and a text of data; arrays have none of the fields. -/
def dataEvent (js : JsFunctions) (schema : String) (id : Option String) (data : String) :
    Option ParsedEvent :=
  if data = "" then none
  else
    match js.parseJson data with
    | some (.dict record) => recordEvent js schema id record
    | _ => none

/-- `parseEnvelopeSse`. -/
def parseEnvelopeSse (js : JsFunctions) (schema : String) (chunk : List Char) :
    Option ParsedEvent :=
  let lines := splitList '\n' chunk
  dataEvent js schema ((lines.find? (startsLine "id:")).map (lineValue 3))
    ("\n".intercalate ((lines.filter (startsLine "data:")).map (lineValue 5)))

/-! ## The reader -/

/-- `TextDecoder`: a byte order mark before the first character is left out. -/
structure TextDecoder where
  utf8 : Utf8Decoder
  started : Bool

/-- `new TextDecoder()`. -/
def TextDecoder.new : TextDecoder := ⟨.start, false⟩

/-- The text without a byte order mark, unless one character was there before. -/
def withoutMark (started : Bool) (text : List Char) : Bool × List Char :=
  match started, text with
  | true, text => (true, text)
  | false, [] => (false, [])
  | false, c :: rest => (true, if c = Char.ofNat 0xFEFF then rest else c :: rest)

/-- `decode(value, { stream: true })`. -/
def TextDecoder.decode (decoder : TextDecoder) (value : List UInt8) : TextDecoder × List Char :=
  let decoded := decoder.utf8.decode value
  let text := withoutMark decoder.started decoded.2
  (⟨decoded.1, text.1⟩, text.2)

/-- `readEvents`, after some chunks. -/
def readFrom {α : Type} (parse : List Char → Option α) (decoder : TextDecoder)
    (buffer : List Char) : List (List UInt8) → List α
  | [] => (parse buffer).toList
  | value :: rest =>
    let decoded := decoder.decode value
    let chunks := splitPair '\n' (buffer ++ dropFirst '\r' '\n' decoded.2)
    chunks.dropLast.filterMap parse ++
      readFrom parse decoded.1 (chunks.getLast?.getD []) rest

/-- `readEvents`. -/
def readEvents {α : Type} (parse : List Char → Option α) (chunks : List (List UInt8)) : List α :=
  readFrom parse .new [] chunks

/-! ## Streams -/

/-- The fields of the lines that the server writes. -/
inductive SseField where
  | comment
  | id
  | event
  | data
  | retry
  deriving DecidableEq

def SseField.name : SseField → String
  | comment => ""
  | id => "id"
  | event => "event"
  | data => "data"
  | retry => "retry"

/-- A line, without its end. -/
structure SseLine where
  field : SseField
  value : List Char
  unbroken : ∀ c ∈ value, c ≠ '\r' ∧ c ≠ '\n'

def SseLine.text (line : SseLine) : List Char := line.field.name.toList ++ ':' :: ' ' :: line.value

/-- The lines of an event or of a comment. -/
structure SseBlock where
  lines : List SseLine
  nonempty : lines ≠ []

/-- The lines of a block with their ends. -/
def linesText (lines : List SseLine) : List Char :=
  lines.flatMap fun line => line.text ++ ['\r', '\n']

/-- A block with the empty line after it. -/
def SseBlock.written (block : SseBlock) : List Char := linesText block.lines ++ ['\r', '\n']

/-- A stream. -/
def streamText (blocks : List SseBlock) : List Char := blocks.flatMap SseBlock.written

/-- A block as `parseEnvelopeSse` is given it from a stream in one chunk. -/
def SseBlock.chunk (block : SseBlock) : List Char :=
  ['\n'].intercalate (block.lines.map SseLine.text)

/-- A chunk ends after the text. -/
def cutAfter (chunks : List (List UInt8)) (text : List Char) : Bool :=
  chunks.inits.any fun front => front.flatten == encodeText text

/-- The blocks that are not kept apart: where a chunk ends between the carriage return and the line
feed of the empty line after a block, the next one belongs to its group. The text before the
blocks and the group that has begun are given. -/
def groupsFrom (chunks : List (List UInt8)) (before : List Char) (group : List SseBlock) :
    List SseBlock → List (List SseBlock)
  | [] => [group]
  | block :: rest =>
    if cutAfter chunks (before ++ (linesText block.lines ++ ['\r'])) then
      groupsFrom chunks (before ++ block.written) (group ++ [block]) rest
    else (group ++ [block]) :: groupsFrom chunks (before ++ block.written) [] rest

/-- The groups of a stream. -/
def groups (chunks : List (List UInt8)) (blocks : List SseBlock) : List (List SseBlock) :=
  groupsFrom chunks [] [] blocks

/-! ## Fields -/

/-- What the parser reads from a line: a value of `id` or of `data`. -/
def readField (line : List Char) : Option (SseField × String) :=
  if startsLine "id:" line then some (.id, lineValue 3 line)
  else if startsLine "data:" line then some (.data, lineValue 5 line)
  else none

/-- The identifier among the fields: the first one. -/
def fieldId (fields : List (SseField × String)) : Option String :=
  (fields.find? (·.1 = .id)).map Prod.snd

/-- The data among the fields. -/
def fieldData (fields : List (SseField × String)) : String :=
  "\n".intercalate ((fields.filter (·.1 = .data)).map Prod.snd)

/-- The event of the fields. -/
def fieldsEvent (js : JsFunctions) (schema : String) (fields : List (SseField × String)) :
    Option ParsedEvent :=
  dataEvent js schema (fieldId fields) (fieldData fields)

/-- The fields of a block. -/
def SseBlock.fields (block : SseBlock) : List (SseField × String) :=
  block.lines.filterMap fun line => readField line.text

/-- Each block is silent, as a comment is, or gives an event. -/
def Served (js : JsFunctions) (schema : String) (blocks : List SseBlock) : Prop :=
  ∀ block ∈ blocks, block.fields = [] ∨ (parseEnvelopeSse js schema block.chunk).isSome = true

/-- The chunks give the events of the stream in one chunk: each block's, in order. -/
def Independent (js : JsFunctions) (schema : String) (chunks : List (List UInt8))
    (blocks : List SseBlock) : Prop :=
  readEvents (parseEnvelopeSse js schema) chunks =
      readEvents (parseEnvelopeSse js schema) [encodeText (streamText blocks)] ∧
    readEvents (parseEnvelopeSse js schema) chunks =
      blocks.filterMap fun block => parseEnvelopeSse js schema block.chunk

/-- No group has two blocks with an identifier or with data. -/
def KeptApart (chunks : List (List UInt8)) (blocks : List SseBlock) : Prop :=
  ∀ group ∈ groups chunks blocks, group.countP (fun block => !block.fields.isEmpty) ≤ 1

section Fields

variable {js : JsFunctions} {schema : String}

theorem startsLine_data {line : List Char} (isId : startsLine "id:" line = true) :
    startsLine "data:" line = false := by
  cases line with
  | nil => rfl
  | cons c line =>
    have first : c = 'i' := by
      simp [startsLine, List.isPrefixOf] at isId
      exact isId.1.symm
    subst first
    rfl

theorem fieldId_read (lines : List (List Char)) :
    fieldId (lines.filterMap readField) =
      (lines.find? (startsLine "id:")).map (lineValue 3) := by
  induction lines with
  | nil => rfl
  | cons line lines ih =>
    rw [List.filterMap_cons, List.find?_cons]
    cases isId : startsLine "id:" line with
    | true =>
      have here : readField line = some (.id, lineValue 3 line) := by simp [readField, isId]
      rw [here]
      rfl
    | false =>
      cases isData : startsLine "data:" line with
      | true =>
        have here : readField line = some (.data, lineValue 5 line) := by
          simp [readField, isId, isData]
        rw [here, ← ih]
        rfl
      | false =>
        have here : readField line = none := by simp [readField, isId, isData]
        rw [here]
        exact ih

theorem fieldData_read (lines : List (List Char)) :
    fieldData (lines.filterMap readField) =
      "\n".intercalate ((lines.filter (startsLine "data:")).map (lineValue 5)) := by
  have each : ((lines.filterMap readField).filter (·.1 = .data)).map Prod.snd =
      (lines.filter (startsLine "data:")).map (lineValue 5) := by
    induction lines with
    | nil => rfl
    | cons line lines ih =>
      rw [List.filterMap_cons, List.filter_cons]
      cases isId : startsLine "id:" line with
      | true =>
        have here : readField line = some (.id, lineValue 3 line) := by simp [readField, isId]
        rw [here, startsLine_data isId]
        exact ih
      | false =>
        cases isData : startsLine "data:" line with
        | true =>
          have here : readField line = some (.data, lineValue 5 line) := by
            simp [readField, isId, isData]
          rw [here]
          simpa using ih
        | false =>
          have here : readField line = none := by simp [readField, isId, isData]
          rw [here]
          exact ih
  rw [fieldData, each]

theorem parseEnvelopeSse_eq (chunk : List Char) :
    parseEnvelopeSse js schema chunk =
      fieldsEvent js schema ((splitList '\n' chunk).filterMap readField) := by
  rw [fieldsEvent, fieldId_read, fieldData_read]
  rfl

end Fields

theorem startsLine_return {name : String} (plain : '\r' ∉ name.toList) (line : List Char) :
    startsLine name (line ++ ['\r']) = startsLine name line := by
  rw [startsLine, startsLine, Bool.eq_iff_iff, List.isPrefixOf_iff_prefix,
    List.isPrefixOf_iff_prefix, List.prefix_concat_iff]
  constructor
  · rintro (whole | inside)
    · exact absurd (by rw [whole]; simp) plain
    · exact inside
  · exact .inr

theorem stripList_concat {dropped : Char → Bool} {c : Char} (drops : dropped c = true)
    (text : List Char) : stripList dropped (text ++ [c]) = stripList dropped text := by
  unfold stripList
  rw [List.dropWhile_append]
  split
  · next none =>
    rw [List.isEmpty_iff.mp none]
    simp [drops]
  · rw [List.reverse_append, List.reverse_singleton, List.singleton_append,
      List.dropWhile_cons_of_pos drops]

variable {line : List Char}

theorem lineValue_return {count : Nat} (inside : count ≤ line.length) :
    lineValue count (line ++ ['\r']) = lineValue count line := by
  rw [lineValue, lineValue, List.drop_append_of_le_length inside, Js.trim, Js.trim,
    String.toList_ofList, String.toList_ofList, stripList_concat (by decide)]

theorem startsLine_length {name : String} (starts : startsLine name line = true) :
    name.toList.length ≤ line.length :=
  (List.isPrefixOf_iff_prefix.mp starts).length_le

/-- A carriage return at the end of a line is trimmed away. -/
theorem readField_return (line : List Char) : readField (line ++ ['\r']) = readField line := by
  unfold readField
  rw [startsLine_return (by decide), startsLine_return (by decide)]
  split
  · next isId =>
    have inside : 3 ≤ line.length := startsLine_length isId
    rw [lineValue_return inside]
  · split
    · next isData =>
      have inside : 5 ≤ line.length := startsLine_length isData
      rw [lineValue_return inside]
    · rfl

/-! ## Reading line by line -/

/-- The fields in a part of the stream. -/
def partFields (part : List Char) : List (SseField × String) :=
  (splitList '\n' part).filterMap readField

/-- A part that has no unfinished line. -/
def Whole (part : List Char) : Prop := part = [] ∨ ∃ front, part = front ++ ['\n']

theorem partFields_nil : partFields [] = [] := rfl

theorem partFields_line (unbroken : '\n' ∉ line) : partFields line = (readField line).toList := by
  rw [partFields, splitList_of_not_mem unbroken, List.filterMap_cons]
  cases readField line <;> rfl

theorem partFields_feed (front rest : List Char) :
    partFields (front ++ '\n' :: rest) = partFields front ++ partFields rest := by
  rw [partFields, splitList_append_cons, List.filterMap_append]
  rfl

theorem partFields_append {part : List Char} (whole : Whole part) (rest : List Char) :
    partFields (part ++ rest) = partFields part ++ partFields rest := by
  rcases whole with rfl | ⟨front, rfl⟩
  · rfl
  · rw [List.append_assoc, List.singleton_append, partFields_feed, partFields_feed,
      partFields_nil, List.append_nil]

/-- The end of a line, with the carriage return where the end was cut. -/
def lineEnd (cut : Bool) : List Char := if cut then ['\r', '\n'] else ['\n']

theorem partFields_end (unbroken : '\n' ∉ line) (cut : Bool) :
    partFields (line ++ lineEnd cut) = (readField line).toList := by
  cases cut with
  | false =>
    rw [lineEnd, if_neg Bool.false_ne_true, partFields_feed, partFields_nil, List.append_nil,
      partFields_line unbroken]
  | true =>
    have split : line ++ lineEnd true = (line ++ ['\r']) ++ '\n' :: [] := by simp [lineEnd]
    rw [split, partFields_feed, partFields_nil, List.append_nil, partFields_line (by simp [unbroken]),
      readField_return]

theorem whole_end (part : List Char) (cut : Bool) : Whole (part ++ lineEnd cut) := by
  cases cut with
  | false => exact .inr ⟨part, rfl⟩
  | true => exact .inr ⟨part ++ ['\r'], by simp [lineEnd]⟩

/-- A line end that does not stand behind another one. -/
theorem splitPairFrom_end {part : List Char} (ended : part.getLast? ≠ some '\n') (cut : Bool)
    (rest : List Char) :
    splitPairFrom '\n' part (lineEnd cut ++ rest) = splitPairFrom '\n' (part ++ lineEnd cut) rest := by
  cases cut with
  | false =>
    rw [lineEnd, if_neg Bool.false_ne_true, List.singleton_append, splitPairFrom,
      if_neg fun both => ended both.2]
  | true => simp [lineEnd, splitPairFrom]

theorem unbroken_iff {text : List Char} :
    text.all (fun c => c ≠ '\r' ∧ c ≠ '\n') = true ↔ ∀ c ∈ text, c ≠ '\r' ∧ c ≠ '\n' := by
  rw [List.all_eq_true]
  exact forall₂_congr fun _ _ => decide_eq_true_iff

section Line

variable (line : SseLine)

theorem SseLine.text_ne_nil : line.text ≠ [] := by
  simp [SseLine.text]

theorem SseLine.text_unbroken {c : Char} (inside : c ∈ line.text) : c ≠ '\r' ∧ c ≠ '\n' := by
  rw [SseLine.text, List.mem_append, List.mem_cons, List.mem_cons] at inside
  rcases inside with name | rfl | rfl | value
  · have each : ∀ field : SseField, ∀ c ∈ field.name.toList, c ≠ '\r' ∧ c ≠ '\n' := by
      intro field
      cases field <;> exact unbroken_iff.mp rfl
    exact each line.field c name
  · decide
  · decide
  · exact line.unbroken c value

theorem SseLine.no_return : '\r' ∉ line.text := fun inside => (line.text_unbroken inside).1 rfl

theorem SseLine.no_feed : '\n' ∉ line.text := fun inside => (line.text_unbroken inside).2 rfl

theorem SseLine.last (part : List Char) : (part ++ line.text).getLast? ≠ some '\n' := by
  rw [List.getLast?_append_of_ne_nil _ line.text_ne_nil]
  exact fun same => line.no_feed (List.mem_of_getLast? same)

end Line

section Run

variable (cut : Nat → Bool) {part : List Char}

/-- One line of a block. -/
theorem splitPairFrom_line (line : SseLine) (part rest : List Char) (place : Nat) :
    splitPairFrom '\n' part (joinAt '\r' '\n' cut place (line.text ++ '\r' :: '\n' :: rest)) =
      splitPairFrom '\n' (part ++ (line.text ++ lineEnd (cut (place + line.text.length + 1))))
        (joinAt '\r' '\n' cut (place + line.text.length + 2) rest) := by
  rw [joinAt_line (by decide) cut line.no_return, List.append_assoc,
    splitPairFrom_plain line.no_feed]
  exact (splitPairFrom_end (line.last part) _ _).trans (by rw [List.append_assoc])

/-- The lines of a block: they go on in the part that has begun. -/
theorem splitPairFrom_lines (lines : List SseLine) (whole : Whole part) (rest : List Char)
    (place : Nat) :
    ∃ more, Whole more ∧ (part ≠ [] ∨ lines ≠ [] → more ≠ []) ∧
      partFields more = partFields part ++ lines.filterMap (fun line => readField line.text) ∧
      splitPairFrom '\n' part (joinAt '\r' '\n' cut place (linesText lines ++ rest)) =
        splitPairFrom '\n' more (joinAt '\r' '\n' cut (place + (linesText lines).length) rest) := by
  induction lines generalizing part place with
  | nil =>
    refine ⟨part, whole, ?_, by simp, rfl⟩
    rintro (some_ | some_)
    · exact some_
    · exact absurd rfl some_
  | cons line lines ih =>
    have step := splitPairFrom_line cut line part (linesText lines ++ rest) place
    have ends := whole_end (part ++ line.text) (cut (place + line.text.length + 1))
    rw [List.append_assoc] at ends
    obtain ⟨more, ended, some_, fields, same⟩ := ih ends (place + line.text.length + 2)
    refine ⟨more, ended, fun _ => some_ (.inl ?_), ?_, ?_⟩
    · have := line.text_ne_nil
      simp [this]
    · rw [fields, partFields_append whole, partFields_end line.no_feed, List.append_assoc,
        List.filterMap_cons]
      cases readField line.text <;> rfl
    · have text : linesText (line :: lines) ++ rest =
          line.text ++ '\r' :: '\n' :: (linesText lines ++ rest) := by
        simp [linesText]
      have length : (linesText (line :: lines)).length =
          line.text.length + 2 + (linesText lines).length := by
        simp [linesText]
        omega
      rw [text, step, same, length]
      congr 2
      omega

/-- A block whose empty line is not cut: its part ends. -/
theorem splitPairFrom_block (block : SseBlock) (whole : Whole part) (rest : List Char) (place : Nat)
    (kept : cut (place + (linesText block.lines).length + 1) = false) :
    ∃ ended, partFields ended = partFields part ++ block.fields ∧
      splitPairFrom '\n' part (joinAt '\r' '\n' cut place (block.written ++ rest)) =
        ended :: splitPairFrom '\n' []
          (joinAt '\r' '\n' cut (place + block.written.length) rest) := by
  obtain ⟨more, whole, some_, fields, same⟩ :=
    splitPairFrom_lines cut block.lines whole ('\r' :: '\n' :: rest) place
  obtain ⟨front, rfl⟩ := whole.resolve_left (some_ (.inr block.nonempty))
  have line := joinAt_line (by decide : '\n' ≠ '\r') cut (List.not_mem_nil : '\r' ∉ [])
    (place + (linesText block.lines).length) rest
  rw [List.length_nil, Nat.add_zero, kept, if_neg Bool.false_ne_true] at line
  refine ⟨front, ?_, ?_⟩
  · rw [partFields_feed, partFields_nil, List.append_nil] at fields
    exact fields
  · rw [SseBlock.written, List.append_assoc]
    refine same.trans ?_
    rw [← List.nil_append ('\r' :: '\n' :: rest), line, List.nil_append, List.singleton_append,
      splitPairFrom, if_pos ⟨rfl, by simp⟩, List.dropLast_concat, List.length_append]
    rfl

/-- A block whose empty line is cut: the next block goes on in its part. -/
theorem splitPairFrom_joined (block : SseBlock) (whole : Whole part) (rest : List Char)
    (place : Nat) (joined : cut (place + (linesText block.lines).length + 1) = true) :
    ∃ more, Whole more ∧ partFields more = partFields part ++ block.fields ∧
      splitPairFrom '\n' part (joinAt '\r' '\n' cut place (block.written ++ rest)) =
        splitPairFrom '\n' more (joinAt '\r' '\n' cut (place + block.written.length) rest) := by
  obtain ⟨more, whole, -, fields, same⟩ :=
    splitPairFrom_lines cut block.lines whole ('\r' :: '\n' :: rest) place
  have line := joinAt_line (by decide : '\n' ≠ '\r') cut (List.not_mem_nil : '\r' ∉ [])
    (place + (linesText block.lines).length) rest
  rw [List.length_nil, Nat.add_zero, joined, if_pos rfl] at line
  refine ⟨more ++ lineEnd true, whole_end _ _, ?_, ?_⟩
  · rw [partFields_append whole, ← List.nil_append (lineEnd true), partFields_end (by simp), fields]
    exact List.append_nil _
  · rw [SseBlock.written, List.append_assoc]
    refine same.trans ?_
    rw [← List.nil_append ('\r' :: '\n' :: rest), line, List.nil_append]
    simp [lineEnd, splitPairFrom]
    rfl

/-- The parts of a stream are its groups. -/
theorem partFields_groups {chunks : List (List UInt8)} (blocks : List SseBlock)
    {part before : List Char} {group : List SseBlock} (whole : Whole part)
    (begun : partFields part = group.flatMap SseBlock.fields)
    (same : ∀ block, ∀ front behind, blocks = front ++ block :: behind →
      cut ((before ++ streamText front).length + (linesText block.lines).length + 1) =
        cutAfter chunks (before ++ streamText front ++ (linesText block.lines ++ ['\r']))) :
    (splitPairFrom '\n' part
        (joinAt '\r' '\n' cut before.length (streamText blocks))).map partFields =
      (groupsFrom chunks before group blocks).map (·.flatMap SseBlock.fields) := by
  induction blocks generalizing part before group with
  | nil => simp [streamText, joinAt, splitPairFrom, groupsFrom, begun]
  | cons block blocks ih =>
    have here := same block [] blocks rfl
    rw [streamText, List.flatMap_nil, List.append_nil] at here
    have later : ∀ other, ∀ front behind, blocks = front ++ other :: behind →
        cut ((before ++ block.written ++ streamText front).length +
            (linesText other.lines).length + 1) =
          cutAfter chunks (before ++ block.written ++ streamText front ++
            (linesText other.lines ++ ['\r'])) := by
      intro other front behind split
      have := same other (block :: front) behind (by rw [split, List.cons_append])
      rw [streamText, List.flatMap_cons, ← List.append_assoc] at this
      exact this
    rw [streamText, List.flatMap_cons, groupsFrom, ← here]
    cases joined : cut (before.length + (linesText block.lines).length + 1) with
    | false =>
      obtain ⟨ended, fields, split⟩ :=
        splitPairFrom_block cut block whole (streamText blocks) before.length joined
      rw [if_neg Bool.false_ne_true]
      refine (congrArg (List.map partFields) split).trans ?_
      rw [List.map_cons, List.map_cons, fields, begun, ← List.length_append,
        ih (.inl rfl) List.flatMap_nil.symm later, List.flatMap_append, List.flatMap_singleton]
    | true =>
      obtain ⟨more, whole, fields, split⟩ :=
        splitPairFrom_joined cut block whole (streamText blocks) before.length joined
      rw [if_pos rfl]
      refine (congrArg (List.map partFields) split).trans ?_
      rw [← List.length_append]
      refine ih whole ?_ later
      rw [fields, begun, List.flatMap_append, List.flatMap_singleton]

end Run

/-! ## The reader is given the whole text -/

/-- Reading in pieces is splitting the whole, if the text does not begin with a mark. -/
theorem readFrom_eq {α : Type} (parse : List Char → Option α) (chunks : List (List UInt8))
    (decoder : Utf8Decoder) (started : Bool) {buffer : List Char}
    (open_ : splitPair '\n' buffer = [buffer])
    (unmarked : started = true ∨
      (decoder.pieces chunks).flatten.head? ≠ some (Char.ofNat 0xFEFF)) :
    readFrom parse ⟨decoder, started⟩ buffer chunks =
      (splitPairFrom '\n' buffer
        ((decoder.pieces chunks).flatMap (dropFirst '\r' '\n'))).filterMap parse := by
  induction chunks generalizing decoder started buffer with
  | nil =>
    rw [readFrom, Utf8Decoder.pieces, List.flatMap_nil, splitPairFrom, List.filterMap_cons]
    cases parse buffer <;> rfl
  | cons value chunks ih =>
    obtain ⟨now, same, next⟩ : ∃ now,
        withoutMark started (decoder.decode value).2 = (now, (decoder.decode value).2) ∧
        (now = true ∨ ((decoder.decode value).1.pieces chunks).flatten.head? ≠
          some (Char.ofNat 0xFEFF)) := by
      cases started with
      | true => exact ⟨true, rfl, .inl rfl⟩
      | false =>
        have first := unmarked.resolve_left Bool.false_ne_true
        rw [Utf8Decoder.pieces, List.flatten_cons] at first
        cases text : (decoder.decode value).2 with
        | nil =>
          rw [text, List.nil_append] at first
          exact ⟨false, rfl, .inr first⟩
        | cons c rest =>
          rw [text, List.cons_append, List.head?_cons, ne_eq, Option.some.injEq] at first
          exact ⟨true, by rw [withoutMark, if_neg first], .inl rfl⟩
    have decoded : TextDecoder.decode ⟨decoder, started⟩ value =
        (⟨(decoder.decode value).1, now⟩, (decoder.decode value).2) := by
      simp only [TextDecoder.decode, same]
    rw [readFrom, decoded, Utf8Decoder.pieces, List.flatMap_cons, splitPairFrom_append,
      List.filterMap_append, splitPair_append open_]
    exact congrArg _ (ih _ _ (splitPair_lastPart open_) next)

theorem streamText_head (blocks : List SseBlock) :
    (streamText blocks).head? ≠ some (Char.ofNat 0xFEFF) := by
  cases blocks with
  | nil => simp [streamText]
  | cons block blocks =>
    cases lines : block.lines with
    | nil => exact absurd lines block.nonempty
    | cons line lines' =>
      rw [streamText, List.flatMap_cons, SseBlock.written, lines, linesText, List.flatMap_cons,
        SseLine.text]
      cases line.field <;> simp [SseField.name]

section Stream

variable {js : JsFunctions} {schema : String} {blocks : List SseBlock}
  {chunks : List (List UInt8)}

/-- A piece ends after a text before a line feed where a chunk ends. -/
theorem cutIn_eq {before after : List Char}
    (bytes : chunks.flatten = encodeText (before ++ '\n' :: after)) :
    cutIn (Utf8Decoder.start.pieces chunks) before.length = cutAfter chunks before := by
  have decoded : (Utf8Decoder.start.pieces chunks).flatten = before ++ '\n' :: after := by
    rw [Utf8Decoder.pieces_flatten, bytes, Utf8Decoder.decode_text]
  have each : ∀ count,
      ((Utf8Decoder.start.pieces chunks).take count).flatten.length = before.length ↔
        (chunks.take count).flatten = encodeText before := by
    intro count
    have split : (chunks.take count).flatten ++ (chunks.drop count).flatten =
        encodeText (before ++ '\n' :: after) := by
      rw [← List.flatten_append, List.take_append_drop, bytes]
    rw [← Utf8Decoder.prefix_iff (by decide) split, ← Utf8Decoder.pieces_take]
    constructor
    · intro length
      have front : ((Utf8Decoder.start.pieces chunks).take count).flatten <+:
          before ++ '\n' :: after := by
        rw [← decoded]
        exact ⟨_, by rw [← List.flatten_append, List.take_append_drop]⟩
      exact (List.prefix_of_prefix_length_le front (List.prefix_append _ _) length.le).eq_of_length
        length
    · exact congrArg List.length
  rw [Bool.eq_iff_iff, cutIn_iff, cutAfter, List.any_eq_true]
  constructor
  · rintro ⟨count, length⟩
    exact ⟨chunks.take count, (List.mem_inits _ _).mpr (List.take_prefix _ _),
      beq_iff_eq.mpr ((each count).mp length)⟩
  · rintro ⟨front, inside, same⟩
    obtain ⟨rest, whole⟩ := (List.mem_inits _ _).mp inside
    refine ⟨front.length, (each _).mpr ?_⟩
    rw [← whole, List.take_left]
    exact beq_iff_eq.mp same

/-- The events are those of the groups. -/
theorem readEvents_groups (bytes : chunks.flatten = encodeText (streamText blocks)) :
    readEvents (parseEnvelopeSse js schema) chunks =
      (groups chunks blocks).filterMap
        (fun group => fieldsEvent js schema (group.flatMap SseBlock.fields)) := by
  have decoded : (Utf8Decoder.start.pieces chunks).flatten = streamText blocks := by
    rw [Utf8Decoder.pieces_flatten, bytes, Utf8Decoder.decode_text]
  have unmarked : (Utf8Decoder.start.pieces chunks).flatten.head? ≠ some (Char.ofNat 0xFEFF) := by
    rw [decoded]
    exact streamText_head blocks
  have joined := @flatMap_dropFirst _ _ '\r' '\n' (Utf8Decoder.start.pieces chunks)
    (cutIn (Utf8Decoder.start.pieces chunks)) 0 fun later _ => by
      rw [cutIn_iff]
      simp only [Nat.zero_add]
  have parts := @partFields_groups (cutIn (Utf8Decoder.start.pieces chunks)) chunks blocks [] [] []
    (.inl rfl) rfl
    fun block front behind split => by
      have text : streamText blocks = (streamText front ++ (linesText block.lines ++ ['\r'])) ++
          '\n' :: streamText behind := by
        rw [split, streamText, List.flatMap_append, List.flatMap_cons, SseBlock.written]
        simp [streamText]
      rw [text] at bytes
      rw [List.nil_append, ← cutIn_eq bytes]
      simp
      rfl
  rw [List.length_nil] at parts
  have parsed : parseEnvelopeSse js schema = fieldsEvent js schema ∘ partFields :=
    funext parseEnvelopeSse_eq
  rw [readEvents, TextDecoder.new, readFrom_eq _ _ _ _ rfl (.inr unmarked), joined, decoded, parsed,
    ← List.filterMap_map, parts, List.filterMap_map]
  rfl

/-- A block alone. -/
theorem parseEnvelopeSse_chunk (block : SseBlock) :
    parseEnvelopeSse js schema block.chunk = fieldsEvent js schema block.fields := by
  rw [parseEnvelopeSse_eq, SseBlock.chunk, splitList_eq_splitOn, List.splitOn_intercalate]
  · rw [List.filterMap_map]
    rfl
  · intro text inside
    obtain ⟨line, -, rfl⟩ := List.mem_map.mp inside
    exact line.no_feed
  · simpa using block.nonempty

theorem groupsFrom_flatten (before : List Char) (group : List SseBlock) (blocks : List SseBlock) :
    (groupsFrom chunks before group blocks).flatten = group ++ blocks := by
  induction blocks generalizing before group with
  | nil => simp [groupsFrom]
  | cons block blocks ih =>
    rw [groupsFrom]
    split
    · rw [ih, List.append_assoc]
      rfl
    · rw [List.flatten_cons, ih, List.nil_append, List.append_assoc]
      rfl

theorem groups_flatten (chunks : List (List UInt8)) (blocks : List SseBlock) :
    (groups chunks blocks).flatten = blocks := groupsFrom_flatten [] [] blocks

/-! ## Groups of one event -/

/-- The events of the blocks of a group, each read alone. -/
def groupEvents (js : JsFunctions) (schema : String) (group : List SseBlock) : List ParsedEvent :=
  group.filterMap fun block => parseEnvelopeSse js schema block.chunk

theorem groupEvents_cons (block : SseBlock) (group : List SseBlock) :
    groupEvents js schema (block :: group) =
      (fieldsEvent js schema block.fields).toList ++ groupEvents js schema group := by
  rw [groupEvents, List.filterMap_cons, parseEnvelopeSse_chunk]
  cases fieldsEvent js schema block.fields <;> rfl

/-- Blocks without fields are silent. -/
theorem groupEvents_silent {group : List SseBlock}
    (silent : group.countP (fun block => !block.fields.isEmpty) = 0) :
    group.flatMap SseBlock.fields = [] ∧ groupEvents js schema group = [] := by
  induction group with
  | nil => exact ⟨rfl, rfl⟩
  | cons block group ih =>
    rw [List.countP_cons, Nat.add_eq_zero_iff] at silent
    obtain ⟨fields, events⟩ := ih silent.1
    have none : block.fields = [] := by
      by_contra some_
      simp [some_] at silent
    rw [List.flatMap_cons, groupEvents_cons, none, fields, events]
    exact ⟨rfl, rfl⟩

/-- A group with one block that has fields reads as that block does alone. -/
theorem groupEvents_single {group : List SseBlock}
    (single : group.countP (fun block => !block.fields.isEmpty) ≤ 1) :
    (fieldsEvent js schema (group.flatMap SseBlock.fields)).toList = groupEvents js schema group := by
  induction group with
  | nil => rfl
  | cons block group ih =>
    rw [List.countP_cons] at single
    rw [List.flatMap_cons, groupEvents_cons]
    by_cases none : block.fields = []
    · rw [none, List.nil_append, ih (by omega)]
      rfl
    · rw [if_pos (by simpa using none)] at single
      obtain ⟨fields, events⟩ :=
        @groupEvents_silent js schema group (by omega)
      rw [fields, events, List.append_nil, List.append_nil]

/-- Where each block is silent or an event, the blocks with fields are the events. -/
theorem groupEvents_length {group : List SseBlock}
    (served : Served js schema group) :
    (groupEvents js schema group).length = group.countP (fun block => !block.fields.isEmpty) := by
  induction group with
  | nil => rfl
  | cons block group ih =>
    rw [groupEvents_cons, List.length_append, List.countP_cons,
      ih fun other inside => served other (List.mem_cons_of_mem _ inside), Nat.add_comm]
    congr 1
    rcases served block List.mem_cons_self with none | event
    · rw [none]
      rfl
    · rw [parseEnvelopeSse_chunk] at event
      have some_ : block.fields ≠ [] := by
        intro none
        rw [none] at event
        exact Bool.false_ne_true event
      rw [if_pos (by simpa using some_)]
      cases found : fieldsEvent js schema block.fields with
      | none =>
        rw [found] at event
        exact absurd event Bool.false_ne_true
      | some _ => rfl

theorem groupEvents_groups (chunks : List (List UInt8)) (blocks : List SseBlock) :
    (groups chunks blocks).flatMap (groupEvents js schema) = groupEvents js schema blocks := by
  have whole := congrArg (groupEvents js schema) (groups_flatten chunks blocks)
  rw [← whole, groupEvents, List.filterMap_flatten]
  rfl

theorem readEvents_flatMap (bytes : chunks.flatten = encodeText (streamText blocks)) :
    readEvents (parseEnvelopeSse js schema) chunks =
      (groups chunks blocks).flatMap
        fun group => (fieldsEvent js schema (group.flatMap SseBlock.fields)).toList := by
  rw [readEvents_groups bytes, List.filterMap_eq_flatMap_toList]

/-- Blocks that are kept apart are read each alone. -/
theorem readEvents_apart (bytes : chunks.flatten = encodeText (streamText blocks))
    (apart : KeptApart chunks blocks) :
    readEvents (parseEnvelopeSse js schema) chunks = groupEvents js schema blocks := by
  rw [readEvents_flatMap bytes, ← groupEvents_groups chunks blocks]
  exact List.flatMap_congr fun group inside => groupEvents_single (apart group inside)

/-- Lists that are not longer, but give one list together, are as long. -/
theorem length_eq_of_flatMap {β γ : Type} {left right : β → List γ} {items : List β}
    (shorter : ∀ item ∈ items, (left item).length ≤ (right item).length)
    (same : (items.flatMap left).length = (items.flatMap right).length) :
    ∀ item ∈ items, (left item).length = (right item).length := by
  induction items with
  | nil => exact fun _ inside => absurd inside List.not_mem_nil
  | cons item items ih =>
    have here := shorter item List.mem_cons_self
    have later : ∀ other ∈ items, (left other).length ≤ (right other).length :=
      fun other inside => shorter other (List.mem_cons_of_mem _ inside)
    have rest : (items.flatMap left).length ≤ (items.flatMap right).length := by
      rw [List.length_flatMap, List.length_flatMap]
      exact List.sum_le_sum later
    rw [List.flatMap_cons, List.flatMap_cons, List.length_append, List.length_append] at same
    intro other inside
    rcases List.mem_cons.mp inside with rfl | inside
    · omega
    · exact ih later (by omega) other inside

/-- Events that are read each alone were kept apart. -/
theorem apart_of_readEvents (bytes : chunks.flatten = encodeText (streamText blocks))
    (served : Served js schema blocks)
    (same : readEvents (parseEnvelopeSse js schema) chunks = groupEvents js schema blocks) :
    KeptApart chunks blocks := by
  rw [readEvents_flatMap bytes, ← groupEvents_groups chunks blocks] at same
  have events : ∀ group ∈ groups chunks blocks, (groupEvents js schema group).length =
      group.countP (fun block => !block.fields.isEmpty) := by
    intro group inside
    refine groupEvents_length fun block member => served block ?_
    rw [← groups_flatten chunks blocks]
    exact List.mem_flatten.mpr ⟨group, inside, member⟩
  have most : ∀ group : List SseBlock,
      (fieldsEvent js schema (group.flatMap SseBlock.fields)).toList.length ≤ 1 := by
    intro group
    cases fieldsEvent js schema (group.flatMap SseBlock.fields) <;> simp
  have shorter : ∀ group ∈ groups chunks blocks,
      (fieldsEvent js schema (group.flatMap SseBlock.fields)).toList.length ≤
        (groupEvents js schema group).length := by
    intro group inside
    by_cases silent : group.countP (fun block => !block.fields.isEmpty) = 0
    · rw [(@groupEvents_silent js schema _ silent).1]
      exact Nat.zero_le _
    · have := most group
      rw [events group inside]
      omega
  have length := length_eq_of_flatMap shorter (congrArg List.length same)
  intro group inside
  rw [← events group inside, ← length group inside]
  exact most group

/-- In one chunk every block has a group of its own. -/
theorem groupsFrom_whole {text before : List Char} (split : before ++ streamText blocks = text) :
    ∀ group ∈ groupsFrom [encodeText text] before [] blocks, group.length ≤ 1 := by
  induction blocks generalizing before with
  | nil =>
    intro group inside
    rw [List.mem_singleton.mp inside]
    exact Nat.zero_le _
  | cons block blocks ih =>
    rw [streamText, List.flatMap_cons, ← List.append_assoc] at split
    have uncut : ¬cutAfter [encodeText text] (before ++ (linesText block.lines ++ ['\r'])) = true := by
      intro cut
      obtain ⟨front, inside, same⟩ := List.any_eq_true.mp cut
      have decoded := congrArg (fun bytes => (Utf8Decoder.start.decode bytes).2)
        (beq_iff_eq.mp same)
      rw [Utf8Decoder.decode_text] at decoded
      rcases List.mem_cons.mp inside with rfl | inside
      · simp [Utf8Decoder.decode] at decoded
      · rw [List.mem_singleton.mp inside] at decoded
        simp only [List.flatten_cons, List.flatten_nil, List.append_nil,
          Utf8Decoder.decode_text] at decoded
        have length := congrArg List.length (split.trans decoded)
        simp [SseBlock.written] at length
    rw [groupsFrom, if_neg uncut]
    intro group inside
    rcases List.mem_cons.mp inside with rfl | inside
    · exact Nat.le_refl _
    · exact ih split group inside

theorem keptApart_whole (blocks : List SseBlock) :
    KeptApart [encodeText (streamText blocks)] blocks :=
  fun group inside =>
    List.countP_le_length.trans (@groupsFrom_whole blocks _ [] rfl group inside)

/-- Blocks that are kept apart are read whatever the chunks are; of blocks that the server writes
no others are. -/
theorem readEvents_independent (bytes : chunks.flatten = encodeText (streamText blocks)) :
    (KeptApart chunks blocks → Independent js schema chunks blocks) ∧
      (Served js schema blocks → Independent js schema chunks blocks → KeptApart chunks blocks) := by
  refine ⟨fun apart => ?_, fun served same => apart_of_readEvents bytes served same.2⟩
  have whole : [encodeText (streamText blocks)].flatten = encodeText (streamText blocks) := by simp
  have alone := @readEvents_apart js schema _ _ bytes apart
  exact ⟨alone.trans (readEvents_apart whole (keptApart_whole blocks)).symm, alone⟩

end Stream

/-! ## Two events -/

/-- The data of an event without data of its own. -/
def plainText (sequence : String) : String :=
  "\x7b\"schema\":\"migration.event\",\"version\":1,\"type\":\"run.created\",\"data\":\x7b\x7d,\"sequence\":" ++
    sequence ++ ",\"timestamp_utc\":\"2026-01-01T00:00:00Z\"\x7d"

/-- What `JSON.parse` makes of it. -/
def plainRecord (sequence : Nat) : PyValue :=
  .dict
    [(.str "schema", .str "migration.event"), (.str "version", .int 1),
      (.str "type", .str "run.created"), (.str "data", .dict []), (.str "sequence", .int sequence),
      (.str "timestamp_utc", .str "2026-01-01T00:00:00Z")]

/-- The functions as far as the two events need them. -/
def plainFunctions : JsFunctions where
  parseJson data :=
    if data = plainText "1" then some (plainRecord 1)
    else if data = plainText "2" then some (plainRecord 2)
    else none
  numberText sequence := if sequence = 1 then "1" else "2"

theorem first_unbroken : ∀ c ∈ (plainText "1").toList, c ≠ '\r' ∧ c ≠ '\n' :=
  unbroken_iff.mp (by decide +kernel)

theorem second_unbroken : ∀ c ∈ (plainText "2").toList, c ≠ '\r' ∧ c ≠ '\n' :=
  unbroken_iff.mp (by decide +kernel)

/-- The lines of an event of a Run. -/
def plainBlock (sequence : List Char) (named : ∀ c ∈ sequence, c ≠ '\r' ∧ c ≠ '\n')
    (data : List Char) (unbroken : ∀ c ∈ data, c ≠ '\r' ∧ c ≠ '\n') : SseBlock :=
  ⟨[⟨.id, sequence, named⟩, ⟨.event, "migration.event".toList, unbroken_iff.mp rfl⟩,
    ⟨.data, data, unbroken⟩], List.cons_ne_nil _ _⟩

def firstBlock : SseBlock := plainBlock ['1'] (unbroken_iff.mp rfl) (plainText "1").toList first_unbroken

def secondBlock : SseBlock := plainBlock ['2'] (unbroken_iff.mp rfl) (plainText "2").toList second_unbroken

/-- The stream cut after the carriage return of the first empty line. -/
def cutStream : List (List UInt8) :=
  [encodeText (linesText firstBlock.lines ++ ['\r']), encodeText ('\n' :: secondBlock.written)]

/-- The comment that keeps a connection open. -/
def heartbeat : SseBlock :=
  ⟨[⟨.comment, "heartbeat".toList, unbroken_iff.mp rfl⟩], List.cons_ne_nil _ _⟩

/-- The stream of a comment and an event, cut after the carriage return of the empty line. -/
def commentStream : List (List UInt8) :=
  [encodeText (linesText heartbeat.lines ++ ['\r']), encodeText ('\n' :: firstBlock.written)]

theorem plain_first :
    (parseEnvelopeSse plainFunctions "migration.event" firstBlock.chunk).isSome = true := by
  decide +kernel

theorem plain_second :
    (parseEnvelopeSse plainFunctions "migration.event" secondBlock.chunk).isSome = true := by
  decide +kernel

theorem readEvents_independent_comment :
    KeptApart commentStream [heartbeat, firstBlock] ∧
      Independent plainFunctions "migration.event" commentStream [heartbeat, firstBlock] := by
  have apart : KeptApart commentStream [heartbeat, firstBlock] := by
    unfold KeptApart
    decide +kernel
  have bytes : commentStream.flatten = encodeText (streamText [heartbeat, firstBlock]) := by
    simp [commentStream, streamText, SseBlock.written, encodeText]
  exact ⟨apart, (readEvents_independent bytes).1 apart⟩

theorem cut_empty_line_loses_events :
    cutStream.flatten = encodeText (streamText [firstBlock, secondBlock]) ∧
      Served plainFunctions "migration.event" [firstBlock, secondBlock] ∧
      readEvents (parseEnvelopeSse plainFunctions "migration.event") cutStream = [] ∧
      ¬Independent plainFunctions "migration.event" cutStream [firstBlock, secondBlock] := by
  have bytes : cutStream.flatten = encodeText (streamText [firstBlock, secondBlock]) := by
    simp [cutStream, streamText, SseBlock.written, encodeText]
  have none : readEvents (parseEnvelopeSse plainFunctions "migration.event") cutStream = [] := by
    rw [readEvents_groups bytes]
    decide +kernel
  refine ⟨bytes, ?_, none, fun same => ?_⟩
  · intro block inside
    rcases List.mem_pair.mp inside with rfl | rfl
    · exact .inr plain_first
    · exact .inr plain_second
  · have lost := none.symm.trans same.2
    obtain ⟨event, read⟩ := Option.isSome_iff_exists.mp plain_first
    rw [List.filterMap_cons, read] at lost
    exact List.cons_ne_nil _ _ lost.symm

end CodeMigrator
