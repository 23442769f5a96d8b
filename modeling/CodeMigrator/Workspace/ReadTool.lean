import CodeMigrator.Lib.Lines
import CodeMigrator.Workspace.EditTool

/-!
# Line numbers of `ReadFile` and `EditFile`

What `_format_read` of `workspace/gateway.py` makes of a text, and the lines that an `EditFile`
call reports of it. `ReadFile` numbers the lines of `splitlines` and `EditFile` counts line feeds.
-/

namespace CodeMigrator
open Lib

/-- `LineRange`. -/
structure LineRange where
  startLine : Nat
  endLine : Nat
  positive : 1 ≤ startLine
  ordered : startLine ≤ endLine

/-- `ReadFileOutput`. -/
structure ReadFileOutput where
  path : String
  body : String
  totalLines : Nat
  truncated : Bool

/-- `MAX_RESULT_BYTES`. -/
def maxResultBytes : Nat := 256 * 1024

namespace ToolGateway

/-- `f"{offset:>{width}}\t{line}"`. -/
def renderLine (width offset : Nat) (line : List Char) : List Char :=
  (toString offset).toList.leftpad width ' ' ++ '\t' :: line

/-- `len(rendered.encode("utf-8"))`. -/
def encodedLength (rendered : List Char) : Nat := (String.ofList rendered).utf8ByteSize

/-- The loop of `_format_read` over the selected lines. -/
def showLines (width offset size : Nat) (outputLines : List (List Char)) :
    List (List Char) → List (List Char) × Bool
  | [] => (outputLines, false)
  | line :: rest =>
    let rendered := renderLine width offset line
    let encodedSize := encodedLength rendered + if outputLines = [] then 0 else 1
    if maxResultBytes < size + encodedSize then (outputLines, true)
    else showLines width (offset + 1) (size + encodedSize) (outputLines ++ [rendered]) rest

/-- `_format_read`. -/
def formatRead (path text : String) (range : Option LineRange) : ReadFileOutput :=
  let lines := splitLines isLineBreak '\r' '\n' text.toList
  let start := (range.map LineRange.startLine).getD 1
  let stop := (range.map LineRange.endLine).getD lines.length
  let selected := (lines.take stop).drop (start - 1)
  let width := (toString (max (max stop lines.length) 1)).length
  let shown := showLines width start 0 [] selected
  { path := path, body := String.ofList (List.intercalate ['\n'] shown.1)
    totalLines := lines.length, truncated := shown.2 }

/-! ## The lines of a text -/

/-- The lines of a text with their boundaries. -/
def keptLines (text : List Char) : List (List Char) := keptLinesFrom isLineBreak '\r' '\n' [] text

/-- A line without its boundary. -/
def withoutBoundary (line : List Char) : List Char := line.takeWhile fun c => !isLineBreak c

/-- The lines of a text that exist and are requested, under their numbers. -/
def requestedLines (text : List Char) (range : Option LineRange) : List (List Char × Nat) :=
  ((keptLines text).zipIdx 1).filter fun line =>
    range.all fun range => range.startLine ≤ line.2 ∧ line.2 ≤ range.endLine

/-- The output shows the first ones of the requested lines under their numbers within the limit,
and says so where it leaves some out. -/
structure ShowsRun (text : List Char) (range : Option LineRange) (output : ReadFileOutput) : Prop where
  whole : (keptLines text).flatten = text
  run : ∃ width shown left, requestedLines text range = shown ++ left ∧
    output.body = String.ofList (List.intercalate ['\n']
      (shown.map fun line => renderLine width line.2 (withoutBoundary line.1))) ∧
    (output.truncated = true ↔ left ≠ [])
  bounded : output.body.utf8ByteSize ≤ maxResultBytes

theorem filter_zipIdx_range {α : Type} (lines : List α) (number : Nat) (range : LineRange) :
    (lines.zipIdx number).filter
        (fun line => decide (range.startLine ≤ line.2 ∧ line.2 ≤ range.endLine)) =
      ((lines.take (range.endLine + 1 - number)).drop (range.startLine - number)).zipIdx
        (max number range.startLine) := by
  induction lines generalizing number with
  | nil => simp
  | cons line rest ih =>
    rw [List.zipIdx_cons, List.filter_cons, ih (number + 1)]
    by_cases before : number < range.startLine
    · have ordered := range.ordered
      rw [if_neg (by simp; omega), show range.endLine + 1 - number = range.endLine + 1 - (number + 1) + 1 by omega,
        show range.startLine - number = range.startLine - (number + 1) + 1 by omega,
        List.take_succ_cons, List.drop_succ_cons]
      congr 1
      omega
    · by_cases inside : number ≤ range.endLine
      · rw [if_pos (by simp; omega), show range.endLine + 1 - number = range.endLine + 1 - (number + 1) + 1 by omega,
          List.take_succ_cons, show range.startLine - number = 0 by omega,
          show range.startLine - (number + 1) = 0 by omega, List.drop_zero, List.drop_zero,
          List.zipIdx_cons, show max number range.startLine = number by omega,
          show max (number + 1) range.startLine = number + 1 by omega]
      · rw [if_neg (by simp; omega), show range.endLine + 1 - number = 0 by omega,
          show range.endLine + 1 - (number + 1) = 0 by omega]
        simp

theorem splitLines_eq_keptLines (text : List Char) :
    splitLines isLineBreak '\r' '\n' text = (keptLines text).map withoutBoundary :=
  splitLines_eq_kept (by decide) (by decide) (by decide) text

theorem requestedLines_eq (text : List Char) (range : Option LineRange) :
    requestedLines text range =
      (((keptLines text).take ((range.map LineRange.endLine).getD (keptLines text).length)).drop
        ((range.map LineRange.startLine).getD 1 - 1)).zipIdx
          ((range.map LineRange.startLine).getD 1) := by
  cases range with
  | none => simp [requestedLines]
  | some range =>
    have numbered := filter_zipIdx_range (keptLines text) 1 range
    rw [Nat.add_sub_cancel, Nat.max_eq_right range.positive] at numbered
    exact numbered

theorem encodedLength_append (left right : List Char) :
    encodedLength (left ++ right) = encodedLength left + encodedLength right := by
  unfold encodedLength
  rw [String.ofList_append, String.utf8ByteSize_append]

theorem encodedLength_join (shown : List (List Char)) (line : List Char) :
    encodedLength (List.intercalate ['\n'] (shown ++ [line])) =
      encodedLength (List.intercalate ['\n'] shown) +
        (encodedLength line + if shown = [] then 0 else 1) := by
  induction shown with
  | nil => simp [encodedLength]
  | cons first rest ih =>
    cases rest with
    | nil =>
      rw [List.singleton_append, List.intercalate_cons_cons, List.intercalate_singleton,
        List.intercalate_singleton, encodedLength_append, encodedLength_append, if_neg (by simp)]
      have newline : encodedLength ['\n'] = 1 := rfl
      omega
    | cons second more =>
      rw [if_neg (by simp)] at ih ⊢
      rw [List.cons_append, List.intercalate_cons_of_ne_nil (by simp), encodedLength_append, ih,
        List.intercalate_cons_cons, encodedLength_append (first ++ ['\n'])]
      omega

theorem showLines_spec {width offset size : Nat} {outputLines lines : List (List Char)}
    (sized : size = encodedLength (List.intercalate ['\n'] outputLines))
    (within : size ≤ maxResultBytes) :
    (∃ shown left, lines.zipIdx offset = shown ++ left ∧
      (showLines width offset size outputLines lines).1 =
        outputLines ++ shown.map (fun line => renderLine width line.2 line.1) ∧
      ((showLines width offset size outputLines lines).2 = true ↔ left ≠ [])) ∧
    encodedLength (List.intercalate ['\n'] (showLines width offset size outputLines lines).1) ≤
      maxResultBytes := by
  fun_induction showLines width offset size outputLines lines with
  | case1 offset size outputLines => exact ⟨⟨[], [], rfl, by simp, by simp⟩, sized ▸ within⟩
  | case2 offset size outputLines line rest rendered encodedSize large =>
    exact ⟨⟨[], _, rfl, by simp, by simp⟩, sized ▸ within⟩
  | case3 offset size outputLines line rest rendered encodedSize fits ih =>
    have grown : size + encodedSize =
        encodedLength (List.intercalate ['\n'] (outputLines ++ [rendered])) := by
      rw [encodedLength_join, ← sized]
    obtain ⟨⟨shown, left, split, output, cut⟩, bounded⟩ := ih grown (Nat.le_of_not_lt fits)
    refine ⟨⟨(line, offset) :: shown, left, by simp [split], ?_, cut⟩, bounded⟩
    rw [output, List.append_assoc]
    rfl

theorem formatRead_showsRun (path text : String) (range : Option LineRange) :
    ShowsRun text.toList range (formatRead path text range) := by
  have requested := congrArg (List.map (Prod.map withoutBoundary id))
    (requestedLines_eq text.toList range)
  rw [← List.zipIdx_map, List.map_drop, List.map_take, ← splitLines_eq_keptLines,
    ← List.length_map (f := withoutBoundary), ← splitLines_eq_keptLines] at requested
  unfold formatRead
  dsimp only
  generalize (toString (max _ 1)).length = width
  generalize (range.map LineRange.startLine).getD 1 = start at requested ⊢
  generalize List.drop _ (List.take _ (splitLines isLineBreak '\r' '\n' text.toList)) = lines at requested ⊢
  obtain ⟨⟨shown, left, split, output, cut⟩, bounded⟩ :=
    @showLines_spec width start 0 [] lines rfl (Nat.zero_le _)
  refine ⟨keptLinesFrom_flatten _ _, ?_, bounded⟩
  rw [split] at requested
  obtain ⟨first, last, whole, rfl, rfl⟩ := List.map_eq_append_iff.mp requested
  refine ⟨width, first, last, whole, ?_, by simpa using cut⟩
  rw [output, List.nil_append, List.map_map]
  rfl

/-! ## Lines that `EditFile` reports -/

/-- The number of the line of a text that holds a position. -/
def lineOf (text : List Char) (position : Nat) : Nat := lineHolding (keptLines text) position

/-- Every boundary before the position is a line feed or a carriage return with one. -/
def NewlinesBefore (text : List Char) (position : Nat) : Prop :=
  FeedsBefore isLineBreak '\r' '\n' text position

theorem lineAt_eq_lineOf_iff {text : List Char} {position : Nat} (inside : position < text.length) :
    lineAt text position = lineOf text position ↔ NewlinesBefore text position := by
  have counted := (@lineHolding_kept Char _ isLineBreak '\r' '\n' (by decide) (by decide) text
    position inside []).2
  rw [List.length_nil, Nat.zero_add] at counted
  rw [eq_comm]
  exact counted

theorem lt_length_of_listed {old text : List Char} {position : Nat}
    (listed : position ∈ positionsFrom old 0 0 text) (some : old ≠ []) : position < text.length := by
  obtain ⟨offset, rfl, -, occurs⟩ := occursAt_of_listed listed
  by_contra outside
  unfold OccursAt at occurs
  rw [List.drop_eq_nil_of_le (by omega), List.prefix_nil] at occurs
  exact some occurs

/-- The call reports the line of a position: it replaces the occurrence there, or it has found
several ones, of which this is one. -/
inductive Reported (gateway : ToolGateway) (session : WriteSession) (call : EditFileCall)
    (cancelled : Bool) (fault : IoFault) : String → Nat → Prop where
  | replaced {data : ByteArray} {text : String} {position : Nat}
      (reaches : Reaches gateway session call cancelled fault data text position)
      (returns : fault ≠ .write ∧ fault ≠ .sync ∧ gateway.sinkFailure fault = none) :
      Reported gateway session call cancelled fault text position
  | ambiguous {data : ByteArray} {text : String} {position : Nat}
      (searches : Searches gateway session call cancelled fault data text)
      (unselected : call.occur = none)
      (several : 1 < (positionsFrom call.oldText.toList 0 0 text.toList).length)
      (listed : position ∈ positionsFrom call.oldText.toList 0 0 text.toList) :
      Reported gateway session call cancelled fault text position

/-- What is promised of line numbers: a call of `EditFile` reports the numbers of the lines of the
file's text that hold the occurrences, and under these `ReadFile` shows the lines of any text. -/
structure LinesAgree (gateway : ToolGateway) (session : WriteSession) (call : EditFileCall)
    (cancelled : Bool) (fault : IoFault) : Prop where
  replaced : ∀ path line bytesBefore bytesAfter,
    (gateway.dispatch session (.edit call) cancelled fault).2 = .edited path line bytesBefore bytesAfter →
      ∃ text position, textAt session call.path = some text ∧
        (positionsFrom call.oldText.toList 0 0 text.toList)[(call.occur.map (· - 1)).getD 0]? =
          some position ∧
        line = lineOf text.toList position
  ambiguous : ∀ error, (gateway.dispatch session (.edit call) cancelled fault).2 = .error error →
    error.code = .editAmbiguous → ∃ text, textAt session call.path = some text ∧
      error.facts = (positionsFrom call.oldText.toList 0 0 text.toList).map
        fun position => [("line", .int (lineOf text.toList position))]
  reads : ∀ path text range, ShowsRun text.toList range (formatRead path text range)

section Calls

variable {gateway : ToolGateway} {session : WriteSession} {call : EditFileCall} {cancelled : Bool}
  {fault : IoFault} {data : ByteArray}

/-- The result is an error with another code than that of several occurrences. -/
def OtherResult (result : ToolResult) : Prop :=
  ∀ error, result = .error error → error.code ≠ .editAmbiguous

theorem OtherResult.of_error {result : ToolResult}
    (failed : ∃ error, result = .error error ∧ error.code ≠ .editAmbiguous) : OtherResult result := by
  obtain ⟨_, rfl, other⟩ := failed
  intro error same
  cases same
  exact other

theorem store_other {path : String} {result : ToolResult} (other : OtherResult result) :
    OtherResult (gateway.store session .editFile path data .overwritten fault result).2 := by
  unfold store
  split
  · exact .of_error (uncaught_error _)
  · cases gateway.sinkFailure fault with
    | none => exact other
    | some exception =>
      intro error same code
      cases same
      cases code

theorem searches_of_ambiguous {error : ToolError}
    (done : (gateway.dispatch session (.edit call) cancelled fault).2 = .error error)
    (code : error.code = .editAmbiguous) :
    ∃ data text, Searches gateway session call cancelled fault data text ∧
      selectOccurrence call text.toList = .error (.error error) := by
  unfold dispatch at done
  split at done
  · cases done
    cases code
  next live =>
  split at done
  · cases done
    cases code
  next allowed =>
  dsimp only at done
  unfold edit at done
  split at done
  · cases done
    cases code
  next owner =>
  split at done
  · exact absurd code (OtherResult.of_error (uncaught_error .osError) error done)
  next accessed =>
  cases target : editTarget session call.path with
  | error result =>
    rw [target] at done
    exact absurd code (OtherResult.of_error (editTarget_error target) error done)
  | ok data =>
    rw [target] at done
    dsimp only at done
    split at done
    · cases done
      cases code
    next admitted =>
    cases decoded : String.fromUTF8? data with
    | none =>
      rw [decoded] at done
      cases done
      cases code
    | some text =>
      rw [decoded] at done
      dsimp only at done
      cases selected : selectOccurrence call text.toList with
      | error result =>
        rw [selected] at done
        dsimp only at done
        refine ⟨data, text, ⟨by simpa using live, ?_, owner, accessed, target,
          by simpa using admitted, decoded⟩, done ▸ selected⟩
        simpa [WriteCall.tool, WriteTool.name] using allowed
      | ok position =>
        rw [selected] at done
        dsimp only at done
        split at done
        · cases done
          cases code
        · exact absurd code (store_other (by rintro _ ⟨⟩) error done)

theorem selectOccurrence_ambiguous {text : List Char} {error : ToolError}
    (failed : selectOccurrence call text = .error (.error error)) (code : error.code = .editAmbiguous) :
    call.occur = none ∧ 1 < (positionsFrom call.oldText.toList 0 0 text).length ∧
      error.facts = (positionsFrom call.oldText.toList 0 0 text).map
        fun position => [("line", .int (lineAt text position))] := by
  unfold selectOccurrence at failed
  dsimp only at failed
  split at failed
  · cases failed
    cases code
  split at failed
  · next several =>
    cases failed
    exact ⟨Option.isNone_iff_eq_none.mp several.1, several.2, rfl⟩
  split at failed
  · cases failed
    cases code
  · cases failed

theorem Searches.several {text : String}
    (searches : Searches gateway session call cancelled fault data text)
    (unselected : call.occur = none)
    (several : 1 < (positionsFrom call.oldText.toList 0 0 text.toList).length) :
    gateway.dispatch session (.edit call) cancelled fault =
      (session, toolError .editAmbiguous "edit target matched more than once"
        ((positionsFrom call.oldText.toList 0 0 text.toList).map
          fun position => [("line", .int (lineAt text.toList position))])) := by
  have allowed : gateway.isAllowed (WriteCall.edit call).tool.name = true := searches.allowed
  have found : positionsFrom call.oldText.toList 0 0 text.toList ≠ [] := by
    intro none
    rw [none] at several
    cases several
  have live : ¬ cancelled = true := by simp [searches.live]
  unfold dispatch
  rw [if_neg live, if_neg (by simp [allowed])]
  dsimp only
  unfold edit
  rw [if_neg searches.owner, if_neg searches.accessed, searches.target]
  dsimp only
  rw [if_neg (by simp [searches.admitted]), searches.decoded]
  dsimp only
  rw [selectOccurrence, if_neg found, if_pos ⟨by simp [unselected], several⟩]

/-- Line numbers agree exactly where every boundary before a reported occurrence is a line feed or
a carriage return with one. -/
theorem lines_agree_iff (gateway : ToolGateway) (session : WriteSession) (call : EditFileCall)
    (cancelled : Bool) (fault : IoFault) :
    LinesAgree gateway session call cancelled fault ↔
      ∀ text position, Reported gateway session call cancelled fault text position →
        NewlinesBefore text.toList position := by
  constructor
  · intro agree text position reported
    cases reported with
    | @replaced data _ _ reaches returns =>
      rcases dispatch_edit_cases gateway session call cancelled fault with
        ⟨_, _, stops⟩ | ⟨_, _, _, again, done⟩
      · exact absurd reaches (stops _ _ _)
      obtain ⟨rfl, rfl⟩ := reaches.same again
      obtain ⟨_, other, found, selected, same⟩ := 
        agree.replaced _ _ _ _ ((congrArg Prod.snd done).trans (again.returned returns _))
      obtain rfl := Option.some.inj (found.symm.trans again.text)
      have listed := (selectOccurrence_spec again.selected).1
      obtain rfl := Option.some.inj (selected.symm.trans listed)
      exact (lineAt_eq_lineOf_iff
        (lt_length_of_listed (List.mem_of_getElem? listed) (oldText_ne_nil call))).mp same
    | @ambiguous data _ _ searches unselected several listed =>
      have done := searches.several unselected several
      obtain ⟨_, found, facts⟩ := agree.ambiguous _ (congrArg Prod.snd done) rfl
      obtain rfl := Option.some.inj (found.symm.trans searches.text)
      have same := List.map_inj_left.mp facts position listed
      exact (lineAt_eq_lineOf_iff (lt_length_of_listed listed (oldText_ne_nil call))).mp
        (by simpa using same)
  · intro newlines
    constructor
    · intro path line bytesBefore bytesAfter done
      rcases dispatch_edit_cases gateway session call cancelled fault with
        ⟨_, failed, _⟩ | ⟨data, text, position, reaches, written⟩
      · rw [failed] at done
        cases done
      rw [written, reaches.stored] at done
      cases fault with
      | access => exact absurd rfl reaches.accessed
      | write | sync => cases done
      | none | sink exception =>
        dsimp only at done
        generalize sunk : gateway.sinkFailure _ = failure at done
        cases failure with
        | some raised => cases done
        | none =>
        cases done
        have listed := (selectOccurrence_spec reaches.selected).1
        refine ⟨text, position, reaches.text, listed, ?_⟩
        exact (lineAt_eq_lineOf_iff (lt_length_of_listed (List.mem_of_getElem? listed)
          (oldText_ne_nil call))).mpr (newlines text position (.replaced reaches ⟨nofun, nofun, sunk⟩))
    · intro error done code
      obtain ⟨data, text, searches, failed⟩ := searches_of_ambiguous done code
      obtain ⟨unselected, several, facts⟩ := selectOccurrence_ambiguous failed code
      refine ⟨text, searches.text, facts.trans (List.map_congr_left ?_)⟩
      intro position listed
      rw [(lineAt_eq_lineOf_iff (lt_length_of_listed listed (oldText_ne_nil call))).mpr
        (newlines text position (.ambiguous searches unselected several listed))]
    · exact formatRead_showsRun

end Calls

/-! ## A form feed -/

namespace SampleLines

def session : WriteSession := ⟨⟨⟨[("m", "a\x0cb".toUTF8)], by simp⟩, ∅⟩, 0, []⟩

def call : EditFileCall where
  path := "m"
  oldText := "b"
  newText := "c"
  occur := none
  notEmpty := by decide
  withinLimit := by decide
  positive := SampleEdit.call.positive

theorem call_reaches :
    Reaches SampleEdit.gateway session call false .none "a\x0cb".toUTF8 "a\x0cb" 2 where
  live := rfl
  allowed := by decide
  owner := by decide
  accessed := by decide
  target := rfl
  admitted := by decide
  decoded := fromUTF8?_eq_some_iff.mpr rfl
  selected := rfl
  quota := by decide

/-- The text behind a form feed is in the second line of `ReadFile` and reported in the first. -/
theorem formFeed_lines_differ : ¬ ∀ (gateway : ToolGateway) (session : WriteSession)
    (call : EditFileCall) (cancelled : Bool) (fault : IoFault),
    LinesAgree gateway session call cancelled fault := by
  intro all
  rcases dispatch_edit_cases SampleEdit.gateway session call false .none with
    ⟨_, _, stops⟩ | ⟨_, _, _, reaches, done⟩
  · exact absurd call_reaches (stops _ _ _)
  obtain ⟨rfl, rfl⟩ := call_reaches.same reaches
  rw [reaches.stored] at done
  obtain ⟨text, position, found, selected, same⟩ :=
    (all SampleEdit.gateway session call false .none).replaced _ _ _ _ (congrArg Prod.snd done)
  obtain rfl := Option.some.inj (found.symm.trans call_reaches.text)
  obtain rfl := Option.some.inj
    (selected.symm.trans (selectOccurrence_spec call_reaches.selected).1)
  exact absurd same (by decide)

end SampleLines

end ToolGateway

end CodeMigrator
