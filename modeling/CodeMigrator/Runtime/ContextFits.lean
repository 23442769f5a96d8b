import CodeMigrator.Runtime.ContextBlocks
import Mathlib.Data.List.DropRight

/-!
# When a tool result fits the context

For which results the governed functions of `runtime/memory.py` return a block within the limit
that says so where it leaves something out.
-/

namespace CodeMigrator
open Lib

/-- The arguments of one of the four functions. -/
inductive ToolOutput (α : Type) where
  | readFile (body path : Points) (totalLines startLine : Nat) (truncated : Bool)
  | shell (stdout stderr : Points) (exitCode : Int) (cas : CasArgument)
  | exec (summary : Points) (stepCount : Nat) (errorMessage : Option Points) (cas : CasArgument)
  | astMatches (values : List α)

namespace ToolOutput

variable {α : Type} (dumps : α → Option Points)

/-- The governed function of an output. -/
def govern : ToolOutput α → Except ContextError (ContextDataBlock α)
  | readFile body path totalLines startLine truncated =>
    governReadFile body path totalLines startLine truncated
  | shell stdout stderr exitCode cas => governShellOutput stdout stderr exitCode cas
  | exec summary stepCount errorMessage cas => governExecResult summary stepCount errorMessage cas
  | astMatches values => governAstMatches dumps values

/-- The arguments pass the checks; an oversized output comes with an owned reference. -/
def Accepted : ToolOutput α → Prop
  | readFile _ path _ startLine _ => path ≠ [] ∧ startLine ≠ 0
  | shell stdout stderr exitCode cas => ∃ reference, cas.owned = .ok reference ∧
      (maxContextBlockBytes < byteLength (combinedText (points (toString exitCode)) stdout stderr) →
        reference ≠ none)
  | exec summary _ errorMessage cas => ∃ reference, cas.owned = .ok reference ∧
      (oversizedExec summary errorMessage = true → reference ≠ none)
  | astMatches _ => True

/-- The text has both outputs of a command behind their markers. -/
def ShellContained (exitText stdout stderr text : Points) : Prop :=
  points "[exit_code=" ++ exitText ++ points "]\n[stdout]\n" ++ stdout <+: text ∧
    stderr <+: text.drop (shellText exitText stdout []).length

/-- The text of a block contains all of the output. -/
def Contained : ToolOutput α → Points → Prop
  | readFile body _ _ _ _, text => body <:+: text
  | shell stdout stderr exitCode _, text =>
    ShellContained (points (toString exitCode)) stdout stderr text
  | exec summary stepCount errorMessage _, text =>
    text = execText (errorGiven errorMessage) (points (toString stepCount)) summary false
  | astMatches values, text =>
    ∃ texts, values.mapM (dumpMatch dumps) = .ok texts ∧
      text = matchesText texts false

/-- The function returns a block within the limit, and one that is not truncated contains all of
the output. -/
def FitsContext (output : ToolOutput α) : Prop :=
  ∃ block, output.govern dumps = .ok block ∧ byteLength block.text ≤ maxContextBlockBytes ∧
    (block.truncated = false → output.Contained dumps block.text)

/-- The bytes that the JSON text of an execution result has besides the characters of its texts:
those of the punctuation and the keys, of the step count and of `true` or `false`. -/
def execFrame (error : Option Points) (stepCount : Nat) (truncated : Bool) : Nat :=
  (if error.isSome then 71 else 56) + byteLength (points (toString stepCount)) +
    if truncated then 4 else 5

/-- The texts have no lone surrogates and the integers have decimal texts. The error output of a
command that is not oversized does not end with white space; the escaped texts of an execution
result leave room for its frame, and its error message has at most 4096 bytes if it is not
oversized; and the shown matches have JSON texts. -/
def Governable : ToolOutput α → Prop
  | readFile body path totalLines startLine _ =>
    Utf8Encodable body ∧ Utf8Encodable path ∧ Printable startLine ∧ Printable totalLines
  | shell stdout stderr exitCode _ =>
    Utf8Encodable stdout ∧ Utf8Encodable stderr ∧ Printable exitCode ∧
      (byteLength (combinedText (points (toString exitCode)) stdout stderr) ≤ maxContextBlockBytes →
        ∀ c ∈ stderr.getLast?, isSpacePoint c = false)
  | exec summary stepCount errorMessage _ =>
    let error := errorGiven errorMessage
    Utf8Encodable summary ∧ Utf8Encodable (errorMessage.getD []) ∧ Printable stepCount ∧
      execFrame error stepCount (oversizedExec summary errorMessage) +
        escapedLength (summaryText summary) +
        escapedLength ((error.map (takeBytes 4096)).getD []) ≤ maxContextBlockBytes ∧
      (oversizedExec summary errorMessage = false → byteLength (errorMessage.getD []) ≤ 4096)
  | astMatches values =>
    ∀ value ∈ values.take maxAstMatches, ∃ text, dumps value = some text ∧ Utf8Encodable text

/-! ## Steps of the functions -/

section Steps

variable {ε β γ : Type}

theorem ok_bind (value : β) (next : β → Except ε γ) : (Except.ok value >>= next) = next value := rfl

theorem check_ok {block result : ContextDataBlock α} :
    block.check = .ok result ↔
      result = block ∧ Utf8Encodable block.text ∧ byteLength block.text ≤ maxContextBlockBytes := by
  unfold ContextDataBlock.check
  split_ifs with encodable within
  · simp [encodable, within, eq_comm]
  · simp [within]
  · simp [encodable]

theorem encodedBytes_ok {text : Points} {size : Nat} :
    encodedBytes text = .ok size ↔ Utf8Encodable text ∧ byteLength text = size := by
  unfold encodedBytes
  split_ifs with encodable <;> simp [encodable]

theorem bytePrefix_ok {value result : Points} {limit : Nat} :
    bytePrefix value limit = .ok result ↔ Utf8Encodable value ∧ takeBytes limit value = result := by
  unfold bytePrefix
  split_ifs with encodable <;> simp [encodable]

theorem decimalText_ok {value : Int} {text : Points} :
    decimalText value = .ok text ↔ Printable value ∧ points (toString value) = text := by
  unfold decimalText
  split_ifs with printable <;> simp [printable]

end Steps

/-! ## Read files -/

theorem byteLength_natural_le {value : Nat} (printable : Printable value) :
    byteLength (points (toString (value : Int))) ≤ 4 * 4300 := by
  have long := byteLength_le (points (toString (value : Int)))
  have digits : (toString value).length ≤ 4300 := printable
  have same : (points (toString (value : Int))).length = (toString value).length := by
    rw [points, List.length_map, String.length_toList]
    rfl
  omega

theorem rangeMarker_fits {path : Points} {totalLines startLine : Nat} (encodable : Utf8Encodable path)
    (first : Printable startLine) (last : Printable totalLines) :
    Utf8Encodable (points "\n[truncated=true; range=" ++ (takeBytes 4096 path ++ points ":" ++
      points (toString (startLine : Int)) ++ points "-" ++ points (toString (totalLines : Int))) ++
        points "; reread_next_range=true]") ∧
    byteLength (points "\n[truncated=true; range=" ++ (takeBytes 4096 path ++ points ":" ++
      points (toString (startLine : Int)) ++ points "-" ++ points (toString (totalLines : Int))) ++
        points "; reread_next_range=true]") ≤ maxContextBlockBytes := by
  constructor
  · simp [encodable_points, encodable.takeBytes]
  · have opening : byteLength (points "\n[truncated=true; range=") = 24 := by decide
    have closing : byteLength (points "; reread_next_range=true]") = 25 := by decide
    have colon : byteLength (points ":") = 1 := by decide
    have hyphen : byteLength (points "-") = 1 := by decide
    have pathBytes := byteLength_takeBytes_le 4096 path
    have firstBytes := byteLength_natural_le first
    have lastBytes := byteLength_natural_le last
    simp only [byteLength_append, maxContextBlockBytes]
    omega

theorem readFileText_fits {body marker : Points} (encodable : Utf8Encodable body)
    (markerEncodable : Utf8Encodable marker) (short : byteLength marker ≤ maxContextBlockBytes)
    (truncated : Bool) (uncut : truncated = false → byteLength body ≤ maxContextBlockBytes) :
    ∃ text, readFileText body marker truncated = .ok text ∧ Utf8Encodable text ∧
      byteLength text ≤ maxContextBlockBytes ∧ (truncated = false → text = body) := by
  cases truncated with
  | false => exact ⟨body, rfl, encodable, uncut rfl, fun _ => rfl⟩
  | true =>
    have kept := byteLength_takeBytes_le (maxContextBlockBytes - byteLength marker) body
    refine ⟨takeBytes (maxContextBlockBytes - byteLength marker) body ++ marker, ?_, ?_, ?_, nofun⟩
    · rw [readFileText, if_pos rfl, encodedBytes_ok.mpr ⟨markerEncodable, rfl⟩, ok_bind,
        bytePrefix_ok.mpr ⟨encodable, rfl⟩, ok_bind]
    · exact encodable_append.mpr ⟨encodable.takeBytes _, markerEncodable⟩
    · rw [byteLength_append]
      omega

variable {truncated : Bool} {exitCode : Int} {stdout stderr combined exitText summary : Points}
  {reference : Option String} {cas : CasArgument} {errorMessage : Option Points} {stepCount : Nat}
  {values : List α}

theorem readFile_fits_iff {body path : Points} {totalLines startLine : Nat}
    (accepted : (readFile body path totalLines startLine truncated : ToolOutput α).Accepted) :
    (readFile body path totalLines startLine truncated : ToolOutput α).FitsContext dumps ↔
      (readFile body path totalLines startLine truncated : ToolOutput α).Governable dumps := by
  have passed : ¬ (path = [] ∨ startLine = 0) := by
    rintro (empty | zero)
    · exact accepted.1 empty
    · exact accepted.2 zero
  constructor
  · rintro ⟨block, done, -, -⟩
    rw [govern, governReadFile, if_neg passed] at done
    obtain ⟨_, bodyDone, done⟩ := except_bind_eq_ok done
    obtain ⟨_, pathDone, done⟩ := except_bind_eq_ok done
    obtain ⟨_, firstDone, done⟩ := except_bind_eq_ok done
    obtain ⟨_, lastDone, done⟩ := except_bind_eq_ok done
    exact ⟨(encodedBytes_ok.mp bodyDone).1, (bytePrefix_ok.mp pathDone).1,
      (decimalText_ok.mp firstDone).1, (decimalText_ok.mp lastDone).1⟩
  · rintro ⟨encodable, pathEncodable, first, last⟩
    have marked := rangeMarker_fits pathEncodable first last
    obtain ⟨text, done, textEncodable, within, whole⟩ := readFileText_fits encodable marked.1 marked.2
      (truncated || decide (maxContextBlockBytes < byteLength body)) (by simp)
    refine ⟨⟨.sourceFile, text, byteLength body,
      truncated || decide (maxContextBlockBytes < byteLength body), none,
      some (takeBytes 4096 path ++ points ":" ++ points (toString (startLine : Int)) ++ points "-" ++
        points (toString (totalLines : Int))), []⟩, ?_, within, fun uncut => ?_⟩
    · rw [govern, governReadFile, if_neg passed, encodedBytes_ok.mpr ⟨encodable, rfl⟩, ok_bind,
        bytePrefix_ok.mpr ⟨pathEncodable, rfl⟩, ok_bind, decimalText_ok.mpr ⟨first, rfl⟩, ok_bind,
        decimalText_ok.mpr ⟨last, rfl⟩, ok_bind]
      dsimp only
      rw [done, ok_bind]
      exact check_ok.mpr ⟨rfl, textEncodable, within⟩
    · show body <:+: text
      rw [whole uncut]

/-! ## Output of commands -/

theorem encodable_of_space {text : Points} (blank : ∀ c ∈ text, isSpacePoint c = true) :
    Utf8Encodable text := by
  intro c member surrogate
  have space := blank c member
  simp [isSpacePoint] at space
  omega

theorem stripPoints_shellText (exitText stdout stderr : Points) :
    stripPoints (shellText exitText stdout stderr) =
      points "[exit_code=" ++ exitText ++ points "]\n[stdout]\n" ++ stdout ++ points "\n[stderr]" ++
        (0x0A :: stderr).rdropWhile isSpacePoint := by
  have opening : points "[exit_code=" = 0x5B :: points "exit_code=" := by decide
  have middle : points "\n[stderr]\n" = points "\n[stderr" ++ [0x5D] ++ [0x0A] := by decide
  have closing : points "\n[stderr]" = points "\n[stderr" ++ [0x5D] := by decide
  have bracket : isSpacePoint 0x5D = false := by decide
  have kept : ∀ text rest : Points, (text ++ [0x5D] ++ rest).rdropWhile isSpacePoint =
      text ++ [0x5D] ++ rest.rdropWhile isSpacePoint := by
    intro text rest
    induction rest using List.reverseRecOn with
    | nil => simp [bracket]
    | append_singleton rest c ih =>
      rw [← List.append_assoc, List.rdropWhile_concat, List.rdropWhile_concat]
      split
      · exact ih
      · simp
  have stripped : stripPoints (shellText exitText stdout stderr) =
      (shellText exitText stdout stderr).rdropWhile isSpacePoint := by
    rw [stripPoints, shellText, opening]
    rfl
  rw [stripped, shellText, middle, closing]
  have regroup := kept (points "[exit_code=" ++ exitText ++ points "]\n[stdout]\n" ++ stdout ++
    points "\n[stderr") (0x0A :: stderr)
  simpa [List.append_assoc] using regroup

theorem stderr_kept_iff (stderr : Points) :
    stderr <+: ((0x0A :: stderr).rdropWhile isSpacePoint).drop 1 ↔
      ∀ c ∈ stderr.getLast?, isSpacePoint c = false := by
  rcases List.eq_nil_or_concat stderr with rfl | ⟨before, c, rfl⟩
  · simp
  · rw [List.concat_eq_append, List.getLast?_concat, ← List.cons_append, List.rdropWhile_concat]
    by_cases space : isSpacePoint c = true
    · rw [if_pos space]
      have shorter := (List.rdropWhile_prefix isSpacePoint (0x0A :: before)).length_le
      refine iff_of_false (fun kept => ?_) (by simp [space])
      have long := kept.length_le
      rw [List.length_drop, List.length_append, List.length_singleton] at long
      rw [List.length_cons] at shorter
      omega
    · rw [if_neg space]
      simpa using space

theorem encodable_shell :
    Utf8Encodable (combinedText (points (toString exitCode)) stdout stderr) ↔
      Utf8Encodable stdout ∧ Utf8Encodable stderr := by
  have newline : Utf8Encodable [0x0A] := by decide
  have stripped :
      Utf8Encodable ((0x0A :: stderr).rdropWhile isSpacePoint) ↔ Utf8Encodable stderr := by
    have whole : (0x0A :: stderr).rdropWhile isSpacePoint ++
        (0x0A :: stderr).rtakeWhile isSpacePoint = 0x0A :: stderr := List.rdropWhile_append_rtakeWhile
    have blank : Utf8Encodable ((0x0A :: stderr).rtakeWhile isSpacePoint) :=
      encodable_of_space fun c member => List.mem_rtakeWhile_imp member
    have both : Utf8Encodable ([0x0A] ++ stderr) ↔ Utf8Encodable stderr := by
      rw [encodable_append, and_iff_right newline]
    rw [← both, List.singleton_append, ← whole, encodable_append, and_iff_left blank, whole]
  rw [combinedText, stripPoints_shellText]
  simp [encodable_points, stripped]

theorem shortened_fits (encodable : Utf8Encodable combined) :
    Utf8Encodable (shortened combined) ∧ byteLength (shortened combined) ≤ maxContextBlockBytes := by
  constructor
  · simp [shortened, encodable_points, encodable.takeBytes, encodable.takeLastBytes]
  · have marks : byteLength (points "[truncated=true]\n[head]\n" ++ points "\n[tail]\n") = 32 := by decide
    have opening : byteLength (points "[truncated=true]\n[head]\n") = 24 := by decide
    have separator : byteLength (points "\n[tail]\n") = 8 := by decide
    have first := byteLength_takeBytes_le ((maxContextBlockBytes - 32) / 2) combined
    have last := byteLength_takeLastBytes_le
      (maxContextBlockBytes - 32 - (maxContextBlockBytes - 32) / 2) combined
    simp only [shortened, marks, byteLength_append, opening, separator, maxContextBlockBytes] at first last ⊢
    omega

theorem shellContained_iff (exitText stdout stderr : Points) :
    ShellContained exitText stdout stderr (combinedText exitText stdout stderr) ↔
      ∀ c ∈ stderr.getLast?, isSpacePoint c = false := by
  have behind : (shellText exitText stdout []).length = (points "[exit_code=" ++ exitText ++
      points "]\n[stdout]\n" ++ stdout ++ points "\n[stderr]").length + 1 := by
    simp [shellText, points]
    rfl
  unfold ShellContained
  rw [← stderr_kept_iff, combinedText, stripPoints_shellText, behind, ← List.drop_drop,
    List.drop_left, List.append_assoc (_ ++ stdout)]
  exact and_iff_right (List.prefix_append _ _)

theorem shellBlock_truncated :
    (shellBlock combined exitText reference : ContextDataBlock α).truncated = false ↔
      byteLength combined ≤ maxContextBlockBytes := by
  rw [shellBlock, decide_eq_false_iff_not, Nat.not_lt]

theorem shellBlock_text (within : byteLength combined ≤ maxContextBlockBytes) :
    (shellBlock combined exitText reference : ContextDataBlock α).text = combined := by
  rw [shellBlock, if_neg (Nat.not_lt.mpr within)]

theorem shellBlock_fits (encodable : Utf8Encodable combined) :
    Utf8Encodable (shellBlock combined exitText reference : ContextDataBlock α).text ∧
      byteLength (shellBlock combined exitText reference : ContextDataBlock α).text ≤
        maxContextBlockBytes := by
  unfold shellBlock
  dsimp only
  split
  · exact shortened_fits encodable
  · next short => exact ⟨encodable, Nat.le_of_not_lt short⟩

theorem governShellOutput_ok (owned : cas.owned = .ok reference)
    (referenced : maxContextBlockBytes <
      byteLength (combinedText (points (toString exitCode)) stdout stderr) → reference ≠ none)
    {block : ContextDataBlock α} :
    governShellOutput stdout stderr exitCode cas = .ok block ↔ Printable exitCode ∧
      Utf8Encodable (combinedText (points (toString exitCode)) stdout stderr) ∧
      block = shellBlock (combinedText (points (toString exitCode)) stdout stderr)
        (points (toString exitCode)) reference := by
  constructor
  · intro done
    rw [governShellOutput] at done
    obtain ⟨exitText, exitDone, done⟩ := except_bind_eq_ok done
    obtain ⟨printable, rfl⟩ := decimalText_ok.mp exitDone
    obtain ⟨size, sizeDone, done⟩ := except_bind_eq_ok done
    obtain ⟨encodable, rfl⟩ := encodedBytes_ok.mp sizeDone
    rw [owned, ok_bind] at done
    split at done
    · cases done
    · exact ⟨printable, encodable, (check_ok.mp done).1⟩
  · rintro ⟨printable, encodable, rfl⟩
    have given : ¬ (maxContextBlockBytes < byteLength (combinedText (points (toString exitCode))
        stdout stderr) ∧ reference = none) := fun missing => referenced missing.1 missing.2
    rw [governShellOutput, decimalText_ok.mpr ⟨printable, rfl⟩, ok_bind,
      encodedBytes_ok.mpr ⟨encodable, rfl⟩, ok_bind, owned, ok_bind, if_neg given]
    exact check_ok.mpr ⟨rfl, shellBlock_fits encodable⟩

theorem shell_fits_iff (accepted : (shell stdout stderr exitCode cas : ToolOutput α).Accepted) :
    (shell stdout stderr exitCode cas : ToolOutput α).FitsContext dumps ↔
      (shell stdout stderr exitCode cas : ToolOutput α).Governable dumps := by
  obtain ⟨reference, owned, referenced⟩ := accepted
  constructor
  · rintro ⟨block, done, -, contained⟩
    obtain ⟨printable, encodable, rfl⟩ := (governShellOutput_ok owned referenced).mp done
    obtain ⟨out, err⟩ := encodable_shell.mp encodable
    refine ⟨out, err, printable, fun within => (shellContained_iff (points (toString exitCode)) stdout
      stderr).mp ?_⟩
    have whole := contained (shellBlock_truncated.mpr within)
    rwa [shellBlock_text within] at whole
  · rintro ⟨out, err, printable, trimmed⟩
    have encodable : Utf8Encodable (combinedText (points (toString exitCode)) stdout stderr) :=
      encodable_shell.mpr ⟨out, err⟩
    refine ⟨_, (governShellOutput_ok owned referenced).mpr ⟨printable, encodable, rfl⟩,
      (shellBlock_fits encodable).2, fun uncut => ?_⟩
    have within := shellBlock_truncated.mp uncut
    rw [shellBlock_text within]
    exact (shellContained_iff _ _ _).mpr (trimmed within)

/-! ## Results of programs -/

theorem encodable_summaryText (encodable : Utf8Encodable summary) :
    Utf8Encodable (summaryText summary) := by
  unfold summaryText
  split
  · simp [encodable_points, encodable.takeBytes, encodable.takeLastBytes]
  · exact encodable

theorem encodable_execText {error : Option Points} {steps : Points}
    (message : ∀ text ∈ error, Utf8Encodable text) (stepsEncodable : Utf8Encodable steps)
    (encodable : Utf8Encodable summary) :
    Utf8Encodable (execText error steps summary truncated) := by
  unfold execText
  cases error with
  | none => simp [encodable_points, stepsEncodable, encodable.jsonString]
  | some text =>
    simp [encodable_points, stepsEncodable, encodable.jsonString, (message text rfl).jsonString]

theorem byteLength_execText (error : Option Points) (summary : Points) (truncated : Bool) :
    byteLength (execText error (points (toString stepCount)) summary truncated) =
      execFrame error stepCount truncated + escapedLength summary + escapedLength (error.getD []) := by
  have flag : byteLength (points (if truncated then "true" else "false")) =
      if truncated then 4 else 5 := by cases truncated <;> decide
  have keys : byteLength (points ",\x22step_count\x22:") = 14 ∧
      byteLength (points ",\x22summary\x22:") = 11 ∧
      byteLength (points ",\x22truncated\x22:") = 13 ∧ byteLength (points "\x7d") = 1 := by decide
  cases error with
  | none =>
    have outcome : byteLength (points "\x7b\x22outcome\x22:\x22OK\x22") = 15 := by decide
    simp [execText, execFrame, flag, keys, outcome, show escapedLength [] = 0 from rfl]
    omega
  | some text =>
    have outcome : byteLength (points "\x7b\x22error\x22:") = 9 ∧
        byteLength (points ",\x22outcome\x22:\x22FAILED\x22") = 19 := by decide
    simp [execText, execFrame, flag, keys, outcome]
    omega

theorem execText_error_inj {part text steps : Points} (isPrefix : part <+: text)
    (same : execText (some part) steps summary truncated = execText (some text) steps summary truncated) :
    part = text := by
  simp only [execText, List.append_assoc, List.append_cancel_left_eq] at same
  exact jsonString_inj_prefix isPrefix (List.append_cancel_right same)

theorem errorGiven_eq_some {text : Points} :
    errorGiven errorMessage = some text ↔ errorMessage = some text ∧ text ≠ [] := by
  simp [errorGiven, Option.filter_eq_some_iff]

theorem governExecResult_ok (owned : cas.owned = .ok reference)
    (referenced : oversizedExec summary errorMessage = true → reference ≠ none)
    {block : ContextDataBlock α} :
    governExecResult summary stepCount errorMessage cas = .ok block ↔ Utf8Encodable summary ∧
      Utf8Encodable (errorMessage.getD []) ∧ Printable stepCount ∧
      block = execBlock summary (points (toString (stepCount : Int))) errorMessage reference ∧
      byteLength block.text ≤ maxContextBlockBytes := by
  constructor
  · intro done
    rw [governExecResult] at done
    obtain ⟨_, summaryDone, done⟩ := except_bind_eq_ok done
    obtain ⟨_, errorDone, done⟩ := except_bind_eq_ok done
    rw [owned, ok_bind] at done
    split at done
    · cases done
    obtain ⟨steps, stepsDone, done⟩ := except_bind_eq_ok done
    obtain ⟨printable, rfl⟩ := decimalText_ok.mp stepsDone
    obtain ⟨rfl, -, within⟩ := check_ok.mp done
    exact ⟨(encodedBytes_ok.mp summaryDone).1, (encodedBytes_ok.mp errorDone).1, printable, rfl, within⟩
  · rintro ⟨encodable, errorEncodable, printable, rfl, within⟩
    have given : ¬ (oversizedExec summary errorMessage = true ∧ reference = none) :=
      fun missing => referenced missing.1 missing.2
    rw [governExecResult, encodedBytes_ok.mpr ⟨encodable, rfl⟩, ok_bind,
      encodedBytes_ok.mpr ⟨errorEncodable, rfl⟩, ok_bind, owned, ok_bind, if_neg given,
      decimalText_ok.mpr ⟨printable, rfl⟩, ok_bind]
    refine check_ok.mpr ⟨rfl, encodable_execText ?_ (encodable_points _)
      (encodable_summaryText encodable), within⟩
    intro text shown
    obtain ⟨message, given, rfl⟩ := Option.map_eq_some_iff.mp shown
    obtain ⟨rfl, -⟩ := errorGiven_eq_some.mp given
    exact errorEncodable.takeBytes 4096

/-- Where nothing is said to be left out, the block has all of the result exactly if the error
message was not cut. -/
theorem exec_contained_iff (uncut : oversizedExec summary errorMessage = false) :
    (exec summary stepCount errorMessage cas : ToolOutput α).Contained dumps
        (execBlock summary (points (toString (stepCount : Int))) errorMessage reference :
          ContextDataBlock α).text ↔ byteLength (errorMessage.getD []) ≤ 4096 := by
  have whole : summaryText summary = summary := by
    simp only [oversizedExec, Bool.or_eq_false_iff, decide_eq_false_iff_not] at uncut
    exact if_neg uncut.2
  show execText ((errorGiven errorMessage).map (takeBytes 4096)) (points (toString (stepCount : Int)))
    (summaryText summary) (oversizedExec summary errorMessage) =
      execText (errorGiven errorMessage) (points (toString (stepCount : Int))) summary false ↔ _
  rw [whole, uncut]
  cases given : errorGiven errorMessage with
  | none =>
    refine iff_of_true rfl ?_
    cases errorMessage with
    | none => simp
    | some text =>
      have empty : text = [] := by
        by_contra some
        rw [errorGiven_eq_some.mpr ⟨rfl, some⟩] at given
        cases given
      simp [empty]
  | some text =>
    obtain ⟨rfl, -⟩ := errorGiven_eq_some.mp given
    rw [Option.getD_some, ← takeBytes_eq_self_iff]
    constructor
    · exact execText_error_inj (takeBytes_isPrefix 4096 text)
    · intro same
      rw [Option.map_some, same]

theorem exec_fits_iff (accepted : (exec summary stepCount errorMessage cas : ToolOutput α).Accepted) :
    (exec summary stepCount errorMessage cas : ToolOutput α).FitsContext dumps ↔
      (exec summary stepCount errorMessage cas : ToolOutput α).Governable dumps := by
  obtain ⟨reference, owned, referenced⟩ := accepted
  have size : byteLength (execBlock summary (points (toString (stepCount : Int))) errorMessage reference :
      ContextDataBlock α).text =
      execFrame (errorGiven errorMessage) stepCount (oversizedExec summary errorMessage) +
        escapedLength (summaryText summary) +
        escapedLength (((errorGiven errorMessage).map (takeBytes 4096)).getD []) := by
    refine (byteLength_execText ..).trans ?_
    rw [execFrame, execFrame, Option.isSome_map]
  constructor
  · rintro ⟨block, done, -, contained⟩
    obtain ⟨encodable, errorEncodable, printable, rfl, within⟩ :=
      (governExecResult_ok owned referenced).mp done
    exact ⟨encodable, errorEncodable, printable, size ▸ within,
      fun uncut => (exec_contained_iff dumps uncut).mp (contained uncut)⟩
  · rintro ⟨encodable, errorEncodable, printable, within, short⟩
    exact ⟨_, (governExecResult_ok owned referenced).mpr
      ⟨encodable, errorEncodable, printable, rfl, size ▸ within⟩, size ▸ within,
      fun uncut => (exec_contained_iff dumps uncut).mpr (short uncut)⟩

/-! ## Matches in the source -/

theorem encodable_intercalate {separator : Points} (separates : Utf8Encodable separator)
    {texts : List Points} :
    Utf8Encodable (List.intercalate separator texts) ↔ ∀ text ∈ texts, Utf8Encodable text := by
  induction texts with
  | nil => simp [Utf8Encodable]
  | cons first rest ih =>
    cases rest with
    | nil => simp
    | cons second more =>
      rw [List.intercalate_cons_cons, encodable_append, encodable_append, ih,
        List.forall_mem_cons (l := second :: more), and_iff_left separates]

theorem encodable_matchesText {texts : List Points} :
    Utf8Encodable (matchesText texts truncated) ↔ ∀ text ∈ texts, Utf8Encodable text := by
  simp [matchesText, encodable_points, encodable_intercalate]

/-- The match has a JSON text that can be encoded. -/
def Dumpable (value : α) : Prop := ∃ text, dumps value = some text ∧ Utf8Encodable text

variable {dumps}

theorem dumpMatch_ok {value : α} {text : Points} :
    dumpMatch dumps value = .ok text ↔ dumps value = some text := by
  unfold dumpMatch
  cases dumps value <;> simp

theorem dumpable_of_dumpFacts {facts : List α} {text : Points}
    (done : dumpFacts dumps facts truncated = .ok text) (encodable : Utf8Encodable text) :
    ∀ value ∈ facts, Dumpable dumps value := by
  obtain ⟨texts, dumped, result⟩ := except_bind_eq_ok done
  cases result
  intro value member
  obtain ⟨item, inTexts, found⟩ := mapM_result dumped member
  exact ⟨item, dumpMatch_ok.mp found, encodable_matchesText.mp encodable item inTexts⟩

theorem dumpFacts_of_dumpable {facts : List α} (dumpable : ∀ value ∈ facts, Dumpable dumps value)
    (truncated : Bool) : ∃ texts, facts.mapM (dumpMatch dumps) = .ok texts ∧
      dumpFacts dumps facts truncated = .ok (matchesText texts truncated) ∧
      Utf8Encodable (matchesText texts truncated) := by
  obtain ⟨texts, dumped⟩ := mapM_ok_iff.mpr fun value member => by
    obtain ⟨text, found, -⟩ := dumpable value member
    exact ⟨text, dumpMatch_ok.mpr found⟩
  refine ⟨texts, dumped, by rw [dumpFacts, dumped, ok_bind], encodable_matchesText.mpr ?_⟩
  intro text member
  obtain ⟨value, inFacts, found⟩ := mapM_origin dumped member
  obtain ⟨other, alsoFound, encodable⟩ := dumpable value inFacts
  rw [dumpMatch_ok.mp found] at alsoFound
  exact Option.some.inj alsoFound ▸ encodable

theorem shrinkFacts_of_dumpable {count : Nat}
    (dumpable : ∀ value ∈ values.take count, Dumpable dumps value) (truncated : Bool) :
    ∃ facts text cut, shrinkFacts dumps values count truncated = .ok (facts, text, cut) ∧
      Utf8Encodable text ∧ byteLength text ≤ maxContextBlockBytes ∧
      (cut = false → truncated = false ∧ ∃ texts,
        (values.take count).mapM (dumpMatch dumps) = .ok texts ∧ text = matchesText texts false) := by
  induction count generalizing truncated with
  | zero =>
    have encodable : Utf8Encodable (matchesText [] truncated) := encodable_matchesText.mpr (by simp)
    have within : byteLength (matchesText [] truncated) ≤ maxContextBlockBytes := by
      cases truncated <;> decide
    refine ⟨[], matchesText [] truncated, truncated, ?_, encodable, within, ?_⟩
    · rw [shrinkFacts, show dumpFacts dumps [] truncated = .ok (matchesText [] truncated) from rfl,
        ok_bind, encodedBytes_ok.mpr ⟨encodable, rfl⟩, ok_bind]
    · rintro rfl
      exact ⟨rfl, [], rfl, rfl⟩
  | succ count ih =>
    obtain ⟨texts, dumped, done, encodable⟩ := dumpFacts_of_dumpable dumpable truncated
    rw [shrinkFacts, done, ok_bind, encodedBytes_ok.mpr ⟨encodable, rfl⟩, ok_bind]
    by_cases within : byteLength (matchesText texts truncated) ≤ maxContextBlockBytes
    · rw [if_pos within]
      refine ⟨_, _, _, rfl, encodable, within, ?_⟩
      rintro rfl
      exact ⟨rfl, texts, dumped, rfl⟩
    · rw [if_neg within]
      obtain ⟨facts, text, cut, done, encodable, within, whole⟩ := ih (fun value member =>
        dumpable value ((List.take_prefix_take_left (Nat.le_succ count)).subset member)) true
      exact ⟨facts, text, cut, done, encodable, within, fun uncut => nomatch (whole uncut).1⟩

theorem dumpable_of_shrinkFacts {count : Nat} {result : List α × Points × Bool}
    (done : shrinkFacts dumps values count truncated = .ok result) :
    ∀ value ∈ values.take count, Dumpable dumps value := by
  cases count with
  | zero => simp
  | succ count =>
    rw [shrinkFacts] at done
    obtain ⟨text, dumped, done⟩ := except_bind_eq_ok done
    obtain ⟨size, sized, -⟩ := except_bind_eq_ok done
    exact dumpable_of_dumpFacts dumped (encodedBytes_ok.mp sized).1

theorem astMatches_fits_iff :
    (astMatches values).FitsContext dumps ↔ (astMatches values).Governable dumps := by
  have shown : values.take (min maxAstMatches values.length) = values.take maxAstMatches := by
    rw [← List.take_take, List.take_length]
  constructor
  · rintro ⟨block, done, -, -⟩
    rw [govern, governAstMatches] at done
    obtain ⟨result, shrunk, -⟩ := except_bind_eq_ok done
    have dumpable := dumpable_of_shrinkFacts shrunk
    rwa [shown] at dumpable
  · intro governable
    have dumpable : ∀ value ∈ values.take (min maxAstMatches values.length), Dumpable dumps value := by
      rw [shown]
      exact governable
    obtain ⟨facts, text, cut, done, encodable, within, whole⟩ :=
      shrinkFacts_of_dumpable dumpable (decide (maxAstMatches < values.length))
    refine ⟨⟨.sourceAst, text, byteLength text, cut, none, none, facts⟩, ?_, within, fun uncut => ?_⟩
    · rw [govern, governAstMatches, done, ok_bind]
      exact check_ok.mpr ⟨rfl, encodable, within⟩
    · obtain ⟨few, texts, dumped, rfl⟩ := whole uncut
      have all : values.take (min maxAstMatches values.length) = values := by
        rw [shown, List.take_of_length_le (Nat.le_of_not_lt (of_decide_eq_false few))]
      exact ⟨texts, all ▸ dumped, rfl⟩

/-- A tool result fits the context exactly where it is governable. -/
theorem fitsContext_iff (dumps : α → Option Points) (output : ToolOutput α) (accepted : output.Accepted) :
    output.FitsContext dumps ↔ output.Governable dumps := by
  cases output with
  | readFile body path totalLines startLine truncated => exact readFile_fits_iff dumps accepted
  | shell stdout stderr exitCode cas => exact shell_fits_iff dumps accepted
  | exec summary stepCount errorMessage cas => exact exec_fits_iff dumps accepted
  | astMatches values => exact astMatches_fits_iff

/-! ## Control characters -/

namespace Sample

def noReference : CasArgument := ⟨none, none, none⟩

/-- The result of a program with 50000 characters that JSON writes with six. -/
def controls : ToolOutput Unit := .exec (List.replicate 50000 1) 1 none noReference

theorem controls_short : byteLength (List.replicate 50000 1) = 50000 := byteLength_replicate 50000 1

theorem controls_accepted : controls.Accepted := by
  refine ⟨none, rfl, fun oversized => ?_⟩
  rw [oversizedExec, controls_short] at oversized
  exact absurd oversized (by decide)

theorem fitsContext_controls : controls.FitsContext (fun _ => none) ↔ controls.Governable fun _ => none :=
  fitsContext_iff (fun _ => none) controls controls_accepted

/-- The result raises, since its JSON text is longer than a block may be. -/
theorem controls_do_not_fit : ¬ ∀ (dumps : Unit → Option Points) (output : ToolOutput Unit),
    output.Accepted → output.FitsContext dumps := by
  intro all
  obtain ⟨-, -, -, within, -⟩ := (exec_fits_iff (fun _ => none) controls_accepted).mp
    (all (fun _ => none) controls controls_accepted)
  have whole : summaryText (List.replicate 50000 1) = List.replicate 50000 1 := by
    rw [summaryText, controls_short, if_neg (by decide)]
  have six : byteLength (escapePoint 1) = 6 := by decide
  rw [whole, escapedLength_replicate, six, maxContextBlockBytes] at within
  omega

end Sample

end ToolOutput

end CodeMigrator
