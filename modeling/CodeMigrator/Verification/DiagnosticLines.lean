import CodeMigrator.Verification.LineGrammars

/-!
# The lines of a tool's output in its diagnostics

Every line that is not blank has a mapping of its own or stands in the mapping of the lines that
were not understood, and a result that is not understood completely has an error of unknown
origin. A line number of more than 4300 digits behind a safe path is refused by `int`, and then
there is no result at all.
-/

namespace CodeMigrator
open Lib

section Lines

variable (digest : String → String) (isWord : Char → Bool)

/-- A line of the grammar of the registered parser, with a safe path if it names a file. -/
def Understood (parser : Option RegisteredParser) (line : List Char) : Prop :=
  match parser with
  | none => False
  | some .pytest => ∃ groups, IsPytestFailure line groups
  | some .fileLines =>
    ∃ groups, IsFileLine line groups ∧ isRepoRelative (String.ofList groups.path) = true

/-- The mapping of one line alone: its file and line, its test, or the whole line where its path
is not safe. -/
inductive OwnMapping : Option RegisteredParser → List Char → DiagnosticMapping → Prop
  | fileLine {line : List Char} {groups : FileLineMatch} {path : RepoRelativePath} {number : Int}
      {severity : DiagnosticSeverity} {code : String} (found : IsFileLine (strip line) groups)
      (file : path.text = String.ofList groups.path) (read : intBase10 groups.line = some number) :
      OwnMapping (some .fileLines) line
        (mapping digest severity (.fileLine path number) code (String.ofList groups.message))
  | unsafeFile {line : List Char} {groups : FileLineMatch} (found : IsFileLine (strip line) groups)
      (outside : isRepoRelative (String.ofList groups.path) = false) :
      OwnMapping (some .fileLines) line (unknownMapping digest (String.ofList line))
  | test {line : List Char} {groups : PytestMatch} (found : IsPytestFailure (strip line) groups) :
      OwnMapping (some .pytest) line
        (mapping digest .error (.testIdentity (String.ofList groups.test)) "PYTEST_FAILURE"
          (String.ofList ((groups.message.filter (· ≠ [])).getD "pytest test failed".toList)))

/-- Every line that is not blank has its own mapping or is one of the unparsed lines, which share
one mapping. -/
def LinesAccounted (parser : Option RegisteredParser) (text : String)
    (mappings : List DiagnosticMapping) : Prop :=
  ∃ own unparsed,
    mappings = own ++ (if unparsed = [] then [] else [unknownMapping digest (joinLines unparsed)]) ∧
      unparsed.Sublist (meaningfulLines text) ∧
      ∀ line ∈ textLines text, strip line ≠ [] →
        (∃ mapping ∈ own, OwnMapping digest parser line mapping) ∨ strip line ∈ unparsed

/-- No line of an output is lost: there is a result, the lines are accounted for in it, and a
line that is not understood leaves an error of unknown origin, so that no verification passes
with these diagnostics. -/
def NoLineLost (action : CheckAction) (program text : String) : Prop :=
  ∃ mappings, parseDiagnostics digest isWord action program text = some mappings ∧
    LinesAccounted digest (Dict.lookup (action, program) withBuiltins) text mappings ∧
    ((∃ line ∈ textLines text, strip line ≠ [] ∧
        ¬ Understood (Dict.lookup (action, program) withBuiltins) (strip line)) →
      (∃ mapping ∈ mappings, mapping.severity = .error ∧ mapping.target = .unknown) ∧
        ∀ specs results, ∀ result ∈ results, mappings ⊆ result.unwrap.diagnostics →
          (validateCheckResults specs results).guard.allRequiredChecksPassed = false)

/-! ## One line -/

/-- The loop body of a registered parser. -/
def RegisteredParser.parseLine (parser : RegisteredParser) (program : String) : LineParser :=
  match parser with
  | pytest => parsePytestLine digest
  | fileLines => parseFileLine digest isWord program

variable {digest isWord} {program : String} {parser : RegisteredParser} {line : List Char}
  {parsed : ParsedDiagnostics} {text : String}

theorem safeFile_eq_some_iff {text : List Char} {path : RepoRelativePath} :
    safeFile text = some path ↔ path.text = String.ofList text := by
  unfold safeFile
  constructor
  · intro found
    split at found
    · rw [← Option.some.inj found]
    · cases found
  · intro same
    obtain ⟨_, safe⟩ := path
    subst same
    rw [dif_pos safe]

theorem safeFile_eq_none_iff {text : List Char} :
    safeFile text = none ↔ isRepoRelative (String.ofList text) = false := by
  unfold safeFile
  split <;> simp_all

theorem parseLine_eq_none_iff :
    parser.parseLine digest isWord program line = none ↔ parser = .fileLines ∧
      ∃ groups, IsFileLine (strip line) groups ∧
        isRepoRelative (String.ofList groups.path) = true ∧ 4300 < groups.line.length := by
  cases parser with
  | pytest =>
    simp only [RegisteredParser.parseLine, parsePytestLine, reduceCtorEq, false_and, iff_false]
    split <;> simp
  | fileLines =>
    simp only [RegisteredParser.parseLine, parseFileLine, true_and]
    cases found : matchFileLine (strip line) with
    | none =>
      have outside := (matchFileLine_eq_none_iff _).mp found
      simp only [reduceCtorEq, false_iff]
      rintro ⟨groups, inside, -⟩
      exact outside groups inside
    | some groups =>
      have inside := matchFileLine_sound found
      -- the path and the line number of a line are the same in all its matches
      have same : ∀ other, IsFileLine (strip line) other →
          other.path = groups.path ∧ other.line = groups.line := by
        intro other isLine
        obtain ⟨message, again⟩ := matchFileLine_complete isLine
        rw [found] at again
        rw [Option.some.inj again]
        exact ⟨rfl, rfl⟩
      cases safe : safeFile groups.path with
      | none =>
        have outside := safeFile_eq_none_iff.mp safe
        simp only [safe, reduceCtorEq, false_iff]
        rintro ⟨other, isLine, isSafe, -⟩
        rw [(same other isLine).1, outside] at isSafe
        cases isSafe
      | some path =>
        simp only [safe, Option.map_eq_none_iff, intOfDigits_eq_none_iff inside.line]
        constructor
        · intro long
          refine ⟨groups, inside, ?_, long⟩
          rw [← safeFile_eq_some_iff.mp safe]
          exact path.safe
        · rintro ⟨other, isLine, -, long⟩
          rw [← (same other isLine).2]
          exact long

theorem ownMapping_of_parseLine {own : DiagnosticMapping}
    (parsed : parser.parseLine digest isWord program line = some (some own)) :
    OwnMapping digest (some parser) line own := by
  cases parser with
  | pytest =>
    simp only [RegisteredParser.parseLine, parsePytestLine] at parsed
    split at parsed
    · cases parsed
    next groups found =>
      rw [← Option.some.inj (Option.some.inj parsed)]
      exact .test (matchPytest_sound found)
  | fileLines =>
    simp only [RegisteredParser.parseLine, parseFileLine] at parsed
    split at parsed
    · cases parsed
    next groups found =>
      split at parsed
      next outside =>
        rw [← Option.some.inj (Option.some.inj parsed)]
        exact .unsafeFile (matchFileLine_sound found) (safeFile_eq_none_iff.mp outside)
      next path safe =>
        obtain ⟨number, read, equal⟩ := Option.map_eq_some_iff.mp parsed
        rw [← Option.some.inj equal]
        refine .fileLine (matchFileLine_sound found) (safeFile_eq_some_iff.mp safe) ?_
        unfold intOfDigits at read
        split at read
        · cases read
        · exact read

theorem parseLine_of_not_understood (strange : ¬ Understood (some parser) (strip line)) :
    parser.parseLine digest isWord program line = some none ∨
      parser.parseLine digest isWord program line =
        some (some (unknownMapping digest (String.ofList line))) := by
  cases parser with
  | pytest =>
    have outside : matchPytest (strip line) = none :=
      (matchPytest_eq_none_iff _).mpr fun groups isLine => strange ⟨groups, isLine⟩
    simp [RegisteredParser.parseLine, parsePytestLine, outside]
  | fileLines =>
    simp only [RegisteredParser.parseLine, parseFileLine]
    cases found : matchFileLine (strip line) with
    | none => exact .inl rfl
    | some groups =>
      have outside : safeFile groups.path = none := by
        rw [safeFile_eq_none_iff, Bool.eq_false_iff]
        exact fun safe => strange ⟨groups, matchFileLine_sound found, safe⟩
      simp [outside]

/-! ## All lines -/

/-- The lines that are not blank. -/
def nonBlank (lines : List (List Char)) : List (List Char) := lines.filter (strip · ≠ [])

theorem parseLines_eq_none_iff {parseLine : LineParser} {lines : List (List Char)} :
    parseLines parseLine lines = none ↔ ∃ line ∈ nonBlank lines, parseLine line = none := by
  induction lines with
  | nil => simp [parseLines, nonBlank]
  | cons line lines ih =>
    rw [parseLines]
    by_cases blank : strip line = []
    · rw [if_pos blank, ih]
      simp [nonBlank, blank]
    · have kept : nonBlank (line :: lines) = line :: nonBlank lines := by simp [nonBlank, blank]
      rw [if_neg blank, kept]
      simp only [List.mem_cons, exists_eq_or_imp, ← ih]
      cases parseLine line with
      | none => simp
      | some parsed =>
        cases parsed <;> cases parseLines parseLine lines <;> simp

theorem parseLines_spec {parseLine : LineParser} {lines : List (List Char)}
    (found : parseLines parseLine lines = some parsed) :
    parsed.mappings = (nonBlank lines).filterMap (fun line => (parseLine line).join) ∧
      parsed.unparsedLines =
        ((nonBlank lines).filter fun line => parseLine line = some none).map strip := by
  induction lines generalizing parsed with
  | nil =>
    rw [parseLines] at found
    rw [← Option.some.inj found]
    simp [nonBlank]
  | cons line lines ih =>
    rw [parseLines] at found
    by_cases blank : strip line = []
    · rw [if_pos blank] at found
      have dropped : nonBlank (line :: lines) = nonBlank lines := by simp [nonBlank, blank]
      rw [dropped]
      exact ih found
    · have kept : nonBlank (line :: lines) = line :: nonBlank lines := by simp [nonBlank, blank]
      rw [if_neg blank] at found
      rw [kept]
      split at found
      next own rest here later =>
        obtain ⟨mappings, unparsed⟩ := ih later
        rw [← Option.some.inj found]
        simp [here, mappings, unparsed]
      next rest here later =>
        obtain ⟨mappings, unparsed⟩ := ih later
        rw [← Option.some.inj found]
        simp [here, mappings, unparsed]
      · cases found

theorem meaningfulLines_eq (text : String) :
    meaningfulLines text = (nonBlank (textLines text)).map strip := by
  simp only [meaningfulLines, nonBlank, List.filter_map]
  rfl

theorem mem_meaningfulLines_iff {stripped : List Char} :
    stripped ∈ meaningfulLines text ↔
      ∃ line ∈ textLines text, strip line ≠ [] ∧ strip line = stripped := by
  simp [meaningfulLines_eq, nonBlank, and_assoc]

theorem mem_unknownText (some : meaningfulLines text ≠ []) :
    unknownMapping digest (joinLines (meaningfulLines text)) ∈ unknownText digest text := by
  simp [unknownText, some]

theorem unknownText_accounted (text : String) :
    LinesAccounted digest none text (unknownText digest text) := by
  refine ⟨[], meaningfulLines text, by simp [unknownText], List.Sublist.refl _, ?_⟩
  intro line member meaningful
  exact .inr (mem_meaningfulLines_iff.mpr ⟨line, member, meaningful, rfl⟩)

/-! ## The registry -/

theorem run_eq (text : String) :
    parser.run digest isWord text program =
      parseLines (parser.parseLine digest isWord program) (textLines text) := by
  cases parser <;> rfl

theorem run_accounted (found : parser.run digest isWord text program = some parsed) :
    (∀ line ∈ textLines text, strip line ≠ [] →
        (∃ own ∈ parsed.mappings, OwnMapping digest (some parser) line own ∧
          parser.parseLine digest isWord program line = some (some own)) ∨
        (strip line ∈ parsed.unparsedLines ∧
          parser.parseLine digest isWord program line = some none)) ∧
      parsed.unparsedLines.Sublist (meaningfulLines text) := by
  rw [run_eq] at found
  obtain ⟨mappings, unparsed⟩ := parseLines_spec found
  constructor
  · intro line member meaningful
    have kept : line ∈ nonBlank (textLines text) := by simp [nonBlank, member, meaningful]
    have accepted : parser.parseLine digest isWord program line ≠ none := by
      intro refused
      rw [parseLines_eq_none_iff.mpr ⟨line, kept, refused⟩] at found
      cases found
    rcases parsedLine : parser.parseLine digest isWord program line with _ | _ | own
    · exact absurd parsedLine accepted
    · rw [unparsed]
      exact .inr ⟨List.mem_map.mpr ⟨line, List.mem_filter.mpr ⟨kept, by simp [parsedLine]⟩, rfl⟩, rfl⟩
    · rw [mappings]
      exact .inl ⟨own, List.mem_filterMap.mpr ⟨line, kept, by simp [parsedLine]⟩,
        ownMapping_of_parseLine parsedLine, rfl⟩
  · rw [unparsed, meaningfulLines_eq]
    exact List.filter_sublist.map strip

theorem unknown_of_run (found : parser.run digest isWord text program = some parsed)
    (member : line ∈ textLines text) (meaningful : strip line ≠ [])
    (strange : ¬ Understood (some parser) (strip line)) :
    ∃ message, unknownMapping digest message ∈ parsed.mappings ++
      if parsed.unparsedLines = [] then []
      else [unknownMapping digest (joinLines parsed.unparsedLines)] := by
  rcases (run_accounted found).1 line member meaningful with ⟨own, isOwn, -, parsedLine⟩ | ⟨left, -⟩
  · rcases parseLine_of_not_understood strange with none | unknown
    · rw [none] at parsedLine
      cases parsedLine
    · rw [unknown] at parsedLine
      refine ⟨String.ofList line, List.mem_append_left _ ?_⟩
      rw [Option.some.inj (Option.some.inj parsedLine)]
      exact isOwn
  · refine ⟨joinLines parsed.unparsedLines, List.mem_append_right _ ?_⟩
    rw [if_neg (List.ne_nil_of_mem left)]
    exact List.mem_singleton_self _

theorem unknownText_of_empty (found : parser.run digest isWord text program = some parsed)
    (empty : parsed.mappings = []) (all : parsed.unparsedLines = []) :
    unknownText digest text = [] := by
  rw [unknownText, if_pos]
  rw [List.eq_nil_iff_forall_not_mem]
  intro stripped inside
  obtain ⟨line, member, meaningful, -⟩ := mem_meaningfulLines_iff.mp inside
  rcases (run_accounted found).1 line member meaningful with ⟨own, isOwn, -⟩ | ⟨left, -⟩
  · rw [empty] at isOwn
    cases isOwn
  · rw [all] at left
    cases left

theorem parseDiagnostics_registered {action : CheckAction}
    (registered : Dict.lookup (action, program) withBuiltins = some parser) :
    parseDiagnostics digest isWord action program text =
      (parser.run digest isWord text program).map fun parsed => parsed.mappings ++
        if parsed.unparsedLines = [] then []
        else [unknownMapping digest (joinLines parsed.unparsedLines)] := by
  rw [parseDiagnostics, registered]
  apply Option.map_congr
  intro parsed found
  dsimp only
  by_cases all : parsed.unparsedLines = []
  · rw [if_pos all, List.append_nil]
    split
    next empty => rw [empty, unknownText_of_empty found empty all]
    · rfl
  · rw [if_neg all, if_neg (by simp)]

theorem parseDiagnostics_eq_none_iff {action : CheckAction} :
    parseDiagnostics digest isWord action program text = none ↔
      Dict.lookup (action, program) withBuiltins = some .fileLines ∧
        ∃ line ∈ textLines text, ∃ groups, IsFileLine (strip line) groups ∧
          isRepoRelative (String.ofList groups.path) = true ∧ 4300 < groups.line.length := by
  cases registered : Dict.lookup (action, program) withBuiltins with
  | none => simp [parseDiagnostics, registered]
  | some parser =>
    rw [parseDiagnostics_registered registered, Option.map_eq_none_iff, run_eq,
      parseLines_eq_none_iff]
    simp only [parseLine_eq_none_iff, Option.some.injEq]
    constructor
    · rintro ⟨line, kept, same, groups, isLine, rest⟩
      exact ⟨same, line, (List.mem_filter.mp kept).1, groups, isLine, rest⟩
    · rintro ⟨same, line, member, groups, isLine, rest⟩
      refine ⟨line, List.mem_filter.mpr ⟨member, ?_⟩, same, groups, isLine, rest⟩
      obtain ⟨column, space, written, -⟩ := isLine.written
      simp [written]

/-- No line is lost exactly where no line number behind a safe path has more than 4300 digits. -/
theorem no_line_lost_iff (digest : String → String) (isWord : Char → Bool) (action : CheckAction)
    (program text : String) :
    NoLineLost digest isWord action program text ↔
      (Dict.lookup (action, program) withBuiltins = some .fileLines →
        ∀ line ∈ textLines text, ∀ groups, IsFileLine (strip line) groups →
          isRepoRelative (String.ofList groups.path) = true → groups.line.length ≤ 4300) := by
  constructor
  · rintro ⟨mappings, found, -⟩ registered line member groups isLine safe
    by_contra long
    rw [parseDiagnostics_eq_none_iff.mpr
      ⟨registered, line, member, groups, isLine, safe, by omega⟩] at found
    cases found
  · intro short
    have parsed : parseDiagnostics digest isWord action program text ≠ none := by
      intro refused
      obtain ⟨registered, line, member, groups, isLine, safe, long⟩ :=
        parseDiagnostics_eq_none_iff.mp refused
      have enough := short registered line member groups isLine safe
      omega
    obtain ⟨mappings, found⟩ := Option.ne_none_iff_exists'.mp parsed
    -- an error of unknown origin keeps every verification from passing
    have reported : ∀ message, unknownMapping digest message ∈ mappings →
        (∃ mapping ∈ mappings, mapping.severity = .error ∧ mapping.target = .unknown) ∧
          ∀ specs results, ∀ result ∈ results, mappings ⊆ result.unwrap.diagnostics →
            (validateCheckResults specs results).guard.allRequiredChecksPassed = false := by
      intro message unknown
      refine ⟨⟨_, unknown, rfl, rfl⟩, ?_⟩
      intro specs results result isResult carried
      by_contra passed
      rw [Bool.not_eq_false, validate_passed_iff] at passed
      have attributed := passed.2.2.2.2.2.1 result isResult _ (carried unknown)
      simp [DiagnosticMapping.isUnknownError, unknownMapping, mapping] at attributed
    cases registered : Dict.lookup (action, program) withBuiltins with
    | none =>
      have result : mappings = unknownText digest text := by
        simpa [parseDiagnostics, registered] using found.symm
      subst result
      refine ⟨_, found, registered ▸ unknownText_accounted text, ?_⟩
      rintro ⟨line, member, meaningful, -⟩
      apply reported _ (mem_unknownText _)
      exact List.ne_nil_of_mem (mem_meaningfulLines_iff.mpr ⟨line, member, meaningful, rfl⟩)
    | some parser =>
      rw [parseDiagnostics_registered registered] at found
      obtain ⟨parsed, run, result⟩ := Option.map_eq_some_iff.mp found
      obtain ⟨lines, inOrder⟩ := run_accounted run
      refine ⟨mappings, by rw [parseDiagnostics_registered registered, found], registered ▸
        ⟨parsed.mappings, parsed.unparsedLines, result.symm, inOrder, ?_⟩, ?_⟩
      · intro line member meaningful
        rcases lines line member meaningful with ⟨own, isOwn, described, -⟩ | ⟨left, -⟩
        · exact .inl ⟨own, isOwn, described⟩
        · exact .inr left
      · rintro ⟨line, member, meaningful, strange⟩
        rw [registered] at strange
        obtain ⟨message, unknown⟩ := unknown_of_run run member meaningful strange
        rw [result] at unknown
        exact reported message unknown

theorem typeCheck_refuses {number : List Char} (ones : ∀ c ∈ number, c = '1')
    (long : 4300 < number.length) :
    parseDiagnostics digest isWord .typeCheck "mypy"
      (String.ofList ('a' :: ':' :: (number ++ [':', 'x']))) = none := by
  have characters : ∀ c ∈ 'a' :: ':' :: (number ++ [':', 'x']),
      isLineBreak c = false ∧ isSpace c = false := by
    intro c member
    simp only [List.mem_cons, List.mem_append, List.not_mem_nil, or_false] at member
    rcases member with rfl | rfl | digit | rfl | rfl
    case inr.inr.inl =>
      rw [ones c digit]
      decide
    all_goals decide
  have oneLine : textLines (String.ofList ('a' :: ':' :: (number ++ [':', 'x']))) =
      ['a' :: ':' :: (number ++ [':', 'x'])] := by
    rw [textLines, String.toList_ofList]
    exact linesFrom_unbroken (fun c member => (characters c member).1) (by simp)
  have stripped : strip ('a' :: ':' :: (number ++ [':', 'x'])) =
      'a' :: ':' :: (number ++ [':', 'x']) :=
    stripList_eq_self fun c member => (characters c member).2
  rw [parseDiagnostics_eq_none_iff, oneLine]
  refine ⟨by decide, _, List.mem_singleton_self _, ⟨['a'], number, ['x']⟩, ?_,
    show isRepoRelative (String.ofList ['a']) = true by decide, long⟩
  rw [stripped]
  refine ⟨⟨[], [], by simp, .inl rfl, by simp⟩, ⟨by simp, by simp⟩, ?_, ⟨?_, ?_⟩, by simp⟩
  · intro c first
    rw [← Option.some.inj first]
    decide
  · rintro rfl
    simp at long
  · intro c member
    rw [ones c member]
    decide

/-- The line `a:1…1:x` with 4301 digits is lost. -/
theorem long_line_number_lost : ¬ ∀ digest isWord action program text,
    NoLineLost digest isWord action program text := by
  intro all
  obtain ⟨mappings, found, -⟩ := all id (fun _ => false) .typeCheck "mypy"
    (String.ofList ('a' :: ':' :: (List.replicate 4301 '1' ++ [':', 'x'])))
  rw [typeCheck_refuses (fun c member => (List.mem_replicate.mp member).2)
    (by rw [List.length_replicate]; omega)] at found
  cases found

end Lines

end CodeMigrator
