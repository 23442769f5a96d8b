import CodeMigrator.Verification.Diagnostics
import CodeMigrator.Lib.Decimal

/-!
# The grammars of the diagnostic lines

The two regular expressions of `verification/diagnostics.py` as grammars: what the text of a line
is put together from. The matchers find a match exactly in the lines of their grammar, and the
groups they return are those of the line.
-/

namespace CodeMigrator
open Lib

/-- A text that is not empty and of one kind of characters: `[kind]+`. -/
def IsRun (kind : Char → Bool) (text : List Char) : Prop := text ≠ [] ∧ ∀ c ∈ text, kind c = true

/-- The language of `_FILE_LINE` with the groups of a match. -/
structure IsFileLine (text : List Char) (groups : FileLineMatch) : Prop where
  written : ∃ column space, text =
    groups.path ++ ':' :: (groups.line ++ (column ++ ':' :: (space ++ groups.message))) ∧
      (column = [] ∨ ∃ digits, column = ':' :: digits ∧ IsRun isDecimal digits) ∧
      ∀ c ∈ space, isSpace c = true
  path : IsRun (· ≠ ':') groups.path
  pathStart : ∀ c ∈ groups.path.head?, isSpace c = false
  line : IsRun isDecimal groups.line
  message : groups.message ≠ []

/-- The language of `_PYTEST_FAILURE` with the groups of a match. -/
structure IsPytestFailure (text : List Char) (groups : PytestMatch) : Prop where
  written : ∃ word space reason, text = word ++ (space ++ (groups.test ++ reason)) ∧
    word.map foldLetter = "failed".toList ∧ IsRun isSpace space ∧
      ((reason = [] ∧ groups.message = none) ∨ ∃ before behind message,
        reason = before ++ '-' :: (behind ++ message) ∧ IsRun isSpace before ∧
          IsRun isSpace behind ∧ groups.message = some message)
  test : IsRun (!isSpace ·) groups.test

/-! ## File lines -/

theorem matchMessage_spec (rest : List Char) :
    (matchMessage rest = none ↔ rest = []) ∧ ∀ message, matchMessage rest = some message →
      message ≠ [] ∧ ∃ space, rest = space ++ message ∧ ∀ c ∈ space, isSpace c = true := by
  unfold matchMessage
  by_cases only : rest.dropWhile isSpace = []
  · have spaces : ∀ c ∈ rest, isSpace c = true := List.dropWhile_eq_nil_iff.mp only
    rw [if_neg (not_not.mpr only)]
    cases reversed : rest.getLast? with
    | none =>
      rw [List.getLast?_eq_none_iff] at reversed
      exact ⟨by simp [reversed], by simp⟩
    | some last =>
      have shape := List.dropLast_append_getLast? last reversed
      have nonempty : rest ≠ [] := by
        intro none
        simp [none] at reversed
      refine ⟨by simp [nonempty], ?_⟩
      intro message found
      obtain rfl : [last] = message := by simpa using found
      refine ⟨by simp, rest.dropLast, shape.symm, ?_⟩
      intro c member
      exact spaces c (List.mem_of_mem_dropLast member)
  · rw [if_pos only]
    constructor
    · simp only [reduceCtorEq, false_iff]
      rintro rfl
      exact only rfl
    · intro message found
      obtain rfl : rest.dropWhile isSpace = message := by simpa using found
      refine ⟨only, rest.takeWhile isSpace, List.takeWhile_append_dropWhile.symm, ?_⟩
      intro c member
      exact List.mem_takeWhile_imp member

theorem matchColumn_spec (rest : List Char) :
    (matchColumn rest = none ↔ rest = []) ∧ ∀ message, matchColumn rest = some message →
      message ≠ [] ∧ ∃ column space, ':' :: rest = column ++ ':' :: (space ++ message) ∧
        (column = [] ∨ ∃ digits, column = ':' :: digits ∧ IsRun isDecimal digits) ∧
          ∀ c ∈ space, isSpace c = true := by
  have plain := matchMessage_spec rest
  constructor
  · rw [← plain.1, matchColumn]
    constructor
    · intro missing
      exact (Option.or_eq_none_iff.mp missing).2
    · intro missing
      rw [plain.1] at missing
      subst missing
      simp [matchMessage]
  · intro message found
    rcases Option.or_eq_some_iff.mp found with column | ⟨-, bare⟩
    · split at column
      · cases column
      · next digits =>
        split at column
        · next more shape =>
          obtain ⟨nonempty, space, written, spaces⟩ := (matchMessage_spec more).2 message column
          refine ⟨nonempty, ':' :: rest.takeWhile isDecimal, space, ?_, .inr ⟨_, rfl, digits, ?_⟩,
            spaces⟩
          · rw [← written, List.cons_append, ← shape, List.takeWhile_append_dropWhile]
          · intro c member
            exact List.mem_takeWhile_imp member
        · cases column
    · obtain ⟨nonempty, space, written, spaces⟩ := plain.2 message bare
      exact ⟨nonempty, [], space, by rw [written]; rfl, .inl rfl, spaces⟩

theorem matchFileLine_sound {text : List Char} {groups : FileLineMatch}
    (found : matchFileLine text = some groups) : IsFileLine text groups := by
  rw [matchFileLine] at found
  split at found
  · cases found
  next start =>
  split at found
  next colon afterPath behind =>
    split at found
    · cases found
    next digits =>
    split at found
    next rest more =>
      obtain ⟨message, column, rfl⟩ := Option.map_eq_some_iff.mp found
      obtain ⟨nonempty, columnText, space, written, columns, spaces⟩ :=
        (matchColumn_spec rest).2 message column
      have first : colon = ':' := by
        have stopped := head_dropWhile colon (by rw [behind]; rfl)
        simpa using stopped
      have pathFirst : ∃ c path, text.takeWhile (· ≠ ':') = c :: path ∧ isSpace c = false := by
        cases text with
        | nil => simp at start
        | cons c tail =>
          simp only [List.head?_cons, Option.all_some, Bool.or_eq_true, beq_iff_eq, not_or,
            Bool.not_eq_true] at start
          exact ⟨c, tail.takeWhile (· ≠ ':'), by simp [start.1], start.2⟩
      obtain ⟨c, path, pathShape, unspaced⟩ := pathFirst
      refine ⟨⟨columnText, space, ?_, columns, spaces⟩, ⟨by rw [pathShape]; simp, ?_⟩, ?_,
        ⟨digits, ?_⟩, nonempty⟩
      · subst first
        rw [← written, ← more, List.takeWhile_append_dropWhile, ← behind,
          List.takeWhile_append_dropWhile]
      · intro d member
        exact List.mem_takeWhile_imp (p := (· ≠ ':')) member
      · intro d member
        simp only [pathShape, List.head?_cons, Option.mem_some_iff] at member
        rw [← member]
        exact unspaced
      · intro d member
        exact List.mem_takeWhile_imp member
    · cases found
  · cases found

theorem matchFileLine_complete {text : List Char} {groups : FileLineMatch}
    (line : IsFileLine text groups) :
    ∃ message, matchFileLine text = some ⟨groups.path, groups.line, message⟩ := by
  obtain ⟨⟨column, space, rfl, columns, spaces⟩, path, pathStart, digits, nonempty⟩ := line
  -- behind the line number stands a colon and something more
  obtain ⟨rest, more, left⟩ : ∃ rest, column ++ ':' :: (space ++ groups.message) = ':' :: rest ∧
      rest ≠ [] := by
    rcases columns with rfl | ⟨numbers, rfl, run⟩
    · exact ⟨_, rfl, by simp [nonempty]⟩
    · exact ⟨_, rfl, by simp [run.1]⟩
  obtain ⟨message, matched⟩ : ∃ message, matchColumn rest = some message := by
    rw [← Option.isSome_iff_exists, Option.isSome_iff_ne_none, Ne, (matchColumn_spec rest).1]
    exact left
  refine ⟨message, ?_⟩
  rw [more]
  have pathTake : (groups.path ++ ':' :: (groups.line ++ ':' :: rest)).takeWhile (· ≠ ':') =
      groups.path := takeWhile_run (by simpa using path.2) (by simp)
  have pathDrop : (groups.path ++ ':' :: (groups.line ++ ':' :: rest)).dropWhile (· ≠ ':') =
      ':' :: (groups.line ++ ':' :: rest) := dropWhile_run (by simpa using path.2) (by simp)
  have lineTake : (groups.line ++ ':' :: rest).takeWhile isDecimal = groups.line :=
    takeWhile_run digits.2 (by simp; decide)
  have lineDrop : (groups.line ++ ':' :: rest).dropWhile isDecimal = ':' :: rest :=
    dropWhile_run digits.2 (by simp; decide)
  have starts : (groups.path ++ ':' :: (groups.line ++ ':' :: rest)).head?.all
      (fun first => first == ':' || isSpace first) = false := by
    cases shape : groups.path with
    | nil => exact absurd shape path.1
    | cons c tail =>
      have first := path.2 c (by simp [shape])
      have unspaced := pathStart c (by simp [shape])
      simpa [unspaced] using first
  rw [matchFileLine, if_neg (by rw [starts]; decide), pathDrop]
  simp only [lineTake, if_neg digits.1, lineDrop, matched, Option.map_some, pathTake]

theorem matchFileLine_eq_none_iff (text : List Char) :
    matchFileLine text = none ↔ ∀ groups, ¬ IsFileLine text groups := by
  constructor
  · intro missing groups line
    obtain ⟨message, found⟩ := matchFileLine_complete line
    rw [missing] at found
    cases found
  · intro outside
    cases found : matchFileLine text with
    | none => rfl
    | some groups => exact absurd (matchFileLine_sound found) (outside groups)

theorem intOfDigits_eq_none_iff {digits : List Char} (run : IsRun isDecimal digits) :
    intOfDigits digits = none ↔ 4300 < digits.length := by
  unfold intOfDigits
  by_cases long : 4300 < digits.length
  · simp [long]
  · have ascii : ∀ c ∈ digits.map toAscii, c.isDigit = true := by
      intro c member
      obtain ⟨d, inside, rfl⟩ := List.mem_map.mp member
      exact run.2 d inside
    have read := intBase10_decimal (by simpa using run.1) ascii
    have same : intBase10 digits = intBase10 (digits.map toAscii) := by
      have twice : (digits.map toAscii).map toAscii = digits.map toAscii := by
        apply (List.map_congr_left (g := id) _).trans (List.map_id _)
        intro c member
        have digit := ascii c member
        simp only [Char.isDigit, Bool.and_eq_true, decide_eq_true_eq] at digit
        have small : c.toNat ≤ 57 := digit.2
        exact if_pos (by omega)
      rw [intBase10, intBase10, twice]
    rw [if_neg long, same, read]
    simp [long]

/-! ## Failed tests -/

variable {groups : PytestMatch}

theorem matchReason_spec {test tail : List Char} (spaced : ∀ c ∈ tail.head?, isSpace c = true) :
    matchReason test tail = some groups ↔ groups.test = test ∧
      ((tail = [] ∧ groups.message = none) ∨ ∃ before behind message,
        tail = before ++ '-' :: (behind ++ message) ∧ IsRun isSpace before ∧
          IsRun isSpace behind ∧ (∀ c ∈ message.head?, isSpace c = false) ∧
            groups.message = some message) := by
  unfold matchReason
  by_cases none : tail = []
  · subst none
    rw [if_pos rfl]
    constructor
    · intro found
      obtain rfl : (⟨test, Option.none⟩ : PytestMatch) = groups := by simpa using found
      exact ⟨rfl, .inl ⟨rfl, rfl⟩⟩
    · intro described
      obtain ⟨rfl, ⟨-, message⟩ | ⟨before, behind, message, shape, -⟩⟩ := described
      · rw [← message]
      · simp at shape
  · rw [if_neg none]
    constructor
    · intro found
      split at found
      next more behindSpace =>
        split at found
        · cases found
        next gap =>
          obtain rfl : (⟨test, some (more.dropWhile isSpace)⟩ : PytestMatch) = groups := by
            simpa using found
          refine ⟨rfl, .inr ⟨tail.takeWhile isSpace, more.takeWhile isSpace,
            more.dropWhile isSpace, ?_, ⟨?_, ?_⟩, ⟨gap, ?_⟩, head_dropWhile, rfl⟩⟩
          · rw [List.takeWhile_append_dropWhile, ← behindSpace, List.takeWhile_append_dropWhile]
          · cases tail with
            | nil => exact absurd rfl none
            | cons c rest => simp [spaced c rfl]
          · intro c member
            exact List.mem_takeWhile_imp member
          · intro c member
            exact List.mem_takeWhile_imp member
      · cases found
    · intro described
      obtain ⟨rfl, ⟨empty, -⟩ | ⟨before, behind, message, rfl, gap, gap', start, same⟩⟩ := described
      · exact absurd empty none
      · have dropped : (before ++ '-' :: (behind ++ message)).dropWhile isSpace =
            '-' :: (behind ++ message) := dropWhile_run gap.2 (by simp; decide)
        rw [dropped]
        simp only [takeWhile_run gap'.2 start, if_neg gap'.1, dropWhile_run gap'.2 start, ← same]

theorem matchPytest_sound {text : List Char} (found : matchPytest text = some groups) :
    IsPytestFailure text groups := by
  rw [matchPytest] at found
  split at found
  · cases found
  next word =>
  split at found
  · cases found
  next gap =>
  dsimp only at found
  split at found
  · cases found
  next test =>
    have spaced : ∀ c ∈ ((((text.drop 6).dropWhile isSpace).dropWhile (!isSpace ·)).head?),
        isSpace c = true := by
      intro c first
      simpa using head_dropWhile c first
    obtain ⟨same, reason⟩ := (matchReason_spec spaced).mp found
    refine ⟨⟨text.take 6, (text.drop 6).takeWhile isSpace,
      ((text.drop 6).dropWhile isSpace).dropWhile (!isSpace ·), ?_, not_not.mp word, ⟨gap, ?_⟩, ?_⟩, ?_⟩
    · rw [same, List.takeWhile_append_dropWhile, List.takeWhile_append_dropWhile,
        List.take_append_drop]
    · intro c member
      exact List.mem_takeWhile_imp member
    · rcases reason with none | ⟨before, behind, message, shape, gap, gap', -, message'⟩
      · exact .inl none
      · exact .inr ⟨before, behind, message, shape, gap, gap', message'⟩
    · rw [same]
      refine ⟨test, ?_⟩
      intro c member
      exact List.mem_takeWhile_imp (p := (!isSpace ·)) member

theorem matchReason_complete {test reason : List Char} {message : Option (List Char)}
    (written : (reason = [] ∧ message = none) ∨ ∃ before behind text,
      reason = before ++ '-' :: (behind ++ text) ∧ IsRun isSpace before ∧
        IsRun isSpace behind ∧ message = some text) :
    (∀ c ∈ reason.head?, isSpace c = true) ∧
      ∃ found, matchReason test reason = some ⟨test, found⟩ := by
  rcases written with ⟨rfl, -⟩ | ⟨before, behind, text, rfl, gap, gap', -⟩
  · exact ⟨by simp, none, rfl⟩
  · have spaced : ∀ c ∈ (before ++ '-' :: (behind ++ text)).head?, isSpace c = true := by
      cases before with
      | nil => exact absurd rfl gap.1
      | cons c rest => simpa using gap.2 c
    refine ⟨spaced, some (text.dropWhile isSpace), (matchReason_spec spaced).mpr ⟨rfl, .inr
      ⟨before, behind ++ text.takeWhile isSpace, text.dropWhile isSpace, ?_, gap, ⟨?_, ?_⟩,
        head_dropWhile, rfl⟩⟩⟩
    · rw [List.append_assoc, List.takeWhile_append_dropWhile]
    · simp [gap'.1]
    · intro c member
      rcases List.mem_append.mp member with first | later
      · exact gap'.2 c first
      · exact List.mem_takeWhile_imp later

theorem matchPytest_complete {text : List Char} (line : IsPytestFailure text groups) :
    ∃ message, matchPytest text = some ⟨groups.test, message⟩ := by
  obtain ⟨⟨word, space, reason, rfl, failed, gap, reasons⟩, test⟩ := line
  obtain ⟨spaced, message, found⟩ := @matchReason_complete groups.test _ _ reasons
  have six : word.length = 6 := by
    have lengths := congrArg List.length failed
    simpa using lengths
  have testStart : ∀ c ∈ (groups.test ++ reason).head?, isSpace c = false := by
    cases shape : groups.test with
    | nil => exact absurd shape test.1
    | cons c rest =>
      have unspaced := test.2 c (by simp [shape])
      simpa using unspaced
  have reasonStart : ∀ c ∈ reason.head?, (!isSpace c) = false := by
    intro c first
    simp [spaced c first]
  refine ⟨message, ?_⟩
  rw [matchPytest, List.take_left' six, List.drop_left' six, if_neg (not_not.mpr failed),
    takeWhile_run gap.2 testStart, if_neg gap.1, dropWhile_run gap.2 testStart]
  simp only [takeWhile_run test.2 reasonStart, if_neg test.1, dropWhile_run test.2 reasonStart,
    found]

theorem matchPytest_eq_none_iff (text : List Char) :
    matchPytest text = none ↔ ∀ groups, ¬ IsPytestFailure text groups := by
  constructor
  · intro missing groups line
    obtain ⟨message, found⟩ := matchPytest_complete line
    rw [missing] at found
    cases found
  · intro outside
    cases found : matchPytest text with
    | none => rfl
    | some groups => exact absurd (matchPytest_sound found) (outside groups)

end CodeMigrator
