import CodeMigrator.Verification.Diagnostics

/-!
# Source ranges

`_source_range` and `_range_offsets` of `analysis/pipeline.py`. Line and column are counted by line
feeds when a range is built, and by the boundaries of `str.splitlines` when it is read again.
-/

namespace CodeMigrator
open Lib

/-- `SourcePosition` (`analysis/models.py`). -/
structure SourcePosition where
  line : Nat
  column : Nat
  lineIsPositive : 1 ≤ line

instance : DecidableEq SourcePosition := fun left right =>
  decidable_of_iff (left.line = right.line ∧ left.column = right.column) (by
    cases left
    cases right
    simp)

/-- The order of `(line, column)`. -/
def SourcePosition.Before (left right : SourcePosition) : Prop :=
  left.line < right.line ∨ left.line = right.line ∧ left.column < right.column

instance (left right : SourcePosition) : Decidable (left.Before right) :=
  inferInstanceAs (Decidable (_ ∨ _))

/-- `SourceRange` (`analysis/models.py`). -/
structure SourceRange where
  filePath : RepoRelativePath
  start : SourcePosition
  end_ : SourcePosition
  endIsNotBeforeStart : ¬ end_.Before start
  deriving DecidableEq

/-- `prefix.rsplit("\\n", 1)[-1]`. -/
def lastLine (text : List Char) : List Char := (text.reverse.takeWhile (· ≠ '\n')).reverse

theorem succ_is_positive (count : Nat) : 1 ≤ count + 1 := Nat.le_add_left 1 count

/-- `position` of `_source_range`. -/
def positionAt (text : String) (offset : Nat) : SourcePosition :=
  let before := text.toList.take offset
  ⟨before.count '\n' + 1, (lastLine before).length, succ_is_positive _⟩

/-- `_source_range`; `none` is the validator of the range, which raises. -/
def sourceRange (path : RepoRelativePath) (text : String) (start end_ : Nat) : Option SourceRange :=
  if ordered : ¬ (positionAt text end_).Before (positionAt text start) then
    some ⟨path, positionAt text start, positionAt text end_, ordered⟩
  else none

/-- `offset` of `_range_offsets`. -/
def offsetOf (text : String) (position : SourcePosition) : Nat :=
  let lines := keptLinesFrom isLineBreak '\r' '\n' [] text.toList
  (lines.take (position.line - 1)).flatten.length + position.column

/-- `_range_offsets`. -/
def rangeOffsets (text : String) (range : SourceRange) : Nat × Nat :=
  (offsetOf text range.start, offsetOf text range.end_)

/-- The offset at which the line of an offset begins, by line feeds. -/
def lineStart (text : String) (offset : Nat) : Nat :=
  offset - (lastLine (text.toList.take offset)).length

/-- The range that is built for two offsets is read back as them. -/
def RoundTrips (path : RepoRelativePath) (text : String) (start end_ : Nat) : Prop :=
  ∃ range, sourceRange path text start end_ = some range ∧ rangeOffsets text range = (start, end_)

/-! ## The last line -/

theorem lastLine_append_of_not_mem (text : List Char) {more : List Char} (unbroken : '\n' ∉ more) :
    lastLine (text ++ more) = lastLine text ++ more := by
  have inside : ∀ c ∈ more.reverse, decide (c ≠ '\n') = true := by
    intro c member
    refine decide_eq_true ?_
    rintro rfl
    exact unbroken (List.mem_reverse.mp member)
  rw [lastLine, List.reverse_append, List.takeWhile_append_of_pos inside, List.reverse_append,
    List.reverse_reverse, lastLine]

theorem lastLine_feed (before : List Char) {rest : List Char} (unbroken : '\n' ∉ rest) :
    lastLine (before ++ '\n' :: rest) = rest := by
  have shape : before ++ '\n' :: rest = (before ++ ['\n']) ++ rest := by simp
  rw [shape, lastLine_append_of_not_mem _ unbroken]
  simp [lastLine]

theorem exists_last_feed {text : List Char} (broken : '\n' ∈ text) :
    ∃ before rest, text = before ++ '\n' :: rest ∧ '\n' ∉ rest := by
  obtain ⟨rest, before, shape, unbroken⟩ := List.eq_append_cons_of_mem (List.mem_reverse.mpr broken)
  refine ⟨before.reverse, rest.reverse, ?_, fun member => unbroken (List.mem_reverse.mp member)⟩
  have turned := congrArg List.reverse shape
  simpa using turned

theorem lastLine_append_of_mem (text : List Char) {more : List Char} (broken : '\n' ∈ more) :
    lastLine (text ++ more) = lastLine more := by
  obtain ⟨before, rest, rfl, unbroken⟩ := exists_last_feed broken
  rw [← List.append_assoc, lastLine_feed _ unbroken, lastLine_feed _ unbroken]

theorem length_lastLine_le (text : List Char) : (lastLine text).length ≤ text.length := by
  rw [lastLine, List.length_reverse, ← text.length_reverse]
  exact (List.takeWhile_sublist _).length_le

/-! ## Offsets -/

section Offsets

variable {text : String} {start end_ : Nat}

theorem take_parts (ordered : start ≤ end_) :
    text.toList.take end_ = text.toList.take start ++ (text.toList.drop start).take (end_ - start) := by
  conv_lhs => rw [← Nat.add_sub_cancel' ordered]
  rw [List.take_add]

theorem lineStart_mono (ordered : start ≤ end_) (inside : end_ ≤ text.toList.length) :
    lineStart text start ≤ lineStart text end_ := by
  have more : ((text.toList.drop start).take (end_ - start)).length = end_ - start := by
    simp
    omega
  unfold lineStart
  rw [take_parts ordered]
  by_cases broken : '\n' ∈ (text.toList.drop start).take (end_ - start)
  · have short := length_lastLine_le ((text.toList.drop start).take (end_ - start))
    rw [lastLine_append_of_mem _ broken]
    omega
  · rw [lastLine_append_of_not_mem _ broken, List.length_append, more]
    omega

theorem positionAt_mono (ordered : start ≤ end_) :
    ¬ (positionAt text end_).Before (positionAt text start) := by
  unfold positionAt SourcePosition.Before
  dsimp only
  rw [take_parts ordered, List.count_append]
  by_cases broken : '\n' ∈ (text.toList.drop start).take (end_ - start)
  · have some := List.count_pos_iff.mpr broken
    omega
  · rw [lastLine_append_of_not_mem _ broken, List.length_append]
    omega

/-- An offset is read back exactly if every boundary before its line is a line feed, or a carriage
return with one. -/
theorem offsetOf_positionAt {offset : Nat} (inside : offset ≤ text.toList.length) :
    offsetOf text (positionAt text offset) = offset ↔
      FeedsBefore isLineBreak '\r' '\n' text.toList (lineStart text offset) := by
  have taken : (text.toList.take offset).length = offset := by
    rw [List.length_take]
    omega
  unfold offsetOf positionAt lineStart
  dsimp only
  rw [Nat.add_sub_cancel]
  by_cases broken : '\n' ∈ text.toList.take offset
  · obtain ⟨before, rest, shape, unbroken⟩ := exists_last_feed broken
    have whole : text.toList = before ++ '\n' :: (rest ++ text.toList.drop offset) := by
      rw [← List.cons_append, ← List.append_assoc, ← shape, List.take_append_drop]
    have counted : (text.toList.take offset).count '\n' = (before ++ ['\n']).count '\n' := by
      rw [shape, List.count_append, List.count_append, List.count_cons,
        List.count_eq_zero.mpr unbroken]
      simp
    have long : offset = before.length + 1 + rest.length := by
      rw [← taken, shape, List.length_append, List.length_cons]
      omega
    have lines := @length_take_lines _ _ isLineBreak '\r' '\n' (by decide) (by decide) before
      (rest ++ text.toList.drop offset)
    rw [← whole] at lines
    rw [counted, shape, lastLine_feed _ unbroken, long, Nat.add_sub_cancel, Nat.add_left_inj, lines]
    -- the line feed that ends the line before is no other boundary
    constructor
    · intro feeds index c less found breaks
      rcases Nat.lt_or_eq_of_le (Nat.lt_succ_iff.mp less) with earlier | rfl
      · exact feeds index c earlier found breaks
      · rw [whole, List.getElem?_append_right (le_refl _)] at found
        simp only [Nat.sub_self, List.getElem?_cons_zero, Option.some.injEq] at found
        exact .inl found.symm
    · exact fun feeds index c less => feeds index c (Nat.lt_succ_of_lt less)
  · have first : lastLine (text.toList.take offset) = text.toList.take offset := by
      have whole := lastLine_append_of_not_mem [] broken
      simpa [lastLine] using whole
    rw [List.count_eq_zero.mpr broken, first, taken, Nat.sub_self]
    simp [feedsBefore_zero]

end Offsets

/-- A range round trips exactly if every boundary of `str.splitlines` before the line in which it
ends is a line feed, or a carriage return with one. -/
theorem roundTrips_iff (path : RepoRelativePath) (text : String) (start end_ : Nat)
    (ordered : start ≤ end_) (inside : end_ ≤ text.length) :
    RoundTrips path text start end_ ↔
      FeedsBefore isLineBreak '\r' '\n' text.toList (lineStart text end_) := by
  have inText : end_ ≤ text.toList.length := inside
  have built : sourceRange path text start end_ = some
      ⟨path, positionAt text start, positionAt text end_, positionAt_mono ordered⟩ :=
    dif_pos (positionAt_mono ordered)
  constructor
  · rintro ⟨range, made, read⟩
    cases built.symm.trans made
    exact (offsetOf_positionAt inText).mp (congrArg Prod.snd read)
  · intro feeds
    refine ⟨_, built, ?_⟩
    have atStart := (offsetOf_positionAt (ordered.trans inText)).mpr fun index c less =>
      feeds index c (less.trans_le (lineStart_mono ordered inText))
    exact congrArg₂ Prod.mk atStart ((offsetOf_positionAt inText).mpr feeds)

theorem roundTrips_windows : RoundTrips ⟨"src/main.py", rfl⟩ "a\r\nbc" 1 5 := by
  refine (roundTrips_iff ⟨"src/main.py", rfl⟩ "a\r\nbc" 1 5 (by decide) (by decide)).mpr ?_
  intro index c less found breaks
  have before : index < 3 := less
  obtain _ | _ | _ | index := index
  · cases found
    cases breaks
  · exact .inr ⟨(Option.some.inj found).symm, rfl⟩
  · exact .inl (Option.some.inj found).symm
  · omega

/-- After a form feed a range on the next line is read back as another one. -/
theorem form_feed_not_roundTrips :
    ¬ ∀ (path : RepoRelativePath) (text : String) (start end_ : Nat), start ≤ end_ →
      end_ ≤ text.length → RoundTrips path text start end_ := by
  intro all
  obtain ⟨range, made, read⟩ := all ⟨"src/main.py", rfl⟩ "a\x0cb\nc" 4 5 (by decide) (by decide)
  cases made
  exact absurd read (by decide)

end CodeMigrator
