import CodeMigrator.Core.ScopePatterns

/-!
# Containment of scope patterns

`excludes_are_contained` of `core/scope.py`: every exclude must lie in an include, which
`_pattern_is_contained` decides on the two texts. A directory or a star pattern is contained with
all its paths. The exclude of one file is compared as a path, and its expression also matches that
path with a final newline, which the include need not match.
-/

namespace CodeMigrator
open Lib

/-- `pattern.split("*", 1)` of a pattern with a star. -/
def splitStar (pattern : String) : List Char × List Char :=
  (pattern.toList.takeWhile (· ≠ '*'), (pattern.toList.dropWhile (· ≠ '*')).drop 1)

/-- `_pattern_is_contained`. -/
def patternIsContained (included excluded : String) : Bool :=
  if endsWith included "/" then startsWith excluded included
  else if ¬ hasChar included '*' then included = excluded
  else if hasChar excluded '*' then
    let (includePrefix, includeSuffix) := splitStar included
    let (excludePrefix, excludeSuffix) := splitStar excluded
    includePrefix.isPrefixOf excludePrefix && includeSuffix.isSuffixOf excludeSuffix &&
      !(excludePrefix.drop includePrefix.length).contains '/'
  else scopePatternMatches included excluded

/-- `excludes_are_contained`. -/
def excludesAreContained (includes excludes : List String) : Bool :=
  excludes.all fun excluded => includes.any fun included => patternIsContained included excluded

/-- Some pattern of the list matches the path. -/
def MatchedBy (patterns : List ScopePattern) (path : String) : Prop :=
  ∃ pattern ∈ patterns, scopePatternMatches pattern.text path = true

/-- The pattern of one file. -/
def OneFile (text : List Char) : Prop := '*' ∉ text ∧ text.getLast? ≠ some '/'

/-- Some include describes the file, or the file with a newline after its name. -/
def FileDescribed (includes : List ScopePattern) (file : List Char) : Prop :=
  ∃ pattern ∈ includes, ScopeDescribes pattern.text.toList file ∨
    ScopeDescribes pattern.text.toList (file ++ ['\n'])

/-! ## Two patterns -/

variable {before after path : List Char}

theorem splitStar_eq {pattern : String} (shape : pattern.toList = before ++ '*' :: after)
    (plain : '*' ∉ before) : splitStar pattern = (before, after) := by
  have passed : ∀ c ∈ before, decide (c ≠ '*') = true := by
    intro c member
    rw [decide_eq_true_eq]
    rintro rfl
    exact plain member
  unfold splitStar
  rw [shape, List.takeWhile_append_of_pos passed, List.dropWhile_append_of_pos passed]
  simp

theorem cut_at_last {c : Char} {text : List Char} (member : c ∈ text) :
    ∃ inner rest, text = inner ++ c :: rest ∧ c ∉ rest := by
  obtain ⟨rest, inner, shape, absent⟩ :=
    List.eq_append_cons_of_mem (List.mem_reverse.mpr member)
  refine ⟨inner.reverse, rest.reverse, ?_, ?_⟩
  · rw [← List.reverse_reverse text, shape]
    simp
  · simpa using absent

theorem body_of_file {pattern : String} (last : pattern.toList.getLast? ≠ some '/') :
    scopePatternBody pattern = pattern.toList := by
  rw [scopePatternBody, if_neg (by rwa [endsWith_slash_last])]

/-- The star of a pattern stands in the last segment: what follows the last slash after it would be
a segment without a star. -/
theorem no_slash_after_star (pattern : ScopePattern)
    (shape : scopePatternBody pattern.text = before ++ '*' :: after) (plain : '*' ∉ after) :
    '/' ∉ after := by
  intro slash
  obtain ⟨inner, rest, rfl, noSlash⟩ := cut_at_last slash
  have inside := (pattern.checked.2 (shape ▸ star_mem before _)).2.2
  have parts : splitList '/' (before ++ '*' :: (inner ++ '/' :: rest)) =
      splitList '/' (before ++ '*' :: inner) ++ [rest] := by
    rw [← List.cons_append, ← List.append_assoc, splitList_append_cons,
      splitList_of_not_mem noSlash]
  rw [shape, parts] at inside
  apply plain
  simp [hasChar] at inside
  simp [inside]

theorem matched_directory {names : List Char} (plain : '*' ∉ names) :
    Matched (names ++ ['/']) path ↔ ∃ rest, path = names ++ '/' :: rest := by
  unfold Matched
  rw [if_pos (getLast?_slash names), List.dropLast_concat, matchBody_plain plain]
  constructor
  · intro matched
    obtain ⟨left, rfl, slash⟩ := matched
    obtain ⟨rest, rfl⟩ : ∃ rest, left = '/' :: rest := by
      simpa [List.head?_eq_some_iff] using slash
    exact ⟨rest, rfl⟩
  · intro below
    obtain ⟨rest, rfl⟩ := below
    exact ⟨'/' :: rest, rfl, rfl⟩

theorem matched_file {text : List Char} (file : OneFile text) :
    Matched text path ↔ path = text ∨ path = text ++ ['\n'] := by
  unfold Matched
  rw [if_neg file.2, matchBody_plain file.1]
  simp only [atDollar_iff]
  constructor
  · intro matched
    obtain ⟨left, rfl, rfl | rfl⟩ := matched
    · exact .inl (List.append_nil text)
    · exact .inr rfl
  · intro equal
    rcases equal with rfl | rfl
    · exact ⟨[], (List.append_nil _).symm, .inl rfl⟩
    · exact ⟨['\n'], rfl, .inr rfl⟩

theorem matched_star (plainBefore : '*' ∉ before) (plainAfter : '*' ∉ after)
    (last : (before ++ '*' :: after).getLast? ≠ some '/') :
    Matched (before ++ '*' :: after) path ↔ ∃ part left, part ≠ [] ∧ '/' ∉ part ∧
      path = before ++ part ++ after ++ left ∧ (left = [] ∨ left = ['\n']) := by
  unfold Matched
  rw [if_neg last, matchBody_star plainBefore plainAfter]
  simp only [atDollar_iff]

theorem matched_below {names rest : List Char} (plain : '*' ∉ names)
    (matched : Matched (names ++ '/' :: rest) path) : Matched (names ++ ['/']) path := by
  have inner : '*' ∉ names ++ ['/'] := by simpa using plain
  rw [matched_directory plain]
  by_cases empty : rest = []
  · rw [empty, matched_directory plain] at matched
    exact matched
  · unfold Matched at matched
    split at matched
    · rw [List.append_cons, List.dropLast_append_of_ne_nil empty, matchBody_append inner] at matched
      obtain ⟨left, rfl, -⟩ := matched
      exact ⟨left, by simp⟩
    · rw [List.append_cons, matchBody_append inner] at matched
      obtain ⟨left, rfl, -⟩ := matched
      exact ⟨left, by simp⟩

/-- One star pattern in another: what the star of the outer one stands for takes in what stands
around the inner star. -/
theorem matched_star_of_star {first second : List Char} (plainBefore : '*' ∉ before)
    (plainAfter : '*' ∉ after) (last : (before ++ '*' :: after).getLast? ≠ some '/')
    (plainFirst : '*' ∉ first) (plainSecond : '*' ∉ second)
    (innerLast : (first ++ '*' :: second).getLast? ≠ some '/') (noSlash : '/' ∉ second)
    (starts : before <+: first) (ends : after <:+ second) (segment : '/' ∉ first.drop before.length)
    (matched : Matched (first ++ '*' :: second) path) : Matched (before ++ '*' :: after) path := by
  obtain ⟨start, rfl⟩ := starts
  obtain ⟨rest, rfl⟩ := ends
  rw [List.drop_left] at segment
  rw [List.mem_append, not_or] at noSlash
  rw [matched_star plainFirst plainSecond innerLast] at matched
  rw [matched_star plainBefore plainAfter last]
  obtain ⟨part, left, nonempty, clean, rfl, ending⟩ := matched
  refine ⟨start ++ part ++ rest, left, by simp [nonempty], ?_, by simp, ending⟩
  simp [segment, clean, noSlash.1]

theorem matched_of_contained {included excluded : ScopePattern}
    (contained : patternIsContained included.text excluded.text = true)
    (several : ¬ OneFile excluded.text.toList) (matched : Matched excluded.text.toList path) :
    Matched included.text.toList path := by
  simp only [patternIsContained, endsWith_slash_last, hasChar, List.contains_iff_mem] at contained
  rcases (ScopePattern.shape_iff _).mp included.shape with
    ⟨names, plain, shape⟩ | file | ⟨before, after, plainBefore, plainAfter, last, shape⟩
  · rw [if_pos (by rw [shape, getLast?_slash]), startsWith_iff, shape] at contained
    obtain ⟨rest, same⟩ := contained
    rw [← same, ← List.append_cons] at matched
    rw [shape]
    exact matched_below plain matched
  · rw [if_neg file.2, if_pos file.1, decide_eq_true_eq] at contained
    rwa [contained]
  · rw [if_neg (shape ▸ last), if_neg (not_not_intro (shape ▸ star_mem before after))] at contained
    rcases (ScopePattern.shape_iff _).mp excluded.shape with
      ⟨names, plain, other⟩ | file | ⟨first, second, plainFirst, plainSecond, innerLast, other⟩
    · -- a directory is no path of a star pattern: it ends with a slash
      have unstarred : '*' ∉ excluded.text.toList := by
        rw [other]
        simpa using plain
      rw [if_neg unstarred, scopePatternMatches_matched, shape,
        matched_star plainBefore plainAfter last] at contained
      obtain ⟨-, part, left, nonempty, clean, same, ending⟩ := contained
      have noSlash : '/' ∉ after :=
        no_slash_after_star included ((body_of_file (shape ▸ last)).trans shape) plainAfter
      have lastChar : (part ++ (after ++ left)).getLast? = some '/' := by
        have whole : (before ++ (part ++ (after ++ left))).getLast? = some '/' := by
          rw [← getLast?_slash names, ← other, same]
          simp
        rwa [List.getLast?_append_of_ne_nil _ (by simp [nonempty])] at whole
      have member := List.mem_of_getLast? lastChar
      rcases ending with rfl | rfl <;> simp [clean, noSlash] at member
    · exact absurd file several
    · have starred : '*' ∈ excluded.text.toList := other ▸ star_mem first second
      have noSlash : '/' ∉ second :=
        no_slash_after_star excluded ((body_of_file (other ▸ innerLast)).trans other) plainSecond
      rw [if_pos starred, splitStar_eq shape plainBefore, splitStar_eq other plainFirst] at contained
      simp only [Bool.and_eq_true, Bool.not_eq_true', List.isPrefixOf_iff_prefix,
        List.isSuffixOf_iff_suffix] at contained
      obtain ⟨⟨starts, ends⟩, segment⟩ := contained
      rw [other] at matched
      rw [shape]
      exact matched_star_of_star plainBefore plainAfter last plainFirst plainSecond innerLast
        noSlash starts ends (by simpa using segment) matched

theorem file_matched_of_contained {included excluded : ScopePattern}
    (contained : patternIsContained included.text excluded.text = true)
    (file : OneFile excluded.text.toList) :
    Matched included.text.toList excluded.text.toList := by
  simp only [patternIsContained, endsWith_slash_last, hasChar, List.contains_iff_mem] at contained
  rcases (ScopePattern.shape_iff _).mp included.shape with
    ⟨names, plain, shape⟩ | outer | ⟨before, after, -, -, last, shape⟩
  · rw [if_pos (by rw [shape, getLast?_slash]), startsWith_iff, shape] at contained
    obtain ⟨rest, same⟩ := contained
    rw [shape, matched_directory plain]
    exact ⟨rest, by rw [← same]; simp⟩
  · rw [if_neg outer.2, if_pos outer.1, decide_eq_true_eq] at contained
    rw [contained, matched_file file]
    exact .inl rfl
  · rw [if_neg (shape ▸ last), if_neg (not_not_intro (shape ▸ star_mem before after)),
      if_neg file.1, scopePatternMatches_matched] at contained
    exact contained.2

/-! ## A file with a newline after its name -/

theorem described_of_matched {text file : List Char} (shape : ScopePattern.Shape text)
    (matched : Matched text (file ++ ['\n'])) :
    ScopeDescribes text file ∨ ScopeDescribes text (file ++ ['\n']) := by
  have noSlash : ∀ before, file ++ ['\n'] ≠ before ++ ['/'] := by
    intro before same
    exact absurd (List.append_inj_right' same rfl) (by decide)
  rcases (matched_iff shape noSlash).mp matched with described | newline
  · exact .inr described
  · left
    generalize whole : file ++ ['\n'] = path at newline
    cases newline with
    | same plain _ =>
      rw [List.append_cancel_right whole]
      exact .same plain
    | star nonempty clean _ _ =>
      rw [List.append_cancel_right whole]
      exact .star nonempty clean

theorem matched_of_described {text file : List Char} (shape : ScopePattern.Shape text)
    (isFile : OneFile file)
    (described : ScopeDescribes text file ∨ ScopeDescribes text (file ++ ['\n'])) :
    Matched text (file ++ ['\n']) := by
  have noSlash : ∀ before, file ++ ['\n'] ≠ before ++ ['/'] := by
    intro before same
    exact absurd (List.append_inj_right' same rfl) (by decide)
  rcases described with described | described
  · cases described with
    | same plain => exact (matched_iff shape noSlash).mpr (.inr (.same plain isFile.2))
    | @below directory rest nonempty =>
      refine (matched_iff shape noSlash).mpr (.inl ?_)
      rw [List.append_assoc]
      exact .below (by simp)
    | @star before part after nonempty clean =>
      rcases (ScopePattern.shape_iff _).mp shape with
        ⟨names, plain, same⟩ | whole | ⟨first, second, plainFirst, plainSecond, last, same⟩
      · have starred := star_mem before after
        rw [same] at starred
        exact absurd starred (by simpa using plain)
      · exact absurd (star_mem before after) whole.1
      · rw [same, matched_star plainFirst plainSecond last]
        obtain ⟨rfl, -, rfl⟩ :=
          (List.append_cons_inj_of_notMem plainFirst plainSecond).mp same.symm
        exact ⟨part, ['\n'], nonempty, clean, by simp, .inr rfl⟩
  · exact (matched_iff shape noSlash).mpr (.inl described)

theorem newline_outside_git (pattern : ScopePattern) :
    insideGit (pattern.text ++ "\n") = false := by
  by_contra inside
  rw [Bool.not_eq_false, insideGit, Bool.or_eq_true, beq_iff_eq, startsWith_iff,
    String.toList_append, show "\n".toList = ['\n'] from rfl] at inside
  rcases inside with equal | below
  · have last := congrArg (·.toList.getLast?) equal
    simp at last
  · rcases List.prefix_concat_iff.mp below with whole | ⟨rest, shape⟩
    · exact absurd (congrArg List.getLast? whole) (by simp)
    -- the first name of the pattern is then `.git`, with or without the slash of a directory
    have first : ".git" ∈ (splitList '/' (scopePatternBody pattern.text)).map String.ofList := by
      have cut := fun tail => splitList_append (show '/' ∉ ".git".toList by decide) tail
      have slash : ".git/".toList = ".git".toList ++ ['/'] := rfl
      rw [scopePatternBody, ← shape, slash, List.append_assoc, List.singleton_append]
      split
      · cases rest with
        | nil => decide
        | cons c rest =>
          rw [List.dropLast_append_cons, List.dropLast_cons_cons, cut]
          exact List.mem_cons_self ..
      · rw [cut]
        exact List.mem_cons_self ..
    exact List.any_eq_false.mp pattern.checked.1 ".git" first (by decide)

/-- The paths of contained excludes are paths of the includes exactly where some include describes
each excluded file, with a newline after its name or without. -/
theorem excludes_are_contained_iff {includes excludes : List ScopePattern}
    (contained : excludesAreContained (includes.map (·.text)) (excludes.map (·.text)) = true) :
    (∀ path, MatchedBy excludes path → MatchedBy includes path) ↔
      ∀ excluded ∈ excludes, OneFile excluded.text.toList →
        FileDescribed includes excluded.text.toList := by
  have inside : ∀ excluded ∈ excludes, ∃ included ∈ includes,
      patternIsContained included.text excluded.text = true := by
    simpa [excludesAreContained] using contained
  constructor
  · intro sound excluded member file
    have newline : (excluded.text ++ "\n").toList = excluded.text.toList ++ ['\n'] := by simp
    obtain ⟨included, isIncluded, matched⟩ := sound (excluded.text ++ "\n") ⟨excluded, member, by
      rw [scopePatternMatches_matched, newline, matched_file file]
      exact ⟨newline_outside_git excluded, .inr rfl⟩⟩
    rw [scopePatternMatches_matched, newline] at matched
    exact ⟨included, isIncluded, described_of_matched included.shape matched.2⟩
  · intro described path found
    obtain ⟨excluded, member, matched⟩ := found
    rw [scopePatternMatches_matched] at matched
    obtain ⟨outside, matched⟩ := matched
    obtain ⟨included, isIncluded, within⟩ := inside excluded member
    by_cases file : OneFile excluded.text.toList
    · rcases (matched_file file).mp matched with same | same
      · refine ⟨included, isIncluded, (scopePatternMatches_matched _ _).mpr ⟨outside, ?_⟩⟩
        rw [same]
        exact file_matched_of_contained within file
      · obtain ⟨other, isOther, either⟩ := described excluded member file
        refine ⟨other, isOther, (scopePatternMatches_matched _ _).mpr ⟨outside, ?_⟩⟩
        rw [same]
        exact matched_of_described other.shape file either
    · exact ⟨included, isIncluded, (scopePatternMatches_matched _ _).mpr
        ⟨outside, matched_of_contained within file matched⟩⟩

/-- The Go files of a directory lie in it. -/
theorem go_files_contained : excludesAreContained ["src/"] ["src/*.go"] = true ∧
    MatchedBy [⟨"src/", by decide⟩] "src/main.go" := by
  have contained : excludesAreContained ["src/"] ["src/*.go"] = true := by decide
  have within := (@excludes_are_contained_iff [⟨"src/", by decide⟩] [⟨"src/*.go", by decide⟩]
    contained).mpr ?_
  · exact ⟨contained, within "src/main.go" ⟨_, List.mem_singleton_self _, by decide⟩⟩
  intro excluded member file
  rw [List.mem_singleton] at member
  rw [member] at file
  exact absurd file.1 (by decide)

/-- The include matches the excluded file, but not the file with the newline after it that the
exclude matches as well. -/
theorem newline_file_not_contained : ¬ ∀ includes excludes : List ScopePattern,
    excludesAreContained (includes.map (·.text)) (excludes.map (·.text)) = true →
    ∀ path, MatchedBy excludes path → MatchedBy includes path := by
  intro all
  obtain ⟨included, member, matched⟩ := all [⟨"*.go", by decide⟩] [⟨"x.go\n", by decide⟩]
    (by decide) "x.go\n\n" ⟨_, List.mem_singleton_self _, by decide⟩
  rw [List.mem_singleton] at member
  rw [member] at matched
  exact absurd matched (by decide)

end CodeMigrator
