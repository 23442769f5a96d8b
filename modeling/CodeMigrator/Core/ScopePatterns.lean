import CodeMigrator.Core.Paths
import CodeMigrator.Core.Scope
import CodeMigrator.Lib.Parts
import Mathlib.Tactic.MkIffOfInductiveProp

/-!
# The language of scope patterns

`validate_scope_pattern` of `core/scope.py` and the language of the patterns it accepts: a
path itself, everything below a directory, or the names that differ in the part that the one
star of the final segment stands for. `scope_pattern_matches` realises it by an expression
whose `$` also accepts a final newline.
-/

namespace CodeMigrator
open Lib

/-- `_UNSUPPORTED_PATTERN_CHARS`. -/
def unsupportedPatternChars : List Char :=
  ['?', '[', ']', '{', '}', '(', ')', '|', '+', '^', '$', '\\']

/-- `body` in `validate_scope_pattern`: the pattern without the slash of a directory. -/
def scopePatternBody (pattern : String) : List Char :=
  if endsWith pattern "/" then pattern.toList.dropLast else pattern.toList

/-- `validate_scope_pattern`: the pattern itself, or the text of the `ValueError`. -/
def validateScopePattern (pattern : String) : Except String String :=
  if pattern = "" then .error "scope pattern must be a non-empty string"
  else if hasChar pattern '\x00' then .error "scope pattern must not contain NUL"
  else if startsWith pattern "/" || startsWith pattern "~" || hasChar pattern '\\' then
    .error "scope pattern must be repository-relative"
  else if pattern.toList.any (unsupportedPatternChars.contains ·) then
    .error "scope pattern uses unsupported wildcard or regex syntax"
  else if ['*', '*'] <:+: pattern.toList then
    .error "scope pattern permits only one trailing-segment star"
  else
    let directory := endsWith pattern "/"
    let body := scopePatternBody pattern
    let parts := (splitList '/' body).map String.ofList
    if parts.any (["", ".", "..", ".git"].contains ·) then
      .error "scope pattern contains an unsafe path segment"
    else if parts.head? = some ".git" then .error "scope pattern cannot start with .git"
    else if '*' ∈ body ∧ (directory ∨ 1 < body.count '*' ∨
        !(parts.getLast?.any (hasChar · '*'))) then
      .error "scope star must occur once in the final file segment"
    else .ok pattern

/-- A pattern that `validate_scope_pattern` accepts. -/
structure ScopePattern where
  text : String
  accepted : validateScopePattern text = .ok text

/-- The paths that a pattern describes. -/
@[mk_iff]
inductive ScopeDescribes : List Char → List Char → Prop where
  | same {path} : '*' ∉ path → ScopeDescribes path path
  | below {directory rest} : rest ≠ [] →
      ScopeDescribes (directory ++ ['/']) (directory ++ ['/'] ++ rest)
  | star {before part after} : part ≠ [] → '/' ∉ part →
      ScopeDescribes (before ++ '*' :: after) (before ++ part ++ after)

/-- The path is one that a file pattern describes and a newline after it, where that newline
cannot be counted to the text that the star stands for. -/
@[mk_iff]
inductive ScopeNewline : List Char → List Char → Prop where
  | same {path} : '*' ∉ path → path.getLast? ≠ some '/' → ScopeNewline path (path ++ ['\n'])
  | star {before part after c} : part ≠ [] → '/' ∉ part → c ∈ after → c ≠ '\n' →
      ScopeNewline (before ++ '*' :: after) (before ++ part ++ after ++ ['\n'])

/-! ## What the expression matches -/

theorem starThen_iff (rest : List Char → Bool) (text : List Char) :
    starThen rest text = true ↔
      ∃ part left, part ≠ [] ∧ '/' ∉ part ∧ text = part ++ left ∧ rest left = true := by
  induction text with
  | nil => simp [starThen]
  | cons c text ih =>
    rw [starThen, Bool.and_eq_true, Bool.or_eq_true, ih, bne_iff_ne]
    constructor
    · intro matched
      obtain ⟨noSlash, now | ⟨part, left, nonempty, clean, rfl, later⟩⟩ := matched
      · exact ⟨[c], text, by simp, by simpa using noSlash.symm, rfl, now⟩
      · refine ⟨c :: part, left, by simp, ?_, rfl, later⟩
        rw [List.mem_cons, not_or]
        exact ⟨noSlash.symm, clean⟩
    · intro matched
      obtain ⟨part, left, nonempty, clean, shape, later⟩ := matched
      cases part with
      | nil => exact absurd rfl nonempty
      | cons d part =>
        obtain ⟨rfl, rfl⟩ : c = d ∧ text = part ++ left := by simpa using shape
        rw [List.mem_cons, not_or] at clean
        refine ⟨Ne.symm clean.1, ?_⟩
        by_cases last : part = []
        · left
          simpa [last] using later
        · right
          exact ⟨part, left, last, clean.2, rfl, later⟩

variable {finish : List Char → Bool}

theorem matchBody_cons {c : Char} {pattern : List Char} (plain : c ≠ '*') (text : List Char) :
    matchBody finish (c :: pattern) text = true ↔
      ∃ left, text = c :: left ∧ matchBody finish pattern left = true := by
  cases text with
  | nil => simp [matchBody, plain]
  | cons d text =>
    simp only [matchBody, if_neg plain, Bool.and_eq_true, beq_iff_eq, List.cons.injEq]
    constructor
    · intro matched
      exact ⟨text, ⟨matched.1.symm, rfl⟩, matched.2⟩
    · intro matched
      obtain ⟨_, ⟨same, rfl⟩, later⟩ := matched
      exact ⟨same.symm, later⟩

theorem matchBody_append {start : List Char} (plain : '*' ∉ start) (rest text : List Char) :
    matchBody finish (start ++ rest) text = true ↔
      ∃ left, text = start ++ left ∧ matchBody finish rest left = true := by
  induction start generalizing text with
  | nil => simp
  | cons c start ih =>
    rw [List.mem_cons, not_or] at plain
    rw [List.cons_append, matchBody_cons (Ne.symm plain.1)]
    constructor
    · intro matched
      obtain ⟨_, rfl, later⟩ := matched
      obtain ⟨left, rfl, finished⟩ := (ih plain.2 _).mp later
      exact ⟨left, rfl, finished⟩
    · intro matched
      obtain ⟨left, rfl, finished⟩ := matched
      exact ⟨start ++ left, rfl, (ih plain.2 _).mpr ⟨left, rfl, finished⟩⟩

theorem matchBody_plain {pattern : List Char} (plain : '*' ∉ pattern) (text : List Char) :
    matchBody finish pattern text = true ↔ ∃ left, text = pattern ++ left ∧ finish left = true := by
  have matched : matchBody finish (pattern ++ []) text = true ↔
      ∃ left, text = pattern ++ left ∧ matchBody finish [] left = true :=
    matchBody_append plain [] text
  rwa [List.append_nil] at matched

/-- With a star, a part of a segment stands between what is before the star and what is after
it. -/
theorem matchBody_star {before after : List Char} (plainBefore : '*' ∉ before)
    (plainAfter : '*' ∉ after) (text : List Char) :
    matchBody finish (before ++ '*' :: after) text = true ↔
      ∃ part left, part ≠ [] ∧ '/' ∉ part ∧ text = before ++ part ++ after ++ left ∧
        finish left = true := by
  have here : matchBody finish ('*' :: after) = starThen (matchBody finish after) := by
    funext text
    simp [matchBody]
  rw [matchBody_append plainBefore, here]
  simp only [starThen_iff, matchBody_plain plainAfter]
  constructor
  · intro matched
    obtain ⟨_, rfl, part, _, nonempty, clean, rfl, left, rfl, finished⟩ := matched
    exact ⟨part, left, nonempty, clean, by simp, finished⟩
  · intro matched
    obtain ⟨part, left, nonempty, clean, rfl, finished⟩ := matched
    exact ⟨part ++ (after ++ left), by simp, part, after ++ left, nonempty, clean, rfl, left, rfl,
      finished⟩

theorem atDollar_iff (text : List Char) : atDollar text = true ↔ text = [] ∨ text = ['\n'] := by
  simp [atDollar]

/-! ## The shapes of accepted patterns -/

namespace ScopePattern

theorem checked (pattern : ScopePattern) :
    ((splitList '/' (scopePatternBody pattern.text)).map String.ofList).any
        (["", ".", "..", ".git"].contains ·) = false ∧
      ('*' ∈ scopePatternBody pattern.text → ¬ endsWith pattern.text "/" = true ∧
        (scopePatternBody pattern.text).count '*' ≤ 1 ∧
        (((splitList '/' (scopePatternBody pattern.text)).map String.ofList).getLast?.any
          (hasChar · '*')) = true) := by
  have accepted := pattern.accepted
  unfold validateScopePattern at accepted
  dsimp only at accepted
  repeat' split at accepted
  all_goals try cases accepted
  rename_i parts _ plain
  rw [not_and] at plain
  refine ⟨eq_false_of_ne_true parts, fun starred => ?_⟩
  simpa only [not_or, not_lt, Bool.not_eq_true', Bool.not_eq_false] using plain starred

theorem stars (pattern : ScopePattern) :
    (scopePatternBody pattern.text).count '*' ≤ 1 ∧
      (endsWith pattern.text "/" = true → '*' ∉ scopePatternBody pattern.text) := by
  constructor
  · by_cases starred : '*' ∈ scopePatternBody pattern.text
    · exact (pattern.checked.2 starred).2.1
    · rw [List.count_eq_zero.mpr starred]
      omega
  · intro directory starred
    exact (pattern.checked.2 starred).1 directory

/-- The three kinds of accepted patterns. -/
@[mk_iff]
inductive Shape : List Char → Prop where
  | directory {names} : '*' ∉ names → Shape (names ++ ['/'])
  | file {text} : '*' ∉ text → text.getLast? ≠ some '/' → Shape text
  | star {before after} : '*' ∉ before → '*' ∉ after →
      (before ++ '*' :: after).getLast? ≠ some '/' → Shape (before ++ '*' :: after)

theorem endsWith_slash_iff (text : String) :
    endsWith text "/" = true ↔ ∃ names, text.toList = names ++ ['/'] := by
  rw [endsWith, List.isSuffixOf_iff_suffix]
  constructor
  · intro suffix
    obtain ⟨names, shape⟩ := suffix
    exact ⟨names, shape.symm⟩
  · intro ending
    obtain ⟨names, shape⟩ := ending
    exact ⟨names, shape.symm⟩

theorem shape (pattern : ScopePattern) : Shape pattern.text.toList := by
  obtain ⟨few, clean⟩ := pattern.stars
  by_cases directory : endsWith pattern.text "/" = true
  · have plain := clean directory
    rw [scopePatternBody, if_pos directory] at plain
    obtain ⟨names, shape⟩ := (endsWith_slash_iff _).mp directory
    rw [shape, List.dropLast_concat] at plain
    rw [shape]
    exact Shape.directory plain
  · rw [scopePatternBody, if_neg directory] at few
    have noSlash : pattern.text.toList.getLast? ≠ some '/' := by
      intro last
      apply directory
      rw [endsWith_slash_iff]
      exact ⟨_, (List.dropLast_append_getLast? _ last).symm⟩
    by_cases starred : '*' ∈ pattern.text.toList
    · obtain ⟨before, after, shape⟩ := List.append_of_mem starred
      rw [shape] at few noSlash ⊢
      rw [List.count_append, List.count_cons_self] at few
      refine Shape.star ?_ ?_ noSlash
      · apply List.count_eq_zero.mp
        omega
      · apply List.count_eq_zero.mp
        omega
    · exact Shape.file starred noSlash

end ScopePattern

/-! ## The language -/

theorem eq_of_cons_eq_concat {c d : Char} {rest : List Char} (same : c :: rest = rest ++ [d]) :
    ∀ x ∈ c :: rest, x = d := by
  induction rest generalizing c with
  | nil => simpa using same
  | cons e rest ih =>
    obtain ⟨rfl, same⟩ : c = e ∧ e :: rest = rest ++ [d] := by simpa using same
    have others := ih same
    intro x member
    rcases List.mem_cons.mp member with rfl | later
    · exact others _ (List.mem_cons_self ..)
    · exact others x later

/-- What follows the star cannot be cut one character later, unless it repeats that
character. -/
theorem suffix_repeats {part after other : List Char} {d : Char}
    (same : part ++ after = other ++ after ++ [d]) : ∀ x ∈ after, x = d := by
  cases after with
  | nil => simp
  | cons c rest =>
    have parts : part ++ c :: rest = (other ++ [c]) ++ (rest ++ [d]) := by simpa using same
    exact eq_of_cons_eq_concat (List.append_inj_right' parts (by simp))

theorem RepoRelativePath.not_insideGit (path : RepoRelativePath) : insideGit path.text = false := by
  have safe := path.safe
  simp only [isRepoRelative, Bool.and_eq_true, Bool.not_eq_true', List.any_eq_false] at safe
  have absent : ".git" ∉ split path.text '/' := by
    intro member
    exact safe.2 ".git" member (by decide)
  by_contra inside
  rw [Bool.not_eq_false, insideGit, Bool.or_eq_true, beq_iff_eq, startsWith_iff] at inside
  apply absent
  rcases inside with equal | ⟨rest, shape⟩
  · rw [equal]
    decide
  · have cut := splitList_append (show '/' ∉ ".git".toList by decide) rest
    have parts : ".git".toList ++ '/' :: rest = ".git/".toList ++ rest := rfl
    rw [split, ← shape, ← parts, cut, List.map_cons]
    exact List.mem_cons_self ..

/-- The expression of a pattern. -/
def Matched (text path : List Char) : Prop :=
  if text.getLast? = some '/' then
    matchBody (fun text => text.head? == some '/') text.dropLast path = true
  else matchBody atDollar text path = true

theorem endsWith_slash_last (pattern : String) :
    endsWith pattern "/" = true ↔ pattern.toList.getLast? = some '/' := by
  rw [ScopePattern.endsWith_slash_iff]
  constructor
  · intro shape
    obtain ⟨names, shape⟩ := shape
    simp [shape]
  · intro last
    exact ⟨_, (List.dropLast_append_getLast? _ last).symm⟩

theorem scopePatternMatches_matched (pattern path : String) :
    scopePatternMatches pattern path = true ↔
      insideGit path = false ∧ Matched pattern.toList path.toList := by
  unfold scopePatternMatches Matched
  simp only [endsWith_slash_last]
  by_cases git : insideGit path = true
  · simp [git]
  · rw [if_neg git]
    split <;> simp [git]

theorem star_mem (before after : List Char) : '*' ∈ before ++ '*' :: after := by simp

theorem getLast?_slash (names : List Char) : (names ++ ['/']).getLast? = some '/' := by simp

variable {path text : List Char}

theorem matches_directory {names : List Char} (plain : '*' ∉ names)
    (noSlash : ∀ before, path ≠ before ++ ['/']) :
    matchBody (fun text => text.head? == some '/') names path = true ↔
      ScopeDescribes (names ++ ['/']) path ∨ ScopeNewline (names ++ ['/']) path := by
  have unstarred : '*' ∉ names ++ ['/'] := by simpa using plain
  rw [matchBody_plain plain, scopeDescribes_iff, scopeNewline_iff]
  constructor
  · intro matched
    obtain ⟨left, rfl, slash⟩ := matched
    obtain ⟨rest, rfl⟩ : ∃ rest, left = '/' :: rest := by
      simpa [List.head?_eq_some_iff] using slash
    left; right; left
    refine ⟨names, rest, ?_, rfl, by simp⟩
    intro empty
    exact noSlash names (by rw [empty])
  · intro described
    rcases described with (⟨-, same⟩ | ⟨directory, rest, -, same, rfl⟩ | ⟨before, _, after, -, -, same, -⟩) |
      ⟨-, last, -⟩ | ⟨before, _, after, _, -, -, -, -, same, -⟩
    · exact absurd same (noSlash names)
    · rw [List.append_cancel_right same]
      exact ⟨'/' :: rest, by simp, rfl⟩
    · exact absurd (same ▸ star_mem before after) unstarred
    · exact absurd (getLast?_slash names) last
    · exact absurd (same ▸ star_mem before after) unstarred

theorem matches_file (plain : '*' ∉ text) (last : text.getLast? ≠ some '/') :
    matchBody atDollar text path = true ↔ ScopeDescribes text path ∨ ScopeNewline text path := by
  rw [matchBody_plain plain, scopeDescribes_iff, scopeNewline_iff]
  constructor
  · intro matched
    obtain ⟨left, rfl, finished⟩ := matched
    rcases (atDollar_iff left).mp finished with rfl | rfl
    · left; left
      exact ⟨plain, by simp⟩
    · right; left
      exact ⟨plain, last, rfl⟩
  · intro described
    rcases described with (⟨-, rfl⟩ | ⟨directory, _, -, rfl, -⟩ | ⟨before, _, after, -, -, rfl, -⟩) |
      ⟨-, -, rfl⟩ | ⟨before, _, after, _, -, -, -, -, rfl, -⟩
    · exact ⟨[], by simp, rfl⟩
    · exact absurd (getLast?_slash directory) last
    · exact absurd (star_mem before after) plain
    · exact ⟨['\n'], rfl, rfl⟩
    · exact absurd (star_mem before after) plain

theorem matches_star {before after : List Char} (plainBefore : '*' ∉ before)
    (plainAfter : '*' ∉ after) (last : (before ++ '*' :: after).getLast? ≠ some '/') :
    matchBody atDollar (before ++ '*' :: after) path = true ↔
      ScopeDescribes (before ++ '*' :: after) path ∨
        ScopeNewline (before ++ '*' :: after) path := by
  rw [matchBody_star plainBefore plainAfter, scopeDescribes_iff, scopeNewline_iff]
  have starred := star_mem before after
  constructor
  · intro matched
    obtain ⟨part, left, nonempty, clean, rfl, finished⟩ := matched
    rcases (atDollar_iff left).mp finished with rfl | rfl
    · left; right; right
      exact ⟨before, part, after, nonempty, clean, rfl, by simp⟩
    · by_cases other : ∃ c ∈ after, c ≠ '\n'
      · obtain ⟨c, member, different⟩ := other
        right; right
        exact ⟨before, part, after, c, nonempty, clean, member, different, rfl, rfl⟩
      · -- the newline is counted to the part: what follows the star is newlines only
        have newlines : after = List.replicate after.length '\n' := by
          apply List.eq_replicate_of_mem
          intro c member
          by_contra different
          exact other ⟨c, member, different⟩
        have moved : after ++ ['\n'] = ['\n'] ++ after := by
          rw [newlines]
          simp [← List.replicate_succ, ← List.replicate_succ']
        left; right; right
        refine ⟨before, part ++ ['\n'], after, by simp, ?_, rfl, ?_⟩
        · simpa using clean
        · simp only [List.append_assoc, moved]
  · intro described
    rcases described with (⟨plain, -⟩ | ⟨directory, _, -, same, -⟩ |
        ⟨first, part, second, nonempty, clean, same, rfl⟩) |
      ⟨plain, -⟩ | ⟨first, part, second, _, nonempty, clean, -, -, same, rfl⟩
    · exact absurd starred plain
    · exact absurd (same ▸ getLast?_slash directory) last
    · obtain ⟨rfl, -, rfl⟩ := (List.append_cons_inj_of_notMem plainBefore plainAfter).mp same
      exact ⟨part, [], nonempty, clean, by simp, rfl⟩
    · exact absurd starred plain
    · obtain ⟨rfl, -, rfl⟩ := (List.append_cons_inj_of_notMem plainBefore plainAfter).mp same
      exact ⟨part, ['\n'], nonempty, clean, rfl, rfl⟩

theorem matched_iff (shape : ScopePattern.Shape text) (noSlash : ∀ before, path ≠ before ++ ['/']) :
    Matched text path ↔ ScopeDescribes text path ∨ ScopeNewline text path := by
  unfold Matched
  cases shape with
  | directory plain =>
    rw [if_pos (getLast?_slash _), List.dropLast_concat]
    exact matches_directory plain noSlash
  | file plain last =>
    rw [if_neg last]
    exact matches_file plain last
  | star plainBefore plainAfter last =>
    rw [if_neg last]
    exact matches_star plainBefore plainAfter last

/-- The expression matches what the pattern describes, and some of it with a newline after
it. -/
theorem scopePatternMatches_iff (pattern : ScopePattern) (path : RepoRelativePath) :
    scopePatternMatches pattern.text path.text = true ↔
      ScopeDescribes pattern.text.toList path.text.toList ∨
        ScopeNewline pattern.text.toList path.text.toList := by
  rw [scopePatternMatches_matched, matched_iff pattern.shape path.not_ends_with_slash]
  simp [path.not_insideGit]

theorem ScopeNewline.not_describes (shape : ScopePattern.Shape text)
    (newline : ScopeNewline text path) : ¬ ScopeDescribes text path := by
  intro described
  rw [scopeDescribes_iff] at described
  rw [scopeNewline_iff] at newline
  cases shape with
  | @directory names plain =>
    have unstarred : '*' ∉ names ++ ['/'] := by simpa using plain
    rcases newline with ⟨-, last, -⟩ | ⟨before, _, after, _, -, -, -, -, same, -⟩
    · exact last (getLast?_slash names)
    · exact unstarred (same ▸ star_mem before after)
  | file plain last =>
    rcases newline with ⟨-, -, rfl⟩ | ⟨before, _, after, _, -, -, -, -, rfl, -⟩
    · rcases described with ⟨-, same⟩ | ⟨directory, _, -, rfl, -⟩ | ⟨before, _, after, -, -, rfl, -⟩
      · simp at same
      · exact last (getLast?_slash directory)
      · exact plain (star_mem before after)
    · exact plain (star_mem before after)
  | @star before after plainBefore plainAfter last =>
    have starred := star_mem before after
    rcases newline with ⟨plain, -⟩ | ⟨first, part, second, c, -, -, member, different, same, rfl⟩
    · exact plain starred
    obtain ⟨rfl, -, rfl⟩ := (List.append_cons_inj_of_notMem plainBefore plainAfter).mp same
    rcases described with ⟨plain, -⟩ | ⟨directory, _, -, same, -⟩ |
      ⟨third, other, fourth, -, -, same, equal⟩
    · exact plain starred
    · exact last (same ▸ getLast?_slash directory)
    · obtain ⟨rfl, -, rfl⟩ := (List.append_cons_inj_of_notMem plainBefore plainAfter).mp same
      have tails : other ++ after = part ++ after ++ ['\n'] := by
        simpa only [List.append_assoc, List.append_cancel_left_eq] using equal.symm
      exact different (suffix_repeats tails c member)

/-- `scope_pattern_matches` is true of exactly the described paths, but for those with a
newline at the end that `$` passes over. -/
theorem scope_pattern_matches_describes_iff (pattern : ScopePattern) (path : RepoRelativePath) :
    (scopePatternMatches pattern.text path.text = true ↔
        ScopeDescribes pattern.text.toList path.text.toList) ↔
      ¬ ScopeNewline pattern.text.toList path.text.toList := by
  rw [scopePatternMatches_iff]
  constructor
  · intro equivalent newline
    exact newline.not_describes pattern.shape (equivalent.mp (Or.inr newline))
  · intro absent
    constructor
    · intro matched
      exact matched.resolve_right absent
    · exact Or.inl

/-- The pattern of one file also matches the name of that file with a newline after it. -/
theorem scope_pattern_matches_newline :
    ∃ (pattern : ScopePattern) (path : RepoRelativePath),
      scopePatternMatches pattern.text path.text = true ∧
        ¬ ScopeDescribes pattern.text.toList path.text.toList := by
  refine ⟨⟨"setup.py", by decide⟩, ⟨"setup.py\n", by decide⟩, by decide, ?_⟩
  intro described
  rw [scopeDescribes_iff] at described
  rcases described with ⟨-, same⟩ | ⟨directory, _, -, same, -⟩ | ⟨before, _, after, -, -, same, -⟩
  · exact absurd same (by decide)
  · have last := getLast?_slash directory
    rw [← same] at last
    exact absurd last (by decide)
  · have starred := star_mem before after
    rw [← same] at starred
    exact absurd starred (by decide)

end CodeMigrator
