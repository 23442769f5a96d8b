import CodeMigrator.Lib.Decimal
import CodeMigrator.Workspace.Git

/-!
# File sets

The tree that `apply_file_set` of `workspace/git.py` writes: the differences of a candidate from
its baseline, put into an index that was read from the expected verified tree. Additions are
passed as arguments, deletions as a text that `update-index --index-info` reads line by line. The
index is the map of its paths.
-/

namespace CodeMigrator
open Lib

namespace GitIndex

/-! ## `update-index --index-info` -/

/-- A quoted path, after the quote. -/
def unquote : List Char → Option (List Char)
  | [] => none
  | c :: rest =>
    if c = '"' then some []
    -- an escape, which no workspace path contains
    else if c = '\\' then none
    else (unquote rest).map (c :: ·)

/-- The path of a record. -/
def recordPath : List Char → Option (List Char)
  | [] => some []
  | c :: rest => if c = '"' then unquote rest else some (c :: rest)

/-- The stage at the end of a header and the words before it. -/
def headerStage (words : List (List Char)) : Char × List (List Char) :=
  match words.getLast? with
  | some [stage] => if '0' ≤ stage ∧ stage ≤ '3' then (stage, words.dropLast) else ('0', words)
  | _ => ('0', words)

/-- The object of an entry; a null object cannot be written. -/
def entryOid (text : List Char) : Option GitOid :=
  if valid : isOid (String.ofList text) = true ∧ String.ofList text ≠ nullOid then
    some ⟨String.ofList text, valid.1, valid.2⟩
  else none

/-- A path that the index accepts. -/
def verifyPath (path : List Char) : Bool :=
  !(splitList '/' path).any (fun part => ["", ".", "..", ".git"].contains (String.ofList part))

/-- One record: a mode of zero removes the path, any other sets it. -/
def indexRecord (index : GitTree) (record : List Char) : Option GitTree :=
  let (header, rest) := (record.takeWhile (· ≠ '\t'), record.dropWhile (· ≠ '\t'))
  match splitList ' ' header, rest with
  | mode :: words, _ :: path =>
    let (stage, words) := headerStage words
    match words.getLast?, recordPath path with
    | some oid, some path =>
      if mode = [] ∨ ¬ mode.all (fun c => '0' ≤ c ∧ c ≤ '7') ∨
          isOid (String.ofList oid) = false then none
      else if mode.all (· == '0') then some (index.erase (String.ofList path))
      -- a path that no index holds is ignored; an entry of another stage cannot be written
      else if verifyPath path = false then some index
      else if stage ≠ '0' then none
      else (entryOid oid).map (fun oid => index.set (String.ofList path) ⟨String.ofList mode, oid⟩)
    | _, _ => none
  | _, _ => none

/-- The records of a text that ends with a newline. -/
def indexInfo (index : GitTree) (text : List Char) : Option GitTree :=
  (splitList '\n' text).dropLast.foldlM indexRecord index

/-! ## `apply_file_set` -/

/-- `f"0 {ZERO_OID}\t{path}\n"`. -/
def deletion (path : String) : List Char :=
  '0' :: ' ' :: (nullOid.toList ++ '\t' :: (path.toList ++ ['\n']))

/-- `before.get(path) != after.get(path)`, for the paths of both, in byte order. -/
def appliedPaths (before after : GitTree) : List String :=
  ((before.keys ++ after.keys).dedup.filter
    (fun path => decide (before.get? path ≠ after.get? path))).insertionSort pathLe

/-- One round of the loop. -/
def applyPath (after index : GitTree) (path : String) : Option GitTree :=
  match after.get? path with
  | none => indexInfo index (deletion path)
  | some entry => some (index.set path entry)

/-- The index after the loop. -/
def applyFileSet (expected before after : GitTree) : Option GitTree :=
  (appliedPaths before after).foldlM (applyPath after) expected

/-! ## The specification -/

/-- The same files. -/
def SameFiles (left right : GitTree) : Prop := ∀ path, left.get? path = right.get? path

/-- The candidate where it differs from its baseline, the expected tree elsewhere. -/
def Overrides (expected before after result : GitTree) : Prop :=
  ∀ path, result.get? path =
    if before.get? path = after.get? path then expected.get? path else after.get? path

/-- A path that the text of a deletion can name. -/
def plain (path : String) : Bool := !hasChar path '\n' && !startsWith path "\""

/-! ## Records -/

variable {text : List Char} {index changed before after : GitTree}

theorem unquote_quoteless {path : List Char} (read : unquote text = some path) : '"' ∉ path := by
  induction text generalizing path with
  | nil => cases read
  | cons c rest ih =>
    rw [unquote] at read
    by_cases quote : c = '"'
    · rw [if_pos quote] at read
      cases read
      exact List.not_mem_nil
    · rw [if_neg quote] at read
      by_cases escape : c = '\\'
      · rw [if_pos escape] at read
        cases read
      · rw [if_neg escape] at read
        obtain ⟨tail, unquoted, rfl⟩ := Option.map_eq_some_iff.mp read
        simp only [List.mem_cons, not_or]
        exact ⟨Ne.symm quote, ih unquoted⟩

theorem unquote_subset {path : List Char} (read : unquote text = some path) : path ⊆ text := by
  induction text generalizing path with
  | nil => cases read
  | cons c rest ih =>
    rw [unquote] at read
    by_cases quote : c = '"'
    · rw [if_pos quote] at read
      cases read
      exact List.nil_subset _
    · rw [if_neg quote] at read
      by_cases escape : c = '\\'
      · rw [if_pos escape] at read
        cases read
      · rw [if_neg escape] at read
        obtain ⟨tail, unquoted, rfl⟩ := Option.map_eq_some_iff.mp read
        exact List.cons_subset_cons c (ih unquoted)

theorem recordPath_plain {path : List Char} (line : '\n' ∉ text)
    (read : recordPath text = some path) : plain (String.ofList path) = true := by
  rw [plain, Bool.and_eq_true, Bool.not_eq_true', Bool.not_eq_true', hasChar, startsWith,
    String.toList_ofList, List.contains_eq_mem, decide_eq_false_iff_not]
  cases text with
  | nil =>
    cases read
    exact ⟨List.not_mem_nil, rfl⟩
  | cons c rest =>
    rw [recordPath] at read
    by_cases quote : c = '"'
    · rw [if_pos quote] at read
      refine ⟨fun member => line (List.mem_cons_of_mem c (unquote_subset read member)), ?_⟩
      have quoteless := unquote_quoteless read
      cases path with
      | nil => rfl
      | cons d path =>
        have different : d ≠ '"' := fun equal => quoteless (equal ▸ List.mem_cons_self)
        simp [List.isPrefixOf, Ne.symm different]
    · rw [if_neg quote] at read
      cases read
      refine ⟨line, ?_⟩
      simp [List.isPrefixOf, Ne.symm quote]

theorem indexRecord_other {record : List Char} (line : '\n' ∉ record)
    (read : indexRecord index record = some changed) {path : String} (odd : plain path = false) :
    changed.get? path = index.get? path := by
  rw [indexRecord] at read
  dsimp only at read
  split at read
  · next mode words tab text header shape =>
      have tail : '\n' ∉ text := by
        intro member
        have suffix := (List.dropWhile_suffix (· ≠ '\t') (l := record)).subset
        rw [shape] at suffix
        exact line (suffix (List.mem_cons_of_mem tab member))
      split at read
      · next oid named _ found =>
          have different : path ≠ String.ofList named := by
            rintro rfl
            rw [recordPath_plain tail found] at odd
            cases odd
          split at read
          · cases read
          · split at read
            · cases read
              rw [Dict.get?_erase, if_neg different]
            · split at read
              · rw [← Option.some.inj read]
              · split at read
                · cases read
                · obtain ⟨entry, -, rfl⟩ := Option.map_eq_some_iff.mp read
                  rw [Dict.get?_set, if_neg different]
      · cases read
  · cases read

theorem indexInfo_other (read : indexInfo index text = some changed) {path : String}
    (odd : plain path = false) : changed.get? path = index.get? path := by
  have lines : ∀ record ∈ (splitList '\n' text).dropLast, '\n' ∉ record :=
    fun record member => not_mem_of_mem_splitList (List.mem_of_mem_dropLast member)
  rw [indexInfo] at read
  generalize (splitList '\n' text).dropLast = records at read lines
  induction records generalizing index with
  | nil =>
    cases read
    rfl
  | cons record records ih =>
    obtain ⟨next, first, rest⟩ := Option.bind_eq_some_iff.mp read
    rw [ih rest (fun record member => lines record (List.mem_cons_of_mem _ member))]
    exact indexRecord_other (lines record List.mem_cons_self) first odd

theorem indexInfo_deletion (index : GitTree) {path : String} (simple : plain path = true) :
    indexInfo index (deletion path) = some (index.erase path) := by
  rw [plain, Bool.and_eq_true, Bool.not_eq_true', Bool.not_eq_true', hasChar, startsWith,
    List.contains_eq_mem, decide_eq_false_iff_not] at simple
  have text : deletion path = ('0' :: ' ' :: (nullOid.toList ++ '\t' :: path.toList)) ++ '\n' :: [] := by
    simp [deletion]
  have line : '\n' ∉ '0' :: ' ' :: (nullOid.toList ++ '\t' :: path.toList) := by
    simp only [List.mem_cons, List.mem_append, not_or]
    exact ⟨by decide, by decide, by decide, by decide, simple.1⟩
  have named : recordPath path.toList = some path.toList := by
    cases shape : path.toList with
    | nil => rfl
    | cons c rest =>
      rw [recordPath, if_neg]
      rintro rfl
      rw [shape] at simple
      exact absurd simple.2 (by simp [List.isPrefixOf])
  have noTab : ∀ c ∈ nullOid.toList, decide (c ≠ '\t') = true :=
    List.all_eq_true.mp (show nullOid.toList.all (fun c => decide (c ≠ '\t')) = true from by decide)
  have header : ('0' :: ' ' :: (nullOid.toList ++ '\t' :: path.toList)).takeWhile (· ≠ '\t') =
      '0' :: ' ' :: nullOid.toList := by
    rw [List.takeWhile_cons_of_pos (by decide), List.takeWhile_cons_of_pos (by decide),
      List.takeWhile_append_of_pos noTab, List.takeWhile_cons_of_neg (by decide),
      List.append_nil]
  have rest : ('0' :: ' ' :: (nullOid.toList ++ '\t' :: path.toList)).dropWhile (· ≠ '\t') =
      '\t' :: path.toList := by
    rw [List.dropWhile_cons_of_pos (by decide), List.dropWhile_cons_of_pos (by decide),
      List.dropWhile_append_of_pos noTab, List.dropWhile_cons_of_neg (by decide)]
  have words : splitList ' ' ('0' :: ' ' :: nullOid.toList) = [['0'], nullOid.toList] := by decide
  rw [indexInfo, text, splitList_append line]
  change (indexRecord index _).bind some = _
  rw [Option.bind_fun_some, indexRecord]
  dsimp only
  rw [header, rest, words]
  dsimp only
  have stage : headerStage [nullOid.toList] = ('0', [nullOid.toList]) := rfl
  rw [stage]
  dsimp only [List.getLast?_singleton]
  rw [named]
  dsimp only
  rw [if_neg (by decide), if_pos (by decide), String.ofList_toList]

/-! ## The loop -/

theorem mem_appliedPaths {path : String} :
    path ∈ appliedPaths before after ↔ before.get? path ≠ after.get? path := by
  rw [appliedPaths, List.mem_insertionSort, List.mem_filter, List.mem_dedup, List.mem_append,
    Dict.mem_keys_iff, Dict.mem_keys_iff, decide_eq_true_iff]
  refine ⟨And.right, fun different => ⟨?_, different⟩⟩
  cases here : before.get? path with
  | some entry => exact .inl ⟨entry, rfl⟩
  | none =>
    cases there : after.get? path with
    | some entry => exact .inr ⟨entry, rfl⟩
    | none => exact absurd (here.trans there.symm) different

theorem applyPath_plain {path : String} (simple : after.get? path = none → plain path = true)
    (index : GitTree) :
    ∃ changed, applyPath after index path = some changed ∧
      ∀ other, changed.get? other = if other = path then after.get? other else index.get? other := by
  rw [applyPath]
  cases here : after.get? path with
  | none =>
    refine ⟨index.erase path, indexInfo_deletion index (simple here), fun other => ?_⟩
    rw [Dict.get?_erase]
    by_cases same : other = path
    · rw [if_pos same, if_pos same, same, here]
    · rw [if_neg same, if_neg same]
  | some entry =>
    refine ⟨index.set path entry, rfl, fun other => ?_⟩
    rw [Dict.get?_set]
    by_cases same : other = path
    · rw [if_pos same, if_pos same, same, here]
    · rw [if_neg same, if_neg same]

theorem applyPath_other {path other : String} (applied : applyPath after index path = some changed)
    (absent : after.get? other = none) (odd : plain other = false) :
    changed.get? other = index.get? other := by
  rw [applyPath] at applied
  cases here : after.get? path with
  | none =>
    rw [here] at applied
    exact indexInfo_other applied odd
  | some entry =>
    rw [here] at applied
    cases applied
    rw [Dict.get?_set, if_neg]
    rintro rfl
    rw [here] at absent
    cases absent

theorem foldlM_plain {paths : List String}
    (simple : ∀ path ∈ paths, after.get? path = none → plain path = true) (index : GitTree) :
    ∃ result, paths.foldlM (applyPath after) index = some result ∧
      ∀ other, result.get? other =
        if other ∈ paths then after.get? other else index.get? other := by
  induction paths generalizing index with
  | nil => exact ⟨index, rfl, fun other => by simp⟩
  | cons path paths ih =>
    obtain ⟨changed, first, read⟩ := applyPath_plain (simple path List.mem_cons_self) index
    obtain ⟨result, rest, later⟩ :=
      ih (fun path member => simple path (List.mem_cons_of_mem _ member)) changed
    refine ⟨result, ?_, fun other => ?_⟩
    · rw [List.foldlM_cons, first]
      exact rest
    · rw [later, read]
      by_cases member : other ∈ paths
      · rw [if_pos member, if_pos (List.mem_cons_of_mem _ member)]
      · rw [if_neg member]
        by_cases same : other = path
        · rw [if_pos same, if_pos (by rw [same]; exact List.mem_cons_self)]
        · rw [if_neg same, if_neg (by simp [same, member])]

theorem foldlM_other {result : GitTree} {paths : List String} {other : String}
    (applied : paths.foldlM (applyPath after) index = some result)
    (absent : after.get? other = none) (odd : plain other = false) :
    result.get? other = index.get? other := by
  induction paths generalizing index with
  | nil =>
    cases applied
    rfl
  | cons path paths ih =>
    rw [List.foldlM_cons] at applied
    obtain ⟨changed, first, rest⟩ := Option.bind_eq_some_iff.mp applied
    rw [ih rest, applyPath_other first absent odd]

/-! ## Exactness -/

/-- A tree whose paths `_validate_workspace_path` accepts. -/
structure WorkspaceTree where
  files : GitTree
  valid : ∀ path ∈ files.keys, isRepoRelative path = true

/-- The paths that the candidate lacks can be named by a deletion. -/
def PlainDeletions (before after : GitTree) : Prop :=
  ∀ path, before.get? path ≠ none → after.get? path = none → plain path = true

theorem applyFileSet_plain (simple : PlainDeletions before after) (expected : GitTree) :
    ∃ result, applyFileSet expected before after = some result ∧
      Overrides expected before after result := by
  have deletions : ∀ path ∈ appliedPaths before after, after.get? path = none →
      plain path = true := by
    intro path member absent
    refine simple path ?_ absent
    rw [← absent]
    exact mem_appliedPaths.mp member
  obtain ⟨result, applied, read⟩ := foldlM_plain deletions expected
  refine ⟨result, applied, fun path => ?_⟩
  rw [read path]
  by_cases same : before.get? path = after.get? path
  · rw [if_pos same, if_neg (fun member => mem_appliedPaths.mp member same)]
  · rw [if_neg same, if_pos (mem_appliedPaths.mpr same)]

theorem plain_of_overrides {expected result : GitTree}
    (present : ∀ path, before.get? path ≠ none → after.get? path = none → expected.get? path ≠ none)
    (applied : applyFileSet expected before after = some result)
    (exact_ : Overrides expected before after result) : PlainDeletions before after := by
  intro path had absent
  by_contra odd
  have kept := foldlM_other applied absent (Bool.eq_false_iff.mpr odd)
  have removed := exact_ path
  rw [absent, if_neg had, kept] at removed
  exact present path had absent removed

/-- The loop gives the candidate where it differs from its baseline, whatever the expected tree. -/
def Exact (before after : WorkspaceTree) : Prop :=
  ∀ expected : WorkspaceTree, ∃ result,
    applyFileSet expected.files before.files after.files = some result ∧
      Overrides expected.files before.files after.files result

theorem exact_iff {before after : WorkspaceTree} :
    Exact before after ↔ PlainDeletions before.files after.files := by
  constructor
  · intro exact_
    obtain ⟨result, applied, overrides⟩ := exact_ before
    exact plain_of_overrides (fun _ had _ => had) applied overrides
  · intro simple expected
    exact applyFileSet_plain simple expected.files

/-! ## Order -/

/-- No path that one changes is a path that the other changes, or above or below it. -/
def Apart (before after before' after' : GitTree) : Prop :=
  ∀ path ∈ appliedPaths before after, ∀ path' ∈ appliedPaths before' after',
    path ≠ path' ∧ startsWith path (path' ++ "/") = false ∧ startsWith path' (path ++ "/") = false

/-- Both orders of two candidates give the same files. -/
def Commute (before after before' after' : WorkspaceTree) : Prop :=
  ∀ expected : WorkspaceTree, ∃ one other,
    (applyFileSet expected.files before.files after.files).bind
      (fun tree => applyFileSet tree before'.files after'.files) = some one ∧
    (applyFileSet expected.files before'.files after'.files).bind
      (fun tree => applyFileSet tree before.files after.files) = some other ∧
    SameFiles one other

theorem commute_of_plain {before after before' after' : WorkspaceTree}
    (first : PlainDeletions before.files after.files)
    (second : PlainDeletions before'.files after'.files)
    (apart : Apart before.files after.files before'.files after'.files) :
    Commute before after before' after' := by
  intro expected
  obtain ⟨left, leftApplied, leftRead⟩ := applyFileSet_plain first expected.files
  obtain ⟨one, oneApplied, oneRead⟩ := applyFileSet_plain second left
  obtain ⟨right, rightApplied, rightRead⟩ := applyFileSet_plain second expected.files
  obtain ⟨other, otherApplied, otherRead⟩ := applyFileSet_plain first right
  refine ⟨one, other, by rw [leftApplied, Option.bind_some, oneApplied],
    by rw [rightApplied, Option.bind_some, otherApplied], fun path => ?_⟩
  rw [oneRead path, leftRead path, otherRead path, rightRead path]
  by_cases unchanged : before.files.get? path = after.files.get? path
  · rw [if_pos unchanged, if_pos unchanged]
  · rw [if_neg unchanged, if_neg unchanged, if_pos]
    by_contra changed
    exact (apart path (mem_appliedPaths.mpr unchanged) path (mem_appliedPaths.mpr changed)).1 rfl

/-- File sets are applied exactly, and in any order, if and only if every path that a candidate
deletes is without a newline and does not start with a double quote. -/
theorem apply_file_set_exact_iff (before after before' after' : WorkspaceTree) :
    (Exact before after ∧ Exact before' after' ∧
      (Apart before.files after.files before'.files after'.files →
        Commute before after before' after')) ↔
    PlainDeletions before.files after.files ∧ PlainDeletions before'.files after'.files := by
  rw [exact_iff, exact_iff]
  constructor
  · rintro ⟨first, second, -⟩
    exact ⟨first, second⟩
  · rintro ⟨first, second⟩
    exact ⟨first, second, commute_of_plain first second⟩

/-- A blob. -/
def sampleEntry : GitTreeEntry :=
  ⟨"100644", SampleOids.first⟩

/-- A file whose name is a quoted letter, and a file of that letter. -/
def quoted : WorkspaceTree :=
  ⟨(Dict.empty.set "\"a\"" sampleEntry).set "a" sampleEntry, by decide⟩

/-- The file of the letter alone. -/
def unquoted : WorkspaceTree := ⟨Dict.empty.set "a" sampleEntry, by decide⟩

/-- The deletion of the file with the quoted name removes the other one. -/
theorem wrong_file_deleted :
    ¬ ∀ expected before after : WorkspaceTree, ∃ result,
      applyFileSet expected.files before.files after.files = some result ∧
        Overrides expected.files before.files after.files result := by
  intro claim
  obtain ⟨result, applied, overrides⟩ := claim quoted quoted unquoted
  have lost : (applyFileSet quoted.files quoted.files unquoted.files).bind (·.get? "a") = none := by
    decide
  have read := overrides "a"
  rw [applied, Option.bind_some] at lost
  rw [lost] at read
  exact absurd read (by decide)

end GitIndex

end CodeMigrator
