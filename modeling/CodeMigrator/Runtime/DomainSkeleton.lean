import Mathlib.Data.List.Pairwise
import CodeMigrator.Core.Paths
import CodeMigrator.Lib.Dict
import CodeMigrator.Lib.Parts
import CodeMigrator.Lib.Sequence

/-!
# Exploration domains

`build_domain_skeleton` and `validate_exact_coverage` of `runtime/draft_validation.py`. A module with
too many files is split by the first directory of each of its files, while the files beside these
directories stay under the path of the module.
-/

namespace CodeMigrator
open Lib

/-! ## Paths -/

/-- The exceptions of `build_domain_skeleton` and `validate_exact_coverage`. -/
inductive SkeletonError where
  | sizeNotPositive
  | fanoutNotPositive
  | noModules
  | unsafePath
  | emptyModule (path : String)
  | duplicateFiles (path : String)
  | outsideModule (path : String)
  | overlap
  | emptyDomain
  | fanout (domains : Nat) (maximum : Int)
  deriving DecidableEq

/-- `normalize_repo_relative_paths`. -/
def normalizeRepoRelativePaths (paths : List String) : Except SkeletonError (List String) :=
  if paths.all isRepoRelative then .ok (paths.dedup.insertionSort pathLe) else .error .unsafePath

/-- `"." if value == "." else _validate_repo_relative_path(value)`. -/
def validateDomainPath (path : String) : Except SkeletonError String :=
  if path = "." ∨ isRepoRelative path = true then .ok path else .error .unsafePath

/-- `DomainSkeleton`. -/
structure DomainSkeleton where
  domainPath : String
  files : List String
  domainPathIsSafe : domainPath = "." ∨ isRepoRelative domainPath = true
  filesAreSafe : files.all isRepoRelative = true
  nonempty : files ≠ []
  deriving DecidableEq

/-- `DomainSkeleton(domain_path=..., files=...)`. -/
def DomainSkeleton.of (domain : String × List String) : Except SkeletonError DomainSkeleton :=
  if pathSafe : domain.1 = "." ∨ isRepoRelative domain.1 = true then
    if filesSafe : domain.2.all isRepoRelative = true then
      if nonempty : domain.2 ≠ [] then .ok ⟨domain.1, domain.2, pathSafe, filesSafe, nonempty⟩
      else .error .emptyDomain
    else .error .unsafePath
  else .error .unsafePath

/-! ## The skeleton -/

/-- `child`, or an empty text for a file that stands in no directory of the module. -/
def childOf (relative : String) : String :=
  match split relative '/' with
  | first :: _ :: _ => first
  | _ => ""

/-- `file_path.removeprefix(module_prefix)`. -/
def relativeTo (modulePath file : String) : String :=
  if modulePath = "." then file
  else if startsWith file (modulePath ++ "/") then
    String.ofList (file.toList.drop (modulePath.toList.length + 1))
  else file

/-- `domain_path` of a file in a module that is split. -/
def domainPathOf (modulePath file : String) : String :=
  if childOf (relativeTo modulePath file) = "" then modulePath
  else if modulePath = "." then childOf (relativeTo modulePath file)
  else modulePath ++ "/" ++ childOf (relativeTo modulePath file)

/-- The domains of a module. -/
def moduleDomains (maxFiles : Int) (modulePath : String) (files : List String) :
    List (String × List String) :=
  if (files.length : Int) ≤ maxFiles then [(modulePath, files)]
  else (Dict.groupBy (domainPathOf modulePath) files).entries.insertionSort
    fun left right => pathLe left.1 right.1

/-- The loop over the modules; `seen` is `seen_files`. -/
def skeletonLoop (maxFiles : Int) (seen : List String) :
    List (String × List String) → Except SkeletonError (List DomainSkeleton)
  | [] => .ok []
  | (rawPath, rawFiles) :: rest => do
    let modulePath ← validateDomainPath rawPath
    let files ← normalizeRepoRelativePaths rawFiles
    if files = [] then .error (.emptyModule modulePath)
    else if files.length ≠ rawFiles.length then .error (.duplicateFiles modulePath)
    else if files.any fun file =>
        modulePath ≠ "." && file ≠ modulePath && !startsWith file (modulePath ++ "/") then
      .error (.outsideModule modulePath)
    else if files.any (· ∈ seen) then .error .overlap
    else do
      let domains ← (moduleDomains maxFiles modulePath files).mapM DomainSkeleton.of
      let others ← skeletonLoop maxFiles (seen ++ files) rest
      return domains ++ others

/-- `build_domain_skeleton`. -/
def buildDomainSkeleton (moduleFiles : Dict String (List String)) (maxFilesPerDomain maxFanout : Int) :
    Except SkeletonError (List DomainSkeleton) :=
  if maxFilesPerDomain < 1 then .error .sizeNotPositive
  else if maxFanout < 1 then .error .fanoutNotPositive
  else if moduleFiles.entries = [] then .error .noModules
  else do
    let domains ← skeletonLoop maxFilesPerDomain []
      (moduleFiles.entries.insertionSort fun left right => pathLe left.1 right.1)
    if maxFanout < domains.length then .error (.fanout domains.length maxFanout) else .ok domains

/-! ## Coverage -/

/-- `CoverageResult`. -/
structure CoverageResult where
  valid : Bool
  missingFiles : List String
  duplicateFiles : List String
  unknownFiles : List String
  deriving DecidableEq

/-- `_duplicates`, before the sorting. -/
def duplicates (paths : List String) : List String := (paths.filter (1 < paths.count ·)).dedup

/-- `CoverageResult(...)` of the files as they are given and as they are normalized. -/
def coverageResult (actualRaw expectedRaw actual expected : List String) : CoverageResult :=
  let missing := expected.filter (· ∉ actual)
  let unknown := actual.filter (· ∉ expected)
  let repeated := (duplicates expectedRaw ++ duplicates actualRaw).dedup.insertionSort pathLe
  ⟨missing = [] ∧ unknown = [] ∧ repeated = [] ∧ actualRaw.length = expected.length,
    missing, repeated, unknown⟩

/-- `validate_exact_coverage` on the files of the domains. -/
def validateExactCoverage (actualRaw expectedRaw : List String) :
    Except SkeletonError CoverageResult := do
  let expected ← normalizeRepoRelativePaths expectedRaw
  let actual ← normalizeRepoRelativePaths actualRaw
  return coverageResult actualRaw expectedRaw actual expected

/-- All files of a skeleton. -/
def skeletonFiles (domains : List DomainSkeleton) : List String := domains.flatMap (·.files)

/-- A skeleton has each file of the modules once, in or below the domain that has it, and the paths
of its domains are different. -/
structure UsableSkeleton (moduleFiles : Dict String (List String)) (domains : List DomainSkeleton) :
    Prop where
  partition : (skeletonFiles domains).Perm moduleFiles.values.flatten
  once : (skeletonFiles domains).Nodup
  covered : ∃ coverage, validateExactCoverage (skeletonFiles domains) moduleFiles.values.flatten =
    .ok coverage ∧ coverage.valid = true
  below : ∀ domain ∈ domains, domain.domainPath = "." ∨
    ∀ file ∈ domain.files, AtOrBelow file domain.domainPath
  distinct : (domains.map (·.domainPath)).Nodup

/-- A module keeps a domain under its own path. -/
def KeepsPath (maxFiles : Int) (module_ : String × List String) : Prop :=
  (module_.2.length : Int) ≤ maxFiles ∨
    ∃ file ∈ module_.2, domainPathOf module_.1 file = module_.1

/-- No directory by which a module is split has the path of another module that keeps it, and a
module that is split does not list its own path as a file in such a directory. -/
structure NamesApart (maxFiles : Int) (moduleFiles : Dict String (List String)) : Prop where
  modules : ∀ large ∈ moduleFiles.entries, maxFiles < large.2.length →
    ∀ other ∈ moduleFiles.entries, other.1 ≠ large.1 → KeepsPath maxFiles other →
      ∀ file ∈ large.2, domainPathOf large.1 file ≠ other.1
  own : ∀ large ∈ moduleFiles.entries, maxFiles < large.2.length → large.1 ≠ "." →
    large.1 ∈ large.2 → domainPathOf large.1 large.1 = large.1

/-! ## Paths of domains -/

section Paths

variable {modulePath file relative : String}

theorem childOf_below (isChild : childOf relative ≠ "") :
    Below relative (childOf relative) ∧ '/' ∉ (childOf relative).toList := by
  unfold childOf at isChild ⊢
  split at isChild
  · next first second rest parts =>
    rw [split] at parts
    cases lists : splitList '/' relative.toList with
    | nil => exact absurd lists (splitList_ne_nil _ _)
    | cons head others =>
      rw [lists, List.map_cons, List.cons.injEq] at parts
      have more : others ≠ [] := by
        rintro rfl
        exact absurd parts.2 (by simp)
      obtain ⟨behind, whole⟩ := splitList_head lists more
      have absent : '/' ∉ head := not_mem_of_mem_splitList (lists ▸ List.mem_cons_self)
      rw [← parts.1, Below, String.toList_ofList, whole]
      exact ⟨⟨behind, by simp⟩, absent⟩
  · exact absurd rfl isChild

theorem relativeTo_below (proper : modulePath ≠ ".") (below : Below file modulePath) :
    file.toList = modulePath.toList ++ '/' :: (relativeTo modulePath file).toList := by
  rw [relativeTo, if_neg proper, if_pos ((startsWith_slash_iff _ _).mpr below)]
  obtain ⟨rest, whole⟩ := below
  rw [String.toList_ofList, ← whole]
  simp

theorem domainPathOf_below (proper : modulePath ≠ ".") (below : Below file modulePath) :
    AtOrBelow file (domainPathOf modulePath file) := by
  have whole := relativeTo_below proper below
  unfold domainPathOf
  split
  · exact .inr below
  · next isChild =>
    obtain ⟨⟨rest, inner⟩, -⟩ := childOf_below isChild
    refine .inr ⟨rest, ?_⟩
    rw [whole, ← inner]
    simp

theorem domainPathOf_root (file : String) :
    domainPathOf "." file = "." ∨ AtOrBelow file (domainPathOf "." file) := by
  unfold domainPathOf
  split
  · exact .inl rfl
  · next isChild =>
    rw [if_pos rfl]
    have whole : relativeTo "." file = file := if_pos rfl
    rw [whole] at isChild ⊢
    exact .inr (.inr (childOf_below isChild).1)

/-- What splitting may call the domain of a file. -/
theorem domainPathOf_cases (modulePath file : String) :
    domainPathOf modulePath file = modulePath ∨
      ∃ child : String, '/' ∉ child.toList ∧ domainPathOf modulePath file =
        if modulePath = "." then child else modulePath ++ "/" ++ child := by
  unfold domainPathOf
  split
  · exact .inl rfl
  · next isChild => exact .inr ⟨_, (childOf_below isChild).2, rfl⟩

theorem toList_child (modulePath child : String) :
    (modulePath ++ "/" ++ child).toList = modulePath.toList ++ '/' :: child.toList := by simp

theorem domainPathOf_ne_root (proper : modulePath ≠ ".") : domainPathOf modulePath file ≠ "." := by
  rcases domainPathOf_cases modulePath file with same | ⟨child, -, isChild⟩
  · rwa [same]
  · rw [isChild, if_neg proper]
    intro same
    have texts := congrArg String.toList same
    rw [toList_child] at texts
    have slash : '/' ∈ ".".toList := texts ▸ by simp
    exact absurd slash (by decide)

theorem below_own_iff (proper : modulePath ≠ ".") :
    AtOrBelow modulePath (domainPathOf modulePath modulePath) ↔
      domainPathOf modulePath modulePath = modulePath := by
  constructor
  · rintro (same | below)
    · exact same.symm
    · rcases domainPathOf_cases modulePath modulePath with same | ⟨child, -, isChild⟩
      · exact same
      · rw [isChild, if_neg proper] at below
        obtain ⟨rest, whole⟩ := below
        have lengths := congrArg List.length whole
        rw [toList_child] at lengths
        simp only [List.length_append, List.length_cons] at lengths
        omega
  · intro same
    exact .inl same.symm

/-- Two modules that are split meet in no directory. -/
theorem children_apart {left right first second : String} (different : left ≠ right)
    (leftMoves : domainPathOf left first ≠ left) (rightMoves : domainPathOf right second ≠ right) :
    domainPathOf left first ≠ domainPathOf right second := by
  obtain ⟨child, noSlash, isChild⟩ := (domainPathOf_cases left first).resolve_left leftMoves
  obtain ⟨other, otherNoSlash, isOther⟩ := (domainPathOf_cases right second).resolve_left rightMoves
  rw [isChild, isOther]
  intro same
  split at same
  · next isRoot =>
    split at same
    · next otherRoot => exact different (isRoot.trans otherRoot.symm)
    · rw [same, toList_child] at noSlash
      exact noSlash (by simp)
  · split at same
    · rw [← same, toList_child] at otherNoSlash
      exact otherNoSlash (by simp)
    · have texts := congrArg String.toList same
      rw [toList_child, toList_child] at texts
      exact different (String.toList_inj.mp (append_last_inj noSlash otherNoSlash texts).1)

end Paths

/-! ## The domains of a module -/

section Domains

variable {maxFiles : Int} {modulePath : String} {files : List String}

/-- The path and the files of a domain. -/
def DomainSkeleton.entry (domain : DomainSkeleton) : String × List String :=
  (domain.domainPath, domain.files)

/-- The files of a module as the loop has them. -/
def sortedFiles (files : List String) : List String := files.dedup.insertionSort pathLe

theorem mem_sortedFiles {file : String} : file ∈ sortedFiles files ↔ file ∈ files := by
  rw [sortedFiles, List.mem_insertionSort, List.mem_dedup]

theorem sortedFiles_perm (nodup : files.Nodup) : (sortedFiles files).Perm files := by
  rw [sortedFiles, nodup.dedup]
  exact List.perm_insertionSort _ _

theorem moduleDomains_perm (nodup : files.Nodup) :
    ((moduleDomains maxFiles modulePath files).flatMap Prod.snd).Perm files := by
  unfold moduleDomains
  split
  · simp
  · exact ((List.perm_insertionSort _ _).flatMap_right _).trans (Dict.groupBy_perm nodup)

theorem moduleDomains_nodup :
    ((moduleDomains maxFiles modulePath files).map Prod.fst).Nodup := by
  unfold moduleDomains
  split
  · exact List.nodup_singleton _
  · exact ((List.perm_insertionSort _ _).map _).nodup_iff.mpr (Dict.groupBy _ _).nodup

theorem mem_moduleDomains {domain : String × List String} :
    domain ∈ moduleDomains maxFiles modulePath files ↔
      if (files.length : Int) ≤ maxFiles then domain = (modulePath, files)
      else domain.2 = files.filter (domainPathOf modulePath · = domain.1) ∧ domain.2 ≠ [] := by
  unfold moduleDomains
  split
  · exact List.mem_singleton
  · rw [List.mem_insertionSort]
    exact Dict.mem_groupBy

/-- The paths that a module gives to its domains. -/
def Gives (maxFiles : Int) (module_ : String × List String) (path : String) : Prop :=
  if (module_.2.length : Int) ≤ maxFiles then path = module_.1
  else ∃ file ∈ module_.2, domainPathOf module_.1 file = path

theorem mem_moduleDomains_paths (nodup : files.Nodup) {path : String} :
    path ∈ (moduleDomains maxFiles modulePath (sortedFiles files)).map Prod.fst ↔
      Gives maxFiles (modulePath, files) path := by
  simp only [List.mem_map, mem_moduleDomains, Gives, (sortedFiles_perm nodup).length_eq]
  split
  · constructor
    · rintro ⟨domain, rfl, rfl⟩
      rfl
    · rintro rfl
      exact ⟨_, rfl, rfl⟩
  · constructor
    · rintro ⟨⟨path, group⟩, ⟨isGroup, some⟩, rfl⟩
      obtain ⟨file, member⟩ := List.exists_mem_of_ne_nil _ some
      rw [isGroup, List.mem_filter, decide_eq_true_eq, mem_sortedFiles] at member
      exact ⟨file, member⟩
    · rintro ⟨file, member, isPath⟩
      have inside : file ∈ (sortedFiles files).filter (domainPathOf modulePath · = path) := by
        rw [List.mem_filter, mem_sortedFiles]
        exact ⟨member, decide_eq_true isPath⟩
      exact ⟨(path, _), ⟨rfl, List.ne_nil_of_mem inside⟩, rfl⟩

theorem gives_own_iff {module_ : String × List String} :
    Gives maxFiles module_ module_.1 ↔ KeepsPath maxFiles module_ := by
  unfold Gives KeepsPath
  split
  · next small => simp [small]
  · next large => simp [large]

/-- Two modules meet in a path where one keeps it and the other one is split by it. -/
theorem disjoint_gives_iff {left right : String × List String} (different : left.1 ≠ right.1) :
    (∀ path, Gives maxFiles left path → ¬ Gives maxFiles right path) ↔
      (maxFiles < left.2.length → KeepsPath maxFiles right →
        ∀ file ∈ left.2, domainPathOf left.1 file ≠ right.1) ∧
      (maxFiles < right.2.length → KeepsPath maxFiles left →
        ∀ file ∈ right.2, domainPathOf right.1 file ≠ left.1) := by
  have large : ∀ {module_ : String × List String} {file : String}, maxFiles < module_.2.length →
      file ∈ module_.2 → Gives maxFiles module_ (domainPathOf module_.1 file) := by
    intro module_ file isLarge member
    rw [Gives, if_neg (not_le.mpr isLarge)]
    exact ⟨file, member, rfl⟩
  constructor
  · intro apart
    refine ⟨fun isLarge keeps file member meet => ?_, fun isLarge keeps file member meet => ?_⟩
    · exact apart _ (large isLarge member) (meet ▸ gives_own_iff.mpr keeps)
    · exact apart _ (meet ▸ gives_own_iff.mpr keeps) (large isLarge member)
  · rintro ⟨leftApart, rightApart⟩ path ofLeft ofRight
    by_cases keepsLeft : path = left.1
    · subst keepsLeft
      have keeps := gives_own_iff.mp ofLeft
      unfold Gives at ofRight
      split at ofRight
      · exact different ofRight
      · next isLarge =>
        obtain ⟨file, member, meet⟩ := ofRight
        exact rightApart (not_le.mp isLarge) keeps file member meet
    · unfold Gives at ofLeft
      split at ofLeft
      · exact keepsLeft ofLeft
      · next isLarge =>
        obtain ⟨file, member, rfl⟩ := ofLeft
        by_cases keepsRight : domainPathOf left.1 file = right.1
        · rw [keepsRight] at ofRight
          exact leftApart (not_le.mp isLarge) (gives_own_iff.mp ofRight) file member keepsRight
        · unfold Gives at ofRight
          split at ofRight
          · exact keepsRight ofRight
          · obtain ⟨other, -, meet⟩ := ofRight
            exact children_apart different keepsLeft (meet ▸ keepsRight) meet.symm

end Domains

/-! ## Accepted modules -/

section Accepted

variable {maxFiles maxFanout : Int} {moduleFiles : Dict String (List String)}
  {domains : List DomainSkeleton} {modules : List (String × List String)}

/-- What the loop has checked of a module. -/
structure AcceptedModule (module_ : String × List String) : Prop where
  safe : module_.2.all isRepoRelative = true
  nodup : module_.2.Nodup
  inside : module_.1 ≠ "." → ∀ file ∈ module_.2, AtOrBelow file module_.1

theorem normalizeRepoRelativePaths_ok {paths normalized : List String}
    (done : normalizeRepoRelativePaths paths = .ok normalized) :
    paths.all isRepoRelative = true ∧ normalized = sortedFiles paths := by
  unfold normalizeRepoRelativePaths at done
  split at done
  · next safe => exact ⟨safe, (Except.ok.inj done).symm⟩
  · cases done

theorem domainSkeleton_of_entry {domain : String × List String} {skeleton : DomainSkeleton}
    (done : DomainSkeleton.of domain = .ok skeleton) : skeleton.entry = domain := by
  unfold DomainSkeleton.of at done
  split at done
  · split at done
    · split at done
      · cases done
        rfl
      · cases done
    · cases done
  · cases done

theorem acceptedModule_of_checks {modulePath : String} {rawFiles : List String}
    (safe : rawFiles.all isRepoRelative = true)
    (lengths : ¬ (sortedFiles rawFiles).length ≠ rawFiles.length)
    (inside : ¬ (sortedFiles rawFiles).any (fun file =>
      modulePath ≠ "." && file ≠ modulePath && !startsWith file (modulePath ++ "/")) = true) :
    AcceptedModule (modulePath, rawFiles) := by
  refine ⟨safe, ?_, fun proper file member => ?_⟩
  · have same : rawFiles.dedup.length = rawFiles.length := by
      rw [← List.length_insertionSort pathLe rawFiles.dedup]
      exact not_not.mp lengths
    exact List.dedup_eq_self.mp ((List.dedup_sublist rawFiles).eq_of_length same)
  · rw [List.any_eq_true] at inside
    by_contra outside
    refine inside ⟨file, mem_sortedFiles.mpr member, ?_⟩
    have below : startsWith file (modulePath ++ "/") = false := by
      rw [Bool.eq_false_iff, ne_eq, startsWith_slash_iff]
      exact fun below => outside (.inr below)
    simp only [below, Bool.not_false, Bool.and_true, Bool.and_eq_true, decide_eq_true_eq]
    exact ⟨proper, fun same => outside (.inl same)⟩

theorem skeletonLoop_ok {seen : List String}
    (done : skeletonLoop maxFiles seen modules = .ok domains) :
    domains.map (·.entry) = modules.flatMap (fun module_ =>
        moduleDomains maxFiles module_.1 (sortedFiles module_.2)) ∧
      (∀ module_ ∈ modules, AcceptedModule module_) ∧
      (modules.flatMap Prod.snd).Nodup ∧ ∀ file ∈ modules.flatMap Prod.snd, file ∉ seen := by
  induction modules generalizing seen domains with
  | nil =>
    cases done
    exact ⟨rfl, nofun, List.nodup_nil, nofun⟩
  | cons module_ rest ih =>
    obtain ⟨rawPath, rawFiles⟩ := module_
    rw [skeletonLoop] at done
    obtain ⟨modulePath, isPath, done⟩ := except_bind_eq_ok done
    obtain ⟨files, isFiles, done⟩ := except_bind_eq_ok done
    obtain ⟨safe, rfl⟩ := normalizeRepoRelativePaths_ok isFiles
    have isSame : rawPath = modulePath := by
      unfold validateDomainPath at isPath
      split at isPath
      · exact Except.ok.inj isPath
      · cases isPath
    subst isSame
    split at done
    · cases done
    split at done
    · cases done
    next lengths =>
    split at done
    · cases done
    next inside =>
    split at done
    · cases done
    next apart =>
    obtain ⟨own, isOwn, done⟩ := except_bind_eq_ok done
    obtain ⟨others, isOthers, made⟩ := except_bind_eq_ok done
    cases made
    obtain ⟨entries, accepted, once, unseen⟩ := ih isOthers
    have isAccepted := acceptedModule_of_checks safe lengths inside
    have ownUnseen : ∀ file ∈ rawFiles, file ∉ seen := by
      intro file member isSeen
      exact apart (List.any_eq_true.mpr ⟨file, mem_sortedFiles.mpr member, decide_eq_true isSeen⟩)
    refine ⟨?_, ?_, ?_, ?_⟩
    · rw [List.map_append, entries, List.flatMap_cons,
        mapM_map isOwn fun same => domainSkeleton_of_entry same, List.map_id']
    · exact List.forall_mem_cons.mpr ⟨isAccepted, accepted⟩
    · rw [List.flatMap_cons, List.nodup_append]
      refine ⟨isAccepted.nodup, once, ?_⟩
      rintro file isOwn _ isOther rfl
      exact unseen file isOther (List.mem_append_right _ (mem_sortedFiles.mpr isOwn))
    · intro file member
      rw [List.flatMap_cons, List.mem_append] at member
      rcases member with isOwn | later
      · exact ownUnseen file isOwn
      · exact fun isSeen => unseen file later (List.mem_append_left _ isSeen)

/-- The modules in the order of the loop. -/
def sortedModules (moduleFiles : Dict String (List String)) : List (String × List String) :=
  moduleFiles.entries.insertionSort fun left right => pathLe left.1 right.1

theorem mem_sortedModules {module_ : String × List String} :
    module_ ∈ sortedModules moduleFiles ↔ module_ ∈ moduleFiles.entries := List.mem_insertionSort _

theorem sortedModules_files :
    ((sortedModules moduleFiles).flatMap Prod.snd).Perm moduleFiles.values.flatten := by
  rw [Dict.values, ← List.flatMap_def]
  exact (List.perm_insertionSort _ _).flatMap_right _

theorem buildDomainSkeleton_ok (accepted : buildDomainSkeleton moduleFiles maxFiles maxFanout =
    .ok domains) : skeletonLoop maxFiles [] (sortedModules moduleFiles) = .ok domains := by
  unfold buildDomainSkeleton at accepted
  split at accepted
  · cases accepted
  split at accepted
  · cases accepted
  split at accepted
  · cases accepted
  obtain ⟨built, isBuilt, checked⟩ := except_bind_eq_ok accepted
  split at checked
  · cases checked
  · cases checked
    exact isBuilt

theorem moduleDomains_files (accepted : ∀ module_ ∈ modules, AcceptedModule module_) :
    ((modules.flatMap fun module_ =>
      moduleDomains maxFiles module_.1 (sortedFiles module_.2)).flatMap Prod.snd).Perm
        (modules.flatMap Prod.snd) := by
  induction modules with
  | nil => exact .nil
  | cons module_ rest ih =>
    obtain ⟨own, others⟩ := List.forall_mem_cons.mp accepted
    have files := sortedFiles_perm own.nodup
    rw [List.flatMap_cons, List.flatMap_append, List.flatMap_cons]
    exact ((moduleDomains_perm (files.nodup_iff.mpr own.nodup)).trans files).append (ih others)

theorem validateExactCoverage_valid {actual expected : List String} (perm : actual.Perm expected)
    (once : expected.Nodup) (safe : expected.all isRepoRelative = true) :
    ∃ coverage, validateExactCoverage actual expected = .ok coverage ∧ coverage.valid = true := by
  have actualOnce : actual.Nodup := perm.nodup_iff.mpr once
  have actualSafe : actual.all isRepoRelative = true := perm.all_eq.trans safe
  have noneTwice : ∀ {paths : List String}, paths.Nodup → duplicates paths = [] := by
    intro paths nodup
    have few : paths.filter (1 < paths.count ·) = [] := by
      refine List.filter_eq_nil_iff.mpr fun path _ => ?_
      rw [decide_eq_true_eq, not_lt]
      exact List.nodup_iff_count_le_one.mp nodup path
    rw [duplicates, few, List.dedup_nil]
  have done : validateExactCoverage actual expected =
      .ok (coverageResult actual expected (sortedFiles actual) (sortedFiles expected)) := by
    rw [validateExactCoverage, normalizeRepoRelativePaths, if_pos safe, normalizeRepoRelativePaths,
      if_pos actualSafe]
    rfl
  refine ⟨_, done, decide_eq_true ⟨?_, ?_, ?_, ?_⟩⟩
  · refine List.filter_eq_nil_iff.mpr fun path member => ?_
    rw [decide_eq_true_eq, not_not, mem_sortedFiles, perm.mem_iff]
    exact mem_sortedFiles.mp member
  · refine List.filter_eq_nil_iff.mpr fun path member => ?_
    rw [decide_eq_true_eq, not_not, mem_sortedFiles, ← perm.mem_iff]
    exact mem_sortedFiles.mp member
  · rw [noneTwice once, noneTwice actualOnce]
    rfl
  · exact perm.length_eq.trans (sortedFiles_perm once).length_eq.symm

/-- The names of the domains of accepted modules are different where no two modules meet. -/
theorem nodup_paths_iff (accepted : ∀ module_ ∈ modules, AcceptedModule module_) :
    ((modules.flatMap fun module_ =>
      moduleDomains maxFiles module_.1 (sortedFiles module_.2)).map Prod.fst).Nodup ↔
      modules.Pairwise fun left right =>
        ∀ path, Gives maxFiles left path → ¬ Gives maxFiles right path := by
  rw [List.map_flatMap, List.nodup_flatMap]
  constructor
  · rintro ⟨-, apart⟩
    refine apart.imp_of_mem fun {left right} isLeft isRight disjoint path ofLeft ofRight => ?_
    exact disjoint ((mem_moduleDomains_paths (accepted left isLeft).nodup).mpr ofLeft)
      ((mem_moduleDomains_paths (accepted right isRight).nodup).mpr ofRight)
  · intro apart
    refine ⟨fun _ _ => moduleDomains_nodup, ?_⟩
    refine apart.imp_of_mem fun {left right} isLeft isRight disjoint path ofLeft ofRight => ?_
    exact disjoint path ((mem_moduleDomains_paths (accepted left isLeft).nodup).mp ofLeft)
      ((mem_moduleDomains_paths (accepted right isRight).nodup).mp ofRight)

theorem below_iff {module_ : String × List String} (accepted : AcceptedModule module_) :
    (∀ domain ∈ moduleDomains maxFiles module_.1 (sortedFiles module_.2), domain.1 = "." ∨
        ∀ file ∈ domain.2, AtOrBelow file domain.1) ↔
      (maxFiles < module_.2.length → module_.1 ≠ "." → module_.1 ∈ module_.2 →
        domainPathOf module_.1 module_.1 = module_.1) := by
  have lengths := (sortedFiles_perm accepted.nodup).length_eq
  constructor
  · intro below isLarge proper own
    have inside : module_.1 ∈ (sortedFiles module_.2).filter
        (domainPathOf module_.1 · = domainPathOf module_.1 module_.1) := by
      rw [List.mem_filter, mem_sortedFiles]
      exact ⟨own, decide_eq_true rfl⟩
    have isDomain : (domainPathOf module_.1 module_.1, (sortedFiles module_.2).filter
        (domainPathOf module_.1 · = domainPathOf module_.1 module_.1)) ∈
        moduleDomains maxFiles module_.1 (sortedFiles module_.2) := by
      rw [mem_moduleDomains, if_neg (by rw [lengths]; exact not_le.mpr isLarge)]
      exact ⟨rfl, List.ne_nil_of_mem inside⟩
    rcases below _ isDomain with isRoot | holds
    · exact absurd isRoot (domainPathOf_ne_root proper)
    · exact (below_own_iff proper).mp (holds _ inside)
  · intro own domain isDomain
    by_cases isRoot : module_.1 = "."
    · rw [mem_moduleDomains, lengths] at isDomain
      split at isDomain
      · exact .inl (isDomain ▸ isRoot)
      · by_cases isOwn : domain.1 = "."
        · exact .inl isOwn
        · refine .inr fun file member => ?_
          rw [isDomain.1, List.mem_filter, decide_eq_true_eq, isRoot] at member
          exact member.2 ▸ (domainPathOf_root file).resolve_left (member.2 ▸ isOwn)
    · refine .inr fun file member => ?_
      rw [mem_moduleDomains, lengths] at isDomain
      split at isDomain
      · subst isDomain
        exact accepted.inside isRoot file (mem_sortedFiles.mp member)
      · next isLarge =>
        rw [isDomain.1, List.mem_filter, decide_eq_true_eq, mem_sortedFiles] at member
        obtain ⟨isFile, isPath⟩ := member
        rw [← isPath]
        rcases accepted.inside isRoot file isFile with rfl | below
        · exact (below_own_iff isRoot).mpr (own (not_le.mp isLarge) isRoot isFile)
        · exact domainPathOf_below isRoot below

theorem skeletonFiles_eq : skeletonFiles domains = (domains.map (·.entry)).flatMap Prod.snd := by
  rw [List.flatMap_map]
  rfl

theorem skeletonPaths_eq :
    domains.map (·.domainPath) = (domains.map (·.entry)).map Prod.fst := by
  rw [List.map_map]
  rfl

/-- The domains of an accepted map always are a partition of the files; their names are usable
exactly where no directory of a split module is the path of another one. -/
theorem usableSkeleton_iff (accepted : buildDomainSkeleton moduleFiles maxFiles maxFanout =
    .ok domains) : UsableSkeleton moduleFiles domains ↔ NamesApart maxFiles moduleFiles := by
  obtain ⟨entries, checked, once, -⟩ := skeletonLoop_ok (buildDomainSkeleton_ok accepted)
  have files : (skeletonFiles domains).Perm moduleFiles.values.flatten := by
    rw [skeletonFiles_eq, entries]
    exact (moduleDomains_files checked).trans sortedModules_files
  have allOnce := sortedModules_files.nodup_iff.mp once
  have safe : moduleFiles.values.flatten.all isRepoRelative = true := by
    rw [← sortedModules_files.all_eq, List.all_flatMap, List.all_eq_true]
    exact fun module_ member => (checked module_ member).safe
  have names : (domains.map (·.domainPath)).Nodup ↔ (sortedModules moduleFiles).Pairwise
      fun left right => ∀ path, Gives maxFiles left path → ¬ Gives maxFiles right path := by
    rw [skeletonPaths_eq, entries, nodup_paths_iff checked]
  have below : (∀ domain ∈ domains, domain.domainPath = "." ∨
      ∀ file ∈ domain.files, AtOrBelow file domain.domainPath) ↔
      ∀ module_ ∈ moduleFiles.entries, maxFiles < module_.2.length → module_.1 ≠ "." →
        module_.1 ∈ module_.2 → domainPathOf module_.1 module_.1 = module_.1 := by
    have listed : (∀ domain ∈ domains, domain.domainPath = "." ∨
        ∀ file ∈ domain.files, AtOrBelow file domain.domainPath) ↔
        ∀ domain ∈ domains.map (·.entry), domain.1 = "." ∨
          ∀ file ∈ domain.2, AtOrBelow file domain.1 := by
      rw [List.forall_mem_map]
      rfl
    rw [listed, entries, List.forall_mem_flatMap]
    simp only [← mem_sortedModules]
    exact forall₂_congr fun module_ member => below_iff (checked module_ member)
  have distinctPaths : (sortedModules moduleFiles).Pairwise fun left right => left.1 ≠ right.1 := by
    have nodup : ((sortedModules moduleFiles).map Prod.fst).Nodup :=
      ((List.perm_insertionSort _ _).map _).nodup_iff.mpr moduleFiles.nodup
    exact List.pairwise_map.mp nodup
  constructor
  · rintro ⟨-, -, -, isBelow, distinct⟩
    refine ⟨?_, below.mp isBelow⟩
    intro large isLarge tooMany other isOther different keeps
    have symmetric : Std.Symm fun left right : String × List String =>
        ∀ path, Gives maxFiles left path → ¬ Gives maxFiles right path :=
      ⟨fun _ _ apart path ofLeft ofRight => apart path ofRight ofLeft⟩
    have apart := (names.mp distinct).forall (mem_sortedModules.mpr isLarge)
      (mem_sortedModules.mpr isOther) fun same => different (same ▸ rfl)
    exact ((disjoint_gives_iff different.symm).mp apart).1 tooMany keeps
  · rintro ⟨modules, own⟩
    refine ⟨files, files.nodup_iff.mpr allOnce,
      validateExactCoverage_valid files allOnce safe, below.mpr own, names.mpr ?_⟩
    refine distinctPaths.imp_of_mem fun {left right} isLeft isRight different => ?_
    rw [mem_sortedModules] at isLeft isRight
    exact (disjoint_gives_iff different).mpr
      ⟨fun isLarge keeps => modules left isLeft isLarge right isRight different.symm keeps,
        fun isLarge keeps => modules right isRight isLarge left isLeft different keeps⟩

end Accepted

/-! ## A directory and a module of one path -/

namespace SampleModules

/-- A module that is split by a directory, and the module of that directory. -/
def nested : Dict String (List String) :=
  .ofPairs [("a", ["a/b/x.py", "a/y.py"]), ("a/b", ["a/b/z.py"])]

/-- The domains of these modules with one file in each. -/
def nestedDomains : List DomainSkeleton :=
  [⟨"a", ["a/y.py"], by decide, by decide, by decide⟩,
    ⟨"a/b", ["a/b/x.py"], by decide, by decide, by decide⟩,
    ⟨"a/b", ["a/b/z.py"], by decide, by decide, by decide⟩]

theorem nested_accepted : buildDomainSkeleton nested 1 6 = .ok nestedDomains := by decide +kernel

theorem nested_usable_iff :
    buildDomainSkeleton nested 1 6 = .ok nestedDomains ∧
      (UsableSkeleton nested nestedDomains ↔ NamesApart 1 nested) :=
  ⟨nested_accepted, usableSkeleton_iff nested_accepted⟩

theorem nested_not_usable : ¬ ∀ (moduleFiles : Dict String (List String)) (maxFiles maxFanout : Int)
    (domains : List DomainSkeleton),
    buildDomainSkeleton moduleFiles maxFiles maxFanout = .ok domains →
      UsableSkeleton moduleFiles domains := by
  intro usable
  have distinct := (usable nested 1 6 nestedDomains nested_accepted).distinct
  exact absurd distinct (by decide)

end SampleModules

end CodeMigrator
