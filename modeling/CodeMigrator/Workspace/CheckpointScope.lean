import CodeMigrator.Workspace.Checkpoint

/-!
# The scope of a checkpoint commit

`DirectoryDiffProvider.diff` on a workspace with symbolic links, the gate of
`CheckpointService.checkpoint`, and the file set that it hands to `create_checkpoint`
(`workspace/checkpoint.py`).
-/

namespace CodeMigrator
open Lib

/-- What is at a path of a workspace, directories apart. -/
inductive WorkspaceNode where
  | file (data : ByteArray)
  | symlink (target : String)

/-- The files and links of a workspace; links are not followed. -/
abbrev LinkedTree := Dict String WorkspaceNode

namespace DirectoryDiffProvider

variable (sha256 : ByteArray → String) (provider : DirectoryDiffProvider)

/-- The fact of a node. -/
def nodeFact (entry : String × WorkspaceNode) : WorkspaceFileFact :=
  match entry.2 with
  | .file data => ⟨entry.1, data.size, sha256 data, none⟩
  | .symlink target => ⟨entry.1, target.toUTF8.size, sha256 target.toUTF8, some target⟩

/-- The files and links outside the repository's own directory. -/
def currentNodes (tree : LinkedTree) : List (String × WorkspaceNode) :=
  tree.entries.filter (fun entry => !isGitPath entry.1)

/-- The change of a node that is there: a link is always one. -/
def nodeChange (entry : String × WorkspaceNode) : Option WorkspaceChange :=
  match entry.2 with
  | .file data => provider.fileChange sha256 (entry.1, data)
  | .symlink target => some ⟨entry.1, .symlink, target.toUTF8.size, sha256 target.toUTF8, some target,
      (provider.baseFiles.get? entry.1).isNone⟩

/-- The base files that are gone. -/
def nodeDeletions (tree : LinkedTree) : List WorkspaceChange :=
  (provider.baseFiles.entries.filter (fun entry =>
      !(currentNodes tree).any (·.1 == entry.1))).map
    fun entry => ⟨entry.1, .deleted, 0, sha256 entry.2, none, false⟩

/-- `diff`. -/
def diffLinks (tree : LinkedTree) : WorkspaceDiff :=
  ⟨((currentNodes tree).filterMap (provider.nodeChange sha256) ++
      provider.nodeDeletions sha256 tree).insertionSort
        (fun left right => pathLe left.path right.path),
    ((currentNodes tree).map (nodeFact sha256)).insertionSort
      (fun left right => pathLe left.path right.path)⟩

end DirectoryDiffProvider

namespace CheckpointService
open DirectoryDiffProvider

variable (sha256 : ByteArray → String) (provider : DirectoryDiffProvider)

/-! ## The gate and the file set -/

/-- The excludes are valid, and neither the ledger nor the difference violates the scope. -/
def accepts (operations : List WorkspaceFileOperation) (tree : LinkedTree) (scope : WriteScope)
    (buildExcludes : List String) : Bool :=
  buildExcludes.all validateRelativePath &&
    decide (scopeViolations operations (provider.diffLinks sha256 tree) scope buildExcludes = ([], []))

/-- The files that `checkpoint` hands to `create_checkpoint`. -/
def fileSet (tree : LinkedTree) (buildExcludes : List String) : List WorkspaceFileFact :=
  (provider.diffLinks sha256 tree).files.filter (fun file => !excluded file.path buildExcludes)

/-- The files that `checkpoint` hands to `create_checkpoint`, where it gets so far. -/
def committedFiles (operations : List WorkspaceFileOperation) (tree : LinkedTree)
    (scope : WriteScope) (buildExcludes : List String) : Option (List WorkspaceFileFact) :=
  if accepts sha256 provider operations tree scope buildExcludes then
    some (fileSet sha256 provider tree buildExcludes)
  else none

/-! ## The specification -/

/-- A file set differs from the base at a path: the file is added, changed or missing. -/
def Differs (files : List WorkspaceFileFact) (path : String) : Prop :=
  match provider.baseFiles.get? path with
  | none => ∃ fact ∈ files, fact.path = path
  | some old => ∀ fact ∈ files, fact.path = path →
      fact.symlinkTarget ≠ none ∨ fact.sha256 ≠ sha256 old

/-- The scope permits a difference at a path: a new file within it, a base file as a write path. -/
def Permitted (scope : WriteScope) (path : String) : Prop :=
  match provider.baseFiles.get? path with
  | none => scopeContains path scope true = true
  | some _ => inWritePaths path scope = true

variable {sha256 provider} {tree : LinkedTree} {scope : WriteScope} {buildExcludes : List String}
  {operations : List WorkspaceFileOperation}

theorem mem_currentNodes {entry : String × WorkspaceNode} :
    entry ∈ currentNodes tree ↔ tree.get? entry.1 = some entry.2 ∧ isGitPath entry.1 = false := by
  rw [currentNodes, List.mem_filter, Dict.get?_eq_some_iff]
  simp

@[simp] theorem nodeFact_path (entry : String × WorkspaceNode) :
    (nodeFact sha256 entry).path = entry.1 := by
  unfold nodeFact
  split
  · rfl
  · rfl

theorem mem_fileSet {fact : WorkspaceFileFact} :
    fact ∈ fileSet sha256 provider tree buildExcludes ↔
      ∃ entry ∈ currentNodes tree, nodeFact sha256 entry = fact ∧
        excluded entry.1 buildExcludes = false := by
  rw [fileSet, List.mem_filter, diffLinks, List.mem_insertionSort, List.mem_map]
  constructor
  · rintro ⟨⟨entry, member, rfl⟩, kept⟩
    exact ⟨entry, member, rfl, by simpa using kept⟩
  · rintro ⟨entry, member, rfl, kept⟩
    exact ⟨⟨entry, member, rfl⟩, by simpa using kept⟩

theorem allowed_of_accepts
    (accepted : accepts sha256 provider operations tree scope buildExcludes = true)
    {change : WorkspaceChange} (member : change ∈ (provider.diffLinks sha256 tree).changes)
    (kept : excluded change.path buildExcludes = false) : changeAllowed change scope = true := by
  rw [accepts, Bool.and_eq_true, decide_eq_true_iff] at accepted
  have none : ((((provider.diffLinks sha256 tree).changes.filter
      (fun change => !excluded change.path buildExcludes)).filter
      (fun change => !changeAllowed change scope)).flatMap violationPaths).dedup.insertionSort
        pathLe = [] := (Prod.ext_iff.mp accepted.2).2
  by_contra refused
  have inside : change ∈ ((provider.diffLinks sha256 tree).changes.filter
      (fun change => !excluded change.path buildExcludes)).filter
      (fun change => !changeAllowed change scope) := by
    rw [List.mem_filter, List.mem_filter]
    exact ⟨⟨member, by simpa using kept⟩, by simpa using refused⟩
  have violates : ∃ path, path ∈ violationPaths change := by
    unfold violationPaths
    split
    · exact ⟨_, List.mem_cons_self⟩
    · exact ⟨_, List.mem_cons_self⟩
  obtain ⟨path, violates⟩ := violates
  have listed := List.mem_dedup.mpr (List.mem_flatMap.mpr ⟨change, inside, violates⟩)
  rw [← List.mem_insertionSort pathLe, none] at listed
  cases listed

theorem permitted_of_kept
    (accepted : accepts sha256 provider operations tree scope buildExcludes = true) {path : String}
    (kept : excluded path buildExcludes = false)
    (differs : Differs sha256 provider (fileSet sha256 provider tree buildExcludes) path) :
    Permitted provider scope path := by
  have changed : ∀ change, change ∈ (currentNodes tree).filterMap (provider.nodeChange sha256) ∨
      change ∈ provider.nodeDeletions sha256 tree → change.path = path →
      changeAllowed change scope = true := by
    rintro change member rfl
    refine allowed_of_accepts accepted ?_ kept
    rw [diffLinks, List.mem_insertionSort, List.mem_append]
    exact member
  unfold Differs at differs
  unfold Permitted
  cases base : provider.baseFiles.get? path with
  | none =>
    rw [base] at differs
    obtain ⟨fact, member, atPath⟩ := differs
    obtain ⟨entry, here, rfl, -⟩ := mem_fileSet.mp member
    obtain ⟨name, node⟩ := entry
    rw [nodeFact_path] at atPath
    dsimp only at atPath
    subst atPath
    cases node with
    | file data =>
      have allowed := changed ⟨name, .added, data.size, sha256 data, none, false⟩
        (.inl (List.mem_filterMap.mpr ⟨_, here, by simp [nodeChange, fileChange, base]⟩)) rfl
      exact allowed
    | symlink target =>
      have allowed := changed ⟨name, .symlink, target.toUTF8.size, sha256 target.toUTF8,
        some target, true⟩
        (.inl (List.mem_filterMap.mpr ⟨_, here, by simp [nodeChange, base]⟩)) rfl
      rw [changeAllowed, Bool.and_eq_true] at allowed
      exact allowed.1
  | some old =>
    rw [base] at differs
    dsimp only at differs ⊢
    have notGit : isGitPath path = false :=
      ToolGateway.isGitPath_of_validated (provider.validated path (by rw [base]; simp))
    cases found : tree.get? path with
    | none =>
      have gone : (⟨path, .deleted, 0, sha256 old, none, false⟩ : WorkspaceChange) ∈
          provider.nodeDeletions sha256 tree := by
        refine List.mem_map.mpr ⟨(path, old), List.mem_filter.mpr ⟨?_, ?_⟩, rfl⟩
        · exact (Dict.get?_eq_some_iff _ _ _).mp base
        · rw [Bool.not_eq_true', List.any_eq_false]
          intro entry member same
          rw [beq_iff_eq] at same
          have there := (mem_currentNodes.mp member).1
          rw [same, found] at there
          cases there
      exact changed _ (.inr gone) rfl
    | some node =>
      have here : (path, node) ∈ currentNodes tree := mem_currentNodes.mpr ⟨found, notGit⟩
      have distinct := differs _ (mem_fileSet.mpr ⟨_, here, rfl, kept⟩) (nodeFact_path _)
      cases node with
      | file data =>
        have different : sha256 old ≠ sha256 data :=
          fun same => (distinct.resolve_left (not_not.mpr rfl)) same.symm
        exact changed ⟨path, .modified, data.size, sha256 data, none, false⟩
          (.inl (List.mem_filterMap.mpr
            ⟨_, here, by simp [nodeChange, fileChange, base, different]⟩)) rfl
      | symlink target =>
        have allowed := changed ⟨path, .symlink, target.toUTF8.size, sha256 target.toUTF8,
          some target, false⟩
          (.inl (List.mem_filterMap.mpr ⟨_, here, by simp [nodeChange, base]⟩)) rfl
        rw [changeAllowed, Bool.and_eq_true] at allowed
        have inside := allowed.1
        unfold scopeContains at inside
        by_contra outside
        rw [if_neg outside] at inside
        cases inside

theorem not_mem_of_excluded {path : String} (out : excluded path buildExcludes = true)
    {fact : WorkspaceFileFact} (member : fact ∈ fileSet sha256 provider tree buildExcludes) :
    fact.path ≠ path := by
  rintro rfl
  obtain ⟨entry, -, rfl, kept⟩ := mem_fileSet.mp member
  rw [nodeFact_path, kept] at out
  cases out

/-- The file set of a checkpoint differs from the base within the scope only, if and only if every
base file that is excluded is a write path. -/
theorem committed_files_in_scope_iff (sha256 : ByteArray → String) (provider : DirectoryDiffProvider)
    (operations : List WorkspaceFileOperation) (tree : LinkedTree) (scope : WriteScope)
    (buildExcludes : List String) {files : List WorkspaceFileFact}
    (committed : committedFiles sha256 provider operations tree scope buildExcludes = some files) :
    (∀ path, Differs sha256 provider files path → Permitted provider scope path) ↔
      ∀ path, provider.baseFiles.get? path ≠ none → excluded path buildExcludes = true →
        inWritePaths path scope = true := by
  rw [committedFiles] at committed
  split at committed
  · next accepted =>
      cases committed
      constructor
      · intro permits path present out
        cases base : provider.baseFiles.get? path with
        | none => exact absurd base present
        | some old =>
          have permitted := permits path (by
            unfold Differs
            rw [base]
            exact fun fact member atPath => absurd atPath (not_mem_of_excluded out member))
          unfold Permitted at permitted
          rw [base] at permitted
          exact permitted
      · intro writable path differs
        cases out : excluded path buildExcludes with
        | false => exact permitted_of_kept accepted out differs
        | true =>
          unfold Differs at differs
          unfold Permitted
          cases base : provider.baseFiles.get? path with
          | none =>
            rw [base] at differs
            obtain ⟨fact, member, atPath⟩ := differs
            exact absurd atPath (not_mem_of_excluded out member)
          | some old => exact writable path (by rw [base]; simp) out
  · cases committed

end CheckpointService

namespace SampleCheckpoint
open CheckpointService

/-- A slice that may create files in one directory. -/
def scope : WriteScope := ⟨⟨[], [⟨"generated", by decide⟩]⟩⟩

/-- One file elsewhere. -/
def base : Dict String ByteArray := Dict.empty.set "vendor/lib.py" ByteArray.empty

theorem base_only {path : String} (present : base.get? path ≠ none) : path = "vendor/lib.py" := by
  by_contra other
  exact present ((Dict.get?_set _ _ _ _).trans (if_neg other))

/-- A base with the file elsewhere. -/
def provider : DirectoryDiffProvider where
  baseFiles := base
  validated := by
    intro path present
    rw [base_only present]
    decide

/-- The workspace of the base as it was provisioned. -/
def tree : LinkedTree := Dict.empty.set "vendor/lib.py" (.file ByteArray.empty)

/-- The workspace with a new file of the scope and an output of a build. -/
def built : LinkedTree :=
  (tree.set "generated/a.py" (.file "a".toUTF8)).set "build/a.pyc" (.file ByteArray.empty)

theorem committed_files_in_scope_all :
    (fileSet (fun _ => "") provider built ["build"]).map (·.path) = ["generated/a.py", "vendor/lib.py"] ∧
      ∀ path, Differs (fun _ => "") provider (fileSet (fun _ => "") provider built ["build"]) path →
        Permitted provider scope path := by
  refine ⟨by decide, (committed_files_in_scope_iff (fun _ => "") provider [] built scope ["build"]
    (by rw [committedFiles, if_pos (by decide)])).mpr ?_⟩
  intro path present out
  rw [base_only present] at out
  exact absurd out (by decide)

/-- An unchanged workspace whose excluded file is no part of the commit. -/
theorem excluded_file_deleted :
    ¬ ∀ (sha256 : ByteArray → String) (provider : DirectoryDiffProvider)
      (operations : List WorkspaceFileOperation) (tree : LinkedTree) (scope : WriteScope)
      (buildExcludes : List String) (files : List WorkspaceFileFact),
      committedFiles sha256 provider operations tree scope buildExcludes = some files →
      ∀ path, Differs sha256 provider files path → Permitted provider scope path := by
  intro claim
  have permitted := claim (fun _ => "") provider [] tree scope ["vendor"]
    (fileSet (fun _ => "") provider tree ["vendor"])
    (by rw [committedFiles, if_pos (by decide)]) "vendor/lib.py"
  have missing : Differs (fun _ => "") provider (fileSet (fun _ => "") provider tree ["vendor"])
      "vendor/lib.py" :=
    fun fact member atPath => absurd atPath (not_mem_of_excluded (by decide) member)
  have writable : inWritePaths "vendor/lib.py" scope = true := permitted missing
  exact absurd writable (by decide)

end SampleCheckpoint

end CodeMigrator
