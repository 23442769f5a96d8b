import CodeMigrator.Workspace.WriteTools

/-!
# The scope gate of a checkpoint

`DirectoryDiffProvider.diff` and the scope checks of `CheckpointService` in
`workspace/checkpoint.py`. The gate looks at the recorded operations and at the difference of
the workspace from its base; what the gateway has admitted passes it.
-/

namespace CodeMigrator
open Lib

/-! ## The difference from the base -/

/-- `WorkspaceFileFact`. -/
structure WorkspaceFileFact where
  path : String
  size : Nat
  sha256 : String
  symlinkTarget : Option String

/-- The kind of a change. -/
inductive ChangeKind where
  | added | modified | deleted | symlink
  deriving DecidableEq

/-- `WorkspaceChange`. -/
structure WorkspaceChange where
  path : String
  kind : ChangeKind
  size : Nat
  sha256 : String
  symlinkTarget : Option String
  isNew : Bool

/-- `WorkspaceDiff`. -/
structure WorkspaceDiff where
  changes : List WorkspaceChange
  files : List WorkspaceFileFact

/-- The repository itself is no part of the workspace. -/
def isGitPath (path : String) : Bool := path == ".git" || startsWith path ".git/"

/-- `DirectoryDiffProvider`: the base map, whose paths were validated. -/
structure DirectoryDiffProvider where
  baseFiles : Dict String ByteArray
  validated : ∀ path, baseFiles.get? path ≠ none → validateRelativePath path = true

namespace DirectoryDiffProvider

variable (sha256 : ByteArray → String) (provider : DirectoryDiffProvider)

/-- The files of a workspace without symbolic links. -/
def currentFiles (tree : FileTree) : List (String × ByteArray) :=
  tree.files.entries.filter (fun entry => !isGitPath entry.1)

/-- The change of a file that is there. -/
def fileChange (entry : String × ByteArray) : Option WorkspaceChange :=
  match provider.baseFiles.get? entry.1 with
  | none => some ⟨entry.1, .added, entry.2.size, sha256 entry.2, none, false⟩
  | some old =>
    if sha256 old ≠ sha256 entry.2 then
      some ⟨entry.1, .modified, entry.2.size, sha256 entry.2, none, false⟩
    else none

/-- The base files that are gone. -/
def deletions (tree : FileTree) : List WorkspaceChange :=
  (provider.baseFiles.entries.filter (fun entry =>
      !(currentFiles tree).any (·.1 == entry.1))).map
    fun entry => ⟨entry.1, .deleted, 0, sha256 entry.2, none, false⟩

/-- `diff`. -/
def diff (tree : FileTree) : WorkspaceDiff :=
  ⟨((currentFiles tree).filterMap (provider.fileChange sha256) ++
      provider.deletions sha256 tree).insertionSort (fun left right => pathLe left.path right.path),
    ((currentFiles tree).map (fun entry =>
      (⟨entry.1, entry.2.size, sha256 entry.2, none⟩ : WorkspaceFileFact))).insertionSort
        (fun left right => pathLe left.path right.path)⟩

end DirectoryDiffProvider

/-! ## The scope checks -/

namespace CheckpointService

/-- `_excluded`. -/
def excluded (path : String) (excludes : List String) : Bool :=
  excludes.any (fun item => path == item || startsWith path (rstrip item '/' ++ "/"))

/-- The path is one of the write paths. -/
def inWritePaths (path : String) (scope : WriteScope) : Bool :=
  scope.out.writePaths.any (fun item => item.text == path)

/-- `_scope_contains`. -/
def scopeContains (path : String) (scope : WriteScope) (isNew : Bool) : Bool :=
  if inWritePaths path scope then true
  else if !isNew then false
  else scope.out.createRoots.any (inStrippedRoot path)

/-- The parts of a `PurePosixPath` without its root. -/
def pathParts (path : String) : List String :=
  (split path '/').filter (fun part => part ≠ "" ∧ part ≠ ".")

/-- The parts of a path with its `..` resolved; `none` where it leaves the root. -/
def resolve (resolved : List String) : List String → Option (List String)
  | [] => some resolved
  | ".." :: rest => if resolved = [] then none else resolve resolved.dropLast rest
  | part :: rest => resolve (resolved ++ [part]) rest

/-- `_effective_path`. -/
def effectivePath (change : WorkspaceChange) : String :=
  match change.symlinkTarget with
  | none => change.path
  | some target =>
    if startsWith target "/" then "/"
    else
      match resolve [] ((pathParts change.path).dropLast ++ pathParts target) with
      | none => "/"
      | some parts => "/".intercalate parts

/-- `_change_allowed`. -/
def changeAllowed (change : WorkspaceChange) (scope : WriteScope) : Bool :=
  match change.kind with
  | .symlink => scopeContains change.path scope change.isNew &&
      scopeContains (effectivePath change) scope change.isNew
  | .modified | .deleted => inWritePaths (effectivePath change) scope
  | .added => scopeContains (effectivePath change) scope true

/-- `_violation_paths`. -/
def violationPaths (change : WorkspaceChange) : List String :=
  if change.kind = .symlink then [change.path, effectivePath change] else [effectivePath change]

/-- `_operation_allowed`. -/
def operationAllowed (operation : WorkspaceFileOperation) (scope : WriteScope) : Bool :=
  if operation.disposition = .overwritten then inWritePaths operation.path scope
  else scopeContains operation.path scope true

/-- The structured violations and the paths of the diff violations that `checkpoint` rejects a
workspace for. -/
def scopeViolations (operations : List WorkspaceFileOperation) (diff : WorkspaceDiff)
    (scope : WriteScope) (buildExcludes : List String) : List String × List String :=
  ((operations.filter (fun operation => !operationAllowed operation scope)).map (·.path),
    ((((diff.changes.filter (fun change => !excluded change.path buildExcludes)).filter
      (fun change => !changeAllowed change scope)).flatMap violationPaths).dedup).insertionSort pathLe)

theorem scopeContains_new (path : String) (scope : WriteScope) :
    scopeContains path scope true = insideScope path scope := by
  unfold scopeContains inWritePaths insideScope
  cases scope.out.writePaths.any (fun item => item.text == path) <;> simp

end CheckpointService

/-! ## A workspace that starts as its base -/

/-- A workspace with the base map that it starts as. -/
structure Checkout where
  tree : FileTree
  provider : DirectoryDiffProvider
  wellFormed : tree.WellFormed
  starts : ∀ path, isGitPath path = false → tree.files.get? path = provider.baseFiles.get? path

/-- A session that has written nothing. -/
def Checkout.session (checkout : Checkout) : WriteSession := ⟨checkout.tree, 0, []⟩

namespace ToolGateway
open CheckpointService

variable {gateway : ToolGateway} {session : WriteSession} {scope : WriteScope}
  {provider : DirectoryDiffProvider} {path : String}

/-- What the writes of a gateway keep: no base file is gone, every file is as in the base or
within the scope, and so is every recorded operation. -/
structure InScope (provider : DirectoryDiffProvider) (scope : WriteScope) (session : WriteSession) :
    Prop where
  wellFormed : session.tree.WellFormed
  kept : ∀ path, session.tree.files.get? path = none → provider.baseFiles.get? path = none
  changed : ∀ path data, session.tree.files.get? path = some data → isGitPath path = false →
    provider.baseFiles.get? path = some data ∨ inWritePaths path scope = true ∨
      provider.baseFiles.get? path = none ∧ scopeContains path scope true = true
  operations : ∀ operation ∈ session.operations, operationAllowed operation scope = true

theorem isGitPath_of_validated (safe : validateRelativePath path = true) :
    isGitPath path = false := by
  unfold validateRelativePath at safe
  rw [Bool.and_eq_true] at safe
  by_contra git
  have parts : ".git" ∈ split path '/' := by
    rw [Bool.not_eq_false, isGitPath, Bool.or_eq_true, beq_iff_eq, startsWith_iff] at git
    rcases git with rfl | ⟨rest, shape⟩
    · decide
    · unfold split
      rw [← shape]
      have first : splitList '/' (".git/".toList ++ rest) = ".git".toList :: splitList '/' rest := by
        cases rest <;> simp [splitList]
      rw [first, List.map_cons]
      exact List.mem_cons_self
  have checks := safe.1
  simp only [isRepoRelative, Bool.and_eq_true, Bool.not_eq_true', List.any_eq_false] at checks
  exact checks.2 ".git" parts (by decide)

theorem inScope_start (checkout : Checkout) (scope : WriteScope) :
    InScope checkout.provider scope checkout.session where
  wellFormed := checkout.wellFormed
  kept := by
    intro path absent
    by_contra present
    have starts := checkout.starts path
      (isGitPath_of_validated (checkout.provider.validated path present))
    exact present (starts.symm.trans absent)
  changed := by
    intro path data found notGit
    exact .inl ((checkout.starts path notGit).symm.trans found)
  operations := fun _ member => absurd member List.not_mem_nil

theorem targetExisted_false (wellFormed : session.tree.WellFormed)
    (absent : targetExisted session path = .ok false) : session.tree.files.get? path = none := by
  cases found : session.tree.files.get? path with
  | none => rfl
  | some data =>
    have safe : validateRelativePath path = true := by
      by_contra unsafe_
      unfold targetExisted FileTree.exists_ at absent
      rw [if_pos unsafe_] at absent
      cases absent
    unfold targetExisted at absent
    rw [FileTree.exists_of_file wellFormed safe found] at absent
    cases absent

/-- What the gateway admits is within the scope, and within its write paths when the target
exists. -/
theorem admits_inScope (isScope : gateway.writeScope = some scope) {existed : Bool}
    (admitted : gateway.admits path existed = true) :
    scopeContains path scope true = true ∧ (existed = true → inWritePaths path scope = true) := by
  have allowed : writeAllowed scope gateway.otherWriteScopes path existed = true := by
    simpa [admits, isScope] using admitted
  constructor
  · rw [scopeContains_new, insideScope_iff]
    exact writeAllowed_permits allowed
  · rintro rfl
    by_contra outside
    unfold inWritePaths at outside
    unfold writeAllowed at allowed
    rw [if_neg outside, if_pos rfl] at allowed
    cases allowed

theorem recordOperation_cases (session : WriteSession) (tool : WriteTool) (path : String)
    (bytesWritten : Nat) (disposition : Disposition) :
    (gateway.recordOperation session tool path bytesWritten disposition).tree = session.tree ∧
      ∀ operation ∈
          (gateway.recordOperation session tool path bytesWritten disposition).operations,
        operation ∈ session.operations ∨
          operation.path = path ∧ operation.disposition = disposition := by
  unfold recordOperation
  split
  · refine ⟨rfl, ?_⟩
    intro operation member
    rcases List.mem_append.mp member with earlier | last
    · exact .inl earlier
    · rw [List.mem_singleton.mp last]
      exact .inr ⟨rfl, rfl⟩
  · exact ⟨rfl, fun _ member => .inl member⟩

theorem step_inScope (isScope : gateway.writeScope = some scope) (inScope : InScope provider scope session)
    (input : WriteInput) : InScope provider scope (gateway.step session input) := by
  rcases gateway.dispatch_cases input with same | ⟨tool, path, data, existed, disposition, target,
    admitted, isDisposition, result, stored⟩
  · rw [same]
    exact inScope
  rw [stored]
  obtain ⟨inside, overwrites⟩ := admits_inScope isScope admitted
  obtain ⟨wellFormed, files⟩ :=
    FileTree.writeAtomic_cases inScope.wellFormed path data input.2.2
  -- A new file was no base file, because no base file is gone.
  have fresh : existed = false → provider.baseFiles.get? path = none := by
    rintro rfl
    exact inScope.kept path (targetExisted_false inScope.wellFormed target)
  have isAllowed : ∀ operation : WorkspaceFileOperation, operation.path = path →
      operation.disposition = disposition → operationAllowed operation scope = true := by
    intro operation atPath isIts
    unfold operationAllowed
    rw [atPath, isIts, isDisposition]
    cases existed with
    | true => simpa using overwrites rfl
    | false => simpa using inside
  have written : InScope provider scope
      { session with tree := (session.tree.writeAtomic path data input.2.2).1 } := by
    refine ⟨wellFormed, ?_, ?_, inScope.operations⟩
    · intro other absent
      rcases files with same | replaced
      · rw [same] at absent
        exact inScope.kept other absent
      · simp only [replaced, Dict.get?_set] at absent
        split at absent
        · cases absent
        · exact inScope.kept other absent
    · intro other content found notGit
      rcases files with same | replaced
      · rw [same] at found
        exact inScope.changed other content found notGit
      · simp only [replaced, Dict.get?_set] at found
        split at found
        · next atPath =>
          subst atPath
          cases existed with
          | true => exact .inr (.inl (overwrites rfl))
          | false => exact .inr (.inr ⟨fresh rfl, inside⟩)
        · exact inScope.changed other content found notGit
  unfold store
  cases result' : session.tree.writeAtomic path data input.2.2 with
  | mk tree outcome =>
    rw [result'] at written
    cases outcome with
    | error error => exact written
    | ok done =>
      obtain ⟨sameTree, operations⟩ := gateway.recordOperation_cases
        ⟨tree, session.writeBytes + data.size, session.operations⟩ tool path data.size disposition
      refine ⟨?_, ?_, ?_, ?_⟩
      · rw [sameTree]
        exact written.wellFormed
      · rw [sameTree]
        exact written.kept
      · rw [sameTree]
        exact written.changed
      · intro operation member
        rcases operations operation member with earlier | ⟨atPath, isIts⟩
        · exact inScope.operations operation earlier
        · exact isAllowed operation atPath isIts

theorem InScope.changes (inScope : InScope provider scope session) (sha256 : ByteArray → String) :
    ∀ change ∈ (provider.diff sha256 session.tree).changes, changeAllowed change scope = true := by
  intro change member
  have present : ∀ entry ∈ DirectoryDiffProvider.currentFiles session.tree,
      session.tree.files.get? entry.1 = some entry.2 ∧ isGitPath entry.1 = false := by
    intro entry inside
    obtain ⟨stored, notGit⟩ := List.mem_filter.mp inside
    exact ⟨(Dict.get?_eq_some_iff _ _ _).mpr stored, by simpa using notGit⟩
  rcases List.mem_append.mp ((List.mem_insertionSort _).mp member) with changed | deleted
  · obtain ⟨⟨path, data⟩, inside, isChange⟩ := List.mem_filterMap.mp changed
    obtain ⟨found, notGit⟩ := present _ inside
    have allowed := inScope.changed path data found notGit
    unfold DirectoryDiffProvider.fileChange at isChange
    dsimp only at isChange
    split at isChange
    · next absent =>
      obtain rfl := Option.some.inj isChange
      show scopeContains path scope true = true
      rcases allowed with same | named | ⟨-, created⟩
      · rw [absent] at same
        cases same
      · simp [scopeContains, named]
      · exact created
    · next old base =>
      split at isChange
      · next different =>
        obtain rfl := Option.some.inj isChange
        show inWritePaths path scope = true
        rcases allowed with same | named | ⟨absent, -⟩
        · rw [base] at same
          exact absurd (congrArg sha256 (Option.some.inj same)) different
        · exact named
        · rw [base] at absent
          cases absent
      · cases isChange
  · obtain ⟨⟨path, data⟩, gone, rfl⟩ := List.mem_map.mp deleted
    obtain ⟨stored, missing⟩ := List.mem_filter.mp gone
    have base := (Dict.get?_eq_some_iff _ _ _).mpr stored
    have notGit : isGitPath path = false :=
      isGitPath_of_validated (provider.validated path (by rw [base]; simp))
    cases found : session.tree.files.get? path with
    | none =>
      rw [inScope.kept path found] at base
      cases base
    | some content =>
      have current : (path, content) ∈ DirectoryDiffProvider.currentFiles session.tree :=
        List.mem_filter.mpr ⟨(Dict.get?_eq_some_iff _ _ _).mp found, by simpa using notGit⟩
      rw [Bool.not_eq_true', List.any_eq_false] at missing
      exact absurd (by simp) (missing _ current)

/-- After any dispatches through the gateway, on a workspace that starts as the base, the
checkpoint gate finds nothing outside the scope: no recorded operation and no change. -/
theorem gateway_writes_pass_checkpoint (sha256 : ByteArray → String) (checkout : Checkout)
    (scope : WriteScope) (gateway : ToolGateway) (inputs : List WriteInput)
    (buildExcludes : List String) :
    let session := runFrom { gateway with writeScope := some scope }.step checkout.session inputs
    (∀ operation ∈ session.operations, operationAllowed operation scope = true) ∧
      (∀ change ∈ (checkout.provider.diff sha256 session.tree).changes,
        changeAllowed change scope = true) ∧
      scopeViolations session.operations (checkout.provider.diff sha256 session.tree) scope
        buildExcludes = ([], []) := by
  have inScope : InScope checkout.provider scope
      (runFrom { gateway with writeScope := some scope }.step checkout.session inputs) :=
    runFrom_invariant (InScope checkout.provider scope)
      (fun _ input inScope => step_inScope rfl inScope input) (inScope_start checkout scope) inputs
  have operations := inScope.operations
  have changes := inScope.changes sha256
  refine ⟨operations, changes, ?_⟩
  unfold scopeViolations
  rw [List.filter_eq_nil_iff.mpr (fun operation member => by simp [operations operation member]),
    List.filter_eq_nil_iff.mpr (fun change member => by
      simp [changes change (List.mem_of_mem_filter member)])]
  rfl

end ToolGateway

namespace SampleGateway
open CheckpointService ToolGateway

def base : Dict String ByteArray := Dict.empty.set "src/a" "a".toUTF8

theorem base_only {path : String} (found : base.get? path ≠ none) : path = "src/a" := by
  by_contra other
  exact found ((Dict.get?_set _ _ _ _).trans (if_neg other))

/-- A workspace with one base file, in a directory. -/
def checkout : Checkout where
  tree := ⟨base, {"src"}⟩
  provider := ⟨base, fun path present => by
    cases base_only present
    decide⟩
  wellFormed := by
    refine ⟨fun path content found => ?_, by decide⟩
    cases base_only (Option.ne_none_iff_exists'.mpr ⟨content, found⟩)
    decide
  starts := fun _ _ => rfl

def gateway : ToolGateway where
  context :=
    { runId := some ⟨3⟩, draftId := none, phase := .execute, sessionKind := .implementation
      sliceId := some ⟨2⟩, generation := some 1, oneOwner := by decide, draftWithoutSlice := nofun }
  hasWorkspace := true
  writeScope := none
  otherWriteScopes := []
  policy := fun _ => ["WriteFile", "EditFile"]
  runHasWorkspace := fun _ => rfl
  draftHasNone := nofun

def scope : WriteScope := ⟨⟨[⟨"src/a", by decide⟩], [⟨"new", by decide⟩]⟩⟩

/-- A new file, an edit, an overwritten file, and a second write of the new file, which is refused. -/
def inputs : List WriteInput :=
  [(.write ⟨"new/b", "b", by decide⟩, false, .none),
    (.edit ⟨"src/a", "a", "c", some 1, by decide, by decide, by simp⟩, false, .none),
    (.write ⟨"src/a", "d", by decide⟩, false, .none), (.write ⟨"new/b", "e", by decide⟩, false, .none)]

theorem gateway_writes_pass_sample :
    let session := runFrom { gateway with writeScope := some scope }.step checkout.session inputs
    (session.operations.map (fun operation => (operation.path, operation.disposition)) =
        [("new/b", .created), ("src/a", .overwritten), ("src/a", .overwritten)] ∧
      session.tree.files.keys = ["src/a", "new/b"]) ∧
    scopeViolations session.operations (checkout.provider.diff (fun _ => "") session.tree) scope [] =
      ([], []) :=
  ⟨by decide +kernel, (gateway_writes_pass_checkpoint (fun _ => "") checkout scope gateway inputs []).2.2⟩

end SampleGateway
end CodeMigrator
