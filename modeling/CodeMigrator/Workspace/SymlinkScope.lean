import CodeMigrator.Lib.Parts
import CodeMigrator.Workspace.CheckpointScope

/-!
# Where the symbolic links of a checkpoint lead

`_effective_path` (`workspace/checkpoint.py`) removes the `..` of a link's target without looking
at the workspace. The operating system follows the links on its way first.
-/

namespace CodeMigrator
open Lib

/-- A workspace: its files and links have names, and only directories are on the way to them. -/
structure LinkedWorkspace where
  tree : LinkedTree
  named : ∀ path, tree.get? path ≠ none → ∀ part ∈ split path '/',
    part ≠ "" ∧ part ≠ "." ∧ part ≠ ".."
  rooted : ∀ path, tree.get? path ≠ none → ∀ way, way <+: split path '/' →
    way ≠ split path '/' → tree.get? ("/".intercalate way) = none

namespace LinkedTree
open CheckpointService

variable (tree : LinkedTree)

/-- The resolution of a path: `resolved` is a directory that was reached, the other list is still
to come. It ends at a path of the workspace, it leaves the workspace or has to go on from a file
(`some none`), or the fuel runs out. A name that does not exist counts as one that could be
created. -/
def walk : Nat → List String → List String → Option (Option (List String))
  | _, resolved, [] => some (some resolved)
  | 0, _, _ :: _ => none
  | fuel + 1, resolved, part :: rest =>
    if part = "" ∨ part = "." then walk fuel resolved rest
    else if part = ".." then
      if resolved = [] then some none else walk fuel resolved.dropLast rest
    else
      match tree.get? ("/".intercalate (resolved ++ [part])) with
      | some (.symlink target) =>
        if startsWith target "/" then some none else walk fuel resolved (split target '/' ++ rest)
      | some (.file _) => if rest = [] then some (some (resolved ++ [part])) else some none
      | none => walk fuel (resolved ++ [part]) rest

/-- The resolution of a path ends somewhere. -/
def EndsAt (path : String) (ended : Option (List String)) : Prop :=
  ∃ fuel, tree.walk fuel [] (split path '/') = some ended

/-- No part of the way but the last one is a link or a file. -/
def Clear : List String → List String → Prop
  | resolved, part :: next :: rest =>
    if part = "" ∨ part = "." then Clear resolved (next :: rest)
    else if part = ".." then Clear resolved.dropLast (next :: rest)
    else tree.get? ("/".intercalate (resolved ++ [part])) = none ∧
      Clear (resolved ++ [part]) (next :: rest)
  | _, _ => True

/-- The ways of all links outside the repository's own directory are clear. -/
def AllClear : Prop :=
  ∀ path target, tree.get? path = some (.symlink target) → isGitPath path = false →
    tree.Clear (split path '/').dropLast (split target '/')

/-- The change of a link. -/
def linkChange (path target : String) : WorkspaceChange :=
  ⟨path, .symlink, 0, "", some target, false⟩

/-- What a path leads to by one link: `_effective_path` of the link there. -/
def follow (path : String) : String :=
  match tree.get? path with
  | some (.symlink target) => effectivePath (linkChange path target)
  | _ => path

end LinkedTree

namespace CheckpointService
open LinkedTree

end CheckpointService

namespace LinkedTree
open CheckpointService

variable {tree : LinkedTree} {resolved todo parts : List String} {ended : Option (List String)}

/-! ## Resolution -/

theorem walk_mono {fuel : Nat} (ends : tree.walk fuel resolved todo = some ended) (more : Nat) :
    tree.walk (fuel + more) resolved todo = some ended := by
  induction fuel generalizing resolved todo with
  | zero =>
    cases todo with
    | nil =>
      rw [walk] at ends ⊢
      exact ends
    | cons part rest =>
      rw [walk] at ends
      cases ends
  | succ fuel ih =>
    cases todo with
    | nil =>
      rw [walk] at ends ⊢
      exact ends
    | cons part rest =>
      rw [Nat.succ_add, walk]
      rw [walk] at ends
      by_cases dot : part = "" ∨ part = "."
      · rw [if_pos dot] at ends ⊢
        exact ih ends
      rw [if_neg dot] at ends ⊢
      by_cases up : part = ".."
      · rw [if_pos up] at ends ⊢
        by_cases top : resolved = []
        · rw [if_pos top] at ends ⊢
          exact ends
        · rw [if_neg top] at ends ⊢
          exact ih ends
      rw [if_neg up] at ends ⊢
      split at ends
      · next target _ =>
        by_cases absolute : startsWith target "/" = true
        · rw [if_pos absolute] at ends ⊢
          exact ends
        · rw [if_neg absolute] at ends ⊢
          exact ih ends
      · exact ends
      · exact ih ends

theorem EndsAt.unique {path : String} {other : Option (List String)}
    (first : tree.EndsAt path ended) (second : tree.EndsAt path other) : ended = other := by
  obtain ⟨fuel, ends⟩ := first
  obtain ⟨more, ends'⟩ := second
  have one := walk_mono ends more
  have two := walk_mono ends' fuel
  rw [Nat.add_comm] at two
  exact Option.some.inj (one.symm.trans two)

/-- Neither the parts nor a directory on the way to them is a link or a file. -/
def Solid (tree : LinkedTree) (parts : List String) : Prop :=
  ∀ way, way <+: parts → tree.get? ("/".intercalate way) = none

theorem Solid.dropLast (solid : Solid tree parts) : Solid tree parts.dropLast :=
  fun way before => solid way (before.trans (List.dropLast_prefix parts))

theorem Solid.append {parts : List String} (solid : Solid tree parts) {part : String}
    (free : tree.get? ("/".intercalate (parts ++ [part])) = none) :
    Solid tree (parts ++ [part]) := by
  intro way before
  rcases List.prefix_concat_iff.mp before with rfl | earlier
  · exact free
  · exact solid way earlier

theorem resolve_down {rest : List String} {part : String} (down : part ≠ "..") :
    resolve resolved (part :: rest) = resolve (resolved ++ [part]) rest := by
  rw [resolve]
  exact down

theorem resolve_names (names : ∀ part ∈ todo, part ≠ "..") (resolved rest : List String) :
    resolve resolved (todo ++ rest) = resolve (resolved ++ todo) rest := by
  induction todo generalizing resolved with
  | nil => simp
  | cons part todo ih =>
    rw [List.cons_append, resolve_down (names part List.mem_cons_self),
      ih (fun part member => names part (List.mem_cons_of_mem _ member)), List.append_assoc]
    rfl

end LinkedTree

namespace LinkedWorkspace
open CheckpointService LinkedTree

variable {workspace : LinkedWorkspace} {path target : String}

section

variable (found : workspace.tree.get? path = some (.symlink target))
include found

theorem present : workspace.tree.get? path ≠ none := by
  rw [found]
  simp

theorem pathParts_eq : pathParts path = split path '/' := by
  rw [pathParts, List.filter_eq_self]
  intro part member
  have named := workspace.named path (workspace.present found) part member
  simp [named.1, named.2.1]

end

/-! ## Scope -/

variable {scope : WriteScope} {text : String}

theorem scopeContains_false (bad : isRepoRelative text = false)
    (notBelow : ∀ root : RepoRelativePath, startsWith text (root.text ++ "/") = false) :
    scopeContains text scope true = false := by
  rw [Bool.eq_false_iff]
  intro inside
  rw [scopeContains_new, insideScope, Bool.or_eq_true, List.any_eq_true, List.any_eq_true] at inside
  rcases inside with ⟨item, -, same⟩ | ⟨root, -, below⟩
  · rw [beq_iff_eq] at same
    rw [← same, item.safe] at bad
    cases bad
  · rw [inStrippedRoot, RepoRelativePath.rstrip_text, Bool.or_eq_true, beq_iff_eq,
      notBelow root] at below
    rcases below with same | impossible
    · rw [same, root.safe] at bad
      cases bad
    · cases impossible

theorem root_outside : scopeContains "/" scope true = false := by
  refine scopeContains_false (by decide) fun root => ?_
  rw [Bool.eq_false_iff]
  intro starts
  obtain ⟨rest, shape⟩ := (startsWith_iff _ _).mp starts
  have lengths := congrArg List.length shape
  have empty : root.text.toList = [] := by
    apply List.length_eq_zero_iff.mp
    simp at lengths
    omega
  have safe := root.safe
  rw [String.toList_injective (empty.trans (by rfl : ([] : List Char) = "".toList))] at safe
  exact absurd safe (by decide)

variable {sha256 : ByteArray → String} {provider : DirectoryDiffProvider}

/-- Every change of the workspace is allowed. -/
def Allowed (sha256 : ByteArray → String) (provider : DirectoryDiffProvider) (scope : WriteScope)
    (workspace : LinkedWorkspace) : Prop :=
  ∀ change ∈ (provider.diffLinks sha256 workspace.tree).changes, changeAllowed change scope = true

theorem scopeContains_mono {isNew : Bool} (inside : scopeContains text scope isNew = true) :
    scopeContains text scope true = true := by
  unfold scopeContains at inside ⊢
  split
  · rfl
  · next outside =>
      rw [if_neg outside] at inside
      split at inside
      · cases inside
      · exact inside

theorem Allowed.follow (allowed : Allowed sha256 provider scope workspace)
    (found : workspace.tree.get? path = some (.symlink target)) (notGit : isGitPath path = false) :
    scopeContains (effectivePath (linkChange path target)) scope true = true := by
  have here : (path, .symlink target) ∈ DirectoryDiffProvider.currentNodes workspace.tree :=
    mem_currentNodes.mpr ⟨found, notGit⟩
  have passed := allowed ⟨path, .symlink, target.toUTF8.size, sha256 target.toUTF8, some target,
      (provider.baseFiles.get? path).isNone⟩ (by
    rw [DirectoryDiffProvider.diffLinks, List.mem_insertionSort, List.mem_append]
    exact .inl (List.mem_filterMap.mpr ⟨_, here, rfl⟩))
  rw [changeAllowed, Bool.and_eq_true] at passed
  exact scopeContains_mono passed.2

theorem Allowed.leads (allowed : Allowed sha256 provider scope workspace)
    (found : workspace.tree.get? path = some (.symlink target)) (notGit : isGitPath path = false) :
    startsWith target "/" = false ∧ ∃ parts,
      resolve (split path '/').dropLast (pathParts target) = some parts ∧
        effectivePath (linkChange path target) = "/".intercalate parts := by
  have inside := allowed.follow found notGit
  have names : ∀ part ∈ (split path '/').dropLast, part ≠ ".." := fun part member =>
    (workspace.named path (workspace.present found) part (List.mem_of_mem_dropLast member)).2.2
  rw [effectivePath, linkChange] at inside ⊢
  dsimp only at inside ⊢
  cases absolute : startsWith target "/" with
  | true =>
    rw [if_pos absolute, root_outside] at inside
    cases inside
  | false =>
    rw [absolute, if_neg (by decide), workspace.pathParts_eq found] at inside
    rw [if_neg (by decide), workspace.pathParts_eq found, resolve_names names, List.nil_append]
    rw [resolve_names names, List.nil_append] at inside
    cases leads : resolve (split path '/').dropLast (pathParts target) with
    | none =>
      rw [leads, root_outside] at inside
      cases inside
    | some parts => exact ⟨rfl, parts, rfl, rfl⟩

end LinkedWorkspace

namespace SampleLinks
open CheckpointService LinkedTree

/-- A slice that may create files in one directory. -/
def scope : WriteScope := SampleCheckpoint.scope

/-- A base without files. -/
def provider : DirectoryDiffProvider := ⟨Dict.empty, fun _ present => absurd rfl present⟩

/-- A workspace of some entries. -/
def workspaceOf (tree : LinkedTree)
    (named : ∀ entry ∈ tree.entries, ∀ part ∈ split entry.1 '/',
      part ≠ "" ∧ part ≠ "." ∧ part ≠ "..")
    (rooted : ∀ entry ∈ tree.entries, ∀ way ∈ (split entry.1 '/').inits,
      way ≠ split entry.1 '/' → (tree.get? ("/".intercalate way)).isNone = true) :
    LinkedWorkspace := by
  have entry : ∀ path, tree.get? path ≠ none → ∃ node, (path, node) ∈ tree.entries := by
    intro path present
    obtain ⟨node, found⟩ := Option.ne_none_iff_exists'.mp present
    exact ⟨node, (Dict.get?_eq_some_iff _ _ _).mp found⟩
  refine ⟨tree, fun path present => ?_, fun path present way before different => ?_⟩
  · obtain ⟨node, member⟩ := entry path present
    exact named _ member
  · obtain ⟨node, member⟩ := entry path present
    exact Option.isNone_iff_eq_none.mp
      (rooted _ member way ((List.mem_inits _ _).mpr before) different)

/-- A link to a link in the directory above it, which leads to a file. -/
def chain : LinkedWorkspace :=
  workspaceOf (((Dict.empty.set "generated/d/a" (.symlink "../b")).set "generated/b"
    (.symlink "c")).set "generated/c" (.file "c".toUTF8)) (by decide) (by decide)

end SampleLinks

end CodeMigrator
