import CodeMigrator.Core.Paths
import CodeMigrator.Lib.Dict
import Mathlib.Data.Finset.Basic

/-!
# Workspace trees

`SecureRoot` of `workspace/paths.py` on a tree without symbolic links and mount points: which
files and directories there are, and what its calls read, create and refuse. An error of the
operating system strikes where the caller says.
-/

namespace CodeMigrator
open Lib

/-- `validate_relative_path`. -/
def validateRelativePath (path : String) : Bool :=
  isRepoRelative path && decide (path.utf8ByteSize ≤ 4096)

/-- What a call of a `SecureRoot` raises: `PathSecurityError`, `PathNotFound`, another
`ValueError`, or an error of the operating system. -/
inductive PathError where
  | security | notFound | tooLarge | osError
  deriving DecidableEq

/-- Where the system fails a call: nowhere, before the call has looked at the tree, before the new
file takes its place, or after that; or who is told of the finished write raises, if anybody is. -/
inductive IoFault where
  | none | access | write | sync
  | sink (exception : String)
  deriving DecidableEq

/-- The files of a tree with their contents, and its directories. -/
structure FileTree where
  files : Dict String ByteArray
  directories : Finset String

namespace FileTree

/-- The directories on the way to a path, from the outermost one on: what stands before each
slash of `rest`, where `seen` is read already. -/
def parentsFrom (seen : List Char) : List Char → List String
  | [] => []
  | c :: rest =>
    if c = '/' then String.ofList seen :: parentsFrom (seen ++ [c]) rest
    else parentsFrom (seen ++ [c]) rest

/-- The directories above a path. -/
def parents (path : String) : List String := parentsFrom [] path.toList

/-- `_open_parent`, for the directories on the way. -/
def openParent (createMissing : Bool) : FileTree → List String → FileTree × Except PathError Unit
  | tree, [] => (tree, .ok ())
  | tree, directory :: rest =>
    if directory ∈ tree.directories then openParent createMissing tree rest
    else if ¬ createMissing then (tree, .error .notFound)
    else if (tree.files.get? directory).isSome then (tree, .error .notFound)
    else
      openParent createMissing { tree with directories := insert directory tree.directories } rest

/-- `exists`. -/
def exists_ (tree : FileTree) (path : String) : Except PathError Bool :=
  if ¬ validateRelativePath path then .error .security
  else
    match openParent false tree (parents path) with
    | (_, .error error) => .error error
    | (_, .ok ()) =>
      if path ∈ tree.directories then .error .security else .ok (tree.files.get? path).isSome

/-- `read_bytes`. -/
def readBytes (tree : FileTree) (path : String) (maxBytes : Nat) : Except PathError ByteArray :=
  if ¬ validateRelativePath path then .error .security
  else
    match openParent false tree (parents path) with
    | (_, .error error) => .error error
    | (_, .ok ()) =>
      if path ∈ tree.directories then .error .security
      else
        match tree.files.get? path with
        | none => .error .notFound
        | some data => if maxBytes < data.size then .error .tooLarge else .ok data

/-- `write_atomic`. -/
def writeAtomic (tree : FileTree) (path : String) (content : ByteArray) (fault : IoFault) :
    FileTree × Except PathError Unit :=
  if ¬ validateRelativePath path then (tree, .error .security)
  else
    match openParent true tree (parents path) with
    | (opened, .error error) => (opened, .error error)
    | (opened, .ok ()) =>
      if path ∈ opened.directories then (opened, .error .security)
      else
        let written := { opened with files := opened.files.set path content }
        match fault with
        | .write => (opened, .error .osError)
        | .sync => (written, .error .osError)
        | _ => (written, .ok ())

/-- The directories above a file are there, and no file is a directory. -/
structure WellFormed (tree : FileTree) : Prop where
  rooted : ∀ path content, tree.files.get? path = some content →
    ∀ directory ∈ parents path, directory ∈ tree.directories
  apart : ∀ path ∈ tree.directories, tree.files.get? path = none

variable {tree : FileTree}

/-! ## What the calls do -/

/-- Opening the way to a path adds directories at most, and none where a file is; when it
succeeds, the whole way is there. -/
theorem openParent_facts (createMissing : Bool) (way : List String) : ∀ {tree : FileTree},
    (openParent createMissing tree way).1.files = tree.files ∧
      tree.directories ⊆ (openParent createMissing tree way).1.directories ∧
      (∀ directory ∈ (openParent createMissing tree way).1.directories,
        directory ∈ tree.directories ∨ tree.files.get? directory = none) ∧
      ((openParent createMissing tree way).2 = .ok () →
        ∀ directory ∈ way, directory ∈ (openParent createMissing tree way).1.directories) := by
  induction way with
  | nil =>
    intro tree
    exact ⟨rfl, subset_rfl, fun _ member => .inl member, fun _ _ member => absurd member List.not_mem_nil⟩
  | cons directory way ih =>
    intro tree
    unfold openParent
    split
    · next present =>
      obtain ⟨files, grows, apart, whole⟩ := @ih tree
      refine ⟨files, grows, apart, ?_⟩
      intro opened other member
      rcases List.mem_cons.mp member with rfl | later
      · exact grows present
      · exact whole opened other later
    · split
      · exact ⟨rfl, subset_rfl, fun _ member => .inl member, fun opened => by cases opened⟩
      · split
        · exact ⟨rfl, subset_rfl, fun _ member => .inl member, fun opened => by cases opened⟩
        · next free =>
          obtain ⟨files, grows, apart, whole⟩ :=
            @ih { tree with directories := insert directory tree.directories }
          have isFree : tree.files.get? directory = none := by simpa using free
          refine ⟨files, (Finset.subset_insert _ _).trans grows, ?_, ?_⟩
          · intro other member
            rcases apart other member with earlier | absent
            · rcases Finset.mem_insert.mp earlier with rfl | before
              · exact .inr isFree
              · exact .inl before
            · exact .inr absent
          · intro opened other member
            rcases List.mem_cons.mp member with rfl | later
            · exact grows (Finset.mem_insert_self _ _)
            · exact whole opened other later

theorem openParent_present {createMissing : Bool} {way : List String}
    (present : ∀ directory ∈ way, directory ∈ tree.directories) :
    openParent createMissing tree way = (tree, .ok ()) := by
  induction way with
  | nil => rfl
  | cons directory way ih =>
    unfold openParent
    rw [if_pos (present directory List.mem_cons_self)]
    exact ih (fun other member => present other (List.mem_cons_of_mem _ member))

theorem exists_of_file (wellFormed : WellFormed tree) {path : String} {content : ByteArray}
    (safe : validateRelativePath path = true) (found : tree.files.get? path = some content) :
    tree.exists_ path = .ok true := by
  have notDirectory : path ∉ tree.directories := by
    intro member
    rw [wellFormed.apart path member] at found
    cases found
  unfold exists_
  rw [if_neg (by simp [safe]), openParent_present (wellFormed.rooted path content found)]
  simp [notDirectory, found]

theorem writeAtomic_cases (wellFormed : WellFormed tree) (path : String) (content : ByteArray)
    (fault : IoFault) :
    WellFormed (tree.writeAtomic path content fault).1 ∧
      ((tree.writeAtomic path content fault).1.files = tree.files ∨
        (tree.writeAtomic path content fault).1.files = tree.files.set path content) := by
  obtain ⟨files, grows, apart, whole⟩ := @openParent_facts true (parents path) tree
  have opened : WellFormed (openParent true tree (parents path)).1 := by
    constructor
    · intro other data found directory member
      rw [files] at found
      exact grows (wellFormed.rooted other data found directory member)
    · intro directory member
      rw [files]
      rcases apart directory member with before | free
      · exact wellFormed.apart directory before
      · exact free
  unfold writeAtomic
  split
  · exact ⟨wellFormed, .inl rfl⟩
  split
  · next way =>
    rw [way] at opened files
    exact ⟨opened, .inl files⟩
  next after way =>
  rw [way] at opened files whole
  split
  · exact ⟨opened, .inl files⟩
  next notDirectory =>
  have written : WellFormed { after with files := after.files.set path content } := by
    constructor
    · intro other data found directory member
      simp only [Dict.get?_set] at found
      split at found
      · next same =>
        rw [same] at member
        exact whole rfl directory member
      · exact opened.rooted other data found directory member
    · intro directory member
      have other : directory ≠ path := fun same => notDirectory (same ▸ member)
      simp only [Dict.get?_set, if_neg other]
      exact opened.apart directory member
  have same : after.files.set path content = tree.files.set path content := by
    rw [show after.files = tree.files from files]
  cases fault with
  | none => exact ⟨written, .inr same⟩
  | access | sink exception => exact ⟨written, .inr same⟩
  | write => exact ⟨opened, .inl files⟩
  | sync => exact ⟨written, .inr same⟩

end FileTree

end CodeMigrator
