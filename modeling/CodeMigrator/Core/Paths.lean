import CodeMigrator.Core.Ids
import Mathlib.Data.List.Sort
import Mathlib.Data.List.Dedup

/-!
# Repository-relative paths

`core/paths.py`. A `RepoRelativePath` carries the check that
`normalize_repo_relative_paths` makes of every path at a model boundary, so a
path with an empty, `.`, `..` or `.git` segment cannot be built.
-/

namespace CodeMigrator
open Lib

/-- The checks of `normalize_repo_relative_paths` on one path. -/
def isRepoRelative (path : String) : Bool :=
  path != "" && !hasChar path '\x00' &&
    !(startsWith path "/" || startsWith path "~") && !hasChar path '\\' &&
    !(split path '/').any (fun part => ["", ".", "..", ".git"].contains part)

/-- A path accepted by `normalize_repo_relative_paths`. -/
structure RepoRelativePath where
  text : String
  safe : isRepoRelative text = true
  deriving DecidableEq

/-- Order of paths by their UTF-8 bytes, which is the order by code points. -/
def pathLe (left right : String) : Prop := ¬ right < left

instance : DecidableRel pathLe := fun left right => inferInstanceAs (Decidable (¬ right < left))

/-- `integration_key`: the rank first, then the bytes of the id. -/
def integrationKey (integrationRank : Int) (sliceId : SliceId) : Int × Nat :=
  (integrationRank, sliceId.value.val)

namespace RepoRelativePath

theorem not_ends_with_slash (path : RepoRelativePath) (before : List Char) :
    path.text.toList ≠ before ++ ['/'] := by
  intro shape
  have safe := path.safe
  have emptyPart : "" ∈ split path.text '/' := by
    rw [split, shape, splitList_append_separator]
    simp
  simp only [isRepoRelative, Bool.and_eq_true, Bool.not_eq_true', List.any_eq_false] at safe
  exact safe.2 "" emptyPart (by decide)

@[simp] theorem rstrip_text (path : RepoRelativePath) : rstrip path.text '/' = path.text :=
  rstrip_eq_self path.not_ends_with_slash

end RepoRelativePath

end CodeMigrator
