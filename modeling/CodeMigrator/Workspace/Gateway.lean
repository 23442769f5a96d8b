import CodeMigrator.Core.Plan

/-!
# Write admission of the tool gateway

`ToolGateway._write_allowed` and `ToolGateway._inside_scope` of
`workspace/gateway.py`, and the set of paths a write scope stands for.
-/

namespace CodeMigrator
open Lib

/-- `path == root.rstrip("/") or path.startswith(root.rstrip("/") + "/")`, the root
test of both gateway functions. -/
def inStrippedRoot (path : String) (root : RepoRelativePath) : Bool :=
  path == rstrip root.text '/' || startsWith path (rstrip root.text '/' ++ "/")

/-- `ToolGateway._inside_scope`. -/
def insideScope (path : String) (scope : WriteScope) : Bool :=
  scope.out.writePaths.any (fun item => item.text == path) ||
    scope.out.createRoots.any (inStrippedRoot path)

/-- `ToolGateway._write_allowed`. -/
def writeAllowed (writeScope : WriteScope) (otherWriteScopes : List WriteScope) (path : String)
    (existed : Bool) : Bool :=
  if writeScope.out.writePaths.any (fun item => item.text == path) then true
  else if existed then false
  else if !writeScope.out.createRoots.any (inStrippedRoot path) then false
  else !otherWriteScopes.any (insideScope path)

/-- The paths a write scope stands for: its write paths and everything at or below
its create roots. -/
def WriteScopeOut.Permits (scope : WriteScopeOut) (path : String) : Prop :=
  (∃ item ∈ scope.writePaths, item.text = path) ∨
    ∃ root ∈ scope.createRoots, AtOrBelow path root.text

theorem WriteScopeOut.permits_of_mem (scope : WriteScopeOut) {path : RepoRelativePath}
    (member : path ∈ scope.writePaths ++ scope.createRoots) : scope.Permits path.text := by
  rcases List.mem_append.mp member with isPath | isRoot
  · exact Or.inl ⟨path, isPath, rfl⟩
  · exact Or.inr ⟨path, isRoot, Or.inl rfl⟩

theorem inStrippedRoot_iff (path : String) (root : RepoRelativePath) :
    inStrippedRoot path root = true ↔ AtOrBelow path root.text := by
  simp [inStrippedRoot, AtOrBelow, startsWith_slash_iff]

theorem insideScope_iff (path : String) (scope : WriteScope) :
    insideScope path scope = true ↔ scope.out.Permits path := by
  simp [insideScope, WriteScopeOut.Permits, inStrippedRoot_iff]

/-- Whatever the other scopes and the file's history, an admitted write lies in the
scope. -/
theorem writeAllowed_permits {writeScope : WriteScope} {otherWriteScopes : List WriteScope}
    {path : String} {existed : Bool}
    (allowed : writeAllowed writeScope otherWriteScopes path existed = true) :
    writeScope.out.Permits path := by
  rw [← insideScope_iff]
  unfold writeAllowed at allowed
  unfold insideScope
  by_cases named : writeScope.out.writePaths.any (fun item => item.text == path) = true
  · simp [named]
  · by_cases rooted : writeScope.out.createRoots.any (inStrippedRoot path) = true
    · simp [rooted]
    · cases existed <;> simp [named, rooted] at allowed

end CodeMigrator
