import CodeMigrator.Lib.Text

/-!
# Scope patterns

The matching half of `core/scope.py`. `_pattern_regex` escapes every character of
the pattern except `*`, which becomes `[^/]+`; `matchBody` runs that expression
over the character list.
-/

namespace CodeMigrator
open Lib

/-- `[^/]+` followed by the rest of the expression. -/
def starThen (rest : List Char → Bool) : List Char → Bool
  | [] => false
  | c :: text => c != '/' && (rest text || starThen rest text)

/-- The body of a pattern, anchored at the start of the text; `finish` is what the
expression demands of the text that is left. -/
def matchBody (finish : List Char → Bool) : List Char → List Char → Bool
  | [], text => finish text
  | c :: pattern, text =>
    if c = '*' then starThen (matchBody finish pattern) text
    else
      match text with
      | [] => false
      | d :: text => c == d && matchBody finish pattern text

/-- What `$` accepts at the end of a match: nothing, or one final newline. -/
def atDollar (text : List Char) : Bool := text == [] || text == ['\n']

/-- `path == ".git" or path.startswith(".git/")`. -/
def insideGit (path : String) : Bool := path == ".git" || startsWith path ".git/"

/-- `scope_pattern_matches`. -/
def scopePatternMatches (pattern path : String) : Bool :=
  if insideGit path then false
  else if endsWith pattern "/" then
    matchBody (fun text => text.head? == some '/') pattern.toList.dropLast path.toList
  else matchBody atDollar pattern.toList path.toList

/-- `SpecScope` (`core/models/spec.py`). -/
structure SpecScope where
  includePatterns : List String
  excludePatterns : List String
  deriving DecidableEq

/-- `scope_includes_path`, also `SpecScope.includes`. -/
def SpecScope.includes (scope : SpecScope) (path : String) : Bool :=
  !insideGit path &&
    scope.includePatterns.any (fun pattern => scopePatternMatches pattern path) &&
    !scope.excludePatterns.any (fun pattern => scopePatternMatches pattern path)

example : scopePatternMatches "src/*.go" "src/main.go" = true := by decide
example : scopePatternMatches "src/" "src/a/b.go" = true := by decide

end CodeMigrator
