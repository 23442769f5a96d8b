import CodeMigrator.Planning.Models

/-!
# Blueprint guard

`_validate_blueprint` and `_layout_principle_prefixes` of `planning/validator.py`.

The two expressions of `_layout_principle_prefixes` need no backtracking: each
repetition is followed by a character outside its class, so a scan that takes the
longest run at every step finds exactly the leftmost match. The word boundary
`\b` depends on the Unicode database for characters outside ASCII; `isalnum`
stands for it.
-/

namespace CodeMigrator
open Lib

/-- `_path_is_in_root`. -/
def pathIsInRoot (path root : String) : Bool := path == root || startsWith path (root ++ "/")

theorem pathIsInRoot_iff (path root : String) :
    pathIsInRoot path root = true ↔ AtOrBelow path root := by
  simp [pathIsInRoot, AtOrBelow, startsWith_slash_iff]

/-- `_violation`. -/
def violation (code : StableErrorCode) (pointer message : String)
    (details : List (String × Json)) : PlanViolation :=
  ⟨code, pointer, message, details⟩

section Layout

variable (isalnum : Char → Bool)

/-- A `\w` character. -/
def isWord (c : Char) : Bool := c == '_' || (if c.toNat < 128 then c.isAlphanum else isalnum c)

/-- The case folding of `re.IGNORECASE` on the letters of the two expressions. -/
def foldCase (c : Char) : Char :=
  if c = '\u017f' then 's' else if c = '\u212a' then 'k'
  else if c = '\u0130' ∨ c = '\u0131' then 'i' else c.toLower

/-- `[A-Za-z0-9_.-]` under `re.IGNORECASE`. -/
def isSegmentChar (c : Char) : Bool :=
  c == '_' || c == '.' || c == '-' || (foldCase c).isAlphanum

/-- One literal word of an expression. -/
def eatWord : List Char → List Char → Option (List Char)
  | [], text => some text
  | _ :: _, [] => none
  | w :: word, c :: text => if foldCase c = w then eatWord word text else none

/-- `\s+`. -/
def eatSpaces (text : List Char) : Option (List Char) :=
  if (text.head?.map isSpace).getD false then some (text.dropWhile isSpace)
  else none

/-- An optional part: it is taken when it matches. -/
def eatOptional (part : List Char → Option (List Char)) (text : List Char) : List Char :=
  (part text).getD text

/-- `(?:target\s+)?`. -/
def eatTarget (text : List Char) : List Char :=
  eatOptional (fun text => (eatWord "target".toList text).bind eatSpaces) text

/-- ``[`"']?``. -/
def eatQuote : List Char → List Char
  | [] => []
  | c :: text => if c = '\x60' ∨ c = '"' ∨ c = '\x27' then text else c :: text

/-- `(?:/[A-Za-z0-9_.-]+)*`: `open_` holds the slash that waits for its segment. -/
def takeSegments (open_ : Bool) : List Char → List Char
  | [] => []
  | c :: text =>
    if isSegmentChar c then
      (if open_ then ['/', c] else [c]) ++ takeSegments false text
    else if c = '/' ∧ open_ = false then takeSegments true text
    else []

/-- The captured group, which needs one segment character to start. -/
def captureGroup (text : List Char) : Option (List Char) :=
  match eatQuote text with
  | [] => none
  | c :: rest => if isSegmentChar c then some (c :: takeSegments false rest) else none

/-- The first expression at one position. -/
def layoutAt (text : List Char) : Option (List Char) := do
  let text ← eatWord "layout".toList (eatTarget text)
  let text ← eatSpaces text
  let text ← (eatWord "prefix".toList text).or (eatWord "root".toList text)
  match text.dropWhile isSpace with
  | ':' :: text => captureGroup (text.dropWhile isSpace)
  | '=' :: text => captureGroup (text.dropWhile isSpace)
  | _ => none

/-- The second expression at one position. -/
def underAt (text : List Char) : Option (List Char) := do
  let text := eatTarget text
  let text ← (eatWord "path".toList text).or (eatWord "file".toList text)
  let text ← eatSpaces (eatOptional (eatWord "s".toList) text)
  let text ← eatWord "under".toList text
  captureGroup (← eatSpaces text)

/-- `re.search` of an expression that starts with `\b`: `previous` says whether the
character before the position is a word character. -/
def searchFrom (expression : List Char → Option (List Char)) (previous : Bool) :
    List Char → Option (List Char)
  | [] => none
  | c :: text =>
    let boundary := previous != isWord isalnum c
    match if boundary then expression (c :: text) else none with
    | some group => some group
    | none => searchFrom expression (isWord isalnum c) text

/-- `_layout_principle_prefixes`. -/
def layoutPrinciplePrefixes (principle : String) : List String :=
  [layoutAt, underAt].filterMap fun expression =>
    (searchFrom isalnum expression false principle.toList).map fun group =>
      rstrip (String.ofList group) '/'

/-- The prefixes that `_validate_blueprint` collects. -/
def blueprintPrefixes (blueprint : TargetProjectBlueprint) : List String :=
  let boundaries := blueprint.moduleBoundaries.flatMap fun boundary =>
    ["target_path_prefix", "target_prefix", "path_prefix", "target_root"].filterMap
      fun (key : String) =>
        match (Dict.lookup key boundary : Option Json) with
        | some (.str value) => if value = "" then none else some (rstrip value '/')
        | _ => none
  (boundaries ++
    blueprint.targetLayoutPrinciples.flatMap (layoutPrinciplePrefixes isalnum)).dedup

/-- `_validate_blueprint`. -/
def validateBlueprint (proposal : PlanProposal) (inputs : PlanningInputs) :
    List PlanViolation :=
  let prefixes := blueprintPrefixes isalnum inputs.targetProjectBlueprint
  if prefixes = [] then []
  else
    proposal.slices.zipIdx.flatMap fun (slice, index) =>
      (slice.writePaths ++ slice.createRoots).filterMap fun path =>
        if prefixes.any (pathIsInRoot path.text) then none
        else some (violation .planBlueprintViolation s!"/slices/{index}"
          "target path is outside all Blueprint target prefixes"
          [("path", .str path.text),
            ("allowed_prefixes", .arr ((prefixes.insertionSort pathLe).map .str))])

end Layout

example : layoutPrinciplePrefixes (fun _ => false) "Target layout root: `app/core/`." =
    ["app/core"] := by decide
example : layoutPrinciplePrefixes (fun _ => false) "Keep FILES under src/py, always" =
    ["src/py"] := by decide

end CodeMigrator
