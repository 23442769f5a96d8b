import CodeMigrator.Core.DraftEventProjection

/-!
# Draft events in the browser

`parseQuestion` and `parseDraftRevision` of `web/src/features/session-input/sessionProjection.ts`
on event data that has come as JSON. A tuple is an array there and an integer a double: it is a
safe integer up to `2 ^ 53 - 1`, and is rounded to infinity from `2 ^ 1024 - 2 ^ 970` on.
-/

namespace CodeMigrator
open Lib

/-- `Number.MAX_SAFE_INTEGER`. -/
def maxSafeInteger : Int := 2 ^ 53 - 1

/-- `Number.isSafeInteger(value)`. -/
def isSafeInteger (value : Int) : Bool := -maxSafeInteger ≤ value && value ≤ maxSafeInteger

/-- `Number.isFinite(value)` of an integer. -/
def isFiniteNumber (value : Int) : Bool :=
  -(2 ^ 1024 - 2 ^ 970) < value && value < 2 ^ 1024 - 2 ^ 970

/-- The characters that `trim` removes. -/
def isTrimmed (c : Char) : Bool :=
  ('\t' ≤ c && c ≤ '\r') || c == ' ' || ('\u2000' ≤ c && c ≤ '\u200a') ||
    ['\u00a0', '\u1680', '\u2028', '\u2029', '\u202f', '\u205f', '\u3000', '\ufeff'].contains c

/-- `!text.trim()`. -/
def trimsToNothing (text : String) : Bool := text.toList.all isTrimmed

mutual
/-- `isJsonValue`. -/
def isJsonValue : PyValue → Bool
  | .none | .str _ | .bool _ => true
  | .int value => isFiniteNumber value
  | .float (.finite _) => true
  | .float .infinite | .float .nan => false
  | .list items => areJsonItems items
  | .tuple items => areJsonItems items
  | .dict entries => areJsonEntries entries
  | .other => false
/-- `value.every(isJsonValue)`. -/
def areJsonItems : List PyValue → Bool
  | [] => true
  | item :: items => isJsonValue item && areJsonItems items
/-- `Object.values(value).every(isJsonValue)`. -/
def areJsonEntries : List (PyKey × PyValue) → Bool
  | [] => true
  | (_, value) :: entries => isJsonValue value && areJsonEntries entries
end

/-- `SessionQuestionOption`. -/
structure SessionQuestionOption where
  key : String
  label : String
  impact : String
  recommended : Bool

/-- `SessionQuestion`. -/
structure SessionQuestion where
  questionId : String
  revision : Int
  prompt : String
  options : List SessionQuestionOption
  allowFreeText : Bool

/-- One option of a question. -/
def parseOption (candidate : PyValue) : Option SessionQuestionOption :=
  match candidate with
  | .dict entries =>
    match PyValue.field? entries "key", PyValue.field? entries "label",
        PyValue.field? entries "impact", PyValue.field? entries "recommended" with
    | some (.str key), some (.str label), some (.str impact), some (.bool recommended) =>
      if key ≠ "" ∧ trimsToNothing label = false ∧ trimsToNothing impact = false then
        some ⟨key, label, impact, recommended⟩
      else none
    | _, _, _, _ => none
  | _ => none

/-- The loop over the options. -/
def parseOptions (keys : List String) : List PyValue → Option (List SessionQuestionOption)
  | [] => some []
  | candidate :: candidates =>
    match parseOption candidate with
    | none => none
    | some option =>
      if option.key ∈ keys then none
      else (parseOptions (option.key :: keys) candidates).map (option :: ·)

/-- `parseQuestion`. -/
def parseQuestion (data : PyEntries) : Option SessionQuestion :=
  match PyValue.field? data "question_id", PyValue.field? data "revision",
      PyValue.field? data "prompt", (PyValue.field? data "options").bind PyValue.items?,
      PyValue.field? data "allow_free_text" with
  | some (.str questionId), some (.int revision), some (.str prompt), some candidates,
      some (.bool allowFreeText) =>
      if questionId ≠ "" ∧ isSafeInteger revision ∧ 0 < revision ∧
          trimsToNothing prompt = false ∧ 2 ≤ candidates.length then
        match parseOptions [] candidates with
        | none => none
        | some options =>
          if (options.filter (·.recommended)).length = 1 then
            some ⟨questionId, revision, prompt, options, allowFreeText⟩
          else none
      else none
  | _, _, _, _, _ => none

/-- `DraftArtifactSnapshot`. -/
structure DraftArtifactSnapshot where
  name : String
  version : Int
  sha256 : String
  size : Int
  mediaType : String

/-- `SessionDraftRevision`. -/
structure SessionDraftRevision where
  revision : Int
  artifacts : List (String × PyValue)
  snapshots : List DraftArtifactSnapshot

/-- One snapshot of a revision. -/
def parseSnapshot (candidate : PyValue) : Option DraftArtifactSnapshot :=
  match candidate with
  | .dict entries =>
    match PyValue.field? entries "name", PyValue.field? entries "version",
        PyValue.field? entries "sha256", PyValue.field? entries "size",
        PyValue.field? entries "media_type" with
    | some (.str name), some (.int version), some (.str sha256), some (.int size),
        some (.str mediaType) =>
        if name ∈ artifactNames ∧ isSafeInteger version ∧ 0 < version ∧ isSha256 sha256 ∧
            isSafeInteger size ∧ 0 ≤ size ∧ mediaType ≠ "" then
          some ⟨name, version, sha256, size, mediaType⟩
        else none
    | _, _, _, _, _ => none
  | _ => none

/-- The loop over the snapshots. -/
def parseSnapshots (names : List String) : List PyValue → Option (List DraftArtifactSnapshot)
  | [] => some []
  | candidate :: candidates =>
    match parseSnapshot candidate with
    | none => none
    | some snapshot =>
      if snapshot.name ∈ names then none
      else (parseSnapshots (snapshot.name :: names) candidates).map (snapshot :: ·)

/-- The loop over the artifacts. -/
def parseArtifacts (artifacts : PyEntries) : List String → Option (List (String × PyValue))
  | [] => some []
  | name :: names =>
    match PyValue.field? artifacts name with
    | some value =>
      if isJsonValue value then (parseArtifacts artifacts names).map ((name, value) :: ·)
      else none
    | none => none

/-- `parseDraftRevision`. Four snapshots whose names differ are those of the four artifacts. -/
def parseDraftRevision (data : PyEntries) : Option SessionDraftRevision :=
  match PyValue.field? data "revision", PyValue.field? data "artifacts",
      (PyValue.field? data "artifact_snapshots").bind PyValue.items? with
  | some (.int revision), some (.dict artifacts), some candidates =>
    if isSafeInteger revision ∧ 0 < revision ∧ candidates.length = artifactNames.length then
      match parseArtifacts artifacts artifactNames, parseSnapshots [] candidates with
      | some artifacts, some snapshots => some ⟨revision, artifacts, snapshots⟩
      | _, _ => none
    else none
  | _, _, _ => none

end CodeMigrator
