import CodeMigrator.Runtime.DraftModels

/-!
# Ledger of a Draft

`DraftLedger` of `runtime/draft.py`: append-only revisions, questions and answers, and the
freeze of the current revision. A method that raises leaves the ledger as it was, so that its
result is the new ledger or the error. `new_uuid7()` is an argument.
-/

namespace CodeMigrator
open Lib

/-- The exceptions of the ledger. -/
inductive DraftError where
  | draftConflict (message : String)
  | valueError (message : String)
  deriving DecidableEq

/-- `hashlib.sha256` of a text's UTF-8 bytes, and the text of `canonical_json_bytes`; `none` is
its exception. -/
structure ArtifactCodec where
  sha256 : String → Sha256
  canonicalJson : PyValue → Option String

/-! ## Snapshots -/

/-- The payload of `_artifact_snapshot`. -/
def ArtifactCodec.payload (codec : ArtifactCodec) (artifacts : DraftArtifacts) :
    DraftArtifactName → Option String
  | .spec => some artifacts.spec.canonicalText
  | .understandingDossier => codec.canonicalJson artifacts.understandingDossier.dump
  | .targetProjectBlueprint => codec.canonicalJson artifacts.targetProjectBlueprint.dump
  | .migrationRulebook => codec.canonicalJson artifacts.migrationRulebook.dump

/-- The names in the order of `_artifact_snapshots`. -/
def snapshotNames : List DraftArtifactName :=
  [.spec, .understandingDossier, .targetProjectBlueprint, .migrationRulebook]

/-- `_artifact_snapshot`. -/
def ArtifactCodec.snapshot (codec : ArtifactCodec) (artifacts : DraftArtifacts) (version : Nat)
    (counted : 1 ≤ version) (name : DraftArtifactName) : Option ArtifactSnapshot :=
  (codec.payload artifacts name).map fun payload =>
    ⟨name, version, codec.sha256 payload, payload.utf8ByteSize, jsonMediaType,
      counted⟩

/-- `_artifact_snapshots`. -/
def ArtifactCodec.snapshots (codec : ArtifactCodec) (artifacts : DraftArtifacts) (version : Nat)
    (counted : 1 ≤ version) : Option (List ArtifactSnapshot) :=
  snapshotNames.mapM (codec.snapshot artifacts version counted)

/-- `_frozen_artifact_bundle`: the reference of the snapshot with the name. -/
def snapshotRef (snapshots : List ArtifactSnapshot) (name : DraftArtifactName) : Option ArtifactRef :=
  (snapshots.find? (fun snapshot => snapshot.name = name)).map fun snapshot =>
    ⟨snapshot.sha256.text, snapshot.size, snapshot.mediaType.text⟩

theorem ArtifactCodec.names_of_mapM (codec : ArtifactCodec) (artifacts : DraftArtifacts)
    {version : Nat} {counted : 1 ≤ version} {names : List DraftArtifactName}
    {snapshots : List ArtifactSnapshot}
    (taken : names.mapM (codec.snapshot artifacts version counted) = some snapshots) :
    snapshots.map (·.name) = names := by
  induction names generalizing snapshots with
  | nil =>
    cases taken
    rfl
  | cons name names ih =>
    simp only [List.mapM_cons, Option.bind_eq_bind, Option.bind_eq_some_iff,
      Option.pure_def, Option.some.injEq] at taken
    obtain ⟨first, firstTaken, others, othersTaken, rfl⟩ := taken
    simp only [ArtifactCodec.snapshot, Option.map_eq_some_iff] at firstTaken
    obtain ⟨payload, -, rfl⟩ := firstTaken
    rw [List.map_cons, ih othersTaken]

theorem ArtifactCodec.snapshots_names {codec : ArtifactCodec} {artifacts : DraftArtifacts}
    {version : Nat} {counted : 1 ≤ version} {snapshots : List ArtifactSnapshot}
    (taken : codec.snapshots artifacts version counted = some snapshots) :
    snapshots.map (·.name) = snapshotNames := codec.names_of_mapM artifacts taken

/-- The revision of `_new_revision`. -/
def ArtifactCodec.revisionOf (codec : ArtifactCodec) (revisionId : TaskDraftRevisionId)
    (artifacts : DraftArtifacts) (revisionNumber : Nat) (counted : 1 ≤ revisionNumber) :
    Option TaskDraftRevision :=
  match taken : codec.snapshots artifacts revisionNumber counted with
  | none => none
  | some snapshots =>
    some
      { revisionId := revisionId
        revisionNumber := revisionNumber
        artifacts := artifacts
        artifactSnapshots := snapshots
        numberCounted := counted
        fourSnapshots := by
          have names := congrArg List.length (ArtifactCodec.snapshots_names taken)
          rwa [List.length_map] at names
        namesDiffer := by
          rw [ArtifactCodec.snapshots_names taken]
          decide }

theorem ArtifactCodec.revisionOf_spec {codec : ArtifactCodec} {revisionId : TaskDraftRevisionId}
    {artifacts : DraftArtifacts} {revisionNumber : Nat} {counted : 1 ≤ revisionNumber}
    {revision : TaskDraftRevision}
    (made : codec.revisionOf revisionId artifacts revisionNumber counted = some revision) :
    revision.revisionId = revisionId ∧ revision.revisionNumber = revisionNumber ∧
      revision.artifacts = artifacts ∧
      codec.snapshots artifacts revisionNumber counted = some revision.artifactSnapshots := by
  unfold ArtifactCodec.revisionOf at made
  split at made
  · cases made
  · rename_i snapshots taken
    cases made
    exact ⟨rfl, rfl, rfl, taken⟩

/-! ## The ledger -/

/-- `DraftLedger`. -/
structure DraftLedger where
  revisions : Dict TaskDraftRevisionId TaskDraftRevision
  currentRevisionId : Option TaskDraftRevisionId
  questions : Dict QuestionId AskUserQuestion
  answers : Dict QuestionId AskUserAnswer
  freezeReceipt : Option DraftFreezeReceipt
  deriving DecidableEq

/-- `_validate_answer_choice`. -/
def validateAnswerChoice (question : AskUserQuestion) (answer : AskUserAnswer) :
    Except DraftError Unit :=
  match answer.selectedOption with
  | some key =>
    if key.text ∈ question.options.map (·.key.text) then .ok ()
    else .error (.draftConflict "answer selects an unknown option")
  | none =>
    if question.allowFreeText then .ok ()
    else .error (.draftConflict "free-text answer is not allowed")

namespace DraftLedger

/-- `DraftLedger()`. -/
def empty : DraftLedger := ⟨.empty, none, .empty, .empty, none⟩

/-- `current_revision`. -/
def currentRevision (ledger : DraftLedger) : Option TaskDraftRevision :=
  ledger.currentRevisionId.bind ledger.revisions.get?

/-- `questions`, in the order of the texts of their ids. -/
def sortedQuestions (ledger : DraftLedger) : List AskUserQuestion :=
  ledger.questions.values.insertionSort (fun left right => pathLe left.questionId.str right.questionId.str)

/-- `answers`, in the order of the texts of their questions' ids. -/
def sortedAnswers (ledger : DraftLedger) : List AskUserAnswer :=
  ledger.answers.values.insertionSort (fun left right => pathLe left.questionId.str right.questionId.str)

/-- `revisions`, in the order of their numbers. -/
def sortedRevisions (ledger : DraftLedger) : List TaskDraftRevision :=
  ledger.revisions.values.insertionSort (fun left right => left.revisionNumber ≤ right.revisionNumber)

/-- `_require_current_revision`. -/
def requireCurrentRevision (ledger : DraftLedger) (revisionId : TaskDraftRevisionId) :
    Except DraftError TaskDraftRevision :=
  match ledger.currentRevision with
  | some current =>
    if current.revisionId = revisionId then .ok current
    else .error (.draftConflict "operation must target the current revision")
  | none => .error (.draftConflict "operation must target the current revision")

/-- `_new_revision`. -/
def newRevision (codec : ArtifactCodec) (fresh : TaskDraftRevisionId) (ledger : DraftLedger)
    (artifacts : DraftArtifacts) (revisionNumber : Nat) (counted : 1 ≤ revisionNumber) :
    Except DraftError (DraftLedger × TaskDraftRevision) :=
  if ledger.freezeReceipt.isSome then .error (.draftConflict "draft is already frozen")
  else
    match codec.revisionOf fresh artifacts revisionNumber counted with
    | none => .error (.valueError "value is not canonicalizable JSON")
    | some revision =>
      .ok ({ ledger with
        revisions := ledger.revisions.set revision.revisionId revision
        currentRevisionId := some revision.revisionId }, revision)

/-- `revise`. -/
def revise (codec : ArtifactCodec) (fresh : TaskDraftRevisionId) (ledger : DraftLedger)
    (revisionId : TaskDraftRevisionId) (artifacts : DraftArtifacts) :
    Except DraftError (DraftLedger × TaskDraftRevision) :=
  match ledger.requireCurrentRevision revisionId with
  | .error error => .error error
  | .ok current =>
    if ledger.freezeReceipt.isSome then .error (.draftConflict "draft is already frozen")
    else
      match codec.snapshots artifacts current.revisionNumber current.numberCounted with
      | none => .error (.valueError "value is not canonicalizable JSON")
      | some snapshots =>
        if snapshots = current.artifactSnapshots then .ok (ledger, current)
        else ledger.newRevision codec fresh artifacts (current.revisionNumber + 1) (by omega)

/-- `create_revision`. -/
def createRevision (codec : ArtifactCodec) (fresh : TaskDraftRevisionId) (ledger : DraftLedger)
    (artifacts : DraftArtifacts) : Except DraftError (DraftLedger × TaskDraftRevision) :=
  match ledger.currentRevision with
  | none => ledger.newRevision codec fresh artifacts 1 Nat.one_pos
  | some current => ledger.revise codec fresh current.revisionId artifacts

/-- `append_question`. -/
def appendQuestion (ledger : DraftLedger) (question : AskUserQuestion) :
    Except DraftError DraftLedger :=
  match ledger.requireCurrentRevision question.revisionId with
  | .error error => .error error
  | .ok _ =>
    match ledger.questions.get? question.questionId with
    | some previous =>
      if previous = question then .ok ledger
      else .error (.draftConflict "question id already exists")
    | none =>
      if ledger.freezeReceipt.isSome then .error (.draftConflict "draft is already frozen")
      else .ok { ledger with questions := ledger.questions.set question.questionId question }

/-- `answer_question`; `_same_answer` compares all the fields. -/
def answerQuestion (ledger : DraftLedger) (answer : AskUserAnswer) : Except DraftError DraftLedger :=
  match ledger.requireCurrentRevision answer.revisionId with
  | .error error => .error error
  | .ok _ =>
    match ledger.questions.get? answer.questionId with
    | none => .error (.draftConflict "answer references an unknown question")
    | some question =>
      if question.revisionId ≠ answer.revisionId then
        .error (.draftConflict "answer is bound to a different revision")
      else
        match validateAnswerChoice question answer with
        | .error error => .error error
        | .ok () =>
          match ledger.answers.get? answer.questionId with
          | some previous =>
            if previous = answer then .ok ledger
            else .error (.draftConflict "answer conflicts with the existing answer")
          | none =>
            if ledger.freezeReceipt.isSome then
              .error (.draftConflict "draft is already frozen")
            else .ok { ledger with answers := ledger.answers.set answer.questionId answer }

/-- The ids of the questions that are bound to the revision. -/
def currentQuestionIds (ledger : DraftLedger) (revisionId : TaskDraftRevisionId) :
    List QuestionId :=
  (ledger.questions.values.filter (fun question => question.revisionId = revisionId)).map
    (·.questionId)

/-- The receipt of a freeze of the revision. -/
def freezeReceiptOf (revision : TaskDraftRevision) (selectedIds : List QuestionId) :
    Option DraftFreezeReceipt :=
  match snapshotRef revision.artifactSnapshots .spec,
      snapshotRef revision.artifactSnapshots .understandingDossier,
      snapshotRef revision.artifactSnapshots .targetProjectBlueprint,
      snapshotRef revision.artifactSnapshots .migrationRulebook with
  | some spec, some dossier, some blueprint, some rulebook =>
    some
      { revisionId := revision.revisionId
        revisionNumber := revision.revisionNumber
        artifactSnapshots := revision.artifactSnapshots
        frozenArtifactBundle := ⟨spec, dossier, blueprint, rulebook⟩
        answerQuestionIds := selectedIds.insertionSort (fun left right => pathLe left.str right.str)
        numberCounted := revision.numberCounted
        fourSnapshots := revision.fourSnapshots }
  | _, _, _, _ => none

/-- `freeze`; a snapshot for each name is there by the model of a revision. -/
def freeze (ledger : DraftLedger) (revisionId : TaskDraftRevisionId)
    (answerQuestionIds : Option (List QuestionId)) :
    Except DraftError (DraftLedger × DraftFreezeReceipt) :=
  match ledger.requireCurrentRevision revisionId with
  | .error error => .error error
  | .ok revision =>
    match ledger.freezeReceipt with
    | some receipt =>
      if receipt.revisionId = revisionId then .ok (ledger, receipt)
      else .error (.draftConflict "only the current revision can be frozen")
    | none =>
      let expectedIds := (ledger.currentQuestionIds revisionId).dedup
      let selectedIds := answerQuestionIds.getD expectedIds
      if ¬ selectedIds.Nodup then
        .error (.draftConflict "freeze answer pointers must be unique")
      else if ¬ (selectedIds ⊆ expectedIds ∧ expectedIds ⊆ selectedIds) then
        .error (.draftConflict "freeze must include every current question")
      else if selectedIds.any (fun questionId => (ledger.answers.get? questionId).isNone) then
        .error (.draftConflict "cannot freeze with unanswered questions")
      else
        match freezeReceiptOf revision selectedIds with
        | none => .error (.valueError "a draft revision must snapshot each artifact exactly once")
        | some receipt => .ok ({ ledger with freezeReceipt := some receipt }, receipt)

/-! ## Restoring -/

/-- The revisions of `restore`, in the order of their numbers. -/
def restoreRevisions (codec : ArtifactCodec) (expectedNumber : Nat) (ledger : DraftLedger) :
    List TaskDraftRevision → Except DraftError DraftLedger
  | [] => .ok ledger
  | revision :: revisions =>
    if revision.revisionNumber ≠ expectedNumber then
      .error (.draftConflict "persisted Draft revisions must be contiguous")
    else if (ledger.revisions.get? revision.revisionId).isSome then
      .error (.draftConflict "persisted Draft revision id is duplicated")
    else
      match codec.snapshots revision.artifacts revision.revisionNumber revision.numberCounted with
      | none => .error (.draftConflict "persisted Draft revision artifacts are invalid")
      | some expected =>
        if revision.artifactSnapshots ≠ expected then
          .error (.draftConflict "persisted Draft revision artifact snapshot mismatch")
        else
          restoreRevisions codec (expectedNumber + 1)
            { ledger with
              revisions := ledger.revisions.set revision.revisionId revision
              currentRevisionId := some revision.revisionId } revisions

/-- The questions of `restore`. -/
def restoreQuestions (ledger : DraftLedger) : List AskUserQuestion → Except DraftError DraftLedger
  | [] => .ok ledger
  | question :: questions =>
    if (ledger.revisions.get? question.revisionId).isNone then
      .error (.draftConflict "persisted Draft question references an unknown revision")
    else if (ledger.questions.get? question.questionId).isSome then
      .error (.draftConflict "persisted Draft question id is duplicated")
    else
      restoreQuestions
        { ledger with questions := ledger.questions.set question.questionId question } questions

/-- The answers of `restore`. -/
def restoreAnswers (ledger : DraftLedger) : List AskUserAnswer → Except DraftError DraftLedger
  | [] => .ok ledger
  | answer :: answers =>
    match ledger.questions.get? answer.questionId with
    | none => .error (.draftConflict "persisted Draft answer references an unknown question")
    | some question =>
      if (ledger.answers.get? answer.questionId).isSome then
        .error (.draftConflict "persisted Draft answer id is duplicated")
      else if answer.revisionId ≠ question.revisionId then
        .error (.draftConflict "persisted Draft answer revision does not match its question")
      else
        match validateAnswerChoice question answer with
        | .error error => .error error
        | .ok () =>
          restoreAnswers
            { ledger with answers := ledger.answers.set answer.questionId answer } answers

/-- The freeze of `restore`. -/
def restoreFreeze (ledger : DraftLedger) : Option DraftFreezeReceipt → Except DraftError DraftLedger
  | none => .ok ledger
  | some receipt =>
    match ledger.freeze receipt.revisionId (some receipt.answerQuestionIds) with
    | .error _ => .error (.draftConflict "persisted Draft freeze receipt is inconsistent")
    | .ok (frozen, computed) =>
      if computed ≠ receipt then
        .error (.draftConflict "persisted Draft freeze receipt does not match the ledger")
      else .ok frozen

/-- `DraftLedger.restore`. -/
def restore (codec : ArtifactCodec) (revisions : List TaskDraftRevision)
    (questions : List AskUserQuestion) (answers : List AskUserAnswer)
    (freezeReceipt : Option DraftFreezeReceipt) : Except DraftError DraftLedger :=
  match restoreRevisions codec 1 empty
      (revisions.insertionSort (fun left right => left.revisionNumber ≤ right.revisionNumber)) with
  | .error error => .error error
  | .ok withRevisions =>
    match restoreQuestions withRevisions questions with
    | .error error => .error error
    | .ok withQuestions =>
      match restoreAnswers withQuestions answers with
      | .error error => .error error
      | .ok withAnswers => restoreFreeze withAnswers freezeReceipt

end DraftLedger

end CodeMigrator
