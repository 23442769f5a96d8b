import CodeMigrator.Core.Artifacts
import CodeMigrator.Core.Paths

/-!
# Models of a Draft

`runtime/draft_models.py`: the closed contracts of the drafting workflow, with `SourceRange`
(`analysis/models.py`). What a validator checks is a field of the structure, so that a value is
a valid model. Texts that become part of a session event have their dump beside them.
-/

namespace CodeMigrator
open Lib

abbrev QuestionId := UUID
abbrev TaskDraftRevisionId := UUID

/-! ## Revisions -/

/-- `DraftArtifacts`: the validator compares the digest of the canonical bytes, and the digest
function is that of the ledger. -/
structure DraftArtifacts where
  spec : SpecArtifact
  understandingDossier : UnderstandingDossier
  targetProjectBlueprint : DraftBlueprint
  migrationRulebook : MigrationRulebook
  deriving DecidableEq

/-- `DraftArtifactName`. -/
inductive DraftArtifactName where
  | spec | understandingDossier | targetProjectBlueprint | migrationRulebook
  deriving DecidableEq

def DraftArtifactName.value : DraftArtifactName → String
  | .spec => "spec"
  | .understandingDossier => "understanding_dossier"
  | .targetProjectBlueprint => "target_project_blueprint"
  | .migrationRulebook => "migration_rulebook"

/-- `ArtifactSnapshot`. -/
structure ArtifactSnapshot where
  name : DraftArtifactName
  version : Nat
  sha256 : Sha256
  size : Nat
  mediaType : BoundedText 256
  versionCounted : 1 ≤ version
  deriving DecidableEq

def ArtifactSnapshot.dump (snapshot : ArtifactSnapshot) : PyValue :=
  .dict [(.str "name", .str snapshot.name.value), (.str "version", .int snapshot.version),
    (.str "sha256", .str snapshot.sha256.text), (.str "size", .int snapshot.size),
    (.str "media_type", .str snapshot.mediaType.text)]

/-- `TaskDraftRevision`: it snapshots each artifact exactly once. -/
structure TaskDraftRevision where
  revisionId : TaskDraftRevisionId
  revisionNumber : Nat
  artifacts : DraftArtifacts
  artifactSnapshots : List ArtifactSnapshot
  numberCounted : 1 ≤ revisionNumber
  fourSnapshots : artifactSnapshots.length = 4
  namesDiffer : (artifactSnapshots.map (·.name)).Nodup
  deriving DecidableEq

/-! ## Questions -/

/-- `QuestionOption`. -/
structure QuestionOption where
  key : BoundedText 64
  label : BoundedText 256
  impact : BoundedText 1024
  recommended : Bool
  deriving DecidableEq

def QuestionOption.dump (option : QuestionOption) : PyValue :=
  .dict [(.str "key", .str option.key.text), (.str "label", .str option.label.text),
    (.str "impact", .str option.impact.text), (.str "recommended", .bool option.recommended)]

/-- `AskUserQuestion`: at least two options with different keys, one of them recommended. -/
structure AskUserQuestion where
  questionId : QuestionId
  revisionId : TaskDraftRevisionId
  prompt : BoundedText 4096
  options : List QuestionOption
  allowFreeText : Bool
  severalOptions : 2 ≤ options.length
  keysDiffer : (options.map (·.key.text)).Nodup
  oneRecommended : (options.filter (·.recommended)).length = 1
  deriving DecidableEq

/-- `AskUserAnswer`: it selects an option or provides a text, not both. -/
structure AskUserAnswer where
  questionId : QuestionId
  revisionId : TaskDraftRevisionId
  selectedOption : Option (BoundedText 64)
  freeText : Option (BoundedText 4096)
  oneForm : selectedOption.isNone ≠ freeText.isNone
  deriving DecidableEq

/-- `DraftFreezeReceipt`. -/
structure DraftFreezeReceipt where
  revisionId : TaskDraftRevisionId
  revisionNumber : Nat
  artifactSnapshots : List ArtifactSnapshot
  frozenArtifactBundle : FrozenArtifactBundle
  answerQuestionIds : List QuestionId
  numberCounted : 1 ≤ revisionNumber
  fourSnapshots : artifactSnapshots.length = 4
  deriving DecidableEq

/-! ## Session events

`runtime/draft_events.py`.
-/

/-- The artifacts of `revision_created_event`. -/
def revisionArtifacts (artifacts : DraftArtifacts) : PyEntries :=
  [(.str "spec", .dict [(.str "spec", artifacts.spec.spec.dump),
      (.str "canonical_sha256", .str artifacts.spec.canonicalSha256.text)]),
    (.str "understanding_dossier", artifacts.understandingDossier.dump),
    (.str "target_project_blueprint", artifacts.targetProjectBlueprint.dump),
    (.str "migration_rulebook", artifacts.migrationRulebook.dump)]

/-- `revision_created_event`. -/
def revisionCreatedEvent (revision : TaskDraftRevision) : PyEntries :=
  [(.str "revision", .int revision.revisionNumber),
    (.str "artifacts", .dict (revisionArtifacts revision.artifacts)),
    (.str "artifact_snapshots", .list (revision.artifactSnapshots.map (·.dump)))]

/-- `question_asked_event`; the number of a revision is positive. -/
def questionAskedEvent (question : AskUserQuestion) (revisionNumber : Nat) : PyEntries :=
  [(.str "question_id", .str question.questionId.str), (.str "revision", .int revisionNumber),
    (.str "prompt", .str question.prompt.text),
    (.str "options", .list (question.options.map (·.dump))),
    (.str "allow_free_text", .bool question.allowFreeText)]

end CodeMigrator
