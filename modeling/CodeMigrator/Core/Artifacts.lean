import CodeMigrator.Core.Run
import CodeMigrator.Core.Scope
import CodeMigrator.Lib.PyValue

/-!
# Artifacts of a Draft

The four artifacts that a Draft revision carries: `core/models/common.py`, `MigrationSpec`
(`core/models/spec.py`) and `SpecArtifact` (`core/spec.py`), with their `model_dump`. An open
mapping is the list of its dumped entries in the order of their keys, so that equal mappings
are equal lists. The validators that parse a semantic version and a scope pattern are left out:
a specification here may fail them.
-/

namespace CodeMigrator
open Lib

/-- A text of a model field with `min_length=1` and `max_length=limit`. -/
structure BoundedText (limit : Nat) where
  text : String
  bounded : text ≠ "" ∧ text.length ≤ limit
  deriving DecidableEq

/-- The media type of the artifacts. -/
def jsonMediaType : BoundedText 256 := ⟨"application/json", by decide⟩

/-- The dump of a list of texts. -/
def dumpTexts (texts : List String) : PyValue := .list (texts.map .str)

/-- The dump of a field that may be `None`. -/
def dumpOptional {α : Type} (dump : α → PyValue) : Option α → PyValue
  | none => .none
  | some value => dump value

/-! ## The specification -/

/-- The value of a `CheckAction`. -/
def CheckAction.value : CheckAction → String
  | .scaffold => "SCAFFOLD"
  | .compile => "COMPILE"
  | .test => "TEST"
  | .lint => "LINT"
  | .typeCheck => "TYPE_CHECK"

/-- `DescriptorLock`. -/
structure DescriptorLock where
  descriptorVersion : String
  sourceDescriptorSha256 : Sha256
  targetDescriptorSha256 : Sha256
  toolchainImageDigest : Sha256
  deriving DecidableEq

def DescriptorLock.dump (lock : DescriptorLock) : PyValue :=
  .dict [(.str "descriptor_version", .str lock.descriptorVersion),
    (.str "source_descriptor_sha256", .str lock.sourceDescriptorSha256.text),
    (.str "target_descriptor_sha256", .str lock.targetDescriptorSha256.text),
    (.str "toolchain_image_digest", .str lock.toolchainImageDigest.text)]

/-- `RequiredCheckSelection`. -/
structure RequiredCheckSelection where
  action : CheckAction
  templateSha256 : Sha256
  deriving DecidableEq

def RequiredCheckSelection.dump (selection : RequiredCheckSelection) : PyValue :=
  .dict [(.str "action", .str selection.action.value),
    (.str "template_sha256", .str selection.templateSha256.text)]

/-- `Decomposition`: its hints are not empty and its bound is positive. -/
structure Decomposition where
  moduleGranularity : Option String
  maxParallelism : Option Nat
  testGrouping : Option String
  hintsNonempty : moduleGranularity ≠ some "" ∧ testGrouping ≠ some ""
  parallelismPositive : maxParallelism ≠ some 0
  deriving DecidableEq

def Decomposition.dump (decomposition : Decomposition) : PyValue :=
  .dict [(.str "module_granularity", dumpOptional .str decomposition.moduleGranularity),
    (.str "max_parallelism", dumpOptional (fun n => .int (n : Nat)) decomposition.maxParallelism),
    (.str "test_grouping", dumpOptional .str decomposition.testGrouping)]

/-- `language_id_is_slug`: `[a-z][a-z0-9-]*`. -/
def isLanguageSlug (text : String) : Bool :=
  match text.toList with
  | [] => false
  | first :: rest =>
    first.isLower && rest.all (fun c => c.isLower || c.isDigit || c == '-')

/-- `MigrationSpec`. -/
structure MigrationSpec where
  schemaName : String
  version : Int
  name : String
  description : Option String
  sourceLanguageId : String
  targetLanguageId : String
  descriptorLock : DescriptorLock
  scope : SpecScope
  requiredChecks : List RequiredCheckSelection
  decomposition : Option Decomposition
  schemaNonempty : schemaName ≠ ""
  nameSized : 1 ≤ name.utf8ByteSize ∧ name.utf8ByteSize ≤ 128
  descriptionSized : description.all (fun text => text.utf8ByteSize ≤ 1024) = true
  languageSlugs : isLanguageSlug sourceLanguageId = true ∧ isLanguageSlug targetLanguageId = true
  languagesDiffer : sourceLanguageId ≠ targetLanguageId
  scopeNonempty : scope.includePatterns ≠ []
  deriving DecidableEq

/-- The entries of `spec.model_dump(mode="json", by_alias=True)`. -/
def MigrationSpec.dump (spec : MigrationSpec) : PyValue :=
  .dict [(.str "schema", .str spec.schemaName), (.str "version", .int spec.version),
    (.str "name", .str spec.name), (.str "description", dumpOptional .str spec.description),
    (.str "source_language_id", .str spec.sourceLanguageId),
    (.str "target_language_id", .str spec.targetLanguageId),
    (.str "descriptor_lock", spec.descriptorLock.dump),
    (.str "scope", .dict [(.str "include", dumpTexts spec.scope.includePatterns),
      (.str "exclude", dumpTexts spec.scope.excludePatterns)]),
    (.str "required_checks", .list (spec.requiredChecks.map (·.dump))),
    (.str "decomposition", dumpOptional Decomposition.dump spec.decomposition)]

/-- `SpecArtifact`: the canonical bytes by the text that they encode. -/
structure SpecArtifact where
  spec : MigrationSpec
  canonicalText : String
  canonicalSha256 : Sha256
  deriving DecidableEq

/-! ## Dossier, rulebook and blueprint -/

/-- `DossierBudgetTier`. -/
inductive DossierBudgetTier where
  | shallow | deep
  deriving DecidableEq

def DossierBudgetTier.value : DossierBudgetTier → String
  | .shallow => "Shallow"
  | .deep => "Deep"

/-- The dump of an `ArtifactRef`. -/
def ArtifactRef.dump (reference : ArtifactRef) : PyValue :=
  .dict [(.str "sha256", .str reference.sha256), (.str "size", .int reference.size),
    (.str "media_type", .str reference.mediaType)]

/-- `DossierEntry`: entries without anchors are advisory. -/
structure DossierEntry where
  kind : String
  content : String
  anchors : List PyEntries
  advisory : Bool
  anchoredOrAdvisory : anchors = [] → advisory = true
  deriving DecidableEq

def DossierEntry.dump (entry : DossierEntry) : PyValue :=
  .dict [(.str "kind", .str entry.kind), (.str "content", .str entry.content),
    (.str "anchors", .list (entry.anchors.map .dict)), (.str "advisory", .bool entry.advisory)]

/-- `UnderstandingDossier`. -/
structure UnderstandingDossier where
  architectureNarrative : List DossierEntry
  semanticModules : List DossierEntry
  dependencyResolutions : List DossierEntry
  testMap : List DossierEntry
  riskHotspots : List DossierEntry
  strategyAdvice : List DossierEntry
  coverageSelfReport : PyEntries
  budgetTier : DossierBudgetTier
  deriving DecidableEq

def UnderstandingDossier.dump (dossier : UnderstandingDossier) : PyValue :=
  .dict [(.str "architecture_narrative", .list (dossier.architectureNarrative.map (·.dump))),
    (.str "semantic_modules", .list (dossier.semanticModules.map (·.dump))),
    (.str "dependency_resolutions", .list (dossier.dependencyResolutions.map (·.dump))),
    (.str "test_map", .list (dossier.testMap.map (·.dump))),
    (.str "risk_hotspots", .list (dossier.riskHotspots.map (·.dump))),
    (.str "strategy_advice", .list (dossier.strategyAdvice.map (·.dump))),
    (.str "coverage_self_report", .dict dossier.coverageSelfReport),
    (.str "budget_tier", .str dossier.budgetTier.value)]

/-- `RulebookEntry`. -/
structure RulebookEntry where
  kind : String
  content : String
  source : String
  rationaleRef : Option ArtifactRef
  advisory : Bool
  deriving DecidableEq

def RulebookEntry.dump (entry : RulebookEntry) : PyValue :=
  .dict [(.str "kind", .str entry.kind), (.str "content", .str entry.content),
    (.str "source", .str entry.source),
    (.str "rationale_ref", dumpOptional ArtifactRef.dump entry.rationaleRef),
    (.str "advisory", .bool entry.advisory)]

/-- `MigrationRulebook`. -/
structure MigrationRulebook where
  entries : List RulebookEntry
  version : Int
  deriving DecidableEq

def MigrationRulebook.dump (rulebook : MigrationRulebook) : PyValue :=
  .dict [(.str "entries", .list (rulebook.entries.map (·.dump))),
    (.str "version", .int rulebook.version)]

/-- `TargetProjectBlueprint`, with all its fields. -/
structure DraftBlueprint where
  moduleBoundaries : List PyEntries
  granularityPrinciples : List String
  targetLayoutPrinciples : List String
  parallelismRules : List String
  generatedArtifactPolicy : String
  version : Int
  deriving DecidableEq

def DraftBlueprint.dump (blueprint : DraftBlueprint) : PyValue :=
  .dict [(.str "module_boundaries", .list (blueprint.moduleBoundaries.map .dict)),
    (.str "granularity_principles", dumpTexts blueprint.granularityPrinciples),
    (.str "target_layout_principles", dumpTexts blueprint.targetLayoutPrinciples),
    (.str "parallelism_rules", dumpTexts blueprint.parallelismRules),
    (.str "generated_artifact_policy", .str blueprint.generatedArtifactPolicy),
    (.str "version", .int blueprint.version)]

end CodeMigrator
