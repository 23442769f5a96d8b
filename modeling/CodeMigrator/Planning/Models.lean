import CodeMigrator.Core.Plan
import CodeMigrator.Core.Scope

/-!
# Planning inputs

`planning/models.py`, with the analysis facts (`analysis/models.py`) and the
blueprint (`core/models/common.py`) that the plan guards read.
-/

namespace CodeMigrator
open Lib

/-- `ModuleFact` (`analysis/models.py`): its file paths carry no validator. -/
structure ModuleFact where
  moduleId : ProjectModuleId
  filePaths : List String
  role : ModuleRole
  deriving DecidableEq

/-- `CoverageEntry` (`analysis/models.py`). -/
structure CoverageEntry where
  testFile : String
  testedModules : List ProjectModuleId
  deriving DecidableEq

/-- `ModuleCoverageStatus` (`analysis/models.py`). -/
structure ModuleCoverageStatus where
  module_ : ProjectModuleId
  status : ModuleCoverage
  deriving DecidableEq

/-- `ArtifactFact` (`analysis/models.py`). -/
structure ArtifactFact where
  path : RepoRelativePath
  artifactKind : ArtifactKind
  sourcePath : Option RepoRelativePath
  deriving DecidableEq

/-- `AnalysisResult` (`analysis/models.py`), the fields the plan guards read. -/
structure AnalysisResult where
  modules : List ModuleFact
  coverage : List CoverageEntry
  coverageStatus : List ModuleCoverageStatus
  artifacts : List ArtifactFact
  deriving DecidableEq

/-- `TargetProjectBlueprint` (`core/models/common.py`), the fields the plan guards
read. A module boundary is an open JSON object. -/
structure TargetProjectBlueprint where
  moduleBoundaries : List (List (String × Json))
  targetLayoutPrinciples : List String
  deriving DecidableEq

/-- `PlanningLimits`. -/
structure PlanningLimits where
  maxSlices : Nat
  maxEdges : Nat
  maxWritePathsPerSlice : Nat
  maxTotalWritePaths : Nat
  deriving DecidableEq

/-- The defaults of `PlanningLimits`. -/
def PlanningLimits.default : PlanningLimits := ⟨100, 500, 200, 2000⟩

/-- `PlanningInputs`: the scope stands for the `spec` it belongs to. -/
structure PlanningInputs where
  scope : SpecScope
  targetProjectBlueprint : TargetProjectBlueprint
  analysis : AnalysisResult
  snapshotOid : String
  limits : PlanningLimits
  deriving DecidableEq

/-- `frozen_without_hash` of `PlanLedger.freeze`: the facts of a frozen plan that its
hash covers. The frozen artifacts and the planner's rationale are copied through
planning unread and are left out. -/
structure FrozenFacts where
  snapshotOid : String
  slices : List MigrationSlice
  edges : List PlanEdge
  edgeProvenance : List EdgeProvenance
  edgeEvidence : List (Option String × Option String)
  validation : PlanValidation
  integrationOrder : List SliceId
  localRefToId : Dict String SliceId
  artifactTasks : Dict String (List ArtifactTask)
  proposal : PlanProposal
  deriving DecidableEq

/-- `FrozenPlan`. -/
structure FrozenPlan extends FrozenFacts where
  planHash : Sha256
  deriving DecidableEq

end CodeMigrator
