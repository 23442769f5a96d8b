import CodeMigrator.Core.Enums
import CodeMigrator.Core.Paths
import CodeMigrator.Lib.Json

/-!
# Plan contracts

`core/models/plan.py` and the slice models of `core/models/slice.py`. The
field validators of the source are fields of the structures here: safe and unique
local references, safe paths and the action an artifact kind demands.
-/

namespace CodeMigrator
open Lib

/-- `re.fullmatch(r"[A-Za-z][A-Za-z0-9_-]{0,63}", value)`. -/
def isLocalRef (value : String) : Bool :=
  match value.toList with
  | [] => false
  | first :: rest =>
    first.isAlpha && rest.length ≤ 63 &&
      rest.all (fun c => c.isAlphanum || c == '_' || c == '-')

/-- `RequiredCheck` (`core/models/descriptor.py`). -/
structure RequiredCheck where
  id : UUID
  action : CheckAction
  templateSha256 : String
  deriving DecidableEq

/-- `ArtifactAction`. -/
inductive ArtifactAction where
  | generate | translate | copy
  deriving DecidableEq, Repr

/-- The action that `ArtifactTask.action_matches_kind` expects of a kind. -/
def ArtifactKind.action : ArtifactKind → ArtifactAction
  | generatedCode => .generate
  | declarativeConfig => .translate
  | resourceFile => .copy

/-- `ArtifactTask`. -/
structure ArtifactTask where
  kind : ArtifactKind
  action : ArtifactAction
  sourcePath : RepoRelativePath
  targetPath : RepoRelativePath
  artifactPath : Option RepoRelativePath
  actionMatchesKind : action = kind.action
  deriving DecidableEq

/-- `PlanSliceProposal`. Its check for repeated modules compares the values before they
are parsed, so one id in two spellings passes it and no uniqueness is kept here. -/
structure PlanSliceProposal where
  localRef : String
  kind : SliceKind
  sourceModules : List ProjectModuleId
  writePaths : List RepoRelativePath
  createRoots : List RepoRelativePath
  requiredChecks : List RequiredCheck
  artifactTasks : List ArtifactTask
  localRefIsSafe : isLocalRef localRef = true
  deriving DecidableEq

/-- `PlanEdgeProposal`; its evidence texts are `Option`s that planning only copies. -/
structure PlanEdgeProposal where
  from_ : String
  to_ : String
  kind : PlanEdgeKind
  provenance : EdgeProvenance
  unknownReason : Option String
  evidenceLocation : Option String
  deriving DecidableEq

/-- `PlanProposal`. -/
structure PlanProposal where
  slices : List PlanSliceProposal
  edges : List PlanEdgeProposal
  integrationRanks : Dict String Int
  localRefsAreUnique : (slices.map (·.localRef)).Nodup
  deriving DecidableEq

/-- The local references of a proposal; a set in the source, distinct here by
`localRefsAreUnique`. -/
def PlanProposal.refs (proposal : PlanProposal) : List String :=
  proposal.slices.map (·.localRef)

/-- `PlanViolation`. -/
structure PlanViolation where
  code : StableErrorCode
  pointer : String
  message : String
  details : List (String × Json)
  deriving DecidableEq

/-- The verdict texts of the separate checks of a validation. -/
inductive CheckVerdict where
  | pass | fail | notRun
  deriving DecidableEq, Repr

/-- `"FAIL" if failed else "PASS"`. -/
def CheckVerdict.ofFailed (failed : Bool) : CheckVerdict := if failed then .fail else .pass

/-- `PlanValidation`. -/
structure PlanValidation where
  accepted : Bool
  violations : List PlanViolation
  sourceCoverage : List (String × String)
  checkedScopePairs : Nat
  cycleCheck : CheckVerdict
  blueprintCheck : CheckVerdict
  rankCheck : CheckVerdict
  sizeCheck : CheckVerdict
  deriving DecidableEq

/-- `PlanEdge`. -/
structure PlanEdge where
  from_ : SliceId
  to_ : SliceId
  kind : PlanEdgeKind
  deriving DecidableEq

/-- `WriteScopeOut` (`core/models/slice.py`). -/
structure WriteScopeOut where
  writePaths : List RepoRelativePath
  createRoots : List RepoRelativePath
  deriving DecidableEq

/-- `WriteScope` (`core/models/slice.py`). -/
structure WriteScope where
  out : WriteScopeOut
  deriving DecidableEq

/-- `MigrationSlice` (`core/models/slice.py`); `proposal_ref` is `None` on every
slice that planning builds and is left out. -/
structure MigrationSlice where
  id : SliceId
  kind : SliceKind
  sourceModules : List ProjectModuleId
  writeScope : WriteScope
  requiredChecks : List RequiredCheck
  integrationRank : Int
  deriving DecidableEq

end CodeMigrator
