import CodeMigrator.Planning.Blueprint

/-!
# Coverage, artifact and scope guards

`_validate_slice_modules`, `_in_scope_source_files`, the coverage loop of
`PlanValidator.validate`, `_validate_artifacts`, `_validate_artifact_scopes` and
`_validate_scope_conflicts` of `planning/validator.py`.
-/

namespace CodeMigrator
open Lib

/-! ## Slices, modules and files -/

/-- `{module.module_id: module for module in modules}`. -/
def modulesById (analysis : AnalysisResult) : Dict ProjectModuleId ModuleFact :=
  Dict.ofPairs (analysis.modules.map (fun module_ => (module_.moduleId, module_)))

/-- `expected_roles.get(kind)` of `_validate_slice_modules`. -/
def SliceKind.expectedRole : SliceKind → Option ModuleRole
  | implementation => some .source
  | testTranslation => some .test
  | testGeneration => some .source
  | contract => none

/-- The slices whose files count as coverage. -/
def SliceKind.translates : SliceKind → Bool
  | implementation | testTranslation => true
  | _ => false

/-- The body of the loops of `_validate_slice_modules` for one listed module. -/
def sliceModuleViolations (inputs : PlanningInputs)
    (modules : Dict ProjectModuleId ModuleFact) (kind : SliceKind) (pointer : String)
    (moduleId : ProjectModuleId) : List PlanViolation :=
  match modules.get? moduleId with
  | none =>
    [violation .planCoverageInvalid pointer "source module is not present in analysis facts"
      [("module_id", .str moduleId.str)]]
  | some module_ =>
    let status := (Dict.ofPairs (inputs.analysis.coverageStatus.map
      (fun status => (status.module_, status.status)))).get? moduleId
    let outOfScope := module_.filePaths.filter (fun path => !inputs.scope.includes path)
    (match kind.expectedRole with
    | none => []
    | some expectedRole =>
      if module_.role ≠ expectedRole then
        [violation .planCoverageInvalid pointer
          "slice source module role does not match its Slice kind"
          [("expected_role", .str expectedRole.value),
            ("actual_role", .str module_.role.value)]]
      else []) ++
    (if outOfScope ≠ [] then
      [violation .planCoverageInvalid pointer
        "slice source module contains files outside the migration scope"
        [("paths", .arr (outOfScope.map .str))]]
    else []) ++
    (if kind = .testGeneration ∧ status ≠ some .emptyTestSuite then
      [violation .planCoverageInvalid pointer
        "TestGeneration requires an EmptyTestSuite source module"
        [("status", .str ((status.map ModuleCoverage.value).getD "MISSING"))]]
    else [])

/-- `_validate_slice_modules`. -/
def validateSliceModules (proposal : PlanProposal) (inputs : PlanningInputs)
    (modules : Dict ProjectModuleId ModuleFact) : List PlanViolation :=
  proposal.slices.zipIdx.flatMap fun (slice, sliceIndex) =>
    slice.sourceModules.zipIdx.flatMap fun (moduleId, moduleIndex) =>
      sliceModuleViolations inputs modules slice.kind
        s!"/slices/{sliceIndex}/source_modules/{moduleIndex}" moduleId

/-- The paths of the analysed artifacts. -/
def artifactPaths (analysis : AnalysisResult) : List String :=
  analysis.artifacts.map (·.path.text)

/-- `_in_scope_source_files`. -/
def inScopeSourceFiles (inputs : PlanningInputs) : Dict String ProjectModuleId :=
  Dict.ofPairs <|
    (inputs.analysis.modules.filter (fun module_ =>
      module_.role = .source ∨ module_.role = .test)).flatMap fun module_ =>
        (module_.filePaths.filter (fun path =>
          inputs.scope.includes path && path ∉ artifactPaths inputs.analysis)).map
            (fun path => (path, module_.moduleId))

/-- One way a file is owned: the slice, and the module through which it lists the
file. -/
structure Ownership where
  slice : PlanSliceProposal
  module_ : ModuleFact
  deriving DecidableEq

/-- The entries that the coverage loop of `validate` makes for `path`, in order: one
for each time a translating slice lists a module that lists the file. -/
def ownerships (proposal : PlanProposal) (modules : Dict ProjectModuleId ModuleFact)
    (path : String) : List Ownership :=
  (proposal.slices.filter (fun slice => slice.kind.translates)).flatMap fun slice =>
    slice.sourceModules.flatMap fun moduleId =>
      match modules.get? moduleId with
      | none => []
      | some module_ => (module_.filePaths.filter (· = path)).map fun _ => ⟨slice, module_⟩

/-- The coverage entry of one expected file and the violation it causes. -/
def coverageOf (owners : List String) (path : String) : String × Option PlanViolation :=
  match owners with
  | [owner] => (owner, none)
  | [] => ("MISSING", some (violation .planCoverageInvalid "/slices"
      "in-scope source file is not covered by a slice" [("path", .str path)]))
  | _ =>
    let names := owners.dedup.insertionSort pathLe
    ("|".intercalate names, some (violation .planCoverageInvalid "/slices"
      "in-scope source file is covered more than once"
      [("path", .str path), ("owners", .arr (names.map .str))]))

/-- The coverage of the expected files in byte order. -/
def coverageTable (proposal : PlanProposal) (inputs : PlanningInputs)
    (modules : Dict ProjectModuleId ModuleFact) :
    List (String × String × Option PlanViolation) :=
  ((inScopeSourceFiles inputs).keys.insertionSort pathLe).map fun path =>
    (path, coverageOf ((ownerships proposal modules path).map (·.slice.localRef)) path)

/-! ## Artifacts -/

/-- `task_matches_fact` of `_validate_artifacts`. -/
def taskMatchesFact (task : ArtifactTask) (fact : ArtifactFact) : Bool :=
  match task.artifactPath with
  | some path => path.text == fact.path.text
  | none => task.sourcePath.text == (fact.sourcePath.getD fact.path).text

/-- The artifact tasks of a proposal with the positions of their slice and task. -/
def artifactTasksOf (proposal : PlanProposal) : List (Nat × Nat × ArtifactTask) :=
  proposal.slices.zipIdx.flatMap fun (slice, sliceIndex) =>
    slice.artifactTasks.zipIdx.map fun (task, taskIndex) => (sliceIndex, taskIndex, task)

/-- The check of `_validate_artifacts` for one analysed artifact. -/
def factViolation (tasks : List (Nat × Nat × ArtifactTask)) (fact : ArtifactFact) :
    Option PlanViolation :=
  match tasks.filter (fun item => taskMatchesFact item.2.2 fact) with
  | [(sliceIndex, taskIndex, task)] =>
    if task.kind ≠ fact.artifactKind then
      some (violation .planCoverageInvalid s!"/slices/{sliceIndex}/artifact_tasks/{taskIndex}"
        "artifact task kind does not match the analyzed artifact"
        [("artifact_path", .str fact.path.text)])
    else none
  | found =>
    some (violation .planCoverageInvalid "/slices"
      "each analyzed artifact must be assigned to exactly one artifact task"
      [("artifact_path", .str fact.path.text), ("task_count", .int found.length)])

/-- The check of `_validate_artifacts` for one artifact task. -/
def taskViolation (facts : List ArtifactFact) (item : Nat × Nat × ArtifactTask) :
    Option PlanViolation :=
  if (facts.filter (taskMatchesFact item.2.2)).length ≠ 1 then
    some (violation .planCoverageInvalid s!"/slices/{item.1}/artifact_tasks/{item.2.1}"
      "artifact task does not identify exactly one analyzed artifact"
      [("task_source_path", .str item.2.2.sourcePath.text)])
  else none

/-- `_validate_artifacts`. -/
def validateArtifacts (proposal : PlanProposal) (inputs : PlanningInputs) :
    List PlanViolation :=
  let facts := inputs.analysis.artifacts
  let tasks := artifactTasksOf proposal
  facts.filterMap (factViolation tasks) ++ tasks.filterMap (taskViolation facts)

/-! ## Write scopes -/

/-- `_scopes_overlap` of the plan validator: equal write paths, a write path at or
below a create root of the other side, or nested create roots. -/
def scopesOverlap (leftPaths leftRoots rightPaths rightRoots : List RepoRelativePath) : Bool :=
  leftPaths.any (fun path => rightPaths.any (fun other => path.text == other.text)) ||
    leftPaths.any (fun path => rightRoots.any (fun root => pathIsInRoot path.text root.text)) ||
    rightPaths.any (fun path => leftRoots.any (fun root => pathIsInRoot path.text root.text)) ||
    leftRoots.any (fun leftRoot => rightRoots.any (fun rightRoot =>
      pathIsInRoot leftRoot.text rightRoot.text || pathIsInRoot rightRoot.text leftRoot.text))

/-- `_validate_artifact_scopes`. -/
def validateArtifactScopes (proposal : PlanProposal) : List PlanViolation :=
  let translationSlices := proposal.slices.filter (fun slice => slice.kind ≠ .contract)
  (artifactTasksOf proposal).filterMap fun (sliceIndex, taskIndex, task) =>
    if task.kind ≠ .resourceFile then none
    else if translationSlices.any (fun target =>
        scopesOverlap [task.targetPath] [] target.writePaths target.createRoots) then
      some (violation .planScopeConflict s!"/slices/{sliceIndex}/artifact_tasks/{taskIndex}"
        "ResourceFile targets must not enter a translation slice write scope" [])
    else none

/-- The pairs of `_validate_scope_conflicts` whose left slice is at `leftIndex`. -/
def pairViolations (leftIndex : Nat) (left : PlanSliceProposal) (rights : List PlanSliceProposal) :
    List PlanViolation :=
  rights.filterMap fun right =>
    if scopesOverlap left.writePaths left.createRoots right.writePaths right.createRoots then
      some (violation .planScopeConflict s!"/slices/{leftIndex}/write_paths"
        "slice write scopes must be pairwise disjoint" [("other", .str right.localRef)])
    else none

/-- The outer loop of `_validate_scope_conflicts` from slice `index` on. -/
def scopeConflicts : Nat → List PlanSliceProposal → List PlanViolation
  | _, [] => []
  | index, left :: rights => pairViolations index left rights ++ scopeConflicts (index + 1) rights

/-- `_validate_scope_conflicts`. -/
def validateScopeConflicts (proposal : PlanProposal) : List PlanViolation :=
  scopeConflicts 0 proposal.slices

end CodeMigrator
