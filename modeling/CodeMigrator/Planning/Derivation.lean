import CodeMigrator.Planning.Ledger

/-!
# Derived plans

`derive_plan_proposal` of `planning/derivation.py`: a proposal from the analysis facts alone. The
paths of a slice are normalized when it is built, so that equal target paths become one.
-/

namespace CodeMigrator
open Lib

/-- The exceptions of `derive_plan_proposal`. -/
inductive DerivationError where
  /-- `ValueError("GeneratedCode artifacts require source_path")`. -/
  | missingSourcePath
  /-- The `ValidationError` of a path or of a local reference. -/
  | invalid (value : String)
  /-- The `ValidationError` of repeated local references. -/
  | repeatedRefs
  deriving DecidableEq

/-! ## Names -/

/-- The characters that `[^a-z0-9]` leaves. -/
def isNameChar (c : Char) : Bool := ('a' ≤ c && c ≤ 'z') || c.isDigit

/-- `re.sub(r"[^a-z0-9]+", "-", text)`; a run of other characters becomes one hyphen. -/
def hyphenateRuns (inRun : Bool) : List Char → List Char
  | [] => []
  | c :: rest =>
    if isNameChar c then c :: hyphenateRuns false rest
    else if inRun then hyphenateRuns true rest
    else '-' :: hyphenateRuns true rest

/-- `normalize_group_name`; `fold` is `unicodedata.normalize("NFKC", value).casefold()`. -/
def normalizeGroupNameWith (fold : String → String) (value : String) : String :=
  let normalized := stripList (· == '-') (hyphenateRuns false (fold value).toList)
  if normalized = [] then "group" else String.ofList normalized

/-- `base` with the number of its occurrence, which the first one does not show. -/
def occurrenceName (occurrence : String × Nat) : String :=
  if occurrence.2 = 1 then occurrence.1 else s!"{occurrence.1}-{occurrence.2}"

/-- The loop of `normalize_group_names`. -/
def normalizeGroupNamesWith (fold : String → String) (counts : Dict String Nat) :
    List String → List String
  | [] => []
  | value :: rest =>
    let base := normalizeGroupNameWith fold value
    let count := (counts.get? base).getD 0 + 1
    occurrenceName (base, count) :: normalizeGroupNamesWith fold (counts.set base count) rest

/-- What the folding does to ASCII text: `NFKC` keeps it and `casefold` lowers it. -/
def asciiFold (text : String) : String := String.ofList (text.toList.map Char.toLower)

/-- `normalize_group_name` of a module id, which is ASCII. -/
def normalizeGroupName : String → String := normalizeGroupNameWith asciiFold

/-- `normalize_group_names` of module ids. -/
def normalizeGroupNames : List String → List String := normalizeGroupNamesWith asciiFold .empty

/-! ## Slices -/

/-- `str(path).rsplit("/", maxsplit=1)[-1]`. -/
def lastComponent (path : String) : String :=
  String.ofList (path.toList.reverse.takeWhile (· != '/')).reverse

/-- One path of `_target_paths`. -/
def targetBelow (root path : String) : String := root ++ "/" ++ lastComponent path

/-- `_target_paths`. -/
def targetPaths (paths : List String) (root : String) : List String :=
  (paths.insertionSort pathLe).map (targetBelow root)

/-- `_validate_repo_relative_path`. -/
def validatePath (path : String) : Except DerivationError RepoRelativePath :=
  if safe : isRepoRelative path = true then .ok ⟨path, safe⟩ else .error (.invalid path)

/-- `PlanSliceProposal(...)`. -/
def buildSlice (localRef : String) (kind : SliceKind) (sourceModules : List ProjectModuleId)
    (writePaths createRoots : List String) (artifactTasks : List ArtifactTask) :
    Except DerivationError PlanSliceProposal :=
  if safe : isLocalRef localRef = true then do
    let writePaths ← writePaths.mapM validatePath
    let createRoots ← createRoots.mapM validatePath
    .ok ⟨localRef, kind, sourceModules, normalizePaths writePaths, normalizePaths createRoots, [],
      artifactTasks, safe⟩
  else .error (.invalid localRef)

/-- The loop body of `derive_artifact_tasks`. -/
def artifactTaskOf (paths : Dict String String) (fact : ArtifactFact) :
    Except DerivationError ArtifactTask :=
  if fact.artifactKind = .generatedCode ∧ fact.sourcePath = none then .error .missingSourcePath
  else do
    let targetPath ← validatePath ((paths.get? fact.path.text).getD ("target/" ++ fact.path.text))
    .ok ⟨fact.artifactKind, fact.artifactKind.action, fact.sourcePath.getD fact.path, targetPath,
      some fact.path, rfl⟩

/-- `derive_artifact_tasks`. -/
def deriveArtifactTasks (facts : List ArtifactFact) (paths : Dict String String) :
    Except DerivationError (List ArtifactTask) :=
  (facts.insertionSort fun left right => pathLe left.path.text right.path.text).mapM
    (artifactTaskOf paths)

/-- `_module_is_in_scope`. -/
def moduleIsInScope (inputs : PlanningInputs) (module_ : ModuleFact) : Bool :=
  module_.filePaths.all inputs.scope.includes

/-- The modules of a role in scope, by the bytes of their ids. -/
def modulesOf (inputs : PlanningInputs) (role : ModuleRole) : List ModuleFact :=
  (inputs.analysis.modules.insertionSort fun left right =>
    left.moduleId.value ≤ right.moduleId.value).filter fun module_ =>
      module_.role = role ∧ moduleIsInScope inputs module_

/-- `zip(source_modules, names)`. -/
def namedSources (inputs : PlanningInputs) : List (ModuleFact × String) :=
  (modulesOf inputs .source).zip
    (normalizeGroupNames ((modulesOf inputs .source).map (·.moduleId.str)))

/-- `_covered_test_modules`. -/
def coveredTestModules (analysis : AnalysisResult) (testModules : List ModuleFact) :
    List ProjectModuleId :=
  let pathsByModule := Dict.ofPairs (testModules.map fun module_ =>
    (module_.moduleId, module_.filePaths))
  analysis.coverage.flatMap fun entry =>
    (pathsByModule.entries.filter fun item => entry.testFile ∈ item.2).map Prod.fst

/-- The contract slice, where there are tasks. -/
def contractSlices (tasks : List ArtifactTask) : Except DerivationError (List PlanSliceProposal) :=
  if tasks = [] then .ok []
  else (buildSlice "CT" .contract [] (tasks.map (·.targetPath.text)) [] tasks).map ([·])

/-- The slice of a source module. -/
def implementationSlice (named : ModuleFact × String) : Except DerivationError PlanSliceProposal :=
  buildSlice ("I-" ++ named.2) .implementation [named.1.moduleId]
    (targetPaths named.1.filePaths ("target/src/" ++ named.2)) ["target/src/" ++ named.2] []

/-- The slice of a covered test module. -/
def testTranslationSlice (module_ : ModuleFact) : Except DerivationError PlanSliceProposal :=
  let name := normalizeGroupName module_.moduleId.str
  buildSlice ("TT-" ++ name) .testTranslation [module_.moduleId]
    (targetPaths module_.filePaths ("target/tests/" ++ name)) ["target/tests/" ++ name] []

/-- The slice of tests to generate for a source module. -/
def testGenerationSlice (named : ModuleFact × String) : Except DerivationError PlanSliceProposal :=
  let root := "target/tests/generated/" ++ named.2
  buildSlice ("TG-" ++ named.2) .testGeneration [named.1.moduleId]
    [root ++ "/" ++ named.2 ++ "_test"] [root] []

/-- `PlanProposal(...)`; the ranks count the slices. -/
def proposalOf (slices : List PlanSliceProposal) : Except DerivationError PlanProposal :=
  if unique : (slices.map (·.localRef)).Nodup then
    .ok ⟨slices, [], Dict.ofPairs (slices.zipIdx.map fun item => (item.1.localRef, (item.2 : Int))),
      unique⟩
  else .error .repeatedRefs

/-- `derive_plan_proposal`. -/
def derivePlanProposal (inputs : PlanningInputs) : Except DerivationError PlanProposal := do
  let testModules := modulesOf inputs .test
  let statusByModule := Dict.ofPairs (inputs.analysis.coverageStatus.map fun status =>
    (status.module_, status.status))
  let covered := coveredTestModules inputs.analysis testModules
  let artifactTasks ← deriveArtifactTasks inputs.analysis.artifacts .empty
  let contracts ← contractSlices artifactTasks
  let implementations ← (namedSources inputs).mapM implementationSlice
  let translations ←
    (testModules.filter fun module_ => module_.moduleId ∈ covered).mapM testTranslationSlice
  let generations ← ((namedSources inputs).filter fun named =>
    statusByModule.get? named.1.moduleId = some .emptyTestSuite).mapM testGenerationSlice
  proposalOf (contracts ++ implementations ++ translations ++ generations)

end CodeMigrator
