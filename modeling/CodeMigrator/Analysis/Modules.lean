import CodeMigrator.Planning.Models

/-!
# The modules of an analysis

The grouping of files in `analyze_snapshot` (`analysis/pipeline.py`): each source file that could be
decoded goes to the module of its key, which is its directory (or that of a manifest above it), with
a suffix for a test file. The coverage loop behind it can stop the analysis. The facts of a module
that do not come from the grouping are left out; the import edges are a parameter.
-/

namespace CodeMigrator
open Lib

/-! ## Snapshots and descriptors -/

/-- `SnapshotSource`; `read` is `none` where it raises. -/
structure SnapshotSource where
  snapshotOid : String
  paths : List String
  read : String → Option ByteArray

/-- `ModuleBoundaryStrategy`. -/
inductive ModuleBoundaryStrategy where
  | manifestPerModule | singleManifestDirectoryConvention | directoryConvention
  deriving DecidableEq

/-- `ManifestRule`. -/
structure ManifestRule where
  pattern : String
  manifestKind : String

/-- `SourceAnalysisDescriptor`, what the grouping reads of it, with its digest. -/
structure SourceAnalysisDescriptor where
  extensions : List String
  moduleBoundaryStrategy : ModuleBoundaryStrategy
  testPatterns : List String
  manifestRules : List ManifestRule
  maxFileBytes : Nat
  descriptorSha256 : String
  dotted : extensions ≠ [] ∧ ∀ extension ∈ extensions, startsWith extension "." = true
  positive : 1 ≤ maxFileBytes

/-- Whether the elements between two brackets have the character; `x-y` is a range. -/
def inBrackets (c : Char) : List Char → Bool
  | low :: '-' :: high :: rest => (low ≤ c && c ≤ high) || inBrackets c rest
  | d :: rest => c == d || inBrackets c rest
  | [] => false

/-- The elements up to the closing bracket, which is not the first one, and what is behind it. -/
def bracketed (pattern : List Char) : Option (List Char × List Char) :=
  match pattern with
  | [] => none
  | first :: rest =>
    match rest.span (· ≠ ']') with
    | (_, []) => none
    | (inside, _ :: behind) => some (first :: inside, behind)

/-- A piece of a shell pattern. -/
inductive PatternPiece where
  | star
  | anyChar
  | oneChar (c : Char)
  | oneOf (negated : Bool) (elements : List Char)

/-- The pieces of a pattern; `fuel` is its length. -/
def patternPieces : Nat → List Char → List PatternPiece
  | 0, _ => []
  | _, [] => []
  | fuel + 1, '*' :: rest => .star :: patternPieces fuel rest
  | fuel + 1, '?' :: rest => .anyChar :: patternPieces fuel rest
  | fuel + 1, '[' :: '!' :: rest =>
    match bracketed rest with
    | none => .oneChar '[' :: patternPieces fuel ('!' :: rest)
    | some (elements, behind) => .oneOf true elements :: patternPieces fuel behind
  | fuel + 1, '[' :: rest =>
    match bracketed rest with
    | none => .oneChar '[' :: patternPieces fuel rest
    | some (elements, behind) => .oneOf false elements :: patternPieces fuel behind
  | fuel + 1, c :: rest => .oneChar c :: patternPieces fuel rest

/-- Whether the pieces stand for the text. -/
def matchPieces : List PatternPiece → List Char → Bool
  | [], text => text.isEmpty
  | .star :: pieces, text => text.tails.any (matchPieces pieces)
  | _ :: _, [] => false
  | .anyChar :: pieces, _ :: text => matchPieces pieces text
  | .oneChar c :: pieces, d :: text => c == d && matchPieces pieces text
  | .oneOf negated elements :: pieces, d :: text =>
    (inBrackets d elements != negated) && matchPieces pieces text

/-- `fnmatch.fnmatchcase(path, pattern)`. -/
def fnmatchcase (path pattern : String) : Bool :=
  matchPieces (patternPieces pattern.toList.length pattern.toList) path.toList

/-- `descriptor_pattern_matches`. -/
def descriptorPatternMatches (pattern path : String) : Bool :=
  if endsWith pattern "/" then startsWith path pattern else fnmatchcase path pattern

namespace SourceAnalysisDescriptor

variable (descriptor : SourceAnalysisDescriptor)

/-- `is_source_file`. -/
def isSourceFile (path : String) : Bool := descriptor.extensions.any (endsWith path)

/-- `is_test_file`. -/
def isTestFile (path : String) : Bool :=
  descriptor.testPatterns.any (descriptorPatternMatches · path)

/-- `manifest_kind`. -/
def manifestKind (path : String) : Option String :=
  (descriptor.manifestRules.find? (fun rule => descriptorPatternMatches rule.pattern path)).map
    (·.manifestKind)

end SourceAnalysisDescriptor

/-! ## Keys -/

/-- `posixpath.dirname`. -/
def dirname (path : String) : String :=
  let head := String.ofList (path.toList.reverse.dropWhile (· ≠ '/')).reverse
  if head.toList.all (· == '/') then head else rstrip head '/'

/-- `posixpath.dirname(path) or "."`. -/
def directoryOf (path : String) : String := if dirname path = "" then "." else dirname path

/-- `max(roots, key=lambda root: len(root.encode("utf-8")))`: the first of the longest. -/
def longestRoot : String → List String → String
  | best, [] => best
  | best, root :: roots =>
    longestRoot (if best.utf8ByteSize < root.utf8ByteSize then root else best) roots

/-- `_module_key`. -/
def moduleKey (path : String) (isTest : Bool) (strategy : ModuleBoundaryStrategy)
    (manifestPaths : List String) : String :=
  let roots :=
    if strategy = .manifestPerModule then
      (manifestPaths.map directoryOf).filter fun root =>
        root == "." || path == root || startsWith path (root ++ "/")
    else []
  let directory :=
    match roots with
    | [] => directoryOf path
    | root :: others => longestRoot root others
  if isTest then directory ++ "#test" else directory

/-! ## Modules -/

section Analysis

variable (uuid5 : String → UUID) (snapshot : SnapshotSource) (descriptor : SourceAnalysisDescriptor)

/-- `_module_id`; `uuid5` is that of the namespace of URLs. -/
def moduleId (key : String) : ProjectModuleId :=
  uuid5 ("codemigrator:analysis:" ++ snapshot.snapshotOid ++ ":" ++ descriptor.descriptorSha256 ++ ":" ++
    key)

/-- The loop over the paths of the snapshot: the files that are read and decoded. -/
def decodedFiles : Dict String ByteArray :=
  snapshot.paths.foldl (fun files path =>
    match snapshot.read path with
    | none => files
    | some content =>
      if path = ".git" ∨ startsWith path ".git/" then files
      else if descriptor.maxFileBytes < content.size then files
      else files.set path content) Dict.empty

/-- `sorted(source_paths | test_paths)`. -/
def analyzedPaths : List String :=
  ((decodedFiles snapshot descriptor).keys.filter descriptor.isSourceFile).insertionSort pathLe

/-- `manifest_paths`. -/
def manifestPaths : List String :=
  ((decodedFiles snapshot descriptor).keys.insertionSort pathLe).filter
    fun path => (descriptor.manifestKind path).isSome

/-- The role of a path. -/
def roleOf (path : String) : ModuleRole := if descriptor.isTestFile path then .test else .source

/-- The key of a path. -/
def pathKey (path : String) : String :=
  moduleKey path (descriptor.isTestFile path) descriptor.moduleBoundaryStrategy
    (manifestPaths snapshot descriptor)

/-- The id of the module of a path. -/
def moduleOf (path : String) : ProjectModuleId :=
  moduleId uuid5 snapshot descriptor (pathKey snapshot descriptor path)

/-- `module_files` and `module_roles`. -/
structure ModuleGroups where
  files : Dict ProjectModuleId (List String)
  roles : Dict ProjectModuleId ModuleRole

/-- The loop over the analyzed paths. -/
def groupPaths (paths : List String) : ModuleGroups :=
  paths.foldl (fun groups path =>
    let id := moduleOf uuid5 snapshot descriptor path
    ⟨groups.files.set id ((groups.files.get? id).getD [] ++ [path]),
      groups.roles.set id (roleOf descriptor path)⟩) ⟨Dict.empty, Dict.empty⟩

/-- The groups of the snapshot. -/
def moduleGroups : ModuleGroups :=
  groupPaths uuid5 snapshot descriptor (analyzedPaths snapshot descriptor)

/-- `modules` of `analyze_snapshot`. -/
def builtModules : List ModuleFact :=
  let groups := moduleGroups uuid5 snapshot descriptor
  (groups.files.keys.insertionSort fun left right => left.value ≤ right.value).map fun id =>
    ⟨id, ((groups.files.get? id).getD []).insertionSort pathLe, (groups.roles.get? id).getD .source⟩

/-! ## Coverage -/

/-- `posixpath.basename(path).rsplit(".", 1)[0]`. -/
def stem (path : String) : String :=
  let name := path.toList.reverse.takeWhile (· ≠ '/')
  match name.dropWhile (· ≠ '.') with
  | [] => String.ofList name.reverse
  | _ :: before => String.ofList before.reverse

/-- The stem of a test file without the mark of a test. -/
def testStem (path : String) : String :=
  let marked := stem path
  let name := if startsWith marked "test_" then String.ofList (marked.toList.drop 5) else marked
  if endsWith name "_test" then String.ofList (name.toList.take (name.toList.length - 5)) else name

/-- `_directory_coverage`. -/
def directoryCoverage (testPath : String) : List ProjectModuleId :=
  (((analyzedPaths snapshot descriptor).filter fun path =>
    !descriptor.isTestFile path && stem path == testStem testPath).map
      (moduleOf uuid5 snapshot descriptor)).dedup.insertionSort fun left right =>
        left.value ≤ right.value

variable (imports : ProjectModuleId → List ProjectModuleId)

/-- `tested`; `imports` has the modules that the static import edges of a module lead to. -/
def testedModules (id : ProjectModuleId) (path : String) : List ProjectModuleId :=
  let tested := ((imports id).filter fun target =>
    (moduleGroups uuid5 snapshot descriptor).roles.get? target = some .source).dedup.insertionSort
      fun left right => left.value ≤ right.value
  if tested = [] ∧ descriptor.testPatterns ≠ [] then
    directoryCoverage uuid5 snapshot descriptor path
  else tested

/-- `coverage`, with the tested modules of each file of a module of tests. -/
def coverage : List (String × List ProjectModuleId) :=
  let groups := moduleGroups uuid5 snapshot descriptor
  ((groups.files.keys.filter fun id => groups.roles.get? id = some .test).insertionSort
      fun left right => left.value ≤ right.value).flatMap fun id =>
    ((groups.files.get? id).getD []).map fun path =>
      (path, testedModules uuid5 snapshot descriptor imports id path)

/-- The modules that `analyze_snapshot` returns; `none` where the loop over the coverage looks for
the file of an entry among the test files and raises `StopIteration`. -/
def analyzedModules : Option (List ModuleFact) :=
  if (coverage uuid5 snapshot descriptor imports).any fun entry =>
      entry.2 ≠ [] && !descriptor.isTestFile entry.1 then none
  else some (builtModules uuid5 snapshot descriptor)

end Analysis

/-! ## The partition -/

section Partition

variable {uuid5 : String → UUID} {snapshot : SnapshotSource} {descriptor : SourceAnalysisDescriptor}

/-- What is promised of the modules: every decoded source file is in one module and there once, the
ids are different, and a module has test files or other files only, as its role says. -/
structure PartitionsSource (snapshot : SnapshotSource) (descriptor : SourceAnalysisDescriptor)
    (modules : List ModuleFact) : Prop where
  once : ∀ path ∈ (decodedFiles snapshot descriptor).keys, descriptor.isSourceFile path = true →
    ∃ module_ ∈ modules, module_.filePaths.count path = 1 ∧
      ∀ other ∈ modules, path ∈ other.filePaths → other = module_
  distinct : (modules.map (·.moduleId)).Nodup
  roles : ∀ module_ ∈ modules, ∀ path ∈ module_.filePaths,
    module_.role = if descriptor.isTestFile path then .test else .source

/-- No test file has the key of another source file. -/
def ModuleKeysApart (snapshot : SnapshotSource) (descriptor : SourceAnalysisDescriptor) : Prop :=
  ∀ test ∈ analyzedPaths snapshot descriptor, ∀ path ∈ analyzedPaths snapshot descriptor,
    descriptor.isTestFile test = true → descriptor.isTestFile path = false →
      pathKey snapshot descriptor test ≠ pathKey snapshot descriptor path

/-- The names of two modules do not have one id. -/
def IdsInjective (uuid5 : String → UUID) (snapshot : SnapshotSource)
    (descriptor : SourceAnalysisDescriptor) : Prop :=
  ∀ left ∈ analyzedPaths snapshot descriptor, ∀ right ∈ analyzedPaths snapshot descriptor,
    moduleOf uuid5 snapshot descriptor left = moduleOf uuid5 snapshot descriptor right →
      pathKey snapshot descriptor left = pathKey snapshot descriptor right

/-- The paths of an id, in order. -/
def pathsOf (uuid5 : String → UUID) (snapshot : SnapshotSource)
    (descriptor : SourceAnalysisDescriptor) (id : ProjectModuleId) : List String :=
  (analyzedPaths snapshot descriptor).filter (moduleOf uuid5 snapshot descriptor · = id)

/-- The role of the last path of an id. -/
def lastRole (uuid5 : String → UUID) (snapshot : SnapshotSource)
    (descriptor : SourceAnalysisDescriptor) (id : ProjectModuleId) : Option ModuleRole :=
  (pathsOf uuid5 snapshot descriptor id).getLast?.map (roleOf descriptor)

/-- A file that is no test is in a module whose last file is one, and something counts as tested by
it: a module that its module imports, or one with a file of the same stem. -/
def CoverageStops (uuid5 : String → UUID) (snapshot : SnapshotSource)
    (descriptor : SourceAnalysisDescriptor) (imports : ProjectModuleId → List ProjectModuleId) :
    Prop :=
  ∃ path ∈ analyzedPaths snapshot descriptor, descriptor.isTestFile path = false ∧
    lastRole uuid5 snapshot descriptor (moduleOf uuid5 snapshot descriptor path) = some .test ∧
    ((∃ target ∈ imports (moduleOf uuid5 snapshot descriptor path),
        lastRole uuid5 snapshot descriptor target = some .source) ∨
      ∃ other ∈ analyzedPaths snapshot descriptor, descriptor.isTestFile other = false ∧
        stem other = testStem path)

theorem mem_analyzedPaths {path : String} :
    path ∈ analyzedPaths snapshot descriptor ↔
      path ∈ (decodedFiles snapshot descriptor).keys ∧ descriptor.isSourceFile path = true := by
  rw [analyzedPaths, List.mem_insertionSort, List.mem_filter]

theorem analyzedPaths_nodup : (analyzedPaths snapshot descriptor).Nodup := by
  refine (List.perm_insertionSort pathLe _).nodup_iff.mpr ?_
  exact (decodedFiles snapshot descriptor).nodup.filter _

theorem groupPaths_get? (paths : List String) (id : ProjectModuleId) :
    (groupPaths uuid5 snapshot descriptor paths).files.get? id =
        (if paths.filter (moduleOf uuid5 snapshot descriptor · = id) = [] then none
        else some (paths.filter (moduleOf uuid5 snapshot descriptor · = id))) ∧
      (groupPaths uuid5 snapshot descriptor paths).roles.get? id =
        (paths.filter (moduleOf uuid5 snapshot descriptor · = id)).getLast?.map (roleOf descriptor) := by
  induction paths using List.reverseRecOn with
  | nil => simp [groupPaths]
  | append_singleton paths path ih =>
    obtain ⟨files, roles⟩ := ih
    have step : groupPaths uuid5 snapshot descriptor (paths ++ [path]) =
        ⟨(groupPaths uuid5 snapshot descriptor paths).files.set
            (moduleOf uuid5 snapshot descriptor path)
            (((groupPaths uuid5 snapshot descriptor paths).files.get?
              (moduleOf uuid5 snapshot descriptor path)).getD [] ++ [path]),
          (groupPaths uuid5 snapshot descriptor paths).roles.set
            (moduleOf uuid5 snapshot descriptor path) (roleOf descriptor path)⟩ := by
      simp [groupPaths]
    rw [step, List.filter_append]
    by_cases same : moduleOf uuid5 snapshot descriptor path = id
    · subst same
      dsimp only
      rw [Dict.get?_set, if_pos rfl, Dict.get?_set, if_pos rfl, files]
      constructor
      · split
        · next none => simp [none]
        · simp
      · simp
    · dsimp only
      rw [Dict.get?_set, if_neg (Ne.symm same), Dict.get?_set, if_neg (Ne.symm same), files, roles]
      simp [same]

/-- The module of an id. -/
def moduleFact (uuid5 : String → UUID) (snapshot : SnapshotSource)
    (descriptor : SourceAnalysisDescriptor) (id : ProjectModuleId) : ModuleFact :=
  ⟨id, (pathsOf uuid5 snapshot descriptor id).insertionSort pathLe,
    (lastRole uuid5 snapshot descriptor id).getD .source⟩

theorem builtModules_eq : ∃ ids : List ProjectModuleId, ids.Nodup ∧
    (∀ id, id ∈ ids ↔ ∃ path ∈ analyzedPaths snapshot descriptor,
      moduleOf uuid5 snapshot descriptor path = id) ∧
    builtModules uuid5 snapshot descriptor = ids.map (moduleFact uuid5 snapshot descriptor) := by
  let groups := moduleGroups uuid5 snapshot descriptor
  refine ⟨groups.files.keys.insertionSort fun left right => left.value ≤ right.value, ?_, ?_, ?_⟩
  · exact (List.perm_insertionSort _ _).nodup_iff.mpr groups.files.nodup
  · intro id
    rw [List.mem_insertionSort, Dict.mem_keys_iff,
      show groups.files.get? id = _ from (groupPaths_get? _ id).1]
    constructor
    · rintro ⟨paths, found⟩
      split at found
      · cases found
      · next some =>
        obtain ⟨path, member⟩ := List.exists_mem_of_ne_nil _ some
        rw [List.mem_filter, decide_eq_true_eq] at member
        exact ⟨path, member⟩
    · rintro ⟨path, member, rfl⟩
      have inside : path ∈ (analyzedPaths snapshot descriptor).filter
          (moduleOf uuid5 snapshot descriptor · = moduleOf uuid5 snapshot descriptor path) := by
        simp [member]
      rw [if_neg (List.ne_nil_of_mem inside)]
      exact ⟨_, rfl⟩
  · unfold builtModules
    apply List.map_congr_left
    intro id _
    obtain ⟨files, roles⟩ := groupPaths_get? (analyzedPaths snapshot descriptor) id
    unfold moduleGroups moduleFact lastRole pathsOf
    rw [files, roles]
    split
    · next none => rw [none]; rfl
    · rfl

theorem mem_moduleFact {path : String} {id : ProjectModuleId} :
    path ∈ (moduleFact uuid5 snapshot descriptor id).filePaths ↔
      path ∈ analyzedPaths snapshot descriptor ∧ moduleOf uuid5 snapshot descriptor path = id := by
  unfold moduleFact pathsOf
  rw [List.mem_insertionSort, List.mem_filter, decide_eq_true_eq]

theorem mem_builtModules {module_ : ModuleFact} :
    module_ ∈ builtModules uuid5 snapshot descriptor ↔
      ∃ path ∈ analyzedPaths snapshot descriptor,
        moduleFact uuid5 snapshot descriptor (moduleOf uuid5 snapshot descriptor path) = module_ := by
  obtain ⟨ids, -, members, modules⟩ := @builtModules_eq uuid5 snapshot descriptor
  rw [modules, List.mem_map]
  constructor
  · rintro ⟨id, member, rfl⟩
    obtain ⟨path, inside, rfl⟩ := (members id).mp member
    exact ⟨path, inside, rfl⟩
  · rintro ⟨path, inside, rfl⟩
    exact ⟨_, (members _).mpr ⟨path, inside, rfl⟩, rfl⟩

theorem moduleFact_role {path : String} (inside : path ∈ analyzedPaths snapshot descriptor) :
    ∃ other ∈ (moduleFact uuid5 snapshot descriptor
        (moduleOf uuid5 snapshot descriptor path)).filePaths,
      (moduleFact uuid5 snapshot descriptor (moduleOf uuid5 snapshot descriptor path)).role =
        roleOf descriptor other := by
  have here : path ∈ pathsOf uuid5 snapshot descriptor (moduleOf uuid5 snapshot descriptor path) := by
    simp [pathsOf, inside]
  have some := List.ne_nil_of_mem here
  have last := List.getLast?_eq_getLast_of_ne_nil some
  refine ⟨(pathsOf uuid5 snapshot descriptor
    (moduleOf uuid5 snapshot descriptor path)).getLast some, ?_, ?_⟩
  · unfold moduleFact
    rw [List.mem_insertionSort]
    exact List.getLast_mem some
  · unfold moduleFact lastRole
    rw [last]
    rfl

theorem keysApart_of_partitions (partitions : PartitionsSource snapshot descriptor
    (builtModules uuid5 snapshot descriptor)) : ModuleKeysApart snapshot descriptor := by
  intro test isAnalyzed path isAnalyzed' isTest notTest same
  have sameId : moduleOf uuid5 snapshot descriptor path = moduleOf uuid5 snapshot descriptor test := by
    unfold moduleOf
    rw [same]
  have member := mem_builtModules.mpr
    ⟨test, isAnalyzed, (rfl : moduleFact uuid5 snapshot descriptor _ = _)⟩
  have testRole := partitions.roles _ member test (mem_moduleFact.mpr ⟨isAnalyzed, rfl⟩)
  have pathRole := partitions.roles _ member path (mem_moduleFact.mpr ⟨isAnalyzed', sameId⟩)
  rw [testRole, if_pos isTest, if_neg (by simp [notTest])] at pathRole
  cases pathRole

theorem partitions_of_keysApart (injective : IdsInjective uuid5 snapshot descriptor)
    (apart : ModuleKeysApart snapshot descriptor) :
    PartitionsSource snapshot descriptor (builtModules uuid5 snapshot descriptor) := by
  constructor
  · intro path decoded isSource
    have inside := mem_analyzedPaths.mpr ⟨decoded, isSource⟩
    refine ⟨_, mem_builtModules.mpr ⟨path, inside, rfl⟩, ?_, ?_⟩
    · apply List.count_eq_one_of_mem
      · refine (List.perm_insertionSort pathLe _).nodup_iff.mpr ?_
        exact analyzedPaths_nodup.filter _
      · exact mem_moduleFact.mpr ⟨inside, rfl⟩
    · intro other member there
      obtain ⟨first, _, rfl⟩ := mem_builtModules.mp member
      rw [(mem_moduleFact.mp there).2]
  · obtain ⟨ids, distinct, -, modules⟩ := @builtModules_eq uuid5 snapshot descriptor
    rw [modules, List.map_map]
    have same : ids.map ((·.moduleId) ∘ moduleFact uuid5 snapshot descriptor) = ids := List.map_id ids
    rw [same]
    exact distinct
  · intro module_ member path there
    obtain ⟨first, inside, rfl⟩ := mem_builtModules.mp member
    obtain ⟨isAnalyzed, sameId⟩ := mem_moduleFact.mp there
    obtain ⟨other, otherThere, role⟩ := @moduleFact_role uuid5 snapshot descriptor first inside
    obtain ⟨otherAnalyzed, otherId⟩ := mem_moduleFact.mp otherThere
    have key := injective other otherAnalyzed path isAnalyzed (otherId.trans sameId.symm)
    rw [role, roleOf]
    -- a test file and another one would have the same key
    cases isTest : descriptor.isTestFile path with
    | true =>
      cases otherTest : descriptor.isTestFile other with
      | true => rfl
      | false => exact absurd key.symm (apart path isAnalyzed other otherAnalyzed isTest otherTest)
    | false =>
      cases otherTest : descriptor.isTestFile other with
      | true => exact absurd key (apart other otherAnalyzed path isAnalyzed otherTest isTest)
      | false => rfl

theorem testedModules_ne_nil (imports : ProjectModuleId → List ProjectModuleId)
    (id : ProjectModuleId) (path : String) (patterns : descriptor.testPatterns ≠ []) :
    testedModules uuid5 snapshot descriptor imports id path ≠ [] ↔
      (∃ target ∈ imports id, lastRole uuid5 snapshot descriptor target = some .source) ∨
        ∃ other ∈ analyzedPaths snapshot descriptor, descriptor.isTestFile other = false ∧
          stem other = testStem path := by
  have sorted : ∀ ids : List ProjectModuleId,
      ids.dedup.insertionSort (fun left right => left.value ≤ right.value) = [] ↔ ids = [] := by
    intro ids
    rw [← List.length_eq_zero_iff, List.length_insertionSort, List.length_eq_zero_iff,
      List.dedup_eq_nil]
  have source : ∀ target, (moduleGroups uuid5 snapshot descriptor).roles.get? target =
      lastRole uuid5 snapshot descriptor target := fun target => (groupPaths_get? _ target).2
  unfold testedModules directoryCoverage
  simp only [source, sorted, patterns, ne_eq, not_false_eq_true, and_true]
  split
  · next none =>
    rw [sorted, List.map_eq_nil_iff, List.filter_eq_nil_iff]
    rw [List.filter_eq_nil_iff] at none
    simp only [decide_eq_true_eq] at none
    simp only [Bool.and_eq_true, Bool.not_eq_true', beq_iff_eq]
    push Not
    constructor
    · rintro ⟨other, inside, found⟩
      exact .inr ⟨other, inside, found⟩
    · rintro (⟨target, inside, found⟩ | found)
      · exact absurd found (none target inside)
      · exact found
  · next some =>
    refine iff_of_true (by rwa [sorted]) (.inl ?_)
    obtain ⟨target, inside⟩ := List.exists_mem_of_ne_nil _ some
    rw [List.mem_filter, decide_eq_true_eq] at inside
    exact ⟨target, inside⟩

theorem analyzedModules_eq_none_iff (imports : ProjectModuleId → List ProjectModuleId) :
    analyzedModules uuid5 snapshot descriptor imports = none ↔
      CoverageStops uuid5 snapshot descriptor imports := by
  have roles : ∀ id, (moduleGroups uuid5 snapshot descriptor).roles.get? id =
      lastRole uuid5 snapshot descriptor id := fun id => (groupPaths_get? _ id).2
  have files : ∀ id path, path ∈ ((moduleGroups uuid5 snapshot descriptor).files.get? id).getD [] ↔
      path ∈ pathsOf uuid5 snapshot descriptor id := by
    intro id path
    rw [moduleGroups, (groupPaths_get? _ id).1, pathsOf]
    split
    · next none => rw [none]; rfl
    · rfl
  -- a module of tests has a test file, so that there is a pattern
  have patterns : ∀ id, lastRole uuid5 snapshot descriptor id = some .test →
      descriptor.testPatterns ≠ [] := by
    intro id isTest none
    obtain ⟨last, -, role⟩ := Option.map_eq_some_iff.mp isTest
    rw [roleOf, SourceAnalysisDescriptor.isTestFile, none] at role
    cases role
  unfold analyzedModules
  rw [ite_eq_left_iff, List.any_eq_true]
  simp only [reduceCtorEq, imp_false, not_not, coverage, List.mem_flatMap, List.mem_insertionSort,
    List.mem_filter, List.mem_map, decide_eq_true_eq, Bool.and_eq_true, Bool.not_eq_true', roles]
  constructor
  · rintro ⟨entry, ⟨id, ⟨-, isTest⟩, path, inside, rfl⟩, tested, noTest⟩
    rw [files, pathsOf, List.mem_filter, decide_eq_true_eq] at inside
    obtain ⟨isAnalyzed, rfl⟩ := inside
    exact ⟨path, isAnalyzed, noTest, isTest,
      (testedModules_ne_nil imports _ path (patterns _ isTest)).mp tested⟩
  · rintro ⟨path, isAnalyzed, noTest, isTest, tested⟩
    have inside : path ∈ pathsOf uuid5 snapshot descriptor
        (moduleOf uuid5 snapshot descriptor path) := by
      simp [pathsOf, isAnalyzed]
    refine ⟨_, ⟨_, ⟨?_, isTest⟩, path, (files _ path).mpr inside, rfl⟩,
      (testedModules_ne_nil imports _ path (patterns _ isTest)).mpr tested, noTest⟩
    rw [Dict.mem_keys_iff]
    by_contra absent
    have none := (files _ path).mpr inside
    rw [Option.eq_none_iff_forall_ne_some.mpr fun paths found => absent ⟨paths, found⟩] at none
    cases none

/-- The modules that an analysis returns partition the source files exactly where no test file has
the key of another source file, or where the coverage of such a mixed module stops the analysis. -/
theorem partitionsSource_iff (uuid5 : String → UUID) (snapshot : SnapshotSource)
    (descriptor : SourceAnalysisDescriptor) (imports : ProjectModuleId → List ProjectModuleId)
    (injective : IdsInjective uuid5 snapshot descriptor) :
    (∀ modules, analyzedModules uuid5 snapshot descriptor imports = some modules →
      PartitionsSource snapshot descriptor modules) ↔
      ModuleKeysApart snapshot descriptor ∨ CoverageStops uuid5 snapshot descriptor imports := by
  rw [← analyzedModules_eq_none_iff]
  cases returned : analyzedModules uuid5 snapshot descriptor imports with
  | none => exact iff_of_true (fun _ some => by cases some) (.inr rfl)
  | some modules =>
    have built : builtModules uuid5 snapshot descriptor = modules := by
      unfold analyzedModules at returned
      split at returned
      · cases returned
      · exact Option.some.inj returned
    constructor
    · intro partitions
      have here := partitions modules rfl
      rw [← built] at here
      exact .inl (keysApart_of_partitions here)
    · rintro (apart | stops) _ same
      · cases same
        rw [← built]
        exact partitions_of_keysApart injective apart
      · cases stops

end Partition

/-! ## A directory with the suffix of tests -/

namespace SampleAnalysis

/-- Python files, with tests by their names. -/
def descriptor : SourceAnalysisDescriptor where
  extensions := [".py"]
  moduleBoundaryStrategy := .directoryConvention
  testPatterns := ["*_test.py"]
  manifestRules := []
  maxFileBytes := 1000
  descriptorSha256 := "0000000000000000000000000000000000000000000000000000000000000000"
  dotted := by decide
  positive := by decide

/-- A snapshot of empty files. -/
def snapshot (paths : List String) : SnapshotSource := ⟨"commit", paths, fun _ => some ByteArray.empty⟩

/-- The ids of the modules `lib` and `lib#test` of the snapshots. -/
def uuid5 (name : String) : UUID :=
  if name = "codemigrator:analysis:commit:0000000000000000000000000000000000000000000000000000000000000000:lib" then
    ⟨0xc1acc858769e5b74ab85461b07ee0d3e⟩
  else ⟨0x275c913d22953a6900155339f7dc672⟩

def plain : SnapshotSource := snapshot ["lib/a_test.py", "lib/b.py"]

def suffixed : SnapshotSource := snapshot ["#_test.py", ".#test/b.py"]

variable {path : String}

theorem plain_paths (inside : path ∈ analyzedPaths plain descriptor) :
    path = "lib/a_test.py" ∨ path = "lib/b.py" := by
  have decoded := (mem_analyzedPaths.mp inside).1
  have keys : (decodedFiles plain descriptor).keys = ["lib/a_test.py", "lib/b.py"] := by decide
  rw [keys] at decoded
  simpa using decoded

theorem plain_apart : ModuleKeysApart plain descriptor := by
  intro test isAnalyzed path isAnalyzed' isTest notTest
  rcases plain_paths isAnalyzed with rfl | rfl
  · rcases plain_paths isAnalyzed' with rfl | rfl
    · exact absurd notTest (by decide)
    · decide
  · exact absurd isTest (by decide)

theorem plain_injective : IdsInjective uuid5 plain descriptor := by
  intro left isAnalyzed right isAnalyzed' same
  rcases plain_paths isAnalyzed with rfl | rfl
  · rcases plain_paths isAnalyzed' with rfl | rfl
    · rfl
    · exact absurd same (by decide)
  · rcases plain_paths isAnalyzed' with rfl | rfl
    · exact absurd same (by decide)
    · rfl

/-- The files of one directory are in a module of tests and another one. -/
theorem plain_partitioned :
    ∃ modules, analyzedModules uuid5 plain descriptor (fun _ => []) = some modules ∧
      modules.length = 2 ∧ PartitionsSource plain descriptor modules :=
  ⟨_, rfl, by decide, (partitionsSource_iff uuid5 plain descriptor (fun _ => [])
    plain_injective).mpr (.inl plain_apart) _ rfl⟩

theorem suffixed_paths :
    path ∈ analyzedPaths suffixed descriptor ↔ path = "#_test.py" ∨ path = ".#test/b.py" := by
  have keys : (decodedFiles suffixed descriptor).keys = ["#_test.py", ".#test/b.py"] := by decide
  rw [mem_analyzedPaths, keys]
  constructor
  · intro inside
    simpa using inside.1
  · rintro (rfl | rfl)
    · decide
    · decide

theorem suffixed_key (inside : path ∈ analyzedPaths suffixed descriptor) :
    pathKey suffixed descriptor path = ".#test" := by
  rcases suffixed_paths.mp inside with rfl | rfl
  · decide
  · decide

/-- The test file of the top directory comes into the module of the directory `.#test`. -/
theorem suffixed_mixed : ¬ ∀ (uuid5 : String → UUID) (snapshot : SnapshotSource)
    (descriptor : SourceAnalysisDescriptor) (imports : ProjectModuleId → List ProjectModuleId),
    IdsInjective uuid5 snapshot descriptor →
    ∀ modules, analyzedModules uuid5 snapshot descriptor imports = some modules →
      PartitionsSource snapshot descriptor modules := by
  intro all
  have injective : IdsInjective uuid5 suffixed descriptor := fun left isAnalyzed right isAnalyzed' _ =>
    (suffixed_key isAnalyzed).trans (suffixed_key isAnalyzed').symm
  have apart := keysApart_of_partitions
    (all uuid5 suffixed descriptor (fun _ => []) injective _ (by rfl))
  exact apart "#_test.py" (suffixed_paths.mpr (.inl rfl)) ".#test/b.py"
    (suffixed_paths.mpr (.inr rfl)) (by decide) (by decide)
    ((suffixed_key (suffixed_paths.mpr (.inl rfl))).trans
      (suffixed_key (suffixed_paths.mpr (.inr rfl))).symm)

end SampleAnalysis

end CodeMigrator
