import CodeMigrator.Lib.Lines
import CodeMigrator.Planning.Derivation

/-!
# Files of a derived plan

Which files of the analysed modules a derived proposal keeps, and when the target paths that it
assigns to them are distinct.
-/

namespace CodeMigrator
open Lib

/-- The slice translates the module: it lists it, and its kind is for the module's role. -/
def PlanSliceProposal.Owns (slice : PlanSliceProposal) (module_ : ModuleFact) : Prop :=
  slice.kind.translates = true ∧ slice.kind.expectedRole = some module_.role ∧
    module_.moduleId ∈ slice.sourceModules

/-- The test modules that get a slice. -/
def translatedTests (inputs : PlanningInputs) : List ModuleFact :=
  (modulesOf inputs .test).filter fun module_ =>
    module_.moduleId ∈ coveredTestModules inputs.analysis (modulesOf inputs .test)

/-- The slice was built for the module. -/
inductive BuiltFor (inputs : PlanningInputs) : PlanSliceProposal → ModuleFact → Prop where
  | implementation {named : ModuleFact × String} {slice : PlanSliceProposal}
      (member : named ∈ namedSources inputs) (built : implementationSlice named = .ok slice) :
      BuiltFor inputs slice named.1
  | translation {module_ : ModuleFact} {slice : PlanSliceProposal}
      (member : module_ ∈ translatedTests inputs) (built : testTranslationSlice module_ = .ok slice) :
      BuiltFor inputs slice module_

/-- The proposal assigns the target path to the file: it is a write path of the slice that was
built for the file's module. -/
def Assigned (inputs : PlanningInputs) (proposal : PlanProposal) (file target : String) : Prop :=
  ∃ slice ∈ proposal.slices, ∃ module_, BuiltFor inputs slice module_ ∧ file ∈ module_.filePaths ∧
    target ∈ slice.writePaths.map (·.text) ∧
      ∃ root ∈ slice.createRoots, target = targetBelow root.text file

/-- Every file is owned by a slice, and distinct files are assigned distinct target paths. -/
structure KeepsFiles (inputs : PlanningInputs) (proposal : PlanProposal) : Prop where
  owned : ∀ module_ ∈ inputs.analysis.modules, ∀ _file ∈ module_.filePaths,
    ∃ slice ∈ proposal.slices, slice.Owns module_
  distinct : ∀ file other target, Assigned inputs proposal file target →
    Assigned inputs proposal other target → file = other

/-- Every test module with files has a covered test file and an id of its own among the test
modules, and the files of a module differ in their last components. -/
structure Derivable (inputs : PlanningInputs) : Prop where
  tested : ∀ module_ ∈ inputs.analysis.modules, module_.role = .test → module_.filePaths ≠ [] →
    (∃ entry ∈ inputs.analysis.coverage, entry.testFile ∈ module_.filePaths) ∧
      inputs.analysis.modules.filter
        (fun other => other.role = .test ∧ other.moduleId = module_.moduleId) = [module_]
  components : ∀ module_ ∈ inputs.analysis.modules, ∀ file ∈ module_.filePaths,
    ∀ other ∈ module_.filePaths, lastComponent file = lastComponent other → file = other

/-! ## Paths -/

theorem lastComponent_of_targetBelow (root path : String) :
    (targetBelow root path).toList.reverse.takeWhile (· != '/') = (lastComponent path).toList.reverse := by
  rw [targetBelow, String.toList_append, String.toList_append, List.reverse_append,
    List.reverse_append]
  refine takeWhile_run ?_ (by simp)
  intro c member
  rw [List.mem_reverse, lastComponent, String.toList_ofList, List.mem_reverse] at member
  exact List.mem_takeWhile_imp (p := fun c => c != '/') member

theorem targetBelow_inj {root other file path : String}
    (same : targetBelow root file = targetBelow other path) :
    root = other ∧ lastComponent file = lastComponent path := by
  have last : lastComponent file = lastComponent path := by
    have ends := lastComponent_of_targetBelow root file
    rw [same, lastComponent_of_targetBelow] at ends
    exact String.toList_injective (List.reverse_injective ends.symm)
  rw [targetBelow, targetBelow, last, String.append_left_inj, String.append_left_inj] at same
  exact ⟨same, last⟩

/-! ## Slices -/

/-- What a built slice has of the values that it was built of. -/
structure Builds (localRef : String) (kind : SliceKind) (sourceModules : List ProjectModuleId)
    (writePaths createRoots : List String) (slice : PlanSliceProposal) : Prop where
  named : slice.localRef = localRef
  ofKind : slice.kind = kind
  lists : slice.sourceModules = sourceModules
  written : ∀ path ∈ writePaths, path ∈ slice.writePaths.map (·.text)
  rooted : ∀ path, path ∈ slice.createRoots.map (·.text) ↔ path ∈ createRoots

theorem map_text_of_validated {paths : List String} {valid : List RepoRelativePath}
    (done : paths.mapM validatePath = .ok valid) (path : String) :
    path ∈ (normalizePaths valid).map (·.text) ↔ path ∈ paths := by
  have text : ∀ {path : String} {checked : RepoRelativePath},
      validatePath path = .ok checked → checked.text = path := by
    intro path checked done
    unfold validatePath at done
    split at done <;> cases done
    rfl
  simp only [normalizePaths, List.mem_map, List.mem_insertionSort, List.mem_dedup]
  constructor
  · rintro ⟨checked, member, rfl⟩
    obtain ⟨origin, inPaths, found⟩ := mapM_origin done member
    rw [text found]
    exact inPaths
  · intro member
    obtain ⟨checked, inValid, found⟩ := mapM_result done member
    exact ⟨checked, inValid, text found⟩

theorem buildSlice_ok {localRef : String} {kind : SliceKind} {sourceModules : List ProjectModuleId}
    {writePaths createRoots : List String} {artifactTasks : List ArtifactTask}
    {slice : PlanSliceProposal}
    (built : buildSlice localRef kind sourceModules writePaths createRoots artifactTasks = .ok slice) :
    Builds localRef kind sourceModules writePaths createRoots slice := by
  unfold buildSlice at built
  split at built
  · obtain ⟨paths, validPaths, rest⟩ := except_bind_eq_ok built
    obtain ⟨roots, validRoots, result⟩ := except_bind_eq_ok rest
    cases result
    exact ⟨rfl, rfl, rfl, fun path => (map_text_of_validated validPaths path).mpr,
      map_text_of_validated validRoots⟩
  · cases built

/-- A built slice of a module assigns every file of it a target path below its root. -/
structure Targets (slice : PlanSliceProposal) (module_ : ModuleFact) (localRef root : String) : Prop where
  owns : slice.Owns module_
  named : slice.localRef = localRef
  written : ∀ file ∈ module_.filePaths, targetBelow root file ∈ slice.writePaths.map (·.text)
  rooted : ∀ path, path ∈ slice.createRoots.map (·.text) ↔ path = root

theorem Builds.targets {localRef root : String} {kind : SliceKind} {module_ : ModuleFact}
    {slice : PlanSliceProposal}
    (builds : Builds localRef kind [module_.moduleId] (targetPaths module_.filePaths root) [root] slice)
    (translates : kind.translates = true) (role : kind.expectedRole = some module_.role) :
    Targets slice module_ localRef root := by
  constructor
  · refine ⟨builds.ofKind ▸ translates, builds.ofKind ▸ role, ?_⟩
    rw [builds.lists]
    exact List.mem_singleton_self _
  · exact builds.named
  · intro file member
    refine builds.written _ (List.mem_map_of_mem ?_)
    rwa [List.mem_insertionSort]
  · intro path
    rw [builds.rooted, List.mem_singleton]

/-! ## The parts of a derived proposal -/

section Derived

variable {inputs : PlanningInputs} {proposal : PlanProposal} {module_ : ModuleFact}
  {named : ModuleFact × String} {slice : PlanSliceProposal}

theorem mem_modulesOf {role : ModuleRole} :
    module_ ∈ modulesOf inputs role ↔ module_ ∈ inputs.analysis.modules ∧ module_.role = role ∧
      moduleIsInScope inputs module_ = true := by
  simp [modulesOf, List.mem_filter, List.mem_insertionSort]

theorem length_normalizeGroupNamesWith (fold : String → String) (counts : Dict String Nat)
    (values : List String) :
    (normalizeGroupNamesWith fold counts values).length = values.length := by
  induction values generalizing counts with
  | nil => rfl
  | cons value rest ih => rw [normalizeGroupNamesWith, List.length_cons, ih, List.length_cons]

theorem map_fst_namedSources : (namedSources inputs).map Prod.fst = modulesOf inputs .source := by
  rw [namedSources, List.map_fst_zip]
  simp [normalizeGroupNames, length_normalizeGroupNamesWith]

theorem role_of_named (member : named ∈ namedSources inputs) : named.1.role = .source := by
  have listed : named.1 ∈ modulesOf inputs .source := by
    rw [← map_fst_namedSources]
    exact List.mem_map_of_mem member
  exact (mem_modulesOf.mp listed).2.1

theorem implementation_targets (member : named ∈ namedSources inputs)
    (built : implementationSlice named = .ok slice) :
    Targets slice named.1 ("I-" ++ named.2) ("target/src/" ++ named.2) :=
  (buildSlice_ok built).targets rfl (by rw [role_of_named member]; rfl)

theorem role_of_translated (member : module_ ∈ translatedTests inputs) : module_.role = .test :=
  (mem_modulesOf.mp (List.mem_filter.mp member).1).2.1

theorem translation_targets (member : module_ ∈ translatedTests inputs)
    (built : testTranslationSlice module_ = .ok slice) :
    Targets slice module_ ("TT-" ++ normalizeGroupName module_.moduleId.str)
      ("target/tests/" ++ normalizeGroupName module_.moduleId.str) :=
  (buildSlice_ok built).targets rfl (by rw [role_of_translated member]; rfl)

theorem BuiltFor.listed (built : BuiltFor inputs slice module_) :
    module_ ∈ inputs.analysis.modules := by
  cases built with
  | @implementation named _ member _ =>
    have source : named.1 ∈ modulesOf inputs .source := by
      rw [← map_fst_namedSources]
      exact List.mem_map_of_mem member
    exact (mem_modulesOf.mp source).1
  | translation member _ => exact (mem_modulesOf.mp (List.mem_filter.mp member).1).1

/-- The slices of a derived proposal. -/
structure Derives (inputs : PlanningInputs) (proposal : PlanProposal)
    (implementations translations others : List PlanSliceProposal) : Prop where
  implemented : (namedSources inputs).mapM implementationSlice = .ok implementations
  translated : (translatedTests inputs).mapM testTranslationSlice = .ok translations
  idle : ∀ slice ∈ others, slice.kind.translates = false
  slices : proposal.slices.Perm (implementations ++ translations ++ others)

theorem derivePlanProposal_ok (derived : derivePlanProposal inputs = .ok proposal) :
    ∃ implementations translations others,
      Derives inputs proposal implementations translations others := by
  unfold derivePlanProposal at derived
  obtain ⟨tasks, -, derived⟩ := except_bind_eq_ok derived
  obtain ⟨contracts, contracted, derived⟩ := except_bind_eq_ok derived
  obtain ⟨implementations, implemented, derived⟩ := except_bind_eq_ok derived
  obtain ⟨translations, translated, derived⟩ := except_bind_eq_ok derived
  obtain ⟨generations, generated, derived⟩ := except_bind_eq_ok derived
  refine ⟨implementations, translations, contracts ++ generations, implemented, translated, ?_, ?_⟩
  · intro slice member
    rcases List.mem_append.mp member with contract | generation
    · unfold contractSlices at contracted
      split at contracted
      · cases contracted
        cases contract
      · obtain ⟨built, done, rfl⟩ := except_map_eq_ok contracted
        obtain rfl := List.mem_singleton.mp contract
        rw [(buildSlice_ok done).ofKind]
        rfl
    · obtain ⟨named, -, done⟩ := mapM_origin generated generation
      rw [(buildSlice_ok done).ofKind]
      rfl
  · unfold proposalOf at derived
    split at derived
    · cases derived
      simpa only [List.append_assoc] using
        List.perm_append_comm_assoc contracts (implementations ++ translations) generations
    · cases derived

section Parts

variable {implementations translations others : List PlanSliceProposal} {module_ : ModuleFact}

section

variable (derives : Derives inputs proposal implementations translations others)
include derives

theorem Derives.owner (member : slice ∈ proposal.slices) (test : module_.role = .test)
    (owns : slice.Owns module_) :
    ∃ translated ∈ translatedTests inputs, translated.moduleId = module_.moduleId := by
  rw [derives.slices.mem_iff, List.mem_append, List.mem_append] at member
  obtain ⟨translates, role, listed⟩ := owns
  rw [test] at role
  rcases member with (implementation | translation) | other
  · obtain ⟨named, -, done⟩ := mapM_origin derives.implemented implementation
    rw [(buildSlice_ok done).ofKind] at role
    cases role
  · obtain ⟨translated, inTests, done⟩ := mapM_origin derives.translated translation
    rw [(buildSlice_ok done).lists, List.mem_singleton] at listed
    exact ⟨translated, inTests, listed.symm⟩
  · rw [derives.idle slice other] at translates
    cases translates

theorem Derives.names_nodup :
    ((namedSources inputs).map Prod.snd).Nodup ∧
      ((translatedTests inputs).map fun module_ => normalizeGroupName module_.moduleId.str).Nodup := by
  have unique := (derives.slices.map (·.localRef)).nodup_iff.mp proposal.localRefsAreUnique
  rw [List.map_append, List.map_append] at unique
  obtain ⟨first, second, -⟩ := List.nodup_append.mp (List.nodup_append.mp unique).1
  have sources : implementations.map (·.localRef) =
      ((namedSources inputs).map Prod.snd).map ("I-" ++ ·) := by
    rw [List.map_map]
    exact mapM_map derives.implemented fun done => (buildSlice_ok done).named
  have tests : translations.map (·.localRef) = ((translatedTests inputs).map
      fun module_ => normalizeGroupName module_.moduleId.str).map ("TT-" ++ ·) := by
    rw [List.map_map]
    exact mapM_map derives.translated fun done => (buildSlice_ok done).named
  exact ⟨.of_map _ (sources ▸ first), .of_map _ (tests ▸ second)⟩

theorem Derives.built (gets : module_ ∈ modulesOf inputs .source ∨ module_ ∈ translatedTests inputs) :
    ∃ slice ∈ proposal.slices, ∃ localRef root, BuiltFor inputs slice module_ ∧
      Targets slice module_ localRef root := by
  rcases gets with source | test
  · rw [← map_fst_namedSources] at source
    obtain ⟨named, member, rfl⟩ := List.mem_map.mp source
    obtain ⟨slice, built, done⟩ := mapM_result derives.implemented member
    refine ⟨slice, ?_, _, _, .implementation member done, implementation_targets member done⟩
    rw [derives.slices.mem_iff]
    simp [built]
  · obtain ⟨slice, built, done⟩ := mapM_result derives.translated test
    refine ⟨slice, ?_, _, _, .translation test done, translation_targets test done⟩
    rw [derives.slices.mem_iff]
    simp [built]

theorem Derives.root_inj {other : PlanSliceProposal} {another : ModuleFact}
    (built : BuiltFor inputs slice module_) (also : BuiltFor inputs other another) {root : String}
    (rooted : root ∈ slice.createRoots.map (·.text))
    (shared : root ∈ other.createRoots.map (·.text)) : module_ = another := by
  obtain ⟨sources, tests⟩ := derives.names_nodup
  cases built with
  | implementation member done =>
    rw [(implementation_targets member done).rooted] at rooted
    cases also with
    | implementation second again =>
      rw [(implementation_targets second again).rooted, rooted, String.append_right_inj] at shared
      exact congrArg Prod.fst (List.inj_on_of_nodup_map sources member second shared)
    | translation second again =>
      rw [(translation_targets second again).rooted, rooted] at shared
      have lists := congrArg String.toList shared
      simp [String.toList_append] at lists
  | translation member done =>
    rw [(translation_targets member done).rooted] at rooted
    cases also with
    | implementation second again =>
      rw [(implementation_targets second again).rooted, rooted] at shared
      have lists := congrArg String.toList shared
      simp [String.toList_append] at lists
    | translation second again =>
      rw [(translation_targets second again).rooted, rooted, String.append_right_inj] at shared
      exact List.inj_on_of_nodup_map tests member second shared

end

end Parts

/-! ## Covered test modules -/

theorem mem_coveredTestModules {analysis : AnalysisResult} {testModules : List ModuleFact}
    {moduleId : ProjectModuleId} :
    moduleId ∈ coveredTestModules analysis testModules ↔ ∃ entry ∈ analysis.coverage, ∃ paths,
      (Dict.ofPairs (testModules.map fun module_ => (module_.moduleId, module_.filePaths))).get?
        moduleId = some paths ∧ entry.testFile ∈ paths := by
  simp only [coveredTestModules, List.mem_flatMap, List.mem_map, List.mem_filter,
    decide_eq_true_eq]
  constructor
  · rintro ⟨entry, covers, item, ⟨member, listed⟩, rfl⟩
    exact ⟨entry, covers, item.2, (Dict.get?_eq_some_iff _ _ _).mpr member, listed⟩
  · rintro ⟨entry, covers, paths, found, listed⟩
    exact ⟨entry, covers, (moduleId, paths), ⟨(Dict.get?_eq_some_iff _ _ _).mp found, listed⟩, rfl⟩

section

variable (inScope : ∀ module_ ∈ inputs.analysis.modules, moduleIsInScope inputs module_ = true)
include inScope

theorem tests_of_id (moduleId : ProjectModuleId) :
    ((modulesOf inputs .test).filter fun other => other.moduleId = moduleId).Perm
      (inputs.analysis.modules.filter fun other => other.role = .test ∧ other.moduleId = moduleId) := by
  rw [modulesOf, List.filter_filter]
  refine ((List.perm_insertionSort _ _).filter _).trans (.of_eq (List.filter_congr ?_))
  intro other member
  simp [inScope other member, Bool.and_comm]

/-- A test module with files is covered exactly if a test file of it is, and no other test module
has its id. -/
theorem translated_iff
    (unique : ((translatedTests inputs).map fun module_ =>
      normalizeGroupName module_.moduleId.str).Nodup) (member : module_ ∈ modulesOf inputs .test) :
    module_ ∈ translatedTests inputs ↔
      (∃ entry ∈ inputs.analysis.coverage, entry.testFile ∈ module_.filePaths) ∧
        inputs.analysis.modules.filter
          (fun other => other.role = .test ∧ other.moduleId = module_.moduleId) = [module_] := by
  have perm := tests_of_id inScope module_.moduleId
  constructor
  · intro translated
    obtain ⟨-, covered⟩ := List.mem_filter.mp translated
    have sharing : ∀ other ∈ modulesOf inputs .test, other.moduleId = module_.moduleId → other = module_ := by
      intro other inTests same
      have also : other ∈ translatedTests inputs := List.mem_filter.mpr ⟨inTests, same ▸ covered⟩
      exact List.inj_on_of_nodup_map unique also translated (by rw [same])
    constructor
    · obtain ⟨entry, covers, paths, found, listed⟩ :=
        mem_coveredTestModules.mp (of_decide_eq_true covered)
      obtain ⟨other, inTests, same⟩ := List.mem_map.mp (Dict.mem_of_get?_ofPairs found)
      obtain ⟨sameId, rfl⟩ := Prod.mk.inj same
      exact ⟨entry, covers, sharing other inTests sameId ▸ listed⟩
    · have same : (modulesOf inputs .test).filter (fun other => other.moduleId = module_.moduleId) =
          (translatedTests inputs).filter fun other => other.moduleId = module_.moduleId := by
        rw [translatedTests, List.filter_filter]
        apply List.filter_congr
        intro other _
        by_cases sameId : other.moduleId = module_.moduleId
        · rw [sameId, covered]
          simp
        · simp [sameId]
      have once : ((modulesOf inputs .test).filter
          fun other => other.moduleId = module_.moduleId).Nodup :=
        same ▸ (List.Nodup.of_map _ unique).filter _
      refine List.perm_singleton.mp (perm.symm.trans
        ((List.perm_ext_iff_of_nodup once (List.nodup_singleton _)).mpr fun other => ?_))
      rw [List.mem_filter, decide_eq_true_eq, List.mem_singleton]
      constructor
      · rintro ⟨inTests, sameId⟩
        exact sharing other inTests sameId
      · rintro rfl
        exact ⟨member, rfl⟩
  · rintro ⟨⟨entry, covers, listed⟩, alone⟩
    rw [alone] at perm
    refine List.mem_filter.mpr ⟨member, decide_eq_true (mem_coveredTestModules.mpr ?_)⟩
    have key : module_.moduleId ∈ (Dict.ofPairs ((modulesOf inputs .test).map fun module_ =>
        (module_.moduleId, module_.filePaths))).keys := by
      apply Dict.mem_keys_ofPairs
      rw [List.map_map]
      exact List.mem_map_of_mem member
    obtain ⟨paths, found⟩ := (Dict.mem_keys_iff _ _).mp key
    obtain ⟨other, inTests, same⟩ := List.mem_map.mp (Dict.mem_of_get?_ofPairs found)
    obtain ⟨sameId, rfl⟩ := Prod.mk.inj same
    have isModule : other = module_ :=
      List.mem_singleton.mp (perm.mem_iff.mp (List.mem_filter.mpr ⟨inTests, decide_eq_true sameId⟩))
    exact ⟨entry, covers, other.filePaths, found, isModule ▸ listed⟩

theorem listed_of_role (member : module_ ∈ inputs.analysis.modules) {role : ModuleRole}
    (hasRole : module_.role = role) : module_ ∈ modulesOf inputs role :=
  mem_modulesOf.mpr ⟨member, hasRole, inScope module_ member⟩

end

theorem KeepsFiles.derivable (keeps : KeepsFiles inputs proposal)
    (derived : derivePlanProposal inputs = .ok proposal)
    (inScope : ∀ module_ ∈ inputs.analysis.modules, moduleIsInScope inputs module_ = true) :
    Derivable inputs := by
  obtain ⟨implementations, translations, others, derives⟩ := derivePlanProposal_ok derived
  have tested : ∀ module_ ∈ inputs.analysis.modules, module_.role = .test → module_.filePaths ≠ [] →
      module_ ∈ translatedTests inputs := by
    intro module_ member test some
    obtain ⟨file, inFiles⟩ := List.exists_mem_of_ne_nil _ some
    obtain ⟨slice, inSlices, owns⟩ := keeps.owned module_ member file inFiles
    obtain ⟨other, inTests, same⟩ := derives.owner inSlices test owns
    refine List.mem_filter.mpr ⟨listed_of_role inScope member test, ?_⟩
    rw [← same]
    exact (List.mem_filter.mp inTests).2
  constructor
  · intro module_ member test some
    exact (translated_iff inScope derives.names_nodup.2 (listed_of_role inScope member test)).mp
      (tested module_ member test some)
  · intro module_ member file inFiles other alsoIn same
    have gets : module_ ∈ modulesOf inputs .source ∨ module_ ∈ translatedTests inputs := by
      cases role : module_.role with
      | source => exact .inl (listed_of_role inScope member role)
      | test => exact .inr (tested module_ member role (List.ne_nil_of_mem inFiles))
    obtain ⟨slice, inSlices, localRef, root, built, targets⟩ := derives.built gets
    obtain ⟨rootPath, inRoots, rfl⟩ := List.mem_map.mp ((targets.rooted root).mpr rfl)
    have shared : targetBelow rootPath.text file = targetBelow rootPath.text other := by
      rw [targetBelow, targetBelow, same]
    refine keeps.distinct file other (targetBelow rootPath.text file) ?_ ?_
    · exact ⟨slice, inSlices, module_, built, inFiles, targets.written file inFiles, rootPath,
        inRoots, rfl⟩
    · exact ⟨slice, inSlices, module_, built, alsoIn, targets.written file inFiles, rootPath,
        inRoots, shared⟩

theorem Derivable.keepsFiles (derivable : Derivable inputs)
    (derived : derivePlanProposal inputs = .ok proposal)
    (inScope : ∀ module_ ∈ inputs.analysis.modules, moduleIsInScope inputs module_ = true) :
    KeepsFiles inputs proposal := by
  obtain ⟨implementations, translations, others, derives⟩ := derivePlanProposal_ok derived
  constructor
  · intro module_ member file inFiles
    have gets : module_ ∈ modulesOf inputs .source ∨ module_ ∈ translatedTests inputs := by
      cases role : module_.role with
      | source => exact .inl (listed_of_role inScope member role)
      | test =>
        exact .inr ((translated_iff inScope derives.names_nodup.2
          (listed_of_role inScope member role)).mpr
            (derivable.tested module_ member role (List.ne_nil_of_mem inFiles)))
    obtain ⟨slice, inSlices, _, _, -, targets⟩ := derives.built gets
    exact ⟨slice, inSlices, targets.owns⟩
  · rintro file other target ⟨slice, -, module_, built, inFiles, -, root, rooted, rfl⟩
      ⟨_, -, another, also, alsoIn, -, otherRoot, otherRooted, same⟩
    obtain ⟨sameRoot, last⟩ := targetBelow_inj same
    obtain rfl := derives.root_inj built also (List.mem_map_of_mem rooted)
      (sameRoot ▸ List.mem_map_of_mem otherRooted)
    exact derivable.components module_ built.listed file inFiles other alsoIn last

/-- A derived proposal keeps every file exactly where every test module with files is covered and
the files of a module differ in their last components. -/
theorem derived_keepsFiles_iff (derived : derivePlanProposal inputs = .ok proposal)
    (inScope : ∀ module_ ∈ inputs.analysis.modules, moduleIsInScope inputs module_ = true) :
    KeepsFiles inputs proposal ↔ Derivable inputs :=
  ⟨fun keeps => keeps.derivable derived inScope, fun derivable => derivable.keepsFiles derived inScope⟩

end Derived

/-! ## Two files of a name -/

namespace SampleDerivation

def fact : ModuleFact := ⟨⟨1⟩, ["src/a/x.ts", "src/b/x.ts"], .source⟩

def inputs : PlanningInputs :=
  { scope := ⟨["src/"], []⟩
    targetProjectBlueprint := ⟨[], []⟩
    analysis := ⟨[fact], [], [], []⟩
    snapshotOid := "s0"
    limits := .default }

theorem derived : ∃ proposal, derivePlanProposal inputs = .ok proposal := by
  have returns : (derivePlanProposal inputs).toOption.isSome = true := by decide +kernel
  cases result : derivePlanProposal inputs with
  | error => simp [result, Except.toOption] at returns
  | ok proposal => exact ⟨proposal, rfl⟩

theorem derived_keepsFiles_sample : ∃ proposal, derivePlanProposal inputs = .ok proposal ∧
    (KeepsFiles inputs proposal ↔ Derivable inputs) := by
  obtain ⟨proposal, done⟩ := derived
  exact ⟨proposal, done, derived_keepsFiles_iff done (by decide)⟩

/-- Two files of one name in two directories of a module get one target path. -/
theorem derived_targets_clash : ¬ ∀ (inputs : PlanningInputs) (proposal : PlanProposal),
    derivePlanProposal inputs = .ok proposal →
      (∀ module_ ∈ inputs.analysis.modules, moduleIsInScope inputs module_ = true) →
      inputs.analysis.modules.Pairwise (fun left right => left.filePaths.Disjoint right.filePaths) →
      KeepsFiles inputs proposal := by
  intro all
  obtain ⟨proposal, done⟩ := derived
  have keeps := all inputs proposal done (by decide) (List.pairwise_singleton _ _)
  have same := (keeps.derivable done (by decide)).components fact (by decide) "src/a/x.ts" (by decide)
    "src/b/x.ts" (by decide) (by decide)
  exact absurd same (by decide)

end SampleDerivation

end CodeMigrator
