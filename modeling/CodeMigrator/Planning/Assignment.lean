import CodeMigrator.Lib.Sequence
import CodeMigrator.Planning.Validator

/-!
# Assignment of files and artifacts

In an accepted plan every expected file has one owner and every artifact one task.
A file's owner is found through the module that the owning slice lists, and the
slice kind follows the role of that module; a file that two modules of different
roles share is owned through one of them only.
-/

namespace CodeMigrator
open Lib

section Accepted

variable {isalnum : Char → Bool} {validator : PlanValidator} {proposal : PlanProposal}
  {inputs : PlanningInputs} {module_ : ModuleFact} {path : String}

theorem mem_of_modulesById {analysis : AnalysisResult} {moduleId : ProjectModuleId}
    (found : (modulesById analysis).get? moduleId = some module_) :
    module_ ∈ analysis.modules ∧ module_.moduleId = moduleId := by
  have member := Dict.mem_of_get?_ofPairs found
  obtain ⟨fact, isModule, equal⟩ := List.mem_map.mp member
  obtain ⟨rfl, rfl⟩ := Prod.mk.inj equal
  exact ⟨isModule, rfl⟩

theorem mem_ownerships {analysis : AnalysisResult} {owner : Ownership}
    (member : owner ∈ ownerships proposal (modulesById analysis) path) :
    owner.slice ∈ proposal.slices ∧ owner.slice.kind.translates = true ∧
      owner.module_.moduleId ∈ owner.slice.sourceModules ∧
      (modulesById analysis).get? owner.module_.moduleId = some owner.module_ ∧
      path ∈ owner.module_.filePaths := by
  simp only [ownerships, List.mem_flatMap, List.mem_filter] at member
  obtain ⟨slice, ⟨inPlan, translates⟩, moduleId, listed, inModule⟩ := member
  cases found : (modulesById analysis).get? moduleId with
  | none => simp [found] at inModule
  | some module_ =>
    simp only [found, List.mem_map, List.mem_filter, decide_eq_true_eq] at inModule
    obtain ⟨_, ⟨hasFile, rfl⟩, rfl⟩ := inModule
    have same := (mem_of_modulesById found).2
    refine ⟨inPlan, translates, ?_, ?_, hasFile⟩
    · rw [same]
      exact listed
    · rw [same]
      exact found

theorem Accepted.role_matches (accepted : Accepted isalnum validator proposal inputs)
    {slice : PlanSliceProposal} {moduleId : ProjectModuleId} {role : ModuleRole}
    (inPlan : slice ∈ proposal.slices) (listed : moduleId ∈ slice.sourceModules)
    (found : (modulesById inputs.analysis).get? moduleId = some module_)
    (expected : slice.kind.expectedRole = some role) : module_.role = role := by
  have silent := accepted.sliceModules
  unfold validateSliceModules at silent
  rw [List.flatMap_eq_nil_iff] at silent
  obtain ⟨i, atSlice⟩ := List.mem_iff_getElem?.mp inPlan
  have quietSlice := silent (slice, i) (List.mem_zipIdx_iff_getElem?.mpr atSlice)
  rw [List.flatMap_eq_nil_iff] at quietSlice
  obtain ⟨j, atModule⟩ := List.mem_iff_getElem?.mp listed
  have quiet := quietSlice (moduleId, j) (List.mem_zipIdx_iff_getElem?.mpr atModule)
  simp only [sliceModuleViolations, found, expected, List.append_eq_nil_iff] at quiet
  by_contra different
  rw [if_pos different] at quiet
  exact absurd quiet.1.1 (by simp)

/-- The kind of the slices that translate the modules of a role. -/
def ModuleRole.translator : ModuleRole → SliceKind
  | source => .implementation
  | test => .testTranslation

theorem Accepted.translator_matches (accepted : Accepted isalnum validator proposal inputs)
    {owner : Ownership} (member : owner ∈ ownerships proposal (modulesById inputs.analysis) path) :
    owner.slice.kind = owner.module_.role.translator := by
  obtain ⟨inPlan, translates, listed, found, _⟩ := mem_ownerships member
  cases kind : owner.slice.kind with
  | implementation =>
    have role : owner.module_.role = .source :=
      accepted.role_matches inPlan listed found (by rw [kind]; rfl)
    rw [role]
    rfl
  | testTranslation =>
    have role : owner.module_.role = .test :=
      accepted.role_matches inPlan listed found (by rw [kind]; rfl)
    rw [role]
    rfl
  | testGeneration => simp [kind, SliceKind.translates] at translates
  | contract => simp [kind, SliceKind.translates] at translates

theorem mem_inScopeSourceFiles (isModule : module_ ∈ inputs.analysis.modules)
    (role : module_.role = .source ∨ module_.role = .test) (hasFile : path ∈ module_.filePaths)
    (inScope : inputs.scope.includes path = true) (plain : path ∉ artifactPaths inputs.analysis) :
    path ∈ (inScopeSourceFiles inputs).keys := by
  apply Dict.mem_keys_ofPairs
  simp only [List.map_flatMap, List.mem_flatMap, List.mem_filter, List.mem_map,
    Bool.and_eq_true, decide_eq_true_eq]
  exact ⟨module_, ⟨isModule, role⟩, (path, module_.moduleId), ⟨path, ⟨hasFile, inScope, plain⟩, rfl⟩,
    rfl⟩

theorem Accepted.owned_once (accepted : Accepted isalnum validator proposal inputs)
    (expected : path ∈ (inScopeSourceFiles inputs).keys) :
    ∃ owner, ownerships proposal (modulesById inputs.analysis) path = [owner] := by
  have silent := List.filterMap_eq_nil_iff.mp accepted.coverage
  have quiet := silent (path, coverageOf ((ownerships proposal (modulesById inputs.analysis) path).map
    (·.slice.localRef)) path) (List.mem_map.mpr ⟨path, by
      rw [(List.perm_insertionSort _ _).mem_iff]
      exact expected, rfl⟩)
  cases owners : ownerships proposal (modulesById inputs.analysis) path with
  | nil => simp [owners, coverageOf] at quiet
  | cons owner others =>
    cases others with
    | nil => exact ⟨owner, rfl⟩
    | cons second others => simp [owners, coverageOf] at quiet

/-! ## Artifacts -/

theorem Accepted.artifact_guards (accepted : Accepted isalnum validator proposal inputs) :
    (∀ fact ∈ inputs.analysis.artifacts, factViolation (artifactTasksOf proposal) fact = none) ∧
      ∀ item ∈ artifactTasksOf proposal, taskViolation inputs.analysis.artifacts item = none := by
  have silent := accepted.artifacts
  simp only [validateArtifacts, List.append_eq_nil_iff, List.filterMap_eq_nil_iff] at silent
  exact silent

theorem factViolation_none {tasks : List (Nat × Nat × ArtifactTask)} {fact : ArtifactFact}
    (quiet : factViolation tasks fact = none) :
    ∃ item, tasks.filter (fun item => taskMatchesFact item.2.2 fact) = [item] ∧
      item.2.2.kind = fact.artifactKind := by
  unfold factViolation at quiet
  split at quiet
  · rename_i sliceIndex taskIndex task only
    refine ⟨(sliceIndex, taskIndex, task), only, ?_⟩
    by_contra different
    simp [different] at quiet
  · simp at quiet

end Accepted

/-- In an accepted plan every in-scope file of a source or test module that is no
artifact has one owner, counted with repetitions. The owner's kind translates the
role of the module through which it lists the file, and so the role of every module
of the file when these agree. Artifact tasks and analysed artifacts match one to one
and in kind. -/
theorem validate_assigns_once (isalnum : Char → Bool) (validator : PlanValidator)
    (proposal : PlanProposal) (inputs : PlanningInputs)
    (accepted : (validator.validate isalnum proposal inputs).accepted = true) :
    (∀ module_ ∈ inputs.analysis.modules, module_.role = .source ∨ module_.role = .test →
      ∀ path ∈ module_.filePaths, inputs.scope.includes path = true →
        path ∉ artifactPaths inputs.analysis →
        ∃ owner, ownerships proposal (modulesById inputs.analysis) path = [owner] ∧
          owner.slice ∈ proposal.slices ∧ owner.module_ ∈ inputs.analysis.modules ∧
          owner.module_.moduleId ∈ owner.slice.sourceModules ∧ path ∈ owner.module_.filePaths ∧
          owner.slice.kind = owner.module_.role.translator ∧
          ((∀ other ∈ inputs.analysis.modules, path ∈ other.filePaths →
            other.role = module_.role) → owner.slice.kind = module_.role.translator)) ∧
      (∀ item ∈ artifactTasksOf proposal, ∃! i : Nat, ∃ fact,
        inputs.analysis.artifacts[i]? = some fact ∧ taskMatchesFact item.2.2 fact = true) ∧
      (∀ fact ∈ inputs.analysis.artifacts, ∃! item, item ∈ artifactTasksOf proposal ∧
        taskMatchesFact item.2.2 fact = true) ∧
      ∀ item ∈ artifactTasksOf proposal, ∀ fact ∈ inputs.analysis.artifacts,
        taskMatchesFact item.2.2 fact = true → item.2.2.kind = fact.artifactKind := by
  have guards := Accepted.of_validate accepted
  obtain ⟨factGuard, taskGuard⟩ := guards.artifact_guards
  refine ⟨?_, ?_, ?_, ?_⟩
  · intro module_ isModule role path hasFile inScope plain
    obtain ⟨owner, only⟩ :=
      guards.owned_once (mem_inScopeSourceFiles isModule role hasFile inScope plain)
    have member : owner ∈ ownerships proposal (modulesById inputs.analysis) path := by
      rw [only]
      exact List.mem_singleton_self owner
    obtain ⟨inPlan, _, listed, found, inOwner⟩ := mem_ownerships member
    have known := (mem_of_modulesById found).1
    have kind := guards.translator_matches member
    refine ⟨owner, only, inPlan, known, listed, inOwner, kind, ?_⟩
    intro agree
    rw [kind, agree owner.module_ known inOwner]
  · intro item member
    have quiet := taskGuard item member
    apply unique_position_of_filter
    by_contra different
    simp [taskViolation, different] at quiet
  · intro fact member
    obtain ⟨item, only, _⟩ := factViolation_none (factGuard fact member)
    have isOnly := mem_of_filter_singleton only
    exact ⟨item, (isOnly item).mpr rfl, fun other matching => (isOnly other).mp matching⟩
  · intro item inPlan fact member matching
    obtain ⟨task, only, kind⟩ := factViolation_none (factGuard fact member)
    have same := (mem_of_filter_singleton only item).mp ⟨inPlan, matching⟩
    rw [same, kind]

/-! ### A file that a source and a test module share -/

namespace SharedFile

def sourceModule : ModuleFact := ⟨⟨1⟩, ["a.go"], .source⟩
def testModule : ModuleFact := ⟨⟨2⟩, ["a.go"], .test⟩

def inputs : PlanningInputs :=
  { scope := ⟨["a.go"], []⟩
    targetProjectBlueprint := ⟨[], []⟩
    analysis := ⟨[sourceModule, testModule], [], [], [⟨⟨"go.mod", by decide⟩, .resourceFile, none⟩]⟩
    snapshotOid := "s0"
    limits := .default }

def copyTask : ArtifactTask :=
  ⟨.resourceFile, .copy, ⟨"go.mod", by decide⟩, ⟨"go.mod", by decide⟩, none, rfl⟩

def slice : PlanSliceProposal :=
  ⟨"R", .implementation, [⟨1⟩], [⟨"a.py", by decide⟩], [], [], [copyTask], by decide⟩

def proposal : PlanProposal := ⟨[slice], [], ⟨[("R", 0)], by decide⟩, by decide⟩

theorem accepted :
    ((PlanValidator.mk none).validate (fun _ => false) proposal inputs).accepted = true := by
  decide

end SharedFile

open SharedFile in
/-- The file of the test module is owned by an implementation slice, which reaches it
through the source module. -/
theorem validate_assigns_shared_file :
    ((PlanValidator.mk none).validate (fun _ => false) proposal inputs).accepted = true ∧
      testModule ∈ inputs.analysis.modules ∧ testModule.role = .test ∧
      "a.go" ∈ testModule.filePaths ∧ inputs.scope.includes "a.go" = true ∧
      "a.go" ∉ artifactPaths inputs.analysis ∧
      ownerships proposal (modulesById inputs.analysis) "a.go" = [⟨slice, sourceModule⟩] ∧
      slice.kind ≠ .testTranslation := by
  refine ⟨accepted, ?_, rfl, ?_, ?_, ?_, ?_, ?_⟩ <;> decide

open SharedFile in
theorem validate_assigns_once_shared :
    (∃ owner, ownerships proposal (modulesById inputs.analysis) "a.go" = [owner] ∧
      owner.slice.kind = owner.module_.role.translator) ∧
      ∀ fact ∈ inputs.analysis.artifacts, ∃! item, item ∈ artifactTasksOf proposal ∧
        taskMatchesFact item.2.2 fact = true := by
  obtain ⟨files, _, artifacts, _⟩ := validate_assigns_once _ _ proposal inputs accepted
  obtain ⟨owner, only, _, _, _, _, kind, _⟩ := files sourceModule (by decide) (Or.inl rfl) "a.go"
    (by decide) (by decide) (by decide)
  exact ⟨⟨owner, only, kind⟩, artifacts⟩

end CodeMigrator
