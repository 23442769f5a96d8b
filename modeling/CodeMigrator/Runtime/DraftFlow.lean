import CodeMigrator.Runtime.DomainSkeleton
import CodeMigrator.Runtime.DraftRestore

/-!
# The flow of a Draft

`DraftFlow` of `runtime/draft.py`: exploration, alignment, drafting, calibration and confirmation.
A method that raises leaves the flow as it was. `new_uuid7()` is an argument of the operations that
make a revision.
-/

namespace CodeMigrator
open Lib

/-- `DraftStage`. -/
inductive DraftStage where
  | explore | align | draft | calibrate | confirmed
  deriving DecidableEq, Repr

/-- The place of a stage in the flow. -/
def DraftStage.rank : DraftStage → Nat
  | explore => 0
  | align => 1
  | draft => 2
  | calibrate => 3
  | confirmed => 4

/-! ## What the flow keeps -/

/-- `ExplorationReport`, what the flow reads of it. -/
structure ExplorationReport where
  domainPath : String
  coverage : List String
  unresolvedConflictCount : Nat
  domainPathIsSafe : domainPath = "." ∨ isRepoRelative domainPath = true
  coverageIsSafe : coverage.all isRepoRelative = true
  covers : coverage ≠ []

/-- The operations of `ExploreReassignment`. -/
inductive ReassignmentOp where
  | merge | split | refocus
  deriving DecidableEq, Repr

/-- `ExploreReassignment`; `focusPaths` are the domain paths of its brief. -/
structure ExploreReassignment where
  op : ReassignmentOp
  domainPaths : List String
  focusPaths : List String

/-- `ExplorationMerge`. -/
structure ExplorationMerge where
  reports : List ExplorationReport
  coverage : CoverageResult
  unresolvedConflictCount : Nat

/-- `TrialTranslation`. -/
structure TrialTranslation where
  filePath : String
  constrainedOutput : String
  freeformOutput : String
  filePathIsSafe : isRepoRelative filePath = true
  constrained : constrainedOutput ≠ ""
  freeform : freeformOutput ≠ ""

/-- The exceptions of the flow. -/
inductive FlowError where
  | wrongStage (expected got : DraftStage)
  | conflict (message : String)
  | outsideDomain (domainPath : String)
  | inexact (coverage : CoverageResult)
  | value (message : String)
  | skeleton (error : SkeletonError)
  | ledger (error : DraftError)

/-- `DraftFlow`. -/
structure DraftFlow where
  ledger : DraftLedger
  stage : DraftStage
  moduleFiles : Option (Dict String (List String))
  maxFanout : Int
  reports : List ExplorationReport
  reassignments : List ExploreReassignment
  mergedExploration : Option ExplorationMerge
  trialResults : List TrialTranslation

namespace DraftFlow

/-- `DraftFlow(ledger, module_files=..., max_fanout=...)`. -/
def create (ledger : Option DraftLedger) (moduleFiles : Option (Dict String (List String)))
    (maxFanout : Int) : Except FlowError DraftFlow :=
  if maxFanout < 1 then .error (.value "max_fanout must be a positive integer")
  else .ok ⟨ledger.getD .empty, .explore, moduleFiles, maxFanout, [], [], none, []⟩

/-- `_require_stage`. -/
def requireStage (flow : DraftFlow) (expected : DraftStage) : Except FlowError Unit :=
  if flow.stage = expected then .ok () else .error (.wrongStage expected flow.stage)

/-- `self._module_files or {...}`. -/
def exploredModules (flow : DraftFlow) : Dict String (List String) :=
  let reported := Dict.ofPairs (flow.reports.map fun report => (report.domainPath, report.coverage))
  match flow.moduleFiles with
  | none => reported
  | some files => if files.entries = [] then reported else files

/-- `build_domain_skeleton(module_files, max_fanout=...)`. -/
def machineSkeleton (flow : DraftFlow) : Except FlowError (List DomainSkeleton) :=
  (buildDomainSkeleton flow.exploredModules 20 flow.maxFanout).mapError .skeleton

/-! ## Exploration -/

/-- `submit_report`. -/
def submitReport (flow : DraftFlow) (report : ExplorationReport) : Except FlowError DraftFlow := do
  flow.requireStage .explore
  return { flow with reports := flow.reports ++ [report] }

/-- `record_reassignment`. -/
def recordReassignment (flow : DraftFlow) (advice : ExploreReassignment) :
    Except FlowError DraftFlow := do
  if flow.stage ≠ .explore ∧ flow.stage ≠ .align then
    .error (.conflict "reassignment is only available during exploration alignment")
  else if flow.maxFanout < advice.focusPaths.length then
    .error (.conflict "reassignment exceeds the configured exploration fanout")
  else if advice.op ≠ .split ∧ ¬ advice.domainPaths ⊆ flow.reports.map (·.domainPath) then
    .error (.conflict "reassignment references an unknown exploration domain")
  else do
    if flow.exploredModules.entries ≠ [] then discard flow.machineSkeleton
    return { flow with reassignments := flow.reassignments ++ [advice] }

/-- A file of the report lies outside its domain. -/
def ExplorationReport.outside (report : ExplorationReport) : Bool :=
  report.coverage.any fun file => report.domainPath ≠ "." && file ≠ report.domainPath &&
    !startsWith file (report.domainPath ++ "/")

/-- `finish_exploration`. -/
def finishExploration (flow : DraftFlow) (expectedFiles : List String) :
    Except FlowError DraftFlow := do
  flow.requireStage .explore
  let domains := (flow.reports.map (·.domainPath)).dedup
  if flow.reports = [] then .error (.conflict "at least one exploration report is required")
  else if flow.maxFanout < domains.length then
    .error (.conflict "exploration fanout exceeds the configured maximum")
  else if domains.length ≠ flow.reports.length then
    .error (.conflict "each exploration domain must have one merged report")
  else
    match flow.reports.find? ExplorationReport.outside with
    | some report => .error (.outsideDomain report.domainPath)
    | none => do
      let expected ← flow.machineSkeleton
      let expectedDomains := expected.map (·.domainPath)
      if ¬ (domains ⊆ expectedDomains ∧ expectedDomains ⊆ domains) then
        .error (.conflict "reports do not match the machine-built domain skeleton")
      else do
        let coverage ← (validateExactCoverage (flow.reports.flatMap (·.coverage))
          expectedFiles).mapError FlowError.skeleton
        if ¬ coverage.valid then .error (.inexact coverage)
        else
          return { flow with
            mergedExploration := some ⟨flow.reports, coverage,
              (flow.reports.map (·.unresolvedConflictCount)).sum⟩
            stage := .align }

/-! ## Artifacts and questions -/

section Ledger

variable (codec : ArtifactCodec) (flow : DraftFlow)

/-- The ledger after an operation of the flow. -/
def performed (fresh : TaskDraftRevisionId) (operation : DraftOperation) :
    Except FlowError DraftLedger :=
  (flow.ledger.perform codec fresh operation).mapError .ledger

/-- `save_artifacts`. -/
def saveArtifacts (fresh : TaskDraftRevisionId) (artifacts : DraftArtifacts) :
    Except FlowError DraftFlow :=
  if flow.stage ≠ .align ∧ flow.stage ≠ .draft then
    .error (.conflict "artifacts can only be saved after exploration")
  else do
    let ledger ← flow.performed codec fresh (.createRevision artifacts)
    return { flow with ledger := ledger, stage := .draft, trialResults := [] }

/-- `seed_artifacts`. -/
def seedArtifacts (fresh : TaskDraftRevisionId) (artifacts : DraftArtifacts) :
    Except FlowError DraftFlow := do
  flow.requireStage .align
  let ledger ← flow.performed codec fresh (.createRevision artifacts)
  return { flow with ledger := ledger }

/-- `finalize_alignment`. -/
def finalizeAlignment : Except FlowError DraftFlow := do
  flow.requireStage .align
  if flow.ledger.currentRevision.isNone then
    .error (.conflict "alignment requires provisional artifacts")
  else return { flow with stage := .draft }

/-- `revise_artifacts`. -/
def reviseArtifacts (fresh : TaskDraftRevisionId) (artifacts : DraftArtifacts) :
    Except FlowError DraftFlow :=
  if flow.stage ≠ .draft ∧ flow.stage ≠ .calibrate then
    .error (.conflict "artifacts can only be revised during drafting or calibration")
  else
    match flow.ledger.currentRevision with
    | none => .error (.conflict "artifact revision requires an existing draft")
    | some revision => do
      let ledger ← flow.performed codec fresh (.revise revision.revisionId artifacts)
      return { flow with ledger := ledger, stage := .draft, trialResults := [] }

/-- `ask_user`; an id is drawn by no operation of the ledger on questions. -/
def askUser (question : AskUserQuestion) : Except FlowError DraftFlow :=
  if flow.stage ≠ .align ∧ flow.stage ≠ .draft then
    .error (.conflict "AskUser is only available during alignment and drafting")
  else do
    let ledger ← flow.performed codec ⟨0⟩ (.appendQuestion question)
    return { flow with ledger := ledger }

/-- `answer_user`. -/
def answerUser (answer : AskUserAnswer) : Except FlowError DraftFlow :=
  if flow.stage ≠ .align ∧ flow.stage ≠ .draft then
    .error (.conflict "AskUser is only available during alignment and drafting")
  else do
    let ledger ← flow.performed codec ⟨0⟩ (.answerQuestion answer)
    return { flow with ledger := ledger }

/-! ## Calibration -/

/-- `begin_calibration`. -/
def beginCalibration : Except FlowError DraftFlow := do
  flow.requireStage .draft
  if flow.ledger.currentRevision.isNone then
    .error (.conflict "calibration requires a draft revision")
  else return { flow with stage := .calibrate }

/-- `TrialTranslation(...)`. -/
def trialOf (constrainedOutputs freeformOutputs : Dict String String) (path : String) :
    Except FlowError TrialTranslation :=
  let constrained := (constrainedOutputs.get? path).getD ""
  let freeform := (freeformOutputs.get? path).getD ""
  if safe : isRepoRelative path = true then
    if hasConstrained : constrained ≠ "" then
      if hasFreeform : freeform ≠ "" then
        .ok ⟨path, constrained, freeform, safe, hasConstrained, hasFreeform⟩
      else .error (.value "freeform_output")
    else .error (.value "constrained_output")
  else .error (.value "file_path")

/-- `select_trial_paths`. -/
def selectTrialPaths (riskHotspots : List String) : Except FlowError (List String) := do
  let paths ← (normalizeRepoRelativePaths riskHotspots).mapError FlowError.skeleton
  if paths.length < 2 then
    .error (.value "trial translation requires 2 or 3 risk-hotspot files")
  else return paths.take 3

/-- `trial_translate`. -/
def trialTranslate (riskHotspots : List String)
    (constrainedOutputs freeformOutputs : Dict String String) : Except FlowError DraftFlow := do
  flow.requireStage .calibrate
  let paths ← selectTrialPaths riskHotspots
  if ¬ (constrainedOutputs.keys ⊆ paths ∧ paths ⊆ constrainedOutputs.keys) ∨
      ¬ (freeformOutputs.keys ⊆ paths ∧ paths ⊆ freeformOutputs.keys) then
    .error (.value "trial outputs must cover exactly the selected 2 or 3 files")
  else do
    let trials ← paths.mapM (trialOf constrainedOutputs freeformOutputs)
    return { flow with trialResults := trials }

/-- `confirm`. -/
def confirm : Except FlowError DraftFlow := do
  flow.requireStage .calibrate
  if flow.trialResults = [] then
    .error (.conflict "confirmation requires a completed trial translation")
  else
    match flow.ledger.currentRevision with
    | none => .error (.conflict "confirmation requires a draft revision")
    | some revision => do
      let ledger ← flow.performed codec ⟨0⟩ (.freeze revision.revisionId none)
      return { flow with ledger := ledger, stage := .confirmed }

end Ledger

/-! ## Runs -/

/-- An operation of the flow. -/
inductive Operation where
  | submitReport (report : ExplorationReport)
  | recordReassignment (advice : ExploreReassignment)
  | finishExploration (expectedFiles : List String)
  | saveArtifacts (fresh : TaskDraftRevisionId) (artifacts : DraftArtifacts)
  | seedArtifacts (fresh : TaskDraftRevisionId) (artifacts : DraftArtifacts)
  | finalizeAlignment
  | reviseArtifacts (fresh : TaskDraftRevisionId) (artifacts : DraftArtifacts)
  | askUser (question : AskUserQuestion)
  | answerUser (answer : AskUserAnswer)
  | beginCalibration
  | trialTranslate (riskHotspots : List String) (constrainedOutputs freeformOutputs : Dict String String)
  | confirm

/-- An operation that saves or revises artifacts. -/
def Operation.writesArtifacts : Operation → Bool
  | saveArtifacts _ _ => true
  | seedArtifacts _ _ => true
  | reviseArtifacts _ _ => true
  | _ => false

/-- The flow after an accepted operation. -/
def perform (codec : ArtifactCodec) (flow : DraftFlow) : Operation → Except FlowError DraftFlow
  | .submitReport report => flow.submitReport report
  | .recordReassignment advice => flow.recordReassignment advice
  | .finishExploration expectedFiles => flow.finishExploration expectedFiles
  | .saveArtifacts fresh artifacts => flow.saveArtifacts codec fresh artifacts
  | .seedArtifacts fresh artifacts => flow.seedArtifacts codec fresh artifacts
  | .finalizeAlignment => flow.finalizeAlignment
  | .reviseArtifacts fresh artifacts => flow.reviseArtifacts codec fresh artifacts
  | .askUser question => flow.askUser codec question
  | .answerUser answer => flow.answerUser codec answer
  | .beginCalibration => flow.beginCalibration
  | .trialTranslate riskHotspots constrainedOutputs freeformOutputs =>
    flow.trialTranslate riskHotspots constrainedOutputs freeformOutputs
  | .confirm => flow.confirm codec

/-- The flow after an operation, accepted or rejected. -/
def step (codec : ArtifactCodec) (flow : DraftFlow) (operation : Operation) : DraftFlow :=
  match flow.perform codec operation with
  | .ok after => after
  | .error _ => flow

/-- The flow after a sequence of operations. -/
def run (codec : ArtifactCodec) (start : DraftFlow) (operations : List Operation) : DraftFlow :=
  operations.foldl (step codec) start

/-- The files of the reports are the expected files, each once. -/
structure ExactlyCovers (reports : List ExplorationReport) (expectedFiles : List String) : Prop where
  once : (reports.flatMap (·.coverage)).Nodup
  expectedOnce : expectedFiles.Nodup
  same : ∀ file, file ∈ reports.flatMap (·.coverage) ↔ file ∈ expectedFiles

/-- What an accepted operation needs and does. -/
def Effect (codec : ArtifactCodec) (flow after : DraftFlow) : Operation → Prop
  | .submitReport report =>
    flow.stage = .explore ∧ after = { flow with reports := flow.reports ++ [report] }
  | .recordReassignment advice =>
    after = { flow with reassignments := flow.reassignments ++ [advice] }
  | .finishExploration expectedFiles =>
    flow.stage = .explore ∧ ExactlyCovers flow.reports expectedFiles ∧
      ∃ merge : ExplorationMerge, merge.reports = flow.reports ∧
        after = { flow with mergedExploration := some merge, stage := .align }
  | .saveArtifacts fresh artifacts =>
    (flow.stage = .align ∨ flow.stage = .draft) ∧ ∃ ledger,
      flow.ledger.perform codec fresh (.createRevision artifacts) = .ok ledger ∧
        after = { flow with ledger := ledger, stage := .draft, trialResults := [] }
  | .seedArtifacts fresh artifacts =>
    flow.stage = .align ∧ ∃ ledger,
      flow.ledger.perform codec fresh (.createRevision artifacts) = .ok ledger ∧
        after = { flow with ledger := ledger }
  | .finalizeAlignment => flow.stage = .align ∧ after = { flow with stage := .draft }
  | .reviseArtifacts fresh artifacts =>
    (flow.stage = .draft ∨ flow.stage = .calibrate) ∧ ∃ revisionId ledger,
      flow.ledger.perform codec fresh (.revise revisionId artifacts) = .ok ledger ∧
        after = { flow with ledger := ledger, stage := .draft, trialResults := [] }
  | .askUser question =>
    (flow.stage = .align ∨ flow.stage = .draft) ∧ ∃ ledger,
      flow.ledger.perform codec ⟨0⟩ (.appendQuestion question) = .ok ledger ∧
        after = { flow with ledger := ledger }
  | .answerUser answer =>
    (flow.stage = .align ∨ flow.stage = .draft) ∧ ∃ ledger,
      flow.ledger.perform codec ⟨0⟩ (.answerQuestion answer) = .ok ledger ∧
        after = { flow with ledger := ledger }
  | .beginCalibration => flow.stage = .draft ∧ after = { flow with stage := .calibrate }
  | .trialTranslate _ _ _ =>
    flow.stage = .calibrate ∧ ∃ trials, after = { flow with trialResults := trials }
  | .confirm =>
    flow.stage = .calibrate ∧ flow.trialResults ≠ [] ∧ ∃ revisionId ledger,
      flow.ledger.perform codec ⟨0⟩ (.freeze revisionId none) = .ok ledger ∧
        after = { flow with ledger := ledger, stage := .confirmed }

variable {codec : ArtifactCodec} {flow after : DraftFlow} {expectedFiles : List String}

theorem requireStage_ok {expected : DraftStage} {checked : Unit}
    (done : flow.requireStage expected = .ok checked) : flow.stage = expected := by
  unfold requireStage at done
  split at done
  · assumption
  · cases done

theorem mapError_ok {ε ε' α : Type} {f : ε → ε'} {result : Except ε α} {value : α}
    (done : result.mapError f = .ok value) : result = .ok value := by
  cases result with
  | ok other => rw [Except.ok.inj done]
  | error error => cases done

theorem exactlyCovers_of_valid {reports : List ExplorationReport} {coverage : CoverageResult}
    (done : validateExactCoverage (reports.flatMap (·.coverage)) expectedFiles = .ok coverage)
    (valid : coverage.valid = true) : ExactlyCovers reports expectedFiles := by
  obtain ⟨expected, isExpected, rest⟩ := except_bind_eq_ok done
  obtain ⟨actual, isActual, made⟩ := except_bind_eq_ok rest
  cases made
  obtain ⟨-, rfl⟩ := normalizeRepoRelativePaths_ok isExpected
  obtain ⟨-, rfl⟩ := normalizeRepoRelativePaths_ok isActual
  obtain ⟨missing, unknown, repeated, -⟩ := of_decide_eq_true valid
  have none : ∀ path, path ∉ duplicates expectedFiles ++
      duplicates (reports.flatMap (·.coverage)) := by
    intro path member
    have listed := (List.mem_insertionSort pathLe).mpr (List.mem_dedup.mpr member)
    rw [repeated] at listed
    cases listed
  have once : ∀ {paths : List String}, (∀ path, path ∉ duplicates paths) → paths.Nodup := by
    intro paths apart
    refine List.nodup_iff_count_le_one.mpr fun path => ?_
    by_contra many
    refine apart path (List.mem_dedup.mpr (List.mem_filter.mpr ⟨?_, ?_⟩))
    · exact List.one_le_count_iff.mp (by omega)
    · exact decide_eq_true (by omega)
  refine ⟨once fun path member => none path (List.mem_append_right _ member),
    once fun path member => none path (List.mem_append_left _ member), fun file => ⟨?_, ?_⟩⟩
  · intro member
    have known := List.filter_eq_nil_iff.mp unknown file (mem_sortedFiles.mpr member)
    rw [decide_eq_true_eq, not_not, mem_sortedFiles] at known
    exact known
  · intro member
    have known := List.filter_eq_nil_iff.mp missing file (mem_sortedFiles.mpr member)
    rw [decide_eq_true_eq, not_not, mem_sortedFiles] at known
    exact known

theorem finishExploration_ok (done : flow.finishExploration expectedFiles = .ok after) :
    Effect codec flow after (.finishExploration expectedFiles) := by
  obtain ⟨_, isStage, rest⟩ := except_bind_eq_ok done
  refine ⟨requireStage_ok isStage, ?_⟩
  dsimp only at rest
  split at rest
  · cases rest
  split at rest
  · cases rest
  split at rest
  · cases rest
  split at rest
  · cases rest
  obtain ⟨skeleton, -, rest⟩ := except_bind_eq_ok rest
  split at rest
  · cases rest
  obtain ⟨coverage, isCoverage, rest⟩ := except_bind_eq_ok rest
  split at rest
  · cases rest
  next valid =>
    cases rest
    exact ⟨exactlyCovers_of_valid (mapError_ok isCoverage) (not_not.mp valid), _, rfl, rfl⟩

/-- A usable skeleton can be reported: one report for each of its domains finishes the exploration. -/
theorem finishExploration_of_usable {domains : List DomainSkeleton} (stage : flow.stage = .explore)
    (machine : flow.machineSkeleton = .ok domains)
    (usable : UsableSkeleton flow.exploredModules domains) (some : flow.reports ≠ [])
    (reported : flow.reports.map (fun report => (report.domainPath, report.coverage)) =
      domains.map (·.entry)) :
    ∃ after, flow.finishExploration flow.exploredModules.values.flatten = .ok after := by
  have paths : flow.reports.map (·.domainPath) = domains.map (·.domainPath) := by
    have firsts := congrArg (List.map Prod.fst) reported
    rwa [List.map_map, ← skeletonPaths_eq] at firsts
  have files : flow.reports.flatMap (·.coverage) = skeletonFiles domains := by
    have flat := congrArg (List.flatMap Prod.snd) reported
    rwa [List.flatMap_map, ← skeletonFiles_eq] at flat
  have inside : flow.reports.find? ExplorationReport.outside = none := by
    rw [List.find?_eq_none]
    intro report member outside
    obtain ⟨domain, isDomain, same⟩ := List.mem_map.mp (reported ▸ List.mem_map_of_mem member)
    obtain ⟨path, coverage⟩ := Prod.mk.inj same
    obtain ⟨file, isFile, strays⟩ := List.any_eq_true.mp outside
    simp only [Bool.and_eq_true, decide_eq_true_eq, Bool.not_eq_true'] at strays
    obtain ⟨⟨notRoot, notOwn⟩, notBelow⟩ := strays
    rw [← path] at notRoot notOwn notBelow
    rw [← coverage] at isFile
    rcases (usable.below domain isDomain).resolve_left notRoot file isFile with own | below
    · exact notOwn own
    · rw [(startsWith_slash_iff _ _).mpr below] at notBelow
      cases notBelow
  have fits : ¬ flow.maxFanout < domains.length := by
    have accepted := mapError_ok machine
    unfold buildDomainSkeleton at accepted
    iterate 3
      split at accepted
      · cases accepted
    obtain ⟨built, -, checked⟩ := except_bind_eq_ok accepted
    split at checked
    · cases checked
    · next fits => exact Except.ok.inj checked ▸ fits
  obtain ⟨coverage, isCoverage, valid⟩ := usable.covered
  have lengths := congrArg List.length paths
  rw [List.length_map, List.length_map] at lengths
  unfold finishExploration
  simp only [requireStage, stage, if_true, paths, usable.distinct.dedup, List.length_map, lengths,
    some, fits, inside, machine, files, isCoverage]
  simp [bind, Except.bind, Except.mapError, pure, Except.pure, valid]

theorem perform_ok {operation : Operation} (done : flow.perform codec operation = .ok after) :
    Effect codec flow after operation := by
  cases operation with
  | submitReport report =>
    obtain ⟨_, isStage, made⟩ := except_bind_eq_ok done
    cases made
    exact ⟨requireStage_ok isStage, rfl⟩
  | recordReassignment advice =>
    simp only [perform, recordReassignment] at done
    split at done
    · cases done
    split at done
    · cases done
    split at done
    · cases done
    split at done
    · obtain ⟨_, -, made⟩ := except_bind_eq_ok done
      cases made
      rfl
    · cases done
      rfl
  | finishExploration expectedFiles => exact finishExploration_ok done
  | saveArtifacts fresh artifacts =>
    simp only [perform, saveArtifacts] at done
    split at done
    · cases done
    next guarded =>
      obtain ⟨ledger, isLedger, made⟩ := except_bind_eq_ok done
      cases made
      exact ⟨by tauto, ledger, mapError_ok isLedger, rfl⟩
  | seedArtifacts fresh artifacts =>
    obtain ⟨_, isStage, rest⟩ := except_bind_eq_ok done
    obtain ⟨ledger, isLedger, made⟩ := except_bind_eq_ok rest
    cases made
    exact ⟨requireStage_ok isStage, ledger, mapError_ok isLedger, rfl⟩
  | finalizeAlignment =>
    obtain ⟨_, isStage, rest⟩ := except_bind_eq_ok done
    split at rest
    · cases rest
    · cases rest
      exact ⟨requireStage_ok isStage, rfl⟩
  | reviseArtifacts fresh artifacts =>
    simp only [perform, reviseArtifacts] at done
    split at done
    · cases done
    next guarded =>
      split at done
      · cases done
      next revision isCurrent =>
        obtain ⟨ledger, isLedger, made⟩ := except_bind_eq_ok done
        cases made
        exact ⟨by tauto, _, ledger, mapError_ok isLedger, rfl⟩
  | askUser question =>
    simp only [perform, askUser] at done
    split at done
    · cases done
    next guarded =>
      obtain ⟨ledger, isLedger, made⟩ := except_bind_eq_ok done
      cases made
      exact ⟨by tauto, ledger, mapError_ok isLedger, rfl⟩
  | answerUser answer =>
    simp only [perform, answerUser] at done
    split at done
    · cases done
    next guarded =>
      obtain ⟨ledger, isLedger, made⟩ := except_bind_eq_ok done
      cases made
      exact ⟨by tauto, ledger, mapError_ok isLedger, rfl⟩
  | beginCalibration =>
    obtain ⟨_, isStage, rest⟩ := except_bind_eq_ok done
    split at rest
    · cases rest
    · cases rest
      exact ⟨requireStage_ok isStage, rfl⟩
  | trialTranslate riskHotspots constrainedOutputs freeformOutputs =>
    obtain ⟨_, isStage, rest⟩ := except_bind_eq_ok done
    obtain ⟨paths, -, rest⟩ := except_bind_eq_ok rest
    split at rest
    · cases rest
    · obtain ⟨trials, -, made⟩ := except_bind_eq_ok rest
      cases made
      exact ⟨requireStage_ok isStage, trials, rfl⟩
  | confirm =>
    obtain ⟨_, isStage, rest⟩ := except_bind_eq_ok done
    split at rest
    · cases rest
    next tried =>
      split at rest
      · cases rest
      next revision isCurrent =>
        obtain ⟨ledger, isLedger, made⟩ := except_bind_eq_ok rest
        cases made
        exact ⟨requireStage_ok isStage, tried, _, ledger, mapError_ok isLedger, rfl⟩

end DraftFlow

/-! ## The ledger of a flow -/

namespace DraftLedger

variable {codec : ArtifactCodec} {fresh : TaskDraftRevisionId} {ledger after : DraftLedger}

/-- A freeze of the ledger is that of its current revision with all its questions. -/
def FrozenSound (ledger : DraftLedger) : Prop :=
  ∀ receipt, ledger.freezeReceipt = some receipt →
    ∃ revision selectedIds, ledger.FrozenAt receipt revision selectedIds

theorem FrozenSound.of_none (unfrozen : ledger.freezeReceipt = none) : ledger.FrozenSound := by
  intro receipt frozen
  rw [unfrozen] at frozen
  cases frozen

theorem FrozenSound.perform {operation : DraftOperation} (sound : ledger.FrozenSound)
    (done : ledger.perform codec fresh operation = .ok after) : after.FrozenSound := by
  rcases perform_ok done with rfl | ⟨unfrozen, change⟩
  · exact sound
  · cases change with
    | revision revision _ _ _ => exact .of_none unfrozen
    | question question _ _ _ _ => exact .of_none unfrozen
    | answer answer _ _ _ _ => exact .of_none unfrozen
    | freeze receipt revision selectedIds frozen =>
      intro other same
      cases same
      exact ⟨revision, selectedIds, frozen.current, frozen.differ, frozen.every, frozen.answered,
        frozen.receipt⟩

theorem restoreRevisions_unfrozen {pending : List TaskDraftRevision} {expectedNumber : Nat}
    (done : restoreRevisions codec expectedNumber ledger pending = .ok after) :
    after.freezeReceipt = ledger.freezeReceipt := by
  induction pending generalizing ledger expectedNumber with
  | nil =>
    cases done
    rfl
  | cons revision pending ih =>
    rw [restoreRevisions] at done
    split at done
    · cases done
    split at done
    · cases done
    split at done
    · cases done
    split at done
    · cases done
    · have kept := ih done
      exact kept

theorem restoreQuestions_unfrozen {pending : List AskUserQuestion}
    (done : restoreQuestions ledger pending = .ok after) :
    after.freezeReceipt = ledger.freezeReceipt := by
  induction pending generalizing ledger with
  | nil =>
    cases done
    rfl
  | cons question pending ih =>
    rw [restoreQuestions] at done
    split at done
    · cases done
    split at done
    · cases done
    · have kept := ih done
      exact kept

theorem restoreAnswers_unfrozen {pending : List AskUserAnswer}
    (done : restoreAnswers ledger pending = .ok after) :
    after.freezeReceipt = ledger.freezeReceipt := by
  induction pending generalizing ledger with
  | nil =>
    cases done
    rfl
  | cons answer pending ih =>
    rw [restoreAnswers] at done
    split at done
    · cases done
    split at done
    · cases done
    split at done
    · cases done
    split at done
    · cases done
    · have kept := ih done
      exact kept

theorem restore_frozenSound {revisions : List TaskDraftRevision} {questions : List AskUserQuestion}
    {answers : List AskUserAnswer} {freezeReceipt : Option DraftFreezeReceipt}
    (done : restore codec revisions questions answers freezeReceipt = .ok after) :
    after.FrozenSound := by
  unfold restore at done
  split at done
  · cases done
  next withRevisions isRevisions =>
  split at done
  · cases done
  next withQuestions isQuestions =>
  split at done
  · cases done
  next withAnswers isAnswers =>
  have sound : withAnswers.FrozenSound := .of_none <| by
    rw [restoreAnswers_unfrozen isAnswers, restoreQuestions_unfrozen isQuestions,
      restoreRevisions_unfrozen isRevisions]
    rfl
  unfold restoreFreeze at done
  split at done
  · cases done
    exact sound
  · next receipt =>
    split at done
    · cases done
    next frozen computed isFrozen =>
      split at done
      · cases done
      · cases done
        have performed : withAnswers.perform codec ⟨0⟩ (.freeze receipt.revisionId
            (some receipt.answerQuestionIds)) = .ok after := by
          rw [DraftLedger.perform, isFrozen]
          rfl
        exact sound.perform performed

/-- A ledger that its methods have made. -/
inductive Built (codec : ArtifactCodec) : DraftLedger → Prop
  | empty : Built codec .empty
  | restored {revisions questions answers freezeReceipt ledger}
    (done : restore codec revisions questions answers freezeReceipt = .ok ledger) :
    Built codec ledger
  | performed {ledger after fresh operation} (built : Built codec ledger)
    (done : ledger.perform codec fresh operation = .ok after) : Built codec after

theorem Built.frozenSound (built : Built codec ledger) : ledger.FrozenSound := by
  induction built with
  | empty => exact .of_none rfl
  | restored done => exact restore_frozenSound done
  | performed _ done ih => exact ih.perform done

/-- The receipt of the ledger names its current revision, all questions of which are answered. -/
def Settled (ledger : DraftLedger) : Prop :=
  ∃ receipt revision, ledger.freezeReceipt = some receipt ∧
    ledger.currentRevision = some revision ∧ receipt.revisionId = revision.revisionId ∧
    ∀ question ∈ ledger.questions.values, question.revisionId = revision.revisionId →
      (ledger.answers.get? question.questionId).isSome = true

theorem freezes {revisionId : TaskDraftRevisionId} {selected : Option (List QuestionId)}
    (done : ledger.perform codec fresh (.freeze revisionId selected) = .ok after) :
    after.freezeReceipt ≠ none := by
  obtain ⟨result, frozen, rfl⟩ := except_map_eq_ok done
  unfold freeze at frozen
  split at frozen
  · cases frozen
  split at frozen
  · next receipt isReceipt =>
    split at frozen
    · cases frozen
      rw [isReceipt]
      exact Option.some_ne_none receipt
    · cases frozen
  dsimp only at frozen
  split at frozen
  · cases frozen
  split at frozen
  · cases frozen
  split at frozen
  · cases frozen
  split at frozen
  · cases frozen
  · cases frozen
    exact Option.some_ne_none _

theorem FrozenSound.settled (sound : ledger.FrozenSound) (frozen : ledger.freezeReceipt ≠ none) :
    ledger.Settled := by
  obtain ⟨receipt, isReceipt⟩ := Option.ne_none_iff_exists'.mp frozen
  obtain ⟨revision, selectedIds, at_⟩ := sound receipt isReceipt
  refine ⟨receipt, revision, isReceipt, at_.current, (freezeReceiptOf_sorted at_.receipt).1, ?_⟩
  intro question member bound
  refine at_.answered _ ((at_.every _).mpr (List.mem_map.mpr ⟨question, ?_, rfl⟩))
  exact List.mem_filter.mpr ⟨member, decide_eq_true bound⟩

end DraftLedger

/-! ## What holds along a run -/

namespace DraftFlow

variable {codec : ArtifactCodec} {start flow after : DraftFlow} {operations : List Operation}
  {operation : Operation}

theorem run_append_singleton (operations : List Operation) (operation : Operation) :
    run codec start (operations ++ [operation]) = (run codec start operations).step codec operation := by
  rw [run, List.foldl_append]
  rfl

/-- An accepted exploration of the run covers its expected files exactly, and its result is the one
that the flow has. -/
def Explored (codec : ArtifactCodec) (start : DraftFlow) (operations : List Operation)
    (flow : DraftFlow) : Prop :=
  ∃ before expectedFiles behind finished,
    operations = before ++ .finishExploration expectedFiles :: behind ∧
      (run codec start before).perform codec (.finishExploration expectedFiles) = .ok finished ∧
      ∃ merge, finished.mergedExploration = some merge ∧ flow.mergedExploration = some merge ∧
        ExactlyCovers merge.reports expectedFiles

/-- The trial results of the flow are those of an accepted trial of the run, after which every
operation that would write artifacts is rejected. -/
def Calibrated (codec : ArtifactCodec) (start : DraftFlow) (operations : List Operation)
    (flow : DraftFlow) : Prop :=
  ∃ before riskHotspots constrainedOutputs freeformOutputs behind tried,
    operations = before ++ .trialTranslate riskHotspots constrainedOutputs freeformOutputs :: behind ∧
      (run codec start before).perform codec
        (.trialTranslate riskHotspots constrainedOutputs freeformOutputs) = .ok tried ∧
      tried.trialResults = flow.trialResults ∧
      ∀ between operation rest, behind = between ++ operation :: rest →
        operation.writesArtifacts = true → ∃ error,
          (run codec start (before ++ .trialTranslate riskHotspots constrainedOutputs freeformOutputs ::
            between)).perform codec operation = .error error

/-- The stage of a flow after an operation: no earlier one, but for a revision in calibration. -/
def Forward (codec : ArtifactCodec) (flow : DraftFlow) (operation : Operation) : Prop :=
  flow.stage.rank ≤ (flow.step codec operation).stage.rank ∨
    flow.stage = .calibrate ∧ (flow.step codec operation).stage = .draft ∧
      ∃ fresh artifacts, operation = .reviseArtifacts fresh artifacts

/-- What the flow owes to the operations before. -/
structure Traced (codec : ArtifactCodec) (start : DraftFlow) (operations : List Operation)
    (flow : DraftFlow) : Prop where
  frozen : flow.ledger.FrozenSound
  explored : flow.stage = .explore ∨ Explored codec start operations flow
  calibrated : flow.trialResults = [] ∨
    (flow.stage = .calibrate ∨ flow.stage = .confirmed) ∧ Calibrated codec start operations flow
  settled : flow.stage = .confirmed → flow.trialResults ≠ [] ∧ flow.ledger.Settled

theorem Explored.append (explored : Explored codec start operations flow)
    (kept : after.mergedExploration = flow.mergedExploration) :
    Explored codec start (operations ++ [operation]) after := by
  obtain ⟨before, expectedFiles, behind, finished, rfl, accepted, merge, made, has, covers⟩ := explored
  exact ⟨before, expectedFiles, behind ++ [operation], finished, by simp, accepted, merge, made,
    kept.trans has, covers⟩

theorem Calibrated.append (calibrated : Calibrated codec start operations flow)
    (kept : after.trialResults = flow.trialResults)
    (rejected : operation.writesArtifacts = true →
      ∃ error, (run codec start operations).perform codec operation = .error error) :
    Calibrated codec start (operations ++ [operation]) after := by
  obtain ⟨before, riskHotspots, constrainedOutputs, freeformOutputs, behind, tried, rfl, accepted,
    results, writes⟩ := calibrated
  refine ⟨before, riskHotspots, constrainedOutputs, freeformOutputs, behind ++ [operation], tried,
    by simp, accepted, results.trans kept.symm, fun between other rest split isWrite => ?_⟩
  rcases List.eq_nil_or_concat rest with rfl | ⟨rest, last, rfl⟩
  · obtain ⟨rfl, same⟩ := List.append_inj' split rfl
    obtain rfl := (List.cons.inj same).1
    exact rejected isWrite
  · rw [List.concat_eq_append, ← List.cons_append, ← List.append_assoc] at split
    obtain ⟨rfl, -⟩ := List.append_inj' split rfl
    exact writes between other rest rfl isWrite

section

variable (traced : Traced codec start operations flow)
include traced

theorem Traced.rejected (reached : run codec start operations = flow) {error : FlowError}
    (refused : flow.perform codec operation = .error error) :
    Traced codec start (operations ++ [operation]) flow :=
  ⟨traced.frozen, traced.explored.imp_right fun explored => explored.append rfl,
    traced.calibrated.imp_right fun ⟨stage, calibrated⟩ =>
      ⟨stage, calibrated.append rfl fun _ => ⟨error, reached ▸ refused⟩⟩, traced.settled⟩

/-- An operation that keeps the stage, the exploration and the trial, and writes no artifacts. -/
theorem Traced.kept (frozen : after.ledger.FrozenSound) (stage : after.stage = flow.stage)
    (merged : after.mergedExploration = flow.mergedExploration)
    (trial : after.trialResults = flow.trialResults)
    (settled : flow.stage = .confirmed → after.ledger = flow.ledger)
    (silent : operation.writesArtifacts = false) :
    Traced codec start (operations ++ [operation]) after := by
  refine ⟨frozen, ?_, ?_, fun confirmed => ?_⟩
  · exact traced.explored.imp (fun same => stage.trans same) fun explored => explored.append merged
  · refine traced.calibrated.imp (fun none => trial.trans none) fun ⟨stages, calibrated⟩ => ?_
    refine ⟨by rwa [stage], calibrated.append trial fun isWrite => ?_⟩
    rw [silent] at isWrite
    cases isWrite
  · rw [stage] at confirmed
    rw [trial, settled confirmed]
    exact traced.settled confirmed

/-- An operation after which the flow stands in another stage without a trial. -/
theorem Traced.untried (frozen : after.ledger.FrozenSound) (explored : flow.stage ≠ .explore)
    (merged : after.mergedExploration = flow.mergedExploration) (trial : after.trialResults = [])
    (open_ : after.stage ≠ .confirmed) : Traced codec start (operations ++ [operation]) after :=
  ⟨frozen, .inr ((traced.explored.resolve_left explored).append merged), .inl trial,
    fun confirmed => absurd confirmed open_⟩

theorem Traced.untried_of_stage (stage : flow.stage ≠ .calibrate ∧ flow.stage ≠ .confirmed) :
    flow.trialResults = [] :=
  traced.calibrated.resolve_right fun ⟨stages, _⟩ => stages.elim stage.1 stage.2

theorem Traced.accepted (reached : run codec start operations = flow)
    (done : flow.perform codec operation = .ok after) :
    Traced codec start (operations ++ [operation]) after := by
  have effect := perform_ok done
  cases operation with
  | submitReport report =>
    obtain ⟨isStage, rfl⟩ := effect
    exact traced.kept traced.frozen rfl rfl rfl (fun _ => rfl) rfl
  | recordReassignment advice =>
    cases effect
    exact traced.kept traced.frozen rfl rfl rfl (fun _ => rfl) rfl
  | finishExploration expectedFiles =>
    obtain ⟨isStage, covers, merge, reports, rfl⟩ := effect
    have untried := traced.untried_of_stage (by rw [isStage]; exact ⟨nofun, nofun⟩)
    refine ⟨traced.frozen, .inr ⟨operations, expectedFiles, [], _, rfl, reached ▸ done, merge, rfl, rfl,
      reports ▸ covers⟩, .inl untried, nofun⟩
  | saveArtifacts fresh artifacts =>
    obtain ⟨stages, ledger, performed, rfl⟩ := effect
    refine traced.untried (traced.frozen.perform performed) ?_ rfl rfl nofun
    rcases stages with same | same <;> rw [same] <;> exact nofun
  | seedArtifacts fresh artifacts =>
    obtain ⟨isStage, ledger, performed, rfl⟩ := effect
    have untried := traced.untried_of_stage (by rw [isStage]; exact ⟨nofun, nofun⟩)
    exact traced.untried (traced.frozen.perform performed) (by rw [isStage]; exact nofun) rfl untried
      (by rw [isStage]; exact nofun)
  | finalizeAlignment =>
    obtain ⟨isStage, rfl⟩ := effect
    have untried := traced.untried_of_stage (by rw [isStage]; exact ⟨nofun, nofun⟩)
    exact traced.untried traced.frozen (by rw [isStage]; exact nofun) rfl untried nofun
  | reviseArtifacts fresh artifacts =>
    obtain ⟨stages, revisionId, ledger, performed, rfl⟩ := effect
    refine traced.untried (traced.frozen.perform performed) ?_ rfl rfl nofun
    rcases stages with same | same <;> rw [same] <;> exact nofun
  | askUser question =>
    obtain ⟨stages, ledger, performed, rfl⟩ := effect
    refine traced.kept (traced.frozen.perform performed) rfl rfl rfl (fun confirmed => ?_) rfl
    rcases stages with same | same <;> rw [same] at confirmed <;> cases confirmed
  | answerUser answer =>
    obtain ⟨stages, ledger, performed, rfl⟩ := effect
    refine traced.kept (traced.frozen.perform performed) rfl rfl rfl (fun confirmed => ?_) rfl
    rcases stages with same | same <;> rw [same] at confirmed <;> cases confirmed
  | beginCalibration =>
    obtain ⟨isStage, rfl⟩ := effect
    have untried := traced.untried_of_stage (by rw [isStage]; exact ⟨nofun, nofun⟩)
    exact traced.untried traced.frozen (by rw [isStage]; exact nofun) rfl untried nofun
  | trialTranslate riskHotspots constrainedOutputs freeformOutputs =>
    obtain ⟨isStage, trials, rfl⟩ := effect
    have explored := traced.explored.resolve_left (by rw [isStage]; exact nofun)
    refine ⟨traced.frozen, .inr (explored.append rfl), .inr ⟨.inl isStage, ?_⟩, fun confirmed => ?_⟩
    · refine ⟨operations, riskHotspots, constrainedOutputs, freeformOutputs, [], _, rfl,
        reached ▸ done, rfl, fun between operation rest split => ?_⟩
      exact absurd split (List.append_ne_nil_of_right_ne_nil _ (List.cons_ne_nil _ _)).symm
    · rw [show flow.stage = .confirmed from confirmed] at isStage
      cases isStage
  | confirm =>
    obtain ⟨isStage, tried, revisionId, ledger, performed, rfl⟩ := effect
    have explored := traced.explored.resolve_left (by rw [isStage]; exact nofun)
    obtain ⟨-, calibrated⟩ := traced.calibrated.resolve_left tried
    have frozen := traced.frozen.perform performed
    exact ⟨frozen, .inr (explored.append rfl), .inr ⟨.inr rfl, calibrated.append rfl nofun⟩,
      fun _ => ⟨tried, frozen.settled (DraftLedger.freezes performed)⟩⟩

end

theorem run_traced (traced : Traced codec start [] start) (operations : List Operation) :
    Traced codec start operations (run codec start operations) := by
  induction operations using List.reverseRecOn with
  | nil => exact traced
  | append_singleton operations operation ih =>
    rw [run_append_singleton, step]
    split
    · next after done => exact ih.accepted rfl done
    · next error refused => exact ih.rejected rfl refused

theorem step_forward (codec : ArtifactCodec) (flow : DraftFlow) (operation : Operation) :
    Forward codec flow operation := by
  unfold Forward step
  split
  · next after done =>
    have effect := perform_ok done
    cases operation with
    | submitReport report =>
      obtain ⟨-, rfl⟩ := effect
      exact .inl (le_refl _)
    | recordReassignment advice =>
      cases effect
      exact .inl (le_refl _)
    | finishExploration expectedFiles =>
      obtain ⟨isStage, -, merge, -, rfl⟩ := effect
      rw [isStage]
      exact .inl (Nat.le_of_ble_eq_true rfl)
    | saveArtifacts fresh artifacts =>
      obtain ⟨stages, ledger, -, rfl⟩ := effect
      rcases stages with same | same <;> rw [same] <;> exact .inl (Nat.le_of_ble_eq_true rfl)
    | seedArtifacts fresh artifacts =>
      obtain ⟨-, ledger, -, rfl⟩ := effect
      exact .inl (le_refl _)
    | finalizeAlignment =>
      obtain ⟨isStage, rfl⟩ := effect
      rw [isStage]
      exact .inl (Nat.le_of_ble_eq_true rfl)
    | reviseArtifacts fresh artifacts =>
      obtain ⟨stages, revisionId, ledger, -, rfl⟩ := effect
      rcases stages with same | same
      · rw [same]
        exact .inl (Nat.le_of_ble_eq_true rfl)
      · exact .inr ⟨same, rfl, fresh, artifacts, rfl⟩
    | askUser question =>
      obtain ⟨-, ledger, -, rfl⟩ := effect
      exact .inl (le_refl _)
    | answerUser answer =>
      obtain ⟨-, ledger, -, rfl⟩ := effect
      exact .inl (le_refl _)
    | beginCalibration =>
      obtain ⟨isStage, rfl⟩ := effect
      rw [isStage]
      exact .inl (Nat.le_of_ble_eq_true rfl)
    | trialTranslate riskHotspots constrainedOutputs freeformOutputs =>
      obtain ⟨-, trials, rfl⟩ := effect
      exact .inl (le_refl _)
    | confirm =>
      obtain ⟨isStage, -, revisionId, ledger, -, rfl⟩ := effect
      rw [isStage]
      exact .inl (Nat.le_of_ble_eq_true rfl)
  · exact .inl (le_refl _)

/-- What a run promises: a confirmed flow has explored exactly, has a receipt for the current revision
with all its questions answered and a trial of the artifacts as they are, and no operation leads back
to an earlier stage but a revision in calibration. -/
structure RunSound (codec : ArtifactCodec) (start : DraftFlow) (operations : List Operation) :
    Prop where
  explored : (run codec start operations).stage = .confirmed →
    Explored codec start operations (run codec start operations)
  settled : (run codec start operations).stage = .confirmed →
    (run codec start operations).ledger.Settled
  calibrated : (run codec start operations).stage = .confirmed →
    (run codec start operations).trialResults ≠ [] ∧
      Calibrated codec start operations (run codec start operations)
  forward : ∀ before operation behind, operations = before ++ operation :: behind →
    Forward codec (run codec start before) operation

/-- Every sequence of operations, accepted or rejected, keeps the flow sound and moves it forward. -/
theorem run_sound (codec : ArtifactCodec) {ledger : Option DraftLedger}
    (built : ∀ given, ledger = some given → DraftLedger.Built codec given)
    {moduleFiles : Option (Dict String (List String))} {maxFanout : Int}
    (created : create ledger moduleFiles maxFanout = .ok start) (operations : List Operation) :
    RunSound codec start operations := by
  have initial : Traced codec start [] start := by
    unfold create at created
    split at created
    · cases created
    · cases created
      refine ⟨?_, .inl rfl, .inl rfl, nofun⟩
      cases ledger with
      | none => exact .of_none rfl
      | some given => exact (built given rfl).frozenSound
  have traced := run_traced initial operations
  refine ⟨fun confirmed => ?_, fun confirmed => (traced.settled confirmed).2, fun confirmed => ?_,
    fun before operation _ _ => step_forward codec _ operation⟩
  · exact traced.explored.resolve_left (by rw [confirmed]; exact nofun)
  · have tried := (traced.settled confirmed).1
    exact ⟨tried, (traced.calibrated.resolve_left tried).2⟩

end DraftFlow

namespace SampleDraft

/-- A report on two files at the root. -/
def report : ExplorationReport := ⟨".", ["a.py", "b.py"], 0, by decide, by decide, by decide⟩

def outputs : Dict String String := .ofPairs [("a.py", "one"), ("b.py", "two")]

/-- A Draft that goes back from calibration once before it is confirmed. -/
def flowOperations : List DraftFlow.Operation :=
  [.submitReport report, .finishExploration ["b.py", "a.py"], .saveArtifacts ⟨1⟩ (artifacts []),
    .beginCalibration, .confirm, .trialTranslate ["a.py", "b.py"] outputs outputs,
    .reviseArtifacts ⟨2⟩ (artifacts [rule]), .beginCalibration,
    .trialTranslate ["a.py", "b.py"] outputs outputs, .confirm]

/-- The flow at its start. -/
def opened : DraftFlow := ⟨.empty, .explore, none, 6, [], [], none, []⟩

theorem opened_created : DraftFlow.create none none 6 = .ok opened := rfl

theorem confirmed_draft_sound :
    (opened.run emptyCodec flowOperations).stage = .confirmed ∧
      DraftFlow.RunSound emptyCodec opened flowOperations :=
  ⟨by decide +kernel, DraftFlow.run_sound emptyCodec (fun _ given => by cases given)
    opened_created flowOperations⟩

end SampleDraft

end CodeMigrator
