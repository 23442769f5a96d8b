import CodeMigrator.Planning.Ledger
import CodeMigrator.Core.DraftEventProjection

/-!
# Admission of a joint repair

`evaluate_joint_repair_dispatch` of `runtime/repair.py`: the write scopes of the terminal slices
under repair are joined, and the repair is admitted when no slice that is still being written
meets the joint scope. The overlap test compares write paths and create roots pair by pair; it
holds exactly when some path lies in both scopes.
-/

namespace CodeMigrator
open Lib

/-- A text that `_non_empty_text` lets through. -/
def NonEmptyText (value : String) : Prop := isBlank value = false

instance decidable_nonEmptyText (value : String) : Decidable (NonEmptyText value) :=
  inferInstanceAs (Decidable (_ = _))

/-! ## The facts of a repair -/

/-- `_TERMINAL_STATUSES`. -/
def terminalStatuses : List String := ["INTEGRATED", "TERMINAL", "TERMINAL_FAILED"]

/-- `_ACTIVE_STATUSES`. -/
def activeStatuses : List String :=
  ["RUNNING", "REGENERATING", "CHECKPOINT_PENDING", "CHECKPOINTPENDING"]

/-- `RepairSlice`, with its id and its status as `__post_init__` leaves them. -/
structure RepairSlice where
  sliceId : String
  status : String
  writeScope : WriteScope
  sliceIdIsText : NonEmptyText sliceId
  statusIsText : NonEmptyText status
  deriving DecidableEq

/-- `ActiveWriter`: a slice whose status says that it is being written. -/
structure ActiveWriter where
  sliceId : String
  status : String
  writeScope : WriteScope
  sliceIdIsText : NonEmptyText sliceId
  statusIsActive : status ∈ activeStatuses
  deriving DecidableEq

/-- `GlobalRepairSession`; the frozen one has the same fields. -/
structure GlobalRepairSession where
  repairDecisionId : UUID
  runId : RunId
  jointWriteScope : WriteScope
  deriving DecidableEq

/-- The reasons of a `JointRepairAdmission`. -/
inductive JointRepairReason where
  | admitted | emptyRepairSet | repairSetNotTerminal | inFlightScopeConflict
  deriving DecidableEq, Repr

/-- The text of a reason. -/
def JointRepairReason.text : JointRepairReason → String
  | admitted => "ADMITTED"
  | emptyRepairSet => "EMPTY_REPAIR_SET"
  | repairSetNotTerminal => "REPAIR_SET_NOT_TERMINAL"
  | inFlightScopeConflict => "IN_FLIGHT_SCOPE_CONFLICT"

/-- `JointRepairAdmission`: its flag agrees with its reason, and it exposes a session exactly
when it admits. -/
structure JointRepairAdmission where
  admitted : Bool
  reason : JointRepairReason
  session : Option GlobalRepairSession
  blockingSliceIds : List String
  flagAgrees : admitted = decide (reason = .admitted)
  sessionExposed : session.isSome = admitted
  blockersAreText : ∀ sliceId ∈ blockingSliceIds, NonEmptyText sliceId

/-! ## Overlap -/

namespace Repair

/-- `_path_in_root`. -/
def pathInRoot (path root : RepoRelativePath) : Bool :=
  path.text == root.text || startsWith path.text (root.text ++ "/")

/-- `_scopes_overlap`. -/
def scopesOverlap (leftPaths leftRoots rightPaths rightRoots : List RepoRelativePath) : Bool :=
  leftPaths.any (fun path => decide (path ∈ rightPaths)) ||
    leftPaths.any (fun path => rightRoots.any (pathInRoot path)) ||
    rightPaths.any (fun path => leftRoots.any (pathInRoot path)) ||
    leftRoots.any (fun leftRoot => rightRoots.any (fun rightRoot =>
      pathInRoot leftRoot rightRoot || pathInRoot rightRoot leftRoot))

/-- Two scopes overlap. -/
def overlap (left right : WriteScopeOut) : Bool :=
  scopesOverlap left.writePaths left.createRoots right.writePaths right.createRoots

/-- `dict.fromkeys(blockers)`: each blocker once, in the order of its first occurrence. -/
def distinctBlockers : List String → List String
  | [] => []
  | blocker :: blockers => blocker :: (distinctBlockers blockers).filter (· ≠ blocker)

/-- `_freeze_scope`: the frozen scope checks and sorts its paths again. -/
def freezeScope (scope : WriteScope) : WriteScope :=
  ⟨⟨normalizePaths scope.out.writePaths, normalizePaths scope.out.createRoots⟩⟩

/-- The `WriteScope` of the paths and roots of all slices, sorted by its validator and frozen. -/
def jointScope (repairSet : List RepairSlice) : WriteScope :=
  freezeScope ⟨⟨normalizePaths (repairSet.flatMap (·.writeScope.out.writePaths)),
    normalizePaths (repairSet.flatMap (·.writeScope.out.createRoots))⟩⟩

/-- The writers whose scopes meet the joint scope. -/
def blockers (repairSet : List RepairSlice) (activeWriters : List ActiveWriter) :
    List ActiveWriter :=
  activeWriters.filter (fun writer => overlap (jointScope repairSet).out writer.writeScope.out)

theorem mem_distinctBlockers {blockers : List String} {blocker : String} :
    blocker ∈ distinctBlockers blockers ↔ blocker ∈ blockers := by
  induction blockers with
  | nil => simp [distinctBlockers]
  | cons first rest ih =>
    by_cases same : blocker = first
    · simp [distinctBlockers, same]
    · simp [distinctBlockers, same, ih]

theorem scopesOverlap_eq (leftPaths leftRoots rightPaths rightRoots : List RepoRelativePath) :
    scopesOverlap leftPaths leftRoots rightPaths rightRoots =
      CodeMigrator.scopesOverlap leftPaths leftRoots rightPaths rightRoots := by
  have shared : ∀ path : RepoRelativePath,
      decide (path ∈ rightPaths) = rightPaths.any (fun other => path.text == other.text) := by
    intro path
    rw [Bool.eq_iff_iff, decide_eq_true_iff, List.any_eq_true]
    constructor
    · intro member
      exact ⟨path, member, by simp⟩
    · rintro ⟨other, member, equal⟩
      have same : path = other := by
        cases path
        cases other
        simpa using equal
      exact same ▸ member
  simp only [scopesOverlap, CodeMigrator.scopesOverlap, shared]
  rfl

theorem overlap_iff (left right : WriteScopeOut) :
    overlap left right = true ↔ ∃ path, left.Permits path ∧ right.Permits path := by
  rw [overlap, scopesOverlap_eq]
  exact CodeMigrator.scopesOverlap_iff left right

theorem shared_path {left right : WriteScopeOut} {path : String} (inLeft : left.Permits path)
    (inRight : right.Permits path) :
    ∃ shared : RepoRelativePath, left.Permits shared.text ∧ right.Permits shared.text := by
  rcases inLeft with ⟨item, isPath, rfl⟩ | ⟨leftRoot, isRoot, below⟩
  · exact ⟨item, Or.inl ⟨item, isPath, rfl⟩, inRight⟩
  rcases inRight with ⟨item, isPath, rfl⟩ | ⟨rightRoot, isOtherRoot, belowOther⟩
  · exact ⟨item, Or.inr ⟨leftRoot, isRoot, below⟩, Or.inl ⟨item, isPath, rfl⟩⟩
  -- of two nested roots the inner one lies in both scopes
  rcases below.comparable belowOther with nested | nested
  · exact ⟨leftRoot, Or.inr ⟨leftRoot, isRoot, Or.inl rfl⟩,
      Or.inr ⟨rightRoot, isOtherRoot, nested⟩⟩
  · exact ⟨rightRoot, Or.inr ⟨leftRoot, isRoot, nested⟩,
      Or.inr ⟨rightRoot, isOtherRoot, Or.inl rfl⟩⟩

end Repair

/-! ## The joint scope -/

@[simp] theorem mem_normalizePaths {paths : List RepoRelativePath} {path : RepoRelativePath} :
    path ∈ normalizePaths paths ↔ path ∈ paths := by
  simp [normalizePaths]

theorem permits_normalizePaths {writePaths createRoots : List RepoRelativePath} {path : String} :
    (WriteScopeOut.mk (normalizePaths writePaths) (normalizePaths createRoots)).Permits path ↔
      (WriteScopeOut.mk writePaths createRoots).Permits path := by
  simp [WriteScopeOut.Permits]

variable {repairSet : List RepairSlice}

theorem Repair.permits_jointScope {path : String} :
    (jointScope repairSet).out.Permits path ↔
      ∃ item ∈ repairSet, item.writeScope.out.Permits path := by
  rw [jointScope, freezeScope, permits_normalizePaths, permits_normalizePaths]
  simp only [WriteScopeOut.Permits, List.mem_flatMap]
  constructor
  · rintro (⟨listed, ⟨item, member, isPath⟩, equal⟩ | ⟨root, ⟨item, member, isRoot⟩, below⟩)
    · exact ⟨item, member, Or.inl ⟨listed, isPath, equal⟩⟩
    · exact ⟨item, member, Or.inr ⟨root, isRoot, below⟩⟩
  · rintro ⟨item, member, ⟨listed, isPath, equal⟩ | ⟨root, isRoot, below⟩⟩
    · exact Or.inl ⟨listed, ⟨item, member, isPath⟩, equal⟩
    · exact Or.inr ⟨root, ⟨item, member, isRoot⟩, below⟩

/-! ## Admission -/

/-- `evaluate_joint_repair_dispatch`; an error is the text of its `ValueError`. -/
def evaluateJointRepairDispatch (runId : RunId) (repairDecisionId : UUID)
    (repairSet : List RepairSlice) (activeWriters : List ActiveWriter) :
    Except String JointRepairAdmission :=
  let nonterminal := repairSet.filter (fun item => item.status ∉ terminalStatuses)
  let blocking := Repair.blockers repairSet activeWriters
  if repairSet = [] then
    .ok ⟨false, .emptyRepairSet, none, [], rfl, rfl, by simp⟩
  else if ¬ (repairSet.map (·.sliceId)).Nodup then
    .error "repair set must contain unique Slice identities"
  else if nonterminal ≠ [] then
    .ok ⟨false, .repairSetNotTerminal, none, nonterminal.map (·.sliceId), rfl, rfl, by
      intro sliceId member
      obtain ⟨item, _, rfl⟩ := List.mem_map.mp member
      exact item.sliceIdIsText⟩
  else if blocking ≠ [] then
    .ok ⟨false, .inFlightScopeConflict, none,
      Repair.distinctBlockers (blocking.map (·.sliceId)), rfl, rfl, by
        intro sliceId member
        obtain ⟨writer, _, rfl⟩ := List.mem_map.mp (Repair.mem_distinctBlockers.mp member)
        exact writer.sliceIdIsText⟩
  else
    .ok ⟨true, .admitted, some ⟨repairDecisionId, runId, Repair.jointScope repairSet⟩, [], rfl,
      rfl, by simp⟩

/-- Some path is permitted to a slice under repair and to an active writer. -/
def SharesPath (repairSet : List RepairSlice) (activeWriters : List ActiveWriter) : Prop :=
  ∃ path : String, (∃ item ∈ repairSet, item.writeScope.out.Permits path) ∧
    ∃ writer ∈ activeWriters, writer.writeScope.out.Permits path

theorem Repair.blockers_iff (repairSet : List RepairSlice) (activeWriters : List ActiveWriter) :
    Repair.blockers repairSet activeWriters ≠ [] ↔ SharesPath repairSet activeWriters := by
  have blocks : ∀ writer, writer ∈ Repair.blockers repairSet activeWriters ↔
      writer ∈ activeWriters ∧ ∃ path, (∃ item ∈ repairSet, item.writeScope.out.Permits path) ∧
        writer.writeScope.out.Permits path := by
    intro writer
    simp only [Repair.blockers, List.mem_filter, Repair.overlap_iff, Repair.permits_jointScope]
  constructor
  · intro blocked
    obtain ⟨writer, member⟩ := List.exists_mem_of_ne_nil _ blocked
    obtain ⟨active, path, slice, permitted⟩ := (blocks writer).mp member
    exact ⟨path, slice, writer, active, permitted⟩
  · rintro ⟨path, slice, writer, active, permitted⟩
    exact List.ne_nil_of_mem ((blocks writer).mpr ⟨active, path, slice, permitted⟩)

theorem sharesPath_iff (repairSet : List RepairSlice) (activeWriters : List ActiveWriter) :
    SharesPath repairSet activeWriters ↔
      ∃ path : RepoRelativePath, (∃ item ∈ repairSet, item.writeScope.out.Permits path.text) ∧
        ∃ writer ∈ activeWriters, writer.writeScope.out.Permits path.text := by
  constructor
  · rintro ⟨path, ⟨item, member, inSlice⟩, writer, active, inWriter⟩
    obtain ⟨shared, left, right⟩ := Repair.shared_path inSlice inWriter
    exact ⟨shared, ⟨item, member, left⟩, writer, active, right⟩
  · rintro ⟨path, slice, writer⟩
    exact ⟨path.text, slice, writer⟩

theorem evaluate_terminal (runId : RunId) (repairDecisionId : UUID)
    (activeWriters : List ActiveWriter) (some_ : repairSet ≠ [])
    (distinct : (repairSet.map (·.sliceId)).Nodup)
    (terminal : ∀ item ∈ repairSet, item.status ∈ terminalStatuses) :
    ∃ admission,
      evaluateJointRepairDispatch runId repairDecisionId repairSet activeWriters =
        .ok admission ∧
      (admission.admitted = true ↔ Repair.blockers repairSet activeWriters = []) ∧
      ∀ session ∈ admission.session,
        session = ⟨repairDecisionId, runId, Repair.jointScope repairSet⟩ := by
  have nonterminal : repairSet.filter (fun item => item.status ∉ terminalStatuses) = [] := by
    rw [List.filter_eq_nil_iff]
    intro item member
    simpa using terminal item member
  unfold evaluateJointRepairDispatch
  simp only [some_, if_false, distinct, not_true_eq_false, nonterminal, ne_eq]
  by_cases blocked : Repair.blockers repairSet activeWriters = []
  · rw [if_neg (not_not.mpr blocked)]
    refine ⟨_, rfl, ⟨fun _ => blocked, fun _ => rfl⟩, ?_⟩
    rintro session ⟨⟩
    rfl
  · rw [if_pos blocked]
    refine ⟨_, rfl, ⟨fun admitted => ?_, fun clear => absurd clear blocked⟩, ?_⟩
    · cases admitted
    · rintro session ⟨⟩

/-- A repair set of terminal slices with distinct ids is admitted exactly when no path is
permitted both to one of its slices and to an active writer, be it any text or a path of the
repository; the session that it gets permits exactly the paths of its slices. -/
theorem joint_admission_exact (runId : RunId) (repairDecisionId : UUID)
    (repairSet : List RepairSlice) (activeWriters : List ActiveWriter)
    (nonempty : repairSet ≠ []) (distinct : (repairSet.map (·.sliceId)).Nodup)
    (terminal : ∀ item ∈ repairSet, item.status ∈ terminalStatuses) :
    ∃ admission,
      evaluateJointRepairDispatch runId repairDecisionId repairSet activeWriters =
        .ok admission ∧
      (admission.admitted = true ↔ ¬ SharesPath repairSet activeWriters) ∧
      (admission.admitted = true ↔ ¬ ∃ path : RepoRelativePath,
        (∃ item ∈ repairSet, item.writeScope.out.Permits path.text) ∧
          ∃ writer ∈ activeWriters, writer.writeScope.out.Permits path.text) ∧
      (admission.admitted = true → ∃ session, admission.session = some session ∧
        ∀ path : String, session.jointWriteScope.out.Permits path ↔
          ∃ item ∈ repairSet, item.writeScope.out.Permits path) := by
  obtain ⟨admission, evaluated, admitted, joint⟩ :=
    evaluate_terminal runId repairDecisionId activeWriters nonempty distinct terminal
  have clear : admission.admitted = true ↔ ¬ SharesPath repairSet activeWriters := by
    rw [admitted, ← Repair.blockers_iff, not_not]
  refine ⟨admission, evaluated, clear, ?_, ?_⟩
  · rw [← sharesPath_iff]
    exact clear
  · intro isAdmitted
    have exposed : admission.session.isSome = true := by
      rw [admission.sessionExposed]
      exact isAdmitted
    obtain ⟨session, found⟩ := Option.isSome_iff_exists.mp exposed
    refine ⟨session, found, fun path => ?_⟩
    rw [joint session found]
    exact Repair.permits_jointScope

/-! ### Two slices and a writer -/

namespace RepairSample

def source : RepoRelativePath := ⟨"src", by decide⟩
def file : RepoRelativePath := ⟨"src/a.py", by decide⟩

/-- A terminal slice that may create files below `src`. -/
def terminalSlice : RepairSlice :=
  ⟨"s1", "TERMINAL", ⟨⟨[], [source]⟩⟩, by decide, by decide⟩

/-- A running slice that may write one file below `src`. -/
def writer : ActiveWriter := ⟨"s2", "RUNNING", ⟨⟨[file], []⟩⟩, by decide, by decide⟩

end RepairSample

/-- The writer of a file below the root of the slice blocks the repair. -/
theorem joint_admission_exact_sample :
    ∃ admission,
      evaluateJointRepairDispatch ⟨1⟩ ⟨2⟩ [RepairSample.terminalSlice] [RepairSample.writer] =
        .ok admission ∧
      (admission.admitted = true ↔
        ¬ SharesPath [RepairSample.terminalSlice] [RepairSample.writer]) ∧
      (admission.admitted = true ↔ ¬ ∃ path : RepoRelativePath,
        (∃ item ∈ [RepairSample.terminalSlice], item.writeScope.out.Permits path.text) ∧
          ∃ writer ∈ [RepairSample.writer], writer.writeScope.out.Permits path.text) ∧
      (admission.admitted = true → ∃ session, admission.session = some session ∧
        ∀ path : String, session.jointWriteScope.out.Permits path ↔
          ∃ item ∈ [RepairSample.terminalSlice], item.writeScope.out.Permits path) :=
  joint_admission_exact ⟨1⟩ ⟨2⟩ [RepairSample.terminalSlice] [RepairSample.writer] (by decide)
    (by decide) (by decide)

/-- The repair of no slice is not admitted, though it shares no path with any writer. -/
theorem empty_repair_not_admitted :
    ¬ ∀ (runId : RunId) (repairDecisionId : UUID) (repairSet : List RepairSlice)
      (activeWriters : List ActiveWriter), (repairSet.map (·.sliceId)).Nodup →
      (∀ item ∈ repairSet, item.status ∈ terminalStatuses) →
      ∃ admission,
        evaluateJointRepairDispatch runId repairDecisionId repairSet activeWriters =
          .ok admission ∧
        (admission.admitted = true ↔ ¬ SharesPath repairSet activeWriters) := by
  intro always
  obtain ⟨admission, evaluated, exact_⟩ := always ⟨1⟩ ⟨2⟩ [] [] (by simp) (by simp)
  have refused : admission.admitted = false := by
    cases evaluated
    rfl
  have apart : ¬ SharesPath [] [] := by
    rintro ⟨_, ⟨_, member, _⟩, _⟩
    exact absurd member List.not_mem_nil
  rw [exact_.mpr apart] at refused
  exact absurd refused (by decide)

end CodeMigrator
