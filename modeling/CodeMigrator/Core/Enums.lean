/-!
# Enumerations

The members of `core/enums.py`, `analysis/models.py`, `core/models/plan.py` and
`runtime/loop_contracts.py` that the modelled code uses, each with its wire value.
`Enum(value)` looks a member up by its value.
-/

namespace CodeMigrator

/-- `RunStatus`. -/
inductive RunStatus where
  | created | planning | executing | verifying | reporting
  | completed | partiallyCompleted | failed | cancelled
  deriving DecidableEq, Repr

namespace RunStatus

def value : RunStatus → String
  | created => "CREATED"
  | planning => "PLANNING"
  | executing => "EXECUTING"
  | verifying => "VERIFYING"
  | reporting => "REPORTING"
  | completed => "COMPLETED"
  | partiallyCompleted => "PARTIALLY_COMPLETED"
  | failed => "FAILED"
  | cancelled => "CANCELLED"

def all : List RunStatus :=
  [created, planning, executing, verifying, reporting, completed, partiallyCompleted,
    failed, cancelled]

/-- `RunStatus(value)`. -/
def ofValue (text : String) : Option RunStatus := all.find? (fun member => member.value == text)

/-- `_TERMINAL_STATUSES` (`runtime/actor.py`). -/
def isTerminal : RunStatus → Bool
  | completed | partiallyCompleted | failed | cancelled => true
  | _ => false

@[simp] theorem ofValue_value (member : RunStatus) : ofValue member.value = some member := by
  cases member <;> decide

end RunStatus

/-- `FailureReason`. -/
inductive FailureReason where
  | analysisFailed | dossierInconsistent | planFailed | executionFailed
  | verificationTerminal | reportGenerationFailed | budgetExhausted | resourceExhausted
  | outputLimitExceeded | sliceRegenerationExhausted | nondeterministicVerification
  deriving DecidableEq, Repr

namespace FailureReason

def value : FailureReason → String
  | analysisFailed => "ANALYSIS_FAILED"
  | dossierInconsistent => "DOSSIER_INCONSISTENT"
  | planFailed => "PLAN_FAILED"
  | executionFailed => "EXECUTION_FAILED"
  | verificationTerminal => "VERIFICATION_TERMINAL"
  | reportGenerationFailed => "REPORT_GENERATION_FAILED"
  | budgetExhausted => "BUDGET_EXHAUSTED"
  | resourceExhausted => "RESOURCE_EXHAUSTED"
  | outputLimitExceeded => "OUTPUT_LIMIT_EXCEEDED"
  | sliceRegenerationExhausted => "SLICE_REGENERATION_EXHAUSTED"
  | nondeterministicVerification => "NONDETERMINISTIC_VERIFICATION"

def all : List FailureReason :=
  [analysisFailed, dossierInconsistent, planFailed, executionFailed, verificationTerminal,
    reportGenerationFailed, budgetExhausted, resourceExhausted, outputLimitExceeded,
    sliceRegenerationExhausted, nondeterministicVerification]

/-- `FailureReason(value)`. -/
def ofValue (text : String) : Option FailureReason :=
  all.find? (fun member => member.value == text)

@[simp] theorem ofValue_value (member : FailureReason) : ofValue member.value = some member := by
  cases member <;> decide

end FailureReason

/-- `Phase`. -/
inductive Phase where
  | plan | execute | verify | report
  deriving DecidableEq, Repr

namespace Phase

def value : Phase → String
  | plan => "PLAN"
  | execute => "EXECUTE"
  | verify => "VERIFY"
  | report => "REPORT"

def all : List Phase := [plan, execute, verify, report]

/-- `Phase(value)`. -/
def ofValue (text : String) : Option Phase := all.find? (fun member => member.value == text)

@[simp] theorem ofValue_value (member : Phase) : ofValue member.value = some member := by
  cases member <;> decide

end Phase

/-- `SessionKind`. -/
inductive SessionKind where
  | analyzeAuxiliary | planAuxiliary | contract | implementation | testTranslation
  | testGeneration | exploreCoordinator | executeSupervisor | repairSession
  deriving DecidableEq, Repr

namespace SessionKind

def value : SessionKind → String
  | analyzeAuxiliary => "ANALYZE_AUXILIARY"
  | planAuxiliary => "PLAN_AUXILIARY"
  | contract => "CONTRACT"
  | implementation => "IMPLEMENTATION"
  | testTranslation => "TEST_TRANSLATION"
  | testGeneration => "TEST_GENERATION"
  | exploreCoordinator => "EXPLORE_COORDINATOR"
  | executeSupervisor => "EXECUTE_SUPERVISOR"
  | repairSession => "REPAIR_SESSION"

def all : List SessionKind :=
  [analyzeAuxiliary, planAuxiliary, contract, implementation, testTranslation, testGeneration,
    exploreCoordinator, executeSupervisor, repairSession]

/-- `SessionKind(value)`. -/
def ofValue (text : String) : Option SessionKind :=
  all.find? (fun member => member.value == text)

/-- The session kinds that write a Slice (`runtime/actor.py`, both terminal checks). -/
def writes : SessionKind → Bool
  | contract | implementation | testTranslation | testGeneration | repairSession => true
  | _ => false

@[simp] theorem ofValue_value (member : SessionKind) : ofValue member.value = some member := by
  cases member <;> decide

end SessionKind

/-- `SessionState` (`runtime/loop_contracts.py`). -/
inductive SessionState where
  | created | running | checkpointPending | closed | invalidated | failed
  deriving DecidableEq, Repr

namespace SessionState

def value : SessionState → String
  | created => "CREATED"
  | running => "RUNNING"
  | checkpointPending => "CHECKPOINT_PENDING"
  | closed => "CLOSED"
  | invalidated => "INVALIDATED"
  | failed => "FAILED"

def all : List SessionState := [created, running, checkpointPending, closed, invalidated, failed]

/-- `SessionState(value)`. -/
def ofValue (text : String) : Option SessionState :=
  all.find? (fun member => member.value == text)

@[simp] theorem ofValue_value (member : SessionState) : ofValue member.value = some member := by
  cases member <;> decide

end SessionState

/-- `SessionExit` (`runtime/loop_contracts.py`). -/
inductive SessionExit where
  | completed | failed | budgetExhausted | segmentStopped | invalidated
  deriving DecidableEq, Repr

namespace SessionExit

def value : SessionExit → String
  | completed => "COMPLETED"
  | failed => "FAILED"
  | budgetExhausted => "BUDGET_EXHAUSTED"
  | segmentStopped => "SEGMENT_STOPPED"
  | invalidated => "INVALIDATED"

def all : List SessionExit := [completed, failed, budgetExhausted, segmentStopped, invalidated]

/-- `SessionExit(value)`. -/
def ofValue (text : String) : Option SessionExit :=
  all.find? (fun member => member.value == text)

@[simp] theorem ofValue_value (member : SessionExit) : ofValue member.value = some member := by
  cases member <;> decide

end SessionExit

/-- `SliceKind`. -/
inductive SliceKind where
  | contract | implementation | testTranslation | testGeneration
  deriving DecidableEq, Repr

/-- `ArtifactKind`. -/
inductive ArtifactKind where
  | generatedCode | declarativeConfig | resourceFile
  deriving DecidableEq, Repr

/-- `PlanEdgeKind`. -/
inductive PlanEdgeKind where
  | requires | orderedBefore
  deriving DecidableEq, Repr

/-- `ModuleRole` (`analysis/models.py`). -/
inductive ModuleRole where
  | source | test
  deriving DecidableEq, Repr

/-- The wire value of a module role. -/
def ModuleRole.value : ModuleRole → String
  | source => "SOURCE"
  | test => "TEST"

/-- `ModuleCoverage` (`analysis/models.py`). -/
inductive ModuleCoverage where
  | covered | emptyTestSuite | undetermined
  deriving DecidableEq, Repr

/-- The wire value of a module coverage. -/
def ModuleCoverage.value : ModuleCoverage → String
  | covered => "COVERED"
  | emptyTestSuite => "EMPTY_TEST_SUITE"
  | undetermined => "UNDETERMINED"

/-- `EdgeProvenance` (`core/models/plan.py`). -/
inductive EdgeProvenance where
  | structural | importStatic | importUnknown | coverage | writeScopeConflict
  deriving DecidableEq, Repr

/-- `CheckAction`. -/
inductive CheckAction where
  | scaffold | compile | test | lint | typeCheck
  deriving DecidableEq, Repr

/-- `ResidentRole`. -/
inductive ResidentRole where
  | exploreCoordinator | executeSupervisor
  deriving DecidableEq, Repr

/-- `AdviceKind`. -/
inductive AdviceKind where
  | exploreReassignment | repairDecision | routeSuggestion | planRevision | askUser
  deriving DecidableEq, Repr

/-- The members of `StableErrorCode` (`core/errors.py`) that the modelled code raises. -/
inductive StableErrorCode where
  | staleVersion | phaseStatusMismatch | recoveryLedgerInconsistent
  | planCycle | planScopeConflict | planBlueprintViolation | planCoverageInvalid
  | planSizeExceeded | planEdgeInvalid | planRankInconsistent | planProposalInvalid
  deriving DecidableEq, Repr

end CodeMigrator
