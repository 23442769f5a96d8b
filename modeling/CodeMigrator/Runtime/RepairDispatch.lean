import CodeMigrator.Core.Verification
import CodeMigrator.Runtime.Contracts
import CodeMigrator.Runtime.IntegrationQueue
import CodeMigrator.Runtime.RepairAdmission
import Mathlib.Data.Finset.Card

/-!
# Dispatch of a global repair

`GlobalRepairOrchestrator.dispatch` of `runtime/repair.py` with the components that it books in:
the coordinator's verified heads and the gate that counts the attempts of a repair decision. The
ports of the orchestrator are parameters; what was handed to the event sink and to the runner is
kept in the state, so that a dispatch that never reached the runner can be told apart.
-/

namespace CodeMigrator
open Lib

/-! ## The attempt gate -/

/-- The key of the gate's counters: a run and a repair decision. -/
abbrev RepairKey := String × String

/-- `RepairAttemptGate`: every attempt has evidence of its own, and no more than `limit` are
counted for a key. -/
structure RepairAttemptGate where
  limit : Nat
  attempts : Dict RepairKey Nat
  evidence : Dict RepairKey (Finset String)
  limitIsPositive : 1 ≤ limit
  counted : ∀ key, (attempts.get? key).getD 0 = ((evidence.get? key).getD ∅).card
  limited : ∀ key, (attempts.get? key).getD 0 ≤ limit

/-- The reasons of a `RepairAttemptAdmission`. -/
inductive RepairAttemptReason where
  | admitted | duplicateEvidence | repairRetryExhausted
  deriving DecidableEq, Repr

/-- The text of a reason. -/
def RepairAttemptReason.text : RepairAttemptReason → String
  | admitted => "ADMITTED"
  | duplicateEvidence => "DUPLICATE_EVIDENCE"
  | repairRetryExhausted => "REPAIR_RETRY_EXHAUSTED"

/-- `RepairAttemptAdmission`: exactly the accepted ones have a number. -/
structure RepairAttemptAdmission where
  reason : RepairAttemptReason
  attempt : Option Nat
  numbered : attempt.isSome = decide (reason = .admitted)
  deriving DecidableEq

namespace RepairAttemptGate

/-- `self._attempts.get(key, 0)`. -/
def count (gate : RepairAttemptGate) (key : RepairKey) : Nat := (gate.attempts.get? key).getD 0

/-- The evidence that was seen for a key. -/
def seen (gate : RepairAttemptGate) (key : RepairKey) : Finset String :=
  (gate.evidence.get? key).getD ∅

/-- `self._evidence.setdefault(key, set())`. -/
def remembered (gate : RepairAttemptGate) (key : RepairKey) : RepairAttemptGate :=
  { gate with
    evidence := gate.evidence.set key (gate.seen key)
    counted := by
      intro query
      rw [gate.counted query, Dict.get?_set]
      split
      · rename_i same
        rw [same]
        rfl
      · rfl }

/-- `seen.add(evidence)` with the attempt that it counts. -/
def booked (gate : RepairAttemptGate) (key : RepairKey) (evidence : String)
    (fresh : evidence ∉ gate.seen key) (below : gate.count key < gate.limit) :
    RepairAttemptGate :=
  { gate with
    attempts := gate.attempts.set key (gate.count key + 1)
    evidence := gate.evidence.set key (insert evidence (gate.seen key))
    counted := by
      intro query
      rw [Dict.get?_set, Dict.get?_set]
      split
      · have grown : (insert evidence (gate.seen key)).card = (gate.seen key).card + 1 :=
          Finset.card_insert_of_notMem fresh
        have before : gate.count key = (gate.seen key).card := gate.counted key
        rw [Option.getD_some, Option.getD_some, grown, before]
      · exact gate.counted query
    limited := by
      intro query
      rw [Dict.get?_set]
      split
      · exact below
      · exact gate.limited query }

/-- `try_start`; an error is the text of its `ValueError`. -/
def tryStart (gate : RepairAttemptGate) (runId repairDecisionId evidenceKey : String) :
    RepairAttemptGate × Except String RepairAttemptAdmission :=
  let key := (runId, repairDecisionId)
  if isBlank runId then (gate, .error "run_id must be non-empty text")
  else if isBlank repairDecisionId then
    (gate, .error "repair_decision_id must be non-empty text")
  else if isBlank evidenceKey then (gate, .error "evidence_key must be non-empty text")
  else if fresh : evidenceKey ∈ gate.seen key then
    (gate.remembered key, .ok ⟨.duplicateEvidence, none, rfl⟩)
  else if below : gate.limit ≤ gate.count key then
    (gate.remembered key, .ok ⟨.repairRetryExhausted, none, rfl⟩)
  else
    (gate.booked key evidenceKey fresh (Nat.lt_of_not_le below),
      .ok ⟨.admitted, some (gate.count key + 1), rfl⟩)

end RepairAttemptGate

/-! ## The facts of a request -/

/-- What stops a dispatch without a result: a `TypeError` or `ValueError` with its text, or
another exception of a port. -/
inductive RepairFault where
  | valueError (text : String)
  | raised
  deriving DecidableEq, Repr

/-- `_CAS_URI.fullmatch(ref)`. -/
def isCasUri (ref : String) : Bool :=
  startsWith ref "cas://" && (ref.toList.drop 6).length == 64 &&
    (ref.toList.drop 6).all (fun c => c.isDigit || ('a' ≤ c && c ≤ 'f') || ('A' ≤ c && c ≤ 'F'))

/-- `RepairFailureFacts`. -/
structure RepairFailureFacts where
  failedTestRefs : List String
  diagnosticSummary : EventData
  casRefs : List String
  testsNamed : failedTestRefs ≠ [] ∧ ∀ ref ∈ failedTestRefs, NonEmptyText ref
  summaryGiven : diagnosticSummary ≠ []
  refsAreUris : ∀ ref ∈ casRefs, isCasUri ref = true
  deriving DecidableEq

/-- `RepairNavigationIndex`; nothing here reads its positions. -/
structure RepairNavigationIndex where
  paths : List RepoRelativePath
  positions : List String
  pathsGiven : paths ≠ []

/-- `RepairHistoryEntry`. -/
structure RepairHistoryEntry where
  decisionId : String
  result : String
  isText : NonEmptyText decisionId ∧ NonEmptyText result
  deriving DecidableEq

/-- `RepairConstraints`. -/
structure RepairConstraints where
  writeScope : WriteScope
  verificationRequirements : List String
  impactPreviewRequired : Bool
  requirementsGiven : verificationRequirements ≠ [] ∧
    ∀ requirement ∈ verificationRequirements, NonEmptyText requirement
  deriving DecidableEq

/-- `RepairBrief`. -/
structure RepairBrief where
  attribution : RepairEvidence
  failureFacts : RepairFailureFacts
  scopeIndex : RepairNavigationIndex
  repairHistory : List RepairHistoryEntry
  constraints : RepairConstraints
  historyIsDistinct : (repairHistory.map (·.decisionId)).Nodup
  candidatesAreDistinct : attribution.candidateSliceSet.Nodup

/-- `RepairSessionIdentity`. -/
structure RepairSessionIdentity where
  runId : RunId
  repairDecisionId : UUID
  deriving DecidableEq

/-- `RepairReadScope`. -/
structure RepairReadScope where
  sourceSnapshotOid : String
  contractRefs : List String
  domainWorkspaceRefs : List String
  verifiedHeadOid : String
  deriving DecidableEq

/-- `RepairSessionDispatch`: its scope is the one of the brief. -/
structure RepairSessionDispatch where
  identity : RepairSessionIdentity
  readScope : RepairReadScope
  writeScope : WriteScope
  brief : RepairBrief
  scopeMatches : writeScope = brief.constraints.writeScope

/-- `RepairExecutionResult`. -/
structure RepairExecutionResult where
  candidateCommitOid : String
  checkpointPassed : Bool
  localVerificationPassed : Bool
  oidIsText : NonEmptyText candidateCommitOid

/-- `RepairDecision`, of which a dispatch reads these fields. It is not frozen: its repair set
may have changed since the request was built. -/
structure RepairDecision where
  decisionId : UUID
  runId : RunId
  repairSet : List SliceId
  deriving DecidableEq

/-- The `cas_ref_validator` of a request: whether a run owns a reference. -/
abbrev CasRefValidator := String → String → Except RepairFault Bool

/-- `RepairDispatchRequest`. -/
structure RepairDispatchRequest where
  decision : RepairDecision
  repairSlices : List RepairSlice
  activeWriters : List ActiveWriter
  evidence : RepairEvidence
  failureFacts : RepairFailureFacts
  scopeIndex : RepairNavigationIndex
  repairHistory : List RepairHistoryEntry
  sourceSnapshotOid : String
  contractRefs : List String
  domainWorkspaceRefs : List String
  verifiedHeadOid : String
  verificationRequirements : List String
  evidenceKey : String
  originalSliceId : String
  originalGeneration : CandidateGeneration
  casRefValidator : Option CasRefValidator
  slicesGiven : repairSlices ≠ []
  slicesAreDistinct : (repairSlices.map (·.sliceId)).Nodup
  requirementsGiven : verificationRequirements ≠ [] ∧
    ∀ requirement ∈ verificationRequirements, NonEmptyText requirement
  headIsText : NonEmptyText verifiedHeadOid
  evidenceIsText : NonEmptyText evidenceKey
  refsHaveValidator : failureFacts.casRefs ≠ [] → casRefValidator.isSome = true

/-- `RepairLineage`. -/
structure RepairLineage where
  runId : String
  originalSliceId : String
  repairDecisionId : String
  originalGeneration : CandidateGeneration
  deriving DecidableEq

/-- `RepairDispatchResult`: an accepted one has its session, its item and its attempt. -/
structure RepairDispatchResult where
  accepted : Bool
  reason : String
  session : Option RepairSessionDispatch
  item : Option IntegrationItem
  attempt : Option Nat
  lineage : Option RepairLineage
  complete : accepted = true → session.isSome ∧ item.isSome ∧ attempt.isSome

/-- `RepairDispatchResult(False, reason)` with what the later refusals report. -/
def RepairDispatchResult.refused (reason : String) (session : Option RepairSessionDispatch)
    (attempt : Option Nat) : RepairDispatchResult :=
  ⟨false, reason, session, none, attempt, none, by simp⟩

/-! ## The brief -/

/-- `any(not cas_ref_validator(ref, run_id) for ref in refs)` is false: every reference is owned,
asked for in order up to the first one that is not. -/
def casRefsOwned (validator : CasRefValidator) (runId : String) :
    List String → Except RepairFault Bool
  | [] => .ok true
  | ref :: refs =>
    match validator ref runId with
    | .error fault => .error fault
    | .ok false => .ok false
    | .ok true => casRefsOwned validator runId refs

/-- The check of the CAS references in `assemble_repair_brief`. -/
def checkCasRefs (facts : RepairFailureFacts) (runId : String)
    (validator : Option CasRefValidator) : Except RepairFault Unit :=
  match validator with
  | none => .ok ()
  | some validator =>
    if facts.casRefs = [] then .ok ()
    else
      match casRefsOwned validator runId facts.casRefs with
      | .error fault => .error fault
      | .ok false => .error (.valueError "CAS reference is not owned by the current run")
      | .ok true => .ok ()

/-- The facts whose summary is only a pointer to the CAS references. -/
def RepairFailureFacts.externalized (facts : RepairFailureFacts) : RepairFailureFacts :=
  { facts with
    diagnosticSummary :=
      [("externalized", .bool true), ("cas_refs", .arr (facts.casRefs.map .str))]
    summaryGiven := by simp }

/-- The facts that the brief carries inline: a summary above the limit needs a CAS reference.
`jsonSize` is `_json_size`; `none` is its `ValueError`. -/
def inlineFacts (jsonSize : EventData → Option Nat) (facts : RepairFailureFacts)
    (maxInlineBytes : Nat) : Except RepairFault RepairFailureFacts :=
  match jsonSize facts.diagnosticSummary with
  | none => .error (.valueError "repair fact is not JSON serializable")
  | some size =>
    if size ≤ maxInlineBytes then .ok facts
    else if facts.casRefs = [] then
      .error (.valueError "oversized failure facts require a controlled cas reference")
    else .ok facts.externalized

/-- `RepairBrief(...)`. -/
def newBrief (attribution : RepairEvidence) (failureFacts : RepairFailureFacts)
    (scopeIndex : RepairNavigationIndex) (repairHistory : List RepairHistoryEntry)
    (constraints : RepairConstraints) : Except RepairFault RepairBrief :=
  if distinct : (repairHistory.map (·.decisionId)).Nodup then
    if candidates : attribution.candidateSliceSet.Nodup then
      .ok ⟨attribution, failureFacts, scopeIndex, repairHistory, constraints, distinct, candidates⟩
    else .error (.valueError "attribution candidate Slice identities must be unique")
  else .error (.valueError "repair_history must not contain duplicate decisions")

/-- `assemble_repair_brief` for the run of a request. -/
def assembleRepairBrief (jsonSize : EventData → Option Nat) (request : RepairDispatchRequest)
    (constraints : RepairConstraints) (maxInlineBytes : Nat) : Except RepairFault RepairBrief :=
  match checkCasRefs request.failureFacts request.decision.runId.str request.casRefValidator with
  | .error fault => .error fault
  | .ok () =>
    match inlineFacts jsonSize request.failureFacts maxInlineBytes with
    | .error fault => .error fault
    | .ok facts =>
      newBrief request.evidence facts request.scopeIndex request.repairHistory constraints

/-- `build_repair_session_dispatch`. -/
def buildRepairSessionDispatch (session : GlobalRepairSession) (readScope : RepairReadScope)
    (brief : RepairBrief) : Except RepairFault RepairSessionDispatch :=
  if matches_ : Repair.freezeScope session.jointWriteScope = brief.constraints.writeScope then
    .ok ⟨⟨session.runId, session.repairDecisionId⟩, readScope,
      Repair.freezeScope session.jointWriteScope, brief, matches_⟩
  else .error (.valueError "repair dispatch scope must match the brief constraints")

/-- The `try` block of `dispatch`: the brief, and the session that is dispatched with it. -/
def prepareDispatch (jsonSize : EventData → Option Nat) (request : RepairDispatchRequest)
    (session : GlobalRepairSession) : Except RepairFault RepairSessionDispatch :=
  let constraints : RepairConstraints :=
    ⟨session.jointWriteScope, request.verificationRequirements, false, request.requirementsGiven⟩
  match assembleRepairBrief jsonSize request constraints (64 * 1024) with
  | .error fault => .error fault
  | .ok brief =>
    buildRepairSessionDispatch session
      ⟨request.sourceSnapshotOid, request.contractRefs, request.domainWorkspaceRefs,
        request.verifiedHeadOid⟩ brief

/-! ## Dispatch -/

/-- How `runner.run` ends. A cancellation is no `Exception`. -/
inductive RunnerOutcome where
  | finished (result : RepairExecutionResult)
  | failed
  | cancelled

/-- The ports of the orchestrator. The event sink says whether it took an event, the budget
whether it admits, with `none` for an exception. -/
structure RepairPorts where
  jsonSize : EventData → Option Nat
  append : Option (EventSpec → Bool)
  admits : Option (RepairSessionIdentity → Option Bool)
  run : RepairSessionDispatch → RunnerOutcome

/-- `GlobalRepairOrchestrator`, with the events that its sink has taken and the dispatches that
its runner was called with. -/
structure GlobalRepairOrchestrator where
  coordinator : IntegrationCoordinator
  attemptGate : RepairAttemptGate
  events : List EventSpec
  ran : List RepairSessionDispatch

/-- What a method of the orchestrator leaves behind, and what it returns or raises. -/
abbrev RepairOutcome := GlobalRepairOrchestrator × Except RepairFault RepairDispatchResult

namespace RepairDispatchRequest

/-- `str(request.decision.run_id)`. -/
def runId (request : RepairDispatchRequest) : String := request.decision.runId.str

/-- `str(request.decision.decision_id)`. -/
def decisionId (request : RepairDispatchRequest) : String := request.decision.decisionId.str

/-- `expected_slices == supplied_slices`. -/
def SlicesMatch (request : RepairDispatchRequest) : Prop :=
  ∀ sliceId ∈ request.decision.repairSet.map UUID.str ++ request.repairSlices.map (·.sliceId),
    sliceId ∈ request.decision.repairSet.map UUID.str ∧
      sliceId ∈ request.repairSlices.map (·.sliceId)

instance decidable_slicesMatch (request : RepairDispatchRequest) :
    Decidable request.SlicesMatch :=
  inferInstanceAs (Decidable (∀ _ ∈ _, _))

/-- The payload that the events of a dispatch begin with. -/
def identityData (request : RepairDispatchRequest) : EventData :=
  [("run_id", .str request.runId), ("repair_decision_id", .str request.decisionId)]

/-- A `repair.session.*` event that gives a reason. -/
def reasonEvent (request : RepairDispatchRequest) (eventType reason : String) : EventSpec :=
  ⟨eventType, request.identityData ++ [("reason", .str reason)]⟩

/-- The item that is queued for integration. -/
def item (request : RepairDispatchRequest) (execution : RepairExecutionResult) :
    IntegrationItem :=
  { runId := request.runId
    sliceId := "repair:" ++ request.decisionId
    generation := none
    candidateCommitOid := execution.candidateCommitOid
    prospectiveChecksPassed := false
    repair := true
    repairDecisionId := some request.decisionId
    replacesSliceId := some request.originalSliceId
    originalGeneration := some request.originalGeneration.val }

end RepairDispatchRequest

namespace GlobalRepairOrchestrator

variable (ports : RepairPorts)

/-- `_emit`; it fails when the sink raises. -/
def emit (orchestrator : GlobalRepairOrchestrator) (event : EventSpec) :
    GlobalRepairOrchestrator × Bool :=
  match ports.append with
  | none => (orchestrator, true)
  | some append =>
    if append event then
      ({ orchestrator with events := orchestrator.events ++ [event] }, true)
    else (orchestrator, false)

/-- An event, and then the result that is returned. -/
def emitting (orchestrator : GlobalRepairOrchestrator) (event : EventSpec)
    (result : RepairDispatchResult) : RepairOutcome :=
  match orchestrator.emit ports event with
  | (told, true) => (told, .ok result)
  | (told, false) => (told, .error .raised)

/-- A refusal that is announced as `repair.session.blocked`. -/
def blocked (orchestrator : GlobalRepairOrchestrator) (request : RepairDispatchRequest)
    (reason : String) (session : Option RepairSessionDispatch) (attempt : Option Nat) :
    RepairOutcome :=
  orchestrator.emitting ports (request.reasonEvent "repair.session.blocked" reason)
    (.refused reason session attempt)

/-- The runner's candidate goes to the integration queue. -/
def enqueueCandidate (orchestrator : GlobalRepairOrchestrator) (request : RepairDispatchRequest)
    (session : RepairSessionDispatch) (attempt : Nat) (execution : RepairExecutionResult) :
    RepairOutcome :=
  match orchestrator.coordinator.enqueueRepair (request.item execution) with
  | (coordinator, .error text) =>
    ({ orchestrator with coordinator := coordinator }, .error (.valueError text))
  | (coordinator, .ok false) =>
    ({ orchestrator with coordinator := coordinator },
      .ok (.refused "INTEGRATION_REJECTED" session attempt))
  | (coordinator, .ok true) =>
    emitting ports { orchestrator with coordinator := coordinator }
      ⟨"repair.session.integration_queued",
        request.identityData ++ [("slice_id", .str (request.item execution).sliceId)]⟩
      ⟨true, "ADMITTED", session, some (request.item execution), attempt, none, by simp⟩

/-- The runner is called, and its result judged. -/
def execute (orchestrator : GlobalRepairOrchestrator) (request : RepairDispatchRequest)
    (session : RepairSessionDispatch) (attempt : Nat) : RepairOutcome :=
  let called := { orchestrator with ran := orchestrator.ran ++ [session] }
  match ports.run session with
  | .cancelled => (called, .error .raised)
  | .failed =>
    called.emitting ports (request.reasonEvent "repair.session.failed" "RUNNER_ERROR")
      (.refused "RUNNER_ERROR" session attempt)
  | .finished execution =>
    if ¬ execution.checkpointPassed ∨ ¬ execution.localVerificationPassed then
      called.emitting ports
        (request.reasonEvent "repair.session.failed" "CHECKPOINT_OR_LOCAL_VERIFY_FAILED")
        (.refused "CHECKPOINT_OR_LOCAL_VERIFY_FAILED" session attempt)
    else called.enqueueCandidate ports request session attempt execution

/-- The session starts, and is executed. -/
def start (orchestrator : GlobalRepairOrchestrator) (request : RepairDispatchRequest)
    (session : RepairSessionDispatch) (attempt : Nat) : RepairOutcome :=
  match orchestrator.emit ports ⟨"repair.session.started", request.identityData ++
      [("attempt", .int attempt), ("slice_count", .int request.repairSlices.length)]⟩ with
  | (told, false) => (told, .error .raised)
  | (told, true) => told.execute ports request session attempt

/-- `self.budget is not None and not await self.budget.admit(dispatch.identity)` decides. -/
def askBudget (orchestrator : GlobalRepairOrchestrator) (request : RepairDispatchRequest)
    (session : RepairSessionDispatch) (attempt : Nat) : RepairOutcome :=
  match ports.admits with
  | none => orchestrator.start ports request session attempt
  | some admits =>
    match admits session.identity with
    | none => (orchestrator, .error .raised)
    | some false => orchestrator.blocked ports request "BUDGET_CLOSED" session attempt
    | some true => orchestrator.start ports request session attempt

/-- The attempt of a prepared session is booked. -/
def bookAttempt (orchestrator : GlobalRepairOrchestrator) (request : RepairDispatchRequest)
    (session : RepairSessionDispatch) : RepairOutcome :=
  match orchestrator.attemptGate.tryStart request.runId request.decisionId
      request.evidenceKey with
  | (gate, .error text) =>
    ({ orchestrator with attemptGate := gate }, .error (.valueError text))
  | (gate, .ok admission) =>
    match admission.attempt with
    | none =>
      blocked ports { orchestrator with attemptGate := gate } request admission.reason.text
        none none
    | some attempt =>
      askBudget ports { orchestrator with attemptGate := gate } request session attempt

/-- The session of an admitted repair is prepared. -/
def prepare (orchestrator : GlobalRepairOrchestrator) (request : RepairDispatchRequest)
    (session : GlobalRepairSession) : RepairOutcome :=
  match prepareDispatch ports.jsonSize request session with
  | .error .raised => (orchestrator, .error .raised)
  | .error (.valueError _) => orchestrator.blocked ports request "BRIEF_REJECTED" none none
  | .ok dispatch => orchestrator.bookAttempt ports request dispatch

/-- The admission of the joint repair is evaluated. -/
def admitJoint (orchestrator : GlobalRepairOrchestrator) (request : RepairDispatchRequest) :
    RepairOutcome :=
  match evaluateJointRepairDispatch request.decision.runId request.decision.decisionId
      request.repairSlices request.activeWriters with
  | .error text => (orchestrator, .error (.valueError text))
  | .ok admission =>
    match admission.session with
    | none => orchestrator.blocked ports request admission.reason.text none none
    | some session => orchestrator.prepare ports request session

/-- `GlobalRepairOrchestrator.dispatch`. -/
def dispatch (orchestrator : GlobalRepairOrchestrator) (request : RepairDispatchRequest) :
    RepairOutcome :=
  if ¬ request.SlicesMatch then
    (orchestrator, .ok (.refused "REPAIR_SET_IDENTITY_MISMATCH" none none))
  else
    match orchestrator.coordinator.registerVerifiedHead request.runId
        request.verifiedHeadOid with
    | (_, .error _) => (orchestrator, .ok (.refused "VERIFIED_HEAD_STALE" none none))
    | (coordinator, .ok ()) =>
      admitJoint ports { orchestrator with coordinator := coordinator } request

end GlobalRepairOrchestrator

end CodeMigrator
