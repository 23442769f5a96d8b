import CodeMigrator.Runtime.RepairDispatch

/-!
# What a refused repair costs

A dispatch that is refused before the runner is called leaves the attempt gate and the
coordinator as they were exactly when the Run's verified head was known before, and the refusal
did not come from the budget: `dispatch` registers the head before the joint scope is judged, and
books the attempt with its evidence before the budget is asked.
-/

namespace CodeMigrator
open Lib

/-! ## The parts that a dispatch books in -/

/-- The attempts, the evidence, the queue and the verified heads are the same. -/
structure GlobalRepairOrchestrator.Untouched
    (before after : GlobalRepairOrchestrator) : Prop where
  attempts : after.attemptGate.attempts = before.attemptGate.attempts
  evidence : after.attemptGate.evidence = before.attemptGate.evidence
  queue : after.coordinator.queue = before.coordinator.queue
  verifiedOids : after.coordinator.verifiedOids = before.coordinator.verifiedOids

namespace RepairDispatchRequest

/-- The repair is admitted and its session prepared. -/
def Prepared (request : RepairDispatchRequest) (jsonSize : EventData → Option Nat)
    (dispatch : RepairSessionDispatch) : Prop :=
  ∃ admission session,
    evaluateJointRepairDispatch request.decision.runId request.decision.decisionId
      request.repairSlices request.activeWriters = .ok admission ∧
    admission.session = some session ∧ prepareDispatch jsonSize request session = .ok dispatch

/-- The gate takes the evidence of the request for a new attempt. -/
def Fresh (request : RepairDispatchRequest) (gate : RepairAttemptGate) : Prop :=
  request.evidenceKey ∉ gate.seen (request.runId, request.decisionId) ∧
    gate.count (request.runId, request.decisionId) < gate.limit

/-- Admission, brief and gate let the request pass, and then the budget refuses it. -/
def MeetsClosedBudget (request : RepairDispatchRequest) (ports : RepairPorts)
    (gate : RepairAttemptGate) : Prop :=
  ∃ dispatch admits, request.Prepared ports.jsonSize dispatch ∧ request.Fresh gate ∧
    ports.admits = some admits ∧ admits dispatch.identity = some false

/-- The condition under which a refusal costs nothing: the slices of the decision have changed,
or the Run's verified head is known and either is another one or no closed budget is met. -/
def RefusedFree (request : RepairDispatchRequest) (ports : RepairPorts)
    (orchestrator : GlobalRepairOrchestrator) : Prop :=
  request.SlicesMatch → ∃ known,
    orchestrator.coordinator.latestVerifiedOid request.runId = some known ∧
    (known = request.verifiedHeadOid →
      ¬ request.MeetsClosedBudget ports orchestrator.attemptGate)

end RepairDispatchRequest

/-! ## The gate -/

namespace RepairAttemptGate

theorem remembered_eq {gate : RepairAttemptGate} {key : RepairKey}
    (present : 0 < (gate.seen key).card) : gate.remembered key = gate := by
  cases found : gate.evidence.get? key with
  | none => simp [seen, found] at present
  | some known =>
    have same : gate.evidence.set key (gate.seen key) = gate.evidence := by
      apply Dict.set_of_get?
      simp [seen, found]
    cases gate
    simp only [remembered, mk.injEq, true_and]
    exact same

theorem tryStart_cases (gate : RepairAttemptGate) {runId decisionId evidenceKey : String}
    (isRun : NonEmptyText runId) (isDecision : NonEmptyText decisionId)
    (isEvidence : NonEmptyText evidenceKey) :
    (¬ (evidenceKey ∉ gate.seen (runId, decisionId) ∧
        gate.count (runId, decisionId) < gate.limit) ∧
      ∃ admission, gate.tryStart runId decisionId evidenceKey = (gate, .ok admission) ∧
        admission.attempt = none) ∨
    ∃ (fresh : evidenceKey ∉ gate.seen (runId, decisionId))
      (below : gate.count (runId, decisionId) < gate.limit) (admission : RepairAttemptAdmission),
      gate.tryStart runId decisionId evidenceKey =
        (gate.booked (runId, decisionId) evidenceKey fresh below, .ok admission) ∧
      admission.attempt = some (gate.count (runId, decisionId) + 1) := by
  unfold NonEmptyText at isRun isDecision isEvidence
  by_cases known : evidenceKey ∈ gate.seen (runId, decisionId)
  · have kept : gate.remembered (runId, decisionId) = gate :=
      remembered_eq (Finset.card_pos.mpr ⟨evidenceKey, known⟩)
    refine Or.inl ⟨fun both => both.1 known, ⟨.duplicateEvidence, none, rfl⟩, ?_, rfl⟩
    simp [tryStart, isRun, isDecision, isEvidence, known, kept]
  by_cases full : gate.limit ≤ gate.count (runId, decisionId)
  · have counted : gate.count (runId, decisionId) = (gate.seen (runId, decisionId)).card :=
      gate.counted (runId, decisionId)
    have positive := gate.limitIsPositive
    have kept : gate.remembered (runId, decisionId) = gate := remembered_eq (by omega)
    refine Or.inl ⟨fun both => absurd both.2 (by omega), ⟨.repairRetryExhausted, none, rfl⟩, ?_,
      rfl⟩
    simp [tryStart, isRun, isDecision, isEvidence, known, kept, full]
  · have below : gate.count (runId, decisionId) < gate.limit := Nat.lt_of_not_le full
    refine Or.inr ⟨known, below, ⟨.admitted, some (gate.count (runId, decisionId) + 1), rfl⟩, ?_,
      rfl⟩
    simp [tryStart, isRun, isDecision, isEvidence, known, full]

theorem booked_evidence_ne {gate : RepairAttemptGate} {key : RepairKey} {evidence : String}
    (fresh : evidence ∉ gate.seen key) (below : gate.count key < gate.limit) :
    (gate.booked key evidence fresh below).evidence ≠ gate.evidence := by
  intro same
  have listed : evidence ∈ (gate.booked key evidence fresh below).seen key := by
    simp [booked, seen]
  apply fresh
  rw [seen, ← same]
  exact listed

end RepairAttemptGate

/-! ## One lemma for each part of a dispatch -/

theorem nonEmptyText_str (id : UUID) : NonEmptyText id.str := by
  have hyphen : '-' ∈ id.str.toList := by
    simp [UUID.str, UUID.hyphenate]
  rw [NonEmptyText, isBlank, List.all_eq_false]
  exact ⟨'-', hyphen, by decide⟩

theorem NonEmptyText.ne_empty {value : String} (text : NonEmptyText value) : value ≠ "" := by
  rintro rfl
  exact absurd text (by decide)

namespace GlobalRepairOrchestrator

variable {ports : RepairPorts} {session : RepairSessionDispatch}

/-- An outcome that refuses without having called the runner. -/
def Idle (orchestrator : GlobalRepairOrchestrator) (outcome : RepairOutcome) : Prop :=
  outcome.1.ran = orchestrator.ran ∧
    ∃ result, outcome.2 = .ok result ∧ result.accepted = false

/-- Two states that differ in the events that the sink took. -/
structure SameBooks (left right : GlobalRepairOrchestrator) : Prop where
  coordinator : left.coordinator = right.coordinator
  attemptGate : left.attemptGate = right.attemptGate
  ran : left.ran = right.ran

theorem sameBooks_emit (ports : RepairPorts) (orchestrator : GlobalRepairOrchestrator)
    (event : EventSpec) :
    SameBooks (orchestrator.emit ports event).1 orchestrator := by
  unfold emit
  cases ports.append with
  | none => exact ⟨rfl, rfl, rfl⟩
  | some append =>
    dsimp only
    split <;> exact ⟨rfl, rfl, rfl⟩

theorem sameBooks_emitting (orchestrator : GlobalRepairOrchestrator) (event : EventSpec)
    (result : RepairDispatchResult) :
    SameBooks (orchestrator.emitting ports event result).1 orchestrator := by
  have told := sameBooks_emit ports orchestrator event
  unfold emitting
  split <;> rename_i emitted <;> rw [emitted] at told <;> exact told

theorem ran_enqueueCandidate (orchestrator : GlobalRepairOrchestrator)
    (request : RepairDispatchRequest) (session : RepairSessionDispatch) (attempt : Nat)
    (execution : RepairExecutionResult) :
    (orchestrator.enqueueCandidate ports request session attempt execution).1.ran =
      orchestrator.ran := by
  unfold enqueueCandidate
  split
  · rfl
  · rfl
  · exact (sameBooks_emitting _ _ _).ran

theorem ran_execute (orchestrator : GlobalRepairOrchestrator) (request : RepairDispatchRequest)
    (session : RepairSessionDispatch) (attempt : Nat) :
    (orchestrator.execute ports request session attempt).1.ran =
      orchestrator.ran ++ [session] := by
  unfold execute
  dsimp only
  split
  · rfl
  · exact (sameBooks_emitting _ _ _).ran
  · split
    · exact (sameBooks_emitting _ _ _).ran
    · exact ran_enqueueCandidate _ _ _ _ _

theorem not_idle_start (orchestrator : GlobalRepairOrchestrator) (request : RepairDispatchRequest)
    (session : RepairSessionDispatch) (attempt : Nat) :
    ¬ orchestrator.Idle (orchestrator.start ports request session attempt) := by
  rintro ⟨quiet, result, returned, -⟩
  unfold start at quiet returned
  split at returned
  · cases returned
  · rename_i told emitted
    have books := sameBooks_emit ports orchestrator
      ⟨"repair.session.started", request.identityData ++
        [("attempt", .int attempt), ("slice_count", .int request.repairSlices.length)]⟩
    rw [emitted] at books
    rw [emitted] at quiet
    dsimp only at quiet
    rw [ran_execute, books.ran] at quiet
    simp at quiet

theorem idle_askBudget {orchestrator : GlobalRepairOrchestrator} {request : RepairDispatchRequest}
    {attempt : Nat}
    (idle : orchestrator.Idle (orchestrator.askBudget ports request session attempt)) :
    (∃ admits, ports.admits = some admits ∧ admits session.identity = some false) ∧
      SameBooks (orchestrator.askBudget ports request session attempt).1 orchestrator := by
  unfold askBudget at idle ⊢
  cases budget : ports.admits with
  | none =>
    rw [budget] at idle
    exact absurd idle (not_idle_start _ _ _ _)
  | some admits =>
    rw [budget] at idle
    dsimp only at idle ⊢
    cases answer : admits session.identity with
    | none =>
      rw [answer] at idle
      obtain ⟨-, result, returned, -⟩ := idle
      cases returned
    | some admitted =>
      rw [answer] at idle
      cases admitted with
      | true => exact absurd idle (not_idle_start _ _ _ _)
      | false => exact ⟨⟨admits, rfl, answer⟩, sameBooks_emitting _ _ _⟩

/-- What a refusal leaves of the books: all of them, or it has booked new evidence. -/
def Settles (orchestrator : GlobalRepairOrchestrator) (closed : Prop) (outcome : RepairOutcome) :
    Prop :=
  ¬ closed ∧ SameBooks outcome.1 orchestrator ∨
    closed ∧ outcome.1.coordinator = orchestrator.coordinator ∧
      outcome.1.attemptGate.evidence ≠ orchestrator.attemptGate.evidence

theorem settles_blocked {orchestrator : GlobalRepairOrchestrator} {closed : Prop}
    (request : RepairDispatchRequest) (reason : String) (session : Option RepairSessionDispatch)
    (attempt : Option Nat) (open_ : ¬ closed) :
    orchestrator.Settles closed (orchestrator.blocked ports request reason session attempt) :=
  Or.inl ⟨open_, sameBooks_emitting _ _ _⟩

/-- The budget's refusal of a prepared session. -/
def BudgetCloses (orchestrator : GlobalRepairOrchestrator) (ports : RepairPorts)
    (request : RepairDispatchRequest) (session : RepairSessionDispatch) : Prop :=
  request.Fresh orchestrator.attemptGate ∧
    ∃ admits, ports.admits = some admits ∧ admits session.identity = some false

theorem nonEmptyText_runId (request : RepairDispatchRequest) : NonEmptyText request.runId :=
  nonEmptyText_str request.decision.runId

theorem nonEmptyText_decisionId (request : RepairDispatchRequest) :
    NonEmptyText request.decisionId :=
  nonEmptyText_str request.decision.decisionId

theorem settles_bookAttempt {orchestrator : GlobalRepairOrchestrator}
    {request : RepairDispatchRequest}
    (idle : orchestrator.Idle (orchestrator.bookAttempt ports request session)) :
    orchestrator.Settles (orchestrator.BudgetCloses ports request session)
      (orchestrator.bookAttempt ports request session) := by
  unfold bookAttempt at idle ⊢
  have cases_ := orchestrator.attemptGate.tryStart_cases (nonEmptyText_runId request)
    (nonEmptyText_decisionId request) request.evidenceIsText
  rcases cases_ with
    ⟨stale, admission, tried, unnumbered⟩ | ⟨fresh, below, admission, tried, numbered⟩
  · -- the gate refuses, and is as it was
    simp only [tried, unnumbered]
    have open_ : ¬ orchestrator.BudgetCloses ports request session := by
      rintro ⟨fresh, -⟩
      exact stale fresh
    exact Or.inl ⟨open_, sameBooks_emitting _ _ _⟩
  · -- the attempt is booked, so only the budget can have refused
    simp only [tried, numbered] at idle ⊢
    obtain ⟨closed, books⟩ := idle_askBudget idle
    refine Or.inr ⟨⟨⟨fresh, below⟩, closed⟩, books.coordinator, ?_⟩
    rw [books.attemptGate]
    exact RepairAttemptGate.booked_evidence_ne fresh below

theorem settles_prepare {orchestrator : GlobalRepairOrchestrator}
    {request : RepairDispatchRequest} {session : GlobalRepairSession}
    (idle : orchestrator.Idle (orchestrator.prepare ports request session)) :
    orchestrator.Settles
      (∃ dispatch, prepareDispatch ports.jsonSize request session = .ok dispatch ∧
        orchestrator.BudgetCloses ports request dispatch)
      (orchestrator.prepare ports request session) := by
  unfold prepare at idle ⊢
  cases prepared : prepareDispatch ports.jsonSize request session with
  | error fault =>
    rw [prepared] at idle
    cases fault with
    | raised =>
      obtain ⟨-, result, returned, -⟩ := idle
      cases returned
    | valueError text =>
      apply settles_blocked
      rintro ⟨dispatch, found, -⟩
      cases found
  | ok dispatch =>
    rw [prepared] at idle
    dsimp only at idle ⊢
    rcases settles_bookAttempt idle with ⟨open_, books⟩ | ⟨closes, booked⟩
    · refine Or.inl ⟨?_, books⟩
      rintro ⟨other, found, closes⟩
      cases found
      exact open_ closes
    · exact Or.inr ⟨⟨dispatch, rfl, closes⟩, booked⟩

theorem settles_admitJoint {orchestrator : GlobalRepairOrchestrator}
    {request : RepairDispatchRequest}
    (idle : orchestrator.Idle (orchestrator.admitJoint ports request)) :
    orchestrator.Settles (request.MeetsClosedBudget ports orchestrator.attemptGate)
      (orchestrator.admitJoint ports request) := by
  unfold admitJoint at idle ⊢
  cases evaluated : evaluateJointRepairDispatch request.decision.runId
      request.decision.decisionId request.repairSlices request.activeWriters with
  | error text =>
    rw [evaluated] at idle
    obtain ⟨-, result, returned, -⟩ := idle
    cases returned
  | ok admission =>
    rw [evaluated] at idle
    dsimp only at idle ⊢
    cases exposed : admission.session with
    | none =>
      apply settles_blocked
      rintro ⟨dispatch, admits, ⟨other, session, same, found, -⟩, -⟩
      rw [evaluated, Except.ok.injEq] at same
      rw [← same, exposed] at found
      cases found
    | some session =>
      rw [exposed] at idle
      rcases settles_prepare idle with ⟨open_, books⟩ | ⟨closes, booked⟩
      · refine Or.inl ⟨?_, books⟩
        rintro ⟨dispatch, admits, ⟨other, held, same, found, prepared⟩, fresh, closed⟩
        rw [evaluated, Except.ok.injEq] at same
        rw [← same, exposed, Option.some.injEq] at found
        rw [← found] at prepared
        exact open_ ⟨dispatch, prepared, fresh, admits, closed⟩
      · obtain ⟨dispatch, prepared, fresh, admits, closed⟩ := closes
        exact Or.inr ⟨⟨dispatch, admits, ⟨admission, session, evaluated, exposed, prepared⟩,
          fresh, closed⟩, booked⟩

/-! ## The registered head -/

theorem register_cases (coordinator : IntegrationCoordinator) {runId verifiedOid : String}
    (isRun : runId ≠ "") (isHead : verifiedOid ≠ "") :
    (∃ known text, coordinator.latestVerifiedOid runId = some known ∧ known ≠ verifiedOid ∧
      coordinator.registerVerifiedHead runId verifiedOid = (coordinator, .error text)) ∨
    (coordinator.latestVerifiedOid runId = some verifiedOid ∧
      coordinator.registerVerifiedHead runId verifiedOid = (coordinator, .ok ())) ∨
    (coordinator.latestVerifiedOid runId = none ∧
      coordinator.registerVerifiedHead runId verifiedOid =
        ({ coordinator with
            verifiedOids := coordinator.verifiedOids.set runId verifiedOid }, .ok ())) := by
  unfold IntegrationCoordinator.registerVerifiedHead
  cases found : coordinator.latestVerifiedOid runId with
  | none => exact Or.inr (Or.inr ⟨rfl, by simp [isRun, isHead]⟩)
  | some known =>
    by_cases same : known = verifiedOid
    · subst same
      have kept : coordinator.verifiedOids.set runId known = coordinator.verifiedOids :=
        Dict.set_of_get? found
      exact Or.inr (Or.inl ⟨rfl, by simp [isRun, isHead, kept]⟩)
    · refine Or.inl ⟨known, "verified head may only advance through integration completion",
        rfl, same, ?_⟩
      simp [isRun, isHead, same]

theorem registered_admitJoint {orchestrator : GlobalRepairOrchestrator}
    {coordinator : IntegrationCoordinator} {request : RepairDispatchRequest} {oid : String}
    (idle : orchestrator.Idle (admitJoint ports { orchestrator with coordinator :=
      { coordinator with verifiedOids := coordinator.verifiedOids.set request.runId oid } }
      request)) :
    (admitJoint ports { orchestrator with coordinator :=
      { coordinator with verifiedOids := coordinator.verifiedOids.set request.runId oid } }
      request).1.coordinator.latestVerifiedOid request.runId = some oid := by
  rcases settles_admitJoint idle with ⟨-, books⟩ | ⟨-, same, -⟩
  · rw [books.coordinator]
    simp [IntegrationCoordinator.latestVerifiedOid]
  · rw [same]
    simp [IntegrationCoordinator.latestVerifiedOid]

/-- A dispatch that is refused without having called the runner leaves the attempts, the
evidence, the queue and the verified heads as they were exactly under `RefusedFree`. -/
theorem refused_untouched_iff (ports : RepairPorts) (orchestrator : GlobalRepairOrchestrator)
    (request : RepairDispatchRequest) (result : RepairDispatchResult)
    (returned : (orchestrator.dispatch ports request).2 = .ok result)
    (refused : result.accepted = false)
    (notCalled : (orchestrator.dispatch ports request).1.ran = orchestrator.ran) :
    orchestrator.Untouched (orchestrator.dispatch ports request).1 ↔
      request.RefusedFree ports orchestrator := by
  have idle : orchestrator.Idle (orchestrator.dispatch ports request) :=
    ⟨notCalled, result, returned, refused⟩
  clear returned refused notCalled
  unfold dispatch at idle ⊢
  by_cases slices : request.SlicesMatch
  case neg =>
    simp only [slices, not_false_eq_true, if_true]
    exact ⟨fun _ same => absurd same slices, fun _ => ⟨rfl, rfl, rfl, rfl⟩⟩
  simp only [slices, not_true_eq_false, if_false] at idle ⊢
  rcases register_cases orchestrator.coordinator (nonEmptyText_runId request).ne_empty
      request.headIsText.ne_empty with
    ⟨known, text, found, other, registered⟩ | ⟨found, registered⟩ | ⟨absent, registered⟩
  · -- a stale head refuses before anything is booked
    simp only [registered]
    exact ⟨fun _ _ => ⟨known, found, fun same => absurd same other⟩,
      fun _ => ⟨rfl, rfl, rfl, rfl⟩⟩
  · -- the head is known, so only the attempt gate can change
    simp only [registered] at idle ⊢
    rcases settles_admitJoint idle with ⟨open_, books⟩ | ⟨closed, -, evidence⟩
    · refine ⟨fun _ _ => ⟨_, found, fun _ => open_⟩, fun _ => ?_⟩
      exact ⟨by rw [books.attemptGate], by rw [books.attemptGate], by rw [books.coordinator],
        by rw [books.coordinator]⟩
    · refine ⟨fun same => absurd same.evidence evidence, fun free => ?_⟩
      obtain ⟨known, again, free⟩ := free slices
      rw [found, Option.some.injEq] at again
      exact absurd closed (free again.symm)
  · -- the head was not known: registering it has changed the coordinator
    simp only [registered] at idle ⊢
    have known := registered_admitJoint idle
    refine ⟨fun same => ?_, fun free => ?_⟩
    · rw [IntegrationCoordinator.latestVerifiedOid, same.verifiedOids] at known
      rw [IntegrationCoordinator.latestVerifiedOid, known] at absent
      cases absent
    · obtain ⟨other, found, -⟩ := free slices
      rw [absent] at found
      cases found

end GlobalRepairOrchestrator

/-! ### A closed budget -/

namespace RepairSample

/-- The slice that the decision repairs. -/
def repaired : RepairSlice :=
  ⟨(UUID.mk 3).str, "TERMINAL", ⟨⟨[file], []⟩⟩, nonEmptyText_str _, terminalSlice.statusIsText⟩

/-- A request that passes every check of `dispatch` but the budget's. -/
def request : RepairDispatchRequest where
  decision := ⟨⟨2⟩, ⟨1⟩, [⟨3⟩]⟩
  repairSlices := [repaired]
  activeWriters := []
  evidence := ⟨[⟨3⟩], .reliable, false, false, []⟩
  failureFacts := ⟨["test"], [("error", .str "assertion")], [], by decide, by simp, by simp⟩
  scopeIndex := ⟨[file], [], by simp⟩
  repairHistory := []
  sourceSnapshotOid := "s0"
  contractRefs := ["c"]
  domainWorkspaceRefs := ["w"]
  verifiedHeadOid := "v0"
  verificationRequirements := ["r"]
  evidenceKey := "e0"
  originalSliceId := "s1"
  originalGeneration := 0
  casRefValidator := none
  slicesGiven := by simp
  slicesAreDistinct := by simp
  requirementsGiven := by decide
  headIsText := by decide
  evidenceIsText := by decide
  refsHaveValidator := by simp

/-- A gate that has counted nothing. -/
def gate : RepairAttemptGate :=
  ⟨3, .empty, .empty, Nat.succ_pos 2, by simp, by simp⟩

/-- The verified head of the Run is registered. -/
def orchestrator : GlobalRepairOrchestrator :=
  ⟨⟨[], none, Dict.empty.set (UUID.mk 1).str "v0", ∅⟩, gate, [], []⟩

/-- The budget refuses every session. -/
def ports : RepairPorts :=
  ⟨fun _ => some 2, none, some (fun _ => some false), fun _ => .failed⟩

/-- The file of the request is being written. -/
def contended : RepairDispatchRequest :=
  { request with activeWriters := [RepairSample.writer] }

end RepairSample

/-- A writer in the way: the refusal costs nothing, for the head is known. -/
theorem refused_untouched_iff_sample :
    RepairSample.orchestrator.Untouched
        (RepairSample.orchestrator.dispatch RepairSample.ports RepairSample.contended).1 ↔
      RepairSample.contended.RefusedFree RepairSample.ports RepairSample.orchestrator :=
  GlobalRepairOrchestrator.refused_untouched_iff RepairSample.ports RepairSample.orchestrator
    RepairSample.contended (.refused "IN_FLIGHT_SCOPE_CONFLICT" none none) rfl rfl rfl

/-- The closed budget refuses the request after its attempt was counted. -/
theorem closed_budget_costs_attempt :
    ¬ ∀ (ports : RepairPorts) (orchestrator : GlobalRepairOrchestrator)
      (request : RepairDispatchRequest) (result : RepairDispatchResult),
      (orchestrator.dispatch ports request).2 = .ok result → result.accepted = false →
      (orchestrator.dispatch ports request).1.ran = orchestrator.ran →
      orchestrator.Untouched (orchestrator.dispatch ports request).1 := by
  intro always
  obtain ⟨result, returned, refused⟩ : ∃ result,
      (RepairSample.orchestrator.dispatch RepairSample.ports RepairSample.request).2 =
        .ok result ∧ result.accepted = false := ⟨_, rfl, rfl⟩
  have untouched := always RepairSample.ports RepairSample.orchestrator RepairSample.request
    result returned refused rfl
  have counted := congrArg (fun attempts => attempts.entries.length) untouched.attempts
  exact absurd counted (by decide)

end CodeMigrator
