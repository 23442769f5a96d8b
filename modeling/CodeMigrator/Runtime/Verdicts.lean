import CodeMigrator.Runtime.Phases

/-!
# The verdict behind a completed Run

The verification and the report reach the actor in two commands. `_commit_verification` leaves
the verdict in the ledger and moves on to the report whatever it says, and `_commit_report` takes
the status of the report without a look at it. So a completed Run has a passing verification
behind it exactly when no report of a completed Run was committed without one.
-/

namespace CodeMigrator
open Lib

/-- The ledger contains a `run.verify.completed` event with `passed = true`. -/
def RuntimeSnapshot.Verified (snapshot : RuntimeSnapshot) : Prop :=
  ∃ event ∈ snapshot.events, event.eventType = "run.verify.completed" ∧
    Json.field? event.data "passed" = some (.bool true)

/-- A persisted status `COMPLETED` has a passing verification behind it. -/
def CompletedIsVerified (config : ActorConfig) (world : World) : Prop :=
  ∀ snapshot, world.store.load config.runId = some snapshot →
    snapshot.state.status = .completed → snapshot.Verified

/-- The state that a report leaves. -/
def reportedState (state : RunState) (result : ReportSummary) : RunState :=
  { state with status := result.status, version := state.version + 1 }

/-- The events of a report. -/
def reportEvents (state : RunState) (logicalKey : String) (result : ReportSummary) :
    List EventSpec :=
  [⟨"run.report.completed", [("receipt_key", .str logicalKey),
      ("status", .str result.status.value), ("result_sha256", .str result.resultSha256.text)]⟩,
    runStatusChangedEvent (reportedState state result)]

/-- A report of a completed Run is committed in the reporting phase, its key not being in the
ledger, while the ledger has no passing verification. -/
def UnverifiedReport (config : ActorConfig) (world : World) : Input → Prop
  | .message (.workflow ⟨runId, logicalKey, .report result, _⟩) around =>
    runId = config.runId ∧ result.status = .completed ∧
      ∃ snapshot, world.store.load config.runId = some snapshot ∧
        snapshot.state.status = .reporting ∧
        eventForReceipt (some snapshot) logicalKey = none ∧ ¬ snapshot.Verified ∧
        writable around world (reportEvents snapshot.state logicalKey result) = true
  | _ => False

section Verdicts

variable {config : ActorConfig} {world : World} {snapshot : RuntimeSnapshot}

/-! ## The ledger -/

theorem RuntimeSnapshot.Verified.extend (verified : snapshot.Verified) (next : RunState)
    (events : List EventSpec) : (snapshot.extend next events).Verified := by
  obtain ⟨event, member, passed⟩ := verified
  exact ⟨event, RuntimeSnapshot.mem_extend member, passed⟩

theorem verified_of_extend {next : RunState} {events : List EventSpec}
    (other : ∀ event ∈ events, event.eventType ≠ "run.verify.completed")
    (verified : (snapshot.extend next events).Verified) : snapshot.Verified := by
  obtain ⟨event, member, kind, passed⟩ := verified
  rcases List.mem_append.mp member with earlier | added
  · exact ⟨event, earlier, kind, passed⟩
  · obtain ⟨⟨spec, index⟩, numbered, rfl⟩ := List.mem_map.mp added
    exact absurd kind (other spec (List.fst_mem_of_mem_zipIdx numbered))

theorem reportEvents_other (state : RunState) (logicalKey : String) (result : ReportSummary) :
    ∀ event ∈ reportEvents state logicalKey result, event.eventType ≠ "run.verify.completed" := by
  intro event member
  simp only [reportEvents, List.mem_cons, List.not_mem_nil, or_false] at member
  rcases member with rfl | rfl
  · show "run.report.completed" ≠ "run.verify.completed"
    decide
  · show "run.status_changed" ≠ "run.verify.completed"
    decide

/-! ## Commands in the reporting phase -/

theorem core_commitAndReply (around : Surroundings) (command : WorkflowCommandMessage)
    (next : RunState) (event : EventSpec) (message : String) :
    (commitAndReply config around world command next event message).1.core config =
      (commit around world next [event]).1.core config := by
  unfold commitAndReply
  rcases commit around world next [event] with ⟨after, committed⟩
  cases committed with
  | false => rfl
  | true => exact core_replyCommitted after command .assertionError

theorem command_reporting (around : Surroundings) (coherent : Coherent config (world.core config))
    (found : world.store.load config.runId = some snapshot)
    (reporting : snapshot.state.status = .reporting) {command : WorkflowCommandMessage}
    (other : ∀ result, command.payload ≠ .report result) :
    (handleWorkflowCommand config around world command).1.core config = world.core config := by
  have loaded := coherent.loaded_of_found found
  unfold handleWorkflowCommand
  split
  · rfl
  split
  · exact replayCommand_core command _
  rw [loaded.current, loaded.stored]
  cases payload : command.payload with
  | acceptPlan completion frozenPlan =>
    have refused : plannerIsValid config world snapshot.state completion = false := by
      simp [plannerIsValid, reporting]
    simp only [acceptPlan, planRefusal, refused, if_true]
    rfl
  | executeRound => exact scheduleExecutionRound_core command snapshot.state
  | agentRunStarted agentRunId =>
    dsimp only [recordAgentRunStarted]
    cases world.store.agentRuns.get? agentRunId with
    | none => rfl
    | some record =>
      have refused : startIsAcceptable config snapshot.state record = false := by
        simp [startIsAcceptable, reporting]
      simp only [refused, if_true]
      rfl
  | agentRunTerminal record receipt resultObject =>
    have refused : terminalIsAcceptable config world command snapshot.state snapshot record
        receipt resultObject = false := by
      simp [terminalIsAcceptable, reporting]
    simp only [recordAgentRunTerminal, refused, if_true]
    rfl
  | integrationIntent intent => exact persistIntegrationIntent_core command snapshot.state intent
  | integrationCompleted intent verifiedCommitOid =>
    simp only [recordIntegrationCompleted, reporting, reduceCtorEq, not_false_eq_true, ne_eq,
      true_or, or_true, if_true]
    rfl
  | verification result =>
    simp only [commitVerification, reporting, reduceCtorEq, not_false_eq_true, ne_eq, if_true]
    rfl
  | report result => exact absurd payload (other result)
  | other kind => rfl

theorem report_persisted (around : Surroundings) (coherent : Coherent config (world.core config))
    (found : world.store.load config.runId = some snapshot)
    (reporting : snapshot.state.status = .reporting) {logicalKey : String}
    (missing : eventForReceipt (some snapshot) logicalKey = none) (result : ReportSummary)
    (response : Nat) :
    (step config world (.message (.workflow ⟨config.runId, logicalKey, .report result, response⟩)
      around)).store.load config.runId =
      if writable around world (reportEvents snapshot.state logicalKey result) then
        some (snapshot.extend (reportedState snapshot.state result)
          (reportEvents snapshot.state logicalKey result))
      else some snapshot := by
  have loaded := coherent.loaded_of_found found
  have moved : snapshot.state.status ≠ (reportedState snapshot.state result).status := by
    have next : (reportedState snapshot.state result).status = result.status := rfl
    rw [reporting, next]
    rcases result.statusIsSuccessful with successful | successful
    · rw [successful]
      decide
    · rw [successful]
      decide
  have events : committedEvents (some snapshot.state) (reportedState snapshot.state result)
      [⟨"run.report.completed", [("receipt_key", .str logicalKey),
        ("status", .str result.status.value), ("result_sha256", .str result.resultSha256.text)]⟩] =
      reportEvents snapshot.state logicalKey result := committedEvents_moved _ moved
  have own : (reportedState snapshot.state result).runId = config.runId := loaded.runId
  rw [← events]
  refine persisted_of_commit around loaded own ?_
  dsimp only [step]
  rw [turn_core_eq]
  simp only [handle, handleWorkflowCommand, not_true_eq_false, ne_eq, if_false, loaded.stored,
    missing, loaded.current, commitReport, reporting]
  exact core_commitAndReply around _ _ _ _

/-- What a workflow command does in the reporting phase: nothing, or it is a report with a new
key. -/
theorem workflow_reporting (around : Surroundings) (coherent : Coherent config (world.core config))
    (found : world.store.load config.runId = some snapshot)
    (reporting : snapshot.state.status = .reporting) (command : WorkflowCommandMessage) :
    (step config world (.message (.workflow command) around)).store.load config.runId =
        some snapshot ∨
      ∃ logicalKey result response, command = ⟨config.runId, logicalKey, .report result, response⟩ ∧
        eventForReceipt (some snapshot) logicalKey = none := by
  have kept : ((handleWorkflowCommand config around world command).1.core config =
      world.core config) → (step config world (.message (.workflow command) around)).store.load
        config.runId = some snapshot := by
    intro same
    have persisted : (step config world (.message (.workflow command) around)).core config =
        world.core config := (turn_core_eq around (.workflow command)).trans same
    exact (congrArg Core.persisted persisted).trans found
  have loaded := coherent.loaded_of_found found
  obtain ⟨runId, logicalKey, payload, response⟩ := command
  by_cases isReport : ∃ result, payload = .report result
  · obtain ⟨result, rfl⟩ := isReport
    by_cases foreign : runId ≠ config.runId
    · refine .inl (kept ?_)
      simp only [handleWorkflowCommand, foreign, ne_eq, not_false_eq_true, if_true]
      rfl
    · have own : runId = config.runId := not_not.mp foreign
      cases missing : eventForReceipt (some snapshot) logicalKey with
      | none => exact .inr ⟨logicalKey, result, response, by rw [own], missing⟩
      | some event =>
        refine .inl (kept ?_)
        simp only [handleWorkflowCommand, foreign, if_false, loaded.stored, missing]
        exact replayCommand_core _ event
  · refine .inl (kept (command_reporting around coherent found reporting ?_))
    intro result same
    exact isReport ⟨result, same⟩

/-- A step that completes the Run finds it completed, or in its reporting phase handling a
workflow command. -/
theorem RunStep.completed_of {message : RuntimeMessage} {state next : RunState}
    {events : List EventSpec} {work : List PortCall}
    (run : RunStep config message state events work next) (completed : next.status = .completed) :
    state.status = .completed ∨
      (∃ command, message = .workflow command) ∧ state.status = .reporting := by
  cases run with
  | advice advice result _ own evaluated =>
    rw [decideAdvice_status] at completed
    exact .inl completed
  | executionRound logicalKey decision =>
    simp only [roundState] at completed
    split at completed <;> cases completed
  | report command result data _ reporting => exact .inr ⟨⟨command, rfl⟩, reporting⟩
  | acceptPlan => cases completed
  | verification => cases completed
  | cancel => cases completed
  | dispatchStarted => cases completed
  | budgetExhausted => cases completed
  | _ => exact .inl completed

/-! ## Runs -/

theorem step_completedIsVerified_iff (coherent : Coherent config (world.core config))
    (before : CompletedIsVerified config world) (input : Input) :
    CompletedIsVerified config (step config world input) ↔
      ¬ UnverifiedReport config world input := by
  constructor
  · intro after unverified
    unfold UnverifiedReport at unverified
    split at unverified
    · rename_i runId logicalKey result response around
      obtain ⟨rfl, completed, snapshot, found, reporting, missing, noVerdict, written⟩ := unverified
      have persisted := report_persisted around coherent found reporting missing result response
      rw [if_pos written] at persisted
      have verified := after _ persisted completed
      exact noVerdict (verified_of_extend (reportEvents_other _ _ _) verified)
    · exact unverified
  · intro verifiedReport later foundLater completed
    have foundLater : ((step config world input).core config).persisted = some later := foundLater
    cases found : world.store.load config.runId with
    | none =>
      rcases (step_core coherent input).of_absent found with absent | ⟨createRun, written⟩
      · rw [absent] at foundLater
        cases foundLater
      · rw [written] at foundLater
        cases foundLater
        cases completed
    | some snapshot =>
      rcases (step_core coherent input).of_persisted found with
        ⟨kept, _⟩ | ⟨message, around, events, work, next, rfl, run, written, _⟩
      · rw [kept] at foundLater
        cases foundLater
        exact before _ found completed
      · rw [written] at foundLater
        cases foundLater
        rcases run.completed_of completed with already | ⟨⟨command, rfl⟩, reporting⟩
        · exact (before _ found already).extend next events
        · rcases workflow_reporting around coherent found reporting command with
            kept | ⟨logicalKey, result, response, rfl, missing⟩
          · -- nothing was committed, but the step has completed the Run
            have same : some (snapshot.extend next events) = some snapshot :=
              written.symm.trans kept
            rw [Option.some.injEq] at same
            rw [same, reporting] at completed
            cases completed
          · have persisted :=
              report_persisted around coherent found reporting missing result response
            by_contra noVerdict
            have unwritten : ¬ writable around world
                (reportEvents snapshot.state logicalKey result) = true := by
              intro committed
              rw [if_pos committed] at persisted
              have same := Option.some.inj (written.symm.trans persisted)
              refine verifiedReport ⟨rfl, ?_, snapshot, found, reporting, missing, ?_, committed⟩
              · rw [same] at completed
                exact completed
              · exact fun verified => noVerdict (verified.extend next events)
            rw [if_neg unwritten] at persisted
            have same := Option.some.inj (written.symm.trans persisted)
            rw [same, reporting] at completed
            cases completed

/-- In every state of a run a completed Run has a passing verification in its ledger, exactly when
no report of the run completes the Run without one. -/
theorem completed_is_verified_iff (config : ActorConfig) (world : World)
    (fresh : Fresh config world) (inputs : List Input) :
    Always (step config) (CompletedIsVerified config) world inputs ↔
      Along (step config) (fun reached input => ¬ UnverifiedReport config reached input) world
        inputs := by
  have start : CompletedIsVerified config world := by
    intro snapshot found
    rw [fresh.noRun] at found
    cases found
  rw [always_iff start]
  refine along_iff
    (fun reached => Coherent config (reached.core config) ∧ CompletedIsVerified config reached)
    ?_ ?_ ⟨fresh.coherent, start⟩ inputs
  · rintro reached input ⟨coherent, -⟩ verified
    exact ⟨step_coherent coherent input, verified⟩
  · rintro reached input ⟨coherent, verified⟩
    exact step_completedIsVerified_iff coherent verified input

end Verdicts

/-! ### A failed verification -/

namespace SampleRun
open TwoSlices (zeroDigest)

/-- From the creation to the verdict. -/
def toVerdict (passed : Bool) : List Input :=
  toVerification ++ [command ("run.verify:" ++ runId.str) (.verification ⟨passed, zeroDigest⟩) 3]

/-- A report of a completed Run. -/
def reportCompleted : Input :=
  command ("run.report:" ++ runId.str) (.report ⟨zeroDigest, .completed, .inl rfl⟩) 4

/-- The ledger of a world has a passing verification. -/
def verdictPassed (world : World) : Option Bool :=
  (world.store.load runId).map fun snapshot => snapshot.events.any fun event =>
    event.eventType == "run.verify.completed" &&
      Json.field? event.data "passed" == some (.bool true)

theorem verified_of_verdictPassed {world : World} {snapshot : RuntimeSnapshot}
    (found : world.store.load runId = some snapshot) {passed : Bool}
    (verdict : verdictPassed world = some passed) : snapshot.Verified ↔ passed = true := by
  rw [verdictPassed, found, Option.map_some, Option.some.injEq] at verdict
  rw [← verdict, List.any_eq_true]
  simp only [RuntimeSnapshot.Verified, Bool.and_eq_true, beq_iff_eq]

end SampleRun

open SampleRun in
/-- The Run that passes its verification may complete. -/
theorem completed_is_verified_passed :
    Always (step config) (CompletedIsVerified config) start
      (toVerdict true ++ [reportCompleted]) := by
  have verdict : verdictPassed (runFrom (step config) start (toVerdict true)) = some true := by
    decide
  refine (completed_is_verified_iff config start start_fresh
    (toVerdict true ++ [reportCompleted])).mpr ⟨id, id, id, id, id, id, id, ?_, trivial⟩
  rintro ⟨-, -, snapshot, found, -, -, noVerdict, -⟩
  exact noVerdict ((verified_of_verdictPassed found verdict).mpr rfl)

open SampleRun in
/-- The Run that fails its verification completes, too. -/
theorem failed_verification_completes :
    ¬ Always (step config) (CompletedIsVerified config) start
      (toVerdict false ++ [reportCompleted]) := by
  intro always
  have completed : ((runFrom (step config) start (toVerdict false ++ [reportCompleted])).store.load
      runId).map (·.state.status) = some .completed := by decide
  have verdict : verdictPassed (runFrom (step config) start
      (toVerdict false ++ [reportCompleted])) = some false := by decide
  obtain ⟨snapshot, found, status⟩ := Option.map_eq_some_iff.mp completed
  have verified := always (toVerdict false ++ [reportCompleted]) [] (List.append_nil _).symm
    snapshot found status
  exact absurd ((verified_of_verdictPassed found verdict).mp verified) (by decide)

end CodeMigrator
