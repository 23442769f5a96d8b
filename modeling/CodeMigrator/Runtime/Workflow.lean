import CodeMigrator.Runtime.Actor

/-!
# Workflow commands of the Run actor

The part of `RunActor` (`runtime/actor.py`) that answers workflow commands and closes
execution rounds, the mailbox loop over all messages, and the steps that the actor
and the components around it can take.
-/

namespace CodeMigrator
open Lib

section Workflow

variable (config : ActorConfig) (around : Surroundings)

/-- The answer to a command whose event is in the ledger. -/
def replyReceipt (world : World) (command : WorkflowCommandMessage) (sequence : Nat) : Handled :=
  match actorPhaseReceipt config.runId command.logicalKey sequence with
  | .error failure => world.raise failure
  | .ok receipt => (world.reply command.response (.ok (.phaseReceipt receipt))).done

/-- The reload at the end of a handler: the answer, or `failure` when the event is not
there. -/
def replyCommitted (world : World) (command : WorkflowCommandMessage)
    (failure : RuntimeFailure) : Handled :=
  match eventForReceipt (world.store.load config.runId) command.logicalKey with
  | none => world.raise failure
  | some event => replyReceipt config world command event.sequence

/-! ## Plan and agent runs -/

/-- The exception of `canonical_json_bytes`. -/
def notCanonicalizable : RuntimeFailure := .valueError "value is not canonicalizable JSON"

/-- The checks of `_accept_plan` on the Run and the plan's agent run. -/
def plannerIsValid (world : World) (state : RunState) (completion : PlanAgentCompletion) : Bool :=
  let record := completion.record
  state.status = .planning ∧ record.ownerKind = "run" ∧ record.ownerId = config.runId ∧
    record.phase = .plan ∧ record.sessionKind = .planAuxiliary ∧ record.state = .closed ∧
    record.exit = some .completed ∧ completion.receipt.agentRunId = record.agentRunId ∧
    completion.receipt.category = "plan.accepted" ∧
    record.resultSha256 = some completion.resultObject.digest.text ∧
    hasAgentRunEvent (world.store.load config.runId) "agent_run.started" record.agentRunId

/-- The checks of `_accept_plan`: the exception they end with. -/
def planRefusal (world : World) (state : RunState) (completion : PlanAgentCompletion)
    (frozenPlan : FrozenPlan) : Option RuntimeFailure :=
  let refused := RuntimeFailure.valueError
    "PLAN acceptance facts failed deterministic owner checks"
  if plannerIsValid config world state completion = false then some refused
  else
    match config.planPayloadDigest frozenPlan with
    | none => some notCanonicalizable
    | some digest =>
      if digest = completion.planObject.digest.text ∧ frozenPlan.validation.accepted then none
      else some refused

/-- The state after an accepted plan. -/
def acceptedState (state : RunState) (frozenPlan : FrozenPlan) : RunState :=
  { state with
    status := .executing
    frozenPlanSha256 := some frozenPlan.planHash.text
    version := state.version + 1 }

/-- The event of an accepted plan. -/
def planAcceptedEvent (logicalKey : String) (agentRunId : AgentRunId) (planSha256 : String) :
    EventSpec :=
  ⟨"run.plan.accepted", [("receipt_key", .str logicalKey),
    ("agent_run_id", .str agentRunId.str), ("plan_sha256", .str planSha256)]⟩

/-- `_accept_plan`. -/
def acceptPlan (world : World) (command : WorkflowCommandMessage) (state : RunState)
    (completion : PlanAgentCompletion) (frozenPlan : FrozenPlan) : Handled :=
  let record := completion.record
  match planRefusal config world state completion frozenPlan,
      agentRunTerminalSpec record completion.receipt with
  | some failure, _ => world.raise failure
  | none, none => world.raise (.valueError "terminal event requires matching AgentRun receipt")
  | none, some terminalEvent =>
    let next := acceptedState state frozenPlan
    let events := [terminalEvent,
      planAcceptedEvent command.logicalKey record.agentRunId frozenPlan.planHash.text,
      runStatusChangedEvent next]
    match world.store.commitAgentRunReceipt around.rejects record completion.receipt (some next) events
        [("agent-result:" ++ record.agentRunId.str, completion.resultObject),
          ("frozen-plan", completion.planObject)] with
    | (store, .error failure) => (world.setStore store).raise failure
    | (store, .ok _) =>
      replyCommitted config ((world.setStore store).setState (some next)) command
        (.storeCommitError "committed PLAN owner receipt cannot be reloaded")

/-- The checks of `_record_agent_run_started`. -/
def startIsAcceptable (state : RunState) (record : AgentRun) : Bool :=
  record.ownerKind = "run" ∧ record.ownerId = config.runId ∧
    (record.phase = .plan ∨ record.phase = .execute) ∧ record.isTerminal = false ∧
    (state.status = .planning ∨ state.status = .executing)

/-- `_record_agent_run_started`. -/
def recordAgentRunStarted (world : World) (command : WorkflowCommandMessage) (state : RunState)
    (agentRunId : AgentRunId) : Handled :=
  let mismatch := world.raise
    (.storeCommitError "AgentRun start facts do not match the active Run owner")
  match world.store.agentRuns.get? agentRunId with
  | none => mismatch
  | some record =>
    if startIsAcceptable config state record = false then mismatch
    else
      match agentRunStartedSpec record with
      | none => world.raise (.valueError "terminal AgentRun event requires owner receipt")
      | some event =>
        match commit around world { state with version := state.version + 1 } [event] with
        | (world, false) =>
          world.raise (.storeCommitError "AgentRun start receipt could not be committed")
        | (world, true) =>
          replyCommitted config world command
            (.storeCommitError "committed AgentRun start receipt cannot be reloaded")

/-- The checks of `_record_agent_run_terminal`. -/
def terminalIsAcceptable (world : World) (command : WorkflowCommandMessage) (state : RunState)
    (snapshot : RuntimeSnapshot) (record : AgentRun) (receipt : AgentRunReceipt)
    (resultObject : CasObject) : Bool :=
  state.status = .executing ∧ record.ownerKind = "run" ∧ record.ownerId = config.runId ∧
    record.phase = .execute ∧ record.sessionKind.writes ∧ record.sliceRef.isSome ∧
    record.writeScopeSha256.isSome ∧ record.isTerminal ∧
    record.resultSha256 = some resultObject.digest.text ∧
    receipt.agentRunId = record.agentRunId ∧ receipt.category = "session.terminal" ∧
    (world.store.agentRuns.get? record.agentRunId).any (·.sameFrozenIdentity record) ∧
    hasAgentRunEvent (some snapshot) "agent_run.started" record.agentRunId ∧
    (record.exit = some .completed → record.candidateCheckpointSha256.isSome) ∧
    (record.exit ≠ some .completed → record.candidateCheckpointSha256 = none) ∧
    command.logicalKey = "agent_run.terminal:" ++ record.agentRunId.str

/-- `_record_agent_run_terminal`. -/
def recordAgentRunTerminal (world : World) (command : WorkflowCommandMessage) (state : RunState)
    (snapshot : RuntimeSnapshot) (record : AgentRun) (receipt : AgentRunReceipt)
    (resultObject : CasObject) : Handled :=
  if terminalIsAcceptable config world command state snapshot record receipt resultObject = false then
    world.raise (.storeCommitError "EXECUTE terminal AgentRun facts failed owner validation")
  else
    match agentRunTerminalSpec record receipt with
    | none => world.raise (.valueError "terminal event requires matching AgentRun receipt")
    | some terminalEvent =>
      let next := { state with version := state.version + 1 }
      match world.store.commitAgentRunReceipt around.rejects record receipt (some next) [terminalEvent]
          [("agent-result:" ++ record.agentRunId.str, resultObject)] with
      | (store, .error failure) => (world.setStore store).raise failure
      | (store, .ok _) =>
        replyCommitted config ((world.setStore store).setState (some next)) command
          (.storeCommitError "committed AgentRun terminal receipt cannot be reloaded")

/-- `_validate_agent_run_terminal_replay`. -/
def terminalReplayMatches (world : World) (command : WorkflowCommandMessage) (record : AgentRun)
    (receipt : AgentRunReceipt) (resultObject : CasObject) : Bool :=
  world.store.agentRuns.get? record.agentRunId = some record ∧
    world.store.agentReceipts.get? record.agentRunId = some receipt ∧
    world.store.casRefs.get? ("run", config.runId, "agent-result:" ++ record.agentRunId.str) =
      some resultObject ∧
    receipt.category = "session.terminal" ∧
    command.logicalKey = "agent_run.terminal:" ++ record.agentRunId.str

/-! ## Integration -/

/-- Whether a candidate of the intent's slice and generation was accepted. -/
def hasCandidate (state : RunState) (intent : IntegrationIntent) : Bool :=
  state.candidateCheckpoints.any fun fact =>
    fact.sliceId = intent.sliceId ∧ fact.generation = intent.generation

/-- `_persist_integration_intent`. -/
def persistIntegrationIntent (world : World) (command : WorkflowCommandMessage) (state : RunState)
    (intent : IntegrationIntent) : Handled :=
  if intent.runId ≠ config.runId ∨ state.status ≠ .executing ∨ state.frozenPlanSha256 = none then
    world.raise (.storeCommitError "integration intent failed Run owner validation")
  else if hasCandidate state intent = false then
    world.raise (.storeCommitError "integration intent requires an accepted M-08 candidate")
  else if command.logicalKey ≠ "integration.intent:" ++ intent.idempotencyKey then
    world.raise (.storeCommitError "integration intent command identity mismatch")
  else if (world.store.integrationIntents.get? (config.runId, intent.idempotencyKey)).isNone ∧
      world.store.headDiffers intent then
    world.raise (.storeCommitError "integration intent expected head differs from latest receipt")
  else
    match world.store.persistIntegrationIntent intent with
    | (store, .error failure) => (world.setStore store).raise failure
    | (store, .ok committed) =>
      if committed ≠ intent then
        (world.setStore store).raise
          (.storeCommitError "integration intent owner receipt does not match request")
      else ((world.setStore store).reply command.response (.ok (.intent committed))).done

/-- The two events of a completed integration. -/
def integrationEvents (logicalKey : String) (intent : IntegrationIntent)
    (verifiedCommitOid : String) : List EventSpec :=
  [⟨"integration.completed", [("receipt_key", .str logicalKey),
      ("slice_id", .str intent.sliceId.str), ("generation", .int intent.generation.val),
      ("verified_commit_oid", .str verifiedCommitOid)]⟩,
    ⟨"verified.advanced", [("slice_id", .str intent.sliceId.str),
      ("generation", .int intent.generation.val), ("commit_oid", .str verifiedCommitOid)]⟩]

/-- The part of `_record_integration_completed` after the store has committed: the receipt
must be the one that is found under the key of the command. -/
def adoptIntegration (world : World) (command : WorkflowCommandMessage)
    (intent : IntegrationIntent) (verifiedCommitOid : String) (receipt : IntegrationReceipt) :
    Handled :=
  let unloadable := world.raise
    (.storeCommitError "integration receipt could not be reloaded")
  match world.store.load config.runId,
      eventForReceipt (world.store.load config.runId) command.logicalKey with
  | some committed, some event =>
    if receipt.intent.runId ≠ config.runId ∨
        receipt.intent.idempotencyKey ≠ intent.idempotencyKey ∨
        receipt.verifiedCommitOid ≠ verifiedCommitOid ∨
        receipt.eventSequence ≠ event.sequence then
      unloadable
    else
      replyReceipt config (world.setState (some committed.state)) command event.sequence
  | _, _ => unloadable

/-- `_record_integration_completed`. -/
def recordIntegrationCompleted (world : World) (command : WorkflowCommandMessage)
    (state : RunState) (intent : IntegrationIntent) (verifiedCommitOid : String) : Handled :=
  if intent.runId ≠ config.runId ∨ state.status ≠ .executing ∨ state.frozenPlanSha256 = none ∨
      command.logicalKey ≠ "integration.completed:" ++ intent.idempotencyKey then
    world.raise (.storeCommitError "integration completion failed Run owner validation")
  else if verifiedCommitOid ≠ intent.prospectiveCommitOid then
    world.raise (.storeCommitError "verified head does not match the intent")
  else if hasCandidate state intent = false then
    world.raise (.storeCommitError "integration completion requires an accepted M-08 candidate")
  else if world.store.integrationIntents.get? (config.runId, intent.idempotencyKey) ≠
      some intent then
    world.raise (.storeCommitError "integration intent is not durably committed")
  else if world.store.headDiffers intent then
    world.raise (.storeCommitError "integration intent expected head differs from latest receipt")
  else
    match world.store.commitIntegrationReceipt around.rejects config.integrationReceiptDigest
        { state with version := state.version + 1 } intent verifiedCommitOid
        (integrationEvents command.logicalKey intent verifiedCommitOid) with
    | (store, .error failure) => (world.setStore store).raise failure
    | (store, .ok receipt) =>
      adoptIntegration config (world.setStore store) command intent verifiedCommitOid receipt

/-- `_validate_integration_replay`. -/
def integrationReplayMatches (world : World) (intent : IntegrationIntent)
    (verifiedCommitOid : String) (eventSequence : Nat) : Bool :=
  world.store.integrationIntents.get? (config.runId, intent.idempotencyKey) = some intent ∧
    (world.store.integrationReceipts.get? (config.runId, intent.idempotencyKey)).any
      (fun receipt => receipt.verifiedCommitOid = verifiedCommitOid ∧
        receipt.eventSequence = eventSequence)

/-! ## Execution rounds -/

/-- `_schedule_execution_round`: the first request of a round starts its task. -/
def scheduleExecutionRound (world : World) (command : WorkflowCommandMessage) (state : RunState) :
    Handled :=
  if state.status ≠ .executing ∨ state.frozenPlanSha256 = none ∨
      config.executionScheduler = false then
    world.raise (.storeCommitError "EXECUTE requires an active Run and Actor scheduler")
  else
    let key := command.logicalKey
    let waiting := (world.actor.executionRoundResponses.get? key).getD []
    let queued := { world with actor := { world.actor with
      executionRoundResponses :=
        world.actor.executionRoundResponses.set key (waiting ++ [command.response]) } }
    if key ∈ world.actor.executionRoundTasks then queued.done
    else
      { queued with
        actor := { queued.actor with executionRoundTasks := queued.actor.executionRoundTasks ++ [key] }
        calls := queued.calls ++ [PortCall.advanceOneRound config.runId key] }.done

/-- `_finish_execution_round`. -/
def finishExecutionRound (world : World) (logicalKey : String)
    (outcome : Except RuntimeFailure ExecuteRoundResult) : World :=
  let responses := (world.actor.executionRoundResponses.get? logicalKey).getD []
  let closed := { world with actor := { world.actor with
    executionRoundResponses := world.actor.executionRoundResponses.erase logicalKey
    executionRoundTasks := world.actor.executionRoundTasks.filter (· ≠ logicalKey) } }
  responses.foldl (fun world response => world.reply response (outcome.map .roundResult)) closed

/-- The event that `_commit_execution_round` adds for one terminal AgentRun. -/
def roundTerminalEvent (world : World) (agentRunId : AgentRunId) :
    Except RuntimeFailure (List EventSpec) :=
  let snapshot := world.store.load config.runId
  match world.store.agentRuns.get? agentRunId, world.store.agentReceipts.get? agentRunId with
  | some record, some receipt =>
    if ¬ (record.ownerKind = "run" ∧ record.ownerId = config.runId ∧ record.phase = .execute ∧
        record.isTerminal ∧ receipt.agentRunId = record.agentRunId ∧
        receipt.category = "session.terminal") then
      .error (.storeCommitError "EXECUTE terminal AgentRun has no matching terminal receipt")
    else if hasAgentRunEvent snapshot "agent_run.started" agentRunId = false then
      .error (.storeCommitError "terminal EXECUTE AgentRun has no committed start receipt")
    else if hasAgentRunEvent snapshot "agent_run.terminal" agentRunId then .ok []
    else
      match agentRunTerminalSpec record receipt with
      | none => .error (.valueError "terminal event requires matching AgentRun receipt")
      | some event => .ok [event]
  | _, _ => .error (.storeCommitError "EXECUTE terminal AgentRun has no matching terminal receipt")

/-- The checks of `_validate_candidate_claim` on the agent run. -/
def claimantIsValid (record : AgentRun) (terminalReceipt : AgentRunReceipt) : Bool :=
  record.ownerKind = "run" ∧ record.ownerId = config.runId ∧ record.phase = .execute ∧
    record.sessionKind.writes ∧ record.state = .closed ∧ record.exit = some .completed ∧
    record.resultSha256.isSome ∧ record.writeScopeSha256.isSome ∧
    terminalReceipt.agentRunId = record.agentRunId ∧
    terminalReceipt.category = "session.terminal"

/-- The checks of `_validate_candidate_claim` on the checkpoint receipt. -/
def claimIsValid (record : AgentRun) (sliceRef : SliceGenerationRef) (receipt : CheckpointReceipt)
    (digest : Sha256) : Bool :=
  let candidate := receipt.manifest.sliceCandidate
  record.candidateCheckpointSha256 = some digest.text ∧ receipt.runId = config.runId ∧
    receipt.sliceId = sliceRef.sliceId ∧ receipt.generation = sliceRef.generation ∧
    sliceRef.baselineCandidateOid = some receipt.expectedCandidateOid ∧
    candidate.runId = config.runId ∧ candidate.sliceId = sliceRef.sliceId ∧
    candidate.generation = sliceRef.generation ∧
    candidate.candidateCommitOid = receipt.expectedCandidateOid ∧
    receipt.manifest.scopeCheckPassed ∧ receipt.newCandidateOid ≠ receipt.expectedCandidateOid

/-- The accepted fact of a slice and generation. -/
def currentFact (accepted : List CandidateCheckpointFact) (sliceId : SliceId)
    (generation : CandidateGeneration) : Option CandidateCheckpointFact :=
  accepted.find? fun item => item.sliceId = sliceId ∧ item.generation = generation

/-- The part of `_validate_candidate_claim` after the checks: the fact that the claim
stands for, an accepted one or a new one that extends it. -/
def claimedFact (accepted : List CandidateCheckpointFact) (record : AgentRun)
    (sliceRef : SliceGenerationRef) (receipt : CheckpointReceipt) (digest : Sha256) :
    Except RuntimeFailure CandidateCheckpointFact :=
  match accepted.find? (fun item => item.receiptSha256 = digest) with
  | some previous =>
    if previous.agentRunId ≠ record.agentRunId ∨
        previous.candidateOid ≠ receipt.newCandidateOid ∨
        previous.sliceId ≠ receipt.sliceId ∨ previous.generation ≠ receipt.generation then
      .error (.storeCommitError "candidate checkpoint receipt was previously claimed")
    else .ok previous
  | none =>
    let expectedCurrent :=
      match currentFact accepted sliceRef.sliceId sliceRef.generation with
      | some current => some current.candidateOid
      | none => sliceRef.baselineCandidateOid
    if some receipt.expectedCandidateOid ≠ expectedCurrent then
      .error (.storeCommitError "candidate checkpoint does not extend the accepted OID")
    else if nonEmpty : receipt.expectedCandidateOid ≠ "" ∧ receipt.newCandidateOid ≠ "" then
      .ok ⟨record.agentRunId, sliceRef.sliceId, sliceRef.generation,
        receipt.expectedCandidateOid, receipt.newCandidateOid, digest, nonEmpty⟩
    else .error (.valueError "candidate checkpoint OIDs must be non-empty")

/-- `_validate_candidate_claim`. -/
def validateCandidateClaim (world : World) (claim : CandidateCheckpointClaim)
    (accepted : List CandidateCheckpointFact) : Except RuntimeFailure CandidateCheckpointFact :=
  let invalid := Except.error
    (RuntimeFailure.storeCommitError "candidate checkpoint receipt failed owner validation")
  match claim.receipt, config.candidateCheckpointVerifier with
  | some receipt, true =>
    match world.store.agentRuns.get? claim.agentRunId,
        world.store.agentReceipts.get? claim.agentRunId with
    | some record, some terminalReceipt =>
      match claimantIsValid config record terminalReceipt, record.sliceRef with
      | true, some sliceRef =>
        match config.checkpointReceiptDigest receipt with
        | none => .error notCanonicalizable
        | some digest =>
          if claimIsValid config record sliceRef receipt digest = false then invalid
          else
            match around.isCommittedReceipt receipt with
            | none => .error .raised
            | some false =>
              .error (.storeCommitError
                "candidate checkpoint receipt is not committed by M-08")
            | some true => claimedFact accepted record sliceRef receipt digest
      | _, _ => invalid
    | _, _ => invalid
  | _, _ =>
    .error (.storeCommitError "completed write AgentRun has no candidate checkpoint receipt")

/-- The event of an accepted candidate. -/
def candidateEvent (fact : CandidateCheckpointFact) : EventSpec :=
  ⟨"slice.candidate.accepted", [("agent_run_id", .str fact.agentRunId.str),
    ("slice_id", .str fact.sliceId.str), ("generation", .int fact.generation.val)]⟩

/-- The loop of `_commit_execution_round` over the candidate claims. -/
def acceptClaims (world : World) :
    List CandidateCheckpointClaim → List CandidateCheckpointFact → List EventSpec →
      Except RuntimeFailure (List CandidateCheckpointFact × List EventSpec)
  | [], facts, events => .ok (facts, events)
  | claim :: claims, facts, events =>
    match validateCandidateClaim config around world claim facts with
    | .error failure => .error failure
    | .ok fact =>
      match currentFact facts fact.sliceId fact.generation with
      | none => acceptClaims world claims (facts ++ [fact]) (events ++ [candidateEvent fact])
      | some current =>
        if current.receiptSha256 = fact.receiptSha256 then
          acceptClaims world claims facts events
        else
          acceptClaims world claims (facts.replace current fact)
            (events ++ [candidateEvent fact])

/-- The claim sets of a round fit together. -/
def claimSetIsComplete (decision : ExecutionRoundDecision) : Bool :=
  let claimed := decision.candidateClaims.map (·.agentRunId)
  claimed.Nodup ∧ decision.completedWriteAgentRunIds.Nodup ∧ decision.terminalAgentRunIds.Nodup ∧
    decision.completedWriteAgentRunIds ⊆ claimed ∧ claimed ⊆ decision.completedWriteAgentRunIds ∧
    decision.completedWriteAgentRunIds ⊆ decision.terminalAgentRunIds

/-- The state after an execution round. -/
def roundState (state : RunState) (decision : ExecutionRoundDecision)
    (facts : List CandidateCheckpointFact) : RunState :=
  { state with
    status := if decision.complete then .verifying else .executing
    candidateCheckpoints := facts
    version := state.version + 1 }

/-- The event of an execution round. -/
def roundEvent (logicalKey : String) (decision : ExecutionRoundDecision) : EventSpec :=
  ⟨"run.execute.round", [("receipt_key", .str logicalKey), ("complete", .bool decision.complete),
    ("dispatch_count", .int decision.dispatchCount)]⟩

/-- What `_commit_execution_round` writes, or its exception before the commit. -/
def decideRound (world : World) (logicalKey : String) (state : RunState)
    (decision : ExecutionRoundDecision) : Except RuntimeFailure (RunState × List EventSpec) :=
  if state.status ≠ .executing ∨ state.frozenPlanSha256 = none then
    .error (.storeCommitError "EXECUTE result arrived after its Run stopped executing")
  else if claimSetIsComplete decision = false then
    .error (.storeCommitError "EXECUTE terminal or candidate checkpoint claim set is incomplete")
  else
    match decision.terminalAgentRunIds.mapM (roundTerminalEvent config world) with
    | .error failure => .error failure
    | .ok terminalEvents =>
      match acceptClaims config around world decision.candidateClaims state.candidateCheckpoints
          [] with
      | .error failure => .error failure
      | .ok (facts, candidateEvents) =>
        .ok (roundState state decision facts,
          terminalEvents.flatten ++ candidateEvents ++ [roundEvent logicalKey decision])

/-- `_commit_execution_round`. -/
def commitExecutionRound (world : World) (logicalKey : String) (state : RunState)
    (decision : ExecutionRoundDecision) : World × Except RuntimeFailure ExecuteRoundResult :=
  match decideRound config around world logicalKey state decision with
  | .error failure => (world, .error failure)
  | .ok (next, events) =>
    match commit around world next events with
    | (world, false) =>
      (world, .error (.storeCommitError "EXECUTE actor receipt could not be committed"))
    | (world, true) =>
      match eventForReceipt (world.store.load config.runId) logicalKey with
      | none => (world, .error .assertionError)
      | some event =>
        (world, (actorPhaseReceipt config.runId logicalKey event.sequence).map
          (⟨·, decision.complete⟩))

/-- `_handle_execution_round_finished`. -/
def handleExecutionRoundFinished (world : World) (logicalKey : String)
    (decision : Option ExecutionRoundDecision) (error : Option RuntimeFailure) : Handled :=
  match error, world.actor.state, decision with
  | some failure, _, _ => (finishExecutionRound world logicalKey (.error failure)).done
  | none, some state, some decision =>
    match commitExecutionRound config around world logicalKey state decision with
    | (world, outcome) => (finishExecutionRound world logicalKey outcome).done
  | _, _, _ =>
    (finishExecutionRound world logicalKey
      (.error (.storeCommitError "EXECUTE round completion is missing its Run facts"))).done

/-! ## Verification and report -/

/-- A commit that must be answered: `_commit_verification` and `_commit_report`. -/
def commitAndReply (world : World) (command : WorkflowCommandMessage) (next : RunState)
    (event : EventSpec) (message : String) : Handled :=
  match commit around world next [event] with
  | (world, false) => world.raise (.storeCommitError message)
  | (world, true) => replyCommitted config world command .assertionError

/-- `_commit_verification`. -/
def commitVerification (world : World) (command : WorkflowCommandMessage) (state : RunState)
    (result : VerificationSummary) : Handled :=
  if state.status ≠ .verifying then
    world.raise (.storeCommitError "VERIFY requires deterministic verification facts")
  else
    commitAndReply config around world command
      { state with status := .reporting, version := state.version + 1 }
      ⟨"run.verify.completed", [("receipt_key", .str command.logicalKey),
        ("passed", .bool result.passed), ("result_sha256", .str result.resultSha256.text)]⟩
      "VERIFY actor receipt could not be committed"

/-- `_commit_report`. -/
def commitReport (world : World) (command : WorkflowCommandMessage) (state : RunState)
    (result : ReportSummary) : Handled :=
  if state.status ≠ .reporting then
    world.raise (.storeCommitError "REPORT requires deterministic report facts")
  else
    commitAndReply config around world command
      { state with status := result.status, version := state.version + 1 }
      ⟨"run.report.completed", [("receipt_key", .str command.logicalKey),
        ("status", .str result.status.value), ("result_sha256", .str result.resultSha256.text)]⟩
      "REPORT actor receipt could not be committed"

/-! ## The mailbox -/

/-- The replay of a command whose event is in the ledger. -/
def replayCommand (world : World) (command : WorkflowCommandMessage) (event : RuntimeEvent) :
    Handled :=
  match command.payload with
  | .agentRunTerminal record agentReceipt resultObject =>
    if terminalReplayMatches config world command record agentReceipt resultObject = false then
      world.raise (.storeCommitError "AgentRun terminal replay differs from committed facts")
    else replyReceipt config world command event.sequence
  | .integrationCompleted intent verifiedCommitOid =>
    if integrationReplayMatches config world intent verifiedCommitOid event.sequence = false then
      world.raise (.storeCommitError "integration receipt replay mismatch")
    else replyReceipt config world command event.sequence
  | payload =>
    if payload.kind = "agent_run_terminal" ∨ payload.kind = "integration_completed" then
      world.raise (refusedPayload payload.kind)
    else if payload.kind = "execute_round" then
      match actorPhaseReceipt config.runId command.logicalKey event.sequence with
      | .error failure => world.raise failure
      | .ok receipt =>
        (world.reply command.response (.ok (.roundResult
          ⟨receipt, Json.field? event.data "complete" == some (.bool true)⟩))).done
    else replyReceipt config world command event.sequence

/-- `_handle_workflow_command`. -/
def handleWorkflowCommand (world : World) (command : WorkflowCommandMessage) : Handled :=
  if command.runId ≠ config.runId then
    world.raise (.valueError "workflow command Run identity mismatch")
  else
    match eventForReceipt (world.store.load config.runId) command.logicalKey with
    | some event => replayCommand config world command event
    | none =>
      match world.actor.state, world.store.load config.runId with
      | some state, some snapshot =>
        match command.payload with
        | .acceptPlan completion frozenPlan =>
          acceptPlan config around world command state completion frozenPlan
        | .executeRound => scheduleExecutionRound config world command state
        | .agentRunStarted agentRunId =>
          recordAgentRunStarted config around world command state agentRunId
        | .agentRunTerminal record receipt resultObject =>
          recordAgentRunTerminal config around world command state snapshot record receipt
            resultObject
        | .integrationIntent intent => persistIntegrationIntent config world command state intent
        | .integrationCompleted intent verifiedCommitOid =>
          recordIntegrationCompleted config around world command state intent verifiedCommitOid
        | .verification result => commitVerification config around world command state result
        | .report result => commitReport config around world command state result
        | .other kind => world.raise (refusedPayload kind)
      | _, _ => world.raise (.storeCommitError "workflow owner Run does not exist")

/-- `_handle`. -/
def handle (world : World) : RuntimeMessage → Handled
  | .create runId createRun transaction =>
    handleCreate config around world runId createRun transaction
  | .cancel expectedVersion response => handleCancel config around world expectedVersion response
  | .sessionInput kind payload => handleSessionInput config around world kind payload
  | .executionReceipt runId dispatch resultStatus started =>
    handleExecution config around world runId dispatch resultStatus started
  | .budget inputTokens outputTokens costMicros =>
    handleBudget config around world inputTokens outputTokens costMicros
  | .recovery trigger activeDispatchIds missingIntentIds checkpointCorrupt refDrift =>
    handleRecovery around world trigger activeDispatchIds missingIntentIds checkpointCorrupt
      refDrift
  | .advice advice => handleAdvice config around world advice
  | .workflow command => handleWorkflowCommand config around world command
  | .executionRoundFinished logicalKey decision error =>
    handleExecutionRoundFinished config around world logicalKey decision error

/-- The `except` clause of `_run`. -/
def report (world : World) (message : RuntimeMessage) (failure : RuntimeFailure) : World :=
  let noted := world.setLastError failure
  match message with
  | .workflow command => noted.reply command.response (.error failure)
  | .cancel _ response => noted.replyTo response (.error failure)
  | .executionRoundFinished logicalKey _ _ => finishExecutionRound noted logicalKey (.error failure)
  | _ => noted

/-- One turn of the loop of `_run`. -/
def turn (world : World) (message : RuntimeMessage) : World :=
  match handle config around world message with
  | (world, none) => world
  | (world, some failure) => report world message failure

end Workflow

/-! ## Steps -/

/-- What can happen next: the actor handles a message, or a component outside the actor
uses the store. `start` is a new actor on the stored Run. -/
inductive Input where
  | message (message : RuntimeMessage) (around : Surroundings)
  | createAgentRun (record : AgentRun)
  | addCasReference (object : CasObject) (ownerKind : String) (ownerId : UUID)
      (referenceKey : String)
  | failNextCommit
  | start

/-- The step of an input. -/
def step (config : ActorConfig) (world : World) : Input → World
  | .message message around => turn config around world message
  | .createAgentRun record => world.setStore (world.store.createOrGetAgentRun record).1
  | .addCasReference object ownerKind ownerId referenceKey =>
    world.setStore (world.store.addCasReference object ownerKind ownerId referenceKey).1
  | .failNextCommit => world.setStore { world.store with failNext := true }
  | .start =>
    match runCreatedReceipt (world.store.load config.runId) config.runId with
    | .error _ => world
    | .ok receipt => { world with actor :=
        { RunActor.fresh with
          state := (world.store.load config.runId).map (·.state)
          createReceipt := receipt } }

end CodeMigrator
