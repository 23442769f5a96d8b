import CodeMigrator.Runtime.Contracts

/-!
# Stored documents

`_dump_json`, `_decode_state`, `_dump_agent_run` and `_decode_agent_run` of
`runtime/store.py`, over decoded JSON documents: `json.loads` undoes `json.dumps` on
them. The fields stand in the order of `sort_keys`. Decoding is an `Option`, `none` is
any exception; a value that Python would keep against the annotation of its field is
no value of that field here.
-/

namespace CodeMigrator
open Lib

/-- The scalar validators of pydantic that the core models rely on: a UUID from its text
and an integer from a JSON value. -/
structure Pydantic where
  uuid : String → Option UUID
  int : Json → Option Int

/-- What is documented of them: canonical UUID texts and integers are accepted as they
are. -/
structure Pydantic.Lawful (pydantic : Pydantic) : Prop where
  uuid_str : ∀ id : UUID, pydantic.uuid id.str = some id
  int_int : ∀ n : Int, pydantic.int (.int n) = some n

/-! ## Writing -/

section Dump

/-- `ArtifactRef`. -/
def dumpArtifact (artifact : ArtifactRef) : Json :=
  .obj [("media_type", .str artifact.mediaType), ("sha256", .str artifact.sha256),
    ("size", .int artifact.size)]

/-- `CreateRunSource`. -/
def dumpSource : CreateRunSource → Json
  | .remoteRepository repositoryUrl baseRef =>
    .obj [("base_ref", .str baseRef), ("repository_url", .str repositoryUrl)]
  | .registeredProject projectId snapshotId =>
    .obj [("project_id", .str projectId.str), ("snapshot_id", .str snapshotId.str)]

/-- `CreateRun`. -/
def dumpCreateRun (createRun : CreateRun) : Json :=
  .obj [("branch_prefix", .str createRun.branchPrefix.text),
    ("frozen_artifacts", .obj [
      ("migration_rulebook", dumpArtifact createRun.frozenArtifacts.migrationRulebook),
      ("spec", dumpArtifact createRun.frozenArtifacts.spec),
      ("target_project_blueprint", dumpArtifact createRun.frozenArtifacts.targetProjectBlueprint),
      ("understanding_dossier", dumpArtifact createRun.frozenArtifacts.understandingDossier)]),
    ("source", dumpSource createRun.source)]

/-- `ExecutionSubject`. -/
def dumpSubject : ExecutionSubject → Json
  | .localCandidate sliceId generation candidateCommitOid =>
    .obj [("candidate_commit_oid", .str candidateCommitOid), ("generation", .int generation.val),
      ("kind", .str "LOCAL_CANDIDATE"), ("slice_id", .str sliceId.str)]
  | .prospectiveIntegration sliceId generation expectedVerifiedOid prospectiveCommitOid =>
    .obj [("expected_verified_oid", .str expectedVerifiedOid),
      ("generation", .int generation.val), ("kind", .str "PROSPECTIVE_INTEGRATION"),
      ("prospective_commit_oid", .str prospectiveCommitOid), ("slice_id", .str sliceId.str)]
  | .finalVerified verifiedCommitOid =>
    .obj [("kind", .str "FINAL_VERIFIED"), ("verified_commit_oid", .str verifiedCommitOid)]

/-- `ActiveDispatch`. -/
def dumpDispatch (dispatch : ActiveDispatch) : Json :=
  .obj [("check_id", .str dispatch.checkId.str),
    ("dispatch_attempt_id", .str dispatch.dispatchAttemptId.str),
    ("subject", dumpSubject dispatch.subject),
    ("tested_commit_oid", .str dispatch.testedCommitOid)]

/-- `CandidateCheckpointFact`. -/
def dumpFact (fact : CandidateCheckpointFact) : Json :=
  .obj [("agent_run_id", .str fact.agentRunId.str), ("candidate_oid", .str fact.candidateOid),
    ("expected_candidate_oid", .str fact.expectedCandidateOid),
    ("generation", .int fact.generation.val), ("receipt_sha256", .str fact.receiptSha256.text),
    ("slice_id", .str fact.sliceId.str)]

/-- `BudgetUsage`. -/
def dumpUsage (usage : BudgetUsage) : Json :=
  .obj [("cost_micros", .int usage.costMicros), ("input_tokens", .int usage.inputTokens),
    ("output_tokens", .int usage.outputTokens)]

/-- The fields of a Run state. -/
def stateFields (state : RunState) : List (String × Json) :=
  [("active_dispatches", .arr (state.activeDispatches.map dumpDispatch)),
    ("adopted_advice_ids", .arr (state.adoptedAdviceIds.map .str)),
    ("budget_usage", dumpUsage state.budgetUsage),
    ("budget_warning_emitted", .bool state.budgetWarningEmitted),
    ("cancel_requested", .bool state.cancelRequested),
    ("candidate_checkpoints", .arr (state.candidateCheckpoints.map dumpFact)),
    ("continuation_counts", .arr (state.continuationCounts.map (fun count =>
      .arr [.int count.1, .int count.2]))),
    ("create_request", (state.createRequest.map dumpCreateRun).getD .null),
    ("failure_reason", .ofText? (state.failureReason.map (·.value))),
    ("frozen_plan_sha256", .ofText? state.frozenPlanSha256),
    ("new_calls_enabled", .bool state.newCallsEnabled),
    ("pending_advice_ids", .arr (state.pendingAdviceIds.map .str)),
    ("reporting_halted", .bool state.reportingHalted),
    ("run_id", .str state.runId.str),
    ("status", .str state.status.value),
    ("terminal_slice_failures", .arr (state.terminalSliceFailures.map .str)),
    ("version", .int state.version)]

/-- `_dump_json`. -/
def dumpJson (state : RunState) : Json := .obj (stateFields state)

/-- `SliceGenerationRef`. -/
def dumpSliceRef (ref : SliceGenerationRef) : Json :=
  .obj [("baseline_candidate_oid", .ofText? ref.baselineCandidateOid),
    ("generation", .int ref.generation.val), ("slice_id", .str ref.sliceId.str)]

/-- The fields of an agent run. -/
def agentRunFields (record : AgentRun) : List (String × Json) :=
  [("agent_run_id", .str record.agentRunId.str),
    ("candidate_checkpoint_sha256", .ofText? record.candidateCheckpointSha256),
    ("checkpoint_sha256", .ofText? record.checkpointSha256),
    ("context_sha256", .str record.contextSha256),
    ("continuation_of", .ofText? (record.continuationOf.map UUID.str)),
    ("exit", .ofText? (record.exit.map (·.value))),
    ("logical_task_key", .str record.logicalTaskKey),
    ("model_binding_sha256", .str record.modelBindingSha256),
    ("owner_id", .str record.ownerId.str),
    ("owner_kind", .str record.ownerKind),
    ("phase", .str record.phase.value),
    ("restarted_from", .ofText? (record.restartedFrom.map UUID.str)),
    ("result_sha256", .ofText? record.resultSha256),
    ("retry_of", .ofText? (record.retryOf.map UUID.str)),
    ("session_kind", .str record.sessionKind.value),
    ("slice_ref", (record.sliceRef.map dumpSliceRef).getD .null),
    ("state", .str record.state.value),
    ("template_sha256", .str record.templateSha256),
    ("thread_id", .str record.threadId),
    ("toolset_sha256", .str record.toolsetSha256),
    ("usage_sha256", .ofText? record.usageSha256),
    ("write_scope_sha256", .ofText? record.writeScopeSha256)]

/-- `_dump_agent_run`. -/
def dumpAgentRun (record : AgentRun) : Json := .obj (agentRunFields record)

end Dump

/-! ## Reading -/

/-- A text, for values that must be texts. -/
def asText : Json → Option String
  | .str text => some text
  | _ => none

/-- `UUID(value)`. -/
def asUuid (value : Json) : Option UUID := (asText value).bind UUID.parse

/-- A text or `None`. -/
def asText? : Json → Option (Option String)
  | .null => some none
  | .str text => some (some text)
  | _ => none

/-- `validate_candidate_generation`. -/
def asGeneration : Json → Option CandidateGeneration
  | .int n => if range : 0 ≤ n ∧ n < 3 then some ⟨n.toNat, by omega⟩ else none
  | _ => none

/-- `payload.get(key)`, with `None` for an absent key. -/
def getOr (payload : List (String × Json)) (key : String) : Json :=
  (Json.field? payload key).getD .null

/-- `decode(payload[key]) if payload.get(key) is not None else None`. -/
def decodeUnlessNull {α : Type} (decode : Json → Option α) (payload : List (String × Json))
    (key : String) : Option (Option α) :=
  match getOr payload key with
  | .null => some none
  | value => (decode value).map some

/-- `decode(payload[key]) if payload.get(key) else None`. -/
def decodeIfTrue {α : Type} (decode : Json → Option α) (payload : List (String × Json))
    (key : String) : Option (Option α) :=
  if (getOr payload key).truthy then (decode (getOr payload key)).map some else some none

/-- The fields of a model with `extra="forbid"`. -/
def closedModel (names : List String) (value : Json) : Option (List (String × Json)) :=
  match value with
  | .obj fields => if fields.all (fun field => names.contains field.1) then some fields else none
  | _ => none

section Decode

variable (pydantic : Pydantic) (repr : Json → String)

/-- A text field of a model. -/
def textField (fields : List (String × Json)) (name : String) : Option String :=
  (Json.field? fields name).bind asText

/-- A UUID field of a model. -/
def uuidField (fields : List (String × Json)) (name : String) : Option UUID :=
  (textField fields name).bind pydantic.uuid

/-- `ArtifactRef.model_validate`. -/
def decodeArtifact (value : Json) : Option ArtifactRef := do
  let fields ← closedModel ["sha256", "size", "media_type"] value
  let sha256 ← textField fields "sha256"
  let size ← (Json.field? fields "size").bind pydantic.int
  let mediaType ← textField fields "media_type"
  return ⟨sha256, size, mediaType⟩

/-- The two members of `CreateRunSource`, whose fields have no name in common. -/
def decodeSource (value : Json) : Option CreateRunSource :=
  (do
    let fields ← closedModel ["repository_url", "base_ref"] value
    let repositoryUrl ← textField fields "repository_url"
    let baseRef ← textField fields "base_ref"
    return CreateRunSource.remoteRepository repositoryUrl baseRef) <|>
  (do
    let fields ← closedModel ["project_id", "snapshot_id"] value
    let projectId ← uuidField pydantic fields "project_id"
    let snapshotId ← uuidField pydantic fields "snapshot_id"
    return CreateRunSource.registeredProject projectId snapshotId)

/-- `FrozenArtifactBundle.model_validate`. -/
def decodeBundle (value : Json) : Option FrozenArtifactBundle := do
  let fields ← closedModel
    ["spec", "understanding_dossier", "target_project_blueprint", "migration_rulebook"] value
  let spec ← (Json.field? fields "spec").bind (decodeArtifact pydantic)
  let dossier ← (Json.field? fields "understanding_dossier").bind (decodeArtifact pydantic)
  let blueprint ← (Json.field? fields "target_project_blueprint").bind (decodeArtifact pydantic)
  let rulebook ← (Json.field? fields "migration_rulebook").bind (decodeArtifact pydantic)
  return ⟨spec, dossier, blueprint, rulebook⟩

/-- `validate_branch_prefix`. -/
def decodePrefix (text : String) : Option BranchPrefix :=
  if safe : isBranchPrefix text = true then some ⟨text, safe⟩ else none

/-- `CreateRun.model_validate`. -/
def decodeCreateRun (value : Json) : Option CreateRun := do
  let fields ← closedModel ["source", "branch_prefix", "frozen_artifacts"] value
  let source ← (Json.field? fields "source").bind (decodeSource pydantic)
  let branchPrefix ← (textField fields "branch_prefix").bind decodePrefix
  let frozenArtifacts ← (Json.field? fields "frozen_artifacts").bind (decodeBundle pydantic)
  return ⟨source, branchPrefix, frozenArtifacts⟩

/-- `ExecutionSubject`, by its `kind`. -/
def decodeSubject (value : Json) : Option ExecutionSubject :=
  match value with
  | .obj fields =>
    match Json.field? fields "kind" with
    | some (.str "LOCAL_CANDIDATE") => do
        let fields ← closedModel ["kind", "slice_id", "generation", "candidate_commit_oid"] value
        let sliceId ← uuidField pydantic fields "slice_id"
        let generation ← (Json.field? fields "generation").bind asGeneration
        let candidateCommitOid ← textField fields "candidate_commit_oid"
        return .localCandidate sliceId generation candidateCommitOid
    | some (.str "PROSPECTIVE_INTEGRATION") => do
        let fields ← closedModel ["kind", "slice_id", "generation", "expected_verified_oid",
          "prospective_commit_oid"] value
        let sliceId ← uuidField pydantic fields "slice_id"
        let generation ← (Json.field? fields "generation").bind asGeneration
        let expectedVerifiedOid ← textField fields "expected_verified_oid"
        let prospectiveCommitOid ← textField fields "prospective_commit_oid"
        return .prospectiveIntegration sliceId generation expectedVerifiedOid prospectiveCommitOid
    | some (.str "FINAL_VERIFIED") => do
        let fields ← closedModel ["kind", "verified_commit_oid"] value
        let verifiedCommitOid ← textField fields "verified_commit_oid"
        return .finalVerified verifiedCommitOid
    | _ => none
  | _ => none

/-- `ActiveDispatch.model_validate`. -/
def decodeDispatch (value : Json) : Option ActiveDispatch := do
  let fields ← closedModel ["dispatch_attempt_id", "subject", "check_id", "tested_commit_oid"] value
  let dispatchAttemptId ← uuidField pydantic fields "dispatch_attempt_id"
  let subject ← (Json.field? fields "subject").bind (decodeSubject pydantic)
  let checkId ← uuidField pydantic fields "check_id"
  let testedCommitOid ← textField fields "tested_commit_oid"
  if tested : testedCommitOid = subject.commitOid then
    return ⟨dispatchAttemptId, subject, checkId, testedCommitOid, tested⟩
  else none

/-- `SliceGenerationRef.model_validate`. -/
def decodeSliceRef (value : Json) : Option SliceGenerationRef := do
  let fields ← closedModel ["slice_id", "generation", "baseline_candidate_oid"] value
  let sliceId ← uuidField pydantic fields "slice_id"
  let generation ← (Json.field? fields "generation").bind asGeneration
  let baselineCandidateOid ← (Json.field? fields "baseline_candidate_oid").bind asText?
  return ⟨sliceId, generation, baselineCandidateOid⟩

/-- One candidate checkpoint of `_decode_state`, with the checks of its constructor. -/
def decodeFact (value : Json) : Option CandidateCheckpointFact := do
  let fields ← (match value with | .obj fields => some fields | _ => none)
  let agentRunId ← (Json.field? fields "agent_run_id").bind asUuid
  let sliceId ← (Json.field? fields "slice_id").bind asUuid
  let generation ← ((Json.field? fields "generation").bind Json.toInt).bind
    (fun n => asGeneration (.int n))
  let expectedCandidateOid ← (Json.field? fields "expected_candidate_oid").map (·.text repr)
  let candidateOid ← (Json.field? fields "candidate_oid").map (·.text repr)
  let receiptSha256 ← (Json.field? fields "receipt_sha256").map (·.text repr)
  if nonEmpty : expectedCandidateOid ≠ "" ∧ candidateOid ≠ "" then
    if valid : isSha256 receiptSha256 = true then
      return ⟨agentRunId, sliceId, generation, expectedCandidateOid, candidateOid,
        ⟨receiptSha256, valid⟩, nonEmpty⟩
    else none
  else none

/-- One field of `BudgetUsage(**payload)`: absent is 0, present a non-negative `int`. -/
def usageField (fields : List (String × Json)) (name : String) : Option Nat :=
  match Json.field? fields name with
  | none => some 0
  | some (.int n) => if 0 ≤ n then some n.toNat else none
  | _ => none

/-- `BudgetUsage(**payload)`. -/
def decodeUsage (value : Json) : Option BudgetUsage := do
  let fields ← closedModel ["input_tokens", "output_tokens", "cost_micros"] value
  let inputTokens ← usageField fields "input_tokens"
  let outputTokens ← usageField fields "output_tokens"
  let costMicros ← usageField fields "cost_micros"
  return ⟨inputTokens, outputTokens, costMicros⟩

/-- `(int(item[0]), int(item[1]))`. -/
def decodeCount (item : Json) : Option (Int × Int) := do
  let generation ← (item.index? 0).bind Json.toInt
  let count ← (item.index? 1).bind Json.toInt
  return (generation, count)

/-- `payload.get(key, ())`. -/
def getItems (payload : List (String × Json)) (key : String) : Option (List Json) :=
  match Json.field? payload key with
  | none => some []
  | some value => value.items?

/-- `_decode_state`. -/
def decodeState (value : Json) : Option RunState := do
  let payload ← (match value with | .obj payload => some payload | _ => none)
  let runId ← (Json.field? payload "run_id").bind asUuid
  let status ← (textField payload "status").bind RunStatus.ofValue
  let version ← (Json.field? payload "version").bind Json.toInt
  let cancelRequested ← (Json.field? payload "cancel_requested").map Json.truthy
  let failureReason ← decodeUnlessNull (fun value => (asText value).bind FailureReason.ofValue)
    payload "failure_reason"
  let newCallsEnabled ← (Json.field? payload "new_calls_enabled").map Json.truthy
  let budgetUsage ← (Json.field? payload "budget_usage").bind decodeUsage
  let budgetWarningEmitted ← (Json.field? payload "budget_warning_emitted").map Json.truthy
  let activeDispatches ← ((Json.field? payload "active_dispatches").bind Json.items?).bind
    (·.mapM (decodeDispatch pydantic))
  let continuationCounts ← ((Json.field? payload "continuation_counts").bind Json.items?).bind
    (·.mapM decodeCount)
  let terminalSliceFailures ← ((Json.field? payload "terminal_slice_failures").bind
    Json.items?).bind (·.mapM asText)
  let adoptedAdviceIds ← (getItems payload "adopted_advice_ids").bind (·.mapM asText)
  let pendingAdviceIds ← (getItems payload "pending_advice_ids").bind (·.mapM asText)
  let createRequest ← decodeUnlessNull (decodeCreateRun pydantic) payload "create_request"
  let frozenPlanSha256 ← asText? (getOr payload "frozen_plan_sha256")
  let candidateCheckpoints ← (getItems payload "candidate_checkpoints").bind
    (·.mapM (decodeFact repr))
  return { RunState.default runId with
    status := status
    version := version
    cancelRequested := cancelRequested
    failureReason := failureReason
    newCallsEnabled := newCallsEnabled
    budgetUsage := budgetUsage
    budgetWarningEmitted := budgetWarningEmitted
    activeDispatches := activeDispatches
    continuationCounts := continuationCounts
    terminalSliceFailures := terminalSliceFailures
    adoptedAdviceIds := adoptedAdviceIds
    pendingAdviceIds := pendingAdviceIds
    createRequest := createRequest
    frozenPlanSha256 := frozenPlanSha256
    candidateCheckpoints := candidateCheckpoints }

/-- The arguments that `_decode_agent_run` gives the constructor. -/
def decodeAgentRunFields (value : Json) : Option AgentRunFields := do
  let payload ← (match value with | .obj payload => some payload | _ => none)
  let agentRunId ← (Json.field? payload "agent_run_id").bind asUuid
  let ownerKind ← (Json.field? payload "owner_kind").map (·.text repr)
  let ownerId ← (Json.field? payload "owner_id").bind asUuid
  let logicalTaskKey ← (Json.field? payload "logical_task_key").map (·.text repr)
  let phase ← (textField payload "phase").bind Phase.ofValue
  let sessionKind ← (textField payload "session_kind").bind SessionKind.ofValue
  let threadId ← (Json.field? payload "thread_id").map (·.text repr)
  let modelBindingSha256 ← (Json.field? payload "model_binding_sha256").map (·.text repr)
  let contextSha256 ← (Json.field? payload "context_sha256").map (·.text repr)
  let toolsetSha256 ← (Json.field? payload "toolset_sha256").map (·.text repr)
  let templateSha256 ← (Json.field? payload "template_sha256").map (·.text repr)
  let sliceRef ← decodeUnlessNull (decodeSliceRef pydantic) payload "slice_ref"
  let writeScopeSha256 ← asText? (getOr payload "write_scope_sha256")
  let checkpointSha256 ← asText? (getOr payload "checkpoint_sha256")
  let candidateCheckpointSha256 ← asText? (getOr payload "candidate_checkpoint_sha256")
  let resultSha256 ← asText? (getOr payload "result_sha256")
  let usageSha256 ← asText? (getOr payload "usage_sha256")
  let retryOf ← decodeIfTrue asUuid payload "retry_of"
  let continuationOf ← decodeIfTrue asUuid payload "continuation_of"
  let restartedFrom ← decodeIfTrue asUuid payload "restarted_from"
  let state ← (textField payload "state").bind SessionState.ofValue
  let exit ← decodeIfTrue (fun value => (asText value).bind SessionExit.ofValue) payload "exit"
  return {
    agentRunId := agentRunId
    ownerKind := ownerKind
    ownerId := ownerId
    logicalTaskKey := logicalTaskKey
    phase := phase
    sessionKind := sessionKind
    threadId := threadId
    modelBindingSha256 := modelBindingSha256
    contextSha256 := contextSha256
    toolsetSha256 := toolsetSha256
    templateSha256 := templateSha256
    sliceRef := sliceRef
    writeScopeSha256 := writeScopeSha256
    checkpointSha256 := checkpointSha256
    candidateCheckpointSha256 := candidateCheckpointSha256
    resultSha256 := resultSha256
    usageSha256 := usageSha256
    retryOf := retryOf
    continuationOf := continuationOf
    restartedFrom := restartedFrom
    state := state
    exit := exit }

/-- `_decode_agent_run`. -/
def decodeAgentRun (value : Json) : Option AgentRun :=
  (decodeAgentRunFields pydantic repr value).bind AgentRun.construct

end Decode

end CodeMigrator
