import CodeMigrator.Runtime.Codec
import CodeMigrator.Runtime.Phases

/-!
# Round trips of stored documents

Every agent run is read back as it was written. A Run state is read back except for
`reporting_halted`, which `_decode_state` leaves at its default: the round trip holds
exactly for the states in which reporting is not halted, and over a run exactly until
a recovery with a drifted reference is committed.
-/

namespace CodeMigrator
open Lib

section RoundTrip

variable {pydantic : Pydantic} (repr : Json → String) {α : Type} {payload : List (String × Json)}
  {key : String}

@[simp] theorem asUuid_str (id : UUID) : asUuid (.str id.str) = some id := by
  rw [asUuid, asText, Option.bind_some, UUID.parse_str]

@[simp] theorem asText?_ofText? (value : Option String) : asText? (.ofText? value) = some value := by
  cases value with
  | none => rfl
  | some text => rfl

@[simp] theorem asGeneration_val (generation : CandidateGeneration) :
    asGeneration (.int generation.val) = some generation := by
  have range : (0 : Int) ≤ (generation.val : Int) ∧ (generation.val : Int) < 3 := by omega
  simp only [asGeneration, range, and_self, dite_true, Int.toNat_natCast]

theorem decodeArtifact_dump (lawful : pydantic.Lawful) (artifact : ArtifactRef) :
    decodeArtifact pydantic (dumpArtifact artifact) = some artifact := by
  simp [decodeArtifact, dumpArtifact, closedModel, textField, asText, lawful.int_int]

theorem decodeSource_dump (lawful : pydantic.Lawful) (source : CreateRunSource) :
    decodeSource pydantic (dumpSource source) = some source := by
  cases source with
  | remoteRepository repositoryUrl baseRef =>
    simp [decodeSource, dumpSource, closedModel, textField, asText]
  | registeredProject projectId snapshotId =>
    simp [decodeSource, dumpSource, closedModel, textField, uuidField, asText, lawful.uuid_str]

theorem decodeCreateRun_dump (lawful : pydantic.Lawful) (createRun : CreateRun) :
    decodeCreateRun pydantic (dumpCreateRun createRun) = some createRun := by
  have safe := createRun.branchPrefix.safe
  simp [decodeCreateRun, dumpCreateRun, closedModel, textField, asText, decodeBundle, decodePrefix,
    decodeSource_dump lawful, decodeArtifact_dump lawful, safe]

theorem decodeSubject_dump (lawful : pydantic.Lawful) (subject : ExecutionSubject) :
    decodeSubject pydantic (dumpSubject subject) = some subject := by
  cases subject with
  | localCandidate sliceId generation candidateCommitOid =>
    simp [decodeSubject, dumpSubject, closedModel, textField, uuidField, asText, lawful.uuid_str]
  | prospectiveIntegration sliceId generation expectedVerifiedOid prospectiveCommitOid =>
    simp [decodeSubject, dumpSubject, closedModel, textField, uuidField, asText, lawful.uuid_str]
  | finalVerified verifiedCommitOid =>
    simp [decodeSubject, dumpSubject, closedModel, textField, asText]

theorem decodeDispatch_dump (lawful : pydantic.Lawful) (dispatch : ActiveDispatch) :
    decodeDispatch pydantic (dumpDispatch dispatch) = some dispatch := by
  obtain ⟨dispatchAttemptId, subject, checkId, testedCommitOid, tested⟩ := dispatch
  subst tested
  simp [decodeDispatch, dumpDispatch, closedModel, textField, uuidField, asText, lawful.uuid_str,
    decodeSubject_dump lawful]

theorem decodeSliceRef_dump (lawful : pydantic.Lawful) (ref : SliceGenerationRef) :
    decodeSliceRef pydantic (dumpSliceRef ref) = some ref := by
  simp [decodeSliceRef, dumpSliceRef, closedModel, textField, uuidField, asText, lawful.uuid_str]

theorem decodeFact_dump (fact : CandidateCheckpointFact) :
    decodeFact repr (dumpFact fact) = some fact := by
  have nonEmpty := fact.oidsAreNonEmpty
  have valid := fact.receiptSha256.valid
  simp [decodeFact, dumpFact, Json.text, Json.toInt, nonEmpty, valid]

theorem decodeUsage_dump (usage : BudgetUsage) : decodeUsage (dumpUsage usage) = some usage := by
  simp [decodeUsage, dumpUsage, closedModel, usageField]

theorem decodeCount_dump (count : Int × Int) :
    decodeCount (.arr [.int count.1, .int count.2]) = some count := rfl

theorem mapM_asText (texts : List String) : (texts.map Json.str).mapM asText = some texts := by
  have one : ∀ text, asText (Json.str text) = some text := fun _ => rfl
  exact mapM_map_roundtrip one texts

theorem decodeUnlessNull_of {decode : Json → Option α} (dump : α → Json)
    (roundtrip : ∀ value, decode (dump value) = some value) (notNull : ∀ value, dump value ≠ .null)
    {value : Option α} (found : Json.field? payload key = some ((value.map dump).getD .null)) :
    decodeUnlessNull decode payload key = some value := by
  unfold decodeUnlessNull getOr
  rw [found, Option.getD_some]
  cases value with
  | none => rfl
  | some value =>
    rw [Option.map_some, Option.getD_some]
    split
    · rename_i null
      exact absurd null (notNull value)
    · rw [roundtrip, Option.map_some]

theorem decodeIfTrue_of {decode : Json → Option α} (dump : α → String)
    (roundtrip : ∀ value, decode (.str (dump value)) = some value)
    (nonEmpty : ∀ value, dump value ≠ "") {value : Option α}
    (found : Json.field? payload key = some (.ofText? (value.map dump))) :
    decodeIfTrue decode payload key = some value := by
  unfold decodeIfTrue getOr
  rw [found, Option.getD_some]
  cases value with
  | none => rfl
  | some value =>
    have truthy : (Json.ofText? ((some value).map dump)).truthy = true := by
      simp [Json.ofText?, Json.truthy, nonEmpty value]
    rw [if_pos truthy]
    show (decode (.str (dump value))).map some = some (some value)
    rw [roundtrip, Option.map_some]

theorem bind_of {β : Type} {read : Option α} {next : α → Option β} {value : α} {result : β}
    (known : read = some value) (rest : next value = some result) :
    (read >>= next) = some result := by
  rw [known]
  exact rest

theorem bind_field {value : Json} (decode : Json → Option α)
    (found : Json.field? payload key = some value) :
    (Json.field? payload key).bind decode = decode value := by
  rw [found, Option.bind_some]

theorem bind_items {items : List Json} (decode : List Json → Option α)
    (found : Json.field? payload key = some (.arr items)) :
    ((Json.field? payload key).bind Json.items?).bind decode = decode items := by
  rw [bind_field Json.items? found, Json.items?, Option.bind_some]

theorem bind_getItems {items : List Json} (decode : List Json → Option α)
    (found : Json.field? payload key = some (.arr items)) :
    (getItems payload key).bind decode = decode items := by
  rw [getItems, found]
  rfl

theorem bind_textField {text : String} (decode : String → Option α)
    (found : Json.field? payload key = some (.str text)) :
    (textField payload key).bind decode = decode text := by
  rw [textField, bind_field asText found, asText, Option.bind_some]

theorem map_field {value : Json} (f : Json → α) (found : Json.field? payload key = some value) :
    (Json.field? payload key).map f = some (f value) := by
  rw [found, Option.map_some]

theorem asText?_getOr {value : Option String}
    (found : Json.field? payload key = some (.ofText? value)) :
    asText? (getOr payload key) = some value := by
  rw [getOr, found, Option.getD_some, asText?_ofText?]

theorem decodeState_dumpJson (lawful : pydantic.Lawful) (state : RunState) :
    decodeState pydantic repr (dumpJson state) = some { state with reportingHalted := false } := by
  have runId : (Json.field? (stateFields state) "run_id").bind asUuid = some state.runId := by
    rw [bind_field asUuid rfl, asUuid_str]
  have status : (textField (stateFields state) "status").bind RunStatus.ofValue =
      some state.status := by
    rw [bind_textField RunStatus.ofValue rfl, RunStatus.ofValue_value]
  have version : (Json.field? (stateFields state) "version").bind Json.toInt =
      some state.version := by
    rw [bind_field Json.toInt rfl, Json.toInt]
  have failureReason : decodeUnlessNull (fun value => (asText value).bind FailureReason.ofValue)
      (stateFields state) "failure_reason" = some state.failureReason := by
    refine decodeUnlessNull_of (fun reason => .str reason.value) FailureReason.ofValue_value
      (fun _ => by simp) ?_
    show some (Json.ofText? (state.failureReason.map (·.value))) = _
    cases state.failureReason <;> rfl
  have budgetUsage : (Json.field? (stateFields state) "budget_usage").bind decodeUsage =
      some state.budgetUsage := by
    rw [bind_field decodeUsage rfl, decodeUsage_dump]
  have dispatches : ((Json.field? (stateFields state) "active_dispatches").bind Json.items?).bind
      (·.mapM (decodeDispatch pydantic)) = some state.activeDispatches := by
    rw [bind_items _ rfl, mapM_map_roundtrip (decodeDispatch_dump lawful)]
  have counts : ((Json.field? (stateFields state) "continuation_counts").bind Json.items?).bind
      (·.mapM decodeCount) = some state.continuationCounts := by
    rw [bind_items _ rfl, mapM_map_roundtrip decodeCount_dump]
  have failures : ((Json.field? (stateFields state) "terminal_slice_failures").bind
      Json.items?).bind (·.mapM asText) = some state.terminalSliceFailures := by
    rw [bind_items _ rfl, mapM_asText]
  have adopted : (getItems (stateFields state) "adopted_advice_ids").bind (·.mapM asText) =
      some state.adoptedAdviceIds := by
    rw [bind_getItems _ rfl, mapM_asText]
  have pending : (getItems (stateFields state) "pending_advice_ids").bind (·.mapM asText) =
      some state.pendingAdviceIds := by
    rw [bind_getItems _ rfl, mapM_asText]
  have createRequest : decodeUnlessNull (decodeCreateRun pydantic) (stateFields state)
      "create_request" = some state.createRequest :=
    decodeUnlessNull_of dumpCreateRun (decodeCreateRun_dump lawful)
      (fun _ => by simp [dumpCreateRun]) rfl
  have facts : (getItems (stateFields state) "candidate_checkpoints").bind
      (·.mapM (decodeFact repr)) = some state.candidateCheckpoints := by
    rw [bind_getItems _ rfl, mapM_map_roundtrip (decodeFact_dump repr)]
  unfold decodeState dumpJson
  refine bind_of rfl (bind_of runId (bind_of status (bind_of version
    (bind_of (map_field Json.truthy rfl) (bind_of failureReason
    (bind_of (map_field Json.truthy rfl) (bind_of budgetUsage (bind_of (map_field Json.truthy rfl)
    (bind_of dispatches (bind_of counts (bind_of failures (bind_of adopted (bind_of pending
    (bind_of createRequest (bind_of (asText?_getOr rfl) (bind_of facts ?_))))))))))))))))
  rfl

theorem decodeState_dumpJson_iff (lawful : pydantic.Lawful) (state : RunState) :
    decodeState pydantic repr (dumpJson state) = some state ↔ state.reportingHalted = false := by
  rw [decodeState_dumpJson repr lawful, Option.some.injEq]
  constructor
  · intro same
    have halted := congrArg RunState.reportingHalted same
    exact halted.symm
  · intro running
    rw [← running]

end RoundTrip

/-! ## Run states over a run -/

section Halted

variable {config : ActorConfig} {world : World}

theorem RunStep.reportingHalted {message : RuntimeMessage} {state next : RunState}
    {events : List EventSpec} {work : List PortCall}
    (run : RunStep config message state events work next) :
    next.reportingHalted = state.reportingHalted ∨
      ∃ trigger activeDispatchIds missingIntentIds checkpointCorrupt refDrift kind,
        message = .recovery trigger activeDispatchIds missingIntentIds checkpointCorrupt refDrift ∧
          RecoveryTrigger.ofValue trigger = some kind ∧ next.reportingHalted = refDrift := by
  cases run with
  | recovery trigger activeDispatchIds missingIntentIds checkpointCorrupt refDrift kind _ known =>
    exact .inr ⟨trigger, activeDispatchIds, missingIntentIds, checkpointCorrupt, refDrift, kind,
      rfl, known, rfl⟩
  | advice advice result =>
    obtain ⟨adopted, pending, version, equal⟩ := decideAdvice_frame state advice result
    rw [equal]
    exact .inl rfl
  | _ => exact .inl rfl

/-- A recovery with a drifted reference is committed. -/
def CommitsDrift (config : ActorConfig) (world : World) : Input → Prop
  | .message (.recovery trigger activeDispatchIds missingIntentIds checkpointCorrupt true) around =>
    (world.store.load config.runId).isSome = true ∧
      ∃ kind, RecoveryTrigger.ofValue trigger = some kind ∧
        writable around world ((RecoveryCoordinator.trigger kind activeDispatchIds
          missingIntentIds checkpointCorrupt true).events.map recoveryEvent) = true
  | _ => False

theorem recovery_persisted (coherent : Coherent config (world.core config))
    {snapshot : RuntimeSnapshot} (found : world.store.load config.runId = some snapshot)
    {trigger : String} {kind : RecoveryTrigger} (known : RecoveryTrigger.ofValue trigger = some kind)
    (activeDispatchIds missingIntentIds : List String) (checkpointCorrupt refDrift : Bool)
    (around : Surroundings) {events : List EventSpec}
    (listed : events = (RecoveryCoordinator.trigger kind activeDispatchIds missingIntentIds
      checkpointCorrupt refDrift).events.map recoveryEvent) :
    (step config world (.message (.recovery trigger activeDispatchIds missingIntentIds
      checkpointCorrupt refDrift) around)).store.load config.runId =
      if writable around world events then
        some (snapshot.extend { snapshot.state with
          activeDispatches := []
          reportingHalted := refDrift
          version := snapshot.state.version + 1 } events)
      else some snapshot := by
  have loaded := coherent.loaded_of_found found
  let next : RunState := { snapshot.state with
    activeDispatches := [], reportingHalted := refDrift, version := snapshot.state.version + 1 }
  have unmoved : committedEvents (some snapshot.state) next events = events :=
    committedEvents_same events (show snapshot.state.status = next.status from rfl)
  have own : next.runId = config.runId := loaded.runId
  rw [← unmoved]
  refine persisted_of_commit around loaded own ?_
  dsimp only [step]
  rw [turn_core_eq, listed]
  simp only [handle, handleRecovery, loaded.current, known]
  rfl

/-- Reporting is not halted in the persisted state. -/
def Reports (config : ActorConfig) (world : World) : Prop :=
  ∀ snapshot, world.store.load config.runId = some snapshot → snapshot.state.reportingHalted = false

theorem step_reports_iff (coherent : Coherent config (world.core config))
    (reports : Reports config world) (input : Input) :
    Reports config (step config world input) ↔ ¬ CommitsDrift config world input := by
  constructor
  · intro after drift
    unfold CommitsDrift at drift
    split at drift
    · rename_i trigger activeDispatchIds missingIntentIds checkpointCorrupt around
      obtain ⟨present, kind, known, committed⟩ := drift
      obtain ⟨snapshot, found⟩ := Option.isSome_iff_exists.mp present
      have written := recovery_persisted coherent found known activeDispatchIds missingIntentIds
        checkpointCorrupt true around rfl
      rw [if_pos committed] at written
      have halted := after _ written
      cases halted
    · exact drift
  · intro noDrift later foundLater
    have one := step_core coherent input
    cases found : world.store.load config.runId with
    | none =>
      rcases one.of_absent found with absent | ⟨createRun, written⟩
      · exact absurd (absent.symm.trans foundLater) (by simp)
      · have same := written.symm.trans foundLater
        cases same
        rfl
    | some snapshot =>
      rcases one.of_persisted found with
        ⟨kept, _⟩ | ⟨message, around, events, work, next, rfl, run, written, _⟩
      · have same := kept.symm.trans foundLater
        cases same
        exact reports _ found
      · rcases run.reportingHalted with unchanged | ⟨trigger, activeDispatchIds,
          missingIntentIds, checkpointCorrupt, refDrift, kind, rfl, known, halted⟩
        · have same := written.symm.trans foundLater
          cases same
          exact unchanged.trans (reports snapshot found)
        · cases refDrift with
          | false =>
            have same := written.symm.trans foundLater
            cases same
            exact halted
          | true =>
            -- no drift is committed, so the recovery was not
            have recovered := recovery_persisted coherent found known activeDispatchIds
              missingIntentIds checkpointCorrupt true around rfl
            have refused : ¬ writable around world ((RecoveryCoordinator.trigger kind
                activeDispatchIds missingIntentIds checkpointCorrupt true).events.map
                recoveryEvent) = true :=
              fun committed => noDrift ⟨by rw [found]; rfl, kind, known, committed⟩
            rw [if_neg refused] at recovered
            have same := recovered.symm.trans foundLater
            cases same
            exact reports _ found

/-- A Run state is read back exactly when its reporting is not halted; and every state
that a run persists is read back exactly when the run commits no recovery with a drifted
reference. -/
theorem stored_state_roundtrip_iff (pydantic : Pydantic) (lawful : pydantic.Lawful)
    (repr : Json → String) (config : ActorConfig) (world : World) (fresh : Fresh config world)
    (inputs : List Input) :
    (∀ state, decodeState pydantic repr (dumpJson state) = some state ↔
      state.reportingHalted = false) ∧
    (Always (step config)
        (fun reached => ∀ snapshot, reached.store.load config.runId = some snapshot →
          decodeState pydantic repr (dumpJson snapshot.state) = some snapshot.state)
        world inputs ↔
      Along (step config) (fun reached input => ¬ CommitsDrift config reached input) world inputs) := by
  refine ⟨decodeState_dumpJson_iff repr lawful, ?_⟩
  have start : Reports config world := by
    intro snapshot found
    rw [fresh.noRun] at found
    cases found
  simp only [decodeState_dumpJson_iff repr lawful]
  refine (always_iff start inputs).trans ?_
  refine along_iff (fun reached => Coherent config (reached.core config) ∧ Reports config reached)
    ?_ ?_ ⟨fresh.coherent, start⟩ inputs
  · intro reached input invariant after
    exact ⟨step_coherent invariant.1 input, after⟩
  · intro reached input invariant
    exact step_reports_iff invariant.1 invariant.2 input

end Halted

namespace SampleRun

/-- Validators that accept what the canonical documents hold. -/
def pydantic : Pydantic where
  uuid := UUID.parse
  int := fun value =>
    match value with
    | .int n => some n
    | _ => none

theorem pydantic_lawful : pydantic.Lawful where
  uuid_str := by
    intro id
    simp only [pydantic, UUID.parse_str]
  int_int := fun _ => rfl

/-- A Run whose references have drifted when it recovers. -/
def toDrift : List Input := [.message (.create runId createRun none) calm, recover]

end SampleRun

open SampleRun in
theorem stored_state_roundtrip_toVerification :
    Always (step config)
      (fun reached => ∀ snapshot, reached.store.load runId = some snapshot →
        decodeState pydantic config.repr (dumpJson snapshot.state) = some snapshot.state)
      start toVerification :=
  (stored_state_roundtrip_iff pydantic pydantic_lawful config.repr config start start_fresh
    toVerification).2.mpr ⟨id, id, id, id, id, id, trivial⟩

open SampleRun in
/-- The recovery halts reporting, and the stored state has forgotten it. -/
theorem stored_state_forgets_halt :
    ∃ snapshot, (runFrom (step config) start toDrift).store.load runId = some snapshot ∧
      snapshot.state.reportingHalted = true ∧
      decodeState pydantic config.repr (dumpJson snapshot.state) ≠ some snapshot.state := by
  have halted : ((runFrom (step config) start toDrift).store.load runId).map
      (·.state.reportingHalted) = some true := by decide
  obtain ⟨snapshot, found, isHalted⟩ := Option.map_eq_some_iff.mp halted
  refine ⟨snapshot, found, isHalted, ?_⟩
  intro readBack
  have running := (decodeState_dumpJson_iff config.repr pydantic_lawful snapshot.state).mp readBack
  rw [isHalted] at running
  cases running

/-! ## Agent runs -/

section AgentRuns

variable {pydantic : Pydantic} (repr : Json → String)

theorem uuid_str_ne_empty (id : UUID) : id.str ≠ "" := by
  intro empty
  have parsed := UUID.parse_str id
  have none_ : UUID.parse "" = none := by decide
  rw [empty, none_] at parsed
  cases parsed

theorem map_text {payload : List (String × Json)} {key text : String}
    (found : Json.field? payload key = some (.str text)) :
    (Json.field? payload key).map (·.text repr) = some text :=
  map_field (·.text repr) found

theorem decodeAgentRunFields_dump (lawful : pydantic.Lawful) (record : AgentRun) :
    decodeAgentRunFields pydantic repr (dumpAgentRun record) = some record.toAgentRunFields := by
  have agentRunId : (Json.field? (agentRunFields record) "agent_run_id").bind asUuid =
      some record.agentRunId := by
    rw [bind_field asUuid rfl, asUuid_str]
  have ownerId : (Json.field? (agentRunFields record) "owner_id").bind asUuid =
      some record.ownerId := by
    rw [bind_field asUuid rfl, asUuid_str]
  have phase : (textField (agentRunFields record) "phase").bind Phase.ofValue =
      some record.phase := by
    rw [bind_textField Phase.ofValue rfl, Phase.ofValue_value]
  have sessionKind : (textField (agentRunFields record) "session_kind").bind SessionKind.ofValue =
      some record.sessionKind := by
    rw [bind_textField SessionKind.ofValue rfl, SessionKind.ofValue_value]
  have sliceRef : decodeUnlessNull (decodeSliceRef pydantic) (agentRunFields record) "slice_ref" =
      some record.sliceRef :=
    decodeUnlessNull_of dumpSliceRef (decodeSliceRef_dump lawful)
      (fun _ => by simp [dumpSliceRef]) rfl
  have retryOf : decodeIfTrue asUuid (agentRunFields record) "retry_of" = some record.retryOf :=
    decodeIfTrue_of UUID.str asUuid_str uuid_str_ne_empty rfl
  have continuationOf : decodeIfTrue asUuid (agentRunFields record) "continuation_of" =
      some record.continuationOf :=
    decodeIfTrue_of UUID.str asUuid_str uuid_str_ne_empty rfl
  have restartedFrom : decodeIfTrue asUuid (agentRunFields record) "restarted_from" =
      some record.restartedFrom :=
    decodeIfTrue_of UUID.str asUuid_str uuid_str_ne_empty rfl
  have state : (textField (agentRunFields record) "state").bind SessionState.ofValue =
      some record.state := by
    rw [bind_textField SessionState.ofValue rfl, SessionState.ofValue_value]
  have exit : decodeIfTrue (fun value => (asText value).bind SessionExit.ofValue)
      (agentRunFields record) "exit" = some record.exit :=
    decodeIfTrue_of SessionExit.value SessionExit.ofValue_value
      (fun exit => by cases exit <;> decide) rfl
  unfold decodeAgentRunFields dumpAgentRun
  refine bind_of rfl (bind_of agentRunId (bind_of (map_text repr rfl) (bind_of ownerId
    (bind_of (map_text repr rfl) (bind_of phase (bind_of sessionKind
    (bind_of (map_text repr rfl) (bind_of (map_text repr rfl) (bind_of (map_text repr rfl)
    (bind_of (map_text repr rfl) (bind_of (map_text repr rfl) (bind_of sliceRef
    (bind_of (asText?_getOr rfl) (bind_of (asText?_getOr rfl) (bind_of (asText?_getOr rfl)
    (bind_of (asText?_getOr rfl) (bind_of (asText?_getOr rfl) (bind_of retryOf
    (bind_of continuationOf (bind_of restartedFrom (bind_of state (bind_of exit
    ?_))))))))))))))))))))))
  rfl

theorem decodeAgentRun_dump (lawful : pydantic.Lawful) (record : AgentRun) :
    decodeAgentRun pydantic repr (dumpAgentRun record) = some record := by
  rw [decodeAgentRun, decodeAgentRunFields_dump repr lawful, Option.bind_some,
    AgentRun.construct_self]

theorem dumpAgentRun_injective (lawful : pydantic.Lawful) {record other : AgentRun}
    (same : dumpAgentRun other = dumpAgentRun record) : other = record := by
  have readBack := decodeAgentRun_dump (fun _ => "") lawful other
  rw [same, decodeAgentRun_dump _ lawful record] at readBack
  exact (Option.some.inj readBack).symm

theorem decodeAgentRun_constructed {document : Json} {record : AgentRun}
    (read : decodeAgentRun pydantic repr document = some record) :
    decodeAgentRunFields pydantic repr document = some record.toAgentRunFields := by
  obtain ⟨fields, fieldsRead, built⟩ := Option.bind_eq_some_iff.mp read
  rw [fieldsRead, AgentRun.construct_fields built]

end AgentRuns

/-- Every record that the constructor accepts is read back from its document; and what
the decoder reads from any document is the constructor's record of the fields it read,
which is read back from its own document and shares that document with no other record. -/
theorem agentRun_roundtrip (pydantic : Pydantic) (lawful : pydantic.Lawful)
    (repr : Json → String) :
    (∀ fields record, AgentRun.construct fields = some record →
      record.toAgentRunFields = fields ∧
        decodeAgentRun pydantic repr (dumpAgentRun record) = some record) ∧
    (∀ document record, decodeAgentRun pydantic repr document = some record →
      record.toAgentRunFields.Valid ∧
        decodeAgentRunFields pydantic repr document = some record.toAgentRunFields ∧
        decodeAgentRun pydantic repr (dumpAgentRun record) = some record ∧
        ∀ other, dumpAgentRun other = dumpAgentRun record → other = record) := by
  constructor
  · intro fields record built
    exact ⟨AgentRun.construct_fields built, decodeAgentRun_dump repr lawful record⟩
  · intro document record read
    refine ⟨record.valid, decodeAgentRun_constructed repr read,
      decodeAgentRun_dump repr lawful record, ?_⟩
    intro other same
    exact dumpAgentRun_injective lawful same

namespace SampleRun

/-- The document of the closed planner, less its fields that hold nothing. -/
def plannerDocument : Json :=
  .obj ((agentRunFields plannerClosed).filter (fun field => field.2 != .null))

theorem plannerDocument_read :
    decodeAgentRun pydantic config.repr plannerDocument = some plannerClosed := by
  decide

end SampleRun

open SampleRun in
theorem agentRun_roundtrip_planner :
    plannerDocument ≠ dumpAgentRun plannerClosed ∧
      decodeAgentRun pydantic config.repr (dumpAgentRun plannerClosed) = some plannerClosed ∧
      ∀ other, dumpAgentRun other = dumpAgentRun plannerClosed → other = plannerClosed := by
  obtain ⟨_, accepts⟩ := agentRun_roundtrip pydantic pydantic_lawful config.repr
  obtain ⟨_, _, readBack, unique⟩ := accepts plannerDocument plannerClosed plannerDocument_read
  exact ⟨by decide, readBack, unique⟩

end CodeMigrator
