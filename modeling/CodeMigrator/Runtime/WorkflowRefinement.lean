import CodeMigrator.Lib.Sequence
import CodeMigrator.Runtime.Refinement

/-!
# The actor refines the transition system

Every step of `step` is a `CoreStep` of the Run, from every world in which the invariant
`Coherent` holds. The handlers of workflow commands and execution rounds, and with them
every step of the world. A receipt of an agent run that is already stored is never met by
a command that goes on to move the Run: its event is in the ledger, and so is the end of
the planning phase.
-/

namespace CodeMigrator
open Lib

/-! ## Owner transactions of the store -/

section Transactions

variable {store : RuntimeStore} {rejects : EventData → Bool}

theorem RuntimeStore.ownerSnapshot_ok {state : RunState} {events : List EventSpec}
    {snapshot : RuntimeSnapshot} (written : store.ownerSnapshot rejects state events = .ok snapshot) :
    ∃ previous, store.load state.runId = some previous ∧ snapshot = previous.extend state events := by
  unfold RuntimeStore.ownerSnapshot at written
  split at written
  · cases written
  · rename_i previous stored
    split at written
    · cases written
    · unfold RuntimeStore.materialize at written
      split at written
      · rename_i rejected
        split at rejected
        · cases written
        · cases rejected
      · rename_i materialized accepted
        split at accepted
        · cases accepted
        · cases accepted
          cases written
          exact ⟨previous, stored, rfl⟩

theorem RuntimeStore.validateAgentReceipt_none {current : Option AgentRun} {record : AgentRun}
    {receipt : AgentRunReceipt} {state : RunState} {events : List EventSpec}
    {casReferences : List (String × CasObject)}
    (valid : validateAgentReceipt current record receipt (some state) events casReferences = none) :
    (∃ before, current = some before) ∧ (record.ownerKind = "run" → state.runId = record.ownerId) := by
  unfold validateAgentReceipt at valid
  cases current with
  | none => cases valid
  | some before =>
    refine ⟨⟨before, rfl⟩, ?_⟩
    intro ownedByRun
    by_contra foreign
    have mismatch : record.ownerKind = "run" ∧
        (some state).map (·.runId) ≠ some record.ownerId := by
      refine ⟨ownedByRun, ?_⟩
      intro same
      exact foreign (Option.some.inj same)
    simp only [if_pos mismatch] at valid
    repeat' split at valid
    all_goals cases valid

/-- What `commit_agent_run_receipt` does for a Run: it raises and leaves the Run alone,
or finds the receipt there already, or writes it with the state. -/
theorem RuntimeStore.commitAgentRunReceipt_cases (record : AgentRun) (receipt : AgentRunReceipt)
    (state : RunState) (events : List EventSpec) (casReferences : List (String × CasObject))
    {after : RuntimeStore} {outcome : Except RuntimeFailure AgentRunReceipt}
    (result : store.commitAgentRunReceipt rejects record receipt (some state) events casReferences =
      (after, outcome)) :
    ((∃ failure, outcome = .error failure) ∧ after.snapshots = store.snapshots ∧
        after.agentRuns = store.agentRuns ∧ after.agentReceipts = store.agentReceipts) ∨
    (∃ existing, store.agentReceipts.get? record.agentRunId = some existing ∧
        existing.category = receipt.category ∧
        store.agentRuns.get? record.agentRunId = some record ∧ after = store ∧
        outcome = .ok existing) ∨
    (∃ current previous, store.failNext = false ∧
        store.agentRuns.get? record.agentRunId = some current ∧
        (record.ownerKind = "run" → state.runId = record.ownerId) ∧
        store.load state.runId = some previous ∧ outcome = .ok receipt ∧
        after.snapshots = store.snapshots.set record.ownerId (previous.extend state events) ∧
        after.agentRuns = store.agentRuns.set record.agentRunId record ∧
        after.agentReceipts = store.agentReceipts.set record.agentRunId receipt) := by
  unfold RuntimeStore.commitAgentRunReceipt at result
  split at result
  · rename_i existing found
    unfold RuntimeStore.replayAgentRunReceipt at result
    split at result
    · cases result
      exact .inl ⟨⟨_, rfl⟩, rfl, rfl, rfl⟩
    · rename_i same
      simp only [not_or, not_not] at same
      cases result
      exact .inr (.inl ⟨existing, found, same.1, same.2.2.1, rfl, rfl⟩)
  · split at result
    · cases result
      exact .inl ⟨⟨_, rfl⟩, rfl, rfl, rfl⟩
    · rename_i valid
      obtain ⟨⟨current, found⟩, owner⟩ := validateAgentReceipt_none valid
      split at result
      · cases result
        exact .inl ⟨⟨_, rfl⟩, rfl, rfl, rfl⟩
      · split at result
        · cases result
          exact .inl ⟨⟨_, rfl⟩, rfl, rfl, rfl⟩
        · rename_i healthy
          dsimp only [ownerSnapshots] at result
          cases written : store.ownerSnapshot rejects state events with
          | error failure =>
            rw [written] at result
            cases result
            exact .inl ⟨⟨_, rfl⟩, rfl, rfl, rfl⟩
          | ok snapshot =>
            rw [written] at result
            obtain ⟨previous, stored, rfl⟩ := ownerSnapshot_ok written
            cases result
            exact .inr (.inr ⟨current, previous, Bool.not_eq_true _ ▸ healthy, found, owner, stored,
              rfl, rfl, rfl, rfl⟩)

/-- What `commit_integration_receipt` does: the Run is left alone, or it is written with
its next state. -/
theorem RuntimeStore.commitIntegrationReceipt_cases
    (digest : IntegrationIntent → String → Sha256) (state : RunState) (intent : IntegrationIntent)
    (verifiedCommitOid : String) (events : List EventSpec) {after : RuntimeStore}
    {outcome : Except RuntimeFailure IntegrationReceipt}
    (result : store.commitIntegrationReceipt rejects digest state intent verifiedCommitOid events =
      (after, outcome)) :
    after.agentRuns = store.agentRuns ∧ after.agentReceipts = store.agentReceipts ∧
      (after.snapshots = store.snapshots ∨
        ∃ previous receipt, store.failNext = false ∧ store.load intent.runId = some previous ∧
          outcome = .ok receipt ∧
          receipt.intent = intent ∧ receipt.verifiedCommitOid = verifiedCommitOid ∧
          receipt.eventSequence = previous.events.length + 1 ∧
          after.snapshots = store.snapshots.set intent.runId (previous.extend state events)) := by
  simp only [RuntimeStore.commitIntegrationReceipt, RuntimeStore.replayIntegrationReceipt,
    RuntimeStore.fail, RuntimeStore.materialize] at result
  -- every branch but the last one keeps the snapshots
  repeat' split at result
  all_goals first
    | (cases result
       exact ⟨rfl, rfl, .inl rfl⟩)
    | skip
  rename_i accepted
  split at accepted
  · cases accepted
  · cases accepted
    cases result
    exact ⟨rfl, rfl, .inr ⟨_, _, Bool.not_eq_true _ ▸ ‹¬ store.failNext = true›,
      ‹store.load intent.runId = some _›, rfl, rfl, rfl, rfl, rfl⟩⟩

end Transactions

/-! ## Plan and agent runs -/

section Commands

variable {config : ActorConfig} {world : World} (around : Surroundings) {snapshot : RuntimeSnapshot}
  {next state : RunState} {events : List EventSpec} {ends : Prop} {keys : List String → Prop}

theorem core_replyCommitted (after : World) (command : WorkflowCommandMessage)
    (failure : RuntimeFailure) :
    (replyCommitted config after command failure).1.core config = after.core config := by
  unfold replyCommitted
  split
  · rfl
  · exact core_replyReceipt config after command _

theorem core_owned {after : RuntimeStore} {record : AgentRun} {receipt : AgentRunReceipt}
    (snapshots : after.snapshots = world.store.snapshots.set config.runId snapshot)
    (agentRuns : after.agentRuns = world.store.agentRuns.set record.agentRunId record)
    (agentReceipts : after.agentReceipts = world.store.agentReceipts.set record.agentRunId receipt) :
    ((world.setStore after).setState (some next)).core config =
      { world.core config with
        persisted := some snapshot
        state := some next
        agentRuns := (world.core config).agentRuns.set record.agentRunId record
        agentReceipts := (world.core config).agentReceipts.set record.agentRunId receipt } := by
  simp [World.core, World.setState, World.setStore, RuntimeStore.load, snapshots, agentRuns,
    agentReceipts]

theorem Does.replied {message : RuntimeMessage}
    (does : Does config message ends keys world (commit around world next events).1)
    (command : WorkflowCommandMessage) (refused failure : RuntimeFailure) :
    Does config message ends keys world
      (match commit around world next events with
        | (world, false) => world.raise refused
        | (world, true) => replyCommitted config world command failure).1 := by
  split
  · rename_i after failed
    rw [failed] at does
    exact does
  · rename_i after committed
    rw [committed] at does
    unfold Does at does ⊢
    rw [core_replyCommitted]
    exact does

/-- A handler that moves the Run with the receipt of one of its agent runs: the store
does not have the receipt yet, unless the actor's copy is not the stored one. -/
theorem ownerReceipt_does (current : world.actor.state = some state)
    (own : state.runId = config.runId) {message : RuntimeMessage} {record : AgentRun}
    {receipt : AgentRunReceipt} {casReferences : List (String × CasObject)}
    {terminalEvent : EventSpec} (owned : OwnedBy config record)
    (unknown : ∀ existing, world.store.agentReceipts.get? record.agentRunId = some existing →
      existing.category = receipt.category →
      world.store.agentRuns.get? record.agentRunId = some record →
      ¬ Coherent config (world.core config))
    (run : RunStep config message state events [] next) (live : state.status.isTerminal = false)
    (executing : next.status = .executing)
    (spec : agentRunTerminalSpec record receipt = some terminalEvent)
    (announced : terminalEvent ∈ events) (keyed : keys (specKeys events))
    (command : WorkflowCommandMessage) (failure : RuntimeFailure) :
    Does config message ends keys world
      (match world.store.commitAgentRunReceipt around.rejects record receipt (some next) events
          casReferences with
        | (store, .error failure) => (world.setStore store).raise failure
        | (store, .ok _) =>
          replyCommitted config ((world.setStore store).setState (some next)) command
            failure).1 := by
  have ownNext : next.runId = config.runId := run.runId_eq.trans own
  rcases result : world.store.commitAgentRunReceipt around.rejects record receipt (some next) events
    casReferences with ⟨after, outcome⟩
  rcases RuntimeStore.commitAgentRunReceipt_cases record receipt next events casReferences result with
    ⟨⟨_, rfl⟩, snapshots, agentRuns, agentReceipts⟩ | ⟨existing, found, category, same, rfl, rfl⟩ |
    ⟨before, previous, healthy, registered, owner, stored, rfl, snapshots, agentRuns, agentReceipts⟩
  · exact .of_core (core_setStore config snapshots agentRuns agentReceipts)
  · unfold Does
    dsimp only
    rw [core_replyCommitted]
    exact .replays state next events current run live (by rw [executing]; rfl)
      (unknown existing found category same)
  · rw [ownNext] at stored
    rw [owned.2] at snapshots
    unfold Does
    dsimp only
    rw [core_replyCommitted, core_owned snapshots agentRuns agentReceipts]
    exact .owns state next previous events record before receipt terminalEvent healthy current
      stored run executing registered spec announced keyed

theorem planRefusal_none {completion : PlanAgentCompletion} {frozenPlan : FrozenPlan}
    (accepted : planRefusal config world state completion frozenPlan = none) :
    state.status = .planning ∧ OwnedBy config completion.record ∧
      completion.receipt.category = "plan.accepted" := by
  simp only [planRefusal] at accepted
  by_cases refused : plannerIsValid config world state completion = false
  · rw [if_pos refused] at accepted
    cases accepted
  rw [Bool.not_eq_false] at refused
  simp only [plannerIsValid, decide_eq_true_eq] at refused
  obtain ⟨planning, ownerKind, ownerId, -, -, -, -, -, category, -⟩ := refused
  exact ⟨planning, ⟨ownerKind, ownerId⟩, category⟩

theorem acceptPlan_does (own : OwnState config world) (current : world.actor.state = some state)
    (command : WorkflowCommandMessage) (completion : PlanAgentCompletion)
    (frozenPlan : FrozenPlan) :
    Does config (.workflow command) ends
      (· = ["agent_run.terminal:" ++ completion.record.agentRunId.str, command.logicalKey]) world
      (acceptPlan config around world command state completion frozenPlan).1 := by
  simp only [acceptPlan]
  cases refusal : planRefusal config world state completion frozenPlan with
  | some failure => exact .of_core rfl
  | none =>
    obtain ⟨planning, owned, category⟩ := planRefusal_none refusal
    cases spec : agentRunTerminalSpec completion.record completion.receipt with
    | none => exact .of_core rfl
    | some terminalEvent =>
      -- a stored plan receipt means that the planning phase is over
      have unknown : ∀ existing,
          world.store.agentReceipts.get? completion.record.agentRunId = some existing →
          existing.category = completion.receipt.category →
          world.store.agentRuns.get? completion.record.agentRunId = some completion.record →
          ¬ Coherent config (world.core config) := by
        intro existing found same stored coherent
        obtain ⟨log, loaded⟩ := coherent.loaded current
        exact coherent.planReceipts _ completion.record existing ⟨state, log⟩ stored found
          owned loaded.stored (same.trans category) planning
      have keyed : specKeys [terminalEvent, planAcceptedEvent command.logicalKey
          completion.record.agentRunId frozenPlan.planHash.text,
          runStatusChangedEvent (acceptedState state frozenPlan)] =
          ["agent_run.terminal:" ++ completion.record.agentRunId.str, command.logicalKey] := by
        simp only [specKeys, List.filterMap_cons, agentRunTerminalSpec_receiptKey spec,
          receiptKey?_runStatusChangedEvent, List.filterMap_nil]
        rfl
      exact ownerReceipt_does around current (own state current) owned unknown
        (.acceptPlan command completion frozenPlan terminalEvent state planning spec)
        (by rw [planning]; rfl) rfl spec List.mem_cons_self keyed command _

/-- The key under which the start of an agent run is announced. -/
def StartKeys (agentRuns : Dict AgentRunId AgentRun) (agentRunId : AgentRunId)
    (keys : List String) : Prop :=
  ∃ record, agentRuns.get? agentRunId = some record ∧
    keys = ["agent_run.started:" ++ record.agentRunId.str]

theorem recordAgentRunStarted_does (own : OwnState config world)
    (current : world.actor.state = some state) (command : WorkflowCommandMessage)
    (agentRunId : AgentRunId) :
    Does config (.workflow command) ends (StartKeys world.store.agentRuns agentRunId) world
      (recordAgentRunStarted config around world command state agentRunId).1 := by
  simp only [recordAgentRunStarted]
  cases found : world.store.agentRuns.get? agentRunId with
  | none => exact .of_core rfl
  | some record =>
    dsimp only
    by_cases refused : startIsAcceptable config state record = false
    · rw [if_pos refused]
      exact .of_core rfl
    rw [if_neg refused]
    rw [Bool.not_eq_false] at refused
    simp only [startIsAcceptable, decide_eq_true_eq] at refused
    cases spec : agentRunStartedSpec record with
    | none => exact .of_core rfl
    | some event =>
      have keyed : StartKeys world.store.agentRuns agentRunId (specKeys [event]) :=
        ⟨record, found, by simp [specKeys, agentRunStartedSpec_key spec]⟩
      exact (commit_does_same around current (own state current) (by rfl)
        (.agentRunStarted command record event state refused.2.2.2.2 spec) keyed).replied around
          command _ _

theorem recordAgentRunTerminal_does (own : OwnState config world)
    (current : world.actor.state = some state) (command : WorkflowCommandMessage)
    (stored : world.store.load config.runId = some snapshot) (record : AgentRun)
    (receipt : AgentRunReceipt) (resultObject : CasObject)
    (missing : eventForReceipt (some snapshot) command.logicalKey = none) :
    Does config (.workflow command) ends (· = [command.logicalKey]) world
      (recordAgentRunTerminal config around world command state snapshot record receipt
        resultObject).1 := by
  simp only [recordAgentRunTerminal]
  by_cases refused : terminalIsAcceptable config world command state snapshot record receipt
      resultObject = false
  · rw [if_pos refused]
    exact .of_core rfl
  rw [if_neg refused]
  rw [Bool.not_eq_false] at refused
  simp only [terminalIsAcceptable, decide_eq_true_eq] at refused
  obtain ⟨executing, ownerKind, ownerId, -, -, -, -, -, -, -, -, -, -, -, -, key⟩ := refused
  cases spec : agentRunTerminalSpec record receipt with
  | none => exact .of_core rfl
  | some terminalEvent =>
    -- a stored receipt has its event in the ledger, which was searched for it
    have unknown : ∀ existing,
        world.store.agentReceipts.get? record.agentRunId = some existing →
        existing.category = receipt.category →
        world.store.agentRuns.get? record.agentRunId = some record →
        ¬ Coherent config (world.core config) := by
      intro existing found _ registered coherent
      obtain ⟨event, member, keyed⟩ := coherent.terminalReceipts _ record existing snapshot
        registered found ⟨ownerKind, ownerId⟩ stored
      rw [key] at missing
      exact eventForReceipt_none missing member keyed
    have keyed : specKeys [terminalEvent] = [command.logicalKey] := by
      rw [key]
      simp [specKeys, agentRunTerminalSpec_receiptKey spec]
    exact ownerReceipt_does around current (own state current) ⟨ownerKind, ownerId⟩ unknown
      (.agentRunTerminal command record receipt terminalEvent state executing spec)
      (by rw [executing]; rfl) executing spec List.mem_cons_self keyed command _

/-! ## Integration -/

theorem persistIntegrationIntent_core (command : WorkflowCommandMessage) (state : RunState)
    (intent : IntegrationIntent) :
    (persistIntegrationIntent config world command state intent).1.core config =
      world.core config := by
  have kept : ∀ {after : RuntimeStore} {outcome : Except RuntimeFailure IntegrationIntent},
      world.store.persistIntegrationIntent intent = (after, outcome) →
      (world.setStore after).core config = world.core config := by
    intro after outcome result
    simp only [RuntimeStore.persistIntegrationIntent, RuntimeStore.fail] at result
    repeat' split at result
    all_goals
      cases result
      rfl
  unfold persistIntegrationIntent
  repeat' split
  all_goals first
    | rfl
    | skip
  · rename_i result
    exact kept result
  · rename_i result _
    exact kept result
  · rename_i result _
    simp only [World.done, core_reply]
    exact kept result

theorem eventForReceipt_integration (snapshot : RuntimeSnapshot) (next : RunState)
    (logicalKey : String) (intent : IntegrationIntent) (verifiedCommitOid : String) :
    (eventForReceipt (some (snapshot.extend next
      (integrationEvents logicalKey intent verifiedCommitOid))) logicalKey).map (·.sequence) =
      some (snapshot.events.length + 1) := by
  simp [eventForReceipt, RuntimeSnapshot.extend, RuntimeStore.numbered, integrationEvents,
    Json.field?, Dict.lookup]

theorem adoptIntegration_written {after : World} {command : WorkflowCommandMessage}
    {intent : IntegrationIntent} {verifiedCommitOid : String} {receipt : IntegrationReceipt}
    (own : intent.runId = config.runId)
    (reloaded : after.store.load config.runId = some (snapshot.extend next
      (integrationEvents command.logicalKey intent verifiedCommitOid)))
    (sameIntent : receipt.intent = intent) (sameOid : receipt.verifiedCommitOid = verifiedCommitOid)
    (sequence : receipt.eventSequence = snapshot.events.length + 1) :
    (adoptIntegration config after command intent verifiedCommitOid receipt).1.core config =
      (after.setState (some next)).core config := by
  obtain ⟨event, found, position⟩ := Option.map_eq_some_iff.mp
    (eventForReceipt_integration snapshot next command.logicalKey intent verifiedCommitOid)
  have matched : ¬ (receipt.intent.runId ≠ config.runId ∨
      receipt.intent.idempotencyKey ≠ intent.idempotencyKey ∨
      receipt.verifiedCommitOid ≠ verifiedCommitOid ∨
      receipt.eventSequence ≠ event.sequence) := by
    rw [sameIntent, sameOid, sequence, position]
    simp [own]
  unfold adoptIntegration
  rw [reloaded, found]
  dsimp only
  rw [if_neg matched]
  exact core_replyReceipt config _ command _

theorem adoptIntegration_standing (after : World) (command : WorkflowCommandMessage)
    (intent : IntegrationIntent) (verifiedCommitOid : String) (receipt : IntegrationReceipt) :
    (adoptIntegration config after command intent verifiedCommitOid receipt).1.core config =
        after.core config ∨
      ∃ committed, after.store.load config.runId = some committed ∧
        (adoptIntegration config after command intent verifiedCommitOid receipt).1.core config =
          (after.setState (some committed.state)).core config := by
  unfold adoptIntegration
  split
  · rename_i committed event found _
    split
    · exact .inl rfl
    · exact .inr ⟨committed, found, core_replyReceipt config _ command _⟩
  · exact .inl rfl

theorem recordIntegrationCompleted_does (current : world.actor.state = some state)
    (command : WorkflowCommandMessage) (intent : IntegrationIntent) (verifiedCommitOid : String) :
    Does config (.workflow command) ends (· = [command.logicalKey]) world
      (recordIntegrationCompleted config around world command state intent
        verifiedCommitOid).1 := by
  simp only [recordIntegrationCompleted]
  split
  · exact .of_core rfl
  rename_i owner
  simp only [not_or, not_not] at owner
  obtain ⟨own, executing, planned, -⟩ := owner
  iterate 4
    split
    · exact .of_core rfl
  rcases result : world.store.commitIntegrationReceipt around.rejects
    config.integrationReceiptDigest { state with version := state.version + 1 } intent
    verifiedCommitOid (integrationEvents command.logicalKey intent verifiedCommitOid) with
    ⟨after, outcome⟩
  obtain ⟨agentRuns, agentReceipts, kept | written⟩ :=
    RuntimeStore.commitIntegrationReceipt_cases _ _ intent verifiedCommitOid _ result
  · have same := core_setStore config kept agentRuns agentReceipts
    cases outcome with
    | error failure => exact .of_core same
    | ok receipt =>
      dsimp only
      rcases adoptIntegration_standing (world.setStore after) command intent verifiedCommitOid
        receipt with unchanged | ⟨committed, found, adopted⟩
      · exact .of_core (unchanged.trans same)
      · have stored : world.store.load config.runId = some committed := by
          rw [← found]
          simp only [World.setStore, RuntimeStore.load, kept]
        have reached : ((world.setStore after).setState (some committed.state)).core config =
            { world.core config with state := some committed.state } := by
          rw [← same]
          rfl
        unfold Does
        rw [adopted, reached]
        exact .adopts committed stored
  · obtain ⟨previous, receipt, healthy, stored, rfl, sameIntent, sameOid, sequence, snapshots⟩ :=
      written
    rw [own] at snapshots stored
    have reloaded : (world.setStore after).store.load config.runId =
        some (previous.extend { state with version := state.version + 1 }
          (integrationEvents command.logicalKey intent verifiedCommitOid)) := by
      simp only [World.setStore, RuntimeStore.load, snapshots, Dict.get?_set, if_true]
    have effect : Effect config (.workflow command) world.store.failNext ends
        (· = [command.logicalKey]) (world.core config) _ :=
      .commits state { state with version := state.version + 1 } previous _ [] healthy current
        stored (.integrationCompleted command intent verifiedCommitOid state executing planned)
        .inl rfl
    unfold Does
    dsimp only
    rw [adoptIntegration_written own reloaded sameIntent sameOid sequence]
    simpa [World.core, World.setState, World.setStore, show after.load config.runId = _ from reloaded,
      agentRuns, agentReceipts] using effect

/-! ## Execution rounds -/

theorem scheduleExecutionRound_core (command : WorkflowCommandMessage) (state : RunState) :
    (scheduleExecutionRound config world command state).1.core config = world.core config := by
  unfold scheduleExecutionRound
  split
  · rfl
  · dsimp only
    split
    · rfl
    · simp [World.core, World.done, PortCall.isWork]

theorem roundTerminalEvent_type {agentRunId : AgentRunId}
    (computed : roundTerminalEvent config world agentRunId = .ok events) {event : EventSpec}
    (member : event ∈ events) : event.eventType = "agent_run.terminal" := by
  simp only [roundTerminalEvent] at computed
  repeat' split at computed
  all_goals cases computed
  · cases member
  · rename_i record receipt _ _ _ _ _ terminalEvent spec
    rw [List.mem_singleton] at member
    subst member
    exact (agentRunTerminalSpec_key spec).1

theorem acceptClaims_types {claims : List CandidateCheckpointClaim}
    {facts : List CandidateCheckpointFact}
    {accepted : List CandidateCheckpointFact × List EventSpec}
    (computed : acceptClaims config around world claims facts events = .ok accepted)
    (before : ∀ event ∈ events, event.eventType = "slice.candidate.accepted") :
    ∀ event ∈ accepted.2, event.eventType = "slice.candidate.accepted" := by
  induction claims generalizing facts events with
  | nil =>
    cases computed
    exact before
  | cons claim claims ih =>
    have extended : ∀ fact, ∀ event ∈ events ++ [candidateEvent fact],
        event.eventType = "slice.candidate.accepted" := by
      intro fact event member
      rcases List.mem_append.mp member with earlier | added
      · exact before event earlier
      · rw [List.mem_singleton] at added
        subst added
        rfl
    rw [acceptClaims] at computed
    split at computed
    · cases computed
    · rename_i fact _
      split at computed
      · exact ih computed (extended fact)
      · split at computed
        · exact ih computed before
        · exact ih computed (extended fact)

/-- The end of every agent run of the Run is in the ledger. -/
def Announced (config : ActorConfig) (core : Core) : Prop :=
  ∀ id record receipt snapshot, core.agentRuns.get? id = some record →
    core.agentReceipts.get? id = some receipt → OwnedBy config record →
    core.persisted = some snapshot → hasAgentRunEvent (some snapshot) "agent_run.terminal" id = true

/-- The keys of the ends of agent runs. -/
def terminalKeys (ended : List String) : List String := ended.map ("agent_run.terminal:" ++ ·)

theorem roundTerminalEvent_keys {agentRunId : AgentRunId}
    (computed : roundTerminalEvent config world agentRunId = .ok events) :
    (∃ ended, specKeys events = terminalKeys ended) ∧
      ∀ snapshot, world.store.load config.runId = some snapshot →
        Announced config (world.core config) → events = [] := by
  simp only [roundTerminalEvent] at computed
  split at computed
  · rename_i record receipt hasRun hasReceipt
    split at computed
    · cases computed
    rename_i valid
    rw [not_not] at valid
    split at computed
    · cases computed
    split at computed
    · cases computed
      exact ⟨⟨[], rfl⟩, fun _ _ _ => rfl⟩
    · rename_i unknown
      split at computed
      · cases computed
      · rename_i event spec
        cases computed
        refine ⟨⟨[record.agentRunId.str], ?_⟩, ?_⟩
        · simp [specKeys, terminalKeys, agentRunTerminalSpec_receiptKey spec]
        · intro snapshot stored announced
          rw [stored] at unknown
          exact absurd (announced agentRunId record receipt snapshot hasRun hasReceipt
            ⟨valid.1, valid.2.1⟩ stored) unknown
  · cases computed

theorem specKeys_flatten_terminals {parts : List (List EventSpec)}
    (terminals : ∀ part ∈ parts, ∃ ended, specKeys part = terminalKeys ended) :
    ∃ ended, specKeys parts.flatten = terminalKeys ended := by
  induction parts with
  | nil => exact ⟨[], rfl⟩
  | cons part parts ih =>
    obtain ⟨first, keys⟩ := terminals part List.mem_cons_self
    obtain ⟨rest, others⟩ := ih fun part member => terminals part (List.mem_cons_of_mem _ member)
    refine ⟨first ++ rest, ?_⟩
    rw [List.flatten_cons, specKeys_append, keys, others, terminalKeys, terminalKeys, terminalKeys,
      List.map_append]

theorem acceptClaims_unkeyed {claims : List CandidateCheckpointClaim}
    {facts : List CandidateCheckpointFact}
    {accepted : List CandidateCheckpointFact × List EventSpec}
    (computed : acceptClaims config around world claims facts events = .ok accepted)
    (before : specKeys events = []) : specKeys accepted.2 = [] := by
  induction claims generalizing facts events with
  | nil =>
    cases computed
    exact before
  | cons claim claims ih =>
    have extended : ∀ fact, specKeys (events ++ [candidateEvent fact]) = [] := by
      intro fact
      rw [specKeys_append, before]
      rfl
    rw [acceptClaims] at computed
    split at computed
    · cases computed
    · split at computed
      · exact ih computed (extended _)
      · split at computed
        · exact ih computed before
        · exact ih computed (extended _)

/-- The keys of a round: its own, and those of the agent runs that it ends in the ledger. -/
def RoundKeys (config : ActorConfig) (core : Core) (logicalKey : String) (keys : List String) :
    Prop :=
  ∃ ended, keys = terminalKeys ended ++ [logicalKey] ∧
    ∀ snapshot, core.persisted = some snapshot → Announced config core → ended = []

theorem commitExecutionRound_does (own : OwnState config world)
    (current : world.actor.state = some state) (logicalKey : String)
    (decision : ExecutionRoundDecision) :
    Does config (.executionRoundFinished logicalKey (some decision) none) ends
      (RoundKeys config (world.core config) logicalKey) world
      (commitExecutionRound config around world logicalKey state decision).1 := by
  unfold commitExecutionRound
  cases decided : decideRound config around world logicalKey state decision with
  | error failure => exact .of_core rfl
  | ok written =>
    obtain ⟨next, events⟩ := written
    unfold decideRound at decided
    split at decided
    · cases decided
    rename_i active
    rw [not_or, not_not] at active
    split at decided
    · cases decided
    split at decided
    · cases decided
    rename_i terminalEvents terminals
    split at decided
    · cases decided
    rename_i facts candidateEvents claims
    cases decided
    have parts : ∀ part ∈ terminalEvents, ∃ agentRunId,
        roundTerminalEvent config world agentRunId = .ok part := by
      intro part member
      obtain ⟨agentRunId, -, computed⟩ := mapM_origin terminals member
      exact ⟨agentRunId, computed⟩
    have terminalTypes : ∀ event ∈ terminalEvents.flatten,
        event.eventType = "agent_run.terminal" := by
      intro event member
      obtain ⟨part, isPart, inPart⟩ := List.mem_flatten.mp member
      obtain ⟨agentRunId, computed⟩ := parts part isPart
      exact roundTerminalEvent_type computed inPart
    obtain ⟨ended, terminalKeyed⟩ : ∃ ended,
        specKeys terminalEvents.flatten = terminalKeys ended := by
      refine specKeys_flatten_terminals ?_
      intro part member
      obtain ⟨agentRunId, computed⟩ := parts part member
      exact (roundTerminalEvent_keys computed).1
    have keyed : RoundKeys config (world.core config) logicalKey
        (specKeys (terminalEvents.flatten ++ candidateEvents ++
          [roundEvent logicalKey decision])) := by
      refine ⟨ended, ?_, ?_⟩
      · rw [specKeys_append, specKeys_append, terminalKeyed, acceptClaims_unkeyed around claims rfl,
          List.append_nil]
        rfl
      · intro snapshot stored announced
        have silent : terminalEvents.flatten = [] := by
          rw [List.flatten_eq_nil_iff]
          intro part member
          obtain ⟨agentRunId, computed⟩ := parts part member
          exact (roundTerminalEvent_keys computed).2 snapshot stored announced
        rw [silent] at terminalKeyed
        exact List.map_eq_nil_iff.mp terminalKeyed.symm
    have does : Does config (.executionRoundFinished logicalKey (some decision) none) ends _ world _ :=
      commit_does around current (own state current)
        (.executionRound logicalKey decision facts terminalEvents.flatten candidateEvents state
          active.1 active.2 terminalTypes (acceptClaims_types around claims (by simp)))
        (fun terminal => by
          simp only [roundState] at terminal
          split at terminal <;> cases terminal) keyed
    dsimp only
    split
    · rename_i after failed
      rw [failed] at does
      exact does
    · rename_i after committed
      rw [committed] at does
      split
      · exact does
      · exact does

theorem handleExecutionRoundFinished_does (own : OwnState config world) (logicalKey : String)
    (decision : Option ExecutionRoundDecision) (error : Option RuntimeFailure) :
    Does config (.executionRoundFinished logicalKey decision error) ends
      (RoundKeys config (world.core config) logicalKey) world
      (handleExecutionRoundFinished config around world logicalKey decision error).1 := by
  unfold handleExecutionRoundFinished
  split
  · exact .of_core (core_finishExecutionRound config world _ _)
  · rename_i state decision current
    have does : Does config (.executionRoundFinished logicalKey (some decision) none) ends _ world _ :=
      commitExecutionRound_does around own current logicalKey decision
    unfold Does at does ⊢
    dsimp only [World.done]
    rw [core_finishExecutionRound]
    exact does
  · exact .of_core (core_finishExecutionRound config world _ _)

/-! ## Verification and report -/

theorem commitVerification_does (own : OwnState config world)
    (current : world.actor.state = some state) (command : WorkflowCommandMessage)
    (result : VerificationSummary) :
    Does config (.workflow command) ends (· = [command.logicalKey]) world
      (commitVerification config around world command state result).1 := by
  unfold commitVerification
  by_cases other : state.status ≠ .verifying
  · rw [if_pos other]
    exact .of_core rfl
  · rw [if_neg other]
    exact .replied around (commit_does around current (own state current)
      (.verification command _ state (not_not.mp other)) (fun terminal => by cases terminal)
      (by rfl)) command _ _

theorem commitReport_does (own : OwnState config world) (current : world.actor.state = some state)
    (command : WorkflowCommandMessage) (result : ReportSummary)
    (ending : state.status = .reporting → ends) :
    Does config (.workflow command) ends (· = [command.logicalKey]) world
      (commitReport config around world command state result).1 := by
  unfold commitReport
  by_cases other : state.status ≠ .reporting
  · rw [if_pos other]
    exact .of_core rfl
  · rw [if_neg other]
    exact .replied around (commit_does around current (own state current)
      (.report command result _ state (not_not.mp other))
      (fun _ => .inr (ending (not_not.mp other))) (by rfl)) command _ _

/-! ## The mailbox -/

theorem replayCommand_core (command : WorkflowCommandMessage) (event : RuntimeEvent) :
    (replayCommand config world command event).1.core config = world.core config := by
  simp only [replayCommand]
  repeat' split
  all_goals simp only [World.raise, World.done, core_replyReceipt, core_reply]

theorem handleWorkflowCommand_does (own : OwnState config world) (command : WorkflowCommandMessage) :
    ∃ keys, Does config (.workflow command) (EndsRun config world (.workflow command)) keys world
      (handleWorkflowCommand config around world command).1 := by
  unfold handleWorkflowCommand
  split
  · exact ⟨AnyKeys, .of_core rfl⟩
  rename_i ownRun
  rw [not_not] at ownRun
  split
  · exact ⟨AnyKeys, .of_core (replayCommand_core command _)⟩
  rename_i missing
  split
  · rename_i state snapshot current stored
    cases payload : command.payload with
    | acceptPlan completion frozenPlan =>
      exact ⟨_, acceptPlan_does around own current command completion frozenPlan⟩
    | executeRound => exact ⟨AnyKeys, .of_core (scheduleExecutionRound_core command state)⟩
    | agentRunStarted agentRunId =>
      exact ⟨_, recordAgentRunStarted_does around own current command agentRunId⟩
    | agentRunTerminal record receipt resultObject =>
      rw [stored] at missing
      exact ⟨_, recordAgentRunTerminal_does around own current command stored record receipt
        resultObject missing⟩
    | integrationIntent intent =>
      exact ⟨AnyKeys, .of_core (persistIntegrationIntent_core command state intent)⟩
    | integrationCompleted intent verifiedCommitOid =>
      exact ⟨_, recordIntegrationCompleted_does around current command intent verifiedCommitOid⟩
    | verification result => exact ⟨_, commitVerification_does around own current command result⟩
    | report result =>
      exact ⟨_, commitReport_does around own current command result
        fun reporting => ⟨state, result, current, reporting, payload, ownRun, missing⟩⟩
    | other kind => exact ⟨AnyKeys, .of_core rfl⟩
  · exact ⟨AnyKeys, .of_core rfl⟩

theorem handle_does (own : OwnState config world) {message : RuntimeMessage}
    (free : createConflicts config world message = false) :
    ∃ keys, Does config message (EndsRun config world message) keys world
      (handle config around world message).1 := by
  cases message with
  | create runId createRun transaction =>
    exact ⟨_, handleCreate_does around runId createRun transaction free⟩
  | cancel expectedVersion response =>
    exact ⟨_, handleCancel_does around own expectedVersion response⟩
  | sessionInput kind payload => exact ⟨_, handleSessionInput_does around own kind payload⟩
  | executionReceipt runId dispatch resultStatus started =>
    exact ⟨_, handleExecution_does around own runId dispatch resultStatus started⟩
  | budget inputTokens outputTokens costMicros =>
    exact ⟨_, handleBudget_does around own inputTokens outputTokens costMicros⟩
  | recovery trigger activeDispatchIds missingIntentIds checkpointCorrupt refDrift =>
    exact ⟨_, handleRecovery_does around own trigger activeDispatchIds missingIntentIds
      checkpointCorrupt refDrift⟩
  | advice advice => exact ⟨_, handleAdvice_does around own advice⟩
  | workflow command => exact handleWorkflowCommand_does around own command
  | executionRoundFinished logicalKey decision error =>
    exact ⟨_, handleExecutionRoundFinished_does around own logicalKey decision error⟩

theorem Coherent.ownState (coherent : Coherent config (world.core config)) :
    OwnState config world := by
  intro state current
  obtain ⟨log, loaded⟩ := coherent.loaded current
  exact loaded.runId

theorem handle_core (coherent : Coherent config (world.core config)) (message : RuntimeMessage) :
    CoreStep config (.message message around) (world.core config)
      ((handle config around world message).1.core config) := by
  have free : createConflicts config world message = false := by
    cases message with
    | create runId createRun transaction =>
      cases unknown : world.actor.state with
      | none => simp [createConflicts, coherent.absent unknown]
      | some state => simp [createConflicts, unknown]
    | _ => rfl
  obtain ⟨keys, does⟩ := handle_does around coherent.ownState free
  exact does.coreStep coherent around

theorem turn_core_eq (message : RuntimeMessage) :
    (turn config around world message).core config =
      (handle config around world message).1.core config := by
  unfold turn
  rcases handle config around world message with ⟨after, failure | failure⟩
  · rfl
  · exact core_report config after message failure

end Commands

/-! ## Steps of the world -/

section Steps

variable {config : ActorConfig} {world : World}

theorem createAgentRun_core (record : AgentRun) :
    CoreStep config (.createAgentRun record) (world.core config)
      ((world.setStore (world.store.createOrGetAgentRun record).1).core config) := by
  unfold RuntimeStore.createOrGetAgentRun
  split
  · exact .stay _ _
  split
  · exact .stay _ _
  rename_i owner
  split
  · split
    · exact .stay _ _
    · exact .stay _ _
  split
  · exact .stay _ _
  rename_i unknown
  split
  · exact .stay _ _
  split
  · exact .stay _ _
  refine .register _ (world.core config) record (by simpa [World.core] using unknown) ?_
  intro owned absent
  have missing : world.store.load config.runId = none := absent
  exact owner ⟨owned.1, by rw [owned.2, missing]; rfl⟩

theorem step_core (coherent : Coherent config (world.core config)) (input : Input) :
    CoreStep config input (world.core config) ((step config world input).core config) := by
  cases input with
  | message message around =>
    dsimp only [step]
    rw [turn_core_eq]
    exact handle_core around coherent message
  | createAgentRun record => exact createAgentRun_core record
  | addCasReference object ownerKind ownerId referenceKey =>
    have kept : (world.setStore (world.store.addCasReference object ownerKind ownerId
        referenceKey).1).core config = world.core config := by
      unfold RuntimeStore.addCasReference
      repeat' split
      all_goals rfl
    dsimp only [step]
    rw [kept]
    exact .stay _ _
  | failNextCommit => exact .stay _ _
  | start =>
    have synced : world.actor.state = (world.store.load config.runId).map (·.state) :=
      coherent.synced
    dsimp only [step]
    split
    · exact .stay _ _
    · have same : ({ world with actor := { RunActor.fresh with
          state := (world.store.load config.runId).map (·.state)
          createReceipt := ‹Option RunCreatedReceipt› } } : World).core config =
            world.core config := by
        simp only [World.core, synced]
      rw [same]
      exact .stay _ _

theorem step_coherent (coherent : Coherent config (world.core config)) (input : Input) :
    Coherent config ((step config world input).core config) :=
  (step_core coherent input).coherent coherent

end Steps

end CodeMigrator
