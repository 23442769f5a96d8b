import CodeMigrator.Runtime.RunStep

/-!
# Receipt keys

The keys under which the actor finds the events of its commands again: what the ledger
has of them, and what the events of a Run step add. A step has the keys of its command;
only the end of an agent run and the rounds of the execution have others.
-/

namespace CodeMigrator
open Lib

/-! ## Keys of the ledger -/

/-- The `receipt_key` of event data. -/
def receiptKey? (data : EventData) : Option String :=
  match Json.field? data "receipt_key" with
  | some (.str key) => some key
  | _ => none

/-- The receipt keys of a ledger. -/
def receiptKeys (events : List RuntimeEvent) : List String :=
  events.filterMap fun event => receiptKey? event.data

/-- The receipt keys of events to be written. -/
def specKeys (events : List EventSpec) : List String :=
  events.filterMap fun event => receiptKey? event.data

section Keys

variable {key : String} {record : AgentRun}

theorem receiptKey?_eq_some {data : EventData} :
    receiptKey? data = some key ↔ Json.field? data "receipt_key" = some (.str key) := by
  unfold receiptKey?
  split
  · rename_i other found
    rw [found, Option.some.injEq, Option.some.injEq, Json.str.injEq]
  · rename_i other
    constructor
    · intro absent
      cases absent
    · intro found
      exact absurd found (other key)

@[simp] theorem specKeys_append (left right : List EventSpec) :
    specKeys (left ++ right) = specKeys left ++ specKeys right :=
  List.filterMap_append

theorem specKeys_eq_nil {events : List EventSpec}
    (unkeyed : ∀ event ∈ events, receiptKey? event.data = none) : specKeys events = [] :=
  List.filterMap_eq_nil_iff.mpr unkeyed

theorem receiptKeys_extend (snapshot : RuntimeSnapshot) (next : RunState)
    (events : List EventSpec) :
    receiptKeys (snapshot.extend next events).events =
      receiptKeys snapshot.events ++ specKeys events := by
  have numbered : ∀ first, receiptKeys (RuntimeStore.numbered first events) = specKeys events := by
    induction events with
    | nil => exact fun first => rfl
    | cons event events ih =>
      intro first
      have tail := ih (first + 1)
      simp only [receiptKeys, specKeys, RuntimeStore.numbered, List.zipIdx_cons, List.map_cons,
        List.filterMap_cons] at tail ⊢
      rw [tail]
  simp only [RuntimeSnapshot.extend, receiptKeys, List.filterMap_append]
  exact congrArg _ (numbered _)

theorem mem_receiptKeys {events : List RuntimeEvent} :
    key ∈ receiptKeys events ↔ ∃ event ∈ events, receiptKey? event.data = some key :=
  List.mem_filterMap

theorem eventForReceipt_none {snapshot : RuntimeSnapshot} {receiptKey : String}
    (missing : eventForReceipt (some snapshot) receiptKey = none) {event : RuntimeEvent}
    (member : event ∈ snapshot.events) :
    Json.field? event.data "receipt_key" ≠ some (.str receiptKey) := by
  intro same
  have absent := List.find?_eq_none.mp missing event (List.mem_reverse.mpr member)
  exact absent (decide_eq_true same)

theorem eventForReceipt_eq_none {snapshot : RuntimeSnapshot} :
    eventForReceipt (some snapshot) key = none ↔ key ∉ receiptKeys snapshot.events := by
  constructor
  · intro missing member
    obtain ⟨event, listed, keyed⟩ := mem_receiptKeys.mp member
    exact eventForReceipt_none missing listed (receiptKey?_eq_some.mp keyed)
  · intro absent
    refine List.find?_eq_none.mpr ?_
    intro event listed keyed
    refine absent (mem_receiptKeys.mpr ⟨event, List.mem_reverse.mp listed, ?_⟩)
    exact receiptKey?_eq_some.mpr (of_decide_eq_true keyed)

theorem eventForReceipt_eq_some {snapshot : RuntimeSnapshot} {event : RuntimeEvent}
    (found : eventForReceipt (some snapshot) key = some event) :
    event ∈ snapshot.events ∧ receiptKey? event.data = some key := by
  simp only [eventForReceipt] at found
  have keyed := List.find?_some found
  rw [decide_eq_true_eq] at keyed
  exact ⟨List.mem_reverse.mp (List.mem_of_find?_eq_some found), receiptKey?_eq_some.mpr keyed⟩

@[simp] theorem receiptKey?_runStatusChangedEvent (state : RunState) :
    receiptKey? (runStatusChangedEvent state).data = none := by
  unfold runStatusChangedEvent
  cases state.failureReason with
  | none => rfl
  | some reason => rfl

theorem specKeys_committedEvents (previous : Option RunState) (next : RunState)
    (events : List EventSpec) :
    specKeys (committedEvents previous next events) = specKeys events := by
  unfold committedEvents
  split
  · rfl
  · split
    · rw [specKeys_append]
      simp [specKeys]
    · rfl

theorem agentRunStartedSpec_key {event : EventSpec} (spec : agentRunStartedSpec record = some event) :
    receiptKey? event.data = some ("agent_run.started:" ++ record.agentRunId.str) := by
  unfold agentRunStartedSpec at spec
  split at spec
  · cases spec
  · cases spec
    rfl

theorem agentRunTerminalSpec_receiptKey {receipt : AgentRunReceipt} {event : EventSpec}
    (spec : agentRunTerminalSpec record receipt = some event) :
    receiptKey? event.data = some ("agent_run.terminal:" ++ record.agentRunId.str) :=
  receiptKey?_eq_some.mpr (agentRunTerminalSpec_key spec).2

theorem agentRunTerminalSpec_names {receipt : AgentRunReceipt} {event : EventSpec}
    (spec : agentRunTerminalSpec record receipt = some event) :
    event.eventType = "agent_run.terminal" ∧
      Json.field? event.data "agent_run_id" = some (.str record.agentRunId.str) := by
  unfold agentRunTerminalSpec at spec
  split at spec
  · cases spec
  · cases spec
    exact ⟨rfl, rfl⟩

theorem key_ne_key {left right : String} (position : Nat) (inLeft : position < left.toList.length)
    (inRight : position < right.toList.length)
    (differ : left.toList[position]? ≠ right.toList[position]?) (first second : String) :
    left ++ first ≠ right ++ second := by
  intro same
  have chars := congrArg (fun text : String => text.toList[position]?) same
  simp only [String.toList_append] at chars
  rw [List.getElem?_append_left inLeft, List.getElem?_append_left inRight] at chars
  exact differ chars

theorem startKey_ne_terminalKey (started ended : String) :
    "agent_run.started:" ++ started ≠ "agent_run.terminal:" ++ ended :=
  key_ne_key 10 (by decide) (by decide) (by decide) started ended

theorem createKey_ne_terminalKey (created ended : String) :
    "run.created:" ++ created ≠ "agent_run.terminal:" ++ ended :=
  key_ne_key 0 (by decide) (by decide) (by decide) created ended

end Keys

theorem receiptKeys_createdSnapshot (config : ActorConfig) (createRun : CreateRun) :
    receiptKeys (createdSnapshot config createRun).events =
      ["run.created:" ++ (createdState config.runId createRun).runId.str] := by
  simp only [createdSnapshot, createdEvents, receiptKeys, RuntimeStore.numbered, List.zipIdx_cons,
    List.zipIdx_nil, List.map_cons, List.map_nil, List.filterMap_cons, List.filterMap_nil,
    receiptKey?_runStatusChangedEvent]
  rfl

/-- The messages whose events have no receipt keys, as far as a Run step tells. -/
def RuntimeMessage.isUnkeyed : RuntimeMessage → Bool
  | .workflow _ | .executionRoundFinished .. | .executionReceipt .. => false
  | _ => true

theorem specKeys_budgetWarning (evaluation : BudgetEvaluation) :
    specKeys (budgetWarning evaluation) = [] := by
  unfold budgetWarning
  split
  · rfl
  · rfl

theorem RunStep.unkeyed {config : ActorConfig} {message : RuntimeMessage} {state next : RunState}
    {events : List EventSpec} {work : List PortCall}
    (run : RunStep config message state events work next) (unkeyed : message.isUnkeyed = true) :
    specKeys events = [] := by
  cases run with
  | cancel expectedVersion response live current =>
    rw [specKeys_committedEvents]
    rfl
  | segmentStopped kind payload generation live valid =>
    unfold segmentEvent
    split
    · rfl
    · rfl
  | budget inputTokens outputTokens costMicros evaluation live =>
    exact specKeys_budgetWarning evaluation
  | budgetExhausted inputTokens outputTokens costMicros evaluation writeFailed archiveFailed live =>
    rw [specKeys_committedEvents]
    simp only [exhaustedEvents, specKeys_append, specKeys_budgetWarning]
    cases writeFailed <;> cases archiveFailed <;> rfl
  | recovery trigger activeDispatchIds missingIntentIds checkpointCorrupt refDrift kind known =>
    refine specKeys_eq_nil ?_
    intro event member
    obtain ⟨item, -, rfl⟩ := List.mem_map.mp member
    unfold recoveryEvent
    split
    · rfl
    · rfl
  | advice advice result own evaluated =>
    simp only [decideAdvice]
    repeat' split
    all_goals rfl
  | sessionInput => rfl
  | confirmationRejected => rfl
  | adviceConfirmed => rfl
  | invalidSegment => rfl
  | adviceMismatch => rfl
  | acceptPlan => cases unkeyed
  | agentRunStarted => cases unkeyed
  | agentRunTerminal => cases unkeyed
  | integrationCompleted => cases unkeyed
  | executionRound => cases unkeyed
  | verification => cases unkeyed
  | report => cases unkeyed
  | lateDispatchResult => cases unkeyed
  | dispatchStarted => cases unkeyed
  | dispatchCompleted => cases unkeyed

/-- In a Run that is still planning no step ends an agent run, as far as it tells. -/
theorem RunStep.planning_keys {config : ActorConfig} {message : RuntimeMessage}
    {state next : RunState} {events : List EventSpec} {work : List PortCall}
    (run : RunStep config message state events work next)
    (keyed : ∀ runId dispatch resultStatus started,
      message ≠ .executionReceipt runId dispatch resultStatus started)
    (planning : next.status = .planning) (id : AgentRunId) :
    "agent_run.terminal:" ++ id.str ∉ specKeys events := by
  have before := run.planning_of planning
  by_cases unkeyed : message.isUnkeyed = true
  · rw [run.unkeyed unkeyed]
    exact List.not_mem_nil
  cases run with
  | agentRunStarted command record event _ active spec =>
    simp only [specKeys, List.filterMap_cons, agentRunStartedSpec_key spec, List.filterMap_nil,
      List.mem_singleton]
    exact fun same => startKey_ne_terminalKey _ _ same.symm
  | acceptPlan => cases planning
  | agentRunTerminal command record receipt terminalEvent _ executing =>
    exact absurd (executing.symm.trans before) (by decide)
  | integrationCompleted command intent verifiedCommitOid _ executing =>
    exact absurd (executing.symm.trans before) (by decide)
  | executionRound logicalKey decision facts terminalEvents candidateEvents _ executing =>
    exact absurd (executing.symm.trans before) (by decide)
  | verification command data _ verifying => exact absurd (verifying.symm.trans before) (by decide)
  | report command result data _ reporting => exact absurd (reporting.symm.trans before) (by decide)
  | lateDispatchResult => exact absurd rfl (keyed _ _ _ _)
  | dispatchStarted => exact absurd rfl (keyed _ _ _ _)
  | dispatchCompleted => exact absurd rfl (keyed _ _ _ _)
  | _ => exact absurd rfl unkeyed

end CodeMigrator
