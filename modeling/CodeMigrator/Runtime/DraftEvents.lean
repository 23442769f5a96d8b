import CodeMigrator.Core.DraftEventProjection
import CodeMigrator.Runtime.AgentRuns
import CodeMigrator.Runtime.DraftHistories

/-!
# Preparation of Draft events

`_prepare_draft_events` (`runtime/store.py`): what the store makes of the session events of a
Draft fact before it commits them. The events that the Web may render are projected and
scanned; the others keep the fields of their type, are checked and go through canonical JSON
and back. `render` is `str` of a value that is not a text, `roundTrip` is
`_decode_draft_fact(canonical_json_bytes(...))`.
-/

namespace CodeMigrator
open Lib

/-- `DraftSessionEventSpec`. -/
structure DraftEventSpec where
  eventType : String
  data : PyEntries

/-- The secret registry of the store with the operations that are not its own. -/
structure EventCodec where
  registry : SecretRegistry
  render : PyValue → String
  roundTrip : PyEntries → Option PyEntries

/-- What `canonical_json_bytes` and `json.loads` are documented to do: texts and integers stay,
nothing else becomes a text, and no field, text or name is added or lost. -/
structure EventCodec.Canonical (codec : EventCodec) : Prop where
  fields : ∀ {data decoded}, codec.roundTrip data = some decoded → ∀ name,
    (PyValue.field? decoded name).isSome = (PyValue.field? data name).isSome
  texts : ∀ {data decoded}, codec.roundTrip data = some decoded → ∀ name text,
    PyValue.field? decoded name = some (.str text) ↔ PyValue.field? data name = some (.str text)
  integers : ∀ {data decoded}, codec.roundTrip data = some decoded → ∀ name number,
    PyValue.field? data name = some (.int number) → PyValue.field? decoded name = some (.int number)
  keys : ∀ {data decoded}, codec.roundTrip data = some decoded → ∀ key,
    key ∈ decoded.map Prod.fst → key ∈ data.map Prod.fst
  parts : ∀ {data decoded}, codec.roundTrip data = some decoded →
    PyValue.entryTexts decoded ⊆ PyValue.entryTexts data ∧
      PyValue.entryNames decoded ⊆ PyValue.entryNames data ∧ PyValue.plainEntries decoded = true

/-- The events with a public projection. -/
def publicDraftEvents : List String :=
  ["session.question.asked", "session.draft_revision.created",
    "session.draft_revision.confirmation_requested", "session.draft_revision.confirmed"]

/-- The fields of an agent run. -/
def agentRunEventFields : List String :=
  ["agent_run_id", "phase", "session_kind", "slice_id", "generation"]

/-- `_DRAFT_EVENT_FIELDS`. -/
def draftEventFields (eventType : String) : Option (List String) :=
  if eventType = "session.question.asked" ∨ eventType = "session.question.answered" then
    some ["question_id"]
  else if eventType = "session.attached_to_run" then some ["run_id"]
  else if eventType = "session.closed" then some ["status"]
  else if eventType = "agent_run.started" then some agentRunEventFields
  else if eventType = "agent_run.terminal" then
    some (agentRunEventFields ++ ["exit", "receipt_category"])
  else none

/-- `required`. -/
def requiredFields (eventType : String) : List String :=
  if eventType = "session.question.asked" ∨ eventType = "session.question.answered" then
    ["question_id"]
  else if eventType = "session.attached_to_run" then ["run_id"]
  else if eventType = "session.closed" then ["status"]
  else if eventType = "agent_run.terminal" then
    ["agent_run_id", "phase", "session_kind", "exit", "receipt_category"]
  else ["agent_run_id", "phase", "session_kind"]

/-- The field is a text with the property. -/
def isTextField (data : PyEntries) (name : String) (valid : String → Bool) : Bool :=
  match PyValue.field? data name with
  | some (.str text) => valid text
  | _ => false

/-- The public enumerations of an agent run. -/
def validAgentRun (isExit : String → Bool) (eventType : String) (data : PyEntries) : Bool :=
  isTextField data "phase" (fun text => (Phase.ofValue text).isSome) &&
    isTextField data "session_kind" (fun text => (SessionKind.ofValue text).isSome) &&
    (eventType ≠ "agent_run.terminal" ||
      (isTextField data "exit" isExit &&
        isTextField data "receipt_category" isReceiptCategory))

/-- `{item.value for item in SessionExit}`. -/
def isSessionExit (text : String) : Bool := (SessionExit.ofValue text).isSome

/-- The fields of a slice are there together, and its generation is not negative. -/
def validSlice (data : PyEntries) : Bool :=
  (PyValue.field? data "slice_id").isSome == (PyValue.field? data "generation").isSome &&
    match PyValue.field? data "generation" with
    | none => true
    | some (.int generation) => 0 ≤ generation
    | some _ => false

namespace EventCodec

/-- `UUID(str(value))`. -/
def uuid? (codec : EventCodec) : PyValue → Option UUID
  | .str text => UUID.parse text
  | value => UUID.parse (codec.render value)

/-- `_redact_event_data`. -/
def redactEventData (codec : EventCodec) (data : PyEntries) : Option PyEntries :=
  if codec.registry.accepts data then some data else none

/-- `_redact_draft_public_event`: the text of a question is scanned under another name. -/
def redactDraftPublicEvent (codec : EventCodec) (eventType : String) (data : PyEntries) :
    Option PyEntries :=
  if eventType ≠ "session.question.asked" then codec.redactEventData data
  else
    match PyValue.field? data "prompt" with
    | some (.str prompt) =>
      let others := data.filter (fun entry => entry.1 ≠ .str "prompt")
      (codec.redactEventData (others ++ [(.str "ask_user_text", .str prompt)])).map
        fun _ => others ++ [(.str "prompt", .str prompt)]
    | _ => none

/-- The checks of an event without a public projection. -/
def validDraftEvent (codec : EventCodec) (eventType : String) (data : PyEntries) : Bool :=
  (!startsWith eventType "agent_run." || validAgentRun isSessionExit eventType data) &&
    (["question_id", "run_id", "agent_run_id", "slice_id"].all fun name =>
      match PyValue.field? data name with
      | none => true
      | some value => (codec.uuid? value).isSome) &&
    validSlice data

/-- `_prepare_draft_events` for one event. -/
def prepareDraftEvent (codec : EventCodec) (event : DraftEventSpec) :
    Except String (String × PyEntries) :=
  if event.eventType ∈ publicDraftEvents then
    match projectDraftPublicEvent event.eventType event.data with
    | .error _ | .ok none => .error "Draft session event summary is invalid"
    | .ok (some projected) =>
      match codec.redactDraftPublicEvent event.eventType projected with
      | none => .error "observation rejected"
      | some redacted => .ok (event.eventType, redacted)
  else
    match draftEventFields event.eventType with
    | none => .error "Draft session event type is not durable"
    | some fields =>
      let projected := event.data.filter (fun entry => fields.any (fun name => entry.1 = .str name))
      if (requiredFields event.eventType).any (fun name =>
          (PyValue.field? event.data name).isNone) then
        .error "Draft session event fields are incomplete"
      else if event.eventType = "session.closed" ∧
          PyValue.field? projected "status" ≠ some (.str "CLOSED") then
        .error "Draft close event status is invalid"
      else if codec.validDraftEvent event.eventType projected = false then
        .error "Draft session event data is invalid"
      else
        match (codec.redactEventData projected).bind codec.roundTrip with
        | none => .error "Draft session event data is invalid"
        | some decoded => .ok (event.eventType, decoded)

/-- `_prepare_draft_events`. -/
def prepareDraftEvents (codec : EventCodec) :
    List DraftEventSpec → Except String (List (String × PyEntries))
  | [] => .ok []
  | event :: events =>
    match codec.prepareDraftEvent event with
    | .error message => .error message
    | .ok prepared =>
      match codec.prepareDraftEvents events with
      | .error message => .error message
      | .ok others => .ok (prepared :: others)

variable {stored : String × PyEntries}

theorem prepareDraftEvent_type {codec : EventCodec} {event : DraftEventSpec}
    (done : codec.prepareDraftEvent event = .ok stored) : stored.1 = event.eventType := by
  unfold prepareDraftEvent at done
  split at done
  · split at done
    · cases done
    · cases done
    · split at done
      · cases done
      · cases done
        rfl
  · split at done
    · cases done
    · dsimp only at done
      split at done
      · cases done
      · split at done
        · cases done
        · split at done
          · cases done
          · split at done
            · cases done
            · cases done
              rfl

theorem mem_prepareDraftEvents {codec : EventCodec} {events : List DraftEventSpec}
    {prepared : List (String × PyEntries)} (done : codec.prepareDraftEvents events = .ok prepared)
    (member : stored ∈ prepared) :
    ∃ event ∈ events, codec.prepareDraftEvent event = .ok stored := by
  induction events generalizing prepared with
  | nil =>
    cases done
    cases member
  | cons event events ih =>
    simp only [prepareDraftEvents] at done
    split at done
    · cases done
    · rename_i first preparedFirst
      split at done
      · cases done
      · rename_i others preparedOthers
        cases done
        rcases List.mem_cons.mp member with isFirst | later
        · rw [isFirst]
          exact ⟨event, List.mem_cons_self, preparedFirst⟩
        · obtain ⟨source, among, preparedSource⟩ := ih preparedOthers later
          exact ⟨source, List.mem_cons_of_mem _ among, preparedSource⟩

end EventCodec

end CodeMigrator
