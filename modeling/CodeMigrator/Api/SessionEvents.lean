import CodeMigrator.Runtime.DraftEvents
import CodeMigrator.Web.SessionProjection

/-!
# Session events of the API

`SessionEvent.from_record` (`api/dto.py`): the envelope in which the event stream of a Draft
shows a committed event. Its data is projected and redacted under the registry of the process,
and then once more when the model is validated.
-/

namespace CodeMigrator
open Lib

/-- `_PUBLIC_EVENT_FIELDS`. -/
def publicEventFields (eventType : String) : Option (List String) :=
  if eventType = "run.created" then some ["status", "state_version"]
  else if eventType = "run.plan.accepted" then some ["agent_run_id", "plan_sha256"]
  else if eventType = "agent_run.started" then some agentRunEventFields
  else if eventType = "agent_run.terminal" then
    some (agentRunEventFields ++ ["exit", "receipt_category"])
  else if eventType = "integration.completed" then
    some ["slice_id", "generation", "verified_commit_oid"]
  else if eventType = "verified.advanced" then some ["slice_id", "generation", "commit_oid"]
  else none

/-- `_AGENT_RUN_EXITS`. -/
def agentRunExits : List String :=
  ["COMPLETED", "FAILED", "BUDGET_EXHAUSTED", "SEGMENT_STOPPED", "INVALIDATED"]

/-- `str(UUID(str(value))) == value`. -/
def canonicalId (data : PyEntries) (name : String) : Bool := isTextField data name canonicalUuid

/-- `_GIT_OID`. -/
def isGitOid (text : String) : Bool :=
  text.toList.length == 40 && text.toList.all (fun c => "0123456789abcdef".toList.contains c)

/-- The generation of a slice. -/
def validGeneration (data : PyEntries) : Bool :=
  match PyValue.field? data "generation" with
  | some (.int generation) => 0 ≤ generation
  | _ => false

/-- The checks of `_project_public_event_data` for each type. -/
def validPublicEvent (eventType : String) (data : PyEntries) : Bool :=
  if eventType = "run.created" then
    isTextField data "status" (fun text => (RunStatus.ofValue text).isSome) &&
      match PyValue.field? data "state_version" with
      | some (.int version) => 1 ≤ version
      | _ => false
  else if eventType = "run.plan.accepted" then
    canonicalId data "agent_run_id" && isTextField data "plan_sha256" isSha256
  else if eventType = "integration.completed" ∨ eventType = "verified.advanced" then
    canonicalId data "slice_id" && validGeneration data &&
      isTextField data
        (if eventType = "integration.completed" then "verified_commit_oid" else "commit_oid")
        isGitOid
  else
    canonicalId data "agent_run_id" && validAgentRun agentRunExits.contains eventType data &&
      ((PyValue.field? data "slice_id").isSome == (PyValue.field? data "generation").isSome) &&
      (!(PyValue.field? data "slice_id").isSome ||
        (canonicalId data "slice_id" && validGeneration data))

/-- The fields of the names that the data has, in the order of the names. -/
def selectFields (data : PyEntries) (names : List String) : PyEntries :=
  names.filterMap fun name => (PyValue.field? data name).map fun value => (.str name, value)

/-- `_project_public_event_data`. -/
def projectPublicEventData (eventType : String) (data : PyEntries) : Except String PyEntries :=
  match projectDraftPublicEvent eventType data with
  | .error message => .error message
  | .ok (some projected) => .ok projected
  | .ok none =>
    match publicEventFields eventType with
    | none => .ok data
    | some fields =>
      if validPublicEvent eventType (selectFields data fields) then
        .ok (selectFields data fields)
      else if startsWith eventType "agent_run." then
        .error "AgentRun event summary is invalid"
      else .error "run event summary is invalid"

/-- `SessionEvent.from_record`: the data of the envelope. The timestamp of a stored event is
aware of its zone. -/
def sessionEventFromRecord (registry : SecretRegistry) (eventType : String) (sequence : Nat)
    (data : PyEntries) : Except String PyEntries :=
  match projectPublicEventData eventType data with
  | .error message => .error message
  | .ok projected =>
    if registry.accepts projected = false then .error "event data must be redacted"
    else if isBlank eventType then .error "event type must not be empty"
    else if sequence < 1 then .error "event sequence must be a positive integer"
    else
      match projectPublicEventData eventType projected with
      | .error message => .error message
      | .ok shown =>
        if registry.unregistered.accepts shown = false then .error "event data must be redacted"
        else .ok shown

theorem lookup_selectFields (data : PyEntries) (names : List String) (name : String) :
    PyValue.field? (selectFields data names) name =
      if name ∈ names then PyValue.field? data name else none := by
  induction names with
  | nil => rfl
  | cons head names ih =>
    cases found : PyValue.field? data head with
    | none =>
      have skips : selectFields data (head :: names) = selectFields data names := by
        simp [selectFields, found]
      rw [skips, ih]
      by_cases own : name = head
      · rw [own, found]
        simp
      · simp [own]
    | some value =>
      have takes : selectFields data (head :: names) =
          (.str head, value) :: selectFields data names := by
        simp [selectFields, found]
      rw [takes]
      by_cases own : name = head
      · rw [own, PyValue.field?_head, found]
        simp
      · have apart : ¬ head = name := fun same => own same.symm
        have later : PyValue.field? ((.str head, value) :: selectFields data names) name =
            PyValue.field? (selectFields data names) name := by
          simp [PyValue.field?, Dict.lookup, apart]
        rw [later, ih]
        simp [own]

end CodeMigrator
