import CodeMigrator.Runtime.AgentSession
import CodeMigrator.Lib.Process

/-!
# Supervisor sessions

`SupervisorSession.run` of `runtime/supervisor_session.py`: one model turn without tools, whose
advice is handed on, or a mechanical fallback. What it calls is the environment. What the model's
content means (`_parse_advice`) and the events of an advice are given.
-/

namespace CodeMigrator
open Lib Lib.Process

/-- The exceptions that the session tells apart. -/
inductive RaisedKind where
  | sessionCancelled
  | provider (cancelled : Bool)
  | context
  | protocol
  | other
  deriving DecidableEq

/-- An exception with the name of its type and its text. -/
structure RaisedException where
  kind : RaisedKind
  typeName : Points
  message : Points
  deriving DecidableEq

/-- `_failure`. -/
def RaisedException.failure (raised : RaisedException) : Points :=
  let message := ((stripPoints raised.message).map fun point =>
    if point = 0x0A then 0x20 else point).take 160
  if message = [] then raised.typeName else message

/-- What the watcher of a provider call has done: whether it ended while the provider did not, and
whether it has cancelled the token. -/
structure WatcherEnd where
  ahead : Bool
  cancelled : Bool

/-- `CancellationGate`, with what its watcher does while the provider is called. -/
structure SupervisorGate (ω : Type) where
  allow : Lib.Process ω RaisedException Bool
  watch : ω → WatcherEnd × ω

/-- `BudgetGate`. -/
structure SupervisorBudget (ω : Type) where
  admits : Lib.Process ω RaisedException Bool
  record : UsageReceipt → Lib.Process ω RaisedException Bool

/-- The attributes of `SupervisorSession`, for one trigger and its projection. -/
structure SupervisorPorts (ω A E : Type) where
  provider : List PromptMessage → Lib.Process (ω × Bool) RaisedException ProviderResponse
  newUuid7 : ω → UUID × ω
  gate : Option (SupervisorGate ω)
  budget : Option (SupervisorBudget ω)
  usageSink : Option (UsageReceipt → Lib.Process ω RaisedException Unit)
  contextFits : List PromptMessage → Except RaisedException Unit
  parseAdvice : Points → Except RaisedException A
  events : A → List E
  eventSink : Option (E → Lib.Process ω RaisedException Unit)
  adviceSink : Option (A → Lib.Process ω RaisedException Unit)

/-- `SupervisorResult`. -/
structure SupervisorResult (A E : Type) where
  advice : Option A
  events : List E
  fallback : Option String
  failure : Option Points

/-- A part of a session: the environment, and the cancellation token. -/
abbrev SupervisorPart (ω α : Type) : Type := Lib.Process (ω × Bool) RaisedException α

namespace SupervisorSession

variable {ω A E α : Type}

/-- `_fallback`: an empty failure gives way to the reason. -/
def fallback (reason : String) (failure : Option Points) : SupervisorResult A E where
  advice := none
  events := []
  fallback := some "MECHANICAL_REDUCTION"
  failure :=
    match failure with
    | none | some [] => some (points reason)
    | some text => some text

/-- A call without the token. -/
def asked (port : Lib.Process ω RaisedException α) : SupervisorPart ω α :=
  within Prod.fst (fun env world => (env, world.2)) port

/-- An exception with a text. -/
def raised (typeName message : String) : RaisedException := ⟨.other, points typeName, points message⟩

/-- An exception of this type with the text of an error. -/
def raisedAs (typeName : String) : Except String α → Except RaisedException α
  | .ok value => .ok value
  | .error message => .error (raised typeName message)

/-- `SessionCancelled("Supervisor cancellation was requested")`. -/
def cancellationRequested : RaisedException :=
  ⟨.sessionCancelled, points "SessionCancelled", points "Supervisor cancellation was requested"⟩

variable (ports : SupervisorPorts ω A E)

/-- `_allowed`. -/
def allowed : SupervisorPart ω Bool :=
  match ports.gate with
  | none => pure true
  | some gate => asked gate.allow

/-- `_validate_supervisor_identity`. -/
def validateSupervisorIdentity (spec : SessionSpec) : Except String Unit :=
  if spec.identity.phase ≠ .execute then .error "Supervisor requires EXECUTE phase"
  else if spec.runStatus ≠ .executing then .error "Supervisor requires EXECUTING run"
  else if spec.binding.profile ≠ .code then .error "Supervisor requires CODE model profile"
  else if spec.identity.sessionKind ≠ .executeSupervisor then
    .error "Supervisor requires ExecuteSupervisor session kind"
  else .ok ()

/-- `budget.admit`, if there is a wallet. -/
def admitted : SupervisorPart ω Bool :=
  match ports.budget with
  | none => pure true
  | some budget => asked budget.admits

/-- What comes before the call: its messages, or the reason of a fallback. -/
def admission (spec : SessionSpec) (context : ContextEnvelope) :
    SupervisorPart ω (Except String (List PromptMessage)) := do
  .ofExcept (raisedAs "BindingError" (validateSessionAdmission spec))
  .ofExcept (raisedAs "ValueError" (validateSupervisorIdentity spec))
  unless ← allowed ports do
    return .error "cancelled"
  unless ← admitted ports do
    return .error "budget_closed"
  let messages ← .ofExcept (raisedAs "ValueError" (renderPrompt spec.template context))
  .ofExcept (ports.contextFits messages)
  return .ok messages

/-- The watcher of the call, which may have cancelled the token. -/
def watched (gate : SupervisorGate ω) : SupervisorPart ω WatcherEnd := fun world =>
  (.ok (gate.watch world.1).1,
    ((gate.watch world.1).2, world.2 || (gate.watch world.1).1.cancelled))

/-- A provider that is still at work when the watcher ends is cancelled, and what it does then is
dropped. -/
def raced (gate : SupervisorGate ω) (outcome : Except RaisedException ProviderResponse) :
    SupervisorPart ω ProviderResponse := do
  let watcher ← watched gate
  if watcher.ahead then .raise cancellationRequested
  else .ofExcept outcome

/-- `_provider_call`. -/
def providerCall (messages : List PromptMessage) : SupervisorPart ω ProviderResponse :=
  match ports.gate with
  | none => ports.provider messages
  | some gate => do
      let outcome ← .tried (ports.provider messages)
      raced gate outcome

/-- The receipt of the response. -/
def usageReceipt (spec : SessionSpec) (callId : Points) (response : ProviderResponse) :
    UsageReceipt where
  runId := spec.identity.runId
  call :=
    { callId := callId
      providerReceiptId :=
        if response.providerReceiptId = [] then callId else response.providerReceiptId
      providerId := spec.binding.providerId
      modelId := spec.binding.modelId
      sessionKey := callId }
  usage := response.usage
  provenance := ⟨spec.identity, none⟩

/-- `response.finish_reason in {"stop", "end_turn"}`. -/
def endedNormally (response : ProviderResponse) : Bool :=
  response.finishReason = points "stop" || response.finishReason = points "end_turn"

/-- `usage_sink.record`, if there is a sink. -/
def handOver (receipt : UsageReceipt) : SupervisorPart ω Unit :=
  match ports.usageSink with
  | none => pure ()
  | some sink => asked (sink receipt)

/-- `budget.record`, if there is a wallet. -/
def recorded (receipt : UsageReceipt) : SupervisorPart ω Bool :=
  match ports.budget with
  | none => pure true
  | some budget => asked (budget.record receipt)

/-- The booking of a response, and then the advice or the reason of a fallback. -/
def booked (receipt : UsageReceipt) (response : ProviderResponse) :
    SupervisorPart ω (Except String A) := do
  handOver ports receipt
  if !(← recorded ports receipt) then return .error "budget_closed"
  if !(← allowed ports) then return .error "cancelled"
  let advice ← .ofExcept (ports.parseAdvice response.content)
  return .ok advice

/-- The events one after the other; `false` where the session is no longer allowed. -/
def appendEvents (sink : E → Lib.Process ω RaisedException Unit) : List E → SupervisorPart ω Bool
  | [] => pure true
  | event :: events => do
      if !(← allowed ports) then return false
      asked (sink event)
      appendEvents sink events

/-- The events of an advice, if there is a sink for them. -/
def appendAll (advice : A) : SupervisorPart ω Bool :=
  match ports.eventSink with
  | none => pure true
  | some sink => appendEvents ports sink (ports.events advice)

/-- The sinks of the events and of the advice. -/
def deliver (advice : A) : SupervisorPart ω Bool := do
  if !(← appendAll ports advice) then return false
  match ports.adviceSink with
  | none => return true
  | some sink =>
    if !(← allowed ports) then return false
    asked (sink advice)
    return true

/-- What becomes of an advice. -/
def delivered (advice : A) : SupervisorPart ω (SupervisorResult A E) := do
  if !(← allowed ports) then return fallback "cancelled" none
  match ← .tried (deliver ports advice) with
  | .error raised =>
    return ⟨none, ports.events advice, some "MECHANICAL_REDUCTION",
      some (points "delivery_error: " ++ raised.failure)⟩
  | .ok false => return fallback "cancelled" none
  | .ok true => return ⟨some advice, ports.events advice, none, none⟩

/-- What follows a response that is going to be booked. -/
def bookedResult (spec : SessionSpec) (callId : Points) (response : ProviderResponse) :
    SupervisorPart ω (SupervisorResult A E) := do
  match ← .tried (booked ports (usageReceipt spec callId response) response) with
  | .error raised =>
    return fallback "protocol_error"
      (some (if raised.kind = .protocol then raised.message else raised.failure))
  | .ok (.error reason) => return fallback reason none
  | .ok (.ok advice) => delivered ports advice

/-- What follows a response. -/
def handleResponse (spec : SessionSpec) (callId : Points) (response : ProviderResponse) :
    SupervisorPart ω (SupervisorResult A E) := do
  if ← .ask (·.2) then return fallback "cancelled" none
  if !(← allowed ports) then return fallback "cancelled" none
  if response.toolCalls ≠ [] then
    return fallback "protocol_error" (some (points "native tool calls are forbidden"))
  if !endedNormally response then
    return fallback "protocol_error" (some (points "Supervisor response did not end normally"))
  if !(← allowed ports) then return fallback "cancelled" none
  bookedResult ports spec callId response

/-- What becomes of a provider call that raised an exception. -/
def providerFailure (raised : RaisedException) : SupervisorResult A E :=
  match raised.kind with
  | .sessionCancelled | .provider true => fallback "cancelled" none
  | _ => fallback "provider_error" none

/-- `call_id`. -/
def newCallId (spec : SessionSpec) : SupervisorPart ω Points := fun world =>
  (.ok (points (spec.identity.runId.str ++ ":supervisor:" ++ (ports.newUuid7 world.1).1.str)),
    ((ports.newUuid7 world.1).2, world.2))

/-- What becomes of an exception before the call. -/
def admissionFailure (raised : RaisedException) : SupervisorResult A E :=
  if raised.kind = .context then fallback "context_rejected" none
  else fallback "invalid_identity" (some raised.failure)

/-- `run`. -/
def run (spec : SessionSpec) (context : ContextEnvelope) :
    SupervisorPart ω (SupervisorResult A E) := do
  match ← .tried (admission ports spec context) with
  | .error raised => return admissionFailure raised
  | .ok (.error reason) => return fallback reason none
  | .ok (.ok messages) =>
    .change fun world => (world.1, false)
    let callId ← newCallId ports spec
    match ← .tried (providerCall ports messages) with
    | .error raised => return providerFailure raised
    | .ok response => handleResponse ports spec callId response

end SupervisorSession

end CodeMigrator
