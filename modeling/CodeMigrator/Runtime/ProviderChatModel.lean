import CodeMigrator.Runtime.SupervisorSession

/-!
# The chat model of an agent run

`ProviderChatModel._agenerate` of `runtime/langchain_agent.py`: a reserved round, a call of the
provider, its receipt, and what becomes of the response. The cancellation token is the caller's, so
it is a part of the environment. `json.loads` and the schemas of the structured output are given.
-/

namespace CodeMigrator
open Lib Lib.Process

/-- What `json.loads` does: a value, a `TypeError` or `ValueError`, or another exception. -/
inductive JsonOutcome (F : Type) where
  | value (document : Document F)
  | invalid
  | escapes (raised : RaisedException)

/-- `_structured_output`: its name, whether it is `PlanProposal`, and what its validation dumps. -/
structure StructuredOutput (F : Type) where
  name : Points
  isPlanProposal : Bool
  validated : Fields F → Option (Fields F)

/-- The receipt of a call of an agent run, which has no provenance. -/
structure AgentUsageReceipt where
  runId : AgentRunId
  call : ProviderCallIdentity
  usage : TokenUsage
  deriving DecidableEq

/-- The attributes of `ProviderChatModel`. `planOutput` is `parse_plan_proposal_agent_output` of an
object. -/
structure ChatModelPorts (ω F : Type) where
  provider : List PromptMessage → Lib.Process ω RaisedException ProviderResponse
  cancelled : ω → Bool
  newUuid4 : ω → UUID × ω
  reserveRound : AgentRunId → Points → Nat → Lib.Process ω RaisedException (Option Int)
  record : AgentUsageReceipt → Lib.Process ω RaisedException Unit
  binding : LockedModelBinding
  agentRunId : AgentRunId
  maxRounds : Nat
  structuredOutput : Option (StructuredOutput F)
  decode : Points → JsonOutcome F
  planOutput : Fields F → Option (Fields F)

/-- A tool call of an `AIMessage`. -/
structure ChatToolCall (F : Type) where
  name : Points
  args : Fields F
  id : Points

/-- The message of a `ChatResult`, or the marker of the round limit. -/
inductive ChatResult (F : Type) where
  | roundLimit
  | message (content : Points) (toolCalls : List (ChatToolCall F)) (usage : TokenUsage)

/-- The environment, with `_calls` and `_usages`. -/
structure ChatModelState (ω : Type) where
  env : ω
  calls : Int
  usages : List TokenUsage

/-- A part of the model. -/
abbrev ChatPart (ω α : Type) : Type := Lib.Process (ChatModelState ω) RaisedException α

namespace ProviderChatModel

variable {ω F α : Type}

/-- A call of the environment. -/
def asked (port : Lib.Process ω RaisedException α) : ChatPart ω α :=
  within (·.env) (fun env state => { state with env := env }) port

/-- `ProviderError("provider request failed", retryable=False)`. -/
def requestFailed : RaisedException :=
  ⟨.provider false, points "ProviderError", points "provider request failed"⟩

variable (ports : ChatModelPorts ω F)

/-- `self._cancellation.raise_if_cancelled()`. -/
def raiseIfCancelled : ChatPart ω Unit := do
  if ← .ask (fun state => ports.cancelled state.env) then
    .raise ⟨.sessionCancelled, points "SessionCancelled", points "session cancellation was requested"⟩

/-- `call_id`. -/
def newCallId : ChatPart ω Points := fun state =>
  (.ok (points (ports.agentRunId.str ++ ":" ++ (ports.newUuid4 state.env).1.str)),
    { state with env := (ports.newUuid4 state.env).2 })

/-- The receipt of a response. -/
def usageReceipt (callId : Points) (response : ProviderResponse) : AgentUsageReceipt where
  runId := ports.agentRunId
  call :=
    { callId := callId
      providerReceiptId :=
        if response.providerReceiptId = [] then callId else response.providerReceiptId
      providerId := ports.binding.providerId
      modelId := ports.binding.modelId
      sessionKey := points ports.agentRunId.str }
  usage := response.usage

/-- The finish reasons of a response that was cut off. -/
def truncatedReasons : List Points :=
  [points "length", points "max_tokens", points "model_context_window_exceeded"]

/-- The arguments of a call of the plan proposal in its canonical form. -/
def planArguments (name : Points) (arguments : Fields F) : Fields F :=
  match ports.structuredOutput with
  | none => arguments
  | some output =>
    if output.isPlanProposal && name = output.name then
      (ports.planOutput arguments).getD arguments
    else arguments

/-- A tool call of the response. -/
def toolCall (callId : Points) (call : ProviderToolCall) (index : Nat) :
    Except RaisedException (ChatToolCall F) :=
  match ports.decode call.arguments with
  | .escapes raised => .error raised
  | .invalid => .error requestFailed
  | .value (.obj arguments) =>
    .ok ⟨call.name, planArguments ports call.name arguments,
      if call.callId = [] then callId ++ Point.colon :: points (toString index) else call.callId⟩
  | .value _ => .error requestFailed

/-- `content_value`: an object, or nothing that can be validated. -/
def contentObject (output : StructuredOutput F) (content : Points) :
    Except RaisedException (Option (Fields F)) :=
  match ports.decode content with
  | .escapes raised => .error raised
  | .invalid => .ok none
  | .value (.obj fields) =>
    .ok (some (if output.isPlanProposal then (ports.planOutput fields).getD fields else fields))
  | .value _ => .ok none

/-- A structured output that stands in the content becomes a tool call. -/
def structuredResult (callId : Points) (response : ProviderResponse) (output : StructuredOutput F) :
    Except RaisedException (ChatResult F) := do
  let fields ← contentObject ports output response.content
  match fields.bind output.validated with
  | none => return .message response.content [] response.usage
  | some arguments =>
    return .message [] [⟨output.name, arguments, callId ++ points ":structured-output"⟩]
      response.usage

/-- What becomes of a response that was booked. -/
def chatResult (callId : Points) (response : ProviderResponse) : Except RaisedException (ChatResult F) := do
  if response.finishReason ∈ truncatedReasons then .error requestFailed
  else
    let toolCalls ← response.toolCalls.zipIdx.mapM fun (call, index) =>
      toolCall ports callId call index
    match ports.structuredOutput with
    | none => return .message response.content toolCalls response.usage
    | some output =>
      if toolCalls.isEmpty && response.content ≠ [] then
        structuredResult ports callId response output
      else return .message response.content toolCalls response.usage

/-- The provider's turn in a reserved round. -/
def reservedRound (callId : Points) (messages : List PromptMessage) (roundIndex : Int) :
    ChatPart ω (ChatResult F) := do
  if roundIndex < 1 ∨ (ports.maxRounds : Int) < roundIndex then
    .raise ⟨.other, points "RuntimeError", points "AgentRun round reservation is invalid"⟩
  .change fun state => { state with calls := max state.calls roundIndex }
  let response ← asked (ports.provider messages)
  raiseIfCancelled ports
  .change fun state => { state with usages := state.usages ++ [response.usage] }
  asked (ports.record (usageReceipt ports callId response))
  .ofExcept (chatResult ports callId response)

/-- `_agenerate`. -/
def agenerate (messages : List PromptMessage) : ChatPart ω (ChatResult F) := do
  raiseIfCancelled ports
  let callId ← newCallId ports
  match ← asked (ports.reserveRound ports.agentRunId callId ports.maxRounds) with
  | none =>
    .change fun state => { state with calls := max state.calls ports.maxRounds }
    return .roundLimit
  | some roundIndex => reservedRound ports callId messages roundIndex

end ProviderChatModel

end CodeMigrator
