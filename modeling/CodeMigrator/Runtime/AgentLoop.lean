import CodeMigrator.Lib.Process
import CodeMigrator.Runtime.AgentSession

/-!
# The agent loop

`AgentLoop._run` of `runtime/loop.py`. What it calls is the environment, with a state of its own
that every call may change: the cancellation gate, the wallet, the provider, the tool gateway, the
usage sink and the checkpoint. Beside the state of the environment stand the cancellation token of
the round and a log of what happened, in which the properties of a session are stated.

The watcher of a call runs while the call does. What it heard from the gate is logged behind the
call, up to the first refusal, which cancels the token.
-/

namespace CodeMigrator
open Lib

/-- The exceptions that the loop tells apart; every other one by the name of its type. -/
inductive LoopError where
  | sessionCancelled
  | provider (retryable cancelled : Bool)
  | contextOverflow
  | contextBudget
  | other (typeName : Points)
  deriving DecidableEq

/-- `type(error).__name__`. -/
def LoopError.typeName : LoopError → Points
  | sessionCancelled => points "SessionCancelled"
  | provider _ _ => points "ProviderError"
  | contextOverflow => points "ContextOverflowError"
  | contextBudget => points "ContextBudgetError"
  | other typeName => typeName

/-- `CheckpointDecision`. -/
structure CheckpointDecision where
  accepted : Bool
  committed : Bool
  rejectionReasons : List Points
  ownerReceipt : Option AgentRunReceipt
  candidateCheckpointSha256 : Option String
  deriving DecidableEq

/-- `ToolObservation`; its provenance is that of the session. The result of a tool is a value, or
the exception that it raised. -/
structure ToolObservation (F ρ : Type) where
  roundIndex : Nat
  segmentIndex : Nat
  action : Fields F
  result : Except LoopError ρ

/-- `SessionResult`. -/
structure SessionResult (F ρ : Type) where
  state : SessionState
  exit : SessionExit
  observations : List (ToolObservation F ρ)
  assistantTexts : List Points
  usages : List TokenUsage
  outcomePublished : Bool
  rounds : Nat
  failure : Option String
  provenance : SessionProvenance
  candidateCheckpointSha256 : Option String

/-- Whether an answer of the gate is one to the loop itself or to the call of a tool. -/
inductive LoopCheck where
  | session | step
  deriving DecidableEq

/-- What happens in a session: a request to the provider and its response, an answer of the gate,
the withdrawal of a step by a cancelled token or a `SessionCancelled` of the environment, a tool
call, a receipt that is handed to the wallet, and a decision of the checkpoint. -/
inductive LoopEvent (F : Type) where
  | called (messages : List PromptMessage)
  | responded (response : ProviderResponse)
  | answered (check : LoopCheck) (allowed : Bool)
  | withdrawn (check : LoopCheck)
  | dispatched (payload : Fields F)
  | recorded (receipt : UsageReceipt)
  | decided (decision : CheckpointDecision)

/-- The environment, the cancellation token of the round, and the log. -/
structure LoopWorld (ω F : Type) where
  env : ω
  token : Bool
  log : List (LoopEvent F)

/-- A part of the environment. -/
abbrev Port (ω α : Type) : Type := Lib.Process ω LoopError α

/-- A part of the environment that is handed the token: it sees whether the token is cancelled, and
it may cancel it. -/
abbrev TokenPort (ω α : Type) : Type := Lib.Process (ω × Bool) LoopError α

/-- `CancellationGate`, with what its watcher hears while a call runs. -/
structure GatePort (ω : Type) where
  allow : Port ω Bool
  cancel : Port ω Unit
  watch : ω → List Bool × ω

/-- `BudgetGate`. -/
structure BudgetPort (ω : Type) where
  admits : Port ω Bool
  record : UsageReceipt → Port ω Bool

/-- The attributes of `AgentLoop`, for the spec of one session. `contextFits` is what
`_ensure_context_fits` makes of messages. A tool call returns a value, or something to wait for,
which `awaited` does. -/
structure LoopPorts (ω F ρ : Type) where
  provider : List PromptMessage → TokenPort ω ProviderResponse
  dispatch : Fields F → TokenPort ω (Option ρ)
  awaited : TokenPort ω ρ
  resultText : ρ → Except LoopError Points
  checkpoint : Option (List (ToolObservation F ρ) → Port ω CheckpointDecision)
  gate : Option (GatePort ω)
  budget : Option (BudgetPort ω)
  usageSink : Option (UsageReceipt → Port ω Unit)
  maxSelfCorrections : Nat
  contextFits : List PromptMessage → Except LoopError Unit

/-- A part of the loop. -/
abbrev Loop (ω F α : Type) : Type := Lib.Process (LoopWorld ω F) LoopError α

/-- The local variables of `_run`. -/
structure LoopState (F ρ : Type) where
  messages : List PromptMessage
  observations : List (ToolObservation F ρ)
  assistantTexts : List Points
  usages : List TokenUsage
  selfCorrections : Nat

/-- A part of the loop returns the result of the session, or goes on. -/
inductive LoopTurn (F ρ : Type) where
  | ended (result : SessionResult F ρ)
  | goes (state : LoopState F ρ)

namespace AgentLoop

variable {ω F ρ α : Type}

/-! ## The environment -/

/-- Logs an event. -/
def note (event : LoopEvent F) : Loop ω F Unit :=
  .change fun world => { world with log := world.log ++ [event] }

/-- A call of the environment has raised `SessionCancelled` or cancelled the token. -/
def withdraws (ended : Except (Stop LoopError) α) (token : Bool) : Bool :=
  token ||
    match ended with
    | .error (.raised .sessionCancelled) => true
    | _ => false

/-- A call of the environment with the token. -/
def handed (check : LoopCheck) (port : TokenPort ω α) : Loop ω F α := fun world =>
  ((port (world.env, world.token)).1,
    { env := (port (world.env, world.token)).2.1
      token := world.token || (port (world.env, world.token)).2.2
      log := world.log ++
        if withdraws (port (world.env, world.token)).1 (port (world.env, world.token)).2.2 then
          [.withdrawn check] else [] })

/-- A call of the environment without the token. -/
def asked (check : LoopCheck) (port : Port ω α) : Loop ω F α :=
  handed check fun world => ((port world.1).1, (port world.1).2, false)

/-- The answers of the gate up to its first refusal. -/
def untilRefusal : List Bool → List Bool
  | [] => []
  | true :: answers => true :: untilRefusal answers
  | false :: _ => [false]

variable (ports : LoopPorts ω F ρ)

/-- `_watch_cancellation` beside a call. -/
def watch (check : LoopCheck) (world : LoopWorld ω F) : LoopWorld ω F :=
  match ports.gate with
  | none => world
  | some gate =>
    { env := (gate.watch world.env).2
      token := world.token || (untilRefusal (gate.watch world.env).1).contains false
      log := world.log ++ (untilRefusal (gate.watch world.env).1).map (.answered check) }

/-- `_allowed`. -/
def allowed (check : LoopCheck) : Loop ω F Bool :=
  match ports.gate with
  | none => pure true
  | some gate => do
      let answer ← asked check gate.allow
      note (.answered check answer)
      return answer

/-- `_notify_cancel`. -/
def notifyCancel (check : LoopCheck) : Loop ω F Unit :=
  match ports.gate with
  | none => pure ()
  | some gate => asked check gate.cancel

/-- `token.raise_if_cancelled()`. -/
def raiseIfCancelled : Loop ω F Unit := do
  if ← .ask (·.token) then .raise .sessionCancelled

/-- The end of `_provider_call` and of `_dispatch`: the session is still valid, or it is
cancelled. -/
def confirm (check : LoopCheck) : Loop ω F Unit := do
  unless ← allowed ports check do
    .change fun world => { world with token := true }
    notifyCancel ports check
    .raise .sessionCancelled

/-- `token.cancelled or not await self._allowed(...)`. -/
def stopped (check : LoopCheck) : Loop ω F Bool := do
  if ← .ask (·.token) then return true
  return !(← allowed ports check)

/-- `_provider_call`. -/
def providerCall (messages : List PromptMessage) : Loop ω F ProviderResponse := do
  note (.called messages)
  let response ← .ensuring (handed .session (ports.provider messages)) (watch ports .session)
  raiseIfCancelled
  confirm ports .session
  return response

/-- `_dispatch`. A worker that finds the token cancelled is a gateway that raises
`SessionCancelled`. -/
def dispatch (payload : Fields F) : Loop ω F ρ := do
  raiseIfCancelled
  note (.dispatched payload)
  let result ← .ensuring (handed .step (ports.dispatch payload)) (watch ports .step)
  raiseIfCancelled
  confirm ports .step
  match result with
  | some value => return value
  | none => handed .step ports.awaited

/-! ## Results -/

variable (spec : SessionSpec)

/-- `_result`. -/
def result (state : SessionState) (exit : SessionExit) (locals : LoopState F ρ) (rounds : Nat) :
    SessionResult F ρ where
  state := state
  exit := exit
  observations := locals.observations
  assistantTexts := locals.assistantTexts
  usages := locals.usages
  outcomePublished := false
  rounds := rounds
  failure := none
  provenance := ⟨spec.identity, spec.agentRunId⟩
  candidateCheckpointSha256 := none

/-- `_failed`. -/
def failed (locals : LoopState F ρ) (rounds : Nat) (failure : String) : SessionResult F ρ :=
  { result spec .failed .failed locals rounds with failure := some failure }

/-- `_budget_exhausted`. -/
def budgetExhausted (locals : LoopState F ρ) (rounds : Nat) : SessionResult F ρ :=
  { result spec .failed .budgetExhausted locals rounds with failure := some "BUDGET_EXHAUSTED" }

/-- `_invalidated`. -/
def invalidated (locals : LoopState F ρ) (rounds : Nat) : SessionResult F ρ :=
  result spec .invalidated .invalidated locals rounds

/-! ## Tool calls -/

/-- `str(action.get("tool", ""))` for an action of a native call, whose tool is a text. -/
def toolName (action : Fields F) : Points :=
  match getField action (points "tool") with
  | some (.str name) => name
  | _ => []

/-- `value` of `_observation_message`: the text of a result, or the type of an exception. -/
def resultValue : Except LoopError ρ → Except LoopError Points
  | .error error => .ok (points "tool execution failed: " ++ error.typeName)
  | .ok value => ports.resultText value

/-- `_observation_message`. -/
def observationMessage (segmentIndex : Nat) (callId : Option Points) (action : Fields F)
    (result : Except LoopError ρ) : Except LoopError PromptMessage := do
  let value ← resultValue ports result
  match callId with
  | none =>
    return .plain .user (points ("[tool.result:" ++ toString segmentIndex ++ "]\n") ++ value)
  | some callId => return ⟨.tool, value, some callId, some (toolName action), []⟩

/-- `except SessionCancelled` of a tool call. -/
def isCancellation : Except LoopError ρ → Bool
  | .error .sessionCancelled => true
  | _ => false

/-- The end of a tool call: its observation, unless its step was cancelled. -/
def finishStep (roundIndex segmentIndex : Nat) (action : ModelAction F) (outcome : Except LoopError ρ)
    (locals : LoopState F ρ) : Loop ω F (LoopTurn F ρ) := do
  if isCancellation outcome then return .ended (invalidated spec locals roundIndex)
  if ← stopped ports .step then return .ended (invalidated spec locals roundIndex)
  let message ← .ofExcept (observationMessage ports segmentIndex action.callId action.payload outcome)
  return .goes
    { locals with
      observations := locals.observations ++ [⟨roundIndex, segmentIndex, action.payload, outcome⟩]
      messages := locals.messages ++ [message] }

/-- The actions of a turn, one after the other. -/
def runActions (roundIndex : Nat) : Nat → List (ModelAction F) → LoopState F ρ →
    Loop ω F (LoopTurn F ρ)
  | _, [], locals => return .goes locals
  | segmentIndex, action :: actions, locals => do
      if ← stopped ports .session then return .ended (invalidated spec locals roundIndex)
      let outcome ← .tried (dispatch ports action.payload)
      match ← finishStep ports spec roundIndex segmentIndex action outcome locals with
      | .ended result => return .ended result
      | .goes locals => runActions roundIndex (segmentIndex + 1) actions locals

/-! ## The end of a round -/

/-- `_requires_candidate_checkpoint`. -/
def requiresCandidateCheckpoint (identity : SessionIdentity) : Bool :=
  identity.phase == .execute && identity.sessionKind.writes

/-- The decision carries what the session's outcome needs: the receipt of its agent run, and the
digest of the candidate. -/
def carriesOwner (decision : CheckpointDecision) : Bool :=
  match spec.agentRunId with
  | none => true
  | some agentRunId =>
    (decision.ownerReceipt.map (·.agentRunId) == some agentRunId) &&
      (!requiresCandidateCheckpoint spec.identity ||
        decision.candidateCheckpointSha256.any isSha256)

/-- `f"[checkpoint.rejection]\n{reasons}"`. -/
def rejectionMessage (decision : CheckpointDecision) : PromptMessage :=
  let reasons := List.intercalate (points ", ") decision.rejectionReasons
  .plain .user (points "[checkpoint.rejection]\n" ++
    if reasons = [] then points "checkpoint rejected" else reasons)

/-- The decision about a session that declares its task complete. -/
def concluded (roundIndex : Nat) (decision : CheckpointDecision) (locals : LoopState F ρ) :
    LoopTurn F ρ :=
  if decision.accepted && decision.committed && carriesOwner spec decision then
    .ended { result spec .closed .completed locals roundIndex with
      outcomePublished := true
      candidateCheckpointSha256 := decision.candidateCheckpointSha256 }
  else if decision.accepted then
    .ended { result spec .checkpointPending .completed locals roundIndex with
      candidateCheckpointSha256 := decision.candidateCheckpointSha256 }
  else if ports.maxSelfCorrections < locals.selfCorrections + 1 then
    .ended (failed spec { locals with selfCorrections := locals.selfCorrections + 1 } roundIndex
      "CHECKPOINT_REJECTED_TOO_MANY_TIMES")
  else
    .goes { locals with
      selfCorrections := locals.selfCorrections + 1
      messages := locals.messages ++ [rejectionMessage decision] }

/-- The checkpoint of a session, or the decision where it has none. -/
def precheck (observations : List (ToolObservation F ρ)) : Loop ω F (Except LoopError CheckpointDecision) :=
  match ports.checkpoint with
  | none => return .ok ⟨true, true, [], none, none⟩
  | some checkpoint => .tried (asked .session (checkpoint observations))

/-- The end of a round, behind its actions. -/
def finishRound (roundIndex : Nat) (response : ProviderResponse) (turn : NormalizedTurn F)
    (locals : LoopState F ρ) : Loop ω F (LoopTurn F ρ) := do
  if turn.declaredComplete then
    if ← stopped ports .session then return .ended (invalidated spec locals roundIndex)
    match ← precheck ports locals.observations with
    | .error _ => return .ended (failed spec locals roundIndex "CHECKPOINT_ERROR")
    | .ok decision =>
      note (.decided decision)
      return concluded ports spec roundIndex decision locals
  else if turn.actions.isEmpty &&
      (response.finishReason = points "stop" || response.finishReason = points "end_turn") then
    return .ended (result spec .closed .segmentStopped locals roundIndex)
  else return .goes locals

/-! ## A round -/

/-- `budget.admit`, if there is a wallet. -/
def admitted : Loop ω F Bool :=
  match ports.budget with
  | none => pure true
  | some budget => asked .session budget.admits

/-- `usage_sink.record` and `budget.record`, as far as there are a sink and a wallet. -/
def record (receipt : UsageReceipt) : Loop ω F Bool := do
  match ports.usageSink with
  | none => pure ()
  | some sink => asked .session (sink receipt)
  match ports.budget with
  | none => return true
  | some budget =>
    note (.recorded receipt)
    asked .session (budget.record receipt)

/-- The calls of an assistant message. -/
def nativeToolCalls (callId : Points) (calls : List ProviderToolCall) : List NativeCall :=
  calls.zipIdx.map fun (call, index) =>
    ⟨if call.callId = [] then callId ++ Point.colon :: points (toString index) else call.callId,
      call.name, call.arguments⟩

/-- The response in the messages and the texts of the assistant. -/
def withResponse (roundIndex : Nat) (response : ProviderResponse) (locals : LoopState F ρ) :
    LoopState F ρ :=
  if response.content = [] ∧ response.toolCalls = [] then locals
  else
    { locals with
      messages := locals.messages ++ [⟨.assistant, response.content, none, none,
        nativeToolCalls (roundCallId spec.identity roundIndex) response.toolCalls⟩]
      assistantTexts :=
        if response.content = [] then locals.assistantTexts
        else locals.assistantTexts ++ [response.content] }

/-- What becomes of a session whose provider call raised an exception. -/
def providerFailure (roundIndex : Nat) (error : LoopError) (locals : LoopState F ρ) :
    SessionResult F ρ :=
  match error with
  | .sessionCancelled | .provider _ true => invalidated spec locals roundIndex
  | .provider true false => failed spec locals roundIndex "RETRYABLE_PROVIDER_ERROR"
  | _ => failed spec locals roundIndex "PROVIDER_ERROR"

/-- The type of an exception of the decoder that nothing catches. -/
def decodeErrorName : DecodeError → Points
  | .depth => points "RecursionError"
  | _ => points "ValueError"

variable (decoder : Decoder F)

/-- A round, behind the response of the provider. -/
def handleResponse (roundIndex : Nat) (response : ProviderResponse) (locals : LoopState F ρ) :
    Loop ω F (LoopTurn F ρ) := do
  if ← stopped ports .session then return .ended (invalidated spec locals roundIndex)
  let locals := { locals with usages := locals.usages ++ [response.usage] }
  unless ← record ports (usageReceipt spec roundIndex response) do
    return .ended (budgetExhausted spec locals roundIndex)
  match normalizeResponse decoder response with
  | .error (.normalization _) => return .ended (failed spec locals roundIndex "NORMALIZATION_ERROR")
  | .error (.uncaught error) => .raise (.other (decodeErrorName error))
  | .ok turn =>
    let locals := withResponse spec roundIndex response locals
    if ← stopped ports .session then return .ended (invalidated spec locals roundIndex)
    match ← runActions ports spec roundIndex 0 turn.actions locals with
    | .ended result => return .ended result
    | .goes locals => finishRound ports spec roundIndex response turn locals

/-- The context still fits, or an exception that is not about its size. -/
def overflows (messages : List PromptMessage) : Except LoopError Bool :=
  match ports.contextFits messages with
  | .ok () => .ok false
  | .error .contextOverflow | .error .contextBudget => .ok true
  | .error error => .error error

/-- A round of the loop. -/
def agentRound (roundIndex : Nat) (locals : LoopState F ρ) : Loop ω F (LoopTurn F ρ) := do
  unless ← allowed ports .session do
    return .ended (invalidated spec locals (roundIndex - 1))
  unless ← admitted ports do
    return .ended (budgetExhausted spec locals (roundIndex - 1))
  if ← .ofExcept (overflows ports locals.messages) then
    return .ended (failed spec locals roundIndex "CONTEXT_OVERFLOW")
  .change fun world => { world with token := false }
  match ← .tried (providerCall ports locals.messages) with
  | .error error => return .ended (providerFailure spec roundIndex error locals)
  | .ok response =>
    note (.responded response)
    handleResponse ports spec decoder roundIndex response locals

/-- The rounds that are left. -/
def runRounds : Nat → Nat → LoopState F ρ → Loop ω F (SessionResult F ρ)
  | 0, _, locals => return result spec .closed .segmentStopped locals spec.maxRounds
  | left + 1, roundIndex, locals => do
      match ← agentRound ports spec decoder roundIndex locals with
      | .ended result => return result
      | .goes locals => runRounds left (roundIndex + 1) locals

/-- What is raised for an error: an exception of this type. -/
def raisedAs {β : Type} (typeName : String) : Except String β → Except LoopError β
  | .ok value => .ok value
  | .error _ => .error (.other (points typeName))

/-- `_run`. -/
def run : Loop ω F (SessionResult F ρ) := do
  .ofExcept (raisedAs "BindingError" (validateSessionAdmission spec))
  let messages ← .ofExcept (raisedAs "ValueError" (renderPrompt spec.template spec.context))
  .ofExcept (ports.contextFits messages)
  runRounds ports spec decoder spec.maxRounds 1 ⟨messages, [], [], [], 0⟩

end AgentLoop

end CodeMigrator
