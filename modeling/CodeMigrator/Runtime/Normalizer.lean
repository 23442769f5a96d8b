import CodeMigrator.Workspace.ActionProtocol
import Mathlib.Data.List.Infix

/-!
# Provider responses

`ProviderToolCall`, `TokenUsage` and `ProviderResponse` of `runtime/provider.py`, and
`normalize_response` of `runtime/normalizer.py`: the actions that a response asks for, and whether
it declares its task complete.
-/

namespace CodeMigrator
open Lib

/-- `TokenUsage`, whose values its constructor keeps from being negative. -/
structure TokenUsage where
  inputTokens : Nat
  outputTokens : Nat
  costMicros : Nat
  deriving DecidableEq

/-- `ProviderToolCall`. -/
structure ProviderToolCall where
  name : Points
  arguments : Points
  callId : Points
  deriving DecidableEq

/-- `ProviderResponse`; nothing here reads its model. -/
structure ProviderResponse where
  content : Points
  toolCalls : List ProviderToolCall
  finishReason : Points
  usage : TokenUsage
  providerReceiptId : Points
  deriving DecidableEq

/-- `ModelAction`. -/
structure ModelAction (F : Type) where
  payload : Fields F
  callId : Option Points

/-- `NormalizedTurn`; its text is the content of the response. -/
structure NormalizedTurn (F : Type) where
  actions : List (ModelAction F)
  assistantText : Points
  declaredComplete : Bool

/-- A `NormalizationError` with its message, or an exception of the decoder that nothing catches. -/
inductive NormalizationFailure where
  | normalization (message : String)
  | uncaught (error : DecodeError)
  deriving DecidableEq

section Normalizer

variable {F : Type} (decoder : Decoder F)

/-- `payload.get(key)`. -/
def getField (fields : Fields F) (key : Points) : Option (Document F) :=
  (fields.find? (·.1 = key)).map Prod.snd

/-- `payload.get("completed") is True`. -/
def isCompletion (fields : Fields F) : Bool :=
  match getField fields (points "completed") with
  | some (.bool true) => true
  | _ => false

/-- `isinstance(payload.get("tool"), str)`. -/
def isToolAction (fields : Fields F) : Bool :=
  match getField fields (points "tool") with
  | some (.str _) => true
  | _ => false

/-- `_parse_object` of the normaliser. -/
def parseStructured (content : Points) : Except NormalizationFailure (Fields F) :=
  match loads decoder content with
  | .ok (.obj fields) => .ok fields
  | .ok _ => .error (.normalization "structured response must be a JSON object")
  | .error (.mistake _) | .error (.duplicateKey _) | .error (.constant _) =>
    .error (.normalization "structured response JSON is invalid")
  | .error error => .error (.uncaught error)

/-- `_parse_marked`. -/
def parseMarked (content : Points) : Except NormalizationFailure (List (Fields F)) :=
  match parseActionStream decoder content with
  | .ok payloads => .ok payloads
  | .error (.uncaught error) => .error (.uncaught error)
  | .error _ => .error (.normalization "marked action stream is invalid")

/-- The payload of a native call: its arguments, with the name of the tool. -/
def nativePayload (name : Points) (payload : Fields F) : Except NormalizationFailure (Fields F) :=
  match getField payload (points "tool") with
  | none => .ok ((points "tool", .str name) :: payload)
  | some (.str tool) =>
    if tool = name then .ok payload
    else .error (.normalization "provider tool name does not match action payload")
  | some _ => .error (.normalization "provider tool name does not match action payload")

/-- The action of a native call. -/
def nativeAction (call : ProviderToolCall) : Except NormalizationFailure (ModelAction F) := do
  let payload ← parseStructured decoder call.arguments
  let payload ← nativePayload call.name payload
  return ⟨payload, if call.callId = [] then none else some call.callId⟩

/-- The objects of a content that are no native calls: the actions among them, and whether one of
them is a completion. -/
def classify (mistake : String) :
    List (Fields F) → Except NormalizationFailure (List (ModelAction F) × Bool)
  | [] => .ok ([], false)
  | payload :: payloads =>
    if isCompletion payload then do
      let (actions, _) ← classify mistake payloads
      return (actions, true)
    else if isToolAction payload then do
      let (actions, completed) ← classify mistake payloads
      return (⟨payload, none⟩ :: actions, completed)
    else .error (.normalization mistake)

/-- `"[cm:action]" in content or "[cm:/action]" in content`. -/
def mentionsMarker (content : Points) : Bool :=
  decide (startMarker <:+: content) || decide (endMarker <:+: content)

/-- `normalize_response`. -/
def normalizeResponse (response : ProviderResponse) :
    Except NormalizationFailure (NormalizedTurn F) :=
  if response.toolCalls ≠ [] then do
    let actions ← response.toolCalls.mapM (nativeAction decoder)
    return ⟨actions, response.content, false⟩
  else if mentionsMarker response.content then do
    let payloads ← parseMarked decoder response.content
    let (actions, completed) ←
      classify "marked segment is not a tool action or completion" payloads
    return ⟨actions, response.content, completed⟩
  else if (response.content.dropWhile isSpacePoint).head? = some Point.openBrace then do
    let payload ← parseStructured decoder response.content
    let (actions, completed) ←
      classify "JSON response is not a tool action or completion" [payload]
    return ⟨actions, response.content, completed⟩
  else .ok ⟨[], response.content, false⟩

end Normalizer

end CodeMigrator
