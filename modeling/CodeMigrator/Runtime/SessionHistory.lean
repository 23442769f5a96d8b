import CodeMigrator.Lib.Sequence
import CodeMigrator.Runtime.LoopDiscipline

/-!
# The history of a session

What the log of a session tells of its rounds. Every request to the provider holds the messages of
the prompt and, for each response before it, the message of the assistant with the answers to its
calls; every receipt that is handed to the wallet is one of a later round than the receipt before.
-/

namespace CodeMigrator
open Lib Lib.Process

/-! ## Messages of a round -/

/-- The ids that a message lists. -/
def PromptMessage.listedIds (message : PromptMessage) : List Points :=
  message.nativeToolCalls.map (·.callId)

/-- The call that a message answers. -/
def PromptMessage.answeredId (message : PromptMessage) : Option Points :=
  if message.role = .tool then message.toolCallId else none

/-- The calls that messages answer. -/
def answeredIds (messages : List PromptMessage) : List Points :=
  messages.filterMap PromptMessage.answeredId

/-- A message that is none of the assistant's and lists no call. -/
def PromptMessage.IsReply (message : PromptMessage) : Prop :=
  message.role ≠ .assistant ∧ message.nativeToolCalls = []

/-- The ids of the native calls of a response. -/
def ProviderResponse.callIds (response : ProviderResponse) : List Points :=
  response.toolCalls.map (·.callId)

namespace AgentLoop

variable {ω F ρ α : Type}

/-- The message of the assistant for a response, if it has one. -/
def assistantMessages (spec : SessionSpec) (roundIndex : Nat) (response : ProviderResponse) :
    List PromptMessage :=
  if response.content = [] ∧ response.toolCalls = [] then []
  else [⟨.assistant, response.content, none, none,
    nativeToolCalls (roundCallId spec.identity roundIndex) response.toolCalls⟩]

/-- What a round adds to the messages: the message of the assistant, and replies that answer the
calls with an id. -/
structure IsExchange (spec : SessionSpec) (response : ProviderResponse)
    (segment : List PromptMessage) : Prop where
  exchange : ∃ roundIndex replies, segment = assistantMessages spec roundIndex response ++ replies ∧
    (∀ message ∈ replies, message.IsReply) ∧ answeredIds replies = response.callIds.filter (· ≠ [])

/-! ## Logs -/

variable {spec : SessionSpec} {initial : List PromptMessage} {log : List (LoopEvent F)}
  {event : LoopEvent F}

/-- The responses of a log. -/
def responsesIn (log : List (LoopEvent F)) : List ProviderResponse :=
  log.filterMap fun event =>
    match event with
    | .responded response => some response
    | _ => none

/-- The receipts of a log. -/
def receiptsIn (log : List (LoopEvent F)) : List UsageReceipt :=
  log.filterMap fun event =>
    match event with
    | .recorded receipt => some receipt
    | _ => none

/-- Messages that hold the prompt and one exchange for each response. -/
def Exchanged (spec : SessionSpec) (initial : List PromptMessage) (responses : List ProviderResponse)
    (messages : List PromptMessage) : Prop :=
  ∃ segments : List (List PromptMessage), messages = initial ++ segments.flatten ∧
    List.Forall₂ (IsExchange spec) responses segments

/-- Every request holds the exchanges of the responses before it. -/
def RequestsTold (spec : SessionSpec) (initial : List PromptMessage) (log : List (LoopEvent F)) :
    Prop :=
  ∀ earlier messages later, log = earlier ++ .called messages :: later →
    Exchanged spec initial (responsesIn earlier) messages

/-- The receipts are those of responses in ascending rounds, before a bound. -/
def ReceiptsTold (spec : SessionSpec) (bound : Nat) (log : List (LoopEvent F)) : Prop :=
  ∃ rounds : List (Nat × ProviderResponse),
    receiptsIn log = rounds.map (fun round => usageReceipt spec round.1 round.2) ∧
      rounds.Pairwise (fun earlier later => earlier.1 < later.1) ∧ ∀ round ∈ rounds, round.1 < bound

/-- An event beside the rounds. -/
def isAside : LoopEvent F → Bool
  | .called _ | .responded _ | .recorded _ => false
  | _ => true

theorem responsesIn_append (log : List (LoopEvent F)) (event : LoopEvent F)
    (aside : isAside event = true) : responsesIn (log ++ [event]) = responsesIn log := by
  cases event <;> first | (simp [responsesIn]; done) | cases aside

theorem receiptsIn_append (log : List (LoopEvent F)) (event : LoopEvent F)
    (other : ∀ receipt, event ≠ .recorded receipt) : receiptsIn (log ++ [event]) = receiptsIn log := by
  cases event
  case recorded receipt => exact absurd rfl (other receipt)
  all_goals simp [receiptsIn]

theorem RequestsTold.append (told : RequestsTold spec initial log)
    (fits : ∀ messages, event = .called messages →
      Exchanged spec initial (responsesIn log) messages) :
    RequestsTold spec initial (log ++ [event]) := by
  intro earlier messages later split
  rcases List.eq_nil_or_concat later with rfl | ⟨before, last, rfl⟩
  · obtain ⟨same, last⟩ := List.append_inj' split rfl
    rw [← same]
    exact fits messages (List.singleton_inj.mp last)
  · have shape : log ++ [event] = (earlier ++ .called messages :: before) ++ [last] := by
      rw [split]
      simp
    exact told earlier messages before (List.append_inj' shape rfl).1

theorem ReceiptsTold.weaken {bound wider : Nat} (told : ReceiptsTold spec bound log)
    (within : bound ≤ wider) : ReceiptsTold spec wider log := by
  obtain ⟨rounds, receipts, ascending, below⟩ := told
  exact ⟨rounds, receipts, ascending, fun round member => Nat.lt_of_lt_of_le (below round member) within⟩

theorem ReceiptsTold.record {bound : Nat} (told : ReceiptsTold spec bound log)
    (response : ProviderResponse) :
    ReceiptsTold spec (bound + 1) (log ++ [.recorded (usageReceipt spec bound response)]) := by
  obtain ⟨rounds, receipts, ascending, below⟩ := told
  refine ⟨rounds ++ [(bound, response)], ?_, ?_, ?_⟩
  · rw [List.map_append, ← receipts]
    simp [receiptsIn]
  · rw [List.pairwise_append]
    refine ⟨ascending, List.pairwise_singleton _ _, ?_⟩
    intro earlier isEarlier later isLater
    rw [List.mem_singleton.mp isLater]
    exact below earlier isEarlier
  · intro round member
    rcases List.mem_append.mp member with old | new
    · exact Nat.lt_succ_of_lt (below round old)
    · rw [List.mem_singleton.mp new]
      exact Nat.lt_succ_self bound

/-! ## What a round adds -/

/-- The log tells of these responses, and of receipts before a bound. -/
structure Told (spec : SessionSpec) (initial : List PromptMessage) (responses : List ProviderResponse)
    (bound : Nat) (world : LoopWorld ω F) : Prop where
  requests : RequestsTold spec initial world.log
  responses : responsesIn world.log = responses
  receipts : ReceiptsTold spec bound world.log

variable {responses : List ProviderResponse} {bound : Nat} {world : LoopWorld ω F}

theorem Told.append (told : Told spec initial responses bound world) (env : ω) (token : Bool)
    (aside : isAside event = true) :
    Told spec initial responses bound ⟨env, token, world.log ++ [event]⟩ := by
  refine ⟨told.requests.append ?_, ?_, ?_⟩
  · rintro messages rfl
    cases aside
  · rw [responsesIn_append _ _ aside]
    exact told.responses
  · obtain ⟨rounds, receipts, rest⟩ := told.receipts
    refine ⟨rounds, ?_, rest⟩
    rw [receiptsIn_append _ _ (by rintro receipt rfl; cases aside)]
    exact receipts

theorem Told.beside {events : List (LoopEvent F)} (told : Told spec initial responses bound world)
    (env : ω) (token : Bool) (aside : ∀ event ∈ events, isAside event = true) :
    Told spec initial responses bound ⟨env, token, world.log ++ events⟩ := by
  induction events generalizing world with
  | nil =>
    rw [List.append_nil]
    exact ⟨told.requests, told.responses, told.receipts⟩
  | cons event events ih =>
    rw [List.append_cons]
    exact ih (told.append env token (aside event List.mem_cons_self))
      fun event member => aside event (List.mem_cons_of_mem _ member)

theorem keeps_told {check : LoopCheck} (port : TokenPort ω α) :
    Keeps (Told spec initial responses bound) (handed check port : Loop ω F α) := by
  intro world told
  have left : ∀ (env : ω) (token out : Bool), Told spec initial responses bound
      ⟨env, token, world.log ++ if out then [LoopEvent.withdrawn check] else []⟩ := by
    intro env token out
    refine told.beside env token ?_
    cases out <;> simp [isAside]
  exact after_handed (fun _ env token => ⟨left env _ token, trivial⟩) (fun _ env token => left env _ _)
    fun env token => left env _ token

theorem Told.watched {ports : LoopPorts ω F ρ} {check : LoopCheck}
    (told : Told spec initial responses bound world) :
    Told spec initial responses bound (watch ports check world) := by
  unfold watch
  cases ports.gate with
  | none => exact told
  | some gate =>
    refine told.beside _ _ fun event member => ?_
    obtain ⟨_, _, rfl⟩ := List.mem_map.mp member
    rfl

/-- The calls of the environment add nothing to what is told. -/
theorem toldInvariant (ports : LoopPorts ω F ρ) (spec : SessionSpec) (initial : List PromptMessage)
    (responses : List ProviderResponse) (bound : Nat) :
    LoopInvariant ports (Told spec initial responses bound : LoopWorld ω F → Prop) where
  token := fun _ _ told => ⟨told.requests, told.responses, told.receipts⟩
  allowed := by
    intro check
    unfold allowed
    cases ports.gate with
    | none => exact keeps_pure true
    | some gate =>
      refine (keeps_told _).bind fun answer => Keeps.bind ?_ fun _ => keeps_pure answer
      exact keeps_change fun world told => told.append world.env world.token rfl
  notified := by
    intro check
    unfold notifyCancel
    cases ports.gate with
    | none => exact keeps_pure ()
    | some gate => exact keeps_told _
  dispatched := fun _ world told =>
    ((keeps_told _).ensuring fun _ => Told.watched).throughout (told.append world.env world.token rfl)
  awaited := keeps_told _
  admitted := by
    unfold admitted
    cases ports.budget with
    | none => exact keeps_pure true
    | some budget => exact keeps_told _
  decided := by
    intro observations world told
    unfold precheck
    cases ports.checkpoint with
    | none => exact told.append world.env world.token rfl
    | some checkpoint =>
      refine ((keeps_told _).tried.throughout told).weaken ⟨?_, fun _ _ => id, fun _ => id⟩
      intro outcome left told
      cases outcome with
      | error error => exact told
      | ok decision => exact told.append left.env left.token rfl

/-- A part of a round returns only values with a property. -/
def Returns (part : Loop ω F α) (P : α → Prop) : Prop :=
  ∀ world, part.After ⟨fun value _ => P value, fun _ _ => True, fun _ => True⟩ world

theorem returns_any (part : Loop ω F α) : Returns part fun _ => True :=
  fun _ => .of_forall (fun _ _ => trivial) (fun _ _ => trivial) fun _ => trivial

theorem Returns.bind {β : Type} {part : Loop ω F α} {next : α → Loop ω F β} {P : α → Prop}
    {Q : β → Prop} (first : Returns part P) (after : ∀ value, P value → Returns (next value) Q) :
    Returns (part >>= next) Q :=
  fun world => (first world).next fun value reached holds => after value holds reached

theorem returns_ofExcept (outcome : Except LoopError α) :
    Returns (.ofExcept outcome : Loop ω F α) fun value => outcome = .ok value := by
  intro world
  rw [after_ofExcept]
  cases outcome with
  | ok value => rfl
  | error error => trivial

section Rounds

variable {ports : LoopPorts ω F ρ} {locals : LoopState F ρ} {segmentIndex roundIndex : Nat}
  {outcome : Except LoopError ρ} {response : ProviderResponse} {decoder : Decoder F}
  {actions : List (ModelAction F)}

/-- What a part of a round adds to the messages when the loop goes on. -/
def Adds (locals : LoopState F ρ) (P : List PromptMessage → Prop) (turn : LoopTurn F ρ) : Prop :=
  match turn with
  | .ended _ => True
  | .goes after => ∃ added, after.messages = locals.messages ++ added ∧ P added

/-- Replies that answer the calls with these ids. -/
def Answers (ids : List Points) (added : List PromptMessage) : Prop :=
  (∀ message ∈ added, message.IsReply) ∧ answeredIds added = ids

theorem Answers.append {ids others : List Points} {added more : List PromptMessage}
    (first : Answers ids added) (second : Answers others more) :
    Answers (ids ++ others) (added ++ more) := by
  constructor
  · intro message member
    rcases List.mem_append.mp member with old | new
    · exact first.1 message old
    · exact second.1 message new
  · rw [answeredIds, List.filterMap_append]
    exact congrArg₂ _ first.2 second.2

theorem observationMessage_answers {callId : Option Points} {action : Fields F}
    {message : PromptMessage}
    (made : observationMessage ports segmentIndex callId action outcome = .ok message) :
    Answers callId.toList [message] := by
  unfold observationMessage at made
  obtain ⟨value, -, made⟩ := except_bind_eq_ok made
  cases callId with
  | none =>
    rw [← Except.ok.inj made]
    simp [Answers, PromptMessage.IsReply, PromptMessage.plain, answeredIds, PromptMessage.answeredId]
  | some id =>
    rw [← Except.ok.inj made]
    simp [Answers, PromptMessage.IsReply, answeredIds, PromptMessage.answeredId]

theorem finishStep_adds {action : ModelAction F} :
    Returns (finishStep ports spec roundIndex segmentIndex action outcome locals)
      (Adds locals (Answers action.callId.toList)) := by
  unfold finishStep
  split
  · exact fun _ => trivial
  · refine (returns_any _).bind fun stop _ => ?_
    cases stop with
    | true => exact fun _ => trivial
    | false =>
      refine (returns_ofExcept _).bind fun message made => ?_
      exact fun _ => ⟨[message], rfl, observationMessage_answers made⟩

theorem runActions_adds {todo : List (ModelAction F)} :
    Returns (runActions ports spec roundIndex segmentIndex todo locals)
      (Adds locals (Answers (todo.filterMap (·.callId)))) := by
  induction todo generalizing segmentIndex locals with
  | nil => exact fun _ => ⟨[], by simp, by simp [Answers, answeredIds]⟩
  | cons action todo ih =>
    refine (returns_any _).bind fun stop _ => ?_
    cases stop with
    | true => exact fun _ => trivial
    | false =>
      refine (returns_any _).bind fun outcome _ => finishStep_adds.bind fun turn adds => ?_
      cases turn with
      | ended result => exact fun _ => trivial
      | goes middle =>
        obtain ⟨added, messages, answers⟩ := adds
        intro world
        refine (ih world).weaken ⟨?_, fun _ _ => id, fun _ => id⟩
        intro turn _ adds
        cases turn with
        | ended result => trivial
        | goes last =>
          obtain ⟨more, further, others⟩ := adds
          refine ⟨added ++ more, by rw [further, messages, List.append_assoc], ?_⟩
          have both := answers.append others
          cases id : action.callId <;> simpa [id] using both

theorem concluded_adds {decision : CheckpointDecision} :
    Adds locals (Answers []) (concluded ports spec roundIndex decision locals) := by
  unfold concluded
  split
  · trivial
  · split
    · trivial
    · split
      · trivial
      · refine ⟨[rejectionMessage decision], rfl, ?_⟩
        simp [Answers, PromptMessage.IsReply, rejectionMessage, PromptMessage.plain,
          answeredIds, PromptMessage.answeredId]

theorem finishRound_adds {turn : NormalizedTurn F} :
    Returns (finishRound ports spec roundIndex response turn locals) (Adds locals (Answers [])) := by
  unfold finishRound
  split
  · refine (returns_any _).bind fun stop _ => ?_
    cases stop with
    | true => exact fun _ => trivial
    | false =>
      refine (returns_any _).bind fun outcome _ => ?_
      cases outcome with
      | error error => exact fun _ => trivial
      | ok decision => exact fun _ => concluded_adds
  · split
    · exact fun _ => trivial
    · exact fun _ => ⟨[], by simp, by simp [Answers, answeredIds]⟩

/-! ## Rounds and sessions -/

theorem nativeAction_callId {call : ProviderToolCall} {action : ModelAction F}
    (made : nativeAction decoder call = .ok action) :
    action.callId = if call.callId = [] then none else some call.callId := by
  unfold nativeAction at made
  obtain ⟨payload, -, made⟩ := except_bind_eq_ok made
  obtain ⟨named, -, made⟩ := except_bind_eq_ok made
  rw [← Except.ok.inj made]

theorem nativeActions_callIds {calls : List ProviderToolCall}
    (made : List.Forall₂ (fun call action => nativeAction decoder call = .ok action) calls actions) :
    actions.filterMap (·.callId) = (calls.map (·.callId)).filter (· ≠ []) := by
  induction made with
  | nil => rfl
  | @cons call action calls actions first _ ih =>
    rw [List.filterMap_cons, List.map_cons, List.filter_cons, nativeAction_callId first, ih]
    by_cases none : call.callId = [] <;> simp [none]

theorem classify_callIds {mistake : String} {payloads : List (Fields F)} {completed : Bool}
    (classified : classify mistake payloads = .ok (actions, completed)) :
    actions.filterMap (·.callId) = [] := by
  induction payloads generalizing actions completed with
  | nil =>
    obtain ⟨rfl, -⟩ := Prod.mk.inj (Except.ok.inj classified)
    rfl
  | cons payload payloads ih =>
    rw [classify] at classified
    split at classified
    · obtain ⟨⟨others, more⟩, rest, classified⟩ := except_bind_eq_ok classified
      obtain ⟨rfl, -⟩ := Prod.mk.inj (Except.ok.inj classified)
      exact ih rest
    · split at classified
      · obtain ⟨⟨others, more⟩, rest, classified⟩ := except_bind_eq_ok classified
        obtain ⟨rfl, -⟩ := Prod.mk.inj (Except.ok.inj classified)
        simpa using ih rest
      · cases classified

theorem normalizeResponse_callIds {turn : NormalizedTurn F}
    (normalized : normalizeResponse decoder response = .ok turn) :
    turn.actions.filterMap (·.callId) = response.callIds.filter (· ≠ []) := by
  unfold normalizeResponse at normalized
  split at normalized
  · obtain ⟨actions, made, same⟩ := except_bind_eq_ok normalized
    obtain rfl := Except.ok.inj same
    exact nativeActions_callIds ((mapM_eq_ok_iff _ _ _).mp made)
  · next none =>
    have noCalls : response.callIds = [] := by
      rw [ProviderResponse.callIds, not_not.mp none]
      rfl
    rw [noCalls]
    split at normalized
    · obtain ⟨payloads, -, normalized⟩ := except_bind_eq_ok normalized
      obtain ⟨⟨actions, completed⟩, classified, normalized⟩ := except_bind_eq_ok normalized
      rw [← Except.ok.inj normalized]
      exact classify_callIds classified
    · split at normalized
      · obtain ⟨payload, -, normalized⟩ := except_bind_eq_ok normalized
        obtain ⟨⟨actions, completed⟩, classified, normalized⟩ := except_bind_eq_ok normalized
        rw [← Except.ok.inj normalized]
        exact classify_callIds classified
      · rw [← Except.ok.inj normalized]
        rfl

theorem Told.weaken {wider : Nat} (told : Told spec initial responses bound world)
    (within : bound ≤ wider) : Told spec initial responses wider world :=
  ⟨told.requests, told.responses, told.receipts.weaken within⟩

theorem record_told (told : Told spec initial responses bound world) :
    (record ports (usageReceipt spec bound response)).After
      (keptEnds (Told spec initial responses (bound + 1))
        fun _ => Told spec initial responses (bound + 1)) world := by
  have later : ∀ left : LoopWorld ω F, Told spec initial responses bound left →
      Told spec initial responses (bound + 1) left := fun _ told => told.weaken (Nat.le_succ bound)
  have recorded : ∀ before : LoopWorld ω F, Told spec initial responses bound before →
      (record { ports with usageSink := none } (usageReceipt spec bound response)).After
        (keptEnds (Told spec initial responses (bound + 1))
          fun _ => Told spec initial responses (bound + 1)) before := by
    intro before told
    unfold record
    cases ports.budget with
    | none => exact later before told
    | some budget =>
      have noted : Told spec initial responses (bound + 1)
          { before with log := before.log ++ [.recorded (usageReceipt spec bound response)] } := by
        refine ⟨told.requests.append ?_, ?_, told.receipts.record response⟩
        · intro messages other
          cases other
        · rw [← told.responses]
          simp [responsesIn]
      change (note _ >>= _ : Loop ω F Bool).After _ _
      unfold note
      rw [after_bind, after_change]
      exact (keeps_told _).throughout noted
  unfold record
  cases ports.usageSink with
  | none => exact recorded world told
  | some sink =>
    rw [after_bind]
    exact ((keeps_told _).throughout told).weaken ⟨fun _ => recorded, fun _ => later, later⟩

theorem withResponse_messages (roundIndex : Nat) (response : ProviderResponse) :
    (withResponse spec roundIndex response locals).messages =
      locals.messages ++ assistantMessages spec roundIndex response := by
  unfold withResponse assistantMessages
  split <;> simp

theorem handleResponse_adds :
    Returns (handleResponse ports spec decoder roundIndex response locals)
      (Adds locals (IsExchange spec response)) := by
  refine (returns_any _).bind fun stop _ => ?_
  cases stop with
  | true => exact fun _ => trivial
  | false =>
    refine (returns_any _).bind fun admitted _ => ?_
    cases admitted with
    | false => exact fun _ => trivial
    | true =>
      rw [if_pos rfl]
      cases normalized : normalizeResponse decoder response with
      | error failure => cases failure <;> exact fun _ => trivial
      | ok turn =>
        refine (returns_any _).bind fun stop _ => ?_
        cases stop with
        | true => exact fun _ => trivial
        | false =>
          refine runActions_adds.bind fun ran adds => ?_
          cases ran with
          | ended result => exact fun _ => trivial
          | goes middle =>
            obtain ⟨added, messages, answers⟩ := adds
            intro world
            refine (finishRound_adds world).weaken ⟨?_, fun _ _ => id, fun _ => id⟩
            intro turn _ finished
            cases turn with
            | ended result => trivial
            | goes last =>
              obtain ⟨more, further, others⟩ := finished
              have both := answers.append others
              rw [normalizeResponse_callIds normalized, List.append_nil] at both
              refine ⟨assistantMessages spec roundIndex response ++ (added ++ more), ?_,
                roundIndex, added ++ more, rfl, both.1, both.2⟩
              rw [further, messages, withResponse_messages]
              simp

theorem handleResponse_told (told : Told spec initial responses bound world) :
    (handleResponse ports spec decoder bound response locals).After
      (.keeping (Told spec initial responses (bound + 1))
        fun turn _ => Adds locals (IsExchange spec response) turn) world := by
  have kept : (handleResponse ports spec decoder bound response locals).After
      (.keeping (Told spec initial responses (bound + 1)) fun _ _ => True) world := by
    apply (toldInvariant ports spec initial responses (bound + 1)).after_handleResponse
    have later : ∀ left : LoopWorld ω F, Told spec initial responses bound left →
        Told spec initial responses (bound + 1) left := fun _ told => told.weaken (Nat.le_succ bound)
    refine ((toldInvariant ports spec initial responses bound).keeps_stopped.throughout told).weaken
      ⟨?_, fun _ => later, later⟩
    intro stop after told
    cases stop with
    | true => exact later after told
    | false => exact record_told told
  exact (kept.and (handleResponse_adds world)).weaken
    ⟨fun _ _ both => ⟨both.1.1, both.2⟩, fun _ _ both => both.1, fun _ both => both.1⟩

/-- The log tells of some responses, and of receipts before a bound. -/
def RoundsTold (spec : SessionSpec) (initial : List PromptMessage) (bound : Nat)
    (world : LoopWorld ω F) : Prop :=
  ∃ responses, Told spec initial responses bound world

/-- The loop that goes on holds the exchanges of the responses in the log. -/
def GoesOn (spec : SessionSpec) (initial : List PromptMessage) (turn : LoopTurn F ρ)
    (world : LoopWorld ω F) : Prop :=
  match turn with
  | .ended _ => True
  | .goes locals => Exchanged spec initial (responsesIn world.log) locals.messages

theorem Exchanged.append {messages segment : List PromptMessage} {response : ProviderResponse}
    (exchanged : Exchanged spec initial responses messages)
    (exchange : IsExchange spec response segment) :
    Exchanged spec initial (responses ++ [response]) (messages ++ segment) := by
  obtain ⟨segments, rfl, related⟩ := exchanged
  refine ⟨segments ++ [segment], by simp, ?_⟩
  exact List.rel_append related (.cons exchange .nil)

theorem agentRound_told (told : Told spec initial responses bound world)
    (exchanged : Exchanged spec initial responses locals.messages) :
    (agentRound ports spec decoder bound locals).After
      (.keeping (RoundsTold spec initial (bound + 1)) (GoesOn spec initial)) world := by
  have invariant := @toldInvariant ω F ρ ports spec initial responses bound
  have later : ∀ left : LoopWorld ω F, Told spec initial responses bound left →
      RoundsTold spec initial (bound + 1) left := fun _ told => ⟨_, told.weaken (Nat.le_succ bound)⟩
  -- a part of the round before its response
  have before : ∀ {β : Type} {done : β → LoopWorld ω F → Prop} {part : Loop ω F β}
      {next : β → Loop ω F (LoopTurn F ρ)} {left : LoopWorld ω F},
      part.After (.keeping (Told spec initial responses bound) done) left →
      (∀ value after, Told spec initial responses bound after → (next value).After
        (.keeping (RoundsTold spec initial (bound + 1)) (GoesOn spec initial)) after) →
      (part >>= next).After
        (.keeping (RoundsTold spec initial (bound + 1)) (GoesOn spec initial)) left := by
    intro β done part next left first rest
    rw [after_bind]
    exact first.weaken ⟨fun value after both => rest value after both.1, fun _ => later, later⟩
  refine before (invariant.allowed _ world told) fun answer after told => ?_
  cases answer with
  | false => exact ⟨later after told, trivial⟩
  | true =>
    refine before (invariant.admitted after told) fun admitted left told => ?_
    cases admitted with
    | false => exact ⟨later left told, trivial⟩
    | true =>
      refine before (keeps_ofExcept _ left told) fun overflow left told => ?_
      cases overflow with
      | true => exact ⟨later left told, trivial⟩
      | false =>
        refine before (keeps_change (fun world => invariant.token world false) left told)
          fun _ left told => ?_
        have provided : (providerCall ports locals.messages).After
            (.keeping (Told spec initial responses bound) fun _ _ => True) left := by
          have called : Told spec initial responses bound
              { left with log := left.log ++ [.called locals.messages] } := by
            refine ⟨told.requests.append ?_, ?_, ?_⟩
            · intro messages same
              obtain rfl := LoopEvent.called.inj same
              rw [told.responses]
              exact exchanged
            · rw [← told.responses]
              simp [responsesIn]
            · obtain ⟨rounds, receipts, rest⟩ := told.receipts
              exact ⟨rounds, by rw [receiptsIn_append _ _ (by simp)]; exact receipts, rest⟩
          unfold providerCall note
          rw [after_bind, after_change]
          refine keeping_bind ((keeps_told _).ensuring (fun _ => Told.watched) _ called) ?_
          intro response after held _
          exact (keeps_raiseIfCancelled.bind fun _ => invariant.keeps_confirm.bind fun _ =>
            keeps_pure response) after held
        change (tried _ >>= _ : Loop ω F (LoopTurn F ρ)).After _ _
        rw [after_bind, after_tried]
        refine provided.weaken ⟨?_, fun _ reached told => ⟨later reached told, trivial⟩, later⟩
        rintro response reached ⟨told, -⟩
        have responded : Told spec initial (responses ++ [response]) bound
            { reached with log := reached.log ++ [.responded response] } := by
          refine ⟨told.requests.append nofun, ?_, ?_⟩
          · rw [← told.responses]
            simp [responsesIn]
          · obtain ⟨rounds, receipts, rest⟩ := told.receipts
            exact ⟨rounds, by rw [receiptsIn_append _ _ (by simp)]; exact receipts, rest⟩
        refine (handleResponse_told responded).weaken ⟨?_, fun _ _ told => ⟨_, told⟩, fun _ told => ⟨_, told⟩⟩
        rintro turn final ⟨told, adds⟩
        refine ⟨⟨_, told⟩, ?_⟩
        cases turn with
        | ended result => trivial
        | goes last =>
          obtain ⟨segment, messages, exchange⟩ := adds
          rw [GoesOn, told.responses, messages]
          exact exchanged.append exchange

theorem runRounds_told {left : Nat} (told : RoundsTold spec initial bound world)
    (exchanged : Exchanged spec initial (responsesIn world.log) locals.messages) :
    (runRounds ports spec decoder left bound locals).After
      (.keeping (RoundsTold spec initial (bound + left)) fun _ _ => True) world := by
  induction left generalizing bound locals world with
  | zero => exact ⟨told, trivial⟩
  | succ left ih =>
    have wider : bound + (left + 1) = bound + 1 + left := by omega
    have later : ∀ after : LoopWorld ω F, RoundsTold spec initial (bound + 1) after →
        RoundsTold spec initial (bound + 1 + left) after := by
      rintro after ⟨responses, told⟩
      exact ⟨responses, told.weaken (Nat.le_add_right _ _)⟩
    obtain ⟨responses, told⟩ := told
    rw [told.responses] at exchanged
    unfold runRounds
    rw [after_bind, wider]
    refine (agentRound_told told exchanged).weaken ⟨?_, fun _ => later, later⟩
    rintro turn after ⟨told, goesOn⟩
    cases turn with
    | ended result => exact ⟨later after told, trivial⟩
    | goes locals => exact ih told goesOn

end Rounds

theorem renderPrompt_isReply {template : Points} {envelope : ContextEnvelope}
    {messages : List PromptMessage} (rendered : renderPrompt template envelope = .ok messages) :
    ∀ message ∈ messages, message.IsReply := by
  unfold renderPrompt at rendered
  split at rendered
  · cases rendered
  · rw [← Except.ok.inj rendered]
    intro message member
    simp only [List.mem_cons, List.mem_append, List.mem_map] at member
    rcases member with rfl | (⟨_, _, rfl⟩ | ⟨_, _, rfl⟩) | ⟨_, _, rfl⟩ <;>
      simp [PromptMessage.IsReply, PromptMessage.plain, segmentMessage]

/-- The log of a session tells of its rounds, which begin with messages that list no call. -/
def SessionTold (spec : SessionSpec) (world : LoopWorld ω F) : Prop :=
  ∃ initial responses, (∀ message ∈ initial, message.IsReply) ∧
    Told spec initial responses (spec.maxRounds + 1) world

theorem session_told (ports : LoopPorts ω F ρ) (spec : SessionSpec) (decoder : Decoder F) (env : ω) :
    SessionTold spec (run ports spec decoder ⟨env, false, []⟩).2 := by
  have start : ∀ initial bound, Told spec initial [] bound (⟨env, false, []⟩ : LoopWorld ω F) :=
    fun initial bound => ⟨by simp [RequestsTold], rfl, [], rfl, .nil, by simp⟩
  have nothing : SessionTold spec (⟨env, false, []⟩ : LoopWorld ω F) := ⟨[], [], by simp, start [] _⟩
  have told : (run ports spec decoder).After (.keeping (SessionTold spec) fun _ _ => True)
      ⟨env, false, []⟩ := by
    unfold run
    rw [after_bind, after_ofExcept]
    split
    · dsimp only
      rw [after_bind, after_ofExcept]
      split
      · next messages rendered =>
        have plain : ∀ message ∈ messages, message.IsReply := by
          have made : renderPrompt spec.template spec.context = .ok messages := by
            unfold raisedAs at rendered
            split at rendered
            · next made => rw [made, Except.ok.inj rendered]
            · cases rendered
          exact renderPrompt_isReply made
        have later : ∀ after : LoopWorld ω F, RoundsTold spec messages (1 + spec.maxRounds) after →
            SessionTold spec after := by
          rintro after ⟨responses, told⟩
          exact ⟨messages, responses, plain, by rw [Nat.add_comm]; exact told⟩
        dsimp only
        rw [after_bind, after_ofExcept]
        split
        · exact (runRounds_told ⟨[], start messages 1⟩ ⟨[], by simp, .nil⟩).weaken
            ⟨fun _ after both => ⟨later after both.1, trivial⟩, fun _ => later, later⟩
        · exact nothing
      · exact nothing
    · exact nothing
  exact told.kept

end AgentLoop

end CodeMigrator
