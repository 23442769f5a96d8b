import CodeMigrator.Runtime.LoopBooking
import CodeMigrator.Runtime.ProviderChatModel

/-!
# Paid model calls

Which responses of a provider are booked: in a session of the agent loop, in one of the supervisor and
in a call of the chat model. All three look for a cancellation between the response and the sink, and
the supervisor also refuses some responses there.
-/

namespace CodeMigrator
open Lib Lib.Process

/-! ## The supervisor -/

namespace SupervisorSession

variable {ω A E α : Type}

/-- The gate, if there is one, allows the session this many times in a row. -/
def gateAllows (gate : Option (SupervisorGate ω)) (times : Nat) (env : ω) : Bool :=
  match gate with
  | none => true
  | some port => allowsTimes port.allow times env

/-- The response has no native tool calls and an ordinary end. -/
def acceptable (response : ProviderResponse) : Bool :=
  response.toolCalls.isEmpty && endedNormally response

/-- After a response the watcher has not ended before the provider, the token is not cancelled, the
gate allows the session twice, and the response is acceptable. -/
def clearResponse (gate : Option (SupervisorGate ω)) (env : ω) (token : Bool)
    (response : ProviderResponse) : Bool :=
  match gate with
  | none => !token && acceptable response
  | some port =>
    !(port.watch env).1.ahead && (!(token || (port.watch env).1.cancelled) &&
      (allowsTimes port.allow 2 (port.watch env).2 && acceptable response))

/-- The gate with the books. -/
def auditedGate (gate : SupervisorGate ω) : SupervisorGate (Audited ω) where
  allow := audit gate.allow
  watch := fun world => ((gate.watch world.env).1, { world with env := (gate.watch world.env).2 })

/-- The ports with their books. -/
def audited (ports : SupervisorPorts ω A E) (sink : UsageReceipt → ω → ω) :
    SupervisorPorts (Audited ω) A E where
  provider := fun messages => auditProvider (clearResponse ports.gate) (ports.provider messages)
  newUuid7 := fun world =>
    ((ports.newUuid7 world.env).1, { world with env := (ports.newUuid7 world.env).2 })
  gate := ports.gate.map auditedGate
  budget := ports.budget.map fun budget =>
    { admits := audit budget.admits
      record := fun receipt => audit (budget.record receipt) }
  usageSink := some (auditSink (·.usage) sink)
  contextFits := ports.contextFits
  parseAdvice := ports.parseAdvice
  events := ports.events
  eventSink := ports.eventSink.map fun sink event => audit (sink event)
  adviceSink := ports.adviceSink.map fun sink advice => audit (sink advice)

/-- The books are sound. -/
def BooksSound (world : Audited ω × Bool) : Prop := world.1.books.Sound

section Frame

variable {ports : SupervisorPorts ω A E} {sink : UsageReceipt → ω → ω}

theorem keeps_asked (port : Lib.Process ω RaisedException α) : Keeps BooksSound (asked (audit port)) := by
  intro world holds
  unfold asked
  rw [after_within]
  unfold audit
  rw [after_within]
  exact After.of_forall (fun _ _ => ⟨holds, trivial⟩) (fun _ _ => holds) fun _ => holds

theorem keeps_allowed : Keeps BooksSound (allowed (audited ports sink)) := by
  unfold allowed audited
  cases ports.gate with
  | none => exact keeps_pure true
  | some gate => exact keeps_asked gate.allow

theorem keeps_admission (spec : SessionSpec) (context : ContextEnvelope) :
    Keeps BooksSound (admission (audited ports sink) spec context) := by
  unfold admission
  refine (keeps_ofExcept _).bind fun _ => (keeps_ofExcept _).bind fun _ => ?_
  refine keeps_allowed.bind fun answer => ?_
  cases answer with
  | false => exact keeps_pure _
  | true =>
    refine Keeps.bind ?_ fun open_ => ?_
    · unfold admitted audited
      cases ports.budget with
      | none => exact keeps_pure true
      | some budget => exact keeps_asked budget.admits
    · cases open_ with
      | false => exact keeps_pure _
      | true =>
        exact (keeps_ofExcept _).bind fun _ => (keeps_ofExcept _).bind fun _ => keeps_pure _

theorem keeps_appendEvents (inner : E → Lib.Process ω RaisedException Unit) (events : List E) :
    Keeps BooksSound (appendEvents (audited ports sink) (fun event => audit (inner event)) events) := by
  induction events with
  | nil => exact keeps_pure true
  | cons event events ih =>
    refine keeps_allowed.bind fun answer => ?_
    cases answer with
    | false => exact keeps_pure _
    | true => exact (keeps_asked _).bind fun _ => ih

theorem keeps_appendAll (advice : A) :
    Keeps BooksSound (appendAll (audited ports sink) advice) := by
  unfold appendAll
  cases found : (audited ports sink).eventSink with
  | none => exact keeps_pure true
  | some eventSink =>
    obtain ⟨inner, -, rfl⟩ := Option.map_eq_some_iff.mp found
    exact keeps_appendEvents inner _

theorem keeps_deliver (advice : A) : Keeps BooksSound (deliver (audited ports sink) advice) := by
  refine (keeps_appendAll advice).bind fun appended => ?_
  cases appended with
  | false => exact keeps_pure _
  | true =>
    cases found : (audited ports sink).adviceSink with
    | none => exact keeps_pure _
    | some adviceSink =>
      obtain ⟨inner, -, rfl⟩ := Option.map_eq_some_iff.mp found
      refine keeps_allowed.bind fun answer => ?_
      cases answer with
      | false => exact keeps_pure _
      | true => exact (keeps_asked _).bind fun _ => keeps_pure _

theorem keeps_recorded (receipt : UsageReceipt) :
    Keeps BooksSound (recorded (audited ports sink) receipt) := by
  unfold recorded audited
  cases ports.budget with
  | none => exact keeps_pure true
  | some budget => exact keeps_asked _

theorem keeps_delivered (advice : A) :
    Keeps BooksSound (delivered (audited ports sink) advice) := by
  refine keeps_allowed.bind fun answer => ?_
  cases answer with
  | false => exact keeps_pure _
  | true =>
    refine (keeps_deliver advice).tried.bind fun outcome => ?_
    cases outcome with
    | error error => exact keeps_pure _
    | ok delivered =>
      cases delivered with
      | false => exact keeps_pure _
      | true => exact keeps_pure _

end Frame

/-! ### From the response to the sink -/

/-- The ends of a part that leaves the books sound where it stops early. -/
def soundEnds (done : α → Audited ω × Bool → Prop) : Ends (Audited ω × Bool) RaisedException α :=
  ⟨done, fun _ => BooksSound, BooksSound⟩

/-- A response has just been entered, as clear or not. -/
def Entered (response : ProviderResponse) (clear : Bool) (world : Audited ω × Bool) : Prop :=
  ∃ books : Books, books.Sound ∧ world.1.books = books.push response clear

section Region

variable {ports : SupervisorPorts ω A E} {sink : UsageReceipt → ω → ω} {response : ProviderResponse}
  {world : Audited ω × Bool} {times : Nat} {good : Bool}

theorem Entered.stopped (entered : Entered response false world) : BooksSound world := by
  obtain ⟨books, sound, same⟩ := entered
  unfold BooksSound
  rw [same]
  exact sound.push_stopped

theorem gateAllows_zero (gate : Option (SupervisorGate ω)) (env : ω) :
    gateAllows gate 0 env = true := by
  cases gate with
  | none => rfl
  | some gate => rfl

theorem after_allowed_entered
    (entered : Entered response (gateAllows ports.gate (times + 1) world.1.env && good) world) :
    (allowed (audited ports sink)).After (soundEnds fun answer after =>
      after.2 = world.2 ∧
        if answer then Entered response (gateAllows ports.gate times after.1.env && good) after
        else BooksSound after) world := by
  unfold allowed audited
  cases found : ports.gate with
  | none =>
    rw [found] at entered
    exact ⟨rfl, entered⟩
  | some gate =>
    obtain ⟨books, sound, same⟩ := entered
    rw [found, gateAllows, allowsTimes] at same
    dsimp only [Option.map_some]
    unfold asked auditedGate audit
    rw [after_within, after_within]
    unfold After
    rcases ran : gate.allow world.1.env with ⟨(⟨error⟩ | _) | answer, env⟩
    all_goals rw [ran] at same
    · exact Entered.stopped ⟨books, sound, same⟩
    · exact Entered.stopped ⟨books, sound, same⟩
    · cases answer with
      | false => exact ⟨rfl, Entered.stopped ⟨books, sound, same⟩⟩
      | true => exact ⟨rfl, books, sound, same⟩

theorem after_provider (sound : BooksSound world) (token : world.2 = false)
    (messages : List PromptMessage) :
    ((audited ports sink).provider messages).After (soundEnds fun response after =>
      Entered response (clearResponse ports.gate after.1.env after.2 response) after) world := by
  unfold After
  dsimp only [audited, auditProvider]
  rcases ports.provider messages (world.1.env, world.2) with ⟨(⟨error⟩ | _) | response, env, given⟩
  · exact sound
  · exact sound
  · refine ⟨world.1.books, sound, ?_⟩
    rw [token, Bool.false_or]

theorem after_raced {gate : SupervisorGate ω}
    (entered : Entered response (clearResponse (some gate) world.1.env world.2 response) world) :
    (raced (auditedGate gate) (.ok response)).After (soundEnds fun found after => found = response ∧
      Entered response (!after.2 && (gateAllows (some gate) 2 after.1.env && acceptable response))
        after) world := by
  obtain ⟨books, sound, same⟩ := entered
  rw [clearResponse] at same
  unfold raced
  rw [after_bind]
  unfold watched After
  dsimp only [auditedGate, Ends.Hold]
  cases ahead : (gate.watch world.1.env).1.ahead with
  | true =>
    rw [ahead, Bool.not_true, Bool.false_and] at same
    exact Entered.stopped ⟨books, sound, same⟩
  | false =>
    rw [ahead, Bool.not_false, Bool.true_and] at same
    exact ⟨rfl, books, sound, same⟩

theorem after_raced_error {gate : SupervisorGate ω} {error : RaisedException} (sound : BooksSound world)
    {done : ProviderResponse → Audited ω × Bool → Prop} :
    (raced (auditedGate gate) (.error error)).After (soundEnds done) world := by
  unfold raced
  rw [after_bind]
  unfold watched After
  dsimp only [auditedGate, Ends.Hold]
  cases (gate.watch world.1.env).1.ahead with
  | true => exact sound
  | false => exact sound

theorem after_providerCall_entered (sound : BooksSound world) (token : world.2 = false)
    (messages : List PromptMessage) :
    (providerCall (audited ports sink) messages).After (soundEnds fun response after =>
      Entered response (!after.2 && (gateAllows ports.gate 2 after.1.env && acceptable response))
        after) world := by
  have called : ((audited ports sink).provider messages).After (soundEnds fun response after =>
      Entered response (clearResponse ports.gate after.1.env after.2 response) after) world :=
    after_provider sound token messages
  unfold providerCall
  cases found : (audited ports sink).gate with
  | none =>
    have none : ports.gate = none := Option.map_eq_none_iff.mp found
    rw [none] at called ⊢
    exact called
  | some outer =>
    obtain ⟨gate, isGate, rfl⟩ := Option.map_eq_some_iff.mp found
    rw [isGate] at called ⊢
    dsimp only
    rw [after_bind, after_tried]
    refine called.weaken ⟨?_, ?_, fun _ => id⟩
    · intro response after entered
      refine (after_raced entered).weaken ⟨?_, fun _ _ => id, fun _ => id⟩
      rintro _ left ⟨rfl, held⟩
      exact held
    · exact fun error after held => after_raced_error held

theorem after_booked {receipt : UsageReceipt} (usage : receipt.usage = response.usage)
    (entered : Entered response true world) :
    (booked (audited ports sink) receipt response).After (soundEnds fun _ => BooksSound) world := by
  obtain ⟨books, sound, same⟩ := entered
  have handed : (handOver (audited ports sink) receipt).After (soundEnds fun _ => BooksSound) world := by
    change (world.1.books.hand receipt.usage).Sound
    rw [same, usage]
    exact sound.push_handed
  unfold booked
  refine handed.next ?_
  intro _ left sound
  refine Keeps.throughout ?_ sound
  refine (keeps_recorded receipt).bind fun open_ => ?_
  cases open_ with
  | false => exact keeps_pure _
  | true =>
    refine keeps_allowed.bind fun answer => ?_
    cases answer with
    | false => exact keeps_pure _
    | true => exact (keeps_ofExcept _).bind fun _ => keeps_pure _

theorem after_bookedResult {spec : SessionSpec} {callId : Points}
    (entered : Entered response true world) :
    (bookedResult (audited ports sink) spec callId response).After (soundEnds fun _ => BooksSound)
      world := by
  unfold bookedResult
  rw [after_bind, after_tried]
  have receiptUsage : (usageReceipt spec callId response).usage = response.usage := rfl
  refine (after_booked receiptUsage entered).weaken ⟨?_, ?_, fun _ => id⟩
  · intro outcome left held
    cases outcome with
    | error reason => exact held
    | ok advice => exact (keeps_delivered advice).throughout held
  · exact fun error left held => held

theorem after_handleResponse {spec : SessionSpec} {callId : Points}
    (entered : Entered response
      (!world.2 && (gateAllows ports.gate 2 world.1.env && acceptable response)) world) :
    (handleResponse (audited ports sink) spec callId response).After (soundEnds fun _ => BooksSound)
      world := by
  unfold handleResponse
  rw [after_bind, after_ask]
  dsimp only
  cases token : world.2 with
  | true =>
    rw [token, Bool.not_true, Bool.false_and] at entered
    exact entered.stopped
  | false =>
    rw [token, Bool.not_false, Bool.true_and] at entered
    refine (after_allowed_entered entered).next ?_
    rintro answer after ⟨-, held⟩
    cases answer with
    | false => exact held
    | true =>
      rw [if_pos rfl] at held
      change (if response.toolCalls ≠ [] then _ else _ : SupervisorPart (Audited ω) _).After _ _
      split
      · next native =>
        have refused : acceptable response = false := by
          rw [acceptable, List.isEmpty_eq_false_iff.mpr native, Bool.false_and]
        rw [refused, Bool.and_false] at held
        exact held.stopped
      · next native =>
        have none : response.toolCalls.isEmpty = true :=
          List.isEmpty_iff.mpr (not_not.mp native)
        rw [acceptable, none, Bool.true_and] at held
        cases ended : endedNormally response with
        | false =>
          rw [ended, Bool.and_false] at held
          exact held.stopped
        | true =>
          rw [ended] at held
          refine (after_allowed_entered held).next ?_
          rintro answer left ⟨-, kept⟩
          cases answer with
          | false => exact kept
          | true =>
            rw [if_pos rfl, gateAllows_zero] at kept
            exact after_bookedResult kept

theorem keeps_run (spec : SessionSpec) (context : ContextEnvelope) :
    Keeps BooksSound (run (audited ports sink) spec context) := by
  unfold run
  refine (keeps_admission spec context).tried.bind fun outcome => ?_
  cases outcome with
  | error error => exact keeps_pure _
  | ok admitted =>
    cases admitted with
    | error reason => exact keeps_pure _
    | ok messages =>
      intro world sound
      rw [after_bind, after_change]
      change (newCallId _ spec >>= _ : SupervisorPart (Audited ω) _).After _ _
      rw [after_bind]
      unfold newCallId After
      change (tried (providerCall _ messages) >>= _ : SupervisorPart (Audited ω) _).After _ _
      rw [after_bind, after_tried]
      refine (after_providerCall_entered ?_ rfl messages).weaken ⟨?_, ?_, fun _ => id⟩
      · exact sound
      · intro response reached entered
        exact (after_handleResponse entered).weaken
          ⟨fun _ _ held => ⟨held, trivial⟩, fun _ _ => id, fun _ => id⟩
      · exact fun error reached kept => ⟨kept, trivial⟩

end Region

/-- The books of a session of the supervisor. -/
def books (ports : SupervisorPorts ω A E) (sink : UsageReceipt → ω → ω) (spec : SessionSpec)
    (context : ContextEnvelope) (env : ω) : Books :=
  (run (audited ports sink) spec context (⟨env, .blank⟩, false)).2.1.books

theorem books_sound (ports : SupervisorPorts ω A E) (sink : UsageReceipt → ω → ω) (spec : SessionSpec)
    (context : ContextEnvelope) (env : ω) : (books ports sink spec context env).Sound :=
  (keeps_run spec context).kept Books.sound_blank

end SupervisorSession

/-! ## The chat model -/

namespace ProviderChatModel

variable {ω F α : Type}

/-- The ports with their books: a response is clear if the caller has not cancelled the token. -/
def audited (ports : ChatModelPorts ω F) (sink : AgentUsageReceipt → ω → ω) :
    ChatModelPorts (Audited ω) F where
  provider := fun messages => auditCall (fun env _ => !ports.cancelled env) (ports.provider messages)
  cancelled := fun world => ports.cancelled world.env
  newUuid4 := fun world =>
    ((ports.newUuid4 world.env).1, { world with env := (ports.newUuid4 world.env).2 })
  reserveRound := fun agentRunId callId maxRounds =>
    audit (ports.reserveRound agentRunId callId maxRounds)
  record := auditSink (·.usage) sink
  binding := ports.binding
  agentRunId := ports.agentRunId
  maxRounds := ports.maxRounds
  structuredOutput := ports.structuredOutput
  decode := ports.decode
  planOutput := ports.planOutput

/-- The books are sound. -/
def BooksSound (state : ChatModelState (Audited ω)) : Prop := state.env.books.Sound

variable {ports : ChatModelPorts ω F} {sink : AgentUsageReceipt → ω → ω}

theorem keeps_asked (port : Lib.Process ω RaisedException α) : Keeps BooksSound (asked (audit port)) := by
  intro state holds
  unfold asked
  rw [after_within]
  unfold audit
  rw [after_within]
  exact After.of_forall (fun _ _ => ⟨holds, trivial⟩) (fun _ _ => holds) fun _ => holds

theorem keeps_raiseIfCancelled : Keeps BooksSound (raiseIfCancelled (audited ports sink)) := by
  refine (keeps_ask _).bind fun cancelled => ?_
  cases cancelled with
  | false => exact keeps_pure ()
  | true => exact keeps_raise _

/-- The ends of a part that leaves the books sound where it stops early. -/
def soundEnds (done : α → ChatModelState (Audited ω) → Prop) :
    Ends (ChatModelState (Audited ω)) RaisedException α :=
  ⟨done, fun _ => BooksSound, BooksSound⟩

/-- A response has just been entered, as clear or not. -/
def Entered (response : ProviderResponse) (clear : Bool) (state : ChatModelState (Audited ω)) : Prop :=
  ∃ books : Books, books.Sound ∧ state.env.books = books.push response clear

section Region

variable {response : ProviderResponse} {state : ChatModelState (Audited ω)}

theorem after_provider (sound : BooksSound state) (messages : List PromptMessage) :
    (asked ((audited ports sink).provider messages)).After (soundEnds fun response after =>
      Entered response (!ports.cancelled after.env.env) after) state := by
  unfold asked
  rw [after_within]
  unfold After
  dsimp only [audited, auditCall]
  rcases ports.provider messages state.env.env with ⟨(⟨error⟩ | _) | response, env⟩
  · exact sound
  · exact sound
  · exact ⟨state.env.books, sound, rfl⟩

theorem after_raiseIfCancelled_entered
    (entered : Entered response (!ports.cancelled state.env.env) state) :
    (raiseIfCancelled (audited ports sink)).After (soundEnds fun _ => Entered response true)
      state := by
  unfold raiseIfCancelled
  rw [after_bind, after_ask]
  dsimp only [audited]
  obtain ⟨books, sound, same⟩ := entered
  cases cancelled : ports.cancelled state.env.env with
  | true =>
    rw [cancelled] at same
    change state.env.books.Sound
    rw [same]
    exact sound.push_stopped
  | false =>
    rw [cancelled] at same
    exact ⟨books, sound, same⟩

theorem after_record_entered {receipt : AgentUsageReceipt} (usage : receipt.usage = response.usage)
    (entered : Entered response true state) :
    (asked ((audited ports sink).record receipt)).After (soundEnds fun _ => BooksSound) state := by
  obtain ⟨books, sound, same⟩ := entered
  change (state.env.books.hand receipt.usage).Sound
  rw [same, usage]
  exact sound.push_handed

end Region

theorem keeps_reservedRound (callId : Points) (messages : List PromptMessage) (roundIndex : Int) :
    Keeps BooksSound (reservedRound (audited ports sink) callId messages roundIndex) := by
  unfold reservedRound
  split
  · exact keeps_raise _
  · refine Keeps.bind (keeps_change fun _ holds => holds) fun _ => ?_
    intro state sound
    refine (after_provider sound messages).next ?_
    intro response after entered
    refine (after_raiseIfCancelled_entered entered).next ?_
    intro _ left clear
    rw [after_bind, after_change]
    change (asked _ >>= _ : ChatPart (Audited ω) _).After _ _
    rw [after_bind]
    have receiptUsage : (usageReceipt (audited ports sink) callId response).usage =
        response.usage := rfl
    have noted : Entered response true { left with usages := left.usages ++ [response.usage] } := clear
    refine (after_record_entered receiptUsage noted).weaken ⟨?_, fun _ _ => id, fun _ => id⟩
    exact fun _ reached kept => keeps_ofExcept _ reached kept

theorem keeps_agenerate (messages : List PromptMessage) :
    Keeps BooksSound (agenerate (audited ports sink) messages) := by
  unfold agenerate
  refine keeps_raiseIfCancelled.bind fun _ => ?_
  refine Keeps.bind (fun _ holds => ⟨holds, trivial⟩) fun callId => ?_
  refine (keeps_asked _).bind fun reserved => ?_
  cases reserved with
  | none => exact Keeps.bind (keeps_change fun _ holds => holds) fun _ => keeps_pure _
  | some roundIndex => exact keeps_reservedRound callId messages roundIndex

/-- The books of a call of the model, whose state is any. -/
def books (ports : ChatModelPorts ω F) (sink : AgentUsageReceipt → ω → ω)
    (messages : List PromptMessage) (state : ChatModelState ω) : Books :=
  (agenerate (audited ports sink) messages
    ⟨⟨state.env, .blank⟩, state.calls, state.usages⟩).2.env.books

theorem books_sound (ports : ChatModelPorts ω F) (sink : AgentUsageReceipt → ω → ω)
    (messages : List PromptMessage) (state : ChatModelState ω) :
    (books ports sink messages state).Sound :=
  (keeps_agenerate messages).kept Books.sound_blank

end ProviderChatModel

/-! ## All paid calls -/

section Paid

variable {ω F ρ A E : Type}

/-- Every response is booked once exactly where every response is clear: in each session of the agent
loop, in each session of the supervisor and in each call of the chat model, whose sinks do not
fail. -/
theorem paid_calls_booked_iff :
    (∀ (ports : LoopPorts ω F ρ) (sink : UsageReceipt → ω → ω) (spec : SessionSpec)
      (decoder : Decoder F) (env : ω),
      (AgentLoop.books ports sink spec decoder env).AllBooked ↔
        (AgentLoop.books ports sink spec decoder env).AllClear) ∧
    (∀ (ports : SupervisorPorts ω A E) (sink : UsageReceipt → ω → ω) (spec : SessionSpec)
      (context : ContextEnvelope) (env : ω),
      (SupervisorSession.books ports sink spec context env).AllBooked ↔
        (SupervisorSession.books ports sink spec context env).AllClear) ∧
    ∀ (ports : ChatModelPorts ω F) (sink : AgentUsageReceipt → ω → ω)
      (messages : List PromptMessage) (state : ChatModelState ω),
      (ProviderChatModel.books ports sink messages state).AllBooked ↔
        (ProviderChatModel.books ports sink messages state).AllClear := by
  refine ⟨?_, ?_, ?_⟩
  · intro ports sink spec decoder env
    exact (AgentLoop.books_sound ports sink spec decoder env).allBooked_iff
  · intro ports sink spec context env
    exact (SupervisorSession.books_sound ports sink spec context env).allBooked_iff
  · intro ports sink messages state
    exact (ProviderChatModel.books_sound ports sink messages state).allBooked_iff

end Paid

/-! ## A response with a native call -/

namespace SamplePaidCall

/-- A response with a native call. -/
def response : ProviderResponse :=
  ⟨[], [⟨points "ReadFile", points "", []⟩], points "stop", ⟨2, 1, 0⟩, []⟩

/-- Ports with no gate and no wallet, whose provider gives this response. -/
def ports : SupervisorPorts Unit Unit Unit where
  provider := fun _ => pure response
  newUuid7 := fun env => (⟨0⟩, env)
  gate := none
  budget := none
  usageSink := none
  contextFits := fun _ => .ok ()
  parseAdvice := fun _ => .ok ()
  events := fun _ => []
  eventSink := none
  adviceSink := none

/-- A session of the supervisor. -/
def spec : SessionSpec where
  identity := ⟨⟨7⟩, .execute, .executeSupervisor, none⟩
  runStatus := .executing
  binding := ⟨points "provider", points "model", .code, "digest"⟩
  packIdentity := ⟨⟨7⟩, .execute, .executeSupervisor, none, "digest"⟩
  maxRounds := 1
  context := ⟨[], [], []⟩
  template := points "session"
  state := .created
  agentRunId := none

/-- The session falls back on a protocol error, and the response is never booked. -/
theorem native_call_unbooked :
    ¬ (SupervisorSession.books ports (fun _ env => env) spec ⟨[], [], []⟩ ()).AllBooked := by
  have returned : (SupervisorSession.books ports (fun _ env => env) spec ⟨[], [], []⟩ ()).returned =
      [⟨response, false⟩] := by rfl
  rw [(SupervisorSession.books_sound ports (fun _ env => env) spec ⟨[], [], []⟩ ()).allBooked_iff]
  intro clear
  have first := clear ⟨response, false⟩ (by rw [returned]; exact List.mem_cons_self)
  cases first

end SamplePaidCall

end CodeMigrator
