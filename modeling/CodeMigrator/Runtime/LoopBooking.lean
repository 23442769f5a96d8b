import CodeMigrator.Runtime.LoopCalls

/-!
# Booked model calls

Books beside the environment of a session: the responses that the provider has returned, and the
usages that the sink was handed. A response is clear when no check between its return and the sink
stops the session; whether it is follows from the environment as the provider leaves it.
-/

namespace CodeMigrator
open Lib Lib.Process

/-! ## Books -/

/-- A response of the provider, and whether nothing stands between it and the sink. -/
structure PaidCall where
  response : ProviderResponse
  clear : Bool

/-- The responses that were returned and the usages that were handed over. -/
structure Books where
  returned : List PaidCall
  handed : List TokenUsage

namespace Books

/-- Nothing was called. -/
def blank : Books := ⟨[], []⟩

/-- The usage of each response was handed over, once and in the order of the responses. -/
def AllBooked (books : Books) : Prop := books.handed = books.returned.map (·.response.usage)

/-- Nothing stood between any response and the sink. -/
def AllClear (books : Books) : Prop := ∀ call ∈ books.returned, call.clear = true

/-- The usages handed over are those of the clear responses. -/
def Sound (books : Books) : Prop :=
  books.handed = (books.returned.filter (·.clear)).map (·.response.usage)

/-- A response is returned. -/
def push (books : Books) (response : ProviderResponse) (clear : Bool) : Books :=
  { books with returned := books.returned ++ [⟨response, clear⟩] }

/-- A usage is handed over. -/
def hand (books : Books) (usage : TokenUsage) : Books := { books with handed := books.handed ++ [usage] }

variable {books : Books} {response : ProviderResponse}

theorem sound_blank : blank.Sound := rfl

theorem Sound.push_stopped (sound : books.Sound) : (books.push response false).Sound := by
  unfold Sound push at *
  simpa using sound

theorem Sound.push_handed (sound : books.Sound) :
    ((books.push response true).hand response.usage).Sound := by
  unfold Sound push hand at *
  simp [sound]

theorem Sound.allBooked_iff (sound : books.Sound) : books.AllBooked ↔ books.AllClear := by
  unfold AllBooked AllClear
  constructor
  · intro booked
    have lengths := congrArg List.length (sound.symm.trans booked)
    rw [List.length_map, List.length_map] at lengths
    exact List.length_filter_eq_length_iff.mp lengths
  · intro clear
    rw [sound, List.filter_eq_self.mpr clear]

end Books

/-- An environment with its books. -/
structure Audited (ω : Type) where
  env : ω
  books : Books

section Audit

variable {ω ε α : Type}

/-- A call that the books do not concern. -/
def audit (port : Lib.Process ω ε α) : Lib.Process (Audited ω) ε α :=
  within (·.env) (fun env world => { world with env := env }) port

/-- A call with the token that the books do not concern. -/
def auditToken (port : Lib.Process (ω × Bool) ε α) : Lib.Process (Audited ω × Bool) ε α :=
  within (fun world => (world.1.env, world.2)) (fun after world => ({ world.1 with env := after.1 }, after.2))
    port

/-- The provider: its response is entered with what the environment then holds for it. -/
def auditProvider (clear : ω → Bool → ProviderResponse → Bool)
    (port : Lib.Process (ω × Bool) ε ProviderResponse) :
    Lib.Process (Audited ω × Bool) ε ProviderResponse := fun world =>
  match port (world.1.env, world.2) with
  | (.ok response, env, token) =>
    (.ok response, ⟨env, world.1.books.push response (clear env (world.2 || token) response)⟩, token)
  | (.error stop, env, token) => (.error stop, ⟨env, world.1.books⟩, token)

/-- The same for a provider that is not handed the token. -/
def auditCall (clear : ω → ProviderResponse → Bool) (port : Lib.Process ω ε ProviderResponse) :
    Lib.Process (Audited ω) ε ProviderResponse := fun world =>
  match port world.env with
  | (.ok response, env) => (.ok response, ⟨env, world.books.push response (clear env response)⟩)
  | (.error stop, env) => (.error stop, ⟨env, world.books⟩)

/-- A usage sink that does not fail: it is handed the usage of a receipt, and may change the
environment. -/
def auditSink {R : Type} (usage : R → TokenUsage) (sink : R → ω → ω) (receipt : R) :
    Lib.Process (Audited ω) ε Unit :=
  change fun world => ⟨sink receipt world.env, world.books.hand (usage receipt)⟩

/-- A gate allows a session this many times in a row. -/
def allowsTimes (allow : Lib.Process ω ε Bool) : Nat → ω → Bool
  | 0, _ => true
  | times + 1, env =>
    match allow env with
    | (.ok true, after) => allowsTimes allow times after
    | _ => false

end Audit

/-! ## The agent loop -/

namespace AgentLoop

variable {ω F ρ α : Type}

/-- The gate, if there is one, allows the session this many times in a row. -/
def gateAllows (gate : Option (GatePort ω)) (times : Nat) (env : ω) : Bool :=
  match gate with
  | none => true
  | some port => allowsTimes port.allow times env

/-- After a response the token is not cancelled, not by the watcher of the call either, and the gate
allows the session at the two checks before its usage is recorded. -/
def clearResponse (gate : Option (GatePort ω)) (env : ω) (token : Bool) : Bool :=
  match gate with
  | none => !token
  | some port =>
    !(token || (port.watch env).1.contains false) && gateAllows gate 2 (port.watch env).2

/-- The ports with their books. -/
def audited (ports : LoopPorts ω F ρ) (sink : UsageReceipt → ω → ω) : LoopPorts (Audited ω) F ρ where
  provider := fun messages =>
    auditProvider (fun env token _ => clearResponse ports.gate env token) (ports.provider messages)
  dispatch := fun payload => auditToken (ports.dispatch payload)
  awaited := auditToken ports.awaited
  resultText := ports.resultText
  checkpoint := ports.checkpoint.map fun checkpoint observations => audit (checkpoint observations)
  gate := ports.gate.map fun gate =>
    { allow := audit gate.allow
      cancel := audit gate.cancel
      watch := fun world => ((gate.watch world.env).1, { world with env := (gate.watch world.env).2 }) }
  budget := ports.budget.map fun budget =>
    { admits := audit budget.admits
      record := fun receipt => audit (budget.record receipt) }
  usageSink := some (auditSink (·.usage) sink)
  maxSelfCorrections := ports.maxSelfCorrections
  contextFits := ports.contextFits

/-- The books are sound. -/
def BooksSound (world : LoopWorld (Audited ω) F) : Prop := world.env.books.Sound

section Frame

variable {ports : LoopPorts ω F ρ} {sink : UsageReceipt → ω → ω} {check : LoopCheck}

theorem keeps_note (event : LoopEvent F) : Keeps BooksSound (note event : Loop (Audited ω) F Unit) :=
  keeps_change fun _ holds => holds

theorem keeps_handed {port : TokenPort (Audited ω) α}
    (apart : ∀ world, (port world).2.1.books = world.1.books) :
    Keeps BooksSound (handed check port : Loop (Audited ω) F α) := by
  intro world holds
  have same : (port (world.env, world.token)).2.1.books.Sound := by
    rw [apart]
    exact holds
  unfold After handed
  rcases ran : port (world.env, world.token) with ⟨(⟨error⟩ | _) | value, env, token⟩
  · rw [ran] at same
    exact same
  · rw [ran] at same
    exact same
  · rw [ran] at same
    exact ⟨same, trivial⟩

theorem keeps_auditToken (port : TokenPort ω α) :
    Keeps BooksSound (handed check (auditToken port) : Loop (Audited ω) F α) :=
  keeps_handed fun _ => rfl

theorem keeps_asked (port : Port ω α) :
    Keeps BooksSound (asked check (audit port) : Loop (Audited ω) F α) :=
  keeps_handed fun _ => rfl

theorem booksSound_watch {world : LoopWorld (Audited ω) F} (holds : BooksSound world) :
    BooksSound (watch (audited ports sink) check world) := by
  unfold watch audited
  cases ports.gate with
  | none => exact holds
  | some gate => exact holds

/-- What the loop does keeps the books sound. -/
theorem booksInvariant (ports : LoopPorts ω F ρ) (sink : UsageReceipt → ω → ω) :
    LoopInvariant (audited ports sink) (BooksSound : LoopWorld (Audited ω) F → Prop) where
  token := fun _ _ holds => holds
  allowed := by
    intro check
    unfold allowed audited
    cases ports.gate with
    | none => exact keeps_pure true
    | some gate =>
      exact (keeps_asked gate.allow).bind fun answer => (keeps_note _).bind fun _ => keeps_pure answer
  notified := by
    intro check
    unfold notifyCancel audited
    cases ports.gate with
    | none => exact keeps_pure ()
    | some gate => exact keeps_asked gate.cancel
  dispatched := fun _ _ holds =>
    ((keeps_auditToken _).ensuring fun _ => booksSound_watch).throughout holds
  awaited := keeps_auditToken _
  admitted := by
    unfold admitted audited
    cases ports.budget with
    | none => exact keeps_pure true
    | some budget => exact keeps_asked budget.admits
  decided := by
    intro observations world holds
    unfold precheck audited
    cases ports.checkpoint with
    | none => exact holds
    | some checkpoint =>
      refine (keeps_asked (checkpoint observations)).tried.throughout holds |>.weaken
        ⟨?_, fun _ _ => id, fun _ => id⟩
      intro outcome after held
      cases outcome with
      | error error => exact held
      | ok decision => exact held

end Frame

/-! ## From the response to the sink -/

/-- A response has just been entered, as clear if `clear` holds of the world. -/
def Entered (response : ProviderResponse) (clear : Bool) (world : LoopWorld (Audited ω) F) : Prop :=
  ∃ books : Books, books.Sound ∧ world.env.books = books.push response clear

section Region

variable {ports : LoopPorts ω F ρ} {sink : UsageReceipt → ω → ω} {response : ProviderResponse}
  {world : LoopWorld (Audited ω) F} {times : Nat}

theorem Entered.stopped (entered : Entered response false world) : BooksSound world := by
  obtain ⟨books, sound, same⟩ := entered
  unfold BooksSound
  rw [same]
  exact sound.push_stopped

theorem gateAllows_zero (gate : Option (GatePort ω)) (env : ω) : gateAllows gate 0 env = true := by
  cases gate with
  | none => rfl
  | some gate => rfl

theorem after_allowed_entered
    (entered : Entered response (gateAllows ports.gate (times + 1) world.env.env) world) :
    (allowed (audited ports sink) .session).After (keptEnds BooksSound fun answer after =>
      after.token = world.token ∧
        if answer then Entered response (gateAllows ports.gate times after.env.env) after
        else BooksSound after) world := by
  unfold allowed audited
  cases found : ports.gate with
  | none =>
    rw [found] at entered
    exact ⟨rfl, entered⟩
  | some gate =>
    obtain ⟨books, sound, same⟩ := entered
    rw [found, gateAllows, allowsTimes] at same
    dsimp only [Option.map_some]
    rw [after_bind]
    unfold After
    rcases ran : gate.allow world.env.env with ⟨(⟨error⟩ | _) | answer, env⟩
    all_goals
      rw [ran] at same
      have asks : audit gate.allow world.env = (_, ⟨env, world.env.books⟩) :=
        congrArg (fun ended => (ended.1, (⟨ended.2, world.env.books⟩ : Audited ω))) ran
      rw [asked_eq, asks]
    · exact Entered.stopped ⟨books, sound, same⟩
    · exact Entered.stopped ⟨books, sound, same⟩
    · cases answer with
      | false => exact ⟨rfl, Entered.stopped ⟨books, sound, same⟩⟩
      | true => exact ⟨rfl, books, sound, same⟩

theorem after_confirm_entered
    (entered : Entered response (gateAllows ports.gate (times + 1) world.env.env) world) :
    (confirm (audited ports sink) .session).After (keptEnds BooksSound fun _ after =>
      after.token = world.token ∧
        Entered response (gateAllows ports.gate times after.env.env) after) world := by
  unfold confirm
  refine (after_allowed_entered entered).next ?_
  rintro answer after ⟨same, held⟩
  cases answer with
  | true => exact ⟨same, held⟩
  | false =>
    -- the gate has refused: what is left raises, and does not touch the books
    rw [if_neg Bool.false_ne_true] at held ⊢
    rw [after_bind, after_change]
    have notified : BooksSound { after with token := true } := held
    exact (((booksInvariant ports sink).notified _).throughout notified).next fun _ _ sound => sound

theorem after_stopped_entered (token : world.token = false)
    (entered : Entered response (gateAllows ports.gate (times + 1) world.env.env) world) :
    (stopped (audited ports sink) .session).After (keptEnds BooksSound fun stop after =>
      if stop then BooksSound after
      else Entered response (gateAllows ports.gate times after.env.env) after) world := by
  unfold stopped
  rw [after_bind, after_ask]
  dsimp only
  rw [token]
  refine (after_allowed_entered entered).next ?_
  rintro answer after ⟨_, held⟩
  cases answer with
  | true => exact held
  | false => exact held

theorem contains_untilRefusal (answers : List Bool) :
    (untilRefusal answers).contains false = answers.contains false := by
  induction answers with
  | nil => rfl
  | cons answer answers ih =>
    cases answer with
    | true => simpa [untilRefusal] using ih
    | false => simp [untilRefusal]

theorem after_handed_provider {clear : ω → Bool → ProviderResponse → Bool}
    {port : TokenPort ω ProviderResponse} (sound : BooksSound world) :
    (handed .session (auditProvider clear port)).After (keptEnds BooksSound fun response after =>
      Entered response (clear after.env.env after.token response) after) world := by
  unfold After handed auditProvider
  rcases port (world.env.env, world.token) with ⟨(⟨error⟩ | _) | response, env, token⟩
  · exact sound
  · exact sound
  · exact ⟨world.env.books, sound, rfl⟩

theorem watched_entered
    (entered : Entered response (clearResponse ports.gate world.env.env world.token) world) :
    Entered response (!(watch (audited ports sink) .session world).token &&
        gateAllows ports.gate 2 (watch (audited ports sink) .session world).env.env)
      (watch (audited ports sink) .session world) := by
  obtain ⟨books, sound, same⟩ := entered
  refine ⟨books, sound, ?_⟩
  unfold clearResponse at same
  unfold watch audited
  cases found : ports.gate with
  | none =>
    rw [found] at same
    dsimp only [Option.map_none]
    rw [gateAllows, Bool.and_true]
    exact same
  | some gate =>
    rw [found] at same
    dsimp only [Option.map_some]
    rw [contains_untilRefusal]
    exact same

theorem after_watched (sound : BooksSound world) (messages : List PromptMessage) :
    (ensuring (handed .session ((audited ports sink).provider messages))
      (watch (audited ports sink) .session)).After (keptEnds BooksSound fun response after =>
        Entered response (!after.token && gateAllows ports.gate 2 after.env.env) after) world := by
  rw [after_ensuring]
  refine (after_handed_provider sound).weaken ⟨?_, ?_, ?_⟩
  · exact fun response after entered => watched_entered entered
  · exact fun error after held => booksSound_watch held
  · exact fun after held => booksSound_watch held

theorem after_providerCall_entered (sound : BooksSound world) (messages : List PromptMessage) :
    (providerCall (audited ports sink) messages).After (keptEnds BooksSound fun response after =>
      after.token = false ∧ Entered response (gateAllows ports.gate 1 after.env.env) after)
      world := by
  unfold providerCall note
  rw [after_bind, after_change]
  change (ensuring _ _ >>= _ : Loop (Audited ω) F ProviderResponse).After _ _
  rw [after_bind]
  have noted : BooksSound { world with log := world.log ++ [.called messages] } := sound
  refine (after_watched noted messages).weaken ⟨?_, fun _ _ => id, fun _ => id⟩
  intro response after (entered : Entered response _ after)
  change (raiseIfCancelled >>= _ : Loop (Audited ω) F ProviderResponse).After _ _
  unfold raiseIfCancelled
  rw [after_bind, after_bind, after_ask]
  cases token : after.token with
  | true =>
    rw [token, Bool.not_true, Bool.false_and] at entered
    exact entered.stopped
  | false =>
    rw [token, Bool.not_false, Bool.true_and] at entered
    refine (after_confirm_entered entered).next ?_
    rintro _ left ⟨same, held⟩
    exact ⟨same.trans token, held⟩

theorem after_record_entered {receipt : UsageReceipt} (usage : receipt.usage = response.usage)
    (entered : Entered response true world) :
    (record (audited ports sink) receipt).After (keptEnds BooksSound fun _ => BooksSound) world := by
  obtain ⟨books, sound, same⟩ := entered
  have booked : (world.env.books.hand receipt.usage).Sound := by
    rw [same, usage]
    exact sound.push_handed
  have handed : (asked .session (auditSink (·.usage) sink receipt) : Loop (Audited ω) F Unit).After
      (keptEnds BooksSound fun _ => BooksSound) world := booked
  unfold record
  refine handed.next ?_
  intro _ left sound
  cases found : (audited ports sink).budget with
  | none => exact sound
  | some budget =>
    obtain ⟨inner, -, rfl⟩ := Option.map_eq_some_iff.mp found
    refine Keeps.throughout ?_ sound
    exact (keeps_note _).bind fun _ => keeps_asked _

variable {spec : SessionSpec} {decoder : Decoder F}

theorem after_handleResponse_entered {roundIndex : Nat} {locals : LoopState F ρ}
    (token : world.token = false)
    (entered : Entered response (gateAllows ports.gate 1 world.env.env) world) :
    (handleResponse (audited ports sink) spec decoder roundIndex response locals).After
      (.keeping BooksSound fun _ _ => True) world := by
  apply (booksInvariant ports sink).after_handleResponse
  refine (after_stopped_entered token entered).weaken ⟨?_, fun _ _ => id, fun _ => id⟩
  intro stop after held
  cases stop with
  | true => exact held
  | false =>
    have clear : Entered response true after := gateAllows_zero ports.gate after.env.env ▸ held
    exact after_record_entered rfl clear

theorem keeps_run : Keeps BooksSound (run (audited ports sink) spec decoder) := by
  apply (booksInvariant ports sink).keeps_run
  intro roundIndex locals world sound
  refine (after_providerCall_entered sound _).weaken ⟨?_, fun _ _ => id, fun _ => id⟩
  rintro response reached ⟨token, entered⟩
  exact after_handleResponse_entered token entered

end Region

/-- The books of a session of the loop. -/
def books (ports : LoopPorts ω F ρ) (sink : UsageReceipt → ω → ω) (spec : SessionSpec)
    (decoder : Decoder F) (env : ω) : Books :=
  (run (audited ports sink) spec decoder ⟨⟨env, .blank⟩, false, []⟩).2.env.books

/-- The books of every session are sound. -/
theorem books_sound (ports : LoopPorts ω F ρ) (sink : UsageReceipt → ω → ω) (spec : SessionSpec)
    (decoder : Decoder F) (env : ω) : (books ports sink spec decoder env).Sound :=
  keeps_run.kept Books.sound_blank

end AgentLoop

end CodeMigrator
