import CodeMigrator.Runtime.AgentLoop

/-!
# The calls of a session

An invariant of the agent loop is kept by every session as soon as the calls of the environment keep
it, each together with what the loop logs of it. One such invariant is that the log is true: an
environment that writes down how it is called, and what it answers, finds the same in the log.
-/

namespace CodeMigrator
open Lib Lib.Process

/-- A call of the environment, or what the environment does with one. -/
inductive PortEvent (F : Type) where
  | requested (messages : List PromptMessage)
  | dispatched (payload : Fields F)
  | answered (allowed : Bool)
  | withdrawn
  | recorded (receipt : UsageReceipt)
  | decided (decision : CheckpointDecision)

/-- What the environment sees of an event. It does not see which check an answer is for, nor that
the loop has taken a response; a decision it sees if the checkpoint has made it. -/
def LoopEvent.seen {F : Type} (checkpoint : Bool) : LoopEvent F → Option (PortEvent F)
  | called messages => some (.requested messages)
  | responded _ => none
  | answered _ allowed => some (.answered allowed)
  | withdrawn _ => some .withdrawn
  | dispatched payload => some (.dispatched payload)
  | recorded receipt => some (.recorded receipt)
  | decided decision => if checkpoint then some (.decided decision) else none

/-- An environment that writes down its calls. -/
structure Traced (ω F : Type) where
  env : ω
  calls : List (PortEvent F)

namespace AgentLoop

variable {ω F ρ α : Type}

/-! ## Invariants -/

/-- The ends of a part that keeps an invariant and, where it returns, leads to `done`. -/
def keptEnds (inv : LoopWorld ω F → Prop) (done : α → LoopWorld ω F → Prop) :
    Ends (LoopWorld ω F) LoopError α :=
  ⟨done, fun _ => inv, inv⟩

/-- The calls of the environment keep an invariant. -/
structure LoopInvariant (ports : LoopPorts ω F ρ) (inv : LoopWorld ω F → Prop) : Prop where
  token : ∀ world token, inv world → inv { world with token := token }
  allowed : ∀ check, Keeps inv (allowed ports check)
  notified : ∀ check, Keeps inv (notifyCancel ports check)
  dispatched : ∀ payload world, inv world →
    (ensuring (handed .step (ports.dispatch payload)) (watch ports .step)).After
      (keptEnds inv fun _ => inv) { world with log := world.log ++ [.dispatched payload] }
  awaited : Keeps inv (handed .step ports.awaited)
  admitted : Keeps inv (admitted ports)
  decided : ∀ observations world, inv world → (precheck ports observations).After
    (keptEnds inv fun outcome after =>
      match outcome with
      | .error _ => inv after
      | .ok decision => inv { after with log := after.log ++ [.decided decision] }) world

theorem asked_eq (check : LoopCheck) (port : Port ω α) (world : LoopWorld ω F) :
    asked check port world = ((port world.env).1, ⟨(port world.env).2, world.token,
      world.log ++ if withdraws (port world.env).1 false then [.withdrawn check] else []⟩) := by
  simp only [asked, handed, Bool.or_false]

theorem after_bind_kept {β : Type} {inv : LoopWorld ω F → Prop} {first : Loop ω F α}
    {next : α → Loop ω F β} {done : α → LoopWorld ω F → Prop} {goal : β → LoopWorld ω F → Prop}
    {world : LoopWorld ω F} (before : first.After (keptEnds inv done) world)
    (after : ∀ value reached, done value reached → (next value).After (.keeping inv goal) reached) :
    (first >>= next).After (.keeping inv goal) world := by
  rw [after_bind]
  exact before.weaken ⟨after, fun _ _ => id, fun _ => id⟩

theorem keeps_raiseIfCancelled {inv : LoopWorld ω F → Prop} :
    Keeps inv (raiseIfCancelled : Loop ω F Unit) := by
  refine (keeps_ask _).bind fun token => ?_
  cases token with
  | false => exact keeps_pure ()
  | true => exact keeps_raise _

namespace LoopInvariant

variable {ports : LoopPorts ω F ρ} {inv : LoopWorld ω F → Prop} (invariant : LoopInvariant ports inv)
  {check : LoopCheck} {spec : SessionSpec} {decoder : Decoder F}
include invariant

theorem keeps_confirm : Keeps inv (confirm ports check) := by
  refine (invariant.allowed check).bind fun answer => ?_
  cases answer with
  | true => exact keeps_pure ()
  | false =>
    refine Keeps.bind ?_ fun _ => (invariant.notified check).bind fun _ => keeps_raise _
    exact keeps_change fun world holds => invariant.token world true holds

theorem keeps_stopped : Keeps inv (stopped ports check) := by
  refine (keeps_ask _).bind fun token => ?_
  cases token with
  | true => exact keeps_pure true
  | false => exact (invariant.allowed check).bind fun answer => keeps_pure _

theorem keeps_dispatch (payload : Fields F) : Keeps inv (dispatch ports payload) := by
  refine keeps_raiseIfCancelled.bind fun _ => ?_
  intro world holds
  unfold note
  rw [after_bind, after_change]
  refine after_bind_kept (invariant.dispatched payload world holds) ?_
  intro result reached held
  refine (keeps_raiseIfCancelled.bind fun _ => invariant.keeps_confirm.bind fun _ => ?_) reached held
  cases result with
  | some value => exact keeps_pure value
  | none => exact invariant.awaited

theorem keeps_finishStep (roundIndex segmentIndex : Nat) (action : ModelAction F)
    (outcome : Except LoopError ρ) (locals : LoopState F ρ) :
    Keeps inv (finishStep ports spec roundIndex segmentIndex action outcome locals) := by
  unfold finishStep
  split
  · exact keeps_pure _
  · refine invariant.keeps_stopped.bind fun stop => ?_
    cases stop with
    | true => exact keeps_pure _
    | false => exact (keeps_ofExcept _).bind fun message => keeps_pure _

theorem keeps_runActions (roundIndex segmentIndex : Nat) (todo : List (ModelAction F))
    (locals : LoopState F ρ) :
    Keeps inv (runActions ports spec roundIndex segmentIndex todo locals) := by
  induction todo generalizing segmentIndex locals with
  | nil => exact keeps_pure _
  | cons action todo ih =>
    refine invariant.keeps_stopped.bind fun stop => ?_
    cases stop with
    | true => exact keeps_pure _
    | false =>
      refine (invariant.keeps_dispatch _).tried.bind fun outcome => ?_
      refine (invariant.keeps_finishStep _ _ _ _ _).bind fun turn => ?_
      cases turn with
      | ended result => exact keeps_pure _
      | goes locals => exact ih _ locals

theorem keeps_finishRound (roundIndex : Nat) (response : ProviderResponse) (turn : NormalizedTurn F)
    (locals : LoopState F ρ) :
    Keeps inv (finishRound ports spec roundIndex response turn locals) := by
  unfold finishRound
  split
  · refine invariant.keeps_stopped.bind fun stop => ?_
    cases stop with
    | true => exact keeps_pure _
    | false =>
      intro world holds
      refine after_bind_kept (invariant.decided locals.observations world holds) ?_
      intro outcome after held
      cases outcome with
      | error error => exact ⟨held, trivial⟩
      | ok decision => exact ⟨held, trivial⟩
  · split
    · exact keeps_pure _
    · exact keeps_pure _

/-- Behind a response the invariant is kept if it is up to the receipt of its usage. -/
theorem after_handleResponse {roundIndex : Nat} {response : ProviderResponse}
    {locals : LoopState F ρ} {world : LoopWorld ω F}
    (recorded : (stopped ports .session).After (keptEnds inv fun stop after =>
      if stop then inv after
      else (record ports (usageReceipt spec roundIndex response)).After
        (keptEnds inv fun _ => inv) after) world) :
    (handleResponse ports spec decoder roundIndex response locals).After
      (.keeping inv fun _ _ => True) world := by
  unfold handleResponse
  refine after_bind_kept recorded ?_
  intro stop after held
  cases stop with
  | true => exact ⟨held, trivial⟩
  | false =>
    rw [if_neg Bool.false_ne_true] at held
    refine after_bind_kept held ?_
    intro admitted left kept
    cases admitted with
    | false => exact ⟨kept, trivial⟩
    | true =>
      rw [if_pos rfl]
      cases normalizeResponse decoder response with
      | error failure =>
        cases failure with
        | normalization _ => exact ⟨kept, trivial⟩
        | uncaught _ => exact kept
      | ok turn =>
        refine (invariant.keeps_stopped.bind fun stop => ?_) left kept
        cases stop with
        | true => exact keeps_pure _
        | false =>
          refine (invariant.keeps_runActions _ _ _ _).bind fun turn => ?_
          cases turn with
          | ended result => exact keeps_pure _
          | goes locals => exact invariant.keeps_finishRound _ _ _ _

variable (handled : ∀ roundIndex locals world, inv world →
  (providerCall ports locals.messages).After (keptEnds inv fun response after =>
    (handleResponse ports spec decoder roundIndex response locals).After
      (.keeping inv fun _ _ => True)
      { after with log := after.log ++ [.responded response] }) world)
include handled

theorem keeps_agentRound (roundIndex : Nat) (locals : LoopState F ρ) :
    Keeps inv (agentRound ports spec decoder roundIndex locals) := by
  unfold agentRound
  refine (invariant.allowed _).bind fun answer => ?_
  cases answer with
  | false => exact keeps_pure _
  | true =>
    refine invariant.admitted.bind fun open_ => ?_
    cases open_ with
    | false => exact keeps_pure _
    | true =>
      refine (keeps_ofExcept _).bind fun overflow => ?_
      cases overflow with
      | true => exact keeps_pure _
      | false =>
        refine Keeps.bind (keeps_change fun world => invariant.token world false) fun _ => ?_
        intro world holds
        rw [after_bind, after_tried]
        refine (handled roundIndex locals world holds).weaken ⟨?_, ?_, fun _ => id⟩
        · exact fun response reached ended => ended
        · exact fun error reached held => ⟨held, trivial⟩

theorem keeps_runRounds (left roundIndex : Nat) (locals : LoopState F ρ) :
    Keeps inv (runRounds ports spec decoder left roundIndex locals) := by
  induction left generalizing roundIndex locals with
  | zero => exact keeps_pure _
  | succ left ih =>
    refine (invariant.keeps_agentRound handled roundIndex locals).bind fun turn => ?_
    cases turn with
    | ended result => exact keeps_pure _
    | goes locals => exact ih _ locals

/-- Every session keeps the invariant. -/
theorem keeps_run : Keeps inv (run ports spec decoder) := by
  refine (keeps_ofExcept _).bind fun _ => (keeps_ofExcept _).bind fun messages => ?_
  exact (keeps_ofExcept _).bind fun _ => invariant.keeps_runRounds handled _ _ _

end LoopInvariant

/-! ## A true log -/

/-- What is written down for the value of a call. -/
def replies (reply : α → List (PortEvent F)) : Except (Stop LoopError) α → List (PortEvent F)
  | .ok value => reply value
  | .error _ => []

/-- A call with the token that is written down, with its reply. -/
def traceToken (call : List (PortEvent F)) (reply : α → List (PortEvent F)) (port : TokenPort ω α) :
    TokenPort (Traced ω F) α := fun world =>
  ((port (world.1.env, world.2)).1,
    ⟨(port (world.1.env, world.2)).2.1,
      world.1.calls ++ call ++
        (if withdraws (port (world.1.env, world.2)).1 (port (world.1.env, world.2)).2.2 then
          [.withdrawn] else []) ++
        replies reply (port (world.1.env, world.2)).1⟩,
    (port (world.1.env, world.2)).2.2)

/-- The same for a call without the token. -/
def trace (call : List (PortEvent F)) (reply : α → List (PortEvent F)) (port : Port ω α) :
    Port (Traced ω F) α := fun world =>
  let ran := traceToken call reply (fun before => ((port before.1).1, (port before.1).2, false))
    (world, false)
  (ran.1, ran.2.1)

/-- The ports with their calls written down. -/
def traced (ports : LoopPorts ω F ρ) : LoopPorts (Traced ω F) F ρ where
  provider := fun messages => traceToken [.requested messages] (fun _ => []) (ports.provider messages)
  dispatch := fun payload => traceToken [.dispatched payload] (fun _ => []) (ports.dispatch payload)
  awaited := traceToken [] (fun _ => []) ports.awaited
  resultText := ports.resultText
  checkpoint := ports.checkpoint.map fun checkpoint observations =>
    trace [] (fun decision => [.decided decision]) (checkpoint observations)
  gate := ports.gate.map fun gate =>
    { allow := trace [] (fun allowed => [.answered allowed]) gate.allow
      cancel := trace [] (fun _ => []) gate.cancel
      watch := fun world => ((gate.watch world.env).1,
        ⟨(gate.watch world.env).2,
          world.calls ++ (untilRefusal (gate.watch world.env).1).map .answered⟩) }
  budget := ports.budget.map fun budget =>
    { admits := trace [] (fun _ => []) budget.admits
      record := fun receipt => trace [.recorded receipt] (fun _ => []) (budget.record receipt) }
  usageSink := ports.usageSink.map fun sink receipt => trace [] (fun _ => []) (sink receipt)
  maxSelfCorrections := ports.maxSelfCorrections
  contextFits := ports.contextFits

/-- The log tells the calls as they were made. -/
def LogTrue (checkpoint : Bool) (world : LoopWorld (Traced ω F) F) : Prop :=
  world.log.filterMap (LoopEvent.seen checkpoint) = world.env.calls

section Traces

variable {ports : LoopPorts ω F ρ} {checkpoint : Bool} {check : LoopCheck}
  {world : LoopWorld (Traced ω F) F} {call : List (PortEvent F)} {reply : α → List (PortEvent F)}

/-- The log may tell a call before it is made; its reply is then still to be told. -/
theorem after_traceToken (port : TokenPort ω α)
    (told : world.log.filterMap (LoopEvent.seen checkpoint) = world.env.calls ++ call) :
    (handed check (traceToken call reply port)).After (keptEnds (LogTrue checkpoint)
      fun value after => after.env.calls =
        after.log.filterMap (LoopEvent.seen checkpoint) ++ reply value) world := by
  have withdrawn : ∀ out : Bool, (world.log ++ if out then [LoopEvent.withdrawn check] else []).filterMap
      (LoopEvent.seen checkpoint) = world.env.calls ++ call ++ if out then [.withdrawn] else [] := by
    intro out
    rw [List.filterMap_append, told]
    cases out <;> rfl
  unfold After handed traceToken
  rcases port (world.env.env, world.token) with ⟨stop | value, env, token⟩
  · have held : LogTrue checkpoint ⟨⟨env, world.env.calls ++ call ++
        (if withdraws (.error stop : Except (Stop LoopError) α) token then [.withdrawn] else []) ++ []⟩,
        world.token || token, world.log ++
          if withdraws (.error stop : Except (Stop LoopError) α) token then [.withdrawn check] else []⟩ := by
      rw [LogTrue, withdrawn, List.append_nil]
    cases stop with
    | raised error => exact held
    | died => exact held
  · exact congrArg (· ++ reply value) (withdrawn _).symm

theorem after_trace (port : Port ω α)
    (told : world.log.filterMap (LoopEvent.seen checkpoint) = world.env.calls ++ call) :
    (asked check (trace call reply port)).After (keptEnds (LogTrue checkpoint)
      fun value after => after.env.calls =
        after.log.filterMap (LoopEvent.seen checkpoint) ++ reply value) world :=
  after_traceToken (fun before => ((port before.1).1, (port before.1).2, false)) told

theorem keeps_traceToken (port : TokenPort ω α) :
    Keeps (LogTrue checkpoint)
      (handed check (traceToken [] (fun _ => []) port) : Loop (Traced ω F) F α) := by
  intro world told
  refine (after_traceToken _ (told.trans (List.append_nil _).symm)).weaken
    ⟨?_, fun _ _ => id, fun _ => id⟩
  exact fun value after held => ⟨(held.trans (List.append_nil _)).symm, trivial⟩

theorem keeps_trace (port : Port ω α) :
    Keeps (LogTrue checkpoint) (asked check (trace [] (fun _ => []) port) : Loop (Traced ω F) F α) :=
  keeps_traceToken fun before => ((port before.1).1, (port before.1).2, false)

theorem LogTrue.watched (told : LogTrue checkpoint world) :
    LogTrue checkpoint (watch (traced ports) check world) := by
  unfold watch traced
  cases ports.gate with
  | none => exact told
  | some gate =>
    have heard : ∀ answers : List Bool, (answers.map (LoopEvent.answered (F := F) check)).filterMap
        (LoopEvent.seen checkpoint) = answers.map .answered := by
      intro answers
      rw [List.filterMap_map]
      exact congrFun List.filterMap_eq_map _
    unfold LogTrue
    dsimp only [Option.map_some]
    rw [List.filterMap_append, heard, told]

/-- A call that has been logged, with the watcher beside it. -/
theorem after_logged {port : TokenPort ω α} {event : LoopEvent F} {made : PortEvent F}
    (seen : event.seen checkpoint = some made) (told : LogTrue checkpoint world) :
    (ensuring (handed check (traceToken [made] (fun _ => []) port)) (watch (traced ports) check)).After
      (keptEnds (LogTrue checkpoint) fun _ => LogTrue checkpoint)
      { world with log := world.log ++ [event] } := by
  have ahead : (world.log ++ [event]).filterMap (LoopEvent.seen checkpoint) = world.env.calls ++ [made] := by
    rw [List.filterMap_append, told]
    simp [seen]
  rw [after_ensuring]
  refine (after_traceToken _ ahead).weaken ⟨?_, ?_, ?_⟩
  · intro value after held
    exact LogTrue.watched (held.trans (List.append_nil _)).symm
  · exact fun error after held => held.watched
  · exact fun after held => held.watched

theorem logTrue_invariant (ports : LoopPorts ω F ρ) :
    LoopInvariant (traced ports) (LogTrue (ω := ω) (F := F) ports.checkpoint.isSome) where
  token := fun _ _ told => told
  allowed := by
    intro check
    unfold allowed traced
    cases ports.gate with
    | none => exact keeps_pure true
    | some gate =>
      intro world told
      refine after_bind_kept (after_trace _ (told.trans (List.append_nil _).symm)) ?_
      intro answer after held
      have noted : LogTrue ports.checkpoint.isSome
          { after with log := after.log ++ [.answered check answer] } := by
        rw [LogTrue, held, List.filterMap_append]
        rfl
      exact ⟨noted, trivial⟩
  notified := by
    intro check
    unfold notifyCancel traced
    cases ports.gate with
    | none => exact keeps_pure ()
    | some gate => exact keeps_trace gate.cancel
  dispatched := fun _ _ told => after_logged rfl told
  awaited := keeps_traceToken _
  admitted := by
    unfold admitted traced
    cases ports.budget with
    | none => exact keeps_pure true
    | some budget => exact keeps_trace budget.admits
  decided := by
    intro observations world told
    unfold precheck traced
    cases found : ports.checkpoint with
    | none =>
      rw [found] at told
      change LogTrue _ _
      rw [LogTrue, List.filterMap_append, told]
      exact List.append_nil _
    | some checkpoint =>
      rw [found] at told
      dsimp only [Option.map_some]
      rw [after_tried]
      refine (after_trace _ (told.trans (List.append_nil _).symm)).weaken
        ⟨?_, fun _ _ => id, fun _ => id⟩
      intro decision after held
      change LogTrue _ _
      rw [LogTrue, held, List.filterMap_append]
      rfl

theorem keeps_record (receipt : UsageReceipt) :
    Keeps (LogTrue checkpoint) (record (traced ports) receipt) := by
  have recorded : Keeps (LogTrue checkpoint) (record { traced ports with usageSink := none } receipt) := by
    unfold record traced
    cases ports.budget with
    | none => exact keeps_pure true
    | some budget =>
      intro world told
      have ahead : (world.log ++ [LoopEvent.recorded receipt]).filterMap (LoopEvent.seen checkpoint) =
          world.env.calls ++ [.recorded receipt] := by
        rw [List.filterMap_append, told]
        rfl
      change (note _ >>= _ : Loop (Traced ω F) F Bool).After _ _
      unfold note
      rw [after_bind, after_change]
      refine (after_trace _ ahead).weaken ⟨?_, fun _ _ => id, fun _ => id⟩
      exact fun value after held => ⟨(held.trans (List.append_nil _)).symm, trivial⟩
  unfold record
  cases found : (traced ports).usageSink with
  | none => exact recorded
  | some sink =>
    obtain ⟨inner, -, rfl⟩ := Option.map_eq_some_iff.mp found
    exact (keeps_trace (inner receipt)).bind fun _ => recorded

theorem keeps_providerCall (messages : List PromptMessage) :
    Keeps (LogTrue ports.checkpoint.isSome) (providerCall (traced ports) messages) := by
  intro world told
  unfold providerCall note
  rw [after_bind, after_change]
  refine after_bind_kept (after_logged rfl told) ?_
  intro response after held
  exact (keeps_raiseIfCancelled.bind fun _ =>
    (logTrue_invariant ports).keeps_confirm.bind fun _ => keeps_pure response) after held

end Traces

/-- A session logs the calls of its environment as they are made. -/
theorem run_logTrue (ports : LoopPorts ω F ρ) (spec : SessionSpec) (decoder : Decoder F) (env : ω) :
    LogTrue ports.checkpoint.isSome (run (traced ports) spec decoder ⟨⟨env, []⟩, false, []⟩).2 := by
  have invariant := logTrue_invariant ports
  refine (invariant.keeps_run ?_).kept rfl
  intro roundIndex locals world told
  refine ((keeps_providerCall locals.messages).throughout told).weaken ⟨?_, fun _ _ => id, fun _ => id⟩
  intro response after held
  apply invariant.after_handleResponse
  have noted : LogTrue ports.checkpoint.isSome
      { after with log := after.log ++ [.responded response] } := by
    rw [LogTrue, List.filterMap_append, held]
    exact List.append_nil _
  refine (invariant.keeps_stopped.throughout noted).weaken ⟨?_, fun _ _ => id, fun _ => id⟩
  intro stop reached kept
  cases stop with
  | true => exact kept
  | false => exact (keeps_record _).throughout kept

end AgentLoop

end CodeMigrator
