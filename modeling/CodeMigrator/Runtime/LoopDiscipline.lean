import CodeMigrator.Runtime.LoopCalls

/-!
# The discipline of the agent loop

However the environment behaves, a session stays within its rounds, calls no tool once the gate has
refused, returns the actions of the steps that were not cancelled, and publishes an outcome only
behind a checkpoint that carries it.
-/

namespace CodeMigrator.AgentLoop
open Lib Lib.Process

variable {ω F ρ α : Type}

/-! ## Logs -/

/-- A call of the provider. -/
def isCall : LoopEvent F → Bool
  | .called _ => true
  | _ => false

/-- How many provider calls there were. -/
def callCount (log : List (LoopEvent F)) : Nat := log.countP isCall

/-- The actions of the steps so far: those of finished steps, and that of the last one as long as it
is not cancelled. -/
structure Steps (F : Type) where
  kept : List (Fields F)
  pending : Option (Fields F)

namespace Steps

def all (steps : Steps F) : List (Fields F) := steps.kept ++ steps.pending.toList

/-- A tool call begins a step. The step is cancelled when the gate refuses at one of its checks or
the environment withdraws it; a provider call shows that it was not. -/
def next (steps : Steps F) : LoopEvent F → Steps F
  | .dispatched payload => ⟨steps.all, some payload⟩
  | .called _ => ⟨steps.all, none⟩
  | .answered .step false | .withdrawn .step => ⟨steps.kept, none⟩
  | _ => steps

end Steps

/-- The steps of a log. -/
def stepsOf (log : List (LoopEvent F)) : Steps F := log.foldl Steps.next ⟨[], none⟩

/-- The actions that were dispatched in steps that were not cancelled. -/
def uncancelledActions (log : List (LoopEvent F)) : List (Fields F) := (stepsOf log).all

/-- The gate has refused nothing. -/
def NoRefusal (log : List (LoopEvent F)) : Prop := ∀ check, .answered check false ∉ log

/-- Nothing was dispatched behind a refusal. -/
def NoDispatchAfterRefusal (log : List (LoopEvent F)) : Prop :=
  ∀ earlier payload later, log = earlier ++ .dispatched payload :: later → NoRefusal earlier

/-- A published outcome stands behind a decision that was accepted and committed and, for an agent
run, carries the receipt of the run and the digest of its candidate where one is needed. -/
def PublishedSoundly (spec : SessionSpec) (result : SessionResult F ρ) (log : List (LoopEvent F)) :
    Prop :=
  result.outcomePublished = true → ∃ decision, log.getLast? = some (.decided decision) ∧
    decision.accepted = true ∧ decision.committed = true ∧
    ∀ agentRunId, spec.agentRunId = some agentRunId →
      (∃ receipt, decision.ownerReceipt = some receipt ∧ receipt.agentRunId = agentRunId) ∧
      (requiresCandidateCheckpoint spec.identity = true →
        ∃ digest, decision.candidateCheckpointSha256 = some digest ∧ isSha256 digest = true)

/-- The discipline of a session that ended, with its log. -/
structure Disciplined (spec : SessionSpec) (ended : Except (Stop LoopError) (SessionResult F ρ))
    (log : List (LoopEvent F)) : Prop where
  calls : callCount log ≤ spec.maxRounds
  dispatches : NoDispatchAfterRefusal log
  observations : ∀ result, ended = .ok result →
    result.observations.map (·.action) = uncancelledActions log
  published : ∀ result, ended = .ok result → PublishedSoundly spec result log

/-- Within the rounds, and nothing dispatched behind a refusal. -/
structure Safe (calls : Nat) (log : List (LoopEvent F)) : Prop where
  calls : callCount log ≤ calls
  dispatches : NoDispatchAfterRefusal log

/-- The steps that were not cancelled are those of the actions. -/
structure Settled (calls : Nat) (actions : List (Fields F)) (log : List (LoopEvent F)) : Prop
    extends Safe calls log where
  actions : uncancelledActions log = actions

/-- An event that neither calls the provider nor dispatches. -/
def isReply : LoopEvent F → Bool
  | .called _ | .dispatched _ => false
  | _ => true

/-- A reply that leaves the steps as they are. -/
def isSessionReply : LoopEvent F → Bool
  | .called _ | .dispatched _ | .answered .step false | .withdrawn .step => false
  | _ => true

variable {calls : Nat} {actions : List (Fields F)} {log : List (LoopEvent F)} {event : LoopEvent F}
  {payload : Fields F} {ends : Ends (LoopWorld ω F) LoopError α}

theorem stepsOf_append (log : List (LoopEvent F)) (event : LoopEvent F) :
    stepsOf (log ++ [event]) = (stepsOf log).next event := by
  simp [stepsOf]

theorem NoRefusal.append (none : NoRefusal log) (quiet : ∀ check, event ≠ .answered check false) :
    NoRefusal (log ++ [event]) := by
  intro check member
  rcases List.mem_append.mp member with old | new
  · exact none check old
  · exact quiet check (List.mem_singleton.mp new).symm

theorem NoDispatchAfterRefusal.append (safe : NoDispatchAfterRefusal log)
    (fine : ∀ payload, event = .dispatched payload → NoRefusal log) :
    NoDispatchAfterRefusal (log ++ [event]) := by
  intro earlier payload later split
  rcases List.eq_nil_or_concat later with rfl | ⟨before, last, rfl⟩
  · obtain ⟨same, last⟩ := List.append_inj' split rfl
    rw [← same]
    exact fine payload (List.singleton_inj.mp last)
  · have shape : log ++ [event] = (earlier ++ .dispatched payload :: before) ++ [last] := by
      rw [split]
      simp
    exact safe earlier payload before (List.append_inj' shape rfl).1

theorem Safe.append (safe : Safe calls log) (reply : isReply event = true) :
    Safe calls (log ++ [event]) := by
  constructor
  · have none : isCall event = false := by
      cases event <;> first | rfl | cases reply
    simpa [callCount, List.countP_append, none] using safe.calls
  · apply safe.dispatches.append
    rintro payload rfl
    cases reply

theorem Settled.append (settled : Settled calls actions log) (reply : isSessionReply event = true) :
    Settled calls actions (log ++ [event]) := by
  have isReply : isReply event = true := by cases event <;> simp_all [isReply, isSessionReply]
  refine ⟨settled.toSafe.append isReply, ?_⟩
  have same : (stepsOf log).next event = stepsOf log := by
    unfold isSessionReply at reply
    unfold Steps.next
    split <;> simp_all
  rw [uncancelledActions, stepsOf_append, same]
  exact settled.actions

/-! ## Calls of the environment -/

theorem after_handed {check : LoopCheck} {port : TokenPort ω α} {world : LoopWorld ω F}
    (returns : ∀ value env token, ends.returns value ⟨env, world.token || token,
      world.log ++ if token then [.withdrawn check] else []⟩)
    (raises : ∀ error env token, ends.raises error ⟨env, world.token || token,
      world.log ++ if token || decide (error = .sessionCancelled) then [.withdrawn check] else []⟩)
    (dies : ∀ env token, ends.dies ⟨env, world.token || token,
      world.log ++ if token then [.withdrawn check] else []⟩) :
    (handed check port).After ends world := by
  unfold After handed
  rcases port (world.env, world.token) with ⟨(⟨error⟩ | _) | value, env, token⟩
  · have held := raises error env token
    cases error <;> simpa [withdraws, Ends.Hold] using held
  · simpa [withdraws, Ends.Hold] using dies env token
  · simpa [withdraws, Ends.Hold] using returns value env token

theorem after_asked {check : LoopCheck} {port : Port ω α} {world : LoopWorld ω F}
    (returns : ∀ value env, ends.returns value ⟨env, world.token, world.log⟩)
    (raises : ∀ error env, ends.raises error ⟨env, world.token,
      world.log ++ if error = .sessionCancelled then [.withdrawn check] else []⟩)
    (dies : ∀ env, ends.dies ⟨env, world.token, world.log⟩) :
    (asked check port).After ends world := by
  unfold After
  rw [asked_eq]
  rcases port world.env with ⟨(⟨error⟩ | _) | value, env⟩
  · have held := raises error env
    cases error <;> simpa [withdraws, Ends.Hold] using held
  · simpa [withdraws, Ends.Hold] using dies env
  · simpa [withdraws, Ends.Hold] using returns value env

/-! ## Phases of a session

While the loop calls the environment a property holds of the world, and when the session is
cancelled there another one does. -/

/-- The checks of one kind lead from worlds with `P` to such worlds, or to worlds with `Q` where the
session is cancelled; `P` entails `Q` as soon as the token is cancelled. -/
structure LoopPhase (check : LoopCheck) (P Q : LoopWorld ω F → Prop) : Prop where
  moves : ∀ world env, P world → P ⟨env, world.token, world.log⟩
  withdrawn : ∀ world env, P world → Q ⟨env, world.token, world.log ++ [.withdrawn check]⟩
  cancelled : ∀ world env, P world → P ⟨env, true, world.log ++ [.withdrawn check]⟩
  allowed : ∀ world, P world → P ⟨world.env, world.token, world.log ++ [.answered check true]⟩
  refused : ∀ world, P world → Q ⟨world.env, world.token, world.log ++ [.answered check false]⟩
  cancels : ∀ world, Q world → P ⟨world.env, true, world.log⟩
  stops : ∀ world, P world → world.token = true → Q world
  rests : ∀ world env token, Q world → Q ⟨env, token, world.log⟩
  answered : ∀ world answer, Q world → Q ⟨world.env, world.token, world.log ++ [.answered check answer]⟩

/-- The ends of a part of a phase: it raises `SessionCancelled` where the session is cancelled, and
another exception within the phase. -/
def phaseEnds (P Q : LoopWorld ω F → Prop) (done : α → LoopWorld ω F → Prop) :
    Ends (LoopWorld ω F) LoopError α :=
  ⟨done, fun error world => (error = .sessionCancelled → Q world) ∧ (error ≠ .sessionCancelled → P world),
    fun world => P world ∨ Q world⟩

section Phases

variable {check : LoopCheck} {P Q : LoopWorld ω F → Prop} {world : LoopWorld ω F}
  {ports : LoopPorts ω F ρ}

section

variable (phase : LoopPhase check P Q)
include phase

theorem LoopPhase.after_handed (port : TokenPort ω α) (holds : P world) :
    (handed check port).After (phaseEnds P Q fun _ => P) world := by
  have quiet : ∀ env, P ⟨env, world.token, world.log ++ []⟩ := by
    intro env
    rw [List.append_nil]
    exact phase.moves world env holds
  have left : ∀ env (token : Bool), P ⟨env, world.token || token,
      world.log ++ if token then [.withdrawn check] else []⟩ := by
    intro env token
    cases token with
    | false => simpa using quiet env
    | true => simpa using phase.cancelled world env holds
  apply AgentLoop.after_handed
  · exact fun _ env token => left env token
  · intro error env token
    constructor
    · rintro rfl
      cases token with
      | false => simpa using phase.withdrawn world env holds
      | true => simpa using phase.stops _ (phase.cancelled world env holds) rfl
    · intro other
      simpa [other] using left env token
  · exact fun env token => .inl (left env token)

theorem LoopPhase.after_asked (port : Port ω α) (holds : P world) :
    (asked check port).After (phaseEnds P Q fun _ after => P after ∧ after.token = world.token)
      world := by
  apply AgentLoop.after_asked
  · exact fun _ env => ⟨phase.moves world env holds, rfl⟩
  · intro error env
    constructor
    · rintro rfl
      simpa using phase.withdrawn world env holds
    · intro other
      simpa [other] using phase.moves world env holds
  · exact fun env => .inl (phase.moves world env holds)

theorem LoopPhase.after_allowed (holds : P world) :
    (AgentLoop.allowed ports check).After (phaseEnds P Q fun answer after =>
      after.token = world.token ∧ if answer then P after else Q after) world := by
  unfold AgentLoop.allowed
  cases ports.gate with
  | none => exact ⟨rfl, holds⟩
  | some gate =>
    refine (phase.after_asked gate.allow holds).next ?_
    rintro answer after ⟨held, same⟩
    cases answer with
    | true => exact ⟨same, phase.allowed after held⟩
    | false => exact ⟨same, phase.refused after held⟩

theorem LoopPhase.after_raiseIfCancelled (holds : P world) :
    (raiseIfCancelled : Loop ω F Unit).After
      (phaseEnds P Q fun _ after => after = world ∧ world.token = false) world := by
  unfold raiseIfCancelled
  rw [after_bind, after_ask]
  cases token : world.token with
  | false => exact ⟨rfl, rfl⟩
  | true => exact ⟨fun _ => phase.stops world holds token, fun other => absurd rfl other⟩

theorem LoopPhase.after_confirm (holds : P world) :
    (confirm ports check).After
      (phaseEnds P Q fun _ after => P after ∧ after.token = world.token) world := by
  unfold confirm
  refine (phase.after_allowed holds).next ?_
  rintro answer after ⟨same, held⟩
  cases answer with
  | true => exact ⟨held, same⟩
  | false =>
    have cancelled := phase.cancels after held
    have raised : ∀ left, P left → left.token = true →
        (raise .sessionCancelled : Loop ω F Unit).After
          (phaseEnds P Q fun _ after => P after ∧ after.token = world.token) left := by
      intro left kept token
      exact ⟨fun _ => phase.stops left kept token, fun other => absurd rfl other⟩
    change ((change _ >>= fun _ => notifyCancel ports check >>= fun _ => raise _) : Loop ω F Unit).After
      _ _
    rw [after_bind, after_change]
    change (notifyCancel ports check >>= fun _ => raise _ : Loop ω F Unit).After _ _
    rw [after_bind]
    unfold notifyCancel
    cases ports.gate with
    | none => exact raised _ cancelled rfl
    | some gate =>
      refine (phase.after_asked gate.cancel cancelled).weaken ⟨?_, fun _ _ => id, fun _ => id⟩
      rintro _ left ⟨kept, token⟩
      exact raised left kept token

theorem LoopPhase.after_stopped (holds : P world) :
    (stopped ports check).After (phaseEnds P Q fun stop after =>
      if stop then Q after else P after ∧ after.token = false) world := by
  unfold stopped
  rw [after_bind, after_ask]
  cases token : world.token with
  | true => exact phase.stops world holds token
  | false =>
    refine (phase.after_allowed holds).next ?_
    rintro answer after ⟨same, held⟩
    cases answer with
    | true => exact ⟨held, same.trans token⟩
    | false => exact held

theorem LoopPhase.watched (holds : P world) : P (watch ports check world) := by
  unfold watch
  cases ports.gate with
  | none => exact holds
  | some gate =>
    have heard : ∀ (answers : List Bool) (env : ω) (before : LoopWorld ω F), P before →
        P ⟨env, before.token || (untilRefusal answers).contains false,
          before.log ++ (untilRefusal answers).map (.answered check)⟩ := by
      intro answers
      induction answers with
      | nil =>
        intro env before held
        simpa [untilRefusal] using phase.moves before env held
      | cons answer answers ih =>
        intro env before held
        cases answer with
        | true =>
          simpa [untilRefusal] using ih env _ (phase.allowed before held)
        | false =>
          have out := phase.cancels _ (phase.refused before held)
          simpa [untilRefusal] using phase.moves _ env out
    exact heard _ _ world holds

theorem LoopPhase.watched_out (holds : Q world) : Q (watch ports check world) := by
  unfold watch
  cases ports.gate with
  | none => exact holds
  | some gate =>
    have heard : ∀ (answers : List Bool) (env : ω) (token : Bool) (before : LoopWorld ω F),
        Q before → Q ⟨env, token, before.log ++ answers.map (.answered check)⟩ := by
      intro answers
      induction answers with
      | nil =>
        intro env token before held
        simpa using phase.rests before env token held
      | cons answer answers ih =>
        intro env token before held
        simpa using ih env token _ (phase.answered before answer held)
    exact heard _ _ _ world holds

theorem LoopPhase.after_called (port : TokenPort ω α) (holds : P world) :
    (ensuring (handed check port) (watch ports check)).After (phaseEnds P Q fun _ => P) world := by
  rw [after_ensuring]
  refine (phase.after_handed port holds).weaken ⟨?_, ?_, ?_⟩
  · exact fun _ _ held => phase.watched held
  · exact fun _ _ held => ⟨fun out => phase.watched_out (held.1 out),
      fun other => phase.watched (held.2 other)⟩
  · rintro _ (held | held)
    · exact .inl (phase.watched held)
    · exact .inr (phase.watched_out held)

end

end Phases

/-! ## Between the steps and in a step -/

/-- Between two steps: nothing was refused, unless the token is cancelled. -/
def Steady (calls : Nat) (actions : List (Fields F)) (world : LoopWorld ω F) : Prop :=
  Settled calls actions world.log ∧ (world.token = false → NoRefusal world.log)

/-- A step that was cancelled. -/
def Dropped (calls : Nat) (actions : List (Fields F)) (world : LoopWorld ω F) : Prop :=
  Safe calls world.log ∧ stepsOf world.log = ⟨actions, none⟩

/-- In the step of a tool call, which is cancelled when the token is. -/
def InStep (calls : Nat) (actions : List (Fields F)) (payload : Fields F) (world : LoopWorld ω F) :
    Prop :=
  Safe calls world.log ∧ (world.token = true → stepsOf world.log = ⟨actions, none⟩) ∧
    (world.token = false → stepsOf world.log = ⟨actions, some payload⟩ ∧ NoRefusal world.log)

theorem sessionPhase (calls : Nat) (actions : List (Fields F)) :
    LoopPhase .session (Steady calls actions : LoopWorld ω F → Prop) fun world => Settled calls actions world.log where
  moves := fun _ _ holds => holds
  withdrawn := fun _ _ holds => holds.1.append rfl
  cancelled := fun _ _ holds => ⟨holds.1.append rfl, nofun⟩
  allowed := fun _ holds => ⟨holds.1.append rfl, fun token => (holds.2 token).append (by simp)⟩
  refused := fun _ holds => holds.1.append rfl
  cancels := fun _ holds => ⟨holds, nofun⟩
  stops := fun _ holds _ => holds.1
  rests := fun _ _ _ holds => holds
  answered := fun _ _ holds => holds.append rfl

variable {world : LoopWorld ω F}

theorem InStep.kept (holds : InStep calls actions payload world) :
    (stepsOf world.log).kept = actions := by
  cases token : world.token with
  | true => rw [holds.2.1 token]
  | false => rw [(holds.2.2 token).1]

theorem InStep.drop (holds : InStep calls actions payload world) (env : ω) (token : Bool)
    (reply : isReply event = true)
    (drops : ∀ steps : Steps F, steps.next event = ⟨steps.kept, none⟩) :
    Dropped calls actions ⟨env, token, world.log ++ [event]⟩ := by
  refine ⟨holds.1.append reply, ?_⟩
  rw [stepsOf_append, drops, holds.kept]

theorem stepPhase (calls : Nat) (actions : List (Fields F)) (payload : Fields F) :
    LoopPhase .step (InStep calls actions payload : LoopWorld ω F → Prop) (Dropped calls actions) where
  moves := fun _ _ holds => holds
  withdrawn := fun world env holds => holds.drop env world.token rfl fun _ => rfl
  cancelled := by
    intro world env holds
    have dropped : Dropped calls actions ⟨env, true, world.log ++ [.withdrawn .step]⟩ :=
      holds.drop env true rfl fun _ => rfl
    exact ⟨dropped.1, fun _ => dropped.2, nofun⟩
  allowed := by
    intro world holds
    refine ⟨holds.1.append rfl, ?_, ?_⟩
    · intro token
      rw [stepsOf_append, holds.2.1 token]
      rfl
    · intro token
      obtain ⟨steps, none⟩ := holds.2.2 token
      refine ⟨?_, none.append (by simp)⟩
      rw [stepsOf_append, steps]
      rfl
  refused := fun world holds => holds.drop world.env world.token rfl fun _ => rfl
  cancels := fun _ holds => ⟨holds.1, fun _ => holds.2, nofun⟩
  stops := fun _ holds token => ⟨holds.1, holds.2.1 token⟩
  rests := fun _ _ _ holds => holds
  answered := by
    intro world answer holds
    refine ⟨holds.1.append rfl, ?_⟩
    rw [stepsOf_append, holds.2]
    cases answer <;> rfl

theorem Dropped.settled (dropped : Dropped calls actions world) :
    Settled calls actions world.log := by
  refine ⟨dropped.1, ?_⟩
  rw [uncancelledActions, dropped.2]
  simp [Steps.all]

theorem InStep.steady (holds : InStep calls actions payload world) (token : world.token = false) :
    Steady calls (actions ++ [payload]) world := by
  obtain ⟨steps, none⟩ := holds.2.2 token
  refine ⟨⟨holds.1, ?_⟩, fun _ => none⟩
  rw [uncancelledActions, steps]
  simp [Steps.all]

theorem Steady.dispatched (holds : Steady calls actions world) (token : world.token = false)
    (payload : Fields F) :
    InStep calls actions payload ⟨world.env, world.token, world.log ++ [.dispatched payload]⟩ := by
  have none := holds.2 token
  refine ⟨⟨?_, ?_⟩, ?_, ?_⟩
  · simpa [callCount, List.countP_append, isCall] using holds.1.calls
  · exact holds.1.dispatches.append fun _ _ => none
  · intro cancelled
    rw [token] at cancelled
    cases cancelled
  · intro _
    refine ⟨?_, none.append (by simp)⟩
    rw [stepsOf_append, Steps.next]
    have actions := holds.1.actions
    rw [uncancelledActions] at actions
    rw [actions]

theorem Steady.called (holds : Steady calls actions world) (messages : List PromptMessage) :
    Steady (calls + 1) actions ⟨world.env, world.token, world.log ++ [.called messages]⟩ := by
  refine ⟨⟨⟨?_, ?_⟩, ?_⟩, fun token => (holds.2 token).append (by simp)⟩
  · have bound := holds.1.calls
    simp only [callCount, List.countP_append, List.countP_singleton, isCall, if_true] at bound ⊢
    omega
  · exact holds.1.dispatches.append nofun
  · rw [uncancelledActions, stepsOf_append, Steps.next]
    have actions := holds.1.actions
    rw [uncancelledActions] at actions
    simp [Steps.all, ← actions]

/-! ## Calls of the provider and of tools -/

section Calls

variable {ports : LoopPorts ω F ρ} {world : LoopWorld ω F}

theorem after_providerCall {messages : List PromptMessage} (holds : Steady calls actions world) :
    (providerCall ports messages).After
      (phaseEnds (Steady (calls + 1) actions) (fun after => Settled (calls + 1) actions after.log)
        fun _ after => Steady (calls + 1) actions after ∧ after.token = false) world := by
  have phase := @sessionPhase ω F (calls + 1) actions
  unfold providerCall note
  rw [after_bind, after_change]
  refine (phase.after_called _ (holds.called messages)).next ?_
  intro response after held
  refine (phase.after_raiseIfCancelled held).next ?_
  rintro _ _ ⟨rfl, token⟩
  refine (phase.after_confirm held).next ?_
  rintro _ left ⟨kept, same⟩
  exact ⟨kept, same.trans token⟩

theorem after_dispatch (holds : Steady calls actions world) (token : world.token = false) :
    (dispatch ports payload).After
      (phaseEnds (InStep calls actions payload) (Dropped calls actions)
        fun _ => InStep calls actions payload) world := by
  have phase := @stepPhase ω F calls actions payload
  unfold dispatch note
  have free : (raiseIfCancelled : Loop ω F Unit) world = (.ok (), world) := by
    unfold raiseIfCancelled
    rw [ask_bind, token]
    rfl
  rw [after_bind]
  refine .of_ok free ?_
  change (change _ >>= _ : Loop ω F ρ).After _ _
  rw [after_bind, after_change]
  change (ensuring _ _ >>= _ : Loop ω F ρ).After _ _
  rw [after_bind]
  refine (phase.after_called _ (holds.dispatched token payload)).weaken
    ⟨?_, fun _ _ => id, fun _ => id⟩
  intro result after held
  refine (phase.after_raiseIfCancelled held).next ?_
  rintro _ _ ⟨rfl, -⟩
  refine (phase.after_confirm held).next ?_
  rintro _ left ⟨kept, -⟩
  cases result with
  | some value => exact kept
  | none => exact phase.after_handed ports.awaited kept

end Calls

/-! ## Turns -/

/-- The actions of observations. -/
def actionsOf (observations : List (ToolObservation F ρ)) : List (Fields F) :=
  observations.map (·.action)

/-- What holds when a part of a round returns: of the result, or of the loop that goes on. -/
def TurnHolds (spec : SessionSpec) (calls : Nat) (turn : LoopTurn F ρ) (world : LoopWorld ω F) : Prop :=
  match turn with
  | .ended result => Settled calls (actionsOf result.observations) world.log ∧
      PublishedSoundly spec result world.log
  | .goes locals => Steady calls (actionsOf locals.observations) world ∧ world.token = false

/-- The ends of a part of a round. -/
def turnEnds (spec : SessionSpec) (calls : Nat) : Ends (LoopWorld ω F) LoopError (LoopTurn F ρ) :=
  ⟨TurnHolds spec calls, fun _ world => Safe calls world.log, fun world => Safe calls world.log⟩

section Turns

variable {ports : LoopPorts ω F ρ} {spec : SessionSpec} {world : LoopWorld ω F}
  {locals : LoopState F ρ} {done goal : α → LoopWorld ω F → Prop} {roundIndex : Nat}
  {decision : CheckpointDecision} {response : ProviderResponse}

theorem turn_ended {result : SessionResult F ρ}
    (settled : Settled calls (actionsOf result.observations) world.log)
    (quiet : result.outcomePublished = false) : TurnHolds spec calls (.ended result) world := by
  refine ⟨settled, ?_⟩
  intro published
  rw [quiet] at published
  cases published

theorem sessionEntails (returns : ∀ value world, done value world → goal value world) :
    Ends.Entails (phaseEnds (Steady calls actions) (fun world => Settled calls actions world.log) done)
      ⟨goal, fun _ world => Safe calls world.log, fun world => Safe calls world.log⟩ := by
  refine ⟨returns, ?_, ?_⟩
  · intro error world held
    by_cases cancelled : error = .sessionCancelled
    · exact (held.1 cancelled).toSafe
    · exact (held.2 cancelled).1.toSafe
  · rintro world (held | held)
    · exact held.1.toSafe
    · exact held.toSafe

theorem stepEntails (returns : ∀ value world, done value world → goal value world) :
    Ends.Entails (phaseEnds (InStep calls actions payload) (Dropped calls actions) done)
      ⟨goal, fun _ world => Safe calls world.log, fun world => Safe calls world.log⟩ := by
  refine ⟨returns, ?_, ?_⟩
  · intro error world held
    by_cases cancelled : error = .sessionCancelled
    · exact (held.1 cancelled).1
    · exact (held.2 cancelled).1
  · rintro world (held | held)
    · exact held.1
    · exact held.1

theorem isCancellation_iff {outcome : Except LoopError ρ} :
    isCancellation outcome = true ↔ outcome = .error .sessionCancelled := by
  cases outcome with
  | ok value => simp [isCancellation]
  | error error => cases error <;> simp [isCancellation]

theorem after_finishStep {segmentIndex : Nat} {action : ModelAction F}
    {outcome : Except LoopError ρ}
    (cancelled : outcome = .error .sessionCancelled →
      Dropped calls (actionsOf locals.observations) world)
    (finished : outcome ≠ .error .sessionCancelled →
      InStep calls (actionsOf locals.observations) action.payload world) :
    (finishStep ports spec roundIndex segmentIndex action outcome locals).After
      (turnEnds spec calls) world := by
  unfold finishStep
  by_cases out : outcome = .error .sessionCancelled
  · subst out
    exact turn_ended (cancelled rfl).settled rfl
  · rw [if_neg (isCancellation_iff.not.mpr out), after_bind]
    refine ((stepPhase calls _ action.payload).after_stopped (finished out)).weaken
      (stepEntails ?_)
    intro stop after held
    cases stop with
    | true => exact turn_ended held.settled rfl
    | false =>
      change (ofExcept _ >>= _ : Loop ω F (LoopTurn F ρ)).After _ _
      rw [after_bind, after_ofExcept]
      split
      · refine ⟨?_, held.2⟩
        have steady := held.1.steady held.2
        simpa [actionsOf] using steady
      · exact held.1.1

theorem after_runActions {segmentIndex : Nat} {todo : List (ModelAction F)}
    (holds : Steady calls (actionsOf locals.observations) world) (token : world.token = false) :
    (runActions ports spec roundIndex segmentIndex todo locals).After (turnEnds spec calls) world := by
  induction todo generalizing segmentIndex locals world with
  | nil => exact ⟨holds, token⟩
  | cons action todo ih =>
    unfold runActions
    rw [after_bind]
    refine ((sessionPhase calls _).after_stopped holds).weaken (sessionEntails ?_)
    intro stop after held
    cases stop with
    | true => exact turn_ended held rfl
    | false =>
      have goesOn : ∀ (outcome : Except LoopError ρ) (left : LoopWorld ω F),
          (outcome = .error .sessionCancelled →
            Dropped calls (actionsOf locals.observations) left) →
          (outcome ≠ .error .sessionCancelled →
            InStep calls (actionsOf locals.observations) action.payload left) →
          (finishStep ports spec roundIndex segmentIndex action outcome locals >>= fun turn =>
            match turn with
            | .ended result => pure (.ended result)
            | .goes locals => runActions ports spec roundIndex (segmentIndex + 1) todo locals).After
            (turnEnds spec calls) left := by
        intro outcome left cancelled finished
        refine (after_finishStep cancelled finished).next ?_
        intro turn reached turnHolds
        cases turn with
        | ended result => exact turnHolds
        | goes locals => exact ih turnHolds.1 turnHolds.2
      change (tried _ >>= _ : Loop ω F (LoopTurn F ρ)).After _ _
      rw [after_bind, after_tried]
      refine (after_dispatch held.1 held.2).weaken ⟨?_, ?_, ?_⟩
      · exact fun value left inStep => goesOn (.ok value) left nofun fun _ => inStep
      · intro error left ended
        refine goesOn (.error error) left (fun same => ended.1 (Except.error.inj same)) ?_
        exact fun other => ended.2 fun same => other (congrArg _ same)
      · rintro left (inStep | dropped)
        · exact inStep.1
        · exact dropped.1

/-! ## Rounds -/

theorem carriesOwner_spec (carries : carriesOwner spec decision = true) {agentRunId : AgentRunId}
    (run : spec.agentRunId = some agentRunId) :
    (∃ receipt, decision.ownerReceipt = some receipt ∧ receipt.agentRunId = agentRunId) ∧
      (requiresCandidateCheckpoint spec.identity = true →
        ∃ digest, decision.candidateCheckpointSha256 = some digest ∧ isSha256 digest = true) := by
  unfold carriesOwner at carries
  rw [run] at carries
  simp only [Bool.and_eq_true, beq_iff_eq, Option.map_eq_some_iff, Bool.or_eq_true,
    Bool.not_eq_true', Option.any_eq_true] at carries
  obtain ⟨receipt, candidate⟩ := carries
  refine ⟨receipt, ?_⟩
  intro required
  rcases candidate with free | found
  · rw [required] at free
    cases free
  · exact found

theorem turnHolds_concluded (holds : Steady calls (actionsOf locals.observations) world)
    (token : world.token = false) (last : world.log.getLast? = some (.decided decision)) :
    TurnHolds spec calls (concluded ports spec roundIndex decision locals) world := by
  unfold concluded
  split
  · next published =>
    simp only [Bool.and_eq_true] at published
    obtain ⟨⟨accepted, committed⟩, carries⟩ := published
    refine ⟨holds.1, fun _ => ⟨decision, last, accepted, committed, ?_⟩⟩
    intro agentRunId run
    exact carriesOwner_spec carries run
  · split
    · exact turn_ended holds.1 rfl
    · split
      · exact turn_ended holds.1 rfl
      · exact ⟨holds, token⟩

theorem after_finishRound {turn : NormalizedTurn F}
    (holds : Steady calls (actionsOf locals.observations) world) (token : world.token = false) :
    (finishRound ports spec roundIndex response turn locals).After (turnEnds spec calls) world := by
  unfold finishRound
  split
  · rw [after_bind]
    refine ((sessionPhase calls _).after_stopped holds).weaken (sessionEntails ?_)
    intro stop after held
    cases stop with
    | true => exact turn_ended held rfl
    | false =>
      -- the decision is the last event of the log
      have decided : ∀ (decision : CheckpointDecision) (left : LoopWorld ω F),
          Steady calls (actionsOf locals.observations) left → left.token = false →
          TurnHolds spec calls (concluded ports spec roundIndex decision locals)
            { left with log := left.log ++ [.decided decision] } := by
        intro decision left steady quiet
        refine turnHolds_concluded ⟨steady.1.append rfl, ?_⟩ quiet (by simp)
        exact fun same => (steady.2 same).append (by simp)
      change (precheck ports locals.observations >>= _ : Loop ω F (LoopTurn F ρ)).After _ _
      rw [after_bind]
      unfold precheck
      cases ports.checkpoint with
      | none => exact decided _ after held.1 held.2
      | some checkpoint =>
        rw [after_tried]
        refine ((sessionPhase calls _).after_asked (checkpoint _) held.1).weaken ⟨?_, ?_, ?_⟩
        · rintro decision left ⟨steady, same⟩
          exact decided decision left steady (same.trans held.2)
        · intro error left ended
          change TurnHolds spec calls (.ended (failed spec locals roundIndex "CHECKPOINT_ERROR")) left
          refine turn_ended ?_ rfl
          by_cases cancelled : error = .sessionCancelled
          · exact ended.1 cancelled
          · exact (ended.2 cancelled).1
        · rintro left (steady | settled)
          · exact steady.1.toSafe
          · exact settled.toSafe
  · split
    · exact turn_ended holds.1 rfl
    · exact ⟨holds, token⟩

theorem after_record {receipt : UsageReceipt} (holds : Steady calls actions world) :
    (record ports receipt).After (phaseEnds (Steady calls actions)
      (fun after => Settled calls actions after.log)
      fun _ after => Steady calls actions after ∧ after.token = world.token) world := by
  have phase := @sessionPhase ω F calls actions
  -- what follows the sink is what is done without one
  have recorded : ∀ before : LoopWorld ω F, Steady calls actions before →
      before.token = world.token → (record { ports with usageSink := none } receipt).After
        (phaseEnds (Steady calls actions) (fun after => Settled calls actions after.log)
          fun _ after => Steady calls actions after ∧ after.token = world.token) before := by
    intro before steady same
    unfold record
    cases ports.budget with
    | none => exact ⟨steady, same⟩
    | some budget =>
      have noted : Steady calls actions
          { before with log := before.log ++ [.recorded receipt] } :=
        ⟨steady.1.append rfl, fun token => (steady.2 token).append (by simp)⟩
      change (note _ >>= _ : Loop ω F Bool).After _ _
      unfold note
      rw [after_bind, after_change]
      refine (phase.after_asked (budget.record receipt) noted).weaken ⟨?_, fun _ _ => id, fun _ => id⟩
      exact fun _ left held => ⟨held.1, held.2.trans same⟩
  unfold record
  cases ports.usageSink with
  | none => exact recorded world holds rfl
  | some sink =>
    refine (phase.after_asked (sink receipt) holds).next ?_
    exact fun _ left held => recorded left held.1 held.2

theorem withResponse_observations (roundIndex : Nat) (response : ProviderResponse) :
    (withResponse spec roundIndex response locals).observations = locals.observations := by
  unfold withResponse
  split <;> rfl

theorem after_handleResponse {decoder : Decoder F}
    (holds : Steady calls (actionsOf locals.observations) world) :
    (handleResponse ports spec decoder roundIndex response locals).After (turnEnds spec calls)
      world := by
  have phase := @sessionPhase ω F calls (actionsOf locals.observations)
  unfold handleResponse
  rw [after_bind]
  refine (phase.after_stopped holds).weaken (sessionEntails ?_)
  intro stop after held
  cases stop with
  | true => exact turn_ended held rfl
  | false =>
    change (record ports _ >>= _ : Loop ω F (LoopTurn F ρ)).After _ _
    rw [after_bind]
    refine (after_record held.1).weaken (sessionEntails ?_)
    rintro admitted left ⟨steady, same⟩
    cases admitted with
    | false => exact turn_ended steady.1 rfl
    | true =>
      dsimp only
      rw [if_pos rfl]
      cases normalizeResponse decoder response with
      | error failure =>
        cases failure with
        | normalization _ => exact turn_ended steady.1 rfl
        | uncaught _ => exact steady.1.toSafe
      | ok turn =>
        have kept : (withResponse spec roundIndex response
            { locals with usages := locals.usages ++ [response.usage] }).observations =
              locals.observations := withResponse_observations roundIndex response
        rw [after_bind]
        refine (phase.after_stopped steady).weaken (sessionEntails ?_)
        intro stop later held
        cases stop with
        | true => exact turn_ended (by rw [invalidated, result, kept]; exact held) rfl
        | false =>
          rw [if_neg Bool.false_ne_true, after_bind]
          refine (after_runActions (by rw [kept]; exact held.1) held.2).weaken
            ⟨?_, fun _ _ => id, fun _ => id⟩
          intro ran reached turnHolds
          cases ran with
          | ended result => exact turnHolds
          | goes locals => exact after_finishRound turnHolds.1 turnHolds.2

theorem after_admitted (holds : Steady calls actions world) :
    (admitted ports).After (phaseEnds (Steady calls actions)
      (fun after => Settled calls actions after.log)
      fun _ after => Steady calls actions after ∧ after.token = world.token) world := by
  unfold admitted
  cases ports.budget with
  | none => exact ⟨holds, rfl⟩
  | some budget => exact (sessionPhase calls actions).after_asked budget.admits holds

theorem turnHolds_providerFailure {error : LoopError}
    (settled : Settled calls (actionsOf locals.observations) world.log) :
    TurnHolds spec calls (.ended (providerFailure spec roundIndex error locals)) world := by
  unfold providerFailure
  split <;> exact turn_ended settled rfl

theorem after_agentRound {decoder : Decoder F}
    (holds : Steady calls (actionsOf locals.observations) world) (token : world.token = false) :
    (agentRound ports spec decoder roundIndex locals).After (turnEnds spec (calls + 1)) world := by
  have phase := @sessionPhase ω F calls (actionsOf locals.observations)
  have more : ∀ {log : List (LoopEvent F)}, Safe calls log → Safe (calls + 1) log :=
    fun safe => ⟨Nat.le_succ_of_le safe.calls, safe.dispatches⟩
  have settledMore : ∀ {log : List (LoopEvent F)},
      Settled calls (actionsOf locals.observations) log →
      Settled (calls + 1) (actionsOf locals.observations) log :=
    fun settled => ⟨more settled.toSafe, settled.actions⟩
  -- a part of the round before its provider call
  have before : ∀ {β : Type} {done goal : β → LoopWorld ω F → Prop},
      (∀ value world, done value world → goal value world) →
      Ends.Entails (phaseEnds (Steady calls (actionsOf locals.observations))
        (fun world => Settled calls (actionsOf locals.observations) world.log) done)
        ⟨goal, fun _ world => Safe (calls + 1) world.log, fun world => Safe (calls + 1) world.log⟩ := by
    intro β done goal returns
    have entails : Ends.Entails (phaseEnds (Steady calls (actionsOf locals.observations))
        (fun world => Settled calls (actionsOf locals.observations) world.log) done)
        ⟨goal, fun _ world => Safe calls world.log, fun world => Safe calls world.log⟩ :=
      sessionEntails returns
    exact ⟨entails.returns, fun error world held => more (entails.raises error world held),
      fun world held => more (entails.dies world held)⟩
  unfold agentRound
  rw [after_bind]
  refine (phase.after_allowed holds).weaken (before ?_)
  rintro answer after ⟨same, held⟩
  cases answer with
  | false => exact turn_ended (settledMore held) rfl
  | true =>
    rw [if_pos rfl, after_bind]
    refine (after_admitted held).weaken (before ?_)
    rintro open_ left ⟨steady, sameToken⟩
    cases open_ with
    | false => exact turn_ended (settledMore steady.1) rfl
    | true =>
      rw [if_pos rfl, after_bind, after_ofExcept]
      split
      · next overflow fits =>
        cases overflow with
        | true => exact turn_ended (settledMore steady.1) rfl
        | false =>
          have quiet : left.token = false := sameToken.trans (same.trans token)
          have fresh : Steady calls (actionsOf locals.observations)
              { left with token := false } :=
            ⟨steady.1, fun _ => steady.2 quiet⟩
          change (change _ >>= fun _ => tried _ >>= _ : Loop ω F (LoopTurn F ρ)).After _ _
          rw [after_bind, after_change]
          change (tried _ >>= _ : Loop ω F (LoopTurn F ρ)).After _ _
          rw [after_bind, after_tried]
          refine (after_providerCall fresh).weaken ⟨?_, ?_, ?_⟩
          · rintro response reached ⟨called, -⟩
            change (note _ >>= _ : Loop ω F (LoopTurn F ρ)).After _ _
            unfold note
            rw [after_bind, after_change]
            refine after_handleResponse ⟨called.1.append rfl, ?_⟩
            exact fun token => (called.2 token).append (by simp)
          · intro error reached ended
            apply turnHolds_providerFailure
            by_cases cancelled : error = .sessionCancelled
            · exact ended.1 cancelled
            · exact (ended.2 cancelled).1
          · rintro reached (steady | settled)
            · exact steady.1.toSafe
            · exact settled.toSafe
      · exact more steady.1.toSafe

theorem after_runRounds {decoder : Decoder F} {left roundIndex : Nat}
    (holds : Steady calls (actionsOf locals.observations) world) (token : world.token = false) :
    (runRounds ports spec decoder left roundIndex locals).After
      ⟨fun result after => Settled (calls + left) (actionsOf result.observations) after.log ∧
          PublishedSoundly spec result after.log,
        fun _ after => Safe (calls + left) after.log, fun after => Safe (calls + left) after.log⟩
      world := by
  induction left generalizing calls roundIndex locals world with
  | zero => exact ⟨holds.1, nofun⟩
  | succ left ih =>
    have bound : calls + (left + 1) = calls + 1 + left := by omega
    have more : ∀ {log : List (LoopEvent F)}, Safe (calls + 1) log → Safe (calls + 1 + left) log :=
      fun safe => ⟨Nat.le_add_right_of_le safe.calls, safe.dispatches⟩
    unfold runRounds
    rw [after_bind, bound]
    refine (after_agentRound holds token).weaken ⟨?_, fun _ _ => more, fun _ => more⟩
    intro turn after turnHolds
    cases turn with
    | ended result =>
      obtain ⟨settled, published⟩ := turnHolds
      exact ⟨⟨more settled.toSafe, settled.actions⟩, published⟩
    | goes locals => exact ih turnHolds.1 turnHolds.2

end Turns

/-! ## The session -/

theorem safe_nil (calls : Nat) : Safe calls ([] : List (LoopEvent F)) :=
  ⟨Nat.zero_le _, by simp [NoDispatchAfterRefusal]⟩

theorem after_run {ports : LoopPorts ω F ρ} {spec : SessionSpec} {decoder : Decoder F} (env : ω) :
    (run ports spec decoder).After
      ⟨fun result after => Settled spec.maxRounds (actionsOf result.observations) after.log ∧
          PublishedSoundly spec result after.log,
        fun _ after => Safe spec.maxRounds after.log, fun after => Safe spec.maxRounds after.log⟩
      ⟨env, false, []⟩ := by
  unfold run
  rw [after_bind, after_ofExcept]
  split
  · dsimp only
    rw [after_bind, after_ofExcept]
    split
    · next messages _ =>
      dsimp only
      rw [after_bind, after_ofExcept]
      split
      · have start : Steady 0 (actionsOf ([] : List (ToolObservation F ρ)))
            (⟨env, false, []⟩ : LoopWorld ω F) :=
          ⟨⟨safe_nil 0, rfl⟩, fun _ => by simp [NoRefusal]⟩
        have rounds := @after_runRounds ω F ρ 0 ports spec ⟨env, false, []⟩
          ⟨messages, [], [], [], 0⟩ decoder spec.maxRounds 1 start rfl
        rw [Nat.zero_add] at rounds
        exact rounds
      · exact safe_nil _
    · exact safe_nil _
  · exact safe_nil _

theorem run_disciplined (ports : LoopPorts ω F ρ) (spec : SessionSpec) (decoder : Decoder F) (env : ω) :
    Disciplined spec (run ports spec decoder ⟨env, false, []⟩).1
      (run ports spec decoder ⟨env, false, []⟩).2.log := by
  have held := @after_run ω F ρ ports spec decoder env
  unfold After at held
  generalize run ports spec decoder ⟨env, false, []⟩ = ended at held ⊢
  rcases ended with ⟨(⟨error⟩ | _) | result, after⟩
  · have safe : Safe spec.maxRounds after.log := held
    exact ⟨safe.calls, safe.dispatches, fun _ same => (nomatch same),
      fun _ same => (nomatch same)⟩
  · have safe : Safe spec.maxRounds after.log := held
    exact ⟨safe.calls, safe.dispatches, fun _ same => (nomatch same),
      fun _ same => (nomatch same)⟩
  · obtain ⟨settled, published⟩ := held
    refine ⟨settled.calls, settled.dispatches, ?_, ?_⟩
    · intro other same
      rw [← Except.ok.inj same]
      exact settled.actions.symm
    · intro other same
      rw [← Except.ok.inj same]
      exact published

/-- The session of a loop whose environment writes down its calls. -/
def tracedSession (ports : LoopPorts ω F ρ) (spec : SessionSpec) (decoder : Decoder F) (env : ω) :
    Except (Stop LoopError) (SessionResult F ρ) × LoopWorld (Traced ω F) F :=
  run (traced ports) spec decoder ⟨⟨env, []⟩, false, []⟩

/-- Every session keeps the discipline of the loop, in a log that tells the calls as the environment
has seen them. -/
theorem agent_loop_disciplined (ports : LoopPorts ω F ρ) (spec : SessionSpec) (decoder : Decoder F)
    (env : ω) :
    Disciplined spec (tracedSession ports spec decoder env).1
        (tracedSession ports spec decoder env).2.log ∧
      LogTrue ports.checkpoint.isSome (tracedSession ports spec decoder env).2 :=
  ⟨run_disciplined (traced ports) spec decoder ⟨env, []⟩, run_logTrue ports spec decoder env⟩

namespace SampleSession

def identity : SessionIdentity := ⟨⟨1⟩, .plan, .planAuxiliary, none⟩

/-- A session of the plan phase with two rounds. -/
def spec : SessionSpec where
  identity := identity
  runStatus := .planning
  binding := ⟨points "provider", points "model", .reasoning, "digest"⟩
  packIdentity := ⟨⟨1⟩, .plan, .planAuxiliary, none, "digest"⟩
  maxRounds := 2
  context := ⟨[], [], []⟩
  template := points "session"
  state := .created
  agentRunId := none

def decoder : Decoder Unit := ⟨fun _ => (), 4300, 990⟩

def call (name : String) : ProviderToolCall :=
  ⟨points name, [Point.openBrace, Point.closeBrace], points name⟩

/-- Two tool calls at first, and then the declaration that the task is complete. -/
def respond (messages : List PromptMessage) : ProviderResponse :=
  if messages.length = 1 then
    ⟨[], [call "Read", call "Shell"], points "tool_calls", ⟨1, 1, 0⟩, points "first"⟩
  else ⟨points "\x7b\"completed\":true\x7d", [], points "stop", ⟨1, 1, 0⟩, points "second"⟩

/-- A gate that refuses from some question on, and a checkpoint that accepts. -/
def ports (refuses : Nat) : LoopPorts Nat Unit Unit where
  provider := fun messages => pure (respond messages)
  dispatch := fun _ => pure (some ())
  awaited := pure ()
  resultText := fun _ => .ok (points "None")
  checkpoint := some fun _ => pure ⟨true, true, [], none, none⟩
  gate := some
    { allow := fun asked => (.ok (asked < refuses), asked + 1)
      cancel := pure ()
      watch := fun asked => ([], asked) }
  budget := none
  usageSink := none
  maxSelfCorrections := 3
  contextFits := fun _ => .ok ()

/-- An event in words. -/
def told : PortEvent Unit → Points
  | .requested _ => points "request"
  | .dispatched payload => toolName payload
  | .answered allowed => points (toString allowed)
  | .withdrawn => points "withdrawn"
  | .recorded _ => points "receipt"
  | .decided _ => points "decision"

/-- The tools of a session that ended, and whether its outcome was published. -/
def outcome (refuses : Nat) : Option (List Points × Bool) :=
  (tracedSession (ports refuses) spec decoder 0).1.toOption.map fun result =>
    (result.observations.map fun observation => toolName observation.action, result.outcomePublished)

/-- A refusal behind the first tool call: the second is not made, and nothing is published. Without
one the session ends with the decision of the checkpoint. -/
theorem agent_loop_disciplined_refused :
    ((tracedSession (ports 7) spec decoder 0).2.env.calls.map told =
        ["true", "request", "true", "true", "true", "true", "Read", "true", "true", "false"].map points ∧
      outcome 7 = some ([points "Read"], false) ∧
      outcome 16 = some ([points "Read", points "Shell"], true)) ∧
    Disciplined spec (tracedSession (ports 7) spec decoder 0).1
        (tracedSession (ports 7) spec decoder 0).2.log ∧
      LogTrue true (tracedSession (ports 7) spec decoder 0).2 :=
  ⟨by decide +kernel, agent_loop_disciplined (ports 7) spec decoder 0⟩

end SampleSession

end CodeMigrator.AgentLoop
