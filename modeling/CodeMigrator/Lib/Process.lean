/-!
# Processes over a durable world

A computation of a process reads and changes a world, and it stops early in two ways: it
raises an exception, which its callers may handle, or the process dies. The world outlives
both. `Process.After` says how a computation ends from a world: one postcondition for each
of the three ends, and the rules below take it apart along the computation.
-/

namespace Lib

/-- Why a computation stops early: an exception, or the death of its process. -/
inductive Stop (ε : Type) where
  | raised (error : ε)
  | died
  deriving DecidableEq

/-- What becomes of a call to another part of the system: it runs, or it raises an exception or
its process dies, either with or without the effect of the call. -/
inductive Fate where
  | runs
  | raises (applied : Bool)
  | dies (applied : Bool)
  deriving DecidableEq

/-- A computation over a world `ω` with exceptions `ε`. -/
def Process (ω ε α : Type) : Type := ω → Except (Stop ε) α × ω

namespace Process

variable {ω σ ε α β : Type}

/-- Nothing but a result. -/
def result (value : α) : Process ω ε α := fun world => (.ok value, world)

/-- One computation after the other. -/
def andThen (first : Process ω ε α) (next : α → Process ω ε β) : Process ω ε β := fun world =>
  match first world with
  | (.ok value, after) => next value after
  | (.error stop, after) => (.error stop, after)

instance : Monad (Process ω ε) where
  pure := result
  bind := andThen

/-- What the world says. -/
def ask (view : ω → α) : Process ω ε α := fun world => (.ok (view world), world)

/-- Changes the world. -/
def change (update : ω → ω) : Process ω ε Unit := fun world => (.ok (), update world)

/-- Raises an exception. -/
def raise (error : ε) : Process ω ε α := fun world => (.error (.raised error), world)

/-- The process dies. -/
def die : Process ω ε α := fun world => (.error .died, world)

/-- A result or an exception. -/
def ofExcept : Except ε α → Process ω ε α
  | .ok value => result value
  | .error error => raise error

/-- Hands an exception to a handler. Nothing handles the death of the process. -/
def catching (body : Process ω ε α) (handler : ε → Process ω ε α) : Process ω ε α := fun world =>
  match body world with
  | (.error (.raised error), after) => handler error after
  | ended => ended

/-- The outcome of a computation; nothing but the death of the process stops it. -/
def tried (body : Process ω ε α) : Process ω ε (Except ε α) := fun world =>
  match body world with
  | (.ok value, after) => (.ok (.ok value), after)
  | (.error (.raised error), after) => (.ok (.error error), after)
  | (.error .died, after) => (.error .died, after)

/-- Changes the world after a computation, however it ends. -/
def ensuring (body : Process ω ε α) (cleanup : ω → ω) : Process ω ε α := fun world =>
  ((body world).1, cleanup (body world).2)

/-- The same computation with other exceptions. -/
def relabel {δ : Type} (label : ε → δ) (body : Process ω ε α) : Process ω δ α := fun world =>
  match body world with
  | (.ok value, after) => (.ok value, after)
  | (.error (.raised error), after) => (.error (.raised (label error)), after)
  | (.error .died, after) => (.error .died, after)

/-- One computation for each item. -/
def each (body : β → Process ω ε Unit) : List β → Process ω ε Unit
  | [] => result ()
  | item :: items => andThen (body item) (fun _ => each body items)

/-- A computation on a part of the world. -/
def within (part : ω → σ) (put : σ → ω → ω) (body : Process σ ε α) : Process ω ε α := fun world =>
  ((body (part world)).1, put (body (part world)).2 world)

/-- A call that meets a fate. -/
def meeting (fate : Fate) (error : ε) (body : Process ω ε α) : Process ω ε α := fun world =>
  match fate with
  | .runs => body world
  | .raises applied => (.error (.raised error), if applied then (body world).2 else world)
  | .dies applied => (.error .died, if applied then (body world).2 else world)

/-- What is to hold when a computation returns, when it raises and when its process dies. -/
structure Ends (ω ε α : Type) where
  returns : α → ω → Prop
  raises : ε → ω → Prop
  dies : ω → Prop

namespace Ends

/-- The end of a computation is as expected. -/
def Hold (ends : Ends ω ε α) : Except (Stop ε) α × ω → Prop
  | (.ok value, world) => ends.returns value world
  | (.error (.raised error), world) => ends.raises error world
  | (.error .died, world) => ends.dies world

/-- An invariant of the world holds however the computation ends, and more when it returns. -/
def keeping (inv : ω → Prop) (done : α → ω → Prop) : Ends ω ε α :=
  ⟨fun value world => inv world ∧ done value world, fun _ => inv, inv⟩

/-- The first expectation entails the second. -/
structure Entails (ends others : Ends ω ε α) : Prop where
  returns : ∀ value world, ends.returns value world → others.returns value world
  raises : ∀ error world, ends.raises error world → others.raises error world
  dies : ∀ world, ends.dies world → others.dies world

theorem Entails.hold {ends others : Ends ω ε α} (entails : Entails ends others)
    {ended : Except (Stop ε) α × ω} (holds : ends.Hold ended) : others.Hold ended := by
  rcases ended with ⟨(⟨error⟩ | _) | value, world⟩
  · exact entails.raises error world holds
  · exact entails.dies world holds
  · exact entails.returns value world holds

end Ends

/-- From the world the computation ends as expected. -/
def After (body : Process ω ε α) (ends : Ends ω ε α) (world : ω) : Prop := ends.Hold (body world)

section Rules

variable {ends others : Ends ω ε α} {world : ω} {body : Process ω ε α} {first : Process ω ε β}
  {fate : Fate}

theorem After.weaken (holds : body.After ends world) (entails : Ends.Entails ends others) :
    body.After others world :=
  entails.hold holds

theorem After.and (first : body.After ends world) (second : body.After others world) :
    body.After ⟨fun value after => ends.returns value after ∧ others.returns value after,
      fun error after => ends.raises error after ∧ others.raises error after,
      fun after => ends.dies after ∧ others.dies after⟩ world := by
  unfold After at *
  generalize body world = ended at *
  rcases ended with ⟨(⟨error⟩ | _) | value, after⟩
  · exact ⟨first, second⟩
  · exact ⟨first, second⟩
  · exact ⟨first, second⟩

theorem After.of_ok {value : α} {after : ω} (ran : body world = (.ok value, after))
    (holds : ends.returns value after) : body.After ends world := by
  rw [After, ran]
  exact holds

theorem After.of_forall (returns : ∀ value after, ends.returns value after)
    (raises : ∀ error after, ends.raises error after) (dies : ∀ after, ends.dies after) :
    body.After ends world := by
  unfold After
  rcases body world with ⟨(⟨error⟩ | _) | value, after⟩
  · exact raises error after
  · exact dies after
  · exact returns value after

theorem After.returned {done : α → ω → Prop}
    (holds : body.After ⟨done, fun _ _ => False, fun _ => False⟩ world) :
    ∃ value after, body world = (.ok value, after) ∧ done value after := by
  unfold After at holds
  rcases ran : body world with ⟨(⟨error⟩ | _) | value, after⟩
  · rw [ran] at holds
    exact holds.elim
  · rw [ran] at holds
    exact holds.elim
  · rw [ran] at holds
    exact ⟨value, after, rfl, holds⟩

@[simp] theorem after_pure (value : α) :
    (pure value : Process ω ε α).After ends world ↔ ends.returns value world := Iff.rfl

@[simp] theorem after_ask (view : ω → α) :
    (ask view : Process ω ε α).After ends world ↔ ends.returns (view world) world := Iff.rfl

@[simp] theorem after_change {ends : Ends ω ε Unit} (update : ω → ω) :
    (change update : Process ω ε Unit).After ends world ↔ ends.returns () (update world) := Iff.rfl

@[simp] theorem after_raise (error : ε) :
    (raise error : Process ω ε α).After ends world ↔ ends.raises error world := Iff.rfl

@[simp] theorem after_die : (die : Process ω ε α).After ends world ↔ ends.dies world := Iff.rfl

theorem after_bind {next : β → Process ω ε α} :
    (first >>= next).After ends world ↔
      first.After ⟨fun value => (next value).After ends, ends.raises, ends.dies⟩ world := by
  change ends.Hold (andThen first next world) ↔ _
  unfold After andThen
  rcases first world with ⟨(⟨error⟩ | _) | value, after⟩
  · exact Iff.rfl
  · exact Iff.rfl
  · exact Iff.rfl

theorem After.next {raises : ε → ω → Prop} {dies : ω → Prop} {done : β → ω → Prop}
    {goal : α → ω → Prop} {next : β → Process ω ε α}
    (before : first.After ⟨done, raises, dies⟩ world)
    (after : ∀ value reached, done value reached → (next value).After ⟨goal, raises, dies⟩ reached) :
    (first >>= next).After ⟨goal, raises, dies⟩ world := by
  rw [after_bind]
  exact before.weaken ⟨after, fun _ _ => id, fun _ => id⟩

theorem after_catching {handler : ε → Process ω ε α} :
    (catching body handler).After ends world ↔
      body.After ⟨ends.returns, fun error => (handler error).After ends, ends.dies⟩ world := by
  unfold After catching
  rcases body world with ⟨(⟨error⟩ | _) | value, after⟩
  · exact Iff.rfl
  · exact Iff.rfl
  · exact Iff.rfl

theorem after_tried {ends : Ends ω ε (Except ε α)} :
    (tried body).After ends world ↔
      body.After ⟨fun value => ends.returns (.ok value), fun error => ends.returns (.error error),
        ends.dies⟩ world := by
  unfold After tried
  rcases body world with ⟨(⟨error⟩ | _) | value, after⟩
  · exact Iff.rfl
  · exact Iff.rfl
  · exact Iff.rfl

theorem after_ensuring {cleanup : ω → ω} :
    (ensuring body cleanup).After ends world ↔
      body.After ⟨fun value after => ends.returns value (cleanup after),
        fun error after => ends.raises error (cleanup after),
        fun after => ends.dies (cleanup after)⟩ world := by
  unfold After ensuring
  rcases body world with ⟨(⟨error⟩ | _) | value, after⟩
  · exact Iff.rfl
  · exact Iff.rfl
  · exact Iff.rfl

theorem after_relabel {δ : Type} {ends : Ends ω δ α} {label : ε → δ} :
    (relabel label body).After ends world ↔
      body.After ⟨ends.returns, fun error => ends.raises (label error), ends.dies⟩ world := by
  unfold After relabel
  rcases body world with ⟨(⟨error⟩ | _) | value, after⟩
  · exact Iff.rfl
  · exact Iff.rfl
  · exact Iff.rfl

theorem after_meeting {error : ε} (runs : fate = .runs → body.After ends world)
    (raises : ∀ applied, fate = .raises applied →
      ends.raises error (if applied then (body world).2 else world))
    (dies : ∀ applied, fate = .dies applied → ends.dies (if applied then (body world).2 else world)) :
    (meeting fate error body).After ends world := by
  cases fate with
  | runs => exact runs rfl
  | raises applied => exact raises applied rfl
  | dies applied => exact dies applied rfl

theorem after_meeting_look {error : ε} (same : (body world).2 = world)
    (runs : fate = .runs → body.After ends world)
    (raises : ∀ applied, fate = .raises applied → ends.raises error world)
    (dies : ∀ applied, fate = .dies applied → ends.dies world) :
    (meeting fate error body).After ends world := by
  have left : ∀ applied : Bool, (if applied then (body world).2 else world) = world := by
    intro applied
    cases applied with
    | false => rfl
    | true => exact same
  refine after_meeting runs (fun applied raised => ?_) (fun applied died => ?_)
  · rw [left]
    exact raises applied raised
  · rw [left]
    exact dies applied died

theorem after_meeting_change {ends : Ends ω ε Unit} {error : ε} {update : ω → ω} (P : ω → Prop)
    (before : P world) (after : P (update world))
    (runs : fate = .runs → ends.returns () (update world))
    (raises : ∀ applied, fate = .raises applied → ∀ left, P left → ends.raises error left)
    (dies : ∀ applied, fate = .dies applied → ∀ left, P left → ends.dies left) :
    (meeting fate error (change update)).After ends world := by
  have left : ∀ applied : Bool, P (if applied then update world else world) := by
    intro applied
    cases applied with
    | false => exact before
    | true => exact after
  exact after_meeting runs (fun applied raised => raises applied raised _ (left applied))
    (fun applied died => dies applied died _ (left applied))

@[simp] theorem meeting_runs (error : ε) (body : Process ω ε α) : meeting .runs error body = body := rfl

theorem after_ofExcept {outcome : Except ε α} :
    (ofExcept outcome : Process ω ε α).After ends world ↔
      match outcome with
      | .ok value => ends.returns value world
      | .error error => ends.raises error world := by
  cases outcome with
  | ok value => exact Iff.rfl
  | error error => exact Iff.rfl

theorem ask_bind (view : ω → β) (next : β → Process ω ε α) (world : ω) :
    (ask view >>= next) world = next (view world) world := rfl

theorem change_bind (update : ω → ω) (next : Unit → Process ω ε α) (world : ω) :
    (change update >>= next) world = next () (update world) := rfl

theorem ofExcept_bind (value : β) (next : β → Process ω ε α) (world : ω) :
    (ofExcept (.ok value) >>= next) world = next value world := rfl

theorem pure_bind_at (value : β) (next : β → Process ω ε α) (world : ω) :
    (pure value >>= next : Process ω ε α) world = next value world := rfl

theorem bind_of_ok {next : β → Process ω ε α} {value : β} {after : ω}
    (ran : first world = (.ok value, after)) : (first >>= next) world = next value after := by
  change andThen first next world = _
  rw [andThen, ran]

theorem bind_of_error {next : β → Process ω ε α} {stop : Stop ε} {after : ω}
    (ran : first world = (.error stop, after)) : (first >>= next) world = (.error stop, after) := by
  change andThen first next world = _
  rw [andThen, ran]

theorem bind_eq_ok {next : β → Process ω ε α} {value : α} {after : ω}
    (ran : (first >>= next) world = (.ok value, after)) :
    ∃ middle between, first world = (.ok middle, between) ∧ next middle between = (.ok value, after) := by
  change andThen first next world = _ at ran
  rw [andThen] at ran
  rcases began : first world with ⟨stop | middle, between⟩
  · rw [began] at ran
    cases ran
  · rw [began] at ran
    exact ⟨middle, between, rfl, ran⟩

theorem ofExcept_eq_ok {outcome : Except ε α} {value : α} {after : ω}
    (ran : (ofExcept outcome : Process ω ε α) world = (.ok value, after)) :
    outcome = .ok value ∧ world = after := by
  cases outcome with
  | ok found =>
    obtain ⟨same, rfl⟩ := Prod.mk.inj ran
    rw [Except.ok.inj same]
    exact ⟨rfl, rfl⟩
  | error error => cases ran

section Keeping

variable {inv : ω → Prop} {done : α → ω → Prop} {body : Process ω ε α}

theorem After.kept (holds : body.After (.keeping inv done) world) : inv (body world).2 := by
  unfold After at holds
  generalize body world = ended at *
  rcases ended with ⟨(⟨error⟩ | _) | value, after⟩
  · exact holds
  · exact holds
  · exact holds.1

theorem keeping_pure {value : α} (kept : inv world) (holds : done value world) :
    (pure value : Process ω ε α).After (.keeping inv done) world := ⟨kept, holds⟩

theorem keeping_ask {view : ω → α} (kept : inv world) (holds : done (view world) world) :
    (ask view : Process ω ε α).After (.keeping inv done) world := ⟨kept, holds⟩

theorem keeping_change {done : Unit → ω → Prop} {update : ω → ω} (kept : inv (update world))
    (holds : done () (update world)) :
    (change update : Process ω ε Unit).After (.keeping inv done) world := ⟨kept, holds⟩

theorem keeping_raise {error : ε} (kept : inv world) :
    (raise error : Process ω ε α).After (.keeping inv done) world := kept

theorem keeping_ofExcept {outcome : Except ε α} (kept : inv world)
    (holds : ∀ value, outcome = .ok value → done value world) :
    (ofExcept outcome : Process ω ε α).After (.keeping inv done) world := by
  cases outcome with
  | ok value => exact ⟨kept, holds value rfl⟩
  | error error => exact kept

theorem keeping_meeting {error : ε} (kept : inv world) (runs : body.After (.keeping inv done) world) :
    (meeting fate error body).After (.keeping inv done) world := by
  have left : ∀ applied : Bool, inv (if applied then (body world).2 else world) := by
    intro applied
    cases applied with
    | false => exact kept
    | true => exact runs.kept
  exact after_meeting (fun _ => runs) (fun applied _ => left applied) (fun applied _ => left applied)

theorem keeping_bind {m : β → ω → Prop} {next : β → Process ω ε α}
    (before : first.After (.keeping inv m) world)
    (after : ∀ value world, inv world → m value world →
      (next value).After (.keeping inv done) world) :
    (first >>= next).After (.keeping inv done) world := by
  rw [after_bind]
  refine before.weaken ⟨?_, fun _ _ kept => kept, fun _ kept => kept⟩
  rintro value reached ⟨kept, holds⟩
  exact after value reached kept holds

theorem keeping_weaken {done' : α → ω → Prop} (holds : body.After (.keeping inv done) world)
    (entails : ∀ value world, inv world → done value world → done' value world) :
    body.After (.keeping inv done') world :=
  holds.weaken ⟨fun value world both => ⟨both.1, entails value world both.1 both.2⟩,
    fun _ _ kept => kept, fun _ kept => kept⟩

theorem keeping_catching {handler : ε → Process ω ε α}
    (first : body.After (.keeping inv done) world)
    (second : ∀ error world, inv world → (handler error).After (.keeping inv done) world) :
    (catching body handler).After (.keeping inv done) world := by
  rw [after_catching]
  exact first.weaken ⟨fun _ _ both => both, second, fun _ kept => kept⟩

end Keeping

section Keeps

variable {inv : ω → Prop} {body : Process ω ε α}

/-- However a computation ends, it keeps an invariant. -/
def Keeps (inv : ω → Prop) (body : Process ω ε α) : Prop :=
  ∀ world, inv world → body.After (.keeping inv (fun _ _ => True)) world

theorem Keeps.kept (keeps : Keeps inv body) (holds : inv world) : inv (body world).2 :=
  (keeps world holds).kept

theorem keeps_pure (value : α) : Keeps inv (pure value : Process ω ε α) :=
  fun _ holds => keeping_pure holds trivial

theorem keeps_ask (view : ω → α) : Keeps inv (ask view : Process ω ε α) :=
  fun _ holds => keeping_ask holds trivial

theorem keeps_raise (error : ε) : Keeps inv (raise error : Process ω ε α) :=
  fun _ holds => keeping_raise holds

theorem keeps_ofExcept (outcome : Except ε α) : Keeps inv (ofExcept outcome : Process ω ε α) :=
  fun _ holds => keeping_ofExcept holds fun _ _ => trivial

theorem keeps_change {update : ω → ω} (kept : ∀ world, inv world → inv (update world)) :
    Keeps inv (change update : Process ω ε Unit) :=
  fun world holds => keeping_change (kept world holds) trivial

theorem Keeps.bind {next : β → Process ω ε α} (before : Keeps inv first)
    (after : ∀ value, Keeps inv (next value)) : Keeps inv (first >>= next) :=
  fun world holds => keeping_bind (before world holds) fun value reached kept _ =>
    after value reached kept

theorem Keeps.meeting {error : ε} (keeps : Keeps inv body) : Keeps inv (meeting fate error body) :=
  fun world holds => keeping_meeting holds (keeps world holds)

theorem Keeps.catching {handler : ε → Process ω ε α} (keeps : Keeps inv body)
    (handled : ∀ error, Keeps inv (handler error)) : Keeps inv (catching body handler) :=
  fun world holds => keeping_catching (keeps world holds) fun error reached kept =>
    handled error reached kept

theorem Keeps.tried (keeps : Keeps inv body) : Keeps inv (tried body) := by
  intro world holds
  rw [after_tried]
  exact (keeps world holds).weaken ⟨fun _ _ both => both, fun _ _ held => ⟨held, trivial⟩,
    fun _ held => held⟩

theorem Keeps.ensuring {cleanup : ω → ω} (keeps : Keeps inv body)
    (kept : ∀ world, inv world → inv (cleanup world)) : Keeps inv (ensuring body cleanup) := by
  intro world holds
  rw [after_ensuring]
  exact (keeps world holds).weaken ⟨fun _ _ both => ⟨kept _ both.1, trivial⟩, fun _ => kept, kept⟩

theorem Keeps.throughout (keeps : Keeps inv body) (holds : inv world) :
    body.After ⟨fun _ => inv, fun _ => inv, inv⟩ world :=
  (keeps world holds).weaken ⟨fun _ _ both => both.1, fun _ _ => id, fun _ => id⟩

theorem Keeps.each {body : β → Process ω ε Unit} (keeps : ∀ item, Keeps inv (body item))
    (items : List β) : Keeps inv (each body items) := by
  induction items with
  | nil => exact keeps_pure ()
  | cons item items ih => exact (keeps item).bind fun _ => ih

end Keeps

theorem after_within {part : ω → σ} {put : σ → ω → ω} {body : Process σ ε α} :
    (within part put body).After ends world ↔
      body.After ⟨fun value after => ends.returns value (put after world),
        fun error after => ends.raises error (put after world),
        fun after => ends.dies (put after world)⟩ (part world) := by
  unfold After within
  rcases body (part world) with ⟨(⟨error⟩ | _) | value, after⟩
  · exact Iff.rfl
  · exact Iff.rfl
  · exact Iff.rfl

end Rules

end Process

end Lib
