/-!
# Runs of a step function

A machine is a step function from a state and an input to the next state. `runFrom`
is the state after a sequence of inputs, `Along` says that a property of a state and
the input handled there holds at every step of the run, `Always` that a property
holds of every state of it, and `Throughout` that a relation holds between any two of
them, the earlier and the later one.
-/

namespace Lib

variable {σ ι : Type} (step : σ → ι → σ)

/-- The state after the inputs. -/
def runFrom (start : σ) (inputs : List ι) : σ := inputs.foldl step start

/-- `P` holds of every input of the run and the state in which it is handled. -/
def Along (P : σ → ι → Prop) : σ → List ι → Prop
  | _, [] => True
  | state, input :: inputs => P state input ∧ Along P (step state input) inputs

instance Along.decidable (P : σ → ι → Prop) [∀ state input, Decidable (P state input)] :
    ∀ (start : σ) (inputs : List ι), Decidable (Along step P start inputs)
  | _, [] => isTrue trivial
  | start, input :: inputs =>
    @instDecidableAnd _ _ inferInstance (Along.decidable P (step start input) inputs)

/-- `P` holds of every state of the run. -/
def Always (P : σ → Prop) (start : σ) (inputs : List ι) : Prop :=
  ∀ earlier rest, inputs = earlier ++ rest → P (runFrom step start earlier)

/-- `R` holds between the states before and after every part of the run. -/
def Throughout (R : σ → σ → Prop) (start : σ) (inputs : List ι) : Prop :=
  ∀ earlier later rest, inputs = earlier ++ later ++ rest →
    R (runFrom step start earlier) (runFrom step start (earlier ++ later))

theorem runFrom_cons (start : σ) (input : ι) (inputs : List ι) :
    runFrom step start (input :: inputs) = runFrom step (step start input) inputs := rfl

theorem runFrom_append (start : σ) (earlier later : List ι) :
    runFrom step start (earlier ++ later) = runFrom step (runFrom step start earlier) later :=
  List.foldl_append

variable {step} {P Q : σ → ι → Prop} {start : σ} {inputs : List ι}

theorem runFrom_invariant (Inv : σ → Prop)
    (keeps : ∀ state input, Inv state → Inv (step state input)) {start : σ} (holds : Inv start)
    (inputs : List ι) : Inv (runFrom step start inputs) := by
  induction inputs generalizing start with
  | nil => exact holds
  | cons input inputs ih =>
    rw [runFrom_cons]
    exact ih (keeps start input holds)

/-- Two properties that agree in the states of an invariant agree along every run; the
invariant need only be kept by the steps that have the property. -/
theorem along_iff (Inv : σ → Prop)
    (keeps : ∀ state input, Inv state → P state input → Inv (step state input))
    (agree : ∀ state input, Inv state → (P state input ↔ Q state input)) (holds : Inv start)
    (inputs : List ι) : Along step P start inputs ↔ Along step Q start inputs := by
  induction inputs generalizing start with
  | nil => exact Iff.rfl
  | cons input inputs ih =>
    constructor
    · rintro ⟨first, rest⟩
      exact ⟨(agree start input holds).mp first, (ih (keeps start input holds first)).mp rest⟩
    · rintro ⟨first, rest⟩
      have first := (agree start input holds).mpr first
      exact ⟨first, (ih (keeps start input holds first)).mpr rest⟩

theorem always_iff {P : σ → Prop} (holds : P start) (inputs : List ι) :
    Always step P start inputs ↔ Along step (fun state input => P (step state input)) start inputs := by
  induction inputs generalizing start with
  | nil =>
    refine ⟨fun _ => trivial, ?_⟩
    intro _ earlier rest split
    rw [(List.append_eq_nil_iff.mp split.symm).1]
    exact holds
  | cons input inputs ih =>
    constructor
    · intro always
      have first := always [input] inputs rfl
      refine ⟨first, (ih first).mp ?_⟩
      intro earlier rest split
      exact always (input :: earlier) rest (by rw [split]; rfl)
    · rintro ⟨first, later⟩ earlier rest split
      cases earlier with
      | nil => exact holds
      | cons other earlier =>
        obtain ⟨rfl, remaining⟩ := List.cons.inj split
        exact (ih first).mpr later earlier rest remaining

/-- What the steps with a property preserve holds of every state of a run along which
the property holds. -/
theorem always_of_along (Inv : σ → Prop)
    (keeps : ∀ state input, Inv state → P state input → Inv (step state input)) (holds : Inv start)
    (along : Along step P start inputs) : Always step Inv start inputs := by
  rw [always_iff holds]
  induction inputs generalizing start with
  | nil => trivial
  | cons input inputs ih =>
    have first := keeps start input holds along.1
    exact ⟨first, ih first along.2⟩

/-- What holds of the steps with a property, in the states of an invariant that they keep,
holds along every run with the property. -/
theorem along_of_along (Inv : σ → Prop)
    (keeps : ∀ state input, Inv state → P state input → Inv (step state input))
    (holdsAt : ∀ state input, Inv state → P state input → Q state input) (holds : Inv start)
    (along : Along step P start inputs) : Along step Q start inputs := by
  induction inputs generalizing start with
  | nil => trivial
  | cons input inputs ih =>
    exact ⟨holdsAt start input holds along.1, ih (keeps start input holds along.1) along.2⟩

theorem Along.imp (weaker : ∀ state, ∀ input ∈ inputs, P state input → Q state input)
    (along : Along step P start inputs) : Along step Q start inputs := by
  induction inputs generalizing start with
  | nil => trivial
  | cons input inputs ih =>
    refine ⟨weaker start input List.mem_cons_self along.1, ih ?_ along.2⟩
    exact fun state other member => weaker state other (List.mem_cons_of_mem _ member)

theorem along_of_invariant (Inv : σ → Prop)
    (keeps : ∀ state input, Inv state → Inv (step state input))
    (holdsAt : ∀ state input, Inv state → P state input) (holds : Inv start) (inputs : List ι) :
    Along step P start inputs := by
  induction inputs generalizing start with
  | nil => trivial
  | cons input inputs ih => exact ⟨holdsAt start input holds, ih (keeps start input holds)⟩

section Relation

variable {R : σ → σ → Prop} {start : σ}

theorem related_of_along (refl : ∀ state, R state state)
    (trans : ∀ first second third, R first second → R second third → R first third)
    (along : Along step (fun state input => R state (step state input)) start inputs) :
    R start (runFrom step start inputs) := by
  induction inputs generalizing start with
  | nil => exact refl start
  | cons input inputs ih =>
    rw [runFrom_cons]
    exact trans _ _ _ along.1 (ih along.2)

theorem Along.of_append {earlier later : List ι} (along : Along step P start (earlier ++ later)) :
    Along step P start earlier ∧ Along step P (runFrom step start earlier) later := by
  induction earlier generalizing start with
  | nil => exact ⟨trivial, along⟩
  | cons input earlier ih =>
    obtain ⟨first, second⟩ := ih along.2
    exact ⟨⟨along.1, first⟩, second⟩

/-- A reflexive and transitive relation holds throughout a run when it holds at every
step. -/
theorem throughout_iff (refl : ∀ state, R state state)
    (trans : ∀ first second third, R first second → R second third → R first third) :
    Throughout step R start inputs ↔
      Along step (fun state input => R state (step state input)) start inputs := by
  constructor
  · intro holds
    induction inputs generalizing start with
    | nil => trivial
    | cons input inputs ih =>
      refine ⟨holds [] [input] inputs rfl, ih ?_⟩
      intro earlier later rest split
      exact holds (input :: earlier) later rest (by rw [split]; rfl)
  · intro along earlier later rest split
    rw [split, List.append_assoc] at along
    rw [runFrom_append]
    exact related_of_along refl trans along.of_append.2.of_append.1

end Relation

end Lib
