import CodeMigrator.Planning.Ledger

/-!
# Retrying a plan

`PlanRetryReducer.run` of `planning/retry.py`. The proposer, the validator and the schema of
`PlanProposal` are parameters over a state of their own. The local variable `proposal` survives an
iteration, as it does in the source: what is frozen is read from it. The attempts of a run are calls
of these parameters, each from the state in which the one before it has left them.
-/

namespace CodeMigrator
open Lib

/-- What a call raises; the first three kinds are caught. -/
inductive RetryException (ε : Type) where
  | validationError (message : String)
  | typeError (message : String)
  | valueError (message : String)
  | other (exception : ε)

/-- What the proposer hands back. -/
inductive RawProposal (ρ : Type) where
  | proposal (proposal : PlanProposal)
  | payload (payload : ρ)

/-- The argument `validator`: an object with a method `validate`, or a function. -/
inductive RetryValidator (σ ε : Type) where
  | object (validate : PlanProposal → PlanningInputs → σ →
      Except (RetryException ε) PlanValidation × σ)
  | function (call : PlanProposal → σ → Except (RetryException ε) PlanValidation × σ)

/-- `_schema_failure`. -/
def schemaFailure (message : String) : PlanValidation :=
  { accepted := false
    violations := [violation .planProposalInvalid "/"
      (if message = "" then "proposal schema is invalid" else message) []]
    sourceCoverage := []
    checkedScopePairs := 0
    cycleCheck := .notRun
    blueprintCheck := .notRun
    rankCheck := .notRun
    sizeCheck := .notRun }

/-- The two `except` clauses: the validation that they assign, or what passes them by. -/
def handled {ε : Type} : RetryException ε → Except ε PlanValidation
  | .validationError message | .typeError message | .valueError message =>
    .ok (schemaFailure message)
  | .other exception => .error exception

/-- How a run ends. -/
inductive RetryResult (ε : Type) where
  | frozen (plan : FrozenPlan)
  | freezeFailed (error : FreezeError)
  | planFailed (validation : PlanValidation) (attempts : Nat)
  | escaped (exception : ε)
  /-- The `UnboundLocalError` of a variable `proposal` that was never assigned. -/
  | unbound

/-- A run that has ended. -/
structure RetryRun (ε σ : Type) where
  ledger : PlanLedger
  state : σ
  result : RetryResult ε

section Run

variable {ρ ε σ : Type} (isalnum : Char → Bool) (newUuid7 : Nat → UUID)
  (computePlanHash : FrozenFacts → Option Sha256)
  (modelValidate : ρ → Except (RetryException ε) PlanProposal)
  (proposer : List PlanViolation → σ → Except (RetryException ε) (RawProposal ρ) × σ)
  (validator : RetryValidator σ ε) (inputs : PlanningInputs)

/-- The proposal of a returned value. -/
def coerceProposal : RawProposal ρ → Except (RetryException ε) PlanProposal
  | .proposal proposal => .ok proposal
  | .payload payload => modelValidate payload

/-- The call of the validator. -/
def callValidator (proposal : PlanProposal) (state : σ) :
    Except (RetryException ε) PlanValidation × σ :=
  match validator with
  | .object validate => validate proposal inputs state
  | .function call => call proposal state

/-- What the body of the `try` leaves behind: the variable `proposal`, the validation or the
exception that escapes, and the state of the parties. -/
structure TryOutcome (ε σ : Type) where
  variable_ : Option PlanProposal
  validation : Except ε PlanValidation
  state : σ

/-- The `try` statement of one iteration. -/
def tryProposal (feedback : List PlanViolation) (proposal : Option PlanProposal) (state : σ) :
    TryOutcome ε σ :=
  match proposer feedback state with
  | (.error exception, state) => ⟨proposal, handled exception, state⟩
  | (.ok raw, state) =>
    match coerceProposal modelValidate raw with
    | .error exception => ⟨proposal, handled exception, state⟩
    | .ok assigned =>
      match callValidator validator inputs assigned state with
      | (.error exception, state) => ⟨some assigned, handled exception, state⟩
      | (.ok validation, state) => ⟨some assigned, .ok validation, state⟩

/-- The loop of `run`, with `left` for `max_retries - retries`. -/
def retryLoop (left retries : Nat) (feedback : List PlanViolation) (proposal : Option PlanProposal)
    (ledger : PlanLedger) (state : σ) : RetryRun ε σ :=
  let outcome := tryProposal modelValidate proposer validator inputs feedback proposal state
  match outcome.validation with
  | .error exception => ⟨ledger, outcome.state, .escaped exception⟩
  | .ok validation =>
    if validation.accepted then
      match outcome.variable_ with
      | none => ⟨ledger, outcome.state, .unbound⟩
      | some proposal =>
        match ledger.freeze isalnum newUuid7 computePlanHash proposal inputs with
        | (ledger, .ok plan) => ⟨ledger, outcome.state, .frozen plan⟩
        | (ledger, .error error) => ⟨ledger, outcome.state, .freezeFailed error⟩
    else
      match left with
      | 0 => ⟨ledger, outcome.state, .planFailed validation (retries + 1)⟩
      | left + 1 =>
        retryLoop left (retries + 1) validation.violations outcome.variable_ ledger outcome.state

/-- `PlanRetryReducer.run`. -/
def planRetryRun (maxRetries : Nat) (ledger : PlanLedger) (state : σ) : RetryRun ε σ :=
  retryLoop isalnum newUuid7 computePlanHash modelValidate proposer validator inputs maxRetries 0 []
    none ledger state

/-! ## What the attempts were -/

/-- One call of the proposer and the call of the validator that follows it: what the proposer
received and returned, the answer or the exception that the attempt ended with, and the state of the
parties before, between and after the calls. -/
structure RetryAttempt (ρ ε σ : Type) where
  feedback : List PlanViolation
  before : σ
  returned : Except (RetryException ε) (RawProposal ρ)
  between : σ
  answer : Except (RetryException ε) PlanValidation
  after : σ

namespace RetryAttempt

/-- The attempt is what the proposer and, for a proposal of the schema, the validator do. -/
def Made (attempt : RetryAttempt ρ ε σ) : Prop :=
  proposer attempt.feedback attempt.before = (attempt.returned, attempt.between) ∧
    match attempt.returned.bind (coerceProposal modelValidate) with
    | .error exception => attempt.answer = .error exception ∧ attempt.after = attempt.between
    | .ok proposal =>
      callValidator validator inputs proposal attempt.between = (attempt.answer, attempt.after)

/-- The validation after the `except` clauses, or the exception that passes them by. -/
def ended (attempt : RetryAttempt ρ ε σ) : Except ε PlanValidation :=
  match attempt.answer with
  | .ok validation => .ok validation
  | .error exception => handled exception

/-- The attempt was rejected with this validation. -/
def Rejected (attempt : RetryAttempt ρ ε σ) (validation : PlanValidation) : Prop :=
  attempt.ended = .ok validation ∧ validation.accepted = false

/-- The proposal of this very call is the one that the validator accepted. -/
def Accepts (attempt : RetryAttempt ρ ε σ) (proposal : PlanProposal) : Prop :=
  attempt.returned.bind (coerceProposal modelValidate) = .ok proposal ∧
    ∃ validation, attempt.answer = .ok validation ∧ validation.accepted = true

end RetryAttempt

/-- Attempts that were all made and rejected, each given the violations of the one before it from
where that left the parties, and what the next one is given. -/
inductive Feeds (state : σ) : List (RetryAttempt ρ ε σ) → List PlanViolation → σ → Prop where
  | start : Feeds state [] [] state
  | next {attempts attempt validation} : Feeds state attempts attempt.feedback attempt.before →
      attempt.Made modelValidate proposer validator inputs →
      attempt.Rejected validation →
      Feeds state (attempts ++ [attempt]) validation.violations attempt.after

/-- A run of at most so many retries from a ledger: its attempts are all the calls there were. -/
structure RetriesSoundly (maxRetries : Nat) (ledger : PlanLedger) (state : σ)
    (earlier : List (RetryAttempt ρ ε σ)) (last : RetryAttempt ρ ε σ) (run : RetryRun ε σ) :
    Prop where
  bounded : earlier.length ≤ maxRetries
  fed : Feeds modelValidate proposer validator inputs state earlier last.feedback last.before
  made : last.Made modelValidate proposer validator inputs
  ends : run.state = last.after
  frozen : ∀ plan, run.result = .frozen plan → ∃ proposal, last.Accepts modelValidate proposal ∧
    ledger.freeze isalnum newUuid7 computePlanHash proposal inputs = (run.ledger, .ok plan)
  failed : ∀ validation attempts, run.result = .planFailed validation attempts →
    last.Rejected validation ∧ earlier.length = maxRetries ∧
      attempts = maxRetries + 1 ∧ run.ledger = ledger
  bound : run.result ≠ .unbound

theorem handled_accepted {exception : RetryException ε} {validation : PlanValidation}
    (done : handled exception = .ok validation) : validation.accepted = false := by
  cases exception <;> cases done <;> rfl

/-- The `try` statement is one attempt. -/
theorem tryProposal_spec (feedback : List PlanViolation) (variable_ : Option PlanProposal)
    (state : σ) {outcome : TryOutcome ε σ} (done : tryProposal modelValidate proposer validator
      inputs feedback variable_ state = outcome) :
    ∃ attempt : RetryAttempt ρ ε σ, attempt.feedback = feedback ∧ attempt.before = state ∧
      attempt.Made modelValidate proposer validator inputs ∧ outcome.state = attempt.after ∧
      ∀ validation, outcome.validation = .ok validation →
        (validation.accepted = false → attempt.Rejected validation) ∧
        (validation.accepted = true →
          ∃ proposal, outcome.variable_ = some proposal ∧ attempt.Accepts modelValidate proposal) := by
  subst done
  unfold tryProposal
  split
  · rename_i exception between proposed
    refine ⟨⟨feedback, state, .error exception, between, .error exception, between⟩, rfl, rfl,
      ⟨proposed, rfl, rfl⟩, rfl, fun validation caught => ⟨fun refused => ⟨caught, refused⟩, ?_⟩⟩
    simp [handled_accepted caught]
  · rename_i raw between proposed
    split
    · rename_i exception unfit
      refine ⟨⟨feedback, state, .ok raw, between, .error exception, between⟩, rfl, rfl,
        ⟨proposed, ?_⟩, rfl, fun validation caught => ⟨fun refused => ⟨caught, refused⟩, ?_⟩⟩
      · simp [Except.bind, unfit]
      · simp [handled_accepted caught]
    · rename_i assigned fit
      split
      · rename_i exception after raised
        refine ⟨⟨feedback, state, .ok raw, between, .error exception, after⟩, rfl, rfl,
          ⟨proposed, ?_⟩, rfl, fun validation caught => ⟨fun refused => ⟨caught, refused⟩, ?_⟩⟩
        · simp [Except.bind, fit, raised]
        · simp [handled_accepted caught]
      · rename_i validation after judged
        refine ⟨⟨feedback, state, .ok raw, between, .ok validation, after⟩, rfl, rfl,
          ⟨proposed, ?_⟩, rfl, fun given same => ⟨fun refused => ⟨same, refused⟩, ?_⟩⟩
        · simp [Except.bind, fit, judged]
        · cases same
          exact fun accepted => ⟨assigned, rfl, fit, validation, rfl, accepted⟩

theorem retryLoop_sound (left : Nat) {maxRetries retries : Nat} (start : σ)
    {log : List (RetryAttempt ρ ε σ)} {feedback : List PlanViolation} {state : σ}
    (within : retries + left = maxRetries) (counted : log.length = retries)
    (fed : Feeds modelValidate proposer validator inputs start log feedback state)
    (variable_ : Option PlanProposal) (ledger : PlanLedger) :
    ∃ earlier last, RetriesSoundly isalnum newUuid7 computePlanHash modelValidate proposer validator
      inputs maxRetries ledger start earlier last (retryLoop isalnum newUuid7 computePlanHash
        modelValidate proposer validator inputs left retries feedback variable_ ledger state) := by
  have spec := tryProposal_spec modelValidate proposer validator inputs
  fun_induction retryLoop generalizing log with
  | case1 _ _ feedback variable_ state outcome =>
    obtain ⟨attempt, rfl, rfl, made, ends, -⟩ := spec feedback variable_ state rfl
    refine ⟨log, attempt, by omega, fed, made, ends, ?_, ?_, ?_⟩ <;> simp
  | case2 _ _ feedback variable_ state outcome validation judged accepted =>
    rename_i unassigned
    obtain ⟨_, _, _, _, _, answers⟩ := spec feedback variable_ state rfl
    obtain ⟨_, assigned, -⟩ := (answers validation judged).2 accepted
    cases assigned.symm.trans unassigned
  | case3 _ _ feedback variable_ state outcome validation judged accepted proposal assigned
      frozenLedger plan =>
    rename_i froze
    obtain ⟨attempt, rfl, rfl, made, ends, answers⟩ := spec feedback variable_ state rfl
    obtain ⟨_, found, accepts⟩ := (answers validation judged).2 accepted
    obtain rfl := Option.some.inj (found.symm.trans assigned)
    refine ⟨log, attempt, by omega, fed, made, ends, ?_, by simp, by simp⟩
    intro _ same
    cases same
    exact ⟨_, accepts, froze⟩
  | case4 _ _ feedback variable_ state outcome =>
    obtain ⟨attempt, rfl, rfl, made, ends, -⟩ := spec feedback variable_ state rfl
    refine ⟨log, attempt, by omega, fed, made, ends, ?_, ?_, ?_⟩ <;> simp
  | case5 retries feedback variable_ state outcome validation judged =>
    rename_i refused
    obtain ⟨attempt, rfl, rfl, made, ends, answers⟩ := spec feedback variable_ state rfl
    refine ⟨log, attempt, by omega, fed, made, ends, by simp, ?_, by simp⟩
    intro _ _ same
    cases same
    exact ⟨(answers validation judged).1 (eq_false_of_ne_true refused), by omega, by omega, rfl⟩
  | case6 retries feedback variable_ state outcome validation judged refused left =>
    rename_i ih
    obtain ⟨attempt, rfl, rfl, made, ends, answers⟩ := spec feedback variable_ state rfl
    have longer : (log ++ [attempt]).length = retries + 1 := by
      rw [List.length_append, List.length_singleton, counted]
    refine ih (by omega) longer ?_
    rw [ends]
    exact .next fed made ((answers validation judged).1 (eq_false_of_ne_true refused))

/-- Every run of the reducer, whatever the proposer and the validator do. -/
theorem planRetryRun_sound (maxRetries : Nat) (ledger : PlanLedger) (state : σ) :
    ∃ earlier last, RetriesSoundly isalnum newUuid7 computePlanHash modelValidate proposer validator
      inputs maxRetries ledger state earlier last (planRetryRun isalnum newUuid7 computePlanHash
        modelValidate proposer validator inputs maxRetries ledger state) :=
  retryLoop_sound isalnum newUuid7 computePlanHash modelValidate proposer validator inputs
    maxRetries state (Nat.zero_add maxRetries) rfl .start none ledger

end Run

namespace TwoSlices

/-- The proposer first hands back what is no proposal, and keeps what it is given. -/
def proposer (feedback : List PlanViolation) (given : List (List PlanViolation)) :
    Except (RetryException Unit) (RawProposal Unit) × List (List PlanViolation) :=
  (.ok (if given = [] then .payload () else .proposal chained), given ++ [feedback])

def retriedRun : RetryRun Unit (List (List PlanViolation)) :=
  planRetryRun (fun _ => false) counter (fun _ => some zeroDigest)
    (fun _ => .error (.validationError "")) proposer
    (.object fun proposal inputs given =>
      (.ok ((PlanValidator.mk none).validate (fun _ => false) proposal inputs), given))
    inputs 1 ⟨⟨none⟩, [], 0⟩ []

end TwoSlices

open TwoSlices in
theorem planRetryRun_sound_retried :
    retriedRun.state = [[], (schemaFailure "").violations] ∧ retriedRun.ledger.records.length = 1 ∧
    ∃ earlier last, RetriesSoundly (fun _ => false) counter (fun _ => some zeroDigest)
      (fun _ => .error (.validationError "")) proposer
      (.object fun proposal inputs given =>
        (.ok ((PlanValidator.mk none).validate (fun _ => false) proposal inputs), given))
      inputs 1 ⟨⟨none⟩, [], 0⟩ [] earlier last retriedRun :=
  ⟨by decide +kernel, by decide +kernel, planRetryRun_sound _ _ _ _ _ _ _ _ _ _⟩

end CodeMigrator
