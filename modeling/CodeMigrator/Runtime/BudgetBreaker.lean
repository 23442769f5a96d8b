import CodeMigrator.Runtime.Phases
import CodeMigrator.Runtime.RunWallet
import Mathlib.Algebra.Order.Field.Basic
import Mathlib.Algebra.Order.Ring.Rat
import Mathlib.Data.Nat.Cast.Order.Ring
import Mathlib.Tactic.SplitIfs

/-!
# The budget breaker

Usage is compared with its limit through the double that their quotient is rounded to. For limits
below `2 ^ 54` no quotient below one is rounded up to one, so the breaker closes exactly when a
count reaches its limit: in the wallet that the sessions of a Run share, and in the actor.
-/

namespace CodeMigrator
open Lib

/-! ## The double of a quotient -/

variable {num den : Nat}

theorem roundHalfEven_lt {bound : Nat} (far : 2 * num + den < 2 * (bound * den)) :
    roundHalfEven num den < bound := by
  have split := Nat.div_add_mod' num den
  have low : num / den < bound := by
    by_contra high
    have := Nat.mul_le_mul_right den (Nat.le_of_not_lt high)
    omega
  unfold roundHalfEven
  by_cases next : num / den + 1 < bound
  · dsimp only
    split
    · exact low
    · exact next
  · have last : bound = num / den + 1 := by omega
    rw [last, Nat.add_mul] at far
    rw [if_pos (Or.inl (by omega))]
    exact low

theorem le_roundHalfEven {bound : Nat} (positive : 0 < den) (reached : bound * den ≤ num) :
    bound ≤ roundHalfEven num den := by
  have low : bound ≤ num / den := (Nat.le_div_iff_mul_le positive).mpr reached
  unfold roundHalfEven
  dsimp only
  split
  · exact low
  · exact Nat.le_succ_of_le low

theorem trueDivide_lt_one (less : num < den) (small : den < 2 ^ 54) :
    ∃ quotient, trueDivide num den = some quotient ∧ quotient < 1 := by
  unfold trueDivide
  by_cases zero : num = 0
  · exact ⟨0, if_pos zero, by decide⟩
  rw [if_neg zero]
  have logs : Nat.log 2 num ≤ Nat.log 2 den := Nat.log_mono_right less.le
  dsimp only
  generalize exponent : max (_ - 52) (-1074 : Int) = e
  have bound : e ≤ -53 := by
    rw [← exponent]
    by_cases same : Nat.log 2 num = Nat.log 2 den
    · simp [same, less]
    · split_ifs <;> omega
  obtain ⟨k, rfl⟩ : ∃ k : Nat, e = -k := ⟨(-e).toNat, by omega⟩
  have far : 53 ≤ k := by omega
  have negative : ¬ 0 ≤ -(k : Int) := by omega
  rw [if_neg negative, if_neg negative, neg_neg, Int.toNat_natCast]
  have power : 2 ^ 53 ≤ 2 ^ k := Nat.pow_le_pow_right (by decide) far
  have rounded : roundHalfEven (num * 2 ^ k) den < 2 ^ k := by
    apply roundHalfEven_lt
    have := Nat.mul_le_mul_right (2 ^ k) (Nat.succ_le_of_lt less)
    rw [Nat.succ_mul] at this
    rw [Nat.mul_comm (2 ^ k) den]
    omega
  have below : mkRat (roundHalfEven (num * 2 ^ k) den) (2 ^ k) < 1 := by
    rw [Rat.mkRat_eq_div, div_lt_one (Nat.cast_pos.mpr (Nat.two_pow_pos k))]
    exact_mod_cast rounded
  rw [if_pos (below.trans (by exact_mod_cast Nat.one_lt_two_pow (by decide)))]
  exact ⟨_, rfl, below⟩

theorem one_le_trueDivide (positive : 0 < den) (reached : den ≤ num) {quotient : Rat}
    (divided : trueDivide num den = some quotient) : 1 ≤ quotient := by
  unfold trueDivide at divided
  rw [if_neg (by omega)] at divided
  have logs : Nat.log 2 den ≤ Nat.log 2 num := Nat.log_mono_right reached
  dsimp only at divided
  generalize exponent : max (_ - 52) (-1074 : Int) = e at divided
  have bounds : -52 ≤ e ∧ (e = -52 ∨ e + Nat.log 2 den + 1 ≤ Nat.log 2 num) := by
    rw [← exponent]
    by_cases same : Nat.log 2 num = Nat.log 2 den
    · simp [same, Nat.not_lt_of_le reached]
    · split_ifs <;> omega
  rw [Option.ite_none_right_eq_some, Option.some.injEq] at divided
  obtain ⟨-, rfl⟩ := divided
  by_cases whole : 0 ≤ e
  · obtain ⟨k, rfl⟩ : ∃ k : Nat, e = k := ⟨e.toNat, by omega⟩
    have fits : 1 * (den * 2 ^ k) ≤ num := by
      have upper := Nat.lt_pow_succ_log_self (by decide : 1 < 2) den
      calc 1 * (den * 2 ^ k) ≤ 2 ^ (Nat.log 2 den + 1) * 2 ^ k := by
            rw [Nat.one_mul]
            exact Nat.mul_le_mul_right _ upper.le
        _ = 2 ^ (Nat.log 2 den + 1 + k) := (Nat.pow_add _ _ _).symm
        _ ≤ 2 ^ Nat.log 2 num := Nat.pow_le_pow_right (by decide) (by omega)
        _ ≤ num := Nat.pow_log_le_self 2 (by omega)
    have one := le_roundHalfEven (Nat.mul_pos positive (Nat.two_pow_pos k)) fits
    rw [if_pos whole, if_pos whole, Int.toNat_natCast]
    exact_mod_cast Nat.mul_pos one (Nat.two_pow_pos k)
  · obtain ⟨k, rfl⟩ : ∃ k : Nat, e = -k := ⟨(-e).toNat, by omega⟩
    rw [if_neg whole, if_neg whole, neg_neg, Int.toNat_natCast, Rat.mkRat_eq_div,
      le_div_iff₀ (Nat.cast_pos.mpr (Nat.two_pow_pos k)), one_mul]
    have scaled : 2 ^ k * den ≤ num * 2 ^ k := by
      rw [Nat.mul_comm num]
      exact Nat.mul_le_mul_left _ reached
    exact_mod_cast le_roundHalfEven positive scaled

theorem one_le_trueDivide_iff (positive : 0 < den) (small : den < 2 ^ 54) {quotient : Rat}
    (divided : trueDivide num den = some quotient) : 1 ≤ quotient ↔ den ≤ num := by
  refine ⟨?_, fun reached => one_le_trueDivide positive reached divided⟩
  intro one
  by_contra less
  obtain ⟨other, same, below⟩ := trueDivide_lt_one (Nat.lt_of_not_le less) small
  rw [divided, Option.some.injEq] at same
  rw [← same] at below
  exact absurd one (not_le_of_gt below)

/-- The first limit that is met too early. -/
example : trueDivide (2 ^ 54 - 1) (2 ^ 54) = some 1 := by decide +kernel

/-! ## Limits -/

/-- No count has reached its limit. -/
def BudgetUsage.Within (usage : BudgetUsage) (limits : BudgetLimits) : Prop :=
  usage.inputTokens < limits.inputTokens ∧ usage.outputTokens < limits.outputTokens ∧
    usage.costMicros < limits.costMicros

instance (usage : BudgetUsage) (limits : BudgetLimits) : Decidable (usage.Within limits) :=
  inferInstanceAs (Decidable (_ ∧ _ ∧ _))

/-- The limits are below `2 ^ 54`. -/
def BudgetLimits.Small (limits : BudgetLimits) : Prop :=
  limits.inputTokens < 2 ^ 54 ∧ limits.outputTokens < 2 ^ 54 ∧ limits.costMicros < 2 ^ 54

theorem isExhausted_exact {limits : BudgetLimits} (small : limits.Small) {usage : BudgetUsage}
    {closed : Bool} (answered : RunWallet.isExhausted limits usage = some closed) :
    closed = decide (¬ usage.Within limits) := by
  obtain ⟨smallInput, smallOutput, smallCost⟩ := small
  obtain ⟨someInput, someOutput, someCost⟩ := limits.positive
  unfold RunWallet.isExhausted at answered
  split at answered
  · rename_i input output cost first second third
    rw [← Option.some.inj answered]
    apply decide_eq_decide.mpr
    rw [le_max_iff, le_max_iff, one_le_trueDivide_iff someInput smallInput first,
      one_le_trueDivide_iff someOutput smallOutput second,
      one_le_trueDivide_iff someCost smallCost third]
    unfold BudgetUsage.Within
    omega
  · cases answered

theorem isExhausted_evaluation {previous : BudgetUsage} {limits : BudgetLimits}
    {inputTokens outputTokens costMicros : Int} {warned : Bool} {evaluation : BudgetEvaluation}
    (evaluated : evaluateBudget previous limits inputTokens outputTokens costMicros warned =
      some evaluation) :
    RunWallet.isExhausted limits evaluation.usage = some evaluation.exhausted := by
  unfold evaluateBudget at evaluated
  split at evaluated
  · cases evaluated
  · dsimp only at evaluated
    split at evaluated
    · rename_i input output cost first second third
      rw [← Option.some.inj evaluated]
      simp only [RunWallet.isExhausted, first, second, third]
    · cases evaluated

/-! ## The wallet -/

section Wallet

variable {limits : BudgetLimits} {wallet : RunWallet}

/-- The wallet after a receipt. -/
def RunWallet.recorded (wallet : RunWallet) (receipt : UsageReceipt) : RunWallet :=
  (wallet.record receipt).2

/-- `admit` compares the counts with the limits. -/
def RunWallet.AdmitsExactly (limits : BudgetLimits) (wallet : RunWallet) : Prop :=
  wallet.admits = some (decide (wallet.usage.Within limits))

/-- The wallet has its limits, and a float for its utilization. -/
structure RunWallet.Measured (limits : BudgetLimits) (wallet : RunWallet) : Prop where
  bounds : wallet.limits = limits
  float : RunWallet.isExhausted limits wallet.usage ≠ none

theorem RunWallet.Measured.admitsExactly (measured : wallet.Measured limits) (small : limits.Small) :
    wallet.AdmitsExactly limits := by
  unfold AdmitsExactly admits
  rw [measured.bounds]
  cases answered : isExhausted limits wallet.usage with
  | none => exact absurd answered measured.float
  | some closed => simp [isExhausted_exact small answered]

theorem RunWallet.Measured.recorded (measured : wallet.Measured limits)
    (receipt : UsageReceipt) : (wallet.recorded receipt).Measured limits ∧
      ((wallet.recorded receipt).usage.Within limits → wallet.usage.Within limits) := by
  unfold RunWallet.recorded
  by_cases known : receipt.receiptId ∈ wallet.receiptIds
  · rw [record_known known]
    exact ⟨measured, fun within => within⟩
  rcases record_new known with ⟨_, same⟩ | ⟨evaluation, evaluated, added⟩
  · rw [same]
    exact ⟨measured, fun within => within⟩
  · have counts := (evaluate_spec wallet receipt.usage).2 evaluation evaluated
    have float := isExhausted_evaluation evaluated
    rw [measured.bounds] at float
    rw [added]
    refine ⟨⟨measured.bounds, by simp [float]⟩, fun within => ?_⟩
    dsimp only at within
    rw [counts] at within
    unfold BudgetUsage.Within at within ⊢
    dsimp only at within
    omega

/-- Over every sequence of receipts the wallet admits by its counts, and once closed it stays
closed. -/
theorem wallet_breaker_exact (small : limits.Small) (receipts : List UsageReceipt) :
    Always RunWallet.recorded (RunWallet.AdmitsExactly limits) (.new limits) receipts ∧
      Throughout RunWallet.recorded
        (fun earlier later => later.admits = some true → earlier.admits = some true)
        (.new limits) receipts := by
  have start : (RunWallet.new limits).Measured limits := ⟨rfl, isExhausted_unused limits⟩
  have keeps : ∀ wallet receipt, RunWallet.Measured limits wallet →
      (wallet.recorded receipt).Measured limits :=
    fun _ receipt measured => (measured.recorded receipt).1
  constructor
  · intro earlier _ _
    exact (runFrom_invariant _ keeps start earlier).admitsExactly small
  · rw [throughout_iff ?_ ?_]
    · refine along_of_invariant _ keeps ?_ start receipts
      intro wallet receipt measured admits
      obtain ⟨after, closes⟩ := measured.recorded receipt
      rw [after.admitsExactly small] at admits
      rw [measured.admitsExactly small]
      simpa using closes (by simpa using admits)
    · exact fun _ admits => admits
    · exact fun _ _ _ first second admits => first (second admits)

end Wallet

/-- Receipts of three rounds; the second spends the budget. -/
def SampleWallet.receipts : List UsageReceipt :=
  [usageReceipt SampleWallet.spec 1 SampleWallet.response,
    usageReceipt SampleWallet.spec 2 { SampleWallet.response with usage := ⟨100000, 1, 0⟩ },
    usageReceipt SampleWallet.spec 3 SampleWallet.response]

open SampleWallet in
theorem wallet_breaker_exact_sample :
    (receipts.scanl RunWallet.recorded (.new .default)).map (·.admits) =
      [some true, some true, some false, some false] ∧
    Always RunWallet.recorded (RunWallet.AdmitsExactly .default) (.new .default) receipts ∧
      Throughout RunWallet.recorded
        (fun earlier later => later.admits = some true → earlier.admits = some true)
        (.new .default) receipts :=
  ⟨by decide +kernel, wallet_breaker_exact ⟨by decide, by decide, by decide⟩ receipts⟩

/-! ## The actor -/

section Actor

variable {config : ActorConfig} {world : World} {state next : RunState}

/-- The Run has the failure reason of the budget exactly when a count has reached its limit, and
then it has ended. -/
structure RunState.BreakerExact (limits : BudgetLimits) (state : RunState) : Prop where
  reason : state.failureReason =
    if state.budgetUsage.Within limits then none else some .budgetExhausted
  live : state.status.isTerminal = false → state.budgetUsage.Within limits

/-- The persisted Run is `BreakerExact`. -/
def PersistsBreaker (config : ActorConfig) (core : Core) : Prop :=
  ∀ snapshot, core.persisted = some snapshot → snapshot.state.BreakerExact config.budgetLimits

theorem RunState.BreakerExact.of_same {limits : BudgetLimits} (holds : state.BreakerExact limits)
    (reason : next.failureReason = state.failureReason)
    (usage : next.budgetUsage = state.budgetUsage)
    (ended : state.status.isTerminal = true → next.status.isTerminal = true) :
    next.BreakerExact limits where
  reason := by rw [reason, usage, holds.reason]
  live := by
    intro live
    rw [usage]
    apply holds.live
    by_contra terminal
    rw [ended (by simpa using terminal)] at live
    cases live

/-- A step keeps the usage and the failure reason, unless it is that of a budget message. -/
theorem RunStep.breakerExact {message : RuntimeMessage} {events : List EventSpec}
    {work : List PortCall} {limits : BudgetLimits}
    (run : RunStep config message state events work next) (holds : state.BreakerExact limits) :
    next.BreakerExact limits ∨ ∃ inputTokens outputTokens costMicros,
      message = .budget inputTokens outputTokens costMicros := by
  have ended : state.status.isTerminal = true → next.status.isTerminal = true := by
    intro terminal
    rw [(run.settled terminal).status, terminal]
  cases run with
  | budget inputTokens outputTokens costMicros => exact .inr ⟨_, _, _, rfl⟩
  | budgetExhausted inputTokens outputTokens costMicros => exact .inr ⟨_, _, _, rfl⟩
  | advice advice result =>
    obtain ⟨adopted, pending, version, equal⟩ := decideAdvice_frame state advice result
    rw [equal] at ended ⊢
    exact .inl (holds.of_same rfl rfl ended)
  | _ => exact .inl (holds.of_same rfl rfl ended)

theorem PersistsBreaker.commit (breaker : PersistsBreaker config (world.core config))
    (around : Surroundings) {called : World} (calm : called.core config = world.core config)
    {snapshot : RuntimeSnapshot} (loaded : Loaded config called snapshot)
    (holds : next.BreakerExact config.budgetLimits) (own : next.runId = config.runId)
    (events : List EventSpec) :
    PersistsBreaker config ((commit around called next events).1.core config) := by
  rw [(commit_core around loaded.stored loaded.current own events).2, calm]
  split
  · intro later found
    cases found
    exact holds
  · exact breaker

theorem handleBudget_breaker (small : config.budgetLimits.Small)
    (coherent : Coherent config (world.core config))
    (breaker : PersistsBreaker config (world.core config)) (around : Surroundings)
    (inputTokens outputTokens costMicros : Int) :
    PersistsBreaker config
      ((handleBudget config around world inputTokens outputTokens costMicros).1.core config) := by
  unfold handleBudget
  cases current : world.actor.state with
  | none => exact breaker
  | some state =>
    obtain ⟨log, loaded⟩ := coherent.loaded current
    by_cases terminal : state.status.isTerminal = true
    · simp only [if_pos terminal]
      exact breaker
    simp only [if_neg terminal]
    have before := breaker _ loaded.stored
    have reason := before.reason
    rw [if_pos (before.live (by simpa using terminal))] at reason
    split
    · exact breaker
    · rename_i evaluation evaluated
      have closed := isExhausted_exact small (isExhausted_evaluation evaluated)
      split
      · rename_i exhausted
        rw [exhausted, eq_comm, decide_eq_true_eq] at closed
        have holds : (exhaustedState state evaluation).BreakerExact config.budgetLimits :=
          ⟨(if_neg closed).symm, fun live => nomatch live⟩
        refine breaker.commit around ?_ ((loaded.callPort around config.checkpointWriter _).callPort
          around config.archivePort _) holds loaded.runId _
        rw [core_callPort_other config _ around _ rfl, core_callPort_other config _ around _ rfl]
      · rename_i open_
        rw [Bool.not_eq_true] at open_
        rw [open_, eq_comm, decide_eq_false_iff_not, not_not] at closed
        have holds : (budgetState state evaluation).BreakerExact config.budgetLimits :=
          ⟨reason.trans (if_pos closed).symm, fun _ => closed⟩
        exact breaker.commit around rfl loaded holds loaded.runId _

theorem step_budget (around : Surroundings) (inputTokens outputTokens costMicros : Int) :
    (step config world (.message (.budget inputTokens outputTokens costMicros) around)).core
        config =
      (handleBudget config around world inputTokens outputTokens costMicros).1.core config := by
  simp only [step, turn, handle]
  generalize handleBudget config around world inputTokens outputTokens costMicros = handled
  obtain ⟨after, failure⟩ := handled
  cases failure with
  | none => rfl
  | some failure => exact core_report config after _ failure

theorem PersistsBreaker.step (small : config.budgetLimits.Small)
    (coherent : Coherent config (world.core config))
    (breaker : PersistsBreaker config (world.core config)) (input : Input) :
    PersistsBreaker config ((step config world input).core config) := by
  intro later foundLater
  have one := step_core coherent input
  cases found : (world.core config).persisted with
  | none =>
    rcases one.of_absent found with absent | ⟨createRun, written⟩
    · rw [absent] at foundLater
      cases foundLater
    · rw [written] at foundLater
      cases foundLater
      have unused : BudgetUsage.Within ⟨0, 0, 0⟩ config.budgetLimits := config.budgetLimits.positive
      exact ⟨(if_pos unused).symm, fun _ => unused⟩
  | some snapshot =>
    rcases one.of_persisted found with
      ⟨kept, _⟩ | ⟨message, around, events, work, next, rfl, run, written, _⟩
    · rw [kept] at foundLater
      cases foundLater
      exact breaker _ found
    · rcases run.breakerExact (breaker _ found) with holds | ⟨_, _, _, rfl⟩
      · rw [written] at foundLater
        cases foundLater
        exact holds
      · rw [step_budget] at foundLater
        exact handleBudget_breaker small coherent breaker around _ _ _ later foundLater

/-- In every reachable state the persisted Run has failed for its budget exactly when one of its
counts has reached its limit. -/
theorem budget_breaker_exact (config : ActorConfig) (small : config.budgetLimits.Small)
    (world : World) (fresh : Fresh config world) (inputs : List Input) :
    ∀ snapshot, (runFrom (step config) world inputs).store.load config.runId = some snapshot →
      snapshot.state.BreakerExact config.budgetLimits := by
  have keeps : ∀ (reached : World) (input : Input),
      Coherent config (reached.core config) ∧ PersistsBreaker config (reached.core config) →
      Coherent config ((step config reached input).core config) ∧
        PersistsBreaker config ((step config reached input).core config) :=
    fun _ input both => ⟨step_coherent both.1 input, both.2.step small both.1 input⟩
  exact (runFrom_invariant _ keeps ⟨fresh.coherent, fresh.reached.holds⟩ inputs).2

end Actor

/-- A Run whose budget is spent at once. -/
def SampleRun.toExhausted : List Input :=
  [.message (.create runId createRun none) calm, .message (.budget 100000 0 0) calm]

open SampleRun in
theorem budget_breaker_exact_spent :
    ∃ snapshot, (runFrom (step SampleRun.config) start toExhausted).store.load runId =
        some snapshot ∧ snapshot.state.failureReason = some .budgetExhausted ∧
      snapshot.state.BreakerExact SampleRun.config.budgetLimits := by
  have spent : ((runFrom (step SampleRun.config) start toExhausted).store.load runId).map
      (·.state.failureReason) = some (some .budgetExhausted) := by decide +kernel
  obtain ⟨snapshot, found, reason⟩ := Option.map_eq_some_iff.mp spent
  exact ⟨snapshot, found, reason, budget_breaker_exact SampleRun.config
    ⟨by decide, by decide, by decide⟩ start start_fresh toExhausted snapshot found⟩

end CodeMigrator
