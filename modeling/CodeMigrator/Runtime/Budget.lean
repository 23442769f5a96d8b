import Mathlib.Algebra.Group.Nat.Defs
import Mathlib.Algebra.Order.Ring.Unbundled.Rat
import Mathlib.Data.Nat.Log

/-!
# Run budget

`evaluate_budget` of `runtime/budget.py`. Usage and limits are non-negative integers;
their quotients are the doubles that true division returns.
-/

namespace CodeMigrator

/-- `BudgetLimits`. -/
structure BudgetLimits where
  inputTokens : Nat
  outputTokens : Nat
  costMicros : Nat
  positive : 0 < inputTokens ∧ 0 < outputTokens ∧ 0 < costMicros
  deriving DecidableEq

/-- The limits of an actor that is given none. -/
def BudgetLimits.default : BudgetLimits := ⟨100000, 100000, 1000000, by decide⟩

/-- `BudgetUsage`. -/
structure BudgetUsage where
  inputTokens : Nat
  outputTokens : Nat
  costMicros : Nat
  deriving DecidableEq

/-- `num / den` rounded to an integer, a tie to the even one. -/
def roundHalfEven (num den : Nat) : Nat :=
  let low := num / den
  let twice := 2 * (num % den)
  if twice < den ∨ twice = den ∧ low % 2 = 0 then low else low + 1

/-- `num / den` as a double for `0 < num` and `0 < den`; `none` is the `OverflowError`.
`exponent` makes the quotient a 53-bit integer, or a subnormal one. -/
def trueDivide (num den : Nat) : Option Rat :=
  if num = 0 then some 0
  else
    let guess : Int := (Nat.log 2 num : Int) - Nat.log 2 den
    let below := if 0 ≤ guess then num < den * 2 ^ guess.toNat else num * 2 ^ (-guess).toNat < den
    let exponent : Int := max ((if below then guess - 1 else guess) - 52) (-1074)
    let mantissa :=
      if 0 ≤ exponent then roundHalfEven num (den * 2 ^ exponent.toNat)
      else roundHalfEven (num * 2 ^ (-exponent).toNat) den
    let value : Rat :=
      if 0 ≤ exponent then ((mantissa * 2 ^ exponent.toNat : Nat) : Rat)
      else mkRat mantissa (2 ^ (-exponent).toNat)
    if value < ((2 ^ 1024 : Nat) : Rat) then some value else none

/-- The double that the literal `0.8` denotes. -/
def warningThreshold : Rat := mkRat 3602879701896397 4503599627370496

/-- `BudgetEvaluation`. -/
structure BudgetEvaluation where
  usage : BudgetUsage
  utilization : Rat
  warning : Bool
  exhausted : Bool

/-- `evaluate_budget`; `none` is an exception of its checks or divisions. -/
def evaluateBudget (previous : BudgetUsage) (limits : BudgetLimits)
    (inputTokens outputTokens costMicros : Int) (warningAlreadyEmitted : Bool) :
    Option BudgetEvaluation :=
  if inputTokens < 0 ∨ outputTokens < 0 ∨ costMicros < 0 then none
  else
    let usage : BudgetUsage :=
      ⟨previous.inputTokens + inputTokens.toNat, previous.outputTokens + outputTokens.toNat,
        previous.costMicros + costMicros.toNat⟩
    match trueDivide usage.inputTokens limits.inputTokens,
        trueDivide usage.outputTokens limits.outputTokens,
        trueDivide usage.costMicros limits.costMicros with
    | some input, some output, some cost =>
      let utilization := max (max input output) cost
      some {
        usage := usage
        utilization := utilization
        warning := !warningAlreadyEmitted && decide (warningThreshold ≤ utilization)
        exhausted := decide (1 ≤ utilization) }
    | _, _, _ => none

end CodeMigrator
