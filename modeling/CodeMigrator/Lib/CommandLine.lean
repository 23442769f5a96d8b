import Mathlib.Data.List.Basic

/-!
# Vectors of options

A vector of words in which each option takes a fixed number of the words behind it, and one word
ends the options. Words that an option takes are not looked at, whatever they are.
-/

namespace Lib

variable {α : Type} [DecidableEq α]

/-- The options with their arguments and the words behind the one that ends them; `fuel` bounds the
number of options. -/
def splitOptions (arity : α → Option Nat) (stop : α) :
    Nat → List α → Option (List (α × List α) × List α)
  | 0, _ => none
  | _, [] => none
  | fuel + 1, name :: rest =>
    if name = stop then some ([], rest)
    else
      match arity name with
      | none => none
      | some count =>
        if rest.length < count then none
        else
          match splitOptions arity stop fuel (rest.drop count) with
          | none => none
          | some (options, command) => some ((name, rest.take count) :: options, command)

/-- The words of options with their arguments. -/
def optionWords (options : List (α × List α)) : List α :=
  options.flatMap fun option => option.1 :: option.2

omit [DecidableEq α] in
theorem optionWords_append (first second : List (α × List α)) :
    optionWords (first ++ second) = optionWords first ++ optionWords second :=
  List.flatMap_append

omit [DecidableEq α] in
theorem length_le_optionWords (options : List (α × List α)) :
    options.length ≤ (optionWords options).length := by
  induction options with
  | nil => exact Nat.le_refl 0
  | cons option rest ih =>
    simp only [optionWords, List.flatMap_cons, List.length_append, List.length_cons] at ih ⊢
    omega

variable {arity : α → Option Nat} {stop : α}

/-- The option takes as many words as its arity says, and does not end the options. -/
def FitsArity (arity : α → Option Nat) (stop : α) (option : α × List α) : Prop :=
  option.1 ≠ stop ∧ arity option.1 = some option.2.length

theorem splitOptions_optionWords {options : List (α × List α)}
    (fits : ∀ option ∈ options, FitsArity arity stop option) (command : List α)
    {fuel : Nat} (enough : options.length < fuel) :
    splitOptions arity stop fuel (optionWords options ++ stop :: command) =
      some (options, command) := by
  induction options generalizing fuel with
  | nil =>
    obtain ⟨fuel, rfl⟩ : ∃ less, fuel = less + 1 := ⟨fuel - 1, by omega⟩
    simp [optionWords, splitOptions]
  | cons option rest ih =>
    obtain ⟨fuel, rfl⟩ : ∃ less, fuel = less + 1 := ⟨fuel - 1, by omega⟩
    obtain ⟨notStop, count⟩ := fits option List.mem_cons_self
    have fewer : rest.length < fuel := by
      rw [List.length_cons] at enough
      omega
    have later := ih (fun other member => fits other (List.mem_cons_of_mem _ member)) fewer
    have words : optionWords (option :: rest) ++ stop :: command =
        option.1 :: (option.2 ++ (optionWords rest ++ stop :: command)) := by
      simp [optionWords]
    rw [words, splitOptions, if_neg notStop, count]
    have notShort : ¬ (option.2 ++ (optionWords rest ++ stop :: command)).length <
        option.2.length := by
      rw [List.length_append]
      omega
    simp only [notShort, if_false, List.drop_left, List.take_left, later]

end Lib
