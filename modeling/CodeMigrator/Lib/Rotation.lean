import Mathlib.Data.List.Basic

/-!
# Turns of a rotation

The positions of a list are visited from a cursor on and round the end. The turn of a position
is the number of positions that are visited before it; a cursor that moves behind a position
takes the positions up to that one to the end of the rotation and keeps the order of the others.
-/

namespace Lib

/-- The number of positions that are visited before `position`. -/
def turn (length cursor position : Nat) : Nat :=
  if cursor ≤ position then position - cursor else position + length - cursor

variable {length cursor position other : Nat}

section

variable (inside : cursor < length)
include inside

theorem turn_lt (bound : position < length) : turn length cursor position < length := by
  unfold turn
  split
  · omega
  · omega

theorem visited_at_turn (bound : position < length) :
    (cursor + turn length cursor position) % length = position := by
  unfold turn
  split
  · rw [show cursor + (position - cursor) = position by omega, Nat.mod_eq_of_lt bound]
  · rw [show cursor + (position + length - cursor) = position + length by omega,
      Nat.add_mod_right, Nat.mod_eq_of_lt bound]

theorem turn_visited {offset : Nat} (bound : offset < length) :
    turn length cursor ((cursor + offset) % length) = offset := by
  unfold turn
  by_cases wraps : cursor + offset < length
  · rw [Nat.mod_eq_of_lt wraps, if_pos (by omega)]
    omega
  · have wrapped : (cursor + offset) % length = cursor + offset - length := by
      rw [Nat.mod_eq_sub_mod (by omega), Nat.mod_eq_of_lt (by omega)]
    rw [wrapped, if_neg (by omega)]
    omega

theorem turn_inj (bound : position < length) (otherBound : other < length)
    (same : turn length cursor position = turn length cursor other) : position = other := by
  rw [← visited_at_turn inside bound, same, visited_at_turn inside otherBound]

theorem turn_behind (bound : position < length) (otherBound : other < length) :
    turn length ((position + 1) % length) other =
      if turn length cursor other ≤ turn length cursor position then
        turn length cursor other + length - (turn length cursor position + 1)
      else turn length cursor other - (turn length cursor position + 1) := by
  by_cases last : position + 1 = length
  · rw [last, Nat.mod_self]
    unfold turn
    repeat' split
    all_goals omega
  · rw [Nat.mod_eq_of_lt (by omega)]
    unfold turn
    repeat' split
    all_goals omega

/-- An order of two turns is kept when the cursor moves behind a position that is not visited
between the two. -/
theorem turn_behind_lt {first second : Nat} (bound : position < length)
    (firstBound : first < length) (secondBound : second < length)
    (ordered : turn length cursor first < turn length cursor second)
    (outside : turn length cursor position < turn length cursor first ∨
      turn length cursor second ≤ turn length cursor position) :
    turn length ((position + 1) % length) first < turn length ((position + 1) % length) second := by
  have firstTurn := turn_lt inside firstBound
  have secondTurn := turn_lt inside secondBound
  have positionTurn := turn_lt inside bound
  rw [turn_behind inside bound firstBound, turn_behind inside bound secondBound]
  repeat' split
  all_goals omega

theorem turn_behind_self (bound : position < length) (otherBound : other < length)
    (different : other ≠ position) :
    turn length ((position + 1) % length) other < turn length ((position + 1) % length) position := by
  have apart : turn length cursor other ≠ turn length cursor position := by
    intro same
    exact different (turn_inj inside otherBound bound same)
  have otherTurn := turn_lt inside otherBound
  have positionTurn := turn_lt inside bound
  rw [turn_behind inside bound otherBound, turn_behind inside bound bound]
  repeat' split
  all_goals omega

end

theorem findSome?_range {α : Type} {f : Nat → Option α} {bound : Nat} {result : α}
    (found : (List.range bound).findSome? f = some result) :
    ∃ least < bound, f least = some result ∧ ∀ smaller < least, f smaller = none := by
  induction bound with
  | zero => simp at found
  | succ bound ih =>
    rw [List.range_succ, List.findSome?_append] at found
    cases earlier : (List.range bound).findSome? f with
    | some other =>
      rw [earlier, Option.some_or] at found
      obtain ⟨least, inRange, result⟩ := ih (earlier.trans found)
      exact ⟨least, by omega, result⟩
    | none =>
      rw [earlier, Option.none_or] at found
      refine ⟨bound, by omega, by simpa using found, ?_⟩
      intro smaller below
      exact List.findSome?_eq_none_iff.mp earlier smaller (List.mem_range.mpr below)

end Lib
