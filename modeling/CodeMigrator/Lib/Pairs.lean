import Mathlib.Data.List.Basic

/-!
# Pairs of characters

Splitting a text at two equal marks in a row, and taking away the first character of a certain
pair. A text that is split piece by piece, what is left over of one in front of the next, gives
the parts of the whole. A pair that two pieces have between them is not seen in either:
`dropFirst` of the pieces is `joinAt` of the whole, which knows where it is cut.
-/

namespace Lib

variable {α : Type} [DecidableEq α]

/-! ## Splitting -/

/-- The parts of a text, the first of which has begun. -/
def splitPairFrom (mark : α) (current : List α) : List α → List (List α)
  | [] => [current]
  | c :: rest =>
    if c = mark ∧ current.getLast? = some mark then
      current.dropLast :: splitPairFrom mark [] rest
    else splitPairFrom mark (current ++ [c]) rest

/-- `text.split(mark + mark)`. -/
def splitPair (mark : α) (text : List α) : List (List α) := splitPairFrom mark [] text

/-- The part that is left over. -/
def lastPart (mark : α) (current text : List α) : List α :=
  ((splitPairFrom mark current text).getLast?).getD []

section Split

variable {mark : α}

theorem splitPairFrom_ne_nil (mark : α) (current text : List α) : splitPairFrom mark current text ≠ [] := by
  induction text generalizing current with
  | nil => exact List.cons_ne_nil _ _
  | cons c text ih =>
    rw [splitPairFrom]
    split
    · exact List.cons_ne_nil _ _
    · exact ih _

theorem splitPairFrom_append (current text more : List α) :
    splitPairFrom mark current (text ++ more) =
      (splitPairFrom mark current text).dropLast ++
        splitPairFrom mark (lastPart mark current text) more := by
  induction text generalizing current with
  | nil => rfl
  | cons c text ih =>
    rw [List.cons_append, splitPairFrom, splitPairFrom, lastPart, splitPairFrom]
    split
    · have some_ := splitPairFrom_ne_nil mark [] text
      rw [ih, List.dropLast_cons_of_ne_nil some_, List.getLast?_cons_of_ne_nil some_]
      rfl
    · exact ih _

/-- The part that is left over has no pair. -/
theorem splitPair_lastPart {current text : List α} (open_ : splitPair mark current = [current]) :
    splitPair mark (lastPart mark current text) = [lastPart mark current text] := by
  induction text generalizing current with
  | nil => exact open_
  | cons c text ih =>
    rw [lastPart, splitPairFrom]
    split
    · rw [List.getLast?_cons_of_ne_nil (splitPairFrom_ne_nil _ _ _)]
      exact ih rfl
    · next other =>
      refine ih ?_
      rw [splitPair] at open_ ⊢
      rw [splitPairFrom_append, lastPart, open_]
      simp [splitPairFrom, other]

/-- Splitting a text with what is left over in front of it. -/
theorem splitPair_append {current : List α} (open_ : splitPair mark current = [current])
    (text : List α) : splitPair mark (current ++ text) = splitPairFrom mark current text := by
  rw [splitPair] at open_ ⊢
  rw [splitPairFrom_append, lastPart, open_]
  rfl

/-- A text without the mark only goes on. -/
theorem splitPairFrom_plain {text : List α} (plain : mark ∉ text) (current rest : List α) :
    splitPairFrom mark current (text ++ rest) = splitPairFrom mark (current ++ text) rest := by
  induction text generalizing current with
  | nil => rw [List.nil_append, List.append_nil]
  | cons c text ih =>
    rw [List.mem_cons, not_or] at plain
    rw [List.cons_append, splitPairFrom, if_neg fun both => plain.1 both.1.symm, ih plain.2,
      List.append_assoc]
    rfl

end Split

/-! ## Taking the first of a pair away -/

/-- `text.replaceAll(cr + lf, lf)`. -/
def dropFirst (cr lf : α) : List α → List α
  | [] => []
  | c :: rest =>
    if c = cr ∧ rest.head? = some lf then dropFirst cr lf rest else c :: dropFirst cr lf rest

/-- The same in a text that is cut at some places. -/
def joinAt (cr lf : α) (cut : Nat → Bool) (place : Nat) : List α → List α
  | [] => []
  | c :: rest =>
    if c = cr ∧ rest.head? = some lf ∧ cut (place + 1) = false then
      joinAt cr lf cut (place + 1) rest
    else c :: joinAt cr lf cut (place + 1) rest

/-- One of the pieces ends at the place. -/
def cutIn (pieces : List (List α)) (place : Nat) : Bool :=
  (List.range (pieces.length + 1)).any fun count => (pieces.take count).flatten.length == place

section Drop

variable {cr lf : α}

omit [DecidableEq α] in
theorem cutIn_iff {pieces : List (List α)} {place : Nat} :
    cutIn pieces place = true ↔ ∃ count, (pieces.take count).flatten.length = place := by
  simp only [cutIn, List.any_eq_true, List.mem_range, beq_iff_eq]
  constructor
  · rintro ⟨count, -, same⟩
    exact ⟨count, same⟩
  · rintro ⟨count, same⟩
    by_cases inside : count < pieces.length + 1
    · exact ⟨count, inside, same⟩
    · refine ⟨pieces.length, Nat.lt_succ_self _, ?_⟩
      rw [List.take_of_length_le (by omega)] at same
      rw [List.take_length, same]

/-- Taking the first characters away piece by piece. -/
theorem flatMap_dropFirst (pieces : List (List α)) (cut : Nat → Bool) (place : Nat)
    (cuts : ∀ later, place < later →
      (cut later = true ↔ ∃ count, place + (pieces.take count).flatten.length = later)) :
    pieces.flatMap (dropFirst cr lf) = joinAt cr lf cut place pieces.flatten := by
  induction pieces generalizing place with
  | nil => rfl
  | cons piece pieces outer =>
    induction piece generalizing place with
    | nil =>
      refine outer place fun later after => ?_
      rw [cuts later after]
      constructor
      · rintro ⟨_ | count, same⟩
        · exact ⟨0, same⟩
        · exact ⟨count, same⟩
      · rintro ⟨count, same⟩
        exact ⟨count + 1, same⟩
    | cons c piece inner =>
      have next := inner (place + 1) fun later after => by
        rw [cuts later (by omega)]
        constructor
        · rintro ⟨_ | count, same⟩
          · exact absurd same (by simp; omega)
          · refine ⟨count + 1, ?_⟩
            simp only [List.take_succ_cons, List.flatten_cons, List.length_append,
              List.length_cons] at same ⊢
            omega
        · rintro ⟨_ | count, same⟩
          · exact absurd same (by simp; omega)
          · refine ⟨count + 1, ?_⟩
            simp only [List.take_succ_cons, List.flatten_cons, List.length_append,
              List.length_cons] at same ⊢
            omega
      rw [List.flatMap_cons, List.flatten_cons, List.cons_append, joinAt, dropFirst]
      rw [List.flatMap_cons, List.flatten_cons] at next
      have here : cut (place + 1) = piece.isEmpty := by
        rw [Bool.eq_iff_iff, cuts (place + 1) (Nat.lt_succ_self place), List.isEmpty_iff]
        constructor
        · rintro ⟨_ | count, same⟩
          · simp at same
          · simp only [List.take_succ_cons, List.flatten_cons, List.length_append,
              List.length_cons] at same
            exact List.eq_nil_of_length_eq_zero (by omega)
        · rintro rfl
          exact ⟨1, by simp⟩
      rw [here]
      cases piece with
      | nil =>
        simp only [List.head?_nil, reduceCtorEq, and_false, if_false, List.isEmpty_nil,
          Bool.true_eq_false, List.cons_append]
        rw [next]
      | cons d piece =>
        by_cases both : c = cr ∧ (d :: piece).head? = some lf
        · rw [if_pos both, if_pos ⟨both.1, both.2, rfl⟩]
          exact next
        · rw [if_neg both, if_neg fun all => both ⟨all.1, all.2.1⟩, List.cons_append, next]

/-- A line with its end, which stays whole exactly when the line end is cut. -/
theorem joinAt_line (different : lf ≠ cr) (cut : Nat → Bool) {line : List α} (plain : cr ∉ line)
    (place : Nat) (rest : List α) :
    joinAt cr lf cut place (line ++ cr :: lf :: rest) =
      line ++ (if cut (place + line.length + 1) then [cr, lf] else [lf]) ++
        joinAt cr lf cut (place + line.length + 2) rest := by
  induction line generalizing place with
  | nil =>
    have feed : joinAt cr lf cut (place + 1) (lf :: rest) =
        lf :: joinAt cr lf cut (place + 2) rest := by
      rw [joinAt, if_neg fun both => different both.1]
    rw [List.nil_append, joinAt, feed]
    cases here : cut (place + 1) with
    | false =>
      rw [if_pos ⟨rfl, rfl, rfl⟩]
      simp
    | true =>
      rw [if_neg fun all => absurd all.2.2 (by simp)]
      simp
  | cons c line ih =>
    rw [List.mem_cons, not_or] at plain
    rw [List.cons_append, joinAt, if_neg fun both => plain.1 both.1.symm, ih plain.2,
      List.length_cons, show place + 1 + line.length = place + (line.length + 1) by omega]
    rfl

end Drop

end Lib
