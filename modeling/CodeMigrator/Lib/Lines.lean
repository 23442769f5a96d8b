import Mathlib.Data.List.Basic
import Mathlib.Data.List.TakeWhile

/-!
# Lines of a text

Splitting a text at its line boundaries, which are dropped; a carriage return and a line feed
after it are one boundary, and a text that ends with a boundary has no empty last line. The
characters are of any type.
-/

namespace Lib

variable {α : Type} [DecidableEq α]

/-- The lines from `current` on; `afterReturn` says that a line feed belongs to the boundary
before it. -/
def linesFrom (isBreak : α → Bool) (cr lf : α) (current : List α) (afterReturn : Bool) :
    List α → List (List α)
  | [] => if current = [] then [] else [current]
  | c :: rest =>
    if afterReturn ∧ c = lf then linesFrom isBreak cr lf current false rest
    else if isBreak c then current :: linesFrom isBreak cr lf [] (decide (c = cr)) rest
    else linesFrom isBreak cr lf (current ++ [c]) false rest

/-- The lines of a text. -/
def splitLines (isBreak : α → Bool) (cr lf : α) (text : List α) : List (List α) :=
  linesFrom isBreak cr lf [] false text

theorem linesFrom_unbroken {isBreak : α → Bool} {cr lf : α} {text current : List α}
    (unbroken : ∀ c ∈ text, isBreak c = false) (some : current ++ text ≠ []) :
    linesFrom isBreak cr lf current false text = [current ++ text] := by
  induction text generalizing current with
  | nil =>
    rw [linesFrom, if_neg (by simpa using some), List.append_nil]
  | cons c rest ih =>
    rw [linesFrom, if_neg (by simp), if_neg (by simp [unbroken c (List.mem_cons_self ..)]),
      ih (fun d member => unbroken d (List.mem_cons_of_mem _ member)) (by simp)]
    simp

/-! ## Lines with their boundaries -/

/-- The lines from `current` on with their boundaries: a line ends at a boundary, but not between a
carriage return and its line feed. -/
def keptLinesFrom (isBreak : α → Bool) (cr lf : α) (current : List α) : List α → List (List α)
  | [] => if current = [] then [] else [current]
  | c :: rest =>
    if isBreak c = true ∧ ¬ (c = cr ∧ rest.head? = some lf) then
      (current ++ [c]) :: keptLinesFrom isBreak cr lf [] rest
    else keptLinesFrom isBreak cr lf (current ++ [c]) rest

/-- The number of the line that holds a position. -/
def lineHolding : List (List α) → Nat → Nat
  | [], _ => 1
  | line :: rest, position =>
    if position < line.length then 1 else lineHolding rest (position - line.length) + 1

/-- Every boundary that begins before the position is a line feed, or a carriage return with one. -/
def FeedsBefore (isBreak : α → Bool) (cr lf : α) (text : List α) (position : Nat) : Prop :=
  ∀ index c, index < position → text[index]? = some c → isBreak c = true →
    c = lf ∨ c = cr ∧ text[index + 1]? = some lf

section Kept

variable {isBreak : α → Bool} {cr lf : α} {current : List α}

theorem linesFrom_afterReturn {text : List α} (other : text.head? ≠ some lf) :
    linesFrom isBreak cr lf current true text = linesFrom isBreak cr lf current false text := by
  cases text with
  | nil => rfl
  | cons c rest =>
    have different : ¬ c = lf := fun same => other (congrArg some same)
    simp [linesFrom, different]

omit [DecidableEq α] in
theorem takeWhile_boundary {current : List α} (clean : ∀ c ∈ current, isBreak c = false) {c : α}
    (breaks : isBreak c = true) (rest : List α) :
    (current ++ c :: rest).takeWhile (fun d => !isBreak d) = current := by
  rw [List.takeWhile_append_of_pos (by simpa using clean),
    List.takeWhile_cons_of_neg (by simp [breaks]), List.append_nil]

/-- The lines are the kept ones up to their boundaries, also behind a carriage return whose line
feed is still to come. -/
theorem linesFrom_eq_kept (crBreaks : isBreak cr = true) (lfBreaks : isBreak lf = true)
    (different : lf ≠ cr) (text : List α) (clean : ∀ c ∈ current, isBreak c = false) :
    linesFrom isBreak cr lf current false text =
        (keptLinesFrom isBreak cr lf current text).map (·.takeWhile fun d => !isBreak d) ∧
      (text.head? = some lf → current :: linesFrom isBreak cr lf [] true text =
        (keptLinesFrom isBreak cr lf (current ++ [cr]) text).map
          (·.takeWhile fun d => !isBreak d)) := by
  induction text generalizing current with
  | nil =>
    refine ⟨?_, fun next => (nomatch next)⟩
    rw [linesFrom, keptLinesFrom]
    split
    · rfl
    · rw [List.map_singleton, List.takeWhile_eq_self_iff.mpr (by simpa using clean)]
  | cons c rest ih =>
    have fresh : ∀ d ∈ ([] : List α), isBreak d = false := by simp
    constructor
    · rw [linesFrom, if_neg (by simp), keptLinesFrom]
      by_cases breaks : isBreak c = true
      · rw [if_pos breaks]
        by_cases pair : c = cr ∧ rest.head? = some lf
        · rw [if_neg (fun ends => ends.2 pair), pair.1, decide_eq_true rfl]
          exact (ih clean).2 pair.2
        · rw [if_pos ⟨breaks, pair⟩, List.map_cons, takeWhile_boundary clean breaks, ← (ih fresh).1]
          by_cases return_ : c = cr
          · rw [decide_eq_true return_, linesFrom_afterReturn fun next => pair ⟨return_, next⟩]
          · rw [decide_eq_false return_]
      · rw [if_neg breaks, if_neg (fun ends => breaks ends.1)]
        refine (ih ?_).1
        intro d member
        rcases List.mem_append.mp member with old | new
        · exact clean d old
        · rw [List.mem_singleton.mp new]
          exact Bool.eq_false_iff.mpr breaks
    · intro next
      obtain rfl : c = lf := Option.some.inj next
      rw [linesFrom, if_pos ⟨rfl, rfl⟩, keptLinesFrom,
        if_pos ⟨lfBreaks, fun pair => different pair.1⟩, List.map_cons, List.append_assoc,
        List.singleton_append, takeWhile_boundary clean crBreaks, ← (ih fresh).1]

theorem splitLines_eq_kept (crBreaks : isBreak cr = true) (lfBreaks : isBreak lf = true)
    (different : lf ≠ cr) (text : List α) :
    splitLines isBreak cr lf text =
      (keptLinesFrom isBreak cr lf [] text).map (·.takeWhile fun d => !isBreak d) :=
  (linesFrom_eq_kept crBreaks lfBreaks different text (by simp)).1

theorem lineHolding_current {text : List α} {position : Nat} (inside : position < current.length) :
    lineHolding (keptLinesFrom isBreak cr lf current text) position = 1 := by
  induction text generalizing current with
  | nil =>
    have some : current ≠ [] := List.length_pos_iff.mp (by omega)
    rw [keptLinesFrom, if_neg some, lineHolding, if_pos inside]
  | cons c rest ih =>
    have longer : position < (current ++ [c]).length := by simp; omega
    rw [keptLinesFrom]
    split
    · rw [lineHolding, if_pos longer]
    · exact ih longer

omit [DecidableEq α] in
theorem feedsBefore_zero (text : List α) : FeedsBefore isBreak cr lf text 0 := by
  intro index c before
  omega

omit [DecidableEq α] in
theorem feedsBefore_cons {c : α} {rest : List α} {position : Nat} :
    FeedsBefore isBreak cr lf (c :: rest) (position + 1) ↔
      (isBreak c = true → c = lf ∨ c = cr ∧ rest.head? = some lf) ∧
        FeedsBefore isBreak cr lf rest position := by
  constructor
  · intro feeds
    constructor
    · simpa [List.head?_eq_getElem?] using feeds 0 c (by omega) rfl
    · intro index d before found
      exact feeds (index + 1) d (by omega) found
  · rintro ⟨first, feeds⟩ index d before found
    cases index with
    | zero =>
      obtain rfl : c = d := Option.some.inj found
      simpa [List.head?_eq_getElem?] using first
    | succ index => exact feeds index d (by omega) found

/-- There are at least as many lines as line feeds before a position, and no more exactly if every
boundary before it has a line feed. -/
theorem lineHolding_kept (lfBreaks : isBreak lf = true) (different : lf ≠ cr) {text : List α}
    {position : Nat} (inside : position < text.length) (current : List α) :
    (text.take position).count lf + 1 ≤
        lineHolding (keptLinesFrom isBreak cr lf current text) (current.length + position) ∧
      (lineHolding (keptLinesFrom isBreak cr lf current text) (current.length + position) =
        (text.take position).count lf + 1 ↔ FeedsBefore isBreak cr lf text position) := by
  induction text generalizing current position with
  | nil => cases inside
  | cons c rest ih =>
    cases position with
    | zero =>
      have first : lineHolding (keptLinesFrom isBreak cr lf current (c :: rest)) current.length = 1 := by
        rw [keptLinesFrom]
        split
        · rw [lineHolding, if_pos (by simp)]
        · exact lineHolding_current (by simp)
      simp [first, feedsBefore_zero]
    | succ position =>
      have later : position < rest.length := Nat.lt_of_succ_lt_succ inside
      rw [feedsBefore_cons, List.take_succ_cons, List.count_cons, keptLinesFrom]
      by_cases ends : isBreak c = true ∧ ¬ (c = cr ∧ rest.head? = some lf)
      · -- the line ends here, and the position is behind it
        have behind : lineHolding ((current ++ [c]) :: keptLinesFrom isBreak cr lf [] rest)
            (current.length + (position + 1)) =
            lineHolding (keptLinesFrom isBreak cr lf [] rest) position + 1 := by
          rw [lineHolding, if_neg (by simp), List.length_append, List.length_singleton,
            show current.length + (position + 1) - (current.length + 1) = position by omega]
        obtain ⟨least, exact_⟩ := ih later []
        rw [List.length_nil, Nat.zero_add] at least exact_
        rw [if_pos ends, behind, ← exact_]
        by_cases feed : c = lf
        · have counted : (c == lf) = true := beq_iff_eq.mpr feed
          rw [if_pos counted]
          refine ⟨by omega, ?_⟩
          constructor
          · intro same
            exact ⟨fun _ => .inl feed, by omega⟩
          · rintro ⟨-, same⟩
            omega
        · have counted : ¬ (c == lf) = true := fun same => feed (beq_iff_eq.mp same)
          rw [if_neg counted]
          refine ⟨by omega, ?_⟩
          constructor
          · intro same
            omega
          · rintro ⟨fed, -⟩
            rcases fed ends.1 with isFeed | pair
            · exact absurd isFeed feed
            · exact absurd pair ends.2
      · have notFeed : ¬ (c == lf) = true := by
          rw [beq_iff_eq]
          intro feed
          exact ends ⟨feed ▸ lfBreaks, fun pair => different (feed ▸ pair.1)⟩
        have free : isBreak c = true → c = lf ∨ c = cr ∧ rest.head? = some lf := by
          intro breaks
          by_contra neither
          exact ends ⟨breaks, fun pair => neither (.inr pair)⟩
        have shifted : current.length + (position + 1) = (current ++ [c]).length + position := by
          simp; omega
        rw [if_neg ends, if_neg notFeed, shifted, and_iff_right free]
        exact ih later (current ++ [c])

theorem keptLinesFrom_flatten (text current : List α) :
    (keptLinesFrom isBreak cr lf current text).flatten = current ++ text := by
  induction text generalizing current with
  | nil =>
    rw [keptLinesFrom]
    split
    · next none => simp [none]
    · simp
  | cons c rest ih =>
    rw [keptLinesFrom]
    split
    · simp [ih]
    · simp [ih]

theorem keptLinesFrom_ne_nil {text current : List α} :
    ∀ line ∈ keptLinesFrom isBreak cr lf current text, line ≠ [] := by
  induction text generalizing current with
  | nil =>
    rw [keptLinesFrom]
    split
    · simp
    · next some => simpa using some
  | cons c rest ih =>
    rw [keptLinesFrom]
    split
    · rintro line member rfl
      rcases List.mem_cons.mp member with first | later
      · simp at first
      · exact ih [] later rfl
    · exact ih

/-- After a line feed the lines begin anew. -/
theorem keptLinesFrom_append_feed (lfBreaks : isBreak lf = true) (different : lf ≠ cr)
    (before after current : List α) :
    keptLinesFrom isBreak cr lf current (before ++ lf :: after) =
      keptLinesFrom isBreak cr lf current (before ++ [lf]) ++ keptLinesFrom isBreak cr lf [] after := by
  induction before generalizing current with
  | nil =>
    have ends : isBreak lf = true ∧ ∀ next : Option α, ¬ (lf = cr ∧ next = some lf) :=
      ⟨lfBreaks, fun _ pair => different pair.1⟩
    rw [List.nil_append, List.nil_append, keptLinesFrom, keptLinesFrom, if_pos ⟨ends.1, ends.2 _⟩,
      if_pos ⟨ends.1, ends.2 _⟩]
    simp [keptLinesFrom]
  | cons c rest ih =>
    have head : (rest ++ lf :: after).head? = (rest ++ [lf]).head? := by
      cases rest with
      | nil => rfl
      | cons d more => rfl
    rw [List.cons_append, List.cons_append, keptLinesFrom, keptLinesFrom, head]
    split
    · rw [ih, List.cons_append]
    · exact ih _

omit [DecidableEq α] in
theorem lineHolding_last {lines : List (List α)} (filled : ∀ line ∈ lines, line ≠ [])
    (some : lines ≠ []) : lineHolding lines (lines.flatten.length - 1) = lines.length := by
  induction lines with
  | nil => exact absurd rfl some
  | cons line rest ih =>
    have longer : 0 < line.length := List.length_pos_iff.mpr (filled line List.mem_cons_self)
    rw [lineHolding, List.flatten_cons, List.length_append, List.length_cons]
    cases rest with
    | nil =>
      rw [if_pos (by simp; omega)]
      rfl
    | cons second more =>
      have filledRest := fun line member => filled line (List.mem_cons_of_mem _ member)
      have longRest : 0 < (second :: more).flatten.length := by
        have first := List.length_pos_iff.mpr (filledRest second List.mem_cons_self)
        simp
        omega
      have position : line.length + (second :: more).flatten.length - 1 - line.length =
          (second :: more).flatten.length - 1 := by omega
      rw [if_neg (by omega), position, ih filledRest (by simp)]

/-- The line feeds up to the last one count the lines up to it exactly if every boundary before it
has a line feed, and too few of them otherwise. -/
theorem length_take_lines (lfBreaks : isBreak lf = true) (different : lf ≠ cr)
    (before after : List α) :
    ((keptLinesFrom isBreak cr lf [] (before ++ lf :: after)).take
        ((before ++ [lf]).count lf)).flatten.length = before.length + 1 ↔
      FeedsBefore isBreak cr lf (before ++ lf :: after) before.length := by
  have inside : before.length < (before ++ [lf]).length := by simp
  obtain ⟨least, exact_⟩ := lineHolding_kept lfBreaks different inside []
  rw [List.length_nil, Nat.zero_add] at least exact_
  -- the last of these lines ends with the line feed
  have whole : (keptLinesFrom isBreak cr lf [] (before ++ [lf])).flatten = before ++ [lf] :=
    keptLinesFrom_flatten _ _
  have filled := @keptLinesFrom_ne_nil _ _ isBreak cr lf (before ++ [lf]) []
  have some : keptLinesFrom isBreak cr lf [] (before ++ [lf]) ≠ [] := by
    intro none
    rw [none] at whole
    simp at whole
  have last := lineHolding_last filled some
  rw [whole, List.length_append, List.length_singleton, Nat.add_sub_cancel] at last
  have counted : (before ++ [lf]).count lf = ((before ++ [lf]).take before.length).count lf + 1 := by
    simp
  have feeds : FeedsBefore isBreak cr lf (before ++ lf :: after) before.length ↔
      FeedsBefore isBreak cr lf (before ++ [lf]) before.length := by
    have same : ∀ index, index ≤ before.length →
        (before ++ lf :: after)[index]? = (before ++ [lf])[index]? := by
      intro index bound
      rcases Nat.lt_or_eq_of_le bound with less | rfl
      · rw [List.getElem?_append_left less, List.getElem?_append_left less]
      · simp
    unfold FeedsBefore
    refine forall_congr' fun index => forall_congr' fun c => forall_congr' fun less => ?_
    rw [same index less.le, same (index + 1) less]
  rw [keptLinesFrom_append_feed lfBreaks different, feeds, ← exact_, last, counted]
  rw [last] at least
  generalize keptLinesFrom isBreak cr lf [] (before ++ [lf]) = lines at *
  generalize ((before ++ [lf]).take before.length).count lf + 1 = count at *
  rw [List.take_append_of_le_length least]
  constructor
  · intro total
    by_contra fewer
    -- the lines that are left out are not empty
    have rest : lines.drop count ≠ [] := by
      intro none
      have := List.drop_eq_nil_iff.mp none
      omega
    obtain ⟨line, more, shape⟩ := List.exists_cons_of_ne_nil rest
    have long : 0 < line.length := by
      refine List.length_pos_iff.mpr (filled line (List.mem_of_mem_drop (i := count) ?_))
      rw [shape]
      exact List.mem_cons_self
    have parts := congrArg (fun lines : List (List α) => lines.flatten.length)
      (List.take_append_drop count lines)
    simp only [List.flatten_append, List.length_append, shape, List.flatten_cons, whole,
      List.length_singleton] at parts
    omega
  · intro all
    rw [List.take_of_length_le all.le, whole, List.length_append, List.length_singleton]

end Kept

/-! ## Runs of characters -/

omit [DecidableEq α]

variable {kind : α → Bool}

theorem takeWhile_run {run rest : List α} (inside : ∀ c ∈ run, kind c = true)
    (ends : ∀ c ∈ rest.head?, kind c = false) : (run ++ rest).takeWhile kind = run := by
  rw [List.takeWhile_append_of_pos inside]
  cases rest with
  | nil => simp
  | cons c more => rw [List.takeWhile_cons_of_neg (by simp [ends c rfl]), List.append_nil]

theorem dropWhile_run {run rest : List α} (inside : ∀ c ∈ run, kind c = true)
    (ends : ∀ c ∈ rest.head?, kind c = false) : (run ++ rest).dropWhile kind = rest := by
  rw [List.dropWhile_append_of_pos inside]
  cases rest with
  | nil => rfl
  | cons c more => rw [List.dropWhile_cons_of_neg (by simp [ends c rfl])]

theorem head_dropWhile {text : List α} : ∀ c ∈ (text.dropWhile kind).head?, kind c = false := by
  intro c first
  cases left : text.dropWhile kind with
  | nil => simp [left] at first
  | cons d rest =>
    have stopped := List.head_dropWhile_not kind (l := text) (by simp [left])
    simp only [left, List.head_cons, List.head?_cons, Option.mem_some_iff] at stopped first
    rw [← first]
    exact stopped

end Lib
