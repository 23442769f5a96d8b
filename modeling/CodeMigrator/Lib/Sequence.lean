import Mathlib.Data.List.Nodup
import Mathlib.Data.List.Sort
import Mathlib.Data.List.Induction

/-!
# Sequences

Position in a list, sorted lists, and the traversal of a list by a function that can
fail.
-/

namespace Lib

variable {α β ε : Type} {l xs : List α} {f : α → Except ε β} {ys : List β}

/-! ## Position -/

/-- `x` stands before `y` in the list. -/
def Before (l : List α) (x y : α) : Prop := List.Sublist [x, y] l

theorem Before.map (f : α → β) {x y : α} (before : Before l x y) : Before (l.map f) (f x) (f y) :=
  List.Sublist.map f before

theorem before_of_sorted {le : α → α → Prop} (sorted : l.Pairwise le) {x y : α} (refl : le x x)
    (memberX : x ∈ l) (memberY : y ∈ l) (above : ¬ le y x) : Before l x y := by
  induction l with
  | nil => simp at memberX
  | cons head rest ih =>
    rw [List.pairwise_cons] at sorted
    rcases List.mem_cons.mp memberX with rfl | laterX
    · rcases List.mem_cons.mp memberY with rfl | laterY
      · exact absurd refl above
      · exact List.cons_sublist_cons.mpr (List.singleton_sublist.mpr laterY)
    · rcases List.mem_cons.mp memberY with rfl | laterY
      · exact absurd (sorted.1 x laterX) above
      · exact List.Sublist.cons head (ih sorted.2 laterX laterY)

theorem mem_of_filter_singleton {p : α → Bool} {x : α} (only : l.filter p = [x]) (y : α) :
    y ∈ l ∧ p y = true ↔ y = x := by
  rw [← List.mem_filter, only, List.mem_singleton]

theorem unique_position_of_filter {p : α → Bool} (once : (l.filter p).length = 1) :
    ∃! i : Nat, ∃ x, l[i]? = some x ∧ p x = true := by
  induction l with
  | nil => simp at once
  | cons head rest ih =>
    cases passes : p head with
    | true =>
      rw [List.filter_cons_of_pos passes, List.length_cons, Nat.succ.injEq,
        List.length_eq_zero_iff, List.filter_eq_nil_iff] at once
      refine ⟨0, ⟨head, rfl, passes⟩, ?_⟩
      rintro (_ | i) ⟨x, at_, passed⟩
      · rfl
      · rw [List.getElem?_cons_succ] at at_
        exact absurd passed (once x (List.mem_of_getElem? at_))
    | false =>
      rw [List.filter_cons_of_neg (by simp [passes])] at once
      obtain ⟨i, ⟨x, at_, passed⟩, only⟩ := ih once
      refine ⟨i + 1, ⟨x, at_, passed⟩, ?_⟩
      rintro (_ | j) ⟨y, other, passedOther⟩
      · rw [List.getElem?_cons_zero, Option.some.injEq] at other
        subst other
        rw [passes] at passedOther
        contradiction
      · rw [only j ⟨y, other, passedOther⟩]

/-- The item that a fold keeps which prefers the greater key. -/
def latestBy (key : α → Nat) (items : List α) : Option α :=
  items.foldl (fun latest item =>
    match latest with
    | none => some item
    | some best => if key best < key item then some item else latest) none

theorem latestBy_of_increasing (key : α → Nat) {items : List α}
    (increasing : items.Pairwise (fun left right => key left < key right)) :
    latestBy key items = items.getLast? := by
  induction items using List.reverseRecOn with
  | nil => rfl
  | append_singleton items item ih =>
    obtain ⟨earlier, -, below⟩ := List.pairwise_append.mp increasing
    have kept : latestBy key (items ++ [item]) =
        match latestBy key items with
        | none => some item
        | some best => if key best < key item then some item else latestBy key items := by
      rw [latestBy, List.foldl_append]
      rfl
    rw [kept, ih earlier, List.getLast?_append_of_ne_nil _ (List.cons_ne_nil _ _)]
    cases last : items.getLast? with
    | none => rfl
    | some best =>
      have smaller := below best (List.mem_of_getLast? last) item (List.mem_singleton_self _)
      simp only [if_pos smaller]
      rfl

theorem eq_of_nodup_filterMap {key : α → Option β} (unique : (l.filterMap key).Nodup) {x y : α}
    (memberX : x ∈ l) (memberY : y ∈ l) {k : β} (keyX : key x = some k) (keyY : key y = some k) :
    x = y := by
  induction l with
  | nil => simp at memberX
  | cons head rest ih =>
    have later : ∀ {z}, z ∈ rest → key z = some k → k ∈ rest.filterMap key :=
      fun member keyed => List.mem_filterMap.mpr ⟨_, member, keyed⟩
    have tail : (rest.filterMap key).Nodup ∧ (key head = some k → k ∉ rest.filterMap key) := by
      cases keyed : key head with
      | none =>
        rw [List.filterMap_cons_none keyed] at unique
        exact ⟨unique, fun impossible => by cases impossible⟩
      | some own =>
        rw [List.filterMap_cons_some keyed, List.nodup_cons] at unique
        refine ⟨unique.2, ?_⟩
        rintro ⟨⟩
        exact unique.1
    rcases List.mem_cons.mp memberX with rfl | laterX
    · rcases List.mem_cons.mp memberY with rfl | laterY
      · rfl
      · exact absurd (later laterY keyY) (tail.2 keyX)
    · rcases List.mem_cons.mp memberY with rfl | laterY
      · exact absurd (later laterX keyX) (tail.2 keyY)
      · exact ih tail.1 laterX laterY

theorem filter_eraseIdx (keep : α → Bool) {x : α} {index : Nat} (at_ : xs[index]? = some x) :
    (keep x = false → (xs.eraseIdx index).filter keep = xs.filter keep) ∧
      (keep x = true → xs.filter keep = [x] → (xs.eraseIdx index).filter keep = []) := by
  have split : xs = xs.take index ++ x :: xs.drop (index + 1) := by
    obtain ⟨bound, here⟩ := List.getElem?_eq_some_iff.mp at_
    rw [← here, List.getElem_cons_drop, List.take_append_drop]
  have whole : xs.filter keep =
      (xs.take index).filter keep ++ (x :: xs.drop (index + 1)).filter keep := by
    rw [← List.filter_append, ← split]
  rw [List.eraseIdx_eq_take_drop_succ, List.filter_append]
  constructor
  · intro dropped
    rw [whole, List.filter_cons_of_neg (by simp [dropped])]
  · intro kept alone
    rw [whole, List.filter_cons_of_pos kept] at alone
    have lengths := congrArg List.length alone
    simp only [List.length_append, List.length_cons, List.length_nil] at lengths
    have before : ((xs.take index).filter keep).length = 0 := by omega
    have after : ((xs.drop (index + 1)).filter keep).length = 0 := by omega
    rw [List.length_eq_zero_iff.mp before, List.length_eq_zero_iff.mp after]
    rfl

/-! ## Traversal -/

theorem except_bind_eq_ok {γ : Type} {first : Except ε α} {next : α → Except ε γ} {value : γ}
    (done : (first >>= next) = .ok value) : ∃ middle, first = .ok middle ∧ next middle = .ok value := by
  cases first with
  | ok middle => exact ⟨middle, rfl, done⟩
  | error error => cases done

theorem except_map_eq_ok {f : α → β} {first : Except ε α} {value : β}
    (done : first.map f = .ok value) : ∃ result, first = .ok result ∧ f result = value := by
  cases first with
  | error => cases done
  | ok result => exact ⟨result, rfl, Except.ok.inj done⟩

theorem forall₂_beside {R : α → β → Prop} (related : List.Forall₂ R xs ys) {x : α}
    (member : x ∈ xs) : ∃ y, (x, y) ∈ xs.zip ys ∧ R x y := by
  obtain ⟨lengths, zipped⟩ := List.forall₂_iff_zip.mp related
  rw [← List.map_fst_zip lengths.le] at member
  obtain ⟨⟨_, y⟩, beside, rfl⟩ := List.mem_map.mp member
  exact ⟨y, beside, zipped beside⟩

theorem forall₂_target {R : α → β → Prop} (related : List.Forall₂ R xs ys) {x : α} (member : x ∈ xs) :
    ∃ y ∈ ys, R x y := by
  obtain ⟨y, beside, holds⟩ := forall₂_beside related member
  exact ⟨y, (List.of_mem_zip beside).2, holds⟩

theorem forall₂_origin {R : α → β → Prop} (related : List.Forall₂ R xs ys) {y : β} (member : y ∈ ys) :
    ∃ x ∈ xs, R x y :=
  forall₂_target (R := fun y x => R x y) related.flip member

theorem mapM_eq_ok_iff (f : α → Except ε β) (xs : List α) (ys : List β) :
    xs.mapM f = .ok ys ↔ List.Forall₂ (fun x y => f x = .ok y) xs ys := by
  induction xs generalizing ys with
  | nil =>
    constructor
    · intro done
      cases done
      exact List.Forall₂.nil
    · intro related
      cases related
      rfl
  | cons x xs ih =>
    rw [List.mapM_cons]
    constructor
    · intro done
      cases first : f x with
      | error e => simp [first, bind, Except.bind] at done
      | ok y =>
        cases rest : xs.mapM f with
        | error e => simp [first, rest, bind, Except.bind] at done
        | ok zs =>
          simp only [first, rest, bind, Except.bind, pure, Except.pure,
            Except.ok.injEq] at done
          subst done
          exact List.Forall₂.cons first ((ih zs).mp rest)
    · rintro (_ | ⟨first, rest⟩)
      rw [first, (ih _).mpr rest]
      rfl

theorem mapM_zip (done : xs.mapM f = .ok ys) {x : α} (member : x ∈ xs) :
    ∃ y, (x, y) ∈ xs.zip ys ∧ f x = .ok y :=
  forall₂_beside ((mapM_eq_ok_iff f xs ys).mp done) member

theorem mapM_result (done : xs.mapM f = .ok ys) {x : α} (member : x ∈ xs) :
    ∃ y ∈ ys, f x = .ok y :=
  forall₂_target ((mapM_eq_ok_iff f xs ys).mp done) member

theorem mapM_origin (done : xs.mapM f = .ok ys) {y : β} (member : y ∈ ys) :
    ∃ x ∈ xs, f x = .ok y :=
  forall₂_origin ((mapM_eq_ok_iff f xs ys).mp done) member

theorem mapM_ok_iff : (∃ ys, xs.mapM f = .ok ys) ↔ ∀ x ∈ xs, ∃ y, f x = .ok y := by
  constructor
  · intro done x member
    obtain ⟨ys, result⟩ := done
    obtain ⟨y, -, found⟩ := mapM_result result member
    exact ⟨y, found⟩
  · intro steps
    induction xs with
    | nil => exact ⟨[], rfl⟩
    | cons x xs ih =>
      obtain ⟨y, first⟩ := steps x List.mem_cons_self
      obtain ⟨ys, rest⟩ := ih fun other member => steps other (List.mem_cons_of_mem _ member)
      refine ⟨y :: ys, (mapM_eq_ok_iff f _ _).mpr (.cons first ((mapM_eq_ok_iff f _ _).mp rest))⟩

theorem mapM_map {γ : Type} {g : β → γ} {h : α → γ} (done : xs.mapM f = .ok ys)
    (same : ∀ {x y}, f x = .ok y → g y = h x) : ys.map g = xs.map h := by
  have related := (mapM_eq_ok_iff f xs ys).mp done
  clear done
  induction related with
  | nil => rfl
  | cons first _ ih => rw [List.map_cons, List.map_cons, same first, ih]

theorem mapM_map_roundtrip {encode : α → β} {decode : β → Option α}
    (roundtrip : ∀ x, decode (encode x) = some x) (xs : List α) :
    (xs.map encode).mapM decode = some xs := by
  induction xs with
  | nil => rfl
  | cons x xs ih =>
    rw [List.map_cons, List.mapM_cons, roundtrip, ih]
    rfl

end Lib
