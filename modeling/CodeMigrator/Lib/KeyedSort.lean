import Mathlib.Data.List.Perm.Basic
import Mathlib.Data.List.Sort
import Mathlib.Order.Defs.LinearOrder

/-!
# Sorting by computed keys

A list whose items stand beside their keys, sorted by the keys. Items with one key keep their
order, and where a key has one item only the result does not depend on the order of the list.
-/

namespace Lib

variable {κ α : Type} [LinearOrder κ]

/-- The items in the order of their keys. -/
def sortKeyed (keyed : List (κ × α)) : List α :=
  (keyed.insertionSort fun left right => left.1 ≤ right.1).map Prod.snd

theorem sortKeyed_perm (keyed : List (κ × α)) : (sortKeyed keyed).Perm (keyed.map Prod.snd) :=
  (List.perm_insertionSort _ keyed).map Prod.snd

theorem insertionSort_eq_of_perm {le : α → α → Prop} [DecidableRel le] (key : α → κ)
    (ordered : ∀ a b, le a b ↔ key a ≤ key b) {left right : List α} (same : left.Perm right)
    (single : ∀ a ∈ left, ∀ b ∈ left, key a = key b → a = b) :
    left.insertionSort le = right.insertionSort le := by
  have total : Std.Total le := ⟨fun a b => by simpa only [ordered] using le_total (key a) (key b)⟩
  have trans : IsTrans α le := ⟨fun a b c => by simpa only [ordered] using le_trans⟩
  refine List.Perm.eq_of_pairwise ?_ (List.pairwise_insertionSort _ left)
    (List.pairwise_insertionSort _ right)
    ((List.perm_insertionSort _ left).trans (same.trans (List.perm_insertionSort _ right).symm))
  intro a b inLeft inRight before after
  have isLeft := (List.mem_insertionSort _).mp inLeft
  have isRight := same.mem_iff.mpr ((List.mem_insertionSort _).mp inRight)
  exact single a isLeft b isRight
    (le_antisymm ((ordered a b).mp before) ((ordered b a).mp after))

theorem sortKeyed_eq {left right : List (κ × α)} (same : left.Perm right)
    (single : ∀ a ∈ left, ∀ b ∈ left, a.1 = b.1 → a = b) : sortKeyed left = sortKeyed right := by
  rw [sortKeyed, sortKeyed, insertionSort_eq_of_perm Prod.fst (fun _ _ => Iff.rfl) same single]

omit [LinearOrder κ] in
theorem keyed_perm {key : α → Option κ} {left right : List (κ × α)}
    (leftKeys : ∀ a ∈ left, key a.2 = some a.1) (rightKeys : ∀ a ∈ right, key a.2 = some a.1)
    (same : (left.map Prod.snd).Perm (right.map Prod.snd)) : left.Perm right := by
  have computed : ∀ keyed : List (κ × α), (∀ a ∈ keyed, key a.2 = some a.1) →
      (keyed.map Prod.snd).map (fun item => (key item, item)) =
        keyed.map (Prod.map some id) := by
    intro keyed keys
    rw [List.map_map]
    apply List.map_congr_left
    intro a member
    simp only [Function.comp_apply, keys a member]
    rfl
  have injective : Function.Injective (Prod.map some id : κ × α → Option κ × α) :=
    (Option.some_injective κ).prodMap Function.injective_id
  rw [← List.map_perm_map_iff injective, ← computed left leftKeys, ← computed right rightKeys]
  exact same.map _

end Lib
