import CodeMigrator.Lib.Dict
import CodeMigrator.Lib.Numeral
import Mathlib.Data.Rat.Defs

/-!
# JSON documents

A decoded JSON document. Integers and floats are different values, as they are
for a decoder that keeps the distinction; a float is its exact value. An object
is the list of its fields, whose keys a decoder makes distinct.
-/

namespace Lib

/-- A JSON value. -/
inductive Json where
  | null
  | bool (value : Bool)
  | int (value : Int)
  | float (value : Rat)
  | str (value : String)
  | arr (items : List Json)
  | obj (fields : List (String × Json))

namespace Json

mutual
/-- Structural equality. -/
def same : Json → Json → Bool
  | null, null => true
  | bool a, bool b => a == b
  | int a, int b => a == b
  | float a, float b => a == b
  | str a, str b => a == b
  | arr a, arr b => sameItems a b
  | obj a, obj b => sameFields a b
  | _, _ => false
/-- Structural equality of arrays. -/
def sameItems : List Json → List Json → Bool
  | [], [] => true
  | a :: as, b :: bs => same a b && sameItems as bs
  | _, _ => false
/-- Structural equality of field lists. -/
def sameFields : List (String × Json) → List (String × Json) → Bool
  | [], [] => true
  | (k, a) :: as, (l, b) :: bs => k == l && same a b && sameFields as bs
  | _, _ => false
end

mutual
theorem same_iff : ∀ a b : Json, same a b = true ↔ a = b
  | null, b => by cases b <;> simp [same]
  | bool _, b => by cases b <;> simp [same]
  | int _, b => by cases b <;> simp [same]
  | float _, b => by cases b <;> simp [same]
  | str _, b => by cases b <;> simp [same]
  | arr items, b => by
      cases b with
      | arr others => simp only [same, sameItems_iff items others, arr.injEq]
      | _ => simp [same]
  | obj fields, b => by
      cases b with
      | obj others => simp only [same, sameFields_iff fields others, obj.injEq]
      | _ => simp [same]
theorem sameItems_iff : ∀ a b : List Json, sameItems a b = true ↔ a = b
  | [], b => by cases b <;> simp [sameItems]
  | item :: items, b => by
      cases b with
      | nil => simp [sameItems]
      | cons other others =>
        simp only [sameItems, Bool.and_eq_true, same_iff item other,
          sameItems_iff items others, List.cons.injEq]
theorem sameFields_iff : ∀ a b : List (String × Json), sameFields a b = true ↔ a = b
  | [], b => by cases b <;> simp [sameFields]
  | (key, item) :: items, b => by
      cases b with
      | nil => simp [sameFields]
      | cons other others =>
        rcases other with ⟨otherKey, otherItem⟩
        simp only [sameFields, Bool.and_eq_true, beq_iff_eq, same_iff item otherItem,
          sameFields_iff items others, List.cons.injEq, Prod.mk.injEq]
end

instance : DecidableEq Json := fun a b => decidable_of_iff _ (same_iff a b)

/-- `bool(value)`: the empty and zero values are false. -/
def truthy : Json → Bool
  | null => false
  | bool b => b
  | int n => n != 0
  | float q => q != 0
  | str s => s != ""
  | arr items => !items.isEmpty
  | obj fields => !fields.isEmpty

/-- `str(value)`: a text is itself, `repr` gives the text of the other values. -/
def text (repr : Json → String) : Json → String
  | str s => s
  | value => repr value

/-- `int(value)`: a float is cut off, a text read as a numeral; `none` is an exception. -/
def toInt : Json → Option Int
  | bool b => some (if b then 1 else 0)
  | int n => some n
  | float q => some (q.num.tdiv q.den)
  | str s => intBase10 s.toList
  | _ => none

/-- The values over which `for item in value` goes; `none` is its `TypeError`. -/
def items? : Json → Option (List Json)
  | arr items => some items
  | str s => some (s.toList.map (fun c => str (String.singleton c)))
  | obj fields => some (fields.map (fun field => str field.1))
  | _ => none

/-- `value[position]` of a list or a text. -/
def index? (value : Json) (position : Nat) : Option Json :=
  match value with
  | arr items => items[position]?
  | str s => (s.toList[position]?).map (fun c => str (String.singleton c))
  | _ => none

/-- A text or nothing. -/
def ofText? (value : Option String) : Json := (value.map str).getD null

/-- `data.get(key)`. -/
def field? (data : List (String × Json)) (key : String) : Option Json := Dict.lookup key data

@[simp] theorem field?_head (key : String) (value : Json) (rest : List (String × Json)) :
    field? ((key, value) :: rest) key = some value := by
  simp only [field?, Dict.lookup, if_true]

@[simp] theorem field?_tail {name key : String} (different : name ≠ key) (value : Json)
    (rest : List (String × Json)) : field? ((name, value) :: rest) key = field? rest key := by
  simp only [field?, Dict.lookup, if_neg different]

end Json

end Lib
