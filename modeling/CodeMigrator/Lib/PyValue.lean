import CodeMigrator.Lib.Dict
import Mathlib.Data.Rat.Defs

/-!
# Nested values

The values that a program passes around as an `object` built from mappings, sequences and
scalars, before anything has made a JSON document of them: a mapping may have keys that are
not texts, lists and tuples are different, floats need not be finite, and `other` stands for
everything else. The texts and the field names of a value are those at any depth.
-/

namespace Lib

/-- A float: its exact value, or none. -/
inductive PyFloat where
  | finite (value : Rat)
  | infinite
  | nan
  deriving DecidableEq

/-- The key of a mapping; keys that are not texts differ by their number. -/
inductive PyKey where
  | str (name : String)
  | other (number : Nat)
  deriving DecidableEq

/-- A value. -/
inductive PyValue where
  | none
  | bool (value : Bool)
  | int (value : Int)
  | float (value : PyFloat)
  | str (value : String)
  | list (items : List PyValue)
  | tuple (items : List PyValue)
  | dict (entries : List (PyKey × PyValue))
  | other

/-- The entries of a mapping. -/
abbrev PyEntries := List (PyKey × PyValue)

namespace PyValue

mutual
/-- Structural equality. -/
def same : PyValue → PyValue → Bool
  | none, none => true
  | bool a, bool b => a == b
  | int a, int b => a == b
  | float a, float b => a == b
  | str a, str b => a == b
  | list a, list b => sameItems a b
  | tuple a, tuple b => sameItems a b
  | dict a, dict b => sameEntries a b
  | other, other => true
  | _, _ => false
/-- Structural equality of sequences. -/
def sameItems : List PyValue → List PyValue → Bool
  | [], [] => true
  | a :: as, b :: bs => same a b && sameItems as bs
  | _, _ => false
/-- Structural equality of mappings. -/
def sameEntries : List (PyKey × PyValue) → List (PyKey × PyValue) → Bool
  | [], [] => true
  | (k, a) :: as, (l, b) :: bs => k == l && same a b && sameEntries as bs
  | _, _ => false
end

mutual
theorem same_iff : ∀ a b : PyValue, same a b = true ↔ a = b
  | none, b => by cases b <;> simp [same]
  | bool _, b => by cases b <;> simp [same]
  | int _, b => by cases b <;> simp [same]
  | float _, b => by cases b <;> simp [same]
  | str _, b => by cases b <;> simp [same]
  | other, b => by cases b <;> simp [same]
  | list items, b => by cases b <;> simp [same, sameItems_iff items]
  | tuple items, b => by cases b <;> simp [same, sameItems_iff items]
  | dict entries, b => by cases b <;> simp [same, sameEntries_iff entries]
theorem sameItems_iff : ∀ a b : List PyValue, sameItems a b = true ↔ a = b
  | [], b => by cases b <;> simp [sameItems]
  | item :: items, b => by
      cases b with
      | nil => simp [sameItems]
      | cons second others => simp [sameItems, same_iff item second, sameItems_iff items others]
theorem sameEntries_iff : ∀ a b : List (PyKey × PyValue), sameEntries a b = true ↔ a = b
  | [], b => by cases b <;> simp [sameEntries]
  | (key, item) :: entries, b => by
      cases b with
      | nil => simp [sameEntries]
      | cons second others =>
        simp [sameEntries, Prod.ext_iff, same_iff item second.2, sameEntries_iff entries others]
end

instance : DecidableEq PyValue := fun a b => decidable_of_iff _ (same_iff a b)

/-- `data.get(name)`. -/
def field? (data : PyEntries) (name : String) : Option PyValue := Dict.lookup (.str name) data

theorem field?_head (name : String) (value : PyValue) (rest : PyEntries) :
    field? ((.str name, value) :: rest) name = some value := by
  simp only [field?, Dict.lookup, if_true]

/-- The items of a list or a tuple. -/
def items? : PyValue → Option (List PyValue)
  | list items => some items
  | tuple items => some items
  | _ => Option.none

mutual
/-- The texts of a value. -/
def texts : PyValue → List String
  | str value => [value]
  | list items => itemTexts items
  | tuple items => itemTexts items
  | dict entries => entryTexts entries
  | _ => []
/-- The texts of a sequence. -/
def itemTexts : List PyValue → List String
  | [] => []
  | item :: items => texts item ++ itemTexts items
/-- The texts of the values of a mapping. -/
def entryTexts : List (PyKey × PyValue) → List String
  | [] => []
  | (_, value) :: entries => texts value ++ entryTexts entries
end

mutual
/-- The texts that are keys in a value. -/
def names : PyValue → List String
  | list items => itemNames items
  | tuple items => itemNames items
  | dict entries => entryNames entries
  | _ => []
/-- The keys in a sequence. -/
def itemNames : List PyValue → List String
  | [] => []
  | item :: items => names item ++ itemNames items
/-- The keys of a mapping and in its values. -/
def entryNames : List (PyKey × PyValue) → List String
  | [] => []
  | (.str name, value) :: entries => name :: names value ++ entryNames entries
  | (.other _, value) :: entries => names value ++ entryNames entries
end

mutual
/-- Every part of the value is a mapping with texts as keys, a sequence or a scalar. -/
def plain : PyValue → Bool
  | list items => plainItems items
  | tuple items => plainItems items
  | dict entries => plainEntries entries
  | other => false
  | _ => true
/-- Every part of a sequence is. -/
def plainItems : List PyValue → Bool
  | [] => true
  | item :: items => plain item && plainItems items
/-- Every part of a mapping is. -/
def plainEntries : List (PyKey × PyValue) → Bool
  | [] => true
  | (.str _, value) :: entries => plain value && plainEntries entries
  | (.other _, _) :: _ => false
end

end PyValue

end Lib
