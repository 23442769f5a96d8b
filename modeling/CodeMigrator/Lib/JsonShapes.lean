import CodeMigrator.Lib.Json
import Mathlib.Data.List.Basic

/-!
# Shapes of JSON documents

Properties of all the values in a document: its objects have their keys in order and it has no
floats, so that documents which say the same are equal; its integers are those that a float of
64 bits represents without loss.
-/

namespace Lib.Json

mutual
/-- Every value in the document has a property. -/
def everywhere (p : Json → Bool) : Json → Bool
  | arr items => p (arr items) && everyItem p items
  | obj fields => p (obj fields) && everyField p fields
  | leaf => p leaf
/-- Every value in an array has a property. -/
def everyItem (p : Json → Bool) : List Json → Bool
  | [] => true
  | item :: items => everywhere p item && everyItem p items
/-- Every value in an object has a property. -/
def everyField (p : Json → Bool) : List (String × Json) → Bool
  | [] => true
  | field :: fields => everywhere p field.2 && everyField p fields
end

theorem everyItem_eq (p : Json → Bool) (items : List Json) :
    everyItem p items = items.all (everywhere p) := by
  induction items with
  | nil => rfl
  | cons item items ih => rw [everyItem, ih, List.all_cons]

@[simp] theorem everywhere_str (p : Json → Bool) (text : String) :
    everywhere p (str text) = p (str text) := by simp [everywhere]

@[simp] theorem everywhere_int (p : Json → Bool) (number : Int) :
    everywhere p (int number) = p (int number) := by simp [everywhere]

@[simp] theorem everywhere_arr (p : Json → Bool) (items : List Json) :
    everywhere p (arr items) = (p (arr items) && items.all (everywhere p)) := by
  rw [everywhere, everyItem_eq]

@[simp] theorem everywhere_obj (p : Json → Bool) (fields : List (String × Json)) :
    everywhere p (obj fields) = (p (obj fields) && fields.all fun field => everywhere p field.2) := by
  have all : everyField p fields = fields.all fun field => everywhere p field.2 := by
    induction fields with
    | nil => rfl
    | cons field fields ih => rw [everyField, ih, List.all_cons]
  rw [everywhere, all]

/-- A key stands before another one in the order of the code points. -/
def keyBefore : List Char → List Char → Bool
  | _, [] => false
  | [], _ :: _ => true
  | a :: left, b :: right => a.toNat.blt b.toNat || (a.toNat.beq b.toNat && keyBefore left right)

/-- Keys in ascending order of their code points. -/
def keysAscend (keys : List String) : Bool :=
  decide ((keys.map String.toList).Pairwise fun left right => keyBefore left right = true)

/-- A value is no float, and an object has its keys in ascending order. -/
def isPlain : Json → Bool
  | float _ => false
  | obj fields => keysAscend (fields.map Prod.fst)
  | _ => true

/-- An integer is between `-(2^53 - 1)` and `2^53 - 1`. -/
def isSafeInteger : Json → Bool
  | int number => decide (number.natAbs < 2 ^ 53)
  | float _ => true
  | _ => true

/-- A document in which neither the order of the keys nor the notation of a number is free. -/
def Plain (document : Json) : Prop := everywhere isPlain document = true

/-- A document without integers that a float loses. -/
def SafeIntegers (document : Json) : Prop := everywhere isSafeInteger document = true

end Lib.Json
