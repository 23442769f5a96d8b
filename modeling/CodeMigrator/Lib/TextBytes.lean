import CodeMigrator.Lib.JsonGrammar
import CodeMigrator.Lib.Numeral

/-!
# JSON strings and UTF-8 sizes

How a string is written as JSON text with its other characters left as they are: quotes,
backslashes and control characters are escaped. How many bytes the code points of a text have, the longest beginning and the longest end of a
text within a number of bytes, and the sizes of JSON strings. A text with a lone surrogate has no
UTF-8 encoding.
-/

namespace Lib

open Point

/-- A code point in a JSON string. -/
def escapePoint (c : Nat) : Points :=
  if c = quote ∨ c = backslash then [backslash, c]
  else if c = 0x0A then points "\\n"
  else if c = 0x0D then points "\\r"
  else if c = 0x09 then points "\\t"
  else if c = 0x0C then points "\\f"
  else if c = 0x08 then points "\\b"
  else if c < 0x20 then points "\\u" ++ (toHex 4 c).map Char.toNat
  else [c]

/-- A JSON string. -/
def jsonString (text : Points) : Points := quote :: (text.flatMap escapePoint ++ [quote])

/-! ## Sizes -/

/-- The bytes of a code point. -/
def byteSize (c : Nat) : Nat :=
  if c < 0x80 then 1 else if c < 0x800 then 2 else if c < 0x10000 then 3 else 4

/-- The bytes of a text. -/
def byteLength (text : Points) : Nat := (text.map byteSize).sum

/-- The text has no lone surrogate. -/
def Utf8Encodable (text : Points) : Prop := ∀ c ∈ text, ¬ (0xD800 ≤ c ∧ c ≤ 0xDFFF)

instance (text : Points) : Decidable (Utf8Encodable text) := List.decidableBAll _ _

/-- The code points whose bytes are among the first `limit` ones. -/
def takeBytes (limit : Nat) : Points → Points
  | [] => []
  | c :: rest => if byteSize c ≤ limit then c :: takeBytes (limit - byteSize c) rest else []

/-- The code points whose bytes are among the last `limit` ones. -/
def takeLastBytes (limit : Nat) (text : Points) : Points := (takeBytes limit text.reverse).reverse

@[simp] theorem byteLength_nil : byteLength [] = 0 := rfl

@[simp] theorem byteLength_cons (c : Nat) (text : Points) :
    byteLength (c :: text) = byteSize c + byteLength text := by simp [byteLength]

@[simp] theorem byteLength_append (left right : Points) :
    byteLength (left ++ right) = byteLength left + byteLength right := by simp [byteLength]

@[simp] theorem byteLength_reverse (text : Points) : byteLength text.reverse = byteLength text := by
  simp [byteLength, List.sum_reverse]

theorem byteLength_replicate (count c : Nat) :
    byteLength (List.replicate count c) = count * byteSize c := by
  induction count with
  | zero => simp
  | succ count ih =>
    rw [List.replicate_succ, byteLength_cons, ih, Nat.succ_mul]
    omega

theorem byteLength_le (text : Points) : byteLength text ≤ 4 * text.length := by
  induction text with
  | nil => simp
  | cons c rest ih =>
    have size : byteSize c ≤ 4 := by
      unfold byteSize
      split_ifs <;> omega
    rw [byteLength_cons, List.length_cons]
    omega

@[simp] theorem encodable_append {left right : Points} :
    Utf8Encodable (left ++ right) ↔ Utf8Encodable left ∧ Utf8Encodable right := by
  simp [Utf8Encodable, or_imp, forall_and]

theorem encodable_chars (text : List Char) : Utf8Encodable (text.map Char.toNat) := by
  intro c member
  obtain ⟨char, -, rfl⟩ := List.mem_map.mp member
  rcases char.valid with low | high
  · have small : char.toNat < 0xD800 := low
    omega
  · have large : 0xDFFF < char.toNat := high.1
    omega

theorem encodable_points (text : String) : Utf8Encodable (points text) := encodable_chars text.toList

/-! ## Beginnings and ends -/

theorem byteLength_takeBytes_le (limit : Nat) (text : Points) :
    byteLength (takeBytes limit text) ≤ limit := by
  induction text generalizing limit with
  | nil => simp [takeBytes]
  | cons c rest ih =>
    rw [takeBytes]
    split
    · have tail := ih (limit - byteSize c)
      rw [byteLength_cons]
      omega
    · simp

theorem takeBytes_isPrefix (limit : Nat) (text : Points) : takeBytes limit text <+: text := by
  induction text generalizing limit with
  | nil => exact List.prefix_refl _
  | cons c rest ih =>
    rw [takeBytes]
    split
    · exact List.cons_prefix_cons.mpr ⟨rfl, ih _⟩
    · exact List.nil_prefix

variable {text : Points}

theorem takeBytes_eq_self_iff {limit : Nat} :
    takeBytes limit text = text ↔ byteLength text ≤ limit := by
  constructor
  · intro whole
    rw [← whole]
    exact byteLength_takeBytes_le limit text
  · intro within
    induction text generalizing limit with
    | nil => rfl
    | cons c rest ih =>
      rw [byteLength_cons] at within
      rw [takeBytes, if_pos (by omega), ih (by omega)]

theorem byteLength_takeLastBytes_le (limit : Nat) (text : Points) :
    byteLength (takeLastBytes limit text) ≤ limit := by
  rw [takeLastBytes, byteLength_reverse]
  exact byteLength_takeBytes_le limit _

theorem Utf8Encodable.takeBytes (encodable : Utf8Encodable text) (limit : Nat) :
    Utf8Encodable (takeBytes limit text) :=
  fun c member => encodable c ((takeBytes_isPrefix limit text).subset member)

theorem Utf8Encodable.takeLastBytes (encodable : Utf8Encodable text) (limit : Nat) :
    Utf8Encodable (takeLastBytes limit text) := by
  intro c member
  have inReverse := (takeBytes_isPrefix limit text.reverse).subset (List.mem_reverse.mp member)
  exact encodable c (List.mem_reverse.mp inReverse)

/-! ## JSON strings -/

/-- The bytes of a text between the quotes of its JSON string. -/
def escapedLength (text : Points) : Nat := byteLength (text.flatMap escapePoint)

@[simp] theorem byteLength_jsonString (text : Points) :
    byteLength (jsonString text) = escapedLength text + 2 := by
  have mark : byteSize Point.quote = 1 := rfl
  simp [jsonString, escapedLength, mark]
  omega

theorem escapedLength_replicate (count c : Nat) :
    escapedLength (List.replicate count c) = count * byteLength (escapePoint c) := by
  induction count with
  | zero => simp [escapedLength]
  | succ count ih =>
    rw [escapedLength] at ih ⊢
    rw [List.replicate_succ, List.flatMap_cons, byteLength_append, ih, Nat.succ_mul]
    omega

theorem encodable_escapePoint {c : Nat} (encodable : ¬ (0xD800 ≤ c ∧ c ≤ 0xDFFF)) :
    Utf8Encodable (escapePoint c) := by
  have self : Utf8Encodable [c] := by simpa [Utf8Encodable] using encodable
  unfold escapePoint
  split
  · exact encodable_append.mpr ⟨(by decide : Utf8Encodable [Point.backslash]), self⟩
  iterate 5
    split
    · exact encodable_points _
  split
  · exact encodable_append.mpr ⟨encodable_points _, encodable_chars _⟩
  · exact self

theorem Utf8Encodable.jsonString (encodable : Utf8Encodable text) :
    Utf8Encodable (jsonString text) := by
  intro c member
  simp only [Lib.jsonString, List.mem_cons, List.mem_append, List.mem_flatMap, List.mem_nil_iff,
    or_false] at member
  rcases member with rfl | ⟨d, inText, escaped⟩ | rfl
  · decide
  · exact encodable_escapePoint (encodable d inText) c escaped
  · decide

theorem escapePoint_ne_nil (c : Nat) : escapePoint c ≠ [] := by
  unfold escapePoint
  split_ifs <;> simp [points]

theorem jsonString_inj_prefix {part : Points} (isPrefix : part <+: text)
    (same : jsonString part = jsonString text) : part = text := by
  obtain ⟨rest, rfl⟩ := isPrefix
  rw [jsonString, jsonString, List.cons.injEq, List.flatMap_append] at same
  have lengths := congrArg List.length same.2
  simp only [List.length_append] at lengths
  have empty : rest.flatMap escapePoint = [] := List.eq_nil_of_length_eq_zero (by omega)
  cases rest with
  | nil => rw [List.append_nil]
  | cons c more =>
    rw [List.flatMap_cons, List.append_eq_nil_iff] at empty
    exact absurd empty.1 (escapePoint_ne_nil c)

end Lib
