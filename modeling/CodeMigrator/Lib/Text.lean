import Mathlib.Data.List.Basic
import Mathlib.Data.List.Infix

/-!
# Text operations

The operations of a sequence-of-code-points string type that the development
uses: prefix tests, stripping, splitting, and the order "equal to or below" on
slash-separated names. They are defined through the character list, where their
laws are laws of lists.
-/

namespace Lib

/-- `text.startswith(start)`. -/
def startsWith (text start : String) : Bool := start.toList.isPrefixOf text.toList

/-- `text.endswith(finish)`. -/
def endsWith (text finish : String) : Bool := finish.toList.isSuffixOf text.toList

/-- `c in text` for one character. -/
def hasChar (text : String) (c : Char) : Bool := text.toList.contains c

/-- `text.rstrip(c)` for one character. -/
def rstrip (text : String) (c : Char) : String :=
  String.ofList (text.toList.reverse.dropWhile (· == c)).reverse

/-- `c.isspace()`. -/
def isSpace (c : Char) : Bool :=
  c == ' ' || ('\t' ≤ c && c ≤ '\r') || ('\x1c' ≤ c && c ≤ '\x1f') ||
    ['\u0085', '\u00a0', '\u1680', '\u2028', '\u2029', '\u202f', '\u205f', '\u3000'].contains c ||
    ('\u2000' ≤ c && c ≤ '\u200a')

/-- The parts of a character list between occurrences of `separator`. -/
def splitList (separator : Char) : List Char → List (List Char)
  | [] => [[]]
  | c :: rest =>
    if c = separator then [] :: splitList separator rest
    else
      match splitList separator rest with
      | [] => [[c]]
      | part :: parts => (c :: part) :: parts

/-- `text.split(separator)` for one character: `n` occurrences give `n + 1` parts,
empty ones included. -/
def split (text : String) (separator : Char) : List String :=
  (splitList separator text.toList).map String.ofList

theorem startsWith_iff (text start : String) :
    startsWith text start = true ↔ start.toList <+: text.toList := by
  simp [startsWith]

theorem splitList_ne_nil (separator : Char) (text : List Char) :
    splitList separator text ≠ [] := by
  cases text with
  | nil => simp [splitList]
  | cons c rest =>
    simp only [splitList]
    split
    · simp
    · split <;> simp

theorem splitList_append_separator (separator : Char) (text : List Char) :
    splitList separator (text ++ [separator]) = splitList separator text ++ [[]] := by
  induction text with
  | nil => simp [splitList]
  | cons c rest ih =>
    by_cases equal : c = separator
    · simp [splitList, equal, ih]
    · simp only [List.cons_append, splitList, equal, if_false, ih]
      cases parts : splitList separator rest with
      | nil => exact absurd parts (splitList_ne_nil separator rest)
      | cons part parts => simp

theorem rstrip_eq_self {text : String} {c : Char}
    (last : ∀ before, text.toList ≠ before ++ [c]) : rstrip text c = text := by
  have kept : text.toList.reverse.dropWhile (· == c) = text.toList.reverse := by
    cases shape : text.toList.reverse with
    | nil => rfl
    | cons d rest =>
      have different : d ≠ c := by
        intro equal
        apply last rest.reverse
        have := congrArg List.reverse shape
        simpa [equal] using this
      rw [List.dropWhile_cons_of_neg (by simpa using different)]
  rw [rstrip, kept, List.reverse_reverse, String.ofList_toList]

/-! ## Slash-separated names -/

/-- `name` lies strictly below `root`: `name.startswith(root + "/")`. -/
def Below (name root : String) : Prop := root.toList ++ ['/'] <+: name.toList

/-- `name` is `root` or lies below it. -/
def AtOrBelow (name root : String) : Prop := name = root ∨ Below name root

instance (name root : String) : Decidable (Below name root) :=
  inferInstanceAs (Decidable (_ <+: _))

theorem startsWith_slash_iff (name root : String) :
    startsWith name (root ++ "/") = true ↔ Below name root := by
  simp [startsWith_iff, Below]

theorem AtOrBelow.comparable {name left right : String} (atLeft : AtOrBelow name left)
    (atRight : AtOrBelow name right) : AtOrBelow left right ∨ AtOrBelow right left := by
  rcases atLeft with rfl | belowLeft
  · exact Or.inl atRight
  rcases atRight with rfl | belowRight
  · exact Or.inr (Or.inr belowLeft)
  rcases List.prefix_or_prefix_of_prefix belowLeft belowRight with short | short
  · rcases List.prefix_concat_iff.mp short with equal | nested
    · have same : left.toList = right.toList := List.append_cancel_right equal
      exact Or.inl (Or.inl (String.toList_inj.mp same))
    · exact Or.inr (Or.inr nested)
  · rcases List.prefix_concat_iff.mp short with equal | nested
    · have same : right.toList = left.toList := List.append_cancel_right equal
      exact Or.inr (Or.inl (String.toList_inj.mp same))
    · exact Or.inl (Or.inr nested)

end Lib
