import CodeMigrator.Lib.Text
import Mathlib.Data.List.TakeWhile
import Mathlib.Tactic.Ring

/-!
# Numerals

Fixed-width lower-case hexadecimal numerals, and the reading of a numeral as
`int(text, 16)` and `int(text)` perform it: surrounding white space, a sign, a `0x`
prefix in base 16, digits of either case and of any script, and single underscores
between digits are accepted.
-/

namespace Lib

/-- The lower-case digit of a value below 16. -/
def hexDigit (value : Nat) : Char :=
  if value < 10 then Char.ofNat (48 + value) else Char.ofNat (87 + value)

/-- The value of one digit of either case. -/
def hexValue (c : Char) : Option Nat :=
  if '0' ≤ c ∧ c ≤ '9' then some (c.toNat - 48)
  else if 'a' ≤ c ∧ c ≤ 'f' then some (c.toNat - 87)
  else if 'A' ≤ c ∧ c ≤ 'F' then some (c.toNat - 55)
  else none

/-- The last `width` digits of `value`, the most significant first. -/
def toHex : Nat → Nat → List Char
  | 0, _ => []
  | width + 1, value => toHex width (value / 16) ++ [hexDigit (value % 16)]

/-- The value of a digit in a base. -/
def digitValue (base : Nat) (c : Char) : Option Nat :=
  match hexValue c with
  | some value => if value < base then some value else none
  | none => none

/-- The digits of a numeral, where an underscore may stand between two digits;
`acc` is the value read so far and `open_` says that an underscore was read last. -/
def readDigits (base acc : Nat) (open_ : Bool) : List Char → Option Nat
  | [] => if open_ then none else some acc
  | c :: rest =>
    if c = '_' then
      if open_ then none else readDigits base acc true rest
    else
      match digitValue base c with
      | none => none
      | some value => readDigits base (base * acc + value) false rest

/-- A numeral starts with a digit. -/
def readNumeral (base : Nat) : List Char → Option Nat
  | [] => none
  | c :: rest => (digitValue base c).bind (fun value => readDigits base value false rest)

/-- The code points of the decimal digits zero; the digits one to nine of a script
follow its zero. -/
def decimalZeros : List Nat :=
  [0x660, 0x6f0, 0x7c0, 0x966, 0x9e6, 0xa66, 0xae6, 0xb66, 0xbe6, 0xc66, 0xce6, 0xd66, 0xde6,
    0xe50, 0xed0, 0xf20, 0x1040, 0x1090, 0x17e0, 0x1810, 0x1946, 0x19d0, 0x1a80, 0x1a90, 0x1b50,
    0x1bb0, 0x1c40, 0x1c50, 0xa620, 0xa8d0, 0xa900, 0xa9d0, 0xa9f0, 0xaa50, 0xabf0, 0xff10,
    0x104a0, 0x10d30, 0x11066, 0x110f0, 0x11136, 0x111d0, 0x112f0, 0x11450, 0x114d0, 0x11650,
    0x116c0, 0x11730, 0x118e0, 0x11950, 0x11c50, 0x11d50, 0x11da0, 0x11f50, 0x16a60, 0x16ac0,
    0x16b50, 0x1d7ce, 0x1d7d8, 0x1d7e2, 0x1d7ec, 0x1d7f6, 0x1e140, 0x1e2f0, 0x1e4f0, 0x1e950,
    0x1fbf0]

/-- The ASCII character that number reading puts in the place of a digit or a space of
another script. -/
def toAscii (c : Char) : Char :=
  if c.toNat < 128 then c
  else if isSpace c then ' '
  else
    match decimalZeros.find? (fun first => first ≤ c.toNat && c.toNat < first + 10) with
    | some first => Char.ofNat (48 + (c.toNat - first))
    | none => c

/-- The white space that number reading strips. -/
def isNumeralSpace (c : Char) : Bool := c == ' ' || ('\t' ≤ c && c ≤ '\r')

/-- `text.strip()` on the character list, for the characters in `dropped`. -/
def stripList (dropped : Char → Bool) (text : List Char) : List Char :=
  ((text.dropWhile dropped).reverse.dropWhile dropped).reverse

/-- The digits after an optional `0x`. -/
def dropHexPrefix : List Char → List Char
  | '0' :: x :: rest =>
    if x = 'x' ∨ x = 'X' then
      match rest with
      | '_' :: digits => digits
      | digits => digits
    else '0' :: x :: rest
  | text => text

/-- A numeral with an optional sign. -/
def readSigned (read : List Char → Option Nat) : List Char → Option Int
  | '-' :: body => (read body).map (fun value => -Int.ofNat value)
  | '+' :: body => (read body).map Int.ofNat
  | body => (read body).map Int.ofNat

/-- `int(text, 16)`. -/
def intBase16 (text : List Char) : Option Int :=
  readSigned (fun body => readNumeral 16 (dropHexPrefix body))
    (stripList isNumeralSpace (text.map toAscii))

/-- `int(text)`. -/
def intBase10 (text : List Char) : Option Int :=
  readSigned (readNumeral 10) (stripList isNumeralSpace (text.map toAscii))

/-- `text.replace(sub, "")`: the occurrences of `sub` from the left are dropped.
`skip` counts the characters of an occurrence still to drop. -/
def removeSub (sub : List Char) : Nat → List Char → List Char
  | _, [] => []
  | skip + 1, _ :: rest => removeSub sub skip rest
  | 0, c :: rest =>
    if sub.isPrefixOf (c :: rest) then removeSub sub (sub.length - 1) rest
    else c :: removeSub sub 0 rest

theorem hexDigit_cases {value : Nat} (small : value < 16) :
    digitValue 16 (hexDigit value) = some value ∧ hexDigit value ≠ '_' ∧ hexDigit value ≠ '-' ∧
      hexDigit value ≠ '+' ∧ hexDigit value ≠ 'x' ∧ hexDigit value ≠ 'X' ∧
      hexDigit value ≠ ':' ∧ hexDigit value ≠ '{' ∧ hexDigit value ≠ '}' ∧
      isNumeralSpace (hexDigit value) = false ∧ toAscii (hexDigit value) = hexDigit value := by
  have all : ∀ v : Fin 16, digitValue 16 (hexDigit v) = some v.val ∧ hexDigit v ≠ '_' ∧
      hexDigit v ≠ '-' ∧ hexDigit v ≠ '+' ∧ hexDigit v ≠ 'x' ∧ hexDigit v ≠ 'X' ∧
      hexDigit v ≠ ':' ∧ hexDigit v ≠ '{' ∧ hexDigit v ≠ '}' ∧
      isNumeralSpace (hexDigit v) = false ∧ toAscii (hexDigit v) = hexDigit v := by
    decide
  exact all ⟨value, small⟩

theorem mem_toHex {width value : Nat} {c : Char} (member : c ∈ toHex width value) :
    ∃ digit, digit < 16 ∧ c = hexDigit digit := by
  induction width generalizing value with
  | zero => simp [toHex] at member
  | succ width ih =>
    rcases List.mem_append.mp member with earlier | last
    · exact ih earlier
    · exact ⟨value % 16, Nat.mod_lt _ (by decide), by simpa using last⟩

@[simp] theorem length_toHex (width value : Nat) : (toHex width value).length = width := by
  induction width generalizing value with
  | zero => rfl
  | succ width ih => simp [toHex, ih]

theorem readDigits_append (base acc : Nat) (digits rest : List Char) (noUnderscore : '_' ∉ digits) :
    readDigits base acc false (digits ++ rest) =
      (readDigits base acc false digits).bind (fun value => readDigits base value false rest) := by
  induction digits generalizing acc with
  | nil => simp [readDigits]
  | cons c digits ih =>
    have different : c ≠ '_' := by
      intro equal
      exact noUnderscore (by simp [equal])
    have tail : '_' ∉ digits := fun member => noUnderscore (List.mem_cons_of_mem _ member)
    simp only [List.cons_append, readDigits, different, if_false]
    cases digitValue base c with
    | none => rfl
    | some value => exact ih _ tail

theorem underscore_not_mem_toHex (width value : Nat) : '_' ∉ toHex width value := by
  intro member
  obtain ⟨digit, small, equal⟩ := mem_toHex member
  exact (hexDigit_cases small).2.1 equal.symm

theorem readDigits_toHex (acc width value : Nat) :
    readDigits 16 acc false (toHex width value) = some (acc * 16 ^ width + value % 16 ^ width) := by
  induction width generalizing value with
  | zero => simp [toHex, readDigits, Nat.mod_one]
  | succ width ih =>
    have last := hexDigit_cases (Nat.mod_lt value (by decide : 0 < 16))
    rw [toHex, readDigits_append _ _ _ _ (underscore_not_mem_toHex _ _), ih]
    simp only [Option.bind_some, readDigits, last.2.1, if_false, last.1, Bool.false_eq_true,
      Option.some.injEq]
    have split : value % 16 ^ (width + 1) = 16 * (value / 16 % 16 ^ width) + value % 16 := by
      rw [Nat.pow_succ, Nat.mul_comm (16 ^ width) 16, Nat.mod_mul]
      omega
    rw [split, Nat.pow_succ]
    ring

variable {text : List Char}

theorem dropWhile_eq_self {dropped : Char → Bool} (kept : ∀ c ∈ text, dropped c = false) :
    text.dropWhile dropped = text := by
  apply List.dropWhile_eq_self_iff.mpr
  intro nonempty
  simp only [Bool.not_eq_true]
  exact kept _ (List.getElem_mem nonempty)

theorem stripList_eq_self {dropped : Char → Bool} (kept : ∀ c ∈ text, dropped c = false) :
    stripList dropped text = text := by
  rw [stripList, dropWhile_eq_self kept, dropWhile_eq_self, List.reverse_reverse]
  intro c member
  exact kept c (List.mem_reverse.mp member)

theorem intBase16_toHex (width value : Nat) :
    intBase16 (toHex (width + 1) value) = some ((value % 16 ^ (width + 1) : Nat) : Int) := by
  have digits := @mem_toHex (width + 1) value
  have read := readDigits_toHex 0 (width + 1) value
  cases shape : toHex (width + 1) value with
  | nil =>
    have := length_toHex (width + 1) value
    rw [shape] at this
    simp at this
  | cons first rest =>
    rw [shape] at digits read
    have spaceless : ∀ c ∈ first :: rest, isNumeralSpace c = false := by
      intro c member
      obtain ⟨digit, small, rfl⟩ := digits member
      exact (hexDigit_cases small).2.2.2.2.2.2.2.2.2.1
    have ascii : (first :: rest).map toAscii = first :: rest := by
      apply List.map_congr_left (g := id) _ |>.trans (List.map_id _)
      intro c member
      obtain ⟨digit, small, rfl⟩ := digits member
      exact (hexDigit_cases small).2.2.2.2.2.2.2.2.2.2
    have stripped := stripList_eq_self spaceless
    have firstDigit := digits (List.mem_cons_self ..)
    obtain ⟨digit, small, rfl⟩ := firstDigit
    have facts := hexDigit_cases small
    have body : dropHexPrefix (hexDigit digit :: rest) = hexDigit digit :: rest := by
      unfold dropHexPrefix
      split
      · rename_i x tail equal
        have member : x ∈ hexDigit digit :: rest := by rw [equal]; simp
        obtain ⟨second, smallSecond, rfl⟩ := digits member
        have factsSecond := hexDigit_cases smallSecond
        simp [factsSecond.2.2.2.2.1, factsSecond.2.2.2.2.2.1, equal]
      · rfl
    have numeral : readNumeral 16 (hexDigit digit :: rest) =
        some (value % 16 ^ (width + 1)) := by
      simp only [readDigits, facts.2.1, if_false, facts.1, Nat.mul_zero, Nat.zero_mul,
        Nat.zero_add] at read
      simpa [readNumeral, facts.1] using read
    rw [intBase16, ascii, stripped]
    unfold readSigned
    split
    · rename_i tail equal
      exact absurd (List.cons.inj equal).1 facts.2.2.1
    · rename_i tail equal
      exact absurd (List.cons.inj equal).1 facts.2.2.2.1
    · simp only [body, numeral, Option.map_some]
      rfl

theorem removeSub_eq_self {sub : List Char} {c : Char} (inSub : c ∈ sub) (absent : c ∉ text) :
    removeSub sub 0 text = text := by
  induction text with
  | nil => rfl
  | cons d rest ih =>
    have noPrefix : sub.isPrefixOf (d :: rest) = false := by
      rw [Bool.eq_false_iff]
      intro isPrefix
      exact absent ((List.isPrefixOf_iff_prefix.mp isPrefix).subset inSub)
    simp only [removeSub, noPrefix, Bool.false_eq_true, if_false, List.cons.injEq, true_and]
    exact ih (fun member => absent (List.mem_cons_of_mem _ member))

end Lib
