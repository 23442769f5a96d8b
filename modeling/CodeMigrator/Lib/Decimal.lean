import CodeMigrator.Lib.Numeral
import CodeMigrator.Lib.Parts
import Mathlib.Data.String.Basic
import Mathlib.Order.Basic

/-!
# Decimal numerals

A numeral of decimal digits is read back by `int(text)`, and numerals of one length are in the
order of their values.
-/

namespace Lib

/-! ## Reading -/

theorem digit_range {c : Char} (digit : c.isDigit = true) : 48 ≤ c.toNat ∧ c.toNat ≤ 57 :=
  Char.isDigit_iff_toNat.mp digit

theorem digitValue_digit {c : Char} (digit : c.isDigit = true) :
    digitValue 10 c = some (c.toNat - 48) := by
  have range := digit_range digit
  have first : '0' ≤ c ∧ c ≤ '9' := by
    constructor
    · exact Char.le_def.mpr (UInt32.le_iff_toNat_le.mpr range.1)
    · exact Char.le_def.mpr (UInt32.le_iff_toNat_le.mpr range.2)
  rw [digitValue, hexValue, if_pos first]
  exact if_pos (by omega)

variable {text : List Char}

theorem readDigits_decimal (digits : ∀ c ∈ text, c.isDigit = true) (acc : Nat) :
    readDigits 10 acc false text = some (Nat.ofDigitChars 10 text acc) := by
  induction text generalizing acc with
  | nil => simp [readDigits]
  | cons c rest ih =>
    have digit := digits c List.mem_cons_self
    have noUnderscore : c ≠ '_' := by
      rintro rfl
      exact absurd digit (by decide)
    rw [readDigits, if_neg noUnderscore, digitValue_digit digit, Nat.ofDigitChars_cons]
    exact ih (fun c member => digits c (List.mem_cons_of_mem _ member)) _

theorem intBase10_decimal (nonempty : text ≠ []) (digits : ∀ c ∈ text, c.isDigit = true) :
    intBase10 text = some ((Nat.ofDigitChars 10 text 0 : Nat) : Int) := by
  have ascii : text.map toAscii = text := by
    apply List.map_congr_left (g := id) _ |>.trans (List.map_id _)
    intro c member
    have range := digit_range (digits c member)
    exact if_pos (by omega)
  have spaceless : ∀ c ∈ text, isNumeralSpace c = false := by
    intro c member
    have range := digit_range (digits c member)
    simp only [isNumeralSpace, Bool.or_eq_false_iff, Bool.and_eq_false_iff, beq_eq_false_iff_ne,
      decide_eq_false_iff_not]
    constructor
    · rintro rfl
      exact absurd range.1 (by decide)
    · refine .inr fun le => ?_
      have := UInt32.le_iff_toNat_le.mp (Char.le_def.mp le)
      have small : c.toNat ≤ 13 := this
      omega
  rw [intBase10, ascii, stripList_eq_self spaceless]
  cases text with
  | nil => exact absurd rfl nonempty
  | cons c rest =>
    have digit := digits c List.mem_cons_self
    have numeral : readNumeral 10 (c :: rest) = some (Nat.ofDigitChars 10 (c :: rest) 0) := by
      rw [readNumeral, digitValue_digit digit, Option.bind_some,
        readDigits_decimal (fun c member => digits c (List.mem_cons_of_mem _ member)),
        Nat.ofDigitChars_cons]
      simp
    unfold readSigned
    split
    · rename_i tail equal
      rw [(List.cons.inj equal).1] at digit
      exact absurd digit (by decide)
    · rename_i tail equal
      rw [(List.cons.inj equal).1] at digit
      exact absurd digit (by decide)
    · rw [numeral]
      rfl

theorem digits_of_toDigits {number : Nat} {c : Char} (member : c ∈ Nat.toDigits 10 number) :
    c.isDigit = true :=
  Nat.isDigit_of_mem_toDigits (by decide) (by decide) member

theorem intBase10_toDigits (number : Nat) :
    intBase10 (Nat.toDigits 10 number) = some (number : Int) := by
  rw [intBase10_decimal (List.length_pos_iff.mp Nat.length_toDigits_pos)
    (fun c member => digits_of_toDigits member), Nat.ofDigitChars_ten_toDigits]

/-! ## Order -/

theorem ofDigitChars_lt (digits : ∀ c ∈ text, c.isDigit = true) :
    Nat.ofDigitChars 10 text 0 < 10 ^ text.length := by
  induction text with
  | nil => simp
  | cons c rest ih =>
    have below := ih (fun c member => digits c (List.mem_cons_of_mem _ member))
    have range := digit_range (digits c List.mem_cons_self)
    have value : '0'.toNat = 48 := rfl
    have first : (c.toNat - 48) * 10 ^ rest.length ≤ 9 * 10 ^ rest.length :=
      Nat.mul_le_mul_right _ (by omega)
    rw [Nat.ofDigitChars_cons, Nat.ofDigitChars_eq_ofDigitChars_zero, List.length_cons,
      Nat.pow_succ, Nat.mul_zero, Nat.zero_add, value, Nat.mul_comm (10 ^ rest.length)]
    omega

theorem lt_of_ofDigitChars_lt {left right : List Char} (same : left.length = right.length)
    (leftDigits : ∀ c ∈ left, c.isDigit = true) (rightDigits : ∀ c ∈ right, c.isDigit = true)
    (less : Nat.ofDigitChars 10 left 0 < Nat.ofDigitChars 10 right 0) : left < right := by
  induction left generalizing right with
  | nil =>
    rw [List.length_eq_zero_iff.mp same.symm] at less
    exact absurd less (lt_irrefl _)
  | cons c left ih =>
    cases right with
    | nil => simp at same
    | cons d right =>
      have lengths : left.length = right.length := by simpa using same
      have leftRange := digit_range (leftDigits c List.mem_cons_self)
      have rightRange := digit_range (rightDigits d List.mem_cons_self)
      have leftRest : ∀ c ∈ left, c.isDigit = true :=
        fun c member => leftDigits c (List.mem_cons_of_mem _ member)
      have rightRest : ∀ c ∈ right, c.isDigit = true :=
        fun c member => rightDigits c (List.mem_cons_of_mem _ member)
      have value : '0'.toNat = 48 := rfl
      rw [Nat.ofDigitChars_cons, Nat.ofDigitChars_cons,
        @Nat.ofDigitChars_eq_ofDigitChars_zero left, @Nat.ofDigitChars_eq_ofDigitChars_zero right,
        lengths, Nat.mul_zero, Nat.zero_add, Nat.zero_add, value] at less
      rcases lt_trichotomy c.toNat d.toNat with smaller | equal | larger
      · exact List.Lex.rel (Char.lt_def.mpr (UInt32.lt_iff_toNat_lt.mpr smaller))
      · rw [equal] at less
        rw [Char.toNat_inj.mp equal]
        exact List.Lex.cons (ih lengths leftRest rightRest (by omega))
      · -- a larger first digit outweighs all that follows
        have below := ofDigitChars_lt rightRest
        have step : 10 ^ right.length * (d.toNat - 48 + 1) ≤ 10 ^ right.length * (c.toNat - 48) :=
          Nat.mul_le_mul_left _ (by omega)
        rw [Nat.mul_add] at step
        omega

theorem append_lt_append {left right : List Char} (less : left < right)
    (same : left.length = right.length) {leftRest rightRest : List Char} :
    left ++ leftRest < right ++ rightRest := by
  induction left generalizing right with
  | nil =>
    rw [List.length_eq_zero_iff.mp same.symm] at less
    cases less
  | cons c left ih =>
    cases less with
    | cons tail => exact List.Lex.cons (ih tail (by simpa using same))
    | rel head => exact List.Lex.rel head

end Lib
