import CodeMigrator.Lib.Numeral

/-!
# Identifiers

`core/ids.py`: every typed identifier is a UUID, digests and Git object ids are
text, and a candidate generation is one of 0, 1 and 2. `UUID.str` and `UUID.parse`
are the `str(uuid)` and `UUID(text)` of the standard library.
-/

namespace CodeMigrator
open Lib

/-- A UUID, by its 128-bit value. Its 16 bytes are this value in big-endian order,
so comparing the bytes of two UUIDs compares the values. -/
structure UUID where
  value : Fin (2 ^ 128)
  deriving DecidableEq

instance neZero_uuid : NeZero (2 ^ 128) := ⟨by decide⟩

abbrev RunId := UUID
abbrev SliceId := UUID
abbrev ProjectModuleId := UUID
abbrev AgentRunId := UUID

/-- `validate_candidate_generation` (`core/ids.py`) admits 0, 1 and 2 only. -/
abbrev CandidateGeneration := Fin 3

instance neZero_generation : NeZero 3 := ⟨by decide⟩

namespace UUID

/-- The canonical text with hyphens after 8, 12, 16 and 20 digits. -/
def hyphenate (hex : List Char) : List Char :=
  hex.take 8 ++ '-' :: (hex.drop 8).take 4 ++ '-' :: (hex.drop 12).take 4 ++
    '-' :: (hex.drop 16).take 4 ++ '-' :: hex.drop 20

/-- `str(uuid)`. -/
def str (u : UUID) : String := String.ofList (hyphenate (toHex 32 u.value))

/-- The digits that `UUID(text)` reads: URN markers, surrounding braces and all
hyphens are dropped. -/
def digits (text : String) : List Char :=
  (stripList (fun c => c == '{' || c == '}')
    (removeSub "uuid:".toList 0 (removeSub "urn:".toList 0 text.toList))).filter (· != '-')

/-- `UUID(text)`; `none` is its `ValueError`. -/
def parse (text : String) : Option UUID :=
  if (digits text).length ≠ 32 then none
  else
    match intBase16 (digits text) with
    | none => none
    | some value =>
      if range : 0 ≤ value ∧ value < 2 ^ 128 then
        some ⟨⟨value.toNat, by omega⟩⟩
      else none

theorem filter_hyphenate {hex : List Char} (absent : '-' ∉ hex) :
    (hyphenate hex).filter (· != '-') = hex := by
  have keep : ∀ part : List Char, part ⊆ hex → part.filter (· != '-') = part := by
    intro part subset
    apply List.filter_eq_self.mpr
    intro c member
    simp only [bne_iff_ne, ne_eq]
    intro equal
    exact absent (equal ▸ subset member)
  have k1 := keep (hex.take 8) (List.take_subset ..)
  have k2 := keep ((hex.drop 8).take 4)
    (fun _ member => List.drop_subset _ _ (List.take_subset _ _ member))
  have k3 := keep ((hex.drop 12).take 4)
    (fun _ member => List.drop_subset _ _ (List.take_subset _ _ member))
  have k4 := keep ((hex.drop 16).take 4)
    (fun _ member => List.drop_subset _ _ (List.take_subset _ _ member))
  have k5 := keep (hex.drop 20) (List.drop_subset ..)
  have d12 : hex.drop 12 = (hex.drop 8).drop 4 := by rw [List.drop_drop]
  have d16 : hex.drop 16 = (hex.drop 12).drop 4 := by rw [List.drop_drop]
  have d20 : hex.drop 20 = (hex.drop 16).drop 4 := by rw [List.drop_drop]
  simp only [hyphenate, List.filter_append, List.filter_cons, bne_self_eq_false,
    Bool.false_eq_true, if_false, k1, k2, k3, k4, k5, List.append_assoc]
  rw [d20, List.take_append_drop, d16, List.take_append_drop, d12, List.take_append_drop,
    List.take_append_drop]

theorem mem_hyphenate {hex : List Char} {c : Char} (member : c ∈ hyphenate hex) :
    c = '-' ∨ c ∈ hex := by
  simp only [hyphenate, List.append_assoc, List.cons_append, List.mem_append,
    List.mem_cons] at member
  rcases member with m | rfl | m | rfl | m | rfl | m | rfl | m
  · exact Or.inr (List.mem_of_mem_take m)
  · exact Or.inl rfl
  · exact Or.inr (List.mem_of_mem_drop (List.mem_of_mem_take m))
  · exact Or.inl rfl
  · exact Or.inr (List.mem_of_mem_drop (List.mem_of_mem_take m))
  · exact Or.inl rfl
  · exact Or.inr (List.mem_of_mem_drop (List.mem_of_mem_take m))
  · exact Or.inl rfl
  · exact Or.inr (List.mem_of_mem_drop m)

theorem mem_str {u : UUID} {c : Char} (member : c ∈ u.str.toList) :
    c = '-' ∨ ∃ digit, digit < 16 ∧ c = hexDigit digit := by
  simp only [str, String.toList_ofList] at member
  exact (mem_hyphenate member).imp_right mem_toHex

theorem digits_str (u : UUID) : digits u.str = toHex 32 u.value := by
  have noColon : ':' ∉ u.str.toList := by
    intro member
    rcases mem_str member with equal | ⟨digit, small, equal⟩
    · exact absurd equal (by decide)
    · exact (hexDigit_cases small).2.2.2.2.2.2.1 equal.symm
  have noHyphen : '-' ∉ toHex 32 u.value := by
    intro member
    obtain ⟨digit, small, equal⟩ := mem_toHex member
    exact (hexDigit_cases small).2.2.1 equal.symm
  have noBrace : ∀ c ∈ u.str.toList, (c == '{' || c == '}') = false := by
    intro c member
    rcases mem_str member with rfl | ⟨digit, small, rfl⟩
    · decide
    · simp [(hexDigit_cases small).2.2.2.2.2.2.2.1, (hexDigit_cases small).2.2.2.2.2.2.2.2.1]
  have colonUrn : ':' ∈ "urn:".toList := by decide
  have colonUuid : ':' ∈ "uuid:".toList := by decide
  rw [digits, removeSub_eq_self colonUrn noColon, removeSub_eq_self colonUuid noColon,
    stripList_eq_self noBrace, str, String.toList_ofList, filter_hyphenate noHyphen]

@[simp] theorem parse_str (u : UUID) : parse u.str = some u := by
  have bound : u.value.val % 16 ^ 32 = u.value.val := Nat.mod_eq_of_lt (by
    have := u.value.isLt
    omega)
  have read := intBase16_toHex 31 u.value
  simp only [Nat.reduceAdd, bound] at read
  have range : (0 : Int) ≤ (u.value.val : Int) ∧ (u.value.val : Int) < 2 ^ 128 := by
    have := u.value.isLt
    omega
  simp only [parse, digits_str, length_toHex, ne_eq, not_true_eq_false, if_false, read, range,
    and_self, dite_true, Int.toNat_natCast]

theorem str_injective {left right : UUID} (same : left.str = right.str) : left = right := by
  have parsed := congrArg parse same
  rw [parse_str, parse_str] at parsed
  exact Option.some.inj parsed

end UUID

/-- `_is_sha256` (`runtime/contracts.py`) and the digest checks like it: 64
lower-case hexadecimal characters. -/
def isSha256 (text : String) : Bool :=
  text.toList.length == 64 && text.toList.all (fun c => "0123456789abcdef".toList.contains c)

/-- A SHA-256 digest in lower-case hexadecimal. -/
structure Sha256 where
  text : String
  valid : isSha256 text = true
  deriving DecidableEq

namespace Sha256

/-- A digest for examples. -/
def zeros : Sha256 :=
  ⟨"0000000000000000000000000000000000000000000000000000000000000000", by decide⟩

/-- The digest of no bytes. -/
def ofNothing : Sha256 :=
  ⟨"e3b0c44298fc1c149afbf4c8996fb92427ae41e4649b934ca495991b7852b855", by decide⟩

/-- The digest of the text of an empty object. -/
def ofEmptyObject : Sha256 :=
  ⟨"44136fa355b3678a1146ad16f7e8649e94fb4fc21fe77e8310c060f61caaff8a", by decide⟩

end Sha256

end CodeMigrator
