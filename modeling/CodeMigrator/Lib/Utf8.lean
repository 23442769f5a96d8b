import Mathlib.Data.List.Basic

/-!
# Decoding UTF-8 in pieces

The state machine of a decoder that is given bytes one after the other: what a character needs
more is kept until the next byte, and a byte that cannot come next is replaced. The decoding of
bytes in pieces is the decoding of the whole, and a decoder gives back a text from its encoding.
-/

namespace Lib

/-- The bytes of a text. -/
def encodeText (text : List Char) : List UInt8 := text.flatMap String.utf8EncodeChar

/-- The bits of the character that is being read, how many bytes it still needs, and the range of
the next one. -/
structure Utf8Decoder where
  point : Nat
  missing : Nat
  lower : Nat
  upper : Nat
  deriving DecidableEq

namespace Utf8Decoder

/-- Between two characters. -/
def start : Utf8Decoder := ⟨0, 0, 0x80, 0xBF⟩

/-- The first byte of a character. -/
def first (byte : Nat) : Utf8Decoder × List Char :=
  if byte ≤ 0x7F then (start, [Char.ofNat byte])
  else if 0xC2 ≤ byte ∧ byte ≤ 0xDF then (⟨byte % 0x20, 1, 0x80, 0xBF⟩, [])
  else if 0xE0 ≤ byte ∧ byte ≤ 0xEF then
    (⟨byte % 0x10, 2, if byte = 0xE0 then 0xA0 else 0x80, if byte = 0xED then 0x9F else 0xBF⟩, [])
  else if 0xF0 ≤ byte ∧ byte ≤ 0xF4 then
    (⟨byte % 0x08, 3, if byte = 0xF0 then 0x90 else 0x80, if byte = 0xF4 then 0x8F else 0xBF⟩, [])
  else (start, [Char.ofNat 0xFFFD])

/-- One byte: the decoder afterwards and the characters that it gives. -/
def next (decoder : Utf8Decoder) (byte : UInt8) : Utf8Decoder × List Char :=
  if decoder.missing = 0 then first byte.toNat
  else if decoder.lower ≤ byte.toNat ∧ byte.toNat ≤ decoder.upper then
    if decoder.missing = 1 then (start, [Char.ofNat (decoder.point * 64 + byte.toNat % 64)])
    else (⟨decoder.point * 64 + byte.toNat % 64, decoder.missing - 1, 0x80, 0xBF⟩, [])
  else ((first byte.toNat).1, Char.ofNat 0xFFFD :: (first byte.toNat).2)

/-- Several bytes. -/
def decode (decoder : Utf8Decoder) : List UInt8 → Utf8Decoder × List Char
  | [] => (decoder, [])
  | byte :: bytes =>
    ((decode (decoder.next byte).1 bytes).1,
      (decoder.next byte).2 ++ (decode (decoder.next byte).1 bytes).2)

theorem decode_append (decoder : Utf8Decoder) (left right : List UInt8) :
    decoder.decode (left ++ right) =
      (((decoder.decode left).1.decode right).1,
        (decoder.decode left).2 ++ ((decoder.decode left).1.decode right).2) := by
  induction left generalizing decoder with
  | nil => rfl
  | cons byte left ih =>
    rw [List.cons_append, decode, ih, decode, List.append_assoc]

/-- The texts of the pieces that bytes come in. -/
def pieces (decoder : Utf8Decoder) : List (List UInt8) → List (List Char)
  | [] => []
  | chunk :: chunks => (decoder.decode chunk).2 :: pieces (decoder.decode chunk).1 chunks

theorem pieces_take (decoder : Utf8Decoder) (chunks : List (List UInt8)) (count : Nat) :
    ((decoder.pieces chunks).take count).flatten =
      (decoder.decode (chunks.take count).flatten).2 := by
  induction chunks generalizing decoder count with
  | nil => simp [pieces, decode]
  | cons chunk chunks ih =>
    cases count with
    | zero => rfl
    | succ count =>
      rw [pieces, List.take_succ_cons, List.flatten_cons, ih, List.take_succ_cons,
        List.flatten_cons, decode_append]

theorem pieces_flatten (decoder : Utf8Decoder) (chunks : List (List UInt8)) :
    (decoder.pieces chunks).flatten = (decoder.decode chunks.flatten).2 := by
  have whole := pieces_take decoder chunks chunks.length
  have length : (decoder.pieces chunks).length = chunks.length := by
    induction chunks generalizing decoder with
    | nil => rfl
    | cons chunk chunks ih => rw [pieces, List.length_cons, List.length_cons, ih _ (pieces_take _ _ _)]
  rw [List.take_length, ← length, List.take_length] at whole
  exact whole

variable {value : Nat}

theorem toNat_byte (small : value < 256) : (UInt8.ofNat value).toNat = value := by
  rw [UInt8.toNat_ofNat']
  exact Nat.mod_eq_of_lt small

/-- A byte that continues a character, but does not end it. -/
theorem next_continues {point missing lower upper : Nat} (small : value < 256) (more : 1 < missing)
    (above : lower ≤ value) (below : value ≤ upper) :
    next ⟨point, missing, lower, upper⟩ (UInt8.ofNat value) =
      (⟨point * 64 + value % 64, missing - 1, 0x80, 0xBF⟩, []) := by
  rw [next, toNat_byte small, if_neg (by dsimp only; omega), if_pos ⟨above, below⟩,
    if_neg (by dsimp only; omega)]

/-- The byte that ends a character. -/
theorem next_ends {point lower upper : Nat} (small : value < 256) (above : lower ≤ value)
    (below : value ≤ upper) :
    next ⟨point, 1, lower, upper⟩ (UInt8.ofNat value) =
      (start, [Char.ofNat (point * 64 + value % 64)]) := by
  rw [next, toNat_byte small, if_neg (by dsimp only; omega), if_pos ⟨above, below⟩, if_pos rfl]

theorem next_start (small : value < 256) : next start (UInt8.ofNat value) = first value := by
  rw [next, toNat_byte small]
  rfl

theorem decode_step {decoder after : Utf8Decoder} {byte : UInt8} {out : List Char}
    (ran : decoder.next byte = (after, out)) (bytes : List UInt8) :
    decoder.decode (byte :: bytes) = ((after.decode bytes).1, out ++ (after.decode bytes).2) := by
  rw [decode, ran]

/-- A decoder gives a character back from its bytes. -/
theorem decode_char (c : Char) : start.decode (String.utf8EncodeChar c) = (start, [c]) := by
  have valid : c.val.toNat < 0xD800 ∨ 0xDFFF < c.val.toNat ∧ c.val.toNat < 0x110000 := c.valid
  have back : Char.ofNat c.val.toNat = c := Char.ofNat_toNat c
  rw [String.utf8EncodeChar]
  generalize c.val.toNat = value at valid back ⊢
  by_cases one : value ≤ 0x7F
  · have begun : next start (UInt8.ofNat value) = (start, [Char.ofNat value]) := by
      rw [next_start (by omega), first, if_pos one]
    rw [if_pos one, decode_step begun, back]
    rfl
  rw [if_neg one]
  by_cases two : value ≤ 0x7FF
  · have begun : next start (UInt8.ofNat (value / 64 % 0x20 + 0xC0)) =
        (⟨value / 64, 1, 0x80, 0xBF⟩, []) := by
      rw [next_start (by omega), first, if_neg (by omega), if_pos (by omega),
        show (value / 64 % 0x20 + 0xC0) % 0x20 = value / 64 by omega]
    rw [if_pos two, decode_step begun,
      decode_step (next_ends (by omega) (by omega) (by omega)),
      show value / 64 * 64 + (value % 0x40 + 0x80) % 64 = value by omega, back]
    rfl
  rw [if_neg two]
  by_cases three : value ≤ 0xFFFF
  · have begun : next start (UInt8.ofNat (value / 4096 % 0x10 + 0xE0)) = (⟨value / 4096, 2,
        if value / 4096 = 0 then 0xA0 else 0x80, if value / 4096 = 0xD then 0x9F else 0xBF⟩, []) := by
      rw [next_start (by omega), first, if_neg (by omega), if_neg (by omega), if_pos (by omega),
        show value / 4096 % 0x10 + 0xE0 = value / 4096 + 0xE0 by omega]
      simp [show (value / 4096 + 0xE0) % 0x10 = value / 4096 by omega]
    -- the first byte bounds the second one, which excludes the surrogates
    have above : (if value / 4096 = 0 then 0xA0 else 0x80) ≤ value / 64 % 0x40 + 0x80 := by
      split <;> omega
    have below : value / 64 % 0x40 + 0x80 ≤ if value / 4096 = 0xD then 0x9F else 0xBF := by
      split <;> omega
    rw [if_pos three, decode_step begun,
      decode_step (next_continues (by omega) (by omega) above below),
      decode_step (next_ends (by omega) (by omega) (by omega)),
      show (value / 4096 * 64 + (value / 64 % 0x40 + 0x80) % 64) * 64 +
        (value % 0x40 + 0x80) % 64 = value by omega, back]
    rfl
  rw [if_neg three]
  have begun : next start (UInt8.ofNat (value / 262144 % 0x08 + 0xF0)) = (⟨value / 262144, 3,
      if value / 262144 = 0 then 0x90 else 0x80, if value / 262144 = 4 then 0x8F else 0xBF⟩, []) := by
    rw [next_start (by omega), first, if_neg (by omega), if_neg (by omega), if_neg (by omega),
      if_pos (by omega), show value / 262144 % 0x08 + 0xF0 = value / 262144 + 0xF0 by omega]
    simp [show (value / 262144 + 0xF0) % 0x08 = value / 262144 by omega]
  have above : (if value / 262144 = 0 then 0x90 else 0x80) ≤ value / 4096 % 0x40 + 0x80 := by
    split <;> omega
  have below : value / 4096 % 0x40 + 0x80 ≤ if value / 262144 = 4 then 0x8F else 0xBF := by
    split <;> omega
  rw [decode_step begun, decode_step (next_continues (by omega) (by omega) above below),
    decode_step (next_continues (by omega) (by omega) (by omega) (by omega)),
    decode_step (next_ends (by omega) (by omega) (by omega)),
    show ((value / 262144 * 64 + (value / 4096 % 0x40 + 0x80) % 64) * 64 +
      (value / 64 % 0x40 + 0x80) % 64) * 64 + (value % 0x40 + 0x80) % 64 = value by omega, back]
  rfl

theorem decode_text (text : List Char) : start.decode (encodeText text) = (start, text) := by
  induction text with
  | nil => rfl
  | cons c text ih =>
    rw [encodeText, List.flatMap_cons, decode_append, decode_char]
    change ((start.decode (encodeText text)).1, [c] ++ (start.decode (encodeText text)).2) = _
    rw [ih]
    rfl

/-- A byte gives a character, or the decoder waits for the next one. -/
theorem waits_or_gives (decoder : Utf8Decoder) (byte : UInt8) :
    (decoder.next byte).2 ≠ [] ∨ 0 < (decoder.next byte).1.missing := by
  have begins : ∀ value, (first value).2 ≠ [] ∨ 0 < (first value).1.missing := by
    intro value
    unfold first
    split_ifs <;> simp
  unfold next
  split_ifs with idle inside last
  · exact begins _
  · exact .inl (List.cons_ne_nil _ _)
  · exact .inr (show 0 < decoder.missing - 1 by omega)
  · exact .inl (List.cons_ne_nil _ _)

theorem gives_of_idle (decoder : Utf8Decoder) {bytes : List UInt8} (some_ : bytes ≠ [])
    (idle : (decoder.decode bytes).1.missing = 0) : (decoder.decode bytes).2 ≠ [] := by
  induction bytes generalizing decoder with
  | nil => exact absurd rfl some_
  | cons byte bytes ih =>
    rw [decode] at idle ⊢
    by_cases last : bytes = []
    · subst last
      rcases waits_or_gives decoder byte with gives | waits
      · simpa [decode] using gives
      · exact absurd idle (Nat.ne_of_gt waits)
    · intro none
      exact ih _ last idle (List.append_eq_nil_iff.mp none).2

/-- Bytes before an ASCII character that give just the text before it are its encoding. -/
theorem prefix_iff {before after : List Char} {c : Char} (ascii : c.val.toNat ≤ 0x7F)
    {bytes rest : List UInt8} (split : bytes ++ rest = encodeText (before ++ c :: after)) :
    (start.decode bytes).2 = before ↔ bytes = encodeText before := by
  constructor
  · intro same
    have byte : String.utf8EncodeChar c = [UInt8.ofNat c.val.toNat] := by
      rw [String.utf8EncodeChar, if_pos ascii]
    have parts : encodeText (before ++ c :: after) =
        encodeText before ++ UInt8.ofNat c.val.toNat :: encodeText after := by
      rw [encodeText, List.flatMap_append, List.flatMap_cons, byte]
      rfl
    rw [parts] at split
    rcases List.append_eq_append_iff.mp split with ⟨middle, whole, -⟩ | ⟨middle, longer, tail⟩
    · -- fewer bytes would end inside of a character, whose last byte gives it
      have decoded := decode_text before
      rw [whole, decode_append, same, Prod.mk.injEq] at decoded
      by_cases none : middle = []
      · rw [none, List.append_nil] at whole
        exact whole.symm
      · have gives := gives_of_idle (start.decode bytes).1 none (by rw [decoded.1]; rfl)
        exact absurd (List.append_right_eq_self.mp decoded.2) gives
    · cases middle with
      | nil => simpa using longer
      | cons byte middle =>
        -- more bytes would give the character after the text
        rw [List.cons_append, List.cons.injEq] at tail
        rw [longer, decode_append, decode_text] at same
        have more := List.append_right_eq_self.mp same
        rw [decode, ← tail.1, next_start (by omega), first, if_pos ascii] at more
        cases more
  · intro same
    rw [same, decode_text]

end Utf8Decoder

end Lib
