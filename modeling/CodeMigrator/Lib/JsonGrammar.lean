/-!
# The grammar of JSON texts

A text is the list of its code points, a lone surrogate among them, and a document what a
decoder makes of it. The tokens of a document are determined by it; a text renders the
document when it spells these tokens in order, with blanks around them. What a float's
numeral denotes is left to the decoder.
-/

namespace Lib

/-- A text as its code points. -/
abbrev Points := List Nat

/-- Named, so that the definitions that compare texts share its proof. -/
instance lawfulBEq_points : LawfulBEq Points := inferInstance

/-- The code points of a Lean text. -/
def points (text : String) : Points := text.toList.map Char.toNat

/-! ## Documents -/

/-- A decoded document; an object has its fields in the order of the text. -/
inductive Document (F : Type) where
  | null
  | bool (value : Bool)
  | int (value : Int)
  | float (value : F)
  | str (value : Points)
  | arr (items : List (Document F))
  | obj (fields : List (Points × Document F))

/-- What a decoder makes of the numeral of a float, how many digits an integer may have and
how deep arrays and objects may be nested. -/
structure Decoder (F : Type) where
  readFloat : Points → F
  maxDigits : Nat
  maxDepth : Nat

/-! ## Tokens -/

namespace Point

abbrev quote : Nat := 0x22
abbrev backslash : Nat := 0x5C
abbrev comma : Nat := 0x2C
abbrev colon : Nat := 0x3A
abbrev openBracket : Nat := 0x5B
abbrev closeBracket : Nat := 0x5D
abbrev openBrace : Nat := 0x7B
abbrev closeBrace : Nat := 0x7D
abbrev minus : Nat := 0x2D
abbrev plus : Nat := 0x2B
abbrev dot : Nat := 0x2E
abbrev zero : Nat := 0x30
abbrev letterU : Nat := 0x75

end Point

open Point

/-- A token: a fixed text, or a value with the text that spells it. -/
inductive Token (F : Type) where
  | mark (text : Points)
  | int (value : Int)
  | float (value : F)
  | str (value : Points)

namespace Document

variable {F : Type}

mutual
/-- The tokens of a document. -/
def tokens : Document F → List (Token F)
  | null => [.mark (points "null")]
  | bool true => [.mark (points "true")]
  | bool false => [.mark (points "false")]
  | int value => [.int value]
  | float value => [.float value]
  | str value => [.str value]
  | arr [] => [.mark [openBracket], .mark [closeBracket]]
  | arr (item :: items) =>
    .mark [openBracket] :: (tokens item ++ (itemTokens items ++ [.mark [closeBracket]]))
  | obj [] => [.mark [openBrace], .mark [closeBrace]]
  | obj ((key, value) :: fields) =>
    .mark [openBrace] :: .str key :: .mark [colon] ::
      (tokens value ++ (fieldTokens fields ++ [.mark [closeBrace]]))
/-- The tokens of further items. -/
def itemTokens : List (Document F) → List (Token F)
  | [] => []
  | item :: items => .mark [comma] :: (tokens item ++ itemTokens items)
/-- The tokens of further fields. -/
def fieldTokens : List (Points × Document F) → List (Token F)
  | [] => []
  | (key, value) :: fields =>
    .mark [comma] :: .str key :: .mark [colon] :: (tokens value ++ fieldTokens fields)
end

end Document

/-! ## Spellings -/

/-- The blanks between tokens. -/
def isBlank (c : Nat) : Bool := c == 0x20 || c == 0x09 || c == 0x0A || c == 0x0D

def isDigitPoint (c : Nat) : Bool := 0x30 ≤ c && c ≤ 0x39

/-- The value of a hexadecimal digit. -/
def hexPoint? (c : Nat) : Option Nat :=
  if 0x30 ≤ c ∧ c ≤ 0x39 then some (c - 0x30)
  else if 0x61 ≤ c ∧ c ≤ 0x66 then some (c - 0x57)
  else if 0x41 ≤ c ∧ c ≤ 0x46 then some (c - 0x37)
  else none

/-- The value of four hexadecimal digits. -/
def hexUnit? (a b c d : Nat) : Option Nat :=
  match hexPoint? a, hexPoint? b, hexPoint? c, hexPoint? d with
  | some a, some b, some c, some d => some (((a * 16 + b) * 16 + c) * 16 + d)
  | _, _, _, _ => none

/-- What the letter after a backslash stands for. -/
def simpleEscape? (c : Nat) : Option Nat :=
  if c = quote ∨ c = backslash ∨ c = 0x2F then some c
  else if c = 0x62 then some 0x08
  else if c = 0x66 then some 0x0C
  else if c = 0x6E then some 0x0A
  else if c = 0x72 then some 0x0D
  else if c = 0x74 then some 0x09
  else none

/-- A piece of a string: a code point, and whether it was written by its number. -/
abbrev Piece := Bool × Nat

def isHighSurrogate (c : Nat) : Bool := 0xD800 ≤ c && c ≤ 0xDBFF
def isLowSurrogate (c : Nat) : Bool := 0xDC00 ≤ c && c ≤ 0xDFFF

/-- The code points of the pieces: two surrogates written by their numbers are one. -/
def joinSurrogates : List Piece → Points
  | (true, high) :: (true, low) :: rest =>
    if isHighSurrogate high && isLowSurrogate low then
      (0x10000 + (high - 0xD800) * 0x400 + (low - 0xDC00)) :: joinSurrogates rest
    else high :: joinSurrogates ((true, low) :: rest)
  | (_, c) :: rest => c :: joinSurrogates rest
  | [] => []

/-- A piece and its spelling. -/
inductive SpellsPiece : Piece → Points → Prop where
  | literal (c : Nat) (plain : 0x20 ≤ c ∧ c ≠ quote ∧ c ≠ backslash) : SpellsPiece (false, c) [c]
  | simple (letter c : Nat) (known : letter ≠ letterU) (escape : simpleEscape? letter = some c) :
      SpellsPiece (false, c) [backslash, letter]
  | number (a b c d unit : Nat) (hex : hexUnit? a b c d = some unit) :
      SpellsPiece (true, unit) [backslash, letterU, a, b, c, d]

/-- The pieces of a string and their spelling. -/
inductive SpellsPieces : List Piece → Points → Prop where
  | nil : SpellsPieces [] []
  | cons {piece : Piece} {pieces : List Piece} {text rest : Points}
      (first : SpellsPiece piece text) (others : SpellsPieces pieces rest) :
      SpellsPieces (piece :: pieces) (text ++ rest)

/-- The value of decimal digits. -/
def decimalValue (digits : Points) : Nat := digits.foldl (fun value c => 10 * value + (c - zero)) 0

/-- The digits before a point: no further zeros in front. -/
def IsWhole (digits : Points) : Prop :=
  digits = [zero] ∨ ∃ first rest, digits = first :: rest ∧ 0x31 ≤ first ∧ first ≤ 0x39 ∧
    ∀ c ∈ rest, isDigitPoint c = true

/-- Digits, at least one. -/
def IsDigits (digits : Points) : Prop := digits ≠ [] ∧ ∀ c ∈ digits, isDigitPoint c = true

/-- The sign of a numeral. -/
def signText (negative : Bool) : Points := if negative then [minus] else []

/-- Nothing, or a point and digits. -/
def IsFraction (text : Points) : Prop := text = [] ∨ ∃ digits, text = dot :: digits ∧ IsDigits digits

/-- Nothing, or a power of ten. -/
def IsExponent (text : Points) : Prop :=
  text = [] ∨ ∃ letter sign digits, text = letter :: (sign ++ digits) ∧
    (letter = 0x65 ∨ letter = 0x45) ∧ (sign = [] ∨ sign = [plus] ∨ sign = [minus]) ∧
    IsDigits digits

/-- A token and its spelling. -/
inductive Spells {F : Type} (readFloat : Points → F) : Token F → Points → Prop where
  | mark (text : Points) : Spells readFloat (.mark text) text
  | int (negative : Bool) (digits : Points) (whole : IsWhole digits) :
      Spells readFloat
        (.int (if negative then -(decimalValue digits : Int) else decimalValue digits))
        (signText negative ++ digits)
  | float (negative : Bool) (digits fraction exponent : Points) (whole : IsWhole digits)
      (isFraction : IsFraction fraction) (isExponent : IsExponent exponent)
      (real : fraction ≠ [] ∨ exponent ≠ []) :
      Spells readFloat (.float (readFloat (signText negative ++ (digits ++ (fraction ++ exponent)))))
        (signText negative ++ (digits ++ (fraction ++ exponent)))
  | str (pieces : List Piece) (text : Points) (spelled : SpellsPieces pieces text) :
      Spells readFloat (.str (joinSurrogates pieces)) (quote :: (text ++ [quote]))

/-- The text consists of blanks and the spellings of the tokens. -/
inductive Lexes {F : Type} (readFloat : Points → F) : List (Token F) → Points → Prop where
  | nil {blanks : Points} (blank : ∀ c ∈ blanks, isBlank c = true) : Lexes readFloat [] blanks
  | cons {token : Token F} {tokens : List (Token F)} {blanks text rest : Points}
      (blank : ∀ c ∈ blanks, isBlank c = true) (first : Spells readFloat token text)
      (others : Lexes readFloat tokens rest) :
      Lexes readFloat (token :: tokens) (blanks ++ (text ++ rest))

/-- The text is a rendering of the document. -/
def Renders {F : Type} (decoder : Decoder F) (value : Document F) (text : Points) : Prop :=
  Lexes decoder.readFloat value.tokens text

end Lib
