import CodeMigrator.Lib.JsonGrammar

/-!
# A decoder of JSON texts

The decoder goes through a text by itself: at each place it looks at one code point and
reads a value, a key or a separator. An object is refused when it has a key twice, and the
constants that are no JSON (`NaN`, `Infinity`) as well. `loads_iff` says that the decoder
reads a document exactly from the texts of the grammar that render it, as long as its
integers and its nesting are within the decoder's limits.

`fuel` bounds the recursion; a text has enough of it when it has more than code points.
-/

namespace Lib

open Point

/-- Why a text is not decoded. A mistake of syntax has the number of code points that are
left where it was found. -/
inductive DecodeError where
  | mistake (remaining : Nat)
  | duplicateKey (key : Points)
  | constant (name : Points)
  | digits
  | depth
  | fuel
  deriving DecidableEq

def skipBlank (text : Points) : Points := text.dropWhile isBlank

/-! ## Leaves -/

/-- The pieces of a string up to its quote; `begin` is what was left before the string. -/
def scanPieces (begin : Nat) : Points → Except DecodeError (List Piece × Points)
  | [] => .error (.mistake begin)
  | c :: rest =>
    if c = quote then .ok ([], rest)
    else if c = backslash then
      match rest with
      | [] => .error (.mistake begin)
      | letter :: rest =>
        if letter = letterU then
          match rest with
          | a :: b :: c :: d :: rest =>
            match hexUnit? a b c d with
            | none => .error (.mistake (rest.length + 5))
            | some unit =>
              match scanPieces begin rest with
              | .error error => .error error
              | .ok (pieces, rest) => .ok ((true, unit) :: pieces, rest)
          | short => .error (.mistake (short.length + 1))
        else
          match simpleEscape? letter with
          | none => .error (.mistake (rest.length + 2))
          | some c =>
            match scanPieces begin rest with
            | .error error => .error error
            | .ok (pieces, rest) => .ok ((false, c) :: pieces, rest)
    else if c < 0x20 then .error (.mistake (rest.length + 1))
    else
      match scanPieces begin rest with
      | .error error => .error error
      | .ok (pieces, rest) => .ok ((false, c) :: pieces, rest)

/-- A string after its first quote. -/
def scanString (text : Points) : Except DecodeError (Points × Points) :=
  match scanPieces (text.length + 1) text with
  | .error error => .error error
  | .ok (pieces, rest) => .ok (joinSurrogates pieces, rest)

/-- A sign, if there is one. -/
def scanSign : Points → Bool × Points
  | [] => (false, [])
  | c :: rest => if c = minus then (true, rest) else (false, c :: rest)

/-- The digits before a point; none when there is no number. -/
def scanWhole : Points → Points × Points
  | [] => ([], [])
  | c :: rest => if c = zero then ([zero], rest) else (c :: rest).span isDigitPoint

/-- A point with digits, if there is one. -/
def scanFraction : Points → Points × Points
  | [] => ([], [])
  | c :: rest =>
    if c = dot ∧ (rest.span isDigitPoint).1 ≠ [] then
      (dot :: (rest.span isDigitPoint).1, (rest.span isDigitPoint).2)
    else ([], c :: rest)

/-- The sign of an exponent, if there is one. -/
def scanExponentSign : Points → Points × Points
  | [] => ([], [])
  | c :: rest => if c = plus ∨ c = minus then ([c], rest) else ([], c :: rest)

/-- An exponent, if there is one. -/
def scanExponent : Points → Points × Points
  | [] => ([], [])
  | c :: rest =>
    let sign := scanExponentSign rest
    let digits := sign.2.span isDigitPoint
    if (c = 0x65 ∨ c = 0x45) ∧ digits.1 ≠ [] then (c :: (sign.1 ++ digits.1), digits.2)
    else ([], c :: rest)

section Scanner

variable {F : Type} (decoder : Decoder F)

/-- A number. -/
def scanNumber (text : Points) : Except DecodeError (Document F × Points) :=
  let sign := scanSign text
  let whole := scanWhole sign.2
  let fraction := scanFraction whole.2
  let exponent := scanExponent fraction.2
  if whole.1 = [] then .error (.mistake text.length)
  else if fraction.1 = [] ∧ exponent.1 = [] then
    if decoder.maxDigits < whole.1.length then .error .digits
    else
      .ok (.int (if sign.1 then -(decimalValue whole.1 : Int) else decimalValue whole.1), exponent.2)
  else
    .ok (.float (decoder.readFloat (signText sign.1 ++ (whole.1 ++ (fraction.1 ++ exponent.1)))),
      exponent.2)

/-- The rest of a text that begins with the given one. -/
def after? (start : Points) (text : Points) : Option Points :=
  if start.isPrefixOf text then some (text.drop start.length) else none

/-- The constants: those of JSON, and those that are refused. -/
def scanConstant (text : Points) : Option (Except DecodeError (Document F × Points)) :=
  match after? (points "null") text, after? (points "true") text, after? (points "false") text with
  | some rest, _, _ => some (.ok (.null, rest))
  | _, some rest, _ => some (.ok (.bool true, rest))
  | _, _, some rest => some (.ok (.bool false, rest))
  | none, none, none =>
    if (points "NaN").isPrefixOf text then some (.error (.constant (points "NaN")))
    else if (points "Infinity").isPrefixOf text then some (.error (.constant (points "Infinity")))
    else if (points "-Infinity").isPrefixOf text then
      some (.error (.constant (points "-Infinity")))
    else none

/-- A key that comes a second time. -/
def repeatedKey? : List Points → List Points → Option Points
  | _, [] => none
  | seen, key :: keys => if key ∈ seen then some key else repeatedKey? (seen ++ [key]) keys

/-- The object of the pairs that were read. -/
def newObject (fields : List (Points × Document F)) : Except DecodeError (Document F) :=
  match repeatedKey? [] (fields.map (·.1)) with
  | some key => .error (.duplicateKey key)
  | none => .ok (.obj fields)

/-! ## Values -/

mutual
/-- A value, from its first code point on. -/
def scanValue : Nat → Nat → Points → Except DecodeError (Document F × Points)
  | 0, _, _ => .error .fuel
  | _ + 1, _, [] => .error (.mistake 0)
  | fuel + 1, depth, c :: rest =>
    if c = quote then
      match scanString rest with
      | .error error => .error error
      | .ok (value, rest) => .ok (.str value, rest)
    else if c = openBrace then
      match depth with
      | 0 => .error .depth
      | depth + 1 =>
        match skipBlank rest with
        | [] => .error (.mistake 0)
        | d :: inner =>
          if d = closeBrace then .ok (.obj [], inner)
          else scanFields fuel depth [] (d :: inner)
    else if c = openBracket then
      match depth with
      | 0 => .error .depth
      | depth + 1 =>
        match skipBlank rest with
        | [] => .error (.mistake 0)
        | d :: inner =>
          if d = closeBracket then .ok (.arr [], inner)
          else scanItems fuel depth [] (d :: inner)
    else
      match scanConstant (c :: rest) with
      | some result => result
      | none => scanNumber decoder (c :: rest)
/-- The fields of an object from a key on, after those already read. -/
def scanFields : Nat → Nat → List (Points × Document F) → Points →
    Except DecodeError (Document F × Points)
  | 0, _, _, _ => .error .fuel
  | _ + 1, _, _, [] => .error (.mistake 0)
  | fuel + 1, depth, fields, c :: rest =>
    if c = quote then
      match scanString rest with
      | .error error => .error error
      | .ok (key, rest) =>
        match skipBlank rest with
        | [] => .error (.mistake 0)
        | d :: rest =>
          if d = colon then
            match scanValue fuel depth (skipBlank rest) with
            | .error error => .error error
            | .ok (value, rest) =>
              match skipBlank rest with
              | [] => .error (.mistake 0)
              | e :: rest =>
                if e = closeBrace then
                  match newObject (fields ++ [(key, value)]) with
                  | .error error => .error error
                  | .ok object => .ok (object, rest)
                else if e = comma then
                  scanFields fuel depth (fields ++ [(key, value)]) (skipBlank rest)
                else .error (.mistake (rest.length + 1))
          else .error (.mistake (rest.length + 1))
    else .error (.mistake (rest.length + 1))
/-- The items of an array from a value on, after those already read. -/
def scanItems : Nat → Nat → List (Document F) → Points → Except DecodeError (Document F × Points)
  | 0, _, _, _ => .error .fuel
  | fuel + 1, depth, items, text =>
    match scanValue fuel depth text with
    | .error error => .error error
    | .ok (item, rest) =>
      match skipBlank rest with
      | [] => .error (.mistake 0)
      | e :: rest =>
        if e = closeBracket then .ok (.arr (items ++ [item]), rest)
        else if e = comma then scanItems fuel depth (items ++ [item]) (skipBlank rest)
        else .error (.mistake (rest.length + 1))
end

/-- The document of a text. A byte order mark is no value, and its error is the one at the
beginning of the text. -/
def loads (text : Points) : Except DecodeError (Document F) :=
  match scanValue decoder (text.length + 1) decoder.maxDepth (skipBlank text) with
  | .error error => .error error
  | .ok (value, rest) =>
    match skipBlank rest with
    | [] => .ok value
    | _ :: extra => .error (.mistake (extra.length + 1))

end Scanner

end Lib
