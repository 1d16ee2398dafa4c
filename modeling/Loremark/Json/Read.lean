import Loremark.Value
import Loremark.Decimal.Read

/-!
# Reading JSON

A reader for JSON texts that also takes the names of not-a-number and the infinities, and lets the
last of several members of one name win. A fault is reported by its wording, its line, its column
and the number of codes before it.

The text is a list of codes, because halves of surrogate pairs may stand in its strings, as they are
or as escapes. Everything around the strings is made of characters.
-/

set_option autoImplicit false

namespace Loremark.Json

open Loremark.Text (Code)

/-! ## Errors -/

/-- The kinds of faults. -/
inductive Fault where
  | expectingValue
  | expectingPropertyName
  | expectingColon
  | expectingComma
  | unterminatedString
  | controlCharacter
  | badEscape
  | badUnicodeEscape
  | extraData
  deriving DecidableEq, Repr

/-- The wording of a fault. -/
def Fault.message : Fault → Text
  | expectingValue => "Expecting value".toList
  | expectingPropertyName => "Expecting property name enclosed in double quotes".toList
  | expectingColon => "Expecting ':' delimiter".toList
  | expectingComma => "Expecting ',' delimiter".toList
  | unterminatedString => "Unterminated string starting at".toList
  | controlCharacter => "Invalid control character at".toList
  | badEscape => "Invalid \\escape".toList
  | badUnicodeEscape => "Invalid \\uXXXX escape".toList
  | extraData => "Extra data".toList

/-- Why a text is not read: a fault, with the number of characters from the place of the fault to
the end of the text, or an integer that is too long. -/
inductive Error where
  | fault (kind : Fault) (left : Nat)
  | numeral (cause : Text.NumeralError)
  deriving DecidableEq, Repr

/-- The wording of an error in a given text. -/
def Error.message (text : List Code) : Error → Text
  | .numeral cause => cause.message
  | .fault kind left =>
    let position := text.length - left
    let before := text.take position
    let line := before.count (.char '\n') + 1
    let column := (before.reverse.takeWhile (· != .char '\n')).length + 1
    kind.message ++ ": line ".toList ++ Text.ofNat line ++ " column ".toList ++
      Text.ofNat column ++ " (char ".toList ++ Text.ofNat position ++ ")".toList

/-! ## Parts -/

/-- The blanks between the tokens of a JSON text. -/
def isGap (code : Code) : Bool :=
  code == .char ' ' || code == .char '\t' || code == .char '\n' || code == .char '\r'

/-- The text without leading gaps. -/
def skipGap (text : List Code) : List Code := text.dropWhile isGap

/-- The fault `kind` at the beginning of the text that is left. -/
def faultAt {α : Type} (kind : Fault) (left : List Code) : Except Error α :=
  .error (.fault kind left.length)

/-- The character that a backslash and a letter stand for. -/
def escapedChar? : Code → Option Char
  | .char '"' => some '"'
  | .char '\\' => some '\\'
  | .char '/' => some '/'
  | .char 'b' => some '\x08'
  | .char 'f' => some '\x0c'
  | .char 'n' => some '\n'
  | .char 'r' => some '\r'
  | .char 't' => some '\t'
  | _ => none

/-- Four hexadecimal digits that are not the end of the text, and what follows. -/
def fourDigits? : List Code → Option (Nat × List Code)
  | .char a :: .char b :: .char c :: .char d :: rest =>
    if [a, b, c, d].all Text.isHexDigit && !rest.isEmpty then
      some (Text.readBase 16 [a, b, c, d], rest)
    else none
  | _ => none

/-- Whether a number is that of the first half of a surrogate pair. -/
def isHighHalf (code : Nat) : Bool := 0xD800 ≤ code && code ≤ 0xDBFF

/-- Whether a number is that of the second half of a surrogate pair. -/
def isLowHalf (code : Nat) : Bool := 0xDC00 ≤ code && code ≤ 0xDFFF

/-- The character of the two halves of a pair. -/
def charOfHalves (high low : Nat) : Char :=
  Char.ofNat (0x10000 + (high - 0xD800) * 0x400 + (low - 0xDC00))

/-- What an escape of the form `uXXXX` stands for, and what follows. The argument begins at the
letter. A half without its other half stands for itself. -/
def unicodeEscape (text : List Code) : Except Error (Code × List Code) :=
  match fourDigits? (text.drop 1) with
  | none => faultAt .badUnicodeEscape text
  | some (code, rest) =>
    if isHighHalf code then
      match rest with
      | .char '\\' :: .char 'u' :: more =>
        if more.length ≤ 4 then .ok (.ofNat code, rest)
        else
          match fourDigits? more with
          | none => faultAt .badUnicodeEscape (.char 'u' :: more)
          | some (low, after) =>
            if isLowHalf low then .ok (.char (charOfHalves code low), after)
            else .ok (.ofNat code, rest)
      | _ => .ok (.ofNat code, rest)
    else .ok (.ofNat code, rest)

/-- Reads a string whose opening quote, `left` codes before the end of the text, has been read.
`done` holds the codes read so far, last one first. -/
def readString (left : Nat) : Nat → (done text : List Code) → Except Error (List Code × List Code)
  | 0, _, _ => .error (.fault .unterminatedString left)
  | _ + 1, _, [] => .error (.fault .unterminatedString left)
  | fuel + 1, done, c :: text =>
    if c == .char '"' then .ok (done.reverse, text)
    else if c == .char '\\' then
      match text with
      | [] => .error (.fault .unterminatedString left)
      | .char 'u' :: _ => do
        let (e, rest) ← unicodeEscape text
        readString left fuel (e :: done) rest
      | e :: rest =>
        match escapedChar? e with
        | some e => readString left fuel (.char e :: done) rest
        | none => faultAt .badEscape (c :: text)
    else if c.toNat < 32 then faultAt .controlCharacter (c :: text)
    else readString left fuel (c :: done) text

/-- The fraction of a number, point included, and what follows. -/
def fractionPart : Text → Text × Text
  | '.' :: c :: text =>
    if Text.isDigit c then
      ('.' :: c :: text.takeWhile Text.isDigit, text.dropWhile Text.isDigit)
    else ([], '.' :: c :: text)
  | text => ([], text)

/-- The exponent of a number, letter included, and what follows. -/
def exponentPart (text : Text) : Text × Text :=
  match text with
  | e :: rest =>
    if e == 'e' || e == 'E' then
      let (sign, digits) : Text × Text :=
        match rest with
        | '+' :: more => (['+'], more)
        | '-' :: more => (['-'], more)
        | more => ([], more)
      match digits.takeWhile Text.isDigit with
      | [] => ([], text)
      | written => (e :: sign ++ written, digits.dropWhile Text.isDigit)
    else ([], text)
  | [] => ([], [])

/-- Reads a number at the beginning of a run of characters: an integer, unless it has a fraction or
an exponent. There is none where no digit stands. -/
def readNumber? (text : Text) : Option (Except Text.NumeralError Value × Text) :=
  let (sign, unsigned) : Text × Text :=
    match text with
    | '-' :: rest => (['-'], rest)
    | rest => ([], rest)
  let whole :=
    match unsigned with
    | '0' :: _ => ['0']
    | digits => digits.takeWhile Text.isDigit
  if whole.isEmpty then none
  else
    let (fraction, rest) := fractionPart (unsigned.drop whole.length)
    let (exponent, rest) := exponentPart rest
    some (
      if fraction.isEmpty && exponent.isEmpty then (Text.readInt (sign ++ whole)).map .int
      else .ok (.float ((Decimal.read? (sign ++ whole ++ fraction ++ exponent)).getD 0)),
      rest)

/-- The words that stand for values. -/
def words : List (Text × Value) := [
  ("null".toList, .null),
  ("true".toList, .bool true),
  ("false".toList, .bool false),
  ("NaN".toList, .float (0.0 / 0.0)),
  ("Infinity".toList, .float (1.0 / 0.0)),
  ("-Infinity".toList, .float (-1.0 / 0.0))]

/-- The value of the word that a run of characters begins with, and what follows. -/
def readWord? (text : Text) : Option (Value × Text) :=
  words.findSome? fun (word, value) => (Text.after? word text).map (value, ·)

/-- Whether a character can be part of a word or of a number. -/
def isBare (c : Char) : Bool := Text.isAlphanumeric c || c == '-' || c == '+' || c == '.'

/-- The run at the beginning of a text of characters that words and numbers are made of. -/
def bareRun : List Code → Text
  | .char c :: text => if isBare c then c :: bareRun text else []
  | _ => []

/-- Reads a word or a number at the beginning of a text. -/
def readBare (text : List Code) : Except Error (Value × List Code) :=
  let run := bareRun text
  let behind (rest : Text) : List Code := text.drop (run.length - rest.length)
  match readWord? run with
  | some (value, rest) => .ok (value, behind rest)
  | none =>
    match readNumber? run with
    | some (.ok value, rest) => .ok (value, behind rest)
    | some (.error cause, _) => .error (.numeral cause)
    | none => faultAt .expectingValue text

/-! ## Values -/

mutual

/-- Reads a value at the beginning of a text. -/
def readValue : Nat → List Code → Except Error (Value × List Code)
  | 0, text => faultAt .expectingValue text
  | fuel + 1, text =>
    match text with
    | .char '"' :: rest => do
      let (s, rest) ← readString text.length (rest.length + 1) [] rest
      return (.ofCodes s, rest)
    | .char '\x7b' :: rest =>
      match skipGap rest with
      | .char '\x7d' :: rest => .ok (.dict [], rest)
      | rest => do
        let (entries, rest) ← readMembers fuel [] rest
        return (.dict entries, rest)
    | .char '[' :: rest =>
      match skipGap rest with
      | .char ']' :: rest => .ok (.list [], rest)
      | rest => do
        let (items, rest) ← readItems fuel rest
        return (.list items, rest)
    | _ => readBare text

/-- Reads the items of a list up to the closing bracket. -/
def readItems : Nat → List Code → Except Error (List Value × List Code)
  | 0, text => faultAt .expectingValue text
  | fuel + 1, text => do
    let (item, rest) ← readValue fuel text
    match skipGap rest with
    | .char ']' :: rest => return ([item], rest)
    | .char ',' :: rest =>
      let (items, rest) ← readItems fuel (skipGap rest)
      return (item :: items, rest)
    | rest => faultAt .expectingComma rest

/-- Reads the members of an object up to the closing brace, into those read before. -/
def readMembers : Nat → List (Value × Value) → List Code →
    Except Error (List (Value × Value) × List Code)
  | 0, _, text => faultAt .expectingValue text
  | fuel + 1, entries, text =>
    match text with
    | .char '"' :: rest => do
      let (key, rest) ← readString text.length (rest.length + 1) [] rest
      match skipGap rest with
      | .char ':' :: rest =>
        let (value, rest) ← readValue fuel (skipGap rest)
        let entries := Value.put (.ofCodes key) value entries
        match skipGap rest with
        | .char '\x7d' :: rest => return (entries, rest)
        | .char ',' :: rest => readMembers fuel entries (skipGap rest)
        | rest => faultAt .expectingComma rest
      | rest => faultAt .expectingColon rest
    | _ => faultAt .expectingPropertyName text

end

/-- Reads a whole JSON text. -/
def read (text : List Code) : Except Error Value := do
  let (value, rest) ← readValue (2 * text.length + 2) (skipGap text)
  match skipGap rest with
  | [] => return value
  | rest => faultAt .extraData rest

end Loremark.Json
