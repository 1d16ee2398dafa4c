import Loremark.Text.Class

/-!
# Operations on texts

Trimming, cutting, searching and joining, all on lists of characters. Every function is total
and keeps the order of the characters.
-/

set_option autoImplicit false

namespace Loremark.Text

/-- The text without its leading blanks. -/
def trimStart (text : Text) : Text := text.dropWhile isBlank

/-- The text without its trailing blanks. -/
def trimEnd (text : Text) : Text := (text.reverse.dropWhile isBlank).reverse

/-- The text without the blanks at both ends. -/
def trim (text : Text) : Text := trimEnd (trimStart text)

/-- The text without the characters of a class at both ends. -/
def strip (isOuter : Char → Bool) (text : Text) : Text :=
  ((text.dropWhile isOuter).reverse.dropWhile isOuter).reverse

/-- The text without the padding that may stand around a numeral. -/
def unpad (text : Text) : Text := strip isPadding text

/-- Running text without the spacing around it. -/
def unspace (text : Text) : Text := strip isSpacing text

/-- Whether a text holds nothing but blanks. -/
def allBlank (text : Text) : Bool := text.all isBlank

/-- What follows `start` in a text that begins with it. -/
def after? : (start text : Text) → Option Text
  | [], text => some text
  | _ :: _, [] => none
  | a :: start, c :: text => if a == c then after? start text else none

/-- What follows `word` in a text that begins with it, letters compared by `same`. The word is
written in small letters. -/
def afterWord? (same : Char → Char → Bool) : (word text : Text) → Option Text
  | [], text => some text
  | _ :: _, [] => none
  | a :: word, c :: text => if same a c then afterWord? same word text else none

/-- The text before and the text after the first place where `needle` occurs. -/
def cutAt? (needle : Text) : Text → Option (Text × Text)
  | [] => if needle.isEmpty then some ([], []) else none
  | c :: text =>
    match after? needle (c :: text) with
    | some rest => some ([], rest)
    | none => (cutAt? needle text).map fun (before, rest) => (c :: before, rest)

/-- Whether `needle` occurs in a text. -/
def occurs (needle text : Text) : Bool := (cutAt? needle text).isSome

/-- The pieces of a text between the places where `separator` stands; there is always one. -/
def splitOn (separator : Char) : Text → List Text
  | [] => [[]]
  | c :: text =>
    if c == separator then [] :: splitOn separator text
    else
      match splitOn separator text with
      | [] => [[c]]
      | piece :: pieces => (c :: piece) :: pieces

/-- The pieces joined with `separator` between them. -/
def joinWith (separator : Text) : List Text → Text
  | [] => []
  | [piece] => piece
  | piece :: pieces => piece ++ separator ++ joinWith separator pieces

/-- The words of a text: its pieces between runs of spacing. -/
def words (text : Text) : List Text :=
  (step text).filter (!·.isEmpty)
where
  /-- The pieces between single spacing characters, empty ones included. -/
  step : Text → List Text
    | [] => [[]]
    | c :: text =>
      if isSpacing c then [] :: step text
      else
        match step text with
        | [] => [[c]]
        | piece :: pieces => (c :: piece) :: pieces

/-- A text in which every run of spacing is one space, and none is left at its ends. -/
def collapse (text : Text) : Text := joinWith [' '] (words text)

/-- Every carriage return, with the line feed behind it if there is one, becomes a line feed. -/
def unifyNewlines : Text → Text
  | [] => []
  | '\r' :: '\n' :: text => '\n' :: unifyNewlines text
  | '\r' :: text => '\n' :: unifyNewlines text
  | c :: text => c :: unifyNewlines text

/-- The text without the characters `c` at its end. -/
def trimEndOf (c : Char) (text : Text) : Text := (text.reverse.dropWhile (· == c)).reverse

/-- The digits of a number in base ten. -/
def ofNat (n : Nat) : Text := Nat.toDigits 10 n

/-- The digits of an integer in base ten, with a minus sign in front of a negative one. -/
def ofInt : Int → Text
  | .ofNat n => ofNat n
  | .negSucc n => '-' :: ofNat (n + 1)

/-- The value of a digit in a base up to sixteen. -/
def hexValue (c : Char) : Nat :=
  if isDigit c then c.toNat - 48
  else if 'a' ≤ c && c ≤ 'f' then c.toNat - 87
  else if 'A' ≤ c && c ≤ 'F' then c.toNat - 55
  else 0

/-- The number that ASCII digits write in a base up to sixteen. -/
def readBase (base : Nat) (digits : Text) : Nat :=
  digits.foldl (fun value c => value * base + hexValue c) 0

end Loremark.Text
