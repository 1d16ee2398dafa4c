import Loremark.Yaml.Timestamp

/-!
# Types of plain scalars

A plain scalar that looks like nothing, a flag, a number or a date is one; every other plain scalar
is text. What looks like a flag or a number depends on the version of the language that a document
is written in.
-/

set_option autoImplicit false

namespace Loremark.Yaml

/-- The types of scalars. -/
inductive ScalarType where
  | null
  | bool
  | int
  | float
  | text
  | timestamp
  | binary
  /-- The key under which other mappings are merged into one. -/
  | merge
  /-- The key of the value that stands for a mapping. -/
  | value
  deriving DecidableEq, Repr, Inhabited

/-- Whether a character is a digit or an underscore. -/
def isSpacedDigit (c : Char) : Bool := Text.isDigit c || c == '_'

/-- A text without a sign in front. -/
def unsigned (text : Text) : Text :=
  match text with
  | '-' :: rest | '+' :: rest => rest
  | text => text

/-- Whether a text is an exponent; `signed` asks for a sign. -/
def isExponent (signed : Bool) (text : Text) : Bool :=
  match text with
  | e :: rest =>
    let digits := unsigned rest
    (e == 'e' || e == 'E') && !digits.isEmpty && digits.all Text.isDigit &&
      (!signed || digits.length < rest.length)
  | [] => false

/-- Whether a text is a number with a point or an exponent. -/
def isDecimal (text : Text) : Bool :=
  let whole := text.takeWhile isSpacedDigit
  let rest := text.drop whole.length
  let startsWell := whole.head?.any Text.isDigit
  match rest with
  | '.' :: fraction =>
    let tail := fraction.dropWhile isSpacedDigit
    if whole.isEmpty then
      fraction.head?.any isSpacedDigit && (tail.isEmpty || isExponent true tail)
    else startsWell && (tail.isEmpty || isExponent false tail)
  | rest => startsWell && isExponent false rest

/-- Whether a text is one of some words. -/
def isWord (words : List String) (text : Text) : Bool := words.any fun word => word.toList == text

/-- The digits of a number in base sixty behind its first part. -/
def isSixtieths (text : Text) : Bool :=
  let parts := Text.splitOn ':' text
  1 < parts.length && (parts.drop 1).all fun part =>
    match part with
    | [a] => Text.isDigit a
    | [a, b] => '0' ≤ a && a ≤ '5' && Text.isDigit b
    | _ => false

/-- Whether a text is a number in base sixty. -/
def isBaseSixty (leadingZero : Bool) (text : Text) : Bool :=
  let first := text.takeWhile (· != ':')
  isSixtieths text && first.all isSpacedDigit &&
    (first.head?.any fun c => Text.isDigit c && (leadingZero || c != '0'))

/-- Whether a text is a number with a fraction, in a version of the language. -/
def isFloat (version : Nat) (text : Text) : Bool :=
  let body := unsigned text
  isWord [".nan", ".NaN", ".NAN"] text || isWord [".inf", ".Inf", ".INF"] body ||
    (if version == 1 then
      (if text.head? == some '.' then isDecimal text
      else body.head? != some '.' && isDecimal body) ||
        (body.contains '.' &&
          isBaseSixty true (body.takeWhile (· != '.')) &&
          ((body.dropWhile (· != '.')).drop 1).all isSpacedDigit)
    else isDecimal body)

/-- Whether a text is an integer, in a version of the language. -/
def isInteger (version : Nat) (text : Text) : Bool :=
  let body := unsigned text
  let based (lead : Char) (isDigit : Char → Bool) : Bool :=
    match body with
    | '0' :: c :: digits =>
      c == lead && !digits.isEmpty && digits.all fun c => isDigit c || c == '_'
    | _ => false
  let isOctal (c : Char) : Bool := '0' ≤ c && c ≤ '7'
  let octals (digits : Text) : Bool :=
    !digits.isEmpty && digits.all fun c => isOctal c || c == '_'
  text.head? != some '_' &&
    (based 'b' (fun c => c == '0' || c == '1') || based 'x' Text.isHexDigit ||
      (if version == 1 then
        octals body || body == ['0'] ||
          ((body.head?.any fun c => Text.isDigit c && c != '0') && body.all isSpacedDigit) ||
          isBaseSixty false body
      else based 'o' isOctal || (!body.isEmpty && body.all isSpacedDigit)))

/-- Whether a text is a flag, in a version of the language. -/
def isFlag (version : Nat) (text : Text) : Bool :=
  isWord ["true", "True", "TRUE", "false", "False", "FALSE"] text ||
    (version == 1 && isWord ["y", "Y", "yes", "Yes", "YES", "n", "N", "no", "No", "NO",
      "on", "On", "ON", "off", "Off", "OFF"] text)

/-- The type of a plain scalar, in a version of the language. -/
def typeOfPlain (version : Nat) (text : Text) : ScalarType :=
  if isWord ["", "~", "null", "Null", "NULL"] text then .null
  else if isFlag version text then .bool
  else if isFloat version text then .float
  else if isInteger version text then .int
  else if text == "<<".toList then .merge
  else if text == "=".toList then .value
  else if isTimestamp text then .timestamp
  else .text

end Loremark.Yaml
