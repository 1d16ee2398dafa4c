import Loremark.Value

/-!
# Writing JSON

Values as JSON texts on one line, with a space after every comma and colon. Characters outside
ASCII are written as escapes, those beyond the first plane as pairs of halves.
-/

set_option autoImplicit false

namespace Loremark.Json

/-- A code below 65536 as an escape. -/
def unitEscape (code : Nat) : Text := '\\' :: 'u' :: Text.hexPadded 4 code

/-- The written form of a character inside a string. -/
def writtenChar (c : Char) : Text :=
  if c == '"' then ['\\', '"']
  else if c == '\\' then ['\\', '\\']
  else if c == '\n' then ['\\', 'n']
  else if c == '\r' then ['\\', 'r']
  else if c == '\t' then ['\\', 't']
  else if c == '\x0c' then ['\\', 'f']
  else if c == '\x08' then ['\\', 'b']
  else
    let code := c.toNat
    if 32 ≤ code && code < 127 then [c]
    else if code < 0x10000 then unitEscape code
    else
      unitEscape (0xD800 + (code - 0x10000) / 0x400) ++
        unitEscape (0xDC00 + (code - 0x10000) % 0x400)

/-- A text as a JSON string. -/
def writtenText (s : Text) : Text := '"' :: s.flatMap writtenChar ++ ['"']

/-- A text with halves of pairs as a JSON string. -/
def writtenCodes (codes : List Text.Code) : Text :=
  '"' :: Text.Code.withEscapes writtenChar codes ++ ['"']

/-- A floating-point number as JSON. -/
def writtenFloat (x : Float) : Text :=
  if x.isNaN then "NaN".toList
  else if x.isInf then (if x < 0 then "-Infinity".toList else "Infinity".toList)
  else Decimal.shown x

/-- The name of a dictionary entry in JSON. -/
def writtenKey : Value → Text
  | .text s => writtenText s
  | .halved codes => writtenCodes codes
  | .null => writtenText "null".toList
  | .bool true => writtenText "true".toList
  | .bool false => writtenText "false".toList
  | key => writtenText key.plain

mutual

/-- A value as a JSON text. -/
def written : Value → Text
  | .null => "null".toList
  | .bool true => "true".toList
  | .bool false => "false".toList
  | .int n => Text.ofInt n
  | .float x => writtenFloat x
  | .text s => writtenText s
  | .halved codes => writtenCodes codes
  | .date year month day => writtenText (Value.date year month day).plain
  | .moment year month day hour minute second micros =>
    writtenText (Value.moment year month day hour minute second micros).plain
  | .bytes content => writtenText (Text.quotedBytes content)
  | .list items | .tuple items | .set items =>
    '[' :: Text.joinWith ", ".toList (writtenItems items) ++ [']']
  | .dict entries | .ordered entries =>
    '\x7b' :: Text.joinWith ", ".toList (writtenEntries entries) ++ ['\x7d']

/-- The items of a list as JSON texts. -/
def writtenItems : List Value → List Text
  | [] => []
  | item :: items => written item :: writtenItems items

/-- The members of an object as JSON texts. -/
def writtenEntries : List (Value × Value) → List Text
  | [] => []
  | (key, value) :: entries =>
    (writtenKey key ++ ": ".toList ++ written value) :: writtenEntries entries

end

end Loremark.Json
