import Loremark.Text.Basic

/-!
# Quoted text in messages

Messages show a text between quotes on one line: single quotes, unless the text holds a single
quote and no double one. The quote in use, the backslash and every unprintable character are
written with a backslash.
-/

set_option autoImplicit false

namespace Loremark.Text

/-- The last `width` hexadecimal digits of a number, in small letters. -/
def hexPadded (width n : Nat) : Text :=
  let digits := Nat.toDigits 16 n
  List.replicate (width - digits.length) '0' ++ digits

/-- A character written by its code. -/
def codeEscape (c : Char) : Text :=
  if c.toNat < 0x100 then '\\' :: 'x' :: hexPadded 2 c.toNat
  else if c.toNat < 0x10000 then '\\' :: 'u' :: hexPadded 4 c.toNat
  else '\\' :: 'U' :: hexPadded 8 c.toNat

/-- The written form of a character between quotes. -/
def quotedChar (quote c : Char) : Text :=
  if c == quote || c == '\\' then ['\\', c]
  else if c == '\n' then ['\\', 'n']
  else if c == '\r' then ['\\', 'r']
  else if c == '\t' then ['\\', 't']
  else if isPrintable c then [c]
  else codeEscape c

/-- The quote that a text is shown between. -/
def quoteFor (text : Text) : Char :=
  if text.contains '\'' && !text.contains '"' then '"' else '\''

/-- Bytes as messages show them: those of printable ASCII as characters. -/
def quotedBytes (bytes : List UInt8) : Text :=
  let text := bytes.map fun byte => Char.ofNat byte.toNat
  let quote := quoteFor text
  let shown (c : Char) : Text := if c.toNat < 128 then quotedChar quote c else codeEscape c
  'b' :: quote :: text.flatMap shown ++ [quote]

/-- A text as messages show it. -/
def quoted (text : Text) : Text :=
  let quote := quoteFor text
  quote :: text.flatMap (quotedChar quote) ++ [quote]

end Loremark.Text
