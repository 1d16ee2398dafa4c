import Loremark.Markdown.NamedChars

/-!
# Character references and escapes

A character can be written by its name or its number between an ampersand and a semicolon, and a
punctuation mark loses its meaning behind a backslash. In running text the two are separate
pieces, so `charRef?` reads one reference; in destinations, titles and info strings `unescape`
replaces them all at once.
-/

set_option autoImplicit false

namespace Loremark.Markdown

/-- Whether a code may be written by number: surrogates, characters that are never assigned and
most controls may not. -/
def isWritableCode (code : Nat) : Bool :=
  !((0xD800 ≤ code && code ≤ 0xDFFF) || (0xFDD0 ≤ code && code ≤ 0xFDEF) ||
    code % 0x10000 == 0xFFFF || code % 0x10000 == 0xFFFE || code ≤ 8 || code == 11 ||
    (14 ≤ code && code ≤ 31) || (0x7F ≤ code && code ≤ 0x9F) || 0x10FFFF < code)

/-- The characters that a name stands for. -/
def named? (name : Text) : Option Text := (namedChars.find? (·.1 == name)).map (·.2)

/-- The code that digits write behind the number sign of a reference: with an `x` in front in base
sixteen, else in base ten. There is at least one digit, and at most as many as given. -/
def numberedCode? (most mostHex : Nat) (text : Text) : Option Nat :=
  let read (base most : Nat) (isBaseDigit : Char → Bool) (digits : Text) : Option Nat :=
    if !digits.isEmpty && digits.length ≤ most && digits.all isBaseDigit then
      some (Text.readBase base digits)
    else none
  match text with
  | 'x' :: digits | 'X' :: digits => read 16 mostHex Text.isHexDigit digits
  | digits => read 10 most Text.isDigit digits

/-- The text up to the semicolon that ends a reference, and what follows the semicolon. -/
def referenceBody? (text : Text) : Option (Text × Text) :=
  let body := text.takeWhile Text.isAlphanumeric
  match text.drop body.length with
  | ';' :: rest => some (body, rest)
  | _ => none

/-- Reads a reference behind its ampersand: the characters it stands for, and what follows. A
number that may not be written stands for the replacement character. -/
def charRef? : Text → Option (Text × Text)
  | '#' :: text => do
    let (body, rest) ← referenceBody? text
    let code ← numberedCode? 7 6 body
    some ([if isWritableCode code then Char.ofNat code else '\ufffd'], rest)
  | text => do
    let (body, rest) ← referenceBody? text
    some (← named? body, rest)

/-- The characters that the body of a reference stands for in a destination, title or info
string. -/
def plainReference? : Text → Option Text
  | '#' :: body => do
    let code ← numberedCode? 8 8 body
    if isWritableCode code then some [Char.ofNat code] else none
  | body => named? body

/-- A reference behind its ampersand in a destination, title or info string. -/
def replaced? (text : Text) : Option (Text × Text) := do
  let (sign, text) : Text × Text :=
    match text with
    | '#' :: text => (['#'], text)
    | text => ([], text)
  let (body, rest) ← referenceBody? text
  let chars ← plainReference? (sign ++ body)
  some (chars, rest)

/-- A text in which references and escapes are replaced. `skip` characters of the text belong to
one that has been dealt with. -/
def unescapeFrom : (skip : Nat) → Text → Text
  | _, [] => []
  | skip + 1, _ :: text => unescapeFrom skip text
  | 0, '\\' :: c :: text =>
    if Text.isAsciiPunctuation c then c :: unescapeFrom 1 (c :: text)
    else '\\' :: unescapeFrom 0 (c :: text)
  | 0, '&' :: text =>
    match replaced? text with
    | some (chars, rest) => chars ++ unescapeFrom (text.length - rest.length) text
    | none => '&' :: unescapeFrom 0 text
  | 0, c :: text => c :: unescapeFrom 0 text

/-- A text in which references and escapes are replaced by the characters they stand for. -/
def unescape (text : Text) : Text := unescapeFrom 0 text

end Loremark.Markdown
