import Loremark.Text.Basic

/-!
# Places in a YAML text

A cursor is a place in a text: what is left to read, and the line, the column and the number of
characters read so far.
-/

set_option autoImplicit false

namespace Loremark.Yaml

/-- Why a text is not read: it is malformed, or a value in it cannot be made, for a reason that is
told. -/
inductive Error where
  | malformed
  | value (message : Text)
  deriving DecidableEq, Repr, Inhabited

/-- A place in a text. -/
structure Cursor where
  rest : Text
  index : Nat := 0
  line : Nat := 0
  column : Nat := 0
  deriving DecidableEq, Repr, Inhabited

/-- Whether a character breaks a line. -/
def isBreak (c : Char) : Bool := c == '\n' || c == '\x85' || c == '\u2028' || c == '\u2029'

/-- Whether a character ends a line. -/
def isLineEnd (c : Char) : Bool := c == '\n' || c == '\x85'

/-- Whether a character ends a word. -/
def isGap (c : Char) : Bool := isLineEnd c || c == ' ' || c == '\t'

/-- Whether a text may hold a character. -/
def isAllowed (c : Char) : Bool :=
  let code := c.toNat
  c == '\t' || c == '\n' || (0x20 ≤ code && code ≤ 0x7E) || code == 0x85 ||
    (0xA0 ≤ code && code ≤ 0xFFFD) || 0x10000 ≤ code

namespace Cursor

/-- The character a number of places ahead. -/
def peek? (c : Cursor) (ahead : Nat) : Option Char := c.rest[ahead]?

/-- Whether a test holds of the character a number of places ahead; `atEnd` is the answer behind
the end of the text. -/
def test (c : Cursor) (ahead : Nat) (atEnd : Bool) (p : Char → Bool) : Bool :=
  match c.peek? ahead with
  | none => atEnd
  | some char => p char

/-- Whether a word ends a number of places ahead. -/
def gapAt (c : Cursor) (ahead : Nat) : Bool := c.test ahead true isGap

/-- Whether the text or a line ends here. -/
def atLineEnd (c : Cursor) : Bool := c.test 0 true isBreak

/-- Whether a given character stands here. -/
def stands (c : Cursor) (char : Char) : Bool := c.test 0 false (· == char)

/-- The place behind a character. -/
def next (c : Cursor) : Cursor :=
  match c.rest with
  | [] => c
  | char :: rest =>
    if isBreak char then ⟨rest, c.index + 1, c.line + 1, 0⟩
    else ⟨rest, c.index + 1, c.line, if char == '\ufeff' then c.column else c.column + 1⟩

/-- The place behind a number of characters. -/
def advance (c : Cursor) : Nat → Cursor
  | 0 => c
  | count + 1 => c.next.advance count

/-- The characters from here on that pass a test, and the place behind them. -/
def takeWhile (c : Cursor) (p : Char → Bool) : Text × Cursor :=
  let taken := c.rest.takeWhile p
  (taken, c.advance taken.length)

/-- The place behind the characters that pass a test. -/
def skipWhile (c : Cursor) (p : Char → Bool) : Cursor := (c.takeWhile p).2

/-- The line break that stands here as it counts in a scalar, and the place behind it. -/
def lineBreak (c : Cursor) : Text × Cursor :=
  match c.rest with
  | char :: _ =>
    if isLineEnd char then (['\n'], c.next) else if isBreak char then ([char], c.next) else ([], c)
  | [] => ([], c)

/-- Whether three given characters stand here as a word of their own. -/
def atMark (c : Cursor) (mark : Text) : Bool := c.rest.take 3 == mark && c.gapAt 3

/-- Whether a mark that separates documents stands here, wherever in the line that is. -/
def atSeparator (c : Cursor) : Bool := c.atMark "---".toList || c.atMark "...".toList

/-- Whether a document ends or begins here. -/
def atDocumentMark (c : Cursor) : Bool := c.column == 0 && c.atSeparator

end Cursor

end Loremark.Yaml
