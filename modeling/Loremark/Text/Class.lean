import Loremark.Text.Tables

/-!
# Character classes

The tests on single characters that the rest of the library is written with: blanks, digits,
letters up to case, punctuation, word characters and printable characters. Where a class is
wider than ASCII, its members are those of Unicode 14.
-/

set_option autoImplicit false

namespace Loremark

/-- A text is the list of its characters; every length and every cut counts characters. -/
abbrev Text := List Char

namespace Text

/-- Blank characters: the separators of Unicode, the controls from tab to carriage return, the
four information separators and the next-line control. Zero-width spaces are not blank. -/
def isBlank (c : Char) : Bool :=
  let code := c.toNat
  (9 ≤ code && code ≤ 13) || (28 ≤ code && code ≤ 32) || code == 0x85 || code == 0xA0 ||
    code == 0x1680 || (0x2000 ≤ code && code ≤ 0x200A) || code == 0x2028 || code == 0x2029 ||
    code == 0x202F || code == 0x205F || code == 0x3000

/-- Blanks that set the words of running text apart: the separators of Unicode and the controls from
tab to carriage return, but neither the information separators nor the next-line control. -/
def isSpacing (c : Char) : Bool :=
  isBlank c && !(28 ≤ c.toNat && c.toNat ≤ 31) && c.toNat != 0x85

/-- Blanks that may stand around a numeral: all but the four information separators. -/
def isPadding (c : Char) : Bool := isBlank c && !(28 ≤ c.toNat && c.toNat ≤ 31)

/-- The two characters that indent a line. -/
def isIndent (c : Char) : Bool := c == ' ' || c == '\t'

/-- Decimal digits of ASCII. -/
def isDigit (c : Char) : Bool := '0' ≤ c && c ≤ '9'

/-- Letters of ASCII. -/
def isLetter (c : Char) : Bool := ('a' ≤ c && c ≤ 'z') || ('A' ≤ c && c ≤ 'Z')

/-- Letters and digits of ASCII. -/
def isAlphanumeric (c : Char) : Bool := isLetter c || isDigit c

/-- Hexadecimal digits of ASCII. -/
def isHexDigit (c : Char) : Bool :=
  isDigit c || ('a' ≤ c && c ≤ 'f') || ('A' ≤ c && c ≤ 'F')

/-- The punctuation marks of ASCII. -/
def isAsciiPunctuation (c : Char) : Bool :=
  let code := c.toNat
  (0x21 ≤ code && code ≤ 0x2F) || (0x3A ≤ code && code ≤ 0x40) ||
    (0x5B ≤ code && code ≤ 0x60) || (0x7B ≤ code && code ≤ 0x7E)

/-- Punctuation and symbols of every script. -/
def isPunctuation (c : Char) : Bool :=
  if c.toNat < 128 then isAsciiPunctuation c else inEdges punctuationEdges c.toNat

/-- Word characters: letters and numbers of every script, and the underscore. -/
def isWordChar (c : Char) : Bool :=
  if c.toNat < 128 then isAlphanumeric c || c == '_' else inEdges wordEdges c.toNat

/-- Characters that a quoted text shows as they are. -/
def isPrintable (c : Char) : Bool :=
  if c.toNat < 128 then 32 ≤ c.toNat && c.toNat < 127 else !inEdges unprintableEdges c.toNat

/-- The code points of the digit zero in every script that has decimal digits. The other nine
digits of the script follow each. -/
def zeroDigits : List Nat := [
  48, 1632, 1776, 1984, 2406, 2534, 2662, 2790, 2918, 3046, 3174, 3302, 3430, 3558, 3664, 3792,
  3872, 4160, 4240, 6112, 6160, 6470, 6608, 6784, 6800, 6992, 7088, 7232, 7248, 42528, 43216,
  43264, 43472, 43504, 43600, 44016, 65296, 66720, 68912, 69734, 69872, 69942, 70096, 70384,
  70736, 70864, 71248, 71360, 71472, 71904, 72016, 72784, 73040, 73120, 92768, 92864, 93008,
  120782, 120792, 120802, 120812, 120822, 123200, 123632, 125264, 130032]

/-- The value of a decimal digit of any script. -/
def digitValue? (c : Char) : Option Nat :=
  (zeroDigits.find? fun first => first ≤ c.toNat && c.toNat < first + 10).map (c.toNat - ·)

/-- Decimal digits of every script. -/
def isDecimal (c : Char) : Bool := (digitValue? c).isSome

/-- The small letter of an ASCII capital; every other character itself. -/
def toSmall (c : Char) : Char :=
  if 'A' ≤ c && c ≤ 'Z' then Char.ofNat (c.toNat + 32) else c

/-- Whether `c` is the small ASCII letter `letter` or its capital. -/
def isCaseOf (letter c : Char) : Bool := toSmall c == letter

/-- Whether `c` is the small ASCII letter `letter` up to case. Besides the capital, case folding
brings the long s to `s`, the dotless and the dotted capital i to `i`, and the Kelvin sign to
`k`. -/
def sameLetter (letter c : Char) : Bool :=
  toSmall c == letter || (letter == 's' && c == 'ſ') ||
    (letter == 'i' && (c == 'ı' || c == 'İ')) || (letter == 'k' && c == '\u212a')

end Text

end Loremark
