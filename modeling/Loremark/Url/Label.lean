import Loremark.Text.Lower
import Loremark.Url.HostName
import Loremark.Url.LabelTables

/-!
# Labels of international host names

Which labels a host name may have that is not plain ASCII. A label is made of small letters, marks,
decimal digits and hyphens in composed form, and must not begin or end with a hyphen or have hyphens
at its third and fourth place, or begin with a mark. A few characters more may stand where their
neighbours call for them, such as a joiner between letters that would be joined without it. Where
letters run from right to left, the label begins with one, ends with one or a number, and holds no
letter that runs the other way and no digits of two kinds.
-/

set_option autoImplicit false

namespace Loremark.Url.Label

/-- Whether a character lies in the ranges of a table. -/
def within (edges : List Nat) (c : Char) : Bool := Text.inEdges edges c.toNat

/-- Characters that a label may hold though they are no letters, marks or digits, or are capital
letters that have come first. -/
def isExempt (c : Char) : Bool :=
  c == '-' || c == '\u06fd' || c == '\u06fe' || c == '\u0f0b' ||
    (0x13A0 ≤ c.toNat && c.toNat ≤ 0x13F5)

/-- Characters that a label may hold at every place. -/
def isMember (c : Char) : Bool :=
  isExempt c ||
    (((Text.isWordChar c && c != '_') || Text.isMark c) && Text.smallChar c == [c] &&
      !within variantEdges c)

/-- The combining class of the marks that take away the vowel of a letter. -/
def vowelKillerClass : Nat := 9

/-- Whether a character in front takes its vowel away, so that a joiner may follow. -/
def followsKiller (before : Text) : Bool :=
  (before.head?.map fun c => Text.markClass c == vowelKillerClass).getD false

/-- Marks that do not keep the letters around them from being joined. -/
def isTransparent (c : Char) : Bool := Text.isNonspacing c || c.toNat == 0x1E94B

/-- The next character of a text that is not transparent lies in ranges. -/
def nextWithin (edges : List Nat) (text : Text) : Bool :=
  ((text.dropWhile isTransparent).head?.map (within edges)).getD false

/-- Whether the letters on both sides of a place would be joined. The text in front of it is given
last character first. -/
def isJoining (before after : Text) : Bool :=
  (nextWithin joinsBehindEdges before || nextWithin joinsBothEdges before) &&
    (nextWithin joinsFrontEdges after || nextWithin joinsBothEdges after)

/-- The decimal digits of Arabic. -/
def isArabicDigit (c : Char) : Bool := 0x660 ≤ c.toNat && c.toNat ≤ 0x669

/-- The decimal digits of Arabic in the form of the East. -/
def isEasternDigit (c : Char) : Bool := 0x6F0 ≤ c.toNat && c.toNat ≤ 0x6F9

/-- Whether a character may stand between what is in front of it, last character first, and what
is behind it. -/
def fits (before : Text) (c : Char) (after : Text) : Bool :=
  if isMember c then true
  else if c == '\u200c' then followsKiller before || isJoining before after
  else if c == '\u200d' then followsKiller before
  else if c == '·' then before.head? == some 'l' && after.head? == some 'l'
  else if c == '\u0375' then (after.head?.map (within greekEdges)).getD false
  else if c == '\u05f3' || c == '\u05f4' then (before.head?.map (within hebrewEdges)).getD false
  else if c == '・' then before.any (within japaneseEdges) || after.any (within japaneseEdges)
  else if isArabicDigit c then !before.any isEasternDigit && !after.any isEasternDigit
  else if isEasternDigit c then !before.any isArabicDigit && !after.any isArabicDigit
  else false

/-- Whether every character of a text may stand where it does, behind what is in front of it. -/
def allFit : (before : Text) → Text → Bool
  | _, [] => true
  | before, c :: text => fits before c text && allFit (c :: before) text

/-- The ways in which characters of a label run. -/
inductive Direction where
  | left
  | right
  /-- A digit of Arabic. -/
  | arabicNumber
  /-- Any other digit that runs along with the letters around it. -/
  | number
  /-- A mark, which runs as the character that it belongs to. -/
  | mark
  | neutral
  deriving DecidableEq, Repr

/-- The code points of the marks without a place of their own that run from left to right whatever
they belong to. -/
def leftMarks : List Nat := [0xCBF, 0xCC6, 0x11A07, 0x11A08, 0x11C3F]

/-- The way in which a character runs: `right` from right to left, `left` from left to right. -/
def direction (c : Char) : Direction :=
  let code := c.toNat
  if Text.isNonspacing c && !leftMarks.contains code then .mark
  else if Text.isDigit c || isEasternDigit c then .number
  else if isArabicDigit c || (0x10D30 ≤ code && code ≤ 0x10D39) then .arabicNumber
  else if within rightToLeftEdges c then .right
  else if within neutralEdges c then .neutral
  else .left

/-- Whether the directions in a label go together. -/
def isConsistent (label : Text) : Bool :=
  let ways := label.map direction
  let last := (ways.reverse.dropWhile (· == .mark)).head?
  !(ways.contains .right || ways.contains .arabicNumber) ||
    (ways.head? == some .right && !ways.contains .left &&
      !(ways.contains .arabicNumber && ways.contains .number) &&
      (last == some .right || last == some .arabicNumber || last == some .number))

/-- Whether a text is a label of an international host name. -/
def isValid (label : Text) : Bool :=
  !label.isEmpty && label.head? != some '-' && label.getLast? != some '-' &&
    (label.drop 2).take 2 != ['-', '-'] && !(label.head?.map Text.isMark).getD false &&
    allFit [] label && Text.composed label == label && isConsistent label

/-- Whether an ASCII label may stand in an international host name. One with the mark of encoded
labels must stand for a label. -/
def isValidAscii (label : Text) : Bool :=
  let label := label.map Text.toSmall
  match Text.after? HostName.mark label with
  | none => isValid label
  | some encoded =>
    !encoded.isEmpty && encoded.getLast? != some '-' &&
      ((HostName.decodeLabel? encoded).map isValid).getD false

end Loremark.Url.Label
