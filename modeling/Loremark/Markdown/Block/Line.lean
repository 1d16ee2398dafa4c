import Loremark.Text.Basic

/-!
# Lines

A line as the block structure sees it. Quotes and list items cut off what belongs to them at the
beginning of a line, so a line keeps the column where it begins, the column of its content, and
the number of characters in between. Tabs reach to the next multiple of four columns.
-/

set_option autoImplicit false

namespace Loremark.Markdown

/-- A line of a text or of a block inside it. -/
structure Line where
  /-- The characters of the line, from the end of the markers of the blocks around it. -/
  text : Text
  /-- The number of characters in front of the content. -/
  shift : Nat
  /-- The column of the content. A negative column marks a line that can only continue a
  paragraph. -/
  column : Int
  /-- The column where the line begins, which tabs are counted from. -/
  origin : Int
  /-- Whether the text ends with this line, without a line end. -/
  isLast : Bool
  deriving DecidableEq, Repr, Inhabited

namespace Line

/-- The line without what is in front of its content. -/
def content (line : Line) : Text := line.text.drop line.shift

/-- Whether a line has no content. -/
def isEmpty (line : Line) : Bool := line.text.length ≤ line.shift

end Line

/-- The width of a tab at a column. -/
def tabWidth (column : Int) : Int := 4 - column % 4

/-- The column after indentation that begins at a column, and the number of characters of the
indentation. `origin` is added where tabs are counted. -/
def indentation (origin : Int) : (column : Int) → Text → Int × Nat
  | column, '\t' :: text =>
    let (reached, count) := indentation origin (column + tabWidth (column + origin)) text
    (reached, count + 1)
  | column, ' ' :: text =>
    let (reached, count) := indentation origin (column + 1) text
    (reached, count + 1)
  | column, _ => (column, 0)

/-- The line with a text. -/
def Line.of (isLast : Bool) (text : Text) : Line :=
  let (column, shift) := indentation 0 0 text
  { text, shift, column, origin := 0, isLast }

/-- The lines of pieces between line ends. What follows the last line end is a line unless it is
blank. -/
def linesOf : List Text → List Line
  | [] => []
  | [text] => if text.all Text.isIndent then [] else [Line.of true text]
  | text :: texts => Line.of false text :: linesOf texts

/-- A text as Markdown reads it: line ends are single characters, and nulls are replaced. -/
def normalText (text : Text) : Text :=
  (Text.unifyNewlines text).map fun c => if c == '\x00' then '\ufffd' else c

/-- The lines of a text. -/
def lines (text : Text) : List Line := linesOf (Text.splitOn '\n' (normalText text))

/-- A text without indentation up to a width. `shift` characters count as one column each whatever
they are; a tab that reaches too far leaves spaces. -/
def cut (origin width : Int) : (column : Int) → (shift : Nat) → Text → Text
  | column, _, [] => List.replicate (column - width).toNat ' '
  | column, shift, c :: text =>
    if column < width then
      if c == '\t' then cut origin width (column + tabWidth (column + origin)) (shift - 1) text
      else if c == ' ' || 0 < shift then cut origin width (column + 1) (shift - 1) text
      else c :: text
    else List.replicate (column - width).toNat ' ' ++ c :: text

/-- Whether the text ends within the indentation of a line, before a width is reached. -/
def Line.endsWithin (width : Int) (line : Line) : Bool :=
  line.isLast && line.isEmpty && (indentation line.origin 0 line.text).1 < width

/-- A line without indentation up to a width. -/
def Line.cut (width : Int) (line : Line) : Text :=
  Markdown.cut line.origin width 0 line.shift line.text

/-- Lines without indentation up to a width, as one text without the last line end. -/
def textOf (width : Int) (lines : List Line) : Text :=
  Text.joinWith ['\n'] (lines.map (Line.cut width))

/-- Lines without indentation up to a width, each with its line end. -/
def fullText (width : Int) (lines : List Line) : Text :=
  lines.flatMap fun line => line.cut width ++ (if line.isLast then [] else ['\n'])

end Loremark.Markdown
