import Loremark.Terminal.Cells

/-!
# Lines of a width

A text is broken into lines between words where it can be. A word that is wider than a line is cut,
or left as it is and its end dropped, as the columns of a table ask for. Blanks between words stay
at the end of a line as far as there is room for them.
-/

set_option autoImplicit false

namespace Loremark.Terminal

/-- What becomes of a word that is wider than a line. -/
inductive Overflow where
  /-- It goes on in the next line. -/
  | fold
  /-- Its end gives way to a mark of omission. -/
  | ellipsis
  deriving DecidableEq, Repr, Inhabited

/-- Where in its width a line stands. -/
inductive Alignment where
  /-- At the beginning, and the rest is left open. -/
  | plain
  | left
  | center
  | right
  deriving DecidableEq, Repr, Inhabited

/-- Cuts off blanks, then the characters up to the next blanks, then those blanks: the first word
of a text with the blanks around it, and the rest. -/
def splitWord (text : Text) : Text × Text :=
  let gap := text.takeWhile Text.isBlank
  let behindGap := text.dropWhile Text.isBlank
  let word := behindGap.takeWhile (!Text.isBlank ·)
  let behindWord := behindGap.dropWhile (!Text.isBlank ·)
  (gap ++ word ++ behindWord.takeWhile Text.isBlank, behindWord.dropWhile Text.isBlank)

/-- The words of a text, each with the blanks behind it, the first one also with those before
it. A text without words is one word. `fuel` bounds the number of words. -/
def wordsWithBlanks : (fuel : Nat) → Text → List Text
  | 0, text => [text]
  | fuel + 1, text =>
    match splitWord text with
    | (word, []) => [word]
    | (word, rest) => word :: wordsWithBlanks fuel rest

/-- A text that is being broken into lines: the finished lines, last first, the line at its end,
and the columns taken up there. -/
structure Breaking where
  finished : List Text := []
  line : Text := []
  column : Nat := 0
  deriving Inhabited

/-- Adds a word to the line. -/
def Breaking.append (b : Breaking) (word : Text) : Breaking :=
  { b with line := b.line ++ word, column := b.column + cells word }

/-- Begins a line with a word, unless it is the first word of all. -/
def Breaking.begin (b : Breaking) (word : Text) : Breaking :=
  if b.line.isEmpty then { b with line := word, column := cells word }
  else ⟨b.line :: b.finished, word, cells word⟩

/-- Adds a word where there is room for it. -/
def Breaking.add (width : Nat) (overflow : Overflow) (b : Breaking) (word : Text) : Breaking :=
  let size := cells (Text.trimEnd word)
  if b.column + size ≤ width then b.append word
  else if width < size && overflow == .fold then (chop width 0 word).foldl Breaking.begin b
  else b.begin word

/-- The lines of a text without line breaks. -/
def breakLine (width : Nat) (overflow : Overflow) (text : Text) : List Text :=
  let b := (wordsWithBlanks text.length text).foldl (Breaking.add width overflow) {}
  (b.line :: b.finished).reverse

/-- The distance between the columns that tabs lead to. -/
def tabSize : Nat := 8

/-- A text with blanks in place of its tabs, behind a number of columns. -/
def expandTabs (column : Nat) : Text → Text
  | [] => []
  | '\t' :: text =>
    let size := tabSize - column % tabSize
    blanks size ++ expandTabs (column + size) text
  | c :: text => c :: expandTabs (column + charCells c) text

/-- A line without blanks at its end that lie beyond the width. -/
def trimBeyond (width : Nat) (line : Text) : Text :=
  let blank := (line.reverse.takeWhile Text.isBlank).length
  line.take (line.length - min blank (line.length - width))

/-- A line that is no wider than the width. -/
def truncate (width : Nat) (overflow : Overflow) (line : Text) : Text :=
  if cells line ≤ width then line
  else
    match overflow with
    | .fold => cropTo width line
    | .ellipsis => cropTo (width - 1) line ++ ['…']

/-- A line that stands where it is to stand in the width. -/
def align (width : Nat) (overflow : Overflow) (alignment : Alignment) (line : Text) : Text :=
  match alignment with
  | .plain => truncate width overflow line
  | .left => padEnd width (truncate width overflow line)
  | .center =>
    let line := truncate width overflow (Text.trimEnd line)
    padEnd width (blanks ((width - cells line) / 2) ++ line)
  | .right => padStart width (truncate width overflow (Text.trimEnd line))

/-- The lines of a text in a width. -/
def wrap (width : Nat) (alignment : Alignment) (overflow : Overflow) (text : Text) :
    List Text :=
  (Text.splitOn '\n' text).flatMap fun line =>
    (breakLine width overflow (expandTabs 0 line)).map fun line =>
      align width overflow alignment (trimBeyond width line)

end Loremark.Terminal
