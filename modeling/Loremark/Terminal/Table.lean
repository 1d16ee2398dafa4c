import Loremark.Terminal.Wrap

/-!
# Tables

A table has a title, columns with headings, and rows of cells, drawn in a frame. A column is as wide
as the widest line in it, with a blank on either side. Where there is not enough room for all of
them, the widest columns give way until the table fits.
-/

set_option autoImplicit false

namespace Loremark.Terminal

/-- A column of a table. -/
structure Column where
  heading : Text
  alignment : Alignment := .left
  deriving DecidableEq, Repr, Inhabited

/-- A table. Every row has a cell for each column. -/
structure Table where
  title : Text
  columns : List Column
  rows : List (List Text)
  deriving Inhabited

/-- Whether a character ends a line as far as its width is concerned. -/
def endsLine (c : Char) : Bool :=
  c == '\n' || (0x1C ≤ c.toNat && c.toNat ≤ 0x1E) || c == '\x85' || c == '\u2028' || c == '\u2029'

/-- The columns of the widest line of a text. -/
def widestLine (text : Text) : Nat :=
  (Text.splitOn '\n' (text.map fun c => if endsLine c then '\n' else c)).foldl
    (fun widest line => max widest (cells line)) 0

/-- The room for the blanks beside a cell. -/
def padding : Nat := 2

/-- The width that a column asks for, given the texts in it, up to a limit. -/
def widthOf (limit : Nat) (texts : List Text) : Nat :=
  texts.foldl (fun width text => max width (min limit (widestLine text + padding))) 0

/-- The columns that widths take together. -/
def totalWidth (widths : List Nat) : Nat := widths.foldl (· + ·) 0

/-- A quotient to the nearest number; a half goes to the even one. -/
def roundDiv (n d : Nat) : Nat :=
  let quotient := n / d
  if 2 * (n % d) < d then quotient
  else if d < 2 * (n % d) then quotient + 1
  else quotient + quotient % 2

/-- Takes an excess away from the widths that are the widest, each giving no more than `most`. -/
def reduceWidest (widest most : Nat) : (excess count : Nat) → List Nat → List Nat
  | _, _, [] => []
  | excess, count, width :: widths =>
    if width == widest then
      let share := min most (roundDiv excess count)
      (width - share) :: reduceWidest widest most (excess - share) (count - 1) widths
    else width :: reduceWidest widest most excess count widths

/-- Narrows the widest widths, down to the next widest ones, until all fit into a limit. `fuel`
bounds the number of times that this is done. -/
def narrow (limit : Nat) : (fuel : Nat) → List Nat → List Nat
  | 0, widths => widths
  | fuel + 1, widths =>
    if totalWidth widths ≤ limit then widths
    else
      let excess := totalWidth widths - limit
      let widest := widths.foldl max 0
      let next := (widths.filter (· != widest)).foldl max 0
      narrow limit fuel
        (reduceWidest widest (min excess (widest - next)) excess (widths.count widest) widths)

namespace Table

/-- The texts of each column, its heading first. -/
def columnTexts (t : Table) : List (List Text) :=
  t.columns.zipIdx.map fun (column, index) =>
    column.heading :: t.rows.map fun row => row.getD index []

/-- The widths of the columns, with the blanks beside their cells, in so many columns of a
terminal. -/
def widths (room : Nat) (t : Table) : List Nat :=
  let texts := t.columnTexts
  let limit := room - (t.columns.length + 1)
  let asked := texts.map fun texts => max 1 (widthOf limit texts)
  if totalWidth asked ≤ limit then asked
  else
    (narrow limit (totalWidth asked) asked).zip texts |>.map fun (width, texts) => widthOf width texts

/-- The signs that a line of the frame is drawn with. -/
structure Edge where
  first : Char
  line : Char
  between : Char
  last : Char

/-- A line of the frame. -/
def Edge.draw (edge : Edge) (widths : List Nat) : Text :=
  edge.first :: Text.joinWith [edge.between] (widths.map fun width =>
    List.replicate width edge.line) ++ [edge.last]

/-- The lines of a cell, with a blank on either side. -/
def cellLines (width : Nat) (alignment : Alignment) (text : Text) : List Text :=
  (wrap (width - padding) alignment .ellipsis text).map fun line =>
    ' ' :: padEnd (width - padding) line ++ [' ']

/-- The lines of a cell with empty ones added up to a height, at the bottom or at the top. -/
def fill (height width : Nat) (atTop : Bool) (lines : List Text) : List Text :=
  let empty := List.replicate (height - lines.length) (blanks width)
  if atTop then empty ++ lines else lines ++ empty

/-- The lines of a row. Headings stand at its bottom, other cells at its top. -/
def rowLines (wall : Char) (heading : Bool) (widths : List Nat) (columns : List Column)
    (row : List Text) : List Text :=
  let rendered := (widths.zip (columns.zip row)).map fun (width, column, text) =>
    (width, cellLines width column.alignment text)
  let height := rendered.foldl (fun height (_, lines) => max height lines.length) 1
  let filled := rendered.map fun (width, lines) => fill height width heading lines
  (List.range height).map fun index =>
    wall :: Text.joinWith [wall] (filled.map fun lines => lines.getD index []) ++ [wall]

/-- The lines of a table in so many columns of a terminal. The title stands in the middle of the
width of the table. -/
def lines (room : Nat) (t : Table) : List Text :=
  let widths := t.widths room
  wrap (totalWidth widths + widths.length + 1) .center .fold t.title ++
    Edge.draw ⟨'┏', '━', '┳', '┓'⟩ widths ::
    rowLines '┃' true widths t.columns (t.columns.map Column.heading) ++
    Edge.draw ⟨'┡', '━', '╇', '┩'⟩ widths ::
    t.rows.flatMap (rowLines '│' false widths t.columns) ++
    [Edge.draw ⟨'└', '─', '┴', '┘'⟩ widths]

end Table

end Loremark.Terminal
