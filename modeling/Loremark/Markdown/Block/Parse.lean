import Loremark.Markdown.Block.Continuation

/-!
# Reading blocks

A range of lines is read block by block. Quotes, containers and list items hold ranges of their
own, read the same way with less room for nesting; where no room is left, the rest of the range is
passed over. A blank line that ends the whole text cannot be looked at for a container, nor can
markup take it where the text ends within its indentation; both are the one error there is.
-/

set_option autoImplicit false

namespace Loremark.Markdown

/-- Why the blocks of a text cannot be read. -/
inductive BlockError where
  /-- A character was looked for behind a blank line at the very end of the text. -/
  | blankEnd
  deriving DecidableEq, Repr

/-- The wording of the error. -/
def BlockError.message : BlockError → Text
  | .blankEnd => "string index out of range".toList

/-- A range of lines that was read: its blocks, the lines that are left, and whether no blank
line stands between the blocks. -/
structure Range where
  blocks : List (Block Text)
  rest : List Line
  tight : Bool

/-- A way to read the range inside a block. -/
abbrev Reader := Frame → List Line → Except BlockError Range

/-- Reads a range where no room for nesting is left. -/
def passOver : Reader := fun frame lines =>
  match lines.dropWhile Line.isEmpty with
  | [] => .ok ⟨[], [], true⟩
  | line :: rest =>
    .ok ⟨[], if line.column < frame.indent then line :: rest else [], true⟩

/-- Looking for a container in a line fails if the line is blank and ends the text. -/
def checkContainer (line : Line) : Except BlockError Unit :=
  if line.isEmpty && line.isLast then .error .blankEnd else .ok ()

/-- Looking for blocks that could end another one fails if looking for a container does. -/
def checkEnd (frame : Frame) (line : Line) : Except BlockError Unit :=
  if frame.isCode line then .ok () else checkContainer line

/-- The most cells that are added to short rows of a table. -/
def addedCellLimit : Int := 65536

/-- The rows of a table, and the lines behind them. `added` cells have been added to the rows
above. -/
def tableRows (frame : Frame) (width : Nat) : (added : Int) → List Line →
    Except BlockError (List (List Text) × List Line)
  | _, [] => .ok ([], [])
  | added, line :: lines => do
    if line.column < frame.indent then return ([], line :: lines)
    checkEnd frame line
    let row := Text.unspace line.content
    let cells := cellsOf row
    let added := added + width - cells.length
    if endsQuote frame line || row.isEmpty || frame.isCode line || addedCellLimit < added then
      return ([], line :: lines)
    let (rows, rest) ← tableRows frame width added lines
    return (((cells.map Text.unspace ++ List.replicate width []).take width) :: rows, rest)

/-- Reads a table. -/
def table? (frame : Frame) (lines : List Line) :
    Except BlockError (Option (Block Text × List Line)) :=
  match tableHead? frame lines with
  | none => .ok none
  | some (header, columns) => do
    let (rows, rest) ← tableRows frame columns.length 0 (lines.drop 2)
    return some (.table columns header rows, rest)

/-- The lines of a container behind its opening one, and those behind its closing one. -/
def containerLines (frame : Frame) (count : Nat) : List Line →
    Except BlockError (List Line × List Line)
  | [] => .ok ([], [])
  | line :: lines => do
    if !line.isEmpty && line.column < frame.indent then return ([], line :: lines)
    checkContainer line
    if closesRun frame ':' count line then return ([], lines)
    let (body, rest) ← containerLines frame count lines
    return (line :: body, rest)

/-- Reads a container. -/
def readContainer (inside : Reader) (frame : Frame) (count : Nat) (info : Text)
    (lines : List Line) : Except BlockError (Block Text × List Line) := do
  let (body, rest) ← containerLines frame count lines
  let range ← inside frame body
  return (.container info range.blocks, rest)

/-- A line without its quote marker and one column of space behind it. Of a tab that is wider
than a column the rest stays. -/
def unquoted (line : Line) : Line :=
  let inner := line.content.drop 1
  let column := line.column + 1
  match inner with
  | ' ' :: text => place text (column + 1) (column + 1) 0
  | '\t' :: text =>
    if (line.origin + column) % 4 == 3 then place text (column + 1) (column + 1) 0
    else place ('\t' :: text) column (column + 1) 1
  | text => place text column column 0
where
  /-- The line of a text that begins at a column. -/
  place (text : Text) (start origin shifted : Int) : Line :=
    let (reached, shift) := indentation (line.origin + shifted) start text
    { line with text, shift, column := reached - start, origin }

/-- The lines of a quote behind its first one. `blank` tells whether the line in front has no
content. Lines without a marker go on a paragraph, and are marked as continuations. -/
def quoteLines (frame : Frame) : (blank : Bool) → List Line → List Line
  | _, [] => []
  | blank, line :: lines =>
    if line.isEmpty then []
    else if line.content.head? == some '>' && frame.indent ≤ line.column then
      let inner := unquoted line
      inner :: quoteLines frame inner.isEmpty lines
    else if blank || endsQuote frame line then []
    else { line with column := -1 } :: quoteLines frame false lines

/-- Reads a quote. -/
def readQuote (inside : Reader) (frame : Frame) (line : Line) (lines : List Line) :
    Except BlockError (Block Text × List Line) := do
  let first := unquoted line
  let quoted := first :: quoteLines frame first.isEmpty lines
  let range ← inside { frame with indent := 0 } quoted
  return (.quote range.blocks, (line :: lines).drop (quoted.length - range.rest.length))

/-- The first line of a list item without its marker, and the column of the item's content. -/
def itemLine (line : Line) (width : Nat) : Line × Int :=
  let start := line.column + width
  let text := line.content.drop width
  let (column, count) := indentation line.origin start text
  let inner := { line with shift := line.shift + width + count, column }
  let space := if inner.isEmpty || 4 < column - start then 1 else column - start
  (inner, start + space)

/-- Reads the item that begins at a line. An item without content ends with a blank line behind
it. -/
def readItem (inside : Reader) (frame : Frame) (width : Nat) (line : Line) (lines : List Line) :
    Except BlockError Range :=
  let (inner, indent) := itemLine line width
  if inner.isEmpty && (lines.head?.map Line.isEmpty).getD true then .ok ⟨[], lines.drop 1, true⟩
  else inside ⟨indent, frame.indent⟩ (inner :: lines)

/-- Whether an item that took lines of a range ends with a blank one. -/
def endsBlank (lines rest : List Line) : Bool :=
  let used := lines.length - rest.length
  1 < used && ((lines.take used).getLast?.map Line.isEmpty).getD false

/-- Reads the items of a list from one that begins with a marker on: their blocks, the lines
behind them, and whether the list is tight. `apart` tells whether a blank line ends the item in
front. -/
def readItems (inside : Reader) (frame : Frame) : (fuel : Nat) → (apart : Bool) → ListMark →
    Line → List Line → Except BlockError Range
  | 0, _, _, line, lines => .ok ⟨[], line :: lines, true⟩
  | fuel + 1, apart, mark, line, lines => do
    let item ← readItem inside frame mark.width line lines
    let tight := item.tight && !apart
    let block : Block Text := .item item.blocks
    match item.rest with
    | [] => return ⟨[block], [], tight⟩
    | next :: rest =>
      if next.column < frame.indent || frame.isCode next then return ⟨[block], next :: rest, tight⟩
      checkContainer next
      if endsList frame next then return ⟨[block], next :: rest, tight⟩
      match listMark? next with
      | none => return ⟨[block], next :: rest, tight⟩
      | some following =>
        if following.char == mark.char && following.number.isSome == mark.number.isSome then
          let apart := endsBlank (line :: lines) (next :: rest)
          let items ← readItems inside frame fuel apart following next rest
          return ⟨block :: items.blocks, items.rest, tight && items.tight⟩
        else return ⟨[block], next :: rest, tight⟩

/-- An item whose paragraphs are tight. -/
def tighten : Block Text → Block Text
  | .item children =>
    .item (children.map fun child =>
      match child with
      | .paragraph _ content => .paragraph true content
      | child => child)
  | block => block

/-- Reads a list. -/
def readList (inside : Reader) (frame : Frame) (mark : ListMark) (line : Line)
    (lines : List Line) : Except BlockError (Block Text × List Line) := do
  let range ← readItems inside frame (lines.length + 1) false mark line lines
  let items := if range.tight then range.blocks.map tighten else range.blocks
  match mark.number with
  | none => return (.bulletList items, range.rest)
  | some number =>
    return (.orderedList (if number == 1 then none else some number) items, range.rest)

/-- Reads markup of the author. Taking a line fails if the text ends within the indentation that
belongs to the block around it. -/
def readHtml? (frame : Frame) (line : Line) (lines : List Line) :
    Except BlockError (Option (Block Text × List Line)) :=
  match authorHtml? frame line lines with
  | none => .ok none
  | some (block, rest) =>
    let taken := (line :: lines).take (lines.length + 1 - rest.length)
    if taken.any (Line.endsWithin frame.indent) then .error .blankEnd else .ok (some (block, rest))

/-- Reads the block that begins at a line. `inside` reads quotes and containers, `insideItem`
list items. -/
def readBlock (inside insideItem : Reader) (frame : Frame) (line : Line) (lines : List Line) :
    Except BlockError (Block Text × List Line) := do
  if let some found ← table? frame (line :: lines) then return found
  if let some found := indentedCode? frame line lines then return found
  if let some (count, info) := container? frame line then
    return ← readContainer inside frame count info lines
  if let some found := fencedCode? frame line lines then return found
  if isQuoted frame line then return ← readQuote inside frame line lines
  if let some found := rule? frame line lines then return found
  if let some mark := list? frame line then return ← readList insideItem frame mark line lines
  if let some found := definition? frame line lines then return found
  if let some found ← readHtml? frame line lines then return found
  if let some found := plainHeading? frame line lines then return found
  if let some found := underlinedHeading? frame line lines then return found
  return paragraph frame line lines

/-- Reads a range block by block. `gap` tells whether a blank line stands behind one of the blocks
in front. -/
def readRange (inside insideItem : Reader) (frame : Frame) : (fuel : Nat) → (gap tight : Bool) →
    List Line → Except BlockError Range
  | 0, _, tight, lines => .ok ⟨[], lines, tight⟩
  | fuel + 1, gap, tight, lines =>
    match lines.dropWhile Line.isEmpty with
    | [] => .ok ⟨[], [], tight⟩
    | line :: following =>
      if line.column < frame.indent then .ok ⟨[], line :: following, tight⟩
      else do
        let (block, rest) ← readBlock inside insideItem frame line following
        let used := (line :: following).take (following.length + 1 - rest.length)
        let blankInside := (used.getLast?.map Line.isEmpty).getD false
        let blankBehind := (rest.head?.map Line.isEmpty).getD false
        let range ← readRange inside insideItem frame fuel (gap || blankInside || blankBehind)
          (!gap) (if blankBehind then rest.drop 1 else rest)
        return { range with blocks := block :: range.blocks }

/-- Reads a range with room for a number of nested blocks. A list takes room for itself and its
item. -/
def readBlocks : (room : Nat) → Reader
  | 0 => passOver
  | 1 => fun frame lines => readRange passOver passOver frame (lines.length + 1) false true lines
  | room + 2 => fun frame lines =>
    readRange (readBlocks (room + 1)) (readBlocks room) frame (lines.length + 1) false true lines

/-- The deepest nesting of blocks. -/
def blockLimit : Nat := 20

/-- Reads the blocks of a text. -/
def blocksOf (text : Text) : Except BlockError (List (Block Text)) := do
  return (← readBlocks blockLimit {} (lines text)).blocks

end Loremark.Markdown
