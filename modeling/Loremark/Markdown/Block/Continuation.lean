import Loremark.Markdown.Block.Opening
import Loremark.Markdown.Inline.Bracket

/-!
# Lines that belong together

A paragraph takes the lines behind it up to a blank one or one that begins another block. Which
blocks end it differs a little between paragraphs, definitions, quotes and lists. The blocks that
consist of gathered lines are here: tables, headings with an underline, definitions of labels,
code and markup of the author.
-/

set_option autoImplicit false

namespace Loremark.Markdown

/-- Whether a line ends a list. -/
def endsList (frame : Frame) (line : Line) : Bool :=
  (container? frame line).isSome || (fence? frame line).isSome || isQuoted frame line ||
    isRule frame line

/-- Whether markup that can interrupt other blocks begins a line. -/
def htmlInterrupts (frame : Frame) (line : Line) : Bool :=
  match html? frame line with
  | some .tag | none => false
  | some _ => true

/-- Whether a line ends a quote that it does not belong to, or a table. -/
def endsQuote (frame : Frame) (line : Line) : Bool :=
  endsList frame line || (list? frame line).isSome || htmlInterrupts frame line ||
    (heading? frame line).isSome

/-- The cells of a row. A bar behind a backslash belongs to its cell. `escaped` tells whether a
backslash stands in front of the text. -/
def splitCells : (escaped : Bool) → Text → List Text
  | _, [] => [[]]
  | escaped, c :: text =>
    if c == '|' && !escaped then [] :: splitCells false text
    else
      let bars := c == '\\' && text.head? == some '|'
      match splitCells (c == '\\') text with
      | [] => [[c]]
      | cell :: cells => if bars then cell :: cells else (c :: cell) :: cells

/-- The cells of a row, without the empty ones in front of its first bar and behind its last. -/
def cellsOf (row : Text) : List Text :=
  let cells := splitCells false row
  let cells := if cells.head? == some [] then cells.drop 1 else cells
  if cells.getLast? == some [] then cells.dropLast else cells

/-- The alignment that a cell of the line below the header gives to its column. -/
def alignOf? (cell : Text) : Option Align :=
  let left := cell.head? == some ':'
  let inner := if left then cell.drop 1 else cell
  let right := inner.getLast? == some ':'
  let dashes := if right then inner.dropLast else inner
  if dashes.isEmpty || !dashes.all (· == '-') then none
  else some (if left then if right then .center else .left else if right then .right else .unset)

/-- The alignments that a line below a header gives; the first and the last cell can be empty. -/
def alignsOf? (line : Text) : Option (List Align) :=
  let cells := (Text.splitOn '|' line).map Text.unspace
  let cells := if cells.head? == some [] then cells.drop 1 else cells
  let cells := if cells.getLast? == some [] then cells.dropLast else cells
  cells.mapM alignOf?

/-- Whether a line has the form of the line below a header: bars, dashes, colons and indentation
only, at least two characters, and no indentation right behind a leading dash. -/
def isRuler (content : Text) : Bool :=
  let isMark (c : Char) : Bool := c == '|' || c == '-' || c == ':'
  match content with
  | first :: second :: rest =>
    isMark first && (isMark second || Text.isIndent second) &&
      !(first == '-' && Text.isIndent second) && rest.all fun c => isMark c || Text.isIndent c
  | _ => false

/-- The header and the alignments of the table that lines begin with. -/
def tableHead? (frame : Frame) : List Line → Option (List Text × List Align)
  | header :: ruler :: _ =>
    if ruler.column < frame.indent || frame.isCode ruler || !isRuler ruler.content ||
        frame.isCode header then none
    else do
      let aligns ← alignsOf? (Text.unspace ruler.content)
      let row := Text.unspace header.content
      let cells := cellsOf row
      if row.contains '|' && !cells.isEmpty && cells.length == aligns.length then
        some (cells.map Text.unspace, aligns)
      else none
  | _ => none

/-- Whether lines begin with a block that ends a definition. -/
def endsDefinition (frame : Frame) : List Line → Bool
  | [] => true
  | line :: lines => (tableHead? frame (line :: lines)).isSome || endsQuote frame line

/-- Whether lines begin with a block that ends a paragraph. -/
def endsParagraph (frame : Frame) : List Line → Bool
  | [] => true
  | line :: lines =>
    (tableHead? frame (line :: lines)).isSome || endsList frame line ||
      listInterrupts frame line || htmlInterrupts frame line || (heading? frame line).isSome

/-- Whether a line continues running text whatever it looks like: it is indented as far as code,
or marked as a continuation. -/
def isContinuation (frame : Frame) (line : Line) : Bool :=
  frame.isCode line || line.column < 0

/-- The lines that continue running text, and those behind them. -/
def continuation (frame : Frame) (ends : List Line → Bool) : List Line → List Line × List Line
  | [] => ([], [])
  | line :: lines =>
    if line.isEmpty || (!isContinuation frame line && ends (line :: lines)) then ([], line :: lines)
    else
      let (more, rest) := continuation frame ends lines
      (line :: more, rest)

/-- A block that was read, and the lines behind it. -/
abbrev BlockReading := Option (Block Text × List Line)

/-- The running text of lines. -/
def runningText (frame : Frame) (lines : List Line) : Text :=
  Text.unspace (textOf frame.indent lines)

/-- Reads a paragraph. -/
def paragraph (frame : Frame) (line : Line) (lines : List Line) : Block Text × List Line :=
  let (more, rest) := continuation frame (endsParagraph frame) lines
  (.paragraph false (runningText frame (line :: more)), rest)

/-- The lines up to the underline of a heading, its level, and the lines behind it. -/
def underlined? (frame : Frame) : List Line → Option (List Line × Nat × List Line)
  | [] => none
  | line :: lines =>
    let onward : Option (List Line × Nat × List Line) :=
      (underlined? frame lines).map fun (more, found) => (line :: more, found)
    if line.isEmpty then none
    else if frame.isCode line then onward
    else
      match (if frame.indent ≤ line.column then underline? line else none) with
      | some level => some ([], level, lines)
      | none =>
        if line.column < 0 || !endsParagraph frame (line :: lines) then onward else none

/-- Reads a heading with an underline. -/
def underlinedHeading? (frame : Frame) (line : Line) (lines : List Line) : BlockReading :=
  (underlined? frame lines).map fun (more, level, rest) =>
    (.heading level (runningText frame (line :: more)), rest)

/-- Reads a heading between number signs. -/
def plainHeading? (frame : Frame) (line : Line) (lines : List Line) : BlockReading :=
  (heading? frame line).map fun (level, text) => (.heading level text, lines)

/-- Reads a rule. -/
def rule? (frame : Frame) (line : Line) (lines : List Line) : BlockReading :=
  if isRule frame line then some (.rule, lines) else none

/-- The lines of indented code, and those behind them. Blank lines at the end are left behind. -/
def codeLines (frame : Frame) : List Line → List Line × List Line
  | [] => ([], [])
  | line :: lines =>
    let (more, rest) := codeLines frame lines
    if line.isEmpty then
      if more.isEmpty then ([], line :: lines) else (line :: more, rest)
    else if frame.isCode line then (line :: more, rest)
    else ([], line :: lines)

/-- Reads indented code. -/
def indentedCode? (frame : Frame) (line : Line) (lines : List Line) : BlockReading :=
  if frame.isCode line then
    let (more, rest) := codeLines frame lines
    some (.code (textOf (4 + frame.indent) (line :: more) ++ ['\n']), rest)
  else none

/-- The lines up to the one that closes a fence, and those behind it. The fence is closed at the
latest by the end of the block around it, and by a blank line that ends the whole text. -/
def fenceLines (frame : Frame) (fence : Fence) : List Line → List Line × List Line
  | [] => ([], [])
  | line :: lines =>
    if (!line.isEmpty && line.column < frame.indent) || (line.isEmpty && line.isLast) then
      ([], line :: lines)
    else if closesRun frame fence.marker fence.length line then ([], lines)
    else
      let (more, rest) := fenceLines frame fence lines
      (line :: more, rest)

/-- Reads fenced code. -/
def fencedCode? (frame : Frame) (line : Line) (lines : List Line) : BlockReading :=
  (fence? frame line).map fun fence =>
    let (body, rest) := fenceLines frame fence lines
    (.fence fence.info (fullText line.column body), rest)

/-- The lines of markup behind its first one, and those behind them. -/
def htmlLines (frame : Frame) (form : HtmlForm) : List Line → List Line × List Line
  | [] => ([], [])
  | line :: lines =>
    if !line.isEmpty && line.column < frame.indent then ([], line :: lines)
    else if form.endsIn line.content then
      if line.isEmpty then ([], line :: lines) else ([line], lines)
    else
      let (more, rest) := htmlLines frame form lines
      (line :: more, rest)

/-- Reads markup of the author. -/
def authorHtml? (frame : Frame) (line : Line) (lines : List Line) : BlockReading :=
  (html? frame line).map fun form =>
    let (more, rest) := if form.endsIn line.content then ([], lines) else htmlLines frame form lines
    (.html (fullText frame.indent (line :: more)), rest)

/-- The label at the beginning of a text, behind its bracket, and what follows the closing one. -/
def definitionLabel? : Text → Option (Text × Text)
  | [] => none
  | ']' :: text => some ([], text)
  | '[' :: _ => none
  | '\\' :: c :: text =>
    (definitionLabel? text).map fun (label, rest) => ('\\' :: c :: label, rest)
  | c :: text => (definitionLabel? text).map fun (label, rest) => (c :: label, rest)

/-- What follows a line's content, if nothing but indentation is left of the line. -/
def lineEnd? (text : Text) : Option Text :=
  match text.dropWhile Text.isIndent with
  | [] => some []
  | '\n' :: rest => some ('\n' :: rest)
  | _ => none

/-- The first line of a text with its line end, and what follows. -/
def splitLine (text : Text) : Text × Text :=
  let line := text.takeWhile (· != '\n')
  match text.drop line.length with
  | '\n' :: rest => (line ++ ['\n'], rest)
  | rest => (line, rest)

/-- Reads a destination that ends on its line, and the gap and the title behind it if they are
there: the destination, what follows it, and the title with what follows that. A destination that
takes the end of its line is followed by that end alone. -/
def definitionTarget? (text : Text) : Option (Text × Text × Option (Text × Text)) := do
  let (line, following) := splitLine text
  let (written, rest) ← destination? line
  if rest.isEmpty then
    return (written, if line.getLast? == some '\n' then '\n' :: following else following, none)
  else
    let rest := rest ++ following
    let gap := skipGap rest
    return (written, rest, if gap.length < rest.length then title? gap else none)

/-- Reads the definition of a label: its key, its target, and what follows. A title that does not
end its line is no title; the definition then ends with its destination. -/
def definitionOf? (text : Text) : Option (Text × Target × Text) :=
  match text with
  | '[' :: text =>
    match definitionLabel? text with
    | some (label, ':' :: text) => do
      let (written, rest, titled) ← definitionTarget? (skipGap text)
      let address := normalAddress written
      if !isAllowedAddress address then none
      else
        let (title, rest) ←
          match titled with
          | none => (lineEnd? rest).map fun rest => ([], rest)
          | some (title, after) =>
            match lineEnd? after with
            | some after => some (title, after)
            | none => if title.isEmpty then none else (lineEnd? rest).map fun rest => ([], rest)
        let key := labelKey label
        if key.isEmpty then none else some (key, ⟨address, title⟩, rest)
    | _ => none
  | _ => none

/-- Reads the definition of a label. It takes as many lines as its text. -/
def definition? (frame : Frame) (line : Line) (lines : List Line) : BlockReading :=
  if frame.isCode line then none
  else
    let (more, _) := continuation frame (endsDefinition frame) lines
    let text := (line :: more).flatMap fun line =>
      line.content ++ (if line.isLast then [] else ['\n'])
    (definitionOf? text).map fun (key, target, rest) =>
      let used := text.take (text.length - rest.length)
      (.definition key target, lines.drop (used.count '\n'))

end Loremark.Markdown
