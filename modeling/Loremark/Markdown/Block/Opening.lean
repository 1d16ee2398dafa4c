import Loremark.Markdown.Block.Line
import Loremark.Markdown.Block.Basic
import Loremark.Markdown.Tag

/-!
# How blocks begin

The tests on single lines that tell which block begins there: code fences, spoiler containers,
quotes, rules, headings, list items and markup of the author. What is indented by four columns or
more begins none of them.
-/

set_option autoImplicit false

namespace Loremark.Markdown

/-- The block around some lines: the column where its content begins, and that of the list around
it, negative if there is none. -/
structure Frame where
  indent : Int := 0
  list : Int := -1
  deriving DecidableEq, Repr, Inhabited

/-- Whether a line is indented as far as code. -/
def Frame.isCode (frame : Frame) (line : Line) : Bool := 4 ≤ line.column - frame.indent

/-- The length of the run of a character at the beginning of a text, and what follows. -/
def runOf (c : Char) (text : Text) : Nat × Text :=
  ((text.takeWhile (· == c)).length, text.dropWhile (· == c))

/-- Whether nothing but indentation is left. -/
def isGap (text : Text) : Bool := text.all Text.isIndent

/-- The opening line of fenced code. -/
structure Fence where
  marker : Char
  length : Nat
  info : Text
  deriving DecidableEq, Repr

/-- The code fence that a line opens. Behind backticks no further backtick may follow. -/
def fence? (frame : Frame) (line : Line) : Option Fence :=
  if frame.isCode line then none
  else
    match line.content with
    | [] => none
    | marker :: text =>
      let (length, info) := runOf marker (marker :: text)
      if (marker == '~' || (marker == '\x60' && !info.contains '\x60')) && 3 ≤ length then
        some ⟨marker, length, info⟩
      else none

/-- Whether a line closes a run of `length` characters `marker` with one that is at least as
long. -/
def closesRun (frame : Frame) (marker : Char) (length : Nat) (line : Line) : Bool :=
  let (count, rest) := runOf marker line.content
  !frame.isCode line && 0 < count && length ≤ count && isGap rest

/-- The name of containers. -/
def containerName : Text := "spoiler".toList

/-- The number of colons and the info of the container that a line opens. -/
def container? (frame : Frame) (line : Line) : Option (Nat × Text) :=
  let (count, info) := runOf ':' line.content
  if !frame.isCode line && 3 ≤ count &&
      (Text.splitOn ' ' (Text.trim info)).head? == some containerName then
    some (count, info)
  else none

/-- Whether a line begins with a quote marker. -/
def isQuoted (frame : Frame) (line : Line) : Bool :=
  !frame.isCode line && line.content.head? == some '>'

/-- Whether a line is a rule: three or more marks of one kind with nothing but indentation between
them. -/
def isRule (frame : Frame) (line : Line) : Bool :=
  match line.content with
  | [] => false
  | marker :: text =>
    !frame.isCode line && (marker == '*' || marker == '-' || marker == '_') &&
      text.all (fun c => c == marker || Text.isIndent c) && 2 ≤ text.count marker

/-- The text without indentation at its end. -/
def trimGapEnd (text : Text) : Text := (text.reverse.dropWhile Text.isIndent).reverse

/-- The text of a heading without the number signs that close it. -/
def headingText (text : Text) : Text :=
  let text := trimGapEnd text
  let body := Text.trimEndOf '#' text
  Text.unspace (if (body.getLast?.map Text.isIndent).getD false then body else text)

/-- The level and the text of the heading that a line is. -/
def heading? (frame : Frame) (line : Line) : Option (Nat × Text) :=
  let (level, text) := runOf '#' line.content
  if !frame.isCode line && 1 ≤ level && level ≤ 6 &&
      (text.head?.map Text.isIndent).getD true then
    some (level, headingText text)
  else none

/-- The level of the heading that a line underlines. -/
def underline? (line : Line) : Option Nat :=
  match line.content with
  | [] => none
  | marker :: text =>
    if (marker == '=' || marker == '-') && isGap (text.dropWhile (· == marker)) then
      some (if marker == '=' then 1 else 2)
    else none

/-- The marker of a list item: the number of a numbered one, the character that ends it, and its
length. -/
structure ListMark where
  number : Option Nat
  char : Char
  width : Nat
  deriving DecidableEq, Repr

/-- Whether indentation or nothing follows a marker. -/
def endsMark (text : Text) : Bool := (text.head?.map Text.isIndent).getD true

/-- The marker that a line begins with. A number has at most nine digits. -/
def listMark? (line : Line) : Option ListMark :=
  match line.content with
  | [] => none
  | c :: text =>
    if c == '*' || c == '-' || c == '+' then
      if endsMark text then some ⟨none, c, 1⟩ else none
    else
      let digits := (c :: text).takeWhile Text.isDigit
      match (c :: text).drop digits.length with
      | mark :: rest =>
        if !digits.isEmpty && digits.length ≤ 9 && (mark == ')' || mark == '.') &&
            endsMark rest then
          some ⟨some (Text.readBase 10 digits), mark, digits.length + 1⟩
        else none
      | [] => none

/-- The marker of the list that a line begins. What is nested too deeply below an outer list, but
not inside the item, begins none. -/
def list? (frame : Frame) (line : Line) : Option ListMark :=
  if frame.isCode line ||
      (0 ≤ frame.list && 4 ≤ line.column - frame.list && line.column < frame.indent) then none
  else listMark? line

/-- Whether a line begins a list that can interrupt a paragraph: its first item has content, and
its first number is one. -/
def listInterrupts (frame : Frame) (line : Line) : Bool :=
  match list? frame line with
  | none => false
  | some mark =>
    line.column < frame.indent ||
      ((mark.number.getD 1 == 1) && !isGap (line.content.drop mark.width))

/-- The ways in which markup of the author can begin, which differ in how it ends. -/
inductive HtmlForm where
  /-- An element whose content is not markup; ends with the closing tag of one. -/
  | verbatim
  | comment
  | processing
  | declaration
  | data
  /-- A block element; ends in front of a blank line. -/
  | block
  /-- Any other tag that has the line for itself; ends in front of a blank line. -/
  | tag
  deriving DecidableEq, Repr

/-- The elements whose content is not markup. -/
def verbatimNames : List Text :=
  ["script".toList, "pre".toList, "style".toList, "textarea".toList]

/-- The block elements. -/
def blockNames : List Text :=
  Text.words
    ("address article aside base basefont blockquote body caption center col colgroup dd " ++
      "details dialog dir div dl dt fieldset figcaption figure footer form frame frameset h1 h2 " ++
      "h3 h4 h5 h6 head header hr html iframe legend li link main menu menuitem nav noframes ol " ++
      "optgroup option p param search section summary table tbody td tfoot th thead title tr " ++
      "track ul").toList

/-- Whether the name of a verbatim element begins a text and ends there. -/
def isVerbatimStart (text : Text) : Bool :=
  verbatimNames.any fun name =>
    match Text.afterWord? Text.isCaseOf name text with
    | some [] => true
    | some (c :: _) => Text.isSpacing c || c == '>'
    | none => false

/-- Whether the name of a block element begins a text and ends there. -/
def isBlockStart (text : Text) : Bool :=
  blockNames.any fun name =>
    match Text.afterWord? Text.isCaseOf name text with
    | some [] => true
    | some ('/' :: '>' :: _) => true
    | some (c :: _) => Text.isSpacing c || c == '>'
    | none => false

/-- The way in which markup begins a text. -/
def htmlForm? (text : Text) : Option HtmlForm :=
  match text with
  | '<' :: rest =>
    let name := match rest with | '/' :: name => name | name => name
    if isVerbatimStart rest then some .verbatim
    else if (Text.after? "!--".toList rest).isSome then some .comment
    else if rest.head? == some '?' then some .processing
    else if rest.head? == some '!' && ((rest.drop 1).head?.map Text.isLetter).getD false then
      some .declaration
    else if (Text.after? "![CDATA[".toList rest).isSome then some .data
    else if isBlockStart name then some .block
    else if isLoneTag text then some .tag
    else none
  | _ => none

/-- Whether the closing tag of a verbatim element stands in a text. -/
def closesVerbatim : Text → Bool
  | [] => false
  | c :: text =>
    (verbatimNames.any fun name =>
      (Text.afterWord? Text.isCaseOf ('<' :: '/' :: name ++ ['>']) (c :: text)).isSome) ||
      closesVerbatim text

/-- Whether markup of a form ends in a line with some content. -/
def HtmlForm.endsIn (text : Text) : HtmlForm → Bool
  | verbatim => closesVerbatim text
  | comment => Text.occurs "-->".toList text
  | processing => Text.occurs "?>".toList text
  | declaration => text.contains '>'
  | data => Text.occurs "]]>".toList text
  | block | tag => text.isEmpty

/-- The form of the markup that a line begins. -/
def html? (frame : Frame) (line : Line) : Option HtmlForm :=
  if frame.isCode line then none else htmlForm? line.content

end Loremark.Markdown
