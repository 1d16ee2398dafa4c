import Loremark.Html.Markup
import Loremark.Markdown.Block.Basic
import Loremark.Markdown.CharRef

/-!
# Plain output

Code, rules, tables and markup of the author are written without regard to embeds and spoilers.
Texts and attribute values have their marks and double quotes escaped; markup of the author is
shown as text.
-/

set_option autoImplicit false

namespace Loremark.Markdown

open Html

/-- The element of a span. -/
def SpanKind.tag : SpanKind → Tag
  | emphasis => .em
  | strong => .strong
  | strikethrough => .s

/-- An attribute of plain output. -/
def plainAttribute (name : String) (value : Text) : Attribute := ⟨name, value, .double⟩

/-- The title of a target as an attribute, if it has one. -/
def titleAttribute (target : Target) : List Attribute :=
  if target.title.isEmpty then [] else [plainAttribute "title" target.title]

mutual

/-- A piece of running text in plain output. -/
def plainInline : Inline → Fragment
  | .text value => [.text .double value]
  | .code content => [.element .code [] [.text .double content]]
  | .html content => [.running content]
  | .softBreak => [.newline]
  | .hardBreak => [.void .br [] true, .newline]
  | .span kind children => [.element kind.tag [] (plainInlines children)]
  | .link target children =>
    [.element .a (plainAttribute "href" target.address :: titleAttribute target)
      (plainInlines children)]
  | .image target _ alt =>
    [.void .img (plainAttribute "src" target.address :: plainAttribute "alt" alt ::
      titleAttribute target) true]

/-- Running text in plain output. -/
def plainInlines : List Inline → Fragment
  | [] => []
  | piece :: pieces => plainInline piece ++ plainInlines pieces

end

/-- Code in plain output; the language is the first word of the info string. -/
def plainCode (info content : Text) : Fragment :=
  let attrs :=
    match Text.words (unescape info) with
    | [] => []
    | language :: _ => [plainAttribute "class" ("language-".toList ++ language)]
  line .pre [] [.element .code attrs [.text .double content]]

/-- The alignment of a column as an attribute of its cells. -/
def Align.attribute : Align → List Attribute
  | unset => []
  | left => [fixed "style" "text-align:left"]
  | center => [fixed "style" "text-align:center"]
  | right => [fixed "style" "text-align:right"]

/-- A row of a table in plain output. -/
def plainRow (cell : Tag) (columns : List Align) (cells : List (List Inline)) : Fragment :=
  block .tr [] ((columns.zip cells).flatMap fun (align, content) =>
    line cell align.attribute (plainInlines content))

/-- A table in plain output. -/
def plainTable (columns : List Align) (header : List (List Inline))
    (rows : List (List (List Inline))) : Fragment :=
  block .table [] (block .thead [] (plainRow .th columns header) ++
    if rows.isEmpty then [] else block .tbody [] (rows.flatMap (plainRow .td columns)))

/-- Markup of the author, shown as a paragraph of text. -/
def plainHtml (content : Text) : Fragment :=
  line .p [] [.running (Text.trimEndOf '\n' content)]

/-- A block in plain output, for the blocks that have one. -/
def plainBlock : Block (List Inline) → Fragment
  | .code content => line .pre [] [.element .code [] [.text .double content]]
  | .fence info content => plainCode info content
  | .html content => plainHtml content
  | .rule => [.void .hr [] true, .newline]
  | .table columns header rows => plainTable columns header rows
  | _ => []

end Loremark.Markdown
