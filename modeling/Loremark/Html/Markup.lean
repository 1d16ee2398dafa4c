import Loremark.Text.Escape

/-!
# Markup

Every fragment of output is first a tree of elements and only then a text. Names of elements come
from a fixed set, texts and attribute values are escaped when they are written, and what has been
written before enters as it is in one place only, `Markup.raw`. So a written fragment nests
properly whatever its texts are.
-/

set_option autoImplicit false

namespace Loremark.Html

/-- The three ways to escape a text. -/
inductive Escaping where
  /-- Ampersands and angle brackets. -/
  | marks
  /-- The marks and double quotes. -/
  | double
  /-- The marks and both quotes. -/
  | all
  deriving DecidableEq, Repr

/-- A text in its escaped form. -/
def Escaping.apply : Escaping → Text → Text
  | marks => Text.escapeMarks
  | double => Text.escapeDouble
  | all => Text.escapeAll

/-- The elements with a body. -/
inductive Tag where
  | a
  | blockquote
  | button
  | code
  | div
  | em
  | heading (level : Int)
  | li
  | ol
  | p
  | pre
  | s
  | span
  | strong
  | table
  | tbody
  | td
  | th
  | thead
  | tr
  | ul
  deriving DecidableEq, Repr

/-- The name of an element with a body. -/
def Tag.name : Tag → Text
  | a => ['a']
  | blockquote => "blockquote".toList
  | button => "button".toList
  | code => "code".toList
  | div => "div".toList
  | em => "em".toList
  | heading level => 'h' :: Text.ofInt level
  | li => "li".toList
  | ol => "ol".toList
  | p => ['p']
  | pre => "pre".toList
  | s => ['s']
  | span => "span".toList
  | strong => "strong".toList
  | table => "table".toList
  | tbody => "tbody".toList
  | td => "td".toList
  | th => "th".toList
  | thead => "thead".toList
  | tr => "tr".toList
  | ul => "ul".toList

/-- The elements without a body. -/
inductive VoidTag where
  | br
  | hr
  | img
  deriving DecidableEq, Repr

/-- The name of an element without a body. -/
def VoidTag.name : VoidTag → Text
  | br => "br".toList
  | hr => "hr".toList
  | img => "img".toList

/-- An attribute: its name, and its value before escaping. -/
structure Attribute where
  name : String
  value : Text
  escaping : Escaping := .all
  deriving DecidableEq, Repr

/-- An attribute as written in a tag, with the space in front of it. -/
def Attribute.written (attr : Attribute) : Text :=
  ' ' :: attr.name.toList ++ '=' :: '"' :: attr.escaping.apply attr.value ++ ['"']

/-- The attributes of a tag as written. -/
def writtenAttributes (attrs : List Attribute) : Text := attrs.flatMap Attribute.written

/-- A piece of output. -/
inductive Markup where
  | text (escaping : Escaping) (value : Text)
  | element (tag : Tag) (attrs : List Attribute) (body : List Markup)
  /-- An element without a body; some are closed by a slash in their tag. -/
  | void (tag : VoidTag) (attrs : List Attribute) (slash : Bool)
  /-- Output that has been written before. -/
  | raw (html : Text)

/-- A sequence of pieces. -/
abbrev Fragment := List Markup

namespace Markup

mutual

/-- A piece as text. -/
def write : Markup → Text
  | text escaping value => escaping.apply value
  | element tag attrs body =>
    '<' :: tag.name ++ writtenAttributes attrs ++ '>' :: writeAll body ++
      '<' :: '/' :: tag.name ++ ['>']
  | void tag attrs slash =>
    '<' :: tag.name ++ writtenAttributes attrs ++ (if slash then [' ', '/', '>'] else ['>'])
  | raw html => html

/-- The pieces of a fragment, one after the other, as text. -/
def writeAll : List Markup → Text
  | [] => []
  | piece :: pieces => write piece ++ writeAll pieces

end

/-- The end of a line in the output. -/
def newline : Markup := text .marks ['\n']

/-- Running text. -/
def running (value : Text) : Markup := text .marks value

/-- A text whose quotes are escaped too. -/
def label (value : Text) : Markup := text .all value

/-- A text of the library's own. -/
def phrase (words : String) : Markup := text .marks words.toList

end Markup

/-- An element followed by the end of its line. -/
def line (tag : Tag) (attrs : List Attribute) (body : Fragment) : Fragment :=
  [.element tag attrs body, .newline]

/-- An element whose body begins on a line of its own, followed by the end of its line. -/
def block (tag : Tag) (attrs : List Attribute) (body : Fragment) : Fragment :=
  line tag attrs (.newline :: body)

/-- An attribute with a value of the library's own. -/
def fixed (name value : String) : Attribute := ⟨name, value.toList, .all⟩

/-- A class attribute. -/
def cssClass (value : String) : Attribute := fixed "class" value

/-- An attribute that is left out when its value is empty. -/
def optional (name : String) (value : Text) : List Attribute :=
  if value.isEmpty then [] else [⟨name, value, .all⟩]

end Loremark.Html
