import Loremark.Markdown.Inline.Basic

/-!
# Blocks

What a text consists of before its running text is read: paragraphs, headings, lists, quotes,
containers, code, tables and markup of the author. Running text is a parameter, so that the same
blocks hold first texts and then the pieces that were read from them. A definition gives a target
to a label; it stands among the blocks until the labels of the whole text are known.
-/

set_option autoImplicit false

namespace Loremark.Markdown

/-- How the cells of a column are aligned. -/
inductive Align where
  | unset
  | left
  | center
  | right
  deriving DecidableEq, Repr, Inhabited

/-- A block with running text of some type. -/
inductive Block (Content : Type) where
  /-- A paragraph; a tight one stands in a list whose items are not set apart. -/
  | paragraph (tight : Bool) (content : Content)
  | heading (level : Nat) (content : Content)
  | bulletList (items : List (Block Content))
  /-- A numbered list, with its first number unless that is one. -/
  | orderedList (start : Option Nat) (items : List (Block Content))
  | item (children : List (Block Content))
  | quote (children : List (Block Content))
  | container (info : Text) (children : List (Block Content))
  | code (content : Text)
  | fence (info content : Text)
  /-- Markup that the author wrote. -/
  | html (content : Text)
  | rule
  | table (columns : List Align) (header : List Content) (rows : List (List Content))
  | definition (label : Text) (target : Target)
  deriving Inhabited, Repr

namespace Block

variable {Content : Type}

/-- Whether a block is markup of the author, and which. -/
def html? : Block Content → Option Text
  | html content => some content
  | _ => none

/-- Whether a block is a definition. -/
def isDefinition : Block Content → Bool
  | definition .. => true
  | _ => false

mutual

/-- The definitions in a block. -/
def definitions : Block Content → List (Text × Target)
  | definition label target => [(label, target)]
  | bulletList children => definitionsAll children
  | orderedList _ children => definitionsAll children
  | item children => definitionsAll children
  | quote children => definitionsAll children
  | container _ children => definitionsAll children
  | _ => []

/-- The definitions in blocks, in order. -/
def definitionsAll : List (Block Content) → List (Text × Target)
  | [] => []
  | block :: blocks => definitions block ++ definitionsAll blocks

end

mutual

/-- A block whose running text is read by `read`. -/
def map {Read : Type} (read : Content → Read) : Block Content → Block Read
  | paragraph tight content => paragraph tight (read content)
  | heading level content => heading level (read content)
  | bulletList children => bulletList (mapAll read children)
  | orderedList start children => orderedList start (mapAll read children)
  | item children => item (mapAll read children)
  | quote children => quote (mapAll read children)
  | container info children => container info (mapAll read children)
  | code content => code content
  | fence info content => fence info content
  | html content => html content
  | rule => rule
  | table columns header rows => table columns (header.map read) (rows.map (·.map read))
  | definition label target => definition label target

/-- Blocks whose running text is read by `read`, without definitions. -/
def mapAll {Read : Type} (read : Content → Read) : List (Block Content) → List (Block Read)
  | [] => []
  | block :: blocks =>
    if block.isDefinition then mapAll read blocks else map read block :: mapAll read blocks

end

end Block

end Loremark.Markdown
