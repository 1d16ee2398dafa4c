import Loremark.Embed.Extract
import Loremark.Spoiler.Marker

/-!
# Document trees

What a rendered document is made of: texts, slots for entity previews, inline markup, blocks,
output that has been written before, and gated regions around spoilers. `walk` lists the nodes of
a tree in document order; `preorder` lists them by recursion on the tree. `flatten` is the plain
text of a tree, with one line between blocks.
-/

set_option autoImplicit false

namespace Loremark.Tree

/-- The kinds of inline markup. A node of a kind that is none of these can be walked and
flattened, but not written. -/
inductive InlineKind where
  | emphasis
  | strong
  | strikethrough
  | softBreak
  | hardBreak
  | code (content : Text)
  /-- Markup that the author wrote in a line. -/
  | html (content : Text)
  | link (href title : Text)
  | image (src title alt : Text)
  | other (name : Text)
  deriving DecidableEq, Repr, Inhabited

/-- The name of a kind of inline markup. -/
def InlineKind.name : InlineKind → Text
  | emphasis => "em".toList
  | strong => "strong".toList
  | strikethrough => "s".toList
  | softBreak => "softbreak".toList
  | hardBreak => "hardbreak".toList
  | code _ => "code_inline".toList
  | html _ => "html_inline".toList
  | link .. => "link".toList
  | image .. => "image".toList
  | other name => name

/-- The content of a node without children. -/
def InlineKind.content : InlineKind → Text
  | code content => content
  | html content => content
  | _ => []

/-- Whether a kind is a line break. -/
def InlineKind.isBreak : InlineKind → Bool
  | softBreak | hardBreak => true
  | _ => false

/-- The kinds of blocks. -/
inductive BlockKind where
  /-- A tight paragraph is written without its element. -/
  | paragraph (tight hasEmbeds : Bool)
  | heading (level : Int)
  | bulletList
  | orderedList (start : Option Int)
  | listItem
  /-- A quote; an empty class counts as none. -/
  | quote (className : Text)
  /-- A container; an empty title counts as none. -/
  | container (className title : Text)
  | other (name : Text)
  deriving DecidableEq, Repr, Inhabited

/-- The name of a kind of block. -/
def BlockKind.name : BlockKind → Text
  | paragraph .. => "paragraph".toList
  | heading _ => "heading".toList
  | bulletList => "bullet_list".toList
  | orderedList _ => "ordered_list".toList
  | listItem => "list_item".toList
  | quote _ => "blockquote".toList
  | container .. => "container".toList
  | other name => name

/-- A slot for the preview of an entity. -/
structure Slot where
  /-- The name of the slot within its tree. -/
  key : Text
  descriptor : Embed.Descriptor
  mode : Mode
  deriving DecidableEq, Repr, Inhabited

/-- A node of a document tree. -/
inductive Node where
  | text (value : Text)
  | slot (slot : Slot)
  /-- Output of the plain renderer: code, tables, rules and markup of the author. -/
  | raw (html : Text)
  | spoiler (region : Spoiler.Region) (children : List Node)
  | inline (kind : InlineKind) (children : List Node)
  | block (kind : BlockKind) (children : List Node)
  deriving Inhabited, Repr

namespace Node

/-- The children of a node. -/
def children : Node → List Node
  | text _ | slot _ | raw _ => []
  | spoiler _ children | inline _ children | block _ children => children

/-- The name of a node in a listing of a tree. -/
def label : Node → Text
  | text _ => "Text".toList
  | slot _ => "EmbedWidget".toList
  | raw _ => "RawHtml".toList
  | spoiler .. => "SpoilerWrapper".toList
  | inline kind _ => kind.name
  | block kind _ => kind.name

mutual

/-- The number of nodes of a tree. -/
def size : Node → Nat
  | text _ | slot _ | raw _ => 1
  | spoiler _ children | inline _ children | block _ children => sizeAll children + 1

/-- The number of nodes of a list of trees. -/
def sizeAll : List Node → Nat
  | [] => 0
  | node :: nodes => size node + sizeAll nodes

end

/-- Two lists of trees have the nodes of both. -/
theorem sizeAll_append (a b : List Node) : sizeAll (a ++ b) = sizeAll a + sizeAll b := by
  induction a with
  | nil => simp [sizeAll]
  | cons node nodes ih => simp only [List.cons_append, sizeAll, ih, Nat.add_assoc]

/-- A node stands above the nodes of its children. -/
theorem size_eq (node : Node) : node.size = sizeAll node.children + 1 := by
  cases node <;> rfl

/-- The nodes below a stack of nodes: the topmost one is listed, and its children take its
place. -/
def walk : List Node → List Node
  | [] => []
  | node :: stack => node :: walk (node.children ++ stack)
termination_by stack => sizeAll stack
decreasing_by
  simp only [sizeAll_append, sizeAll, size_eq node]
  omega

mutual

/-- A node and the nodes below it, in document order. -/
def preorder : Node → List Node
  | text value => [text value]
  | slot s => [slot s]
  | raw html => [raw html]
  | spoiler region children => spoiler region children :: preorderAll children
  | inline kind children => inline kind children :: preorderAll children
  | block kind children => block kind children :: preorderAll children

/-- The nodes of a list of trees, in document order. -/
def preorderAll : List Node → List Node
  | [] => []
  | node :: nodes => preorder node ++ preorderAll nodes

end

/-- The slot that a node is. -/
def slot? : Node → Option Slot
  | slot s => some s
  | _ => none

/-- The region that a node gates. -/
def region? : Node → Option Spoiler.Region
  | spoiler region _ => some region
  | _ => none

/-- The region that a node gates, with its content. -/
def spoiler? : Node → Option (Spoiler.Region × List Node)
  | spoiler region content => some (region, content)
  | _ => none

/-- The slots of a tree in document order. -/
def slots (nodes : List Node) : List Slot := (walk nodes).filterMap slot?

/-- The gated regions of a tree in document order. -/
def regions (nodes : List Node) : List Spoiler.Region := (walk nodes).filterMap region?

/-- The gated regions of a tree with their content, in document order. -/
def spoilers (nodes : List Node) : List (Spoiler.Region × List Node) :=
  (walk nodes).filterMap spoiler?

/-- What stands for an embed in plain text: its label, or else what the author wrote. -/
def slotText (s : Slot) : Text :=
  match s.descriptor.label with
  | some (c :: label) => c :: label
  | _ => s.descriptor.source

/-- Whether a node is a block, gated or not. -/
def isBlock : Node → Bool
  | spoiler .. | block .. => true
  | _ => false

/-- Whether a node is output that has been written before; it has no plain text. -/
def isRaw : Node → Bool
  | raw _ => true
  | _ => false

mutual

/-- The plain text of a node. -/
def flattenNode : Node → Text
  | text value => value
  | slot s => slotText s
  | raw _ => []
  | inline kind children =>
    match kind with
    | .softBreak | .hardBreak => ['\n']
    | .code content => content
    | _ => flattenFrom false children
  | spoiler _ children | block _ children => flattenFrom false children

/-- The plain text of a list of nodes. A block with a text is set off from what is in front of it
in the list; `preceded` tells whether there is something. -/
def flattenFrom : (preceded : Bool) → List Node → Text
  | _, [] => []
  | preceded, node :: nodes =>
    let text := flattenNode node
    let gap := if node.isBlock && preceded && !text.isEmpty then ['\n', '\n'] else []
    gap ++ text ++ flattenFrom (preceded || !node.isRaw) nodes

end

/-- The plain text of a document. -/
def flatten (nodes : List Node) : Text := flattenFrom false nodes

end Node

end Loremark.Tree
