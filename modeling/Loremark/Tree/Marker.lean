import Loremark.Tree.Node

/-!
# Cutting a marker off a quote

The marker of a spoiler is found in the plain text of a quote and has to be cut off the tree that
the text was read from. Texts and code lose characters from their beginning, a line break counts
as one, and what has no plain text of its own is dropped on the way. Cutting stops at the first
node that is not made of text.
-/

set_option autoImplicit false

namespace Loremark.Tree

namespace Node

mutual

/-- A node without its first `count` characters of plain text, with the number of characters that
are still to be cut. Nothing is left of a node that is used up. -/
def cutNode (count : Nat) : Node → List Node × Nat
  | text value =>
    if value.length ≤ count then ([], count - value.length) else ([text (value.drop count)], 0)
  | inline kind children =>
    match kind with
    | .softBreak | .hardBreak => ([], count - 1)
    | .code content =>
      if content.length ≤ count then ([], count - content.length)
      else ([inline (.code (content.drop count)) children], 0)
    | kind =>
      let (children, left) := cutAll count children
      (if children.isEmpty then [] else [inline kind children], left)
  | block kind children =>
    let (children, left) := cutAll count children
    (if children.isEmpty then [] else [block kind children], left)
  | node => ([node], 0)

/-- Nodes without their first `count` characters of plain text, with the number of characters that
are still to be cut. -/
def cutAll (count : Nat) : List Node → List Node × Nat
  | [] => ([], count)
  | node :: nodes =>
    if count == 0 then (node :: nodes, 0)
    else
      let (first, left) := cutNode count node
      let (rest, left) := cutAll left nodes
      (first ++ rest, left)

end

/-- Nodes without the blanks and line breaks that they begin with. -/
def trimLeading : List Node → List Node
  | text value :: nodes =>
    match Text.trimStart value with
    | [] => trimLeading nodes
    | rest => text rest :: nodes
  | inline kind children :: nodes =>
    if kind.isBreak then trimLeading nodes else inline kind children :: nodes
  | nodes => nodes

/-- The content of a quote without a marker of `count` characters. The first block also loses the
blanks it then begins with, and goes if nothing is left of it. -/
def withoutMarker (count : Nat) (nodes : List Node) : List Node :=
  match (cutAll count nodes).1 with
  | block kind children :: rest =>
    match trimLeading children with
    | [] => rest
    | children => block kind children :: rest
  | nodes => nodes

end Node

end Loremark.Tree
