import Loremark.Tree.Build

/-!
# The outline of a document

A render reads Markdown and builds nodes in one go, because the body of a division is read when the
division is built. The outline of a document is what it consists of before nodes are built: its
blocks, with the divisions put together again. `outlineOf` reads it, and it does not look at embeds,
slots or events. `Shown` tells which node an outline becomes, one constructor for each way to build
a node; `nodesOf_shown` says that a render that succeeds shows the outline of its document.
-/

set_option autoImplicit false

namespace Loremark.Tree

open Markdown

/-- A block of a document whose divisions have been put together. -/
inductive Outline where
  | paragraph (tight : Bool) (content : List Inline)
  | heading (level : Nat) (content : List Inline)
  | bulletList (items : List Outline)
  | orderedList (start : Option Nat) (items : List Outline)
  | item (children : List Outline)
  | quote (children : List Outline)
  /-- A container with the info of its opening line. -/
  | container (info : Text) (children : List Outline)
  | division (className : Text) (children : List Outline)
  /-- A block in plain output. -/
  | plain (block : Block (List Inline))

/-! ## Reading the outline -/

/-- Steps of reading an outline; the definitions that are known grow on the way. -/
abbrev Reading := StateT References (Except BlockError)

/-- Reads a text behind the definitions that are known. -/
def readText (text : Text) : Reading Blocks := fun references => do
  let document ← Markdown.read references text
  return (document.blocks, document.references)

/-- The outline of a division. `deeper` reads the outline of its content. -/
def outlineDivision (deeper : Blocks → Reading (List Outline)) (start : DivisionStart)
    (blocks : Blocks) : Reading Outline := do
  let first ←
    if start.used != 0 && Text.allBlank start.body then pure []
    else readText start.body
  return .division start.className (← deeper (first ++ blocks.take start.inside))

mutual

/-- The outline of a block. `deeper` reads the outline of the content of divisions. -/
def outlineBlock (deeper : Blocks → Reading (List Outline)) :
    Block (List Inline) → Reading Outline
  | .paragraph tight content => pure (.paragraph tight content)
  | .heading level content => pure (.heading level content)
  | .bulletList items => do return .bulletList (← outlineBlocks deeper 0 items)
  | .orderedList start items => do return .orderedList start (← outlineBlocks deeper 0 items)
  | .item children => do return .item (← outlineBlocks deeper 0 children)
  | .quote children => do return .quote (← outlineBlocks deeper 0 children)
  | .container info children => do return .container info (← outlineBlocks deeper 0 children)
  | .code content => pure (.plain (.code content))
  | .fence info content => pure (.plain (.fence info content))
  | .html content => pure (.plain (.html content))
  | .rule => pure (.plain .rule)
  | .table columns header rows => pure (.plain (.table columns header rows))
  | .definition label target => pure (.plain (.definition label target))

/-- The outline of blocks, of which the first `skip` belong to a division in front of them. -/
def outlineBlocks (deeper : Blocks → Reading (List Outline)) : (skip : Nat) → Blocks →
    Reading (List Outline)
  | _, [] => pure []
  | skip + 1, _ :: blocks => outlineBlocks deeper skip blocks
  | 0, block :: blocks =>
    match block.html?.bind fun html => divisionStart? html blocks with
    | some start => do
      let first ← outlineDivision deeper start blocks
      return first :: (← outlineBlocks deeper start.used blocks)
    | none => do
      let first ← outlineBlock deeper block
      return first :: (← outlineBlocks deeper 0 blocks)

end

/-- The outline of blocks with divisions inside divisions, `fuel` deep. -/
def outlinesOf : (fuel : Nat) → Blocks → Reading (List Outline)
  | 0, blocks => outlineBlocks (fun _ => pure []) 0 blocks
  | fuel + 1, blocks => outlineBlocks (outlinesOf fuel) 0 blocks

/-- The outline of a document whose embeds have been extracted. -/
def outlineOf (parsed : Embed.Parsed) : Except BlockError (List Outline) := do
  let text := withLineBreaks parsed.rewritten
  let (blocks, references) ← readText text []
  let (outlines, _) ← outlinesOf (text.count '<') blocks references
  return outlines

/-! ## Showing an outline -/

/-- The slot with a given number. -/
def slotNode (source : Source) (n : Nat) (descriptor : Embed.Descriptor) : Node :=
  .slot ⟨"embed-".toList ++ Text.ofNat n, descriptor, source.style.mode⟩

/-- The nodes of the pieces of a live text. The slots are numbered from the first number on, up to
the second one. -/
inductive ShownPieces (source : Source) : Nat → List Embed.Segment → List Node → Nat → Prop
  | nil (n : Nat) : ShownPieces source n [] [] n
  | literal {n later : Nat} {pieces : List Embed.Segment} {nodes : List Node} (text : Text)
      (behind : ShownPieces source n pieces nodes later) :
      ShownPieces source n (.literal text :: pieces) (.text text :: nodes) later
  | embed {n later : Nat} {pieces : List Embed.Segment} {nodes : List Node}
      (descriptor : Embed.Descriptor) (behind : ShownPieces source (n + 1) pieces nodes later) :
      ShownPieces source n (.embed descriptor :: pieces)
        (slotNode source n descriptor :: nodes) later

/-- The nodes of a text, of which only a live one holds slots. -/
inductive ShownText (source : Source) : (live : Bool) → Nat → Text → List Node → Nat → Prop
  | empty (live : Bool) (n : Nat) : ShownText source live n [] [] n
  | restored {live : Bool} {n : Nat} {value : Text} (nonempty : value ≠ [])
      (whole : live = false ∨ source.parsed.embeds = []) :
      ShownText source live n value [.text (source.parsed.restore value)] n
  | split {n later : Nat} {value : Text} {nodes : List Node} (nonempty : value ≠ [])
      (embeds : source.parsed.embeds ≠ [])
      (pieces : ShownPieces source n (Embed.reinsert value source.parsed.embeds) nodes later) :
      ShownText source true n value nodes later

/-- The kind of the node of a piece of running text that holds no others. -/
def leafKind? (parsed : Embed.Parsed) : Inline → Option InlineKind
  | .softBreak => some .softBreak
  | .hardBreak => some .hardBreak
  | .code content => some (.code (parsed.restore content))
  | .html content => some (.html (parsed.restore content))
  | .image target label _ =>
    some (.image (parsed.restore target.address) (parsed.restore target.title)
      (parsed.restore label))
  | _ => none

mutual

/-- The nodes of a piece of running text. -/
inductive ShownInline (source : Source) :
    (live : Bool) → Nat → Inline → List Node → Nat → Prop
  | text {live : Bool} {n later : Nat} {value : Text} {nodes : List Node}
      (shown : ShownText source live n value nodes later) :
      ShownInline source live n (.text value) nodes later
  | leaf {live : Bool} {n : Nat} {piece : Inline} {kind : InlineKind}
      (leaf : leafKind? source.parsed piece = some kind) :
      ShownInline source live n piece [.inline kind []] n
  | span {live : Bool} {n later : Nat} {kind : SpanKind} {pieces : List Inline}
      {nodes : List Node} (shown : ShownInlines source live n pieces nodes later) :
      ShownInline source live n (.span kind pieces) [.inline (spanKind kind) nodes] later
  | link {live : Bool} {n later : Nat} {target : Target} {pieces : List Inline}
      {nodes : List Node} (shown : ShownInlines source false n pieces nodes later) :
      ShownInline source live n (.link target pieces)
        [.inline (.link (source.parsed.restore target.address)
          (source.parsed.restore target.title)) nodes] later

/-- The nodes of running text. -/
inductive ShownInlines (source : Source) :
    (live : Bool) → Nat → List Inline → List Node → Nat → Prop
  | nil (live : Bool) (n : Nat) : ShownInlines source live n [] [] n
  | cons {live : Bool} {n middle later : Nat} {piece : Inline} {pieces : List Inline}
      {first nodes : List Node} (here : ShownInline source live n piece first middle)
      (behind : ShownInlines source live middle pieces nodes later) :
      ShownInlines source live n (piece :: pieces) (first ++ nodes) later

end

/-- The title of a container with the info of its opening line. -/
def fencedTitle (info : Text) : Text :=
  ((Text.after? containerName (Text.trim info)).map Text.trim).getD (Text.trim info)

/-- The node of a container: gated if its class says so. -/
inductive ShownContainer (className title text : Text) (children : List Node) : Node → Prop
  | bare (detected : Spoiler.detectContainer text (some className) = .ok none) :
      ShownContainer className title text children
        (.block (.container className title) children)
  | gated {region : Spoiler.Region}
      (detected : Spoiler.detectContainer text (some className) = .ok (some region)) :
      ShownContainer className title text children
        (.spoiler region [.block (.container className title) children])

/-- The node of a quote: gated if it begins with a marker. -/
inductive ShownQuote (children : List Node) : Node → Prop
  | bare (plain : Spoiler.marker? (Node.flatten children) = none) :
      ShownQuote children (.block (.quote []) children)
  | gated {region : Spoiler.Region} {digits : Option Text} {rest : Text}
      (marker : Spoiler.marker? (Node.flatten children) = some (digits, rest))
      (detected : Spoiler.detectQuote (Node.flatten children) = .ok (some region)) :
      ShownQuote children (.spoiler region [.block (.quote Spoiler.spoilerWord)
        (Node.withoutMarker ((Node.flatten children).length - rest.length) children)])

mutual

/-- The node of an outline, with its slots numbered from the first number up to the second. -/
inductive Shown (source : Source) : Nat → Outline → Node → Nat → Prop
  | paragraph {n later : Nat} {tight : Bool} {content : List Inline} {nodes : List Node}
      (shown : ShownInlines source true n content nodes later) :
      Shown source n (.paragraph tight content) (paragraphNode source tight nodes) later
  | heading {n later level : Nat} {content : List Inline} {nodes : List Node}
      (shown : ShownInlines source true n content nodes later) :
      Shown source n (.heading level content) (.block (.heading level) nodes) later
  | bulletList {n later : Nat} {items : List Outline} {nodes : List Node}
      (shown : ShownAll source n items nodes later) :
      Shown source n (.bulletList items) (.block .bulletList nodes) later
  | orderedList {n later : Nat} {start : Option Nat} {items : List Outline} {nodes : List Node}
      (shown : ShownAll source n items nodes later) :
      Shown source n (.orderedList start items)
        (.block (.orderedList (start.map Int.ofNat)) nodes) later
  | item {n later : Nat} {children : List Outline} {nodes : List Node}
      (shown : ShownAll source n children nodes later) :
      Shown source n (.item children) (.block .listItem nodes) later
  | quote {n later : Nat} {children : List Outline} {nodes : List Node} {node : Node}
      (shown : ShownAll source n children nodes later) (built : ShownQuote nodes node) :
      Shown source n (.quote children) node later
  | container {n later : Nat} {info : Text} {children : List Outline} {nodes : List Node}
      {node : Node} (shown : ShownAll source n children nodes later)
      (built : ShownContainer containerName (fencedTitle info)
        (Text.trim info ++ '\n' :: Node.flatten nodes) nodes node) :
      Shown source n (.container info children) node later
  | division {n later : Nat} {className : Text} {children : List Outline} {nodes : List Node}
      {node : Node} (shown : ShownAll source n children nodes later)
      (built : ShownContainer className [] (Node.flatten nodes) nodes node) :
      Shown source n (.division className children) node later
  | plain (n : Nat) (block : Block (List Inline)) :
      Shown source n (.plain block) (plainNode source block) n

/-- The nodes of outlines. -/
inductive ShownAll (source : Source) : Nat → List Outline → List Node → Nat → Prop
  | nil (n : Nat) : ShownAll source n [] [] n
  | cons {n middle later : Nat} {outline : Outline} {outlines : List Outline} {node : Node}
      {nodes : List Node} (here : Shown source n outline node middle)
      (behind : ShownAll source middle outlines nodes later) :
      ShownAll source n (outline :: outlines) (node :: nodes) later

end

end Loremark.Tree
