import Loremark.Proofs.Tree.Leaks
import Loremark.Tree.Page

/-!
# Properties of rendered trees

Many properties of nodes say nothing about texts, slots, gated regions and blocks, and ask something
of inline markup or of plain output only. Such a property holds everywhere in the tree that an
outline becomes if it holds in the nodes of its running texts (`shownAll_everywhere`).
-/

set_option autoImplicit false

namespace Loremark.Tree

open Markdown Node

namespace Outline

mutual

/-- The running texts of an outline. -/
def contents : Outline → List (List Inline)
  | paragraph _ content => [content]
  | heading _ content => [content]
  | bulletList items => contentsAll items
  | orderedList _ items => contentsAll items
  | item children => contentsAll children
  | quote children => contentsAll children
  | container _ children => contentsAll children
  | division _ children => contentsAll children
  | plain _ => []

/-- The running texts of outlines, in order. -/
def contentsAll : List Outline → List (List Inline)
  | [] => []
  | outline :: outlines => contents outline ++ contentsAll outlines

end

end Outline

/-- Properties that texts, slots, gated regions and blocks of known kinds have whatever they hold,
and that stay where a marker is cut off. -/
structure Framing (P : Node → Prop) : Prop where
  text : ∀ value, P (.text value)
  slot : ∀ s, P (.slot s)
  spoiler : ∀ region children, P (.spoiler region children)
  block : ∀ kind children, kind.isKnown = true → P (.block kind children)
  cuttable : Cuttable P

section Framing

variable {P : Node → Prop} (framing : Framing P) {source : Source}

include framing

/-- The property holds in the pieces of a text. -/
theorem pieces_everywhere {n later : Nat} {pieces : List Embed.Segment} {nodes : List Node}
    (shown : ShownPieces source n pieces nodes later) : Everywhere P nodes := by
  induction shown with
  | nil n => exact everywhere_nil
  | literal text behind ih =>
    exact everywhere_cons.mpr ⟨everywhere_text.mpr (framing.text text), ih⟩
  | embed descriptor behind ih =>
    exact everywhere_cons.mpr ⟨everywhere_slot.mpr (framing.slot _), ih⟩

/-- The property holds in a text. -/
theorem text_everywhere {live : Bool} {n later : Nat} {value : Text} {nodes : List Node}
    (shown : ShownText source live n value nodes later) : Everywhere P nodes := by
  cases shown with
  | empty live n => exact everywhere_nil
  | restored nonempty whole => exact everywhere_text.mpr (framing.text _)
  | split nonempty embeds pieces => exact pieces_everywhere framing pieces

/-- The property holds in a paragraph if it does in its children. -/
theorem paragraph_everywhere {tight : Bool} {children : List Node} (all : Everywhere P children) :
    Everywhere P [paragraphNode source tight children] := by
  rw [paragraphNode]
  refine everywhere_block.mpr ⟨framing.block _ _ rfl, ?_⟩
  split
  · exact (asCard_everywhere_iff framing.slot).mpr all
  · exact all

/-- The property holds in a container if it does in its children. -/
theorem container_everywhere {className title text : Text} {children : List Node} {node : Node}
    (all : Everywhere P children) (built : ShownContainer className title text children node) :
    Everywhere P [node] := by
  have container : Everywhere P [.block (.container className title) children] :=
    everywhere_block.mpr ⟨framing.block _ _ rfl, all⟩
  cases built with
  | bare detected => exact container
  | gated detected => exact everywhere_spoiler.mpr ⟨framing.spoiler _ _, container⟩

/-- The property holds in a quote if it does in its children. -/
theorem quote_everywhere {children : List Node} {node : Node} (all : Everywhere P children)
    (built : ShownQuote children node) : Everywhere P [node] := by
  cases built with
  | bare plain => exact everywhere_block.mpr ⟨framing.block _ _ rfl, all⟩
  | gated marker detected =>
    refine everywhere_spoiler.mpr ⟨framing.spoiler _ _, ?_⟩
    refine everywhere_block.mpr ⟨framing.block _ _ rfl, ?_⟩
    exact everywhere_withoutMarker framing.cuttable _ children all

end Framing

/-- Such properties that plain output has, and the nodes of good running texts. -/
structure Built (source : Source) (good : List Inline → Prop) (P : Node → Prop) : Prop
    extends Framing P where
  plain : ∀ block, P (plainNode source block)
  running : ∀ {n later : Nat} {content : List Inline} {nodes : List Node},
    ShownInlines source true n content nodes later → good content → Everywhere P nodes

section Built

variable {P : Node → Prop} {source : Source} {good : List Inline → Prop}

mutual

/-- However an outline is shown, the property holds in its node. -/
theorem shown_everywhere (built : Built source good P) {n later : Nat} {outline : Outline}
    {node : Node} (shown : Shown source n outline node later)
    (all : ∀ content ∈ outline.contents, good content) : Everywhere P [node] := by
  have block {kind : BlockKind} {children : List Node} (known : kind.isKnown = true)
      (below : Everywhere P children) : Everywhere P [.block kind children] :=
    everywhere_block.mpr ⟨built.block kind children known, below⟩
  cases shown with
  | paragraph shown =>
    have own := built.running shown (List.forall_mem_singleton.mp all)
    exact paragraph_everywhere built.toFraming own
  | heading shown => exact block rfl (built.running shown (List.forall_mem_singleton.mp all))
  | bulletList shown => exact block rfl (shownAll_everywhere built shown all)
  | orderedList shown => exact block rfl (shownAll_everywhere built shown all)
  | item shown => exact block rfl (shownAll_everywhere built shown all)
  | quote shown quoted =>
    exact quote_everywhere built.toFraming (shownAll_everywhere built shown all) quoted
  | container shown contained =>
    exact container_everywhere built.toFraming (shownAll_everywhere built shown all) contained
  | division shown contained =>
    exact container_everywhere built.toFraming (shownAll_everywhere built shown all) contained
  | plain n block => exact everywhere_raw.mpr (built.plain block)

/-- Such a property holds everywhere in the tree of outlines with good running texts. -/
theorem shownAll_everywhere (built : Built source good P) {n later : Nat}
    {outlines : List Outline} {nodes : List Node} (shown : ShownAll source n outlines nodes later)
    (all : ∀ content ∈ Outline.contentsAll outlines, good content) : Everywhere P nodes := by
  cases shown with
  | nil n => exact everywhere_nil
  | cons here behind =>
    obtain ⟨first, others⟩ := List.forall_mem_append.mp all
    exact everywhere_cons.mpr
      ⟨shown_everywhere built here first, shownAll_everywhere built behind others⟩

end

end Built

end Loremark.Tree
