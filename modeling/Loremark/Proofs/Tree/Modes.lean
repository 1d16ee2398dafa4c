import Loremark.Proofs.Tree.Slots
import Loremark.Tree.Build

/-!
# Modes of slots

The style of a render decides on the modes of the slots and on nothing else. `withModeAll` gives all
the slots of a tree one mode. No part of a render looks at the mode of a slot, so that a compact
render is any other render of the same text with all the slots made compact (`nodesOf_compact`).
That compares every two renders: each of them has the compact one for its tree in which the modes
have been wiped out (`render_modes`).
-/

set_option autoImplicit false

namespace Loremark.Tree

namespace Node

mutual

/-- A node all of whose slots have one mode. -/
def withMode (mode : Mode) : Node → Node
  | text value => text value
  | slot s => slot { s with mode }
  | raw html => raw html
  | spoiler region children => spoiler region (withModeAll mode children)
  | inline kind children => inline kind (withModeAll mode children)
  | block kind children => block kind (withModeAll mode children)

/-- Nodes all of whose slots have one mode. -/
def withModeAll (mode : Mode) : List Node → List Node
  | [] => []
  | node :: nodes => withMode mode node :: withModeAll mode nodes

end

variable (mode : Mode)

/-- Nodes are given a mode one by one. -/
theorem withModeAll_eq_map (nodes : List Node) :
    withModeAll mode nodes = nodes.map (withMode mode) := by
  induction nodes with
  | nil => simp only [withModeAll, List.map_nil]
  | cons node nodes ih => simp only [withModeAll, List.map_cons, ih]

/-- Two lists of nodes are given a mode one behind the other. -/
@[simp] theorem withModeAll_append (nodes others : List Node) :
    withModeAll mode (nodes ++ others) = withModeAll mode nodes ++ withModeAll mode others := by
  simp only [withModeAll_eq_map, List.map_append]

/-- Giving a mode leaves no nodes if there are none. -/
@[simp] theorem withModeAll_isEmpty (nodes : List Node) :
    (withModeAll mode nodes).isEmpty = nodes.isEmpty := by
  simp only [withModeAll_eq_map, List.isEmpty_map]

mutual

/-- The mode that is given last is the one that counts. -/
theorem withMode_withMode (first : Mode) (node : Node) :
    (node.withMode first).withMode mode = node.withMode mode := by
  cases node with
  | text value => simp only [withMode]
  | slot s => simp only [withMode]
  | raw html => simp only [withMode]
  | spoiler region children => simp only [withMode, withModeAll_withModeAll first children]
  | inline kind children => simp only [withMode, withModeAll_withModeAll first children]
  | block kind children => simp only [withMode, withModeAll_withModeAll first children]

/-- Of two modes that slots are given in turn only the later one is seen. -/
theorem withModeAll_withModeAll (first : Mode) (nodes : List Node) :
    withModeAll mode (withModeAll first nodes) = withModeAll mode nodes := by
  cases nodes with
  | nil => simp only [withModeAll]
  | cons node nodes =>
    simp only [withModeAll, withMode_withMode first node, withModeAll_withModeAll first nodes]

end

/-! ## What does not depend on modes -/

/-- A mode makes no node a block. -/
@[simp] theorem withMode_isBlock (node : Node) : (node.withMode mode).isBlock = node.isBlock := by
  cases node <;> simp only [withMode, isBlock]

/-- A mode makes no node plain output. -/
@[simp] theorem withMode_isRaw (node : Node) : (node.withMode mode).isRaw = node.isRaw := by
  cases node <;> simp only [withMode, isRaw]

/-- A mode makes no node a slot. -/
@[simp] theorem withMode_isSlot (node : Node) : (node.withMode mode).isSlot = node.isSlot := by
  cases node <;> simp only [withMode, isSlot]

/-- A card is given a mode as its slot is. -/
theorem withMode_asCard (node : Node) : node.asCard.withMode mode = node.withMode mode := by
  cases node <;> simp only [withMode, asCard]

mutual

/-- The listing of a node with a mode is that of the node, each with the mode. -/
theorem withMode_preorder (node : Node) :
    preorder (node.withMode mode) = (preorder node).map (withMode mode) := by
  cases node with
  | text value => simp only [withMode, preorder, List.map_cons, List.map_nil]
  | slot s => simp only [withMode, preorder, List.map_cons, List.map_nil]
  | raw html => simp only [withMode, preorder, List.map_cons, List.map_nil]
  | spoiler region children =>
    simp only [withMode, preorder, List.map_cons, withModeAll_preorderAll children]
  | inline kind children =>
    simp only [withMode, preorder, List.map_cons, withModeAll_preorderAll children]
  | block kind children =>
    simp only [withMode, preorder, List.map_cons, withModeAll_preorderAll children]

/-- The listing of nodes with a mode is that of the nodes, each with the mode. -/
theorem withModeAll_preorderAll (nodes : List Node) :
    preorderAll (withModeAll mode nodes) = (preorderAll nodes).map (withMode mode) := by
  cases nodes with
  | nil => simp only [withModeAll, preorderAll, List.map_nil]
  | cons node nodes =>
    simp only [withModeAll, preorderAll, List.map_append, withMode_preorder node,
      withModeAll_preorderAll nodes]

end

/-- The slots are given the mode. -/
theorem slots_withModeAll (nodes : List Node) :
    slots (withModeAll mode nodes) = (slots nodes).map fun s => { s with mode } := by
  have each (node : Node) : slot? (node.withMode mode) =
      (slot? node).map fun s => { s with mode } := by
    cases node <;> simp only [withMode, slot?, Option.map_none, Option.map_some]
  rw [slots_eq, slots_eq, withModeAll_preorderAll, List.filterMap_map, List.map_filterMap]
  exact List.filterMap_congr fun node _ => each node

/-- The regions are left as they are. -/
theorem regions_withModeAll (nodes : List Node) :
    regions (withModeAll mode nodes) = regions nodes := by
  have each (node : Node) : region? (node.withMode mode) = region? node := by
    cases node <;> simp only [withMode, region?]
  rw [regions, regions, walk_eq_preorderAll, walk_eq_preorderAll, withModeAll_preorderAll,
    List.filterMap_map]
  exact List.filterMap_congr fun node _ => each node

mutual

/-- The plain text of a node does not depend on modes. -/
theorem withMode_flattenNode (node : Node) :
    flattenNode (node.withMode mode) = flattenNode node := by
  cases node with
  | text value => simp only [withMode, flattenNode]
  | slot s => simp only [withMode, flattenNode, slotText]
  | raw html => simp only [withMode, flattenNode]
  | spoiler region children =>
    simp only [withMode, flattenNode, withModeAll_flattenFrom false children]
  | inline kind children =>
    simp only [withMode, flattenNode, withModeAll_flattenFrom false children]
  | block kind children => simp only [withMode, flattenNode, withModeAll_flattenFrom false children]

/-- The plain text of nodes in a list does not depend on modes. -/
theorem withModeAll_flattenFrom (preceded : Bool) (nodes : List Node) :
    flattenFrom preceded (withModeAll mode nodes) = flattenFrom preceded nodes := by
  cases nodes with
  | nil => simp only [withModeAll]
  | cons node nodes =>
    simp only [withModeAll, flattenFrom, withMode_flattenNode node, withMode_isBlock,
      withMode_isRaw, withModeAll_flattenFrom _ nodes]

end

/-- The plain text of nodes does not depend on modes. -/
@[simp] theorem flatten_withModeAll (nodes : List Node) :
    flatten (withModeAll mode nodes) = flatten nodes :=
  withModeAll_flattenFrom mode false nodes

/-! ## Cutting -/

mutual

/-- Cutting a node commutes with giving a mode. -/
theorem withMode_cutNode (count : Nat) (node : Node) :
    cutNode count (node.withMode mode) =
      (withModeAll mode (cutNode count node).1, (cutNode count node).2) := by
  cases node with
  | text value =>
    simp only [withMode, cutNode]
    split <;> simp only [withModeAll, withMode]
  | slot s => simp only [withMode, cutNode, withModeAll]
  | raw html => simp only [withMode, cutNode, withModeAll]
  | spoiler region children => simp only [withMode, cutNode, withModeAll]
  | inline kind children =>
    have below := withModeAll_cutAll count children
    cases kind with
    | softBreak => simp only [withMode, cutNode, withModeAll]
    | hardBreak => simp only [withMode, cutNode, withModeAll]
    | code content =>
      simp only [withMode, cutNode]
      split <;> simp only [withModeAll, withMode]
    | _ =>
      simp only [withMode, cutNode, below, withModeAll_isEmpty]
      split <;> simp only [withModeAll, withMode]
  | block kind children =>
    have below := withModeAll_cutAll count children
    simp only [withMode, cutNode, below, withModeAll_isEmpty]
    split <;> simp only [withModeAll, withMode]

/-- Cutting nodes commutes with giving a mode. -/
theorem withModeAll_cutAll (count : Nat) (nodes : List Node) :
    cutAll count (withModeAll mode nodes) =
      (withModeAll mode (cutAll count nodes).1, (cutAll count nodes).2) := by
  cases nodes with
  | nil => simp only [withModeAll, cutAll]
  | cons node nodes =>
    simp only [withModeAll, cutAll]
    split
    · simp only [withModeAll]
    · simp only [withMode_cutNode count node, withModeAll_cutAll _ nodes, withModeAll_append]

end

/-- Trimming nodes commutes with giving a mode. -/
theorem withModeAll_trimLeading (nodes : List Node) :
    trimLeading (withModeAll mode nodes) = withModeAll mode (trimLeading nodes) := by
  induction nodes with
  | nil => simp only [withModeAll, trimLeading]
  | cons node nodes ih =>
    cases node with
    | text value =>
      simp only [withModeAll, withMode, trimLeading]
      split
      · exact ih
      · simp only [withModeAll, withMode]
    | inline kind children =>
      simp only [withModeAll, withMode, trimLeading]
      split
      · exact ih
      · simp only [withModeAll, withMode]
    | _ => simp only [withModeAll, withMode, trimLeading]

/-- Cutting a marker off does not depend on the modes of slots. -/
theorem withModeAll_withoutMarker (count : Nat) (nodes : List Node) :
    withoutMarker count (withModeAll mode nodes) =
      withModeAll mode (withoutMarker count nodes) := by
  rw [withoutMarker, withoutMarker, withModeAll_cutAll]
  cases left : (cutAll count nodes).1 with
  | nil => simp only [withModeAll]
  | cons node others =>
    cases node with
    | block kind children =>
      simp only [withModeAll, withMode, withModeAll_trimLeading]
      cases trimLeading children with
      | nil => simp only [withModeAll]
      | cons first rest => simp only [withModeAll, withMode]
    | _ => simp only [withModeAll, withMode]

end Node

/-! ## Building -/

section Building

open Node

/-- Building one by one commutes with giving a mode if each building does. -/
theorem mapM_withMode {α : Type} {mode : Mode} {build buildOther : α → Build Node}
    (each : ∀ a, buildOther a = withMode mode <$> build a) (as : List α) :
    as.mapM buildOther = withModeAll mode <$> as.mapM build := by
  induction as with
  | nil => simp only [List.mapM_nil, map_pure, withModeAll]
  | cons a as ih =>
    simp only [List.mapM_cons, each, ih, map_bind, map_pure, bind_map_left, withModeAll]

variable {parsed : Embed.Parsed} {style compact : Style}

/-- A new slot is compact in a compact render. -/
theorem newSlot_compact (isCompact : compact.compact = true) (descriptor : Embed.Descriptor) :
    newSlot ⟨parsed, compact⟩ descriptor =
      withMode .compact <$> newSlot ⟨parsed, style⟩ descriptor := by
  simp only [newSlot, map_bind, map_pure, withMode, Style.mode, isCompact, if_true]

/-- A text is built compact in a compact render. -/
theorem textNodes_compact (isCompact : compact.compact = true) (live : Bool) (value : Text) :
    textNodes ⟨parsed, compact⟩ live value =
      withModeAll .compact <$> textNodes ⟨parsed, style⟩ live value := by
  rw [textNodes, textNodes]
  split
  · simp only [map_pure, withModeAll]
  · split
    · simp only [map_pure, withModeAll, withMode]
    · apply mapM_withMode
      intro segment
      cases segment with
      | literal text => simp only [map_pure, withMode]
      | embed descriptor => exact newSlot_compact isCompact descriptor

mutual

/-- A piece of running text is built compact in a compact render. -/
theorem inlineNode_compact (isCompact : compact.compact = true) (live : Bool)
    (piece : Markdown.Inline) :
    inlineNode ⟨parsed, compact⟩ live piece =
      withModeAll .compact <$> inlineNode ⟨parsed, style⟩ live piece := by
  cases piece with
  | text value =>
    rw [inlineNode, inlineNode]
    exact textNodes_compact isCompact live value
  | span kind children =>
    simp only [inlineNode, inlineNodes_compact isCompact live children, map_bind, map_pure,
      bind_map_left, withModeAll, withMode]
  | link target children =>
    simp only [inlineNode, inlineNodes_compact isCompact false children, map_bind, map_pure,
      bind_map_left, withModeAll, withMode]
  | _ => simp only [inlineNode, map_pure, withModeAll, withMode]

/-- Running text is built compact in a compact render. -/
theorem inlineNodes_compact (isCompact : compact.compact = true) (live : Bool)
    (pieces : List Markdown.Inline) :
    inlineNodes ⟨parsed, compact⟩ live pieces =
      withModeAll .compact <$> inlineNodes ⟨parsed, style⟩ live pieces := by
  cases pieces with
  | nil => simp only [inlineNodes, map_pure, withModeAll]
  | cons piece pieces =>
    simp only [inlineNodes, inlineNode_compact isCompact live piece,
      inlineNodes_compact isCompact live pieces, map_bind, map_pure, bind_map_left,
      withModeAll_append]

end

/-- A paragraph is built compact in a compact render. -/
theorem paragraphNode_compact (isCompact : compact.compact = true) (tight : Bool)
    (children : List Node) :
    paragraphNode ⟨parsed, compact⟩ tight (withModeAll .compact children) =
      (paragraphNode ⟨parsed, style⟩ tight children).withMode .compact := by
  have slots : (withModeAll .compact children).any isSlot = children.any isSlot := by
    simp only [withModeAll_eq_map, List.any_map, Function.comp_def, withMode_isSlot]
  have cards : withModeAll .compact (children.map asCard) = withModeAll .compact children := by
    simp only [withModeAll_eq_map, List.map_map, Function.comp_def, withMode_asCard]
  simp only [paragraphNode, isCompact, slots, withMode, Bool.not_true, Bool.and_false,
    Bool.false_and, Bool.false_eq_true, if_false]
  by_cases promoted : (style.standaloneCards && !style.compact && isLoneSlot children) = true
  · simp only [promoted, if_true, cards]
  · rw [Bool.not_eq_true] at promoted
    simp only [promoted, Bool.false_eq_true, if_false]

/-- Building a quote commutes with giving a mode. -/
theorem quoteNode_withMode (mode : Mode) (children : List Node) :
    quoteNode (withModeAll mode children) = withMode mode <$> quoteNode children := by
  simp only [quoteNode, flatten_withModeAll, map_bind]
  congr 1
  funext region
  split
  · simp only [map_bind, map_pure, withMode, withModeAll, withModeAll_withoutMarker]
  · simp only [map_pure, withMode]

/-- Building a container commutes with giving a mode. -/
theorem containerNode_withMode (mode : Mode) (className title text : Text) (children : List Node) :
    containerNode className title text (withModeAll mode children) =
      withMode mode <$> containerNode className title text children := by
  simp only [containerNode, map_bind]
  congr 1
  funext region
  cases region with
  | none => simp only [map_pure, withMode]
  | some region => simp only [map_bind, map_pure, withMode, withModeAll]

section Blocks

variable {deeper deeperCompact : Blocks → Build (List Node)}

/-- Building a division commutes with giving a mode if building its inside does. -/
theorem divisionNode_withMode {mode : Mode}
    (inside : ∀ blocks, deeperCompact blocks = withModeAll mode <$> deeper blocks)
    (start : DivisionStart) (blocks : Blocks) :
    divisionNode deeperCompact start blocks =
      withMode mode <$> divisionNode deeper start blocks := by
  simp only [divisionNode, inside, bind_map_left, flatten_withModeAll, containerNode_withMode]
  split <;> simp only [map_bind]

mutual

/-- A block is built compact in a compact render. -/
theorem blockNode_compact (isCompact : compact.compact = true)
    (inside : ∀ blocks, deeperCompact blocks = withModeAll .compact <$> deeper blocks)
    (block : Markdown.Block (List Markdown.Inline)) :
    blockNode deeperCompact ⟨parsed, compact⟩ block =
      withMode .compact <$> blockNode deeper ⟨parsed, style⟩ block := by
  cases block with
  | paragraph tight content =>
    have nodes : inlineNodes ⟨parsed, compact⟩ true content =
        withModeAll .compact <$> inlineNodes ⟨parsed, style⟩ true content :=
      inlineNodes_compact isCompact true content
    have paragraph (children : List Node) :
        paragraphNode ⟨parsed, compact⟩ tight (withModeAll .compact children) =
          (paragraphNode ⟨parsed, style⟩ tight children).withMode .compact :=
      paragraphNode_compact isCompact tight children
    simp only [blockNode, nodes, paragraph, map_bind, map_pure, bind_map_left]
  | heading level content =>
    have nodes : inlineNodes ⟨parsed, compact⟩ true content =
        withModeAll .compact <$> inlineNodes ⟨parsed, style⟩ true content :=
      inlineNodes_compact isCompact true content
    simp only [blockNode, nodes, map_bind, map_pure, bind_map_left, withMode]
  | bulletList items =>
    have nodes := blockNodes_compact isCompact inside 0 items
    simp only [blockNode, nodes, map_bind, map_pure, bind_map_left, withMode]
  | orderedList start items =>
    have nodes := blockNodes_compact isCompact inside 0 items
    simp only [blockNode, nodes, map_bind, map_pure, bind_map_left, withMode]
  | item children =>
    have nodes := blockNodes_compact isCompact inside 0 children
    simp only [blockNode, nodes, map_bind, map_pure, bind_map_left, withMode]
  | quote children =>
    have nodes := blockNodes_compact isCompact inside 0 children
    simp only [blockNode, nodes, map_bind, bind_map_left, quoteNode_withMode]
  | container info children =>
    have nodes := blockNodes_compact isCompact inside 0 children
    simp only [blockNode, nodes, map_bind, bind_map_left, fencedContainer, flatten_withModeAll,
      containerNode_withMode]
  | _ => simp only [blockNode, map_pure, withMode, plainNode]

/-- Blocks are built compact in a compact render. -/
theorem blockNodes_compact (isCompact : compact.compact = true)
    (inside : ∀ blocks, deeperCompact blocks = withModeAll .compact <$> deeper blocks)
    (skip : Nat) (blocks : Blocks) :
    blockNodes deeperCompact ⟨parsed, compact⟩ skip blocks =
      withModeAll .compact <$> blockNodes deeper ⟨parsed, style⟩ skip blocks := by
  cases blocks with
  | nil => cases skip <;> simp only [blockNodes, map_pure, withModeAll]
  | cons block blocks =>
    cases skip with
    | succ skip =>
      simp only [blockNodes]
      exact blockNodes_compact isCompact inside skip blocks
    | zero =>
      simp only [blockNodes]
      split
      · rename_i start found
        have here := divisionNode_withMode inside start blocks
        have behind := blockNodes_compact isCompact inside start.used blocks
        simp only [here, behind, map_bind, map_pure, bind_map_left, withModeAll]
      · have here := blockNode_compact isCompact inside block
        have behind := blockNodes_compact isCompact inside 0 blocks
        simp only [here, behind, map_bind, map_pure, bind_map_left, withModeAll]

end

end Blocks

/-- Blocks in a compact style have the nodes that they have in any other style, with compact
slots. -/
theorem nodesOf_compact (isCompact : compact.compact = true) (fuel : Nat) (blocks : Blocks) :
    nodesOf ⟨parsed, compact⟩ fuel blocks =
      withModeAll .compact <$> nodesOf ⟨parsed, style⟩ fuel blocks := by
  induction fuel generalizing blocks with
  | zero =>
    simp only [nodesOf]
    apply blockNodes_compact isCompact
    intro blocks
    simp only [map_pure, withModeAll]
  | succ fuel ih =>
    simp only [nodesOf]
    exact blockNodes_compact isCompact ih 0 blocks

/-- A compact render builds what any render builds, made compact. -/
theorem build_compact (isCompact : compact.compact = true) :
    build ⟨parsed, compact⟩ = withModeAll .compact <$> build ⟨parsed, style⟩ := by
  have nodes (fuel : Nat) (blocks : Blocks) : nodesOf ⟨parsed, compact⟩ fuel blocks =
      withModeAll .compact <$> nodesOf ⟨parsed, style⟩ fuel blocks :=
    nodesOf_compact isCompact fuel blocks
  simp only [build, nodes, map_bind]

end Building

/-! ## Renders -/

/-- A document all of whose slots have one mode. -/
def Rendered.withMode (mode : Mode) (rendered : Rendered) : Rendered :=
  { rendered with tree := Node.withModeAll mode rendered.tree }

/-- The mode that a document is given last is the one that counts. -/
theorem Rendered.withMode_withMode (mode first : Mode) (rendered : Rendered) :
    (rendered.withMode first).withMode mode = rendered.withMode mode := by
  simp only [Rendered.withMode, Node.withModeAll_withModeAll]

/-- What is reported of a document does not depend on modes. -/
theorem renderedEvent_withMode (mode : Mode) (rendered : Rendered) :
    renderedEvent (rendered.withMode mode) = renderedEvent rendered := by
  have blocks : (Node.withModeAll mode rendered.tree).length = rendered.tree.length := by
    rw [Node.withModeAll_eq_map, List.length_map]
  simp only [renderedEvent, Rendered.withMode, blocks, Node.slots_withModeAll,
    Node.regions_withModeAll, List.length_map]

/-- A compact render is any other render of the text with compact slots, and reports the same. -/
theorem render_compact {style compact : Style} (isCompact : compact.compact = true)
    (embedsEnabled : Bool) (content : Text) :
    render compact embedsEnabled content =
      ((render style embedsEnabled content).1.map (Rendered.withMode .compact),
        (render style embedsEnabled content).2) := by
  rw [render, render]
  dsimp only
  cases (if embedsEnabled then Embed.extract (Text.unifyNewlines content)
      else .ok ⟨Text.unifyNewlines content, []⟩) with
  | error cause => rfl
  | ok parsed =>
    dsimp only
    have built : build ⟨parsed, compact⟩ =
        Node.withModeAll .compact <$> build ⟨parsed, style⟩ := build_compact isCompact
    rw [built]
    cases ran : (build ⟨parsed, style⟩).run.run {} with
    | mk result progress =>
      have compactRan : (Node.withModeAll .compact <$> build ⟨parsed, style⟩).run.run {} =
          (result.map (Node.withModeAll .compact), progress) := by
        rw [ExceptT.run_map, StateT.run_map, ran]
        rfl
      rw [compactRan]
      cases result with
      | error cause => rfl
      | ok tree =>
        have event := renderedEvent_withMode .compact ⟨tree, parsed, embedsEnabled⟩
        simp only [Except.map, ← event, Rendered.withMode]

/-- Styles have no bearing on what is built. Two renders of one text in any two styles come to the
same once all the slots are given one mode, be it a tree or a refusal, and report the same. In a
compact style every slot is compact. -/
theorem render_modes (style other : Style) (embedsEnabled : Bool) (content : Text) :
    (∀ mode, (render style embedsEnabled content).1.map (Rendered.withMode mode) =
      (render other embedsEnabled content).1.map (Rendered.withMode mode)) ∧
    (render style embedsEnabled content).2 = (render other embedsEnabled content).2 ∧
    (style.compact = true → ∀ rendered, (render style embedsEnabled content).1 = .ok rendered →
      ∀ s ∈ Node.slots rendered.tree, s.mode = .compact) := by
  have isCompact : (⟨true, false⟩ : Style).compact = true := rfl
  -- Both renders are compared with the compact one, in which no other mode is left.
  have compacts (style : Style) : render ⟨true, false⟩ embedsEnabled content =
      ((render style embedsEnabled content).1.map (Rendered.withMode .compact),
        (render style embedsEnabled content).2) := render_compact isCompact embedsEnabled content
  obtain ⟨trees, events⟩ := Prod.mk.inj ((compacts style).symm.trans (compacts other))
  refine ⟨?_, events, ?_⟩
  · intro mode
    have wiped (result : Except BuildError Rendered) :
        (result.map (Rendered.withMode .compact)).map (Rendered.withMode mode) =
          result.map (Rendered.withMode mode) := by
      cases result with
      | error cause => rfl
      | ok rendered => exact congrArg Except.ok (rendered.withMode_withMode mode .compact)
    rw [← wiped, trees, wiped]
  · intro isCompact rendered ok s mem
    have again : (render style embedsEnabled content).1 =
        (render style embedsEnabled content).1.map (Rendered.withMode .compact) :=
      congrArg Prod.fst (render_compact isCompact embedsEnabled content)
    rw [ok] at again
    have tree : rendered = rendered.withMode .compact := Except.ok.inj again
    rw [tree, Rendered.withMode, Node.slots_withModeAll] at mem
    obtain ⟨other, -, rfl⟩ := List.mem_map.mp mem
    rfl

/-- A paragraph with an embed and nothing else in it, and one with an embed among words. -/
def twoParagraphs : Text := "\x7b\x7barc:1\x7d\x7d\n\nAfter \x7b\x7barc:2\x7d\x7d".toList

/-- The style in which the first embed becomes a card and the compact style come to the same once
all the slots are shown in line. -/
theorem render_modes_twoParagraphs :
    ∃ cards compact, (render ⟨false, true⟩ true twoParagraphs).1 = .ok cards ∧
      (render ⟨true, true⟩ true twoParagraphs).1 = .ok compact ∧
      (Node.slots cards.tree).map (·.mode) = [.full, .inline] ∧
      (∀ s ∈ Node.slots compact.tree, s.mode = .compact) ∧
      cards.withMode .inline = compact.withMode .inline := by
  have passes : (render ⟨false, true⟩ true twoParagraphs).1.toOption.any
      (fun rendered => (Node.slots rendered.tree).map (·.mode) == [.full, .inline]) = true := by
    decide +kernel
  obtain ⟨cards, events, cardsOk, modes⟩ := exists_of_any passes
  have succeeds :
      (render ⟨true, true⟩ true twoParagraphs).1.toOption.any (fun _ => true) = true := by
    decide +kernel
  obtain ⟨compact, compactEvents, compactOk, -⟩ := exists_of_any succeeds
  obtain ⟨-, -, compactly⟩ := render_modes ⟨true, true⟩ ⟨false, true⟩ true twoParagraphs
  obtain ⟨same, -, -⟩ := render_modes ⟨false, true⟩ ⟨true, true⟩ true twoParagraphs
  have trees := same .inline
  rw [compactOk] at compactly
  rw [cardsOk, compactOk] at trees
  rw [cardsOk, compactOk]
  exact ⟨cards, compact, rfl, rfl, eq_of_beq modes, compactly rfl compact rfl,
    Except.ok.inj trees⟩

end Loremark.Tree
