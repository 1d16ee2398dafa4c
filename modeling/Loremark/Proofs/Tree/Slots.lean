import Loremark.Proofs.Embed.Token
import Loremark.Proofs.Tree.Building
import Loremark.Proofs.Tree.Strings

/-!
# The slots of a tree

The slots of a rendered tree are numbered in document order, without a gap (`render_keys`), so that
no two of them have one key. Cutting a marker off a quote keeps every slot: what it takes away are
texts, line breaks and code, and nothing stands below those (`Solid`).
-/

set_option autoImplicit false

namespace Loremark.Tree

/-- Whether a kind of inline markup is text itself, so that it is cut as a whole. -/
def InlineKind.isSolid : InlineKind → Bool
  | softBreak | hardBreak | code _ => true
  | _ => false

namespace Node

variable {nodes others children : List Node}

/-! ## Slots by recursion on the tree -/

/-- The listing of a node begins with the node. -/
theorem preorder_eq (node : Node) : preorder node = node :: preorderAll node.children := by
  cases node <;> rfl

/-- The walk with a stack and the recursion on the tree list the same nodes. -/
theorem walk_eq_preorderAll (nodes : List Node) : walk nodes = preorderAll nodes := by
  fun_induction walk nodes with
  | case1 => rfl
  | case2 node stack ih =>
    rw [ih, preorderAll_append, preorderAll, preorder_eq, List.cons_append]

/-- The slots of nodes are those in their listing. -/
theorem slots_eq (nodes : List Node) : slots nodes = (preorderAll nodes).filterMap slot? := by
  rw [slots, walk_eq_preorderAll]

/-- No nodes have no slots. -/
theorem slots_nil : slots [] = [] := by
  rw [slots_eq]
  rfl

/-- The slots of two lists of nodes follow each other. -/
theorem slots_append : slots (nodes ++ others) = slots nodes ++ slots others := by
  rw [slots_eq, slots_eq, slots_eq, preorderAll_append, List.filterMap_append]

/-- The slots of the first node stand in front of those of the others. -/
theorem slots_cons (node : Node) : slots (node :: nodes) = slots [node] ++ slots nodes := by
  rw [← List.singleton_append, slots_append]

/-- A text has no slots. -/
theorem slots_text (value : Text) : slots [.text value] = [] := by
  simp [slots_eq, preorderAll, preorder, slot?]

/-- A slot is its own slot. -/
theorem slots_slot (s : Slot) : slots [.slot s] = [s] := by
  simp [slots_eq, preorderAll, preorder, slot?]

/-- Plain output has no slots. -/
theorem slots_raw (html : Text) : slots [.raw html] = [] := by
  simp [slots_eq, preorderAll, preorder, slot?]

/-- A gated region has the slots below it. -/
theorem slots_spoiler (region : Spoiler.Region) :
    slots [.spoiler region children] = slots children := by
  simp [slots_eq, preorderAll, preorder, slot?, List.filterMap_cons]

/-- Inline markup has the slots below it. -/
theorem slots_inline (kind : InlineKind) : slots [.inline kind children] = slots children := by
  simp [slots_eq, preorderAll, preorder, slot?, List.filterMap_cons]

/-- A block has the slots below it. -/
theorem slots_block (kind : BlockKind) : slots [.block kind children] = slots children := by
  simp [slots_eq, preorderAll, preorder, slot?, List.filterMap_cons]

/-! ## Cutting -/

/-- Nothing stands below a node that is cut as a whole. -/
def SolidHere : Node → Prop
  | inline kind children => kind.isSolid = true → children = []
  | _ => True

/-- Nothing stands below the line breaks and the code of a tree. -/
def Solid (nodes : List Node) : Prop := Everywhere SolidHere nodes

mutual

/-- Cutting a node keeps its slots. -/
theorem cutNode_slots (count : Nat) (node : Node) (solid : Solid [node]) :
    slots (cutNode count node).1 = slots [node] ∧ Solid (cutNode count node).1 := by
  cases node with
  | text value =>
    rw [cutNode]
    split
    · exact ⟨slots_nil.trans (slots_text value).symm, everywhere_nil⟩
    · exact ⟨(slots_text _).trans (slots_text value).symm, everywhere_text.mpr trivial⟩
  | slot s => exact ⟨rfl, solid⟩
  | raw html => exact ⟨rfl, solid⟩
  | spoiler region children => exact ⟨rfl, solid⟩
  | inline kind children =>
    obtain ⟨here, below⟩ := everywhere_inline.mp solid
    obtain ⟨same, shorter⟩ := cutAll_slots count children below
    cases kind with
    -- Nothing stands below what is cut as a whole, so no slot goes with it.
    | softBreak =>
      obtain rfl := here rfl
      exact ⟨slots_nil.trans ((slots_inline _).trans slots_nil).symm, everywhere_nil⟩
    | hardBreak =>
      obtain rfl := here rfl
      exact ⟨slots_nil.trans ((slots_inline _).trans slots_nil).symm, everywhere_nil⟩
    | code content =>
      obtain rfl := here rfl
      rw [cutNode]
      split
      · exact ⟨slots_nil.trans ((slots_inline _).trans slots_nil).symm, everywhere_nil⟩
      · exact ⟨(slots_inline _).trans (slots_inline _).symm,
          everywhere_inline.mpr ⟨fun _ => rfl, everywhere_nil⟩⟩
    | _ =>
      simp only [cutNode]
      split
      · rename_i empty
        rw [slots_inline, ← same, List.isEmpty_iff.mp empty]
        exact ⟨rfl, everywhere_nil⟩
      · rw [slots_inline, slots_inline]
        exact ⟨same, everywhere_inline.mpr ⟨fun solid => (by cases solid), shorter⟩⟩
  | block kind children =>
    obtain ⟨-, below⟩ := everywhere_block.mp solid
    obtain ⟨same, shorter⟩ := cutAll_slots count children below
    rw [cutNode]
    dsimp only
    split
    · rename_i empty
      rw [slots_block, ← same, List.isEmpty_iff.mp empty]
      exact ⟨rfl, everywhere_nil⟩
    · rw [slots_block, slots_block]
      exact ⟨same, everywhere_block.mpr ⟨trivial, shorter⟩⟩

/-- Cutting nodes keeps their slots. -/
theorem cutAll_slots (count : Nat) (nodes : List Node) (solid : Solid nodes) :
    slots (cutAll count nodes).1 = slots nodes ∧ Solid (cutAll count nodes).1 := by
  cases nodes with
  | nil => exact ⟨rfl, solid⟩
  | cons node nodes =>
    rw [cutAll]
    split
    · exact ⟨rfl, solid⟩
    · obtain ⟨here, behind⟩ := everywhere_cons.mp solid
      obtain ⟨same, first⟩ := cutNode_slots count node here
      obtain ⟨others, rest⟩ := cutAll_slots (cutNode count node).2 nodes behind
      dsimp only
      rw [slots_append, same, others, ← slots_cons]
      exact ⟨rfl, everywhere_append.mpr ⟨first, rest⟩⟩

end

/-- Trimming nodes keeps their slots. -/
theorem trimLeading_slots (nodes : List Node) (solid : Solid nodes) :
    slots (trimLeading nodes) = slots nodes ∧ Solid (trimLeading nodes) := by
  fun_induction trimLeading nodes with
  | case1 value nodes blank ih =>
    rw [slots_cons, slots_text, List.nil_append]
    exact ih (everywhere_cons.mp solid).2
  | case2 value nodes more =>
    rw [slots_cons, slots_text, slots_cons (.text value), slots_text]
    exact ⟨rfl, everywhere_cons.mpr ⟨everywhere_text.mpr trivial, (everywhere_cons.mp solid).2⟩⟩
  | case3 kind children nodes isBreak ih =>
    obtain ⟨here, behind⟩ := everywhere_cons.mp solid
    have isSolid : kind.isSolid = true := by cases kind <;> first | rfl | cases isBreak
    obtain rfl := (everywhere_inline.mp here).1 isSolid
    rw [slots_cons, slots_inline, slots_nil, List.nil_append]
    exact ih behind
  | case4 kind children nodes other => exact ⟨rfl, solid⟩
  | case5 nodes => exact ⟨rfl, solid⟩

/-- A quote without its marker has the slots that it had. -/
theorem withoutMarker_slots (count : Nat) (nodes : List Node) (solid : Solid nodes) :
    slots (withoutMarker count nodes) = slots nodes ∧ Solid (withoutMarker count nodes) := by
  obtain ⟨same, cut⟩ := cutAll_slots count nodes solid
  rw [withoutMarker]
  split
  · rename_i kind children rest left
    rw [left] at same cut
    obtain ⟨first, behind⟩ := everywhere_cons.mp cut
    obtain ⟨trimmed, below⟩ := trimLeading_slots children (everywhere_block.mp first).2
    rw [← same, slots_cons, slots_block, ← trimmed]
    split
    · rename_i empty
      rw [empty, slots_nil, List.nil_append]
      exact ⟨rfl, behind⟩
    · rw [slots_cons, slots_block]
      exact ⟨rfl, everywhere_cons.mpr ⟨everywhere_block.mpr ⟨trivial, below⟩, behind⟩⟩
  · exact ⟨same, cut⟩

end Node

/-! ## Numbering -/

/-- The keys of the slots from a number on up to another one. -/
def keysFrom (n later : Nat) : List Text :=
  (List.range' n (later - n)).map fun number => "embed-".toList ++ Text.ofNat number

/-- The slots of nodes are numbered from a number on up to another one. -/
structure Numbered (n : Nat) (nodes : List Node) (later : Nat) : Prop where
  le : n ≤ later
  keys : (Node.slots nodes).map Slot.key = keysFrom n later
  solid : Node.Solid nodes

section Numbering

open Node

variable {source : Source} {n middle later : Nat} {nodes others : List Node}

/-- Keys go on where others end. -/
theorem keysFrom_append (first : n ≤ middle) (second : middle ≤ later) :
    keysFrom n middle ++ keysFrom middle later = keysFrom n later := by
  have glued : List.range' n (middle - n) ++ List.range' middle (later - middle) =
      List.range' n (later - n) := by
    have steps : later - n = (middle - n) + (later - middle) := by omega
    have start : n + 1 * (middle - n) = middle := by omega
    rw [steps, ← List.range'_append, start]
  rw [keysFrom, keysFrom, ← List.map_append, glued, keysFrom]

/-- From a number to itself there are no keys. -/
theorem keysFrom_self : keysFrom n n = [] := by
  rw [keysFrom, Nat.sub_self]
  rfl

/-- No key comes twice. -/
theorem keysFrom_nodup : (keysFrom n later).Nodup := by
  refine List.Nodup.map ?_ List.nodup_range'
  intro a b same
  exact Text.ofNat_injective (List.append_cancel_left same)

/-- No nodes take no numbers. -/
theorem Numbered.nil : Numbered n [] n :=
  ⟨le_rfl, by rw [slots_nil, keysFrom_self]; rfl, everywhere_nil⟩

/-- The numbers of nodes go on where those of the nodes in front end. -/
theorem Numbered.append (first : Numbered n nodes middle) (second : Numbered middle others later) :
    Numbered n (nodes ++ others) later where
  le := first.le.trans second.le
  keys := by
    rw [slots_append, List.map_append, first.keys, second.keys,
      keysFrom_append first.le second.le]
  solid := everywhere_append.mpr ⟨first.solid, second.solid⟩

/-- A node without slots takes no numbers. -/
theorem Numbered.of_slotless {node : Node} (none : slots [node] = []) (solid : Solid [node]) :
    Numbered n [node] n :=
  ⟨le_rfl, by rw [none, keysFrom_self]; rfl, solid⟩

/-- A block takes the numbers of its children. -/
theorem Numbered.block {kind : BlockKind} (numbered : Numbered n nodes later) :
    Numbered n [.block kind nodes] later :=
  ⟨numbered.le, by rw [slots_block, numbered.keys],
    everywhere_block.mpr ⟨trivial, numbered.solid⟩⟩

/-- A gated region takes the numbers of what is below it. -/
theorem Numbered.spoiler {region : Spoiler.Region} (numbered : Numbered n nodes later) :
    Numbered n [.spoiler region nodes] later :=
  ⟨numbered.le, by rw [slots_spoiler, numbered.keys],
    everywhere_spoiler.mpr ⟨trivial, numbered.solid⟩⟩

/-- Inline markup takes the numbers of what is below it. -/
theorem Numbered.inline {kind : InlineKind} (hollow : kind.isSolid = false)
    (numbered : Numbered n nodes later) : Numbered n [.inline kind nodes] later :=
  ⟨numbered.le, by rw [slots_inline, numbered.keys],
    everywhere_inline.mpr
      ⟨fun solid => (by rw [hollow] at solid; cases solid), numbered.solid⟩⟩

/-- A slot takes one number. -/
theorem Numbered.slot {s : Slot} (key : s.key = "embed-".toList ++ Text.ofNat n) :
    Numbered n [.slot s] (n + 1) where
  le := Nat.le_succ n
  keys := by
    rw [slots_slot, List.map_singleton, key, keysFrom, Nat.add_sub_cancel_left]
    rfl
  solid := everywhere_slot.mpr trivial

/-! ## Running text -/

/-- The pieces of a text are numbered. -/
theorem pieces_numbered {pieces : List Embed.Segment}
    (shown : ShownPieces source n pieces nodes later) : Numbered n nodes later := by
  induction shown with
  | nil n => exact .nil
  | literal text behind ih =>
    exact (Numbered.of_slotless (slots_text text) (everywhere_text.mpr trivial)).append ih
  | embed descriptor behind ih => exact (Numbered.slot rfl).append ih

/-- A text is numbered. -/
theorem text_numbered {live : Bool} {value : Text}
    (shown : ShownText source live n value nodes later) : Numbered n nodes later := by
  cases shown with
  | empty live n => exact .nil
  | restored nonempty whole => exact .of_slotless (slots_text _) (everywhere_text.mpr trivial)
  | split nonempty embeds pieces => exact pieces_numbered pieces

mutual

/-- A piece of running text is numbered. -/
theorem inline_numbered {live : Bool} {n later : Nat} {piece : Markdown.Inline}
    {nodes : List Node} (shown : ShownInline source live n piece nodes later) :
    Numbered n nodes later := by
  cases shown with
  | text shown => exact text_numbered shown
  | leaf leaf =>
    refine .of_slotless ((slots_inline _).trans slots_nil) ?_
    exact everywhere_inline.mpr ⟨fun _ => rfl, everywhere_nil⟩
  | span shown =>
    rename_i kind pieces inner
    exact (inlines_numbered shown).inline (by cases kind <;> rfl)
  | link shown => exact (inlines_numbered shown).inline rfl

/-- Running text is numbered. -/
theorem inlines_numbered {live : Bool} {n later : Nat} {pieces : List Markdown.Inline}
    {nodes : List Node} (shown : ShownInlines source live n pieces nodes later) :
    Numbered n nodes later := by
  cases shown with
  | nil live n => exact .nil
  | cons here behind => exact (inline_numbered here).append (inlines_numbered behind)

end

/-! ## Blocks -/

/-- Cards keep the numbers of their slots. -/
theorem Numbered.cards (numbered : Numbered n nodes later) :
    Numbered n (nodes.map Node.asCard) later := by
  have one (node : Node) : (slots [node.asCard]).map Slot.key = (slots [node]).map Slot.key ∧
      (Solid [node] → Solid [node.asCard]) := by
    cases node with
    | slot s =>
      exact ⟨by rw [asCard, slots_slot, slots_slot]; rfl, fun _ => everywhere_slot.mpr trivial⟩
    | _ => exact ⟨rfl, id⟩
  have all (nodes : List Node) :
      (slots (nodes.map asCard)).map Slot.key = (slots nodes).map Slot.key ∧
        (Solid nodes → Solid (nodes.map asCard)) := by
    induction nodes with
    | nil => exact ⟨rfl, id⟩
    | cons node nodes ih =>
      rw [List.map_cons, slots_cons, slots_cons node, List.map_append, List.map_append, ih.1,
        (one node).1]
      refine ⟨rfl, fun solid => ?_⟩
      obtain ⟨here, behind⟩ := everywhere_cons.mp solid
      exact everywhere_cons.mpr ⟨(one node).2 here, ih.2 behind⟩
  exact ⟨numbered.le, (all nodes).1.trans numbered.keys, (all nodes).2 numbered.solid⟩

/-- A paragraph keeps the numbers of its children. -/
theorem Numbered.paragraph (numbered : Numbered n nodes later) (tight : Bool) :
    Numbered n [paragraphNode source tight nodes] later := by
  rw [paragraphNode]
  split
  · exact numbered.cards.block
  · exact numbered.block

/-- A container keeps the numbers of its children. -/
theorem Numbered.container (numbered : Numbered n nodes later) {className title text : Text}
    {node : Node} (built : ShownContainer className title text nodes node) :
    Numbered n [node] later := by
  cases built with
  | bare detected => exact numbered.block
  | gated detected => exact numbered.block.spoiler

/-- A quote keeps the numbers of its children. -/
theorem Numbered.quote (numbered : Numbered n nodes later) {node : Node}
    (built : ShownQuote nodes node) : Numbered n [node] later := by
  cases built with
  | bare plain => exact numbered.block
  | gated marker detected =>
    rename_i region digits rest
    obtain ⟨same, solid⟩ :=
      withoutMarker_slots ((flatten nodes).length - rest.length) nodes numbered.solid
    have inside : Numbered n (withoutMarker ((flatten nodes).length - rest.length) nodes) later :=
      ⟨numbered.le, by rw [same, numbered.keys], solid⟩
    exact inside.block.spoiler

mutual

/-- However an outline is shown, its node is numbered. -/
theorem shown_numbered {n later : Nat} {outline : Outline} {node : Node}
    (shown : Shown source n outline node later) : Numbered n [node] later := by
  cases shown with
  | paragraph shown => exact (inlines_numbered shown).paragraph _
  | heading shown => exact (inlines_numbered shown).block
  | bulletList shown => exact (shownAll_numbered shown).block
  | orderedList shown => exact (shownAll_numbered shown).block
  | item shown => exact (shownAll_numbered shown).block
  | quote shown built => exact (shownAll_numbered shown).quote built
  | container shown built => exact (shownAll_numbered shown).container built
  | division shown built => exact (shownAll_numbered shown).container built
  | plain n block => exact .of_slotless (slots_raw _) (everywhere_raw.mpr trivial)

/-- However outlines are shown, their nodes are numbered. -/
theorem shownAll_numbered {n later : Nat} {outlines : List Outline} {nodes : List Node}
    (shown : ShownAll source n outlines nodes later) : Numbered n nodes later := by
  cases shown with
  | nil n => exact .nil
  | cons here behind => exact (shown_numbered here).append (shownAll_numbered behind)

end

end Numbering

/-- The slots of a rendered tree are numbered from zero on. -/
theorem render_keys {style : Style} {embedsEnabled : Bool} {content : Text} {rendered : Rendered}
    {events : List Log.Event}
    (ok : render style embedsEnabled content = (.ok rendered, events)) :
    ∃ count, (Node.slots rendered.tree).map Slot.key = keysFrom 0 count := by
  obtain ⟨-, outlines, count, -, shown⟩ := render_shown ok
  exact ⟨count, (shownAll_numbered shown).keys⟩

/-- The keys of the slots of a rendered tree are the numbers below that of its slots, in document
order and each of them once. -/
theorem render_keys_range {style : Style} {embedsEnabled : Bool} {content : Text}
    {rendered : Rendered} {events : List Log.Event}
    (ok : render style embedsEnabled content = (.ok rendered, events)) :
    (Node.slots rendered.tree).map Slot.key =
        (List.range (Node.slots rendered.tree).length).map (fun number =>
          "embed-".toList ++ Text.ofNat number) ∧
      ((Node.slots rendered.tree).map Slot.key).Nodup := by
  obtain ⟨count, keys⟩ := render_keys ok
  have length : (Node.slots rendered.tree).length = count := by
    simpa [keysFrom] using congrArg List.length keys
  rw [keys, length]
  refine ⟨?_, keysFrom_nodup⟩
  rw [keysFrom, Nat.sub_zero, ← List.range_eq_range']

/-- Embeds in a quote, in emphasis, in a heading, and in a list. -/
def scatteredEmbeds : Text :=
  ("> \x7b\x7barc:1\x7d\x7d and *\x7b\x7bvolume:2\x7d\x7d*\n\n" ++
    "# \x7b\x7bguide:4\x7d\x7d\n\n- \x7b\x7barc:1\x7d\x7d").toList

/-- Four scattered embeds get the first four keys. -/
theorem render_keys_range_scatteredEmbeds : ∃ rendered events,
    render {} true scatteredEmbeds = (.ok rendered, events) ∧
      (Node.slots rendered.tree).length = 4 ∧
      (Node.slots rendered.tree).map Slot.key =
        (List.range (Node.slots rendered.tree).length).map (fun number =>
          "embed-".toList ++ Text.ofNat number) ∧
      ((Node.slots rendered.tree).map Slot.key).Nodup := by
  have shows : (render {} true scatteredEmbeds).1.toOption.any (fun rendered =>
      ((Node.preorderAll rendered.tree).filterMap Node.slot?).length == 4) = true := by
    decide +kernel
  obtain ⟨rendered, events, ok, four⟩ := exists_of_any shows
  rw [beq_iff_eq, ← Node.slots_eq] at four
  exact ⟨rendered, events, ok, four, render_keys_range ok⟩

end Loremark.Tree
