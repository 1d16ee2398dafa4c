import Loremark.Proofs.Embed.Splitting
import Loremark.Proofs.Tree.Regions
import Loremark.Proofs.Tree.Slots

/-!
# Texts and paragraphs of a tree

No text of a rendered tree is empty, and a paragraph with a slot among its children is marked, so
that no card stands in a paragraph element (`render_tidy`). Running text is made of texts with
characters and of slots in the mode of the style. Cutting a marker off a quote gives no block a slot
that it had not, and drops a text of which nothing is left.
-/

set_option autoImplicit false

namespace Loremark.Tree

open Markdown Node

/-! ## Running text -/

/-- A piece of running text as it is built: a text with characters, a slot in the mode of the style,
or inline markup. -/
def Fresh (source : Source) : Node → Prop
  | .text value => value ≠ []
  | .slot s => s.mode = source.style.mode
  | .inline .. => True
  | _ => False

section Fresh

variable {source : Source}

/-- Putting embeds back into a text leaves something of it. -/
theorem restore_ne_nil {p : Embed.Parsed} (distinct : p.Distinct) {value : Text}
    (nonempty : value ≠ []) : p.restore value ≠ [] := by
  cases value with
  | nil => exact absurd rfl nonempty
  | cons c value =>
    unfold Embed.Parsed.restore
    cases found : p.tokenAt? (c :: value) with
    | none =>
      rw [Embed.Parsed.restoreWith_plain found]
      exact List.cons_ne_nil _ _
    | some d =>
      obtain ⟨inner, braced⟩ := distinct.braced d (Embed.Parsed.tokenAt?_eq_some found).1
      rw [Embed.Parsed.restoreWith_found found, braced]
      simp

/-- The pieces of a text are fresh if its literal pieces have characters. -/
theorem pieces_fresh {n later : Nat} {pieces : List Embed.Segment} {nodes : List Node}
    (filled : [] ∉ Embed.literals pieces)
    (shown : ShownPieces source n pieces nodes later) : Everywhere (Fresh source) nodes := by
  induction shown with
  | nil n => exact everywhere_nil
  | literal text behind ih =>
    simp only [Embed.literals, List.filterMap_cons, Embed.Segment.literal?, List.mem_cons,
      not_or] at filled
    exact everywhere_cons.mpr ⟨everywhere_text.mpr (Ne.symm filled.1), ih filled.2⟩
  | embed descriptor behind ih =>
    simp only [Embed.literals, List.filterMap_cons, Embed.Segment.literal?] at filled
    exact everywhere_cons.mpr ⟨everywhere_slot.mpr rfl, ih filled⟩

/-- A text is shown as fresh nodes. -/
theorem text_fresh (distinct : source.parsed.Distinct) {live : Bool} {n later : Nat} {value : Text}
    {nodes : List Node} (shown : ShownText source live n value nodes later) :
    Everywhere (Fresh source) nodes := by
  cases shown with
  | empty live n => exact everywhere_nil
  | restored nonempty whole => exact everywhere_text.mpr (restore_ne_nil distinct nonempty)
  | split nonempty embeds pieces =>
    refine pieces_fresh (fun empty => nonempty ?_) pieces
    have whole := Embed.written_reinsert value source.parsed.embeds
    rw [Embed.eq_of_nil_mem_literals empty] at whole
    exact whole.symm

mutual

/-- Running text is shown as fresh nodes. -/
theorem inline_fresh (distinct : source.parsed.Distinct) {live : Bool} {n later : Nat}
    {piece : Inline} {nodes : List Node} (shown : ShownInline source live n piece nodes later) :
    Everywhere (Fresh source) nodes := by
  cases shown with
  | text shown => exact text_fresh distinct shown
  | leaf leaf => exact everywhere_inline.mpr ⟨trivial, everywhere_nil⟩
  | span shown => exact everywhere_inline.mpr ⟨trivial, inlines_fresh distinct shown⟩
  | link shown => exact everywhere_inline.mpr ⟨trivial, inlines_fresh distinct shown⟩

/-- The nodes of running text have characters, and their slots the mode of the style. -/
theorem inlines_fresh (distinct : source.parsed.Distinct) {live : Bool} {n later : Nat}
    {pieces : List Inline} {nodes : List Node}
    (shown : ShownInlines source live n pieces nodes later) : Everywhere (Fresh source) nodes := by
  cases shown with
  | nil live n => exact everywhere_nil
  | cons here behind =>
    exact everywhere_append.mpr ⟨inline_fresh distinct here, inlines_fresh distinct behind⟩

end

/-- The slots of a tree are those in its listing. -/
theorem mem_slots {nodes : List Node} {s : Slot} : s ∈ slots nodes ↔ .slot s ∈ preorderAll nodes := by
  rw [slots_eq, List.mem_filterMap]
  constructor
  · rintro ⟨node, mem, same⟩
    cases node with
    | slot other =>
      obtain rfl := Option.some.inj same
      exact mem
    | _ => cases same
  · exact fun mem => ⟨.slot s, mem, rfl⟩

/-- A fresh slot has the mode of the style. -/
theorem mode_of_fresh {nodes : List Node} (fresh : Everywhere (Fresh source) nodes) {s : Slot}
    (mem : s ∈ slots nodes) : s.mode = source.style.mode := fresh _ (mem_slots.mp mem)

/-- No style makes every slot a card. -/
theorem mode_ne_full (style : Style) : style.mode ≠ .full := by
  unfold Style.mode
  split <;> decide

end Fresh

/-! ## Tidy trees -/

/-- A text with characters; a paragraph that is marked if it has a slot among its children or a
card below it. -/
def Tidy : Node → Prop
  | .text value => value ≠ []
  | .block (.paragraph _ marked) children =>
    marked = false → (∀ s, .slot s ∉ children) ∧ ∀ s ∈ slots children, s.mode ≠ .full
  | _ => True

section Cutting

/-- Cutting brings no slot among some nodes. -/
theorem slot_mem_cutAll {count : Nat} {nodes : List Node} {s : Slot}
    (mem : .slot s ∈ (cutAll count nodes).1) : .slot s ∈ nodes := by
  have one {count : Nat} {node : Node} (mem : .slot s ∈ (cutNode count node).1) :
      node = .slot s := by
    cases node with
    | text value =>
      rw [cutNode] at mem
      split at mem <;> simp at mem
    | inline kind children =>
      cases kind <;> simp only [cutNode] at mem <;> (try split at mem) <;> simp at mem
    | block kind children =>
      simp only [cutNode] at mem
      split at mem <;> simp at mem
    | slot other => simpa [cutNode, eq_comm] using mem
    | raw html => simp [cutNode] at mem
    | spoiler region children => simp [cutNode] at mem
  induction nodes generalizing count with
  | nil => exact mem
  | cons node nodes ih =>
    rw [cutAll] at mem
    split at mem
    · exact mem
    · rcases List.mem_append.mp mem with here | behind
      · rw [one here]
        exact List.mem_cons_self
      · exact List.mem_cons_of_mem node (ih behind)

/-- Trimming nodes adds no slots. -/
theorem slot_mem_trimLeading {nodes : List Node} {s : Slot}
    (mem : .slot s ∈ trimLeading nodes) : .slot s ∈ nodes := by
  fun_induction trimLeading nodes with
  | case1 value nodes blank ih => exact List.mem_cons_of_mem _ (ih mem)
  | case2 value nodes more => simpa using mem
  | case3 kind children nodes isBreak ih => exact List.mem_cons_of_mem _ (ih mem)
  | case4 kind children nodes other => exact mem
  | case5 nodes => exact mem

/-- A block stays tidy if it gets no slots. -/
theorem Tidy.block {kind : BlockKind} {children others : List Node}
    (tidy : Tidy (.block kind children)) (direct : ∀ s, .slot s ∈ others → .slot s ∈ children)
    (below : slots others = slots children) : Tidy (.block kind others) := by
  cases kind with
  | paragraph tight marked =>
    intro unmarked
    obtain ⟨none, modes⟩ := tidy unmarked
    exact ⟨fun s mem => none s (direct s mem), below ▸ modes⟩
  | _ => trivial

mutual

/-- Cutting a node keeps it tidy. -/
theorem tidy_cutNode (count : Nat) (node : Node) (solid : Solid [node])
    (tidy : Everywhere Tidy [node]) : Everywhere Tidy (cutNode count node).1 := by
  cases node with
  | text value =>
    rw [cutNode]
    split
    · exact everywhere_nil
    · rename_i longer
      refine everywhere_text.mpr fun empty => ?_
      exact longer (List.drop_eq_nil_iff.mp empty)
  | inline kind children =>
    have below := tidy_cutAll count children (everywhere_inline.mp solid).2
      (everywhere_inline.mp tidy).2
    have whole := everywhere_inline.mp tidy
    cases kind with
    | softBreak => exact everywhere_nil
    | hardBreak => exact everywhere_nil
    | code content =>
      rw [cutNode]
      split
      · exact everywhere_nil
      · exact everywhere_inline.mpr ⟨trivial, whole.2⟩
    | _ =>
      simp only [cutNode]
      split
      · exact everywhere_nil
      · exact everywhere_inline.mpr ⟨trivial, below⟩
  | block kind children =>
    obtain ⟨own, inside⟩ := everywhere_block.mp tidy
    have solidBelow := (everywhere_block.mp solid).2
    have below := tidy_cutAll count children solidBelow inside
    simp only [cutNode]
    split
    · exact everywhere_nil
    -- A paragraph keeps its slots, so its mark stays right.
    · refine everywhere_block.mpr ⟨own.block (fun s => slot_mem_cutAll) ?_, below⟩
      exact (cutAll_slots count children solidBelow).1
  | _ => exact tidy

/-- Cutting nodes keeps them tidy. -/
theorem tidy_cutAll (count : Nat) (nodes : List Node) (solid : Solid nodes)
    (tidy : Everywhere Tidy nodes) : Everywhere Tidy (cutAll count nodes).1 := by
  cases nodes with
  | nil => exact everywhere_nil
  | cons node nodes =>
    rw [cutAll]
    split
    · exact tidy
    · obtain ⟨solidHere, solidBehind⟩ := everywhere_cons.mp solid
      obtain ⟨here, behind⟩ := everywhere_cons.mp tidy
      exact everywhere_append.mpr ⟨tidy_cutNode count node solidHere here,
        tidy_cutAll _ nodes solidBehind behind⟩

end

/-- Trimming nodes keeps them tidy. -/
theorem tidy_trimLeading {nodes : List Node} (tidy : Everywhere Tidy nodes) :
    Everywhere Tidy (trimLeading nodes) := by
  fun_induction trimLeading nodes with
  | case1 value nodes blank ih => exact ih (everywhere_cons.mp tidy).2
  | case2 value nodes more =>
    refine everywhere_cons.mpr ⟨everywhere_text.mpr ?_, (everywhere_cons.mp tidy).2⟩
    exact more
  | case3 kind children nodes isBreak ih => exact ih (everywhere_cons.mp tidy).2
  | case4 kind children nodes other => exact tidy
  | case5 nodes => exact tidy

/-- Cutting a marker off a quote leaves a tidy tree. -/
theorem tidy_withoutMarker (count : Nat) (nodes : List Node) (solid : Solid nodes)
    (tidy : Everywhere Tidy nodes) : Everywhere Tidy (withoutMarker count nodes) := by
  have cut := tidy_cutAll count nodes solid tidy
  have solidCut := (cutAll_slots count nodes solid).2
  rw [withoutMarker]
  split
  · rename_i kind children rest same
    rw [same] at cut solidCut
    obtain ⟨first, behind⟩ := everywhere_cons.mp cut
    obtain ⟨own, inside⟩ := everywhere_block.mp first
    have solidBelow := (everywhere_block.mp (everywhere_cons.mp solidCut).1).2
    split
    · exact behind
    · refine everywhere_cons.mpr ⟨everywhere_block.mpr ⟨?_, tidy_trimLeading inside⟩, behind⟩
      exact own.block (fun s => slot_mem_trimLeading) (trimLeading_slots children solidBelow).1
  · exact cut

end Cutting

/-! ## Blocks -/

section Blocks

variable {source : Source} {nodes : List Node} {node : Node}

/-- Fresh nodes are tidy. -/
theorem tidy_of_fresh (fresh : Everywhere (Fresh source) nodes) : Everywhere Tidy nodes := by
  intro node mem
  have own := fresh node mem
  cases node with
  | text value => exact own
  | block kind children => cases own
  | _ => trivial

/-- A block that is no paragraph is tidy if what stands below it is. -/
theorem tidy_block {kind : BlockKind} (plain : ∀ tight marked, kind ≠ .paragraph tight marked)
    (below : Everywhere Tidy nodes) : Everywhere Tidy [.block kind nodes] := by
  refine everywhere_block.mpr ⟨?_, below⟩
  cases kind with
  | paragraph tight marked => exact absurd rfl (plain tight marked)
  | _ => trivial

/-- A paragraph of running text is marked if a slot is among its children. Otherwise it has not
been promoted, and its slots have the mode of the style. -/
theorem tidy_paragraph {tight : Bool} (fresh : Everywhere (Fresh source) nodes) :
    Everywhere Tidy [paragraphNode source tight nodes] := by
  have below := tidy_of_fresh fresh
  rw [paragraphNode]
  refine everywhere_block.mpr ⟨?_, ?_⟩
  · intro unmarked
    have none : ∀ other ∈ nodes, ¬ other.isSlot = true := by
      simpa [List.any_eq_false] using unmarked
    have notLone : isLoneSlot nodes = false := by
      rw [isLoneSlot, List.countP_eq_zero.mpr none]
      rfl
    simp only [notLone, Bool.and_false, Bool.false_eq_true, if_false]
    refine ⟨fun s mem => none _ mem rfl, fun s mem => ?_⟩
    rw [mode_of_fresh fresh mem]
    exact mode_ne_full source.style
  · split
    · exact (asCard_everywhere_iff fun _ => trivial).mpr below
    · exact below

/-- A container is tidy if what stands below it is. -/
theorem tidy_container {className title text : Text} (below : Everywhere Tidy nodes)
    (built : ShownContainer className title text nodes node) : Everywhere Tidy [node] := by
  have container : Everywhere Tidy [.block (.container className title) nodes] :=
    tidy_block (fun _ _ => BlockKind.noConfusion) below
  cases built with
  | bare detected => exact container
  | gated detected => exact everywhere_spoiler.mpr ⟨trivial, container⟩

/-- A quote is tidy if what stands below it is. -/
theorem tidy_quote (solid : Solid nodes) (below : Everywhere Tidy nodes)
    (built : ShownQuote nodes node) : Everywhere Tidy [node] := by
  cases built with
  | bare plain => exact tidy_block (fun _ _ => BlockKind.noConfusion) below
  | gated marker detected =>
    refine everywhere_spoiler.mpr ⟨trivial, ?_⟩
    exact tidy_block (fun _ _ => BlockKind.noConfusion) (tidy_withoutMarker _ nodes solid below)

mutual

/-- However an outline is shown, its node is tidy. -/
theorem shown_tidy (distinct : source.parsed.Distinct) {n later : Nat} {outline : Outline}
    {node : Node} (shown : Shown source n outline node later) : Everywhere Tidy [node] := by
  cases shown with
  | paragraph shown => exact tidy_paragraph (inlines_fresh distinct shown)
  | heading shown =>
    have running := tidy_of_fresh (inlines_fresh distinct shown)
    exact tidy_block (fun _ _ => BlockKind.noConfusion) running
  | bulletList shown =>
    exact tidy_block (fun _ _ => BlockKind.noConfusion) (shownAll_tidy distinct shown)
  | orderedList shown =>
    exact tidy_block (fun _ _ => BlockKind.noConfusion) (shownAll_tidy distinct shown)
  | item shown => exact tidy_block (fun _ _ => BlockKind.noConfusion) (shownAll_tidy distinct shown)
  | quote shown built =>
    exact tidy_quote (shownAll_numbered shown).solid (shownAll_tidy distinct shown) built
  | container shown built => exact tidy_container (shownAll_tidy distinct shown) built
  | division shown built => exact tidy_container (shownAll_tidy distinct shown) built
  | plain n block => exact everywhere_raw.mpr trivial

/-- The tree of an outline is tidy. -/
theorem shownAll_tidy (distinct : source.parsed.Distinct) {n later : Nat}
    {outlines : List Outline} {nodes : List Node} (shown : ShownAll source n outlines nodes later) :
    Everywhere Tidy nodes := by
  cases shown with
  | nil n => exact everywhere_nil
  | cons here behind =>
    exact everywhere_cons.mpr ⟨shown_tidy distinct here, shownAll_tidy distinct behind⟩

end

end Blocks

/-! ## Renders -/

/-- How texts and paragraphs are in a rendered tree. -/
structure TidyTree (nodes : List Node) : Prop where
  texts : ∀ value, .text value ∈ preorderAll nodes → value ≠ []
  /-- A paragraph with a slot among its children is marked. -/
  marked : ∀ tight marked children, .block (.paragraph tight marked) children ∈ preorderAll nodes →
    (∃ s, .slot s ∈ children) → marked = true
  /-- One with a card anywhere below it is not written as the paragraph element, for which a card is
  too large. -/
  cards : ∀ tight marked children, .block (.paragraph tight marked) children ∈ preorderAll nodes →
    (∃ s ∈ slots children, s.mode = .full) →
      ∀ content, blockFragment (.paragraph tight marked) content ≠ .ok (Html.line .p [] content)

/-- A marked paragraph is written as a division, or without an element. -/
theorem blockFragment_marked (tight : Bool) (content : Html.Fragment) :
    blockFragment (.paragraph tight true) content ≠ .ok (Html.line .p [] content) := by
  intro same
  cases tight with
  | true =>
    have whole := congrArg sizeOf (Except.ok.inj same)
    simp only [Html.line, List.cons.sizeOf_spec, Html.Markup.element.sizeOf_spec] at whole
    omega
  | false => cases same

/-- A rendered tree has no empty text, and its paragraphs are marked where a slot is among their
children, and where a card is below them. -/
theorem render_tidy {style : Style} {embedsEnabled : Bool} {content : Text} {rendered : Rendered}
    {events : List Log.Event}
    (ok : render style embedsEnabled content = (.ok rendered, events)) :
    TidyTree rendered.tree := by
  obtain ⟨-, outlines, later, -, shown⟩ := render_shown ok
  have tidy := shownAll_tidy (distinct_of_render ok) shown
  refine ⟨fun value mem => tidy _ mem, ?_, ?_⟩
  · rintro tight marked children mem ⟨s, direct⟩
    by_contra unmarked
    exact (tidy _ mem (Bool.eq_false_iff.mpr unmarked)).1 s direct
  · rintro tight marked children mem ⟨s, below, full⟩
    cases marked with
    | true => exact blockFragment_marked tight
    | false => exact absurd full ((tidy _ mem rfl).2 s below)

/-- An embed behind a marker and more text, and one that is alone in its paragraph. -/
def gatedAndAlone : Text :=
  "> `[!SPOILER]` \x7b\x7barc:1\x7d\x7d\n> ends\n\n\x7b\x7bvolume:2\x7d\x7d".toList

/-- The embed behind the marker stays in line, the one alone becomes a card, and the tree is tidy.
-/
theorem render_tidy_gatedAndAlone : ∃ rendered events,
    render ⟨false, true⟩ true gatedAndAlone = (.ok rendered, events) ∧
      (slots rendered.tree).map Slot.mode = [.inline, .full] ∧ TidyTree rendered.tree := by
  have shows : (render ⟨false, true⟩ true gatedAndAlone).1.toOption.any (fun rendered =>
      ((preorderAll rendered.tree).filterMap slot?).map Slot.mode == [.inline, .full]) = true := by
    decide +kernel
  obtain ⟨rendered, events, ok, modes⟩ := exists_of_any shows
  rw [beq_iff_eq, ← slots_eq] at modes
  exact ⟨rendered, events, ok, modes, render_tidy ok⟩

end Loremark.Tree
