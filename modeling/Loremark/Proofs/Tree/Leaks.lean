import Loremark.Proofs.Embed.Reinsertion
import Loremark.Proofs.Spoiler.Marker
import Loremark.Proofs.Tree.Building
import Loremark.Proofs.Tree.Strings

/-!
# Where tokens leak

A render puts embeds back wherever no slot can stand, so code, markup of the author, addresses,
titles of links and plain output never hold a token. Three ways are left for a token to reach a
reader: tokens that do not come in the order of the embeds in a running text, a token in the opening
line of a container or in the class of a division, and plain text of neighbouring nodes that spells
a token where it runs together inside a gated region. `render_tokenFree_iff` says that each of them
leaks a token and that there is no other one.
-/

set_option autoImplicit false

namespace Loremark.Tree

open Markdown

/-! ## What an outline holds -/

mutual

/-- The texts of a piece of running text, outside links. -/
def liveTexts : Inline → List Text
  | .text value => [value]
  | .span _ children => liveTextsAll children
  | _ => []

/-- The texts of running text, outside links. -/
def liveTextsAll : List Inline → List Text
  | [] => []
  | piece :: pieces => liveTexts piece ++ liveTextsAll pieces

end

namespace Outline

mutual

/-- The texts of the running text of an outline, outside links. -/
def texts : Outline → List Text
  | paragraph _ content => liveTextsAll content
  | heading _ content => liveTextsAll content
  | bulletList items => textsAll items
  | orderedList _ items => textsAll items
  | item children => textsAll children
  | quote children => textsAll children
  | container _ children => textsAll children
  | division _ children => textsAll children
  | plain _ => []

/-- The texts of the running text of outlines, outside links. -/
def textsAll : List Outline → List Text
  | [] => []
  | outline :: outlines => texts outline ++ textsAll outlines

end

mutual

/-- The infos of containers and the classes of divisions; `quoted` tells whether those inside quotes
are listed. -/
def frames (quoted : Bool) : Outline → List Text
  | bulletList items => framesAll quoted items
  | orderedList _ items => framesAll quoted items
  | item children => framesAll quoted children
  | quote children => if quoted then framesAll quoted children else []
  | container info children => info :: framesAll quoted children
  | division className children => className :: framesAll quoted children
  | _ => []

/-- The infos of containers and the classes of divisions in outlines. -/
def framesAll (quoted : Bool) : List Outline → List Text
  | [] => []
  | outline :: outlines => frames quoted outline ++ framesAll quoted outlines

end

end Outline

/-! ## Running text -/

section Running

variable {source : Source}

open Node

/-- The pieces of a text hold a token exactly if one of its literal pieces does. -/
theorem pieces_inlineFree_iff {n later : Nat} {pieces : List Embed.Segment} {nodes : List Node}
    (shown : ShownPieces source n pieces nodes later) :
    InlineFree source.parsed nodes ↔
      ∀ literal ∈ Embed.literals pieces, source.parsed.TokenFree literal := by
  induction shown with
  | nil n => simp [inlineFree_nil, Embed.literals]
  | literal text behind ih =>
    rw [inlineFree_cons, ih, inlineFree_text]
    simp [Embed.literals, Embed.Segment.literal?]
  | embed descriptor behind ih =>
    rw [inlineFree_cons, ih, slotNode]
    simp [Embed.literals, Embed.Segment.literal?, inlineFree_slot]

/-- A live text leaves no token exactly if its tokens come in order. -/
theorem text_inlineFree_iff (distinct : source.parsed.Distinct) {live : Bool} {n later : Nat}
    {value : Text} {nodes : List Node} (shown : ShownText source live n value nodes later) :
    InlineFree source.parsed nodes ↔ (live = true → source.parsed.InOrder value) := by
  cases shown with
  | empty live n =>
    simp only [inlineFree_nil, true_iff]
    exact fun _ => distinct.tokenFree_nil.inOrder
  | restored nonempty whole =>
    rw [inlineFree_text]
    simp only [distinct.restore_tokenFree, true_iff]
    rcases whole with rfl | none
    · exact fun live => absurd live Bool.false_ne_true
    · intro _ d mem
      rw [none] at mem
      cases mem
  | split nonempty embeds pieces =>
    rw [pieces_inlineFree_iff pieces, distinct.reinsert_tokenFree_iff]
    simp

/-- The node of a piece that holds no others leaves no token. -/
theorem leaf_inlineFree (distinct : source.parsed.Distinct) {piece : Inline} {kind : InlineKind}
    (leaf : leafKind? source.parsed piece = some kind) :
    InlineFree source.parsed [.inline kind []] := by
  refine inlineFree_inline.mpr ⟨?_, inlineFree_nil⟩
  have restored := distinct.restore_tokenFree
  cases piece <;> cases leaf <;> simp [InlineKind.strings, restored]

mutual

/-- Running text holds no token exactly if its live texts have theirs in order. -/
theorem inline_inlineFree_iff (distinct : source.parsed.Distinct) {live : Bool} {n later : Nat}
    {piece : Inline} {nodes : List Node} (shown : ShownInline source live n piece nodes later) :
    InlineFree source.parsed nodes ↔
      (live = true → ∀ text ∈ liveTexts piece, source.parsed.InOrder text) := by
  cases shown with
  | text shown =>
    rw [text_inlineFree_iff distinct shown]
    simp [liveTexts]
  | leaf leaf =>
    have none : liveTexts piece = [] := by
      cases piece <;> first | rfl | cases leaf
    simp [none, leaf_inlineFree distinct leaf]
  | span shown =>
    rename_i kind pieces inner
    rw [inlineFree_inline, inlines_inlineFree_iff distinct shown]
    cases kind <;> simp [spanKind, InlineKind.strings, liveTexts]
  | link shown =>
    rw [inlineFree_inline, inlines_inlineFree_iff distinct shown]
    simp [InlineKind.strings, liveTexts, distinct.restore_tokenFree]

/-- Running text leaves no token exactly if the tokens of each of its live texts come in order. -/
theorem inlines_inlineFree_iff (distinct : source.parsed.Distinct) {live : Bool} {n later : Nat}
    {pieces : List Inline} {nodes : List Node}
    (shown : ShownInlines source live n pieces nodes later) :
    InlineFree source.parsed nodes ↔
      (live = true → ∀ text ∈ liveTextsAll pieces, source.parsed.InOrder text) := by
  cases shown with
  | nil live n => simp [inlineFree_nil, liveTextsAll]
  | cons here behind =>
    rw [inlineFree_append, inline_inlineFree_iff distinct here,
      inlines_inlineFree_iff distinct behind]
    simp only [liveTextsAll, List.mem_append, or_imp, forall_and]

end

end Running

/-! ## Blocks -/

section Blocks

variable {source : Source}

open Node

/-- Cards do not matter to properties that slots have anyway. -/
theorem asCard_everywhere_iff {P : Node → Prop} (slots : ∀ s, P (.slot s)) {nodes : List Node} :
    Everywhere P (nodes.map asCard) ↔ Everywhere P nodes := by
  induction nodes with
  | nil => rfl
  | cons node nodes ih =>
    have card : Everywhere P [node.asCard] ↔ Everywhere P [node] := by
      cases node with
      | slot s => simp [asCard, everywhere_slot, slots]
      | _ => rfl
    rw [List.map_cons, ← List.singleton_append, everywhere_append, ih, card,
      ← everywhere_append]
    rfl

/-- A paragraph holds the tokens of its children. -/
theorem paragraph_inlineFree_iff {tight : Bool} {children : List Node} :
    InlineFree source.parsed [paragraphNode source tight children] ↔
      InlineFree source.parsed children := by
  rw [paragraphNode, inlineFree_block]
  split
  · exact asCard_everywhere_iff (by simp [strings])
  · exact Iff.rfl

/-- A paragraph has no frame of its own. -/
theorem paragraph_framesFree_iff {tight : Bool} {children : List Node} :
    FramesFree source.parsed [paragraphNode source tight children] ↔
      FramesFree source.parsed children := by
  rw [paragraphNode, framesFree_block]
  split
  · simp only [BlockKind.strings, List.not_mem_nil, false_implies, implies_true, true_and]
    exact asCard_everywhere_iff (by simp)
  · simp [BlockKind.strings]

/-- A container holds the tokens of its children and those of its frame. -/
theorem container_inlineFree_iff {p : Embed.Parsed} {className title text : Text}
    {children : List Node} {node : Node}
    (shown : ShownContainer className title text children node) :
    InlineFree p [node] ↔ InlineFree p children := by
  cases shown <;> simp [inlineFree_spoiler, inlineFree_block]

/-- The frame of a container is its class and its title. -/
theorem container_framesFree_iff {p : Embed.Parsed} {className title text : Text}
    {children : List Node} {node : Node}
    (shown : ShownContainer className title text children node) :
    FramesFree p [node] ↔ p.TokenFree className ∧ p.TokenFree title ∧ FramesFree p children := by
  cases shown <;> simp [framesFree_spoiler, framesFree_block, BlockKind.strings, and_assoc]

/-- The title of a container holds a token exactly if the opening line does. -/
theorem fencedTitle_tokenFree_iff {p : Embed.Parsed} (distinct : p.Distinct) (info : Text) :
    p.TokenFree (fencedTitle info) ↔ p.TokenFree info := by
  rw [fencedTitle]
  cases named : Text.after? containerName (Text.trim info) with
  | none => exact distinct.tokenFree_trim_iff
  | some title =>
    have split := Text.after?_eq_some_iff.mp named
    have small : ∀ c ∈ containerName, Embed.isTokenChar c = false := by
      have all : containerName.all (fun c => !Embed.isTokenChar c) = true := by decide
      simpa using all
    rw [Option.map_some, Option.getD_some, distinct.tokenFree_trim_iff,
      ← distinct.tokenFree_front_iff small, ← split, distinct.tokenFree_trim_iff]

mutual

/-- Texts with their tokens in order become nodes without tokens. -/
theorem shown_inlineFree (distinct : source.parsed.Distinct) {n later : Nat} {outline : Outline}
    {node : Node} (shown : Shown source n outline node later)
    (texts : ∀ text ∈ outline.texts, source.parsed.InOrder text) :
    InlineFree source.parsed [node] := by
  cases shown with
  | paragraph shown =>
    rw [paragraph_inlineFree_iff, inlines_inlineFree_iff distinct shown]
    exact fun _ => texts
  | heading shown =>
    rw [inlineFree_block, inlines_inlineFree_iff distinct shown]
    exact fun _ => texts
  | bulletList shown => exact inlineFree_block.mpr (shownAll_inlineFree distinct shown texts)
  | orderedList shown => exact inlineFree_block.mpr (shownAll_inlineFree distinct shown texts)
  | item shown => exact inlineFree_block.mpr (shownAll_inlineFree distinct shown texts)
  | quote shown built =>
    have children := shownAll_inlineFree distinct shown texts
    cases built with
    | bare plain => exact inlineFree_block.mpr children
    | gated marker detected =>
      rw [inlineFree_spoiler, inlineFree_block]
      exact everywhere_withoutMarker cuttable_inlineFree _ _ children
  | container shown built =>
    exact (container_inlineFree_iff built).mpr (shownAll_inlineFree distinct shown texts)
  | division shown built =>
    exact (container_inlineFree_iff built).mpr (shownAll_inlineFree distinct shown texts)
  | plain n block => exact inlineFree_raw.mpr (distinct.restoreEscaped_tokenFree _)

/-- Where the tokens of every live text come in order, none is left in running text. -/
theorem shownAll_inlineFree (distinct : source.parsed.Distinct) {n later : Nat}
    {outlines : List Outline} {nodes : List Node} (shown : ShownAll source n outlines nodes later)
    (texts : ∀ text ∈ Outline.textsAll outlines, source.parsed.InOrder text) :
    InlineFree source.parsed nodes := by
  cases shown with
  | nil n => exact everywhere_nil
  | cons here behind =>
    simp only [Outline.textsAll, List.mem_append, or_imp, forall_and] at texts
    exact everywhere_cons.mpr ⟨shown_inlineFree distinct here texts.1,
      shownAll_inlineFree distinct behind texts.2⟩

end

/-! ## Frames -/

/-- The pieces of a text have no frames. -/
theorem pieces_framesFree {p : Embed.Parsed} {n later : Nat} {pieces : List Embed.Segment}
    {nodes : List Node} (shown : ShownPieces source n pieces nodes later) : FramesFree p nodes := by
  induction shown with
  | nil n => exact everywhere_nil
  | literal text behind ih => exact everywhere_cons.mpr ⟨framesFree_text, ih⟩
  | embed descriptor behind ih => exact everywhere_cons.mpr ⟨framesFree_slot, ih⟩

mutual

/-- Running text has no frames. -/
theorem inline_framesFree {p : Embed.Parsed} {live : Bool} {n later : Nat} {piece : Inline}
    {nodes : List Node} (shown : ShownInline source live n piece nodes later) :
    FramesFree p nodes := by
  cases shown with
  | text shown =>
    cases shown with
    | empty live n => exact everywhere_nil
    | restored nonempty whole => exact framesFree_text
    | split nonempty embeds pieces => exact pieces_framesFree pieces
  | leaf leaf => exact framesFree_inline.mpr everywhere_nil
  | span shown => exact framesFree_inline.mpr (inlines_framesFree shown)
  | link shown => exact framesFree_inline.mpr (inlines_framesFree shown)

/-- Running text has no frames. -/
theorem inlines_framesFree {p : Embed.Parsed} {live : Bool} {n later : Nat}
    {pieces : List Inline} {nodes : List Node}
    (shown : ShownInlines source live n pieces nodes later) : FramesFree p nodes := by
  cases shown with
  | nil live n => exact everywhere_nil
  | cons here behind =>
    exact everywhere_append.mpr ⟨inline_framesFree here, inlines_framesFree behind⟩

end

mutual

/-- Frames without tokens become nodes with such frames. -/
theorem shown_framesFree (distinct : source.parsed.Distinct) {n later : Nat} {outline : Outline}
    {node : Node} (shown : Shown source n outline node later)
    (frames : ∀ frame ∈ outline.frames true, source.parsed.TokenFree frame) :
    FramesFree source.parsed [node] := by
  cases shown with
  | paragraph shown => exact paragraph_framesFree_iff.mpr (inlines_framesFree shown)
  | heading shown =>
    exact framesFree_block.mpr ⟨by simp [BlockKind.strings], inlines_framesFree shown⟩
  | bulletList shown =>
    refine framesFree_block.mpr ⟨by simp [BlockKind.strings], ?_⟩
    exact shownAll_framesFree distinct shown frames
  | orderedList shown =>
    refine framesFree_block.mpr ⟨by simp [BlockKind.strings], ?_⟩
    exact shownAll_framesFree distinct shown frames
  | item shown =>
    refine framesFree_block.mpr ⟨by simp [BlockKind.strings], ?_⟩
    exact shownAll_framesFree distinct shown frames
  | quote shown built =>
    have children := shownAll_framesFree distinct shown frames
    cases built with
    | bare plain =>
      refine framesFree_block.mpr ⟨?_, children⟩
      simpa [BlockKind.strings] using distinct.tokenFree_nil
    | gated marker detected =>
      rw [framesFree_spoiler, framesFree_block]
      refine ⟨?_, everywhere_withoutMarker cuttable_framesFree _ _ children⟩
      simpa [BlockKind.strings] using
        distinct.tokenFree_of_not_mem (by decide : 'S' ∉ Spoiler.spoilerWord)
  | container shown built =>
    obtain ⟨own, below⟩ := List.forall_mem_cons.mp frames
    rw [container_framesFree_iff built, fencedTitle_tokenFree_iff distinct]
    exact ⟨distinct.tokenFree_of_not_mem (by decide), own,
      shownAll_framesFree distinct shown below⟩
  | division shown built =>
    obtain ⟨own, below⟩ := List.forall_mem_cons.mp frames
    rw [container_framesFree_iff built]
    exact ⟨own, distinct.tokenFree_nil, shownAll_framesFree distinct shown below⟩
  | plain n block => exact framesFree_raw

/-- Where no opening line and no class holds a token, no frame does. -/
theorem shownAll_framesFree (distinct : source.parsed.Distinct) {n later : Nat}
    {outlines : List Outline} {nodes : List Node} (shown : ShownAll source n outlines nodes later)
    (frames : ∀ frame ∈ Outline.framesAll true outlines, source.parsed.TokenFree frame) :
    FramesFree source.parsed nodes := by
  cases shown with
  | nil n => exact everywhere_nil
  | cons here behind =>
    simp only [Outline.framesAll, List.mem_append, or_imp, forall_and] at frames
    exact everywhere_cons.mpr ⟨shown_framesFree distinct here frames.1,
      shownAll_framesFree distinct behind frames.2⟩

end

mutual

/-- Nodes with frames without tokens come from such frames, outside quotes. -/
theorem shown_frames (distinct : source.parsed.Distinct) {n later : Nat} {outline : Outline}
    {node : Node} (shown : Shown source n outline node later)
    (free : FramesFree source.parsed [node]) :
    ∀ frame ∈ outline.frames false, source.parsed.TokenFree frame := by
  cases shown with
  | paragraph shown => simp [Outline.frames]
  | heading shown => simp [Outline.frames]
  | bulletList shown => exact shownAll_frames distinct shown (framesFree_block.mp free).2
  | orderedList shown => exact shownAll_frames distinct shown (framesFree_block.mp free).2
  | item shown => exact shownAll_frames distinct shown (framesFree_block.mp free).2
  | quote shown built => simp [Outline.frames]
  | container shown built =>
    obtain ⟨-, title, below⟩ := (container_framesFree_iff built).mp free
    rw [fencedTitle_tokenFree_iff distinct] at title
    exact List.forall_mem_cons.mpr ⟨title, shownAll_frames distinct shown below⟩
  | division shown built =>
    obtain ⟨className, -, below⟩ := (container_framesFree_iff built).mp free
    exact List.forall_mem_cons.mpr ⟨className, shownAll_frames distinct shown below⟩
  | plain n block => simp [Outline.frames]

/-- A token in the opening line or the class of a container outside quotes is in a frame. -/
theorem shownAll_frames (distinct : source.parsed.Distinct) {n later : Nat}
    {outlines : List Outline} {nodes : List Node} (shown : ShownAll source n outlines nodes later)
    (free : FramesFree source.parsed nodes) :
    ∀ frame ∈ Outline.framesAll false outlines, source.parsed.TokenFree frame := by
  cases shown with
  | nil n => simp [Outline.framesAll]
  | cons here behind =>
    obtain ⟨first, others⟩ := everywhere_cons.mp free
    simp only [Outline.framesAll, List.mem_append, or_imp, forall_and]
    exact ⟨shown_frames distinct here first, shownAll_frames distinct behind others⟩

end

/-! ## Tokens that are heard -/

/-- The texts that plain text is put together from hold no token, and neither do those of the
regions among them. -/
structure Heard (p : Embed.Parsed) (nodes : List Node) : Prop where
  texts : ∀ value : Text, .text value ∈ spokenAll nodes → p.TokenFree value
  inners : ∀ (region : Spoiler.Region) (children : List Node),
    .spoiler region children ∈ spokenAll nodes → p.TokenFree region.inner

section Heard

variable {p : Embed.Parsed} {nodes others children : List Node}

/-- Two lists of nodes are heard if each of them is. -/
theorem heard_append : Heard p (nodes ++ others) ↔ Heard p nodes ∧ Heard p others := by
  constructor
  · intro heard
    constructor <;> constructor
    · exact fun value mem => heard.texts value (by simp [spokenAll_append, mem])
    · exact fun region children mem =>
        heard.inners region children (by simp [spokenAll_append, mem])
    · exact fun value mem => heard.texts value (by simp [spokenAll_append, mem])
    · exact fun region children mem =>
        heard.inners region children (by simp [spokenAll_append, mem])
  · rintro ⟨first, second⟩
    constructor
    · intro value mem
      rw [spokenAll_append, List.mem_append] at mem
      exact mem.elim (first.texts value) (second.texts value)
    · intro region children mem
      rw [spokenAll_append, List.mem_append] at mem
      exact mem.elim (first.inners region children) (second.inners region children)

/-- Fewer nodes are heard if all of them are. -/
theorem Heard.of_subset (heard : Heard p nodes) (fewer : spokenAll others ⊆ spokenAll nodes) :
    Heard p others where
  texts value mem := heard.texts value (fewer mem)
  inners region children mem := heard.inners region children (fewer mem)

/-- What stands below a block is heard with it. -/
theorem Heard.below_block {kind : BlockKind} (heard : Heard p [.block kind children]) :
    Heard p children :=
  heard.of_subset (by simp [spokenAll, spoken])

/-- What stands below a gated region is heard with it. -/
theorem Heard.below_spoiler {region : Spoiler.Region}
    (heard : Heard p [.spoiler region children]) : Heard p children :=
  heard.of_subset (by simp [spokenAll, spoken])

/-- A tree without tokens has none where its plain text comes from. -/
theorem heard_of_tokenFree (free : TokenFree p nodes) : Heard p nodes where
  texts _ mem := free _ (spokenAll_subset nodes mem) _ List.mem_cons_self
  inners _ _ mem := free _ (spokenAll_subset nodes mem) _ List.mem_cons_self

/-- Cards hold the same texts and regions as slots. -/
theorem spoken_asCard {node : Node} (other : node.isSlot = false)
    (mem : node ∈ spokenAll nodes) : node ∈ spokenAll (nodes.map asCard) := by
  induction nodes with
  | nil => exact mem
  | cons first nodes ih =>
    rw [spokenAll, List.mem_append] at mem
    rw [List.map_cons, spokenAll, List.mem_append]
    rcases mem with here | behind
    · left
      cases first with
      | slot s =>
        rw [spoken, List.mem_singleton] at here
        rw [here] at other
        cases other
      | _ => exact here
    · exact .inr (ih behind)

/-- What stands below a paragraph is heard with it. -/
theorem Heard.below_paragraph {tight : Bool}
    (heard : Heard p [paragraphNode source tight children]) : Heard p children := by
  have below := heard.below_block
  split at below
  · constructor
    · exact fun value mem => below.texts value (spoken_asCard rfl mem)
    · exact fun region content mem => below.inners region content (spoken_asCard rfl mem)
  · exact below

/-- What stands below a container is heard with it. -/
theorem Heard.below_container {className title text : Text} {node : Node}
    (heard : Heard p [node]) (built : ShownContainer className title text children node) :
    Heard p children := by
  cases built with
  | bare detected => exact heard.below_block
  | gated detected => exact heard.below_spoiler.below_block

end Heard

/-- The pieces of a text that is heard hold no token. -/
theorem pieces_heard {n later : Nat} {pieces : List Embed.Segment} {nodes : List Node}
    (shown : ShownPieces source n pieces nodes later) (heard : Heard source.parsed nodes) :
    InlineFree source.parsed nodes := by
  induction shown with
  | nil n => exact everywhere_nil
  | literal text behind ih =>
    rw [← List.singleton_append, heard_append] at heard
    refine everywhere_cons.mpr ⟨inlineFree_text.mpr ?_, ih heard.2⟩
    exact heard.1.texts text (by simp [spokenAll, spoken])
  | embed descriptor behind ih =>
    rw [← List.singleton_append, heard_append] at heard
    exact everywhere_cons.mpr ⟨inlineFree_slot, ih heard.2⟩

mutual

/-- Running text that is heard holds no token. -/
theorem inline_heard (distinct : source.parsed.Distinct) {live : Bool} {n later : Nat}
    {piece : Inline} {nodes : List Node} (shown : ShownInline source live n piece nodes later)
    (heard : Heard source.parsed nodes) : InlineFree source.parsed nodes := by
  cases shown with
  | text shown =>
    cases shown with
    | empty live n => exact everywhere_nil
    | restored nonempty whole => exact inlineFree_text.mpr (distinct.restore_tokenFree _)
    | split nonempty embeds pieces => exact pieces_heard pieces heard
  | leaf leaf => exact leaf_inlineFree distinct leaf
  | span shown =>
    rename_i kind pieces inner
    have below : Heard source.parsed inner :=
      heard.of_subset (by cases kind <;> simp [spokenAll, spoken, spanKind])
    refine inlineFree_inline.mpr ⟨?_, inlines_heard distinct shown below⟩
    cases kind <;> simp [spanKind, InlineKind.strings]
  | link shown =>
    have below := inlines_heard distinct shown (heard.of_subset (by simp [spokenAll, spoken]))
    refine inlineFree_inline.mpr ⟨?_, below⟩
    simp [InlineKind.strings, distinct.restore_tokenFree]

/-- In running text only the texts that are heard can hold a token. -/
theorem inlines_heard (distinct : source.parsed.Distinct) {live : Bool} {n later : Nat}
    {pieces : List Inline} {nodes : List Node}
    (shown : ShownInlines source live n pieces nodes later)
    (heard : Heard source.parsed nodes) : InlineFree source.parsed nodes := by
  cases shown with
  | nil live n => exact everywhere_nil
  | cons here behind =>
    obtain ⟨first, others⟩ := heard_append.mp heard
    exact everywhere_append.mpr
      ⟨inline_heard distinct here first, inlines_heard distinct behind others⟩

end

/-- The text of a gated quote is what stands behind its marker. -/
theorem inner_of_marker {text rest : Text} {digits : Option Text} {region : Spoiler.Region}
    (marker : Spoiler.marker? text = some (digits, rest))
    (detected : Spoiler.detectQuote text = .ok (some region)) :
    region.inner = Text.trimStart rest := by
  rw [Spoiler.detectQuote, marker] at detected
  dsimp only at detected
  cases number : Spoiler.chapterOf digits with
  | error cause => rw [number] at detected; cases detected
  | ok chapter =>
    rw [number] at detected
    rw [← Option.some.inj (Except.ok.inj detected)]

/-- A token in a text with a marker stands behind the marker. -/
theorem tokenFree_of_marker {p : Embed.Parsed} (distinct : p.Distinct) {text rest : Text}
    {digits : Option Text} (marker : Spoiler.marker? text = some (digits, rest))
    (free : p.TokenFree rest) : p.TokenFree text := by
  obtain ⟨inner, marked, split⟩ := Spoiler.marker?_eq_some marker
  intro d mem here
  have isToken := distinct.isToken d mem
  rw [split, ← List.cons_append, ← List.cons_append,
    Text.infix_append_cons_iff (isToken.not_mem rfl)] at here
  rcases here with inMarker | behind
  · -- Every token holds a letter that stands in neither word of a marker.
    refine isToken.not_within (by decide : 'W' ∈ Embed.stem) ?_ inMarker
    have noSpoiler : Spoiler.spoilerWord.all (fun a => !Text.sameLetter a 'W') = true := by decide
    have noChapter : Spoiler.chapterWord.all (fun a => !Text.sameLetter a 'W') = true := by decide
    have absent : 'W' ∉ inner :=
      marked.not_mem (by simpa using noSpoiler) (by simpa using noChapter) (by decide) (by decide)
    simp [absent]
  · exact free d mem behind

/-- What stands below a quote is heard with it, in front of the cut as well. -/
theorem Heard.below_quote {children : List Node} {node : Node}
    (distinct : source.parsed.Distinct) (heard : Heard source.parsed [node])
    (built : ShownQuote children node) : Heard source.parsed children := by
  cases built with
  | bare plain => exact heard.below_block
  | gated marker detected =>
    -- The marker may have been cut off together with a part of a token, but the text of the region
    -- holds everything that stands behind the marker.
    have own := heard.inners _ _ (List.mem_append_left _ List.mem_cons_self)
    rw [inner_of_marker marker detected, distinct.tokenFree_trimStart_iff] at own
    have whole := tokenFree_of_marker distinct marker own
    constructor
    · exact fun value mem => whole.mono (infix_flatten false children mem)
    · exact fun region content mem => heard.below_spoiler.below_block.inners region content
        (region_mem_withoutMarker _ children mem)

mutual

/-- Where a node is heard, its live texts have their tokens in order. -/
theorem shown_heard (distinct : source.parsed.Distinct) {n later : Nat} {outline : Outline}
    {node : Node} (shown : Shown source n outline node later)
    (heard : Heard source.parsed [node]) :
    ∀ text ∈ outline.texts, source.parsed.InOrder text := by
  cases shown with
  | paragraph shown =>
    have free := inlines_heard distinct shown heard.below_paragraph
    exact (inlines_inlineFree_iff distinct shown).mp free rfl
  | heading shown =>
    have free := inlines_heard distinct shown heard.below_block
    exact (inlines_inlineFree_iff distinct shown).mp free rfl
  | bulletList shown => exact shownAll_heard distinct shown heard.below_block
  | orderedList shown => exact shownAll_heard distinct shown heard.below_block
  | item shown => exact shownAll_heard distinct shown heard.below_block
  | quote shown built => exact shownAll_heard distinct shown (heard.below_quote distinct built)
  | container shown built => exact shownAll_heard distinct shown (heard.below_container built)
  | division shown built => exact shownAll_heard distinct shown (heard.below_container built)
  | plain n block => simp [Outline.texts]

/-- A token out of order in a live text is heard. -/
theorem shownAll_heard (distinct : source.parsed.Distinct) {n later : Nat}
    {outlines : List Outline} {nodes : List Node} (shown : ShownAll source n outlines nodes later)
    (heard : Heard source.parsed nodes) :
    ∀ text ∈ Outline.textsAll outlines, source.parsed.InOrder text := by
  cases shown with
  | nil n => simp [Outline.textsAll]
  | cons here behind =>
    rw [← List.singleton_append, heard_append] at heard
    simp only [Outline.textsAll, List.mem_append, or_imp, forall_and]
    exact ⟨shown_heard distinct here heard.1, shownAll_heard distinct behind heard.2⟩

end

end Blocks

/-! ## Renders -/

/-- The tokens of a document can be told apart, whether its embeds were extracted or not. -/
theorem distinct_of_render {style : Style} {embedsEnabled : Bool} {content : Text}
    {rendered : Rendered} {events : List Log.Event}
    (ok : render style embedsEnabled content = (.ok rendered, events)) :
    rendered.parsed.Distinct := by
  obtain ⟨parsed, -⟩ := render_shown ok
  split at parsed
  · exact (Embed.extracted_of_extract parsed).distinct
  · exact Embed.Parsed.distinct_of_nil (by rw [parsed])

/-- A rendered tree holds no token exactly if the tokens of every running text come in order and
none is in the frames of its containers or in the texts of its gated regions. A token is in a frame
only if it is in the opening line of a container or in the class of a division, and there it is in
a frame if the container stands outside quotes; one inside a quote may go with the marker. -/
theorem render_tokenFree_iff {style : Style} {embedsEnabled : Bool} {content : Text}
    {rendered : Rendered} {events : List Log.Event}
    (ok : render style embedsEnabled content = (.ok rendered, events)) :
    ∃ outlines, outlineOf rendered.parsed = .ok outlines ∧
      (Node.TokenFree rendered.parsed rendered.tree ↔
        (∀ text ∈ Outline.textsAll outlines, rendered.parsed.InOrder text) ∧
          Node.FramesFree rendered.parsed rendered.tree ∧
          Node.InnersFree rendered.parsed rendered.tree) ∧
      ((∀ frame ∈ Outline.framesAll true outlines, rendered.parsed.TokenFree frame) →
        Node.FramesFree rendered.parsed rendered.tree) ∧
      (Node.FramesFree rendered.parsed rendered.tree →
        ∀ frame ∈ Outline.framesAll false outlines, rendered.parsed.TokenFree frame) := by
  have distinct := distinct_of_render ok
  obtain ⟨-, outlines, slots, readOk, shown⟩ := render_shown ok
  refine ⟨outlines, readOk, ?_, shownAll_framesFree distinct shown,
    shownAll_frames distinct shown⟩
  rw [Node.tokenFree_iff]
  constructor
  · rintro ⟨inline, frames, inners⟩
    have free := Node.tokenFree_iff.mpr ⟨inline, frames, inners⟩
    exact ⟨shownAll_heard distinct shown (heard_of_tokenFree free), frames, inners⟩
  · rintro ⟨texts, frames, inners⟩
    exact ⟨shownAll_inlineFree distinct shown texts, frames, inners⟩

/-- A container whose opening line holds an embed. -/
def embedInTitle : Text :=
  "::: spoiler ".toList ++ (Embed.Written.mk .arc ['1'] none).toText ++ "\n:::".toList

/-- Whether a token stands in the title of a container that is gated by itself. -/
def leaksTitle (rendered : Rendered) : Bool :=
  match rendered.tree with
  | [.spoiler _ [.block (.container _ title) _]] =>
    rendered.parsed.embeds.any fun d => Text.occurs d.token title
  | _ => false

/-- A token in a title is a token in a frame. -/
theorem not_framesFree_of_leaksTitle {rendered : Rendered} (leaks : leaksTitle rendered = true) :
    ¬ Node.FramesFree rendered.parsed rendered.tree := by
  intro free
  rw [leaksTitle] at leaks
  split at leaks
  · rename_i region className title children tree
    obtain ⟨d, mem, occurs⟩ := List.any_eq_true.mp leaks
    rw [tree, Node.framesFree_spoiler, Node.framesFree_block] at free
    exact free.1 title (by simp [BlockKind.strings]) d mem (Text.occurs_iff.mp occurs)
  · cases leaks

/-- The title of the container holds a token when it is rendered. -/
theorem embedInTitle_leaksTitle : ∃ rendered events,
    render {} true embedInTitle = (.ok rendered, events) ∧ leaksTitle rendered = true := by
  refine exists_of_any ?_
  decide +kernel

/-- A document whose tree holds a token. -/
theorem embedInTitle_not_tokenFree : ∃ rendered events,
    render {} true embedInTitle = (.ok rendered, events) ∧
      ¬ Node.TokenFree rendered.parsed rendered.tree := by
  obtain ⟨rendered, events, ran, leaks⟩ := embedInTitle_leaksTitle
  refine ⟨rendered, events, ran, ?_⟩
  exact fun free => not_framesFree_of_leaksTitle leaks (Node.tokenFree_iff.mp free).2.1

/-- The token of that document is in the opening line of a container. -/
theorem embedInTitle_frame : ∃ rendered events outlines,
    render {} true embedInTitle = (.ok rendered, events) ∧
      outlineOf rendered.parsed = .ok outlines ∧
      ¬ ∀ frame ∈ Outline.framesAll true outlines, rendered.parsed.TokenFree frame := by
  obtain ⟨rendered, events, ran, leaks⟩ := embedInTitle_leaksTitle
  obtain ⟨outlines, readOk, -, frames, -⟩ := render_tokenFree_iff ran
  refine ⟨rendered, events, outlines, ran, readOk, ?_⟩
  exact fun free => not_framesFree_of_leaksTitle leaks (frames free)

end Loremark.Tree
