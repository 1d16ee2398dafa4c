import Loremark.Proofs.Embed.TokenWords
import Loremark.Proofs.Tree.OutlineWords
import Loremark.Proofs.Tree.Slots

/-!
# Which embeds get a slot

The slots of a rendered tree stand for the embeds whose tokens are found in its live texts, text
after text (`render_described`). The live texts have no words but those of the rewritten text, and
that has the tokens in the order of extraction, so the slots come in that order, and no embed gets
two (`render_slots_sublist`). A character reference that stands for a character of a token is
replaced only after the prefix of the tokens has been chosen, and so it can forge one
(`forgedToken`).
-/

set_option autoImplicit false

namespace Loremark.Tree

open Markdown Node

/-- The embeds that the slots of nodes stand for, in document order. -/
def described (nodes : List Node) : List Embed.Descriptor := (slots nodes).map Slot.descriptor

section Described

variable {nodes others : List Node}

/-- No nodes stand for no embeds. -/
theorem described_nil : described [] = [] := by
  rw [described, slots_nil, List.map_nil]

/-- The embeds of two lists of nodes follow each other. -/
theorem described_append : described (nodes ++ others) = described nodes ++ described others := by
  rw [described, slots_append, List.map_append]
  rfl

/-- The embeds of the first node stand in front of those of the others. -/
theorem described_cons (node : Node) :
    described (node :: nodes) = described [node] ++ described nodes := by
  rw [← described_append, List.singleton_append]

/-- A text stands for no embeds. -/
theorem described_text (value : Text) : described [.text value] = [] := by
  rw [described, slots_text, List.map_nil]

/-- Plain output stands for no embeds. -/
theorem described_raw (html : Text) : described [.raw html] = [] := by
  rw [described, slots_raw, List.map_nil]

/-- A gated region stands for the embeds below it. -/
theorem described_spoiler (region : Spoiler.Region) :
    described [.spoiler region nodes] = described nodes := by
  rw [described, slots_spoiler]
  rfl

/-- Inline markup stands for the embeds below it. -/
theorem described_inline (kind : InlineKind) :
    described [.inline kind nodes] = described nodes := by
  rw [described, slots_inline]
  rfl

/-- A block stands for the embeds below it. -/
theorem described_block (kind : BlockKind) : described [.block kind nodes] = described nodes := by
  rw [described, slots_block]
  rfl

/-- Cards stand for the embeds of their slots. -/
theorem described_asCard : described (nodes.map asCard) = described nodes := by
  induction nodes with
  | nil => rfl
  | cons node nodes ih =>
    have one : described [node.asCard] = described [node] := by
      cases node with
      | slot s => rw [asCard, described, described, slots_slot, slots_slot]; rfl
      | _ => rfl
    rw [List.map_cons, described_cons, ih, one, ← described_cons]

end Described

variable {source : Source}

/-- The pieces of a text stand for the embeds among them. -/
theorem pieces_described {n later : Nat} {pieces : List Embed.Segment} {nodes : List Node}
    (shown : ShownPieces source n pieces nodes later) :
    described nodes = pieces.filterMap Embed.Segment.descriptor? := by
  induction shown with
  | nil n => exact described_nil
  | literal text behind ih =>
    rw [described_cons, described_text, ih]
    rfl
  | embed d behind ih =>
    rw [described_cons, ih, slotNode, described, slots_slot]
    rfl

/-- The embeds that get a slot in a text: those that are found in it if it is live. -/
theorem text_described (distinct : source.parsed.Distinct) {live : Bool} {n later : Nat}
    {value : Text} {nodes : List Node} (shown : ShownText source live n value nodes later) :
    described nodes = if live then Embed.foundIn source.parsed.embeds value else [] := by
  cases shown with
  | empty live n =>
    rw [described_nil, distinct.foundIn_empty, ite_self]
  | restored nonempty whole =>
    rw [described_text]
    rcases whole with rfl | none
    · rfl
    · rw [none, Embed.foundIn_nil, ite_self]
  | split nonempty embeds pieces => exact pieces_described pieces

mutual

/-- Running text stands for the embeds whose tokens are found in its live texts. -/
theorem inline_described (distinct : source.parsed.Distinct) {live : Bool} {n later : Nat}
    {piece : Inline} {nodes : List Node} (shown : ShownInline source live n piece nodes later) :
    described nodes =
      if live then (liveTexts piece).flatMap (Embed.foundIn source.parsed.embeds) else [] := by
  cases shown with
  | text shown =>
    rw [text_described distinct shown]
    simp [liveTexts]
  | leaf leaf =>
    have none : liveTexts piece = [] := by
      cases piece <;> first | rfl | cases leaf
    rw [described_inline, described_nil, none]
    exact (ite_self _).symm
  | span shown =>
    rw [described_inline, inlines_described distinct shown, liveTexts]
  | link shown =>
    rw [described_inline, inlines_described distinct shown]
    simp [liveTexts]

/-- In running text, the slots stand for what is found in its texts outside links. -/
theorem inlines_described (distinct : source.parsed.Distinct) {live : Bool} {n later : Nat}
    {pieces : List Inline} {nodes : List Node}
    (shown : ShownInlines source live n pieces nodes later) :
    described nodes =
      if live then (liveTextsAll pieces).flatMap (Embed.foundIn source.parsed.embeds) else [] := by
  cases shown with
  | nil live n => exact described_nil.trans (ite_self _).symm
  | cons here behind =>
    rw [described_append, inline_described distinct here, inlines_described distinct behind,
      liveTextsAll, List.flatMap_append]
    split <;> rfl

end

/-- A paragraph stands for the embeds of its children. -/
theorem paragraph_described (tight : Bool) (nodes : List Node) :
    described [paragraphNode source tight nodes] = described nodes := by
  rw [paragraphNode, described_block]
  split
  · exact described_asCard
  · rfl

/-- A container stands for the embeds of its children. -/
theorem container_described {className title text : Text} {nodes : List Node} {node : Node}
    (built : ShownContainer className title text nodes node) :
    described [node] = described nodes := by
  cases built with
  | bare detected => exact described_block _
  | gated detected => rw [described_spoiler, described_block]

/-- A quote stands for the embeds of its children, with or without its marker. -/
theorem quote_described {nodes : List Node} {node : Node} (solid : Solid nodes)
    (built : ShownQuote nodes node) : described [node] = described nodes := by
  cases built with
  | bare plain => exact described_block _
  | gated marker detected =>
    rw [described_spoiler, described_block, described, (withoutMarker_slots _ nodes solid).1]
    rfl

mutual

/-- However an outline is shown, its node stands for the embeds found in its live texts. -/
theorem shown_described (distinct : source.parsed.Distinct) {n later : Nat} {outline : Outline}
    {node : Node} (shown : Shown source n outline node later) :
    described [node] = outline.texts.flatMap (Embed.foundIn source.parsed.embeds) := by
  cases shown with
  | paragraph shown =>
    rw [paragraph_described, inlines_described distinct shown]
    rfl
  | heading shown =>
    rw [described_block, inlines_described distinct shown]
    rfl
  | bulletList shown => exact (described_block _).trans (shownAll_described distinct shown)
  | orderedList shown => exact (described_block _).trans (shownAll_described distinct shown)
  | item shown => exact (described_block _).trans (shownAll_described distinct shown)
  | quote shown built =>
    exact (quote_described (shownAll_numbered shown).solid built).trans
      (shownAll_described distinct shown)
  | container shown built =>
    exact (container_described built).trans (shownAll_described distinct shown)
  | division shown built =>
    exact (container_described built).trans (shownAll_described distinct shown)
  | plain n block => exact described_raw _

/-- The slots of a document stand for what is found in its live texts, one text after the other. -/
theorem shownAll_described (distinct : source.parsed.Distinct) {n later : Nat}
    {outlines : List Outline} {nodes : List Node} (shown : ShownAll source n outlines nodes later) :
    described nodes =
      (Outline.textsAll outlines).flatMap (Embed.foundIn source.parsed.embeds) := by
  cases shown with
  | nil n => exact described_nil
  | cons here behind =>
    rw [described_cons, shown_described distinct here, shownAll_described distinct behind,
      Outline.textsAll, List.flatMap_append]

end

/-! ## Rendered trees -/

/-- Tokens have no spaces, no line ends and no punctuation in them. -/
theorem unmarked_tokenWords {p : Embed.Parsed} (distinct : p.Distinct) :
    Unmarked (Embed.tokenWords p) p.inToken where
  spaced := ⟨distinct.separates rfl, distinct.separates rfl, distinct.separates rfl,
    distinct.separates rfl, distinct.separates rfl⟩
  wordlike := ⟨distinct.separates rfl, fun _ punctuation =>
    distinct.separates (Embed.isTokenChar_of_punctuation punctuation)⟩
  foreign _ := Embed.separates_of_inToken

variable {style : Style} {embedsEnabled : Bool} {content : Text} {rendered : Rendered}
  {events : List Log.Event}

/-- The slots of a rendered tree stand for what is found in the live texts of its outline, one text
after the other. -/
theorem render_described (ok : render style embedsEnabled content = (.ok rendered, events)) :
    ∃ outlines, outlineOf rendered.parsed = .ok outlines ∧
      (slots rendered.tree).map Slot.descriptor =
        (Outline.textsAll outlines).flatMap (Embed.foundIn rendered.parsed.embeds) := by
  obtain ⟨-, outlines, count, readOk, shown⟩ := render_shown ok
  exact ⟨outlines, readOk, shownAll_described (distinct_of_render ok) shown⟩

/-- The tokens in a rewritten text come in the order of extraction, each of them once at most. -/
theorem render_hits (ok : render style embedsEnabled content = (.ok rendered, events)) :
    ((Embed.tokenWords rendered.parsed).hits rendered.parsed.rewritten).Sublist
      (rendered.parsed.embeds.map Embed.Descriptor.token) := by
  obtain ⟨parsed, -⟩ := render_shown ok
  split at parsed
  · have extracted := Embed.extracted_of_extract parsed
    exact extracted.hits_scanned extracted.scanned (List.infix_refl _) (List.Subset.refl _)
  · have nothing : (Embed.tokenWords rendered.parsed).hits rendered.parsed.rewritten = [] := by
      rw [List.eq_nil_iff_forall_not_mem]
      intro word mem
      obtain ⟨isWord, -⟩ := Text.Vocabulary.exists_of_mem_hits mem
      obtain ⟨-, d, isEmbed, -⟩ := Embed.isWord_iff.mp isWord
      rw [parsed] at isEmbed
      cases isEmbed
    rw [nothing]
    exact List.nil_sublist _

/-- No character reference in a rewritten text stands for a character of a token. -/
def SpellsNoToken (p : Embed.Parsed) : Prop :=
  ∀ body chars rest, '&' :: body <:+ p.rewritten → charRef? body = some (chars, rest) →
    ∀ c ∈ chars, p.inToken c = false

/-- No token is spelled exactly if no reference writes a character of one. -/
theorem spellsNoToken_iff {p : Embed.Parsed} :
    SpellsNoToken p ↔ (references p.inToken).hits p.rewritten = [] :=
  hits_references_eq_nil_iff.symm

/-- Unless a character reference stands for a character of a token, every embed gets at most one
slot, and the slots come in the order of the embeds. -/
theorem render_slots_sublist (ok : render style embedsEnabled content = (.ok rendered, events))
    (plain : SpellsNoToken rendered.parsed) :
    ((slots rendered.tree).map Slot.descriptor).Sublist rendered.parsed.embeds ∧
      ((slots rendered.tree).map Slot.descriptor).Pairwise fun d e => d.index < e.index := by
  have distinct := distinct_of_render ok
  obtain ⟨outlines, readOk, same⟩ := render_described ok
  have isPart : (slots rendered.tree).map Slot.descriptor ⊆ rendered.parsed.embeds := by
    rw [same]
    intro d mem
    obtain ⟨text, -, found⟩ := List.mem_flatMap.mp mem
    exact (Embed.foundIn_sublist _ text).subset found
  have tokens : (((slots rendered.tree).map Slot.descriptor).map Embed.Descriptor.token).Sublist
      (rendered.parsed.embeds.map Embed.Descriptor.token) := by
    rw [same]
    exact (Embed.tokens_flatMap_foundIn_sublist distinct _).trans
      ((outlineOf_sublist (unmarked_tokenWords distinct) readOk (spellsNoToken_iff.mp plain)).trans
        (render_hits ok))
  have fewer := distinct.sublist_of_tokens isPart tokens
  exact ⟨fewer, distinct.increasing.sublist fewer⟩

/-- An embed in a block of code, one in front of an apostrophe that is written by number, and one in
a quote. -/
def apostrophe : Text :=
  ("    \x7b\x7bguide:3\x7d\x7d\n\n\x7b\x7barc:1\x7d\x7d&#8217;s end\n\n" ++
    "> \x7b\x7bvolume:2\x7d\x7d").toList

/-- The embed in code gets no slot, and the other two keep their order. -/
theorem render_slots_sublist_apostrophe : ∃ rendered events,
    render {} true apostrophe = (.ok rendered, events) ∧ SpellsNoToken rendered.parsed ∧
      rendered.parsed.embeds.length = 3 ∧ (slots rendered.tree).length = 2 ∧
      ((slots rendered.tree).map Slot.descriptor).Sublist rendered.parsed.embeds ∧
      ((slots rendered.tree).map Slot.descriptor).Pairwise fun d e => d.index < e.index := by
  have passes : (render {} true apostrophe).1.toOption.any (fun rendered =>
      ((references rendered.parsed.inToken).hits rendered.parsed.rewritten).isEmpty &&
        (rendered.parsed.embeds.length == 3 &&
          ((preorderAll rendered.tree).filterMap slot?).length == 2)) = true := by
    decide +kernel
  obtain ⟨rendered, events, ok, checked⟩ := exists_of_any passes
  simp only [Bool.and_eq_true, List.isEmpty_iff, ← spellsNoToken_iff, beq_iff_eq] at checked
  obtain ⟨plain, three, two⟩ := checked
  rw [← slots_eq] at two
  exact ⟨rendered, events, ok, plain, three, two, render_slots_sublist ok plain⟩

/-- A token of which one letter is written by number, in front of an embed. -/
def forgedToken : Text := "SPOILERDOWNEMBED&#81;0E\n\n\x7b\x7barc:1\x7d\x7d".toList

/-- The text becomes a second slot of the embed. -/
theorem forgedToken_not_sublist : ∃ rendered events,
    render {} true forgedToken = (.ok rendered, events) ∧
      ¬ ((slots rendered.tree).map Slot.descriptor).Sublist rendered.parsed.embeds := by
  have passes : (render {} true forgedToken).1.toOption.any (fun rendered =>
      ((preorderAll rendered.tree).filterMap slot?).length == 2 &&
        rendered.parsed.embeds.length == 1) = true := by
    decide +kernel
  obtain ⟨rendered, events, ok, checked⟩ := exists_of_any passes
  simp only [Bool.and_eq_true, beq_iff_eq] at checked
  obtain ⟨two, one⟩ := checked
  rw [← slots_eq] at two
  refine ⟨rendered, events, ok, fun fewer => ?_⟩
  have le := fewer.length_le
  rw [List.length_map, two, one] at le
  omega

end Loremark.Tree
