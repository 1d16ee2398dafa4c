import Loremark.Proofs.Tree.Alone
import Loremark.Proofs.Tree.Refusals

/-!
# Embeds that become cards

Whether an embed becomes a card is decided when its paragraph is built, and a marker is cut off a
quote later. A slot is a card exactly if it was alone in its paragraph as the author wrote it
(`WrittenAlone`). It is alone in the finished tree then; a slot that is alone in the tree without
being a card stands in a gated quote (`render_cards_iff`). There is such a slot if nothing but the
marker stood beside it (`behindMarker_not_card`).
-/

set_option autoImplicit false

namespace Loremark.Tree

open Markdown Node

variable {s : Slot} {nodes others : List Node} {node : Node}

/-! ## Paragraphs as they were written -/

mutual

/-- The nodes of a paragraph of an outline, with the markers of the quotes around it. -/
inductive HasParagraph (source : Source) : Nat → Outline → List Node → Prop
  | own {n later : Nat} {tight : Bool} {content : List Inline} {children : List Node}
      (shown : ShownInlines source true n content children later) :
      HasParagraph source n (.paragraph tight content) children
  | inside {n : Nat} {outline : Outline} {children : List Node}
      (among : HasParagraphAmong source n outline.inside children) :
      HasParagraph source n outline children

/-- The nodes of a paragraph of one of several outlines. -/
inductive HasParagraphAmong (source : Source) : Nat → List Outline → List Node → Prop
  | here {n : Nat} {outline : Outline} {outlines : List Outline} {children : List Node}
      (first : HasParagraph source n outline children) :
      HasParagraphAmong source n (outline :: outlines) children
  | behind {n middle : Nat} {outline : Outline} {outlines : List Outline} {node : Node}
      {children : List Node} (shown : Shown source n outline node middle)
      (later : HasParagraphAmong source middle outlines children) :
      HasParagraphAmong source n (outline :: outlines) children

end

/-- A slot was alone in a paragraph before any marker was cut off. -/
def WrittenAlone (source : Source) (outlines : List Outline) (s : Slot) : Prop :=
  ∃ children, HasParagraphAmong source 0 outlines children ∧
    AloneIn { s with mode := source.style.mode } children

/-- A slot stands in a gated quote of a tree. -/
def InGatedQuote (nodes : List Node) (s : Slot) : Prop :=
  ∃ region inside, .spoiler region inside ∈ preorderAll nodes ∧ region.form = .blockquote ∧
    s ∈ slots inside

/-- The cards of a tree are the slots that are alone in its paragraphs as they were written. -/
structure Carded (source : Source) (paragraphs : List Node → Prop) (nodes : List Node) : Prop where
  written : ∀ s ∈ slots nodes, s.mode = .full →
    ∃ children, paragraphs children ∧ AloneIn { s with mode := source.style.mode } children
  card : ∀ children s, paragraphs children → AloneIn s children → s.card ∈ slots nodes
  alone : ∀ s ∈ slots nodes, s.mode = .full → Alone nodes s
  other : ∀ s, Alone nodes s → s.mode = .full ∨ InGatedQuote nodes s

section Carded

variable {source : Source} {paragraphs more : List Node → Prop}

/-- A slot in a gated quote is in one when more nodes stand around it. -/
theorem InGatedQuote.mono (inside : InGatedQuote nodes s)
    (fewer : preorderAll nodes ⊆ preorderAll others) : InGatedQuote others s := by
  obtain ⟨region, content, mem, gated, slot⟩ := inside
  exact ⟨region, content, fewer mem, gated, slot⟩

/-- Which slots are cards depends on what the paragraphs hold only. -/
theorem Carded.congr (carded : Carded source paragraphs nodes)
    (same : ∀ children, more children ↔ paragraphs children) : Carded source more nodes := by
  obtain rfl : more = paragraphs := funext fun children => propext (same children)
  exact carded

/-- The cards of two lists of nodes are those of each of them. -/
theorem Carded.append (first : Carded source paragraphs nodes) (second : Carded source more others) :
    Carded source (fun children => paragraphs children ∨ more children) (nodes ++ others) where
  written s mem full := by
    rw [slots_append, List.mem_append] at mem
    rcases mem with here | behind
    · obtain ⟨children, own, alone⟩ := first.written s here full
      exact ⟨children, .inl own, alone⟩
    · obtain ⟨children, own, alone⟩ := second.written s behind full
      exact ⟨children, .inr own, alone⟩
  card children s either alone := by
    rw [slots_append, List.mem_append]
    exact either.imp (fun own => first.card children s own alone)
      fun own => second.card children s own alone
  alone s mem full := by
    rw [slots_append, List.mem_append] at mem
    exact alone_append.mpr (mem.imp (fun here => first.alone s here full)
      fun behind => second.alone s behind full)
  other s alone := by
    have both := preorderAll_append nodes others
    rcases alone_append.mp alone with here | behind
    · refine (first.other s here).imp_right fun inside => inside.mono ?_
      exact both ▸ List.subset_append_left _ _
    · refine (second.other s behind).imp_right fun inside => inside.mono ?_
      exact both ▸ List.subset_append_right _ _

/-- A node with the same slots and the same slots alone in paragraphs as what is below it. -/
theorem Carded.above (carded : Carded source paragraphs node.children)
    (same : slots [node] = slots node.children)
    (alone : ∀ s, Alone [node] s ↔ Alone node.children s) : Carded source paragraphs [node] where
  written s mem full := carded.written s (same ▸ mem) full
  card children s own only := same ▸ carded.card children s own only
  alone s mem full := (alone s).mpr (carded.alone s (same ▸ mem) full)
  other s only := by
    refine (carded.other s ((alone s).mp only)).imp_right fun inside => inside.mono ?_
    refine preorderAll_children_subset ?_
    rw [preorderAll, preorder_eq]
    exact List.mem_append_left _ List.mem_cons_self

/-- A block that is no paragraph adds no cards. -/
theorem Carded.block {kind : BlockKind} (carded : Carded source paragraphs nodes)
    (plain : ∀ tight marked, kind ≠ .paragraph tight marked) :
    Carded source paragraphs [.block kind nodes] := by
  refine carded.above (slots_block kind) fun s => ?_
  rw [alone_block, or_iff_right]
  · rfl
  · cases kind with
    | paragraph tight marked => exact absurd rfl (plain tight marked)
    | _ => exact id

/-- A gated region adds no cards. -/
theorem Carded.spoiler (carded : Carded source paragraphs nodes) (region : Spoiler.Region) :
    Carded source paragraphs [.spoiler region nodes] :=
  carded.above (slots_spoiler region) fun _ => alone_spoiler

/-- A container adds no cards. -/
theorem Carded.container {className title text : Text} (carded : Carded source paragraphs nodes)
    (built : ShownContainer className title text nodes node) : Carded source paragraphs [node] := by
  have container : Carded source paragraphs [.block (.container className title) nodes] :=
    carded.block fun _ _ => BlockKind.noConfusion
  cases built with
  | bare detected => exact container
  | gated detected => exact container.spoiler _

/-- What a quote is detected as is a quote. -/
theorem form_of_detectQuote {text : Text} {region : Spoiler.Region}
    (detected : Spoiler.detectQuote text = .ok (some region)) : region.form = .blockquote := by
  rw [Spoiler.detectQuote] at detected
  split at detected
  · cases detected
  · rename_i digits rest marker
    cases number : Spoiler.chapterOf digits with
    | error cause => rw [number] at detected; cases detected
    | ok chapter =>
      rw [number] at detected
      rw [← Option.some.inj (Except.ok.inj detected)]

/-- Cutting the marker off changes nothing about the cards. A slot can be alone behind it only. -/
theorem Carded.quote (carded : Carded source paragraphs nodes) (solid : Solid nodes)
    (built : ShownQuote nodes node) : Carded source paragraphs [node] := by
  cases built with
  | bare plain => exact carded.block fun _ _ => BlockKind.noConfusion
  | gated marker detected =>
    rename_i region digits rest
    have form := form_of_detectQuote detected
    have cut := (withoutMarker_slots ((flatten nodes).length - rest.length) nodes solid).1
    have kept (s : Slot) :
        Alone nodes s → Alone (withoutMarker ((flatten nodes).length - rest.length) nodes) s :=
      alone_withoutMarker _ solid
    generalize withoutMarker ((flatten nodes).length - rest.length) nodes = inner at cut kept
    have same : slots [.spoiler region [.block (.quote Spoiler.spoilerWord) inner]] =
        slots nodes := by
      rw [slots_spoiler, slots_block, cut]
    constructor
    · exact fun s mem full => carded.written s (same ▸ mem) full
    · exact fun children s own only => same ▸ carded.card children s own only
    · intro s mem full
      rw [alone_spoiler, alone_block]
      exact .inr (kept s (carded.alone s (same ▸ mem) full))
    · intro s only
      refine .inr ⟨region, _, List.mem_cons_self, form, ?_⟩
      exact (alone_spoiler.mp only).mem_slots

/-- Plain output holds no cards. -/
theorem Carded.raw {html : Text} (none : ∀ children, ¬ paragraphs children) :
    Carded source paragraphs [.raw html] := by
  have slotless (s : Slot) : s ∉ slots [.raw html] := by
    rw [slots_raw]
    exact List.not_mem_nil
  exact ⟨fun s mem => absurd mem (slotless s), fun children s own => absurd own (none children),
    fun s mem => absurd mem (slotless s), fun s only => absurd only alone_raw⟩

end Carded

/-! ## Building -/

section Building

variable {source : Source}

/-- The paragraph of a paragraph is the one it is shown as. -/
theorem hasParagraph_own {n later : Nat} {tight : Bool} {content : List Inline}
    (shown : ShownInlines source true n content nodes later) (children : List Node) :
    HasParagraph source n (.paragraph tight content) children ↔ children = nodes := by
  constructor
  · intro has
    cases has with
    | own shown' => exact (shownInlines_unique shown' shown).1
    | inside among => cases among
  · rintro rfl
    exact .own shown

/-- The paragraphs of another outline are those inside it. -/
theorem hasParagraph_inside {n : Nat} {outline : Outline}
    (plain : ∀ tight content, outline ≠ .paragraph tight content) (children : List Node) :
    HasParagraph source n outline children ↔
      HasParagraphAmong source n outline.inside children := by
  refine ⟨fun has => ?_, .inside⟩
  cases has with
  | own shown => exact absurd rfl (plain _ _)
  | inside among => exact among

/-- No outlines have no paragraphs. -/
theorem hasParagraphAmong_nil {n : Nat} (children : List Node) :
    ¬ HasParagraphAmong source n [] children := by
  intro has
  cases has

/-- The paragraphs of outlines are those of the first one and those of the others. -/
theorem hasParagraphAmong_cons {n middle : Nat} {outline : Outline} {outlines : List Outline}
    (here : Shown source n outline node middle) (children : List Node) :
    HasParagraphAmong source n (outline :: outlines) children ↔
      HasParagraph source n outline children ∨
        HasParagraphAmong source middle outlines children := by
  constructor
  · intro has
    cases has with
    | here first => exact .inl first
    | behind shown later =>
      obtain ⟨-, rfl⟩ := shown_unique shown here
      exact .inr later
  · rintro (first | later)
    · exact .here first
    · exact .behind here later

/-- No slot is alone in running text. -/
theorem not_alone_of_running (running : Everywhere Running nodes) : ¬ Alone nodes s := by
  rintro ⟨node, mem, holds⟩
  have own := running node mem
  cases node with
  | block kind children => cases own
  | _ => cases holds

/-- Running text has no cards. -/
theorem carded_of_running {paragraphs : List Node → Prop} (fresh : Everywhere (Fresh source) nodes)
    (running : Everywhere Running nodes) (none : ∀ children, ¬ paragraphs children) :
    Carded source paragraphs nodes := by
  have inline (s : Slot) (mem : s ∈ slots nodes) : s.mode ≠ .full := by
    rw [mode_of_fresh fresh mem]
    exact mode_ne_full source.style
  exact ⟨fun s mem full => absurd full (inline s mem),
    fun children s own => absurd own (none children),
    fun s mem full => absurd full (inline s mem),
    fun s only => absurd only (not_alone_of_running running)⟩

/-- A paragraph with one slot and otherwise blanks has a card. -/
theorem carded_of_alone {tight marked : Bool} (alone : AloneIn s nodes)
    (mode : s.mode = source.style.mode) :
    Carded source (fun children => children = nodes)
      [.block (.paragraph tight marked) (nodes.map asCard)] := by
  have single := slots_of_aloneIn alone
  have card : slots [.block (.paragraph tight marked) (nodes.map asCard)] = [s.card] :=
    (slots_block _).trans (slots_of_aloneIn alone.cards)
  constructor
  · intro t mem full
    rw [card, List.mem_singleton] at mem
    refine ⟨nodes, rfl, ?_⟩
    rw [mem, Slot.card, ← mode]
    exact alone
  · rintro children t rfl own
    rw [slots_of_aloneIn own] at single
    rw [card, ← List.head_eq_of_cons_eq single]
    exact List.mem_singleton_self _
  · intro t mem full
    rw [card, List.mem_singleton] at mem
    rw [mem]
    exact alone_block.mpr (.inl alone.cards)
  · intro t only
    have mem := only.mem_slots
    rw [card, List.mem_singleton] at mem
    exact .inl (by rw [mem, Slot.card])

/-- A paragraph in which no slot is alone has no card. -/
theorem carded_of_not_alone {tight marked : Bool} (none : ∀ s, ¬ AloneIn s nodes)
    (fresh : Everywhere (Fresh source) nodes) (running : Everywhere Running nodes) :
    Carded source (fun children => children = nodes)
      [.block (.paragraph tight marked) nodes] := by
  have inside : Carded source (fun _ => False) nodes :=
    carded_of_running fresh running fun _ => id
  have same (s : Slot) : Alone [.block (.paragraph tight marked) nodes] s ↔ Alone nodes s :=
    alone_block.trans (or_iff_right (none s))
  have whole := inside.above (slots_block (.paragraph tight marked)) same
  constructor
  · intro t mem full
    obtain ⟨_, nowhere, -⟩ := whole.written t mem full
    exact nowhere.elim
  · rintro children t rfl own
    exact absurd own (none t)
  · exact whole.alone
  · exact whole.other

/-- A paragraph that is just built has a card if a slot is alone in it. -/
theorem carded_paragraph (cards : source.style.standaloneCards = true)
    (plain : source.style.compact = false) {tight : Bool}
    (fresh : Everywhere (Fresh source) nodes) (running : Everywhere Running nodes) :
    Carded source (fun children => children = nodes) [paragraphNode source tight nodes] := by
  rw [paragraphNode]
  simp only [cards, plain, Bool.not_false, Bool.and_self, Bool.true_and]
  split
  · rename_i lone
    obtain ⟨s, alone⟩ := isLoneSlot_iff.mp lone
    refine carded_of_alone alone (mode_of_fresh fresh ?_)
    rw [slots_of_aloneIn alone]
    exact List.mem_singleton_self s
  · rename_i crowd
    exact carded_of_not_alone (fun s alone => crowd (isLoneSlot_iff.mpr ⟨s, alone⟩)) fresh running

mutual

/-- However an outline is shown, its cards are the slots that were alone. -/
theorem shown_carded (cards : source.style.standaloneCards = true)
    (plain : source.style.compact = false) (distinct : source.parsed.Distinct) {n later : Nat}
    {outline : Outline} {node : Node} (shown : Shown source n outline node later) :
    Carded source (HasParagraph source n outline) [node] := by
  cases shown with
  | paragraph shown =>
    exact (carded_paragraph cards plain (inlines_fresh distinct shown)
      (inlines_running shown)).congr (hasParagraph_own shown)
  | heading shown =>
    refine Carded.block ?_ fun _ _ => BlockKind.noConfusion
    refine carded_of_running (inlines_fresh distinct shown) (inlines_running shown) ?_
    intro children has
    cases has with
    | inside among => exact hasParagraphAmong_nil children among
  | bulletList shown =>
    exact ((shownAll_carded cards plain distinct shown).block fun _ _ =>
      BlockKind.noConfusion).congr (hasParagraph_inside fun _ _ => Outline.noConfusion)
  | orderedList shown =>
    exact ((shownAll_carded cards plain distinct shown).block fun _ _ =>
      BlockKind.noConfusion).congr (hasParagraph_inside fun _ _ => Outline.noConfusion)
  | item shown =>
    exact ((shownAll_carded cards plain distinct shown).block fun _ _ =>
      BlockKind.noConfusion).congr (hasParagraph_inside fun _ _ => Outline.noConfusion)
  | quote shown built =>
    have inside := shownAll_carded cards plain distinct shown
    exact (inside.quote (shownAll_numbered shown).solid built).congr
      (hasParagraph_inside fun _ _ => Outline.noConfusion)
  | container shown built =>
    exact ((shownAll_carded cards plain distinct shown).container built).congr
      (hasParagraph_inside fun _ _ => Outline.noConfusion)
  | division shown built =>
    exact ((shownAll_carded cards plain distinct shown).container built).congr
      (hasParagraph_inside fun _ _ => Outline.noConfusion)
  | plain n block =>
    refine Carded.raw ?_
    intro children has
    cases has with
    | inside among => exact hasParagraphAmong_nil children among

/-- The cards of the tree of an outline are the slots alone in its paragraphs. -/
theorem shownAll_carded (cards : source.style.standaloneCards = true)
    (plain : source.style.compact = false) (distinct : source.parsed.Distinct) {n later : Nat}
    {outlines : List Outline} {nodes : List Node} (shown : ShownAll source n outlines nodes later) :
    Carded source (HasParagraphAmong source n outlines) nodes := by
  cases shown with
  | nil n => exact carded_of_running everywhere_nil everywhere_nil hasParagraphAmong_nil
  | cons here behind =>
    have first := shown_carded cards plain distinct here
    have others := shownAll_carded cards plain distinct behind
    exact (first.append others).congr (hasParagraphAmong_cons here)

end

end Building

/-! ## Renders -/

/-- If embeds become cards, a slot of the tree is one exactly if it was alone in its paragraph
before markers were cut off. It is alone in the tree then, and a slot that is alone in the tree was
written alone unless it stands in a gated quote. -/
theorem render_cards_iff {style : Style} (cards : style.standaloneCards = true)
    (plain : style.compact = false) {embedsEnabled : Bool} {content : Text} {rendered : Rendered}
    {events : List Log.Event} (ok : render style embedsEnabled content = (.ok rendered, events)) :
    ∃ outlines, outlineOf rendered.parsed = .ok outlines ∧ ∀ s ∈ slots rendered.tree,
      (s.mode = .full ↔ WrittenAlone ⟨rendered.parsed, style⟩ outlines s) ∧
      (WrittenAlone ⟨rendered.parsed, style⟩ outlines s → Alone rendered.tree s) ∧
      (Alone rendered.tree s →
        WrittenAlone ⟨rendered.parsed, style⟩ outlines s ∨ InGatedQuote rendered.tree s) := by
  obtain ⟨-, outlines, later, readOk, shown⟩ := render_shown ok
  have carded := shownAll_carded cards plain (distinct_of_render ok) shown
  refine ⟨outlines, readOk, fun s mem => ?_⟩
  have whole : s.mode = .full ↔ WrittenAlone ⟨rendered.parsed, style⟩ outlines s := by
    refine ⟨carded.written s mem, ?_⟩
    rintro ⟨children, has, only⟩
    -- The slots of a tree have different keys, so the card that the paragraph makes is the slot.
    have card := carded.card children _ has only
    have same := List.inj_on_of_nodup_map (render_keys_range ok).2 mem card rfl
    rw [same, Slot.card]
  refine ⟨whole, ?_, ?_⟩
  · exact fun written => carded.alone s mem (whole.mpr written)
  · exact fun only => (carded.other s only).imp_left whole.mp

/-- An embed behind a marker, and one below a gated quote. -/
def behindMarker : Text :=
  "> `[!SPOILER]` \x7b\x7barc:1\x7d\x7d\n\n\x7b\x7bvolume:2\x7d\x7d".toList

/-- Whether a tree is a gated quote around an embed in line, and behind it a card. -/
def showsBoth (rendered : Rendered) : Bool :=
  match rendered.tree with
  | [.spoiler _ [.block (.quote _) [.block (.paragraph _ _) [.slot s]]],
      .block (.paragraph _ _) [.slot t]] => s.mode == .inline && t.mode == .full
  | _ => false

/-- An embed behind a marker stays in line, and one below the quote becomes a card. -/
theorem behindMarker_showsBoth : ∃ rendered events,
    render { standaloneCards := true } true behindMarker = (.ok rendered, events) ∧
      showsBoth rendered = true := by
  refine exists_of_any ?_
  decide +kernel

/-- A tree that shows both has a slot alone that is no card. -/
theorem of_showsBoth {rendered : Rendered} (both : showsBoth rendered = true) :
    ∃ s ∈ slots rendered.tree, ∃ t ∈ slots rendered.tree,
      Alone rendered.tree s ∧ s.mode ≠ .full ∧ t.mode = .full := by
  unfold showsBoth at both
  split at both
  · rename_i region className tight marked s tight' marked' t tree
    simp only [Bool.and_eq_true, beq_iff_eq] at both
    have alone : Alone rendered.tree s := by
      rw [tree, alone_cons, alone_spoiler, alone_block, alone_block]
      exact .inl (.inr (.inl rfl))
    have card : t ∈ slots rendered.tree := by
      rw [tree, slots_cons, slots_block, slots_slot]
      exact List.mem_append_right _ (List.mem_singleton_self t)
    refine ⟨s, alone.mem_slots, t, card, alone, ?_, both.2⟩
    rw [both.1]
    decide
  · cases both

/-- The embed behind the marker is alone in its paragraph once the marker is cut off, and it is not
a card. -/
theorem behindMarker_not_card : ∃ rendered events s,
    render { standaloneCards := true } true behindMarker = (.ok rendered, events) ∧
      s ∈ slots rendered.tree ∧ Alone rendered.tree s ∧ s.mode ≠ .full := by
  obtain ⟨rendered, events, ok, both⟩ := behindMarker_showsBoth
  obtain ⟨s, mem, _, -, alone, inline, -⟩ := of_showsBoth both
  exact ⟨rendered, events, s, ok, mem, alone, inline⟩

/-- It stands in a gated quote and was not written alone; the one below the quote was. -/
theorem render_cards_iff_behindMarker : ∃ rendered events outlines s t,
    render { standaloneCards := true } true behindMarker = (.ok rendered, events) ∧
      outlineOf rendered.parsed = .ok outlines ∧ InGatedQuote rendered.tree s ∧
      ¬ WrittenAlone ⟨rendered.parsed, { standaloneCards := true }⟩ outlines s ∧
      WrittenAlone ⟨rendered.parsed, { standaloneCards := true }⟩ outlines t := by
  obtain ⟨rendered, events, ok, both⟩ := behindMarker_showsBoth
  obtain ⟨s, mem, t, card, alone, inline, full⟩ := of_showsBoth both
  obtain ⟨outlines, readOk, each⟩ := render_cards_iff rfl rfl ok
  obtain ⟨whole, -, elsewhere⟩ := each s mem
  have notWritten := fun written => inline (whole.mpr written)
  exact ⟨rendered, events, outlines, s, t, ok, readOk,
    (elsewhere alone).resolve_left notWritten, notWritten, (each t card).1.mp full⟩

end Loremark.Tree
