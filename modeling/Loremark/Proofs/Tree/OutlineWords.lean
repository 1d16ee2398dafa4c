import Loremark.Proofs.Markdown.BlockWords
import Loremark.Proofs.Markdown.WrittenChars
import Loremark.Proofs.Tree.Gathering
import Loremark.Proofs.Tree.Leaks
import Loremark.Proofs.Tree.Regrouping

/-!
# The words of an outline

The live texts of a document have no words but those of its text, in the order in which they stand
there (`outlineOf_sublist`). The body of a division is read a second time, but then the markup that
it was taken from is not shown. No character reference in the text may write a character of a word:
what it stands for is joined with the texts around it.
-/

set_option autoImplicit false

namespace Loremark.Tree

open Markdown
open Text (Vocabulary)

variable {v : Vocabulary} {isWritten : Char → Bool}

/-! ## Running text -/

mutual

/-- The live texts of a piece have no words but those that it spells. -/
theorem liveTexts_sublist (lineEnd : v.Separates '\n') (piece : Inline) :
    (v.hitsAll (liveTexts piece)).Sublist (v.hits (spell piece)) := by
  cases piece with
  | text value =>
    rw [liveTexts, spell, Vocabulary.hitsAll_singleton]
  | span kind children =>
    rw [liveTexts, spell, Vocabulary.hits_cons lineEnd]
    exact (liveTextsAll_sublist lineEnd children).trans
      (Vocabulary.hits_prefix_sublist (List.prefix_append _ _))
  | _ => exact List.nil_sublist _

/-- The live texts of pieces have no words but those that they spell. -/
theorem liveTextsAll_sublist (lineEnd : v.Separates '\n') (pieces : List Inline) :
    (v.hitsAll (liveTextsAll pieces)).Sublist (v.hits (spellAll pieces)) := by
  cases pieces with
  | nil => exact List.nil_sublist _
  | cons piece pieces =>
    rw [liveTextsAll, spellAll, Vocabulary.hitsAll_append]
    exact ((liveTexts_sublist lineEnd piece).append (liveTextsAll_sublist lineEnd pieces)).trans
      (Vocabulary.hits_append_sublist _ _)

end

/-! ## Blocks -/

section Map

variable {texts : List Inline → List Text} {read : Text → List Inline} {good : Text → Prop}

mutual

/-- Reading the texts of a block brings no words if reading each of them brings none. -/
theorem textsOf_map
    (fewer : ∀ content, good content → (v.hitsAll (texts (read content))).Sublist (v.hits content))
    (block : Block Text)
    (all : ∀ text ∈ Block.textsOf (fun text => [text]) block, good text) :
    (v.hitsAll (Block.textsOf texts (Block.map read block))).Sublist
      (v.hitsAll (Block.textsOf (fun text => [text]) block)) := by
  cases block with
  | paragraph tight content =>
    rw [Block.map, Block.textsOf, Block.textsOf, Vocabulary.hitsAll_singleton]
    exact fewer content (all content List.mem_cons_self)
  | heading level content =>
    rw [Block.map, Block.textsOf, Block.textsOf, Vocabulary.hitsAll_singleton]
    exact fewer content (all content List.mem_cons_self)
  | bulletList items => exact textsOfAll_mapAll fewer items all
  | orderedList start items => exact textsOfAll_mapAll fewer items all
  | item children => exact textsOfAll_mapAll fewer children all
  | quote children => exact textsOfAll_mapAll fewer children all
  | container info children => exact textsOfAll_mapAll fewer children all
  | html content => exact List.Sublist.refl _
  | _ => exact List.nil_sublist _

/-- Reading the running text of blocks brings no words if reading a text brings none. -/
theorem textsOfAll_mapAll
    (fewer : ∀ content, good content → (v.hitsAll (texts (read content))).Sublist (v.hits content))
    (blocks : List (Block Text))
    (all : ∀ text ∈ Block.textsOfAll (fun text => [text]) blocks, good text) :
    (v.hitsAll (Block.textsOfAll texts (Block.mapAll read blocks))).Sublist
      (v.hitsAll (Block.textsOfAll (fun text => [text]) blocks)) := by
  cases blocks with
  | nil => exact List.nil_sublist _
  | cons block blocks =>
    rw [Block.textsOfAll] at all ⊢
    obtain ⟨here, later⟩ := List.forall_mem_append.mp all
    have behind := textsOfAll_mapAll fewer blocks later
    rw [Block.mapAll, Vocabulary.hitsAll_append]
    split
    · exact behind.trans (List.sublist_append_right _ _)
    · rw [Block.textsOfAll, Vocabulary.hitsAll_append]
      exact (textsOf_map fewer block here).append behind

end

end Map

/-- Fewer blocks have fewer texts. -/
theorem textsOfAll_sublist {Content : Type} {texts : Content → List Text}
    {blocks others : List (Block Content)} (fewer : blocks.Sublist others) :
    (Block.textsOfAll texts blocks).Sublist (Block.textsOfAll texts others) := by
  induction fewer with
  | slnil => exact List.Sublist.refl _
  | cons block _ ih => exact ih.trans (List.sublist_append_right _ _)
  | cons_cons block _ ih => exact (List.Sublist.refl _).append ih

/-- The live texts of blocks, and their markup. -/
def blockTexts (blocks : Blocks) : List Text := Block.textsOfAll liveTextsAll blocks

/-- No markup of the blocks has a reference that writes a character of the class. -/
def MarkupPlain (isWritten : Char → Bool) (blocks : Blocks) : Prop :=
  (references isWritten).hitsAll (Block.textsOfAll (fun _ => []) blocks) = []

/-- The texts of two lists of blocks follow each other. -/
theorem blockTexts_append (blocks others : Blocks) :
    blockTexts (blocks ++ others) = blockTexts blocks ++ blockTexts others :=
  Block.textsOfAll_append blocks others

/-- The texts of the first block stand in front of those of the others. -/
theorem blockTexts_cons (block : Block (List Inline)) (blocks : Blocks) :
    blockTexts (block :: blocks) = blockTexts [block] ++ blockTexts blocks :=
  blockTexts_append [block] blocks

/-- Fewer blocks have fewer words. -/
theorem hits_blockTexts_sublist {blocks others : Blocks} (fewer : blocks.Sublist others) :
    (v.hitsAll (blockTexts blocks)).Sublist (v.hitsAll (blockTexts others)) :=
  Vocabulary.hitsAll_sublist_of_sublist (textsOfAll_sublist fewer)

/-- Fewer blocks have plain markup if all of them have. -/
theorem MarkupPlain.of_sublist {blocks others : Blocks} (plain : MarkupPlain isWritten others)
    (fewer : blocks.Sublist others) : MarkupPlain isWritten blocks := by
  have less : ((references isWritten).hitsAll (Block.textsOfAll (fun _ => []) blocks)).Sublist
      ((references isWritten).hitsAll (Block.textsOfAll (fun _ => []) others)) :=
    Vocabulary.hitsAll_sublist_of_sublist (textsOfAll_sublist fewer)
  rw [plain] at less
  exact List.sublist_nil.mp less

/-- Two lists of blocks have plain markup if each of them has. -/
theorem MarkupPlain.append {blocks others : Blocks} (first : MarkupPlain isWritten blocks)
    (second : MarkupPlain isWritten others) : MarkupPlain isWritten (blocks ++ others) := by
  rw [MarkupPlain] at first second ⊢
  rw [Block.textsOfAll_append, Vocabulary.hitsAll_append, first, second, List.append_nil]

/-- A block that holds other blocks has their texts. -/
theorem texts_of_inside (block : Block (List Inline)) {children : Blocks}
    (same : ∀ texts : List Inline → List Text,
      Block.textsOf texts block = Block.textsOfAll texts children) :
    blockTexts [block] = blockTexts children ∧
      (MarkupPlain isWritten [block] → MarkupPlain isWritten children) := by
  have alone (texts : List Inline → List Text) :
      Block.textsOfAll texts [block] = Block.textsOfAll texts children := by
    rw [← same, Block.textsOfAll, Block.textsOfAll, List.append_nil]
  refine ⟨alone _, fun plain => ?_⟩
  rwa [MarkupPlain, alone] at plain

/-- Words without spaces, line ends and punctuation, of characters of a class. -/
structure Unmarked (v : Vocabulary) (isWritten : Char → Bool) : Prop where
  spaced : Spaced v
  wordlike : Wordlike v
  foreign : ∀ c, isWritten c = false → v.Separates c

/-- The blocks of a text without references to characters of words have no words but its own. -/
theorem readText_sublist (unmarked : Unmarked v isWritten) {text : Text} {blocks : Blocks}
    {known later : References}
    (read : readText text known = .ok (blocks, later))
    (plain : (references isWritten).hits text = []) :
    (v.hitsAll (blockTexts blocks)).Sublist (v.hits text) ∧ MarkupPlain isWritten blocks := by
  rw [readText, Markdown.read] at read
  simp only [bind, Except.bind, pure, Except.pure] at read
  cases ran : blocksOf text with
  | error cause =>
    rw [ran] at read
    cases read
  | ok found =>
    rw [ran] at read
    cases read
    have fewer := blocksOf_sublist unmarked.spaced ran
    -- References are a vocabulary too, so reading blocks brings none of them.
    have none : (references isWritten).hitsAll (written found) = [] := by
      have inText := blocksOf_sublist (spaced_references isWritten) ran
      rw [plain] at inText
      exact List.sublist_nil.mp inText
    have each : ∀ content ∈ written found, (references isWritten).hits content = [] :=
      List.flatMap_eq_nil_iff.mp none
    constructor
    · refine (textsOfAll_mapAll (fun content free => ?_) found each).trans fewer
      have inline := readInline_sublist unmarked.wordlike (known ++ Block.definitionsAll found)
        (plainReferences_of_hits unmarked.foreign free)
      exact (liveTextsAll_sublist unmarked.spaced.lineEnd _).trans inline
    · have markup : ((references isWritten).hitsAll (Block.textsOfAll (fun _ => [])
          (Block.mapAll (readInline (known ++ Block.definitionsAll found)) found))).Sublist
          ((references isWritten).hitsAll (written found)) := by
        refine textsOfAll_mapAll ?_ found fun _ _ => trivial
        exact fun _ _ => List.nil_sublist _
      rw [none] at markup
      exact List.sublist_nil.mp markup

/-- What the words of outlines that are read from blocks are. -/
def Outlines (v : Vocabulary) (isWritten : Char → Bool)
    (read : Blocks → Reading (List Outline)) : Prop :=
  ∀ {blocks : Blocks} {known later : References} {outlines : List Outline},
    read blocks known = .ok (outlines, later) → MarkupPlain isWritten blocks →
      (v.hitsAll (Outline.textsAll outlines)).Sublist (v.hitsAll (blockTexts blocks))

variable {read : Blocks → Reading (List Outline)}

/-- The outline of a division has no words but those of its blocks. -/
theorem outlineDivision_sublist (unmarked : Unmarked v isWritten)
    (deeper : Outlines v isWritten read) {html : Text} {blocks : Blocks} {start : DivisionStart}
    {known later : References} {outline : Outline}
    (found : divisionStart? html blocks = some start)
    (plain : (references isWritten).hits html = []) (plainBehind : MarkupPlain isWritten blocks)
    (ran : outlineDivision read start blocks known = .ok (outline, later)) :
    (v.hitsAll outline.texts).Sublist
      (v.hits html ++ v.hitsAll (blockTexts (blocks.take start.used))) := by
  obtain ⟨part, le⟩ := divisionStart?_cases found
  have finish (first : Blocks) {middle : References}
      (fewer : (v.hitsAll (blockTexts first)).Sublist (v.hits html))
      (firstPlain : MarkupPlain isWritten first)
      (rest : (do return .division start.className (← read (first ++ blocks.take start.inside)) :
        Reading Outline) middle = .ok (outline, later)) :
      (v.hitsAll outline.texts).Sublist
        (v.hits html ++ v.hitsAll (blockTexts (blocks.take start.used))) := by
    obtain ⟨outlines, readOk, rfl⟩ := of_reading_map rest
    have inside := deeper readOk
      (firstPlain.append (plainBehind.of_sublist (List.take_sublist _ _)))
    rw [blockTexts_append, Vocabulary.hitsAll_append] at inside
    have longer : (blocks.take start.inside).Sublist (blocks.take start.used) :=
      (List.take_prefix_take_left le).sublist
    exact inside.trans (fewer.append (hits_blockTexts_sublist longer))
  rw [outlineDivision] at ran
  split at ran
  · exact finish [] (List.nil_sublist _) rfl ran
  · -- The body is read a second time, and stands in for the markup that it is taken from.
    obtain ⟨first, middle, began, rest⟩ := of_reading_bind ran
    have bodyPlain : (references isWritten).hits start.body = [] := by
      rw [← List.sublist_nil, ← plain]
      exact Vocabulary.hits_infix_sublist part
    obtain ⟨fewer, firstPlain⟩ := readText_sublist unmarked began bodyPlain
    exact finish first (fewer.trans (Vocabulary.hits_infix_sublist part)) firstPlain rest

mutual

/-- The outline of a block has no words but those of the block. -/
theorem outlineBlock_sublist (unmarked : Unmarked v isWritten)
    (deeper : Outlines v isWritten read) (block : Block (List Inline)) {known later : References}
    {outline : Outline} (ran : outlineBlock read block known = .ok (outline, later))
    (plain : MarkupPlain isWritten [block]) :
    (v.hitsAll outline.texts).Sublist (v.hitsAll (blockTexts [block])) := by
  cases block with
  | paragraph tight content =>
    cases ran
    rw [Outline.texts, blockTexts, Block.textsOfAll, Block.textsOf, Block.textsOfAll,
      List.append_nil]
  | heading level content =>
    cases ran
    rw [Outline.texts, blockTexts, Block.textsOfAll, Block.textsOf, Block.textsOfAll,
      List.append_nil]
  | bulletList items =>
    obtain ⟨outlines, ranInside, rfl⟩ := of_reading_map ran
    obtain ⟨same, inside⟩ := texts_of_inside (.bulletList items) fun _ => rfl
    rw [same]
    exact outlineBlocks_sublist unmarked deeper 0 items ranInside (inside plain)
  | orderedList start items =>
    obtain ⟨outlines, ranInside, rfl⟩ := of_reading_map ran
    obtain ⟨same, inside⟩ := texts_of_inside (.orderedList start items) fun _ => rfl
    rw [same]
    exact outlineBlocks_sublist unmarked deeper 0 items ranInside (inside plain)
  | item children =>
    obtain ⟨outlines, ranInside, rfl⟩ := of_reading_map ran
    obtain ⟨same, inside⟩ := texts_of_inside (.item children) fun _ => rfl
    rw [same]
    exact outlineBlocks_sublist unmarked deeper 0 children ranInside (inside plain)
  | quote children =>
    obtain ⟨outlines, ranInside, rfl⟩ := of_reading_map ran
    obtain ⟨same, inside⟩ := texts_of_inside (.quote children) fun _ => rfl
    rw [same]
    exact outlineBlocks_sublist unmarked deeper 0 children ranInside (inside plain)
  | container info children =>
    obtain ⟨outlines, ranInside, rfl⟩ := of_reading_map ran
    obtain ⟨same, inside⟩ := texts_of_inside (.container info children) fun _ => rfl
    rw [same]
    exact outlineBlocks_sublist unmarked deeper 0 children ranInside (inside plain)
  -- The other blocks have no live texts.
  | _ =>
    cases ran
    exact List.nil_sublist _

/-- The outlines of blocks have no words but those of the blocks. -/
theorem outlineBlocks_sublist (unmarked : Unmarked v isWritten)
    (deeper : Outlines v isWritten read) (skip : Nat) (blocks : Blocks) {known later : References}
    {outlines : List Outline} (ran : outlineBlocks read skip blocks known = .ok (outlines, later))
    (plain : MarkupPlain isWritten blocks) :
    (v.hitsAll (Outline.textsAll outlines)).Sublist
      (v.hitsAll (blockTexts (blocks.drop skip))) := by
  cases blocks with
  | nil =>
    have done : outlines = [] := by
      cases skip <;> exact eq_of_reading_pure ran
    rw [done]
    exact List.nil_sublist _
  | cons block blocks =>
    have plainBehind : MarkupPlain isWritten blocks := plain.of_sublist (List.sublist_cons_self _ _)
    cases skip with
    | succ skip => exact outlineBlocks_sublist unmarked deeper skip blocks ran plainBehind
    | zero =>
      rw [List.drop_zero, blockTexts_cons, Vocabulary.hitsAll_append]
      cases start : block.html?.bind fun html => divisionStart? html blocks with
      | none =>
        obtain ⟨outline, others, middle, first, rest, rfl⟩ := of_outlineBlocks_none ran start
        have plainHere : MarkupPlain isWritten [block] :=
          plain.of_sublist (List.singleton_sublist.mpr List.mem_cons_self)
        have behind := outlineBlocks_sublist unmarked deeper 0 blocks rest plainBehind
        rw [Outline.textsAll, Vocabulary.hitsAll_append]
        exact (outlineBlock_sublist unmarked deeper block first plainHere).append behind
      | some division =>
        obtain ⟨outline, others, middle, first, rest, rfl⟩ := of_outlineBlocks_some ran start
        obtain ⟨html, isHtml, begins⟩ := Option.bind_eq_some_iff.mp start
        obtain rfl := eq_html_of_html? isHtml
        have plainHere : (references isWritten).hits html = [] :=
          (List.append_eq_nil_iff.mp plain).1
        have inside := outlineDivision_sublist unmarked deeper begins plainHere plainBehind first
        have behind := outlineBlocks_sublist unmarked deeper division.used blocks rest plainBehind
        -- The outline of the division stands for its markup and for the blocks that it uses up.
        have own : v.hitsAll (blockTexts [.html html]) = v.hits html :=
          Vocabulary.hitsAll_singleton html
        rw [Outline.textsAll, Vocabulary.hitsAll_append, own,
          ← List.take_append_drop division.used blocks, blockTexts_append,
          Vocabulary.hitsAll_append, ← List.append_assoc]
        exact inside.append behind

end

/-- Outlines have no words but those of the blocks, however deep. -/
theorem outlinesOf_sublist (unmarked : Unmarked v isWritten) (fuel : Nat) :
    Outlines v isWritten (outlinesOf fuel) := by
  induction fuel with
  | zero =>
    have nothing : Outlines v isWritten fun _ => pure [] := by
      intro blocks known later outlines ran _
      rw [eq_of_reading_pure ran]
      exact List.nil_sublist _
    intro blocks known later outlines ran plain
    exact outlineBlocks_sublist unmarked nothing 0 blocks ran plain
  | succ fuel ih =>
    intro blocks known later outlines ran plain
    exact outlineBlocks_sublist unmarked ih 0 blocks ran plain

/-- The live texts of a document have no words but those of its text, in their order there. -/
theorem outlineOf_sublist (unmarked : Unmarked v isWritten) {parsed : Embed.Parsed}
    {outlines : List Outline} (readOk : outlineOf parsed = .ok outlines)
    (plain : (references isWritten).hits parsed.rewritten = []) :
    (v.hitsAll (Outline.textsAll outlines)).Sublist (v.hits parsed.rewritten) := by
  rw [outlineOf] at readOk
  cases began : readText (withLineBreaks parsed.rewritten) [] with
  | error cause =>
    simp only [began, bind, Except.bind] at readOk
    cases readOk
  | ok result =>
    obtain ⟨blocks, known⟩ := result
    cases ran : outlinesOf ((withLineBreaks parsed.rewritten).count '<') blocks known with
    | error cause =>
      simp only [began, ran, bind, Except.bind] at readOk
      cases readOk
    | ok found =>
      simp only [began, ran, bind, Except.bind, pure, Except.pure] at readOk
      obtain rfl := Except.ok.inj readOk
      have plainText : (references isWritten).hits (withLineBreaks parsed.rewritten) = [] := by
        rw [hits_withLineBreaks (spaced_references isWritten), plain]
      obtain ⟨fewer, plainBlocks⟩ := readText_sublist unmarked began plainText
      rw [hits_withLineBreaks unmarked.spaced] at fewer
      exact (outlinesOf_sublist unmarked _ ran plainBlocks).trans fewer

end Loremark.Tree
