import Loremark.Proofs.Embed.Addresses
import Loremark.Proofs.Markdown.Definitions
import Loremark.Proofs.Tree.Framing
import Loremark.Proofs.Tree.Gathering

/-!
# The addresses of a tree

Links and images are read from a text in which tokens stand for embeds, and their addresses are
tested there. In the tree the embeds are put back, and every address still passes the test
(`render_leadsAllowed`): the author can write anything into an embed, but no embed makes an address
one that is refused.
-/

set_option autoImplicit false

namespace Loremark.Tree

open Markdown

/-- A link or an image leads to an address that may be linked to; other nodes lead nowhere. -/
def LeadsAllowed : Node → Prop
  | .inline (.link href _) _ => isAllowedAddress href = true
  | .inline (.image source _ _) _ => isAllowedAddress source = true
  | _ => True

/-! ## Outlines -/

/-- Blocks with running texts that lead to allowed addresses. -/
def BlocksChecked (blocks : Blocks) : Prop :=
  ∀ content ∈ Block.contentsAll blocks, AllChecked content

/-- Outlines with such running texts. -/
def OutlinesChecked (outlines : List Outline) : Prop :=
  ∀ content ∈ Outline.contentsAll outlines, AllChecked content

/-- Fewer blocks are checked if all of them are. -/
theorem BlocksChecked.of_subset {blocks others : Blocks} (checked : BlocksChecked others)
    (fewer : blocks ⊆ others) : BlocksChecked blocks :=
  fun content mem => checked content (Block.contentsAll_subset fewer mem)

/-- Two lists of blocks are checked if each of them is. -/
theorem BlocksChecked.append {blocks others : Blocks} (first : BlocksChecked blocks)
    (second : BlocksChecked others) : BlocksChecked (blocks ++ others) := by
  rw [BlocksChecked, Block.contentsAll_append]
  exact List.forall_mem_append.mpr ⟨first, second⟩

/-- Reading a text gives checked blocks and checked labels. -/
theorem readText_checked {text : Text} {known later : References} {blocks : Blocks}
    (checked : known.Checked) (read : readText text known = .ok (blocks, later)) :
    later.Checked ∧ BlocksChecked blocks := by
  rw [readText] at read
  obtain ⟨document, ran, same⟩ := of_except_bind read
  cases same
  exact read_checked checked ran

/-- Reading that keeps what is known of addresses: if the labels known in front and the blocks lead
to allowed ones, so do the labels known behind and the outlines. -/
def KeepsChecked (read : Blocks → Reading (List Outline)) : Prop :=
  ∀ {blocks : Blocks} {known later : References} {outlines : List Outline},
    read blocks known = .ok (outlines, later) → known.Checked → BlocksChecked blocks →
      later.Checked ∧ OutlinesChecked outlines

variable {read : Blocks → Reading (List Outline)}

/-- The outline of a division leads to allowed addresses. -/
theorem outlineDivision_checked (keeps : KeepsChecked read) {start : DivisionStart}
    {blocks : Blocks} {known later : References} {outline : Outline}
    (ran : outlineDivision read start blocks known = .ok (outline, later))
    (checked : known.Checked) (all : BlocksChecked blocks) :
    later.Checked ∧ ∀ content ∈ outline.contents, AllChecked content := by
  have inside (first : Blocks) {middle : References} (firstChecked : BlocksChecked first)
      (middleChecked : middle.Checked)
      (rest : (do return .division start.className (← read (first ++ blocks.take start.inside)) :
        Reading Outline) middle = .ok (outline, later)) :
      later.Checked ∧ ∀ content ∈ outline.contents, AllChecked content := by
    obtain ⟨outlines, readOk, rfl⟩ := of_reading_map rest
    have taken := all.of_subset (List.take_subset start.inside blocks)
    exact keeps readOk middleChecked (firstChecked.append taken)
  rw [outlineDivision] at ran
  split at ran
  · exact inside [] (List.forall_mem_nil _) checked ran
  · obtain ⟨first, middle, began, rest⟩ := of_reading_bind ran
    obtain ⟨middleChecked, firstChecked⟩ := readText_checked checked began
    exact inside first firstChecked middleChecked rest

mutual

/-- The outline of a block leads to allowed addresses. -/
theorem outlineBlock_checked (keeps : KeepsChecked read) (block : Block (List Inline))
    {known later : References} {outline : Outline}
    (ran : outlineBlock read block known = .ok (outline, later)) (checked : known.Checked)
    (all : ∀ content ∈ block.contents, AllChecked content) :
    later.Checked ∧ ∀ content ∈ outline.contents, AllChecked content := by
  cases block with
  | paragraph tight content =>
    cases ran
    exact ⟨checked, all⟩
  | heading level content =>
    cases ran
    exact ⟨checked, all⟩
  | bulletList items =>
    obtain ⟨outlines, ranInside, rfl⟩ := of_reading_map ran
    exact outlineBlocks_checked keeps 0 items ranInside checked all
  | orderedList start items =>
    obtain ⟨outlines, ranInside, rfl⟩ := of_reading_map ran
    exact outlineBlocks_checked keeps 0 items ranInside checked all
  | item children =>
    obtain ⟨outlines, ranInside, rfl⟩ := of_reading_map ran
    exact outlineBlocks_checked keeps 0 children ranInside checked all
  | quote children =>
    obtain ⟨outlines, ranInside, rfl⟩ := of_reading_map ran
    exact outlineBlocks_checked keeps 0 children ranInside checked all
  | container info children =>
    obtain ⟨outlines, ranInside, rfl⟩ := of_reading_map ran
    exact outlineBlocks_checked keeps 0 children ranInside checked all
  | _ =>
    cases ran
    exact ⟨checked, List.forall_mem_nil _⟩

/-- Reading the outline of blocks keeps it, if reading the content of divisions does. -/
theorem outlineBlocks_checked (keeps : KeepsChecked read) (skip : Nat) (blocks : Blocks)
    {known later : References} {outlines : List Outline}
    (ran : outlineBlocks read skip blocks known = .ok (outlines, later)) (checked : known.Checked)
    (all : BlocksChecked blocks) : later.Checked ∧ OutlinesChecked outlines := by
  cases blocks with
  | nil =>
    have done : (pure [] : Reading (List Outline)) known = .ok (outlines, later) := by
      cases skip <;> exact ran
    cases done
    exact ⟨checked, List.forall_mem_nil _⟩
  | cons block blocks =>
    obtain ⟨here, behind⟩ := List.forall_mem_append.mp all
    cases skip with
    | succ skip => exact outlineBlocks_checked keeps skip blocks ran checked behind
    | zero =>
      cases start : block.html?.bind fun html => divisionStart? html blocks with
      | none =>
        obtain ⟨outline, others, middle, first, rest, rfl⟩ := of_outlineBlocks_none ran start
        obtain ⟨middleChecked, own⟩ := outlineBlock_checked keeps block first checked here
        obtain ⟨laterChecked, more⟩ := outlineBlocks_checked keeps 0 blocks rest middleChecked behind
        exact ⟨laterChecked, List.forall_mem_append.mpr ⟨own, more⟩⟩
      | some division =>
        obtain ⟨outline, others, middle, first, rest, rfl⟩ := of_outlineBlocks_some ran start
        obtain ⟨middleChecked, own⟩ := outlineDivision_checked keeps first checked behind
        obtain ⟨laterChecked, more⟩ :=
          outlineBlocks_checked keeps division.used blocks rest middleChecked behind
        exact ⟨laterChecked, List.forall_mem_append.mpr ⟨own, more⟩⟩

end

/-- Reading outlines keeps what is known of addresses, however deep. -/
theorem outlinesOf_checked (fuel : Nat) : KeepsChecked (outlinesOf fuel) := by
  induction fuel with
  | zero =>
    have nothing : KeepsChecked fun _ => pure [] := by
      intro blocks known later outlines ran checked _
      cases ran
      exact ⟨checked, List.forall_mem_nil _⟩
    intro blocks known later outlines ran checked all
    exact outlineBlocks_checked nothing 0 blocks ran checked all
  | succ fuel ih =>
    intro blocks known later outlines ran checked all
    exact outlineBlocks_checked ih 0 blocks ran checked all

/-- The running texts of a document lead to addresses that are allowed with the tokens in them. -/
theorem outlineOf_checked {parsed : Embed.Parsed} {outlines : List Outline}
    (readOk : outlineOf parsed = .ok outlines) : OutlinesChecked outlines := by
  rw [outlineOf] at readOk
  obtain ⟨⟨blocks, known⟩, began, rest⟩ := of_except_bind readOk
  obtain ⟨⟨found, later⟩, ran, same⟩ := of_except_bind rest
  cases same
  obtain ⟨checked, all⟩ := readText_checked (List.forall_mem_nil _) began
  exact (outlinesOf_checked _ ran checked all).2

/-! ## Trees -/

section Trees

variable {source : Source}

open Node

/-- Framing nodes leads nowhere new. -/
theorem framing_leadsAllowed : Framing LeadsAllowed where
  text _ := trivial
  slot _ := trivial
  spoiler _ _ := trivial
  block _ _ _ := trivial
  cuttable := {
    text := fun _ _ => trivial
    code := fun _ _ => trivial
    inline := fun {kind _ _} _ own => by cases kind <;> exact own
    block := fun _ => trivial }

/-- A span leads nowhere. -/
theorem span_leadsAllowed (kind : SpanKind) (children : List Node) :
    LeadsAllowed (.inline (spanKind kind) children) := by
  cases kind <;> exact trivial

/-- The address of an image is put back without becoming one that is refused. -/
theorem leaf_leadsAllowed (distinct : source.parsed.Distinct) {piece : Inline} {kind : InlineKind}
    (leaf : leafKind? source.parsed piece = some kind) (checked : piece.Checked) :
    LeadsAllowed (.inline kind []) := by
  cases checked with
  | image label alt leads =>
    cases leaf
    exact (distinct.isAllowedAddress_restore _).trans leads
  | _ => cases leaf <;> exact trivial

mutual

/-- Checked running text is shown as nodes that lead to allowed addresses. -/
theorem inline_leadsAllowed (distinct : source.parsed.Distinct) {live : Bool} {n later : Nat}
    {piece : Inline} {nodes : List Node} (shown : ShownInline source live n piece nodes later)
    (checked : piece.Checked) : Everywhere LeadsAllowed nodes := by
  cases shown with
  | text shown => exact text_everywhere framing_leadsAllowed shown
  | leaf leaf =>
    exact everywhere_inline.mpr ⟨leaf_leadsAllowed distinct leaf checked, everywhere_nil⟩
  | span shown =>
    cases checked with
    | span _ inside =>
      have below := inlines_leadsAllowed distinct shown inside
      exact everywhere_inline.mpr ⟨span_leadsAllowed _ _, below⟩
  | link shown =>
    cases checked with
    | link leads inside =>
      have allowed := (distinct.isAllowedAddress_restore _).trans leads
      have below := inlines_leadsAllowed distinct shown inside
      exact everywhere_inline.mpr ⟨allowed, below⟩

/-- The nodes of running text lead to allowed addresses, since the text does with the tokens in
it. -/
theorem inlines_leadsAllowed (distinct : source.parsed.Distinct) {live : Bool} {n later : Nat}
    {pieces : List Inline} {nodes : List Node}
    (shown : ShownInlines source live n pieces nodes later) (checked : AllChecked pieces) :
    Everywhere LeadsAllowed nodes := by
  cases shown with
  | nil live n => exact everywhere_nil
  | cons here behind =>
    obtain ⟨first, others⟩ := allChecked_cons.mp checked
    exact everywhere_append.mpr
      ⟨inline_leadsAllowed distinct here first, inlines_leadsAllowed distinct behind others⟩

end

/-- Building nodes from checked outlines leads to allowed addresses. -/
theorem built_leadsAllowed (distinct : source.parsed.Distinct) :
    Built source AllChecked LeadsAllowed where
  toFraming := framing_leadsAllowed
  plain _ := trivial
  running shown checked := inlines_leadsAllowed distinct shown checked

end Trees

/-! ## Renders -/

/-- Every link and every image of a rendered tree leads to an address that may be linked to, with
the embeds in it as the author wrote them. -/
theorem render_leadsAllowed {style : Style} {embedsEnabled : Bool} {content : Text}
    {rendered : Rendered} {events : List Log.Event}
    (ok : render style embedsEnabled content = (.ok rendered, events)) :
    Node.Everywhere LeadsAllowed rendered.tree := by
  have distinct : rendered.parsed.Distinct := distinct_of_render ok
  obtain ⟨-, outlines, slots, readOk, shown⟩ := render_shown ok
  exact shownAll_everywhere (built_leadsAllowed distinct) shown (outlineOf_checked readOk)

/-- Two links with schemes that would be refused without the embeds in them. -/
def embedsInSchemes : Text :=
  "see <java".toList ++ (Embed.Written.mk .arc ['1'] none).toText ++ "script:x> <file".toList ++
    (Embed.Written.mk .arc ['2'] none).toText ++ ":y>".toList

/-- Whether a tree is a paragraph with two links that lead to the addresses of that text. -/
def leadsThroughEmbeds (rendered : Rendered) : Bool :=
  match rendered.tree with
  | [.block _ [_, .inline (.link first _) _, _, .inline (.link second _) _]] =>
    first == "java\x7b\x7barc:1\x7d\x7dscript:x".toList &&
      second == "file\x7b\x7barc:2\x7d\x7d:y".toList
  | _ => false

/-- Embeds in front of schemes are put back into addresses that are allowed. -/
theorem render_leadsAllowed_embedsInSchemes : ∃ rendered events,
    render {} true embedsInSchemes = (.ok rendered, events) ∧
      leadsThroughEmbeds rendered = true ∧ Node.Everywhere LeadsAllowed rendered.tree := by
  obtain ⟨rendered, events, ok, leads⟩ : ∃ rendered events,
      render {} true embedsInSchemes = (.ok rendered, events) ∧
        leadsThroughEmbeds rendered = true := by
    refine exists_of_any ?_
    decide +kernel
  exact ⟨rendered, events, ok, leads, render_leadsAllowed ok⟩

end Loremark.Tree
