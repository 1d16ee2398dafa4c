import Loremark.Proofs.Html.Restoring
import Loremark.Proofs.Html.Widgets
import Loremark.Proofs.Markdown.PlainOutput
import Loremark.Proofs.Tree.Framing

/-!
# The output of a document

A tree whose kinds are known and whose plain output is well nested can be written for every reader,
and what is written is well nested: whatever the texts of the tree are, and whatever is known of its
entities, no text gets into a tag or ends one (`Page.injects_no_markup`). Rendered trees are of this
shape (`shownAll_shaped`).
-/

set_option autoImplicit false

namespace Loremark.Tree

open Html Markup Node

/-- Whether a kind of inline markup can be written. -/
def InlineKind.isKnown : InlineKind → Bool
  | other _ => false
  | _ => true

/-- What is asked of a node: its kind is known, and output that has been written before is well
nested. -/
def ShapedHere (strict : Bool) : Node → Prop
  | .raw html => WellNested strict html
  | .inline kind _ => kind.isKnown = true
  | .block kind _ => kind.isKnown = true
  | _ => True

/-- Trees as they are built from texts. -/
def Shaped (strict : Bool) (nodes : List Node) : Prop := Everywhere (ShapedHere strict) nodes

/-! ## Writing a tree -/

section Writing

variable {strict : Bool} {content : Fragment}

/-- The chapter of a region is a sound attribute. -/
theorem chapterAttribute_isSound (region : Spoiler.Region) :
    (chapterAttribute region).all (Attribute.isSound strict) = true := by
  rw [chapterAttribute]
  split
  · simp +decide
  · rfl

/-- What a page puts over a region is sound. -/
theorem Page.overlay_sound (page : Page) (region : Spoiler.Region) :
    SoundAll strict (page.overlay region) := by
  rw [Page.overlay, soundAll_line]
  refine ⟨by simp +decide, ⟨rfl, trivial, trivial⟩, ⟨rfl, trivial, trivial⟩, trivial⟩

/-- A veil over sound content is sound. -/
theorem Page.veil_sound (page : Page) (region : Spoiler.Region) (sound : SoundAll strict content) :
    SoundAll strict (page.veil region content) := by
  have chapter : (chapterAttribute region).all (Attribute.isSound strict) = true :=
    chapterAttribute_isSound region
  have overlay : SoundAll strict (page.overlay region) := page.overlay_sound region
  rw [Page.veil]
  split
  · exact soundAll_block.mpr ⟨by simp [chapter], sound⟩
  · exact soundAll_block.mpr ⟨by simp [chapter], overlay⟩
  · have inner : SoundAll strict
        (block .div [cssClass "sd-spoiler-content", fixed "aria-hidden" "true"] content) :=
      soundAll_block.mpr ⟨by simp +decide, sound⟩
    exact soundAll_block.mpr ⟨by simp [chapter], soundAll_append.mpr ⟨inner, overlay⟩⟩

/-- A block of a known kind is written around sound content, and is sound. -/
theorem blockFragment_sound {kind : BlockKind} (known : kind.isKnown = true)
    (sound : SoundAll strict content) :
    ∃ written, blockFragment kind content = .ok written ∧ SoundAll strict written := by
  have optionals {name : String} (named : isName name = true) (value : Text) :
      (optional name value).all (Attribute.isSound strict) = true :=
    isSound_optional named value
  cases kind with
  | paragraph tight hasEmbeds =>
    cases tight with
    | true => exact ⟨_, rfl, sound⟩
    | false =>
      cases hasEmbeds with
      | true => exact ⟨_, rfl, soundAll_line.mpr ⟨by simp, sound⟩⟩
      | false => exact ⟨_, rfl, soundAll_line.mpr ⟨rfl, sound⟩⟩
  | heading level => exact ⟨_, rfl, soundAll_line.mpr ⟨rfl, sound⟩⟩
  | bulletList => exact ⟨_, rfl, soundAll_block.mpr ⟨rfl, sound⟩⟩
  | orderedList start =>
    cases start with
    | none => exact ⟨_, rfl, soundAll_block.mpr ⟨rfl, sound⟩⟩
    | some number => exact ⟨_, rfl, soundAll_block.mpr ⟨by simp +decide, sound⟩⟩
  | listItem => exact ⟨_, rfl, soundAll_line.mpr ⟨rfl, sound⟩⟩
  | quote className =>
    exact ⟨_, rfl, soundAll_block.mpr ⟨optionals (by decide) className, sound⟩⟩
  | container className title =>
    have attrs := optionals (by decide : isName "data-title" = true) title
    exact ⟨_, rfl, soundAll_block.mpr ⟨by simp +decide [attrs], sound⟩⟩
  | other name => cases known

/-- Inline markup of a known kind is written around sound content, and is sound. -/
theorem inlineFragment_sound {kind : InlineKind} (known : kind.isKnown = true)
    (sound : SoundAll strict content) :
    ∃ written, inlineFragment kind content = .ok written ∧ SoundAll strict written := by
  have titled (title : Text) : (optional "title" title).all (Attribute.isSound strict) = true :=
    isSound_optional (by decide) title
  cases kind with
  | emphasis => exact ⟨_, rfl, ⟨rfl, sound⟩, trivial⟩
  | strong => exact ⟨_, rfl, ⟨rfl, sound⟩, trivial⟩
  | strikethrough => exact ⟨_, rfl, ⟨rfl, sound⟩, trivial⟩
  | softBreak => exact ⟨_, rfl, newline_sound, trivial⟩
  | hardBreak => exact ⟨_, rfl, rfl, newline_sound, trivial⟩
  | code words => exact ⟨_, rfl, ⟨rfl, trivial, trivial⟩, trivial⟩
  | html words => exact ⟨_, rfl, trivial, trivial⟩
  | link href title => exact ⟨_, rfl, ⟨by simp +decide [titled title], sound⟩, trivial⟩
  | image src title alt =>
    refine ⟨_, rfl, ?_, trivial⟩
    simp +decide [Sound, titled title]
  | other name => cases known

/-- A page whose previews can be written. -/
def Page.Sound (strict : Bool) (page : Page) : Prop :=
  ∀ (key : Text) (shown : Markup), page.previews key = some shown → Markup.Sound strict shown

/-- What a sound page writes into a slot is sound. -/
theorem Page.Sound.slot {page : Page} (sound : page.Sound strict) (s : Slot) :
    Markup.Sound strict (page.slot s) := by
  rw [Page.slot]
  cases found : page.previews s.key with
  | none => exact Entity.loading_sound s.request s.mode
  | some shown => exact sound s.key shown found

namespace Page

mutual

/-- A shaped node is written, and is sound. -/
theorem fragment_sound {page : Page} (sound : page.Sound strict) (node : Node)
    (shaped : Shaped strict [node]) :
    ∃ written, page.fragment node = .ok written ∧ SoundAll strict written := by
  cases node with
  | text value => exact ⟨_, rfl, trivial, trivial⟩
  | slot s => exact ⟨_, rfl, sound.slot s, trivial⟩
  | raw html => exact ⟨_, rfl, everywhere_raw.mp shaped, trivial⟩
  | spoiler region children =>
    obtain ⟨content, ok, below⟩ :=
      fragments_sound sound false children (everywhere_spoiler.mp shaped).2
    refine ⟨page.veil region content, ?_, page.veil_sound region below⟩
    simp only [fragment, ok]
    rfl
  | inline kind children =>
    obtain ⟨known, inner⟩ := everywhere_inline.mp shaped
    simp only [fragment]
    split
    · obtain ⟨content, ok, below⟩ := fragments_sound sound false children inner
      rw [ok]
      exact inlineFragment_sound known below
    · exact inlineFragment_sound known trivial
  | block kind children =>
    obtain ⟨known, inner⟩ := everywhere_block.mp shaped
    obtain ⟨content, ok, below⟩ := fragments_sound sound (kind == .listItem) children inner
    have isKnown : kind.isKnown = true := known
    simp only [fragment, isKnown, if_true, ok]
    exact blockFragment_sound known below

/-- Trees as they are built can be written in any page. -/
theorem fragments_sound {page : Page} (sound : page.Sound strict) (inItem : Bool)
    (nodes : List Node) (shaped : Shaped strict nodes) :
    ∃ written, page.fragments inItem nodes = .ok written ∧ SoundAll strict written := by
  cases nodes with
  | nil => exact ⟨[], rfl, trivial⟩
  | cons node nodes =>
    obtain ⟨here, behind⟩ := everywhere_cons.mp shaped
    obtain ⟨first, firstOk, firstSound⟩ := fragment_sound sound node here
    obtain ⟨rest, restOk, restSound⟩ := fragments_sound sound inItem nodes behind
    simp only [fragments, firstOk, restOk]
    refine ⟨_, rfl, soundAll_append.mpr ⟨soundAll_append.mpr ⟨firstSound, ?_⟩, restSound⟩⟩
    split
    · exact ⟨newline_sound, trivial⟩
    · trivial

end

/-- A shaped tree is written, and is well nested. -/
theorem html_wellNested {page : Page} (sound : page.Sound strict) {nodes : List Node}
    (shaped : Shaped strict nodes) :
    ∃ text, page.html nodes = .ok text ∧ WellNested strict text := by
  obtain ⟨written, ok, all⟩ := fragments_sound sound false nodes shaped
  refine ⟨writeAll written, ?_, writeAll_wellNested written all⟩
  rw [html, ok]
  rfl

end Page

end Writing

/-! ## The shape of rendered trees -/

section Shape

variable {source : Source}

/-- Framing shaped nodes leaves them shaped. -/
theorem framing_shaped (strict : Bool) : Framing (ShapedHere strict) where
  text _ := trivial
  slot _ := trivial
  spoiler _ _ := trivial
  block _ _ known := known
  cuttable := {
    text := fun _ own => own
    code := fun _ own => own
    inline := fun _ own => own
    block := fun own => own }

mutual

/-- A piece of running text is shown as a shaped tree. -/
theorem inline_shaped {live : Bool} {n later : Nat} {piece : Markdown.Inline} {nodes : List Node}
    (shown : ShownInline source live n piece nodes later) : Shaped false nodes := by
  cases shown with
  | text shown => exact text_everywhere (framing_shaped false) shown
  | leaf leaf =>
    refine everywhere_inline.mpr ⟨?_, everywhere_nil⟩
    cases piece <;> cases leaf <;> rfl
  | span shown =>
    rename_i kind pieces inner
    exact everywhere_inline.mpr ⟨by cases kind <;> rfl, inlines_shaped shown⟩
  | link shown => exact everywhere_inline.mpr ⟨rfl, inlines_shaped shown⟩

/-- Running text is shown as a shaped tree. -/
theorem inlines_shaped {live : Bool} {n later : Nat} {pieces : List Markdown.Inline}
    {nodes : List Node} (shown : ShownInlines source live n pieces nodes later) :
    Shaped false nodes := by
  cases shown with
  | nil live n => exact everywhere_nil
  | cons here behind => exact everywhere_append.mpr ⟨inline_shaped here, inlines_shaped behind⟩

end

/-- A plain block is shown as a shaped node. -/
theorem plain_shaped (distinct : source.parsed.Distinct)
    (block : Markdown.Block (List Markdown.Inline)) : ShapedHere false (plainNode source block) := by
  have written := writeAll_wellNested _ (Markdown.plainBlock_sound block)
  exact written.restoreEscaped distinct.isToken

/-- However outlines are shown, their trees are shaped. -/
theorem shownAll_shaped (distinct : source.parsed.Distinct) {n later : Nat}
    {outlines : List Outline} {nodes : List Node} (shown : ShownAll source n outlines nodes later) :
    Shaped false nodes := by
  have built : Built source (fun _ => True) (ShapedHere false) := {
    toFraming := framing_shaped false
    plain := plain_shaped distinct
    running := fun shown _ => inlines_shaped shown }
  exact shownAll_everywhere built shown fun _ _ => trivial

end Shape

/-! ## No injection -/

/-- No text injects markup. A tree of known kinds is written in every page, whatever its previews
show, and the output is well nested; so is output that has been written before, when embeds have
been put back into it; and rendered trees are of that shape. With `strict`, attribute values hold no
single quote either; plain output asks for less. -/
theorem Page.injects_no_markup (strict : Bool) :
    (∀ (previews : Text → Option Preview) (gate : Spoiler.Gate) (nodes : List Node),
      Shaped strict nodes →
        ∃ text, Page.html ⟨fun key => (previews key).map Preview.markup, gate⟩ nodes = .ok text ∧
          WellNested strict text) ∧
      (∀ (content : Text) (p : Embed.Parsed) (html : Text), Embed.extract content = .ok p →
        WellNested strict html → WellNested strict (p.restoreEscaped html)) ∧
      ∀ (style : Style) (embedsEnabled : Bool) (content : Text) (rendered : Rendered)
        (events : List Log.Event), render style embedsEnabled content = (.ok rendered, events) →
          Shaped false rendered.tree := by
  refine ⟨?_, ?_, ?_⟩
  · intro previews gate nodes shaped
    refine Page.html_wellNested ?_ shaped
    intro key shown found
    obtain ⟨preview, -, rfl⟩ := Option.map_eq_some_iff.mp found
    exact preview.markup_sound
  · intro content p html ok nested
    exact nested.restoreEscaped (Embed.extracted_of_extract ok).distinct.isToken
  · intro style embedsEnabled content rendered events ok
    obtain ⟨-, outlines, slots, -, shown⟩ := render_shown ok
    exact shownAll_shaped (distinct_of_render ok) shown

/-- A text that would end a tag and begin another one if it were not escaped. -/
def hostile : Text := "'\"><script>".toList

/-- A preview with that text wherever it holds one. -/
def hostilePreview (kindName : String) (state : Preview.State) : Preview :=
  { kindName := kindName.toList, entity := 7, label := some hostile, key := hostile, state }

/-- Previews of a kind that there is none of, and of one entity in each state. -/
def hostilePreviews : List (Text × Preview) :=
  [("embed-0".toList, hostilePreview "'\"><b>" .loading),
    ("embed-1".toList, hostilePreview "guide" .loading),
    ("embed-2".toList, hostilePreview "guide" (.failed hostile)),
    ("embed-3".toList, hostilePreview "guide"
      (.loaded ⟨none, some hostile, some hostile, .guide (some hostile), []⟩))]

/-- A slot with that text wherever it holds one. -/
def hostileSlot (key : String) : Node :=
  .slot ⟨key.toList, ⟨0, .guide, 7, some hostile, hostile, hostile⟩, .full⟩

/-- A region that is blurred, in a container and around a heading, a rule and slots. -/
def hostileTree : List Node :=
  [.block (.container hostile hostile)
    [.spoiler ⟨some 9, hostile, .container⟩
      [.block (.heading 2) [.inline (.link hostile hostile) [.text hostile]],
        .raw "<hr />\n".toList,
        .block (.paragraph false true)
          (["embed-0", "embed-1", "embed-2", "embed-3", "embed-4"].map hostileSlot)]]]

/-- The hostile tree is shaped. -/
theorem hostileTree_shaped : Shaped true hostileTree := by
  have rule : WellNested true "<hr />\n".toList :=
    .void .hr .none true (.char '\n' (by decide) (by decide) .done)
  intro node mem
  simp only [hostileTree, hostileSlot, List.map, preorderAll, preorder, List.append_nil,
    List.cons_append, List.nil_append, List.mem_cons, List.not_mem_nil, or_false] at mem
  rcases mem with rfl | rfl | rfl | rfl | rfl | rfl | rfl | rfl | rfl | rfl | rfl | rfl
  all_goals first | exact rfl | exact trivial | exact rule

/-- Code with an embed that has markup for its label. -/
def hostileCode : Text := "    <b>\x7b\x7barc:1:<b>\x7d\x7d".toList

/-- Hostile texts, previews and code are written without a tag from any of them. -/
theorem Page.injects_no_markup_hostile :
    (∃ text, Page.html ⟨fun key => (hostilePreviews.lookup key).map Preview.markup, {}⟩
        hostileTree = .ok text ∧ WellNested true text) ∧
      (∃ p, Embed.extract hostileCode = .ok p ∧ WellNested true
        (p.restoreEscaped (writeAll (Markdown.plainBlock (.code p.rewritten))))) ∧
      ∃ rendered events, render {} true hostileCode = (.ok rendered, events) ∧
        Shaped false rendered.tree := by
  obtain ⟨writes, restores, renders⟩ := injects_no_markup true
  refine ⟨writes (fun key => hostilePreviews.lookup key) {} hostileTree hostileTree_shaped, ?_, ?_⟩
  · have extracts : (Embed.extract hostileCode).toOption.isSome = true := by decide +kernel
    cases ok : Embed.extract hostileCode with
    | error cause =>
      rw [ok] at extracts
      cases extracts
    | ok p =>
      have written : WellNested true (writeAll (Markdown.plainBlock (.code p.rewritten))) :=
        writeAll_wellNested _ (soundAll_line.mpr ⟨rfl, ⟨rfl, trivial, trivial⟩, trivial⟩)
      exact ⟨p, rfl, restores hostileCode p _ ok written⟩
  · have succeeds : (render {} true hostileCode).1.toOption.any (fun _ => true) = true := by
      decide +kernel
    obtain ⟨rendered, events, ok, -⟩ := exists_of_any succeeds
    exact ⟨rendered, events, ok, renders _ _ _ _ _ ok⟩

end Loremark.Tree
