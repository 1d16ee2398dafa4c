import Loremark.Proofs.Tree.Cells

/-!
# What becomes of a quote without its marker

A marker is found in the plain text of a quote and cut off its tree, as many characters as it has.
What is left is the rest of the quote exactly if the marker stands alone in what is cut: in
characters, with nothing between them but what also sets blocks off (`kept_iff_standsAlone`). A
marker that goes around an image, or over the gap between two blocks, takes more with it, and one that
begins with a slot or behind plain output stays.
-/

set_option autoImplicit false

namespace Loremark.Tree

open Markdown Node

/-- A quote without its marker holds what it held, and its plain text is that of its region. -/
structure Kept (children inner : List Node) (text : Text) : Prop where
  leaves : leaves inner = leaves children
  text : Alike (flatten inner) text

/-- Cutting as many characters as a marker has goes over the marker and blanks, and over no node
without plain text. -/
structure StandsAlone (marker : Text) (cells : List Cell) : Prop where
  leaves : leavesOf (passed marker.length cells) = []
  text : ∃ blanks, Text.allBlank blanks = true ∧
    textOf (passed marker.length cells) = marker ++ blanks

section Kept

variable {marker rest front left : Text}

/-- Without the blanks in front, a text is no longer than one that is like it. -/
theorem length_le_of_alike {a b : Text} (alike : Alike a b) :
    (Text.trimStart a).length ≤ b.length := by
  rw [show Text.trimStart a = Text.trimStart b from alike]
  exact List.length_dropWhile_le _ b

/-- What does not begin with blanks stays in front of a text. -/
theorem not_alike_append (solid : Text.allBlank front = false) (back : Text) :
    ¬ Alike (front ++ back) back := by
  intro alike
  have short := length_le_of_alike alike
  have some : Text.trimStart front ≠ [] := by
    intro blank
    have all := alike_nil_iff.mp (show Alike front [] from blank)
    rw [all] at solid
    cases solid
  rw [trimStart_append, if_neg some, List.length_append] at short
  have long := List.length_pos_iff.mpr some
  omega

/-- A text in front of which a marker and blanks are cut is the rest behind the marker. -/
theorem alike_iff (closed : ∀ back, back <:+ marker → back ≠ [] → Text.allBlank back = false)
    (split : front ++ left = marker ++ rest) :
    Alike left rest ↔
      ∃ blanks, Text.allBlank blanks = true ∧ front = marker ++ blanks := by
  constructor
  · intro alike
    rcases List.append_eq_append_iff.mp split with ⟨back, whole, rfl⟩ | ⟨blanks, rfl, rfl⟩
    · -- Less than the marker is cut: its end would have to be blank.
      cases back with
      | nil =>
        rw [List.append_nil] at whole
        exact ⟨[], rfl, by rw [whole, List.append_nil]⟩
      | cons c back =>
        have solid := closed (c :: back) ⟨front, whole.symm⟩ (List.cons_ne_nil _ _)
        exact absurd alike (not_alike_append solid rest)
    · refine ⟨blanks, ?_, rfl⟩
      rw [← Bool.not_eq_false]
      intro solid
      exact not_alike_append solid left alike.symm
  · rintro ⟨blanks, blank, rfl⟩
    rw [List.append_assoc] at split
    rw [← List.append_cancel_left split]
    exact (alike_append_left (alike_nil_iff.mpr blank) left).symm

end Kept

/-- No end of a marker is blank. -/
theorem marker_closed {text rest : Text} {digits : Option Text}
    (marker : Spoiler.marker? text = some (digits, rest)) : ∃ cut, text = cut ++ rest ∧
      ∀ back, back <:+ cut → back ≠ [] → Text.allBlank back = false := by
  obtain ⟨inner, -, rfl⟩ := Spoiler.marker?_eq_some marker
  refine ⟨'[' :: '!' :: (inner ++ [']']), by simp, ?_⟩
  intro back part nonempty
  have last : ']' ∈ back := by
    have ends : back.getLast nonempty = ']' := by
      rw [part.getLast nonempty]
      simp
    rw [← ends]
    exact List.getLast_mem nonempty
  rw [Bool.eq_false_iff]
  intro blank
  have own := List.all_eq_true.mp blank ']' last
  cases own

section Quote

variable {children : List Node} {marker rest : Text}

/-- A marker that is cut off leaves the rest of a quote exactly if it stands alone. -/
theorem kept_iff_standsAlone (hollow : Hollow children) (split : flatten children = marker ++ rest)
    (closed : ∀ back, back <:+ marker → back ≠ [] → Text.allBlank back = false) :
    Kept children (withoutMarker marker.length children) rest ↔
      StandsAlone marker (cellsFrom false children) := by
  have spelled := withoutMarker_spelled marker.length children hollow
  have texts := (flatten_eq_passed_append marker.length children).symm.trans split
  have same : leaves (withoutMarker marker.length children) = leaves children ↔
      leavesOf (passed marker.length (cellsFrom false children)) = [] := by
    rw [leaves_eq_passed_append marker.length hollow, List.self_eq_append_left]
  have alike := alike_iff closed texts
  constructor
  · rintro ⟨kept, text⟩
    exact ⟨same.mp kept, alike.mp (spelled.text.symm.trans text)⟩
  · rintro ⟨none, text⟩
    exact ⟨same.mpr none, spelled.text.trans (alike.mpr text)⟩

/-- A marker whose characters follow each other at the beginning of a quote stands alone. -/
theorem standsAlone_of_begins {cells : List Cell} (begins : marker.map .char <+: cells) :
    StandsAlone marker cells := by
  obtain ⟨rest, rfl⟩ := begins
  have gone : passed marker.length (marker.map .char ++ rest) = marker.map .char := by
    induction marker with
    | nil => cases rest <;> rfl
    | cons c marker ih => rw [List.map_cons, List.cons_append, List.length_cons, passed, ih]
  refine ⟨?_, [], rfl, ?_⟩
  · rw [gone, leavesOf_chars]
  · rw [gone, textOf_chars, List.append_nil]

end Quote

/-! ## Rendered quotes -/

/-- What is left of the children of a quote behind a marker. What cutting goes over and what it leaves
make up the children, and of the nodes without characters only images and markup of the author are
ever lost. The marker alone is gone exactly if it stands alone. -/
structure Stripped (region : Spoiler.Region) (children inner : List Node) (marker : Text) :
    Prop where
  reads : ∃ digits rest, Spoiler.marker? (flatten children) = some (digits, rest) ∧
    flatten children = marker ++ rest ∧ region.inner = Text.trimStart rest
  leaves : leaves children =
    leavesOf (passed marker.length (cellsFrom false children)) ++ leaves inner
  lost : ∀ node ∈ leavesOf (passed marker.length (cellsFrom false children)),
    ∃ kind below, node = .inline kind below ∧ kind.isSilent = true
  text : ∃ left, flatten children =
    textOf (passed marker.length (cellsFrom false children)) ++ left ∧ Alike (flatten inner) left
  kept : Kept children inner region.inner ↔ StandsAlone marker (cellsFrom false children)
  plain : marker.map .char <+: cellsFrom false children → Kept children inner region.inner

/-- A gated region around what is left of a quote among some outlines. -/
def OfQuote (source : Source) (outlines : List Outline) (region : Spoiler.Region)
    (content : List Node) : Prop :=
  ∃ inside n later children inner marker, .quote inside ∈ outlines ∧
    ShownAll source n inside children later ∧
    content = [.block (.quote Spoiler.spoilerWord) inner] ∧
    Stripped region children inner marker

/-- Cutting a marker off the children of a quote strips them. -/
theorem stripped_of_marker {children : List Node} (hollow : Hollow children)
    {region : Spoiler.Region} {digits : Option Text} {rest : Text}
    (marker : Spoiler.marker? (flatten children) = some (digits, rest))
    (detected : Spoiler.detectQuote (flatten children) = .ok (some region)) : ∃ cut,
      Stripped region children
        (withoutMarker ((flatten children).length - rest.length) children) cut := by
  obtain ⟨cut, split, closed⟩ := marker_closed marker
  have count : (flatten children).length - rest.length = cut.length := by
    rw [split, List.length_append, Nat.add_sub_cancel]
  have text := inner_of_marker marker detected
  have same : Alike region.inner rest := by
    rw [text]
    exact List.dropWhile_idempotent _ rest
  have kept : Kept children (withoutMarker cut.length children) region.inner ↔
      StandsAlone cut (cellsFrom false children) := by
    rw [← kept_iff_standsAlone hollow split closed]
    exact ⟨fun kept => ⟨kept.leaves, kept.text.trans same⟩,
      fun kept => ⟨kept.leaves, kept.text.trans same.symm⟩⟩
  rw [count]
  refine ⟨cut, ⟨digits, rest, marker, split, text⟩, leaves_eq_passed_append cut.length hollow, ?_,
    ⟨_, flatten_eq_passed_append cut.length children,
      (withoutMarker_spelled cut.length children hollow).text⟩, kept, ?_⟩
  · exact fun node mem => silent_of_mem_cellsFrom _ _ (mem_of_mem_leavesOf_passed mem)
  · exact fun plain => kept.mpr (standsAlone_of_begins plain)

/-- Every gated quote of a rendered tree is what is left of a quote of the document. It holds all
slots, plain output, images and markup of that quote, and its plain text is that of the region,
exactly if the marker stands alone in what is cut off. -/
theorem render_quotes {style : Style} {embedsEnabled : Bool} {content : Text}
    {rendered : Rendered} {events : List Log.Event}
    (ok : render style embedsEnabled content = (.ok rendered, events)) {region : Spoiler.Region}
    {inside : List Node} (mem : .spoiler region inside ∈ preorderAll rendered.tree)
    (gated : region.form = .blockquote) : ∃ outlines,
      outlineOf rendered.parsed = .ok outlines ∧
        OfQuote ⟨rendered.parsed, style⟩ (Outline.everyAll outlines) region inside := by
  obtain ⟨-, outlines, slots, readOk, shown⟩ := render_shown ok
  refine ⟨outlines, readOk, ?_⟩
  have origin : Origin _ _ region inside := shownAll_origin shown _ mem
  cases origin with
  | quote among shown built =>
    cases built with
    | gated marker detected =>
      obtain ⟨cut, stripped⟩ := stripped_of_marker (shownAll_hollow shown) marker detected
      exact ⟨_, _, _, _, _, cut, among, shown, rfl, stripped⟩
  | container among shown built =>
    cases built with
    | gated detected =>
      rw [(of_detectContainer detected).1] at gated
      cases gated
  | division among shown built =>
    cases built with
    | gated detected =>
      rw [(of_detectContainer detected).1] at gated
      cases gated

/-- Whether a tree is a gated quote with some plain text that differs from the text of its region, or
does not. -/
def isQuoted (same : Bool) (rendered : Rendered) : Bool :=
  match rendered.tree with
  | [.spoiler region [.block (.quote _) inner]] =>
    region.form == .blockquote &&
      (Text.trimStart (flatten inner) == Text.trimStart region.inner) == same
  | _ => false

/-- What is told of such a tree holds of its quote. -/
theorem of_isQuoted {same : Bool} {rendered : Rendered} (quoted : isQuoted same rendered = true) :
    ∃ region className inner,
      .spoiler region [.block (.quote className) inner] ∈ preorderAll rendered.tree ∧
        region.form = .blockquote ∧ (Alike (flatten inner) region.inner ↔ same = true) := by
  unfold isQuoted at quoted
  split at quoted
  · rename_i region className inner tree
    simp only [Bool.and_eq_true, beq_iff_eq] at quoted
    obtain ⟨gated, text⟩ := quoted
    refine ⟨region, className, inner, ?_, gated, ?_⟩
    · rw [tree]
      exact List.mem_cons_self
    · rw [← text, beq_iff_eq]
      exact Iff.rfl
  · cases quoted

/-- A marker in code with an embed behind it. -/
def embedBehindMarker : Text :=
  "> `[!SPOILER Chapter 40]` \x7b\x7bcharacter:1\x7d\x7d wins".toList

/-- The embed behind the marker stays in the region of its quote. -/
theorem render_quotes_embedBehindMarker : ∃ rendered events region inside,
    render {} true embedBehindMarker = (.ok rendered, events) ∧
      .spoiler region inside ∈ preorderAll rendered.tree ∧ region.form = .blockquote ∧
      ∃ outlines, outlineOf rendered.parsed = .ok outlines ∧
        OfQuote ⟨rendered.parsed, {}⟩ (Outline.everyAll outlines) region inside := by
  have shows : (render {} true embedBehindMarker).1.toOption.any (isQuoted true) = true := by
    decide +kernel
  obtain ⟨rendered, events, ok, quoted⟩ := exists_of_any shows
  obtain ⟨region, className, inner, mem, gated, -⟩ := of_isQuoted quoted
  exact ⟨rendered, events, region, _, ok, mem, gated, render_quotes ok mem gated⟩

/-- A marker that goes over the gap between two blocks. -/
def markerOverGap : Text := "> \\[!SPOILER\n>\n> Chapter 5]hidden".toList

/-- It takes letters of the text behind it with it. -/
theorem markerOverGap_text : ∃ rendered events region className inner,
    render {} true markerOverGap = (.ok rendered, events) ∧
      .spoiler region [.block (.quote className) inner] ∈ preorderAll rendered.tree ∧
      region.form = .blockquote ∧ ¬ Alike (flatten inner) region.inner := by
  have shows : (render {} true markerOverGap).1.toOption.any (isQuoted false) = true := by
    decide +kernel
  obtain ⟨rendered, events, ok, quoted⟩ := exists_of_any shows
  obtain ⟨region, className, inner, mem, gated, text⟩ := of_isQuoted quoted
  exact ⟨rendered, events, region, className, inner, ok, mem, gated,
    fun alike => Bool.false_ne_true (text.mp alike)⟩

end Loremark.Tree
