import Loremark.Proofs.Tree.Nesting

/-!
# What divisions hide

A document of divisions and plain lines hides what stands inside its spoiler divisions if no line
there can be read outside gated regions. `render_hides_iff` says exactly when it does: the lines that
are shown are read off the rows of the document, and they are those outside spoiler divisions if
every closing tag stands in front of a blank line or ends the document. With more behind a closing
tag the tags of a piece of markup may balance although they are not those of one division, and lines
of a spoiler division are shown as they were typed.
-/

set_option autoImplicit false

namespace Loremark.Tree

open Markdown

variable {rows : List Row} {text line : Text} {style : Style} {embedsEnabled : Bool}
  {rendered : Rendered} {events : List Log.Event}

/-! ## Documents of rows -/

/-- A tag has one angle bracket, and every other row none. -/
theorem count_angle_row {row : Row} (plain : row.Plain) :
    row.text.count '<' = if row.isTag then 1 else 0 := by
  cases row with
  | opens className =>
    rw [text_opens, List.count_cons_self, List.count_eq_zero.mpr (angle_not_mem_openingInner plain)]
    rfl
  | closes => rfl
  | words line => exact List.count_eq_zero.mpr (angle_not_mem_words plain)
  | blank => rfl

/-- A text has as many angle brackets as its rows have tags. -/
theorem count_angle (printed : Printed text rows) (plain : AllPlain rows) :
    text.count '<' = rows.countP Row.isTag := by
  have inside {row : Row} {pad : Text} (plain : row.Plain) (spaces : Spaces pad) :
      (row.text ++ pad).count '<' = if row.isTag then 1 else 0 := by
    rw [List.count_append, count_angle_row plain,
      List.count_eq_zero.mpr (spaces.not_mem (by decide)), Nat.add_zero]
  induction printed with
  | nil => rfl
  | last row pad spaces =>
    rw [inside plain.head spaces, List.countP_cons, List.countP_nil, Nat.zero_add]
  | line row pad spaces behind ih =>
    rw [List.count_append, inside plain.head spaces, List.count_cons_of_ne (by decide),
      ih plain.tail, List.countP_cons, Nat.add_comm]

/-- No embeds are cut out of a document of such rows. -/
theorem extract_contentOf (plain : AllPlain rows) :
    Embed.extract (contentOf rows) = .ok ⟨contentOf rows, []⟩ := by
  have free : '\x7b' ∉ contentOf rows := contentOf_not_mem plain (by decide) (by decide)
  rw [Embed.extract, if_neg]
  intro occurs
  exact free ((Text.occurs_iff.mp occurs).subset (by decide))

/-- Documents of rows have no embeds. -/
theorem parsed_of_render (plain : AllPlain rows)
    (ok : render style embedsEnabled (contentOf rows) = (.ok rendered, events)) :
    rendered.parsed = ⟨contentOf rows, []⟩ := by
  have noReturn : '\r' ∉ contentOf rows := contentOf_not_mem plain (by decide) (by decide)
  obtain ⟨parsed, -⟩ := render_shown ok
  rw [Text.unifyNewlines_of_not_mem noReturn, extract_contentOf plain] at parsed
  split at parsed
  · exact (Except.ok.inj parsed).symm
  · exact parsed

/-- The plain lines of a document that can be read outside gated regions. -/
def visible (rows : List Row) : List Text := shownFrom (rows.countP Row.isTag) (chunks rows)

/-- A rendered document exposes the visible lines and no others. -/
theorem exposes_iff (plain : AllPlain rows)
    (ok : render style embedsEnabled (contentOf rows) = (.ok rendered, events))
    (plainLine : PlainLine line) :
    Node.Exposes rendered.tree line ↔ Among line (visible rows) := by
  have parsed := parsed_of_render plain ok
  have printed := withLineBreaks_printed plain
  obtain ⟨blocks, ranText, depicts⟩ := read_printed printed plain []
  have readBlocks : readText (withLineBreaks rendered.parsed.rewritten) [] = .ok (blocks, []) := by
    rw [parsed, readText, ranText]
    rfl
  obtain ⟨-, outlines, slots, readOk, shown⟩ := render_shown ok
  have noEmbeds : (Source.mk rendered.parsed style).parsed.embeds = [] := by rw [parsed]
  rw [outlineOf, readBlocks] at readOk
  rw [parsed, count_angle printed plain] at readOk
  cases ran : outlinesOf (rows.countP Row.isTag) blocks [] with
  | error cause =>
    simp only [ran, bind, Except.bind] at readOk
    cases readOk
  | ok result =>
    simp only [ran, bind, Except.bind, pure, Except.pure] at readOk
    obtain rfl := Except.ok.inj readOk
    exact outlinesOf_agree noEmbeds plainLine _ depicts ran shown

/-! ## Hidden lines -/

/-- Whether no line inside a spoiler division can be read outside gated regions, but for those that
are written outside spoiler divisions too. -/
def Hides (rows : List Row) (tree : List Node) : Prop :=
  ∀ line ∈ secretLines rows, ¬ Among line (openLines rows) → ¬ Node.Exposes tree line

/-- The lines that are picked from plain rows are plain. -/
theorem plainLine_of_mem_linesWhere (plain : AllPlain rows) {gated : Bool} {around : List Bool}
    (mem : line ∈ linesWhere gated around rows) : PlainLine line :=
  plain (.words line) (mem_of_mem_linesWhere mem)

/-- Where closing tags stand apart, the lines that are shown are those outside spoiler divisions. -/
theorem visible_nested (nested : Nested rows) (apart : EndsApart rows) :
    visible rows = openLines rows := shownFrom_nested nested apart (Nat.le_refl _)

/-- A rendered document hides the lines inside its spoiler divisions exactly if those of them that
are visible are written outside too. Where tags match and every closing tag stands in front of a
blank line or ends the document, it hides them. -/
theorem render_hides_iff (plain : AllPlain rows)
    (ok : render style embedsEnabled (contentOf rows) = (.ok rendered, events)) :
    (Hides rows rendered.tree ↔
      ∀ line ∈ secretLines rows, Among line (visible rows) → Among line (openLines rows)) ∧
    (Nested rows → EndsApart rows → Hides rows rendered.tree) := by
  have hides : Hides rows rendered.tree ↔
      ∀ line ∈ secretLines rows, Among line (visible rows) → Among line (openLines rows) := by
    refine forall₂_congr fun line mem => ?_
    rw [exposes_iff plain ok (plainLine_of_mem_linesWhere plain mem)]
    exact not_imp_not
  refine ⟨hides, fun nested apart => hides.mpr fun line mem shown => ?_⟩
  rwa [visible_nested nested apart] at shown

/-- The line inside the spoiler division of `neighbours`. -/
def secret : Text := ['s', 'e', 'c', 'r', 'e', 't']

/-- A division with a spoiler division right behind it. The first opening tag and the last closing
one are taken for the ends of one division. -/
def neighbours : List Row :=
  [.opens ['n', 'o', 't', 'e'], .closes, .opens ['s', 'p', 'o', 'i', 'l', 'e', 'r'], .words secret,
    .closes]

/-- The divisions are nested properly. -/
theorem neighbours_nested : Nested neighbours :=
  .division _ .nil (.division _ (.line (.words secret) rfl .nil) .nil)

/-- The secret is a plain line. -/
theorem secret_plain : PlainLine secret where
  chars := List.all_eq_true.mp (by decide +kernel)
  first := ⟨'s', _, rfl, by decide +kernel⟩
  last := ⟨['s', 'e', 'c', 'r', 'e'], 't', rfl, by decide⟩

/-- The rows of the document are plain. -/
theorem neighbours_plain : AllPlain neighbours := by
  have note : ∀ c ∈ ['n', 'o', 't', 'e'], isClassChar c = true :=
    List.all_eq_true.mp (by decide +kernel)
  have spoiler : ∀ c ∈ ['s', 'p', 'o', 'i', 'l', 'e', 'r'], isClassChar c = true :=
    List.all_eq_true.mp (by decide +kernel)
  intro row mem
  simp only [neighbours, List.mem_cons, List.not_mem_nil, or_false] at mem
  rcases mem with rfl | rfl | rfl | rfl | rfl
  · exact note
  · trivial
  · exact spoiler
  · exact secret_plain
  · trivial

/-- The secret stands inside a spoiler division, and is shown. -/
theorem neighbours_lines : secretLines neighbours = [secret] ∧ openLines neighbours = [] ∧
    visible neighbours = [secret] := ⟨rfl, rfl, rfl⟩

/-- The document can be rendered. -/
theorem neighbours_renders : ∃ rendered events,
    render {} true (contentOf neighbours) = (.ok rendered, events) := by
  have isOk : (render {} true (contentOf neighbours)).1.isOk = true := by
    decide +kernel
  cases ran : render {} true (contentOf neighbours) with
  | mk result events =>
    rw [ran] at isOk
    cases result with
    | error cause => cases isOk
    | ok rendered => exact ⟨rendered, events, rfl⟩

/-- A nested document that shows the line of its spoiler division to every reader. -/
theorem neighbours_exposes :
    contentOf neighbours =
        "<div class=\"note\">\n</div>\n<div class=\"spoiler\">\nsecret\n</div>".toList ∧
      Nested neighbours ∧ AllPlain neighbours ∧ ∃ rendered events,
        render {} true (contentOf neighbours) = (.ok rendered, events) ∧
          ∃ line ∈ secretLines neighbours, ¬ Among line (openLines neighbours) ∧
            Node.Exposes rendered.tree line := by
  have content : contentOf neighbours =
      "<div class=\"note\">\n</div>\n<div class=\"spoiler\">\nsecret\n</div>".toList := by
    decide +kernel
  refine ⟨content, neighbours_nested, neighbours_plain, ?_⟩
  obtain ⟨inside, outside, shown⟩ := neighbours_lines
  obtain ⟨rendered, events, ok⟩ := neighbours_renders
  rw [inside, outside]
  refine ⟨rendered, events, ok, secret, List.mem_singleton_self secret, among_nil, ?_⟩
  rw [exposes_iff neighbours_plain ok secret_plain, shown]
  exact ⟨secret, List.mem_singleton_self secret, List.prefix_refl secret⟩

/-- That document is not hidden, because the first closing tag does not stand apart. -/
theorem neighbours_not_hides : ∃ rendered events,
    render {} true (contentOf neighbours) = (.ok rendered, events) ∧
      ¬ Hides neighbours rendered.tree ∧ ¬ EndsApart neighbours := by
  obtain ⟨inside, outside, shown⟩ := neighbours_lines
  obtain ⟨rendered, events, ok⟩ := neighbours_renders
  obtain ⟨hides, apart⟩ := render_hides_iff neighbours_plain ok
  have exposed : ¬ Hides neighbours rendered.tree := by
    rw [hides, inside, outside, shown]
    intro hidden
    exact among_nil (hidden secret (List.mem_singleton_self secret)
      ⟨secret, List.mem_singleton_self secret, List.prefix_refl secret⟩)
  exact ⟨rendered, events, ok, exposed, fun ends => exposed (apart neighbours_nested ends)⟩

end Loremark.Tree
