import Loremark.Markdown.Block.Continuation
import Loremark.Proofs.Text.Vocabulary
import Mathlib.Data.List.Forall2

/-!
# The words of lines

The text of a block is put together from the lines that it takes: indentation is cut off, and a line
end stands between two of them. So it has no words that the lines have not (`hits_textOf`,
`hits_fullText`).
-/

set_option autoImplicit false

namespace Loremark.Markdown

open Text (Vocabulary)

/-- Words without spaces, line ends and the characters that reading a text replaces. -/
structure Spaced (v : Vocabulary) : Prop where
  space : v.Separates ' '
  lineEnd : v.Separates '\n'
  carriage : v.Separates '\r'
  null : v.Separates '\x00'
  replacement : v.Separates '\ufffd'

/-- The words of lines. -/
def lineHits (v : Vocabulary) (lines : List Line) : List Text := v.hitsAll (lines.map Line.text)

variable {v : Vocabulary}

/-- The words of two lists of lines follow each other. -/
theorem lineHits_append (lines others : List Line) :
    lineHits v (lines ++ others) = lineHits v lines ++ lineHits v others := by
  rw [lineHits, List.map_append, Vocabulary.hitsAll_append]
  rfl

/-- The words of the first line stand in front of those of the others. -/
theorem lineHits_cons (line : Line) (lines : List Line) :
    lineHits v (line :: lines) = v.hits line.text ++ lineHits v lines := Vocabulary.hitsAll_cons _ _

/-- Fewer lines have fewer words. -/
theorem lineHits_sublist {lines others : List Line} (fewer : lines.Sublist others) :
    (lineHits v lines).Sublist (lineHits v others) :=
  Vocabulary.hitsAll_sublist_of_sublist (fewer.map Line.text)

/-! ## Texts of lines -/

/-- A cut text is an end of the text with spaces in front of it. -/
theorem cut_eq (origin width column : Int) (shift : Nat) (text : Text) :
    ∃ count rest, cut origin width column shift text = List.replicate count ' ' ++ rest ∧
      rest <:+ text := by
  induction text generalizing column shift with
  | nil => exact ⟨_, [], (List.append_nil _).symm, List.suffix_refl _⟩
  | cons c text ih =>
    have onward (column : Int) (shift : Nat) : ∃ count rest,
        cut origin width column shift text = List.replicate count ' ' ++ rest ∧
          rest <:+ c :: text := by
      obtain ⟨count, rest, same, isSuffix⟩ := ih column shift
      exact ⟨count, rest, same, isSuffix.trans (List.suffix_cons c text)⟩
    rw [cut]
    split
    · split
      · exact onward _ _
      · split
        · exact onward _ _
        · exact ⟨0, c :: text, rfl, List.suffix_refl _⟩
    · exact ⟨_, c :: text, rfl, List.suffix_refl _⟩

/-- Cutting indentation off a line brings no words. -/
theorem hits_cut (spaced : Spaced v) (width : Int) (line : Line) :
    (v.hits (line.cut width)).Sublist (v.hits line.text) := by
  obtain ⟨count, rest, same, isSuffix⟩ := cut_eq line.origin width 0 line.shift line.text
  have spaces : ∀ d ∈ List.replicate count ' ', v.Separates d := by
    intro d mem
    rw [List.eq_of_mem_replicate mem]
    exact spaced.space
  rw [Line.cut, same, Vocabulary.hits_of_separators_append spaces]
  exact Vocabulary.hits_suffix_sublist isSuffix

/-- The text of lines has no words but theirs. -/
theorem hits_textOf (spaced : Spaced v) (width : Int) (lines : List Line) :
    (v.hits (textOf width lines)).Sublist (lineHits v lines) := by
  rw [textOf, Vocabulary.hits_joinWith spaced.lineEnd, lineHits]
  refine Vocabulary.hitsAll_sublist_of_forall₂ ?_
  rw [List.forall₂_map_left_iff, List.forall₂_map_right_iff, List.forall₂_same]
  exact fun line _ => hits_cut spaced width line

/-- A stripped text is a part of the text. -/
theorem infix_strip (isOuter : Char → Bool) (text : Text) : Text.strip isOuter text <:+: text := by
  rw [Text.strip]
  have back := List.reverse_prefix.mpr
    (List.dropWhile_suffix isOuter (l := (text.dropWhile isOuter).reverse))
  rw [List.reverse_reverse] at back
  exact back.isInfix.trans (List.dropWhile_suffix _).isInfix

/-- Running text has no words but those of its lines. -/
theorem hits_runningText (spaced : Spaced v) (frame : Frame) (lines : List Line) :
    (v.hits (runningText frame lines)).Sublist (lineHits v lines) :=
  (Vocabulary.hits_infix_sublist (infix_strip _ _)).trans (hits_textOf spaced _ lines)

/-- Only the last of some lines can end the text. -/
def OneEnd (lines : List Line) : Prop := lines.Pairwise fun line _ => line.isLast = false

/-- The full text of lines has no words but theirs, where one of them ends the text at most. -/
theorem hits_fullText (spaced : Spaced v) (width : Int) {lines : List Line}
    (oneEnd : OneEnd lines) : (v.hits (fullText width lines)).Sublist (lineHits v lines) := by
  induction lines with
  | nil => exact List.Sublist.refl _
  | cons line lines ih =>
    have first := hits_cut spaced width line
    rw [fullText, List.flatMap_cons, lineHits_cons]
    cases last : line.isLast with
    | false =>
      rw [if_neg Bool.false_ne_true, List.append_assoc, List.singleton_append,
        Vocabulary.hits_append_cons spaced.lineEnd]
      exact first.append (ih oneEnd.of_cons)
    | true =>
      have none : lines = [] := by
        cases lines with
        | nil => rfl
        | cons next lines =>
          have more := List.rel_of_pairwise_cons oneEnd List.mem_cons_self
          rw [last] at more
          cases more
      rw [none, if_pos rfl, List.flatMap_nil, List.append_nil, List.append_nil]
      exact first.trans (List.sublist_append_left _ _)

/-- The content of a line is an end of its text. -/
theorem content_suffix (line : Line) : line.content <:+ line.text := List.drop_suffix _ _

/-! ## Taking lines -/

/-- What lines hold, wherever their content begins. -/
def bodies (lines : List Line) : List (Text × Bool) :=
  lines.map fun line => (line.text, line.isLast)

/-- Two lists of lines hold one behind the other. -/
theorem bodies_append (lines others : List Line) :
    bodies (lines ++ others) = bodies lines ++ bodies others := List.map_append

/-- The words of lines are those of what they hold. -/
theorem lineHits_eq (lines : List Line) :
    lineHits v lines = v.hitsAll ((bodies lines).map Prod.fst) := by
  rw [lineHits, bodies, List.map_map]
  rfl

/-- Lines that hold the same have the same words. -/
theorem lineHits_congr {lines others : List Line} (same : bodies lines = bodies others) :
    lineHits v lines = lineHits v others := by
  rw [lineHits_eq, lineHits_eq, same]

/-- Only the last line can end the text if no line in front of another one does. -/
theorem oneEnd_iff (lines : List Line) :
    OneEnd lines ↔ (lines.map Line.isLast).Pairwise fun last _ => last = false := by
  rw [List.pairwise_map]
  rfl

/-- Of lines that hold the same, the same ones end the text. -/
theorem oneEnd_congr {lines others : List Line} (same : bodies lines = bodies others) :
    OneEnd lines ↔ OneEnd others := by
  have lasts (lines : List Line) : (bodies lines).map Prod.snd = lines.map Line.isLast := by
    rw [bodies, List.map_map]
    rfl
  rw [oneEnd_iff, oneEnd_iff, ← lasts, ← lasts, same]

/-- Of the last lines, too, only the last one can end the text. -/
theorem OneEnd.of_suffix {lines rest : List Line} (oneEnd : OneEnd lines) (part : rest <:+ lines) :
    OneEnd rest := oneEnd.sublist part.sublist

/-- Texts that are put together from the first of some lines. -/
def Takes (v : Vocabulary) (lines : List Line) (texts : List Text) (rest : List Line) : Prop :=
  ∃ used, bodies lines = bodies (used ++ rest) ∧ (v.hitsAll texts).Sublist (lineHits v used)

/-- Texts without words but those of the first lines are put together from these. -/
theorem takes_append {used texts} {rest : List Line}
    (fewer : (v.hitsAll texts).Sublist (lineHits v used)) : Takes v (used ++ rest) texts rest :=
  ⟨used, rfl, fewer⟩

/-- Without texts, lines can be left out. -/
theorem takes_of_suffix {lines rest : List Line} (part : rest <:+ lines) :
    Takes v lines [] rest := by
  obtain ⟨used, rfl⟩ := part
  exact takes_append (List.nil_sublist _)

namespace Takes

variable {lines middle rest : List Line} {texts others : List Text}

/-- What is taken first stands in front of what is taken from the rest. -/
theorem trans (first : Takes v lines texts middle) (second : Takes v middle others rest) :
    Takes v lines (texts ++ others) rest := by
  obtain ⟨used, same, fewer⟩ := first
  obtain ⟨more, behind, fewerMore⟩ := second
  refine ⟨used ++ more, ?_, ?_⟩
  · rw [same, bodies_append, behind, ← bodies_append, List.append_assoc]
  · rw [Vocabulary.hitsAll_append, lineHits_append]
    exact fewer.append fewerMore

/-- More lines can be left out behind those that are taken. -/
theorem of_suffix (takes : Takes v lines texts middle) (part : rest <:+ middle) :
    Takes v lines texts rest := by
  have onward := takes.trans (takes_of_suffix part)
  rwa [List.append_nil] at onward

/-- It does not matter where the content of a line begins. -/
theorem of_bodies {same : List Line} (takes : Takes v lines texts rest)
    (equal : bodies same = bodies lines) : Takes v same texts rest := by
  obtain ⟨used, split, fewer⟩ := takes
  exact ⟨used, equal.trans split, fewer⟩

/-- The texts that are taken have no words but those of the lines. -/
theorem sublist (takes : Takes v lines texts rest) :
    (v.hitsAll texts).Sublist (lineHits v lines) := by
  obtain ⟨used, same, fewer⟩ := takes
  rw [lineHits_congr same, lineHits_append]
  exact fewer.trans (List.sublist_append_left _ _)

/-- The texts that are taken have no words but those of the lines that are gone. -/
theorem sublist_take (takes : Takes v lines texts rest) :
    (v.hitsAll texts).Sublist (lineHits v (lines.take (lines.length - rest.length))) := by
  obtain ⟨used, same, fewer⟩ := takes
  have length : lines.length = used.length + rest.length := by
    simpa [bodies] using congrArg List.length same
  have taken : bodies (lines.take (lines.length - rest.length)) = bodies used := by
    rw [length, Nat.add_sub_cancel, bodies, List.map_take, ← bodies, same, bodies_append]
    exact List.take_left' (List.length_map _)
  rwa [lineHits_congr taken]

/-- Of the lines that are left, too, only the last one can end the text. -/
theorem oneEnd (takes : Takes v lines texts rest) (oneEnd : OneEnd lines) : OneEnd rest := by
  obtain ⟨used, same, -⟩ := takes
  exact ((oneEnd_congr same).mp oneEnd).of_suffix (List.suffix_append used rest)

end Takes

end Loremark.Markdown
