import Loremark.Proofs.Markdown.SteadyBlocks
import Loremark.Markdown.LineBreak

/-!
# What line breaks do to code

Line breaks are added to the lines of a text before its blocks are read, by a reading of code
fences that is not the one of Markdown. So spaces can end up in code, but that is all: no block of
code comes or goes, and a block of code differs from what was typed in the spaces behind lines that
were given a break and are lines of the block (`codeContents_withLineBreaks`). Every such line can
be told by its break alone.
-/

set_option autoImplicit false

namespace Loremark.Markdown

/-- What stands in the blocks of code of a text, in order. -/
def codeContents (text : Text) : Except BlockError (List Text) :=
  (blocksOf text).map Block.codesAll

/-- Lines of which the chosen ones are taken with their break; the first one has a number. -/
def chooseFrom (chosen : Choice) : (number : Nat) → (lines broken : List Text) → List Text
  | number, line :: lines, wide :: broken =>
    (if chosen number then wide else line) :: chooseFrom chosen (number + 1) lines broken
  | _, _, _ => []

/-- A text with the breaks of the lines that are chosen by their numbers, and no other. -/
def withBreaksAt (chosen : Choice) (text : Text) : Text :=
  let lines := Text.splitOn '\n' text
  Text.joinWith ['\n'] (chooseFrom chosen 0 lines (breakLines false lines))

/-- No line that ends in a backslash is given a break. There the spaces would be escaped instead
of the line end. -/
def NoEscapedBreak (text : Text) : Prop :=
  let lines := Text.splitOn '\n' text
  ∀ pair ∈ lines.zip (breakLines false lines), pair.1.getLast? = some '\\' → pair.2 = pair.1

/-- A text, and the same text with spaces behind lines. -/
def Widened (text other : Text) : Prop :=
  List.Forall₂ (fun line wide => ∃ pad, Spaces pad ∧ wide = line ++ pad) (Text.splitOn '\n' text)
    (Text.splitOn '\n' other)

/-- What stands in blocks of code, and the same with spaces behind lines; or one failure. -/
inductive CodeWidened : Except BlockError (List Text) → Except BlockError (List Text) → Prop
  | error (error : BlockError) : CodeWidened (.error error) (.error error)
  | ok {codes others : List Text} (widened : List.Forall₂ Widened codes others) :
      CodeWidened (.ok codes) (.ok others)

/-! ## Blocks of code -/

/-- A piece cut from a line is one line. -/
theorem newline_not_mem_cut {line : Line} (oneLine : '\n' ∉ line.text) (width : Int) :
    '\n' ∉ line.cut width := by
  obtain ⟨count, rest, same, part⟩ := cut_eq line.origin width 0 line.shift line.text
  rw [Line.cut, same, List.mem_append, not_or]
  refine ⟨(spaces_replicate count).newline_not_mem, fun mem => oneLine (part.mem mem)⟩

/-- A piece cut from either line of a pair is one line. -/
theorem Twin.newline_not_mem_cut (twin : Twin) (chosen : Choice) (width : Int) :
    '\n' ∉ (twin.pick chosen).cut width :=
  Markdown.newline_not_mem_cut (twin.alike_pick chosen).oneLine.2 width

/-- Texts that begin with a line are the same if the lines are, and what follows them. -/
theorem append_newline_inj {line other rest otherRest : Text} (oneLine : '\n' ∉ line)
    (otherOneLine : '\n' ∉ other) :
    line ++ '\n' :: rest = other ++ '\n' :: otherRest ↔ line = other ∧ rest = otherRest := by
  refine ⟨fun same => ?_, fun ⟨first, behind⟩ => by rw [first, behind]⟩
  have split := congrArg (Text.splitOn '\n') same
  rw [Text.splitOn_append_cons oneLine, Text.splitOn_append_cons otherOneLine] at split
  obtain ⟨rfl, -⟩ := List.cons.inj split
  exact ⟨rfl, (List.cons.inj (List.append_cancel_left same)).2⟩

/-- The text of code is that of its first line, in front of the other lines. -/
theorem CodeBlock.text_cons (chosen : Choice) (width : Int) (fenced : Bool) (twin : Twin)
    (twins : List Twin) :
    CodeBlock.text chosen ⟨width, fenced, twin :: twins⟩ =
      (twin.pick chosen).cut width ++ ((if fenced && twin.plain.isLast then [] else ['\n']) ++
        CodeBlock.text chosen ⟨width, fenced, twins⟩) := by
  simp [CodeBlock.text]

/-- A block of code holds the same texts for two choices if each of its lines does. -/
theorem CodeBlock.text_eq_iff (code : CodeBlock) (chosen other : Choice) :
    code.text chosen = code.text other ↔
      ∀ twin ∈ code.twins,
        (twin.pick chosen).cut code.width = (twin.pick other).cut code.width := by
  obtain ⟨width, fenced, twins⟩ := code
  induction twins with
  | nil => simp [CodeBlock.text]
  | cons twin twins ih =>
    rw [text_cons, text_cons, List.forall_mem_cons]
    cases ends : (fenced && twin.plain.isLast) with
    | true =>
      have last := (Bool.and_eq_true_iff.mp ends).2
      rw [(twin.alike_pick chosen).last last, (twin.alike_pick other).last last]
      simpa using ih
    | false =>
      simp only [Bool.false_eq_true, if_false, List.singleton_append]
      rw [append_newline_inj (twin.newline_not_mem_cut chosen width)
        (twin.newline_not_mem_cut other width), ih]

/-- A text is widened by nothing. -/
theorem widened_refl (text : Text) : Widened text text :=
  List.forall₂_same.mpr fun _ _ => ⟨[], spaces_nil, (List.append_nil _).symm⟩

/-- A line in front of both texts may get spaces at its end. -/
theorem Widened.append_line {text other : Text} (widened : Widened text other) {line pad : Text}
    (spaces : Spaces pad) (oneLine : '\n' ∉ line) :
    Widened (line ++ '\n' :: text) (line ++ pad ++ '\n' :: other) := by
  have padded : '\n' ∉ line ++ pad := by simp [oneLine, spaces.newline_not_mem]
  rw [Widened, Text.splitOn_append_cons oneLine, Text.splitOn_append_cons padded]
  exact .cons ⟨pad, spaces, rfl⟩ widened

/-- The beginning of a line may be put in front of both texts. -/
theorem Widened.append {text other : Text} (widened : Widened text other) {front : Text}
    (oneLine : '\n' ∉ front) : Widened (front ++ text) (front ++ other) := by
  induction front with
  | nil => exact widened
  | cons c front ih =>
    have solid : (c == '\n') = false := by simpa using (List.ne_of_not_mem_cons oneLine).symm
    have behind := ih (List.not_mem_of_not_mem_cons oneLine)
    rw [Widened] at behind ⊢
    rw [List.cons_append, List.cons_append, Text.splitOn, Text.splitOn, solid]
    generalize Text.splitOn '\n' (front ++ text) = lines at behind ⊢
    generalize Text.splitOn '\n' (front ++ other) = others at behind ⊢
    cases behind with
    | nil => exact .cons ⟨[], spaces_nil, (List.append_nil _).symm⟩ .nil
    | cons first more =>
      obtain ⟨pad, spaces, rfl⟩ := first
      exact .cons ⟨pad, spaces, rfl⟩ more

/-- Whichever breaks are chosen, code is widened by spaces only. -/
theorem CodeBlock.widened (code : CodeBlock) (chosen : Choice) :
    Widened (code.text fun _ => false) (code.text chosen) := by
  obtain ⟨width, fenced, twins⟩ := code
  induction twins with
  | nil => exact widened_refl []
  | cons twin twins ih =>
    rw [text_cons, text_cons]
    have plain : twin.pick (fun _ => false) = twin.plain := rfl
    cases ends : (fenced && twin.plain.isLast) with
    | true =>
      have last := (Bool.and_eq_true_iff.mp ends).2
      rw [(twin.alike_pick chosen).last last, plain]
      exact ih.append (newline_not_mem_cut twin.alike.oneLine.1 width)
    | false =>
      obtain ⟨pad, spaces, same⟩ := (twin.alike_pick chosen).cut width
      rw [same, plain]
      exact ih.append_line spaces (newline_not_mem_cut twin.alike.oneLine.1 width)

/-! ## Lines with breaks -/

/-- Lines, and the same lines with spaces behind some of them: not behind blank lines, nor behind
a backslash, nor at the end of the text. -/
inductive Broken : List Text → List Text → Prop
  | last {line : Text} (oneLine : '\n' ∉ line) : Broken [line] [line]
  | cons {line pad : Text} {lines others : List Text} (oneLine : '\n' ∉ line) (spaces : Spaces pad)
      (filled : pad ≠ [] → isGap line = false ∧ line.getLast? ≠ some '\\')
      (behind : Broken lines others) : Broken (line :: lines) ((line ++ pad) :: others)

/-- Lines with breaks are at least one. -/
theorem Broken.ne_nil {lines broken : List Text} (broken : Broken lines broken) : lines ≠ [] := by
  cases broken <;> simp

/-- Of at least one line, at least one is taken. -/
theorem chooseFrom_ne_nil {lines wide : List Text} (broken : Broken lines wide) (chosen : Choice)
    (number : Nat) : chooseFrom chosen number lines wide ≠ [] := by
  cases broken <;> simp [chooseFrom]

/-- The chosen lines have no line ends in them. -/
theorem newline_not_mem_chooseFrom {lines wide : List Text} (broken : Broken lines wide)
    (chosen : Choice) (number : Nat) :
    ∀ line ∈ chooseFrom chosen number lines wide, '\n' ∉ line := by
  induction broken generalizing number with
  | last oneLine => simpa [chooseFrom] using oneLine
  | cons oneLine spaces _ _ ih =>
    rw [chooseFrom, List.forall_mem_cons]
    refine ⟨?_, ih (number + 1)⟩
    split
    · simp [oneLine, spaces.newline_not_mem]
    · exact oneLine

/-- A line stays as it is, or it has something in it and gets two spaces. -/
theorem breakLine_eq (line next : Text) : breakLine line next = line ∨
    isGap line = false ∧ breakLine line next = line ++ [' ', ' '] := by
  rw [breakLine]
  split
  · rename_i breaks
    refine .inr ⟨?_, rfl⟩
    simp only [Bool.and_eq_true, Bool.not_eq_true'] at breaks
    obtain ⟨c, mem, solid⟩ := List.all_eq_false.mp breaks.1.1.1
    exact List.all_eq_false.mpr ⟨c, mem, by
      rw [not_isIndent_of_not_isBlank (Bool.not_eq_true _ ▸ solid)]
      exact Bool.false_ne_true⟩
  · exact .inl rfl

/-- A line may go without a break. -/
theorem Broken.same {line : Text} {lines others : List Text} (oneLine : '\n' ∉ line)
    (behind : Broken lines others) : Broken (line :: lines) (line :: others) := by
  have none : ([] : Text) ≠ [] → isGap line = false ∧ line.getLast? ≠ some '\\' := by simp
  simpa using Broken.cons oneLine spaces_nil none behind

/-- Adding breaks to lines adds nothing but spaces, where none stands behind a backslash. -/
theorem broken_breakLines {fenced : Bool} {lines : List Text} (some : lines ≠ [])
    (oneLine : ∀ line ∈ lines, '\n' ∉ line)
    (solid : ∀ pair ∈ lines.zip (breakLines fenced lines),
      pair.1.getLast? = .some '\\' → pair.2 = pair.1) : Broken lines (breakLines fenced lines) := by
  fun_induction breakLines fenced lines with
  | case1 => exact absurd rfl some
  | case2 fenced line => exact .last (oneLine line List.mem_cons_self)
  | case3 fenced line next lines fence ih =>
    rw [List.zip_cons_cons, List.forall_mem_cons] at solid
    rw [List.forall_mem_cons] at oneLine
    exact .same oneLine.1 (ih (List.cons_ne_nil _ _) oneLine.2 solid.2)
  | case4 line next lines fence ih =>
    rw [List.zip_cons_cons, List.forall_mem_cons] at solid
    rw [List.forall_mem_cons] at oneLine
    exact .same oneLine.1 (ih (List.cons_ne_nil _ _) oneLine.2 solid.2)
  | case5 fenced line next lines fence outside ih =>
    rw [List.zip_cons_cons, List.forall_mem_cons] at solid
    rw [List.forall_mem_cons] at oneLine
    have behind := ih (List.cons_ne_nil _ _) oneLine.2 solid.2
    rcases breakLine_eq line next with same | ⟨filled, same⟩
    · rw [same]
      exact .same oneLine.1 behind
    · rw [same]
      refine .cons oneLine.1 (spaces_replicate 2) (fun _ => ⟨filled, fun ends => ?_⟩) behind
      have kept := solid.1 ends
      rw [same] at kept
      simp at kept

/-- The character that stands for a character in the text that is read. -/
def shownChar (c : Char) : Char := if c == '\x00' then '\ufffd' else c

/-- Only the characters that are shown otherwise become others. -/
theorem shownChar_eq_iff {d : Char} (plain : d ≠ '\x00') (visible : d ≠ '\ufffd') (c : Char) :
    shownChar c = d ↔ c = d := by
  rw [shownChar]
  split
  · rename_i null
    rw [beq_iff_eq.mp null]
    exact ⟨fun same => absurd same.symm visible, fun same => absurd same.symm plain⟩
  · exact Iff.rfl

/-- What shows a character keeps indents as they are. -/
theorem isIndent_shownChar (c : Char) : Text.isIndent (shownChar c) = Text.isIndent c := by
  have tab := shownChar_eq_iff (by decide : '\t' ≠ '\x00') (by decide) c
  have space := shownChar_eq_iff (by decide : ' ' ≠ '\x00') (by decide) c
  rw [Bool.eq_iff_iff]
  simp [Text.isIndent, tab, space]

/-- Lines with breaks have breaks when they are shown, too. -/
theorem Broken.shown {lines wide : List Text} (broken : Broken lines wide) :
    Broken (lines.map (List.map shownChar)) (wide.map (List.map shownChar)) := by
  have lineEnd (c : Char) := shownChar_eq_iff (by decide : '\n' ≠ '\x00') (by decide) c
  have backslash (c : Char) := shownChar_eq_iff (by decide : '\\' ≠ '\x00') (by decide) c
  have shownLine {line : Text} (oneLine : '\n' ∉ line) : '\n' ∉ line.map shownChar := by
    simpa [lineEnd] using oneLine
  induction broken with
  | last oneLine => exact .last (shownLine oneLine)
  | cons oneLine spaces filled behind ih =>
    rename_i line pad lines others
    have pads : pad.map shownChar = pad := by
      rw [List.map_congr_left fun c mem => (by rw [spaces c mem]; rfl : shownChar c = id c),
        List.map_id]
    rw [List.map_cons, List.map_cons, List.map_append, pads]
    refine .cons (shownLine oneLine) spaces (fun some => ⟨?_, ?_⟩) ih
    · rw [← (filled some).1, isGap, isGap, List.all_map]
      simp [Function.comp_def, isIndent_shownChar]
    · rw [List.getLast?_map]
      have solid := (filled some).2
      cases last : line.getLast? <;> simp_all

/-! ## The lines of a text with breaks -/

/-- A line and the same line with spaces behind it are alike. -/
theorem alike_of {line pad : Text} (oneLine : '\n' ∉ line) (spaces : Spaces pad)
    (filled : pad ≠ [] → isGap line = false ∧ line.getLast? ≠ some '\\') :
    Alike (Line.of false line) (Line.of false (line ++ pad)) := by
  by_cases none : pad = []
  · rw [none, List.append_nil]
    exact .refl oneLine
  · obtain ⟨solid, noEscape⟩ := filled none
    have same : Line.of false (line ++ pad) = (Line.of false line).padded pad := by
      simp [Line.of, Line.padded, indentation_solid solid]
    rw [same]
    refine alike_padded spaces oneLine ?_ (fun ends => absurd ends noEscape) (by simp [Line.of])
    rw [Line.isEmpty, decide_eq_false_iff_not, Nat.not_le]
    exact indentation_solid_lt solid 0 0

/-- Whichever breaks are chosen, the lines are picked from the same pairs. -/
theorem exists_twins {lines wide : List Text} (broken : Broken lines wide) (number : Nat) :
    ∃ twins, ∀ chosen, linesOf (chooseFrom chosen number lines wide) = pickAll chosen twins := by
  induction broken generalizing number with
  | last oneLine =>
    rename_i line
    by_cases gap : line.all Text.isIndent = true
    · exact ⟨[], fun chosen => by simp [chooseFrom, linesOf, gap]⟩
    · exact ⟨[⟨number, Line.of true line, Line.of true line, .refl oneLine⟩], fun chosen => by
        simp [chooseFrom, linesOf, gap, Twin.pick]⟩
  | cons oneLine spaces filled behind ih =>
    rename_i line pad lines others
    obtain ⟨twins, read⟩ := ih (number + 1)
    refine ⟨⟨number, Line.of false line, Line.of false (line ++ pad),
      alike_of oneLine spaces filled⟩ :: twins, fun chosen => ?_⟩
    rw [pickAll_cons, ← read, chooseFrom, linesOf, Twin.pick]
    · cases chosen number <;> rfl
    · exact chooseFrom_ne_nil behind chosen (number + 1)

/-- Changing characters commutes with joining pieces. -/
theorem map_joinWith (f : Char → Char) (joint : Text) (pieces : List Text) :
    (Text.joinWith joint pieces).map f = Text.joinWith (joint.map f) (pieces.map (List.map f)) := by
  induction pieces with
  | nil => rfl
  | cons piece pieces ih =>
    cases pieces with
    | nil => rfl
    | cons next pieces =>
      rw [List.map_cons] at ih
      simp only [Text.joinWith, List.map_append, List.map_cons, ih]

/-- Changing characters commutes with choosing lines. -/
theorem chooseFrom_map (f : Text → Text) (chosen : Choice) (number : Nat) (lines wide : List Text) :
    (chooseFrom chosen number lines wide).map f =
      chooseFrom chosen number (lines.map f) (wide.map f) := by
  induction lines generalizing number wide with
  | nil => simp [chooseFrom]
  | cons line lines ih =>
    cases wide with
    | nil => simp [chooseFrom]
    | cons next wide =>
      simp only [chooseFrom, List.map_cons, ih]
      cases chosen number <;> rfl

/-- The characters of a line are those of the text, without line ends. -/
theorem mem_splitOn {text line : Text} {c : Char} (mem : line ∈ Text.splitOn '\n' text)
    (inside : c ∈ line) : c ∈ text ∧ c ≠ '\n' := by
  induction text generalizing line with
  | nil =>
    rw [List.mem_singleton.mp mem] at inside
    cases inside
  | cons d text ih =>
    have behind {line : Text} (mem : line ∈ Text.splitOn '\n' text) (inside : c ∈ line) :
        c ∈ d :: text ∧ c ≠ '\n' :=
      ⟨List.mem_cons_of_mem d (ih mem inside).1, (ih mem inside).2⟩
    rw [Text.splitOn] at mem
    split at mem
    · rcases List.mem_cons.mp mem with rfl | later
      · cases inside
      · exact behind later inside
    · rename_i solid
      have here : c = d → c ∈ d :: text ∧ c ≠ '\n' := by
        rintro rfl
        exact ⟨List.mem_cons_self, by simpa using solid⟩
      cases split : Text.splitOn '\n' text with
      | nil => exact absurd split (Text.splitOn_ne_nil _ _)
      | cons first pieces =>
        rw [split] at mem
        rcases List.mem_cons.mp mem with rfl | later
        · rcases List.mem_cons.mp inside with same | within
          · exact here same
          · exact behind (split ▸ List.mem_cons_self) within
        · exact behind (split ▸ List.mem_cons_of_mem first later) inside

/-- The chosen lines have no new characters but spaces. -/
theorem mem_chooseFrom {lines wide : List Text} (broken : Broken lines wide) {chosen : Choice}
    {number : Nat} {piece : Text} {c : Char} (mem : piece ∈ chooseFrom chosen number lines wide)
    (inside : c ∈ piece) : c = ' ' ∨ ∃ line ∈ lines, c ∈ line := by
  induction broken generalizing number with
  | last oneLine =>
    rename_i line
    refine .inr ⟨line, List.mem_cons_self, ?_⟩
    simp [chooseFrom] at mem
    rwa [mem] at inside
  | cons oneLine spaces filled behind ih =>
    rename_i line pad lines others
    rw [chooseFrom] at mem
    rcases List.mem_cons.mp mem with rfl | later
    · have here : c ∈ line ++ pad := by
        split at inside
        · exact inside
        · exact List.mem_append_left pad inside
      rcases List.mem_append.mp here with within | behind
      · exact .inr ⟨line, List.mem_cons_self, within⟩
      · exact .inl (spaces c behind)
    · exact (ih later).imp_right fun ⟨line, there, within⟩ =>
        ⟨line, List.mem_cons_of_mem _ there, within⟩

/-- Adding breaks leaves as many lines as there are. -/
theorem length_breakLines (fenced : Bool) (lines : List Text) :
    (breakLines fenced lines).length = lines.length := by
  fun_induction breakLines fenced lines <;> simp_all

/-- Choosing all breaks gives the lines with them. -/
theorem chooseFrom_all {lines wide : List Text} (same : wide.length = lines.length) (number : Nat) :
    chooseFrom (fun _ => true) number lines wide = wide := by
  induction lines generalizing number wide with
  | nil => rw [List.length_eq_zero_iff.mp same, chooseFrom]; simp
  | cons line lines ih =>
    cases wide with
    | nil => cases same
    | cons next wide => rw [chooseFrom, if_pos rfl, ih (Nat.succ.inj same)]

/-- Choosing no break gives the lines as they are. -/
theorem chooseFrom_none {lines wide : List Text} (same : wide.length = lines.length)
    (number : Nat) : chooseFrom (fun _ => false) number lines wide = lines := by
  induction lines generalizing number wide with
  | nil => rw [List.length_eq_zero_iff.mp same, chooseFrom]; simp
  | cons line lines ih =>
    cases wide with
    | nil => cases same
    | cons next wide => rw [chooseFrom, if_neg Bool.false_ne_true, ih (Nat.succ.inj same)]

/-- A text with all of its breaks is the text with line breaks. -/
theorem withBreaksAt_all (text : Text) :
    withBreaksAt (fun _ => true) text = withLineBreaks text := by
  rw [withBreaksAt, withLineBreaks, chooseFrom_all (length_breakLines _ _)]

/-- A text with no break is the text itself. -/
theorem withBreaksAt_none (text : Text) : withBreaksAt (fun _ => false) text = text := by
  rw [withBreaksAt, chooseFrom_none (length_breakLines _ _), Text.joinWith_splitOn]

section Text

variable {text : Text} (noReturn : '\r' ∉ text) (noEscape : NoEscapedBreak text)

include noReturn noEscape

/-- The lines of a text with breaks are those of fixed twins. -/
theorem exists_lines :
    ∃ twins, ∀ chosen, lines (withBreaksAt chosen text) = pickAll chosen twins := by
  have broken : Broken (Text.splitOn '\n' text) (breakLines false (Text.splitOn '\n' text)) :=
    broken_breakLines (Text.splitOn_ne_nil _ _)
      (fun line mem inside => (mem_splitOn mem inside).2 rfl) noEscape
  obtain ⟨twins, read⟩ := exists_twins broken.shown 0
  refine ⟨twins, fun chosen => ?_⟩
  -- Without carriage returns the lines are what stands between the newlines.
  have free : '\r' ∉ withBreaksAt chosen text := by
    intro mem
    rcases Text.mem_joinWith mem with lineEnd | ⟨piece, there, inside⟩
    · exact absurd (List.mem_singleton.mp lineEnd) (by decide)
    · rcases mem_chooseFrom broken there inside with space | ⟨line, there, inside⟩
      · exact absurd space (by decide)
      · exact noReturn (mem_splitOn there inside).1
  have normal : normalText (withBreaksAt chosen text) =
      Text.joinWith ['\n'] (chooseFrom chosen 0 ((Text.splitOn '\n' text).map (List.map shownChar))
        ((breakLines false (Text.splitOn '\n' text)).map (List.map shownChar))) := by
    rw [← chooseFrom_map, normalText, Text.unifyNewlines_of_not_mem free]
    exact map_joinWith shownChar ['\n'] _
  rw [lines, normal, Text.splitOn_joinWith (chooseFrom_ne_nil broken.shown chosen 0)
    (newline_not_mem_chooseFrom broken.shown chosen 0), read]

/-- What stands in the blocks of code of a text with breaks: the picked lines of fixed twins, or
the one failure. -/
theorem codeContents_withBreaksAt :
    (∃ error, ∀ chosen, codeContents (withBreaksAt chosen text) = .error error) ∨
      ∃ codes : List CodeBlock, ∀ chosen,
        codeContents (withBreaksAt chosen text) = .ok (codes.map (CodeBlock.text chosen)) := by
  obtain ⟨twins, read⟩ := exists_lines noReturn noEscape
  rcases readBlocks_steady blockLimit {} twins with ⟨error, fails⟩ | ⟨found, steady, succeeds⟩
  · dsimp only at fails
    refine .inl ⟨error, fun chosen => ?_⟩
    rw [codeContents, blocksOf, read, fails]
    rfl
  · obtain ⟨blocks, codes, rest, tight, rfl, holds⟩ := steady
    dsimp only at succeeds
    refine .inr ⟨codes, fun chosen => ?_⟩
    rw [codeContents, blocksOf, read, succeeds, ← holds chosen]
    rfl

end Text

/-- The blocks of code of a text with line breaks are as many as without, and hold the same lines
but for spaces behind them. They are the same as without if no break changes them for itself. -/
theorem codeContents_withLineBreaks {text : Text} (noReturn : '\r' ∉ text)
    (noEscape : NoEscapedBreak text) :
    CodeWidened (codeContents text) (codeContents (withLineBreaks text)) ∧
      (codeContents (withLineBreaks text) = codeContents text ↔
        ∀ number, codeContents (withBreaksAt (· == number) text) = codeContents text) := by
  have plain := withBreaksAt_none text
  have all := withBreaksAt_all text
  rcases codeContents_withBreaksAt noReturn noEscape with ⟨error, fails⟩ | ⟨codes, read⟩
  · have failsPlain := fails fun _ => false
    have failsAll := fails fun _ => true
    rw [plain] at failsPlain
    rw [all] at failsAll
    rw [failsPlain, failsAll]
    exact ⟨.error error, by simp [fails]⟩
  · have readPlain := read fun _ => false
    have readAll := read fun _ => true
    rw [plain] at readPlain
    rw [all] at readAll
    rw [readPlain, readAll]
    refine ⟨.ok ?_, ?_⟩
    · rw [List.forall₂_map_left_iff, List.forall₂_map_right_iff, List.forall₂_same]
      exact fun code _ => code.widened _
    · -- A line of a block is the same for two choices that agree on its number.
      simp only [read, Except.ok.injEq, List.map_inj_left, CodeBlock.text_eq_iff]
      refine ⟨fun same number code mem twin inside => ?_, fun same code mem twin inside => ?_⟩
      · have here := same code mem twin inside
        simp only [Twin.pick] at here ⊢
        split
        · exact here
        · rfl
      · have here := same twin.number code mem twin inside
        simpa [Twin.pick] using here

/-- Two lines of code in each of the two kinds of fence. -/
def bothFences : Text := "```\na\nb\n```\n~~~\nc\nd\n~~~".toList

/-- Code between tildes gets spaces behind its first line, and one break is enough to tell. -/
theorem codeContents_withLineBreaks_bothFences :
    CodeWidened (codeContents bothFences) (codeContents (withLineBreaks bothFences)) ∧
      (codeContents (withLineBreaks bothFences) = codeContents bothFences ↔
        ∀ number, codeContents (withBreaksAt (· == number) bothFences) =
          codeContents bothFences) :=
  codeContents_withLineBreaks (by decide +kernel) (by unfold NoEscapedBreak; decide +kernel)

/-- Two lines of code between tildes. -/
def tildeFence : Text := "~~~\na\nb\n~~~".toList

/-- Breaks are added to code between tildes. -/
theorem codeContents_tildeFence :
    codeContents (withLineBreaks tildeFence) ≠ codeContents tildeFence := by
  decide +kernel

end Loremark.Markdown
