import Loremark.Markdown.Block.Parse
import Loremark.Markdown.LineBreak
import Loremark.Proofs.Text.Lines

/-!
# Documents of divisions and plain lines

The rows of a document whose lines are opening tags of divisions, closing tags, plain text, or
blank. `Printed` relates such rows to the texts that spell them, whatever spaces stand at the ends
of the lines, and `LineOf` to the lines that Markdown makes of them. No row but a tag begins a
block of its own, which is what the second half shows, one test after the other.
-/

set_option autoImplicit false

namespace Loremark.Markdown

/-- What a line of a document can be. -/
inductive Row where
  /-- An opening tag with a class. -/
  | opens (className : Text)
  /-- A closing tag. -/
  | closes
  /-- Plain text. -/
  | words (line : Text)
  | blank
  deriving DecidableEq, Repr

/-- What stands in front of the class in an opening tag. -/
def openingFront : Text := ['<', 'd', 'i', 'v', ' ', 'c', 'l', 'a', 's', 's', '=', '"']

/-- What stands behind the class in an opening tag. -/
def openingBack : Text := ['"', '>']

/-- A closing tag. -/
def closingTag : Text := ['<', '/', 'd', 'i', 'v', '>']

namespace Row

/-- A row as it is written. -/
def text : Row → Text
  | opens className => openingFront ++ (className ++ openingBack)
  | closes => closingTag
  | words line => line
  | blank => []

/-- Whether a row is a tag. -/
def isTag : Row → Bool
  | opens _ | closes => true
  | words _ | blank => false

/-- Whether a row is plain text. -/
def isWords : Row → Bool
  | words _ => true
  | _ => false

/-- Whether a row is more than a blank line. -/
def isFilled : Row → Bool
  | blank => false
  | _ => true

/-- The plain text of a row. -/
def words? : Row → Option Text
  | words line => some line
  | _ => none

end Row

/-- Characters without a meaning of their own inside a line. -/
def isPlainChar (c : Char) : Bool := !"\n\r\x00\\\x60*_~[<>&\x7b".toList.contains c

/-- Characters that can stand in the class of a division. -/
def isClassChar (c : Char) : Bool := !"\n\r\x00\"<>\x7b".toList.contains c

/-- Characters that begin no block but markup when a line begins with them. -/
def isStart (c : Char) : Bool :=
  !"~\x60:>*-_#=+|[".toList.contains c && !Text.isDigit c && !Text.isBlank c

/-- Lines of plain text, without blanks at their ends. -/
structure PlainLine (line : Text) : Prop where
  chars : ∀ c ∈ line, isPlainChar c = true
  first : ∃ c rest, line = c :: rest ∧ isStart c = true
  last : ∃ front c, line = front ++ [c] ∧ Text.isBlank c = false

/-- Rows with a class or a line that is read as it stands. -/
def Row.Plain : Row → Prop
  | .opens className => ∀ c ∈ className, isClassChar c = true
  | .words line => PlainLine line
  | _ => True

/-- A document as typed. -/
def contentOf (rows : List Row) : Text := Text.joinWith ['\n'] (rows.map Row.text)

/-- Nothing but spaces. -/
def Spaces (text : Text) : Prop := ∀ c ∈ text, c = ' '

/-- Texts that spell rows, with spaces at the ends of the lines. The last line may have a line
end. -/
inductive Printed : Text → List Row → Prop
  | nil : Printed [] []
  | last (row : Row) (pad : Text) (spaces : Spaces pad) : Printed (row.text ++ pad) [row]
  | line (row : Row) (pad : Text) (spaces : Spaces pad) {text : Text} {rows : List Row}
      (behind : Printed text rows) : Printed (row.text ++ pad ++ '\n' :: text) (row :: rows)

/-! ## Characters -/

/-- A character that begins a row is no mark of a block, no digit and no blank. -/
theorem isStart_facts {c : Char} (start : isStart c = true) :
    c ∉ "~\x60:>*-_#=+|[".toList ∧ Text.isDigit c = false ∧ Text.isBlank c = false := by
  simpa [isStart, and_assoc] using start

/-- What is no blank is no indent. -/
theorem not_isIndent_of_not_isBlank {c : Char} (blank : Text.isBlank c = false) :
    Text.isIndent c = false := by
  rw [Bool.eq_false_iff]
  intro indent
  simp only [Text.isIndent, Bool.or_eq_true, beq_iff_eq] at indent
  rcases indent with rfl | rfl <;> simp [Text.isBlank] at blank

/-- A character that begins a row is no indent. -/
theorem not_isIndent_of_isStart {c : Char} (start : isStart c = true) :
    Text.isIndent c = false := not_isIndent_of_not_isBlank (isStart_facts start).2.2

/-- A filled row begins with a character that can begin a row, which tells tags. -/
theorem Row.Plain.text_eq_cons {row : Row} (plain : row.Plain) (filled : row.isFilled = true) :
    ∃ c rest, row.text = c :: rest ∧ isStart c = true ∧ (row.isTag = true ↔ c = '<') := by
  cases row with
  | opens className => exact ⟨'<', _, rfl, by decide, by simp [Row.isTag]⟩
  | closes => exact ⟨'<', _, rfl, by decide, by simp [Row.isTag]⟩
  | words line =>
    obtain ⟨c, rest, rfl, start⟩ := PlainLine.first plain
    refine ⟨c, rest, rfl, start, ?_⟩
    have char := PlainLine.chars plain c List.mem_cons_self
    simp only [Row.isTag, Bool.false_eq_true, false_iff]
    rintro rfl
    cases char
  | blank => cases filled

/-! ## Lines -/

/-- Lines that spell a row. -/
structure LineOf (line : Line) (row : Row) : Prop where
  spelled : ∃ pad, Spaces pad ∧ line.text = row.text ++ pad
  blank : row.isFilled = false → line.isEmpty = true
  filled : row.isFilled = true → line.shift = 0 ∧ line.column = 0

/-- Indentation is that of the spaces in front of a text. -/
theorem indentation_spaces {pad : Text} (spaces : Spaces pad) (column : Int) :
    (indentation 0 column pad).2 = pad.length := by
  induction pad generalizing column with
  | nil => rfl
  | cons c pad ih =>
    obtain rfl := spaces c List.mem_cons_self
    rw [indentation]
    exact congrArg (· + 1) (ih (fun d mem => spaces d (List.mem_cons_of_mem _ mem)) _)

/-- A row is not indented. -/
theorem indentation_start {c : Char} (start : isStart c = true) (rest : Text) :
    indentation 0 0 (c :: rest) = (0, 0) := by
  have indent := not_isIndent_of_isStart start
  simp only [Text.isIndent, Bool.or_eq_false_iff, beq_eq_false_iff_ne] at indent
  unfold indentation
  split
  · rename_i same
    exact absurd (List.cons.inj same).1 indent.2
  · rename_i same
    exact absurd (List.cons.inj same).1 indent.1
  · rfl

/-- The line of the text of a row, with spaces behind it, is a line of the row. -/
theorem lineOf_of {row : Row} (plain : row.Plain) {pad : Text} (spaces : Spaces pad)
    (isLast : Bool) : LineOf (Line.of isLast (row.text ++ pad)) row := by
  refine ⟨⟨pad, spaces, rfl⟩, ?_, ?_⟩
  · intro blank
    cases row with
    | blank =>
      change decide (pad.length ≤ (indentation 0 0 pad).2) = true
      rw [indentation_spaces spaces]
      exact decide_eq_true (Nat.le_refl _)
    | _ => cases blank
  · intro filled
    obtain ⟨c, rest, begins, start, -⟩ := plain.text_eq_cons filled
    rw [begins, List.cons_append, Line.of, indentation_start start]
    exact ⟨rfl, rfl⟩

/-! ## Characters of rows -/

/-- Characters that no row has: line ends, what is read as other characters, and braces. -/
def strangers : Text := "\n\r\x00\x7b".toList

/-- Tags have no characters that are foreign to rows. -/
theorem strangers_not_mem_tags {c : Char} (stranger : c ∈ strangers) :
    c ∉ openingFront ∧ c ∉ openingBack ∧ c ∉ closingTag := by
  have all : strangers.all (fun c => decide (c ∉ openingFront ∧ c ∉ openingBack ∧
      c ∉ closingTag)) = true := by
    decide +kernel
  exact of_decide_eq_true (List.all_eq_true.mp all c stranger)

/-- Foreign characters stand neither in plain text nor in classes. -/
theorem strangers_not_plain {c : Char} (stranger : c ∈ strangers) :
    isPlainChar c = false ∧ isClassChar c = false := by
  have all : strangers.all (fun c => !isPlainChar c && !isClassChar c) = true := by
    decide +kernel
  simpa using List.all_eq_true.mp all c stranger

/-- No foreign character stands in a plain row. -/
theorem Row.Plain.not_mem {row : Row} (plain : row.Plain) {c : Char} (stranger : c ∈ strangers) :
    c ∉ row.text := by
  obtain ⟨notFront, notBack, notEnd⟩ := strangers_not_mem_tags stranger
  obtain ⟨notPlain, notClass⟩ := strangers_not_plain stranger
  intro mem
  cases row with
  | opens className =>
    rcases List.mem_append.mp mem with front | behind
    · exact notFront front
    · rcases List.mem_append.mp behind with inside | back
      · exact Bool.false_ne_true (notClass.symm.trans (plain c inside))
      · exact notBack back
  | closes => exact notEnd mem
  | words line => exact Bool.false_ne_true (notPlain.symm.trans (PlainLine.chars plain c mem))
  | blank => cases mem

/-- Nothing but spaces is among spaces. -/
theorem Spaces.not_mem {pad : Text} (spaces : Spaces pad) {c : Char} (other : c ≠ ' ') :
    c ∉ pad := fun mem => other (spaces c mem)

/-- Spaces are blanks. -/
theorem Spaces.isBlank {pad : Text} (spaces : Spaces pad) : ∀ c ∈ pad, Text.isBlank c = true := by
  intro c mem
  rw [spaces c mem]
  rfl

/-- No line of a printed text has a line end inside. -/
theorem newline_not_mem {row : Row} (plain : row.Plain) {pad : Text} (spaces : Spaces pad) :
    '\n' ∉ row.text ++ pad := by
  rw [List.mem_append, not_or]
  exact ⟨plain.not_mem (by decide), spaces.not_mem (by decide)⟩

/-- A printed text has no characters but those of its rows, spaces and line ends. -/
theorem Printed.not_mem {text : Text} {rows : List Row} (printed : Printed text rows)
    (plain : ∀ row ∈ rows, row.Plain) {c : Char} (stranger : c ∈ strangers) (other : c ≠ '\n') :
    c ∉ text := by
  have notSpace : c ≠ ' ' := by
    rintro rfl
    exact absurd stranger (by decide)
  induction printed with
  | nil => exact List.not_mem_nil
  | last row pad spaces =>
    rw [List.mem_append, not_or]
    exact ⟨(plain row List.mem_cons_self).not_mem stranger, spaces.not_mem notSpace⟩
  | line row pad spaces behind ih =>
    have later := ih fun other mem => plain other (List.mem_cons_of_mem row mem)
    rw [List.mem_append, List.mem_append, List.mem_cons, not_or, not_or, not_or]
    exact ⟨⟨(plain row List.mem_cons_self).not_mem stranger, spaces.not_mem notSpace⟩, other,
      later⟩

/-! ## Lines of printed texts -/

/-- Lines that spell rows. A last row that is blank need not have a line. -/
inductive LinesOf : List Line → List Row → Prop
  | nil : LinesOf [] []
  | ended : LinesOf [] [.blank]
  | cons {line : Line} {row : Row} {lines : List Line} {rows : List Row}
      (spelled : LineOf line row) (ends : line.isLast = true → row.isFilled = true ∧ rows = [])
      (behind : LinesOf lines rows) : LinesOf (line :: lines) (row :: rows)

/-- A row with spaces behind it is nothing but indents if the row is blank. -/
theorem allIndent_iff {row : Row} (plain : row.Plain) {pad : Text} (spaces : Spaces pad) :
    (row.text ++ pad).all Text.isIndent = true ↔ row.isFilled = false := by
  cases filled : row.isFilled with
  | true =>
    obtain ⟨c, rest, begins, start, -⟩ := plain.text_eq_cons filled
    rw [begins, List.cons_append, List.all_cons, not_isIndent_of_isStart start, Bool.false_and]
    simp
  | false =>
    cases row with
    | blank =>
      refine ⟨fun _ => rfl, fun _ => List.all_eq_true.mpr fun c mem => ?_⟩
      rw [spaces c mem]
      rfl
    | _ => cases filled

/-- The lines of a printed text spell its rows. -/
theorem Printed.linesOf {text : Text} {rows : List Row} (printed : Printed text rows)
    (plain : ∀ row ∈ rows, row.Plain) :
    LinesOf (Markdown.linesOf (Text.splitOn '\n' text)) rows := by
  induction printed with
  | nil => exact .nil
  | last row pad spaces =>
    have own := plain row List.mem_cons_self
    rw [Text.splitOn_of_not_mem (newline_not_mem own spaces), Markdown.linesOf]
    cases filled : row.isFilled with
    | true =>
      rw [if_neg (by rw [allIndent_iff own spaces, filled]; simp)]
      exact .cons (lineOf_of own spaces true) (fun _ => ⟨filled, rfl⟩) .nil
    | false =>
      rw [if_pos ((allIndent_iff own spaces).mpr filled)]
      cases row with
      | blank => exact .ended
      | _ => cases filled
  | @line row pad spaces text rows behind ih =>
    have own := plain row List.mem_cons_self
    have later := ih fun other mem => plain other (List.mem_cons_of_mem row mem)
    rw [Text.splitOn_append_cons (newline_not_mem own spaces)]
    cases pieces : Text.splitOn '\n' text with
    | nil => exact absurd pieces (Text.splitOn_ne_nil '\n' text)
    | cons piece more =>
      rw [pieces] at later
      exact .cons (lineOf_of own spaces false) (fun isLast => by cases isLast) later

/-- A text without carriage returns and nulls is read as it stands. -/
theorem normalText_eq_self {text : Text} (noReturn : '\r' ∉ text) (noNull : '\x00' ∉ text) :
    normalText text = text := by
  rw [normalText, Text.unifyNewlines_of_not_mem noReturn]
  conv_rhs => rw [← List.map_id text]
  refine List.map_congr_left fun c mem => if_neg ?_
  rw [beq_iff_eq]
  rintro rfl
  exact noNull mem

/-- The lines of a text that spells rows are lines of the rows. -/
theorem lines_of_printed {text : Text} {rows : List Row} (printed : Printed text rows)
    (plain : ∀ row ∈ rows, row.Plain) : LinesOf (lines text) rows := by
  have noReturn := printed.not_mem plain (c := '\r') (by decide) (by decide)
  have noNull := printed.not_mem plain (c := '\x00') (by decide) (by decide)
  rw [lines, normalText_eq_self noReturn noNull]
  exact printed.linesOf plain

/-! ## Documents as typed -/

/-- No row opens or closes code between fences. -/
theorem Row.Plain.isFenceLine {row : Row} (plain : row.Plain) : isFenceLine row.text = false := by
  cases filled : row.isFilled with
  | true =>
    obtain ⟨c, rest, begins, start, -⟩ := plain.text_eq_cons filled
    obtain ⟨notMark, -, notBlank⟩ := isStart_facts start
    have notTick : '\x60' ≠ c := by
      rintro rfl
      exact notMark (by decide)
    rw [Markdown.isFenceLine, begins, Text.trimStart,
      List.dropWhile_cons_of_neg (by simp [notBlank]), Text.after?, if_neg (by simpa using notTick)]
    rfl
  | false =>
    cases row with
    | blank => rfl
    | _ => cases filled

/-- Breaking a line adds nothing but spaces to it. -/
theorem breakLine_spaces (line next : Text) :
    ∃ pad, Spaces pad ∧ breakLine line next = line ++ pad := by
  rw [breakLine]
  split
  · refine ⟨[' ', ' '], ?_, rfl⟩
    simp [Spaces]
  · exact ⟨[], by simp [Spaces], (List.append_nil line).symm⟩

/-- A line has at least one line with breaks. -/
theorem breakLines_ne_nil (fenced : Bool) (line : Text) (lines : List Text) :
    breakLines fenced (line :: lines) ≠ [] := by
  cases lines with
  | nil => simp [breakLines]
  | cons next lines =>
    rw [breakLines]
    split
    · simp
    · split <;> simp

/-- Line breaks are spaces at the ends of the lines. -/
theorem breakLines_printed (row : Row) (rows : List Row)
    (plain : ∀ other ∈ row :: rows, other.Plain) :
    Printed (Text.joinWith ['\n'] (breakLines false ((row :: rows).map Row.text)))
      (row :: rows) := by
  induction rows generalizing row with
  | nil =>
    have printed := Printed.last row [] (by simp [Spaces])
    rwa [List.append_nil] at printed
  | cons next rows ih =>
    have later := ih next fun other mem => plain other (List.mem_cons_of_mem row mem)
    obtain ⟨pad, spaces, broken⟩ := breakLine_spaces row.text next.text
    have behind : breakLines false ((next :: rows).map Row.text) ≠ [] := breakLines_ne_nil _ _ _
    have lines : breakLines false ((row :: next :: rows).map Row.text) =
        (row.text ++ pad) :: breakLines false ((next :: rows).map Row.text) := by
      rw [List.map_cons, List.map_cons, breakLines,
        if_neg (by simp [(plain row List.mem_cons_self).isFenceLine]), if_neg (by simp), broken]
    rw [lines, Text.joinWith_cons behind, List.append_assoc _ ['\n']]
    exact .line row pad spaces later

/-- The text of a document that Markdown is read from spells the rows of the document. -/
theorem withLineBreaks_printed {rows : List Row} (plain : ∀ row ∈ rows, row.Plain) :
    Printed (withLineBreaks (contentOf rows)) rows := by
  cases rows with
  | nil => exact .nil
  | cons row rows =>
    have free : ∀ line ∈ (row :: rows).map Row.text, '\n' ∉ line := by
      intro line mem
      obtain ⟨other, memRow, rfl⟩ := List.mem_map.mp mem
      exact (plain other memRow).not_mem (by decide)
    rw [withLineBreaks, contentOf, Text.splitOn_joinWith (by simp) free]
    exact breakLines_printed row rows plain

/-- A document has no characters but those of its rows and line ends. -/
theorem contentOf_not_mem {rows : List Row} (plain : ∀ row ∈ rows, row.Plain) {c : Char}
    (stranger : c ∈ strangers) (other : c ≠ '\n') : c ∉ contentOf rows := by
  intro mem
  rcases Text.mem_joinWith mem with between | ⟨line, memLine, inside⟩
  · exact other (List.mem_singleton.mp between)
  · obtain ⟨row, memRow, rfl⟩ := List.mem_map.mp memLine
    exact (plain row memRow).not_mem stranger inside

end Loremark.Markdown
