import Loremark.Proofs.Markdown.LastLine
import Loremark.Proofs.Markdown.TrailingSpaces

/-!
# Lines with and without spaces behind them

Two lines are `Alike` if one of them is the other with spaces behind its content. Cutting off a
quote marker or the marker of a list item keeps them alike, even where nothing but the spaces is
left. A `Twin` holds two such lines, of which a choice picks one, and no test on a line tells
which one was picked.
-/

set_option autoImplicit false

namespace Loremark.Markdown

variable {pad : Text}

/-- No characters are spaces. -/
theorem spaces_nil : Spaces [] := List.forall_mem_nil _

/-- The characters of spaces are spaces. -/
theorem Spaces.of_cons {c : Char} (spaces : Spaces (c :: pad)) : c = ' ' ∧ Spaces pad :=
  List.forall_mem_cons.mp spaces

/-- A space that is repeated makes spaces. -/
theorem spaces_replicate (count : Nat) : Spaces (List.replicate count ' ') :=
  fun _ mem => List.eq_of_mem_replicate mem

/-! ## Indentation and what is cut off of it -/

/-- A gap is an indent in front of a gap. -/
theorem isGap_cons (c : Char) (text : Text) :
    isGap (c :: text) = (Text.isIndent c && isGap text) := rfl

/-- The indentation of a gap is all of it. -/
theorem indentation_gap {text : Text} (gap : isGap text = true) (origin column : Int) :
    (indentation origin column text).2 = text.length := by
  induction text generalizing column with
  | nil => simp [indentation]
  | cons c text ih =>
    rw [isGap_cons, Bool.and_eq_true] at gap
    have isIndent : c = '\t' ∨ c = ' ' := by
      simpa [Text.isIndent, or_comm] using gap.1
    rcases isIndent with rfl | rfl
    · simp [indentation, ih gap.2]
    · simp [indentation, ih gap.2]

/-- The indentation of a text with something in it does not reach the spaces behind it. -/
theorem indentation_solid {text : Text} (solid : isGap text = false) (origin column : Int)
    (pad : Text) : indentation origin column (text ++ pad) = indentation origin column text := by
  induction text generalizing column with
  | nil => cases solid
  | cons c text ih =>
    by_cases tab : c = '\t'
    · subst tab
      simp [indentation, ih (by simpa [isGap_cons, Text.isIndent] using solid)]
    · by_cases space : c = ' '
      · subst space
        simp [indentation, ih (by simpa [isGap_cons, Text.isIndent] using solid)]
      · simp [indentation, tab, space]

/-- The indentation of a text with something in it is shorter than the text. -/
theorem indentation_solid_lt {text : Text} (solid : isGap text = false) (origin column : Int) :
    (indentation origin column text).2 < text.length := by
  induction text generalizing column with
  | nil => cases solid
  | cons c text ih =>
    by_cases tab : c = '\t'
    · subst tab
      simp [indentation, ih (by simpa [isGap_cons, Text.isIndent] using solid)]
    · by_cases space : c = ' '
      · subst space
        simp [indentation, ih (by simpa [isGap_cons, Text.isIndent] using solid)]
      · simp [indentation, tab, space]

/-- Cutting indentation off spaces leaves what it leaves of an empty line, and spaces. -/
theorem cut_spaces (spaces : Spaces pad) (origin width column : Int) (shift : Nat) :
    ∃ others, Spaces others ∧
      cut origin width column shift pad = cut origin width column 0 [] ++ others := by
  induction pad generalizing column shift with
  | nil => exact ⟨[], spaces_nil, by simp [cut]⟩
  | cons c pad ih =>
    obtain ⟨rfl, behind⟩ := spaces.of_cons
    by_cases before : column < width
    · obtain ⟨others, more, same⟩ := ih behind (column + 1) (shift - 1)
      refine ⟨others, more, ?_⟩
      have none : (column + 1 - width).toNat = 0 := by omega
      have less : (column - width).toNat = 0 := by omega
      simpa [cut, before, none, less] using same
    · exact ⟨' ' :: pad, spaces, by simp [cut, before]⟩

/-- What is cut off of a text does not depend on spaces behind it. Where the indentation takes the
whole text, it may be longer with the spaces than without. -/
theorem cut_behind (spaces : Spaces pad) (origin width column : Int) {shift other : Nat}
    {text : Text} (shifts : shift = other ∨ text.length ≤ shift ∧ text.length ≤ other) :
    ∃ others, Spaces others ∧ cut origin width column other (text ++ pad) =
      cut origin width column shift text ++ others := by
  induction text generalizing column shift other with
  | nil =>
    obtain ⟨others, more, same⟩ := cut_spaces spaces origin width column other
    exact ⟨others, more, by simpa [cut] using same⟩
  | cons c text ih =>
    have behind : shift - 1 = other - 1 ∨ text.length ≤ shift - 1 ∧ text.length ≤ other - 1 := by
      simp only [List.length_cons] at shifts
      omega
    have positive : 0 < other ↔ 0 < shift := by
      simp only [List.length_cons] at shifts
      omega
    by_cases before : column < width
    · by_cases tab : c = '\t'
      · simpa [cut, before, tab] using ih _ behind
      · by_cases skipped : c = ' ' ∨ 0 < shift
        · simpa [cut, before, tab, positive, skipped] using ih (column + 1) behind
        · refine ⟨pad, spaces, ?_⟩
          simp [cut, before, tab, positive, skipped]
    · exact ⟨pad, spaces, by simp [cut, before]⟩

/-! ## Alike lines -/

/-- A line, and the same line with spaces behind its content. None stand behind a backslash, nor
at the end of the text. -/
structure Alike (line other : Line) : Prop where
  isLast : other.isLast = line.isLast
  isEmpty : other.isEmpty = line.isEmpty
  filled : line.isEmpty = false → ∃ pad, Spaces pad ∧ other = line.padded pad ∧
    (line.text.getLast? = some '\\' → pad = [])
  last : line.isLast = true → other = line
  cut : ∀ width, ∃ pad, Spaces pad ∧ other.cut width = line.cut width ++ pad
  oneLine : '\n' ∉ line.text ∧ '\n' ∉ other.text

/-- A line is like itself. -/
theorem Alike.refl {line : Line} (oneLine : '\n' ∉ line.text) : Alike line line where
  isLast := rfl
  isEmpty := rfl
  filled _ := ⟨[], spaces_nil, by simp [Line.padded], fun _ => rfl⟩
  last _ := rfl
  cut _ := ⟨[], spaces_nil, by simp⟩
  oneLine := ⟨oneLine, oneLine⟩

/-- No line end is among spaces. -/
theorem Spaces.newline_not_mem (spaces : Spaces pad) : '\n' ∉ pad := by
  intro mem
  exact absurd (spaces _ mem) (by decide)

/-- A filled line is like the same line with spaces behind it. -/
theorem alike_padded {line : Line} (spaces : Spaces pad) (oneLine : '\n' ∉ line.text)
    (filled : line.isEmpty = false) (escaped : line.text.getLast? = some '\\' → pad = [])
    (last : line.isLast = true → pad = []) : Alike line (line.padded pad) where
  isLast := rfl
  isEmpty := by rw [filled, isEmpty_padded filled]
  filled _ := ⟨pad, spaces, rfl, escaped⟩
  last ends := by simp [Line.padded, last ends]
  cut width := cut_behind spaces line.origin width 0 (.inl rfl)
  oneLine := ⟨oneLine, by simpa [Line.padded, oneLine] using spaces.newline_not_mem⟩

/-- Lines without content are alike wherever that content would begin. -/
theorem alike_empty {line other : Line} (spaces : Spaces pad) (oneLine : '\n' ∉ line.text)
    (text : other.text = line.text ++ pad) (origin : other.origin = line.origin)
    (isLast : other.isLast = line.isLast) (last : line.isLast = true → other = line)
    (empty : line.isEmpty = true) (otherEmpty : other.isEmpty = true) : Alike line other where
  isLast := isLast
  isEmpty := by rw [empty, otherEmpty]
  filled full := by
    rw [empty] at full
    cases full
  last := last
  cut width := by
    have length : line.text.length ≤ line.shift := by simpa [Line.isEmpty] using empty
    have otherLength : other.text.length ≤ other.shift := by simpa [Line.isEmpty] using otherEmpty
    rw [text, List.length_append] at otherLength
    rw [Line.cut, Line.cut, text, origin]
    exact cut_behind spaces line.origin width 0 (.inr ⟨length, by omega⟩)
  oneLine := ⟨oneLine, by simpa [text, oneLine] using spaces.newline_not_mem⟩

/-! ## Cutting off markers -/

/-- What ends an end of a text ends the text. -/
theorem getLast?_of_suffix {part whole : Text} {c : Char} (suffix : part <:+ whole)
    (ends : part.getLast? = some c) : whole.getLast? = some c := by
  obtain ⟨front, rfl⟩ := suffix
  simp [List.getLast?_append, ends]

/-- A text put in the place of a line is like the same text with spaces behind it. -/
theorem alike_place {line : Line} {text : Text} (spaces : Spaces pad) (oneLine : '\n' ∉ text)
    (escaped : text.getLast? = some '\\' → pad = []) (last : line.isLast = true → pad = [])
    (start origin shifted : Int) :
    Alike (unquoted.place line text start origin shifted)
      (unquoted.place line (text ++ pad) start origin shifted) := by
  by_cases gap : isGap text = true
  · have whole : isGap (text ++ pad) = true := by rw [isGap_spaces spaces, gap]
    refine alike_empty spaces oneLine rfl rfl rfl (fun ends => ?_) ?_ ?_
    · rw [last ends, List.append_nil]
    · simp [unquoted.place, Line.isEmpty, indentation_gap gap]
    · simp [unquoted.place, Line.isEmpty, indentation_gap whole]
  · rw [Bool.not_eq_true] at gap
    have same : unquoted.place line (text ++ pad) start origin shifted =
        (unquoted.place line text start origin shifted).padded pad := by
      simp [unquoted.place, Line.padded, indentation_solid gap]
    rw [same]
    refine alike_padded spaces oneLine ?_ escaped last
    rw [Line.isEmpty, decide_eq_false_iff_not, Nat.not_le]
    exact indentation_solid_lt gap _ _

/-- A line with something in its content is not empty. -/
theorem isEmpty_of_content {line : Line} {c : Char} {rest : Text}
    (content : line.content = c :: rest) : line.isEmpty = false := by
  by_contra empty
  rw [Bool.not_eq_false, isEmpty_iff, content] at empty
  cases empty

/-- What is left of alike lines behind their quote markers is alike. -/
theorem Alike.unquoted {line other : Line} (alike : Alike line other)
    (marked : line.content.head? = some '>') : Alike (unquoted line) (unquoted other) := by
  obtain ⟨rest, content⟩ : ∃ rest, line.content = '>' :: rest := by
    cases content : line.content with
    | nil => simp [content] at marked
    | cons c rest => exact ⟨rest, by simpa [content] using marked⟩
  have filled := isEmpty_of_content content
  obtain ⟨pad, spaces, rfl, escaped⟩ := alike.filled filled
  have last : line.isLast = true → pad = [] := fun ends => by
    simpa [Line.padded] using congrArg Line.text (alike.last ends)
  have part : rest <:+ line.text :=
    (List.suffix_cons '>' rest).trans (content ▸ content_suffix line)
  -- What is left is a part of the line, and the spaces behind it.
  have placed {text : Text} (part : text <:+ line.text) (start origin shifted : Int) :
      Alike (unquoted.place line text start origin shifted)
        (unquoted.place (line.padded pad) (text ++ pad) start origin shifted) :=
    alike_place spaces (fun mem => alike.oneLine.1 (part.mem mem))
      (fun ends => escaped (getLast?_of_suffix part ends)) last start origin shifted
  have padded : (line.padded pad).content = '>' :: (rest ++ pad) := by
    rw [content_padded filled, content, List.cons_append]
  cases rest with
  | nil =>
    cases pad with
    | nil => simpa [Markdown.unquoted, content, padded] using placed part _ _ _
    | cons c pad =>
      -- The first of the spaces goes with the marker.
      obtain ⟨rfl, behind⟩ := spaces.of_cons
      have gap : isGap pad = true := isGap_spaces behind []
      simp only [Markdown.unquoted, content, padded, padded_column, List.drop_succ_cons,
        List.drop_zero, List.nil_append]
      refine ⟨rfl, ?_, fun full => ?_, fun ends => ?_, fun width => ?_, by simp [unquoted.place],
        behind.newline_not_mem⟩
      · simp [unquoted.place, Line.isEmpty, indentation_gap gap]
      · simp [unquoted.place, Line.isEmpty] at full
      · cases last ends
      · obtain ⟨others, more, same⟩ := cut_spaces behind (line.column + 1 + 1) width 0 _
        exact ⟨others, more, same.trans (by simp [unquoted.place, Line.cut, Markdown.cut])⟩
  | cons c rest =>
    have behind := (List.suffix_cons c rest).trans part
    by_cases space : c = ' '
    · subst space
      simpa [Markdown.unquoted, content, padded] using placed behind _ _ _
    · by_cases tab : c = '\t'
      · subst tab
        by_cases narrow : (line.origin + (line.column + 1)) % 4 = 3
        · simpa [Markdown.unquoted, content, padded, narrow] using placed behind _ _ _
        · simpa [Markdown.unquoted, content, padded, narrow] using placed part _ _ _
      · simpa [Markdown.unquoted, content, padded, space, tab] using placed part _ _ _

/-- A line that goes on a paragraph is marked by its column only. -/
theorem Alike.continued {line other : Line} (alike : Alike line other)
    (filled : line.isEmpty = false) :
    Alike { line with column := -1 } { other with column := -1 } := by
  obtain ⟨pad, spaces, rfl, escaped⟩ := alike.filled filled
  have last : line.isLast = true → pad = [] := fun ends => by
    simpa [Line.padded] using congrArg Line.text (alike.last ends)
  exact alike_padded spaces alike.oneLine.1 filled escaped last

/-- The column of the content of a list item, given its first line without the marker. -/
theorem itemLine_snd (line : Line) (width : Nat) : (itemLine line width).2 =
    line.column + width +
      (if (itemLine line width).1.isEmpty ||
        4 < (itemLine line width).1.column - (line.column + width) then 1
      else (itemLine line width).1.column - (line.column + width)) := rfl

/-- The lines of list items are alike without their markers, and the content of the items begins
in the same column. -/
theorem Alike.itemLine {line other : Line} {width : Nat} (alike : Alike line other)
    (filled : line.isEmpty = false) (short : width ≤ line.content.length) :
    Alike (itemLine line width).1 (itemLine other width).1 ∧
      (itemLine other width).2 = (itemLine line width).2 := by
  obtain ⟨pad, spaces, rfl, escaped⟩ := alike.filled filled
  have last : line.isLast = true → pad = [] := fun ends => by
    simpa [Line.padded] using congrArg Line.text (alike.last ends)
  have behind : (line.padded pad).content.drop width = line.content.drop width ++ pad := by
    rw [content_padded filled, List.drop_append_of_le_length short]
  have length : line.text.length = line.shift + line.content.length := by
    have whole : line.shift < line.text.length := by simpa [Line.isEmpty] using filled
    rw [Line.content, List.length_drop]
    omega
  -- Behind the marker there is a gap and both lines are empty, or the spaces follow something.
  by_cases gap : isGap (line.content.drop width) = true
  · have whole : isGap (line.content.drop width ++ pad) = true := by rw [isGap_spaces spaces, gap]
    have empty : (Markdown.itemLine line width).1.isEmpty = true := by
      simp [Markdown.itemLine, Line.isEmpty, indentation_gap gap]
      omega
    have otherEmpty : (Markdown.itemLine (line.padded pad) width).1.isEmpty = true := by
      simp [Markdown.itemLine, Line.isEmpty, behind, indentation_gap whole]
      simp [Line.padded]
      omega
    refine ⟨alike_empty spaces alike.oneLine.1 rfl rfl rfl (fun ends => ?_) empty otherEmpty, ?_⟩
    · rw [last ends, Line.padded, List.append_nil]
    · rw [itemLine_snd, itemLine_snd, empty, otherEmpty]
      rfl
  · rw [Bool.not_eq_true] at gap
    have same : (Markdown.itemLine (line.padded pad) width).1 =
        (Markdown.itemLine line width).1.padded pad := by
      simp only [Markdown.itemLine, behind, padded_origin, padded_column, indentation_solid gap]
      rfl
    have full : (Markdown.itemLine line width).1.isEmpty = false := by
      have less := indentation_solid_lt gap line.origin (line.column + width)
      rw [List.length_drop] at less
      rw [Line.isEmpty, decide_eq_false_iff_not, Nat.not_le]
      show line.shift + width + _ < line.text.length
      omega
    refine ⟨same ▸ alike_padded spaces alike.oneLine.1 full escaped last, ?_⟩
    rw [itemLine_snd, itemLine_snd, same, isEmpty_padded full, full]
    rfl

/-! ## Tests on lines -/

namespace Alike

variable {frame : Frame} {line other : Line}

/-- A test that neither spaces behind the content change, nor anything about a line without
content. -/
theorem test {α : Type} {f : Line → α} (alike : Alike line other)
    (padded : ∀ pad, Spaces pad → line.isEmpty = false → f (line.padded pad) = f line)
    (empty : line.content = [] → other.content = [] → f other = f line) : f other = f line := by
  cases filled : line.isEmpty with
  | false =>
    obtain ⟨pad, spaces, rfl, -⟩ := alike.filled filled
    exact padded pad spaces filled
  | true =>
    exact empty ((isEmpty_iff _).mp filled) ((isEmpty_iff _).mp (alike.isEmpty.trans filled))

/-- Lines that are alike begin in the same column. -/
theorem column (alike : Alike line other) (filled : line.isEmpty = false) :
    other.column = line.column := by
  obtain ⟨pad, -, rfl, -⟩ := alike.filled filled
  rfl

/-- Lines that are alike are both indented code, or neither is. -/
theorem isCode (alike : Alike line other) (filled : line.isEmpty = false) :
    frame.isCode other = frame.isCode line := by
  rw [Frame.isCode, Frame.isCode, alike.column filled]

/-- Lines that are alike begin the same fence, up to what stands behind it. -/
theorem fence? (alike : Alike line other) (frame : Frame) :
    (fence? frame other).map (fun fence => (fence.marker, fence.length)) =
      (fence? frame line).map fun fence => (fence.marker, fence.length) :=
  alike.test (f := fun line => (Markdown.fence? frame line).map fun fence =>
    (fence.marker, fence.length))
    (fun _ spaces filled => fence?_padded spaces filled)
    (fun none otherNone => by simp [Markdown.fence?, none, otherNone])

/-- Lines that are alike both close a fence, or neither does. -/
theorem closesRun (alike : Alike line other) {marker : Char} (solid : marker ≠ ' ')
    (length : Nat) : closesRun frame marker length other = closesRun frame marker length line :=
  alike.test (fun _ spaces filled => closesRun_padded spaces filled solid length)
    (fun none otherNone => by simp [Markdown.closesRun, runOf, none, otherNone])

/-- Lines that are alike begin the same container, up to what stands behind it. -/
theorem container? (alike : Alike line other) (frame : Frame) :
    (container? frame other).map Prod.fst = (container? frame line).map Prod.fst :=
  alike.test (f := fun line => (Markdown.container? frame line).map Prod.fst)
    (fun _ spaces filled => container?_padded spaces filled)
    (fun none otherNone => by simp [Markdown.container?, runOf, none, otherNone])

/-- Lines that are alike are both quoted, or neither is. -/
theorem isQuoted (alike : Alike line other) : isQuoted frame other = isQuoted frame line :=
  alike.test (fun _ _ filled => isQuoted_padded filled)
    (fun none otherNone => by simp [Markdown.isQuoted, none, otherNone])

/-- Lines that are alike are both rules, or neither is. -/
theorem isRule (alike : Alike line other) : isRule frame other = isRule frame line :=
  alike.test (fun _ spaces filled => isRule_padded spaces filled)
    (fun none otherNone => by simp [Markdown.isRule, none, otherNone])

/-- Lines that are alike are both headings, or neither is. -/
theorem heading? (alike : Alike line other) :
    (heading? frame other).isSome = (heading? frame line).isSome :=
  alike.test (f := fun line => (Markdown.heading? frame line).isSome)
    (fun _ spaces filled => heading?_padded spaces filled)
    (fun none otherNone => by simp [Markdown.heading?, runOf, none, otherNone])

/-- Lines that are alike underline the same. -/
theorem underline? (alike : Alike line other) : underline? other = underline? line :=
  alike.test (fun _ spaces filled => underline?_padded spaces filled)
    (fun none otherNone => by simp [Markdown.underline?, none, otherNone])

/-- Lines that are alike have the same mark of a list item. -/
theorem listMark? (alike : Alike line other) : listMark? other = listMark? line :=
  alike.test (fun _ spaces filled => listMark?_padded spaces filled)
    (fun none otherNone => by simp [Markdown.listMark?, none, otherNone])

/-- A line without content begins no list. -/
theorem list?_of_content (empty : line.content = []) : Markdown.list? frame line = none := by
  simp [Markdown.list?, Markdown.listMark?, empty]

/-- Lines that are alike begin the same list. -/
theorem list? (alike : Alike line other) : list? frame other = list? frame line :=
  alike.test (fun _ spaces filled => list?_padded spaces filled)
    (fun none otherNone => by rw [list?_of_content none, list?_of_content otherNone])

/-- Lines that are alike both interrupt a paragraph as lists, or neither does. -/
theorem listInterrupts (alike : Alike line other) :
    listInterrupts frame other = listInterrupts frame line :=
  alike.test (fun _ spaces filled => listInterrupts_padded spaces filled)
    (fun none otherNone => by
      simp [Markdown.listInterrupts, list?_of_content none, list?_of_content otherNone])

/-- Lines that are alike begin the same markup. -/
theorem html? (alike : Alike line other) : html? frame other = html? frame line :=
  alike.test (fun _ spaces filled => html?_padded spaces filled)
    (fun none otherNone => by
      have noForm : htmlForm? [] = .none := rfl
      rw [Markdown.html?, Markdown.html?, none, otherNone, noForm, ite_self, ite_self])

/-- Lines that are alike both end some markup, or neither does. -/
theorem endsIn (alike : Alike line other) (form : HtmlForm) :
    form.endsIn other.content = form.endsIn line.content :=
  alike.test (f := fun line => form.endsIn line.content)
    (fun _ spaces filled => by
      obtain ⟨c, text, content⟩ := content_eq_cons filled
      rw [content_padded filled, endsIn_spaces spaces form (content ▸ List.cons_ne_nil c text)])
    (fun none otherNone => by rw [none, otherNone])

/-- Lines that are alike are the same without their spaces. -/
theorem unspace (alike : Alike line other) :
    Text.unspace other.content = Text.unspace line.content :=
  alike.test (f := fun line => Text.unspace line.content)
    (fun _ spaces filled => by rw [content_padded filled, unspace_spaces spaces])
    (fun none otherNone => by rw [none, otherNone])

/-- Lines that are alike both begin with the mark of a quote, or neither does. -/
theorem isMarked (alike : Alike line other) :
    (other.content.head? == some '>') = (line.content.head? == some '>') :=
  alike.test (f := fun line => line.content.head? == some '>')
    (fun _ spaces filled => by rw [content_padded filled, head?_beq_spaces spaces (by decide)])
    (fun none otherNone => by rw [none, otherNone])

/-- Lines that are alike both end a list, or neither does. -/
theorem endsList (alike : Alike line other) : endsList frame other = endsList frame line := by
  have fence := congrArg Option.isSome (alike.fence? frame)
  have container := congrArg Option.isSome (alike.container? frame)
  rw [Option.isSome_map, Option.isSome_map] at fence container
  rw [Markdown.endsList, Markdown.endsList, fence, container, alike.isQuoted, alike.isRule]

/-- Lines that are alike both interrupt a paragraph as markup, or neither does. -/
theorem htmlInterrupts (alike : Alike line other) :
    htmlInterrupts frame other = htmlInterrupts frame line := by
  rw [Markdown.htmlInterrupts, Markdown.htmlInterrupts, alike.html?]

/-- Lines that are alike both end a quote, or neither does. -/
theorem endsQuote (alike : Alike line other) : endsQuote frame other = endsQuote frame line := by
  rw [Markdown.endsQuote, Markdown.endsQuote, alike.endsList, alike.list?, alike.htmlInterrupts,
    alike.heading?]

/-- Lines that are alike both end within some indentation, or neither does. -/
theorem endsWithin (alike : Alike line other) (width : Int) :
    other.endsWithin width = line.endsWithin width := by
  cases last : line.isLast with
  | false => simp [Line.endsWithin, alike.isLast, last]
  | true => rw [alike.last last]

/-- Lines that are alike both pass the test for containers, or neither does. -/
theorem checkContainer (alike : Alike line other) :
    checkContainer other = checkContainer line := by
  rw [Markdown.checkContainer, Markdown.checkContainer, alike.isEmpty, alike.isLast]

/-- Lines that are alike both pass the test for the end of a text, or neither does. -/
theorem checkEnd (alike : Alike line other) : checkEnd frame other = checkEnd frame line := by
  cases filled : line.isEmpty with
  | false => rw [Markdown.checkEnd, Markdown.checkEnd, alike.isCode filled, alike.checkContainer]
  | true =>
    cases last : line.isLast with
    | false =>
      have passes (line : Line) (goesOn : line.isLast = false) :
          Markdown.checkEnd frame line = .ok () := by
        simp [Markdown.checkEnd, Markdown.checkContainer, goesOn]
      rw [passes line last, passes other (alike.isLast.trans last)]
    | true => rw [alike.last last]

end Alike

end Loremark.Markdown
