import Loremark.Proofs.Markdown.Chunks

/-!
# How rows begin

Every test for the beginning of a block, on the line of a row. A plain line begins none of the
blocks that are told by their first character, and a tag begins markup.
-/

set_option autoImplicit false

namespace Loremark.Markdown

variable {line : Line} {row : Row} {lines : List Line} {rows : List Row}

/-! ## Content -/

/-- The line of a blank row is empty. -/
theorem LineOf.isEmpty_of_blank (spelled : LineOf line row) (blank : row.isFilled = false) :
    line.isEmpty = true ∧ line.content = [] := by
  have empty := spelled.blank blank
  exact ⟨empty, List.drop_eq_nil_of_le (of_decide_eq_true empty)⟩

/-- The content of a line that is more than blank, and its first character. -/
theorem LineOf.content_eq (spelled : LineOf line row) (plain : row.Plain)
    (filled : row.isFilled = true) :
    line.isEmpty = false ∧ ∃ pad, Spaces pad ∧ line.content = row.text ++ pad ∧
      ∃ c rest, line.content = c :: rest ∧ isStart c = true ∧ (row.isTag = true ↔ c = '<') := by
  obtain ⟨shift, -⟩ := spelled.filled filled
  obtain ⟨pad, spaces, text⟩ := spelled.spelled
  obtain ⟨c, rest, begins, start, tag⟩ := plain.text_eq_cons filled
  have content : line.content = row.text ++ pad := by rw [Line.content, shift, text, List.drop_zero]
  refine ⟨?_, pad, spaces, content, c, rest ++ pad, ?_, start, tag⟩
  · rw [Line.isEmpty, shift, text, begins]
    simp
  · rw [content, begins, List.cons_append]

/-- The line of a filled row is no indented code. -/
theorem LineOf.isCode (spelled : LineOf line row) (filled : row.isFilled = true) :
    Frame.isCode {} line = false := by
  obtain ⟨-, column⟩ := spelled.filled filled
  rw [Frame.isCode, column]
  rfl

/-- A line that begins with a character that can begin a row, without indentation. -/
structure StartsWith (line : Line) (c : Char) (rest : Text) : Prop where
  content : line.content = c :: rest
  start : isStart c = true
  isCode : Frame.isCode {} line = false

/-- The line of a filled row begins with a character that can begin a row, which tells tags. -/
theorem LineOf.startsWith (spelled : LineOf line row) (plain : row.Plain)
    (filled : row.isFilled = true) :
    ∃ c rest, StartsWith line c rest ∧ (row.isTag = true ↔ c = '<') := by
  obtain ⟨-, -, -, -, c, rest, content, start, tag⟩ := spelled.content_eq plain filled
  exact ⟨c, rest, ⟨content, start, spelled.isCode filled⟩, tag⟩

/-! ## Tests -/

section Tests

variable {c : Char} {rest : Text}

/-- No character that begins a row is a mark of another block. -/
theorem beq_of_isStart (start : isStart c = true) (mark : Char)
    (isMark : mark ∈ "~\x60:>*-_#=+|[".toList) : (c == mark) = false := by
  obtain ⟨notMark, -, -⟩ := isStart_facts start
  rw [beq_eq_false_iff_ne]
  rintro rfl
  exact notMark isMark

/-- The line of a row begins with no run of marks. -/
theorem StartsWith.runOf (starts : StartsWith line c rest) (mark : Char)
    (isMark : mark ∈ "~\x60:>*-_#=+|[".toList) : (runOf mark line.content).1 = 0 := by
  have other := beq_of_isStart starts.start mark isMark
  rw [Markdown.runOf, starts.content, List.takeWhile_cons_of_neg (by simp [other])]
  rfl

/-- The line of a row begins no fence. -/
theorem StartsWith.fence? (starts : StartsWith line c rest) : fence? {} line = none := by
  have tilde := beq_of_isStart starts.start '~' (by decide)
  have tick := beq_of_isStart starts.start '\x60' (by decide)
  rw [Markdown.fence?, starts.isCode, if_neg Bool.false_ne_true, starts.content]
  simp [tilde, tick]

/-- The line of a row begins no container. -/
theorem StartsWith.container? (starts : StartsWith line c rest) :
    container? {} line = none := by
  have run := starts.runOf ':' (by decide)
  simp [Markdown.container?, run]

/-- The line of a row is not quoted. -/
theorem StartsWith.isQuoted (starts : StartsWith line c rest) : isQuoted {} line = false := by
  have quote := beq_of_isStart starts.start '>' (by decide)
  rw [Markdown.isQuoted, starts.content]
  simpa using fun _ => ne_of_beq_false quote

/-- The line of a row is no rule. -/
theorem StartsWith.isRule (starts : StartsWith line c rest) : isRule {} line = false := by
  have star := beq_of_isStart starts.start '*' (by decide)
  have dash := beq_of_isStart starts.start '-' (by decide)
  have low := beq_of_isStart starts.start '_' (by decide)
  rw [Markdown.isRule, starts.content]
  simp [star, dash, low]

/-- The line of a row is no heading. -/
theorem StartsWith.heading? (starts : StartsWith line c rest) : heading? {} line = none := by
  have run := starts.runOf '#' (by decide)
  simp [Markdown.heading?, run]

/-- The line of a row underlines nothing. -/
theorem StartsWith.underline? (starts : StartsWith line c rest) : underline? line = none := by
  have equals := beq_of_isStart starts.start '=' (by decide)
  have dash := beq_of_isStart starts.start '-' (by decide)
  rw [Markdown.underline?, starts.content]
  simp [equals, dash]

/-- The line of a row begins no list. -/
theorem StartsWith.list? (starts : StartsWith line c rest) : list? {} line = none := by
  have star := beq_of_isStart starts.start '*' (by decide)
  have dash := beq_of_isStart starts.start '-' (by decide)
  have plus := beq_of_isStart starts.start '+' (by decide)
  obtain ⟨-, digit, -⟩ := isStart_facts starts.start
  have none : listMark? line = none := by
    rw [listMark?, starts.content]
    simp [star, dash, plus, digit]
  rw [Markdown.list?, none, ite_self]

/-- The line of a row rules no table. -/
theorem StartsWith.isRuler (starts : StartsWith line c rest) : isRuler line.content = false := by
  have bar := beq_of_isStart starts.start '|' (by decide)
  have dash := beq_of_isStart starts.start '-' (by decide)
  have colon := beq_of_isStart starts.start ':' (by decide)
  rw [starts.content, Markdown.isRuler.eq_def]
  split
  · rename_i first second more same
    obtain ⟨rfl, -⟩ := List.cons.inj same
    simp [bar, dash, colon]
  · rfl

/-- No markup begins where no angle bracket stands. -/
theorem StartsWith.html?_eq_none (starts : StartsWith line c rest) (other : c ≠ '<') :
    html? {} line = none := by
  rw [html?, starts.isCode, if_neg Bool.false_ne_true, starts.content, htmlForm?.eq_def]
  split
  · rename_i more same
    exact absurd (List.cons.inj same).1 other
  · rfl

end Tests

/-- Divisions are blocks of markup. -/
theorem div_mem_blockNames : ['d', 'i', 'v'] ∈ blockNames := by
  rw [blockNames, String.toList_append, String.toList_append, String.toList_append]
  decide +kernel

/-- The name of a division, ended by its tag, begins a block. -/
theorem isBlockStart_div {c : Char} (ends : (Text.isSpacing c || c == '>') = true) (rest : Text) :
    isBlockStart ('d' :: 'i' :: 'v' :: c :: rest) = true := by
  rw [isBlockStart, List.any_eq_true]
  refine ⟨_, div_mem_blockNames, ?_⟩
  have after : Text.afterWord? Text.isCaseOf ['d', 'i', 'v'] ('d' :: 'i' :: 'v' :: c :: rest) =
      some (c :: rest) := rfl
  rw [after]
  split
  · rfl
  · rfl
  · rename_i other same
    rw [← (List.cons.inj (Option.some.inj same)).1]
    exact ends
  · rename_i none
    cases none

/-- Neither divisions nor closing tags begin markup that is taken as it is. -/
theorem isVerbatimStart_eq_false {c : Char} (other : c = 'd' ∨ c = '/') (rest : Text) :
    isVerbatimStart (c :: rest) = false := by
  rcases other with rfl | rfl <;> rfl

/-- The opening tag of a division begins a block of markup. -/
theorem htmlForm?_d {rest : Text} (block : isBlockStart ('d' :: rest) = true) :
    htmlForm? ('<' :: 'd' :: rest) = some .block := by
  have verbatim := isVerbatimStart_eq_false (.inl rfl) rest
  unfold htmlForm?
  simp [verbatim, Text.after?, block]

/-- A closing tag begins a block of markup. -/
theorem htmlForm?_slash {rest : Text} (block : isBlockStart rest = true) :
    htmlForm? ('<' :: '/' :: rest) = some .block := by
  have verbatim := isVerbatimStart_eq_false (.inr rfl) rest
  unfold htmlForm?
  simp [verbatim, Text.after?, block]

/-- Markup of a division is that of a block element. -/
theorem htmlForm?_tag {tag : Row} (isTag : tag.isTag = true) (pad : Text) :
    htmlForm? (tag.text ++ pad) = some .block := by
  cases tag with
  | opens className =>
    exact htmlForm?_d (isBlockStart_div (c := ' ') rfl _)
  | closes => exact htmlForm?_slash (isBlockStart_div (c := '>') rfl pad)
  | _ => cases isTag

/-- A tag begins markup that ends in front of a blank line. -/
theorem LineOf.html?_tag (spelled : LineOf line row) (plain : row.Plain)
    (isTag : row.isTag = true) : html? {} line = some .block := by
  have filled := Row.isFilled_of_isTag isTag
  obtain ⟨-, pad, -, content, -⟩ := spelled.content_eq plain filled
  rw [html?, spelled.isCode filled, if_neg Bool.false_ne_true, content, htmlForm?_tag isTag]

/-- Plain words begin no markup. -/
theorem LineOf.html?_words (spelled : LineOf line row) (plain : row.Plain)
    (words : row.isWords = true) : html? {} line = none := by
  obtain ⟨c, rest, starts, tag⟩ := spelled.startsWith plain (Row.isFilled_of_isWords words)
  refine starts.html?_eq_none fun same => ?_
  rw [Row.isWords_of_isTag (tag.mpr same)] at words
  cases words

/-- No row is a line below the header of a table. -/
theorem LineOf.isRuler (spelled : LineOf line row) (plain : row.Plain) :
    isRuler line.content = false := by
  cases filled : row.isFilled with
  | true =>
    obtain ⟨c, rest, starts, -⟩ := spelled.startsWith plain filled
    exact starts.isRuler
  | false =>
    rw [(spelled.isEmpty_of_blank filled).2]
    rfl

/-! ## Lines that belong together -/

/-- Rows that are plain. -/
def AllPlain (rows : List Row) : Prop := ∀ row ∈ rows, row.Plain

/-- The first one of plain rows is plain. -/
theorem AllPlain.head (plain : AllPlain (row :: rows)) : row.Plain := plain row List.mem_cons_self

/-- The others of plain rows are plain. -/
theorem AllPlain.tail (plain : AllPlain (row :: rows)) : AllPlain rows :=
  fun other mem => plain other (List.mem_cons_of_mem row mem)

/-- The lines of plain rows begin no table. -/
theorem tableHead?_eq_none (spelled : LinesOf lines rows) (plain : AllPlain rows) :
    tableHead? {} lines = none := by
  have second {header line : Line} {row : Row} (of : LineOf line row) (own : row.Plain)
      (more : List Line) : tableHead? {} (header :: line :: more) = none := by
    rw [tableHead?, of.isRuler own]
    simp
  cases spelled with
  | nil => rfl
  | ended => rfl
  | cons of ends behind =>
    cases behind with
    | nil => rfl
    | ended => rfl
    | cons next ends more => exact second next plain.tail.head _

/-- The first line is that of the first row. -/
theorem LinesOf.head (spelled : LinesOf (line :: lines) (row :: rows)) : LineOf line row := by
  cases spelled with
  | cons of ends behind => exact of

/-- Of the rows, tags end a paragraph. -/
theorem endsParagraph_eq (spelled : LinesOf (line :: lines) (row :: rows))
    (plain : AllPlain (row :: rows)) (filled : row.isFilled = true) :
    endsParagraph {} (line :: lines) = row.isTag := by
  have of := spelled.head
  obtain ⟨c, rest, starts, -⟩ := of.startsWith plain.head filled
  have list : endsList {} line = false := by
    rw [endsList, starts.container?, starts.fence?, starts.isQuoted, starts.isRule]
    rfl
  have interrupts : listInterrupts {} line = false := by
    rw [listInterrupts, starts.list?]
  have html : htmlInterrupts {} line = row.isTag := by
    cases tag : row.isTag with
    | true => rw [htmlInterrupts, of.html?_tag plain.head tag]
    | false =>
      have words : row.isWords = true := by
        cases row with
        | words line => rfl
        | blank => cases filled
        | _ => cases tag
      rw [htmlInterrupts, of.html?_words plain.head words]
  rw [endsParagraph, tableHead?_eq_none spelled plain, list, interrupts, html, starts.heading?]
  simp

end Loremark.Markdown
