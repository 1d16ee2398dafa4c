import Loremark.Proofs.Markdown.Openings

/-!
# The blocks of a printed text

The blocks that lines of rows are read as, one for each chunk of the rows. A running chunk becomes
a paragraph and a chunk of markup a piece of markup, which spells the rows of the chunk.
-/

set_option autoImplicit false

namespace Loremark.Markdown

variable {line : Line} {row : Row} {lines : List Line} {rows : List Row}

/-! ## Gathering lines -/

/-- A paragraph takes the plain lines up to the first row of another kind. -/
theorem continuation_words (spelled : LinesOf lines rows) (plain : AllPlain rows) :
    LinesOf (continuation {} (endsParagraph {}) lines).1 (rows.takeWhile Row.isWords) ∧
      LinesOf (continuation {} (endsParagraph {}) lines).2 (rows.dropWhile Row.isWords) := by
  induction spelled with
  | nil => exact ⟨.nil, .nil⟩
  | ended => exact ⟨.nil, .ended⟩
  | @cons line row lines rows of ends behind ih =>
    obtain ⟨taken, left⟩ := ih plain.tail
    have whole : LinesOf (line :: lines) (row :: rows) := .cons of ends behind
    rw [continuation]
    cases words : row.isWords with
    | true =>
      have filled := Row.isFilled_of_isWords words
      have notTag : row.isTag = false := by
        cases row with
        | words line => rfl
        | _ => cases words
      rw [List.takeWhile_cons_of_pos words, List.dropWhile_cons_of_pos words,
        (of.content_eq plain.head filled).1, endsParagraph_eq whole plain filled, notTag,
        if_neg (by simp)]
      refine ⟨.cons of (fun isLast => ?_) taken, left⟩
      rw [(ends isLast).2]
      exact ⟨filled, rfl⟩
    | false =>
      have notWords : ¬ row.isWords = true := by simp [words]
      rw [List.takeWhile_cons_of_neg notWords, List.dropWhile_cons_of_neg notWords, if_pos]
      · exact ⟨.nil, whole⟩
      -- What is no row of words is a tag or blank, and either ends a paragraph.
      · cases filled : row.isFilled with
        | true =>
          have tag : row.isTag = true := by
            cases row with
            | blank => cases filled
            | words line => cases words
            | _ => rfl
          have notLow : (line.column < 0) = False := by
            rw [(of.filled filled).2]
            simp
          rw [endsParagraph_eq whole plain filled, tag, isContinuation, of.isCode filled]
          simp [notLow]
        | false => simp [(of.isEmpty_of_blank filled).1]

/-- Markup takes the rows up to the first blank one. -/
theorem htmlLines_block (spelled : LinesOf lines rows) (plain : AllPlain rows) :
    LinesOf (htmlLines {} .block lines).1 (rows.takeWhile Row.isFilled) ∧
      LinesOf (htmlLines {} .block lines).2 (rows.dropWhile Row.isFilled) := by
  induction spelled with
  | nil => exact ⟨.nil, .nil⟩
  | ended => exact ⟨.nil, .ended⟩
  | @cons line row lines rows of ends behind ih =>
    obtain ⟨taken, left⟩ := ih plain.tail
    rw [htmlLines]
    cases filled : row.isFilled with
    | true =>
      obtain ⟨some, -, -, -, c, rest, content, -⟩ := of.content_eq plain.head filled
      rw [List.takeWhile_cons_of_pos filled, List.dropWhile_cons_of_pos filled,
        if_neg (by rw [(of.filled filled).2]; simp), if_neg (by simp [HtmlForm.endsIn, content])]
      refine ⟨.cons of (fun isLast => ?_) taken, left⟩
      rw [(ends isLast).2]
      exact ⟨filled, rfl⟩
    | false =>
      have notFilled : ¬ row.isFilled = true := by simp [filled]
      obtain ⟨empty, content⟩ := of.isEmpty_of_blank filled
      rw [List.takeWhile_cons_of_neg notFilled, List.dropWhile_cons_of_neg notFilled,
        if_neg (by simp [empty]), if_pos (by rw [content]; rfl), if_pos empty]
      exact ⟨.nil, .cons of ends behind⟩

/-- No row underlines a heading. -/
theorem underlined?_eq_none (spelled : LinesOf lines rows) (plain : AllPlain rows) :
    underlined? {} lines = none := by
  induction spelled with
  | nil => rfl
  | ended => rfl
  | @cons line row lines rows of ends behind ih =>
    have later := ih plain.tail
    rw [underlined?]
    cases filled : row.isFilled with
    | true =>
      obtain ⟨c, rest, starts, -⟩ := of.startsWith plain.head filled
      rw [starts.underline?, ite_self, later]
      simp
    | false => rw [if_pos (of.isEmpty_of_blank filled).1]

/-- No row defines a label. -/
theorem definition?_eq_none {c : Char} {rest : Text} (starts : StartsWith line c rest)
    (lines : List Line) : definition? {} line lines = none := by
  have bracket := beq_of_isStart starts.start '[' (by decide)
  have none (text : Text) : definitionOf? (c :: text) = none := by
    rw [definitionOf?.eq_def]
    split
    · rename_i rest same
      rw [(List.cons.inj same).1] at bracket
      cases bracket
    · rfl
  unfold definition?
  rw [if_neg (by simp [starts.isCode])]
  dsimp only
  rw [List.flatMap_cons, starts.content, List.cons_append, List.cons_append, none]
  rfl

/-! ## Reading a block -/

variable {inside insideItem : Reader}

/-- No markup is read from plain words. -/
theorem readHtml?_words (of : LineOf line row) (plain : row.Plain) (words : row.isWords = true)
    (lines : List Line) : readHtml? {} line lines = .ok none := by
  rw [readHtml?, authorHtml?, of.html?_words plain words]
  rfl

/-- A plain line begins a paragraph. -/
theorem readBlock_words (spelled : LinesOf (line :: lines) (row :: rows))
    (plain : AllPlain (row :: rows)) (words : row.isWords = true) :
    readBlock inside insideItem {} line lines = .ok (paragraph {} line lines) := by
  have filled := Row.isFilled_of_isWords words
  have behind : LinesOf lines rows := by
    cases spelled with
    | cons of ends behind => exact behind
  obtain ⟨c, rest, starts, -⟩ := spelled.head.startsWith plain.head filled
  simp only [readBlock, table?, tableHead?_eq_none spelled plain, indentedCode?, starts.isCode,
    starts.container?, fencedCode?, starts.fence?, starts.isQuoted, rule?, starts.isRule,
    starts.list?, definition?_eq_none starts, readHtml?_words spelled.head plain.head words,
    plainHeading?, starts.heading?, underlinedHeading?, underlined?_eq_none behind plain.tail,
    Option.map_none, Bool.false_eq_true, if_false, bind, Except.bind, pure, Except.pure]

/-- The text does not end within one of its lines. -/
theorem LinesOf.endsWithin (spelled : LinesOf lines rows) (plain : AllPlain rows) :
    ∀ line ∈ lines, line.endsWithin 0 = false := by
  induction spelled with
  | nil => simp
  | ended => simp
  | @cons line row lines rows of ends behind ih =>
    rw [List.forall_mem_cons]
    refine ⟨?_, ih plain.tail⟩
    rw [Line.endsWithin]
    cases isLast : line.isLast with
    | true => rw [(of.content_eq plain.head (ends isLast).1).1, Bool.and_false, Bool.false_and]
    | false => rw [Bool.false_and, Bool.false_and]

/-- A tag begins markup. -/
theorem readBlock_tag (spelled : LinesOf (line :: lines) (row :: rows))
    (plain : AllPlain (row :: rows)) (tag : row.isTag = true) :
    readBlock inside insideItem {} line lines =
      .ok (.html (fullText 0 (line :: (htmlLines {} .block lines).1)),
        (htmlLines {} .block lines).2) := by
  have filled := Row.isFilled_of_isTag tag
  obtain ⟨c, rest, starts, -⟩ := spelled.head.startsWith plain.head filled
  have author : authorHtml? {} line lines =
      some (.html (fullText 0 (line :: (htmlLines {} .block lines).1)),
        (htmlLines {} .block lines).2) := by
    rw [authorHtml?, spelled.head.html?_tag plain.head tag]
    simp [HtmlForm.endsIn, starts.content]
  have html : readHtml? {} line lines =
      .ok (some (.html (fullText 0 (line :: (htmlLines {} .block lines).1)),
        (htmlLines {} .block lines).2)) := by
    rw [readHtml?, author]
    refine if_neg fun ends => ?_
    obtain ⟨other, mem, within⟩ := List.any_eq_true.mp ends
    rw [spelled.endsWithin plain other (List.mem_of_mem_take mem)] at within
    cases within
  simp only [readBlock, table?, tableHead?_eq_none spelled plain, indentedCode?, starts.isCode,
    starts.container?, fencedCode?, starts.fence?, starts.isQuoted, rule?, starts.isRule,
    starts.list?, definition?_eq_none starts, html, Option.map_none, Bool.false_eq_true, if_false,
    bind, Except.bind, pure, Except.pure]

/-! ## Texts of blocks -/

/-- Running text that consists of lines, with spaces in front of the line ends between them. -/
inductive Typed : Text → List Text → Prop
  | last (line : Text) : Typed line [line]
  | line (line pad : Text) (spaces : Spaces pad) {text : Text} {lines : List Text}
      (behind : Typed text lines) : Typed (line ++ pad ++ '\n' :: text) (line :: lines)

/-- Blocks that chunks are read as. -/
inductive ReadAs : Block Text → Chunk → Prop
  | running {text : Text} {lines : List Text} (typed : Typed text lines)
      (plain : ∀ line ∈ lines, PlainLine line) :
      ReadAs (.paragraph false text) (.running lines)
  | markup {html : Text} {tag : Row} {rows : List Row} (printed : Printed html (tag :: rows))
      (isTag : tag.isTag = true) (plain : AllPlain (tag :: rows))
      (filled : ∀ row ∈ rows, row.isFilled = true) :
      ReadAs (.html html) (.markup (tag :: rows))

/-- A line that is cut nowhere is its text. -/
theorem cut_zero (line : Line) : line.cut 0 = line.text := by
  rw [Line.cut]
  cases line.text with
  | nil => rfl
  | cons c text => rfl

/-- The text of lines that spell filled rows spells them too. -/
theorem LinesOf.printed (spelled : LinesOf lines rows)
    (filled : ∀ row ∈ rows, row.isFilled = true) : Printed (fullText 0 lines) rows := by
  induction spelled with
  | nil => exact .nil
  | ended => cases filled .blank List.mem_cons_self
  | @cons line row lines rows of ends behind ih =>
    have later := ih fun other mem => filled other (List.mem_cons_of_mem row mem)
    obtain ⟨pad, spaces, text⟩ := of.spelled
    rw [fullText, List.flatMap_cons, cut_zero, text, ← fullText]
    cases isLast : line.isLast with
    | true =>
      obtain ⟨-, rfl⟩ := ends isLast
      cases behind with
      | nil =>
        rw [if_pos rfl, List.append_nil, fullText, List.flatMap_nil, List.append_nil]
        exact .last row pad spaces
    | false =>
      rw [if_neg Bool.false_ne_true, List.append_assoc _ ['\n']]
      exact .line row pad spaces later

/-- The text of plain lines is typed, up to spaces at its end. -/
theorem LinesOf.typed {first : Text} (spelled : LinesOf lines (.words first :: rows))
    (words : ∀ row ∈ rows, row.isWords = true) :
    ∃ text pad, textOf 0 lines = text ++ pad ∧ Spaces pad ∧
      Typed text (first :: wordsOf rows) := by
  induction rows generalizing lines first with
  | nil =>
    cases spelled with
    | @cons line row lines rows of ends behind =>
      obtain ⟨pad, spaces, text⟩ := of.spelled
      cases behind with
      | nil =>
        refine ⟨first, pad, ?_, spaces, .last first⟩
        rw [textOf, List.map_singleton, cut_zero, text]
        rfl
  | cons next rows ih =>
    cases spelled with
    | @cons line row lines rows of ends behind =>
      obtain ⟨pad, spaces, text⟩ := of.spelled
      cases next with
      | words second =>
        obtain ⟨later, last, joined, lastSpaces, typed⟩ :=
          ih behind fun other mem => words other (List.mem_cons_of_mem _ mem)
        have more : lines.map (Line.cut 0) ≠ [] := by
          cases behind with
          | cons of ends behind => simp
        refine ⟨first ++ pad ++ '\n' :: later, last, ?_, lastSpaces, .line first pad spaces typed⟩
        have lineText : line.text = first ++ pad := text
        rw [textOf, List.map_cons, Text.joinWith_cons more, ← textOf, joined, cut_zero, lineText]
        simp only [List.append_assoc, List.cons_append, List.nil_append]
      | _ => cases words _ List.mem_cons_self

/-- Running text of plain lines begins with a character that is no blank. -/
theorem Typed.begins {text : Text} {lines : List Text} (typed : Typed text lines)
    (plain : ∀ line ∈ lines, PlainLine line) :
    ∃ c, Text.isBlank c = false ∧ ∃ rest, text = c :: rest := by
  cases typed with
  | last _ =>
    obtain ⟨c, rest, rfl, start⟩ := (plain _ List.mem_cons_self).first
    exact ⟨c, (isStart_facts start).2.2, rest, rfl⟩
  | line first pad spaces behind =>
    obtain ⟨c, rest, rfl, start⟩ := (plain _ List.mem_cons_self).first
    exact ⟨c, (isStart_facts start).2.2, _, rfl⟩

/-- Running text of plain lines ends with a character that is no blank. -/
theorem Typed.ends {text : Text} {lines : List Text} (typed : Typed text lines)
    (plain : ∀ line ∈ lines, PlainLine line) :
    ∃ c, Text.isBlank c = false ∧ ∃ front, text = front ++ [c] := by
  induction typed with
  | last line =>
    obtain ⟨front, c, rfl, last⟩ := (plain line List.mem_cons_self).last
    exact ⟨c, last, front, rfl⟩
  | line line pad spaces behind ih =>
    obtain ⟨c, last, front, rfl⟩ := ih fun other mem => plain other (List.mem_cons_of_mem _ mem)
    exact ⟨c, last, line ++ pad ++ '\n' :: front, by simp⟩

/-- The words among plain rows are plain lines. -/
theorem plainLine_of_mem_wordsOf (plain : AllPlain rows) :
    ∀ line ∈ wordsOf rows, PlainLine line := by
  intro line mem
  obtain ⟨row, inRows, same⟩ := List.mem_filterMap.mp mem
  cases row with
  | words words =>
    obtain rfl := Option.some.inj same
    exact plain _ inRows
  | _ => cases same

/-- The running text of plain lines is typed. -/
theorem LinesOf.runningText {first : Text} (spelled : LinesOf lines (.words first :: rows))
    (plain : AllPlain (.words first :: rows)) (words : ∀ row ∈ rows, row.isWords = true) :
    Typed (runningText {} lines) (first :: wordsOf rows) := by
  obtain ⟨text, pad, joined, spaces, typed⟩ := spelled.typed words
  have plainLines : ∀ line ∈ first :: wordsOf rows, PlainLine line :=
    plainLine_of_mem_wordsOf plain
  obtain ⟨c, notFirst, begins⟩ := typed.begins plainLines
  obtain ⟨d, notLast, ends⟩ := typed.ends plainLines
  have stripped : Text.unspace (text ++ pad) = text := by
    refine Text.strip_append begins ?_ ends ?_ fun e mem => ?_
    · rw [Text.isSpacing, notFirst, Bool.false_and, Bool.false_and]
    · rw [Text.isSpacing, notLast, Bool.false_and, Bool.false_and]
    · rw [spaces e mem]
      rfl
  have whole : Markdown.runningText {} lines = Text.unspace (textOf 0 lines) := rfl
  rw [whole, joined, stripped]
  exact typed

/-! ## Reading a range -/

/-- Blank lines in front of a block are passed over. -/
theorem LinesOf.dropWhile (spelled : LinesOf lines rows) (plain : AllPlain rows) :
    ∃ left, LinesOf (lines.dropWhile Line.isEmpty) left ∧ AllPlain left ∧
      chunks left = chunks rows ∧ left.length ≤ rows.length ∧
      ∀ row ∈ left.head?, row.isFilled = true := by
  induction spelled with
  | nil => exact ⟨[], .nil, plain, rfl, Nat.le_refl 0, by simp⟩
  | ended => exact ⟨[], .nil, by simp [AllPlain], (chunks_blank []).symm, by simp, by simp⟩
  | @cons line row lines rows of ends behind ih =>
    cases filled : row.isFilled with
    | true =>
      have some : ¬ line.isEmpty = true := by simp [(of.content_eq plain.head filled).1]
      rw [List.dropWhile_cons_of_neg some]
      exact ⟨row :: rows, .cons of ends behind, plain, rfl, Nat.le_refl _, by simpa using filled⟩
    | false =>
      obtain ⟨left, spelled, plainLeft, same, shorter, head⟩ := ih plain.tail
      rw [List.dropWhile_cons_of_pos (of.isEmpty_of_blank filled).1]
      refine ⟨left, spelled, plainLeft, ?_, Nat.le_succ_of_le shorter, head⟩
      cases row with
      | blank => rw [same, chunks_blank]
      | _ => cases filled

/-- A blank line behind a block is passed over. -/
theorem LinesOf.dropBlank (spelled : LinesOf lines rows) (plain : AllPlain rows) :
    ∃ left, LinesOf (if (lines.head?.map Line.isEmpty).getD false then lines.drop 1 else lines)
      left ∧ AllPlain left ∧ chunks left = chunks rows ∧ left.length ≤ rows.length := by
  cases spelled with
  | nil => exact ⟨[], .nil, plain, rfl, Nat.le_refl 0⟩
  | ended => exact ⟨[.blank], .ended, plain, rfl, Nat.le_refl _⟩
  | @cons line row lines rows of ends behind =>
    cases filled : row.isFilled with
    | true =>
      rw [List.head?_cons, Option.map_some, Option.getD_some,
        (of.content_eq plain.head filled).1, if_neg Bool.false_ne_true]
      exact ⟨row :: rows, .cons of ends behind, plain, rfl, Nat.le_refl _⟩
    | false =>
      rw [List.head?_cons, Option.map_some, Option.getD_some, (of.isEmpty_of_blank filled).1,
        if_pos rfl]
      refine ⟨rows, behind, plain.tail, ?_, Nat.le_succ _⟩
      cases row with
      | blank => exact (chunks_blank rows).symm
      | _ => cases filled

/-- Some of plain rows are plain. -/
theorem AllPlain.sublist {others : List Row} (plain : AllPlain rows) (part : others.Sublist rows) :
    AllPlain others := fun row mem => plain row (part.subset mem)

/-- The rows in front of the first blank one are filled. -/
theorem isFilled_of_mem_takeWhile : ∀ row ∈ rows.takeWhile Row.isFilled, row.isFilled = true :=
  List.all_eq_true.mp (List.all_takeWhile)

/-- The block that filled rows begin with, and the lines and rows behind it. -/
theorem readBlock_rows
    (spelled : LinesOf (line :: lines) (row :: rows)) (plain : AllPlain (row :: rows))
    (filled : row.isFilled = true) :
    ∃ block chunk rest left, readBlock inside insideItem {} line lines = .ok (block, rest) ∧
      ReadAs block chunk ∧ LinesOf rest left ∧ left.Sublist rows ∧
      chunks (row :: rows) = chunk :: chunks left := by
  have behind : LinesOf lines rows := by
    cases spelled with
    | cons of ends behind => exact behind
  -- A tag takes the rows up to the next blank one, plain words those up to the next other row.
  cases tag : row.isTag with
  | true =>
    obtain ⟨taken, left⟩ := htmlLines_block behind plain.tail
    have allFilled : ∀ other ∈ row :: rows.takeWhile Row.isFilled, other.isFilled = true := by
      rw [List.forall_mem_cons]
      exact ⟨filled, isFilled_of_mem_takeWhile⟩
    have whole : LinesOf (line :: (htmlLines {} .block lines).1)
        (row :: rows.takeWhile Row.isFilled) := by
      cases spelled with
      | cons of ends behind =>
        refine .cons of (fun isLast => ?_) taken
        rw [(ends isLast).2]
        exact ⟨filled, rfl⟩
    have taken := plain.sublist ((List.takeWhile_sublist Row.isFilled).cons_cons row)
    exact ⟨_, _, _, _, readBlock_tag spelled plain tag,
      .markup (whole.printed allFilled) tag taken isFilled_of_mem_takeWhile, left,
      List.dropWhile_sublist _, chunks_tag tag rows⟩
  | false =>
    cases row with
    | words first =>
      obtain ⟨taken, left⟩ := continuation_words behind plain.tail
      have whole : LinesOf (line :: (continuation {} (endsParagraph {}) lines).1)
          (.words first :: rows.takeWhile Row.isWords) := by
        cases spelled with
        | cons of ends behind =>
          refine .cons of (fun isLast => ?_) taken
          rw [(ends isLast).2]
          exact ⟨rfl, rfl⟩
      have taken := plain.sublist ((List.takeWhile_sublist Row.isWords).cons_cons (.words first))
      exact ⟨_, _, _, _, readBlock_words spelled plain rfl,
        .running (whole.runningText taken (List.all_eq_true.mp List.all_takeWhile))
          (plainLine_of_mem_wordsOf taken), left, List.dropWhile_sublist _, chunks_words first rows⟩
    | blank => cases filled
    | _ => cases tag

/-- The blocks of lines that spell rows are those of the chunks of the rows. -/
theorem readRange_rows {fuel : Nat} {gap tight : Bool}
    (spelled : LinesOf lines rows) (plain : AllPlain rows) (enough : rows.length ≤ fuel) :
    ∃ range, readRange inside insideItem {} fuel gap tight lines = .ok range ∧
      List.Forall₂ ReadAs range.blocks (chunks rows) := by
  -- A block takes at least one row, so there is fuel for as many blocks as there are rows.
  induction fuel generalizing lines rows gap tight with
  | zero =>
    obtain rfl := List.eq_nil_of_length_eq_zero (Nat.le_zero.mp enough)
    exact ⟨_, rfl, .nil⟩
  | succ fuel ih =>
    obtain ⟨left, spelledLeft, plainLeft, same, shorter, head⟩ := spelled.dropWhile plain
    rw [readRange, ← same]
    cases dropped : lines.dropWhile Line.isEmpty with
    | nil =>
      rw [dropped] at spelledLeft
      cases spelledLeft with
      | nil => exact ⟨_, rfl, .nil⟩
      | ended => cases head .blank rfl
    | cons line following =>
      rw [dropped] at spelledLeft
      cases spelledLeft with
      | @cons line row lines rows of ends behind =>
        have filled := head row rfl
        obtain ⟨block, chunk, rest, after, ran, readAs, spelledRest, part, cut⟩ :=
          readBlock_rows (.cons of ends behind) plainLeft filled
        obtain ⟨next, spelledNext, plainNext, sameNext, shorterNext⟩ :=
          spelledRest.dropBlank (plainLeft.tail.sublist part)
        have room : next.length ≤ fuel := by
          have shorterLeft := part.length_le
          rw [List.length_cons] at shorter
          omega
        have notLow : ¬ line.column < (0 : Int) := by
          rw [(of.filled filled).2]
          exact Int.lt_irrefl 0
        obtain ⟨range, ranRest, all⟩ := ih spelledNext plainNext room
        refine ⟨{ range with blocks := block :: range.blocks }, ?_, ?_⟩
        · change (if line.column < (0 : Int) then _ else _) = _
          rw [if_neg notLow, ran]
          change (readRange inside insideItem {} fuel _ _ _ >>= _) = _
          rw [ranRest]
          rfl
        · rw [cut, ← sameNext]
          exact .cons readAs all

/-- There are at most as many rows as lines, but for a blank one at the end. -/
theorem LinesOf.length_le (spelled : LinesOf lines rows) : rows.length ≤ lines.length + 1 := by
  induction spelled with
  | nil => exact Nat.zero_le _
  | ended => exact Nat.le_refl 1
  | cons of ends behind ih => exact Nat.succ_le_succ ih

/-- The blocks of a printed text are those of the chunks of its rows. -/
theorem blocksOf_printed {text : Text} (printed : Printed text rows) (plain : AllPlain rows) :
    ∃ blocks, blocksOf text = .ok blocks ∧ List.Forall₂ ReadAs blocks (chunks rows) := by
  have spelled := lines_of_printed printed plain
  have read : ∃ range, readBlocks blockLimit {} (Markdown.lines text) = .ok range ∧
      List.Forall₂ ReadAs range.blocks (chunks rows) :=
    readRange_rows spelled plain spelled.length_le
  obtain ⟨range, ran, all⟩ := read
  refine ⟨range.blocks, ?_, all⟩
  rw [blocksOf, ran]
  rfl

end Loremark.Markdown
