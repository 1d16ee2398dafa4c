import Loremark.Proofs.Markdown.BlockWords

/-!
# Texts whose blocks can be read

Reading blocks stops at one thing only: a line that ends the text and has nothing left when the
markers of the quotes around it are cut off. Every reader succeeds on lines that are `Sound`, and
takes lines from the front; the lines of a text are sound if its last line holds anything besides
quote markers and indentation (`exists_blocksOf`).
-/

set_option autoImplicit false

namespace Loremark.Markdown

variable {frame : Frame} {line : Line} {lines rest : List Line} {block : Block Text}

/-- A line does not end the text, or something besides quote markers and indentation stands in
it. -/
def Line.Firm (line : Line) : Prop :=
  line.isLast = true → ∃ c ∈ line.content, c ≠ '>' ∧ Text.isIndent c = false

/-- A line does not end the text, or is not empty. -/
def Line.Filled (line : Line) : Prop := (line.isEmpty && line.isLast) = false

/-- Only the last of some lines can end the text, and all but the first one are firm. -/
structure Sound (lines : List Line) : Prop where
  oneEnd : OneEnd lines
  firm : ∀ next ∈ lines.tail, next.Firm

/-- A line is empty if it has no content. -/
theorem isEmpty_iff (line : Line) : line.isEmpty = true ↔ line.content = [] := by
  rw [Line.isEmpty, Line.content, decide_eq_true_iff, List.drop_eq_nil_iff]

/-- A firm line is filled. -/
theorem Line.Firm.filled (firm : line.Firm) : line.Filled := by
  rw [Filled, Bool.and_eq_false_iff]
  by_contra both
  rw [not_or, Bool.not_eq_false, Bool.not_eq_false, isEmpty_iff] at both
  obtain ⟨c, mem, -⟩ := firm both.2
  rw [both.1] at mem
  exact List.not_mem_nil mem

/-- A line with something in it is filled. -/
theorem filled_of_not_empty (filled : line.isEmpty = false) : line.Filled := by
  rw [Line.Filled, filled, Bool.false_and]

/-- The end of sound lines is sound. -/
theorem Sound.of_suffix (sound : Sound lines) (part : rest <:+ lines) : Sound rest := by
  refine ⟨sound.oneEnd.of_suffix part, fun next mem => sound.firm next ?_⟩
  obtain ⟨front, rfl⟩ := part
  cases front with
  | nil => exact mem
  | cons line front => exact List.mem_append_right front (List.mem_of_mem_tail mem)

/-- The beginning of sound lines is sound. -/
theorem Sound.of_append {front : List Line} (sound : Sound (front ++ rest)) : Sound front := by
  refine ⟨sound.oneEnd.sublist (List.sublist_append_left _ _), fun next mem => sound.firm next ?_⟩
  cases front with
  | nil => cases mem
  | cons line front => exact List.mem_append_left rest mem

/-- Sound lines of which the first one is filled as well. -/
structure Ready (lines : List Line) : Prop where
  sound : Sound lines
  filled : ∀ next ∈ lines.head?, next.Filled

/-- No lines are ready. -/
theorem ready_nil : Ready [] :=
  ⟨⟨.nil, List.forall_mem_nil _⟩, fun _ none => absurd none (Option.not_mem_none _)⟩

/-- The lines behind the first one are ready. -/
theorem Sound.behind (sound : Sound (line :: lines)) : Ready lines :=
  ⟨sound.of_suffix (List.suffix_cons _ _), fun next mem =>
    (sound.firm next (List.mem_of_head? mem)).filled⟩

/-- The end of ready lines is ready. -/
theorem Ready.of_suffix (ready : Ready lines) (part : rest <:+ lines) : Ready rest := by
  induction lines with
  | nil => rwa [List.suffix_nil.mp part]
  | cons line lines ih =>
    rcases List.suffix_cons_iff.mp part with rfl | part
    · exact ready
    · exact ih ready.sound.behind part

/-! ## Checks that pass -/

/-- A filled line passes the test for containers. -/
theorem checkContainer_ok (filled : line.Filled) : checkContainer line = .ok () := by
  rw [checkContainer, filled]
  rfl

/-- A filled line passes the test for the end of a text. -/
theorem checkEnd_ok (filled : line.Filled) : checkEnd frame line = .ok () := by
  rw [checkEnd]
  split
  · rfl
  · exact checkContainer_ok filled

/-- The rows of a table can be read from firm lines. -/
theorem exists_tableRows (frame : Frame) (width : Nat) (added : Int)
    (firm : ∀ next ∈ lines, next.Firm) :
    ∃ rows rest, tableRows frame width added lines = .ok (rows, rest) := by
  induction lines generalizing added with
  | nil => exact ⟨[], [], rfl⟩
  | cons line lines ih =>
    obtain ⟨here, behind⟩ := List.forall_mem_cons.mp firm
    rw [tableRows, checkEnd_ok here.filled]
    obtain ⟨rows, rest, read⟩ :=
      ih (added + width - (cellsOf (Text.unspace line.content)).length) behind
    split
    · exact ⟨[], line :: lines, rfl⟩
    · dsimp only [bind, Except.bind]
      split
      · exact ⟨[], line :: lines, rfl⟩
      · rw [read]
        exact ⟨_, _, rfl⟩

/-- A table can be looked for in firm lines. -/
theorem exists_table? (frame : Frame) (line : Line) (firm : ∀ next ∈ lines, next.Firm) :
    ∃ found, table? frame (line :: lines) = .ok found := by
  rw [table?]
  split
  · exact ⟨none, rfl⟩
  · rename_i header columns _
    have below : ∀ next ∈ (line :: lines).drop 2, next.Firm :=
      fun next mem => firm next (List.mem_of_mem_drop (i := 1) mem)
    obtain ⟨rows, rest, read⟩ := exists_tableRows frame columns.length 0 below
    rw [read]
    exact ⟨_, rfl⟩

/-- The lines of a container can be gathered from firm lines. -/
theorem exists_containerLines (frame : Frame) (count : Nat) (firm : ∀ next ∈ lines, next.Firm) :
    ∃ body rest, containerLines frame count lines = .ok (body, rest) := by
  induction lines with
  | nil => exact ⟨[], [], rfl⟩
  | cons line lines ih =>
    obtain ⟨here, behind⟩ := List.forall_mem_cons.mp firm
    obtain ⟨body, rest, read⟩ := ih behind
    rw [containerLines, checkContainer_ok here.filled, read]
    dsimp only [bind, Except.bind]
    split
    · exact ⟨[], line :: lines, rfl⟩
    · split
      · exact ⟨[], lines, rfl⟩
      · exact ⟨line :: body, rest, rfl⟩

/-- No filled line ends within an indentation. -/
theorem not_endsWithin {width : Int} (filled : line.Filled) : line.endsWithin width = false := by
  rw [Line.endsWithin, Bool.and_comm line.isLast, filled, Bool.false_and]

/-- Markup can be looked for in filled lines. -/
theorem exists_readHtml? (frame : Frame) (filled : ∀ next ∈ line :: lines, next.Filled) :
    ∃ found, readHtml? frame line lines = .ok found := by
  rw [readHtml?]
  split
  · exact ⟨none, rfl⟩
  · rename_i block rest _
    dsimp only
    split
    · rename_i within
      obtain ⟨next, mem, ends⟩ := List.any_eq_true.mp within
      rw [not_endsWithin (filled next (List.mem_of_mem_take mem))] at ends
      cases ends
    · exact ⟨_, rfl⟩

/-! ## Quotes -/

/-- An indentation is the indent in front of a text. -/
theorem indentation_split (origin column : Int) (text : Text) :
    ∃ front, text = front ++ text.drop (indentation origin column text).2 ∧
      ∀ c ∈ front, Text.isIndent c = true := by
  induction text generalizing column with
  | nil => exact ⟨[], rfl, List.forall_mem_nil _⟩
  | cons c text ih =>
    have onward (indent : Text.isIndent c = true) (column : Int) :
        ∃ front, c :: text = front ++ text.drop (indentation origin column text).2 ∧
          ∀ d ∈ front, Text.isIndent d = true := by
      obtain ⟨front, split, blank⟩ := ih column
      exact ⟨c :: front, congrArg (c :: ·) split, List.forall_mem_cons.mpr ⟨indent, blank⟩⟩
    rw [indentation.eq_def]
    split
    · rename_i same
      obtain ⟨rfl, rfl⟩ := List.cons.inj same
      exact onward rfl _
    · rename_i same
      obtain ⟨rfl, rfl⟩ := List.cons.inj same
      exact onward rfl _
    · exact ⟨[], rfl, List.forall_mem_nil _⟩

/-- A quoted line stays firm without its marker. -/
theorem firm_unquoted (quoted : line.content.head? = some '>') (firm : line.Firm) :
    (unquoted line).Firm := by
  -- What is cut off is the marker, perhaps a space or a tab, and the indentation behind it.
  have placed {front text : Text} (split : line.content = front ++ text)
      (cut : ∀ c ∈ front, c = '>' ∨ Text.isIndent c = true) (start origin shifted : Int) :
      (unquoted.place line text start origin shifted).Firm := by
    intro last
    obtain ⟨c, mem, other, solid⟩ := firm last
    have kept {front text : Text} (mem : c ∈ front ++ text)
        (cut : ∀ c ∈ front, c = '>' ∨ Text.isIndent c = true) : c ∈ text := by
      rcases List.mem_append.mp mem with inFront | inText
      · rcases cut c inFront with rfl | indent
        · exact absurd rfl other
        · rw [indent] at solid
          cases solid
      · exact inText
    rw [split] at mem
    obtain ⟨indent, apart, blank⟩ := indentation_split (line.origin + shifted) start text
    have inText := kept mem cut
    rw [apart] at inText
    exact ⟨c, kept inText fun d inIndent => .inr (blank d inIndent), other, solid⟩
  have split : line.content = ['>'] ++ line.content.drop 1 := by
    cases content : line.content with
    | nil => rw [content] at quoted; cases quoted
    | cons c text =>
      rw [content] at quoted
      rw [Option.some.inj quoted]
      rfl
  have marker : ∀ c ∈ ['>'], c = '>' ∨ Text.isIndent c = true := by simp
  have further {d : Char} (indent : Text.isIndent d = true) :
      ∀ c ∈ ['>'] ++ [d], c = '>' ∨ Text.isIndent c = true := by simp [indent]
  rw [unquoted]
  split
  · rename_i text inner
    rw [inner, List.append_cons] at split
    exact placed split (further rfl) _ _ _
  · rename_i text inner
    rw [inner] at split
    split
    · rw [List.append_cons] at split
      exact placed split (further rfl) _ _ _
    · exact placed split marker _ _ _
  · exact placed split marker _ _ _

/-- The lines of a quote are firm if the lines are. -/
theorem firm_quoteLines {blank : Bool} (firm : ∀ next ∈ lines, next.Firm) :
    ∀ next ∈ quoteLines frame blank lines, next.Firm := by
  induction lines generalizing blank with
  | nil => exact List.forall_mem_nil _
  | cons line lines ih =>
    obtain ⟨here, behind⟩ := List.forall_mem_cons.mp firm
    rw [quoteLines]
    split
    · exact List.forall_mem_nil _
    · split
      · rename_i marked
        rw [Bool.and_eq_true, beq_iff_eq] at marked
        exact List.forall_mem_cons.mpr ⟨firm_unquoted marked.1 here, ih behind⟩
      · split
        · exact List.forall_mem_nil _
        · exact List.forall_mem_cons.mpr ⟨here, ih behind⟩

/-- Sound lines stay sound without the markers of a quote. -/
theorem Sound.quoted (sound : Sound (line :: lines)) :
    Sound (unquoted line :: quoteLines frame (unquoted line).isEmpty lines) := by
  refine ⟨?_, firm_quoteLines sound.firm⟩
  obtain ⟨taken, others, rfl, behind⟩ := quoteLines_unquoted frame (unquoted line).isEmpty lines
  refine oneEnd_of_unquoted (.cons (unquoted_unquoted line) behind) ?_
  exact sound.oneEnd.sublist ((List.sublist_append_left _ _).cons_cons _)

/-! ## Readers -/

/-- A reader that succeeds on sound lines, and leaves ready ones. -/
def Reader.Total (inside : Reader) : Prop :=
  ∀ frame lines, Sound lines → ∃ range, inside frame lines = .ok range ∧ Ready range.rest

/-- What is left of sound lines without the empty ones in front is ready. -/
theorem Sound.dropWhile (sound : Sound lines) : Ready (lines.dropWhile Line.isEmpty) := by
  refine ⟨sound.of_suffix (List.dropWhile_suffix _), fun next mem => filled_of_not_empty ?_⟩
  have first := List.head?_dropWhile_not Line.isEmpty lines
  rwa [mem] at first

/-- Passing over all lines succeeds. -/
theorem passOver_total : passOver.Total := by
  intro frame lines sound
  have ready := sound.dropWhile
  rw [passOver]
  split
  · exact ⟨_, rfl, ready_nil⟩
  · rename_i line rest first
    rw [first] at ready
    refine ⟨_, rfl, ?_⟩
    dsimp only
    split
    · exact ready
    · exact ready_nil

section Inside

variable {inside insideItem : Reader}

/-- A container of sound lines can be read. -/
theorem exists_readContainer {count : Nat} {info : Text} (total : inside.Total)
    (sound : Sound (line :: lines)) :
    ∃ block rest, readContainer inside frame count info lines = .ok (block, rest) ∧
      Ready rest := by
  have firm : ∀ next ∈ lines, next.Firm := sound.firm
  obtain ⟨body, rest, gathered⟩ := exists_containerLines frame count firm
  obtain ⟨closing, rfl⟩ := containerLines_append gathered
  have behind : Ready (body ++ (closing ++ rest)) := sound.behind
  obtain ⟨range, read, -⟩ := total frame body behind.sound.of_append
  rw [readContainer, gathered]
  refine ⟨.container info range.blocks, rest, ?_, behind.of_suffix ?_⟩
  · dsimp only [bind, Except.bind]
    rw [read]
    rfl
  · rw [← List.append_assoc]
    exact List.suffix_append _ _

/-- A quote of ready lines can be read. -/
theorem exists_readQuote (total : inside.Total) (ready : Ready (line :: lines)) :
    ∃ block rest, readQuote inside frame line lines = .ok (block, rest) ∧ Ready rest := by
  obtain ⟨range, read, -⟩ := total { frame with indent := 0 } _ ready.sound.quoted
  rw [readQuote, read]
  exact ⟨_, _, rfl, ready.of_suffix (List.drop_suffix _ _)⟩

/-- An item of sound lines can be read. -/
theorem exists_readItem (frame : Frame) (width : Nat) (total : inside.Total)
    (sound : Sound (line :: lines)) :
    ∃ range, readItem inside frame width line lines = .ok range ∧ Ready range.rest := by
  rw [readItem]
  split
  rename_i inner indent start
  split
  · exact ⟨_, rfl, sound.behind.of_suffix (List.drop_suffix 1 lines)⟩
  · have same : bodies (line :: lines) = bodies ((itemLine line width).1 :: lines) := rfl
    rw [start] at same
    exact total ⟨indent, frame.indent⟩ _ ⟨(oneEnd_congr same).mp sound.oneEnd, sound.firm⟩

/-- The items of ready lines can be read. -/
theorem exists_readItems (frame : Frame) (fuel : Nat) (apart : Bool) (mark : ListMark)
    (total : inside.Total) (ready : Ready (line :: lines)) :
    ∃ range, readItems inside frame fuel apart mark line lines = .ok range ∧
      Ready range.rest := by
  induction fuel generalizing apart mark line lines with
  | zero => exact ⟨_, rfl, ready⟩
  | succ fuel ih =>
    obtain ⟨item, read, behind⟩ := exists_readItem frame mark.width total ready.sound
    rw [readItems, read]
    dsimp only [bind, Except.bind]
    split
    · exact ⟨_, rfl, ready_nil⟩
    · rename_i next rest more
      rw [more] at behind
      rw [checkContainer_ok (behind.filled next rfl)]
      dsimp only
      split
      · exact ⟨_, rfl, behind⟩
      · split
        · exact ⟨_, rfl, behind⟩
        · split
          · exact ⟨_, rfl, behind⟩
          · rename_i following _
            split
            · obtain ⟨items, readRest, left⟩ :=
                ih (endsBlank (line :: lines) (next :: rest)) following behind
              rw [readRest]
              exact ⟨_, rfl, left⟩
            · exact ⟨_, rfl, behind⟩

/-- A list of ready lines can be read. -/
theorem exists_readList {mark : ListMark} (total : inside.Total)
    (ready : Ready (line :: lines)) :
    ∃ block rest, readList inside frame mark line lines = .ok (block, rest) ∧ Ready rest := by
  obtain ⟨range, read, left⟩ := exists_readItems frame (lines.length + 1) false mark total ready
  rw [readList, read]
  cases mark.number with
  | none => exact ⟨_, _, rfl, left⟩
  | some number => exact ⟨_, _, rfl, left⟩

/-- A reading of a block that leaves the last ones of the lines behind the first. -/
def Leaves (lines : List Line) (reading : BlockReading) : Prop :=
  ∀ block rest, reading = some (block, rest) → rest <:+ lines

/-- What is made of a reading leaves what the reading leaves. -/
theorem leaves_map {α : Type} {found : Option α} {f : α → Block Text × List Line}
    (part : ∀ a, found = some a → (f a).2 <:+ lines) : Leaves lines (found.map f) := by
  intro block rest read
  obtain ⟨a, here, same⟩ := Option.map_eq_some_iff.mp read
  have behind := part a here
  rwa [same] at behind

/-- Indented code leaves an end of the lines. -/
theorem leaves_indentedCode? : Leaves lines (indentedCode? frame line lines) := by
  intro block rest read
  rw [indentedCode?] at read
  split at read
  · cases gathered : codeLines frame lines with
    | mk more behind =>
      rw [gathered] at read
      obtain ⟨-, rfl⟩ := Prod.mk.inj (Option.some.inj read)
      rw [codeLines_append gathered]
      exact List.suffix_append _ _
  · cases read

/-- Fenced code leaves an end of the lines. -/
theorem leaves_fencedCode? : Leaves lines (fencedCode? frame line lines) :=
  leaves_map fun fence _ => fenceLines_suffix fence

/-- A rule leaves an end of the lines. -/
theorem leaves_rule? : Leaves lines (rule? frame line lines) := by
  intro block rest read
  rw [rule?] at read
  split at read
  · obtain ⟨-, rfl⟩ := Prod.mk.inj (Option.some.inj read)
    exact List.suffix_refl _
  · cases read

/-- A link definition leaves an end of the lines. -/
theorem leaves_definition? : Leaves lines (definition? frame line lines) := by
  rw [definition?]
  split
  · exact fun _ _ none => by cases none
  · exact leaves_map fun _ _ => List.drop_suffix _ _

/-- A plain heading leaves an end of the lines. -/
theorem leaves_plainHeading? : Leaves lines (plainHeading? frame line lines) :=
  leaves_map fun _ _ => List.suffix_refl _

/-- An underlined heading leaves an end of the lines. -/
theorem leaves_underlinedHeading? : Leaves lines (underlinedHeading? frame line lines) := by
  refine leaves_map fun found here => ?_
  obtain ⟨more, level, rest⟩ := found
  obtain ⟨underline, split⟩ := underlined?_append here
  rw [split, List.append_cons]
  exact List.suffix_append _ _

/-- Markup by the author leaves an end of the lines. -/
theorem leaves_authorHtml? : Leaves lines (authorHtml? frame line lines) := by
  refine leaves_map fun form _ => ?_
  dsimp only
  split
  · exact List.suffix_refl _
  · exact ⟨_, (htmlLines_append (rfl : htmlLines frame form lines = (_, _))).symm⟩

/-- A paragraph leaves an end of the lines. -/
theorem paragraph_suffix (frame : Frame) (line : Line) (lines : List Line) :
    (paragraph frame line lines).2 <:+ lines := by
  rw [paragraph]
  split
  rename_i more rest gathered
  rw [continuation_append gathered]
  exact List.suffix_append _ _

/-- Markup leaves an end of the lines. -/
theorem readHtml?_leaves {found : Block Text × List Line}
    (read : readHtml? frame line lines = .ok (some found)) : found.2 <:+ lines := by
  rw [readHtml?] at read
  split at read
  · cases read
  · rename_i block rest here
    dsimp only at read
    split at read
    · cases read
    · cases read
      exact leaves_authorHtml? block rest here

/-- A table leaves an end of the lines. -/
theorem table?_leaves {found : Block Text × List Line}
    (read : table? frame (line :: lines) = .ok (some found)) : found.2 <:+ lines := by
  rw [table?] at read
  split at read
  · cases read
  · simp only [bind, Except.bind, pure, Except.pure] at read
    split at read
    · cases read
    · rename_i rows rest
      cases read
      exact (tableRows_suffix rest).trans (List.drop_suffix 1 lines)

/-- A block of ready lines can be read. -/
theorem exists_readBlock (frame : Frame) (total : inside.Total) (itemTotal : insideItem.Total)
    (ready : Ready (line :: lines)) :
    ∃ block rest, readBlock inside insideItem frame line lines = .ok (block, rest) ∧
      Ready rest := by
  -- A reader that takes lines from the front leaves an end of sound lines, which is ready.
  have behind {block : Block Text} {rest : List Line} (part : rest <:+ lines) :
      ∃ found left, (.ok (block, rest) : Except BlockError _) = .ok (found, left) ∧ Ready left :=
    ⟨block, rest, rfl, ready.sound.behind.of_suffix part⟩
  have firm : ∀ next ∈ lines, next.Firm := ready.sound.firm
  have filled : ∀ next ∈ line :: lines, next.Filled :=
    List.forall_mem_cons.mpr ⟨ready.filled line rfl, fun next mem =>
      (firm next mem).filled⟩
  obtain ⟨table, ran⟩ := exists_table? frame line firm
  obtain ⟨markup, read⟩ := exists_readHtml? frame filled
  rw [readBlock, ran]
  dsimp only [bind, Except.bind, pure, Except.pure]
  split
  · exact behind (table?_leaves ran)
  split
  · rename_i found
    exact behind (leaves_indentedCode? _ _ found)
  split
  · exact exists_readContainer total ready.sound
  split
  · rename_i found
    exact behind (leaves_fencedCode? _ _ found)
  split
  · exact exists_readQuote total ready
  split
  · rename_i found
    exact behind (leaves_rule? _ _ found)
  split
  · exact exists_readList itemTotal ready
  split
  · rename_i found
    exact behind (leaves_definition? _ _ found)
  rw [read]
  dsimp only
  split
  · exact behind (readHtml?_leaves read)
  split
  · rename_i found
    exact behind (leaves_plainHeading? _ _ found)
  split
  · rename_i found
    exact behind (leaves_underlinedHeading? _ _ found)
  exact behind (paragraph_suffix frame line lines)

/-- A range of sound lines can be read. -/
theorem exists_readRange (total : inside.Total) (itemTotal : insideItem.Total) {fuel : Nat}
    {gap tight : Bool} (sound : Sound lines) (ready : fuel = 0 → Ready lines) :
    ∃ range, readRange inside insideItem frame fuel gap tight lines = .ok range ∧
      Ready range.rest := by
  induction fuel generalizing gap tight lines with
  | zero => exact ⟨_, rfl, ready rfl⟩
  | succ fuel ih =>
    have dropped := sound.dropWhile
    rw [readRange]
    split
    · exact ⟨_, rfl, ready_nil⟩
    · rename_i line following first
      rw [first] at dropped
      split
      · exact ⟨_, rfl, dropped⟩
      · obtain ⟨block, rest, read, behind⟩ := exists_readBlock frame total itemTotal dropped
        rw [read]
        dsimp only [bind, Except.bind]
        have next : Ready (if (rest.head?.map Line.isEmpty).getD false = true then rest.drop 1
            else rest) := by
          split
          · exact behind.of_suffix (List.drop_suffix 1 rest)
          · exact behind
        obtain ⟨range, readRest, left⟩ := ih next.sound fun _ => next
        rw [readRest]
        exact ⟨_, rfl, left⟩

end Inside

/-- With any room for nesting, sound lines are read. -/
theorem readBlocks_total (room : Nat) : (readBlocks room).Total := by
  refine readBlocks_induction passOver_total ?_ room
  intro inside insideItem total itemTotal frame lines sound
  exact exists_readRange total itemTotal sound fun none => by cases none

/-! ## Texts -/

/-- A line of nothing but quote markers and indentation, with one marker at least. -/
def isBareQuote (text : Text) : Bool :=
  text.contains '>' && text.all fun c => c == '>' || Text.isIndent c

/-- What is left of a line behind its indentation holds what is no indentation. -/
theorem firm_of {text : Text} (bare : isBareQuote text = false) (filled : isGap text = false)
    (isLast : Bool) : (Line.of isLast text).Firm := by
  intro _
  have solid : ∃ c ∈ text, c ≠ '>' ∧ Text.isIndent c = false := by
    rw [isGap, List.all_eq_false] at filled
    obtain ⟨d, there, solid⟩ := filled
    rw [Bool.not_eq_true] at solid
    by_cases quoted : '>' ∈ text
    · rw [isBareQuote, List.contains_iff_mem.mpr quoted, Bool.true_and, List.all_eq_false] at bare
      obtain ⟨c, mem, other⟩ := bare
      rw [Bool.or_eq_true, not_or, beq_iff_eq, Bool.not_eq_true] at other
      exact ⟨c, mem, other⟩
    · exact ⟨d, there, fun same => quoted (same ▸ there), solid⟩
  obtain ⟨c, mem, other, solid⟩ := solid
  obtain ⟨front, split, blank⟩ := indentation_split 0 0 text
  rw [split] at mem
  refine ⟨c, (List.mem_append.mp mem).resolve_left fun inFront => ?_, other, solid⟩
  rw [blank c inFront] at solid
  cases solid

/-- The lines of a text are sound unless the last one is a bare quote. -/
theorem linesOf_sound {texts : List Text}
    (last : ∀ text ∈ texts.getLast?, isBareQuote text = false) : Sound (linesOf texts) := by
  have firm : ∀ next ∈ linesOf texts, next.Firm := by
    fun_induction linesOf texts with
    | case1 => exact List.forall_mem_nil _
    | case2 text blank => exact List.forall_mem_nil _
    | case3 text filled =>
      rw [List.forall_mem_singleton]
      exact firm_of (last text rfl) (Bool.not_eq_true _ ▸ filled) true
    | case4 text texts more ih =>
      have goesOn : (Line.of false text).Firm := fun ends => absurd ends Bool.false_ne_true
      refine List.forall_mem_cons.mpr ⟨goesOn, ih fun next mem => last next ?_⟩
      rw [List.getLast?_cons_of_ne_nil more]
      exact mem
  have oneEnd := (linesOf_hits (v := ⟨fun _ => false, rfl⟩) texts).2
  exact ⟨oneEnd, fun next mem => firm next (List.mem_of_mem_tail mem)⟩

/-- The blocks of a text can be read unless its last line is a bare quote. -/
theorem exists_blocksOf {text : Text}
    (last : ∀ line ∈ (Text.splitOn '\n' (normalText text)).getLast?, isBareQuote line = false) :
    ∃ blocks, blocksOf text = .ok blocks := by
  obtain ⟨range, read, -⟩ := readBlocks_total blockLimit {} _ (linesOf_sound last)
  rw [blocksOf, lines, read]
  exact ⟨range.blocks, rfl⟩

end Loremark.Markdown
