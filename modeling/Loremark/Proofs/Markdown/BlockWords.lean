import Loremark.Markdown.Block.Parse
import Loremark.Markdown.LineBreak
import Loremark.Proofs.Markdown.BlockReadings
import Loremark.Proofs.Markdown.TakenLines

/-!
# The words of blocks

Every reader of blocks takes lines from the front, and the texts of its blocks have no words but
those of the lines that it has taken, in their order (`blocksOf_sublist`).
-/

set_option autoImplicit false

namespace Loremark.Markdown

open Text (Vocabulary)

namespace Block

variable {Content : Type} (texts : Content → List Text)

mutual

/-- The texts of a block that are read again: those of its running text, and markup of the
author. -/
def textsOf : Block Content → List Text
  | paragraph _ content => texts content
  | heading _ content => texts content
  | bulletList children => textsOfAll children
  | orderedList _ children => textsOfAll children
  | item children => textsOfAll children
  | quote children => textsOfAll children
  | container _ children => textsOfAll children
  | html content => [content]
  | _ => []

/-- The texts of blocks that are read again. -/
def textsOfAll : List (Block Content) → List Text
  | [] => []
  | block :: blocks => textsOf block ++ textsOfAll blocks

end

variable {texts}

/-- The texts of two lists of blocks follow each other. -/
theorem textsOfAll_append (blocks others : List (Block Content)) :
    textsOfAll texts (blocks ++ others) = textsOfAll texts blocks ++ textsOfAll texts others := by
  induction blocks with
  | nil => rfl
  | cons block blocks ih =>
    rw [List.cons_append, textsOfAll, textsOfAll, ih, List.append_assoc]

end Block

/-- The texts of blocks whose running text has not been read. -/
def written (blocks : List (Block Text)) : List Text := Block.textsOfAll (fun text => [text]) blocks

variable {v : Vocabulary} {frame : Frame} {line : Line} {lines rest : List Line}
  {block : Block Text}

/-- The texts of one block are those of a list of it alone. -/
theorem written_singleton (block : Block Text) :
    written [block] = Block.textsOf (fun text => [text]) block := List.append_nil _

/-- The texts of the first block stand in front of those of the others. -/
theorem written_cons (block : Block Text) (blocks : List (Block Text)) :
    written (block :: blocks) = written [block] ++ written blocks := by
  rw [written_singleton]
  rfl

/-- Taking lines for a single text. -/
theorem takes_text {text : Text} {used : List Line}
    (fewer : (v.hits text).Sublist (lineHits v used)) : Takes v (used ++ rest) [text] rest := by
  refine takes_append ?_
  rwa [Vocabulary.hitsAll_singleton]

/-! ## Gathered lines -/

/-- The lines that go on with a paragraph are taken from the front. -/
theorem continuation_append {ends : List Line → Bool} {more : List Line}
    (gathered : continuation frame ends lines = (more, rest)) : lines = more ++ rest := by
  induction lines generalizing more rest with
  | nil =>
    obtain ⟨rfl, rfl⟩ := Prod.mk.inj gathered
    rfl
  | cons line lines ih =>
    rw [continuation] at gathered
    split at gathered
    · obtain ⟨rfl, rfl⟩ := Prod.mk.inj gathered
      rfl
    · cases found : continuation frame ends lines with
      | mk others behind =>
        rw [found] at gathered
        obtain ⟨rfl, rfl⟩ := Prod.mk.inj gathered
        rw [ih found, List.cons_append]

/-- A paragraph takes its lines. -/
theorem paragraph_takes (spaced : Spaced v) (read : paragraph frame line lines = (block, rest)) :
    Takes v (line :: lines) (written [block]) rest := by
  rw [paragraph] at read
  cases gathered : continuation frame (endsParagraph frame) lines with
  | mk more behind =>
    rw [gathered] at read
    obtain ⟨rfl, rfl⟩ := Prod.mk.inj read
    rw [continuation_append gathered, ← List.cons_append]
    exact takes_text (hits_runningText spaced frame (line :: more))

/-- An underlined heading has its lines and the underline in front of the rest. -/
theorem underlined?_append {more : List Line} {level : Nat}
    (found : underlined? frame lines = some (more, level, rest)) :
    ∃ underline, lines = more ++ underline :: rest := by
  induction lines generalizing more with
  | nil => cases found
  | cons line lines ih =>
    have onward
        (found : (underlined? frame lines).map (fun found => (line :: found.1, found.2)) =
          some (more, level, rest)) : ∃ underline, line :: lines = more ++ underline :: rest := by
      obtain ⟨⟨others, other, behind⟩, inside, same⟩ := Option.map_eq_some_iff.mp found
      cases same
      obtain ⟨underline, split⟩ := ih inside
      exact ⟨underline, by rw [split, List.cons_append]⟩
    rw [underlined?] at found
    dsimp only at found
    split at found
    · cases found
    · split at found
      · exact onward found
      · split at found
        · obtain ⟨rfl, same⟩ := Prod.mk.inj (Option.some.inj found)
          obtain ⟨-, rfl⟩ := Prod.mk.inj same
          exact ⟨line, rfl⟩
        · split at found
          · exact onward found
          · cases found

/-- An underlined heading takes its lines. -/
theorem underlinedHeading?_takes (spaced : Spaced v)
    (read : underlinedHeading? frame line lines = some (block, rest)) :
    Takes v (line :: lines) (written [block]) rest := by
  obtain ⟨⟨more, level, behind⟩, found, same⟩ := Option.map_eq_some_iff.mp read
  obtain ⟨rfl, rfl⟩ := Prod.mk.inj same
  obtain ⟨underline, split⟩ := underlined?_append found
  have taken : Takes v (line :: more ++ underline :: behind) _ (underline :: behind) :=
    takes_text (hits_runningText spaced frame (line :: more))
  rw [split, ← List.cons_append]
  exact taken.of_suffix (List.suffix_cons _ _)

/-- The text of a heading is a part of its line. -/
theorem infix_of_headingText (text : Text) : headingText text <:+: text := by
  have trimmed (isOuter : Char → Bool) (text : Text) :
      (text.reverse.dropWhile isOuter).reverse <+: text := by
    have back := List.reverse_prefix.mpr (List.dropWhile_suffix isOuter (l := text.reverse))
    rwa [List.reverse_reverse] at back
  rw [headingText]
  refine (infix_strip _ _).trans ?_
  have gap : trimGapEnd text <+: text := trimmed _ _
  split
  · exact ((trimmed _ _).trans gap).isInfix
  · exact gap.isInfix

/-- A plain heading takes its line. -/
theorem plainHeading?_takes (read : plainHeading? frame line lines = some (block, rest)) :
    Takes v (line :: lines) (written [block]) rest := by
  obtain ⟨⟨level, text⟩, found, same⟩ := Option.map_eq_some_iff.mp read
  obtain ⟨rfl, rfl⟩ := Prod.mk.inj same
  have part : text <:+: line.text := by
    rw [heading?] at found
    dsimp only [runOf] at found
    split at found
    · obtain ⟨-, rfl⟩ := Prod.mk.inj (Option.some.inj found)
      exact (infix_of_headingText _).trans
        ((List.dropWhile_suffix _).trans (content_suffix line)).isInfix
    · cases found
  have fewer : (v.hits text).Sublist (lineHits v [line]) := by
    rw [lineHits, List.map_singleton, Vocabulary.hitsAll_singleton]
    exact Vocabulary.hits_infix_sublist part
  exact takes_text fewer

/-- A rule takes its line. -/
theorem rule?_takes (read : rule? frame line lines = some (block, rest)) :
    Takes v (line :: lines) (written [block]) rest := by
  rw [rule?] at read
  split at read
  · obtain ⟨rfl, rfl⟩ := Prod.mk.inj (Option.some.inj read)
    exact takes_of_suffix (List.suffix_cons _ _)
  · cases read

/-- The lines of indented code are taken from the front. -/
theorem codeLines_append {more : List Line} (gathered : codeLines frame lines = (more, rest)) :
    lines = more ++ rest := by
  induction lines generalizing more rest with
  | nil =>
    obtain ⟨rfl, rfl⟩ := Prod.mk.inj gathered
    rfl
  | cons line lines ih =>
    rw [codeLines] at gathered
    cases found : codeLines frame lines with
    | mk others behind =>
      rw [found] at gathered
      dsimp only at gathered
      have split := ih found
      split at gathered
      · split at gathered
        all_goals
          obtain ⟨rfl, rfl⟩ := Prod.mk.inj gathered
          simp [split]
      · split at gathered
        all_goals
          obtain ⟨rfl, rfl⟩ := Prod.mk.inj gathered
          simp [split]

/-- Indented code takes its lines. -/
theorem indentedCode?_takes (read : indentedCode? frame line lines = some (block, rest)) :
    Takes v (line :: lines) (written [block]) rest := by
  rw [indentedCode?] at read
  split at read
  · cases gathered : codeLines frame lines with
    | mk more behind =>
      rw [gathered] at read
      obtain ⟨rfl, rfl⟩ := Prod.mk.inj (Option.some.inj read)
      rw [codeLines_append gathered, ← List.cons_append]
      exact takes_of_suffix (List.suffix_append _ _)
  · cases read

/-- What follows a fence is an end of the lines. -/
theorem fenceLines_suffix (fence : Fence) : (fenceLines frame fence lines).2 <:+ lines := by
  induction lines with
  | nil => exact List.suffix_refl _
  | cons line lines ih =>
    rw [fenceLines]
    split
    · exact List.suffix_refl _
    · split
      · exact List.suffix_cons _ _
      · exact ih.trans (List.suffix_cons _ _)

/-- Fenced code takes its lines. -/
theorem fencedCode?_takes (read : fencedCode? frame line lines = some (block, rest)) :
    Takes v (line :: lines) (written [block]) rest := by
  obtain ⟨fence, -, same⟩ := Option.map_eq_some_iff.mp read
  obtain ⟨rfl, rfl⟩ := Prod.mk.inj same
  exact takes_of_suffix ((fenceLines_suffix fence).trans (List.suffix_cons _ _))

/-- The lines of markup by the author are taken from the front. -/
theorem htmlLines_append {form : HtmlForm} {more : List Line}
    (gathered : htmlLines frame form lines = (more, rest)) : lines = more ++ rest := by
  induction lines generalizing more rest with
  | nil =>
    obtain ⟨rfl, rfl⟩ := Prod.mk.inj gathered
    rfl
  | cons line lines ih =>
    rw [htmlLines] at gathered
    split at gathered
    · obtain ⟨rfl, rfl⟩ := Prod.mk.inj gathered
      rfl
    · split at gathered
      · split at gathered
        all_goals
          obtain ⟨rfl, rfl⟩ := Prod.mk.inj gathered
          rfl
      · cases found : htmlLines frame form lines with
        | mk others behind =>
          rw [found] at gathered
          obtain ⟨rfl, rfl⟩ := Prod.mk.inj gathered
          rw [ih found, List.cons_append]

/-- Markup by the author takes its lines. -/
theorem authorHtml?_takes (spaced : Spaced v) (oneEnd : OneEnd (line :: lines))
    (read : authorHtml? frame line lines = some (block, rest)) :
    Takes v (line :: lines) (written [block]) rest := by
  obtain ⟨form, -, same⟩ := Option.map_eq_some_iff.mp read
  have gathered {more behind : List Line} (split : lines = more ++ behind) :
      Takes v (line :: lines) [fullText frame.indent (line :: more)] behind := by
    rw [split, ← List.cons_append] at oneEnd ⊢
    have first : OneEnd (line :: more) := oneEnd.sublist (List.sublist_append_left _ _)
    exact takes_text (hits_fullText spaced _ first)
  split at same
  rename_i more behind found
  obtain ⟨rfl, rfl⟩ := Prod.mk.inj same
  refine gathered ?_
  split at found
  · obtain ⟨rfl, rfl⟩ := Prod.mk.inj found
    rfl
  · exact htmlLines_append found

/-- Markup that is read takes its lines. -/
theorem readHtml?_takes (spaced : Spaced v) (oneEnd : OneEnd (line :: lines))
    (read : readHtml? frame line lines = .ok (some (block, rest))) :
    Takes v (line :: lines) (written [block]) rest := by
  rw [readHtml?] at read
  split at read
  · cases read
  · rename_i found
    dsimp only at read
    split at read
    · cases read
    · cases read
      exact authorHtml?_takes spaced oneEnd found

/-- A link definition takes its lines. -/
theorem definition?_takes (read : definition? frame line lines = some (block, rest)) :
    Takes v (line :: lines) (written [block]) rest := by
  rw [definition?] at read
  split at read
  · cases read
  · obtain ⟨⟨key, target, behind⟩, -, same⟩ := Option.map_eq_some_iff.mp read
    obtain ⟨rfl, rfl⟩ := Prod.mk.inj same
    exact takes_of_suffix ((List.drop_suffix _ _).trans (List.suffix_cons _ _))

/-! ## Tables, containers and quotes -/

/-- What follows the rows of a table is an end of the lines. -/
theorem tableRows_suffix {width : Nat} {added : Int} {rows : List (List Text)}
    (read : tableRows frame width added lines = .ok (rows, rest)) : rest <:+ lines := by
  induction lines generalizing added rows rest with
  | nil =>
    cases read
    exact List.suffix_refl _
  | cons line lines ih =>
    rw [tableRows] at read
    simp only [bind, Except.bind, pure, Except.pure] at read
    split at read
    · cases read
      exact List.suffix_refl _
    · split at read
      · cases read
      · split at read
        · cases read
          exact List.suffix_refl _
        · split at read
          · cases read
          · rename_i others found
            cases read
            exact (ih found).trans (List.suffix_cons _ _)

/-- A table takes its lines. -/
theorem table?_takes (read : table? frame (line :: lines) = .ok (some (block, rest))) :
    Takes v (line :: lines) (written [block]) rest := by
  rw [table?] at read
  split at read
  · cases read
  · simp only [bind, Except.bind, pure, Except.pure] at read
    split at read
    · cases read
    · rename_i rows found
      cases read
      exact takes_of_suffix ((tableRows_suffix found).trans (List.drop_suffix _ _))

/-- A container's lines stand in front of its closing line and the rest. -/
theorem containerLines_append {count : Nat} {body : List Line}
    (read : containerLines frame count lines = .ok (body, rest)) :
    ∃ closing, lines = body ++ (closing ++ rest) := by
  induction lines generalizing body rest with
  | nil =>
    cases read
    exact ⟨[], rfl⟩
  | cons line lines ih =>
    rw [containerLines] at read
    simp only [bind, Except.bind, pure, Except.pure] at read
    split at read
    · cases read
      exact ⟨[], rfl⟩
    · split at read
      · cases read
      · split at read
        · cases read
          exact ⟨[line], rfl⟩
        · split at read
          · cases read
          · rename_i found
            cases read
            obtain ⟨closing, split⟩ := ih found
            exact ⟨closing, by rw [split, List.cons_append]⟩

/-- A line of a quote without its marker, beside the line as it stands in front. -/
def Unquoted (inner line : Line) : Prop := inner.text <:+ line.text ∧ inner.isLast = line.isLast

/-- An end of a line that is put in its place is the line without a marker. -/
theorem unquoted_place (line : Line) (text : Text) (start origin shifted : Int)
    (part : text <:+ line.text) : Unquoted (unquoted.place line text start origin shifted) line :=
  ⟨part, rfl⟩

/-- An unquoted line is the line without its marker. -/
theorem unquoted_unquoted (line : Line) : Unquoted (unquoted line) line := by
  have inner : line.content.drop 1 <:+ line.text :=
    (List.drop_suffix _ _).trans (content_suffix line)
  rw [unquoted]
  split
  · rename_i text same
    rw [same] at inner
    exact unquoted_place line text _ _ _ ((List.suffix_cons _ _).trans inner)
  · rename_i text same
    rw [same] at inner
    split
    · exact unquoted_place line text _ _ _ ((List.suffix_cons _ _).trans inner)
    · exact unquoted_place line _ _ _ _ inner
  · exact unquoted_place line _ _ _ _ inner

/-- The lines of a quote are the first lines, unquoted. -/
theorem quoteLines_unquoted (frame : Frame) (blank : Bool) (lines : List Line) :
    ∃ taken others, lines = taken ++ others ∧
      List.Forall₂ Unquoted (quoteLines frame blank lines) taken := by
  induction lines generalizing blank with
  | nil => exact ⟨[], [], rfl, .nil⟩
  | cons line lines ih =>
    have onward {inner : Line} (here : Unquoted inner line) (blank : Bool) :
        ∃ taken others, line :: lines = taken ++ others ∧
          List.Forall₂ Unquoted (inner :: quoteLines frame blank lines) taken := by
      obtain ⟨taken, others, split, behind⟩ := ih blank
      exact ⟨line :: taken, others, by rw [split, List.cons_append], .cons here behind⟩
    rw [quoteLines]
    split
    · exact ⟨[], line :: lines, rfl, .nil⟩
    · split
      · exact onward (unquoted_unquoted line) _
      · split
        · exact ⟨[], line :: lines, rfl, .nil⟩
        · have same : Unquoted { line with column := -1 } line := ⟨List.suffix_refl _, rfl⟩
          exact onward same false

/-- Unquoted lines end the text at most once, too. -/
theorem oneEnd_of_unquoted {inner outer : List Line} (pairs : List.Forall₂ Unquoted inner outer)
    (oneEnd : OneEnd outer) : OneEnd inner := by
  have same : inner.map Line.isLast = outer.map Line.isLast := by
    induction pairs with
    | nil => rfl
    | cons here behind ih => rw [List.map_cons, List.map_cons, here.2, ih oneEnd.of_cons]
  rwa [oneEnd_iff, same, ← oneEnd_iff]

/-- Unquoted lines have no words but those of the lines. -/
theorem lineHits_unquoted {inner outer : List Line} (pairs : List.Forall₂ Unquoted inner outer) :
    (lineHits v inner).Sublist (lineHits v outer) := by
  refine Vocabulary.hitsAll_sublist_of_forall₂ ?_
  rw [List.forall₂_map_left_iff, List.forall₂_map_right_iff]
  exact pairs.imp fun _ _ here => Vocabulary.hits_suffix_sublist here.1

/-- Tight blocks have the same texts. -/
theorem written_tighten (blocks : List (Block Text)) :
    written (blocks.map tighten) = written blocks := by
  have tightened (block : Block Text) : written [tighten block] = written [block] := by
    rw [tighten.eq_def]
    split
    · rename_i children
      rw [written_singleton, written_singleton, Block.textsOf, Block.textsOf]
      induction children with
      | nil => rfl
      | cons child children ih =>
        rw [List.map_cons, Block.textsOfAll, Block.textsOfAll, ih]
        congr 1
        cases child <;> rfl
    · rfl
  induction blocks with
  | nil => rfl
  | cons block blocks ih =>
    rw [List.map_cons, written_cons, tightened, ih, ← written_cons]

/-! ## Readers inside readers -/

/-- A reader whose blocks have no words but those of the lines that it takes. -/
def Reader.Faithful (v : Vocabulary) (inside : Reader) : Prop :=
  ∀ frame lines range, OneEnd lines → inside frame lines = .ok range →
    Takes v lines (written range.blocks) range.rest

section Inside

variable {inside : Reader} (faithful : inside.Faithful v)

include faithful

/-- A container takes its lines. -/
theorem readContainer_takes {count : Nat} {info : Text} (oneEnd : OneEnd (line :: lines))
    (read : readContainer inside frame count info lines = .ok (block, rest)) :
    Takes v (line :: lines) (written [block]) rest := by
  obtain ⟨body, range, gathered, ran, rfl⟩ := readContainer_inversion read
  obtain ⟨closing, rfl⟩ := containerLines_append gathered
  have inBody : OneEnd body := oneEnd.of_cons.sublist (List.sublist_append_left _ _)
  have fewer := (faithful _ _ _ inBody ran).sublist
  rw [written_singleton, ← List.cons_append]
  have taken : Takes v (line :: body ++ (closing ++ rest)) (written range.blocks)
      (closing ++ rest) :=
    takes_append (fewer.trans (lineHits_sublist (List.sublist_cons_self _ _)))
  exact taken.of_suffix (List.suffix_append _ _)

/-- A quote takes its lines. -/
theorem readQuote_takes (oneEnd : OneEnd (line :: lines))
    (read : readQuote inside frame line lines = .ok (block, rest)) :
    Takes v (line :: lines) (written [block]) rest := by
  obtain ⟨range, ran, rfl, rfl⟩ := readQuote_inversion read
  obtain ⟨taken, others, rfl, behind⟩ := quoteLines_unquoted frame (unquoted line).isEmpty lines
  have pairs : List.Forall₂ Unquoted
      (unquoted line :: quoteLines frame (unquoted line).isEmpty (taken ++ others))
      (line :: taken) := .cons (unquoted_unquoted line) behind
  rw [← List.cons_append] at oneEnd ⊢
  -- The reader takes as many lines of the text as it takes of the quote.
  have inQuote := oneEnd_of_unquoted pairs (oneEnd.sublist (List.sublist_append_left _ _))
  have fewer := (faithful _ _ _ inQuote ran).sublist_take
  have length := pairs.length_eq
  generalize unquoted line :: quoteLines frame (unquoted line).isEmpty (taken ++ others) = quoted
    at pairs inQuote fewer length ⊢
  have le : quoted.length - range.rest.length ≤ (line :: taken).length := by omega
  generalize quoted.length - range.rest.length = count at fewer le
  have used : Takes v ((line :: taken).take count ++ ((line :: taken).drop count ++ others))
      (written range.blocks) ((line :: taken).drop count ++ others) :=
    takes_append (fewer.trans (lineHits_unquoted (List.forall₂_take count pairs)))
  rw [← List.append_assoc, List.take_append_drop] at used
  rw [List.drop_append_of_le_length le, written_singleton]
  exact used

/-- An item of a list takes its lines. -/
theorem readItem_takes {width : Nat} {range : Range} (oneEnd : OneEnd (line :: lines))
    (read : readItem inside frame width line lines = .ok range) :
    Takes v (line :: lines) (written range.blocks) range.rest := by
  obtain rfl | ran := readItem_inversion read
  · exact takes_of_suffix ((List.drop_suffix 1 lines).trans (List.suffix_cons _ _))
  · have same : bodies (line :: lines) = bodies ((itemLine line width).1 :: lines) := rfl
    exact (faithful _ _ _ ((oneEnd_congr same).mp oneEnd) ran).of_bodies same

/-- Items of a list take their lines. -/
theorem readItems_takes {fuel : Nat} {apart : Bool} {mark : ListMark} {range : Range}
    (oneEnd : OneEnd (line :: lines))
    (read : readItems inside frame fuel apart mark line lines = .ok range) :
    Takes v (line :: lines) (written range.blocks) range.rest := by
  induction fuel generalizing apart mark line lines range with
  | zero =>
    cases read
    exact takes_of_suffix (List.suffix_refl _)
  | succ fuel ih =>
    obtain ⟨item, ran, next⟩ := readItems_inversion read
    have first := readItem_takes faithful oneEnd ran
    have alone : written [.item item.blocks] = written item.blocks := written_singleton _
    obtain ⟨same, done⟩ | ⟨next, behind, following, items, split, more, same, done⟩ := next
    · rw [same, done, alone]
      exact first
    · rw [split] at first
      rw [same, done, written_cons, alone]
      exact first.trans (ih (first.oneEnd oneEnd) more)

/-- A list takes its lines. -/
theorem readList_takes {mark : ListMark} (oneEnd : OneEnd (line :: lines))
    (read : readList inside frame mark line lines = .ok (block, rest)) :
    Takes v (line :: lines) (written [block]) rest := by
  obtain ⟨range, ran, same, rfl⟩ := readList_inversion read
  have takes := readItems_takes faithful oneEnd ran
  have shown : written (shownItems range) = written range.blocks := by
    rw [shownItems]
    split
    · exact written_tighten _
    · rfl
  rw [← shown] at takes
  obtain rfl | ⟨start, rfl⟩ := same
  · rw [written_singleton]
    exact takes
  · rw [written_singleton]
    exact takes

/-- Whichever reader reads a block, it takes its lines. -/
theorem readBlock_takes {insideItem : Reader} (spaced : Spaced v)
    (itemFaithful : insideItem.Faithful v) (oneEnd : OneEnd (line :: lines))
    (read : readBlock inside insideItem frame line lines = .ok (block, rest)) :
    Takes v (line :: lines) (written [block]) rest := by
  cases readBlock_inversion read with
  | table found => exact table?_takes found
  | code found => exact indentedCode?_takes found
  | container count info _ ran => exact readContainer_takes faithful oneEnd ran
  | fence found => exact fencedCode?_takes found
  | quote _ ran => exact readQuote_takes faithful oneEnd ran
  | rule found => exact rule?_takes found
  | list mark _ ran => exact readList_takes itemFaithful oneEnd ran
  | definition found => exact definition?_takes found
  | html found => exact readHtml?_takes spaced oneEnd found
  | heading found => exact plainHeading?_takes found
  | underlined found => exact underlinedHeading?_takes spaced found
  | paragraph same => exact paragraph_takes spaced same

/-- A range of blocks takes the lines that it is read from. -/
theorem readRange_takes {insideItem : Reader} (spaced : Spaced v)
    (itemFaithful : insideItem.Faithful v) {fuel : Nat} {gap tight : Bool} {range : Range}
    (oneEnd : OneEnd lines)
    (read : readRange inside insideItem frame fuel gap tight lines = .ok range) :
    Takes v lines (written range.blocks) range.rest := by
  induction fuel generalizing gap tight lines range with
  | zero =>
    cases read
    exact takes_of_suffix (List.suffix_refl _)
  | succ fuel ih =>
    obtain ⟨none, behind⟩ | ⟨line, following, block, rest, next, _, _, more, part, ran, blank,
      onward, same, done⟩ := readRange_inversion read
    · rw [none]
      exact takes_of_suffix behind
    · have inBlock := oneEnd.of_suffix part
      have taken := (readBlock_takes faithful spaced itemFaithful inBlock ran).of_suffix blank
      have behind := ih (taken.oneEnd inBlock) onward
      rw [same, done, written_cons]
      exact (takes_of_suffix part).trans (taken.trans behind)

end Inside

/-- Passing over all lines adds no words. -/
theorem passOver_faithful : passOver.Faithful v := by
  intro frame lines range _ read
  have part : lines.dropWhile Line.isEmpty <:+ lines := List.dropWhile_suffix _
  rw [passOver] at read
  split at read
  · cases read
    exact takes_of_suffix List.nil_suffix
  · rename_i line rest first
    cases read
    refine takes_of_suffix ?_
    dsimp only
    split
    · rwa [← first]
    · exact List.nil_suffix

/-- With any room for nesting, the blocks of lines have no words that the lines have not. -/
theorem readBlocks_faithful (spaced : Spaced v) (room : Nat) : (readBlocks room).Faithful v := by
  refine readBlocks_induction passOver_faithful ?_ room
  intro inside insideItem faithful itemFaithful frame lines range oneEnd read
  exact readRange_takes faithful spaced itemFaithful oneEnd read

/-! ## Texts -/

/-- The lines of texts have no words but theirs, and the last one alone ends a text. -/
theorem linesOf_hits (texts : List Text) :
    (lineHits v (linesOf texts)).Sublist (v.hitsAll texts) ∧ OneEnd (linesOf texts) := by
  fun_induction linesOf texts with
  | case1 => exact ⟨List.Sublist.refl _, .nil⟩
  | case2 text blank => exact ⟨List.nil_sublist _, .nil⟩
  | case3 text filled => exact ⟨List.Sublist.refl _, List.pairwise_singleton _ _⟩
  | case4 text texts more ih =>
    refine ⟨?_, .cons (fun _ _ => rfl) ih.2⟩
    rw [lineHits_cons, Vocabulary.hitsAll_cons]
    exact (List.Sublist.refl _).append ih.1

/-- The words of a text do not depend on how its lines end. -/
theorem hits_unifyNewlines (spaced : Spaced v) (text front : Text) :
    v.hits (front ++ Text.unifyNewlines text) = v.hits (front ++ text) := by
  fun_induction Text.unifyNewlines text generalizing front with
  | case1 => rfl
  | case2 text ih =>
    rw [Vocabulary.hits_append_cons spaced.lineEnd, Vocabulary.hits_append_cons spaced.carriage,
      Vocabulary.hits_cons spaced.lineEnd]
    exact congrArg (v.hits front ++ ·) (ih [])
  | case3 text _ ih =>
    rw [Vocabulary.hits_append_cons spaced.lineEnd, Vocabulary.hits_append_cons spaced.carriage]
    exact congrArg (v.hits front ++ ·) (ih [])
  | case4 c text _ _ ih =>
    have behind := ih (front ++ [c])
    rwa [List.append_assoc, List.append_assoc] at behind

/-- The words of a text are those of what is read from it. -/
theorem hits_normalText (spaced : Spaced v) (text : Text) :
    v.hits (normalText text) = v.hits text := by
  have replaced (text front : Text) :
      v.hits (front ++ text.map fun c => if c == '\x00' then '\ufffd' else c) =
        v.hits (front ++ text) := by
    induction text generalizing front with
    | nil => rfl
    | cons c text ih =>
      rw [List.map_cons]
      split
      · rename_i isNull
        rw [beq_iff_eq.mp isNull, Vocabulary.hits_append_cons spaced.replacement,
          Vocabulary.hits_append_cons spaced.null]
        exact congrArg (v.hits front ++ ·) (ih [])
      · have behind := ih (front ++ [c])
        rwa [List.append_assoc, List.append_assoc] at behind
  exact (replaced _ []).trans (hits_unifyNewlines spaced text [])

/-- Line breaks as typed bring no words and take none away. -/
theorem hits_withLineBreaks (spaced : Spaced v) (text : Text) :
    v.hits (withLineBreaks text) = v.hits text := by
  have broken (line next : Text) : v.hits (breakLine line next) = v.hits line := by
    have spaces : ∀ d ∈ [' ', ' '], v.Separates d := by simpa using spaced.space
    rw [breakLine]
    split
    · exact Vocabulary.hits_append_separators spaces line
    · rfl
  have same (fenced : Bool) (lines : List Text) :
      v.hitsAll (breakLines fenced lines) = v.hitsAll lines := by
    fun_induction breakLines fenced lines with
    | case1 => rfl
    | case2 => rfl
    | case3 fenced line next lines _ ih =>
      rw [Vocabulary.hitsAll_cons, ih, ← Vocabulary.hitsAll_cons]
    | case4 line next lines _ ih =>
      rw [Vocabulary.hitsAll_cons, ih, ← Vocabulary.hitsAll_cons]
    | case5 fenced line next lines _ _ ih =>
      rw [Vocabulary.hitsAll_cons, broken, ih, ← Vocabulary.hitsAll_cons]
  rw [withLineBreaks, Vocabulary.hits_joinWith spaced.lineEnd, same,
    Vocabulary.hitsAll_splitOn spaced.lineEnd]

/-- The texts of the blocks of a text have no words that the text has not. -/
theorem blocksOf_sublist (spaced : Spaced v) {text : Text} {blocks : List (Block Text)}
    (read : blocksOf text = .ok blocks) :
    (v.hitsAll (written blocks)).Sublist (v.hits text) := by
  rw [blocksOf] at read
  simp only [bind, Except.bind, pure, Except.pure] at read
  split at read
  · cases read
  · rename_i range ran
    cases read
    obtain ⟨fewer, oneEnd⟩ := linesOf_hits (v := v) (Text.splitOn '\n' (normalText text))
    have taken := (readBlocks_faithful spaced blockLimit {} (lines text) range oneEnd ran).sublist
    rw [Vocabulary.hitsAll_splitOn spaced.lineEnd, hits_normalText spaced] at fewer
    exact taken.trans fewer

end Loremark.Markdown
