import Loremark.Markdown.Block.Parse
import Mathlib.Data.Nat.Init

/-!
# What blocks are read from

What each reader of blocks has done if it returns: which reader inside it ran, on which lines, and
what came of it. What holds of all that is read follows from these lemmas, one case for each way to
read a block, and from one induction over the room for nesting (`readBlocks_induction`).
-/

set_option autoImplicit false

namespace Loremark.Markdown

variable {inside insideItem : Reader} {frame : Frame} {line : Line} {lines rest : List Line}
  {block : Block Text} {range : Range} {mark : ListMark}

/-! ## Blocks in blocks -/

/-- A container that is read holds what is read inside its lines. -/
theorem readContainer_inversion {count : Nat} {info : Text}
    (read : readContainer inside frame count info lines = .ok (block, rest)) :
    ∃ body range, containerLines frame count lines = .ok (body, rest) ∧
      inside frame body = .ok range ∧ block = .container info range.blocks := by
  simp only [readContainer, bind, Except.bind, pure, Except.pure] at read
  split at read
  · cases read
  · rename_i found gathered
    split at read
    · cases read
    · rename_i range ran
      cases read
      exact ⟨found.1, range, gathered, ran, rfl⟩

/-- A quote that is read holds what is read inside its unquoted lines. -/
theorem readQuote_inversion (read : readQuote inside frame line lines = .ok (block, rest)) :
    ∃ range, inside { frame with indent := 0 }
        (unquoted line :: quoteLines frame (unquoted line).isEmpty lines) = .ok range ∧
      block = .quote range.blocks ∧
      rest = (line :: lines).drop
        ((unquoted line :: quoteLines frame (unquoted line).isEmpty lines).length -
          range.rest.length) := by
  simp only [readQuote, bind, Except.bind, pure, Except.pure] at read
  split at read
  · cases read
  · rename_i range ran
    cases read
    exact ⟨range, ran, rfl, rfl⟩

/-- An item without content, or the blocks of a range that begins behind its marker. -/
theorem readItem_inversion {width : Nat}
    (read : readItem inside frame width line lines = .ok range) :
    range = ⟨[], lines.drop 1, true⟩ ∨
      inside ⟨(itemLine line width).2, frame.indent⟩ ((itemLine line width).1 :: lines) =
        .ok range := by
  rw [readItem] at read
  dsimp only at read
  split at read
  · exact .inl (Except.ok.inj read).symm
  · exact .inr read

/-! ## Lists -/

/-- The items of a list: an item, and either the list ends behind it or another item follows. -/
theorem readItems_inversion {fuel : Nat} {apart : Bool}
    (read : readItems inside frame (fuel + 1) apart mark line lines = .ok range) :
    ∃ item, readItem inside frame mark.width line lines = .ok item ∧
      ((range.blocks = [.item item.blocks] ∧ range.rest = item.rest) ∨
        ∃ next behind following items, item.rest = next :: behind ∧
          readItems inside frame fuel (endsBlank (line :: lines) (next :: behind)) following next
            behind = .ok items ∧
          range.blocks = .item item.blocks :: items.blocks ∧ range.rest = items.rest) := by
  rw [readItems] at read
  simp only [bind, Except.bind, pure, Except.pure] at read
  split at read
  · cases read
  · rename_i item ran
    refine ⟨item, ran, ?_⟩
    split at read
    · rename_i done
      cases read
      exact .inl ⟨rfl, done.symm⟩
    · rename_i next behind more
      have ended {tight : Bool} (same : Except.ok (ε := BlockError)
          (Range.mk [Block.item item.blocks] (next :: behind) tight) = .ok range) :
          range.blocks = [.item item.blocks] ∧ range.rest = item.rest := by
        cases same
        exact ⟨rfl, more.symm⟩
      split at read
      · exact .inl (ended read)
      split at read
      · cases read
      split at read
      · exact .inl (ended read)
      split at read
      · exact .inl (ended read)
      rename_i following _
      split at read
      · split at read
        · cases read
        · rename_i items found
          cases read
          exact .inr ⟨next, behind, following, items, more, found, rfl, rfl⟩
      · exact .inl (ended read)

/-- The items of a list as it shows them. -/
def shownItems (range : Range) : List (Block Text) :=
  if range.tight then range.blocks.map tighten else range.blocks

/-- A list that is read shows its items, with bullets or numbers. -/
theorem readList_inversion (read : readList inside frame mark line lines = .ok (block, rest)) :
    ∃ range, readItems inside frame (lines.length + 1) false mark line lines = .ok range ∧
      (block = .bulletList (shownItems range) ∨
        ∃ start, block = .orderedList start (shownItems range)) ∧
      rest = range.rest := by
  rw [readList] at read
  simp only [bind, Except.bind, pure, Except.pure] at read
  split at read
  · cases read
  · rename_i range ran
    split at read
    · cases read
      exact ⟨range, ran, .inl rfl, rfl⟩
    · cases read
      exact ⟨range, ran, .inr ⟨_, rfl⟩, rfl⟩

/-! ## Any block -/

/-- What a block is read by: one case for each reader, in the order in which they are tried. -/
inductive BlockRead (inside insideItem : Reader) (frame : Frame) (line : Line)
    (lines : List Line) (block : Block Text) (rest : List Line) : Prop
  | table (read : table? frame (line :: lines) = .ok (some (block, rest)))
  | code (read : indentedCode? frame line lines = some (block, rest))
  | container (count : Nat) (info : Text) (opened : container? frame line = some (count, info))
      (read : readContainer inside frame count info lines = .ok (block, rest))
  | fence (read : fencedCode? frame line lines = some (block, rest))
  | quote (opened : isQuoted frame line = true)
      (read : readQuote inside frame line lines = .ok (block, rest))
  | rule (read : rule? frame line lines = some (block, rest))
  | list (mark : ListMark) (opened : list? frame line = some mark)
      (read : readList insideItem frame mark line lines = .ok (block, rest))
  | definition (read : definition? frame line lines = some (block, rest))
  | html (read : readHtml? frame line lines = .ok (some (block, rest)))
  | heading (read : plainHeading? frame line lines = some (block, rest))
  | underlined (read : underlinedHeading? frame line lines = some (block, rest))
  | paragraph (read : Markdown.paragraph frame line lines = (block, rest))

/-- A block that is read is read by one of the readers. -/
theorem readBlock_inversion
    (read : readBlock inside insideItem frame line lines = .ok (block, rest)) :
    BlockRead inside insideItem frame line lines block rest := by
  rw [readBlock] at read
  simp only [bind, Except.bind, pure, Except.pure] at read
  -- One case for each reader, in the order in which they are tried.
  split at read
  · cases read
  rename_i table ran
  split at read
  · cases read
    exact .table ran
  split at read
  · rename_i found
    cases read
    exact .code found
  split at read
  · rename_i opened
    exact .container _ _ opened read
  split at read
  · rename_i found
    cases read
    exact .fence found
  split at read
  · rename_i opened
    exact .quote opened read
  split at read
  · rename_i found
    cases read
    exact .rule found
  split at read
  · rename_i opened
    exact .list _ opened read
  split at read
  · rename_i found
    cases read
    exact .definition found
  split at read
  · cases read
  rename_i markup ran
  split at read
  · cases read
    exact .html ran
  split at read
  · rename_i found
    cases read
    exact .heading found
  split at read
  · rename_i found
    cases read
    exact .underlined found
  exact .paragraph (Except.ok.inj read)

/-! ## Ranges -/

/-- The blocks of a range: none, or one in front of those of the lines behind it. Blank lines in
front of a block, and one behind it, belong to no block. -/
theorem readRange_inversion {fuel : Nat} {gap tight : Bool}
    (read : readRange inside insideItem frame (fuel + 1) gap tight lines = .ok range) :
    (range.blocks = [] ∧ range.rest <:+ lines) ∨
      ∃ line following block behind next gap' tight' more, line :: following <:+ lines ∧
        readBlock inside insideItem frame line following = .ok (block, behind) ∧
        next <:+ behind ∧
        readRange inside insideItem frame fuel gap' tight' next = .ok more ∧
        range.blocks = block :: more.blocks ∧ range.rest = more.rest := by
  have part : lines.dropWhile Line.isEmpty <:+ lines := List.dropWhile_suffix _
  rw [readRange] at read
  split at read
  · cases read
    exact .inl ⟨rfl, List.nil_suffix⟩
  · rename_i line following first
    rw [first] at part
    split at read
    · cases read
      exact .inl ⟨rfl, part⟩
    · simp only [bind, Except.bind, pure, Except.pure] at read
      split at read
      · cases read
      · rename_i found ran
        obtain ⟨block, behind⟩ := found
        split at read
        · cases read
        · rename_i more onward
          cases read
          refine .inr ⟨line, following, block, behind, _, _, _, more, part, ran, ?_, onward, rfl,
            rfl⟩
          split
          · exact List.drop_suffix 1 behind
          · exact List.suffix_refl behind

/-- What holds of passing over lines, and of a range whenever it holds of the readers inside it,
holds with any room for nesting. -/
theorem readBlocks_induction {good : Reader → Prop} (passes : good passOver)
    (range : ∀ {inside insideItem : Reader}, good inside → good insideItem →
      good fun frame lines =>
        readRange inside insideItem frame (lines.length + 1) false true lines)
    (room : Nat) : good (readBlocks room) := by
  -- A list takes room for itself and its item, so the readers inside come from two rooms.
  induction room using Nat.twoStepInduction with
  | zero => exact passes
  | one => exact range passes passes
  | more room smaller larger => exact range larger smaller

end Loremark.Markdown
