import Loremark.Proofs.Markdown.BlockReadings
import Loremark.Proofs.Markdown.DefinitionSpaces
import Loremark.Proofs.Markdown.TwinLines

/-!
# Blocks of twin lines

The blocks of lines do not depend on which line of each twin was picked, but for the running text,
markup and code in them: every reader fails for all choices or for none, takes the same twins, and
finds the same blocks of code, which hold the picked lines of the same twins
(`readBlocks_steady`).
-/

set_option autoImplicit false

namespace Loremark.Markdown

namespace Block

variable {Content : Type}

mutual

/-- What stands in the blocks of code that a block is or holds, in order. -/
def codes : Block Content → List Text
  | code content => [content]
  | fence _ content => [content]
  | bulletList children => codesAll children
  | orderedList _ children => codesAll children
  | item children => codesAll children
  | quote children => codesAll children
  | container _ children => codesAll children
  | _ => []

/-- What stands in the blocks of code among blocks, in order. -/
def codesAll : List (Block Content) → List Text
  | [] => []
  | block :: blocks => codes block ++ codesAll blocks

end

/-- The code of the first block stands in front of that of the others. -/
theorem codesAll_cons (block : Block Content) (blocks : List (Block Content)) :
    codesAll (block :: blocks) = codes block ++ codesAll blocks := by rw [codesAll]

end Block

/-- A block of code: the column where its content begins, and its lines. In a fence the last line
of the text has no line end. -/
structure CodeBlock where
  width : Int
  fenced : Bool
  twins : List Twin

/-- What stands in a block of code. -/
def CodeBlock.text (chosen : Choice) (code : CodeBlock) : Text :=
  code.twins.flatMap fun twin =>
    (twin.pick chosen).cut code.width ++ (if code.fenced && twin.plain.isLast then [] else ['\n'])

/-- Blocks that hold the same blocks of code whichever lines were picked. -/
def Holds (codes : List CodeBlock) (found : Choice → List Text) : Prop :=
  ∀ chosen, found chosen = codes.map (CodeBlock.text chosen)

/-- No blocks hold no code. -/
theorem holds_nil : Holds [] fun _ => [] := fun _ => rfl

/-- The code of two lists of blocks is held one behind the other. -/
theorem Holds.append {codes others : List CodeBlock} {found further : Choice → List Text}
    (first : Holds codes found) (second : Holds others further) :
    Holds (codes ++ others) fun chosen => found chosen ++ further chosen := by
  intro chosen
  rw [List.map_append, ← first, ← second]

/-- Readings of a block that take the same twins and find the same code. -/
def SteadyBlock (found : Choice → Block Text × List Line) : Prop :=
  ∃ (block : Choice → Block Text) (codes : List CodeBlock) (rest : List Twin),
    found = (fun chosen => (block chosen, pickAll chosen rest)) ∧
      Holds codes fun chosen => (block chosen).codes

/-- Readings of a range that leave the same twins and find the same code. -/
def SteadyRange (found : Choice → Range) : Prop :=
  ∃ (blocks : Choice → List (Block Text)) (codes : List CodeBlock) (rest : List Twin)
    (tight : Bool), found = (fun chosen => ⟨blocks chosen, pickAll chosen rest, tight⟩) ∧
      Holds codes fun chosen => Block.codesAll (blocks chosen)

/-- Readings of a block that find none for all choices, or one for all. -/
def SteadyReading (reading : Choice → BlockReading) : Prop :=
  (∀ chosen, reading chosen = none) ∨ ∃ found, SteadyBlock found ∧
    ∀ chosen, reading chosen = some (found chosen)

/-- A reader to which it makes no difference which lines were picked. -/
def Reader.Steady (inside : Reader) : Prop :=
  ∀ frame twins, Concurs SteadyRange fun chosen => inside frame (pickAll chosen twins)

/-- A block without code takes the same lines for all choices. -/
theorem steady_plain {block : Choice → Block Text} (plain : ∀ chosen, (block chosen).codes = [])
    (rest : List Twin) : SteadyBlock fun chosen => (block chosen, pickAll chosen rest) :=
  ⟨block, [], rest, rfl, plain⟩

variable {frame : Frame} {twin : Twin} {twins : List Twin}

/-! ## Code -/

/-- Texts joined by line ends, with one at the end, are lines one behind the other. -/
theorem joinWith_flatMap (text : Text) (texts : List Text) :
    Text.joinWith ['\n'] (text :: texts) ++ ['\n'] = (text :: texts).flatMap (· ++ ['\n']) := by
  induction texts generalizing text with
  | nil => simp [Text.joinWith]
  | cons next texts ih =>
    rw [Text.joinWith_cons (List.cons_ne_nil next texts), List.append_assoc, ih]
    simp

/-- Indented code takes the same lines for all choices. -/
theorem indentedCode?_steady (filled : twin.plain.isEmpty = false) :
    SteadyReading fun chosen => indentedCode? frame (twin.pick chosen) (pickAll chosen twins) := by
  have alike (chosen : Choice) := twin.alike_pick chosen
  cases code : frame.isCode twin.plain with
  | false => exact .inl fun chosen => by simp [indentedCode?, (alike chosen).isCode filled, code]
  | true =>
    obtain ⟨more, rest, gathered⟩ := codeLines_pickAll frame twins
    refine .inr ⟨fun chosen => (.code (textOf (4 + frame.indent) (pickAll chosen (twin :: more)) ++
      ['\n']), pickAll chosen rest), ⟨_, [⟨4 + frame.indent, false, twin :: more⟩], rest, rfl,
      fun chosen => ?_⟩, fun chosen => ?_⟩
    · simp only [Block.codes, textOf, pickAll_cons, List.map_cons, joinWith_flatMap]
      simp [CodeBlock.text, pickAll, List.flatMap_map]
    · simp [indentedCode?, (alike chosen).isCode filled, code, gathered]

/-- No fence is made of spaces. -/
theorem fence?_solid {line : Line} {fence : Fence} (opened : fence? frame line = some fence) :
    fence.marker ≠ ' ' := by
  rw [fence?] at opened
  split at opened
  · cases opened
  · split at opened
    · cases opened
    · rename_i marker text _
      dsimp only at opened
      split at opened
      · rename_i marked
        cases opened
        rintro rfl
        exact absurd marked (by simp)
      · cases opened

/-- Fenced code takes the same lines for all choices. -/
theorem fencedCode?_steady (filled : twin.plain.isEmpty = false) :
    SteadyReading fun chosen => fencedCode? frame (twin.pick chosen) (pickAll chosen twins) := by
  have alike (chosen : Choice) := twin.alike_pick chosen
  cases opened : fence? frame twin.plain with
  | none =>
    refine .inl fun chosen => ?_
    have none := (alike chosen).fence? frame
    rw [opened, Option.map_none, Option.map_eq_none_iff] at none
    simp only [fencedCode?, none, Option.map_none]
  | some fence =>
    obtain ⟨body, rest, gathered⟩ :=
      fenceLines_pickAll frame (fence?_solid opened) fence.length twins
    have found (chosen : Choice) : ∃ info, fence? frame (twin.pick chosen) =
        some ⟨fence.marker, fence.length, info⟩ := by
      have same := (alike chosen).fence? frame
      rw [opened, Option.map_some, Option.map_eq_some_iff] at same
      obtain ⟨⟨marker, length, info⟩, here, pair⟩ := same
      obtain ⟨rfl, rfl⟩ := Prod.mk.inj pair
      exact ⟨info, here⟩
    choose info found using found
    refine .inr ⟨fun chosen => (.fence (info chosen) (fullText twin.plain.column
      (pickAll chosen body)), pickAll chosen rest),
      ⟨_, [⟨twin.plain.column, true, body⟩], rest, rfl, fun chosen => ?_⟩, fun chosen => ?_⟩
    · simp [Block.codes, CodeBlock.text, fullText, pickAll, List.flatMap_map]
    · simp only [fencedCode?, found, Option.map_some, gathered, (alike chosen).column filled]

/-! ## Blocks without code -/

/-- A block without code is found for all choices. -/
theorem steadyReading_some {block : Choice → Block Text}
    (plain : ∀ chosen, (block chosen).codes = []) (rest : List Twin) :
    SteadyReading fun chosen => some (block chosen, pickAll chosen rest) :=
  .inr ⟨_, steady_plain plain rest, fun _ => rfl⟩

/-- A block is read, or else reading goes on. -/
theorem SteadyReading.orElse {reading : Choice → BlockReading} (steady : SteadyReading reading)
    {onward : Choice → Except BlockError (Block Text × List Line)}
    (concurs : Concurs SteadyBlock onward) :
    Concurs SteadyBlock fun chosen => (reading chosen).elim (onward chosen) .ok := by
  rcases steady with none | ⟨found, same, some⟩
  · exact concurs.congr fun chosen => by simp only [none, Option.elim_none]
  · exact .inr ⟨found, same, fun chosen => by simp only [some, Option.elim_some]⟩

/-- A rule is found for all choices or for none. -/
theorem rule?_steady :
    SteadyReading fun chosen => rule? frame (twin.pick chosen) (pickAll chosen twins) := by
  simp only [rule?, (twin.alike_pick _).isRule]
  split
  · exact steadyReading_some (fun _ => rfl) twins
  · exact .inl fun _ => rfl

/-- A plain heading is found for all choices or for none. -/
theorem plainHeading?_steady :
    SteadyReading fun chosen => plainHeading? frame (twin.pick chosen) (pickAll chosen twins) := by
  have alike (chosen : Choice) := twin.alike_pick chosen
  cases opened : (heading? frame twin.plain).isSome with
  | false =>
    refine .inl fun chosen => ?_
    have none : heading? frame (twin.pick chosen) = none := by
      rw [← Option.not_isSome_iff_eq_none, (alike chosen).heading?, opened]
      exact Bool.false_ne_true
    simp only [plainHeading?, none, Option.map_none]
  | true =>
    have found (chosen : Choice) : ∃ read, heading? frame (twin.pick chosen) = some read := by
      rw [← Option.isSome_iff_exists, (alike chosen).heading?, opened]
    choose read found using found
    simp only [plainHeading?, found, Option.map_some]
    exact steadyReading_some (fun _ => rfl) twins

/-- An underlined heading is found for all choices or for none. -/
theorem underlinedHeading?_steady : SteadyReading fun chosen =>
    underlinedHeading? frame (twin.pick chosen) (pickAll chosen twins) := by
  rcases underlined?_pickAll frame twins with none | ⟨more, level, rest, found⟩
  · exact .inl fun chosen => by simp only [underlinedHeading?, none, Option.map_none]
  · simp only [underlinedHeading?, found, Option.map_some]
    exact steadyReading_some (fun _ => rfl) rest

/-- A paragraph takes the same lines for all choices. -/
theorem paragraph_steady :
    SteadyBlock fun chosen => paragraph frame (twin.pick chosen) (pickAll chosen twins) := by
  obtain ⟨more, rest, -, -, gathered⟩ :=
    continuation_pickAll frame (endsParagraph_blind frame) twins
  simp only [paragraph, gathered]
  exact steady_plain (fun _ => rfl) rest

/-- A table is found, or fails, for all choices or for none. -/
theorem table?_concurs :
    Concurs SteadyReading fun chosen => table? frame (pickAll chosen (twin :: twins)) := by
  simp only [table?, tableHead?_pickAll]
  cases tableHead? frame (plains (twin :: twins)) with
  | none => exact .ok (.inl fun _ => rfl)
  | some head =>
    obtain ⟨header, columns⟩ := head
    simp only [drop_pickAll]
    refine (tableRows_concurs frame columns.length 0 ((twin :: twins).drop 2)).bind
      fun found picks => ?_
    obtain ⟨rows, rest, rfl⟩ := picks
    exact .ok (steadyReading_some (fun _ => rfl) rest)

/-- Markup is found, or fails, for all choices or for none. -/
theorem readHtml?_concurs : Concurs SteadyReading fun chosen =>
    readHtml? frame (twin.pick chosen) (pickAll chosen twins) := by
  have alike (chosen : Choice) := twin.alike_pick chosen
  cases opened : html? frame twin.plain with
  | none =>
    have none (chosen : Choice) :
        authorHtml? frame (twin.pick chosen) (pickAll chosen twins) = none := by
      rw [authorHtml?, (alike chosen).html?, opened, Option.map_none]
    simp only [readHtml?, none]
    exact .ok (.inl fun _ => rfl)
  | some form =>
    have found : ∃ (content : Choice → Text) (rest : List Twin), ∀ chosen,
        authorHtml? frame (twin.pick chosen) (pickAll chosen twins) =
          some (.html (content chosen), pickAll chosen rest) := by
      cases ends : form.endsIn twin.plain.content with
      | true =>
        refine ⟨fun chosen => fullText frame.indent [twin.pick chosen], twins, fun chosen => ?_⟩
        rw [authorHtml?, (alike chosen).html?, opened, Option.map_some, (alike chosen).endsIn, ends]
        rfl
      | false =>
        obtain ⟨more, rest, gathered⟩ := htmlLines_pickAll frame form twins
        refine ⟨fun chosen => fullText frame.indent (pickAll chosen (twin :: more)), rest,
          fun chosen => ?_⟩
        rw [authorHtml?, (alike chosen).html?, opened, Option.map_some, (alike chosen).endsIn, ends,
          gathered]
        rfl
    obtain ⟨content, rest, found⟩ := found
    -- Whether one of the lines ends within the indentation is decided without the spaces.
    have within (chosen : Choice) (count : Nat) :
        ((pickAll chosen (twin :: twins)).take count).any (Line.endsWithin frame.indent) =
          ((twin :: twins).take count).any fun twin => twin.plain.endsWithin frame.indent := by
      rw [take_pickAll, pickAll, List.any_map]
      exact any_congr_of_mem fun twin _ => (twin.alike_pick chosen).endsWithin frame.indent
    simp only [readHtml?, found, length_pickAll, ← pickAll_cons, within]
    split
    · exact .inl ⟨_, fun _ => rfl⟩
    · exact .ok (steadyReading_some (fun _ => rfl) rest)

/-! ## Definitions -/

/-- The text of the lines that a definition can take. -/
def contentText (lines : List Line) : Text :=
  lines.flatMap fun line => line.content ++ (if line.isLast then [] else ['\n'])

/-- What a definition can take begins with the first line. -/
theorem contentText_cons (line : Line) (lines : List Line) : contentText (line :: lines) =
    line.content ++ ((if line.isLast then [] else ['\n']) ++ contentText lines) := by
  rw [contentText, List.flatMap_cons, List.append_assoc]
  rfl

/-- What a definition can take differs by spaces in front of line ends. -/
theorem trailing_contentText {twins : List Twin}
    (filled : ∀ twin ∈ twins, twin.plain.isEmpty = false) (chosen : Choice) (escaped : Bool) :
    Trailing escaped (contentText (plains twins)) (contentText (pickAll chosen twins)) := by
  induction twins generalizing escaped with
  | nil => exact .nil escaped
  | cons twin twins ih =>
    obtain ⟨full, behind⟩ := List.forall_mem_cons.mp filled
    obtain ⟨pad, spaces, same, escape⟩ := (twin.alike_pick chosen).filled full
    obtain ⟨c, text, content⟩ := content_eq_cons full
    have some : twin.plain.content ≠ [] := content ▸ List.cons_ne_nil c text
    simp only [plains_cons, pickAll_cons, contentText_cons, Twin.isLast_pick]
    cases last : twin.plain.isLast with
    | true =>
      rw [(twin.alike_pick chosen).last last]
      simpa using trailing_append some (ih behind _)
    | false =>
      rw [same, content_padded full]
      simp only [Bool.false_eq_true, if_false, List.append_assoc, List.singleton_append]
      refine trailing_append some ?_
      cases backslash : (twin.plain.content.getLast? == .some '\\') with
      | false => exact .spaces spaces (ih behind false)
      | true =>
        rw [escape (getLast?_of_suffix (content_suffix _) (beq_iff_eq.mp backslash))]
        exact .char _ (ih behind _)

/-- A link definition is found for all choices or for none. -/
theorem definition?_steady (filled : twin.plain.isEmpty = false) :
    SteadyReading fun chosen => definition? frame (twin.pick chosen) (pickAll chosen twins) := by
  have alike (chosen : Choice) := twin.alike_pick chosen
  cases code : frame.isCode twin.plain with
  | true => exact .inl fun chosen => by simp [definition?, (alike chosen).isCode filled, code]
  | false =>
    obtain ⟨more, rest, moreFilled, -, gathered⟩ :=
      continuation_pickAll frame (endsDefinition_blind frame) twins
    -- A definition takes as many lines as there are line ends in front of what it leaves.
    have eval (chosen : Choice) : definition? frame (twin.pick chosen) (pickAll chosen twins) =
        (definitionOf? (contentText (pickAll chosen (twin :: more)))).map fun read =>
          (.definition read.1 read.2.1, (pickAll chosen twins).drop
            (((contentText (pickAll chosen (twin :: more))).take
              ((contentText (pickAll chosen (twin :: more))).length - read.2.2.length)).count
                '\n')) := by
      rw [definition?, (alike chosen).isCode filled, code, gathered]
      rfl
    have trailing (chosen : Choice) := trailing_contentText
      (List.forall_mem_cons.mpr ⟨filled, moreFilled⟩) chosen false
    cases read : definitionOf? (contentText (plains (twin :: more))) with
    | none =>
      refine .inl fun chosen => ?_
      rcases definitionOf?_together (trailing chosen) with ⟨-, none⟩ | ⟨_, _, _, _, _, found, -⟩
      · simp only [eval, none, Option.map_none]
      · rw [read] at found
        cases found
    | some found =>
      obtain ⟨key, target, behind⟩ := found
      have others (chosen : Choice) : ∃ otherTarget otherBehind,
          definitionOf? (contentText (pickAll chosen (twin :: more))) =
            some (key, otherTarget, otherBehind) ∧
          Beside (contentText (plains (twin :: more))) (contentText (pickAll chosen (twin :: more)))
            behind otherBehind := by
        rcases definitionOf?_together (trailing chosen) with ⟨none, -⟩ | ⟨_, _, otherTarget, _,
          otherBehind, here, there, beside⟩
        · rw [read] at none
          cases none
        · rw [read] at here
          cases here
          exact ⟨otherTarget, otherBehind, there, beside⟩
      choose otherTarget otherBehind there beside using others
      simp only [eval, there, Option.map_some, ← (beside _).count_eq, drop_pickAll]
      exact steadyReading_some (fun _ => rfl) _

/-! ## Nested blocks -/

/-- The first line behind empty ones is filled. -/
theorem filled_of_dropWhile {rest : List Twin}
    (dropped : twins.dropWhile (·.plain.isEmpty) = twin :: rest) : twin.plain.isEmpty = false := by
  have first := List.head?_dropWhile_not (fun twin : Twin => twin.plain.isEmpty) twins
  rw [dropped] at first
  exact first

/-- Passing over all lines does so for all choices. -/
theorem passOver_steady : passOver.Steady := by
  intro frame twins
  simp only [passOver, dropWhile_pickAll]
  cases dropped : twins.dropWhile (·.plain.isEmpty) with
  | nil => exact .ok ⟨fun _ => [], [], [], true, rfl, holds_nil⟩
  | cons twin rest =>
    simp only [pickAll_cons, (twin.alike_pick _).column (filled_of_dropWhile dropped)]
    split
    · exact .ok ⟨fun _ => [], [], twin :: rest, true, rfl, holds_nil⟩
    · exact .ok ⟨fun _ => [], [], [], true, rfl, holds_nil⟩

section Inside

variable {inside insideItem : Reader}

/-- A container is read, or fails, for all choices. -/
theorem readContainer_concurs (steady : inside.Steady) (count : Nat) (info : Choice → Text) :
    Concurs SteadyBlock fun chosen =>
      readContainer inside frame count (info chosen) (pickAll chosen twins) := by
  refine (containerLines_concurs frame count twins).bind fun found picks => ?_
  obtain ⟨body, rest, rfl⟩ := picks
  refine (steady frame body).bind fun found same => ?_
  obtain ⟨blocks, codes, left, tight, rfl, holds⟩ := same
  exact .ok ⟨fun chosen => .container (info chosen) (blocks chosen), codes, rest, rfl, holds⟩

/-- A quote is read, or fails, for all choices. -/
theorem readQuote_concurs (steady : inside.Steady) (marked : twin.plain.content.head? = some '>') :
    Concurs SteadyBlock fun chosen =>
      readQuote inside frame (twin.pick chosen) (pickAll chosen twins) := by
  obtain ⟨inner, gathered⟩ := quoteLines_pickAll frame (twin.unquoted marked).plain.isEmpty twins
  have quoted (chosen : Choice) : unquoted (twin.pick chosen) ::
      quoteLines frame (unquoted (twin.pick chosen)).isEmpty (pickAll chosen twins) =
        pickAll chosen (twin.unquoted marked :: inner) := by
    rw [← twin.pick_unquoted marked, Twin.isEmpty_pick, gathered, pickAll_cons]
  simp only [readQuote, quoted]
  refine (steady { frame with indent := 0 } (twin.unquoted marked :: inner)).bind
    fun found same => ?_
  obtain ⟨blocks, codes, left, tight, rfl, holds⟩ := same
  simp only [length_pickAll, ← pickAll_cons, drop_pickAll]
  exact .ok ⟨fun chosen => .quote (blocks chosen), codes, _, rfl, holds⟩

/-- An item is read, or fails, for all choices. -/
theorem readItem_concurs (steady : inside.Steady) {width : Nat}
    (filled : twin.plain.isEmpty = false) (short : width ≤ twin.plain.content.length) :
    Concurs SteadyRange fun chosen =>
      readItem inside frame width (twin.pick chosen) (pickAll chosen twins) := by
  simp only [readItem, twin.pick_itemLine filled short, Twin.isEmpty_pick, headIsEmpty_pickAll]
  split
  · simp only [drop_pickAll]
    exact .ok ⟨fun _ => [], [], twins.drop 1, true, rfl, holds_nil⟩
  · exact steady _ (twin.itemLine filled short :: twins)

/-- The mark of a list item is no wider than its line. -/
theorem width_le_of_listMark? {line : Line} {mark : ListMark} (found : listMark? line = some mark) :
    mark.width ≤ line.content.length := by
  rw [listMark?] at found
  split at found
  · cases found
  · rename_i c text content
    rw [content]
    split at found
    · split at found
      · cases found
        simp
      · cases found
    · dsimp only at found
      split at found
      · rename_i sign rest behind
        split at found
        · cases found
          have length := congrArg List.length behind
          simp only [List.length_drop, List.length_cons] at length ⊢
          omega
        · cases found
      · cases found

/-- A line with the mark of a list item is filled. -/
theorem filled_of_listMark? {line : Line} {mark : ListMark} (found : listMark? line = some mark) :
    line.isEmpty = false := by
  by_contra empty
  rw [Bool.not_eq_false, isEmpty_iff] at empty
  simp [listMark?, empty] at found

/-- The items of a list are read, or fail, for all choices. -/
theorem readItems_concurs (steady : inside.Steady) (fuel : Nat) (apart : Bool) {mark : ListMark}
    (marked : listMark? twin.plain = some mark) :
    Concurs SteadyRange fun chosen =>
      readItems inside frame fuel apart mark (twin.pick chosen) (pickAll chosen twins) := by
  induction fuel generalizing apart mark twin twins with
  | zero => exact .ok ⟨fun _ => [], [], twin :: twins, true, rfl, holds_nil⟩
  | succ fuel ih =>
    simp only [readItems]
    refine (readItem_concurs steady (filled_of_listMark? marked)
      (width_le_of_listMark? marked)).bind fun found same => ?_
    obtain ⟨blocks, codes, rest, tight, rfl, holds⟩ := same
    have item (chosen : Choice) : Block.codes (.item (blocks chosen)) =
        codes.map (CodeBlock.text chosen) := by
      rw [Block.codes]
      exact holds chosen
    have stop : Concurs SteadyRange fun chosen =>
        .ok ⟨[.item (blocks chosen)], pickAll chosen rest, tight && !apart⟩ :=
      .ok ⟨_, codes, rest, _, rfl, fun chosen => by simp [Block.codesAll, item]⟩
    cases rest with
    | nil => exact stop
    | cons next rest =>
      have alike (chosen : Choice) := next.alike_pick chosen
      by_cases settled : next.plain.isEmpty = false ∨ next.plain.isLast = true
      · simp only [pickAll_cons, Frame.isCode, Twin.column_pick settled, (alike _).endsList,
          (alike _).listMark?]
        split
        · exact stop
        · refine .check (fun chosen => (alike chosen).checkContainer) ?_
          split
          · exact stop
          · cases following : listMark? next.plain with
            | none => exact stop
            | some mark =>
              dsimp only
              split
              · have blank (chosen : Choice) :=
                  endsBlank_pickAll chosen (twin :: twins) (next :: rest)
                simp only [pickAll_cons] at blank
                simp only [blank]
                refine (ih _ following).bind fun found same => ?_
                obtain ⟨more, others, left, tightBehind, rfl, holdsBehind⟩ := same
                exact .ok ⟨fun chosen => .item (blocks chosen) :: more chosen, codes ++ others,
                  left, tight && !apart && tightBehind, rfl, fun chosen => by
                    simp [Block.codesAll_cons, item, ← holdsBehind chosen]⟩
              · exact stop
      · -- Behind an empty line that is not the last one no item follows, whatever its column is.
        rw [not_or, Bool.not_eq_false, Bool.not_eq_true] at settled
        refine stop.congr fun chosen => ?_
        have content : (next.pick chosen).content = [] := by
          rw [← isEmpty_iff, Twin.isEmpty_pick, settled.1]
        have none : listMark? (next.pick chosen) = none := by simp [listMark?, content]
        have passes : checkContainer (next.pick chosen) = .ok () := by
          simp [checkContainer, settled.2]
        simp only [pickAll_cons, none, passes]
        split
        · rfl
        · simp [bind, Except.bind, pure, Except.pure]

/-- A tight block holds the same code. -/
theorem codes_tighten (block : Block Text) : (tighten block).codes = block.codes := by
  cases block with
  | item children =>
    rw [tighten, Block.codes, Block.codes]
    induction children with
    | nil => rfl
    | cons child children ih =>
      rw [List.map_cons, Block.codesAll_cons, Block.codesAll_cons, ih]
      cases child <;> rfl
  | _ => rfl

/-- Tight blocks hold the same code. -/
theorem codesAll_tighten (blocks : List (Block Text)) :
    Block.codesAll (blocks.map tighten) = Block.codesAll blocks := by
  induction blocks with
  | nil => rfl
  | cons block blocks ih =>
    rw [List.map_cons, Block.codesAll_cons, Block.codesAll_cons, ih, codes_tighten]

/-- A list is read, or fails, for all choices. -/
theorem readList_concurs (steady : inside.Steady) {mark : ListMark}
    (marked : listMark? twin.plain = some mark) :
    Concurs SteadyBlock fun chosen =>
      readList inside frame mark (twin.pick chosen) (pickAll chosen twins) := by
  simp only [readList, length_pickAll]
  refine (readItems_concurs steady _ false marked).bind fun found same => ?_
  obtain ⟨blocks, codes, rest, tight, rfl, holds⟩ := same
  have items (chosen : Choice) :
      Block.codesAll (if tight then (blocks chosen).map tighten else blocks chosen) =
        codes.map (CodeBlock.text chosen) := by
    rw [← holds chosen]
    split
    · exact codesAll_tighten _
    · rfl
  cases number : mark.number with
  | none => exact .ok ⟨_, codes, rest, rfl, fun chosen => items chosen⟩
  | some number => exact .ok ⟨_, codes, rest, rfl, fun chosen => items chosen⟩

/-- A block is what the first of the readings that finds one has found. -/
theorem readBlock_eq (line : Line) (lines : List Line) :
    readBlock inside insideItem frame line lines = (do
      let table ← table? frame (line :: lines)
      table.elim
        ((indentedCode? frame line lines).elim
          ((container? frame line).elim
            ((fencedCode? frame line lines).elim
              (if isQuoted frame line then readQuote inside frame line lines
              else (rule? frame line lines).elim
                ((list? frame line).elim
                  ((definition? frame line lines).elim
                    (do
                      let markup ← readHtml? frame line lines
                      markup.elim
                        ((plainHeading? frame line lines).elim
                          ((underlinedHeading? frame line lines).elim
                            (.ok (paragraph frame line lines)) .ok) .ok) .ok) .ok)
                  fun mark => readList insideItem frame mark line lines) .ok) .ok)
            fun opened => readContainer inside frame opened.1 opened.2 lines) .ok) .ok) := by
  rw [readBlock]
  refine bind_congr fun table => ?_
  cases table with
  | some found => rfl
  | none =>
    cases indentedCode? frame line lines with
    | some found => rfl
    | none =>
      cases container? frame line with
      | some opened => rfl
      | none =>
        cases fencedCode? frame line lines with
        | some found => rfl
        | none =>
          dsimp only [Option.elim_none]
          split
          · rfl
          · cases rule? frame line lines with
            | some found => rfl
            | none =>
              cases list? frame line with
              | some mark => rfl
              | none =>
                cases definition? frame line lines with
                | some found => rfl
                | none =>
                  refine bind_congr fun markup => ?_
                  cases markup with
                  | some found => rfl
                  | none =>
                    cases plainHeading? frame line lines with
                    | some found => rfl
                    | none => cases underlinedHeading? frame line lines <;> rfl

/-- A block is read, or fails, for all choices. -/
theorem readBlock_concurs (steady : inside.Steady) (itemSteady : insideItem.Steady)
    (filled : twin.plain.isEmpty = false) :
    Concurs SteadyBlock fun chosen =>
      readBlock inside insideItem frame (twin.pick chosen) (pickAll chosen twins) := by
  have alike (chosen : Choice) := twin.alike_pick chosen
  simp only [readBlock_eq]
  refine table?_concurs.bind fun table reading => ?_
  refine reading.orElse ((indentedCode?_steady filled).orElse ?_)
  -- What stands behind the colons of a container may differ by spaces from choice to choice.
  cases opened : container? frame twin.plain with
  | some container =>
    obtain ⟨count, info⟩ := container
    have others (chosen : Choice) : ∃ info, container? frame (twin.pick chosen) =
        .some (count, info) := by
      have same := (alike chosen).container? frame
      rw [opened, Option.map_some, Option.map_eq_some_iff] at same
      obtain ⟨⟨others, info⟩, here, rfl⟩ := same
      exact ⟨info, here⟩
    choose infos others using others
    simp only [others]
    exact readContainer_concurs steady count infos
  | none =>
    have others (chosen : Choice) : container? frame (twin.pick chosen) = .none := by
      have same := (alike chosen).container? frame
      rwa [opened, Option.map_none, Option.map_eq_none_iff] at same
    simp only [others, Option.elim_none, (alike _).isQuoted, (alike _).list?]
    refine (fencedCode?_steady filled).orElse ?_
    split
    · rename_i quoted
      rw [isQuoted, Bool.and_eq_true, beq_iff_eq] at quoted
      exact readQuote_concurs steady quoted.2
    refine rule?_steady.orElse ?_
    cases listed : list? frame twin.plain with
    | some mark =>
      have marked : listMark? twin.plain = .some mark := by
        rw [list?] at listed
        split at listed
        · cases listed
        · exact listed
      exact readList_concurs itemSteady marked
    | none =>
      refine (definition?_steady filled).orElse (readHtml?_concurs.bind fun markup reading => ?_)
      refine reading.orElse (plainHeading?_steady.orElse (underlinedHeading?_steady.orElse ?_))
      exact .ok paragraph_steady

/-- A range of blocks is read, or fails, for all choices. -/
theorem readRange_concurs (steady : inside.Steady) (itemSteady : insideItem.Steady) (fuel : Nat)
    (gap tight : Bool) : Concurs SteadyRange fun chosen =>
      readRange inside insideItem frame fuel gap tight (pickAll chosen twins) := by
  induction fuel generalizing gap tight twins with
  | zero => exact .ok ⟨fun _ => [], [], twins, tight, rfl, holds_nil⟩
  | succ fuel ih =>
    simp only [readRange, dropWhile_pickAll]
    cases dropped : twins.dropWhile (·.plain.isEmpty) with
    | nil => exact .ok ⟨fun _ => [], [], [], tight, rfl, holds_nil⟩
    | cons twin following =>
      have filled := filled_of_dropWhile dropped
      simp only [pickAll_cons, (twin.alike_pick _).column filled]
      split
      · exact .ok ⟨fun _ => [], [], twin :: following, tight, rfl, holds_nil⟩
      · refine (readBlock_concurs steady itemSteady filled).bind fun found same => ?_
        obtain ⟨block, codes, rest, rfl, holds⟩ := same
        have next (chosen : Choice) (blank : Bool) :
            (if blank then (pickAll chosen rest).drop 1 else pickAll chosen rest) =
              pickAll chosen (if blank then rest.drop 1 else rest) := by
          cases blank
          · rfl
          · exact drop_pickAll chosen rest 1
        simp only [length_pickAll, ← pickAll_cons, take_pickAll, lastIsEmpty_pickAll,
          headIsEmpty_pickAll, next]
        refine (ih _ _).bind fun found same => ?_
        obtain ⟨blocks, others, left, tightBehind, rfl, holdsBehind⟩ := same
        exact .ok ⟨fun chosen => block chosen :: blocks chosen, codes ++ others, left, tightBehind,
          rfl, fun chosen => by simp [Block.codesAll_cons, ← holds chosen, ← holdsBehind chosen]⟩

end Inside

/-- With any room for nesting, it makes no difference to reading which lines were picked. -/
theorem readBlocks_steady (room : Nat) : (readBlocks room).Steady := by
  refine readBlocks_induction passOver_steady ?_ room
  intro inside insideItem steady itemSteady frame twins
  simp only [length_pickAll]
  exact readRange_concurs steady itemSteady _ _ _

end Loremark.Markdown
