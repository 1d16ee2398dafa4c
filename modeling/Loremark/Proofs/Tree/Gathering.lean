import Loremark.Proofs.Tree.Exposure
import Loremark.Proofs.Tree.Tags

/-!
# Putting divisions together

Reading Markdown cuts a document into chunks; divisions are put together from them by the tags they
count. `shownFrom` does this on the chunks alone, and keeps the plain lines that stand in no spoiler
division it finds. `outlinesOf_agree` says that those lines are the ones that a rendered document
exposes.
-/

set_option autoImplicit false

namespace Loremark.Tree

open Markdown

/-- The plain lines of a chunk. -/
def linesOfChunk : Chunk → List Text
  | .running lines => lines
  | .markup rows => wordsOf rows

/-- The number of chunks up to the one that closes a division, if that one does nothing else.
`depth` divisions are open. -/
def closingChunk? : (depth : Int) → List Chunk → Option Nat
  | _, [] => none
  | depth, .running _ :: cut => (closingChunk? depth cut).map (· + 1)
  | depth, .markup rows :: cut =>
    if depth + balance rows ≤ 0 then
      if depth + balance rows = 0 ∧ rows.all isClosing then some 0 else none
    else (closingChunk? (depth + balance rows) cut).map (· + 1)

/-- A division that has been put together from chunks. -/
structure Gathered where
  className : Text
  /-- The rows of its first chunk that belong to its content. -/
  rows : List Row
  /-- The number of chunks behind the first one that belong to its content. -/
  inside : Nat
  /-- The number of chunks behind the first one that belong to it. -/
  used : Nat

/-- The division that a chunk begins, if its end is found. -/
def gathered? : Chunk → List Chunk → Option Gathered
  | .markup (.opens className :: rows), cut =>
    if 1 + balance rows = 0 then
      if rows.getLast? = some .closes then some ⟨className, rows.dropLast, 0, 0⟩ else none
    else if 0 < 1 + balance rows then
      (closingChunk? (1 + balance rows) cut).map fun distance =>
        ⟨className, rows, distance, distance + 1⟩
    else none
  | _, _ => none

/-- The plain lines of chunks that are in no spoiler division. The first `skip` chunks belong to a
division in front of them, and `deeper` gives the lines of the content of a division. -/
def shownWith (deeper : List Chunk → List Text) : (skip : Nat) → List Chunk → List Text
  | _, [] => []
  | skip + 1, _ :: cut => shownWith deeper skip cut
  | 0, chunk :: cut =>
    match gathered? chunk cut with
    | some g =>
      (if Spoiler.mentionsSpoiler g.className then []
        else deeper (chunks g.rows ++ cut.take g.inside)) ++ shownWith deeper g.used cut
    | none => linesOfChunk chunk ++ shownWith deeper 0 cut

/-- The plain lines of chunks that are in no spoiler division, looking `fuel` divisions deep. -/
def shownFrom : (fuel : Nat) → List Chunk → List Text
  | 0 => shownWith (fun _ => []) 0
  | fuel + 1 => shownWith (shownFrom fuel) 0

/-! ## Finding divisions -/

variable {blocks : Blocks} {cut : List Chunk}

/-- The end of a division is as far away among the blocks as among their chunks. -/
theorem closingDistance?_depicts (all : List.Forall₂ Depicts blocks cut) (depth : Int) :
    closingDistance? depth blocks = closingChunk? depth cut := by
  induction all generalizing depth with
  | nil => rfl
  | cons here behind ih =>
    cases here with
    | running runs plain =>
      rw [closingDistance?, closingChunk?, ih]
      rfl
    | @markup html tag rows printed isTag plain filled =>
      have allFilled : ∀ other ∈ tag :: rows, other.isFilled = true :=
        List.forall_mem_cons.mpr ⟨Row.isFilled_of_isTag isTag, filled⟩
      have closes := closesOnly_printed printed plain allFilled (List.cons_ne_nil tag rows)
      rw [closingDistance?, closingChunk?]
      simp only [Block.html?, divisionBalance_printed printed plain, closes, ih, Bool.and_eq_true,
        beq_iff_eq]

/-- The rows of a division's content are rows of the chunk that begins it. -/
theorem gathered?_rows {tag : Row} {rows : List Row} {g : Gathered}
    (found : gathered? (.markup (tag :: rows)) cut = some g) : g.rows.Sublist rows := by
  cases tag with
  | opens className =>
    rw [gathered?] at found
    split at found
    · split at found
      · obtain rfl := Option.some.inj found
        exact List.dropLast_sublist rows
      · cases found
    · split at found
      · obtain ⟨distance, -, rfl⟩ := Option.map_eq_some_iff.mp found
        exact List.Sublist.refl rows
      · cases found
  | _ => cases found

/-- The division that markup with an opening tag in front begins, told by counting the rows behind
the tag. -/
theorem divisionStart?_opens {html className : Text} {rows : List Row}
    (printed : Printed html (.opens className :: rows)) (plain : AllPlain (.opens className :: rows))
    (all : List.Forall₂ Depicts blocks cut) :
    ∃ body, Printed body (.blank :: rows) ∧ divisionStart? html blocks =
      if 1 + balance rows = 0 then
        (beforeEnd? body).map fun inner => ⟨className, inner, 0, 0⟩
      else if 0 < 1 + balance rows then
        (closingChunk? (1 + balance rows) cut).map fun distance =>
          ⟨className, body, distance, distance + 1⟩
      else none := by
  obtain ⟨attrs, body, opened, classOf, spelled⟩ := openDivision?_opens printed plain
  have depth : divisionBalance html = 1 + balance rows := divisionBalance_printed printed plain
  refine ⟨body, spelled, ?_⟩
  simp only [divisionStart?, opened, classOf, depth, Option.bind_eq_bind, Option.bind_some,
    beq_iff_eq, closingDistance?_depicts all]
  split
  · exact Option.map_eq_bind.symm
  · split
    · exact Option.map_eq_bind.symm
    · rfl

/-- Divisions are found in blocks as they are in their chunks. -/
theorem divisionStart?_depicts {html : Text} {tag : Row} {rows : List Row}
    (printed : Printed html (tag :: rows)) (isTag : tag.isTag = true)
    (plain : AllPlain (tag :: rows)) (filled : ∀ row ∈ rows, row.isFilled = true)
    (all : List.Forall₂ Depicts blocks cut) :
    match gathered? (.markup (tag :: rows)) cut with
    | none => divisionStart? html blocks = none
    | some g => ∃ body, divisionStart? html blocks = some ⟨g.className, body, g.inside, g.used⟩ ∧
        Printed body (.blank :: g.rows) := by
  cases tag with
  | opens className =>
    obtain ⟨body, spelled, start⟩ := divisionStart?_opens printed plain all
    have ends := beforeEnd?_printed spelled
      (List.forall_mem_cons.mpr ⟨trivial, plain.tail⟩) filled
    rw [start, gathered?]
    by_cases even : 1 + balance rows = 0
    · rw [if_pos even, if_pos even]
      cases rows with
      | nil => exact absurd even (by decide)
      | cons row rows =>
        rw [List.getLast?_cons_cons] at ends
        by_cases last : (row :: rows).getLast? = some .closes
        · rw [if_pos last] at ends ⊢
          obtain ⟨before, found, inner⟩ := ends
          rw [found]
          exact ⟨before, rfl, inner⟩
        · rw [if_neg last] at ends ⊢
          rw [ends]
          rfl
    · rw [if_neg even, if_neg even]
      by_cases more : 0 < 1 + balance rows
      · rw [if_pos more, if_pos more]
        cases closingChunk? (1 + balance rows) cut with
        | none => rfl
        | some distance => exact ⟨body, rfl, spelled⟩
      · rw [if_neg more, if_neg more]
  | closes =>
    have closed := openDivision?_closes printed
    change divisionStart? html blocks = none
    rw [divisionStart?, closed]
    rfl
  | _ => cases isTag

/-! ## What outlines expose -/

/-- Whether the nodes of what is read from blocks expose a line exactly if it is among the lines
that are shown of their chunks. -/
def Agree (source : Source) (line : Text) (read : Blocks → Reading (List Outline))
    (lines : List Chunk → List Text) : Prop :=
  ∀ {blocks : Blocks} {cut : List Chunk}, List.Forall₂ Depicts blocks cut →
    ∀ {r later : References} {outlines : List Outline}, read blocks r = .ok (outlines, later) →
      ∀ {n last : Nat} {nodes : List Node}, ShownAll source n outlines nodes last →
        (Node.Exposes nodes line ↔ Among line (lines cut))

section Exposed

variable {source : Source} {line : Text} {read : Blocks → Reading (List Outline)}
  {deeper : List Chunk → List Text}

/-- Where nothing is read, nothing is shown. -/
theorem agree_nil : Agree source line (fun _ => pure []) fun _ => [] := by
  intro blocks cut all r later outlines ran n last nodes shown
  obtain rfl := eq_of_reading_pure ran
  cases shown with
  | nil => exact iff_of_false exposes_nil among_nil

/-- A body of blanks spells no filled rows. -/
theorem rows_eq_nil_of_allBlank {body : Text} {rows : List Row}
    (printed : Printed body (.blank :: rows)) (plain : AllPlain rows)
    (filled : ∀ row ∈ rows, row.isFilled = true) (blank : Text.allBlank body = true) :
    rows = [] := by
  cases printed with
  | last row pad spaces => rfl
  | line row pad spaces behind =>
    rw [allBlank_append_iff, ← List.singleton_append] at blank
    exact eq_nil_of_allBlank behind plain filled ((allBlank_append_iff _ _).mp blank.2).2

/-- The content of a division is built from what is left of its first chunk and from the chunks
inside it. -/
theorem outlineDivision_content {g : Gathered} {body : Text}
    (printed : Printed body (.blank :: g.rows)) (plain : AllPlain g.rows)
    (filled : ∀ row ∈ g.rows, row.isFilled = true) (all : List.Forall₂ Depicts blocks cut)
    {r later : References} {outline : Outline}
    (ran : outlineDivision read ⟨g.className, body, g.inside, g.used⟩ blocks r =
      .ok (outline, later)) :
    ∃ content outlines middle, List.Forall₂ Depicts content (chunks g.rows ++ cut.take g.inside) ∧
      read content middle = .ok (outlines, later) ∧
      outline = .division g.className outlines := by
  have inside {first : Blocks} (depicts : List.Forall₂ Depicts first (chunks g.rows)) :
      List.Forall₂ Depicts (first ++ blocks.take g.inside) (chunks g.rows ++ cut.take g.inside) :=
    List.rel_append depicts (List.forall₂_take g.inside all)
  have finish {first : Blocks} {middle : References}
      (depicts : List.Forall₂ Depicts first (chunks g.rows))
      (rest : (do return .division g.className (← read (first ++ blocks.take g.inside)) :
        Reading Outline) middle = .ok (outline, later)) :
      ∃ content outlines middle,
        List.Forall₂ Depicts content (chunks g.rows ++ cut.take g.inside) ∧
          read content middle = .ok (outlines, later) ∧
          outline = .division g.className outlines := by
    obtain ⟨outlines, readOk, rfl⟩ := of_reading_map rest
    exact ⟨_, outlines, middle, inside depicts, readOk, rfl⟩
  rw [outlineDivision] at ran
  split at ran
  · rename_i blank
    have bodyBlank : Text.allBlank body = true := by
      simp only [Bool.and_eq_true] at blank
      exact blank.2
    refine finish ?_ ran
    rw [rows_eq_nil_of_allBlank printed plain filled bodyBlank]
    exact .nil
  · obtain ⟨first, middle, began, rest⟩ := of_reading_bind ran
    have plainBody : AllPlain (.blank :: g.rows) := List.forall_mem_cons.mpr ⟨trivial, plain⟩
    obtain ⟨found, ranBody, depicts⟩ := read_printed printed plainBody r
    rw [chunks_blank] at depicts
    have readBody : readText body r = .ok (found, r) := by
      rw [readText, ranBody]
      rfl
    rw [readBody] at began
    cases began
    exact finish depicts rest

/-- Whether a division is gated is decided by its class. -/
theorem mentionsSpoiler_of_detectContainer {text className : Text}
    {region : Option Spoiler.Region}
    (detected : Spoiler.detectContainer text (some className) = .ok region) :
    Spoiler.mentionsSpoiler className = region.isSome := by
  rw [Spoiler.detectContainer, Spoiler.isSpoilerClass] at detected
  split at detected
  · rename_i spoils
    rw [spoils]
    cases chapter : Spoiler.chapterOf (Spoiler.firstMention? text) with
    | error cause =>
      rw [chapter] at detected
      cases detected
    | ok threshold =>
      rw [chapter] at detected
      cases detected
      rfl
  · rename_i other
    cases detected
    exact Bool.eq_false_iff.mpr other

/-- A division exposes what its content exposes, and nothing if it is gated. -/
theorem exposes_division {className : Text} {outlines : List Outline} {lines : List Text}
    {n last : Nat} {node : Node}
    (content : ∀ {nodes : List Node}, ShownAll source n outlines nodes last →
      (Node.Exposes nodes line ↔ Among line lines))
    (shown : Shown source n (.division className outlines) node last) :
    Node.Exposes [node] line ↔
      Among line (if Spoiler.mentionsSpoiler className then [] else lines) := by
  cases shown with
  | division shown built =>
    have inside := content shown
    cases built with
    | bare detected =>
      have other : Spoiler.mentionsSpoiler className = false :=
        mentionsSpoiler_of_detectContainer detected
      rw [other, if_neg Bool.false_ne_true, exposes_block, inside]
    | gated detected =>
      have spoils : Spoiler.mentionsSpoiler className = true :=
        mentionsSpoiler_of_detectContainer detected
      rw [spoils, if_pos rfl]
      exact iff_of_false not_exposes_spoiler among_nil

/-- A block that begins no division is outlined by itself. -/
theorem of_outlineBlocks_none {block : Block (List Inline)} {r later : References}
    {outlines : List Outline}
    (ran : outlineBlocks read 0 (block :: blocks) r = .ok (outlines, later))
    (none : (block.html?.bind fun html => divisionStart? html blocks) = none) :
    ∃ outline others middle, outlineBlock read block r = .ok (outline, middle) ∧
      outlineBlocks read 0 blocks middle = .ok (others, later) ∧ outlines = outline :: others := by
  rw [outlineBlocks, none] at ran
  obtain ⟨outline, middle, first, rest⟩ := of_reading_bind ran
  obtain ⟨others, ranRest, rfl⟩ := of_reading_map rest
  exact ⟨outline, others, middle, first, ranRest, rfl⟩

/-- A block that begins a division is outlined together with the blocks of the division. -/
theorem of_outlineBlocks_some {block : Block (List Inline)} {start : DivisionStart}
    {r later : References} {outlines : List Outline}
    (ran : outlineBlocks read 0 (block :: blocks) r = .ok (outlines, later))
    (some : (block.html?.bind fun html => divisionStart? html blocks) = some start) :
    ∃ outline others middle, outlineDivision read start blocks r = .ok (outline, middle) ∧
      outlineBlocks read start.used blocks middle = .ok (others, later) ∧
      outlines = outline :: others := by
  rw [outlineBlocks, some] at ran
  obtain ⟨outline, middle, first, rest⟩ := of_reading_bind ran
  obtain ⟨others, ranRest, rfl⟩ := of_reading_map rest
  exact ⟨outline, others, middle, first, ranRest, rfl⟩

/-- The blocks of chunks expose the lines of the chunks that are shown. -/
theorem outlineBlocks_agree (noEmbeds : source.parsed.embeds = []) (plainLine : PlainLine line)
    (agree : Agree source line read deeper) (skip : Nat) :
    Agree source line (outlineBlocks read skip) (shownWith deeper skip) := by
  intro blocks cut all r later outlines ran n last nodes shown
  induction all generalizing skip r outlines n nodes with
  | nil =>
    have ran : (pure [] : Reading (List Outline)) r = .ok (outlines, later) := by
      cases skip <;> exact ran
    obtain rfl := eq_of_reading_pure ran
    cases shown with
    | nil =>
      cases skip <;> exact iff_of_false exposes_nil among_nil
  | @cons block chunk blocks cut here behind ih =>
    cases skip with
    | succ skip => exact ih skip ran shown
    | zero =>
      rw [shownWith]
      cases here with
      | @running found lines runs plain =>
        obtain ⟨outline, others, middle, first, rest, rfl⟩ := of_outlineBlocks_none ran rfl
        obtain rfl := eq_of_reading_pure first
        cases shown with
        | cons shown shownRest =>
          rw [exposes_cons, exposes_paragraph runs plain noEmbeds shown, ih 0 rest shownRest,
            ← among_append]
          rfl
      | @markup html tag rows printed isTag plain filled =>
        have start := divisionStart?_depicts printed isTag plain filled behind
        cases found : gathered? (.markup (tag :: rows)) cut with
        | none =>
          rw [found] at start
          obtain ⟨outline, others, middle, first, rest, rfl⟩ := of_outlineBlocks_none ran start
          obtain rfl := eq_of_reading_pure first
          cases shown with
          | cons shown shownRest =>
            rw [exposes_cons, exposes_markup printed isTag plain filled noEmbeds plainLine shown,
              ih 0 rest shownRest, ← among_append]
            rfl
        | some g =>
          rw [found] at start
          obtain ⟨body, start, spelled⟩ := start
          obtain ⟨outline, others, middle, first, rest, rfl⟩ := of_outlineBlocks_some ran start
          -- What is left of the first chunk is as plain as the chunk was.
          have part := gathered?_rows found
          obtain ⟨content, inner, before, depicts, readInner, rfl⟩ := outlineDivision_content
            spelled (plain.tail.sublist part) (fun row mem => filled row (part.subset mem)) behind
            first
          cases shown with
          | cons shown shownRest =>
            rw [exposes_cons, exposes_division (agree depicts readInner) shown,
              ih g.used rest shownRest, ← among_append]

/-- The outlines of chunks expose the lines of the chunks that are shown. -/
theorem outlinesOf_agree (noEmbeds : source.parsed.embeds = []) (plainLine : PlainLine line)
    (fuel : Nat) : Agree source line (outlinesOf fuel) (shownFrom fuel) := by
  induction fuel with
  | zero => exact outlineBlocks_agree noEmbeds plainLine agree_nil 0
  | succ fuel ih => exact outlineBlocks_agree noEmbeds plainLine ih 0

end Exposed

end Loremark.Tree
