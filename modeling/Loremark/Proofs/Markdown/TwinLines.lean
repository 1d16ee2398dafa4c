import Loremark.Proofs.Markdown.Twins

/-!
# Gathering lines, whichever was picked

The functions that gather the lines of a block take as many lines whichever line of each twin was
picked, so what they give are the picked ones of fixed twins. The tests on the lines behind a line
that end a paragraph or a definition do not tell either.
-/

set_option autoImplicit false

namespace Loremark.Markdown

/-- Which lines are picked with the spaces behind them, by their numbers. -/
abbrev Choice := Nat → Bool

/-- A line of a text, with and without spaces behind it, and its number. -/
structure Twin where
  number : Nat
  plain : Line
  broken : Line
  alike : Alike plain broken

namespace Twin

/-- The line that is picked. -/
def pick (chosen : Choice) (twin : Twin) : Line :=
  if chosen twin.number then twin.broken else twin.plain

/-- The line that is picked is like the one without spaces. -/
theorem alike_pick (twin : Twin) (chosen : Choice) : Alike twin.plain (twin.pick chosen) := by
  rw [pick]
  split
  · exact twin.alike
  · exact .refl twin.alike.oneLine.1

/-- Either line is empty if the other one is. -/
@[simp] theorem isEmpty_pick (twin : Twin) (chosen : Choice) :
    (twin.pick chosen).isEmpty = twin.plain.isEmpty := (twin.alike_pick chosen).isEmpty

/-- Either line ends the text if the other one does. -/
@[simp] theorem isLast_pick (twin : Twin) (chosen : Choice) :
    (twin.pick chosen).isLast = twin.plain.isLast := (twin.alike_pick chosen).isLast

/-- Whether a line lies outside a block does not tell which was picked, for lines with content. -/
theorem outside_pick (twin : Twin) (chosen : Choice) (width : Int) :
    (!(twin.pick chosen).isEmpty && decide ((twin.pick chosen).column < width)) =
      (!twin.plain.isEmpty && decide (twin.plain.column < width)) := by
  rw [isEmpty_pick]
  cases full : twin.plain.isEmpty with
  | true => rfl
  | false => rw [(twin.alike_pick chosen).column full]

/-- The column of the content is that of both lines, but for lines without content before the end
of the text. -/
theorem column_pick {twin : Twin} (settled : twin.plain.isEmpty = false ∨ twin.plain.isLast = true)
    (chosen : Choice) : (twin.pick chosen).column = twin.plain.column := by
  rcases settled with full | last
  · exact (twin.alike_pick chosen).column full
  · rw [(twin.alike_pick chosen).last last]

/-- A line and its twin without their quote markers. -/
def unquoted (twin : Twin) (marked : twin.plain.content.head? = some '>') : Twin where
  number := twin.number
  plain := Markdown.unquoted twin.plain
  broken := Markdown.unquoted twin.broken
  alike := twin.alike.unquoted marked

/-- Picking commutes with cutting off the marker of a quote. -/
theorem pick_unquoted (twin : Twin) (marked : twin.plain.content.head? = some '>')
    (chosen : Choice) :
    (twin.unquoted marked).pick chosen = Markdown.unquoted (twin.pick chosen) := by
  rw [pick, pick, unquoted]
  cases chosen twin.number <;> rfl

/-- A line and its twin that go on a paragraph. -/
def continued (twin : Twin) (filled : twin.plain.isEmpty = false) : Twin where
  number := twin.number
  plain := { twin.plain with column := -1 }
  broken := { twin.broken with column := -1 }
  alike := twin.alike.continued filled

/-- Picking commutes with going on a paragraph. -/
theorem pick_continued (twin : Twin) (filled : twin.plain.isEmpty = false) (chosen : Choice) :
    (twin.continued filled).pick chosen = { twin.pick chosen with column := -1 } := by
  rw [pick, pick, continued]
  cases chosen twin.number <;> rfl

/-- The first line of a list item and its twin without their markers. -/
def itemLine (twin : Twin) {width : Nat} (filled : twin.plain.isEmpty = false)
    (short : width ≤ twin.plain.content.length) : Twin where
  number := twin.number
  plain := (Markdown.itemLine twin.plain width).1
  broken := (Markdown.itemLine twin.broken width).1
  alike := (twin.alike.itemLine filled short).1

/-- Picking commutes with cutting off the marker of a list item. -/
theorem pick_itemLine (twin : Twin) {width : Nat} (filled : twin.plain.isEmpty = false)
    (short : width ≤ twin.plain.content.length) (chosen : Choice) :
    Markdown.itemLine (twin.pick chosen) width =
      ((twin.itemLine filled short).pick chosen, (Markdown.itemLine twin.plain width).2) := by
  refine Prod.ext ?_ ((twin.alike_pick chosen).itemLine filled short).2
  rw [pick, pick, itemLine]
  cases chosen twin.number <;> rfl

end Twin

/-- The lines that are picked. -/
def pickAll (chosen : Choice) (twins : List Twin) : List Line := twins.map (Twin.pick chosen)

/-- The lines without the spaces. -/
def plains (twins : List Twin) : List Line := twins.map Twin.plain

section Lists

variable (chosen : Choice) (twin : Twin) (twins others : List Twin)

/-- Of no lines none is picked. -/
@[simp] theorem pickAll_nil : pickAll chosen [] = [] := rfl

/-- The first line is picked in front of the others. -/
@[simp] theorem pickAll_cons :
    pickAll chosen (twin :: twins) = twin.pick chosen :: pickAll chosen twins := rfl

/-- The first line without spaces stands in front of the others. -/
@[simp] theorem plains_cons : plains (twin :: twins) = twin.plain :: plains twins := rfl

/-- As many lines are picked as there are. -/
@[simp] theorem length_pickAll : (pickAll chosen twins).length = twins.length := List.length_map _

/-- Picking commutes with dropping lines. -/
theorem drop_pickAll (count : Nat) :
    (pickAll chosen twins).drop count = pickAll chosen (twins.drop count) := List.map_drop.symm

/-- Picking commutes with taking lines. -/
theorem take_pickAll (count : Nat) :
    (pickAll chosen twins).take count = pickAll chosen (twins.take count) := List.map_take.symm

/-- The first picked line is empty for all choices or for none. -/
theorem headIsEmpty_pickAll (fallback : Bool) :
    ((pickAll chosen twins).head?.map Line.isEmpty).getD fallback =
      ((plains twins).head?.map Line.isEmpty).getD fallback := by
  cases twins <;> simp [plains]

/-- The last picked line is empty for all choices or for none. -/
theorem lastIsEmpty_pickAll (fallback : Bool) :
    ((pickAll chosen twins).getLast?.map Line.isEmpty).getD fallback =
      ((plains twins).getLast?.map Line.isEmpty).getD fallback := by
  simp [pickAll, plains, List.getLast?_map, Option.map_map, Function.comp_def]

/-- Empty lines in front are dropped whichever are picked. -/
theorem dropWhile_pickAll :
    (pickAll chosen twins).dropWhile Line.isEmpty =
      pickAll chosen (twins.dropWhile (·.plain.isEmpty)) := by
  induction twins with
  | nil => rfl
  | cons twin twins ih =>
    rw [pickAll_cons, List.dropWhile_cons, List.dropWhile_cons, Twin.isEmpty_pick, ih]
    split <;> rfl

end Lists

/-! ## Tests on the next lines -/

/-- A test on lines that does not tell which were picked. -/
def Blind (ends : List Line → Bool) : Prop :=
  ∀ chosen twins, ends (pickAll chosen twins) = ends (plains twins)

variable {frame : Frame}

/-- An empty line heads no table. -/
theorem tableHead?_emptyHeader {header : Line} (empty : header.content = []) (lines : List Line) :
    tableHead? frame (header :: lines) = none := by
  cases lines with
  | nil => rfl
  | cons ruler lines =>
    rw [tableHead?, empty]
    split
    · rfl
    · cases alignsOf? (Text.unspace ruler.content) <;> simp [Text.unspace, Text.strip]

/-- An empty line rules no table. -/
theorem tableHead?_emptyRuler {header ruler : Line} (empty : ruler.content = [])
    (lines : List Line) : tableHead? frame (header :: ruler :: lines) = none := by
  simp [tableHead?, empty, isRuler]

/-- The picked lines begin a table for all choices or for none. -/
theorem tableHead?_pickAll (frame : Frame) (chosen : Choice) (twins : List Twin) :
    tableHead? frame (pickAll chosen twins) = tableHead? frame (plains twins) := by
  obtain _ | ⟨header, _ | ⟨ruler, twins⟩⟩ := twins
  · rfl
  · rfl
  · have first := header.alike_pick chosen
    have second := ruler.alike_pick chosen
    simp only [pickAll_cons, plains_cons]
    cases headerFilled : header.plain.isEmpty with
    | true =>
      rw [tableHead?_emptyHeader ((isEmpty_iff _).mp headerFilled),
        tableHead?_emptyHeader ((isEmpty_iff _).mp (first.isEmpty.trans headerFilled))]
    | false =>
      cases rulerFilled : ruler.plain.isEmpty with
      | true =>
        rw [tableHead?_emptyRuler ((isEmpty_iff _).mp rulerFilled),
          tableHead?_emptyRuler ((isEmpty_iff _).mp (second.isEmpty.trans rulerFilled))]
      | false =>
        obtain ⟨pad, spaces, same, -⟩ := first.filled headerFilled
        obtain ⟨rulerPad, rulerSpaces, rulerSame, -⟩ := second.filled rulerFilled
        have below : tableHead? frame (header.plain :: ruler.plain.padded rulerPad :: twins.map
            (Twin.pick chosen)) = tableHead? frame (header.plain :: ruler.plain :: plains twins) :=
          tableHead?_ruler rulerSpaces rulerFilled
        rw [same, rulerSame, ← below]
        exact tableHead?_header spaces headerFilled

/-- The end of a definition does not depend on the choice. -/
theorem endsDefinition_blind (frame : Frame) : Blind (endsDefinition frame) := by
  intro chosen twins
  cases twins with
  | nil => rfl
  | cons twin twins =>
    have head := tableHead?_pickAll frame chosen (twin :: twins)
    simp only [pickAll_cons, plains_cons] at head ⊢
    rw [endsDefinition, endsDefinition, head, (twin.alike_pick chosen).endsQuote]

/-- The end of a paragraph does not depend on the choice. -/
theorem endsParagraph_blind (frame : Frame) : Blind (endsParagraph frame) := by
  intro chosen twins
  cases twins with
  | nil => rfl
  | cons twin twins =>
    have head := tableHead?_pickAll frame chosen (twin :: twins)
    have alike := twin.alike_pick chosen
    simp only [pickAll_cons, plains_cons] at head ⊢
    rw [endsParagraph, endsParagraph, head, alike.endsList, alike.listInterrupts,
      alike.htmlInterrupts, alike.heading?]

/-! ## Gathering -/

/-- A paragraph goes on for as many lines whichever are picked. -/
theorem continuation_pickAll (frame : Frame) {ends : List Line → Bool} (blind : Blind ends)
    (twins : List Twin) :
    ∃ more rest, (∀ twin ∈ more, twin.plain.isEmpty = false) ∧ twins = more ++ rest ∧
      ∀ chosen, continuation frame ends (pickAll chosen twins) =
        (pickAll chosen more, pickAll chosen rest) := by
  induction twins with
  | nil => exact ⟨[], [], by simp, rfl, fun _ => rfl⟩
  | cons twin twins ih =>
    obtain ⟨more, rest, filled, split, gathered⟩ := ih
    -- Where the paragraph stops is decided on the lines without their spaces.
    by_cases stops : twin.plain.isEmpty = true ∨
        isContinuation frame twin.plain = false ∧ ends (plains (twin :: twins)) = true
    · refine ⟨[], twin :: twins, by simp, rfl, fun chosen => ?_⟩
      have test := blind chosen (twin :: twins)
      simp only [pickAll_cons] at test ⊢
      rw [continuation, if_pos, pickAll_nil]
      rcases stops with empty | ⟨apart, stops⟩
      · simp [empty]
      · cases full : twin.plain.isEmpty with
        | true => simp [full]
        | false =>
          have alike := twin.alike_pick chosen
          rw [isContinuation, ← alike.isCode full, ← alike.column full, ← isContinuation] at apart
          rw [apart, test, stops]
          simp
    · rw [not_or, not_and, Bool.not_eq_true, Bool.not_eq_true] at stops
      refine ⟨twin :: more, rest, ?_, by rw [split, List.cons_append], fun chosen => ?_⟩
      · simpa [stops.1] using filled
      · have test := blind chosen (twin :: twins)
        have alike := twin.alike_pick chosen
        have goesOn : (!isContinuation frame (twin.pick chosen) &&
            ends (pickAll chosen (twin :: twins))) = false := by
          rw [isContinuation, alike.isCode stops.1, alike.column stops.1, ← isContinuation, test]
          cases apart : isContinuation frame twin.plain with
          | false => simpa using stops.2 apart
          | true => rfl
        simp only [pickAll_cons] at goesOn ⊢
        rw [continuation, gathered, goesOn, Twin.isEmpty_pick, stops.1]
        rfl

/-- An underline is found at the same place for all choices, or for none. -/
theorem underlined?_pickAll (frame : Frame) (twins : List Twin) :
    (∀ chosen, underlined? frame (pickAll chosen twins) = none) ∨
      ∃ more level rest, ∀ chosen, underlined? frame (pickAll chosen twins) =
        some (pickAll chosen more, level, pickAll chosen rest) := by
  induction twins with
  | nil => exact .inl fun _ => rfl
  | cons twin twins ih =>
    have alike (chosen : Choice) := twin.alike_pick chosen
    -- A line that is passed goes in front of what is found behind it.
    have onward (goesOn : ∀ chosen, underlined? frame (pickAll chosen (twin :: twins)) =
        (underlined? frame (pickAll chosen twins)).map fun found =>
          (twin.pick chosen :: found.1, found.2)) :
        (∀ chosen, underlined? frame (pickAll chosen (twin :: twins)) = none) ∨
          ∃ more level rest, ∀ chosen, underlined? frame (pickAll chosen (twin :: twins)) =
            some (pickAll chosen more, level, pickAll chosen rest) := by
      rcases ih with absent | ⟨more, level, rest, found⟩
      · exact .inl fun chosen => by rw [goesOn, absent, Option.map_none]
      · exact .inr ⟨twin :: more, level, rest, fun chosen => by
          rw [goesOn, found, Option.map_some, pickAll_cons]⟩
    cases full : twin.plain.isEmpty with
    | true => exact .inl fun chosen => by simp [underlined?, full]
    | false =>
      cases code : frame.isCode twin.plain with
      | true =>
        refine onward fun chosen => ?_
        rw [pickAll_cons, underlined?, Twin.isEmpty_pick, full, (alike chosen).isCode full, code]
        rfl
      | false =>
        have test (chosen : Choice) := endsParagraph_blind frame chosen (twin :: twins)
        simp only [pickAll_cons] at test
        cases under : (if frame.indent ≤ twin.plain.column then underline? twin.plain
            else none) with
        | some level =>
          refine .inr ⟨[], level, twins, fun chosen => ?_⟩
          rw [pickAll_cons, underlined?, Twin.isEmpty_pick, full, (alike chosen).isCode full, code,
            (alike chosen).column full, (alike chosen).underline?, under]
          rfl
        | none =>
          cases passes : (decide (twin.plain.column < 0) ||
              !endsParagraph frame (plains (twin :: twins))) with
          | true =>
            refine onward fun chosen => ?_
            rw [pickAll_cons, underlined?, Twin.isEmpty_pick, full, (alike chosen).isCode full,
              code, (alike chosen).column full, (alike chosen).underline?, under, test, passes]
            rfl
          | false =>
            refine .inl fun chosen => ?_
            rw [pickAll_cons, underlined?, Twin.isEmpty_pick, full, (alike chosen).isCode full,
              code, (alike chosen).column full, (alike chosen).underline?, under, test, passes]
            rfl

/-- Indented code goes on for as many lines whichever are picked. -/
theorem codeLines_pickAll (frame : Frame) (twins : List Twin) :
    ∃ more rest, ∀ chosen, codeLines frame (pickAll chosen twins) =
      (pickAll chosen more, pickAll chosen rest) := by
  induction twins with
  | nil => exact ⟨[], [], fun _ => rfl⟩
  | cons twin twins ih =>
    obtain ⟨more, rest, gathered⟩ := ih
    have alike (chosen : Choice) := twin.alike_pick chosen
    cases full : twin.plain.isEmpty with
    | true =>
      cases more with
      | nil => exact ⟨[], twin :: twins, fun chosen => by simp [codeLines, gathered, full]⟩
      | cons next more =>
        exact ⟨twin :: next :: more, rest, fun chosen => by simp [codeLines, gathered, full]⟩
    | false =>
      cases code : frame.isCode twin.plain with
      | true =>
        exact ⟨twin :: more, rest, fun chosen => by
          simp [codeLines, gathered, full, (alike chosen).isCode full, code]⟩
      | false =>
        exact ⟨[], twin :: twins, fun chosen => by
          simp [codeLines, full, (alike chosen).isCode full, code]⟩

/-- A fence closes at the same place whichever lines are picked. -/
theorem fenceLines_pickAll (frame : Frame) {marker : Char} (solid : marker ≠ ' ') (length : Nat)
    (twins : List Twin) :
    ∃ body rest, ∀ chosen info, fenceLines frame ⟨marker, length, info⟩ (pickAll chosen twins) =
      (pickAll chosen body, pickAll chosen rest) := by
  induction twins with
  | nil => exact ⟨[], [], fun _ _ => rfl⟩
  | cons twin twins ih =>
    obtain ⟨body, rest, gathered⟩ := ih
    have alike (chosen : Choice) := twin.alike_pick chosen
    cases ends : ((!twin.plain.isEmpty && twin.plain.column < frame.indent) ||
        (twin.plain.isEmpty && twin.plain.isLast)) with
    | true =>
      refine ⟨[], twin :: twins, fun chosen info => ?_⟩
      rw [pickAll_cons, fenceLines, Twin.outside_pick, Twin.isEmpty_pick,
        Twin.isLast_pick, ends]
      rfl
    | false =>
      cases closes : closesRun frame marker length twin.plain with
      | true =>
        refine ⟨[], twins, fun chosen info => ?_⟩
        rw [pickAll_cons, fenceLines, Twin.outside_pick, Twin.isEmpty_pick,
        Twin.isLast_pick, ends, (alike chosen).closesRun solid, closes]
        rfl
      | false =>
        refine ⟨twin :: body, rest, fun chosen info => ?_⟩
        rw [pickAll_cons, fenceLines, Twin.outside_pick, Twin.isEmpty_pick,
        Twin.isLast_pick, ends, (alike chosen).closesRun solid, closes,
          gathered]
        rfl

/-- Markup goes on for as many lines whichever are picked. -/
theorem htmlLines_pickAll (frame : Frame) (form : HtmlForm) (twins : List Twin) :
    ∃ more rest, ∀ chosen, htmlLines frame form (pickAll chosen twins) =
      (pickAll chosen more, pickAll chosen rest) := by
  induction twins with
  | nil => exact ⟨[], [], fun _ => rfl⟩
  | cons twin twins ih =>
    obtain ⟨more, rest, gathered⟩ := ih
    have alike (chosen : Choice) := twin.alike_pick chosen
    cases ends : (!twin.plain.isEmpty && twin.plain.column < frame.indent) with
    | true =>
      refine ⟨[], twin :: twins, fun chosen => ?_⟩
      rw [pickAll_cons, htmlLines, Twin.outside_pick, ends]
      rfl
    | false =>
      cases closes : form.endsIn twin.plain.content with
      | true =>
        cases full : twin.plain.isEmpty with
        | true =>
          refine ⟨[], twin :: twins, fun chosen => ?_⟩
          rw [pickAll_cons, htmlLines, Twin.outside_pick, ends, (alike chosen).endsIn, closes,
            Twin.isEmpty_pick, full]
          rfl
        | false =>
          refine ⟨[twin], twins, fun chosen => ?_⟩
          rw [pickAll_cons, htmlLines, Twin.outside_pick, ends, (alike chosen).endsIn, closes,
            Twin.isEmpty_pick, full]
          rfl
      | false =>
        refine ⟨twin :: more, rest, fun chosen => ?_⟩
        rw [pickAll_cons, htmlLines, Twin.outside_pick, ends, (alike chosen).endsIn, closes,
          gathered]
        rfl

/-! ## Readings that go the same way -/

/-- Readings of what was picked that all fail with one error, or all succeed with `good` results. -/
def Concurs {α : Type} (good : (Choice → α) → Prop) (read : Choice → Except BlockError α) : Prop :=
  (∃ error, ∀ chosen, read chosen = .error error) ∨
    ∃ found, good found ∧ ∀ chosen, read chosen = .ok (found chosen)

namespace Concurs

variable {α β : Type} {good : (Choice → α) → Prop} {read : Choice → Except BlockError α}

/-- Readings that all succeed with good results concur. -/
theorem ok {found : Choice → α} (holds : good found) :
    Concurs good fun chosen => .ok (found chosen) :=
  .inr ⟨found, holds, fun _ => rfl⟩

/-- Readings that are the same ones concur. -/
theorem congr {others : Choice → Except BlockError α} (concurs : Concurs good read)
    (same : ∀ chosen, others chosen = read chosen) : Concurs good others := by
  rwa [funext same]

/-- Readings made in two steps concur if both steps do. -/
theorem bind {goodNext : (Choice → β) → Prop} {next : Choice → α → Except BlockError β}
    (concurs : Concurs good read)
    (onward : ∀ found, good found → Concurs goodNext fun chosen => next chosen (found chosen)) :
    Concurs goodNext fun chosen => read chosen >>= next chosen := by
  rcases concurs with ⟨error, fails⟩ | ⟨found, holds, succeeds⟩
  · exact .inl ⟨error, fun chosen => by simp only [fails]; rfl⟩
  · exact (onward found holds).congr fun chosen => by simp only [succeeds]; rfl

/-- A check that does not tell what was picked. -/
theorem check {goodNext : (Choice → β) → Prop} {next : Choice → Except BlockError β}
    {passes : Choice → Except BlockError Unit} {plain : Except BlockError Unit}
    (same : ∀ chosen, passes chosen = plain) (onward : Concurs goodNext next) :
    Concurs goodNext fun chosen => passes chosen >>= fun _ => next chosen := by
  cases plain with
  | error error => exact .inl ⟨error, fun chosen => by simp only [same]; rfl⟩
  | ok _ => exact onward.congr fun chosen => by simp only [same]; rfl

end Concurs

/-- Results that hold the picked ones of fixed twins. -/
def Picks {α : Type} (found : Choice → α × List Line) (first : Choice → α) : Prop :=
  ∃ rest, found = fun chosen => (first chosen, pickAll chosen rest)

/-- An empty line ends the rows of a table. -/
theorem tableRows_of_empty {line : Line} (empty : line.isEmpty = true)
    (goesOn : line.isLast = false) (width : Nat) (added : Int) (lines : List Line) :
    tableRows frame width added (line :: lines) = .ok ([], line :: lines) := by
  have content := (isEmpty_iff line).mp empty
  have passes : checkEnd frame line = .ok () := by
    simp [checkEnd, checkContainer, goesOn]
  have row : Text.unspace [] = [] := rfl
  rw [tableRows, passes, content, row]
  split
  · rfl
  · simp [bind, Except.bind, pure, Except.pure]

/-- The rows of a table concur. -/
theorem tableRows_concurs (frame : Frame) (width : Nat) (added : Int) (twins : List Twin) :
    Concurs (fun found => ∃ rows, Picks found fun _ => rows)
      fun chosen => tableRows frame width added (pickAll chosen twins) := by
  induction twins generalizing added with
  | nil => exact .inr ⟨fun _ => ([], []), ⟨[], [], rfl⟩, fun _ => rfl⟩
  | cons twin twins ih =>
    have alike (chosen : Choice) := twin.alike_pick chosen
    have stop : Concurs (fun found => ∃ rows, Picks found fun _ => rows)
        fun chosen => (.ok ([], pickAll chosen (twin :: twins)) :
          Except BlockError (List (List Text) × List Line)) := .ok ⟨[], twin :: twins, rfl⟩
    have onward (row : List Text) (added : Int) :
        Concurs (fun found => ∃ rows, Picks found fun _ => rows) fun chosen =>
          tableRows frame width added (pickAll chosen twins) >>= fun found =>
            pure (row :: found.1, found.2) := by
      refine (ih added).bind fun found picks => ?_
      obtain ⟨rows, rest, rfl⟩ := picks
      exact .ok ⟨row :: rows, rest, rfl⟩
    by_cases settled : twin.plain.isEmpty = false ∨ twin.plain.isLast = true
    · simp only [pickAll_cons, tableRows, Frame.isCode, Twin.column_pick settled,
        (alike _).checkEnd, (alike _).unspace, (alike _).endsQuote]
      split
      · exact stop
      · refine .check (fun _ => rfl) ?_
        split
        · exact stop
        · exact onward _ _
    · -- The columns of empty lines may differ, but an empty line ends the table anyway.
      rw [not_or, Bool.not_eq_false, Bool.not_eq_true] at settled
      refine stop.congr fun chosen => ?_
      rw [pickAll_cons, tableRows_of_empty]
      · rw [Twin.isEmpty_pick, settled.1]
      · rw [Twin.isLast_pick, settled.2]

/-- The lines of a container concur. -/
theorem containerLines_concurs (frame : Frame) (count : Nat) (twins : List Twin) :
    Concurs (fun found => ∃ body, Picks found fun chosen => pickAll chosen body)
      fun chosen => containerLines frame count (pickAll chosen twins) := by
  induction twins with
  | nil => exact .inr ⟨fun _ => ([], []), ⟨[], [], rfl⟩, fun _ => rfl⟩
  | cons twin twins ih =>
    have alike (chosen : Choice) := twin.alike_pick chosen
    simp only [pickAll_cons, containerLines, Twin.outside_pick]
    split
    · exact .ok ⟨[], twin :: twins, rfl⟩
    · refine .check (fun chosen => (alike chosen).checkContainer) ?_
      simp only [(alike _).closesRun (by decide : ':' ≠ ' ')]
      split
      · exact .ok ⟨[], twins, rfl⟩
      · refine ih.bind fun found picks => ?_
        obtain ⟨body, rest, rfl⟩ := picks
        exact .ok ⟨twin :: body, rest, rfl⟩

/-- The lines of a quote are picked from the same pairs. -/
theorem quoteLines_pickAll (frame : Frame) (blank : Bool) (twins : List Twin) :
    ∃ inner, ∀ chosen, quoteLines frame blank (pickAll chosen twins) = pickAll chosen inner := by
  induction twins generalizing blank with
  | nil => exact ⟨[], fun _ => rfl⟩
  | cons twin twins ih =>
    have alike (chosen : Choice) := twin.alike_pick chosen
    cases full : twin.plain.isEmpty with
    | true => exact ⟨[], fun chosen => by simp [quoteLines, full]⟩
    | false =>
      -- A line with a marker loses it; one without a marker goes on a paragraph or ends the quote.
      by_cases marked : twin.plain.content.head? = some '>' ∧ frame.indent ≤ twin.plain.column
      · obtain ⟨inner, gathered⟩ := ih (twin.unquoted marked.1).plain.isEmpty
        refine ⟨twin.unquoted marked.1 :: inner, fun chosen => ?_⟩
        have isMarked := (alike chosen).isMarked
        simp only [marked.1, beq_self_eq_true] at isMarked
        have empty : (unquoted (twin.pick chosen)).isEmpty =
            (twin.unquoted marked.1).plain.isEmpty := by
          rw [← twin.pick_unquoted marked.1, Twin.isEmpty_pick]
        rw [pickAll_cons, quoteLines, Twin.isEmpty_pick, full, isMarked, (alike chosen).column full]
        dsimp only
        rw [empty, gathered, pickAll_cons, twin.pick_unquoted marked.1]
        simp [marked.2]
      · have unmarked (chosen : Choice) : ((twin.pick chosen).content.head? == some '>' &&
            decide (frame.indent ≤ (twin.pick chosen).column)) = false := by
          rw [(alike chosen).isMarked, (alike chosen).column full]
          simpa using marked
        cases ends : (blank || endsQuote frame twin.plain) with
        | true =>
          refine ⟨[], fun chosen => ?_⟩
          rw [pickAll_cons, quoteLines, Twin.isEmpty_pick, full, unmarked, (alike chosen).endsQuote,
            ends]
          rfl
        | false =>
          obtain ⟨inner, gathered⟩ := ih false
          refine ⟨twin.continued full :: inner, fun chosen => ?_⟩
          rw [pickAll_cons, quoteLines, Twin.isEmpty_pick, full, unmarked, (alike chosen).endsQuote,
            ends, gathered, pickAll_cons, Twin.pick_continued]
          rfl

/-- Picked lines end blank for all choices or for none. -/
theorem endsBlank_pickAll (chosen : Choice) (twins rest : List Twin) :
    endsBlank (pickAll chosen twins) (pickAll chosen rest) =
      endsBlank (plains twins) (plains rest) := by
  have lengths (twins : List Twin) : (plains twins).length = twins.length := List.length_map _
  have taken (count : Nat) : (plains twins).take count = plains (twins.take count) :=
    List.map_take.symm
  rw [endsBlank, endsBlank, length_pickAll, length_pickAll, take_pickAll, lastIsEmpty_pickAll,
    lengths, lengths, taken]

end Loremark.Markdown
