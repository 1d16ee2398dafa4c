import Loremark.Markdown.Document
import Loremark.Proofs.Markdown.RowBlocks

/-!
# Running text without markup

The pieces that plain lines are read as: a text for each line, with a break between two of them.
The reader takes such a text character by character, without looking at what it remembers.
-/

set_option autoImplicit false

namespace Loremark.Markdown

/-- Pieces that are the lines of a text with breaks between them. -/
inductive Runs : List Inline → List Text → Prop
  | last (line : Text) : Runs [.text line] [line]
  | line (line : Text) {piece : Inline} (isBreak : piece = .softBreak ∨ piece = .hardBreak)
      {found : List Inline} {lines : List Text} (behind : Runs found lines) :
      Runs (.text line :: piece :: found) (line :: lines)

/-! ## Characters -/

/-- A plain character is no mark. -/
theorem ne_of_isPlainChar {c : Char} (plain : isPlainChar c = true) (mark : Char)
    (isMark : mark ∈ "\n\r\x00\\\x60*_~[<>&\x7b".toList) : c ≠ mark := by
  rintro rfl
  rw [isPlainChar, List.contains_iff_mem.mpr isMark] at plain
  cases plain

/-- No leaf begins with a plain character. -/
theorem leaf?_eq_none {c : Char} (plain : isPlainChar c = true) (rest : Text) :
    leaf? (c :: rest) = none := by
  have slash := ne_of_isPlainChar plain '\\' (by decide)
  have angle := ne_of_isPlainChar plain '<' (by decide)
  have ampersand := ne_of_isPlainChar plain '&' (by decide)
  rw [leaf?.eq_def]
  split
  · rename_i text same
    exact absurd (List.cons.inj same).1 slash
  · rename_i text same
    exact absurd (List.cons.inj same).1 angle
  · rename_i text same
    exact absurd (List.cons.inj same).1 ampersand
  · rfl

section Reading

variable (readers : Readers) (skip : Skip) (fuel index : Nat) (before : Char)
  {pending rest : Text} {c : Char}

/-- An exclamation mark without a bracket behind it begins no image. -/
theorem image?_eq_none (noBracket : rest.head? ≠ some '[') :
    image? skip readers.references ⟨index, before, '!' :: rest⟩ = pure none := by
  rw [image?.eq_def]
  split
  · rename_i text same
    obtain ⟨-, rfl⟩ := List.cons.inj same
    exact absurd rfl noBracket
  · rfl

/-- A plain character joins the pending text. -/
theorem pieces_plain (plain : isPlainChar c = true) (noBracket : rest.head? ≠ some '[') :
    pieces readers skip (fuel + 1) pending ⟨index, before, c :: rest⟩ =
      pieces readers skip fuel (c :: pending) ⟨index + 1, c, rest⟩ := by
  have newline := ne_of_isPlainChar plain '\n' (by decide)
  have bracket := ne_of_isPlainChar plain '[' (by decide)
  have tick := ne_of_isPlainChar plain '\x60' (by decide)
  have star := ne_of_isPlainChar plain '*' (by decide)
  have low := ne_of_isPlainChar plain '_' (by decide)
  have tilde := ne_of_isPlainChar plain '~' (by decide)
  rw [pieces.eq_def]
  dsimp only
  split
  · rename_i same
    cases same
  · rename_i text same
    exact absurd (List.cons.inj same).1 newline
  · rename_i text same
    exact absurd (List.cons.inj same).1 bracket
  · rename_i text same
    obtain ⟨rfl, rfl⟩ := List.cons.inj same
    rw [image?_eq_none readers skip index before noBracket]
    rfl
  · rename_i text same
    exact absurd (List.cons.inj same).1 tick
  · rename_i d text _ _ _ _ same
    obtain ⟨rfl, rfl⟩ := List.cons.inj same
    rw [if_neg (by simp [star, low, tilde]), leaf?_eq_none plain]
    rfl

/-- Plain characters join the pending text. -/
theorem pieces_append {front : Text} (pending : Text) (plain : ∀ d ∈ front, isPlainChar d = true)
    (noBracket : rest.head? ≠ some '[') :
    ∃ last, pieces readers skip (fuel + front.length) pending ⟨index, before, front ++ rest⟩ =
      pieces readers skip fuel (front.reverse ++ pending) ⟨index + front.length, last, rest⟩ := by
  induction front generalizing pending index before with
  | nil => exact ⟨before, rfl⟩
  | cons c front ih =>
    have later := fun d mem => plain d (List.mem_cons_of_mem c mem)
    have noBracketBehind : (front ++ rest).head? ≠ some '[' := by
      cases front with
      | nil => exact noBracket
      | cons d front =>
        intro same
        exact ne_of_isPlainChar (later d List.mem_cons_self) '[' (by decide)
          (Option.some.inj same)
    obtain ⟨last, onward⟩ := ih (index + 1) c (c :: pending) later
    refine ⟨last, ?_⟩
    rw [List.length_cons, ← Nat.add_assoc, List.cons_append,
      pieces_plain _ _ _ _ _ (plain c List.mem_cons_self) noBracketBehind, onward, List.reverse_cons,
      List.append_assoc, List.singleton_append, Nat.add_right_comm, Nat.add_assoc]

/-- A line break behind a line and spaces takes the spaces. -/
theorem lineBreak_eq {line pad : Text} (plain : PlainLine line) (spaces : Spaces pad) :
    ∃ piece, (piece = .softBreak ∨ piece = .hardBreak) ∧
      lineBreak (pad.reverse ++ line.reverse) = (piece, line.reverse) := by
  obtain ⟨front, d, rfl, last⟩ := plain.last
  have notSpace : d ≠ ' ' := by
    rintro rfl
    cases last
  have allSpaces : ∀ e ∈ pad.reverse, e = ' ' := fun e mem => spaces e (List.mem_reverse.mp mem)
  rw [List.reverse_append, List.reverse_singleton, List.singleton_append]
  cases reversed : pad.reverse with
  | nil =>
    refine ⟨.softBreak, .inl rfl, ?_⟩
    rw [List.nil_append, lineBreak.eq_def]
    split
    · rename_i rest same
      exact absurd (List.cons.inj same).1 notSpace
    · rename_i rest _ same
      exact absurd (List.cons.inj same).1 notSpace
    · rfl
  | cons e back =>
    rw [reversed, List.forall_mem_cons] at allSpaces
    obtain ⟨rfl, allSpaces⟩ := allSpaces
    cases back with
    | nil =>
      refine ⟨.softBreak, .inl rfl, ?_⟩
      rw [List.singleton_append, lineBreak.eq_def]
      split
      · rename_i rest same
        exact absurd (List.cons.inj (List.cons.inj same).2).1 notSpace
      · rename_i rest _ same
        rw [(List.cons.inj same).2]
      · rename_i noSpace
        exact absurd rfl (noSpace _)
    | cons f back =>
      rw [List.forall_mem_cons] at allSpaces
      obtain ⟨rfl, allSpaces⟩ := allSpaces
      refine ⟨.hardBreak, .inr rfl, ?_⟩
      change (Inline.hardBreak, (back ++ d :: front.reverse).dropWhile (· == ' ')) = _
      rw [List.dropWhile_append_of_pos fun e mem => by simp [allSpaces e mem],
        List.dropWhile_cons_of_neg (by simpa using notSpace)]

/-- A line break ends the pending text. -/
theorem pieces_newline {line pad : Text} (plain : PlainLine line) (spaces : Spaces pad)
    (notIndent : ∀ d ∈ rest.head?, Text.isIndent d = false) :
    ∃ piece, (piece = .softBreak ∨ piece = .hardBreak) ∧
      pieces readers skip (fuel + 1) (pad.reverse ++ line.reverse) ⟨index, before, '\n' :: rest⟩ =
        (fun found => .leaf (.text line) :: .leaf piece :: found) <$>
          pieces readers skip fuel [] ⟨index + 1, '\n', rest⟩ := by
  obtain ⟨piece, isBreak, broken⟩ := lineBreak_eq plain spaces
  refine ⟨piece, isBreak, ?_⟩
  have gap : rest.dropWhile Text.isIndent = rest := by
    cases rest with
    | nil => rfl
    | cons d rest => exact List.dropWhile_cons_of_neg (by simp [notIndent d rfl])
  have next : Place.at ⟨index, before, '\n' :: rest⟩ rest = ⟨index + 1, '\n', rest⟩ := by
    have one : ('\n' :: rest).length - rest.length = 1 := by simp
    rw [Place.at, one]
    rfl
  have pending : flush line.reverse = fun found => .leaf (.text line) :: found := by
    obtain ⟨c, behind, rfl, -⟩ := plain.first
    funext found
    rw [flush, if_neg (by simp), List.reverse_reverse]
  have step : pieces readers skip (fuel + 1) (pad.reverse ++ line.reverse)
      ⟨index, before, '\n' :: rest⟩ = (fun found =>
        flush (lineBreak (pad.reverse ++ line.reverse)).2
          (.leaf (lineBreak (pad.reverse ++ line.reverse)).1 :: found)) <$>
        pieces readers skip fuel []
          (Place.at ⟨index, before, '\n' :: rest⟩ (rest.dropWhile Text.isIndent)) := rfl
  rw [step, broken, gap, next, pending]

end Reading

/-! ## Typed texts -/

/-- The pieces of a typed text are its lines with breaks between them. -/
theorem pieces_typed (readers : Readers) (skip : Skip) {text : Text} {lines : List Text}
    (typed : Typed text lines) (plain : ∀ line ∈ lines, PlainLine line) (index : Nat)
    (before : Char) :
    ∃ found, Runs found lines ∧
      pieces readers skip (text.length + 1) [] ⟨index, before, text⟩ =
        pure (found.map Piece.leaf) := by
  induction typed generalizing index before with
  | last line =>
    have own := plain line List.mem_cons_self
    have noBracket : ([] : Text).head? ≠ some '[' := by simp
    obtain ⟨last, onward⟩ := pieces_append readers skip 1 index before [] own.chars noBracket
    refine ⟨[.text line], .last line, ?_⟩
    rw [List.append_nil, List.append_nil] at onward
    rw [Nat.add_comm, onward]
    obtain ⟨c, rest, rfl, -⟩ := own.first
    have pending : flush (c :: rest).reverse [] = [.leaf (.text (c :: rest))] := by
      rw [flush, if_neg (by simp), List.reverse_reverse]
    change pure (flush (c :: rest).reverse []) = _
    rw [pending]
    rfl
  | @line line pad spaces text lines behind ih =>
    have own := plain line List.mem_cons_self
    have later := fun other mem => plain other (List.mem_cons_of_mem line mem)
    have chars : ∀ d ∈ line ++ pad, isPlainChar d = true := by
      intro d mem
      rcases List.mem_append.mp mem with inLine | inPad
      · exact own.chars d inLine
      · rw [spaces d inPad]
        rfl
    have noBracket : ('\n' :: text).head? ≠ some '[' := by simp
    obtain ⟨last, onward⟩ :=
      pieces_append readers skip (text.length + 2) index before [] chars noBracket
    have notIndent : ∀ d ∈ text.head?, Text.isIndent d = false := by
      obtain ⟨c, notBlank, rest, rfl⟩ := behind.begins later
      intro d same
      rw [← Option.some.inj same]
      exact not_isIndent_of_not_isBlank notBlank
    obtain ⟨piece, isBreak, step⟩ := pieces_newline readers skip (text.length + 1)
      (index + (line ++ pad).length) last own spaces notIndent
    obtain ⟨found, runs, rest⟩ := ih later (index + (line ++ pad).length + 1) '\n'
    refine ⟨.text line :: piece :: found, .line line isBreak runs, ?_⟩
    -- Every character of the line uses up one unit of fuel, and so does the break behind it.
    have fuel : (line ++ pad ++ '\n' :: text).length + 1 =
        text.length + 2 + (line ++ pad).length := by
      simp only [List.length_append, List.length_cons]
      omega
    rw [fuel, onward, List.append_nil, List.reverse_append, step, rest]
    rfl

/-! ## Spans -/

/-- Leaves become leaves. -/
theorem events_leaves (roles : List (Nat × Role)) (n : Nat) (found : List Inline) :
    events roles n (found.map Piece.leaf) = found.map Event.leaf := by
  induction found with
  | nil => rfl
  | cons piece found ih => rw [List.map_cons, events, ih, List.map_cons]

/-- Leaves have no odd marks among them. -/
theorem placeOdd_leaves (found : List Inline) :
    placeOdd (found.map Event.leaf) = found.map Event.leaf := by
  induction found with
  | nil => simp [placeOdd]
  | cons piece found ih =>
    rw [List.map_cons, placeOdd, ih]
    all_goals simp

/-- Leaves are nested in nothing. -/
theorem nest_leaves (done found : List Inline) :
    nest [] done (found.map Event.leaf) = done.reverse ++ found := by
  induction found generalizing done with
  | nil => simp [nest, giveUp]
  | cons piece found ih =>
    rw [List.map_cons, nest, ih, List.reverse_cons, List.append_assoc, List.singleton_append]

/-- Pieces without marks have no spans. -/
theorem spans_leaves (found : List Inline) : spans (found.map Piece.leaf) = found := by
  have unmarked : numbered (found.map Piece.leaf) = [] := by
    simp [numbered]
  rw [spans, unmarked, events_leaves, placeOdd_leaves, nest_leaves]
  rfl

/-- The pieces of plain lines are joined already. -/
theorem Runs.joined {found : List Inline} {lines : List Text} (runs : Runs found lines)
    (plain : ∀ line ∈ lines, PlainLine line) : Inline.joined found = found := by
  induction runs with
  | last line =>
    obtain ⟨c, rest, rfl, -⟩ := (plain line List.mem_cons_self).first
    rfl
  | @line line piece isBreak found lines behind ih =>
    have later := ih fun other mem => plain other (List.mem_cons_of_mem line mem)
    obtain ⟨c, rest, rfl, -⟩ := (plain line List.mem_cons_self).first
    rcases isBreak with rfl | rfl
    · rw [Inline.joined, Inline.joined, Inline.joinedPiece, later]
      rfl
      all_goals simp
    · rw [Inline.joined, Inline.joined, Inline.joinedPiece, later]
      rfl
      all_goals simp

/-- A typed text is read as its lines with breaks between them, whatever definitions are known. -/
theorem readInline_typed {text : Text} {lines : List Text} (typed : Typed text lines)
    (plain : ∀ line ∈ lines, PlainLine line) (references : References) :
    Runs (readInline references text) lines := by
  have read (alt : Text → Text) : Runs (readText references alt text) lines := by
    obtain ⟨found, runs, ran⟩ := pieces_typed ⟨references, readLine references alt 19, alt⟩
      (skipPiece references 20) typed plain 0 ' '
    have line : readLine references alt bracketLimit ⟨0, ' ', text⟩ = pure found := by
      change spans <$> pieces _ _ _ _ _ = _
      rw [ran, map_pure, spans_leaves]
    rw [readText, line]
    exact runs
  have runs := read (imageAlt references text.length)
  rw [readInline, runs.joined plain]
  exact runs

/-! ## Documents -/

/-- Blocks that chunks become when their running text is read. -/
inductive Depicts : Block (List Inline) → Chunk → Prop
  | running {found : List Inline} {lines : List Text} (runs : Runs found lines)
      (plain : ∀ line ∈ lines, PlainLine line) :
      Depicts (.paragraph false found) (.running lines)
  | markup {html : Text} {tag : Row} {rows : List Row} (printed : Printed html (tag :: rows))
      (isTag : tag.isTag = true) (plain : AllPlain (tag :: rows))
      (filled : ∀ row ∈ rows, row.isFilled = true) :
      Depicts (.html html) (.markup (tag :: rows))

/-- The blocks of chunks define no labels. -/
theorem definitionsAll_eq_nil {blocks : List (Block Text)} {cut : List Chunk}
    (readAs : List.Forall₂ ReadAs blocks cut) : Block.definitionsAll blocks = [] := by
  induction readAs with
  | nil => rfl
  | cons here behind ih =>
    rw [Block.definitionsAll, ih, List.append_nil]
    cases here with
    | running typed plain => rfl
    | markup printed isTag plain filled => rfl

/-- Reading the running texts of the blocks of chunks gives what the chunks depict. -/
theorem mapAll_depicts {blocks : List (Block Text)} {cut : List Chunk}
    (readAs : List.Forall₂ ReadAs blocks cut) (references : References) :
    List.Forall₂ Depicts (Block.mapAll (readInline references) blocks) cut := by
  induction readAs with
  | nil => exact .nil
  | cons here behind ih =>
    cases here with
    | running typed plain =>
      exact .cons (.running (readInline_typed typed plain references) plain) ih
    | markup printed isTag plain filled => exact .cons (.markup printed isTag plain filled) ih

/-- A printed text is read as the chunks of its rows, and defines nothing. -/
theorem read_printed {text : Text} {rows : List Row} (printed : Printed text rows)
    (plain : AllPlain rows) (references : References) :
    ∃ blocks, Markdown.read references text = .ok ⟨blocks, references⟩ ∧
      List.Forall₂ Depicts blocks (chunks rows) := by
  obtain ⟨blocks, ran, readAs⟩ := blocksOf_printed printed plain
  refine ⟨_, ?_, mapAll_depicts readAs references⟩
  simp only [Markdown.read, ran, bind, Except.bind, pure, Except.pure,
    definitionsAll_eq_nil readAs, List.append_nil]

/-- A plain line is read as a paragraph. -/
theorem read_line {line : Text} (plain : PlainLine line) (references : References) :
    Markdown.read references (withLineBreaks line) =
      .ok ⟨[.paragraph false [.text line]], references⟩ := by
  have allPlain : AllPlain [.words line] := List.forall_mem_singleton.mpr plain
  obtain ⟨blocks, ran, depicts⟩ :=
    read_printed (withLineBreaks_printed allPlain) allPlain references
  have one : chunks [.words line] = [.running [line]] := rfl
  rw [one] at depicts
  cases depicts with
  | cons here behind =>
    cases behind
    cases here with
    | running runs _ =>
      cases runs with
      | last => exact ran
      | line _ _ behind => cases behind

end Loremark.Markdown
