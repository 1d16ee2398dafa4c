import Loremark.Proofs.Spoiler.Mentions
import Loremark.Proofs.Text.Pattern

/-!
# Patterns of markers

Two patterns describe a marker. `quotePattern` decides whether a quote is a spoiler, and keeps the
digits of the marker and what stands behind it; `markerPattern` tells how much of the quote the marker
is. Both agree with the reader `marker?` on every text (`quotePattern_read?`, `markerPattern_read?`),
and all of them with the grammar of markers (`markers_agree`). Reading one never goes back: blanks end
in front of a letter or a digit, and digits in front of the closing bracket.
-/

set_option autoImplicit false

namespace Loremark.Spoiler

open Text (Pattern Groups Next)
open Text.Pattern

/-! ## Texts that begin with a marker -/

/-- A text begins with a marker, perhaps with digits, and goes on with a rest. -/
def BeginsMarked (text : Text) (digits : Option Text) (rest : Text) : Prop :=
  ∃ inner, Marked digits inner ∧ text = '[' :: '!' :: (inner ++ ']' :: rest)

/-- The word for a chapter begins with a letter, whatever follows it. -/
theorem Spelled.not_isBlank_head {chapter : Text} (named : Spelled chapterWord chapter)
    (rest : Text) : ∀ c ∈ (chapter ++ rest).head?, Text.isBlank c = false := by
  have small : chapter.map Text.toSmall = chapterWord := spelled_small named (by decide)
  cases chapter with
  | nil => cases small
  | cons c chapter =>
    rintro _ ⟨⟩
    rw [Bool.eq_false_iff]
    intro blank
    have first : Text.toSmall c = 'c' := (List.cons.inj small).1
    rw [Embed.toSmall_of_isBlank blank] at first
    rw [first] at blank
    cases blank

/-- Reads the end of a marker behind its word: the digits, if there are any, and the closing
bracket. -/
def ending? (text : Text) : Option (Option Text × Text) :=
  (((afterBlanks? text).bind mention?).bind fun (digits, rest) =>
    (Text.after? [']'] rest).map (some digits, ·)).or ((Text.after? [']'] text).map (none, ·))

/-- A closing bracket is not read where another character stands. -/
theorem after?_bracket_cons {c : Char} (other : c ≠ ']') (text : Text) :
    Text.after? [']'] (c :: text) = none := by
  rw [Text.after?_eq_none_iff]
  intro begins
  exact other (List.cons_prefix_cons.mp begins).1.symm

/-- Reading a marker is reading its bracket, its word and its end. -/
theorem marker?_eq_bind (text : Text) : marker? text =
    ((Text.after? ['[', '!'] text).bind (Text.afterWord? Text.sameLetter spoilerWord)).bind
      ending? := by
  rw [Option.bind_assoc]
  refine congrArg _ (funext fun opened => ?_)
  refine congrArg _ (funext fun rest => ?_)
  unfold ending?
  split
  · rfl
  · rename_i other
    have open_ : Text.after? [']'] rest = none := by
      cases rest with
      | nil => rfl
      | cons c rest =>
        apply after?_bracket_cons
        rintro rfl
        exact other rest rfl
    rw [open_, Option.map_none, Option.or_none, Option.bind_assoc]
    refine congrArg _ (funext fun behind => ?_)
    refine congrArg _ (funext fun ⟨digits, last⟩ => ?_)
    dsimp only
    split
    · rfl
    · rename_i other
      cases last with
      | nil => rfl
      | cons c last =>
        rw [after?_bracket_cons, Option.map_none]
        rintro rfl
        exact other last rfl

/-- A marker is read exactly where a text begins with one. -/
theorem marker?_eq_some_iff {text rest : Text} {digits : Option Text} :
    marker? text = some (digits, rest) ↔ BeginsMarked text digits rest := by
  constructor
  · exact marker?_eq_some
  · rintro ⟨inner, marked, rfl⟩
    rw [marker?_eq_bind]
    have reads {word behind : Text} (spelled : Spelled spoilerWord word) :
        (Text.after? ['[', '!'] ('[' :: '!' :: (word ++ behind))).bind
          (Text.afterWord? Text.sameLetter spoilerWord) = some behind :=
      Text.afterWord?_eq_some_iff.mpr ⟨word, spelled, rfl⟩
    cases marked with
    | bare spelled =>
      rw [reads spelled]
      rfl
    | @chapter word gap chapter space digits spelled apart named spaced numeral =>
      have ends : ∀ c ∈ (']' :: rest).head?, Text.isDecimal c = false := by
        rintro _ ⟨⟩
        decide
      have mention := mention?_append named spaced numeral ends
      have passes := afterBlanks?_append apart
        (named.not_isBlank_head (space ++ (digits ++ ']' :: rest)))
      simp only [List.append_assoc, reads spelled, Option.bind_some, ending?, passes, mention]
      rfl

/-! ## The two patterns -/

/-- The pattern that tells a spoiler: it keeps the digits of the marker under the number 1 and, behind
the blanks that follow it, the rest of the quote under the number 2. -/
def quotePattern : Pattern := inOrder [
  .word (· == ·) ['[', '!'],
  .word Text.sameLetter spoilerWord,
  .optional (inOrder [
    .run 1 Text.isBlank,
    .word Text.sameLetter chapterWord,
    .run 1 Text.isBlank,
    .group 1 (.run 1 Text.isDecimal)]),
  .word (· == ·) [']'],
  .run 0 Text.isBlank,
  .group 2 (.run 0 fun _ => true)]

/-- The pattern of a marker alone. -/
def markerPattern : Pattern := inOrder [
  .word (· == ·) ['[', '!'],
  .word Text.sameLetter spoilerWord,
  .optional (inOrder [
    .run 1 Text.isBlank,
    .word Text.sameLetter chapterWord,
    .run 1 Text.isBlank,
    .run 1 Text.isDecimal]),
  .word (· == ·) [']']]

/-- Patterns that take all decimal digits there are, at least one, and keep what `kept` says of
them. -/
def TakesDigits (number : Pattern) (kept : Text → Groups) : Prop :=
  ∀ (next : Next), (∀ groups c text, Text.isDecimal c = true → next groups (c :: text) = none) →
    ∀ groups text, number.attempt next groups text =
      if 1 ≤ (text.takeWhile Text.isDecimal).length then
        next (groups ++ kept (text.takeWhile Text.isDecimal)) (text.dropWhile Text.isDecimal)
      else none

/-- A run of digits takes all of them and keeps nothing. -/
theorem takesDigits_run : TakesDigits (.run 1 Text.isDecimal) fun _ => [] := by
  intro next stops groups text
  rw [List.append_nil]
  exact Text.tryRun_of_stops (stops groups) 1 text

/-- A group around a run of digits keeps them under its number. -/
theorem takesDigits_group (number : Nat) :
    TakesDigits (.group number (.run 1 Text.isDecimal)) fun digits => [(number, digits)] := by
  intro next stops groups text
  let keep : Next := fun inner rest =>
    next (inner ++ [(number, text.take (text.length - rest.length))]) rest
  have within := takesDigits_run keep (fun _ c behind => stops _ c behind) groups text
  simp only [keep, List.append_nil, Text.take_length_sub_dropWhile] at within
  exact within

/-- A run of blanks in front of something that does not begin with one. -/
theorem tryRun_isBlank {next : Text → Option (Groups × Text)}
    (stops : ∀ c text, Text.isBlank c = true → next (c :: text) = none) (text : Text) :
    Text.tryRun Text.isBlank next 1 text = (afterBlanks? text).bind next := by
  rw [Text.tryRun_of_stops stops]
  cases text with
  | nil => rfl
  | cons c text =>
    rw [afterBlanks?, Text.trimStart]
    by_cases blank : Text.isBlank c = true
    · rw [if_pos blank, Option.bind_some, List.takeWhile_cons_of_pos blank,
        List.dropWhile_cons_of_pos blank, List.length_cons, if_pos (Nat.le_add_left 1 _)]
    · rw [if_neg blank, List.takeWhile_cons_of_neg blank]
      rfl

/-- No chapter is named where a blank stands. -/
theorem afterWord?_chapter_of_isBlank {c : Char} (blank : Text.isBlank c = true) (text : Text) :
    Text.afterWord? Text.sameLetter chapterWord (c :: text) = none := by
  have other : Text.sameLetter 'c' c = false := by
    rw [Bool.eq_false_iff]
    intro same
    have letter : c = 'c' := by
      simpa [Text.sameLetter, Embed.toSmall_of_isBlank blank] using same
    rw [letter] at blank
    cases blank
  show Text.afterWord? Text.sameLetter ('c' :: "hapter".toList) (c :: text) = none
  rw [Text.afterWord?, other]
  rfl

/-- Going back is never needed within the part of a marker that names a chapter. -/
theorem attempt_mention {number : Pattern} {kept : Text → Groups}
    (takes : TakesDigits number kept) {next : Next}
    (stops : ∀ groups c text, Text.isDecimal c = true → next groups (c :: text) = none)
    (groups : Groups) (text : Text) :
    (inOrder [.run 1 Text.isBlank, .word Text.sameLetter chapterWord, .run 1 Text.isBlank,
        number]).attempt next groups text =
      ((afterBlanks? text).bind mention?).bind fun (digits, rest) =>
        next (groups ++ kept digits) rest := by
  have onNumber := takes next stops groups
  -- Giving a blank back is of no use: neither the word nor the number begins with one.
  have noBlank (c : Char) (behind : Text) (blank : Text.isBlank c = true) :
      number.attempt next groups (c :: behind) = none := by
    have noDigit : ¬ Text.isDecimal c = true := by
      intro digit
      rw [Text.not_isBlank_of_isDecimal digit] at blank
      cases blank
    rw [onNumber, List.takeWhile_cons_of_neg noDigit]
    rfl
  have onWord (behind : Text) :
      (inOrder [.word Text.sameLetter chapterWord, .run 1 Text.isBlank, number]).attempt next
          groups behind =
        (mention? behind).bind fun (digits, rest) => next (groups ++ kept digits) rest := by
    show (Text.afterWord? Text.sameLetter chapterWord behind).bind
      (Text.tryRun Text.isBlank (number.attempt next groups) 1) = _
    unfold mention?
    rw [Option.bind_eq_bind, Option.bind_assoc]
    refine congrArg _ (funext fun named => ?_)
    rw [tryRun_isBlank noBlank, Option.bind_assoc]
    refine congrArg _ (funext fun spaced => ?_)
    rw [onNumber]
    cases digits : spaced.takeWhile Text.isDecimal with
    | nil => rfl
    | cons d digits => rfl
  rw [attempt_inOrder_cons, Option.bind_assoc]
  have noChapter (c : Char) (behind : Text) (blank : Text.isBlank c = true) :
      (inOrder [.word Text.sameLetter chapterWord, .run 1 Text.isBlank, number]).attempt next
        groups (c :: behind) = none := by
    show (Text.afterWord? Text.sameLetter chapterWord (c :: behind)).bind _ = none
    rw [afterWord?_chapter_of_isBlank blank]
    rfl
  show Text.tryRun Text.isBlank _ 1 text = _
  rw [tryRun_isBlank noChapter]
  exact congrArg _ (funext onWord)

/-- The closing bracket, with or without a chapter in front of it. -/
theorem attempt_ending {number : Pattern} {kept : Text → Groups}
    (takes : TakesDigits number kept) (next : Next) (text : Text) :
    (inOrder [
        .optional (inOrder [.run 1 Text.isBlank, .word Text.sameLetter chapterWord,
          .run 1 Text.isBlank, number]),
        .word (· == ·) [']']]).attempt next [] text =
      (ending? text).bind fun (digits, rest) => next (digits.elim [] kept) rest := by
  let close : Next := fun groups last => (Text.after? [']'] last).bind (next groups)
  have closes : (inOrder [.word (· == ·) [']']]).attempt next = close := by
    funext groups last
    show (Text.afterWord? (· == ·) [']'] last).bind _ = _
    rw [← Text.after?_eq_afterWord?]
    rfl
  have stops (groups : Groups) (c : Char) (last : Text) (digit : Text.isDecimal c = true) :
      close groups (c :: last) = none := by
    have other : c ≠ ']' := by
      rintro rfl
      exact absurd digit (by decide)
    show (Text.after? [']'] (c :: last)).bind _ = none
    rw [after?_bracket_cons other]
    rfl
  rw [attempt_inOrder_cons, closes, attempt, attempt_mention takes stops, ending?]
  -- Where the bracket stands at once, no chapter is named: blanks would have to come first.
  cases bracket : Text.after? [']'] text with
  | some after =>
    obtain rfl := Text.after?_eq_some_iff.mp bracket
    rfl
  | none =>
    have notClosed : close [] text = none := congrArg (Option.bind · _) bracket
    rw [notClosed, Option.map_none, Option.or_none, Option.or_none]
    cases (afterBlanks? text).bind mention? with
    | none => rfl
    | some mention =>
      obtain ⟨digits, last⟩ := mention
      show (Text.after? [']'] last).bind _ = ((Text.after? [']'] last).map _).bind _
      cases Text.after? [']'] last <;> rfl

/-- A pattern of markers takes what the reader finds, and goes on behind it. -/
theorem attempt_marker {number : Pattern} {kept : Text → Groups}
    (takes : TakesDigits number kept) (behind : List Pattern) (next : Next) (text : Text) :
    (inOrder ([.word (· == ·) ['[', '!'], .word Text.sameLetter spoilerWord,
        .optional (inOrder [.run 1 Text.isBlank, .word Text.sameLetter chapterWord,
          .run 1 Text.isBlank, number]),
        .word (· == ·) [']']] ++ behind)).attempt next [] text =
      (marker? text).bind fun (digits, rest) =>
        (inOrder behind).attempt next (digits.elim [] kept) rest := by
  rw [attempt_inOrder_append, marker?_eq_bind, Option.bind_assoc, Option.bind_assoc,
    Text.after?_eq_afterWord?]
  refine congrArg _ (funext fun opened => ?_)
  refine congrArg _ (funext fun rest => ?_)
  exact attempt_ending takes ((inOrder behind).attempt next) rest

/-- The pattern of a marker leaves what the reader leaves. -/
theorem markerPattern_read? (text : Text) :
    markerPattern.read? text = (marker? text).map fun (_, rest) => ([], rest) := by
  have reads := attempt_marker takesDigits_run [] (fun groups rest => some (groups, rest)) text
  rw [List.append_nil] at reads
  refine Eq.trans reads ?_
  rw [attempt_inOrder_nil]
  cases marker? text with
  | none => rfl
  | some cut =>
    obtain ⟨_ | digits, rest⟩ := cut
    · rfl
    · rfl

/-- Behind a marker, the blanks are passed over and everything else is kept. -/
theorem attempt_inner (groups : Groups) (rest : Text) :
    (inOrder [.run 0 Text.isBlank, .group 2 (.run 0 fun _ => true)]).attempt
        (fun groups rest => some (groups, rest)) groups rest =
      some (groups ++ [(2, Text.trimStart rest)], []) := by
  have takesAll (inner : Text) :
      (inOrder [.group 2 (.run 0 fun _ => true)]).attempt
          (fun groups rest => some (groups, rest)) groups inner = some (groups ++ [(2, inner)], []) := by
    have toEnd : inner.dropWhile (fun _ => true) = [] :=
      List.dropWhile_eq_nil_iff.mpr fun _ _ => rfl
    refine Eq.trans (Text.tryRun_of_isSome (Nat.zero_le _) rfl) ?_
    simp only [toEnd, List.length_nil, Nat.sub_zero, List.take_length]
    rfl
  refine Eq.trans (Text.tryRun_of_isSome (Nat.zero_le _) ?_) (takesAll _)
  rw [takesAll]
  rfl

/-- The pattern of a quote keeps the digits that the reader finds, and the rest without the blanks
in front. -/
theorem quotePattern_read? (text : Text) :
    quotePattern.read? text = (marker? text).map fun (digits, rest) =>
      (digits.elim [] (fun number => [(1, number)]) ++ [(2, Text.trimStart rest)], []) := by
  refine Eq.trans (attempt_marker (takesDigits_group 1)
    [.run 0 Text.isBlank, .group 2 (.run 0 fun _ => true)] _ text) ?_
  cases marker? text with
  | none => rfl
  | some cut => exact attempt_inner _ cut.2

/-! ## What is detected -/

/-- Digits that are few enough are the number of a chapter. -/
theorem chapterOf_of_short {digits : Option Text}
    (short : ∀ number ∈ digits, number.length ≤ Text.digitLimit) :
    chapterOf digits = .ok (digits.map fun number => (Text.valueOfDigits number : Int)) := by
  cases digits with
  | none => rfl
  | some number =>
    rw [chapterOf, Text.readDigits_eq_ok_iff.mpr ⟨short number rfl, rfl⟩]
    rfl

/-- Both patterns, the reader and the detection of spoilers agree on the texts that begin with a
marker: on where it ends, on its digits and on the text behind it. On every other text none of them
finds anything. -/
theorem markers_agree (text : Text) :
    ((quotePattern.read? text).isSome ↔ ∃ digits rest, BeginsMarked text digits rest) ∧
    (∀ digits rest, BeginsMarked text digits rest →
      marker? text = some (digits, rest) ∧
      markerPattern.read? text = some ([], rest) ∧
      quotePattern.read? text =
        some (digits.elim [] (fun number => [(1, number)]) ++ [(2, Text.trimStart rest)], []) ∧
      ((∀ number ∈ digits, number.length ≤ Text.digitLimit) →
        detectQuote text = .ok (some
          ⟨digits.map fun number => (Text.valueOfDigits number : Int), Text.trimStart rest,
            .blockquote⟩))) ∧
    ((¬ ∃ digits rest, BeginsMarked text digits rest) →
      marker? text = none ∧ markerPattern.read? text = none ∧ quotePattern.read? text = none ∧
      detectQuote text = .ok none) := by
  rw [markerPattern_read?, quotePattern_read?, Option.isSome_map]
  refine ⟨?_, ?_, ?_⟩
  · constructor
    · intro found
      obtain ⟨⟨digits, rest⟩, marker⟩ := Option.isSome_iff_exists.mp found
      exact ⟨digits, rest, marker?_eq_some_iff.mp marker⟩
    · rintro ⟨digits, rest, begins⟩
      rw [marker?_eq_some_iff.mpr begins]
      rfl
  · intro digits rest begins
    have marker := marker?_eq_some_iff.mpr begins
    rw [marker]
    refine ⟨rfl, rfl, rfl, ?_⟩
    intro short
    rw [detectQuote, marker]
    dsimp only
    rw [chapterOf_of_short short]
    rfl
  · intro unmarked
    have noMarker : marker? text = none := by
      rw [Option.eq_none_iff_forall_ne_some]
      rintro ⟨digits, rest⟩ marker
      exact unmarked ⟨digits, rest, marker?_eq_some_iff.mp marker⟩
    rw [noMarker, detectQuote, noMarker]
    exact ⟨rfl, rfl, rfl, rfl⟩

/-- A marker that is written with the long s, a blank and digits of other scripts, and a line break
behind it. -/
def foreignMarker : Text := "[!ſpoiler\u2003CHAPTER ٤٢]\n hidden".toList

/-- A quote whose marker has a number without a chapter. -/
def numberedMarker : Text := "[!SPOILER 42] hidden".toList

/-- A marker in other scripts is read by all of them, and a number without a chapter is no marker.
-/
theorem markers_agree_foreign :
    (BeginsMarked foreignMarker (some "٤٢".toList) "\n hidden".toList ∧
      markerPattern.read? foreignMarker = some ([], "\n hidden".toList) ∧
      detectQuote foreignMarker = .ok (some ⟨some 42, "hidden".toList, .blockquote⟩)) ∧
    (¬ ∃ digits rest, BeginsMarked numberedMarker digits rest) ∧
    detectQuote numberedMarker = .ok none := by
  have begins : BeginsMarked foreignMarker (some "٤٢".toList) "\n hidden".toList :=
    marker?_eq_some_iff.mp (by decide +kernel)
  have unmarked : ¬ ∃ digits rest, BeginsMarked numberedMarker digits rest := by
    rw [← (markers_agree numberedMarker).1]
    decide +kernel
  obtain ⟨-, ends, -, detected⟩ := (markers_agree foreignMarker).2.1 _ _ begins
  refine ⟨⟨begins, ends, ?_⟩, unmarked, ((markers_agree numberedMarker).2.2 unmarked).2.2.2⟩
  rw [detected (by rintro _ ⟨⟩; decide)]
  decide +kernel

end Loremark.Spoiler
