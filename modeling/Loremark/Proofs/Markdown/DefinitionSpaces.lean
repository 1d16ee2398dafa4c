import Loremark.Markdown.Block.Continuation
import Loremark.Proofs.Markdown.RunningText
import Loremark.Proofs.Markdown.Twins

/-!
# Definitions of labels with spaces at the ends of their lines

A definition may be spread over lines: its label and its title may hold line ends, and a line end
may stand in front of the destination and of the title. Spaces in front of a line end do not change
where the definition ends, unless a backslash stands in front of them: there they would be what the
backslash escapes, instead of the line end.
-/

set_option autoImplicit false

namespace Loremark.Markdown

/-- A text, and the same text with spaces in front of line ends. `escaped` tells that a backslash
stands in front of the texts, behind which there are no such spaces. -/
inductive Trailing : (escaped : Bool) → Text → Text → Prop
  | nil (escaped : Bool) : Trailing escaped [] []
  | char {escaped : Bool} {text other : Text} (c : Char)
      (behind : Trailing (c == '\\') text other) : Trailing escaped (c :: text) (c :: other)
  | spaces {pad text other : Text} (spaces : Spaces pad) (behind : Trailing false text other) :
      Trailing false ('\n' :: text) (pad ++ '\n' :: other)

variable {escaped : Bool} {text other rest otherRest : Text}

/-- Texts that differ behind a backslash as allowed differ as allowed elsewhere, too. -/
theorem Trailing.relax (trailing : Trailing escaped text other) : Trailing false text other := by
  cases trailing with
  | nil => exact .nil false
  | char c behind => exact .char c behind
  | spaces spaces behind => exact .spaces spaces behind

/-- Two texts may have no spaces between them. -/
theorem trailing_refl (escaped : Bool) (text : Text) : Trailing escaped text text := by
  induction text generalizing escaped with
  | nil => exact .nil escaped
  | cons c text ih => exact .char c (ih _)

/-- The same characters in front of two texts. -/
theorem trailing_append {front : Text} (filled : front ≠ [])
    (behind : Trailing (front.getLast? == some '\\') text other) :
    Trailing escaped (front ++ text) (front ++ other) := by
  induction front generalizing escaped with
  | nil => exact absurd rfl filled
  | cons c front ih =>
    refine .char c ?_
    cases front with
    | nil => simpa using behind
    | cons d front => exact ih (List.cons_ne_nil d front) behind

/-- What stands behind a character that escapes nothing escapes nothing in the other text. -/
theorem Trailing.not_escape {c : Char} (behind : Trailing (c == '\\') text other)
    (notEscape : ∀ d rest, c = '\\' → text = d :: rest → False) :
    ∀ d rest, c = '\\' → other = d :: rest → False := by
  rintro d rest rfl rfl
  have here : Trailing true text (d :: rest) := behind
  cases here with
  | char _ _ => exact notEscape d _ rfl rfl

/-! ## Places in the texts -/

/-- What is left of a text and of the same text with spaces, behind the same line ends. -/
structure Beside (text other rest otherRest : Text) : Prop where
  trailing : Trailing false rest otherRest
  split : ∃ front otherFront, text = front ++ rest ∧ other = otherFront ++ otherRest ∧
    front.count '\n' = otherFront.count '\n'

namespace Beside

/-- Before anything is read, the texts themselves are left. -/
theorem refl (trailing : Trailing false text other) : Beside text other text other :=
  ⟨trailing, [], [], rfl, rfl, rfl⟩

/-- What is left of what is left is left of the texts. -/
theorem trans {next otherNext : Text} (first : Beside text other rest otherRest)
    (second : Beside rest otherRest next otherNext) : Beside text other next otherNext := by
  obtain ⟨front, otherFront, rfl, rfl, count⟩ := first.split
  obtain ⟨more, otherMore, rfl, rfl, countMore⟩ := second.split
  refine ⟨second.trailing, front ++ more, otherFront ++ otherMore, ?_, ?_, ?_⟩
  · rw [List.append_assoc]
  · rw [List.append_assoc]
  · rw [List.count_append, List.count_append, count, countMore]

/-- Reading a character of both texts leaves what was left behind it. -/
theorem cons (c : Char) (beside : Beside text other rest otherRest) :
    Beside (c :: text) (c :: other) rest otherRest := by
  obtain ⟨front, otherFront, rfl, rfl, count⟩ := beside.split
  exact ⟨beside.trailing, c :: front, c :: otherFront, rfl, rfl, by simp [List.count_cons, count]⟩

/-- A line end may be read together with the spaces in front of it. -/
theorem spaces {pad : Text} (spaces : Spaces pad) (beside : Beside text other rest otherRest) :
    Beside ('\n' :: text) (pad ++ '\n' :: other) rest otherRest := by
  obtain ⟨front, otherFront, rfl, rfl, count⟩ := beside.split
  refine ⟨beside.trailing, '\n' :: front, pad ++ '\n' :: otherFront, rfl, by simp, ?_⟩
  simp [List.count_append, List.count_eq_zero.mpr spaces.newline_not_mem, count]

/-- As many lines have been used in front of the places. -/
theorem count_eq (beside : Beside text other rest otherRest) :
    (text.take (text.length - rest.length)).count '\n' =
      (other.take (other.length - otherRest.length)).count '\n' := by
  obtain ⟨front, otherFront, rfl, rfl, count⟩ := beside.split
  simpa using count

end Beside

/-- Readings at the beginning of the two texts that both find nothing, or both find something and
come to the same place. -/
def Together {α : Type} (agree : α → α → Prop) (text other : Text)
    (found otherFound : Option (α × Text)) : Prop :=
  (found = none ∧ otherFound = none) ∨ ∃ a b rest otherRest, found = some (a, rest) ∧
    otherFound = some (b, otherRest) ∧ agree a b ∧ Beside text other rest otherRest

/-- What begins with spaces in front of a line end begins with no other character. -/
theorem Spaces.head?_line {pad : Text} (spaces : Spaces pad) {c : Char} (other : c ≠ ' ' ∧ c ≠ '\n')
    (text : Text) : (pad ++ '\n' :: text).head? ≠ some c := by
  cases pad with
  | nil => simpa using Ne.symm other.2
  | cons d pad => simpa [spaces.of_cons.1] using Ne.symm other.1

/-! ## Labels -/

/-- Spaces in front of a label are part of it. -/
theorem definitionLabel?_spaces {pad : Text} (spaces : Spaces pad) (text : Text) :
    definitionLabel? (pad ++ text) =
      (definitionLabel? text).map fun (label, rest) => (pad ++ label, rest) := by
  induction pad with
  | nil => simp
  | cons c pad ih =>
    obtain ⟨rfl, behind⟩ := spaces.of_cons
    rw [List.cons_append, definitionLabel?, ih behind, Option.map_map]
    · rfl
    all_goals simp

/-- Labels end at the same place of both texts. -/
theorem definitionLabel?_together (trailing : Trailing escaped text other) :
    Together (Trailing escaped) text other (definitionLabel? text) (definitionLabel? other) := by
  fun_induction definitionLabel? text generalizing escaped other with
  | case1 =>
    cases trailing
    exact .inl ⟨rfl, rfl⟩
  | case2 text =>
    cases trailing with
    | char _ behind =>
      exact .inr ⟨[], [], text, _, rfl, rfl, .nil escaped, (Beside.refl behind.relax).cons ']'⟩
  | case3 text =>
    cases trailing
    exact .inl ⟨rfl, rfl⟩
  -- Behind a backslash the two texts go on with the same character.
  | case4 c text ih =>
    obtain _ | ⟨_, _ | ⟨_, behind⟩⟩ := trailing
    rcases ih behind with ⟨none, otherNone⟩ | ⟨label, otherLabel, rest, otherRest, found,
      otherFound, same, beside⟩
    · exact .inl ⟨by rw [none]; rfl, by rw [definitionLabel?, otherNone]; rfl⟩
    · exact .inr ⟨'\\' :: c :: label, '\\' :: c :: otherLabel, rest, otherRest, by rw [found]; rfl,
        by rw [definitionLabel?, otherFound]; rfl, .char _ (.char c same), (beside.cons c).cons _⟩
  | case5 c text notClosing notOpening notEscape ih =>
    cases trailing with
    | char _ behind =>
      rename_i other
      have onward : definitionLabel? (c :: other) =
          (definitionLabel? other).map fun (label, rest) => (c :: label, rest) := by
        rw [definitionLabel?]
        · exact notClosing
        · exact notOpening
        · exact behind.not_escape notEscape
      rcases ih behind with ⟨none, otherNone⟩ | ⟨label, otherLabel, rest, otherRest, found,
        otherFound, same, beside⟩
      · exact .inl ⟨by rw [none]; rfl, by rw [onward, otherNone]; rfl⟩
      · exact .inr ⟨c :: label, c :: otherLabel, rest, otherRest, by rw [found]; rfl,
          by rw [onward, otherFound]; rfl, .char c same, beside.cons c⟩
    | spaces spaces behind =>
      rename_i pad other
      have onward : definitionLabel? ('\n' :: other) =
          (definitionLabel? other).map fun (label, rest) => ('\n' :: label, rest) := by
        rw [definitionLabel?]
        all_goals simp
      rcases ih behind with ⟨none, otherNone⟩ | ⟨label, otherLabel, rest, otherRest, found,
        otherFound, same, beside⟩
      · exact .inl ⟨by rw [none]; rfl, by
          rw [definitionLabel?_spaces spaces, onward, otherNone]; rfl⟩
      · exact .inr ⟨'\n' :: label, pad ++ '\n' :: otherLabel, rest, otherRest, by rw [found]; rfl,
          by rw [definitionLabel?_spaces spaces, onward, otherFound]; rfl, .spaces spaces same,
          beside.spaces spaces⟩

/-- Pieces between spacing of which the first ones are equal, and as many words are behind. -/
theorem step_trailing (trailing : Trailing escaped text other) :
    ∃ first pieces others, Text.words.step text = first :: pieces ∧
      Text.words.step other = first :: others ∧
      pieces.filter (!·.isEmpty) = others.filter (!·.isEmpty) := by
  induction trailing with
  | nil => exact ⟨[], [], [], rfl, rfl, rfl⟩
  | char c behind ih =>
    obtain ⟨first, pieces, others, split, otherSplit, same⟩ := ih
    cases spacing : Text.isSpacing c with
    | true =>
      exact ⟨[], first :: pieces, first :: others, by simp [Text.words.step, spacing, split],
        by simp [Text.words.step, spacing, otherSplit], by simp [List.filter_cons, same]⟩
    | false =>
      exact ⟨c :: first, pieces, others, by simp [Text.words.step, spacing, split],
        by simp [Text.words.step, spacing, otherSplit], same⟩
  | spaces spaces behind ih =>
    rename_i pad text other
    obtain ⟨first, pieces, others, split, otherSplit, same⟩ := ih
    have lineEnd : Text.isSpacing '\n' = true := rfl
    have step : Text.words.step ('\n' :: text) = [] :: first :: pieces := by
      simp [Text.words.step, lineEnd, split]
    -- Every space makes an empty piece, and empty pieces do not count.
    have padded : ∃ gaps, (∀ gap ∈ gaps, gap = []) ∧
        Text.words.step (pad ++ '\n' :: other) = [] :: (gaps ++ first :: others) := by
      clear step
      induction pad with
      | nil => exact ⟨[], by simp, by simp [Text.words.step, lineEnd, otherSplit]⟩
      | cons c pad ih =>
        obtain ⟨rfl, more⟩ := spaces.of_cons
        obtain ⟨gaps, empty, split⟩ := ih more
        have space : Text.isSpacing ' ' = true := rfl
        exact ⟨[] :: gaps, by simpa using empty, by simp [Text.words.step, space, split]⟩
    obtain ⟨gaps, empty, otherStep⟩ := padded
    have none : gaps.filter (!·.isEmpty) = [] := by
      rw [List.filter_eq_nil_iff]
      intro gap mem
      simp [empty gap mem]
    exact ⟨[], first :: pieces, gaps ++ first :: others, step, otherStep, by
      simp [List.filter_append, List.filter_cons, none, same]⟩

/-- Labels that differ by spaces in front of line ends have the same key. -/
theorem labelKey_trailing (trailing : Trailing escaped text other) :
    labelKey text = labelKey other := by
  obtain ⟨first, pieces, others, split, otherSplit, same⟩ := step_trailing trailing
  have words : Text.words text = Text.words other := by
    simp [Text.words, split, otherSplit, List.filter_cons, same]
  rw [labelKey, labelKey, Text.collapse, Text.collapse, words]

/-! ## Gaps and line ends -/

/-- Gaps in both texts end at the same place. -/
theorem skipGap_beside (trailing : Trailing escaped text other) :
    Beside text other (skipGap text) (skipGap other) := by
  induction trailing with
  | nil => exact .refl (.nil false)
  | char c behind ih =>
    cases gap : (Text.isIndent c || c == '\n') with
    | true => simpa [skipGap, List.dropWhile_cons, gap] using ih.cons c
    | false => simpa [skipGap, List.dropWhile_cons, gap] using Beside.refl (.char c behind)
  | spaces spaces behind ih =>
    rename_i pad text other
    have dropped : skipGap (pad ++ '\n' :: other) = skipGap other := by
      have pads : ∀ c ∈ pad, (Text.isIndent c || c == '\n') = true := fun c mem => by
        rw [spaces c mem]; rfl
      rw [skipGap, List.dropWhile_append_of_pos pads]
      rfl
    rw [dropped]
    exact ih.spaces spaces

/-- A gap is skipped where an indent or a line end stands. -/
theorem skipGap_lt_cons (c : Char) (text : Text) :
    (skipGap (c :: text)).length < (c :: text).length ↔ (Text.isIndent c || c == '\n') = true := by
  rw [skipGap, List.dropWhile_cons]
  split
  · rename_i gap
    simpa [gap] using Nat.lt_succ_of_le (List.dropWhile_suffix _).length_le
  · rename_i solid
    simp [solid]

/-- Whether there is a gap at the beginning. -/
theorem skipGap_lt (trailing : Trailing escaped text other) :
    (skipGap text).length < text.length ↔ (skipGap other).length < other.length := by
  cases trailing with
  | nil => exact Iff.rfl
  | char c behind => rw [skipGap_lt_cons, skipGap_lt_cons]
  | spaces spaces behind =>
    rename_i pad text other
    cases pad with
    | nil => rw [List.nil_append, skipGap_lt_cons, skipGap_lt_cons]
    | cons c pad =>
      rw [List.cons_append, skipGap_lt_cons, skipGap_lt_cons, spaces.of_cons.1]
      exact Iff.rfl

/-- An indent in front of a line end is passed over. -/
theorem lineEnd?_indent {c : Char} (indent : Text.isIndent c = true) (text : Text) :
    lineEnd? (c :: text) = lineEnd? text := by
  rw [lineEnd?, lineEnd?, List.dropWhile_cons, if_pos indent]

/-- Both texts have a line end here, or neither has one. -/
theorem lineEnd?_together (trailing : Trailing escaped text other) :
    (lineEnd? text = none ∧ lineEnd? other = none) ∨ ∃ rest otherRest,
      lineEnd? text = some rest ∧ lineEnd? other = some otherRest ∧
        Beside text other rest otherRest := by
  induction trailing with
  | nil => exact .inr ⟨[], [], rfl, rfl, .refl (.nil false)⟩
  | char c behind ih =>
    cases indent : Text.isIndent c with
    | true =>
      rw [lineEnd?_indent indent, lineEnd?_indent indent]
      exact ih.imp_right fun ⟨rest, otherRest, found, otherFound, beside⟩ =>
        ⟨rest, otherRest, found, otherFound, beside.cons c⟩
    | false =>
      by_cases lineEnd : c = '\n'
      · subst lineEnd
        exact .inr ⟨_, _, rfl, rfl, .refl (.char _ behind)⟩
      · exact .inl ⟨by simp [lineEnd?, indent, lineEnd],
          by simp [lineEnd?, indent, lineEnd]⟩
  | spaces spaces behind ih =>
    rename_i pad text other
    have dropped : lineEnd? (pad ++ '\n' :: other) = some ('\n' :: other) := by
      have pads : ∀ c ∈ pad, Text.isIndent c = true := fun c mem => by rw [spaces c mem]; rfl
      rw [lineEnd?, List.dropWhile_append_of_pos pads]
      rfl
    refine .inr ⟨'\n' :: text, '\n' :: other, rfl, dropped, .char _ behind, [], pad, rfl, rfl, ?_⟩
    simp [List.count_eq_zero.mpr spaces.newline_not_mem]

/-! ## Destinations -/

/-- A text up to its first line end, and what follows in both texts. -/
theorem Trailing.firstLine (trailing : Trailing escaped text other) :
    ('\n' ∉ text ∧ other = text) ∨ ∃ first pad rest otherRest, '\n' ∉ first ∧ Spaces pad ∧
      text = first ++ '\n' :: rest ∧ other = first ++ (pad ++ '\n' :: otherRest) ∧
      Trailing false rest otherRest ∧ (first.getLast? = some '\\' → pad = []) ∧
      (first = [] → escaped = true → pad = []) := by
  induction trailing with
  | nil => exact .inl ⟨List.not_mem_nil, rfl⟩
  | char c behind ih =>
    rename_i text other
    by_cases lineEnd : c = '\n'
    · subst lineEnd
      exact .inr ⟨[], [], text, other, List.not_mem_nil, spaces_nil, rfl, rfl, behind.relax,
        fun _ => rfl, fun _ _ => rfl⟩
    · rcases ih with ⟨oneLine, rfl⟩ | ⟨first, pad, rest, otherRest, oneLine, spaces, rfl, rfl, more,
        last, none⟩
      · exact .inl ⟨by simp [oneLine, Ne.symm lineEnd], rfl⟩
      · refine .inr ⟨c :: first, pad, rest, otherRest, by simp [oneLine, Ne.symm lineEnd], spaces,
          rfl, rfl, more, fun ends => ?_, fun absurd => by cases absurd⟩
        cases first with
        | nil => exact none rfl (by simpa using ends)
        | cons d first => exact last (by simpa using ends)
  | spaces spaces behind ih =>
    refine .inr ⟨[], _, _, _, List.not_mem_nil, spaces, rfl, rfl, behind, ?_, ?_⟩
    · simp
    · simp

/-- A text without line ends is one line. -/
theorem splitLine_of_not_mem (oneLine : '\n' ∉ text) : splitLine text = (text, []) := by
  have whole : text.takeWhile (· != '\n') = text :=
    List.takeWhile_eq_self_iff.mpr fun c mem => by
      simpa using ne_of_mem_of_not_mem mem oneLine
  simp [splitLine, whole]

/-- The first line goes up to the first line end. -/
theorem splitLine_append {first : Text} (oneLine : '\n' ∉ first) (rest : Text) :
    splitLine (first ++ '\n' :: rest) = (first ++ ['\n'], rest) := by
  have solid : ∀ c ∈ first, (c != '\n') = true := fun c mem => by
    simpa using ne_of_mem_of_not_mem mem oneLine
  have taken : (first ++ '\n' :: rest).takeWhile (· != '\n') = first := by
    rw [List.takeWhile_append_of_pos solid]
    simp
  simp [splitLine, taken]

/-- A reading that finds the same in the first line of a text whatever spaces stand at its end, and
leaves the rest of the line. -/
def FindsIn (first : Text) (find : Text → Option (Text × Text)) : Prop :=
  (∀ pad, Spaces pad → find (first ++ (pad ++ ['\n'])) = none) ∨
    ∃ inner back, back <:+ first ∧ ∀ pad, Spaces pad →
      find (first ++ (pad ++ ['\n'])) = some (inner, back ++ (pad ++ ['\n']))

/-- Reading on behind a character that does not end what is read. -/
theorem FindsIn.cons {first : Text} {c : Char} {find findBehind : Text → Option (Text × Text)}
    (finds : FindsIn first findBehind)
    (onward : ∀ pad, Spaces pad → find (c :: first ++ (pad ++ ['\n'])) =
      (findBehind (first ++ (pad ++ ['\n']))).map fun (inner, rest) => (c :: inner, rest)) :
    FindsIn (c :: first) find := by
  rcases finds with none | ⟨inner, back, part, found⟩
  · exact .inl fun pad spaces => by rw [onward pad spaces, none pad spaces]; rfl
  · exact .inr ⟨c :: inner, back, part.trans (List.suffix_cons c first), fun pad spaces => by
      rw [onward pad spaces, found pad spaces]; rfl⟩

/-- What finds nothing in any line finds the same in all of them. -/
theorem FindsIn.none {first : Text} {find : Text → Option (Text × Text)}
    (fails : ∀ pad, Spaces pad → find (first ++ (pad ++ ['\n'])) = .none) : FindsIn first find :=
  .inl fails

/-- What finds nothing but the end here finds it whatever spaces follow. -/
theorem FindsIn.hereIf {first : Text} {find : Text → Option (Text × Text)} (closed : Bool)
    (finds : ∀ pad, Spaces pad → find (first ++ (pad ++ ['\n'])) =
      if closed then some ([], first ++ (pad ++ ['\n'])) else .none) : FindsIn first find := by
  cases closed with
  | true => exact .inr ⟨[], first, List.suffix_refl first, finds⟩
  | false => exact .none finds

/-- A character without a meaning is taken into the brackets. -/
theorem bracketed?_cons {c : Char} (notClosing : c ≠ '>') (notEscape : c ≠ '\\') (text : Text) :
    bracketed? (c :: text) = if c == '\n' || c == '<' then none
      else (bracketed? text).map fun (inner, rest) => (c :: inner, rest) := by
  rw [bracketed?]
  · exact notClosing
  · exact fun _ _ same => absurd same notEscape

/-- Brackets are not closed by spaces. -/
theorem bracketed?_spaces {pad : Text} (spaces : Spaces pad) :
    bracketed? (pad ++ ['\n']) = none := by
  induction pad with
  | nil => rfl
  | cons c pad ih =>
    obtain ⟨rfl, behind⟩ := spaces.of_cons
    rw [List.cons_append, bracketed?_cons (by decide) (by decide), ih behind]
    rfl

/-- Brackets are closed in the same place whatever spaces stand at the end of the line. -/
theorem bracketed?_finds {first : Text} (last : first.getLast? ≠ some '\\') :
    FindsIn first bracketed? := by
  induction h : first.length using Nat.strong_induction_on generalizing first with
  | _ length ih =>
    obtain _ | ⟨c, first⟩ := first
    · exact .none fun pad spaces => bracketed?_spaces spaces
    · by_cases closing : c = '>'
      · subst closing
        exact .inr ⟨[], first, List.suffix_cons _ _, fun pad _ => rfl⟩
      · -- An end of the line ends as the line does, so no backslash stands at its end either.
        have behind (text : Text) (part : text <:+ first) : FindsIn text bracketed? := by
          refine ih text.length ?_ (fun ends => ?_) rfl
          · have := part.length_le
            simp at h
            omega
          · exact last (getLast?_of_suffix (part.trans (List.suffix_cons c first)) ends)
        by_cases escape : c = '\\'
        · subst escape
          cases first with
          | nil => exact absurd rfl last
          | cons d first =>
            have next : FindsIn (d :: first) fun text =>
                (bracketed? (text.drop 1)).map fun (inner, rest) => (d :: inner, rest) :=
              (behind first (List.suffix_cons d first)).cons fun _ _ => rfl
            refine next.cons fun pad _ => ?_
            rw [List.cons_append, List.cons_append, bracketed?, Option.map_map]
            rfl
        · by_cases stops : c = '\n' ∨ c = '<'
          · exact .none fun pad _ => by
              rw [List.cons_append, bracketed?_cons closing escape, if_pos (by simpa using stops)]
          · refine (behind first (List.suffix_refl first)).cons fun pad _ => ?_
            rw [List.cons_append, bracketed?_cons closing escape, if_neg (by simpa using stops)]

/-- What comes of a character of a destination without brackets: the destination ends in front of
it, there is no destination, or it goes on behind the character. -/
inductive BareStep
  | stop
  | fail
  | onward (depth skip : Nat)

/-- What comes of a character in front of which `depth` parentheses are open, and behind which
stands `next`. -/
def bareStep (depth : Nat) (c : Char) (next : Option Char) : BareStep :=
  if endsDestination c then .stop
  else if c == '\\' && next.isSome then
    if next == some ' ' then .stop else .onward depth 1
  else if c == '(' then if depth == parenthesisLimit then .fail else .onward (depth + 1) 0
  else if c == ')' then if depth == 0 then .stop else .onward (depth - 1) 0
  else .onward depth 0

/-- The destination at the beginning of a text, by what comes of its first character. -/
def BareStep.read (depth : Nat) (c : Char) (text : Text) : BareStep → Option (Text × Text)
  | stop => if depth == 0 then some ([], c :: text) else none
  | fail => none
  | onward depth skip => (bare? depth skip text).map fun read => (c :: read.1, read.2)

/-- A destination is read by what comes of its first character. -/
theorem bare?_cons (depth : Nat) (c : Char) (text : Text) :
    bare? depth 0 (c :: text) = (bareStep depth c text.head?).read depth c text := by
  have filled : (!text.isEmpty) = text.head?.isSome := by cases text <;> rfl
  rw [bare?, bareStep, filled]
  dsimp only
  split
  · rfl
  · split
    · split <;> rfl
    · split
      · split <;> rfl
      · split
        · split
          · rename_i closed
            rw [BareStep.read, if_pos closed]
          · rfl
        · rfl

/-- What stands behind a character matters to a backslash only. -/
theorem bareStep_of_ne {c : Char} (notEscape : c ≠ '\\') (depth : Nat) (next other : Option Char) :
    bareStep depth c next = bareStep depth c other := by
  simp [bareStep, notEscape]

/-- Going on never skips more than there is. -/
theorem skip_le_of_bareStep {depth deeper skip : Nat} {c : Char}
    (step : bareStep depth c text.head? = .onward deeper skip) : skip ≤ text.length := by
  rw [bareStep] at step
  split at step
  · cases step
  · split at step
    · rename_i escape
      split at step
      · cases step
      · cases step
        cases text with
        | nil => simp at escape
        | cons d text => simp
    · -- Only a backslash makes reading pass over what stands behind it.
      have here : skip = 0 := by
        split at step
        · split at step <;> cases step
          rfl
        · split at step
          · split at step <;> cases step
            rfl
          · cases step
            rfl
      exact here ▸ Nat.zero_le _

/-- A bare destination ends in the same place whatever spaces stand at the end of the line. -/
theorem bare?_finds {first : Text} {depth skip : Nat} (short : skip ≤ first.length)
    (last : first.getLast? ≠ some '\\') : FindsIn first (bare? depth skip) := by
  induction first generalizing depth skip with
  | nil =>
    obtain rfl : skip = 0 := Nat.le_zero.mp short
    refine .hereIf (depth == 0) fun pad spaces => ?_
    cases pad with
    | nil => rfl
    | cons c pad =>
      rw [spaces.of_cons.1]
      rfl
  | cons c first ih =>
    have lastBehind : first.getLast? ≠ some '\\' := fun ends =>
      last (getLast?_of_suffix (List.suffix_cons c first) ends)
    cases skip with
    | succ skip =>
      exact (ih (Nat.le_of_succ_le_succ short) lastBehind).cons fun pad _ => by
        rw [List.cons_append, bare?]
    | zero =>
      -- Only a backslash looks at what stands behind it, and the line does not end in one.
      have read (pad : Text) : bare? depth 0 (c :: first ++ (pad ++ ['\n'])) =
          (bareStep depth c first.head?).read depth c (first ++ (pad ++ ['\n'])) := by
        rw [List.cons_append, bare?_cons]
        cases first with
        | nil => rw [bareStep_of_ne (by simpa using last)]
        | cons d first => rfl
      cases step : bareStep depth c first.head? with
      | stop => exact .hereIf (depth == 0) fun pad _ => by rw [read, step]; rfl
      | fail => exact .none fun pad _ => by rw [read, step]; rfl
      | onward deeper skip =>
        exact (ih (skip_le_of_bareStep step) lastBehind).cons fun pad _ => by rw [read, step]; rfl

/-- A destination without brackets is bare. -/
theorem destination?_of_bare (bracket : text.head? ≠ some '<') : destination? text =
    (bare? 0 0 text).bind fun found =>
      if found.1.isEmpty then none else some (unescape found.1, found.2) := by
  rw [destination?.eq_def]
  split
  · exact absurd rfl bracket
  · split
    · rename_i none
      rw [none]
      rfl
    · rename_i rest found
      rw [found]
      rfl
    · rename_i inner rest filled found
      rw [found]
      cases inner with
      | nil => exact (filled rfl).elim
      | cons c inner => rfl

/-- A destination ends in the same place whatever spaces stand at the end of the line. -/
theorem destination?_finds {first : Text} (last : first.getLast? ≠ some '\\') :
    FindsIn first destination? := by
  by_cases bracket : first.head? = some '<'
  · obtain ⟨inside, rfl⟩ : ∃ inside, first = '<' :: inside := by
      cases first with
      | nil => cases bracket
      | cons c inside => exact ⟨inside, by simpa using bracket⟩
    have lastBehind : inside.getLast? ≠ some '\\' := fun ends =>
      last (getLast?_of_suffix (List.suffix_cons _ inside) ends)
    rcases bracketed?_finds lastBehind with none | ⟨inner, back, part, found⟩
    · exact .none fun pad spaces => by rw [List.cons_append, destination?, none pad spaces]; rfl
    · exact .inr ⟨unescape inner, back, part.trans (List.suffix_cons _ _), fun pad spaces => by
        rw [List.cons_append, destination?, found pad spaces]; rfl⟩
  · have plain {pad : Text} (spaces : Spaces pad) :
        (first ++ (pad ++ ['\n'])).head? ≠ some '<' := by
      cases first with
      | cons c first => simpa using bracket
      | nil => exact spaces.head?_line (by decide) []
    rcases bare?_finds (Nat.zero_le _) last with none | ⟨inner, back, part, found⟩
    · exact .none fun pad spaces => by
        rw [destination?_of_bare (plain spaces), none pad spaces]
        rfl
    · cases inner with
      | nil =>
        exact .none fun pad spaces => by
          rw [destination?_of_bare (plain spaces), found pad spaces]
          rfl
      | cons c inner =>
        exact .inr ⟨unescape (c :: inner), back, part, fun pad spaces => by
          rw [destination?_of_bare (plain spaces), found pad spaces]
          rfl⟩

/-! ## Titles -/

/-- A character reference stands for at least one character. -/
theorem plainReference?_ne_nil {body chars : Text} (found : plainReference? body = some chars) :
    chars ≠ [] := by
  rw [plainReference?.eq_def] at found
  split at found
  · obtain ⟨code, -, written⟩ := Option.bind_eq_some_iff.mp found
    split at written
    · cases written
      exact List.cons_ne_nil _ _
    · cases written
  · exact named?_ne_nil found

/-- What is replaced is replaced by at least one character. -/
theorem replaced?_ne_nil {chars : Text} (found : replaced? text = some (chars, rest)) :
    chars ≠ [] := by
  obtain ⟨⟨body, behind⟩, -, found⟩ := Option.bind_eq_some_iff.mp found
  obtain ⟨others, named, same⟩ := Option.bind_eq_some_iff.mp found
  cases same
  exact plainReference?_ne_nil named

/-- Only the empty text is empty without its escapes. -/
theorem unescape_eq_nil_iff (text : Text) : unescape text = [] ↔ text = [] := by
  refine ⟨fun none => ?_, fun none => by rw [none]; rfl⟩
  rw [unescape, unescapeFrom.eq_def] at none
  split at none
  · rfl
  · cases ‹0 = _ + 1›
  · split at none <;> cases none
  · split at none
    · rename_i found
      exact absurd (List.append_eq_nil_iff.mp none).1 (replaced?_ne_nil found)
    · cases none
  · cases none

/-- Titles of which both or neither are empty. -/
def BothOrNeither (title otherTitle : Text) : Prop := title = [] ↔ otherTitle = []

/-- The outcomes of reading titles in the two texts. -/
inductive TitlesAgree (text other : Text) : TitleScan → TitleScan → Prop
  | closed {title otherTitle rest otherRest : Text} (isEmpty : BothOrNeither title otherTitle)
      (beside : Beside text other rest otherRest) :
      TitlesAgree text other (.closed title rest) (.closed otherTitle otherRest)
  | unclosed (title otherTitle : Text) :
      TitlesAgree text other (.unclosed title) (.unclosed otherTitle)
  | absent : TitlesAgree text other .absent .absent

/-- Titles that agree behind a place agree from in front of it. -/
theorem TitlesAgree.of_beside {next otherNext : Text} {scan otherScan : TitleScan}
    (agree : TitlesAgree next otherNext scan otherScan)
    (beside : ∀ rest otherRest, Beside next otherNext rest otherRest →
      Beside text other rest otherRest) : TitlesAgree text other scan otherScan := by
  cases agree with
  | closed isEmpty there => exact .closed isEmpty (beside _ _ there)
  | unclosed title otherTitle => exact .unclosed title otherTitle
  | absent => exact .absent

/-- Spaces in front of the rest of a title are part of it. -/
theorem titleFrom_spaces {mark : Char} (solid : mark ≠ ' ') {pad : Text} (spaces : Spaces pad)
    (done text : Text) :
    titleFrom mark done (pad ++ text) = titleFrom mark (pad.reverse ++ done) text := by
  induction pad generalizing done with
  | nil => rfl
  | cons c pad ih =>
    obtain ⟨rfl, behind⟩ := spaces.of_cons
    rw [List.cons_append, titleFrom, if_neg (by simpa using Ne.symm solid), if_neg (by simp),
      ih behind, List.reverse_cons, List.append_assoc]
    · rfl
    · simp

/-- Titles that have been read equally far agree. -/
theorem titleFrom_agree {mark : Char} (solid : mark ≠ ' ') (line : mark ≠ '\n')
    {done otherDone : Text} (same : done = [] ↔ otherDone = [])
    (trailing : Trailing escaped text other) :
    TitlesAgree text other (titleFrom mark done text) (titleFrom mark otherDone other) := by
  fun_induction titleFrom mark done text generalizing escaped other otherDone with
  | case1 done =>
    cases trailing
    rw [titleFrom]
    exact .unclosed _ _
  | case2 done c text ih =>
    obtain _ | ⟨_, _ | ⟨_, behind⟩⟩ := trailing
    rw [titleFrom]
    exact (ih (by simp) behind).of_beside fun _ _ beside => (beside.cons c).cons '\\'
  -- The mark is no line end, so no spaces stand in front of it.
  | case3 done c text notEscape closing =>
    cases trailing with
    | char _ behind =>
      rw [titleFrom, if_pos closing]
      · refine .closed ?_ ((Beside.refl behind.relax).cons c)
        simp [BothOrNeither, unescape_eq_nil_iff, same]
      · exact behind.not_escape notEscape
    | spaces _ _ => exact absurd (beq_iff_eq.mp closing).symm line
  | case4 done c text notEscape goesOn opening =>
    cases trailing with
    | char _ behind =>
      rw [titleFrom, if_neg goesOn, if_pos opening]
      · exact .absent
      · exact behind.not_escape notEscape
    | spaces _ _ => exact absurd (Bool.and_eq_true_iff.mp opening).1 (by decide)
  | case5 done c text notEscape goesOn plain ih =>
    cases trailing with
    | char _ behind =>
      rw [titleFrom, if_neg goesOn, if_neg plain]
      · exact (ih (by simp) behind).of_beside fun _ _ beside => beside.cons c
      · exact behind.not_escape notEscape
    | spaces spaces behind =>
      rw [titleFrom_spaces solid spaces, titleFrom, if_neg goesOn, if_neg plain]
      · exact (ih (by simp) behind).of_beside fun _ _ beside => beside.spaces spaces
      · simp

/-- No mark that closes a title is a space or a line end. -/
theorem titleMark?_ends {c mark : Char} (opener : titleMark? c = some mark) :
    mark ≠ ' ' ∧ mark ≠ '\n' := by
  rw [titleMark?] at opener
  split at opener
  · rename_i quote
    cases opener
    rcases Bool.or_eq_true_iff.mp quote with double | single
    · rw [beq_iff_eq.mp double]
      decide
    · rw [beq_iff_eq.mp single]
      decide
  · split at opener
    · cases opener
      decide
    · cases opener

/-- Titles at the beginning of both texts agree. -/
theorem title?_together (trailing : Trailing false text other) :
    Together BothOrNeither text other (title? text) (title? other) := by
  cases trailing with
  | nil => exact .inl ⟨rfl, rfl⟩
  | char c behind =>
    cases opener : titleMark? c with
    | none => exact .inl ⟨by rw [title?, opener], by rw [title?, opener]⟩
    | some mark =>
      have ends := titleMark?_ends opener
      have agree := titleFrom_agree ends.1 ends.2 (Iff.refl (([] : Text) = [])) behind
      rw [title?, title?, opener]
      dsimp only
      generalize titleFrom mark [] _ = scan at agree ⊢
      generalize titleFrom mark [] _ = otherScan at agree ⊢
      cases agree with
      | closed isEmpty beside => exact .inr ⟨_, _, _, _, rfl, rfl, isEmpty, beside.cons c⟩
      | unclosed title otherTitle => exact .inl ⟨rfl, rfl⟩
      | absent => exact .inl ⟨rfl, rfl⟩
  | spaces spaces behind =>
    rename_i pad text other
    refine .inl ⟨rfl, ?_⟩
    cases pad with
    | nil => rfl
    | cons c pad =>
      rw [spaces.of_cons.1]
      rfl

/-! ## Definitions -/

/-- What agrees behind what is left agrees from in front of it. -/
theorem Together.trans {α : Type} {agree : α → α → Prop} {next otherNext : Text}
    {found otherFound : Option (α × Text)} (beside : Beside text other next otherNext)
    (together : Together agree next otherNext found otherFound) :
    Together agree text other found otherFound := by
  rcases together with none | ⟨a, b, rest, otherRest, some, otherSome, same, there⟩
  · exact .inl none
  · exact .inr ⟨a, b, rest, otherRest, some, otherSome, same, beside.trans there⟩

/-- The title behind a gap. -/
def titleBehind? (text : Text) : Option (Text × Text) :=
  if (skipGap text).length < text.length then title? (skipGap text) else none

/-- Titles behind a gap agree. -/
theorem titleBehind?_together (beside : Beside text other rest otherRest) :
    Together BothOrNeither text other (titleBehind? rest) (titleBehind? otherRest) := by
  have gap := skipGap_beside beside.trailing
  rw [titleBehind?, titleBehind?]
  by_cases skips : (skipGap rest).length < rest.length
  · rw [if_pos skips, if_pos ((skipGap_lt beside.trailing).mp skips)]
    exact (title?_together gap.trailing).trans (beside.trans gap)
  · rw [if_neg skips, if_neg ((skipGap_lt beside.trailing).not.mp skips)]
    exact .inl ⟨rfl, rfl⟩

/-- What follows brackets is an end of the text. -/
theorem bracketed?_suffix {inner : Text} (found : bracketed? text = some (inner, rest)) :
    rest <:+ text := by
  fun_induction bracketed? text generalizing inner with
  | case1 => cases found
  | case2 text =>
    cases found
    exact List.suffix_cons _ _
  | case3 c text ih =>
    obtain ⟨⟨more, behind⟩, here, same⟩ := Option.map_eq_some_iff.mp found
    cases same
    exact (ih here).trans ((List.suffix_cons c text).trans (List.suffix_cons _ _))
  | case4 => cases found
  | case5 c text _ _ _ ih =>
    obtain ⟨⟨more, behind⟩, here, same⟩ := Option.map_eq_some_iff.mp found
    cases same
    exact (ih here).trans (List.suffix_cons c text)

/-- What follows a bare destination is an end of the text. -/
theorem bare?_suffix {depth skip : Nat} {inner : Text}
    (found : bare? depth skip text = some (inner, rest)) : rest <:+ text := by
  induction text generalizing depth skip inner with
  | nil =>
    rw [bare?] at found
    split at found
    · cases found
      exact List.suffix_refl _
    · cases found
  | cons c text ih =>
    have onward {depth skip : Nat} (found : (bare? depth skip text).map (fun read =>
        (c :: read.1, read.2)) = some (inner, rest)) : rest <:+ c :: text := by
      obtain ⟨⟨more, behind⟩, here, same⟩ := Option.map_eq_some_iff.mp found
      cases same
      exact (ih here).trans (List.suffix_cons c text)
    cases skip with
    | succ skip => exact onward found
    | zero =>
      rw [bare?_cons] at found
      cases step : bareStep depth c text.head? with
      | stop =>
        rw [step, BareStep.read] at found
        split at found
        · cases found
          exact List.suffix_refl _
        · cases found
      | fail =>
        rw [step] at found
        cases found
      | onward deeper skip =>
        rw [step] at found
        exact onward found

/-- What follows a destination is an end of the text. -/
theorem destination?_suffix {written : Text} (found : destination? text = some (written, rest)) :
    rest <:+ text := by
  rw [destination?.eq_def] at found
  split at found
  · obtain ⟨⟨inner, behind⟩, here, same⟩ := Option.map_eq_some_iff.mp found
    cases same
    exact (bracketed?_suffix here).trans (List.suffix_cons _ _)
  · split at found
    · cases found
    · cases found
    · rename_i here
      cases found
      exact bare?_suffix here

/-- What is read of the first line of the two texts. -/
theorem destination?_line {first pad : Text} (spaces : Spaces pad)
    (last : first.getLast? = some '\\' → pad = []) :
    (destination? (first ++ ['\n']) = none ∧ destination? (first ++ (pad ++ ['\n'])) = none) ∨
      ∃ written, (∃ back, back <:+ first ∧
        destination? (first ++ ['\n']) = some (written, back ++ ['\n']) ∧
        destination? (first ++ (pad ++ ['\n'])) = some (written, back ++ (pad ++ ['\n']))) ∨
      (pad = [] ∧ destination? (first ++ ['\n']) = some (written, [])) := by
  by_cases escape : first.getLast? = some '\\'
  · obtain rfl := last escape
    rw [List.nil_append]
    cases found : destination? (first ++ ['\n']) with
    | none => exact .inl ⟨rfl, rfl⟩
    | some read =>
      obtain ⟨written, rest⟩ := read
      refine .inr ⟨written, ?_⟩
      rcases List.eq_nil_or_concat rest with rfl | ⟨back, c, rfl⟩
      · exact .inr ⟨rfl, rfl⟩
      · obtain ⟨front, split⟩ := destination?_suffix found
        rw [List.concat_eq_append, ← List.append_assoc] at split
        obtain ⟨rfl, same⟩ := List.append_inj' split rfl
        cases same
        exact .inl ⟨back, List.suffix_append _ _, by simp, by simp⟩
  · rcases destination?_finds escape with none | ⟨written, back, part, found⟩
    · exact .inl ⟨none [] spaces_nil, none pad spaces⟩
    · exact .inr ⟨written, .inl ⟨back, part, found [] spaces_nil, found pad spaces⟩⟩

section Target

variable {line following written : Text} (split : splitLine text = (line, following))

include split

/-- Without a destination there is no definition. -/
theorem definitionTarget?_of_none (absent : destination? line = none) :
    definitionTarget? text = none := by
  rw [definitionTarget?, split]
  dsimp only
  rw [absent]
  rfl

/-- Behind a destination that takes its line no title is looked for, and the line end is left. -/
theorem definitionTarget?_of_end (found : destination? line = some (written, [])) :
    definitionTarget? text = some
      (written, if line.getLast? == some '\n' then '\n' :: following else following, none) := by
  rw [definitionTarget?, split]
  dsimp only
  rw [found]
  rfl

/-- Behind a destination that does not take its line, a title is looked for behind a gap. -/
theorem definitionTarget?_of_rest (found : destination? line = some (written, rest))
    (filled : rest ≠ []) :
    definitionTarget? text =
      some (written, rest ++ following, titleBehind? (rest ++ following)) := by
  rw [definitionTarget?, split]
  dsimp only
  rw [found]
  cases rest with
  | nil => exact absurd rfl filled
  | cons c rest => rfl

end Target

/-- What two texts give as the destination of a definition: nothing, or the same destination and
titles behind it that are both there or both missing. -/
inductive TargetsAgree (text other : Text) :
    Option (Text × Text × Option (Text × Text)) → Option (Text × Text × Option (Text × Text)) → Prop
  | absent : TargetsAgree text other none none
  | found {written rest otherRest : Text} {titled otherTitled : Option (Text × Text)}
      (beside : Beside text other rest otherRest)
      (titles : Together BothOrNeither text other titled otherTitled) :
      TargetsAgree text other (some (written, rest, titled))
        (some (written, otherRest, otherTitled))

/-- Titles that are both missing agree. -/
theorem noTitle_together : Together BothOrNeither text other none none := .inl ⟨rfl, rfl⟩

/-- Behind the last line there is no title. -/
theorem definitionTarget?_oneLine (oneLine : '\n' ∉ text) :
    TargetsAgree text text (definitionTarget? text) (definitionTarget? text) := by
  have split := splitLine_of_not_mem oneLine
  cases read : destination? text with
  | none =>
    rw [definitionTarget?_of_none split read]
    exact .absent
  | some found =>
    obtain ⟨written, rest⟩ := found
    obtain ⟨front, rfl⟩ := destination?_suffix read
    have beside : Beside (front ++ rest) (front ++ rest) rest rest :=
      ⟨trailing_refl false rest, front, front, rfl, rfl, rfl⟩
    by_cases ends : rest = []
    · subst ends
      rw [definitionTarget?_of_end split read,
        if_neg (by simpa using fun ends => oneLine (List.mem_of_getLast? ends))]
      exact .found beside noTitle_together
    · rw [definitionTarget?_of_rest split read ends, List.append_nil]
      exact .found beside (titleBehind?_together beside)

/-- Spaces at the end of the first line are behind the destination that is read there. -/
theorem definitionTarget?_firstLine {first pad : Text} (oneLine : '\n' ∉ first)
    (spaces : Spaces pad) (last : first.getLast? = some '\\' → pad = [])
    (more : Trailing false rest otherRest) :
    TargetsAgree (first ++ '\n' :: rest) (first ++ (pad ++ '\n' :: otherRest))
      (definitionTarget? (first ++ '\n' :: rest))
      (definitionTarget? (first ++ (pad ++ '\n' :: otherRest))) := by
  have split := splitLine_append oneLine rest
  have otherSplit : splitLine (first ++ (pad ++ '\n' :: otherRest)) =
      (first ++ (pad ++ ['\n']), otherRest) := by
    have padded : '\n' ∉ first ++ pad := by simp [oneLine, spaces.newline_not_mem]
    simpa using splitLine_append padded otherRest
  rcases destination?_line spaces last with ⟨none, otherNone⟩ | ⟨written, ⟨back, part, read,
    otherRead⟩ | ⟨rfl, read⟩⟩
  · rw [definitionTarget?_of_none split none, definitionTarget?_of_none otherSplit otherNone]
    exact .absent
  · rw [definitionTarget?_of_rest split read (by simp),
      definitionTarget?_of_rest otherSplit otherRead (by simp)]
    obtain ⟨front, rfl⟩ := part
    -- The rest of the line may end in a backslash; then no spaces stand behind it.
    have here : Trailing false (back ++ '\n' :: rest) (back ++ (pad ++ '\n' :: otherRest)) := by
      by_cases none : back = []
      · subst none
        exact .spaces spaces more
      · refine trailing_append none ?_
        cases escape : (back.getLast? == some '\\') with
        | false => exact .spaces spaces more
        | true =>
          rw [last (getLast?_of_suffix (List.suffix_append front back) (beq_iff_eq.mp escape))]
          exact .char _ more
    have beside : Beside (front ++ back ++ '\n' :: rest)
        (front ++ back ++ (pad ++ '\n' :: otherRest)) (back ++ '\n' :: rest)
        (back ++ (pad ++ '\n' :: otherRest)) :=
      ⟨here, front, front, List.append_assoc _ _ _, List.append_assoc _ _ _, rfl⟩
    simp only [List.append_assoc, List.singleton_append] at beside ⊢
    exact .found beside (titleBehind?_together beside)
  · rw [definitionTarget?_of_end split read, definitionTarget?_of_end otherSplit read,
      if_pos (by simp), if_pos (by simp)]
    exact .found ⟨.char _ more, first, first, rfl, rfl, rfl⟩ noTitle_together

/-- The destinations of both texts agree. -/
theorem definitionTarget?_agree (trailing : Trailing false text other) :
    TargetsAgree text other (definitionTarget? text) (definitionTarget? other) := by
  rcases trailing.firstLine with ⟨oneLine, rfl⟩ | ⟨first, pad, rest, otherRest, oneLine, spaces,
    rfl, rfl, more, last, -⟩
  · exact definitionTarget?_oneLine oneLine
  · exact definitionTarget?_firstLine oneLine spaces last more

/-- The title of a definition and what follows the definition, given what follows its destination
and the title that was read there. -/
def definitionEnd? (rest : Text) : Option (Text × Text) → Option (Text × Text)
  | none => (lineEnd? rest).map fun rest => ([], rest)
  | some (title, after) =>
    match lineEnd? after with
    | some after => some (title, after)
    | none => if title.isEmpty then none else (lineEnd? rest).map fun rest => ([], rest)

/-- A definition is a label, a colon, a destination, and what may follow it. -/
theorem definitionOf?_eq {label : Text}
    (opened : definitionLabel? text = some (label, ':' :: rest)) :
    definitionOf? ('[' :: text) = (definitionTarget? (skipGap rest)).bind fun read =>
      if !isAllowedAddress (normalAddress read.1) then none
      else (definitionEnd? read.2.1 read.2.2).bind fun closing =>
        if (labelKey label).isEmpty then none
        else some (labelKey label, ⟨normalAddress read.1, closing.1⟩, closing.2) := by
  simp only [definitionOf?, opened]
  cases definitionTarget? (skipGap rest) with
  | none => simp only [Option.bind_eq_bind, Option.bind_none]
  | some read =>
    obtain ⟨written, rest, titled⟩ := read
    simp only [Option.bind_eq_bind, Option.bind_some]
    generalize normalAddress written = address
    generalize labelKey label = key
    cases isAllowedAddress address with
    | false => rfl
    | true =>
      rw [if_neg (by decide), if_neg (by decide)]
      cases titled with
      | none => rfl
      | some read =>
        obtain ⟨title, after⟩ := read
        dsimp only
        rw [definitionEnd?]
        cases lineEnd? after with
        | some ends => rfl
        | none =>
          dsimp only
          split <;> rfl

/-- Definitions end at the same place of both texts. -/
theorem definitionEnd?_together {titled otherTitled : Option (Text × Text)}
    (beside : Beside text other rest otherRest)
    (titles : Together BothOrNeither text other titled otherTitled) :
    Together (fun _ _ => True) text other (definitionEnd? rest titled)
      (definitionEnd? otherRest otherTitled) := by
  have bare : Together (fun _ _ => True) text other ((lineEnd? rest).map fun rest => ([], rest))
      ((lineEnd? otherRest).map fun rest => (([] : Text), rest)) := by
    rcases lineEnd?_together beside.trailing with ⟨none, otherNone⟩ | ⟨after, otherAfter, found,
      otherFound, there⟩
    · exact .inl ⟨by rw [none]; rfl, by rw [otherNone]; rfl⟩
    · exact .inr ⟨[], [], after, otherAfter, by rw [found]; rfl, by rw [otherFound]; rfl, trivial,
        beside.trans there⟩
  rcases titles with ⟨rfl, rfl⟩ | ⟨title, otherTitle, after, otherAfter, rfl, rfl, isEmpty, there⟩
  · exact bare
  · rcases lineEnd?_together there.trailing with ⟨none, otherNone⟩ | ⟨ends, otherEnds, found,
      otherFound, behind⟩
    · rw [definitionEnd?, definitionEnd?, none, otherNone]
      by_cases empty : title = []
      · rw [empty, isEmpty.mp empty]
        exact .inl ⟨rfl, rfl⟩
      · simpa [empty, isEmpty.not.mp empty] using bare
    · rw [definitionEnd?, definitionEnd?, found, otherFound]
      exact .inr ⟨title, otherTitle, ends, otherEnds, rfl, rfl, trivial, there.trans behind⟩

/-- A definition begins with a bracket. -/
theorem definitionOf?_none {text : Text} (absent : text.head? ≠ some '[') :
    definitionOf? text = none := by
  cases text with
  | nil => rfl
  | cons c text =>
    rw [definitionOf?]
    intro rest same
    rw [same] at absent
    exact absurd rfl absent

/-- A bracket begins a definition only with a label and a colon. -/
theorem definitionOf?_of_label
    (absent : ∀ label rest, definitionLabel? text ≠ some (label, ':' :: rest)) :
    definitionOf? ('[' :: text) = none := by
  rw [definitionOf?]
  split
  · exact absurd ‹_› (absent _ _)
  · rfl

/-- A label without a colon behind it begins no definition. -/
theorem definitionOf?_of_colon {label : Text} (found : definitionLabel? text = some (label, rest))
    (absent : rest.head? ≠ some ':') : definitionOf? ('[' :: text) = none := by
  refine definitionOf?_of_label fun others behind same => ?_
  rw [found] at same
  cases same
  exact absent rfl

/-- Behind the same label and a colon. -/
theorem definitionOf?_behind {label otherLabel : Text}
    (found : definitionLabel? text = some (label, ':' :: rest))
    (otherFound : definitionLabel? other = some (otherLabel, ':' :: otherRest))
    (key : labelKey label = labelKey otherLabel)
    (beside : Beside text other (':' :: rest) (':' :: otherRest)) :
    (definitionOf? ('[' :: text) = none ∧ definitionOf? ('[' :: other) = none) ∨
      ∃ key target otherTarget after otherAfter,
        definitionOf? ('[' :: text) = some (key, target, after) ∧
        definitionOf? ('[' :: other) = some (key, otherTarget, otherAfter) ∧
        Beside ('[' :: text) ('[' :: other) after otherAfter := by
  have more : Trailing false rest otherRest := by
    cases beside.trailing with
    | char _ behind => exact behind.relax
  have gap := skipGap_beside more
  have next := (beside.cons '[').trans (((Beside.refl more).cons ':').trans gap)
  rw [definitionOf?_eq found, definitionOf?_eq otherFound, ← key]
  have targets := definitionTarget?_agree gap.trailing
  -- How the destinations were read does not matter from here on, only that they agree.
  generalize definitionTarget? (skipGap rest) = read at targets ⊢
  generalize definitionTarget? (skipGap otherRest) = otherRead at targets ⊢
  cases targets with
  | absent => exact .inl ⟨rfl, rfl⟩
  | found behindTarget titles =>
    rename_i written afterTarget otherAfterTarget titled otherTitled
    rw [Option.bind_some, Option.bind_some]
    by_cases refused : (!isAllowedAddress (normalAddress written)) = true
    · rw [if_pos refused, if_pos refused]
      exact .inl ⟨rfl, rfl⟩
    · rw [if_neg refused, if_neg refused]
      rcases definitionEnd?_together behindTarget titles with ⟨none, otherNone⟩ | ⟨title,
        otherTitle, ends, otherEnds, closing, otherClosing, -, atEnd⟩
      · rw [none, otherNone]
        exact .inl ⟨rfl, rfl⟩
      · rw [closing, otherClosing, Option.bind_some, Option.bind_some]
        by_cases empty : (labelKey label).isEmpty = true
        · rw [if_pos empty, if_pos empty]
          exact .inl ⟨rfl, rfl⟩
        · rw [if_neg empty, if_neg empty]
          exact .inr ⟨_, _, _, ends, otherEnds, rfl, rfl, next.trans atEnd⟩

/-- Both texts begin with the definition of a label, or neither of them does. -/
theorem definitionOf?_together (trailing : Trailing false text other) :
    (definitionOf? text = none ∧ definitionOf? other = none) ∨
      ∃ key target otherTarget rest otherRest, definitionOf? text = some (key, target, rest) ∧
        definitionOf? other = some (key, otherTarget, otherRest) ∧
        Beside text other rest otherRest := by
  cases trailing with
  | nil => exact .inl ⟨rfl, rfl⟩
  | spaces spaces behind =>
    exact .inl ⟨definitionOf?_none (by simp),
      definitionOf?_none (spaces.head?_line (by decide) _)⟩
  | char c behind =>
    by_cases bracket : c = '['
    · subst bracket
      rcases definitionLabel?_together behind with ⟨none, otherNone⟩ | ⟨label, otherLabel, rest,
        otherRest, found, otherFound, same, beside⟩
      · exact .inl ⟨definitionOf?_of_label (by simp [none]),
          definitionOf?_of_label (by simp [otherNone])⟩
      · have noColon (first : rest.head? ≠ some ':') (otherFirst : otherRest.head? ≠ some ':') :=
          And.intro (definitionOf?_of_colon found first)
            (definitionOf?_of_colon otherFound otherFirst)
        have there := beside.trailing
        cases there with
        | nil => exact .inl (noColon (by simp) (by simp))
        | spaces spaces more => exact .inl (noColon (by simp) (spaces.head?_line (by decide) _))
        | char c more =>
          by_cases colon : c = ':'
          · subst colon
            exact definitionOf?_behind found otherFound (labelKey_trailing same) beside
          · exact .inl (noColon (by simpa using colon) (by simpa using colon))
    · exact .inl ⟨definitionOf?_none (by simpa using bracket),
        definitionOf?_none (by simpa using bracket)⟩

end Loremark.Markdown
