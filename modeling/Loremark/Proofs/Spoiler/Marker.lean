import Loremark.Proofs.Text.Occurrence
import Loremark.Spoiler.Marker
import Mathlib.Data.List.TakeWhile

/-!
# What a marker looks like

`Marked` lists the texts that may stand between the exclamation mark and the closing bracket of a
marker. Reading a marker cuts such a text off, together with the brackets (`marker?_eq_some`).
-/

set_option autoImplicit false

namespace Loremark.Spoiler

/-- A word up to case. -/
def Spelled (word spelled : Text) : Prop :=
  List.Forall₂ (fun a c => Text.sameLetter a c = true) word spelled

/-- At least one blank. -/
structure Blanks (blanks : Text) : Prop where
  nonempty : blanks ≠ []
  all : ∀ c ∈ blanks, Text.isBlank c = true

/-- At least one decimal digit. -/
structure Numeral (digits : Text) : Prop where
  nonempty : digits ≠ []
  all : ∀ c ∈ digits, Text.isDecimal c = true

/-- What a marker with or without digits holds between its brackets. -/
inductive Marked : Option Text → Text → Prop
  | bare {word : Text} (spelled : Spelled spoilerWord word) : Marked none word
  | chapter {word gap chapter space digits : Text} (spelled : Spelled spoilerWord word)
      (apart : Blanks gap) (named : Spelled chapterWord chapter) (spaced : Blanks space)
      (numeral : Numeral digits) :
      Marked (some digits) (word ++ (gap ++ (chapter ++ (space ++ digits))))

/-- Blanks that can be cut off stand in front of what is left. -/
theorem afterBlanks?_eq_some {text rest : Text} (found : afterBlanks? text = some rest) :
    ∃ blanks, Blanks blanks ∧ text = blanks ++ rest := by
  cases text with
  | nil => cases found
  | cons c text =>
    rw [afterBlanks?] at found
    split at found
    · rename_i blank
      refine ⟨c :: text.takeWhile Text.isBlank, ⟨List.cons_ne_nil _ _, ?_⟩, ?_⟩
      · intro d mem
        rcases List.mem_cons.mp mem with rfl | behind
        · exact blank
        · exact List.mem_takeWhile_imp behind
      · rw [← Option.some.inj found, Text.trimStart, List.cons_append,
          List.takeWhile_append_dropWhile]
    · cases found

/-- Blanks are cut off up to the first character that is none. -/
theorem afterBlanks?_append {blanks rest : Text} (isBlanks : Blanks blanks)
    (ends : ∀ c ∈ rest.head?, Text.isBlank c = false) : afterBlanks? (blanks ++ rest) = some rest := by
  have left : rest.dropWhile Text.isBlank = rest := by
    cases rest with
    | nil => rfl
    | cons c rest =>
      have solid : ¬ Text.isBlank c = true := by simp [ends c rfl]
      exact List.dropWhile_cons_of_neg solid
  cases blanks with
  | nil => exact absurd rfl isBlanks.nonempty
  | cons blank blanks =>
    obtain ⟨here, behind⟩ := List.forall_mem_cons.mp isBlanks.all
    rw [List.cons_append, afterBlanks?, if_pos here, Text.trimStart,
      List.dropWhile_append_of_pos behind, left]

/-- A mention that is read is the word, blanks and digits. -/
theorem mention?_eq_some {text digits rest : Text} (found : mention? text = some (digits, rest)) :
    ∃ word space, Spelled chapterWord word ∧ Blanks space ∧ Numeral digits ∧
      text = word ++ (space ++ (digits ++ rest)) := by
  rw [mention?] at found
  obtain ⟨behind, named, read⟩ := Option.bind_eq_some_iff.mp found
  obtain ⟨number, spaced, taken⟩ := Option.bind_eq_some_iff.mp read
  obtain ⟨word, spelled, split⟩ := Text.afterWord?_eq_some_iff.mp named
  obtain ⟨space, blanks, spacedSplit⟩ := afterBlanks?_eq_some spaced
  rw [split, spacedSplit]
  split at taken
  · cases taken
  · rename_i first nonempty
    obtain ⟨rfl, rfl⟩ := Prod.mk.inj (Option.some.inj taken)
    refine ⟨word, space, spelled, blanks, ⟨fun empty => nonempty empty, ?_⟩, ?_⟩
    · exact fun c digit => List.mem_takeWhile_imp digit
    · rw [List.takeWhile_append_dropWhile]

/-- A marker that is read at the beginning of a text stands there. -/
theorem marker?_eq_some {text rest : Text} {digits : Option Text}
    (found : marker? text = some (digits, rest)) :
    ∃ inner, Marked digits inner ∧ text = '[' :: '!' :: (inner ++ ']' :: rest) := by
  rw [marker?] at found
  obtain ⟨opened, opens, read⟩ := Option.bind_eq_some_iff.mp found
  obtain ⟨behind, named, more⟩ := Option.bind_eq_some_iff.mp read
  obtain ⟨word, spelled, split⟩ := Text.afterWord?_eq_some_iff.mp named
  rw [Text.after?_eq_some_iff.mp opens, split]
  split at more
  · obtain ⟨rfl, rfl⟩ := Prod.mk.inj (Option.some.inj more)
    exact ⟨word, .bare spelled, rfl⟩
  · obtain ⟨mention, apart, closed⟩ := Option.bind_eq_some_iff.mp more
    obtain ⟨⟨number, after⟩, mentioned, last⟩ := Option.bind_eq_some_iff.mp closed
    obtain ⟨gap, blanks, gapSplit⟩ := afterBlanks?_eq_some apart
    obtain ⟨chapter, space, chapterSpelled, spaced, numeral, mentionSplit⟩ :=
      mention?_eq_some mentioned
    rw [gapSplit, mentionSplit]
    dsimp only at last
    split at last
    · obtain ⟨rfl, rfl⟩ := Prod.mk.inj (Option.some.inj last)
      refine ⟨_, .chapter spelled blanks chapterSpelled spaced numeral, ?_⟩
      simp only [List.append_assoc, List.cons_append, List.nil_append]
    · cases last

/-- A letter that is in neither word stands in no marker. -/
theorem Marked.not_mem {digits : Option Text} {inner : Text} (marked : Marked digits inner)
    {letter : Char} (noSpoiler : ∀ a ∈ spoilerWord, Text.sameLetter a letter = false)
    (noChapter : ∀ a ∈ chapterWord, Text.sameLetter a letter = false)
    (noBlank : Text.isBlank letter = false) (noDigit : Text.isDecimal letter = false) :
    letter ∉ inner := by
  have notSpelled {word spelled : Text} (same : Spelled word spelled)
      (no : ∀ a ∈ word, Text.sameLetter a letter = false) : letter ∉ spelled := by
    induction same with
    | nil => exact List.not_mem_nil
    | cons here behind ih =>
      rw [List.mem_cons, not_or]
      refine ⟨?_, ih fun a mem => no a (List.mem_cons_of_mem _ mem)⟩
      rintro rfl
      rw [no _ List.mem_cons_self] at here
      cases here
  have notBlank {blanks : Text} (all : Blanks blanks) : letter ∉ blanks := by
    intro mem
    rw [all.all letter mem] at noBlank
    cases noBlank
  cases marked with
  | bare spelled => exact notSpelled spelled noSpoiler
  | chapter spelled apart named spaced numeral =>
    simp only [List.mem_append, not_or]
    refine ⟨notSpelled spelled noSpoiler, notBlank apart, notSpelled named noChapter,
      notBlank spaced, ?_⟩
    intro mem
    rw [numeral.all letter mem] at noDigit
    cases noDigit

end Loremark.Spoiler
