import Loremark.Proofs.Markdown.CodeContents

/-!
# Which lines get a break

What becomes of a line is told by the number of fences in front of it and by the line behind it
(`getElem?_breakLines`). A break is no part of what is looked at: it neither makes a fence nor a
blank line, and a line that has one ends in two blanks, although spaces behind a lone marker make
a list item of it. So breaks that are added a second time find every line that needs one already
broken (`breakLines_breakLines`).
-/

set_option autoImplicit false

namespace Loremark.Markdown

/-- The lines of a text. -/
def linesIn (text : Text) : List Text := Text.splitOn '\n' text

/-- Whether a line stands behind an odd number of fences, hence in fenced code or at its end. -/
def Fenced (lines : List Text) (number : Nat) : Prop :=
  (lines.take number).countP isFenceLine % 2 = 1

/-- A line with some fences in front of it and another line behind it, with a break if it needs
one. -/
def shownLine (fences : Nat) (line : Text) (next : Option Text) : Text :=
  match next with
  | none => line
  | some next => if isFenceLine line ∨ fences % 2 = 1 then line else breakLine line next

/-! ## Line by line -/

section Lines

variable {lines : List Text} {line next : Text}

/-- Only whether the number of fences is odd has a bearing on a line. -/
theorem shownLine_congr {fences others : Nat} (same : fences % 2 = others % 2) (line : Text)
    (next : Option Text) : shownLine fences line next = shownLine others line next := by
  unfold shownLine
  rw [same]

/-- Fences and lines in fenced code are shown as they are. -/
theorem shownLine_of_kept {fences : Nat} (kept : isFenceLine line = true ∨ fences % 2 = 1)
    (next : Option Text) : shownLine fences line next = line := by
  cases next with
  | none => rfl
  | some next => exact if_pos kept

/-- A line outside of fences is given a break if it needs one. -/
theorem shownLine_of_free {fences : Nat} (free : ¬ (isFenceLine line = true ∨ fences % 2 = 1))
    (next : Text) : shownLine fences line (some next) = breakLine line next := if_neg free

/-- A blank line is given no break. -/
theorem shownLine_of_allBlank (blank : Text.allBlank line = true) (fences : Nat)
    (next : Option Text) : shownLine fences line next = line := by
  cases next with
  | none => rfl
  | some next => simp [shownLine, breakLine, blank]

/-- Every line is shown with its break. The fences in front of the first line are told by whether
it stands in fenced code. -/
theorem getElem?_breakLines (fenced : Bool) (lines : List Text) (number : Nat) :
    (breakLines fenced lines)[number]? = lines[number]?.map fun line =>
      shownLine (fenced.toNat + (lines.take number).countP isFenceLine) line
        lines[number + 1]? := by
  fun_induction breakLines fenced lines generalizing number with
  | case1 => simp
  | case2 fenced line =>
    cases number with
    | zero => simp [shownLine]
    | succ number => simp
  | case3 fenced line next lines fence ih =>
    cases number with
    | zero => simp [shownLine, fence]
    | succ number =>
      simp only [List.getElem?_cons_succ, ih, List.take_succ_cons, List.countP_cons, fence]
      congr 1
      funext other
      -- Only whether the number of fences is odd matters, and a fence changes that.
      apply shownLine_congr
      cases fenced <;> simp <;> omega
  | case4 line next lines fence ih =>
    rw [Bool.not_eq_true] at fence
    cases number with
    | zero => simp [shownLine]
    | succ number =>
      simp only [List.getElem?_cons_succ, ih, List.take_succ_cons, List.countP_cons, fence]
      simp
  | case5 fenced line next lines fence outside ih =>
    rw [Bool.not_eq_true] at fence outside
    subst outside
    cases number with
    | zero => simp [shownLine, fence]
    | succ number =>
      simp only [List.getElem?_cons_succ, ih, List.take_succ_cons, List.countP_cons, fence]
      simp

end Lines

/-! ## Breaks are not looked at -/

section Breaks

variable (line : Text)

/-- A break consists of spaces. -/
theorem spaces_break : Spaces [' ', ' '] := spaces_replicate 2

/-- A break makes no fence and no line that is none. -/
theorem isFenceLine_break : isFenceLine (line ++ [' ', ' ']) = isFenceLine line := by
  unfold isFenceLine
  by_cases blank : Text.trimStart line = []
  · rw [blank, trimStart_spaces_nil spaces_break blank]
  · rw [trimStart_spaces _ blank, after?_spaces spaces_break (by decide), Option.isSome_map]

/-- A break makes no line blank and no blank line filled. -/
theorem allBlank_break : Text.allBlank (line ++ [' ', ' ']) = Text.allBlank line :=
  all_spaces spaces_break rfl line

/-- A line with a break ends in two blanks. -/
theorem endsInTwoBlanks_break : endsInTwoBlanks (line ++ [' ', ' ']) = true := by
  simp [endsInTwoBlanks]
  decide

variable {line}

/-- A line is shown as it is or with a break. -/
theorem shownLine_cases (fences : Nat) (line : Text) (next : Option Text) :
    shownLine fences line next = line ∨ shownLine fences line next = line ++ [' ', ' '] := by
  cases next with
  | none => exact .inl rfl
  | some next =>
    simp only [shownLine]
    split
    · exact .inl rfl
    · exact (breakLine_eq line next).imp_right And.right

/-- A line is a fence with or without its break. -/
theorem isFenceLine_shownLine (fences : Nat) (line : Text) (next : Option Text) :
    isFenceLine (shownLine fences line next) = isFenceLine line := by
  rcases shownLine_cases fences line next with same | broken
  · rw [same]
  · rw [broken, isFenceLine_break]

/-- A line is blank with or without its break. -/
theorem allBlank_shownLine (fences : Nat) (line : Text) (next : Option Text) :
    Text.allBlank (shownLine fences line next) = Text.allBlank line := by
  rcases shownLine_cases fences line next with same | broken
  · rw [same]
  · rw [broken, allBlank_break]

end Breaks

/-! ## Adding breaks twice -/

/-- A line with its break needs no other one, whatever is behind it is as blank as before. -/
theorem breakLine_breakLine {line next other : Text}
    (same : Text.allBlank other = Text.allBlank next) :
    breakLine (breakLine line next) other = breakLine line next := by
  by_cases broken : (!Text.allBlank line && !Text.allBlank next && !isStructural line &&
      !endsInTwoBlanks line) = true
  · have wide : breakLine line next = line ++ [' ', ' '] := by
      rw [breakLine, if_pos broken]
    rw [wide, breakLine, endsInTwoBlanks_break]
    simp
  · have plain : breakLine line next = line := by
      rw [breakLine, if_neg broken]
    rw [plain, breakLine, same, if_neg broken]

/-- A line that has its break is given no other. -/
theorem shownLine_shownLine (fences : Nat) (line : Text) {next other : Option Text}
    (same : other.map Text.allBlank = next.map Text.allBlank) :
    shownLine fences (shownLine fences line next) other = shownLine fences line next := by
  cases next with
  | none =>
    obtain rfl : other = none := by simpa using same
    rfl
  | some next =>
    obtain ⟨other, rfl, blank⟩ := Option.map_eq_some_iff.mp (same.trans (Option.map_some _ _))
    by_cases kept : isFenceLine line = true ∨ fences % 2 = 1
    · rw [shownLine_of_kept kept, shownLine_of_kept kept]
    · have fence := isFenceLine_shownLine fences line (some next)
      rw [shownLine_of_free kept] at fence ⊢
      rw [← fence] at kept
      rw [shownLine_of_free kept, breakLine_breakLine blank]

section Twice

variable (fenced : Bool) (lines : List Text)

/-- Breaks make no fences and take none away. -/
theorem map_isFenceLine_breakLines :
    (breakLines fenced lines).map isFenceLine = lines.map isFenceLine := by
  apply List.ext_getElem?
  intro number
  rw [List.getElem?_map, List.getElem?_map, getElem?_breakLines, Option.map_map]
  congr 1
  funext line
  exact isFenceLine_shownLine _ line _

/-- Breaks leave as many fences in front of each line. -/
theorem countP_take_breakLines (number : Nat) :
    ((breakLines fenced lines).take number).countP isFenceLine =
      (lines.take number).countP isFenceLine := by
  have fences (others : List Text) : (others.take number).countP isFenceLine =
      ((others.map isFenceLine).take number).countP id := by
    rw [← List.map_take, List.countP_map]
    rfl
  rw [fences, fences, map_isFenceLine_breakLines]

/-- Breaks leave each line as blank as it was. -/
theorem map_allBlank_getElem?_breakLines (number : Nat) :
    (breakLines fenced lines)[number]?.map Text.allBlank = lines[number]?.map Text.allBlank := by
  rw [getElem?_breakLines, Option.map_map]
  congr 1
  funext line
  exact allBlank_shownLine _ line _

/-- Lines with breaks need no other ones. -/
theorem breakLines_breakLines :
    breakLines fenced (breakLines fenced lines) = breakLines fenced lines := by
  apply List.ext_getElem?
  intro number
  have blank := map_allBlank_getElem?_breakLines fenced lines (number + 1)
  rw [getElem?_breakLines, countP_take_breakLines]
  cases here : lines[number]? with
  | none => simp [getElem?_breakLines, here]
  | some line =>
    have shown := getElem?_breakLines fenced lines number
    rw [here, Option.map_some] at shown
    rw [shown, Option.map_some, shownLine_shownLine _ line blank]

end Twice

/-! ## Texts -/

/-- The lines of a text with breaks. -/
theorem linesIn_withLineBreaks (text : Text) :
    linesIn (withLineBreaks text) = breakLines false (linesIn text) := by
  have some : breakLines false (linesIn text) ≠ [] := by
    intro none
    have same := length_breakLines false (linesIn text)
    rw [none, List.length_nil, eq_comm, List.length_eq_zero_iff] at same
    exact Text.splitOn_ne_nil _ _ same
  have free : ∀ line ∈ breakLines false (linesIn text), '\n' ∉ line := by
    intro shown mem inside
    obtain ⟨number, found⟩ := List.mem_iff_getElem?.mp mem
    rw [getElem?_breakLines] at found
    obtain ⟨line, here, rfl⟩ := Option.map_eq_some_iff.mp found
    have own : '\n' ∈ line := by
      rcases shownLine_cases _ line _ with same | broken
      · rwa [same] at inside
      · rw [broken] at inside
        simpa using inside
    exact (mem_splitOn (List.mem_of_getElem? here) own).2 rfl
  unfold linesIn at some free ⊢
  rw [withLineBreaks, Text.splitOn_joinWith some free]

/-- Adding breaks twice is adding them once. As many lines come out, each as it was or with two
spaces behind it; the last line, blank lines, fences and what stands between a fence and the next
one stay. No other line is left without two blanks at its end if it is followed by a line that is
not blank, is not blank itself, and has no meaning that a break would disturb. -/
theorem withLineBreaks_lines (text : Text) :
    withLineBreaks (withLineBreaks text) = withLineBreaks text ∧
    (linesIn (withLineBreaks text)).length = (linesIn text).length ∧
    (∀ number line, (linesIn text)[number]? = some line →
      ∃ shown, (linesIn (withLineBreaks text))[number]? = some shown ∧
        (shown = line ∨ shown = line ++ [' ', ' ']) ∧
        (number + 1 = (linesIn text).length ∨ Text.allBlank line = true ∨
          isFenceLine line = true ∨ Fenced (linesIn text) number → shown = line)) ∧
    ∀ number shown next, (linesIn (withLineBreaks text))[number]? = some shown →
      (linesIn (withLineBreaks text))[number + 1]? = some next →
      isFenceLine shown = false → ¬ Fenced (linesIn (withLineBreaks text)) number →
      Text.allBlank next = false → Text.allBlank shown = false → isStructural shown = false →
      endsInTwoBlanks shown = true := by
  rw [linesIn_withLineBreaks]
  refine ⟨?_, length_breakLines _ _, ?_, ?_⟩
  · calc withLineBreaks (withLineBreaks text)
      _ = Text.joinWith ['\n'] (breakLines false (linesIn (withLineBreaks text))) := rfl
      _ = Text.joinWith ['\n'] (breakLines false (linesIn text)) := by
        rw [linesIn_withLineBreaks, breakLines_breakLines]
      _ = withLineBreaks text := rfl
  · intro number line here
    have shown := getElem?_breakLines false (linesIn text) number
    rw [here, Option.map_some] at shown
    refine ⟨_, shown, shownLine_cases _ _ _, ?_⟩
    rintro (last | blank | fence | fenced)
    · have none : (linesIn text)[number + 1]? = none := List.getElem?_eq_none last.ge
      rw [none]
      rfl
    · exact shownLine_of_allBlank blank _ _
    · exact shownLine_of_kept (.inl fence) _
    · rw [Fenced] at fenced
      exact shownLine_of_kept (.inr (by simpa using fenced)) _
  · intro number shown next here behind fence outside nextFilled filled unstructured
    -- The line has its break already, so that another one changes nothing.
    have again := getElem?_breakLines false (breakLines false (linesIn text)) number
    rw [breakLines_breakLines, here, behind, Option.map_some, Option.some.injEq] at again
    have free : ¬ (isFenceLine shown = true ∨ (Bool.toNat false +
        ((breakLines false (linesIn text)).take number).countP isFenceLine) % 2 = 1) := by
      rintro (isFence | inside)
      · rw [fence] at isFence
        cases isFence
      · exact outside (by simpa [Fenced] using inside)
    rw [shownLine_of_free free, breakLine] at again
    by_contra loose
    rw [Bool.not_eq_true] at loose
    simp [filled, nextFilled, unstructured, loose] at again

end Loremark.Markdown
