import Loremark.Text.Basic
import Mathlib.Data.List.Basic

/-!
# Lines of a text

Cutting a text at a character and joining its pieces again. A text without the character is one
piece, and what stands in front of its first occurrence is the first piece; so cutting takes back
joining where no piece has the character.
-/

set_option autoImplicit false

namespace Loremark.Text

variable {separator : Char} {front rest text : Text}

/-- Every text has at least one piece. -/
theorem splitOn_ne_nil (separator : Char) (text : Text) : splitOn separator text ≠ [] := by
  cases text with
  | nil => simp [splitOn]
  | cons c text =>
    rw [splitOn]
    split
    · simp
    · split <;> simp

/-- A text without the separator is one piece. -/
theorem splitOn_of_not_mem (free : separator ∉ text) : splitOn separator text = [text] := by
  induction text with
  | nil => rfl
  | cons c text ih =>
    have other := List.ne_of_not_mem_cons free
    have later := List.not_mem_of_not_mem_cons free
    rw [splitOn, if_neg (by simpa using Ne.symm other), ih later]

/-- What stands in front of the first separator is the first piece. -/
theorem splitOn_append_cons (free : separator ∉ front) (rest : Text) :
    splitOn separator (front ++ separator :: rest) = front :: splitOn separator rest := by
  induction front with
  | nil => rw [List.nil_append, splitOn, if_pos (beq_self_eq_true _)]
  | cons c front ih =>
    have other := List.ne_of_not_mem_cons free
    have later := List.not_mem_of_not_mem_cons free
    rw [List.cons_append, splitOn, if_neg (by simpa using Ne.symm other), ih later]

/-- A piece in front of others is joined to them once. -/
theorem joinWith_cons {piece : Text} {pieces : List Text} (more : pieces ≠ []) (joint : Text) :
    joinWith joint (piece :: pieces) = piece ++ joint ++ joinWith joint pieces := by
  cases pieces with
  | nil => exact absurd rfl more
  | cons next pieces => rfl

/-- Cutting takes back joining where no piece has the separator. -/
theorem splitOn_joinWith {pieces : List Text} (some : pieces ≠ [])
    (free : ∀ piece ∈ pieces, separator ∉ piece) :
    splitOn separator (joinWith [separator] pieces) = pieces := by
  induction pieces with
  | nil => exact absurd rfl some
  | cons piece pieces ih =>
    have own := free piece List.mem_cons_self
    have later := fun other mem => free other (List.mem_cons_of_mem _ mem)
    by_cases more : pieces = []
    · subst more
      exact splitOn_of_not_mem own
    · rw [joinWith_cons more, List.append_assoc, List.singleton_append,
        splitOn_append_cons own, ih more later]

/-- Joining takes back cutting. -/
theorem joinWith_splitOn (separator : Char) (text : Text) :
    joinWith [separator] (splitOn separator text) = text := by
  induction text with
  | nil => rfl
  | cons c text ih =>
    have more := splitOn_ne_nil separator text
    by_cases same : c = separator
    · rw [splitOn, if_pos (beq_iff_eq.mpr same), joinWith_cons more, ih, same]
      rfl
    · rw [splitOn, if_neg (by simpa using same)]
      cases cut : splitOn separator text with
      | nil => exact absurd cut more
      | cons piece pieces =>
        rw [cut] at ih
        cases pieces with
        | nil => exact congrArg (c :: ·) ih
        | cons next pieces =>
          rw [joinWith_cons (List.cons_ne_nil _ _)] at ih ⊢
          rw [← ih]
          rfl

/-- The characters of joined pieces are those of a piece or of a joint. -/
theorem mem_joinWith {joint : Text} {pieces : List Text} {c : Char}
    (mem : c ∈ joinWith joint pieces) : c ∈ joint ∨ ∃ piece ∈ pieces, c ∈ piece := by
  induction pieces with
  | nil => cases mem
  | cons piece pieces ih =>
    by_cases more : pieces = []
    · subst more
      exact .inr ⟨piece, List.mem_cons_self, mem⟩
    · rw [joinWith_cons more, List.mem_append, List.mem_append] at mem
      rcases mem with (own | between) | later
      · exact .inr ⟨piece, List.mem_cons_self, own⟩
      · exact .inl between
      · rcases ih later with between | ⟨other, mem, own⟩
        · exact .inl between
        · exact .inr ⟨other, List.mem_cons_of_mem _ mem, own⟩

/-- A text without carriage returns keeps its line ends. -/
theorem unifyNewlines_of_not_mem (free : '\r' ∉ text) : unifyNewlines text = text := by
  fun_induction unifyNewlines text with
  | case1 => rfl
  | case2 text ih => exact absurd List.mem_cons_self free
  | case3 text other ih => exact absurd List.mem_cons_self free
  | case4 c text first second ih =>
    rw [ih (List.not_mem_of_not_mem_cons free)]

/-- Stripping takes what stands behind a text that begins and ends with other characters. -/
theorem strip_append {isOuter : Char → Bool} {c d : Char} {pad : Text}
    (begins : ∃ behind, text = c :: behind) (notFirst : isOuter c = false)
    (ends : ∃ before, text = before ++ [d]) (notLast : isOuter d = false)
    (outer : ∀ e ∈ pad, isOuter e = true) : strip isOuter (text ++ pad) = text := by
  have front : (text ++ pad).dropWhile isOuter = text ++ pad := by
    obtain ⟨behind, rfl⟩ := begins
    exact List.dropWhile_cons_of_neg (by simp [notFirst])
  have back : (text ++ pad).reverse.dropWhile isOuter = text.reverse := by
    obtain ⟨before, rfl⟩ := ends
    rw [List.reverse_append,
      List.dropWhile_append_of_pos fun e mem => outer e (List.mem_reverse.mp mem),
      List.reverse_append, List.reverse_singleton, List.singleton_append]
    exact List.dropWhile_cons_of_neg (by simp [notLast])
  rw [strip, front, back, List.reverse_reverse]

end Loremark.Text
