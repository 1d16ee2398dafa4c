import Loremark.Proofs.Text.Occurrence

/-!
# Patterns

A pattern is read from the beginning of a text, part by part. Where a part may take more or less, the
most is tried first, and less only if what follows cannot go on from there. `Pattern.attempt` says so
with what follows as a function of what has been kept and of the rest. Going back is never needed for
a run of characters in front of something that cannot begin with one of them (`tryRun_of_stops`), nor
where what follows succeeds at once (`tryRun_of_isSome`).
-/

set_option autoImplicit false

namespace Loremark.Text

/-- The texts that a pattern keeps while it is read, each under a number. -/
abbrev Groups := List (Nat × Text)

/-- What follows a pattern, given what has been kept and the rest of the text. -/
abbrev Next := Groups → Text → Option (Groups × Text)

/-- Patterns of texts. -/
inductive Pattern where
  /-- A word, its letters compared by `same`. -/
  | word (same : Char → Char → Bool) (letters : Text)
  /-- At least `least` characters of a class. -/
  | run (least : Nat) (accepts : Char → Bool)
  /-- A pattern or nothing. -/
  | optional (part : Pattern)
  /-- A pattern whose text is kept. -/
  | group (number : Nat) (part : Pattern)
  /-- A pattern with another one behind it. -/
  | andThen (first second : Pattern)

/-- Takes at least `least` characters of a class and goes on with `next`, from the longest run of them
to the shortest one. -/
def tryRun (accepts : Char → Bool) (next : Text → Option (Groups × Text)) :
    (least : Nat) → Text → Option (Groups × Text)
  | least, [] => if least = 0 then next [] else none
  | least, c :: text =>
    (if accepts c then tryRun accepts next (least - 1) text else none).or
      (if least = 0 then next (c :: text) else none)

namespace Pattern

/-- Reads a pattern at the beginning of a text and goes on with `next`. -/
def attempt : Pattern → Next → Next
  | word same letters, next, groups, text => (afterWord? same letters text).bind (next groups)
  | run least accepts, next, groups, text => tryRun accepts (next groups) least text
  | optional part, next, groups, text => (part.attempt next groups text).or (next groups text)
  | group number part, next, groups, text =>
    let keep : Next := fun inner rest =>
      next (inner ++ [(number, text.take (text.length - rest.length))]) rest
    part.attempt keep groups text
  | andThen first second, next, groups, text => first.attempt (second.attempt next) groups text

/-- What a pattern keeps at the beginning of a text, and what it leaves. -/
def read? (pattern : Pattern) (text : Text) : Option (Groups × Text) :=
  pattern.attempt (fun groups rest => some (groups, rest)) [] text

/-- Patterns one behind the other. -/
def inOrder : List Pattern → Pattern
  | [] => word (· == ·) []
  | part :: parts => andThen part (inOrder parts)

/-- No patterns at all go on at once. -/
theorem attempt_inOrder_nil (next : Next) : (inOrder []).attempt next = next := rfl

/-- Patterns in order are the first one, followed by the others. -/
theorem attempt_inOrder_cons (part : Pattern) (parts : List Pattern) (next : Next) :
    (inOrder (part :: parts)).attempt next = part.attempt ((inOrder parts).attempt next) := rfl

/-- Two rows of patterns in order follow each other. -/
theorem attempt_inOrder_append (parts more : List Pattern) (next : Next) :
    (inOrder (parts ++ more)).attempt next =
      (inOrder parts).attempt ((inOrder more).attempt next) := by
  induction parts with
  | nil => rfl
  | cons part parts ih => rw [List.cons_append, attempt_inOrder_cons, ih, attempt_inOrder_cons]

end Pattern

/-! ## Runs of characters -/

section Runs

variable {accepts : Char → Bool} {next : Text → Option (Groups × Text)}

/-- A run in front of something that cannot begin with a character of its class takes all of
them. -/
theorem tryRun_of_stops (stops : ∀ c text, accepts c = true → next (c :: text) = none)
    (least : Nat) (text : Text) :
    tryRun accepts next least text =
      if least ≤ (text.takeWhile accepts).length then next (text.dropWhile accepts) else none := by
  induction text generalizing least with
  | nil =>
    unfold tryRun
    simp only [List.takeWhile_nil, List.length_nil, Nat.le_zero, List.dropWhile_nil]
  | cons c text ih =>
    unfold tryRun
    by_cases here : accepts c = true
    · have further : least - 1 ≤ (text.takeWhile accepts).length ↔
          least ≤ (text.takeWhile accepts).length + 1 := by omega
      rw [if_pos here, stops c text here, ite_self, Option.or_none, ih, List.takeWhile_cons_of_pos here,
        List.dropWhile_cons_of_pos here, List.length_cons]
      simp only [further]
    · rw [if_neg here, Option.none_or, List.takeWhile_cons_of_neg here,
        List.dropWhile_cons_of_neg here]
      simp only [List.length_nil, Nat.le_zero]

/-- A run whose longest form can be followed takes all characters of its class. -/
theorem tryRun_of_isSome {least : Nat} {text : Text}
    (enough : least ≤ (text.takeWhile accepts).length)
    (goes : (next (text.dropWhile accepts)).isSome) :
    tryRun accepts next least text = next (text.dropWhile accepts) := by
  induction text generalizing least with
  | nil =>
    unfold tryRun
    rw [if_pos (Nat.le_zero.mp enough)]
    rfl
  | cons c text ih =>
    unfold tryRun
    by_cases here : accepts c = true
    · rw [List.takeWhile_cons_of_pos here, List.length_cons] at enough
      rw [List.dropWhile_cons_of_pos here] at goes ⊢
      rw [if_pos here, ih (by omega) goes]
      exact Option.or_of_isSome goes
    · rw [List.takeWhile_cons_of_neg here] at enough
      rw [if_neg here, Option.none_or, if_pos (Nat.le_zero.mp enough),
        List.dropWhile_cons_of_neg here]

/-- What a run has taken. -/
theorem take_length_sub_dropWhile (accepts : Char → Bool) (text : Text) :
    text.take (text.length - (text.dropWhile accepts).length) = text.takeWhile accepts := by
  have lengths :=
    congrArg List.length (List.takeWhile_append_dropWhile (p := accepts) (l := text))
  rw [List.length_append] at lengths
  have count : text.length - (text.dropWhile accepts).length =
      (text.takeWhile accepts).length := by omega
  rw [count]
  exact (List.prefix_iff_eq_take.mp (List.takeWhile_prefix accepts)).symm

end Runs

end Loremark.Text
