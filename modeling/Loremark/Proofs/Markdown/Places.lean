import Loremark.Markdown.Inline.Bracket

/-!
# Places that are reached

Readers of running text only go forward: whatever is remembered, the place behind a link or an image
is reached by moves from the place where it was looked for (`link?_ahead`, `image?_ahead`).
-/

set_option autoImplicit false

namespace Loremark.Markdown

/-! ## Steps that remember -/

/-- Whatever is remembered, the value of a step is as said. -/
def Always {α : Type} (step : StateM Memo α) (said : α → Prop) : Prop :=
  ∀ memo, said (step.run memo).1

section Always

variable {α β : Type} {step : StateM Memo α} {said more : α → Prop}

/-- A value that is there already is as said. -/
theorem always_pure {value : α} (here : said value) : Always (pure value) said := fun _ => here

/-- What holds of all values holds of the value of a step. -/
theorem always_of_forall (all : ∀ a, said a) : Always step said := fun _ => all _

/-- The value of two steps is as said if that of the second is, for each value of the first. -/
theorem always_bind {next : α → StateM Memo β} {wanted : β → Prop}
    (always : Always step fun a => Always (next a) wanted) : Always (step >>= next) wanted :=
  fun memo => always memo _

/-- A step that looks at what is remembered may find anything there. -/
theorem always_get {next : Memo → StateM Memo β} {wanted : β → Prop}
    (all : ∀ memo, Always (next memo) wanted) : Always (get >>= next) wanted :=
  fun memo => all memo memo

/-- A function of a value is as said if the value fits. -/
theorem always_map {f : α → β} {wanted : β → Prop} (always : Always step fun a => wanted (f a)) :
    Always (f <$> step) wanted := always

/-- A value that is as said is as said with less. -/
theorem Always.mono (always : Always step said) (weaker : ∀ a, said a → more a) :
    Always step more := fun memo => weaker _ (always memo)

end Always

/-! ## Moves -/

namespace Place

/-- A place that is reached by moves. -/
def Ahead (p q : Place) : Prop := ∃ count, q = p.move count

/-- At the end of a text no move changes the place. -/
theorem move_end (count index : Nat) (before : Char) :
    move count ⟨index, before, []⟩ = ⟨index, before, []⟩ := by
  induction count with
  | zero => rfl
  | succ count ih => exact ih

/-- Two moves are one. -/
theorem move_move (first second : Nat) (p : Place) :
    (p.move first).move second = p.move (first + second) := by
  fun_induction move first p with
  | case1 p => rw [Nat.zero_add]
  | case2 first index before ih => rw [ih, move_end, move_end]
  | case3 first index before c rest ih => rw [ih, Nat.succ_add, move]

/-- A move drops characters from the rest. -/
theorem rest_move (count : Nat) (p : Place) : (p.move count).rest = p.rest.drop count := by
  fun_induction move count p with
  | case1 p => rfl
  | case2 count index before ih => rw [ih, List.drop_nil, List.drop_nil]
  | case3 count index before c rest ih => rw [ih, List.drop_succ_cons]

/-- A move within the text counts its characters. -/
theorem index_move (count : Nat) (p : Place) (le : count ≤ p.rest.length) :
    (p.move count).index = p.index + count := by
  fun_induction move count p with
  | case1 p => rfl
  | case2 count index before ih => cases le
  | case3 count index before c rest ih =>
    rw [ih (Nat.le_of_succ_le_succ le)]
    exact Nat.add_right_comm index 1 count

/-- No move goes back. -/
theorem index_le_move (count : Nat) (p : Place) : p.index ≤ (p.move count).index := by
  fun_induction move count p with
  | case1 p => exact Nat.le_refl _
  | case2 count index before ih => exact ih
  | case3 count index before c rest ih => exact Nat.le_of_succ_le ih

/-- Every place is reached from itself. -/
theorem ahead_refl (p : Place) : p.Ahead p := ⟨0, rfl⟩

/-- A move reaches its place. -/
theorem ahead_move (count : Nat) (p : Place) : p.Ahead (p.move count) := ⟨count, rfl⟩

/-- A place is reached by its rest. -/
theorem ahead_at (rest : Text) (p : Place) : p.Ahead (p.at rest) := ahead_move _ _

namespace Ahead

variable {p q r : Place}

/-- What is reached from a place that is reached is reached. -/
theorem trans (first : p.Ahead q) (second : q.Ahead r) : p.Ahead r := by
  obtain ⟨count, rfl⟩ := first
  obtain ⟨more, rfl⟩ := second
  exact ⟨count + more, move_move count more p⟩

/-- What is left at a place that is reached is an end of the text. -/
theorem suffix (ahead : p.Ahead q) : q.rest <:+ p.rest := by
  obtain ⟨count, rfl⟩ := ahead
  rw [rest_move]
  exact List.drop_suffix count p.rest

/-- No place that is reached lies in front. -/
theorem index_le (ahead : p.Ahead q) : p.index ≤ q.index := by
  obtain ⟨count, rfl⟩ := ahead
  exact index_le_move count p

end Ahead

end Place

open Place

/-! ## Labels -/

/-- Skipping goes forward. -/
def Forward (skip : Skip) : Prop := ∀ p, Always (skip p) fun found => ∀ q ∈ found, p.Ahead q

section Labels

variable {skip : Skip} (forward : Forward skip) (references : References)

include forward

/-- The end of a label is reached. -/
theorem labelEnd?_ahead (nested : Bool) (fuel depth : Nat) (p : Place) :
    Always (labelEnd? skip nested fuel depth p) fun found => ∀ q ∈ found, p.Ahead q := by
  induction fuel generalizing depth p with
  | zero => exact always_pure (by simp)
  | succ fuel ih =>
    rw [labelEnd?]
    have onward {q : Place} (ahead : p.Ahead q) (depth : Nat) :
        Always (labelEnd? skip nested fuel depth q) fun found => ∀ r ∈ found, p.Ahead r :=
      (ih depth q).mono fun found reached r mem => ahead.trans (reached r mem)
    split
    · exact always_pure (by simp)
    · rename_i c _ _
      dsimp only
      generalize (if c == ']' then depth - 1 else depth) = left
      split
      · exact always_pure (by simp [ahead_refl])
      · refine always_bind ((forward p).mono fun found reached => ?_)
        cases found with
        | none => exact always_pure (by simp)
        | some q =>
          have ahead : p.Ahead q := reached q rfl
          dsimp only
          split
          · split
            · exact onward ahead _
            · split
              · exact onward ahead _
              · exact always_pure (by simp)
          · exact onward ahead _

/-- The place behind a label is reached. -/
theorem label?_ahead (nested : Bool) (p : Place) :
    Always (label? skip nested p) fun found => ∀ label ∈ found, p.Ahead label.2 := by
  refine always_bind ((labelEnd?_ahead forward nested _ _ _).mono fun found reached => ?_)
  cases found with
  | none => exact always_pure (by simp)
  | some q =>
    have ahead : p.Ahead (q.move 1) :=
      ((ahead_move 1 p).trans (reached q rfl)).trans (ahead_move 1 q)
    exact always_pure (by simpa using ahead)

/-- The place behind a reference is reached. -/
theorem reference?_ahead (label : Text) {p after next : Place} (isAfter : p.Ahead after)
    (isNext : p.Ahead next) :
    Always (reference? skip references label after next) fun found =>
      ∀ f ∈ found, p.Ahead f.after := by
  rw [reference?]
  split
  · exact always_pure (by simp)
  · dsimp only
    split
    · refine always_bind ((label?_ahead forward true next).mono fun found reached => ?_)
      refine always_pure fun f mem => ?_
      obtain ⟨target, -, rfl⟩ := Option.map_eq_some_iff.mp mem
      dsimp only
      split
      · exact isAfter
      · exact isNext.trans (reached ([], _) rfl)
      · exact isNext.trans (reached _ rfl)
    · refine always_pure fun f mem => ?_
      obtain ⟨target, -, rfl⟩ := Option.map_eq_some_iff.mp mem
      exact isAfter

/-- The place behind a link is reached. -/
theorem link?_ahead (p : Place) :
    Always (link? skip references p) fun found => ∀ f ∈ found, p.Ahead f.after := by
  rw [link?]
  refine always_bind ((label?_ahead forward false p).mono fun found reached => ?_)
  cases found with
  | none => exact always_pure (by simp)
  | some entry =>
    obtain ⟨label, after⟩ := entry
    have ahead : p.Ahead after := reached _ rfl
    dsimp only
    split
    · split
      · exact always_pure (by simp)
      · exact always_pure (by simpa using ahead.trans (ahead_at _ after))
      · exact reference?_ahead forward references label ahead
          ((ahead.trans (ahead_at _ after)).trans (ahead_move 1 _))
    · exact reference?_ahead forward references label ahead ahead

/-- The place behind an image is reached. -/
theorem image?_ahead (p : Place) :
    Always (image? skip references p) fun found => ∀ f ∈ found, p.Ahead f.after := by
  rw [image?.eq_def]
  split
  · refine always_bind ((label?_ahead forward true (p.move 1)).mono fun found reached => ?_)
    cases found with
    | none => exact always_pure (by simp)
    | some entry =>
      obtain ⟨label, after⟩ := entry
      have ahead : p.Ahead after := (ahead_move 1 p).trans (reached _ rfl)
      dsimp only
      split
      · split
        · exact always_pure (by simpa using ahead.trans (ahead_at _ after))
        · exact always_pure (by simp)
      · exact reference?_ahead forward references label ahead ahead
  · exact always_pure (by simp)

end Labels

/-- What is remembered to be reached is reached. -/
theorem remember_ahead {p : Place} {after : Option Place} (reached : ∀ q ∈ after, p.Ahead q) :
    Always (remember p after) fun found => ∀ q ∈ found, p.Ahead q := fun _ => reached

/-- Skipping a piece goes forward, also where what is remembered is asked. -/
theorem skipPiece_forward (references : References) (room : Nat) :
    Forward (skipPiece references room) := by
  -- What is remembered is an index, and a move reaches it.
  have known (p : Place) (index : Option Nat) : Always
      (pure (index.map fun index => p.move (index - p.index)) : StateM Memo (Option Place))
      fun found => ∀ q ∈ found, p.Ahead q := by
    refine always_pure fun q mem => ?_
    obtain ⟨index, -, rfl⟩ := Option.map_eq_some_iff.mp mem
    exact ahead_move _ p
  induction room with
  | zero =>
    intro p
    rw [skipPiece]
    refine always_get fun memo => ?_
    split
    · exact known p _
    · exact remember_ahead (by simp)
  | succ room ih =>
    intro p
    rw [skipPiece]
    refine always_get fun memo => ?_
    have onward (found : Option Place) (reached : ∀ q ∈ found, p.Ahead q) :
        Always (remember p (some (found.getD (p.move 1)))) fun found => ∀ q ∈ found, p.Ahead q := by
      refine remember_ahead fun q mem => ?_
      obtain rfl := Option.some.inj mem
      cases found with
      | none => exact ahead_move 1 p
      | some q => exact reached q rfl
    have behind {step : StateM Memo (Option Found)}
        (always : Always step fun found => ∀ f ∈ found, p.Ahead f.after) :
        Always (do
          let found ← (·.map Found.after) <$> step
          remember p (some (found.getD (p.move 1)))) fun found => ∀ q ∈ found, p.Ahead q := by
      refine always_bind (always_map (always.mono fun found reached => onward _ fun q mem => ?_))
      obtain ⟨f, isFound, rfl⟩ := Option.map_eq_some_iff.mp mem
      exact reached f isFound
    cases memo[p.index]? with
    | some index => exact known p index
    | none =>
      dsimp only
      split
      · exact behind (link?_ahead ih references p)
      · exact behind (image?_ahead ih references p)
      · exact onward _ (by simpa using ahead_at _ p)
      · exact onward _ (by simpa using ahead_at _ p)
      · refine onward _ fun q mem => ?_
        obtain ⟨found, -, rfl⟩ := Option.map_eq_some_iff.mp mem
        exact ahead_at _ p

end Loremark.Markdown
