import Loremark.Proofs.Preview.Progress

/-!
# Turns in a session

The turn of a number moves the preview of that number and no other one (`take_eq`). A lookup that
is under way stands in one of the queues of its session (`Queued`), so that once the replies have
been released and everyone has had a turn no lookup is under way any more
(`isInFlight_run_release`).
-/

set_option autoImplicit false

namespace Loremark.Preview

variable {p : Preview}

/-- Behind its turn a lookup has no turn coming. -/
theorem hasTurn_turn (released : Bool) (script : Script) :
    hasTurn (turn released script p).1 = false := by
  cases lookup : p.lookup with
  | none => simp [turn, hasTurn, lookup]
  | some stage =>
    cases stage with
    | ended => simp [turn, hasTurn, lookup]
    | cancelled => simp [turn, hasTurn, lookup]
    | stopping => simp [turn, hasTurn, lookup]
    | held reply =>
      cases known : p.kind? with
      | none => simp [turn, hasTurn, lookup, known]
      | some kind => simp [turn, hasTurn, lookup, known, finish_ended]
    | due =>
      cases known : p.kind? with
      | none => simp [turn, hasTurn, lookup, known, reject_ended]
      | some kind =>
        simp only [turn, lookup, known]
        split
        · simp [hasTurn]
        · simp [hasTurn, finish_ended]

/-- Once replies are released, a turn ends the lookup of its preview. -/
theorem isInFlight_turn (coherent : p.Coherent) (script : Script) :
    (turn true script p).1.isInFlight = false := by
  cases lookup : p.lookup with
  | none => simp [turn, lookup, isInFlight]
  | some stage =>
    cases stage with
    | ended => simp [turn, lookup, isInFlight, Lookup.isOver]
    | cancelled => simp [turn, lookup, isInFlight, Lookup.isOver]
    | stopping => simp [turn, lookup, isInFlight, Lookup.isOver]
    | held reply =>
      obtain ⟨kind, known⟩ := Option.isSome_iff_exists.mp
        (coherent.kind_of_held (by rw [isHeld, lookup]))
      simp [turn, lookup, known, isInFlight, finish_ended, Lookup.isOver]
    | due =>
      cases known : p.kind? with
      | none => simp [turn, lookup, known, isInFlight, reject_ended, Lookup.isOver]
      | some kind => simp [turn, lookup, known, isInFlight, finish_ended, Lookup.isOver]

namespace Session

variable {s : Session} {number : Nat} {waiting : List Nat}

/-! ## One turn -/

/-- The turn of a number without a preview changes nothing. -/
theorem take_of_none (missing : s.previews[number]? = none) : s.take number = s := by
  rw [take, missing]

/-- A turn puts the preview that has had it in its place. -/
theorem take_eq (there : s.previews[number]? = some p) :
    s.take number =
      { s with
        previews := s.previews.set number (turn s.released s.script p).1
        held := s.held ++ if isHeld (turn s.released s.script p).1 then [number] else []
        script := (turn s.released s.script p).2.1
        trace := s.trace ++ (turn s.released s.script p).2.2 } := by
  rw [take, there]
  dsimp only [setPreview, note]
  split
  · rfl
  · rw [List.append_nil]

/-- A turn leaves the queue of those who are due alone. -/
@[simp] theorem take_due : (s.take number).due = s.due := by
  cases there : s.previews[number]? with
  | none => rw [take_of_none there]
  | some p => rw [take_eq there]

/-- A turn neither releases replies nor holds them back. -/
@[simp] theorem take_released : (s.take number).released = s.released := by
  cases there : s.previews[number]? with
  | none => rw [take_of_none there]
  | some p => rw [take_eq there]

/-- Turns keep what every turn keeps; `P` may speak of the turns that are still to come. -/
theorem foldl_take {P : List Nat → Session → Prop}
    (step : ∀ number numbers s, P (number :: numbers) s → P numbers (s.take number))
    {numbers : List Nat} (start : P numbers s) : P [] (numbers.foldl take s) := by
  induction numbers generalizing s with
  | nil => exact start
  | cons number numbers ih => exact ih (step number numbers s start)

/-- Nobody is due once everyone has had a turn. -/
@[simp] theorem run_due : s.run.due = [] :=
  foldl_take (P := fun _ t => t.due = []) (fun _ _ _ same => take_due.trans same) rfl

/-! ## Mounting and unmounting -/

/-- Mounting puts the mounted preview in its place, and in the queue if its lookup is due. -/
theorem mount_eq (there : s.previews[number]? = some p) :
    s.mount number = p.mount.map fun q =>
      { s with
        previews := s.previews.set number q
        due := s.due ++ if p.lookup.isNone then [number] else [] } := by
  rw [mount, there]
  dsimp only
  cases p.mount with
  | error cause => rfl
  | ok q =>
    cases p.lookup with
    | none => rfl
    | some stage =>
      simp only [Option.isNone_some, Bool.false_eq_true, if_false, List.append_nil]
      rfl

/-- Unmounting puts the unmounted preview in its place, and in the queue if its lookup has to stop.
-/
theorem unmount_eq (there : s.previews[number]? = some p) :
    s.unmount number =
      { s with
        previews := s.previews.set number p.unmount.1
        due := s.due ++ if isHeld p && hasTurn p.unmount.1 then [number] else []
        trace := s.trace ++ p.unmount.2 } := by
  rw [unmount, there]
  rfl

/-- Unmounting where there is no preview changes nothing. -/
theorem unmount_of_none (missing : s.previews[number]? = none) : s.unmount number = s := by
  rw [unmount, missing]

/-- Cancelling puts the cancelled preview in its place, and in the queue if its lookup has to stop.
-/
theorem cancel_eq (there : s.previews[number]? = some p) :
    s.cancel number =
      { s with
        previews := s.previews.set number p.cancel
        due := s.due ++ if isHeld p && hasTurn p.cancel then [number] else [] } := by
  rw [cancel, there]
  rfl

/-- Cancelling where there is no preview changes nothing. -/
theorem cancel_of_none (missing : s.previews[number]? = none) : s.cancel number = s := by
  rw [cancel, missing]

/-- A preview found behind a change is the changed one, or stood there before. -/
theorem getElem?_set_cases {previews : List Preview} (there : previews[number]? = some p)
    {q r : Preview} {n : Nat} (found : (previews.set number q)[n]? = some r) :
    n = number ∧ r = q ∨ n ≠ number ∧ previews[n]? = some r := by
  by_cases same : n = number
  · rw [same, List.getElem?_set_self (List.getElem?_eq_some_iff.mp there).1] at found
    exact .inl ⟨same, (Option.some.inj found).symm⟩
  · rw [List.getElem?_set_ne (Ne.symm same)] at found
    exact .inr ⟨same, found⟩

/-! ## Queues -/

/-- Lookups under way have a turn coming, unless their replies are held back. -/
structure Queued (s : Session) (waiting : List Nat) : Prop where
  due : ∀ {n p}, s.previews[n]? = some p → hasTurn p = true → n ∈ waiting
  held : ∀ {n p}, s.previews[n]? = some p → isHeld p = true → n ∈ waiting ∨ n ∈ s.held

/-- A turn takes its number out of those that are waiting. -/
theorem Queued.take (queued : s.Queued (number :: waiting)) : (s.take number).Queued waiting := by
  cases there : s.previews[number]? with
  | none =>
    rw [take_of_none there]
    have other {n : Nat} {p : Preview} (found : s.previews[n]? = some p) : n ≠ number := by
      rintro rfl
      rw [there] at found
      cases found
    exact {
      due := fun found due => List.mem_of_ne_of_mem (other found) (queued.due found due)
      held := fun found held =>
        (queued.held found held).imp_left (List.mem_of_ne_of_mem (other found)) }
  | some p =>
    rw [take_eq there]
    refine ⟨fun {n q} found due => ?_, fun {n q} found held => ?_⟩
    · rcases getElem?_set_cases there found with ⟨rfl, rfl⟩ | ⟨other, before⟩
      · rw [hasTurn_turn s.released s.script] at due
        cases due
      · exact List.mem_of_ne_of_mem other (queued.due before due)
    · rcases getElem?_set_cases there found with ⟨rfl, rfl⟩ | ⟨other, before⟩
      · rw [if_pos held]
        exact .inr (List.mem_append_right _ (List.mem_singleton_self n))
      · exact (queued.held before held).imp (List.mem_of_ne_of_mem other)
          (List.mem_append_left _)

/-- Putting a preview in place keeps the queues in order if its lookup waits in the same ones. -/
theorem Queued.set (queued : s.Queued waiting) (there : s.previews[number]? = some p) {q : Preview}
    {more : List Nat} (due : hasTurn q = true → number ∈ waiting ++ more)
    (held : isHeld q = true → isHeld p = true) {t : Session}
    (previews : t.previews = s.previews.set number q) (same : t.held = s.held) :
    t.Queued (waiting ++ more) := by
  refine ⟨fun {n r} found waits => ?_, fun {n r} found waits => ?_⟩
  · rw [previews] at found
    rcases getElem?_set_cases there found with ⟨rfl, rfl⟩ | ⟨-, before⟩
    · exact due waits
    · exact List.mem_append_left _ (queued.due before waits)
  · rw [previews] at found
    rw [same]
    rcases getElem?_set_cases there found with ⟨rfl, rfl⟩ | ⟨-, before⟩
    · exact (queued.held there (held waits)).imp_left (List.mem_append_left _)
    · exact (queued.held before waits).imp_left (List.mem_append_left _)

/-- Lookups under way stay queued when everyone has a turn. -/
theorem Queued.run (queued : s.Queued s.due) : s.run.Queued s.run.due := by
  rw [run_due]
  exact foldl_take (P := fun waiting t => t.Queued waiting) (fun _ _ _ => Queued.take)
    ⟨queued.due, queued.held⟩

/-- Lookups under way stay queued when replies are released. -/
theorem Queued.release (queued : s.Queued s.due) : s.release.Queued s.release.due where
  due := fun found due => List.mem_append_left _ (queued.due found due)
  held := fun found held => .inl (List.mem_append.mpr (queued.held found held))

/-- Once the replies have been released and everyone has had a turn, no lookup is under way. -/
theorem isInFlight_run_release (coherent : ∀ p ∈ s.previews, p.Coherent)
    (queued : s.Queued s.due) : ∀ p ∈ s.release.run.previews, p.isInFlight = false := by
  -- Whoever is under way has a turn among those that are left, up to the last turn.
  have step (number : Nat) (numbers : List Nat) (t : Session)
      (here : t.released = true ∧ (∀ p ∈ t.previews, p.Coherent) ∧
        ∀ n p, t.previews[n]? = some p → p.isInFlight = true → n ∈ number :: numbers) :
      (t.take number).released = true ∧ (∀ p ∈ (t.take number).previews, p.Coherent) ∧
        ∀ n p, (t.take number).previews[n]? = some p → p.isInFlight = true → n ∈ numbers := by
    obtain ⟨released, coherent, flying⟩ := here
    refine ⟨take_released.trans released, ?_⟩
    cases there : t.previews[number]? with
    | none =>
      rw [take_of_none there]
      refine ⟨coherent, fun n p found flies => List.mem_of_ne_of_mem ?_ (flying n p found flies)⟩
      rintro rfl
      rw [there] at found
      cases found
    | some p =>
      have sound := coherent p (List.mem_of_getElem? there)
      rw [take_eq there, released]
      refine ⟨fun q mem => ?_, fun n q found flies => ?_⟩
      · rcases List.mem_or_eq_of_mem_set mem with old | rfl
        · exact coherent q old
        · exact (turn_advances sound true t.script).coherent
      · rcases getElem?_set_cases there found with ⟨rfl, rfl⟩ | ⟨other, before⟩
        · rw [isInFlight_turn sound t.script] at flies
          cases flies
        · exact List.mem_of_ne_of_mem other (flying n q before flies)
  have start (n : Nat) (p : Preview) (found : s.previews[n]? = some p)
      (flies : p.isInFlight = true) : n ∈ s.release.due := by
    rcases isInFlight_iff.mp flies with due | held
    · exact queued.release.due found due
    · -- Whoever was held back has a turn coming behind the release.
      exact (queued.release.held found held).resolve_right List.not_mem_nil
  obtain ⟨-, -, none⟩ := foldl_take (P := fun waiting t => t.released = true ∧
    (∀ p ∈ t.previews, p.Coherent) ∧
      ∀ n p, t.previews[n]? = some p → p.isInFlight = true → n ∈ waiting)
    step (s := { s.release with due := [] }) ⟨rfl, coherent, start⟩
  intro p mem
  obtain ⟨n, found⟩ := List.getElem?_of_mem mem
  rw [Bool.eq_false_iff]
  exact fun flies => List.not_mem_nil (none n p found flies)

/-! ## A session of one preview -/

/-- In a session of one preview a turn takes that preview on. -/
theorem take_single (single : s.previews = [p]) (coherent : p.Coherent) (number : Nat) :
    ∃ q trace, (s.take number).previews = [q] ∧ (s.take number).trace = s.trace ++ trace ∧
      p.Advances trace q ∧ (p.isInFlight = false → q = p) := by
  cases number with
  | zero =>
    have there : s.previews[0]? = some p := by rw [single]; rfl
    refine ⟨_, _, ?_, ?_, turn_advances coherent s.released s.script, fun idle => ?_⟩
    · rw [take_eq there, single]
      rfl
    · rw [take_eq there]
    · rw [turn_idle idle]
  | succ number =>
    have missing : s.previews[number + 1]? = none := by rw [single]; rfl
    rw [take_of_none missing]
    exact ⟨p, {}, single, (Trace.append_empty _).symm, .refl coherent, fun _ => rfl⟩

/-- In a session of one preview it goes on when everyone has a turn. -/
theorem run_single (single : s.previews = [p]) (coherent : p.Coherent) :
    ∃ q trace, s.run.previews = [q] ∧ s.run.trace = s.trace ++ trace ∧
      p.Advances trace q ∧ (p.isInFlight = false → q = p) := by
  refine foldl_take (P := fun _ t => ∃ q trace, t.previews = [q] ∧ t.trace = s.trace ++ trace ∧
    p.Advances trace q ∧ (p.isInFlight = false → q = p)) ?_
    ⟨p, {}, single, (Trace.append_empty _).symm, .refl coherent, fun _ => rfl⟩
  rintro number - t ⟨q, trace, single, noted, advances, idle⟩
  obtain ⟨r, later, singleLater, notedLater, further, idleLater⟩ :=
    take_single single advances.coherent number
  refine ⟨r, trace ++ later, singleLater, ?_,
    advances.trans further
      (advances.same_or_over.imp_right fun finished => by rw [idleLater finished]),
    fun finished => ?_⟩
  · rw [notedLater, noted, Trace.append_assoc]
  · obtain rfl := idle finished
    exact idleLater finished

end Session

end Loremark.Preview
