import Loremark.Preview.Session

/-!
# What can happen to a preview

Mounting, unmounting, cancelling and the turns of a lookup all move a preview in one direction:
`Advances` says how far two moments of a preview can differ, what its listeners were told in
between, and which entity was asked for. It holds of every single operation and of one stretch
after another (`Advances.trans`), so it holds of every run. Listeners come and go beside it, and
`Follows` is what is left when they do.
-/

set_option autoImplicit false

namespace Loremark.Preview

/-- A state is one of loading exactly if it is that one. -/
theorem State.isLoading_iff {state : State} : state.isLoading = true ↔ state = .loading := by
  cases state <;> simp [isLoading]

/-- What holds of every preview at every moment. -/
structure Coherent (p : Preview) : Prop where
  /-- After it has been disposed of, a preview does not ask for its entity any more. -/
  disposed_not_due : p.disposed = true → p.lookup ≠ some .due
  /-- Only the end of the lookup changes the state. -/
  ended_or_loading : p.lookup = some .ended ∨ p.state = .loading
  /-- Only an entity of a kind that there is has been asked for. -/
  kind_of_held : isHeld p = true → p.kind?.isSome = true

/-- Whether the entity of a preview can still be asked for. -/
def canAsk (p : Preview) : Bool :=
  !p.disposed &&
    match p.lookup with
    | none | some .due => true
    | _ => false

/-- What the listeners of a preview are told when it has gone from one moment to another. -/
def noticesOf (p q : Preview) : List Notice :=
  if p.state.isLoading && !q.state.isLoading then
    p.listeners.map fun listener => ⟨listener, p.key, q.state⟩
  else []

/-- A preview at a later moment, and what has been done in between. -/
structure Follows (p : Preview) (trace : Trace) (q : Preview) : Prop where
  coherent : q.Coherent
  /-- The entity and the way it is shown stay the same. -/
  same : q = { p with state := q.state, lookup := q.lookup, disposed := q.disposed,
                      listeners := q.listeners }
  disposed : p.disposed = true → q.disposed = true
  begun : p.lookup.isSome = true → q.lookup.isSome = true
  state : q.state = p.state ∨ p.state = .loading ∧ q.disposed = false ∧ q.state ≠ .loading
  notices : trace.notices = noticesOf p q
  calls : trace.calls = [] ∧ (q.canAsk = true → p.canAsk = true) ∨
    ∃ kind, p.kind? = some kind ∧ trace.calls = [⟨kind, p.entity⟩] ∧ p.canAsk = true ∧
      q.canAsk = false

/-- A preview at a later moment, when no listener has come or gone except that all of them go when
it is disposed of. -/
structure Advances (p : Preview) (trace : Trace) (q : Preview) : Prop
    extends Follows p trace q where
  listeners : q.disposed = false → q.listeners = p.listeners

variable {p q r : Preview} {trace later : Trace}

/-- A lookup is under way if it has a turn coming or its reply is held back. -/
theorem isInFlight_iff : p.isInFlight = true ↔ hasTurn p = true ∨ isHeld p = true := by
  cases lookup : p.lookup with
  | none => simp [isInFlight, hasTurn, isHeld, lookup]
  | some stage => cases stage <;> simp [isInFlight, hasTurn, isHeld, lookup, Lookup.isOver]

/-- A lookup whose reply is held back has no turn coming. -/
theorem isHeld_and_hasTurn : (isHeld p && hasTurn p) = false := by
  cases lookup : p.lookup with
  | none => simp [isHeld, lookup]
  | some stage => cases stage <;> simp [isHeld, hasTurn, lookup]

/-! ## One stretch after another -/

/-- Nobody is told of a state that has not changed. -/
theorem noticesOf_eq_nil (same : q.state = p.state) : noticesOf p q = [] := by
  simp [noticesOf, same]

/-- Everyone who listens is told of the end of loading. -/
theorem noticesOf_settled (loading : p.state = .loading) (settled : q.state ≠ .loading) :
    noticesOf p q = p.listeners.map fun listener => ⟨listener, p.key, q.state⟩ := by
  have finished : q.state.isLoading = false := by
    rw [Bool.eq_false_iff, Ne, State.isLoading_iff]
    exact settled
  simp [noticesOf, State.isLoading_iff.mpr loading, finished]

namespace Follows

/-- A preview keeps its key. -/
theorem key (follows : Follows p trace q) : q.key = p.key := by rw [follows.same]

/-- A preview keeps the name of its kind. -/
theorem kindName (follows : Follows p trace q) : q.kindName = p.kindName := by rw [follows.same]

/-- A preview keeps its entity. -/
theorem entity (follows : Follows p trace q) : q.entity = p.entity := by rw [follows.same]

/-- A preview keeps its kind. -/
theorem kind? (follows : Follows p trace q) : q.kind? = p.kind? := by
  rw [Preview.kind?, follows.kindName, Preview.kind?]

/-- A preview that is still there was there before. -/
theorem live (follows : Follows p trace q) (live : q.disposed = false) : p.disposed = false := by
  rw [Bool.eq_false_iff]
  intro disposed
  rw [follows.disposed disposed] at live
  cases live

/-- A preview that was disposed of keeps its state, and nobody is told of anything. -/
theorem of_disposed (follows : Follows p trace q) (disposed : q.disposed = true) :
    q.state = p.state ∧ trace.notices = [] := by
  have state : q.state = p.state := by
    rcases follows.state with same | ⟨-, live, -⟩
    · exact same
    · rw [disposed] at live
      cases live
  exact ⟨state, follows.notices.trans (noticesOf_eq_nil state)⟩

/-- What cannot be asked for is not asked for, and cannot be later. -/
theorem of_cannot (follows : Follows p trace q) (cannot : p.canAsk = false) :
    trace.calls = [] ∧ q.canAsk = false := by
  rcases follows.calls with ⟨none, back⟩ | ⟨kind, -, -, can, -⟩
  · refine ⟨none, ?_⟩
    rw [Bool.eq_false_iff]
    intro can
    rw [back can] at cannot
    cases cannot
  · rw [can] at cannot
    cases cannot

/-- A preview that has settled keeps its state, and nobody is told of anything. -/
theorem of_settled (follows : Follows p trace q) (settled : p.state ≠ .loading) :
    q.state = p.state ∧ trace.notices = [] := by
  have state : q.state = p.state := by
    rcases follows.state with same | ⟨loading, -⟩
    · exact same
    · exact absurd loading settled
  exact ⟨state, follows.notices.trans (noticesOf_eq_nil state)⟩

end Follows

namespace Advances

/-- A preview that stays as it is goes on. -/
theorem refl (coherent : p.Coherent) : Advances p {} p where
  coherent := coherent
  same := rfl
  disposed := id
  begun := id
  state := .inl rfl
  notices := (noticesOf_eq_nil rfl).symm
  calls := .inl ⟨rfl, id⟩
  listeners := fun _ => rfl

/-- What follows a stretch at whose end the preview has not been disposed of sees the listeners
that were there at its beginning. -/
theorem noticesOf_trans (first : Advances p trace q) (second : Advances q later r) :
    noticesOf p q ++ noticesOf q r = noticesOf p r := by
  rcases second.state with same | ⟨loading, live, settled⟩
  · rw [noticesOf_eq_nil same, List.append_nil, noticesOf, noticesOf, same]
  · rcases first.state with same | ⟨-, -, finished⟩
    · rw [noticesOf_eq_nil same, List.nil_append, noticesOf, noticesOf, same, first.key,
        first.listeners (second.live live)]
    · exact absurd loading finished

/-- A preview whose state has changed in a stretch has no lookup under way at its end. -/
theorem same_or_over (first : Advances p trace q) : q.state = p.state ∨ q.isInFlight = false := by
  rcases first.state with same | ⟨-, -, settled⟩
  · exact .inl same
  · rw [isInFlight, first.coherent.ended_or_loading.resolve_right settled]
    exact .inr rfl

/-- One stretch after another, if the second one does not dispose of a preview that has settled in
the first one. -/
theorem trans (first : Advances p trace q) (second : Advances q later r)
    (kept : q.state = p.state ∨ r.disposed = q.disposed) : Advances p (trace ++ later) r where
  coherent := second.coherent
  same := by rw [second.same, first.same]
  disposed := fun disposed => second.disposed (first.disposed disposed)
  begun := fun begun => second.begun (first.begun begun)
  state := by
    rcases second.state with same | ⟨loading, live, settled⟩
    · rcases first.state with sameBefore | ⟨loading, live, settled⟩
      · exact .inl (same.trans sameBefore)
      · -- It has settled in the first stretch, and must not be disposed of in the second one.
        have stays : q.state ≠ p.state := fun sameBefore => settled (sameBefore.trans loading)
        exact .inr ⟨loading, (kept.resolve_left stays).trans live, same ▸ settled⟩
    · rcases first.state with same | ⟨-, -, finished⟩
      · exact .inr ⟨same ▸ loading, live, settled⟩
      · exact absurd loading finished
  notices := by
    rw [Trace.notices_append, first.notices, second.notices, first.noticesOf_trans second]
  calls := by
    rw [Trace.calls_append]
    rcases first.calls with ⟨none, back⟩ | ⟨kind, known, one, can, not⟩
    · rw [none, List.nil_append]
      rcases second.calls with ⟨noneLater, backLater⟩ | ⟨kind, known, one, can, not⟩
      · exact .inl ⟨noneLater, fun can => back (backLater can)⟩
      · exact .inr ⟨kind, by rw [← first.kind?, known], by rw [one, first.entity], back can, not⟩
    · obtain ⟨noneLater, cannot⟩ := second.of_cannot not
      exact .inr ⟨kind, known, by rw [one, noneLater, List.append_nil], can, cannot⟩
  listeners := fun live => by rw [second.listeners live, first.listeners (second.live live)]

end Advances

/-! ## Operations -/

/-- A preview that has been disposed of cannot be mounted. -/
theorem mount_of_disposed (disposed : p.disposed = true) : p.mount = .error ⟨p.key⟩ := by
  rw [mount, if_pos disposed]

/-- A preview that is still there is mounted, and its lookup is due unless it has begun. -/
theorem mount_of_live (live : p.disposed = false) :
    p.mount = .ok { p with lookup := some (p.lookup.getD .due) } := by
  rw [mount, if_neg (by simp [live])]
  cases lookup : p.lookup with
  | none => rfl
  | some stage =>
    -- A lookup that has begun stays as it is.
    have same : p = { p with lookup := some stage } := by rw [← lookup]
    exact congrArg Except.ok same

/-- Beginning a lookup takes a preview on. -/
theorem begin_advances (coherent : p.Coherent) (live : p.disposed = false) :
    Advances p {} { p with lookup := some (p.lookup.getD .due) } where
  coherent := {
    disposed_not_due := fun disposed => by rw [live] at disposed; cases disposed
    ended_or_loading := by
      rcases coherent.ended_or_loading with ended | loading
      · exact .inl (by rw [ended]; rfl)
      · exact .inr loading
    kind_of_held := by
      intro held
      cases lookup : p.lookup with
      | none => rw [isHeld, lookup] at held; cases held
      | some stage =>
        rw [isHeld, lookup] at held
        exact coherent.kind_of_held (by rw [isHeld, lookup]; exact held) }
  same := rfl
  disposed := id
  begun := fun _ => rfl
  state := .inl rfl
  notices := (noticesOf_eq_nil rfl).symm
  calls := by
    refine .inl ⟨rfl, fun can => ?_⟩
    cases lookup : p.lookup with
    | none => simp [canAsk, live, lookup]
    | some stage =>
      rw [canAsk, lookup] at can
      rw [canAsk, lookup]
      exact can
  listeners := fun _ => rfl

/-- Cancelling a preview cancels its lookup, if it has one. -/
theorem cancel_lookup : p.cancel.lookup = p.lookup.map Lookup.cancel := rfl

/-- A lookup that has been cancelled is not due. -/
theorem cancel_ne_due (lookup : Lookup) : lookup.cancel ≠ .due := by
  cases lookup with
  | held reply => rw [Lookup.cancel]; split <;> simp
  | _ => simp [Lookup.cancel]

/-- A lookup that is told to stop has a turn coming where it had one, and where its reply was held
back. -/
theorem hasTurn_cancel (turn : hasTurn p.cancel = true) : hasTurn p = true ∨ isHeld p = true := by
  rw [hasTurn, cancel_lookup] at turn
  cases lookup : p.lookup with
  | none => rw [lookup] at turn; cases turn
  | some stage =>
    rw [lookup] at turn
    cases stage with
    | due | stopping => exact .inl (by rw [hasTurn, lookup])
    | held reply => exact .inr (by rw [isHeld, lookup])
    | ended | cancelled => cases turn

/-- No lookup of a preview that has been cancelled is due. -/
theorem cancel_lookup_ne_due : p.cancel.lookup ≠ some .due := by
  intro due
  rw [cancel_lookup, Option.map_eq_some_iff] at due
  obtain ⟨lookup, -, same⟩ := due
  exact cancel_ne_due lookup same

/-- Only a reply that was held back is held back after cancelling. -/
theorem isHeld_cancel (held : isHeld p.cancel = true) : isHeld p = true := by
  rw [isHeld, cancel_lookup] at held
  rw [isHeld]
  cases lookup : p.lookup with
  | none => rw [lookup] at held; cases held
  | some stage =>
    rw [lookup] at held
    cases stage with
    | held reply => rfl
    | _ => cases held

/-- A lookup that is told to stop is under way until its next turn. -/
theorem isInFlight_cancel : p.cancel.isInFlight = p.isInFlight := by
  rw [isInFlight, isInFlight, cancel_lookup]
  cases p.lookup with
  | none => rfl
  | some stage =>
    cases stage with
    | held reply =>
      rw [Option.map_some, Lookup.cancel]
      split <;> rfl
    | _ => rfl

/-- Nothing can be asked for once a lookup that has begun has been cancelled. -/
theorem canAsk_cancel (begun : p.lookup.isSome = true) : p.cancel.canAsk = false := by
  obtain ⟨lookup, found⟩ := Option.isSome_iff_exists.mp begun
  rw [canAsk, cancel_lookup, found, Option.map_some]
  cases stage : lookup.cancel with
  | due => exact absurd stage (cancel_ne_due lookup)
  | _ => simp

/-- Cancelling keeps a preview coherent. -/
theorem cancel_coherent (coherent : p.Coherent) : p.cancel.Coherent where
  disposed_not_due := fun _ => cancel_lookup_ne_due
  ended_or_loading := by
    rcases coherent.ended_or_loading with ended | loading
    · exact .inl (by rw [cancel_lookup, ended]; rfl)
    · exact .inr loading
  kind_of_held := fun held => coherent.kind_of_held (isHeld_cancel held)

/-- Cancelling takes a preview on, and nobody is told of it. -/
theorem cancel_advances (coherent : p.Coherent) : Advances p {} p.cancel where
  coherent := cancel_coherent coherent
  same := rfl
  disposed := id
  begun := by simp [cancel_lookup]
  state := .inl rfl
  notices := (noticesOf_eq_nil rfl).symm
  calls := by
    refine .inl ⟨rfl, fun can => ?_⟩
    cases begun : p.lookup.isSome with
    | true => rw [canAsk_cancel begun] at can; cases can
    | false =>
      rw [Option.isSome_eq_false_iff, Option.isNone_iff_eq_none] at begun
      rw [canAsk, cancel_lookup, begun] at can
      rw [canAsk, begun]
      exact can
  listeners := fun _ => rfl

/-- Unmounting asks for nothing. -/
theorem unmount_calls : p.unmount.2.calls = [] := by
  rw [unmount]
  split
  · rfl
  · dsimp only
    split <;> rfl

/-- Unmounting a preview that is still there cancels it, disposes of it and sends its listeners
away. -/
theorem unmount_eq (live : p.disposed = false) :
    p.unmount.1 = { p.cancel with disposed := true, listeners := [] } := by
  rw [unmount, live]
  dsimp only
  split
  · contradiction
  · split <;> rfl

/-- Nobody is told of an unmount. -/
theorem unmount_notices : p.unmount.2.notices = [] := by
  rw [unmount]
  split
  · rfl
  · dsimp only
    split <;> rfl

/-- That a preview is unmounted is reported exactly if its lookup is under way, also where it has
been told to stop before. -/
theorem unmount_events : p.unmount.2.events =
    if !p.disposed && p.isInFlight then
      [Log.event .debug reporter "preview_unmounted_in_flight" [("key", .text p.key)]]
    else [] := by
  cases disposed : p.disposed with
  | true => rw [unmount, if_pos disposed]; rfl
  | false =>
    rw [unmount, disposed, Bool.not_false, Bool.true_and]
    dsimp only
    cases p.isInFlight <;> rfl

/-- Unmounting disposes of a preview. -/
theorem unmount_disposed : p.unmount.1.disposed = true := by
  cases disposed : p.disposed with
  | true => simp [unmount, disposed]
  | false => rw [unmount_eq disposed]

/-- Unmounting takes a preview on. -/
theorem unmount_advances (coherent : p.Coherent) : Advances p p.unmount.2 p.unmount.1 := by
  cases disposed : p.disposed with
  | true =>
    have idle : p.unmount = (p, {}) := by simp [unmount, disposed]
    rw [idle]
    exact .refl coherent
  | false =>
    have cancelled := cancel_coherent coherent
    rw [unmount_eq disposed]
    exact {
      coherent := {
        disposed_not_due := fun _ => cancel_lookup_ne_due
        ended_or_loading := cancelled.ended_or_loading
        kind_of_held := cancelled.kind_of_held }
      same := rfl
      disposed := fun _ => rfl
      begun := by simp [cancel_lookup]
      state := .inl rfl
      notices := unmount_notices.trans (noticesOf_eq_nil rfl).symm
      calls := .inl ⟨unmount_calls, fun can => by simp [canAsk] at can⟩
      listeners := fun live => by cases live }

/-! ## Turns -/

/-- No verdict on an outcome is that the preview is loading. -/
theorem verdict_ne_loading (kind : Kind) (entity : Int) (outcome : Outcome) :
    (outcome.verdict kind entity).1 ≠ .loading := by
  cases outcome with
  | payload value =>
    rw [Outcome.verdict]
    split
    · split <;> simp
    · simp
  | refused reason status => simp [Outcome.verdict]
  | broken sort message => simp [Outcome.verdict]

/-- The end of a lookup takes a preview on. -/
theorem ended_advances {state : State} (coherent : p.Coherent) (live : p.disposed = false)
    (pending : p.lookup ≠ some .ended) (settled : state ≠ .loading) (event : Log.Event) :
    Advances p
      (.ofEvent event ++ { notices := p.listeners.map fun listener => ⟨listener, p.key, state⟩ })
      { p with lookup := some .ended, state } where
  coherent := ⟨fun _ due => (by cases due), .inl rfl, fun held => (by cases held)⟩
  same := rfl
  disposed := id
  begun := fun _ => rfl
  state := .inr ⟨coherent.ended_or_loading.resolve_left pending, live, settled⟩
  notices := by
    rw [noticesOf_settled (coherent.ended_or_loading.resolve_left pending) settled]
    rfl
  calls := .inl ⟨rfl, fun can => by simp [canAsk] at can⟩
  listeners := fun _ => rfl

/-- A lookup that ends on a preview that has been disposed of leaves its state. -/
theorem settle_of_disposed (disposed : p.disposed = true) (kind : Kind) (outcome : Outcome) :
    p.settle kind outcome = ({ p with lookup := some .ended }, .ofEvent
      (Log.event .debug reporter "preview_late_result_discarded" [("key", .text p.key)])) := by
  rw [settle, if_pos disposed]

/-- A lookup that ends on a preview that is still there gives it the state of the verdict, and
everyone is told. -/
theorem settle_of_live (live : p.disposed = false) (kind : Kind) (outcome : Outcome) :
    p.settle kind outcome =
      ({ p with lookup := some .ended, state := (outcome.verdict kind p.entity).1 },
        .ofEvent (outcome.verdict kind p.entity).2 ++ { notices := p.listeners.map fun listener =>
          ⟨listener, p.key, (outcome.verdict kind p.entity).1⟩ }) := by
  simp [settle, become, live]

/-- A preview of no kind that is still there fails. -/
theorem reject_of_live (live : p.disposed = false) :
    p.reject =
      ({ p with lookup := some .ended,
                state := .failed ("Unsupported entity type: ".toList ++ p.kindName) },
        .ofEvent (Log.event .warning reporter "unsupported_entity_type"
          (about p.kindName p.entity)) ++ { notices := p.listeners.map fun listener =>
            ⟨listener, p.key, .failed ("Unsupported entity type: ".toList ++ p.kindName)⟩ }) := by
  simp [reject, become, live]

/-- Behind a refusal the lookup has ended. -/
theorem reject_ended : p.reject.1.lookup = some .ended := by
  rw [reject]
  dsimp only
  rw [become]
  split <;> rfl

/-- The end of a lookup with an outcome takes a preview on. -/
theorem settle_advances (coherent : p.Coherent)
    (pending : p.disposed = true ∨ p.lookup ≠ some .ended) (kind : Kind) (outcome : Outcome) :
    Advances p (p.settle kind outcome).2 (p.settle kind outcome).1 := by
  cases disposed : p.disposed with
  | true =>
    rw [settle_of_disposed disposed]
    exact {
      coherent := ⟨fun _ due => (by cases due), .inl rfl, fun held => (by cases held)⟩
      same := rfl
      disposed := id
      begun := fun _ => rfl
      state := .inl rfl
      notices := (noticesOf_eq_nil rfl).symm
      calls := .inl ⟨rfl, fun can => by simp [canAsk] at can⟩
      listeners := fun _ => rfl }
  | false =>
    rw [settle_of_live disposed]
    exact ended_advances coherent disposed (pending.resolve_left (by simp [disposed]))
      (verdict_ne_loading kind p.entity outcome) _

/-- A settled lookup has ended, and nothing is asked for. -/
theorem settle_ended (kind : Kind) (outcome : Outcome) :
    (p.settle kind outcome).1.lookup = some .ended ∧ (p.settle kind outcome).2.calls = [] := by
  cases disposed : p.disposed with
  | true =>
    rw [settle_of_disposed disposed]
    exact ⟨rfl, rfl⟩
  | false =>
    rw [settle_of_live disposed]
    exact ⟨rfl, rfl⟩

/-- A finished lookup has ended, and nothing is asked for. -/
theorem finish_ended (kind : Kind) (reply : Reply) :
    (p.finish kind reply).1.lookup = some .ended ∧ (p.finish kind reply).2.calls = [] := by
  cases unmounts : reply.unmounts with
  | true =>
    obtain ⟨ended, none⟩ := p.unmount.1.settle_ended kind reply.outcome
    simp only [finish, unmounts, if_true, Trace.calls_append, unmount_calls, none]
    exact ⟨ended, rfl⟩
  | false =>
    obtain ⟨ended, none⟩ := p.settle_ended kind reply.outcome
    simp only [finish, unmounts, Bool.false_eq_true, if_false, Trace.calls_append, none]
    exact ⟨ended, rfl⟩

/-- The end of a lookup with a reply takes a preview on, though the reply may unmount it. -/
theorem finish_advances (coherent : p.Coherent) (pending : p.lookup ≠ some .ended) (kind : Kind)
    (reply : Reply) : Advances p (p.finish kind reply).2 (p.finish kind reply).1 := by
  cases unmounts : reply.unmounts with
  | true =>
    simp only [finish, unmounts, if_true]
    have first := unmount_advances coherent
    have second := settle_advances first.coherent (.inl unmount_disposed) kind reply.outcome
    exact first.trans second (.inl (first.of_disposed unmount_disposed).1)
  | false =>
    simp only [finish, unmounts, Bool.false_eq_true, if_false, Trace.empty_append]
    exact settle_advances coherent (.inr pending) kind reply.outcome

/-- A preview whose lookup is due has not been disposed of. -/
theorem Coherent.live_of_due (coherent : p.Coherent) (due : p.lookup = some .due) :
    p.disposed = false := by
  rw [Bool.eq_false_iff]
  exact fun disposed => coherent.disposed_not_due disposed due

/-- Asking for an entity whose reply is held back takes a preview on. -/
theorem held_advances (coherent : p.Coherent) (due : p.lookup = some .due) {kind : Kind}
    (known : p.kind? = some kind) (reply : Reply) (events : List Log.Event) :
    Advances p { calls := [⟨kind, p.entity⟩], events } { p with lookup := some (.held reply) } where
  coherent := {
    disposed_not_due := fun _ due => by cases due
    ended_or_loading := .inr (coherent.ended_or_loading.resolve_left (by simp [due]))
    kind_of_held := fun _ => Option.isSome_iff_exists.mpr ⟨kind, known⟩ }
  same := rfl
  disposed := id
  begun := fun _ => rfl
  state := .inl rfl
  notices := (noticesOf_eq_nil rfl).symm
  calls := .inr ⟨kind, known, rfl, by simp [canAsk, coherent.live_of_due due, due],
    by simp [canAsk]⟩
  listeners := fun _ => rfl

/-- A turn leaves a preview alone if no lookup is under way. -/
theorem turn_idle (idle : p.isInFlight = false) (released : Bool) (script : Script) :
    turn released script p = (p, script, {}) := by
  cases lookup : p.lookup with
  | none => simp only [turn, lookup]
  | some stage =>
    cases stage with
    | ended => simp only [turn, lookup]
    | cancelled => simp only [turn, lookup]
    | due => simp [isInFlight, lookup, Lookup.isOver] at idle
    | held reply => simp [isInFlight, lookup, Lookup.isOver] at idle
    | stopping => simp [isInFlight, lookup, Lookup.isOver] at idle

/-- A lookup that has been told to stop stops in its turn, and nobody learns of it. -/
theorem stop_advances (coherent : p.Coherent) (stopping : p.lookup = some .stopping) :
    Advances p {} { p with lookup := some .cancelled } where
  coherent := {
    disposed_not_due := fun _ due => by cases due
    ended_or_loading := .inr (coherent.ended_or_loading.resolve_left (by simp [stopping]))
    kind_of_held := fun held => by cases held }
  same := rfl
  disposed := id
  begun := fun _ => rfl
  state := .inl rfl
  notices := (noticesOf_eq_nil rfl).symm
  calls := .inl ⟨rfl, fun can => by simp [canAsk] at can⟩
  listeners := fun _ => rfl

/-- A turn of the lookup, whatever the store answers. -/
theorem turn_advances (coherent : p.Coherent) (released : Bool) (script : Script) :
    Advances p (turn released script p).2.2 (turn released script p).1 := by
  cases idle : p.isInFlight with
  | false =>
    rw [turn_idle idle]
    exact .refl coherent
  | true =>
    cases lookup : p.lookup with
    | none => simp [isInFlight, lookup] at idle
    | some stage =>
      cases stage with
      | ended => simp [isInFlight, lookup, Lookup.isOver] at idle
      | cancelled => simp [isInFlight, lookup, Lookup.isOver] at idle
      | held reply =>
        cases known : p.kind? with
        | none =>
          simp only [turn, lookup, known]
          exact .refl coherent
        | some kind =>
          simp only [turn, lookup, known]
          exact finish_advances coherent (by simp [lookup]) kind reply
      | stopping =>
        have stops : turn released script p = ({ p with lookup := some .cancelled }, script, {}) := by
          simp only [turn, lookup]
        rw [stops]
        exact stop_advances coherent lookup
      | due =>
        have live := coherent.live_of_due lookup
        cases known : p.kind? with
        | none =>
          simp only [turn, lookup, known]
          rw [reject_of_live live]
          exact ended_advances coherent live (by simp [lookup]) (by simp) _
        | some kind =>
          simp only [turn, lookup, known]
          split
          · exact held_advances coherent lookup known _ _
          · -- The call comes first, and nothing behind it asks again.
            obtain ⟨ended, none⟩ := p.finish_ended kind (script.answer ⟨kind, p.entity⟩).1
            have finished := finish_advances coherent (by simp [lookup]) kind
              (script.answer ⟨kind, p.entity⟩).1
            exact { finished with
              notices := finished.notices
              calls := .inr ⟨kind, known, by simp [none], by simp [canAsk, live, lookup],
                by simp [canAsk, ended]⟩ }

end Loremark.Preview
