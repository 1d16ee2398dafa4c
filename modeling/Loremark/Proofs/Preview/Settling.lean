import Loremark.Proofs.Preview.Watching

/-!
# A preview settles once

In the rows of any steps a preview is loading and silent up to one row, in which it settles and
everyone who has come and not left is told of it, and it stays as it is and is silent from there
on, or else there is no such row. Its entity is asked for at most once, and not at all if the
preview was unmounted, or its lookup cancelled, before that.
-/

set_option autoImplicit false

namespace Loremark.Preview

/-- Rows in which a preview stays in a state and nobody is told of anything. -/
def Still (state : State) (rows : List Row) : Prop :=
  ∀ row ∈ rows, row.preview.state = state ∧ row.trace.notices = []

/-- A row in which a preview settles: each of those who are present is told once, and of the new
state. -/
structure Settles (key : Text) (roster : Roster) (row : Row) : Prop where
  settled : row.preview.state ≠ .loading
  told : row.trace.notices = roster.present.map fun listener => ⟨listener, key, row.preview.state⟩
  once : roster.present.Nodup

/-- A preview settles in one of the rows of its steps or in none, and nothing changes in the
others. -/
def SettlesOnce (key : Text) (roster : Roster) (steps : List Step) (rows : List Row) : Prop :=
  Still .loading rows ∨
    ∃ before step after early row late,
      steps = before ++ step :: after ∧ rows = early ++ row :: late ∧
      early.length = before.length ∧ Still .loading early ∧
      Settles key (before.foldl Roster.next roster) row ∧ Still row.preview.state late

/-- The entities that are asked for in rows. -/
def callsIn (rows : List Row) : List Call := rows.flatMap fun row => row.trace.calls

/-- The entity of a preview is asked for once or not at all, and not if it is of no kind. -/
def AsksOnce (p : Preview) (rows : List Row) : Prop :=
  callsIn rows = [] ∨ ∃ kind, p.kind? = some kind ∧ callsIn rows = [⟨kind, p.entity⟩]

/-- A step that unmounts the preview, or that cancels its lookup after a step has mounted it. -/
def Stops (before : List Step) (step : Step) : Prop :=
  step = .unmount ∨ step = .cancel ∧ .mount ∈ before

/-! ## Who is present -/

/-- Those who are present are numbered among those who are known, and no one is present twice. -/
structure Roster.Sound (roster : Roster) : Prop where
  numbered : ∀ listener ∈ roster.present, listener.number < roster.known.length
  nodup : roster.present.Nodup

/-- A roster stays sound behind every step. -/
theorem Roster.Sound.next {roster : Roster} (sound : roster.Sound) (step : Step) :
    (roster.next step).Sound := by
  cases step with
  | listen name =>
    have fresh : (⟨roster.known.length, name⟩ : Listener) ∉ roster.present :=
      fun mem => Nat.lt_irrefl _ (sound.numbered _ mem)
    refine ⟨fun listener mem => ?_, ?_⟩
    · rw [Roster.next, List.length_cons]
      rcases List.mem_append.mp mem with old | new
      · exact Nat.lt_succ_of_lt (sound.numbered listener old)
      · rw [List.mem_singleton.mp new]
        exact Nat.lt_succ_self _
    · refine List.nodup_append.mpr ⟨sound.nodup, List.pairwise_singleton _ _, ?_⟩
      rintro listener mem _ new rfl
      exact fresh (List.mem_singleton.mp new ▸ mem)
  | unlisten name =>
    rw [Roster.next]
    split
    · exact ⟨fun listener mem => sound.numbered listener (List.mem_of_mem_erase mem),
        sound.nodup.erase _⟩
    · exact sound
  | _ => exact sound

/-- The empty roster is sound. -/
theorem Roster.Sound.empty : ({} : Roster).Sound :=
  ⟨fun _ mem => absurd mem List.not_mem_nil, List.nodup_nil⟩

/-! ## Settling -/

/-- Rows are still if the first one is and the rest are. -/
theorem Still.cons {state : State} {row : Row} {rows : List Row}
    (first : row.preview.state = state ∧ row.trace.notices = []) (rest : Still state rows) :
    Still state (row :: rows) :=
  List.forall_mem_cons.mpr ⟨first, rest⟩

/-- No rows are still. -/
theorem Still.nil (state : State) : Still state [] := fun _ mem => absurd mem List.not_mem_nil

/-- A preview settles once if it is loading in the first row and settles once in the rest. -/
theorem SettlesOnce.cons {key : Text} {roster : Roster} {step : Step} {steps : List Step}
    {row : Row} {rows : List Row}
    (first : row.preview.state = .loading ∧ row.trace.notices = [])
    (rest : SettlesOnce key (roster.next step) steps rows) :
    SettlesOnce key roster (step :: steps) (row :: rows) := by
  rcases rest with
    still | ⟨before, turning, after, early, turn, late, rfl, rfl, length, still, rest⟩
  · exact .inl (still.cons first)
  · refine .inr ⟨step :: before, turning, after, row :: early, turn, late, rfl, rfl, ?_,
      still.cons first, rest⟩
    rw [List.length_cons, List.length_cons, length]

namespace Watch

variable {w : Watch} {p : Preview} {roster : Roster}

/-- A preview that has settled is still in the rows of all further steps. -/
theorem Between.still (between : w.Between p roster) (settled : p.state ≠ .loading)
    (steps : List Step) : Still p.state (w.rows steps) := by
  induction steps generalizing w p roster with
  | nil => exact .nil p.state
  | cons step steps ih =>
    obtain ⟨behind, follows⟩ := between.step step
    obtain ⟨state, silent⟩ := follows.of_settled settled
    have rest := ih behind (state ▸ settled)
    rw [state] at rest
    exact rest.cons ⟨state, silent⟩

/-- A preview that is loading settles once or not at all. -/
theorem Between.settlesOnce (between : w.Between p roster) (loading : p.state = .loading)
    (sound : roster.Sound) (steps : List Step) :
    SettlesOnce p.key roster steps (w.rows steps) := by
  induction steps generalizing w p roster with
  | nil => exact .inl (.nil .loading)
  | cons step steps ih =>
    obtain ⟨behind, follows⟩ := between.step step
    rw [rows_cons]
    rcases follows.state with same | ⟨-, live, settled⟩
    · have rest := ih behind (same.trans loading) (sound.next step)
      rw [follows.key] at rest
      exact rest.cons ⟨same.trans loading, follows.notices.trans (noticesOf_eq_nil same)⟩
    · refine .inr ⟨[], step, steps, [], _, _, rfl, rfl, rfl, .nil .loading, ?_,
        behind.still settled steps⟩
      refine ⟨settled, ?_, sound.nodup⟩
      rw [follows.notices, noticesOf_settled loading settled,
        between.present (follows.live live)]
      rfl

/-! ## Asking -/

/-- Nothing is asked for in the rows of any steps once it cannot be. -/
theorem Between.callsIn_of_cannot (between : w.Between p roster) (cannot : p.canAsk = false)
    (steps : List Step) : callsIn (w.rows steps) = [] := by
  induction steps generalizing w p roster with
  | nil => rfl
  | cons step steps ih =>
    obtain ⟨behind, follows⟩ := between.step step
    obtain ⟨none, cannotBehind⟩ := follows.of_cannot cannot
    rw [rows_cons, callsIn, List.flatMap_cons, none, List.nil_append]
    exact ih behind cannotBehind

/-- The entity of a preview is asked for at most once in the rows of any steps. -/
theorem Between.asksOnce (between : w.Between p roster) (steps : List Step) :
    AsksOnce p (w.rows steps) := by
  induction steps generalizing w p roster with
  | nil => exact .inl rfl
  | cons step steps ih =>
    obtain ⟨behind, follows⟩ := between.step step
    rw [AsksOnce, rows_cons, callsIn, List.flatMap_cons]
    rcases follows.calls with ⟨none, -⟩ | ⟨kind, known, one, -, cannot⟩
    · rw [none, List.nil_append]
      rcases ih behind with noneBehind | ⟨kind, known, one⟩
      · exact .inl noneBehind
      · exact .inr ⟨kind, by rw [← follows.kind?, known], by rw [← follows.entity, ← one]; rfl⟩
    · refine .inr ⟨kind, known, ?_⟩
      rw [one, show (rows _ steps).flatMap _ = [] from behind.callsIn_of_cannot cannot steps]
      rfl

/-- Once a preview has been mounted its lookup has begun, unless it was disposed of before. -/
theorem Between.begun {steps : List Step} (between : w.Between p roster)
    (begins : .mount ∈ steps ∨ p.lookup.isSome = true ∨ p.disposed = true) {q : Preview}
    {rosterBehind : Roster} (behind : (w.after steps).Between q rosterBehind) :
    q.lookup.isSome = true ∨ q.disposed = true := by
  induction steps generalizing w p roster with
  | nil =>
    have same : p = q := between.holds.preview.symm.trans behind.holds.preview
    exact same ▸ begins.resolve_left List.not_mem_nil
  | cons step steps ih =>
    obtain ⟨next, follows⟩ := between.step step
    refine ih next ?_ behind
    rcases begins with mem | here
    · rcases List.mem_cons.mp mem with rfl | later
      · exact .inr between.step_mount
      · exact .inl later
    · exact .inr (here.imp follows.begun follows.disposed)

/-- A step that stops a lookup asks for nothing, and nothing can be asked for behind it. -/
theorem Between.cannot_of_stops {before : List Step} {step : Step} (between : w.Between p roster)
    (stops : Stops before step) {q : Preview} {rosterBehind : Roster}
    (behind : (w.after before).Between q rosterBehind) :
    ((w.after before).step step).2.trace.calls = [] ∧
      ((w.after before).step step).2.preview.canAsk = false := by
  rcases stops with rfl | ⟨rfl, mounted⟩
  · rw [behind.step_unmount, canAsk, unmount_disposed]
    exact ⟨unmount_calls, rfl⟩
  · rw [behind.step_cancel]
    refine ⟨rfl, ?_⟩
    rcases between.begun (.inl mounted) behind with begun | disposed
    · exact canAsk_cancel begun
    · rw [canAsk, show q.cancel.disposed = true from disposed]
      rfl

/-- Behind a step that stops a lookup nothing more is asked for. -/
theorem Between.callsIn_of_stops {before : List Step} {step : Step} (between : w.Between p roster)
    (stops : Stops before step) (after : List Step) :
    callsIn (w.rows (before ++ step :: after)) = callsIn (w.rows before) := by
  obtain ⟨q, behind⟩ := between.after before
  obtain ⟨none, cannot⟩ := between.cannot_of_stops stops behind
  have rest := (behind.step step).1.callsIn_of_cannot cannot after
  rw [callsIn] at rest
  rw [rows_append, rows_cons, callsIn, List.flatMap_append, List.flatMap_cons, none, rest,
    List.append_nil, List.append_nil, callsIn]

/-! ## From a new preview on -/

/-- A preview settles once or not at all, whatever is done with it and whatever the store answers;
its entity is asked for once or not at all, and not at all if a step stops it before that. -/
theorem settles_and_asks_once (new : p.IsNew) (script : Script) (steps : List Step) :
    SettlesOnce p.key {} steps ((ofPreview script p).rows steps) ∧
      AsksOnce p ((ofPreview script p).rows steps) ∧
      ∀ before step after, steps = before ++ step :: after → Stops before step →
        callsIn ((ofPreview script p).rows before) = [] →
          callsIn ((ofPreview script p).rows steps) = [] := by
  have between := between_ofPreview new script
  refine ⟨between.settlesOnce new.loading .empty steps, between.asksOnce steps, ?_⟩
  rintro before step after rfl stops unasked
  rw [between.callsIn_of_stops stops after, unasked]

/-- Two listeners come, one of them leaves and comes back before replies are released, and another
one comes too late. -/
def comingAndLeaving : List Step :=
  [.listen ['a'], .mount, .mount, .listen ['b'], .tick, .unlisten ['a'], .listen ['a'], .release,
    .listen ['c'], .cancel, .wait, .unmount, .mount, .tick]

/-- The answer of the store is held back, and is not a record. -/
def heldBack : Script := .ofReplies [(⟨.arc, 1⟩, { held := true, outcome := .payload (.int 7) })]

/-- Two are told, in one step, and one who is cancelled in time does not ask. -/
theorem settles_and_asks_once_firstArc :
    firstArc.IsNew ∧
      SettlesOnce firstArc.key {} comingAndLeaving
        ((ofPreview heldBack firstArc).rows comingAndLeaving) ∧
      AsksOnce firstArc ((ofPreview heldBack firstArc).rows comingAndLeaving) ∧
      callsIn ((ofPreview heldBack firstArc).rows comingAndLeaving) = [⟨.arc, 1⟩] ∧
      ((ofPreview heldBack firstArc).rows comingAndLeaving).flatMap
          (fun row => row.trace.notices.map (·.listener)) = [⟨1, ['b']⟩, ⟨2, ['a']⟩] ∧
      Stops [.mount] .cancel ∧
      callsIn ((ofPreview heldBack firstArc).rows [.mount, .cancel, .tick]) = [] := by
  have stops : Stops [.mount] .cancel := .inr ⟨rfl, List.mem_singleton_self _⟩
  obtain ⟨settles, asks, -⟩ := settles_and_asks_once firstArc_isNew heldBack comingAndLeaving
  obtain ⟨-, -, stopped⟩ := settles_and_asks_once firstArc_isNew heldBack [.mount, .cancel, .tick]
  exact ⟨firstArc_isNew, settles, asks, by decide +kernel, by decide +kernel, stops,
    stopped [.mount] .cancel [.tick] rfl stops rfl⟩

end Watch

end Loremark.Preview
