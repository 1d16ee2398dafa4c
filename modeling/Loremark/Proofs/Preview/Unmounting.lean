import Loremark.Proofs.Preview.Watching

/-!
# Unmounting is final

Once a preview has been disposed of, from outside or by its own lookup in the middle of a step, it
is frozen: whatever is done with it, its state stays what it was, nobody is told of anything,
nothing is asked for, and mounting is refused.
-/

set_option autoImplicit false

namespace Loremark.Preview.Watch

variable {w : Watch} {p : Preview} {roster : Roster}

/-- A watch over a preview that does not change any more, whichever step comes next. -/
structure Frozen (w : Watch) (state : State) : Prop where
  kept : ∀ step, (w.step step).2.preview.state = state
  untold : ∀ step, (w.step step).2.trace.notices = []
  unasked : ∀ step, (w.step step).2.trace.calls = []
  unmount : w.step .unmount = (w, ⟨.nothing, w.preview, {}⟩)
  mount : w.step .mount = (w, ⟨.refused ⟨w.preview.key⟩, w.preview, {}⟩)
  /-- A wait comes to an end, and is answered with the state. -/
  wait : (w.step .wait).2.answer = .state state ∧ (w.step .wait).2.preview.isInFlight = false

/-- A step that leaves the watch as it is has a row without notices. -/
theorem step_of_idle {step : Step} {answer : Answer} (holds : w.Holds p {})
    (idle : w.act step = (w, answer)) : w.step step = (w, ⟨answer, w.preview, {}⟩) := by
  obtain ⟨⟨previews, due, held, released, script, trace⟩, registered⟩ := w
  obtain rfl : trace = {} := holds.noted
  rw [Watch.step, idle]
  rfl

/-- Unmounting does nothing to a preview that has been disposed of. -/
theorem act_unmount_of_disposed (holds : w.Holds p {}) (disposed : p.disposed = true) :
    w.act .unmount = (w, .nothing) := by
  have idle : p.unmount = (p, {}) := by rw [Preview.unmount, if_pos disposed]
  have same : w.session.unmount 0 = w.session := by
    rw [Session.unmount_eq holds.there, idle, isHeld_and_hasTurn, holds.single,
      Trace.append_empty, if_neg Bool.false_ne_true, List.append_nil]
    exact congrArg (fun previews => { w.session with previews }) holds.single.symm
  rw [act, same]

/-- Behind a wait no lookup is under way, and the answer is the state of a preview that has been
disposed of. -/
theorem Between.step_wait (between : w.Between p roster) :
    (w.step .wait).2.preview.isInFlight = false ∧
      ((w.step .wait).2.preview.disposed = true →
        (w.step .wait).2.answer = .state (w.step .wait).2.preview.state) := by
  obtain ⟨q, trace, -, held, finished, answer⟩ := act_wait between.holds between.coherent
  obtain ⟨-, -, row⟩ := step_of_act held
  rw [row]
  exact ⟨finished, answer⟩

/-- A watch over a preview that has been disposed of is frozen. -/
theorem Between.frozen (between : w.Between p roster) (disposed : p.disposed = true) :
    w.Frozen p.state := by
  have kept (step : Step) := (between.step step).2.of_disposed
    ((between.step step).2.disposed disposed)
  have cannot : p.canAsk = false := by rw [canAsk, disposed]; rfl
  obtain ⟨finished, answer⟩ := between.step_wait
  refine {
    kept := fun step => (kept step).1
    untold := fun step => (kept step).2
    unasked := fun step => ((between.step step).2.of_cannot cannot).1
    unmount := step_of_idle between.holds (act_unmount_of_disposed between.holds disposed)
    mount := ?_
    wait := ⟨?_, finished⟩ }
  · have refused := act_mount_of_disposed between.holds disposed
    rw [← between.holds.preview] at refused
    exact step_of_idle between.holds refused
  · rw [answer ((between.step .wait).2.disposed disposed), (kept .wait).1]

/-- A watch over a preview that has been disposed of is frozen behind any steps. -/
theorem Between.frozen_after (between : w.Between p roster) (disposed : p.disposed = true)
    (steps : List Step) : (w.after steps).Frozen p.state := by
  induction steps generalizing w p roster with
  | nil => exact between.frozen disposed
  | cons step steps ih =>
    obtain ⟨behind, follows⟩ := between.step step
    have disposedBehind := follows.disposed disposed
    have frozen := ih behind disposedBehind
    rw [(follows.of_disposed disposedBehind).1] at frozen
    exact frozen

/-- In a step by whose end the preview has been disposed of its state stays what it was and nobody
is told, and from there on it is frozen. -/
theorem unmounted_for_good (new : p.IsNew) (script : Script) (before : List Step) (step : Step) :
    let w := (ofPreview script p).after before
    let row := (w.step step).2
    (step = .unmount → row.preview.disposed = true ∧ row.trace.calls = []) ∧
      (row.preview.disposed = true →
        row.preview.state = w.preview.state ∧ row.trace.notices = [] ∧
        (step = .wait → row.answer = .state w.preview.state) ∧
        ∀ after, ((w.step step).1.after after).Frozen w.preview.state) := by
  obtain ⟨q, between⟩ := between_after new script before
  obtain ⟨behind, follows⟩ := between.step step
  intro w row
  refine ⟨?_, fun disposed => ?_⟩
  · rintro rfl
    rw [show row = _ from between.step_unmount]
    exact ⟨unmount_disposed, unmount_calls⟩
  · obtain ⟨state, silent⟩ := follows.of_disposed disposed
    rw [show w.preview.state = q.state by rw [between.holds.preview]]
    refine ⟨state, silent, ?_, fun after => ?_⟩
    · rintro rfl
      rw [← state]
      exact between.step_wait.2 disposed
    · rw [← state]
      exact behind.frozen_after disposed after

/-- The lookup of the first arc unmounts its preview before it ends. -/
def unmounting : Script :=
  .ofReplies [(⟨.arc, 1⟩, { unmounts := true, outcome := .payload (.int 7) })]

/-- The lookup of the first arc is held back, and goes on although it has been cancelled. -/
def persisting : Script :=
  .ofReplies [(⟨.arc, 1⟩, { held := true, persists := true, outcome := .payload (.int 7) })]

/-- A preview that its own lookup unmounts in a wait is frozen from there on, and so is one that is
unmounted from outside while its lookup goes on. -/
theorem unmounted_for_good_firstArc :
    let w := (ofPreview unmounting firstArc).after [.listen ['a'], .mount]
    let v := (ofPreview persisting firstArc).after [.listen ['a'], .mount, .tick]
    firstArc.IsNew ∧
      ((w.step .wait).2.trace.calls = [⟨.arc, 1⟩] ∧ (w.step .wait).2.trace.notices = [] ∧
        (w.step .wait).2.preview.disposed = true ∧
        (w.step .wait).2.answer = .state w.preview.state ∧
        ∀ after, ((w.step .wait).1.after after).Frozen w.preview.state) ∧
      (v.step .unmount).2.preview.disposed = true ∧
      (v.step .unmount).2.preview.isInFlight = true ∧
      ∀ after, ((v.step .unmount).1.after after).Frozen v.preview.state := by
  have ended := (unmounted_for_good firstArc_isNew unmounting [.listen ['a'], .mount] .wait).2 rfl
  obtain ⟨-, silent, answer, frozen⟩ := ended
  obtain ⟨unmounts, goes⟩ :=
    unmounted_for_good firstArc_isNew persisting [.listen ['a'], .mount, .tick] .unmount
  obtain ⟨disposed, -⟩ := unmounts rfl
  obtain ⟨-, -, -, frozenToo⟩ := goes disposed
  exact ⟨firstArc_isNew, ⟨rfl, silent, rfl, answer rfl, frozen⟩, disposed, rfl, frozenToo⟩

end Loremark.Preview.Watch
