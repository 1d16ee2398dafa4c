import Loremark.Preview.Watch
import Loremark.Proofs.Preview.Turns
import Loremark.Proofs.Results

/-!
# Steps of a watched preview

Every step of a watch takes the preview on, and the listeners of a preview that has not been
unmounted are those that have come and not left (`Watch.Between.step`). Both are carried along a
run: the rows of a run are those of its first steps and then those of the rest
(`Watch.rows_append`).
-/

set_option autoImplicit false

namespace Loremark.Preview

/-- Whether a listener comes or leaves in a step. -/
def Step.isRollCall : Step → Bool
  | .listen _ | .unlisten _ => true
  | _ => false

/-- Who has ever come, latest first, and who of them has not left. -/
structure Roster where
  known : List Listener := []
  present : List Listener := []
  deriving DecidableEq, Repr, Inhabited

/-- The roster behind a step: listeners are numbered in the order in which they come, and the one
who leaves is the latest of a name. -/
def Roster.next (roster : Roster) : Step → Roster
  | .listen name =>
    let listener : Listener := ⟨roster.known.length, name⟩
    ⟨listener :: roster.known, roster.present ++ [listener]⟩
  | .unlisten name =>
    match roster.known.find? fun listener => listener.name == name with
    | some listener => { roster with present := roster.present.erase listener }
    | none => roster
  | _ => roster

/-- The roster behind steps. -/
def Roster.of (steps : List Step) : Roster := steps.foldl Roster.next {}

/-- A preview that has just been made. -/
structure IsNew (p : Preview) : Prop where
  loading : p.state = .loading
  unmounted : p.lookup = none
  live : p.disposed = false
  silent : p.listeners = []

/-- A preview that is made of an entity is new, whichever key it is given. -/
theorem isNew_of_ofEntity {p : Preview} {kindName : Text} {entity : Int} {label : Option Text}
    {mode : Mode} {options : Entity.CardOptions} {key : Option Text}
    (made : ofEntity kindName entity label mode options key = .ok p) : p.IsNew := by
  obtain ⟨key, -, made⟩ := bind_eq_ok_iff.mp made
  cases made
  exact ⟨rfl, rfl, rfl, rfl⟩

/-- A preview of the first arc. -/
def firstArc : Preview := { kindName := "arc".toList, entity := 1, key := "arc-1".toList }

/-- The preview of the first arc has just been made. -/
theorem firstArc_isNew : firstArc.IsNew := ⟨rfl, rfl, rfl, rfl⟩

example : ofEntity "arc".toList 1 none .inline {} none = .ok firstArc := rfl

namespace Watch

variable {w : Watch} {p q : Preview} {trace : Trace}

/-- The watch behind steps. -/
def after (w : Watch) (steps : List Step) : Watch :=
  steps.foldl (fun w step => (w.step step).1) w

/-- The rows of steps begin with that of the first one. -/
theorem rows_cons (step : Step) (steps : List Step) :
    w.rows (step :: steps) = (w.step step).2 :: (w.step step).1.rows steps := rfl

/-- The rows of a run are those of its first steps and then those of the rest. -/
theorem rows_append (steps more : List Step) :
    w.rows (steps ++ more) = w.rows steps ++ (w.after steps).rows more := by
  induction steps generalizing w with
  | nil => rfl
  | cons step steps ih => exact congrArg ((w.step step).2 :: ·) ih

/-- A watch over a preview, with what has been done since the last row. -/
structure Holds (w : Watch) (p : Preview) (trace : Trace) : Prop where
  single : w.session.previews = [p]
  noted : w.session.trace = trace
  queued : w.session.Queued w.session.due

/-- The preview of a watch stands at the front of its session. -/
theorem Holds.there (holds : w.Holds p trace) : w.session.previews[0]? = some p := by
  rw [holds.single]
  rfl

/-- The preview of a watch is the one that it holds. -/
theorem Holds.preview (holds : w.Holds p trace) : w.preview = p := by
  rw [Watch.preview, holds.single]
  rfl

/-- A preview put in place of another one whose lookup waits in the same queues, or has been given a
turn. -/
theorem Holds.put (holds : w.Holds p {}) {more : List Nat}
    (turn : hasTurn q = true → hasTurn p = true ∨ 0 ∈ more)
    (held : isHeld q = true → isHeld p = true) {v : Watch}
    (session : v.session = { w.session with
      previews := w.session.previews.set 0 q, due := w.session.due ++ more, trace }) :
    v.Holds q trace where
  single := by
    rw [session, holds.single]
    rfl
  noted := by rw [session]
  queued := by
    have waits (coming : hasTurn q = true) : 0 ∈ w.session.due ++ more :=
      List.mem_append.mpr ((turn coming).imp_left (holds.queued.due holds.there))
    have queued := holds.queued.set holds.there waits held (t := v.session) (by rw [session])
      (by rw [session])
    rw [session] at queued ⊢
    exact queued

/-- A watch may hold another preview in place of its own, if that has no more to do. -/
theorem Holds.setPreview (holds : w.Holds p {}) (turn : hasTurn q = true → hasTurn p = true)
    (held : isHeld q = true → isHeld p = true) : (w.setPreview q).Holds q {} := by
  have session : (w.setPreview q).session = { w.session with
      previews := w.session.previews.set 0 q, due := w.session.due ++ [], trace := {} } := by
    rw [← holds.noted, List.append_nil]
    rfl
  exact holds.put (fun coming => .inl (turn coming)) held session

/-- A lookup that is told to stop has a turn coming, which it is given if its reply was held
back. -/
theorem hasTurn_or_mem_of_cancel (coming : hasTurn p.cancel = true) :
    hasTurn p = true ∨ 0 ∈ if isHeld p && hasTurn p.cancel then [0] else [] := by
  refine (hasTurn_cancel coming).imp_right fun held => ?_
  rw [held, coming]
  exact List.mem_singleton_self 0

/-! ## Acts -/

/-- Mounting is refused for a preview that has been disposed of. -/
theorem act_mount_of_disposed (holds : w.Holds p trace) (disposed : p.disposed = true) :
    w.act .mount = (w, .refused ⟨p.key⟩) := by
  rw [act, Session.mount_eq holds.there, mount_of_disposed disposed]
  rfl

/-- Mounting takes the preview on, and its lookup has begun behind it unless it was disposed of. -/
theorem act_mount (holds : w.Holds p {}) (coherent : p.Coherent) :
    ∃ q, p.Advances {} q ∧ (w.act .mount).1.Holds q {} ∧
      (q.lookup.isSome = true ∨ q.disposed = true) := by
  cases disposed : p.disposed with
  | true =>
    rw [act_mount_of_disposed holds disposed]
    exact ⟨p, .refl coherent, holds, .inr disposed⟩
  | false =>
    refine ⟨_, begin_advances coherent disposed, ?_, .inl rfl⟩
    rw [act, Session.mount_eq holds.there, mount_of_live disposed]
    exact {
      single := by
        simp only [Except.map, holds.single]
        rfl
      noted := holds.noted
      queued := by
        refine holds.queued.set holds.there (fun coming => ?_) (fun held => ?_) rfl rfl
        · cases lookup : p.lookup with
          | none => simp
          | some stage =>
            rw [hasTurn, lookup] at coming
            refine List.mem_append_left _ (holds.queued.due holds.there ?_)
            rw [hasTurn, lookup]
            exact coming
        · cases lookup : p.lookup with
          | none => rw [isHeld, lookup] at held; cases held
          | some stage =>
            rw [isHeld, lookup] at held
            rw [isHeld, lookup]
            exact held }

/-- Behind the step that unmounts, the watch holds the unmounted preview. -/
theorem act_unmount (holds : w.Holds p {}) :
    (w.act .unmount).1.Holds p.unmount.1 p.unmount.2 := by
  have session : (w.act .unmount).1.session = { w.session with
      previews := w.session.previews.set 0 p.unmount.1
      due := w.session.due ++ if isHeld p && hasTurn p.unmount.1 then [0] else []
      trace := p.unmount.2 } := by
    rw [act, Session.unmount_eq holds.there, holds.noted, Trace.empty_append]
  cases disposed : p.disposed with
  | true =>
    have idle : p.unmount.1 = p := by simp [Preview.unmount, disposed]
    exact holds.put (by rw [idle]; exact .inl) (by rw [idle]; exact id) session
  | false =>
    refine holds.put ?_ ?_ session <;> rw [unmount_eq disposed]
    · exact hasTurn_or_mem_of_cancel
    · exact isHeld_cancel

/-- Behind the step that cancels, the watch holds the cancelled preview. -/
theorem act_cancel (holds : w.Holds p {}) : (w.act .cancel).1.Holds p.cancel {} := by
  refine holds.put hasTurn_or_mem_of_cancel isHeld_cancel ?_
  rw [act, Session.cancel_eq holds.there, ← holds.noted]

/-- Turns take the preview of a watch on, and leave it alone if no lookup is under way. -/
theorem holds_run (holds : w.Holds p trace) (coherent : p.Coherent) :
    ∃ q later, p.Advances later q ∧ (p.isInFlight = false → q = p) ∧
      ({ w with session := w.session.run } : Watch).Holds q (trace ++ later) := by
  obtain ⟨q, later, single, noted, advances, idle⟩ := Session.run_single holds.single coherent
  exact ⟨q, later, advances, idle, single, by rw [noted, holds.noted], holds.queued.run⟩

/-- Releasing replies leaves the preview of a watch alone. -/
theorem holds_release (holds : w.Holds p trace) :
    ({ w with session := w.session.release } : Watch).Holds p trace where
  single := holds.single
  noted := holds.noted
  queued := holds.queued.release

/-- After a run a lookup that is under way is held back. -/
theorem isInFlight_of_not_isHeld (holds : w.Holds p trace) (idle : w.session.due = [])
    (free : isHeld p = false) : p.isInFlight = false := by
  rw [Bool.eq_false_iff, Ne, isInFlight_iff]
  rintro (due | held)
  · have waits := holds.queued.due holds.there due
    rw [idle] at waits
    cases waits
  · rw [free] at held
    cases held

/-- The watch behind a wait for a lookup that has begun. -/
def waited (w : Watch) : Watch :=
  let v : Watch := { w with session := w.session.run }
  if isHeld v.preview then { v with session := v.session.release.run } else v

/-- A wait for a lookup that has begun ends behind the turns that it takes. -/
theorem wait_fst (begun : w.preview.lookup.isNone = false) : w.wait.1 = w.waited := by
  rw [wait, if_neg (by simp [begun])]
  dsimp only
  split <;> rfl

/-- A wait for a preview that is disposed of meanwhile answers its state. -/
theorem wait_snd (begun : w.preview.lookup.isNone = false)
    (disposed : w.waited.preview.disposed = true) :
    w.wait.2 = .state w.waited.preview.state := by
  rw [wait, if_neg (by simp [begun])]
  dsimp only
  split
  · rename_i live
    exact absurd (disposed.symm.trans live) (by simp)
  · rfl

/-- A wait takes the preview on until no lookup is under way. -/
theorem holds_waited (holds : w.Holds p {}) (coherent : p.Coherent) :
    ∃ q trace, p.Advances trace q ∧ w.waited.Holds q trace ∧ q.isInFlight = false := by
  obtain ⟨q, trace, advances, -, ran⟩ := holds_run holds coherent
  rw [waited]
  dsimp only
  rw [ran.preview]
  split
  · obtain ⟨r, later, further, idle, finished⟩ :=
      holds_run (holds_release ran) advances.coherent
    have kept : q.state = p.state ∨ r.disposed = q.disposed :=
      advances.same_or_over.imp_right fun finished => by rw [idle finished]
    refine ⟨r, trace ++ later, advances.trans further kept, finished, ?_⟩
    refine Session.isInFlight_run_release (s := w.session.run) ?_ ran.queued r ?_
    · intro r mem
      rw [ran.single, List.mem_singleton] at mem
      exact mem ▸ advances.coherent
    · rw [show w.session.run.release.run.previews = [r] from finished.single]
      exact List.mem_singleton_self r
  · rename_i free
    rw [Bool.not_eq_true] at free
    exact ⟨q, trace, advances, ran, isInFlight_of_not_isHeld ran Session.run_due free⟩

/-- Waiting goes on until no lookup is under way, and is answered with the state once the preview
has been disposed of. -/
theorem act_wait (holds : w.Holds p {}) (coherent : p.Coherent) :
    ∃ q trace, p.Advances trace q ∧ (w.act .wait).1.Holds q trace ∧ q.isInFlight = false ∧
      (q.disposed = true → (w.act .wait).2 = .state q.state) := by
  cases begun : w.preview.lookup.isNone with
  | true =>
    have idle : w.act .wait = (w, .state w.preview.state) := by rw [act, wait, if_pos begun]
    rw [holds.preview, Option.isNone_iff_eq_none] at begun
    rw [idle, holds.preview]
    exact ⟨p, {}, .refl coherent, holds, by simp [isInFlight, begun], fun _ => rfl⟩
  | false =>
    obtain ⟨q, trace, advances, waited, finished⟩ := holds_waited holds coherent
    rw [act, wait_fst begun]
    refine ⟨q, trace, advances, waited, finished, fun disposed => ?_⟩
    rw [wait_snd begun (by rw [waited.preview, disposed]), waited.preview]

/-- A step in which no listener comes or leaves. -/
theorem act_advances (holds : w.Holds p {}) (coherent : p.Coherent) {step : Step}
    (stays : step.isRollCall = false) :
    ∃ q trace, p.Advances trace q ∧ (w.act step).1.Holds q trace := by
  cases step with
  | mount =>
    obtain ⟨q, advances, held, -⟩ := act_mount holds coherent
    exact ⟨q, {}, advances, held⟩
  | unmount => exact ⟨_, _, unmount_advances coherent, act_unmount holds⟩
  | tick =>
    obtain ⟨q, trace, advances, -, ran⟩ := holds_run holds coherent
    exact ⟨q, trace, advances, ran⟩
  | release =>
    obtain ⟨q, trace, advances, -, ran⟩ := holds_run (holds_release holds) coherent
    exact ⟨q, trace, advances, ran⟩
  | cancel => exact ⟨_, {}, cancel_advances coherent, act_cancel holds⟩
  | wait =>
    obtain ⟨q, trace, advances, held, -, -⟩ := act_wait holds coherent
    exact ⟨q, trace, advances, held⟩
  | listen name => cases stays
  | unlisten name => cases stays
  | render => exact ⟨p, {}, .refl coherent, holds⟩

/-- Listeners may come and leave while a preview stays as it is. -/
theorem follows_listeners (coherent : p.Coherent) (listeners : List Listener) :
    p.Follows {} { p with listeners } where
  coherent := ⟨coherent.disposed_not_due, coherent.ended_or_loading, coherent.kind_of_held⟩
  same := rfl
  disposed := id
  begun := id
  state := .inl rfl
  notices := (noticesOf_eq_nil rfl).symm
  calls := .inl ⟨rfl, id⟩

/-- The step by which a listener comes registers it under a new number. -/
theorem act_listen (holds : w.Holds p {}) (name : Text) :
    (w.act (.listen name)).1.Holds (p.listen ⟨w.registered.length, name⟩) {} ∧
      (w.act (.listen name)).1.registered = ⟨w.registered.length, name⟩ :: w.registered := by
  rw [act, holds.preview]
  have put : (w.setPreview (p.listen ⟨w.registered.length, name⟩)).Holds _ {} :=
    holds.setPreview id id
  exact ⟨⟨put.single, put.noted, put.queued⟩, rfl⟩

/-- The step by which a listener leaves takes the latest one of the name, and none if there is none.
-/
theorem act_unlisten (holds : w.Holds p {}) (name : Text) :
    ∃ q, (q = p ∧ (w.registered.find? fun listener => listener.name == name) = none ∨
        ∃ listener, (w.registered.find? fun listener => listener.name == name) = some listener ∧
          q = p.unlisten listener) ∧
      (w.act (.unlisten name)).1.Holds q {} ∧
      (w.act (.unlisten name)).1.registered = w.registered := by
  rw [act]
  cases found : w.registered.find? fun listener => listener.name == name with
  | none => exact ⟨p, .inl ⟨rfl, rfl⟩, holds, rfl⟩
  | some listener =>
    dsimp only
    rw [holds.preview]
    exact ⟨_, .inr ⟨listener, rfl, rfl⟩, holds.setPreview id id, rfl⟩

/-- Only listeners who come change who is registered. -/
theorem act_registered {step : Step} (stays : step.isRollCall = false) :
    (w.act step).1.registered = w.registered := by
  cases step with
  | mount =>
    rw [act]
    split <;> rfl
  | wait =>
    rw [act, wait]
    split
    · rfl
    · dsimp only
      split <;> split <;> rfl
  | listen name => cases stays
  | unlisten name => cases stays
  | _ => rfl

/-! ## Steps -/

/-- A watch between two steps: its preview, and who has come and not left. -/
structure Between (w : Watch) (p : Preview) (roster : Roster) : Prop where
  holds : w.Holds p {}
  coherent : p.Coherent
  known : w.registered = roster.known
  present : p.disposed = false → p.listeners = roster.present

/-- The row of a step tells of the preview behind the act and of what has been done in it. -/
theorem step_of_act {step : Step} (held : (w.act step).1.Holds q trace) :
    (w.step step).1.Holds q {} ∧
      (w.step step).1.registered = (w.act step).1.registered ∧
      (w.step step).2 = ⟨(w.act step).2, q, trace⟩ := by
  refine ⟨⟨held.single, rfl, held.queued.due, held.queued.held⟩, rfl, ?_⟩
  have preview : (w.step step).1.preview = q := by
    rw [Watch.preview, show (w.step step).1.session.previews = [q] from held.single]
    rfl
  rw [← preview, ← held.noted]
  rfl

/-- A step takes the preview on, and the roster with it. -/
theorem Between.step {roster : Roster} (between : w.Between p roster) (step : Step) :
    (w.step step).1.Between (w.step step).2.preview (roster.next step) ∧
      p.Follows (w.step step).2.trace (w.step step).2.preview := by
  obtain ⟨holds, coherent, known, present⟩ := between
  -- Only a listener that comes or goes changes the roster.
  cases stays : step.isRollCall with
  | false =>
    obtain ⟨q, trace, advances, held⟩ := act_advances holds coherent stays
    obtain ⟨holdsBehind, registered, row⟩ := step_of_act held
    have same : roster.next step = roster := by
      cases step <;> first | rfl | cases stays
    rw [row, same]
    refine ⟨⟨holdsBehind, advances.coherent, ?_, fun live => ?_⟩, advances.toFollows⟩
    · rw [registered, act_registered stays, known]
    · have before : p.disposed = false := by
        rw [Bool.eq_false_iff]
        intro disposed
        rw [advances.disposed disposed] at live
        cases live
      rw [advances.listeners live, present before]
  | true =>
    cases step with
    | listen name =>
      obtain ⟨held, registered⟩ := act_listen holds name
      obtain ⟨holdsBehind, same, row⟩ := step_of_act held
      have follows := follows_listeners coherent (p.listeners ++ [⟨w.registered.length, name⟩])
      rw [row]
      refine ⟨⟨holdsBehind, follows.coherent, ?_, fun live => ?_⟩, follows⟩
      · rw [same, registered, known]
        rfl
      · rw [Preview.listen, present live, known]
        rfl
    | unlisten name =>
      obtain ⟨q, left, held, registered⟩ := act_unlisten holds name
      obtain ⟨holdsBehind, same, row⟩ := step_of_act held
      rw [row]
      rcases left with ⟨rfl, absent⟩ | ⟨listener, found, rfl⟩
      · rw [known] at absent
        refine ⟨⟨holdsBehind, coherent, ?_, fun live => ?_⟩, (Advances.refl coherent).toFollows⟩
        · simp only [same, registered, known, Roster.next, absent]
        · simp only [present live, Roster.next, absent]
      · rw [known] at found
        have follows := follows_listeners coherent (p.listeners.erase listener)
        refine ⟨⟨holdsBehind, follows.coherent, ?_, fun live => ?_⟩, follows⟩
        · simp only [same, registered, known, Roster.next, found]
        · simp only [Preview.unlisten, present live, Roster.next, found]
    | _ => cases stays

/-- The row of the step that unmounts shows the unmounted preview. -/
theorem Between.step_unmount {roster : Roster} (between : w.Between p roster) :
    (w.step .unmount).2 = ⟨.nothing, p.unmount.1, p.unmount.2⟩ :=
  (step_of_act (act_unmount between.holds)).2.2

/-- The row of the step that cancels shows the cancelled preview, and nobody is told. -/
theorem Between.step_cancel {roster : Roster} (between : w.Between p roster) :
    (w.step .cancel).2 = ⟨.nothing, p.cancel, {}⟩ :=
  (step_of_act (act_cancel between.holds)).2.2

/-- Behind the step that mounts, the lookup has begun or the preview has been disposed of. -/
theorem Between.step_mount {roster : Roster} (between : w.Between p roster) :
    (w.step .mount).2.preview.lookup.isSome = true ∨
      (w.step .mount).2.preview.disposed = true := by
  obtain ⟨q, -, held, begun⟩ := act_mount between.holds between.coherent
  obtain ⟨-, -, row⟩ := step_of_act held
  rw [row]
  exact begun

/-- Behind any steps a watch is between two steps again, with the roster that they leave. -/
theorem Between.after {roster : Roster} (between : w.Between p roster) (steps : List Step) :
    ∃ q, (w.after steps).Between q (steps.foldl Roster.next roster) := by
  induction steps generalizing w p roster with
  | nil => exact ⟨p, between⟩
  | cons step steps ih => exact ih (between.step step).1

/-- A watch over a preview that has just been made is between two steps. -/
theorem between_ofPreview (new : p.IsNew) (script : Script) :
    (ofPreview script p).Between p {} where
  holds := {
    single := rfl
    noted := rfl
    queued := by
      refine ⟨fun {n q} found turn => ?_, fun {n q} found held => ?_⟩
      · obtain ⟨-, rfl⟩ : n = 0 ∧ p = q := by
          simpa [ofPreview, List.getElem?_cons] using found
        rw [hasTurn, new.unmounted] at turn
        cases turn
      · obtain ⟨-, rfl⟩ : n = 0 ∧ p = q := by
          simpa [ofPreview, List.getElem?_cons] using found
        rw [isHeld, new.unmounted] at held
        cases held }
  coherent := {
    disposed_not_due := fun _ due => by rw [new.unmounted] at due; cases due
    ended_or_loading := .inr new.loading
    kind_of_held := fun held => by rw [isHeld, new.unmounted] at held; cases held }
  known := rfl
  present := fun _ => new.silent

/-- Behind any steps a watch over a preview that has just been made is between two steps. -/
theorem between_after (new : p.IsNew) (script : Script) (steps : List Step) :
    ∃ q, ((ofPreview script p).after steps).Between q (Roster.of steps) :=
  (between_ofPreview new script).after steps

end Watch

end Loremark.Preview
