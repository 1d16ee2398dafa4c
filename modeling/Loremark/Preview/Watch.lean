import Loremark.Preview.Session

/-!
# Watching a preview

One preview in a session of its own, and the steps that can be taken with it: from outside, by the
turns of its lookup, and by listeners that come and go. Every step has an answer, and a row tells
what was done in it.
-/

set_option autoImplicit false

namespace Loremark.Preview

/-- A preview that is watched, with the listeners that it has ever had, latest first. -/
structure Watch where
  session : Session
  registered : List Listener := []
  deriving Inhabited

/-- What can be done with a preview. -/
inductive Step where
  | mount
  | unmount
  /-- Lookups that are due take their turns. -/
  | tick
  /-- Replies that are held back go on. -/
  | release
  /-- The lookup is cancelled from outside. -/
  | cancel
  /-- The end of the lookup is waited for; a reply that is held back goes on. -/
  | wait
  | listen (name : Text)
  /-- The listener who registered last under a name leaves. -/
  | unlisten (name : Text)
  | render
  deriving DecidableEq, Repr, Inhabited

/-- What a step gives back. -/
inductive Answer where
  | nothing
  | mounted
  | state (state : State)
  | markup (markup : Html.Markup)
  | refused (cause : Unmounted)
  | cancelled
  | unknownListener (name : Text)
  deriving Inhabited

/-- A step that has been taken: its answer, the preview after it, and what was done. -/
structure Row where
  answer : Answer
  preview : Preview
  trace : Trace
  deriving Inhabited

namespace Watch

/-- The watch over a preview. -/
def ofPreview (script : Script) (p : Preview) : Watch := ⟨{ previews := [p], script }, []⟩

/-- The preview that is watched. -/
def preview (w : Watch) : Preview := w.session.previews.headD default

/-- The preview that is watched, put in place of the one that is there. -/
def setPreview (w : Watch) (p : Preview) : Watch :=
  { w with session := w.session.setPreview 0 p }

/-- Waits for the end of the lookup. A lookup that was cancelled is told of only while the preview
has not been disposed of. -/
def wait (w : Watch) : Watch × Answer :=
  if w.preview.lookup.isNone then (w, .state w.preview.state)
  else
    let w := { w with session := w.session.run }
    let w := if isHeld w.preview then { w with session := w.session.release.run } else w
    match w.preview.lookup, w.preview.disposed with
    | some .cancelled, false => (w, .cancelled)
    | _, _ => (w, .state w.preview.state)

/-- Takes a step. -/
def act (w : Watch) : Step → Watch × Answer
  | .mount =>
    match w.session.mount 0 with
    | .ok session => ({ w with session }, .mounted)
    | .error cause => (w, .refused cause)
  | .unmount => ({ w with session := w.session.unmount 0 }, .nothing)
  | .tick => ({ w with session := w.session.run }, .nothing)
  | .release => ({ w with session := w.session.release.run }, .nothing)
  | .cancel => ({ w with session := w.session.cancel 0 }, .nothing)
  | .wait => w.wait
  | .listen name =>
    let listener : Listener := ⟨w.registered.length, name⟩
    ({ w.setPreview (w.preview.listen listener) with registered := listener :: w.registered },
      .nothing)
  | .unlisten name =>
    match w.registered.find? fun listener => listener.name == name with
    | some listener => (w.setPreview (w.preview.unlisten listener), .nothing)
    | none => (w, .unknownListener name)
  | .render => (w, .markup w.preview.markup)

/-- Takes a step, and tells what was done in it. -/
def step (w : Watch) (step : Step) : Watch × Row :=
  let (w, answer) := w.act step
  let (trace, session) := w.session.takeTrace
  let w := { w with session }
  (w, ⟨answer, w.preview, trace⟩)

/-- The rows of a list of steps. -/
def rows (w : Watch) : List Step → List Row
  | [] => []
  | step :: steps =>
    let (w, row) := w.step step
    row :: w.rows steps

end Watch

end Loremark.Preview
