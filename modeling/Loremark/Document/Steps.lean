import Loremark.Document.Basic

/-!
# Steps of a document

What can be done with a document, one step after another, with the rows that tell what was done in
each step and how the document stood after it.
-/

set_option autoImplicit false

namespace Loremark.Document

/-- What can be done with a document. -/
inductive Step where
  | mountAll
  | unmountAll
  /-- Lookups that are due take their turns. -/
  | tick
  /-- Replies that are held back go on. -/
  | release
  | resolveAll
  | update (content : Option Text) (embedsEnabled : Option Bool)
  | listen (name : Text)
  | html
  deriving DecidableEq, Repr, Inhabited

/-- What a step gives back. -/
inductive Answer where
  | nothing
  | count (n : Nat)
  | states (states : List (Text × Preview.State))
  | html (text : Text)
  | unmounted (cause : Preview.Unmounted)
  | unbuilt (cause : Tree.BuildError)
  | unknown (cause : Tree.UnknownKind)

/-- A listener of the document is told that a preview has a new state. -/
structure Notice where
  listener : Text
  key : Text
  state : Preview.State
  deriving Inhabited

/-- A step that has been taken: its answer, the document after it, and what was done. -/
structure Row where
  answer : Answer
  document : Document
  calls : List Preview.Call
  notices : List Notice
  events : List Log.Event

/-- What the listeners of the document are told when its previews tell the document. -/
def passOn (listeners : List Text) (notices : List Preview.Notice) : List Notice :=
  notices.flatMap fun notice =>
    listeners.map fun listener => ⟨listener, notice.key, notice.state⟩

/-- Takes a step. -/
def act (d : Document) : Step → Document × Answer
  | .mountAll =>
    match d.mountAll with
    | (d, .ok n) => (d, .count n)
    | (d, .error cause) => (d, .unmounted cause)
  | .unmountAll => (d.unmountAll, .nothing)
  | .tick => (d.run, .nothing)
  | .release => (d.release.run, .nothing)
  | .resolveAll =>
    match d.resolveAll with
    | (d, .ok states) => (d, .states states)
    | (d, .error cause) => (d, .unmounted cause)
  | .update content embedsEnabled =>
    match d.update content embedsEnabled with
    | (d, .ok n) => (d, .count n)
    | (d, .error (.render cause)) => (d, .unbuilt cause)
    | (d, .error (.mount cause)) => (d, .unmounted cause)
  | .listen name => ({ d with listeners := d.listeners ++ [name] }, .nothing)
  | .html =>
    match d.html with
    | (d, .ok text) => (d, .html text)
    | (d, .error cause) => (d, .unknown cause)

/-- The row of what has been done since the last one. -/
def row (d : Document) (answer : Answer) : Document × Row :=
  let (trace, session) := d.session.takeTrace
  let d := { d with session }
  (d, ⟨answer, d, trace.calls, passOn d.listeners trace.notices, trace.events⟩)

/-- Takes a step, and tells what was done in it. -/
def step (d : Document) (step : Step) : Document × Row :=
  let (d, answer) := d.act step
  d.row answer

/-- The rows of a list of steps, and the document after them. -/
def stepRows (d : Document) : List Step → List Row × Document
  | [] => ([], d)
  | step :: steps =>
    let (d, row) := d.step step
    let (rows, d) := d.stepRows steps
    (row :: rows, d)

/-- What is reported when a document is closed: its previews are unmounted. -/
def closingEvents (d : Document) : List Log.Event := d.unmountAll.session.trace.events

/-- The rows of a list of steps, after a row for the document as it was opened, and what is
reported when it is closed in the end. -/
def rows (d : Document) (steps : List Step) : List Row × List Log.Event :=
  let (d, opened) := d.row .nothing
  let (rows, d) := d.stepRows steps
  (opened :: rows, d.closingEvents)

end Loremark.Document
