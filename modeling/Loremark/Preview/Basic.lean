import Loremark.Preview.State

/-!
# Previews

A preview looks up one entity once. Mounting it begins the lookup, unmounting it disposes of it for
good: a lookup that is still under way is told to stop, nobody is told of anything any more, and
what arrives late is dropped. A lookup that is told to stop does so in its next turn, and is under
way until then. Listeners are told of every change of state; the state changes at most once.

Lookups take turns in a loop that is taken to run, so that mounting is never refused for the want
of one. Listeners are names here: what they are told is modelled, and callbacks that act on the
preview in their turn are left out.
-/

set_option autoImplicit false

namespace Loremark

/-- Someone who is told when a preview changes, and does nothing about it. No two listeners have
the same number. -/
structure Preview.Listener where
  number : Nat
  name : Text
  deriving DecidableEq, Repr, Inhabited

/-- What a lookup does when it is asked for: it may be held back, it may unmount its preview before
it ends, and it may report events of its own. -/
structure Preview.Reply where
  held : Bool := false
  unmounts : Bool := false
  /-- Whether it goes on to its end although the lookup has been cancelled. -/
  persists : Bool := false
  events : List Log.Event := []
  outcome : Preview.Outcome
  deriving Inhabited

/-- How far the lookup of a mounted preview has come. -/
inductive Preview.Lookup where
  /-- It waits for its first turn. -/
  | due
  /-- It has been asked for and is held back. -/
  | held (reply : Preview.Reply)
  /-- It has been told to stop, and does so in its next turn. -/
  | stopping
  | ended
  | cancelled
  deriving Inhabited

/-- Whether a lookup is over. -/
def Preview.Lookup.isOver : Preview.Lookup → Bool
  | ended | cancelled => true
  | due | held _ | stopping => false

/-- A lookup that is told to stop. One that waits for its first turn never asks; one that is held
back stops unless its reply persists. -/
def Preview.Lookup.cancel : Preview.Lookup → Preview.Lookup
  | due => stopping
  | held reply => if reply.persists then held reply else stopping
  | stopping => stopping
  | ended => ended
  | cancelled => cancelled

/-- A preview of an entity. -/
structure Preview where
  /-- The name of the kind of entity, which need not be a kind that there is. -/
  kindName : Text
  entity : Int
  label : Option Text := none
  mode : Mode := .inline
  options : Entity.CardOptions := {}
  key : Text
  state : Preview.State := .loading
  /-- The lookup, once the preview has been mounted. -/
  lookup : Option Preview.Lookup := none
  disposed : Bool := false
  listeners : List Preview.Listener := []
  deriving Inhabited

namespace Preview

/-- The key of a preview: the one that it is given, or else one that is made of its kind and its
number, unless the number is too long to be written. An empty key counts as none. -/
def keyOf (kindName : Text) (entity : Int) : Option Text → Except Text.Overlong Text
  | none | some [] => do return kindName ++ '-' :: (← Text.writeInt entity)
  | some key => .ok key

/-- A preview that has just been made. -/
def ofEntity (kindName : Text) (entity : Int) (label : Option Text) (mode : Mode)
    (options : Entity.CardOptions) (key : Option Text) : Except Text.Overlong Preview := do
  let key ← keyOf kindName entity key
  return { kindName, entity, label, mode, options, key }

/-- An entity that has been asked for. -/
structure Call where
  kind : Kind
  entity : Int
  deriving DecidableEq, Repr, Inhabited

/-- The name of a call: kind and number. -/
def Call.name (call : Call) : Text := call.kind.name ++ ':' :: Text.ofInt call.entity

/-- A listener is told that a preview has a new state. -/
structure Notice where
  listener : Listener
  key : Text
  state : State
  deriving Inhabited

/-- What previews have done: the entities they asked for, whom they told, and what they
reported. -/
structure Trace where
  calls : List Call := []
  notices : List Notice := []
  events : List Log.Event := []
  deriving Inhabited

/-- One trace after another. -/
def Trace.append (first second : Trace) : Trace where
  calls := first.calls ++ second.calls
  notices := first.notices ++ second.notices
  events := first.events ++ second.events

instance : Append Trace := ⟨Trace.append⟩

/-- Traces are joined part by part. -/
theorem Trace.append_eq (first second : Trace) :
    first ++ second = ⟨first.calls ++ second.calls, first.notices ++ second.notices,
      first.events ++ second.events⟩ := rfl

/-- Nothing in front of a trace changes nothing. -/
@[simp] theorem Trace.empty_append (trace : Trace) : {} ++ trace = trace := rfl

/-- Nothing behind a trace changes nothing. -/
@[simp] theorem Trace.append_empty (trace : Trace) : trace ++ {} = trace := by
  simp only [append_eq, List.append_nil]

/-- Traces may be joined in any grouping. -/
theorem Trace.append_assoc (first second third : Trace) :
    first ++ second ++ third = first ++ (second ++ third) := by
  simp only [append_eq, List.append_assoc]

/-- The calls of joined traces are the calls of both, in order. -/
@[simp] theorem Trace.calls_append (first second : Trace) :
    (first ++ second).calls = first.calls ++ second.calls := rfl

/-- The notices of joined traces are the notices of both, in order. -/
@[simp] theorem Trace.notices_append (first second : Trace) :
    (first ++ second).notices = first.notices ++ second.notices := rfl

/-- The trace of an event alone. -/
def Trace.ofEvent (event : Log.Event) : Trace := { events := [event] }

/-- No call is made by reporting an event. -/
@[simp] theorem Trace.calls_ofEvent (event : Log.Event) : (ofEvent event).calls = [] := rfl

/-- No listener is told by reporting an event. -/
@[simp] theorem Trace.notices_ofEvent (event : Log.Event) : (ofEvent event).notices = [] := rfl

/-- A preview was unmounted, and cannot be mounted again. -/
structure Unmounted where
  key : Text
  deriving DecidableEq, Repr, Inhabited

/-- The wording of the refusal. -/
def Unmounted.message (e : Unmounted) : Text :=
  "Preview ".toList ++ e.key ++ " was unmounted and cannot be mounted again".toList

/-- The kind of entity, if there is such a kind. -/
def kind? (p : Preview) : Option Kind := Kind.ofName? p.kindName

/-- Whether a preview has been mounted and not yet unmounted. -/
def mounted (p : Preview) : Bool := p.lookup.isSome && !p.disposed

/-- Begins the lookup, in a loop that is taken to run. A lookup that has begun stays as it is. -/
def mount (p : Preview) : Except Unmounted Preview :=
  if p.disposed then .error ⟨p.key⟩
  else
    match p.lookup with
    | some _ => .ok p
    | none => .ok { p with lookup := some .due }

/-- Tells the lookup to stop, if there is one. -/
def cancel (p : Preview) : Preview := { p with lookup := p.lookup.map Lookup.cancel }

/-- Whether the lookup has begun and is not over. -/
def isInFlight (p : Preview) : Bool := (p.lookup.map fun lookup => !lookup.isOver).getD false

/-- Disposes of a preview. -/
def unmount (p : Preview) : Preview × Trace :=
  if p.disposed then (p, {})
  else
    let disposed := { p.cancel with disposed := true, listeners := [] }
    if p.isInFlight then
      (disposed, .ofEvent
        (Log.event .debug reporter "preview_unmounted_in_flight" [("key", .text p.key)]))
    else (disposed, {})

/-- Adds a listener. -/
def listen (p : Preview) (listener : Listener) : Preview :=
  { p with listeners := p.listeners ++ [listener] }

/-- Takes a listener away. -/
def unlisten (p : Preview) (listener : Listener) : Preview :=
  { p with listeners := p.listeners.erase listener }

/-- Takes on a state and tells the listeners, unless the preview has been disposed of. -/
def become (p : Preview) (state : State) : Preview × Trace :=
  if p.disposed then (p, {})
  else
    ({ p with state }, { notices := p.listeners.map fun listener => ⟨listener, p.key, state⟩ })

/-- The end of the lookup: what arrives after the preview has been disposed of is dropped. -/
def settle (p : Preview) (kind : Kind) (outcome : Outcome) : Preview × Trace :=
  let ended := { p with lookup := some .ended }
  if p.disposed then
    (ended, .ofEvent
      (Log.event .debug reporter "preview_late_result_discarded" [("key", .text p.key)]))
  else
    let (state, event) := outcome.verdict kind p.entity
    let (q, trace) := ended.become state
    (q, .ofEvent event ++ trace)

/-- The end of a lookup that does what a reply says. -/
def finish (p : Preview) (kind : Kind) (reply : Reply) : Preview × Trace :=
  let (q, first) := if reply.unmounts then p.unmount else (p, {})
  let (r, second) := q.settle kind reply.outcome
  (r, first ++ second)

/-- The end of a lookup of an entity of no kind. -/
def reject (p : Preview) : Preview × Trace :=
  let event :=
    Log.event .warning reporter "unsupported_entity_type" (about p.kindName p.entity)
  let reason := "Unsupported entity type: ".toList ++ p.kindName
  let (q, trace) := { p with lookup := some .ended }.become (.failed reason)
  (q, .ofEvent event ++ trace)

/-- What a preview looks like. -/
def markup (p : Preview) : Html.Markup :=
  match p.kind? with
  | none => Entity.unsupported p.kindName p.entity p.label
  | some kind =>
    let request : Entity.Request := ⟨kind, p.entity, p.label⟩
    match p.state with
    | .loading => request.loading p.mode
    | .failed _ => request.failed p.mode
    | .loaded record => request.loaded p.options p.mode record

end Preview

end Loremark
