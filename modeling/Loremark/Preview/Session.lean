import Loremark.Preview.Script

/-!
# Sessions

A session holds previews whose lookups take turns. A lookup that has begun waits for its turn; in
its turn it asks for its entity and goes on until it ends, unless the reply is held back, and then
it waits until replies are released. Turns are taken first come, first served, and replies held
back go on in the order in which they began to wait. Once replies have been released, none is held
back any more. A lookup that is told to stop while its reply is held back has a turn coming too.

Previews are numbered in the order in which they joined the session. A preview that has been
replaced by another one keeps its number, so that nothing that it does can reach the other one.
-/

set_option autoImplicit false

namespace Loremark.Preview

/-- Previews, and the turns of their lookups. -/
structure Session where
  previews : List Preview := []
  /-- The previews whose lookups have a turn coming, in order. -/
  due : List Nat := []
  /-- The previews whose replies are held back, in the order in which they began to wait. -/
  held : List Nat := []
  /-- Whether replies have been released. -/
  released : Bool := false
  script : Script := {}
  /-- What has been done since the trace was last taken. -/
  trace : Trace := {}
  deriving Inhabited

/-- Whether the lookup of a preview has a turn coming: its first one, or the one in which it
stops. -/
def hasTurn (p : Preview) : Bool :=
  match p.lookup with
  | some .due | some .stopping => true
  | _ => false

/-- Whether the reply of a preview is held back. -/
def isHeld (p : Preview) : Bool :=
  match p.lookup with
  | some (.held _) => true
  | _ => false

/-- The turn of the lookup of a preview. -/
def turn (released : Bool) (script : Script) (p : Preview) : Preview × Script × Trace :=
  match p.lookup, p.kind? with
  | some .due, none =>
    let (q, trace) := p.reject
    (q, script, trace)
  | some .due, some kind =>
    let call : Call := ⟨kind, p.entity⟩
    let (reply, script) := script.answer call
    let asked : Trace := { calls := [call], events := reply.events }
    if reply.held && !released then ({ p with lookup := some (.held reply) }, script, asked)
    else
      let (q, trace) := p.finish kind reply
      (q, script, asked ++ trace)
  | some (.held reply), some kind =>
    let (q, trace) := p.finish kind reply
    (q, script, trace)
  | some .stopping, _ => ({ p with lookup := some .cancelled }, script, {})
  | _, _ => (p, script, {})

namespace Session

/-- Adds a trace to what has been done. -/
def note (s : Session) (trace : Trace) : Session := { s with trace := s.trace ++ trace }

/-- The preview of a number, put in place of the one that is there. -/
def setPreview (s : Session) (number : Nat) (p : Preview) : Session :=
  { s with previews := s.previews.set number p }

/-- The turn of the preview of a number. -/
def take (s : Session) (number : Nat) : Session :=
  match s.previews[number]? with
  | none => s
  | some p =>
    let (q, script, trace) := turn s.released s.script p
    let s := { (s.setPreview number q).note trace with script }
    if isHeld q then { s with held := s.held ++ [number] } else s

/-- Lets every lookup that is due take its turn. -/
def run (s : Session) : Session := s.due.foldl take { s with due := [] }

/-- Releases the replies that are held back; they go on when their turn comes. -/
def release (s : Session) : Session :=
  { s with released := true, due := s.due ++ s.held, held := [] }

/-- Mounts the preview of a number. -/
def mount (s : Session) (number : Nat) : Except Unmounted Session :=
  match s.previews[number]? with
  | none => .ok s
  | some p => do
    let q ← p.mount
    let s := s.setPreview number q
    return if p.lookup.isNone then { s with due := s.due ++ [number] } else s

/-- Puts a preview whose lookup may have been told to stop in the place of the one that is there. A
lookup whose reply was held back until then has a turn coming. -/
def setStopped (s : Session) (number : Nat) (p q : Preview) : Session :=
  { s.setPreview number q with
    due := s.due ++ if isHeld p && hasTurn q then [number] else [] }

/-- Unmounts the preview of a number. -/
def unmount (s : Session) (number : Nat) : Session :=
  match s.previews[number]? with
  | none => s
  | some p =>
    let (q, trace) := p.unmount
    (s.setStopped number p q).note trace

/-- Cancels the lookup of the preview of a number from outside. -/
def cancel (s : Session) (number : Nat) : Session :=
  match s.previews[number]? with
  | none => s
  | some p => s.setStopped number p p.cancel

/-- Mounts the previews of numbers, up to one that cannot be mounted. -/
def mountEach (s : Session) : List Nat → Session × Option Unmounted
  | [] => (s, none)
  | number :: numbers =>
    match s.mount number with
    | .error e => (s, some e)
    | .ok s => s.mountEach numbers

/-- Unmounts the previews of numbers. -/
def unmountEach (s : Session) (numbers : List Nat) : Session := numbers.foldl unmount s

/-- Takes the trace of what has been done. -/
def takeTrace (s : Session) : Trace × Session := (s.trace, { s with trace := {} })

end Session

end Loremark.Preview
