import Loremark.Entity.Widget
import Loremark.Log.Event

/-!
# The state of a preview

A preview is loading until the lookup of its entity has ended, and then either failed for a reason
or holds the record of the entity. The way a lookup ends decides both the state that follows and
the event that is reported; every way of ending is covered, so that a lookup never leaves a preview
loading.
-/

set_option autoImplicit false

namespace Loremark.Preview

/-- What is known of the entity of a preview. -/
inductive State where
  | loading
  | failed (reason : Text)
  | loaded (record : Entity.Record)
  deriving Inhabited

/-- Whether a state is the one before the end of the lookup. -/
def State.isLoading : State → Bool
  | loading => true
  | _ => false

/-- How a lookup ends. -/
inductive Outcome where
  /-- The store answered; a value that counts as false means that there is no such entity. -/
  | payload (value : Value)
  /-- The store refused, possibly with the status of its answer. -/
  | refused (reason : Text) (status : Option Int)
  /-- The lookup broke off with a fault of a named sort. -/
  | broken (sort message : Text)
  deriving Inhabited

/-- The part of the library that reports on previews. -/
def reporter : String := "spoilerdown.preview.resolver"

/-- The entity as event contexts tell it. -/
def about (kindName : Text) (entity : Int) : List (String × Value) :=
  [("entity_type", .text kindName), ("entity_id", .int entity)]

/-- The event at the end of a lookup. -/
def report (level : Log.Level) (name : String) (kind : Kind) (entity : Int)
    (more : List (String × Value)) : Log.Event :=
  Log.event level reporter name (about kind.name entity ++ more)

/-- The state after a lookup, with the event that tells of it. -/
def Outcome.verdict (kind : Kind) (entity : Int) : Outcome → State × Log.Event
  | payload value =>
    if value.truthy then
      match Entity.parseRecord kind value with
      | .ok record => (.loaded record, report .debug "entity_resolved" kind entity [])
      | .error faults =>
        (.failed "invalid payload".toList,
          report .warning "entity_payload_invalid" kind entity [("errors", .int faults.length)])
    else (.failed "not found".toList, report .info "entity_not_found" kind entity [])
  | refused reason status =>
    (.failed reason,
      report .warning "entity_fetch_failed" kind entity
        [("reason", .text reason), ("status_code", Log.optionalInt status)])
  | broken sort message =>
    (.failed (if message.isEmpty then sort else message),
      report .warning "entity_fetch_failed" kind entity
        [("reason", .text message), ("error_type", .text sort)])

end Loremark.Preview
