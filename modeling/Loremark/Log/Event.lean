import Loremark.Value

/-!
# Events

What the library reports while it works: a level, the part of the library that reports, a name,
and a context of named values.
-/

set_option autoImplicit false

namespace Loremark.Log

/-- How much an event matters. -/
inductive Level where
  | debug
  | info
  | warning
  | error
  | critical
  deriving DecidableEq, Repr, Inhabited

/-- The name of a level. -/
def Level.name : Level → Text
  | debug => "DEBUG".toList
  | info => "INFO".toList
  | warning => "WARNING".toList
  | error => "ERROR".toList
  | critical => "CRITICAL".toList

/-- The rank of a level; events of lower rank than a logger asks for are dropped. -/
def Level.rank : Level → Nat
  | debug => 10
  | info => 20
  | warning => 30
  | error => 40
  | critical => 50

/-- A reported event. -/
structure Event where
  level : Level
  logger : Text
  name : Text
  context : List (Text × Value)
  deriving Inhabited

/-- The event with a name that a part of the library reports. -/
def event (level : Level) (logger name : String) (context : List (String × Value)) : Event :=
  ⟨level, logger.toList, name.toList, context.map fun (key, value) => (key.toList, value)⟩

/-- A missing number as a value. -/
def optionalInt : Option Int → Value
  | none => .null
  | some n => .int n

end Loremark.Log
