import Loremark.Yaml.Cursor

/-!
# Values in the making

The values of a document are made in rounds. What a collection holds is made one round after the
collection itself, so a fault deep inside one is found later than a fault further out. `Made` pairs
what is made with the earliest fault of its making; of two faults of one round the first counts.
-/

set_option autoImplicit false

namespace Loremark.Yaml

/-- A fault in the making of values, with the round in which it is found. -/
structure Fault where
  round : Nat
  cause : Error
  deriving DecidableEq, Repr

/-- The earlier one of two faults. -/
def Fault.earliest? : Option Fault → Option Fault → Option Fault
  | none, second => second
  | some first, none => some first
  | some first, some second => some (if second.round < first.round then second else first)

/-- Looking for the earliest of three faults may begin with any two that stand side by side. -/
theorem Fault.earliest?_assoc (a b c : Option Fault) :
    earliest? (earliest? a b) c = earliest? a (earliest? b c) := by
  cases a <;> cases b <;> cases c <;> grind [earliest?]

/-- No fault is later than any. -/
@[simp] theorem Fault.earliest?_none (a : Option Fault) : earliest? a none = a := by
  cases a <;> rfl

/-- Something that is made, and the earliest fault of its making. With a fault beside it, it means
nothing. -/
structure Made (α : Type) where
  value : α
  fault? : Option Fault := none

namespace Made

instance : Monad Made where
  pure value := { value }
  bind made further :=
    let next := further made.value
    ⟨next.value, Fault.earliest? made.fault? next.fault?⟩

instance : LawfulMonad Made := LawfulMonad.mk' Made
  (fun ⟨_, _⟩ => by simp [Functor.map])
  (fun _ _ => by simp [bind, pure, Fault.earliest?])
  (fun _ _ _ => by simp [bind, Fault.earliest?_assoc])

/-- Nothing is made, for a cause that is found in a round. -/
def fail {α : Type} [Inhabited α] (round : Nat) (cause : Error) : Made α :=
  ⟨default, some ⟨round, cause⟩⟩

/-- What is made at once in a round. -/
def ofExcept {α : Type} [Inhabited α] (round : Nat) : Except Error α → Made α
  | .ok value => pure value
  | .error cause => fail round cause

/-- What is made in the end: the earliest fault, if there is any. -/
def toExcept {α : Type} (made : Made α) : Except Error α :=
  match made.fault? with
  | some fault => .error fault.cause
  | none => .ok made.value

end Made

end Loremark.Yaml
