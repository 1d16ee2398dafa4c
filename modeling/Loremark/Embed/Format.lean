import Loremark.Embed.Syntax
import Loremark.Value

/-!
# Writing embeds

The canonical text of an embed from its parts. The parts may come from anywhere, so they are
dynamic values; parts that would not be read back the same are refused. `examples` lists the
syntax samples shown to authors.
-/

set_option autoImplicit false

namespace Loremark.Embed

/-- Why an embed is not written. -/
inductive FormatError where
  /-- The kind, as running text, is none of the known ones. -/
  | unknownKind (shown : Text)
  /-- The number is no positive integer. -/
  | badId (shown : Text)
  /-- The label would end at its closing brace. -/
  | braceInLabel
  /-- The label is a value of another type. -/
  | labelNotText (typeName : Text)
  deriving DecidableEq, Repr

/-- The wording of the reasons. -/
def FormatError.message : FormatError → Text
  | unknownKind shown =>
    "Unknown embed type '".toList ++ shown ++ "'. Supported: ".toList ++
      Text.joinWith ", ".toList (Kind.all.map Kind.name)
  | badId shown => "Embed id must be a positive integer, got ".toList ++ shown
  | braceInLabel => "Embed label may not contain '\x7d'".toList
  | labelNotText typeName => '\'' :: typeName ++ "' object has no attribute 'strip'".toList

/-- The text of an embed with a given label. -/
def written (kind : Kind) (id : Nat) (label : Option Text) : Text :=
  (Written.mk kind (Text.ofNat id) label).toText

/-- The kind that a value names. -/
def kindOf? : Value → Option Kind
  | .text name => Kind.ofName? name
  | _ => none

/-- The positive integer that a value is. -/
def positive? : Value → Option Nat
  | .int (.ofNat (n + 1)) => some (n + 1)
  | _ => none

/-- The label to write: nothing for a missing or blank one. -/
def labelOf : Value → Except FormatError (Option Text)
  | .null => .ok none
  | .text label =>
    if Text.allBlank label then .ok none
    else if label.contains '\x7d' then .error .braceInLabel
    else .ok (some (Text.trim label))
  | label => .error (.labelNotText label.typeName)

/-- The canonical text of an embed. The kind is looked at first, then the number, then the
label. -/
def format (kind id label : Value) : Except FormatError Text :=
  match kindOf? kind with
  | none => .error (.unknownKind kind.plain)
  | some kind =>
    match positive? id with
    | none => .error (.badId id.shown)
    | some id => do return written kind id (← labelOf label)

/-- A sample of the syntax and what it does. -/
structure Example where
  code : Text
  description : Text
  deriving DecidableEq, Repr

/-- The number and the label of the samples of a kind. -/
def sample : Kind → Nat × Option Text
  | .character => (1, some "Baku Madarame".toList)
  | .arc => (5, some "Tower Arc".toList)
  | .gamble => (12, some "Air Poker".toList)
  | .guide => (3, some "Gambling Rules Guide".toList)
  | .organization => (2, some "Kakerou".toList)
  | .chapter => (150, some "The Final Gamble".toList)
  | .volume => (20, some "The Conclusion".toList)
  | .quote => (45, none)

/-- The samples of a kind: one without label and, where there is one, one with a label. -/
def examplesOf (kind : Kind) : List Example :=
  let (id, label) := sample kind
  let name := kind.info.label
  ⟨written kind id none, "Basic ".toList ++ name.map Text.toSmall ++ " embed".toList⟩ ::
    match label with
    | none => []
    | some label => [⟨written kind id (some label), name ++ " with custom text".toList⟩]

/-- The samples of every kind. -/
def examples : List (Kind × List Example) := Kind.all.map fun kind => (kind, examplesOf kind)

end Loremark.Embed
