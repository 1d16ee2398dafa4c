import Loremark.Text.Basic

/-!
# Paths

The name of a file is a path: names between slashes, from the root if a slash comes first and from
the working directory otherwise. Empty names and single points say nothing and are left out; two
points lead to the directory above and are kept, as what they mean depends on the files there are.
-/

set_option autoImplicit false

namespace Loremark.Files

/-- A path. -/
structure Path where
  /-- The number of slashes that it begins with: none, one or two. -/
  slashes : Nat := 0
  parts : List Text
  deriving DecidableEq, Repr, Inhabited

/-- The number of slashes that count at the beginning of a path: three or more are one. -/
def slashesOf (text : Text) : Nat :=
  let count := (text.takeWhile (· == '/')).length
  if count ≤ 2 then count else 1

/-- Whether a part of a path says something. -/
def isPart (part : Text) : Bool := !part.isEmpty && part != ['.']

/-- The path that a text writes. -/
def Path.ofText (text : Text) : Path :=
  ⟨slashesOf text, (Text.splitOn '/' text).filter isPart⟩

/-- A path as text. -/
def Path.shown (p : Path) : Text :=
  match p.slashes, p.parts with
  | 0, [] => ['.']
  | slashes, parts => List.replicate slashes '/' ++ Text.joinWith ['/'] parts

/-- The last name of a path. -/
def Path.name (p : Path) : Text := p.parts.getLastD []

/-- The path of a name in the directory of a path. -/
def Path.child (p : Path) (name : Text) : Path := { p with parts := p.parts ++ [name] }

end Loremark.Files
