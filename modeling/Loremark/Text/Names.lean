import Loremark.Text.Basic

/-!
# Tables of names

A table of names is written in rows of words: every name is followed by the characters it stands
for, as code points in base sixteen with plus signs between them.
-/

set_option autoImplicit false

namespace Loremark.Text

/-- The characters that code points written in base sixteen stand for. -/
def charsOfCodes (codes : Text) : Text :=
  (splitOn '+' codes).map fun code => Char.ofNat (readBase 16 code)

/-- The pairs of a name and its characters in a list of words. -/
def namedPairs : List Text → List (Text × Text)
  | name :: codes :: words => (name, charsOfCodes codes) :: namedPairs words
  | _ => []

/-- The names of a table with their characters. -/
def readNames (rows : List String) : List (Text × Text) :=
  rows.flatMap fun row => namedPairs (words row.toList)

end Loremark.Text
