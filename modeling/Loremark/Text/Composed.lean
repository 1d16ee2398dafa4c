import Loremark.Text.MarkTables
import Loremark.Text.Basic

/-!
# Composed texts

A letter with marks can be written in several ways: as one character, or as a plain letter with the
marks behind it in different orders. `composed` chooses one of them. It takes every character apart,
puts marks that do not touch each other into the order of their classes, and joins the pieces from
left to right as far as that goes. A mark is joined to the letter unless a mark of the same or a
higher class stands between the two.
-/

set_option autoImplicit false

namespace Loremark.Text

/-- Characters that combine with the one in front of them. -/
def isMark (c : Char) : Bool := inEdges markEdges c.toNat

/-- Marks that take up no place of their own. -/
def isNonspacing (c : Char) : Bool := inEdges nonspacingEdges c.toNat

/-- The combining class of a character; only marks have one above zero. -/
def markClass (c : Char) : Nat :=
  let code := c.toNat
  ((markClasses.find? fun (first, last, _) => first ≤ code && code ≤ last).map (·.2.2)).getD 0

/-- The character that stands for two in a row. -/
def joined? (first second : Char) : Option Char := do
  let pairs ← compositions.lookup second.toNat
  (pairs.lookup first.toNat).map Char.ofNat

/-- The two characters that a character stands for. -/
def split? (c : Char) : Option (Char × Char) :=
  compositions.findSome? fun (second, pairs) =>
    (pairs.find? (·.2 == c.toNat)).map fun (first, _) => (Char.ofNat first, Char.ofNat second)

/-- The most marks that a single character stands for. -/
def splitLimit : Nat := 3

/-- The pieces that a character stands for. -/
def pieces : (limit : Nat) → Char → Text
  | 0, c => [c]
  | limit + 1, c =>
    match split? c with
    | some (first, second) => pieces limit first ++ [second]
    | none => [c]

/-- Puts a character in front of a text in which the marks are in order: a mark goes behind the
marks of lower classes. -/
def insertMark (c : Char) : Text → Text
  | [] => [c]
  | next :: text =>
    if 0 < markClass next && markClass next < markClass c then next :: insertMark c text
    else c :: next :: text

/-- A text in which the marks behind each character are in the order of their classes. -/
def ordered (text : Text) : Text := text.foldr insertMark []

/-- Joins the marks in a text with the character in front of them. `kept` holds the marks that
could not be joined with it, last one first. -/
def compose : (base : Char) → (kept : Text) → Text → Text
  | base, kept, [] => base :: kept.reverse
  | base, kept, c :: text =>
    let isBlocked := kept.head?.any fun last => markClass c ≤ markClass last
    match if isBlocked then none else joined? base c with
    | some whole => compose whole kept text
    | none =>
      if markClass c == 0 then base :: kept.reverse ++ compose c [] text
      else compose base (c :: kept) text

/-- A text with letters and marks joined. -/
def composed (text : Text) : Text :=
  match ordered (text.flatMap (pieces splitLimit)) with
  | [] => []
  | c :: text => compose c [] text

end Loremark.Text
