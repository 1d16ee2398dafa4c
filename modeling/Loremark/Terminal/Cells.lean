import Loremark.Terminal.WidthTables
import Loremark.Text.Basic

/-!
# Columns of a terminal

A terminal shows text in columns. Most characters take up one of them; those of the scripts of East
Asia and most pictures take up two, and marks that combine with the character before them none. Two
characters act on others: a selector makes a character a picture, and a joiner lets the character
behind it be part of the one before it.
-/

set_option autoImplicit false

namespace Loremark.Terminal

/-- The columns that a character takes up on its own. -/
def charCells (c : Char) : Nat :=
  let code := c.toNat
  if 32 ≤ code && code < 127 then 1
  else if Text.inEdges emptyEdges code then 0
  else if Text.inEdges wideEdges code then 2
  else 1

/-- The character that lets the next one be part of the one before it. -/
def joiner : Char := '\u200d'

/-- The character that makes the one before it a picture. -/
def pictureSelector : Char := '\ufe0f'

/-- The columns that a text takes up behind a character which a selector may still act on. -/
def cellsAfter (last : Option Char) : Text → Nat
  | [] => 0
  | [c] => if c == joiner then 0 else cellsAfter.single last c
  | c :: d :: text =>
    if c == joiner then cellsAfter last text
    else if c == pictureSelector then
      cellsAfter.single last c + cellsAfter none (d :: text)
    else
      cellsAfter.single last c +
        cellsAfter (if charCells c == 0 then last else some c) (d :: text)
where
  /-- The columns that a character adds. -/
  single (last : Option Char) (c : Char) : Nat :=
    if c == pictureSelector then
      if last.any fun picture => Text.inEdges pictureEdges picture.toNat then 1 else 0
    else charCells c

/-- The columns that a text takes up. -/
def cells (text : Text) : Nat := cellsAfter none text

/-- Blanks that take up a number of columns. -/
def blanks (count : Nat) : Text := List.replicate count ' '

/-- A text with blanks behind it that fill up a number of columns. -/
def padEnd (width : Nat) (text : Text) : Text := text ++ blanks (width - cells text)

/-- A text with blanks before it that fill up a number of columns. -/
def padStart (width : Nat) (text : Text) : Text := blanks (width - cells text) ++ text

/-- The beginning of a text that takes up a number of columns. A blank takes the place of half a
character. -/
def cropTo : (width : Nat) → Text → Text
  | _, [] => []
  | width, c :: text =>
    let size := charCells c
    if size ≤ width then c :: cropTo (width - size) text else blanks width

/-- Cuts a text into pieces of at most a number of columns. `used` columns of the first piece are
taken up. -/
def chop (width : Nat) : (used : Nat) → Text → List Text
  | _, [] => [[]]
  | used, c :: text =>
    let size := charCells c
    if used + size ≤ width then
      match chop width (used + size) text with
      | [] => [[c]]
      | piece :: pieces => (c :: piece) :: pieces
    else
      match chop width size text with
      | [] => [[], [c]]
      | piece :: pieces => [] :: (c :: piece) :: pieces

end Loremark.Terminal
