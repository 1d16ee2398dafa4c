import Loremark.Text.Numeral

/-!
# Internet numbers

Hosts that are written as numbers: four decimal numbers between dots, or up to eight groups of
hexadecimal digits between colons, where two colons in a row stand for groups of zeros.
-/

set_option autoImplicit false

namespace Loremark.Url

/-- Whether a text is a number up to 255 without a zero in front. -/
def isOctet (text : Text) : Bool :=
  !text.isEmpty && text.length ≤ 3 && text.all Text.isDigit &&
    (text.length == 1 || text.head? != some '0') && Text.readBase 10 text ≤ 255

/-- Whether a text is four numbers between dots. -/
def isDotted (text : Text) : Bool :=
  let parts := Text.splitOn '.' text
  parts.length == 4 && parts.all isOctet

/-- Whether a text is a group of hexadecimal digits. -/
def isGroup (text : Text) : Bool :=
  !text.isEmpty && text.length ≤ 4 && text.all Text.isHexDigit

/-- The groups between colons, where four numbers at the end count as two groups. -/
def groups? (text : Text) : Option (List Text) :=
  let parts := Text.splitOn ':' text
  match parts.getLast? with
  | some last =>
    if last.contains '.' then
      if isDotted last then some (parts.dropLast ++ [['0'], ['0']]) else none
    else some parts
  | none => none

/-- Whether a text is made of groups between colons, possibly with the name of a zone behind a
percent sign. -/
def isColonNumber (text : Text) : Bool :=
  let number := text.takeWhile (· != '%')
  let zone := text.drop (number.length + 1)
  let zoneFits := number.length == text.length || (!zone.isEmpty && !zone.contains '%')
  zoneFits &&
    match Text.cutAt? "::".toList number with
    | none =>
      match groups? number with
      | some groups => groups.length == 8 && groups.all isGroup
      | none => false
    | some (before, after) =>
      let side (text : Text) : Option (List Text) := if text.isEmpty then some [] else groups? text
      match side before, side after with
      | some left, some right =>
        left.all isGroup && right.all isGroup && left.length + right.length < 8 &&
          !before.contains '.'
      | _, _ => false

/-- Whether a text looks like four numbers with single characters between them. -/
def looksDotted (text : Text) : Bool := matchFrom 3 text
where
  /-- Digits with `gaps` single characters between them, up to the end. -/
  matchFrom (gaps : Nat) (text : Text) : Bool :=
    match gaps, text with
    | 0, text => !text.isEmpty && text.all Text.isDecimal
    | gaps + 1, text =>
      let run := text.takeWhile Text.isDecimal
      (List.range run.length).any fun size =>
        matchFrom gaps (text.drop (size + 2)) && size + 2 ≤ text.length

end Loremark.Url
