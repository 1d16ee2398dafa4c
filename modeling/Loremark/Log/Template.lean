import Loremark.Decimal.Places
import Loremark.Decimal.Read
import Loremark.Value

/-!
# Templates of log lines

A template holds directives that begin with a percent sign; each stands for one argument and says
how it is written. Two percent signs in a row stand for one. A template whose directives do not fit
its arguments gives nothing.
-/

set_option autoImplicit false

namespace Loremark.Log

/-- How the argument of a directive is laid out. -/
structure Layout where
  left : Bool := false
  zeros : Bool := false
  plus : Bool := false
  space : Bool := false
  alternate : Bool := false
  width : Nat := 0
  precision : Option Nat := none
  deriving DecidableEq, Repr, Inhabited

/-- Whether a character is one of the marks at the beginning of a directive. -/
def isLayoutMark (c : Char) : Bool := c == '-' || c == '0' || c == '+' || c == ' ' || c == '#'

/-- A layout with one more mark. -/
def Layout.mark (layout : Layout) (c : Char) : Layout :=
  if c == '-' then { layout with left := true }
  else if c == '0' then { layout with zeros := true }
  else if c == '+' then { layout with plus := true }
  else if c == ' ' then { layout with space := true }
  else { layout with alternate := true }

/-- The number that a text begins with, or that an argument gives where an asterisk stands: the
number, the arguments that are left, and what follows. -/
def readSize? (arguments : List Value) : Text → Option (Int × List Value × Text)
  | '*' :: text =>
    match arguments with
    | .int n :: arguments => some (n, arguments, text)
    | .bool flag :: arguments => some (if flag then 1 else 0, arguments, text)
    | _ => none
  | text =>
    let digits := text.takeWhile Text.isDigit
    some (Text.readBase 10 digits, arguments, text.drop digits.length)

/-- The layout at the beginning of a directive, the arguments that are left, and what follows. A
width below zero puts the blanks behind the text. -/
def readLayout? (arguments : List Value) (text : Text) :
    Option (Layout × List Value × Text) := do
  let layout := (text.takeWhile isLayoutMark).foldl Layout.mark {}
  let (width, arguments, text) ← readSize? arguments (text.dropWhile isLayoutMark)
  let layout := { layout with width := width.natAbs, left := layout.left || width < 0 }
  match text with
  | '.' :: text =>
    let (precision, arguments, text) ← readSize? arguments text
    return ({ layout with precision := some precision.toNat }, arguments, text)
  | text => return (layout, arguments, text)

/-- A text widened with blanks. -/
def Layout.pad (layout : Layout) (text : Text) : Text :=
  let fill := List.replicate (layout.width - text.length) ' '
  if layout.left then text ++ fill else fill ++ text

/-- A text as an argument. -/
def Layout.text (layout : Layout) (text : Text) : Text :=
  layout.pad ((layout.precision.map fun n => text.take n).getD text)

/-- A number as an argument: its sign, what stands in front of its digits, and its digits. -/
def Layout.number (layout : Layout) (negative : Bool) (lead digits : Text) : Text :=
  let sign :=
    if negative then ['-'] else if layout.plus then ['+'] else if layout.space then [' '] else []
  let front := sign ++ lead
  if layout.zeros && !layout.left then
    front ++ List.replicate (layout.width - front.length - digits.length) '0' ++ digits
  else layout.pad (front ++ digits)

/-- The integer that a whole-number directive writes: a number without its fraction. -/
def wholeNumber? : Value → Option Int
  | .int n => some n
  | .bool flag => some (if flag then 1 else 0)
  | .float x =>
    if x.isNaN || x.isInf then none
    else
      let r := Decimal.Ratio.ofFloat x
      let size : Int := (r.numerator / r.denominator : Nat)
      some (if x < 0 then -size else size)
  | _ => none

/-- The number that a directive for fractions writes. -/
def fraction? : Value → Option Float
  | .int n =>
    let size := Decimal.ofScaled n.natAbs 0
    if size.isInf then none else some (if n < 0 then -size else size)
  | .bool flag => some (if flag then 1.0 else 0.0)
  | .float x => some x
  | _ => none

/-- An integer in a base, with the mark of the base if it is asked for. -/
def Layout.inBase (layout : Layout) (base : Nat) (mark : String) (n : Int) : Text :=
  let digits := Nat.toDigits base n.natAbs
  let digits := List.replicate (layout.precision.getD 0 - digits.length) '0' ++ digits
  layout.number (n < 0) (if layout.alternate then mark.toList else []) digits

/-- A floating-point number in the notation of a directive. -/
def Layout.fraction (layout : Layout) (directive : Char) (x : Float) : Text :=
  let precision := layout.precision.getD 6
  let negative := !x.isNaN && x.toBits.toNat / Nat.pow 2 63 == 1
  let body :=
    if x.isNaN then "nan".toList
    else if x.isInf then "inf".toList
    else
      let r := Decimal.Ratio.ofFloat x
      if directive == 'f' then r.fixed layout.alternate precision
      else if directive == 'e' then r.scientific layout.alternate precision
      else r.general layout.alternate precision
  layout.number negative [] body

/-- A text in which every character beyond ASCII is written by its code. -/
def asciiOnly (text : Text) : Text :=
  text.flatMap fun c => if c.toNat < 128 then [c] else Text.codeEscape c

/-- The argument of a directive as text. -/
def Layout.write? (layout : Layout) (directive : Char) (argument : Value) : Option Text :=
  if directive == 's' then some (layout.text argument.plain)
  else if directive == 'r' then some (layout.text argument.shown)
  else if directive == 'a' then some (layout.text (asciiOnly argument.shown))
  else if directive == 'd' || directive == 'i' || directive == 'u' then
    (wholeNumber? argument).map (layout.inBase 10 "")
  else if directive == 'x' || directive == 'X' || directive == 'o' then
    match argument with
    | .int _ | .bool _ =>
      (wholeNumber? argument).map fun n =>
        if directive == 'o' then layout.inBase 8 "0o" n
        else if directive == 'x' then layout.inBase 16 "0x" n
        else (layout.inBase 16 "0x" n).map Char.toUpper
    | _ => none
  else if ['f', 'e', 'g'].contains directive then
    (fraction? argument).map (layout.fraction directive)
  else if ['F', 'E', 'G'].contains directive then
    (fraction? argument).map fun x => (layout.fraction directive.toLower x).map Char.toUpper
  else if directive == 'c' then
    match argument with
    | .text [c] => some (layout.pad [c])
    | .int _ | .bool _ =>
      (wholeNumber? argument).bind fun n =>
        if 0 ≤ n && Nat.isValidChar n.toNat then some (layout.pad [Char.ofNat n.toNat]) else none
    | _ => none
  else none

/-- The name in parentheses at the beginning of a text, and what follows; parentheses inside it come
in pairs. `depth` of them are open. -/
def readName? : (depth : Nat) → Text → Option (Text × Text)
  | _, [] => none
  | 0, ')' :: text => some ([], text)
  | depth, c :: text =>
    let depth := if c == '(' then depth + 1 else if c == ')' then depth - 1 else depth
    (readName? depth text).map fun (name, rest) => (c :: name, rest)

/-- The arguments at a directive, and what follows its name if it has one: a name stands for the
entry of that name, and takes the place of all arguments. -/
def selectArguments? (entries : List (Value × Value)) (arguments : List Value) (text : Text) :
    Option (List Value × Text) :=
  match text with
  | '(' :: text => do
    let (name, rest) ← readName? 0 text
    return ([← Value.get? name entries], rest)
  | text => some (arguments, text)

/-- A text without a letter for the size of a number, which says nothing. -/
def withoutSize : Text → Text
  | c :: text => if c == 'h' || c == 'l' || c == 'L' then text else c :: text
  | [] => []

/-- A template with its arguments. Where the only argument is a dictionary, directives can name its
`entries`, and it need not be used itself. Every directive takes one character of the template at
least, so that `fuel` need not exceed its length. -/
def fill? (entries : List (Value × Value)) : (fuel : Nat) → List Value → Text → Option Text
  | 0, _, _ => none
  | _ + 1, arguments, [] => if arguments.isEmpty || !entries.isEmpty then some [] else none
  | fuel + 1, arguments, '%' :: '%' :: text => (fill? entries fuel arguments text).map ('%' :: ·)
  | fuel + 1, arguments, '%' :: text => do
    let (arguments, text) ← selectArguments? entries arguments text
    let (layout, arguments, rest) ← readLayout? arguments text
    match withoutSize rest, arguments with
    | directive :: rest, argument :: arguments =>
      let written ← layout.write? directive argument
      return written ++ (← fill? entries fuel arguments rest)
    | _, _ => none
  | fuel + 1, arguments, c :: text => (fill? entries fuel arguments text).map (c :: ·)

/-- The message of a template; without arguments it stands as it is. -/
def message? (template : Text) (arguments : List Value) : Option Text :=
  match arguments with
  | [] => some template
  | [.dict entries] => fill? entries (template.length + 1) arguments template
  | arguments => fill? [] (template.length + 1) arguments template

end Loremark.Log
