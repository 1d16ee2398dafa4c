import Loremark.Value
import Loremark.Text.Numeral

/-!
# Integers in payloads

Number fields of a payload take more than integers: flags, numbers without a fraction, and texts
that write an integer. A text may have blanks around it, a plus sign, zeros in front, single
underscores between its digits, and a point followed by zeros only.
-/

set_option autoImplicit false

namespace Loremark.Entity

/-- The text without a plus sign in front; two signs are refused. -/
def withoutPlus? : Text → Option Text
  | '+' :: '-' :: _ => none
  | '+' :: text => some text
  | text => some text

/-- The text in front of its point, if only zeros follow the point. -/
def withoutZeroFraction? (text : Text) : Option Text :=
  match text.dropWhile (· != '.') with
  | [] => some text
  | _ :: fraction => if fraction.all (· == '0') then some (text.takeWhile (· != '.')) else none

/-- The text without zeros in front, and without underscores among them. -/
def withoutLeadingZeros? (text : Text) : Option Text :=
  match text with
  | '0' :: rest =>
    match rest.dropWhile fun c => c == '0' || c == '_' with
    | [] => text.getLast?.map ([·])
    | digits => some digits
  | _ => some text

/-- The text without its underscores, unless one stands at an end or next to another. -/
def withoutUnderscores? (text : Text) : Option Text :=
  if !text.contains '_' then some text
  else if text.head? == some '_' || text.getLast? == some '_' || Text.occurs ['_', '_'] text then
    none
  else some (text.filter (· != '_'))

/-- The integer that plain digits write, with an optional minus sign and no zero in front. -/
def plainInteger? (text : Text) : Option Int :=
  let (negative, digits) : Bool × Text :=
    match text with
    | '-' :: digits => (true, digits)
    | digits => (false, digits)
  if digits.isEmpty || !digits.all Text.isDigit || digits.length > Text.digitLimit then none
  else if digits.length > 1 && digits.head? == some '0' then none
  else
    let value : Int := Text.readBase 10 digits
    some (if negative then -value else value)

/-- The integer that a text writes. -/
def integerOfText? (text : Text) : Option Int := do
  let text ← withoutPlus? (Text.unpad text)
  let text ← withoutZeroFraction? text
  let text ← withoutLeadingZeros? text
  let text ← withoutUnderscores? text
  plainInteger? text

/-- The integer equal to a floating-point number without a fraction, if it has at most 63 bits. -/
def integerOfFloat? (x : Float) : Option Int :=
  if x == x.floor && x.abs < 9223372036854775808.0 then
    let size : Int := x.abs.toUInt64.toNat
    some (if x < 0 then -size else size)
  else none

/-- The integer that a value of a number field stands for. -/
def integer? : Value → Option Int
  | .int n => some n
  | .bool flag => some (if flag then 1 else 0)
  | .float x => integerOfFloat? x
  | .text text => integerOfText? text
  | _ => none

end Loremark.Entity
