import Loremark.Decimal.Shortest

/-!
# Decimals with a given number of places

A fraction of natural numbers is written with a number of places behind the point, or with a number
of significant digits and an exponent. What is left over is rounded to the nearest neighbour, and a
half goes to the even one.
-/

set_option autoImplicit false

namespace Loremark.Decimal

/-- A fraction; the denominator is not zero. -/
structure Ratio where
  numerator : Nat
  denominator : Nat
  deriving DecidableEq, Repr

/-- The quotient rounded to the nearest integer; a half goes to the even neighbour. -/
def Ratio.round (r : Ratio) : Nat :=
  let below := r.numerator / r.denominator
  let twice := 2 * (r.numerator % r.denominator)
  if r.denominator < twice || (twice == r.denominator && below % 2 == 1) then below + 1 else below

/-- The fraction times a power of ten. -/
def Ratio.shift (r : Ratio) (power : Int) : Ratio :=
  ⟨r.numerator * Nat.pow 10 power.toNat, r.denominator * Nat.pow 10 (-power).toNat⟩

/-- The size of a finite floating-point number. -/
def Ratio.ofFloat (x : Float) : Ratio :=
  let b := Binary.ofBits x.abs.toBits.toNat
  ⟨b.mantissa * Nat.pow 2 b.exponent.toNat, Nat.pow 2 (-b.exponent).toNat⟩

/-- Digits with a point in front of the last `places` of them; `pointed` asks for a point where
there are no places. -/
def withPoint (pointed : Bool) (places : Nat) (digits : Text) : Text :=
  let digits := List.replicate (places + 1 - digits.length) '0' ++ digits
  let whole := digits.take (digits.length - places)
  if places == 0 && !pointed then whole else whole ++ '.' :: digits.drop whole.length

/-- A fraction with a number of places behind the point. -/
def Ratio.fixed (pointed : Bool) (places : Nat) (r : Ratio) : Text :=
  withPoint pointed places (Text.ofNat (r.shift places).round)

/-- The exponent of the first digit of a fraction. -/
def Ratio.exponent (r : Ratio) : Int :=
  let size : Int := (Text.ofNat r.numerator).length - (Text.ofNat r.denominator).length
  let scaled := r.shift (-size)
  if scaled.denominator ≤ scaled.numerator then size else size - 1

/-- The first `count` significant digits of a fraction, rounded, and the exponent of the first of
them. -/
def Ratio.significant (count : Nat) (r : Ratio) : Text × Int :=
  if r.numerator == 0 then (List.replicate count '0', 0)
  else
    let exponent := r.exponent
    let digits := Text.ofNat (r.shift (count - 1 - exponent)).round
    if count < digits.length then (digits.take count, exponent + 1) else (digits, exponent)

/-- An exponent with its sign and two digits at least. -/
def shownExponent (exponent : Int) : Text :=
  let size := Text.ofNat exponent.natAbs
  'e' :: (if exponent < 0 then '-' else '+') :: (if size.length < 2 then '0' :: size else size)

/-- A fraction as one digit, a number of places behind the point, and an exponent. -/
def Ratio.scientific (pointed : Bool) (places : Nat) (r : Ratio) : Text :=
  let (digits, exponent) := r.significant (places + 1)
  withPoint pointed places digits ++ shownExponent exponent

/-- A text without the zeros at the end of its fraction, and without a point at its end. -/
def withoutTrailingZeros (text : Text) : Text :=
  if text.contains '.' then Text.trimEndOf '.' (Text.trimEndOf '0' text) else text

/-- A fraction with a number of significant digits, in the shorter of the two notations. Zeros at
the end of its fraction are left out unless `pointed` asks for them. -/
def Ratio.general (pointed : Bool) (count : Nat) (r : Ratio) : Text :=
  let count := max count 1
  let (digits, exponent) := r.significant count
  let trim (text : Text) : Text := if pointed then text else withoutTrailingZeros text
  if exponent < -4 || (count : Int) ≤ exponent then
    trim (withPoint pointed (count - 1) digits) ++ shownExponent exponent
  else trim (withPoint pointed (count - 1 - exponent).toNat digits)

end Loremark.Decimal
