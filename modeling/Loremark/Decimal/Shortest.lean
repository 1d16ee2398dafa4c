import Loremark.Text.Basic

/-!
# The shortest decimal of a floating-point number

A finite number is an integer times a power of two. Around it lies the interval of the reals that
round to it; its ends belong to it exactly when the integer is even. The shortest decimal is
found on the grids of one, two, up to seventeen significant digits: the first grid with a point in
the interval wins, and of the two grid points next to the number the nearer one is taken.
`shown` lays the digits out: positional notation for values from a ten-thousandth up to ten
to the sixteenth, an exponent of at least two digits otherwise.
-/

set_option autoImplicit false

namespace Loremark.Decimal

/-- A positive finite number `mantissa * 2 ^ exponent`. `atPower` tells that the number below is
only half as far away as the number above. -/
structure Binary where
  mantissa : Nat
  exponent : Int
  atPower : Bool

/-- The parts of a positive finite floating-point number. -/
def Binary.ofBits (bits : Nat) : Binary :=
  let fraction : Nat := bits % Nat.pow 2 52
  let biased : Nat := bits / Nat.pow 2 52 % Nat.pow 2 11
  if biased == 0 then ⟨fraction, -1074, false⟩
  else ⟨fraction + Nat.pow 2 52, (biased : Int) - 1075, fraction == 0 && biased != 1⟩

/-- The interval of the reals that round to a number, over one denominator, with the number
itself. -/
structure Interval where
  low : Nat
  value : Nat
  high : Nat
  denominator : Nat
  closed : Bool

/-- The interval around a number. -/
def Interval.around (b : Binary) : Interval :=
  let scale := Nat.pow 2 (b.exponent - 2).toNat
  { low := (4 * b.mantissa - if b.atPower then 1 else 2) * scale
    value := 4 * b.mantissa * scale
    high := (4 * b.mantissa + 2) * scale
    denominator := Nat.pow 2 (2 - b.exponent).toNat
    closed := b.mantissa % 2 == 0 }

/-- Whether `numerator / (denominator * divisor)` lies in the interval. -/
def Interval.holds (i : Interval) (numerator divisor : Nat) : Bool :=
  if i.closed then i.low * divisor ≤ numerator && numerator ≤ i.high * divisor
  else i.low * divisor < numerator && numerator < i.high * divisor

/-- The position of the decimal point: the least `k` with the value below ten to the `k`. -/
def Interval.pointPosition (i : Interval) : Int :=
  if i.denominator ≤ i.value then (Nat.toDigits 10 (i.value / i.denominator)).length
  else 1 - (leadingZeros 400 1 : Nat)
where
  /-- The least power of ten, from `j` on, that brings the value to one or above. -/
  leadingZeros : Nat → Nat → Nat
    | 0, j => j
    | fuel + 1, j =>
      if i.denominator ≤ i.value * Nat.pow 10 j then j else leadingZeros fuel (j + 1)

/-- The point of the grid of `digits` significant digits that represents the interval, if there is
one: of the two grid points around the value the nearer one, and the even one of a tie. -/
def Interval.gridPoint? (i : Interval) (point : Int) (digits : Nat) : Option Nat :=
  let exponent := point - digits
  let up := Nat.pow 10 exponent.toNat
  let down := Nat.pow 10 (-exponent).toNat
  let below := i.value * down / (i.denominator * up)
  let hit (n : Nat) : Bool := i.holds (n * up * i.denominator) down
  let left := i.value * down - below * up * i.denominator
  let right := (below + 1) * up * i.denominator - i.value * down
  match hit below, hit (below + 1) with
  | true, true =>
    if left < right then some below
    else if right < left then some (below + 1)
    else if below % 2 == 0 then some below else some (below + 1)
  | true, false => some below
  | false, true => some (below + 1)
  | false, false => none

/-- The significant digits of the shortest decimal and the position of its point. -/
def shortest (b : Binary) : Text × Int :=
  let i := Interval.around b
  let point := i.pointPosition
  let found := (List.range 17).findSome? fun n => (i.gridPoint? point (n + 1)).map (·, n + 1)
  match found with
  | none => (['0'], point)
  | some (n, digits) =>
    let written := Text.ofNat n
    ((Text.trimEndOf '0' written), point + (written.length - digits : Int))

/-- Digits and point laid out: positional notation for points above minus four and up to sixteen,
else one digit before the point and an exponent of at least two digits. -/
def layOut (digits : Text) (point : Int) : Text :=
  let n := digits.length
  if -4 < point && point ≤ 16 then
    if point ≤ 0 then "0.".toList ++ List.replicate (-point).toNat '0' ++ digits
    else if point < n then digits.take point.toNat ++ '.' :: digits.drop point.toNat
    else digits ++ List.replicate (point.toNat - n) '0' ++ ".0".toList
  else
    let exponent := point - 1
    let size := Text.ofNat exponent.natAbs
    digits.take 1 ++ (if n ≤ 1 then [] else '.' :: digits.drop 1) ++
      (if exponent < 0 then "e-".toList else "e+".toList) ++
      (if size.length < 2 then '0' :: size else size)

/-- A floating-point number as messages and answers show it. -/
def shown (x : Float) : Text :=
  if x.isNaN then "nan".toList
  else
    let bits := x.toBits.toNat
    let sign := if bits / Nat.pow 2 63 == 1 then ['-'] else []
    let magnitude := bits % Nat.pow 2 63
    if x.isInf then sign ++ "inf".toList
    else if magnitude == 0 then sign ++ "0.0".toList
    else
      let (digits, point) := shortest (Binary.ofBits magnitude)
      sign ++ layOut digits point

end Loremark.Decimal
