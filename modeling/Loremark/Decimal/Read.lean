import Loremark.Text.Numeral

/-!
# Decimal numerals with a fraction

Reading a floating-point number from text. Blanks around the numeral are skipped, a sign may stand
in front, the fraction and the exponent may be missing (one side of the point too), single
underscores may stand between digits, and infinity and not-a-number have names in any case.
-/

set_option autoImplicit false

namespace Loremark.Decimal

/-- The floating-point number nearest to `digits * 10 ^ exponent`. Exponents far outside the range
of the format are answered without computing the power. -/
def ofScaled (digits : Nat) (exponent : Int) : Float :=
  let size : Int := (Nat.toDigits 10 digits).length
  if digits == 0 then 0.0
  else if size + exponent > 400 then 1.0 / 0.0
  else if size + exponent < -400 then 0.0
  else if exponent < 0 then Float.ofScientific digits true exponent.natAbs
  else Float.ofScientific digits false exponent.natAbs

/-- A run of digits that may be empty, and what follows. -/
def optionalDigits? : Text → Option (Text × Text)
  | c :: text => if Text.isDecimal c then Text.digitRun? (c :: text) else some ([], c :: text)
  | [] => some ([], [])

/-- The exponent part of a numeral, if one starts here, and what follows. -/
def exponentPart? : Text → Option (Int × Text)
  | c :: text =>
    if c == 'e' || c == 'E' then do
      let (negative, text) := Text.splitSign text
      let (digits, rest) ← optionalDigits? text
      if digits.isEmpty then none
      else
        let size := Text.valueOfDigits digits
        some (if negative then -(size : Int) else size, rest)
    else some (0, c :: text)
  | [] => some (0, [])

/-- The value of an unsigned numeral. -/
def readUnsigned? (text : Text) : Option Float :=
  let name := text.map Text.toSmall
  if name == "inf".toList || name == "infinity".toList then some (1.0 / 0.0)
  else if name == "nan".toList then some (0.0 / 0.0)
  else do
    let (whole, rest) ← optionalDigits? text
    let (fraction, rest) ←
      match rest with
      | '.' :: rest => optionalDigits? rest
      | rest => some ([], rest)
    if whole.isEmpty && fraction.isEmpty then none
    let (exponent, rest) ← exponentPart? rest
    if !rest.isEmpty then none
    some (ofScaled (Text.valueOfDigits (whole ++ fraction)) (exponent - fraction.length))

/-- Reads a floating-point number; `none` when the text is no numeral. -/
def read? (text : Text) : Option Float :=
  let (negative, numeral) := Text.splitSign (Text.unpad text)
  (readUnsigned? numeral).map fun x => if negative then -x else x

end Loremark.Decimal
