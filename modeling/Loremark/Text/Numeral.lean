import Loremark.Text.Quoted

/-!
# Numerals

How integers are read from text and written as text. Digits of every script count, single
underscores may stand between digits, and a numeral of more than 4300 digits is refused rather than
read. An integer of more digits than that is not written either.
-/

set_option autoImplicit false

namespace Loremark.Text

/-- The largest number of digits that an integer is read from or written with. -/
def digitLimit : Nat := 4300

/-- Why a text is not read as an integer. -/
inductive NumeralError where
  /-- The text is not a numeral. -/
  | invalid (text : Text)
  /-- The numeral has more digits than the limit allows. -/
  | tooLong (digits : Nat)
  deriving DecidableEq, Repr

/-- The wording of the two reasons. -/
def NumeralError.message : NumeralError → Text
  | .invalid text => "invalid literal for int() with base 10: ".toList ++
      (quoted text).take 200
  | .tooLong digits =>
    "Exceeds the limit (4300 digits) for integer string conversion: value has ".toList ++
      ofNat digits ++
      " digits; use sys.set_int_max_str_digits() to increase the limit".toList

/-- The value of a list of digits of any script; characters that are no digits count as zero. -/
def valueOfDigits (digits : Text) : Nat :=
  digits.foldl (fun value c => value * 10 + (digitValue? c).getD 0) 0

/-- The number that a run of digits writes, unless it is too long. -/
def readDigits (digits : Text) : Except NumeralError Nat :=
  if digits.length > digitLimit then .error (.tooLong digits.length)
  else .ok (valueOfDigits digits)

/-- The digits that a text begins with, without the underscores between them, and what follows.
`none` when an underscore has no digit behind it. -/
def digitRun? : Text → Option (Text × Text)
  | [] => some ([], [])
  | '_' :: c :: text =>
    if isDecimal c then (digitRun? text).map fun (digits, rest) => (c :: digits, rest) else none
  | c :: text =>
    if isDecimal c then (digitRun? text).map fun (digits, rest) => (c :: digits, rest)
    else if c == '_' then none
    else some ([], c :: text)

/-- A sign in front of a numeral, and what follows it. -/
def splitSign : Text → Bool × Text
  | '-' :: text => (true, text)
  | '+' :: text => (false, text)
  | text => (false, text)

/-- Reads an integer: blanks around it are skipped and one sign may stand in front. That a run of
digits is too long is found before what follows the run is looked at. -/
def readInt (text : Text) : Except NumeralError Int :=
  let (negative, numeral) := splitSign (unpad text)
  match numeral, digitRun? numeral with
  | '_' :: _, _ => .error (.invalid text)
  | _, none | _, some ([], _) => .error (.invalid text)
  | _, some (digits, rest) => do
    let value ← readDigits digits
    if rest.isEmpty then return if negative then -(value : Int) else value
    else .error (.invalid text)

/-- An integer that is not written because it has too many digits. -/
structure Overlong where
  value : Int
  deriving DecidableEq, Repr

/-- The wording of the refusal. It does not name the integer. -/
def Overlong.message : Overlong → Text := fun _ =>
  "Exceeds the limit (4300 digits) for integer string conversion; ".toList ++
    "use sys.set_int_max_str_digits() to increase the limit".toList

/-- The digits of an integer, unless they are too many. A minus sign does not count. -/
def writeInt (n : Int) : Except Overlong Text :=
  if digitLimit < (ofNat n.natAbs).length then .error ⟨n⟩ else .ok (ofInt n)

end Loremark.Text
