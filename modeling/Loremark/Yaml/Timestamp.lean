import Loremark.Yaml.Cursor
import Loremark.Value

/-!
# Dates and times of day

A timestamp is a date, alone or with a time of day behind it. The time of day may have a fraction of
a second and tell the zone it is meant in; the moment is then given as that of Greenwich.
-/

set_option autoImplicit false

namespace Loremark.Yaml

/-- A time of day as it is written: the digits of the fraction of its second, and the distance of
its zone from Greenwich in minutes. -/
structure Clock where
  hour : Nat
  minute : Nat
  second : Nat
  fraction : Text
  zone : Option Int
  deriving DecidableEq, Repr, Inhabited

/-- A timestamp as it is written. -/
structure Timestamp where
  year : Nat
  month : Nat
  day : Nat
  /-- Whether month and day have two digits each. -/
  isFull : Bool
  clock : Option Clock
  deriving DecidableEq, Repr, Inhabited

/-- A number of `least` to `most` digits at the beginning of a text, and what follows. -/
def readDigits? (least most : Nat) (text : Text) : Option (Text × Text) :=
  let digits := text.takeWhile Text.isDigit
  if least ≤ digits.length && digits.length ≤ most then some (digits, text.drop digits.length)
  else none

/-- What follows a mark. -/
def mark? (mark : Char) : Text → Option Text
  | c :: text => if c == mark then some text else none
  | [] => none

/-- The zone that the end of a time of day tells; none is told by an empty end, and Greenwich
counts as none. -/
def readZone? (text : Text) : Option (Option Int) :=
  let blank := text.dropWhile fun c => c == ' ' || c == '\t'
  match blank with
  | [] => if text.isEmpty then some none else none
  | ['Z'] => some none
  | sign :: rest =>
    if sign != '-' && sign != '+' then none
    else do
      let (hours, rest) ← readDigits? 1 2 rest
      let minutes ←
        if rest.isEmpty then pure []
        else do
          let (minutes, rest) ← readDigits? 2 2 (← mark? ':' rest)
          if rest.isEmpty then pure minutes else none
      let size : Int := Text.readBase 10 hours * 60 + Text.readBase 10 minutes
      return some (if sign == '-' then -size else size)

/-- The time of day that a text writes. -/
def readClock? (text : Text) : Option Clock := do
  let (hour, text) ← readDigits? 1 2 text
  let (minute, text) ← readDigits? 2 2 (← mark? ':' text)
  let (second, text) ← readDigits? 2 2 (← mark? ':' text)
  let (fraction, text) : Text × Text :=
    match text with
    | '.' :: rest => (rest.takeWhile Text.isDigit, rest.dropWhile Text.isDigit)
    | text => ([], text)
  let zone ← readZone? text
  return {
    hour := Text.readBase 10 hour, minute := Text.readBase 10 minute
    second := Text.readBase 10 second, fraction, zone }

/-- The timestamp that a text writes. -/
def readTimestamp? (text : Text) : Option Timestamp := do
  let (year, text) ← readDigits? 4 4 text
  let (month, text) ← readDigits? 1 2 (← mark? '-' text)
  let (day, text) ← readDigits? 1 2 (← mark? '-' text)
  let clock ←
    match text with
    | [] => pure none
    | c :: rest =>
      if c == 'T' || c == 't' then (readClock? rest).map some
      else if c == ' ' || c == '\t' then
        (readClock? (rest.dropWhile fun c => c == ' ' || c == '\t')).map some
      else none
  return {
    year := Text.readBase 10 year, month := Text.readBase 10 month, day := Text.readBase 10 day
    isFull := month.length == 2 && day.length == 2, clock }

/-- Whether a plain scalar is taken for a timestamp: a date alone has to have all its digits. -/
def isTimestamp (text : Text) : Bool :=
  (readTimestamp? text).any fun timestamp => timestamp.isFull || timestamp.clock.isSome

/-! ## Moments -/

/-- The number of days of a month. -/
def daysOf (year month : Nat) : Nat :=
  if month == 2 then
    if (year % 4 == 0 && year % 100 != 0) || year % 400 == 0 then 29 else 28
  else if [4, 6, 9, 11].contains month then 30
  else 31

/-- The day after a day. -/
def dayAfter : Nat × Nat × Nat → Nat × Nat × Nat
  | (year, month, day) =>
    if day < daysOf year month then (year, month, day + 1)
    else if month < 12 then (year, month + 1, 1)
    else (year + 1, 1, 1)

/-- The day before a day. -/
def dayBefore : Nat × Nat × Nat → Nat × Nat × Nat
  | (year, month, day) =>
    if 1 < day then (year, month, day - 1)
    else if 1 < month then (year, month - 1, daysOf year (month - 1))
    else (year - 1, 12, 31)

/-- A day that is a number of days later, or earlier. -/
def shiftDay : Int → Nat × Nat × Nat → Nat × Nat × Nat
  | .ofNat count, day => count.repeat dayAfter day
  | .negSucc count, day => (count + 1).repeat dayBefore day

/-- The millionths of a second that the digits of a fraction write, rounded by the seventh digit;
a second is left over if they come to a whole one. -/
def microsOf (fraction : Text) : Nat × Nat :=
  let kept := fraction.take 6
  let micros := Text.readBase 10 (kept ++ List.replicate (6 - kept.length) '0') +
    (if (fraction[6]?).any ('4' < ·) then 1 else 0)
  if micros = 1000000 then (0, 1) else (micros, 0)

/-- The message for a date that there is not. -/
def dateFault? (year month day : Nat) : Option String :=
  if year == 0 then some "year 0 is out of range"
  else if month == 0 || 12 < month then some "month must be in 1..12"
  else if day == 0 || daysOf year month < day then some "day is out of range for month"
  else none

/-- The message for a time of day that there is not. -/
def clockFault? (clock : Clock) : Option String :=
  if 23 < clock.hour then some "hour must be in 0..23"
  else if 59 < clock.minute then some "minute must be in 0..59"
  else if 59 < clock.second then some "second must be in 0..59"
  else none

/-- The moment of a date and a time of day. What is left over of the fraction counts against the
distance of the zone. -/
def momentOf (year month day : Nat) (clock : Clock) : Except Error Value :=
  let (micros, carry) := microsOf clock.fraction
  let later : Int :=
    match clock.zone with
    | none => carry
    | some minutes => if minutes < 0 then -minutes * 60 + carry else -(minutes * 60) - carry
  let seconds : Int := (clock.hour * 60 + clock.minute) * 60 + clock.second + later
  let (year, month, day) := shiftDay (seconds.fdiv 86400) (year, month, day)
  let second := (seconds.fmod 86400).toNat
  if year == 0 || 9999 < year then .error (.value "date value out of range".toList)
  else
    .ok (.moment year month day (second / 3600) (second / 60 % 60) (second % 60) micros)

/-- The value of a timestamp. -/
def Timestamp.value (timestamp : Timestamp) : Except Error Value :=
  let ⟨year, month, day, _, clock⟩ := timestamp
  match dateFault? year month day, clock with
  | some message, _ => .error (.value message.toList)
  | none, none => .ok (.date year month day)
  | none, some clock =>
    match clockFault? clock with
    | some message => .error (.value message.toList)
    | none => momentOf year month day clock

end Loremark.Yaml
