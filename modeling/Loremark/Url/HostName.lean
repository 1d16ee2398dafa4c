import Loremark.Text.Basic

/-!
# International host names

A label of a host name that is not plain ASCII is written in ASCII: its plain characters first,
then, behind a hyphen, numbers that tell where the others go. The numbers have digits of base
thirty-six whose thresholds follow a bias that adapts to the distances seen so far. Every loop
ends by a measure: an encoded number and an adapting distance shrink, and reading uses up text.
-/

set_option autoImplicit false

namespace Loremark.Url.HostName

/-- The digit of a value below thirty-six. -/
def digit (value : Nat) : Char :=
  if value < 26 then Char.ofNat (97 + value) else Char.ofNat (48 + value - 26)

/-- The value of a digit; letters count up to case. -/
def value? (c : Char) : Option Nat :=
  if Text.isDigit c then some (c.toNat - 48 + 26)
  else if Text.isLetter c then some ((Text.toSmall c).toNat - 97)
  else none

/-- The threshold of the digit at a position, for a bias. -/
def threshold (position bias : Nat) : Nat :=
  if position ≤ bias then 1 else if bias + 26 ≤ position then 26 else position - bias

/-- A threshold is at least one. -/
theorem threshold_pos (position bias : Nat) : 1 ≤ threshold position bias := by
  unfold threshold
  split
  · omega
  · split <;> omega

/-- A threshold leaves room for ten digits of base thirty-six. -/
theorem threshold_le (position bias : Nat) : threshold position bias ≤ 26 := by
  unfold threshold
  split
  · omega
  · split <;> omega

/-- Scales a distance down; the second part counts the divisions, thirty-six each. -/
def scaleDown (distance steps : Nat) : Nat × Nat :=
  if 455 < distance then scaleDown (distance / 35) (steps + 36) else (distance, steps)
termination_by distance
decreasing_by exact Nat.div_lt_self (by omega) (by omega)

/-- The bias after a distance, with the number of characters placed so far. -/
def adapt (distance placed : Nat) (isFirst : Bool) : Nat :=
  let damped := if isFirst then distance / 700 else distance / 2
  let (scaled, steps) := scaleDown (damped + damped / placed) 0
  steps + 36 * scaled / (scaled + 38)

/-- A number as digits, the least one first. -/
def digits (bias position number : Nat) : Text :=
  let t := threshold position bias
  if number < t then [digit number]
  else digit (t + (number - t) % (36 - t)) ::
    digits bias (position + 36) ((number - t) / (36 - t))
termination_by number
decreasing_by
  have low := threshold_pos position bias
  have high := threshold_le position bias
  calc (number - threshold position bias) / (36 - threshold position bias)
      ≤ number - threshold position bias := Nat.div_le_self _ _
    _ < number := by omega

/-- The state of encoding: the distance since the last character placed, and what has been
written. -/
structure Encoding where
  distance : Nat
  bias : Nat
  placed : Nat
  written : Text

/-- Passes over a character of the label while the characters with code `code` are placed. -/
def Encoding.pass (plain code : Nat) (e : Encoding) (c : Char) : Encoding :=
  if c.toNat < code then { e with distance := e.distance + 1 }
  else if c.toNat == code then
    { distance := 0
      bias := adapt e.distance (e.placed + 1) (e.placed == plain)
      placed := e.placed + 1
      written := e.written ++ digits e.bias 36 e.distance }
  else e

/-- Places the characters of the given codes, in rising order. `last` is the code up to which all
have been placed. -/
def encodeCodes (label : Text) (plain : Nat) : (codes : List Nat) → (last : Nat) → Encoding → Text
  | [], _, e => e.written
  | code :: codes, last, e =>
    let e := { e with distance := e.distance + (code - last) * (e.placed + 1) }
    let e := label.foldl (Encoding.pass plain code) e
    encodeCodes label plain codes (code + 1) { e with distance := e.distance + 1 }

/-- Inserts a number into a rising list without repetition. -/
def insertCode (code : Nat) : List Nat → List Nat
  | [] => [code]
  | first :: codes =>
    if code < first then code :: first :: codes
    else if code == first then first :: codes
    else first :: insertCode code codes

/-- Whether a character is ASCII. -/
def isAscii (c : Char) : Bool := c.toNat < 128

/-- The ASCII form of a label, without the mark in front of it. -/
def encodeLabel (label : Text) : Text :=
  let plain := label.filter isAscii
  let codes := (label.filter (!isAscii ·)).foldr (fun c codes => insertCode c.toNat codes) []
  plain ++ (if plain.isEmpty then [] else ['-']) ++
    encodeCodes label plain.length codes 128 ⟨0, 72, plain.length, []⟩

/-- Reads a number: its value, and what follows its digits. -/
def number? (bias : Nat) : (position weight value : Nat) → Text → Option (Nat × Text)
  | _, _, _, [] => none
  | position, weight, value, c :: text => do
    let d ← value? c
    let value := value + d * weight
    let t := threshold position bias
    if d < t then some (value, text)
    else number? bias (position + 36) (weight * (36 - t)) value text

/-- Places characters into `done` as the numbers of a text tell, up to the given number of them.
`point` counts through the codes, and at each code through the places. -/
def decodeCodes? : (fuel : Nat) → (code position bias : Nat) → (isFirst : Bool) → (done : Text) →
    Text → Option Text
  | 0, _, _, _, _, done, _ => some done
  | _ + 1, _, _, _, _, done, [] => some done
  | fuel + 1, code, position, bias, isFirst, done, text => do
    let (distance, rest) ← number? bias 36 1 0 text
    let places := done.length + 1
    let position := position + distance
    let code := code + position / places
    if 0x10FFFF < code then none
    else
      let position := position % places
      let c := if (Nat.isValidChar code : Bool) then Char.ofNat code else '\ufffd'
      decodeCodes? fuel code (position + 1) (adapt distance places isFirst) false
        (done.take position ++ c :: done.drop position) rest

/-- The label that an ASCII form without its mark stands for. -/
def decodeLabel? (text : Text) : Option Text :=
  if !text.all isAscii then none
  else
    let tail := (text.reverse.takeWhile (· != '-')).reverse
    let plain := (text.take (text.length - tail.length)).dropLast
    decodeCodes? text.length 128 0 72 true plain tail

/-- The mark in front of an encoded label. -/
def mark : Text := "xn--".toList

/-- The dots that separate labels. -/
def isDot (c : Char) : Bool := c == '.' || c == '。' || c == '．' || c == '｡'

/-- Applies a function to every label of a host name. What stands in front of an at sign stays as
it is. -/
def mapLabels? (f : Text → Option Text) (host : Text) : Option Text := do
  let (user, host) : Text × Text :=
    match Text.splitOn '@' host with
    | user :: domain :: _ => (user ++ ['@'], domain)
    | _ => ([], host)
  let labels ← (Text.splitOn '.' (host.map fun c => if isDot c then '.' else c)).mapM f
  some (user ++ Text.joinWith ['.'] labels)

/-- Whether a label has to be encoded. -/
def needsEncoding (label : Text) : Bool := label.any fun c => 0x7E < c.toNat

/-- The host name in ASCII. -/
def toAscii (host : Text) : Text :=
  (mapLabels? (fun label =>
    some (if needsEncoding label then mark ++ encodeLabel label else label)) host).getD host

/-- The host name as it is shown; one that cannot be decoded is shown as it is. -/
def toShown (host : Text) : Text :=
  (mapLabels? (fun label =>
    match Text.after? mark label with
    | some encoded => decodeLabel? (encoded.map Text.toSmall)
    | none => some label) host).getD host

end Loremark.Url.HostName
