import Loremark.Json.Read
import Loremark.Text.Bytes

/-!
# JSON as bytes

A JSON text that arrives as bytes begins with a mark of its encoding, or its first bytes tell the
encoding, because a JSON text begins with a character of ASCII. Halves of pairs that stand alone
are let through as they are.
-/

set_option autoImplicit false

namespace Loremark.Json

open Loremark.Text (Code)

/-- The encodings of JSON texts. -/
inductive Encoding where
  | utf8
  /-- UTF-8 behind a mark. -/
  | markedUtf8
  /-- Two bytes for a unit; `marked` tells whether a mark stands in front. -/
  | utf16 (bigEndian marked : Bool)
  /-- Four bytes for a character. -/
  | utf32 (bigEndian marked : Bool)
  deriving DecidableEq, Repr

/-- The name of an encoding in messages. -/
def Encoding.name : Encoding → Text
  | utf8 | markedUtf8 => Text.utf8
  | utf16 bigEndian _ => "utf-16-".toList ++ (if bigEndian then "be" else "le").toList
  | utf32 bigEndian _ => "utf-32-".toList ++ (if bigEndian then "be" else "le").toList

/-- The marks of encodings; one that begins with another stands in front of it. -/
def Encoding.marks : List (Bytes × Encoding) := [
  ([0, 0, 0xFE, 0xFF], utf32 true true),
  ([0xFF, 0xFE, 0, 0], utf32 false true),
  ([0xFE, 0xFF], utf16 true true),
  ([0xFF, 0xFE], utf16 false true),
  ([0xEF, 0xBB, 0xBF], markedUtf8)]

/-- The encoding that the zero bytes at the beginning tell. -/
def Encoding.ofZeros : Bytes → Encoding
  | a :: b :: c :: d :: _ =>
    if a == 0 then (if b == 0 then utf32 true false else utf16 true false)
    else if b == 0 then (if c == 0 && d == 0 then utf32 false false else utf16 false false)
    else utf8
  | [a, b] => if a == 0 then utf16 true false else if b == 0 then utf16 false false else utf8
  | _ => utf8

/-- The encoding that a mark or the zero bytes at the beginning tell. -/
def Encoding.ofBytes (bytes : Bytes) : Encoding :=
  match marks.find? fun (mark, _) => mark.isPrefixOf bytes with
  | some (_, encoding) => encoding
  | none => ofZeros bytes

/-- The number that bytes write. -/
def numberOf (bigEndian : Bool) (bytes : Bytes) : Nat :=
  (if bigEndian then bytes else bytes.reverse).foldl (fun n byte => n * 256 + byte.toNat) 0

/-- The codes that two-byte units write. -/
def codesOfUnits : List Nat → List Code
  | [] => []
  | [unit] => [.ofNat unit]
  | high :: low :: units =>
    if isHighHalf high && isLowHalf low then .char (charOfHalves high low) :: codesOfUnits units
    else .ofNat high :: codesOfUnits (low :: units)

/-- The two-byte units of bytes. -/
def unitsOf (bigEndian : Bool) (position : Nat) : Bytes → Except Text.DecodeError (List Nat)
  | [] => .ok []
  | [byte] => .error ⟨(Encoding.utf16 bigEndian false).name, position, [byte], .truncated⟩
  | a :: b :: bytes => do
    return numberOf bigEndian [a, b] :: (← unitsOf bigEndian (position + 2) bytes)

/-- The codes whose numbers have four bytes each. -/
def codesOfNumbers (bigEndian : Bool) (position : Nat) :
    Bytes → Except Text.DecodeError (List Code)
  | [] => .ok []
  | a :: b :: c :: d :: bytes =>
    let code := numberOf bigEndian [a, b, c, d]
    if 0x10FFFF < code then
      .error ⟨(Encoding.utf32 bigEndian false).name, position, [a, b, c, d], .outOfRange⟩
    else do return .ofNat code :: (← codesOfNumbers bigEndian (position + 4) bytes)
  | bytes => .error ⟨(Encoding.utf32 bigEndian false).name, position, bytes, .truncated⟩

/-- The codes that bytes write in an encoding. -/
def Encoding.decode (encoding : Encoding) (bytes : Bytes) : Except Text.DecodeError (List Code) :=
  let size (marked : Bool) (length : Nat) : Nat := if marked then length else 0
  match encoding with
  | utf8 => Text.codesOfUtf8 bytes
  | markedUtf8 => Text.codesOfUtf8 (bytes.drop 3)
  | utf16 bigEndian marked => do
    return codesOfUnits (← unitsOf bigEndian (size marked 2) (bytes.drop (size marked 2)))
  | utf32 bigEndian marked =>
    codesOfNumbers bigEndian (size marked 4) (bytes.drop (size marked 4))

/-- Reads bytes as JSON; the error is its wording. -/
def readBytes (bytes : Bytes) : Except Text Value :=
  match (Encoding.ofBytes bytes).decode bytes with
  | .error e => .error e.message
  | .ok text => (read text).mapError fun e => e.message text

end Loremark.Json
