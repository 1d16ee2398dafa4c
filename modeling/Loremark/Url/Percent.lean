import Loremark.Text.Quoted

/-!
# Percent encoding

Characters that may not stand in an address are written as the bytes of their UTF-8 form, each a
percent sign with two hexadecimal digits. Encoding leaves alone what is already encoded. Decoding
gives characters back where the bytes form any, except for characters that would change the
meaning of the address.
-/

set_option autoImplicit false

namespace Loremark.Url

/-- A byte as a percent sign and two hexadecimal digits in capitals. -/
def percentByte (byte : UInt8) : Text :=
  '%' :: (Text.hexPadded 2 byte.toNat).map Char.toUpper

/-- A character as percent-encoded bytes. -/
def percentChar (c : Char) : Text := (String.utf8EncodeChar c).flatMap percentByte

/-- The marks that addresses may hold. -/
def plainMarks : Text := ";/?:@&=+$,-_.!~*'()#".toList

/-- Whether a character stands in an address as it is. -/
def isPlain (c : Char) : Bool := Text.isAlphanumeric c || plainMarks.contains c

/-- An address in which every other character is percent-encoded. -/
def encode : Text → Text
  | [] => []
  | c :: text =>
    match c, text with
    | '%', a :: b :: _ =>
      if Text.isHexDigit a && Text.isHexDigit b then '%' :: encode text
      else percentChar '%' ++ encode text
    | _, _ => if isPlain c then c :: encode text else percentChar c ++ encode text

/-- A run of percent-encoded bytes at the beginning of a text. -/
def byteRun : Text → List Nat
  | '%' :: a :: b :: text =>
    if Text.isHexDigit a && Text.isHexDigit b then Text.readBase 16 [a, b] :: byteRun text else []
  | _ => []

/-- Whether a byte continues a character. -/
def isContinuation (byte : Nat) : Bool := byte / 64 == 2

/-- The number of bytes that a first byte announces for its character. -/
def announced (byte : Nat) : Nat :=
  if byte / 32 == 6 then 2 else if byte / 16 == 14 then 3 else if byte / 8 == 30 then 4 else 1

/-- The character that bytes form, if they are its shortest form. -/
def charOfBytes? : List Nat → Option Char
  | [a, b] =>
    let code := a % 32 * 64 + b % 64
    if 0x80 ≤ code then some (Char.ofNat code) else none
  | [a, b, c] =>
    let code := (a % 16 * 64 + b % 64) * 64 + c % 64
    if 0x800 ≤ code && !(0xD800 ≤ code && code ≤ 0xDFFF) then some (Char.ofNat code) else none
  | [a, b, c, d] =>
    let code := ((a % 8 * 64 + b % 64) * 64 + c % 64) * 64 + d % 64
    if 0x10000 ≤ code && code ≤ 0x10FFFF then some (Char.ofNat code) else none
  | _ => none

/-- The characters that a run of bytes forms; bytes that form none become replacement characters,
and the characters to keep stay encoded. `skip` bytes have been dealt with. -/
def decodeRun (kept : Text) : (skip : Nat) → List Nat → Text
  | _, [] => []
  | skip + 1, _ :: bytes => decodeRun kept skip bytes
  | 0, byte :: bytes =>
    if byte < 0x80 then
      let c := Char.ofNat byte
      (if kept.contains c then percentByte byte.toUInt8 else [c]) ++ decodeRun kept 0 bytes
    else
      let count := announced byte
      let more := bytes.take (count - 1)
      if 1 < count && more.length == count - 1 && more.all isContinuation then
        (match charOfBytes? (byte :: more) with
          | some c => [c]
          | none => List.replicate count '\ufffd') ++ decodeRun kept (count - 1) bytes
      else '\ufffd' :: decodeRun kept 0 bytes

/-- A text whose percent-encoded runs are decoded. `skip` characters have been dealt with. -/
def decodeFrom (kept : Text) : (skip : Nat) → Text → Text
  | _, [] => []
  | skip + 1, _ :: text => decodeFrom kept skip text
  | 0, c :: text =>
    match byteRun (c :: text) with
    | [] => c :: decodeFrom kept 0 text
    | bytes => decodeRun kept 0 bytes ++ decodeFrom kept (3 * bytes.length - 1) text

/-- The characters that stay encoded in the text shown for an address. -/
def keptMarks : Text := ";/?:@&=+$,#%".toList

/-- An address as it is shown. -/
def decode (text : Text) : Text := decodeFrom keptMarks 0 text

end Loremark.Url
