import Loremark.Text.Bytes

/-!
# Base 64

Bytes written with 64 characters: three bytes become four characters, and a group that is not full
is filled up with equals signs. Reading passes over all other characters, and ends where a group has
been filled up.
-/

set_option autoImplicit false

namespace Loremark.Text

/-- The characters for the numbers up to 63. -/
def base64Alphabet : Text :=
  "ABCDEFGHIJKLMNOPQRSTUVWXYZabcdefghijklmnopqrstuvwxyz0123456789+/".toList

/-- The character for the six bits of a number that stand above its last `shift` bits. -/
def base64Char (n shift : Nat) : Char := base64Alphabet.getD ((n >>> shift) % 64) 'A'

/-- Bytes in base 64. -/
def toBase64 : Bytes → Text
  | [] => []
  | [a] =>
    let n := a.toNat <<< 16
    [base64Char n 18, base64Char n 12, '=', '=']
  | [a, b] =>
    let n := (a.toNat <<< 16) + (b.toNat <<< 8)
    [base64Char n 18, base64Char n 12, base64Char n 6, '=']
  | a :: b :: c :: bytes =>
    let n := (a.toNat <<< 16) + (b.toNat <<< 8) + c.toNat
    base64Char n 18 :: base64Char n 12 :: base64Char n 6 :: base64Char n 0 :: toBase64 bytes

/-- Reads a group of characters. `count` of them have been read, whose last six bits or fewer are
still to be used in `left`, and `fill` equals signs stand behind the last one. -/
def readBase64? : (count left fill : Nat) → Text → Option Bytes
  | count, _, _, [] => if count == 0 then some [] else none
  | count, left, fill, c :: text =>
    if c == '=' then
      if 2 ≤ count && 4 ≤ count + fill + 1 then some []
      else readBase64? count left (if 2 ≤ count then fill + 1 else fill) text
    else
      match base64Alphabet.idxOf? c with
      | none => readBase64? count left fill text
      | some six =>
        match count with
        | 0 => readBase64? 1 six 0 text
        | 1 => (readBase64? 2 (six % 16) 0 text).map ((left * 4 + six / 16).toUInt8 :: ·)
        | 2 => (readBase64? 3 (six % 4) 0 text).map ((left * 16 + six / 4).toUInt8 :: ·)
        | _ => (readBase64? 0 0 0 text).map ((left * 64 + six).toUInt8 :: ·)

/-- The bytes that a text writes in base 64. -/
def ofBase64? (text : Text) : Option Bytes := readBase64? 0 0 0 text

end Loremark.Text
