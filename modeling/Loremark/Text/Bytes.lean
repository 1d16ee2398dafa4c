import Loremark.Text.Quoted

/-!
# Bytes and characters

Texts are stored as UTF-8. Reading stops at the first byte that belongs to no character, and tells
which bytes are refused: a byte that begins no character, a character that goes on wrongly, or one
that the bytes end within.

Bytes that are read leniently may write halves of surrogate pairs, which are no characters. What
they write is a list of codes then, each of them a character or a half, and every half has a number
of its own.
-/

set_option autoImplicit false

namespace Loremark

/-- A sequence of bytes. -/
abbrev Bytes := List UInt8

namespace Text

/-! ## Codes -/

/-- A member of a text that is decoded leniently. -/
inductive Code where
  | char (c : Char)
  /-- Half of a pair, with its place among the halves. -/
  | half (place : Fin 2048)
  deriving DecidableEq, Repr, Inhabited

namespace Code

/-- The number of a code. -/
def toNat : Code → Nat
  | char c => c.toNat
  | half place => 0xD800 + place

/-- The code of a number. -/
def ofNat (n : Nat) : Code :=
  if isHalf : 0xD800 ≤ n ∧ n < 0xE000 then half ⟨n - 0xD800, by omega⟩ else char (Char.ofNat n)

/-- The codes of a text. -/
def ofText (text : Text) : List Code := text.map char

/-- The text that codes are, unless one of them is half of a pair. -/
def text? : List Code → Option Text
  | [] => some []
  | char c :: codes => (text? codes).map (c :: ·)
  | half _ :: _ => none

/-- The characters among codes. -/
def chars : List Code → Text
  | [] => []
  | char c :: codes => c :: chars codes
  | half _ :: codes => chars codes

/-- Half of a pair as an escape. -/
def escapedHalf (place : Fin 2048) : Text := '\\' :: 'u' :: hexPadded 4 (0xD800 + place)

/-- Codes with their halves as escapes. -/
def withEscapes (shown : Char → Text) (codes : List Code) : Text :=
  codes.flatMap fun
    | char c => shown c
    | half place => escapedHalf place

/-- Codes as messages show them. -/
def quoted (codes : List Code) : Text :=
  let quote := quoteFor (chars codes)
  quote :: withEscapes (quotedChar quote) codes ++ [quote]

end Code

/-! ## Bytes -/

/-- The bytes of a text. -/
def toUtf8 (text : Text) : Bytes := text.flatMap String.utf8EncodeChar

/-- Why bytes are refused. -/
inductive ByteFault where
  | invalidStart
  | invalidContinuation
  | unexpectedEnd
  | truncated
  | outOfRange
  deriving DecidableEq, Repr

/-- The wording of the reasons. -/
def ByteFault.message : ByteFault → Text
  | invalidStart => "invalid start byte".toList
  | invalidContinuation => "invalid continuation byte".toList
  | unexpectedEnd => "unexpected end of data".toList
  | truncated => "truncated data".toList
  | outOfRange => "code point not in range(0x110000)".toList

/-- Bytes that are refused: their encoding, where they stand, and what they are. -/
structure DecodeError where
  codec : Text
  position : Nat
  bytes : Bytes
  fault : ByteFault
  deriving DecidableEq, Repr

/-- The wording of a refusal. -/
def DecodeError.message (e : DecodeError) : Text :=
  let place :=
    match e.bytes with
    | [byte] =>
      "byte 0x".toList ++ hexPadded 2 byte.toNat ++ " in position ".toList ++ ofNat e.position
    | bytes =>
      "bytes in position ".toList ++ ofNat e.position ++ '-' ::
        ofNat (e.position + bytes.length - 1)
  '\'' :: e.codec ++ "' codec can't decode ".toList ++ place ++ ": ".toList ++ e.fault.message

/-- The name of UTF-8 in messages. -/
def utf8 : Text := "utf-8".toList

/-- The number of bytes that follow the first byte of a character; `none` for a byte that begins
no character. -/
def followers? (lead : UInt8) : Option Nat :=
  if lead < 0x80 then some 0
  else if lead < 0xC2 then none
  else if lead < 0xE0 then some 1
  else if lead < 0xF0 then some 2
  else if lead < 0xF5 then some 3
  else none

/-- Whether a byte goes on with a character. -/
def continues (byte : UInt8) : Bool := 0x80 ≤ byte && byte < 0xC0

/-- Whether a byte can be the second one of a character: forms that are too long, the halves of
pairs and codes beyond the last one are ruled out. -/
def isSecond (lead second : UInt8) : Bool :=
  continues second &&
    (if lead == 0xE0 then 0xA0 ≤ second
    else if lead == 0xED then second < 0xA0
    else if lead == 0xF0 then 0x90 ≤ second
    else if lead == 0xF4 then second < 0x90
    else true)

/-- The bytes behind a first byte that go on with its character. -/
def goodFollowers (lead : UInt8) : Bytes → Bytes
  | [] => []
  | second :: bytes => if isSecond lead second then second :: bytes.takeWhile continues else []

/-- The code that the bytes of a character write. -/
def codeOfBytes (lead : UInt8) (followers : Bytes) : Nat :=
  let start :=
    match followers.length with
    | 0 => lead.toNat
    | 1 => lead.toNat % 32
    | 2 => lead.toNat % 16
    | _ => lead.toNat % 8
  followers.foldl (fun code byte => code * 64 + byte.toNat % 64) start

/-- Whether bytes write half of a pair, which is no character. -/
def isHalf (lead : UInt8) : Bytes → Bool
  | second :: third :: _ => lead == 0xED && 0xA0 ≤ second && second < 0xC0 && continues third
  | _ => false

/-- The character at the beginning of bytes, and the number of bytes behind its first one. -/
def readChar (position : Nat) (lead : UInt8) (bytes : Bytes) : Except DecodeError (Char × Nat) :=
  let refuse (count : Nat) (fault : ByteFault) : Except DecodeError (Char × Nat) :=
    .error ⟨utf8, position, lead :: bytes.take count, fault⟩
  match followers? lead with
  | none => refuse 0 .invalidStart
  | some count =>
    let good := goodFollowers lead (bytes.take count)
    if good.length == count then .ok (Char.ofNat (codeOfBytes lead good), count)
    else if good.length == bytes.length then refuse good.length .unexpectedEnd
    else refuse good.length .invalidContinuation

/-- The code at the beginning of bytes, and the number of bytes behind its first one. Halves of
pairs are let through. -/
def readCode (position : Nat) (lead : UInt8) (bytes : Bytes) : Except DecodeError (Code × Nat) :=
  if isHalf lead bytes then .ok (.ofNat (codeOfBytes lead (bytes.take 2)), 2)
  else (readChar position lead bytes).map fun (c, count) => (.char c, count)

/-- What bytes write, from a position on, one after another as `read` takes it and tells the number
of bytes behind the first one. `skip` bytes have been read. -/
def decodeFrom {α : Type} (read : Nat → UInt8 → Bytes → Except DecodeError (α × Nat)) :
    (skip position : Nat) → Bytes → Except DecodeError (List α)
  | _, _, [] => .ok []
  | skip + 1, position, _ :: bytes => decodeFrom read skip (position + 1) bytes
  | 0, position, lead :: bytes => do
    let (item, count) ← read position lead bytes
    return item :: (← decodeFrom read count (position + 1) bytes)

/-- The text that bytes write. -/
def ofUtf8 (bytes : Bytes) : Except DecodeError Text := decodeFrom readChar 0 0 bytes

/-- The codes that bytes write, halves of pairs among them. -/
def codesOfUtf8 (bytes : Bytes) : Except DecodeError (List Code) := decodeFrom readCode 0 0 bytes

/-- The text that bytes write which arrive in blocks. A character that a block ends within goes on
in the next one, so that `carried` stands before it, and places are counted from there. -/
def ofBlocks (carried : Bytes) : List Bytes → Except DecodeError Text
  | [] => ofUtf8 carried
  | block :: blocks =>
    let bytes := carried ++ block
    match ofUtf8 bytes with
    | .ok text => do return text ++ (← ofBlocks [] blocks)
    | .error e =>
      if e.fault == .unexpectedEnd then do
        let text ← ofUtf8 (bytes.take e.position)
        return text ++ (← ofBlocks (bytes.drop e.position) blocks)
      else .error e

/-- Bytes in blocks of a size. -/
def blocksOf (size : Nat) (bytes : Bytes) : List Bytes :=
  (List.range ((bytes.length + size - 1) / size)).map fun index =>
    (bytes.drop (index * size)).take size

end Text

end Loremark
