import Loremark.Text.Numeral

/-!
# Spoiler markers and chapter mentions

A quote is a spoiler when it begins with a marker: an opening bracket, an exclamation mark, the
word `spoiler`, optionally blanks, the word `chapter`, blanks and a number, then the closing
bracket. A container is a spoiler when its class says so, and then its chapter is the first
mention of one in its text. Letters are compared up to case, and blanks and digits are those of
every script. `Region` is what detection finds; whether it is shown is decided by the gate.
-/

set_option autoImplicit false

namespace Loremark.Spoiler

/-- The notation that a spoiler was written in. -/
inductive Form where
  | blockquote
  | container
  deriving DecidableEq, Repr, Inhabited

/-- The name of a notation. -/
def Form.name : Form → Text
  | .blockquote => "blockquote".toList
  | .container => "container".toList

/-- A detected spoiler. -/
structure Region where
  /-- The chapter that a reader must have reached, if one is given. -/
  threshold : Option Int
  /-- The text of the spoiler without its marker. -/
  inner : Text
  form : Form
  deriving DecidableEq, Repr, Inhabited

/-- The word that marks a spoiler, in small letters. -/
def spoilerWord : Text := "spoiler".toList

/-- The word in front of a chapter number, in small letters. -/
def chapterWord : Text := "chapter".toList

/-- A run of at least one blank at the beginning of a text, cut off. -/
def afterBlanks? : Text → Option Text
  | c :: text => if Text.isBlank c then some (Text.trimStart text) else none
  | [] => none

/-- The digits of a chapter mention at the beginning of a text, and what follows. -/
def mention? (text : Text) : Option (Text × Text) := do
  let rest ← afterBlanks? (← Text.afterWord? Text.sameLetter chapterWord text)
  match rest.takeWhile Text.isDecimal with
  | [] => none
  | digits => some (digits, rest.dropWhile Text.isDecimal)

/-- Reads a marker at the beginning of a text: its digits, if it has any, and what follows the
closing bracket. -/
def marker? (text : Text) : Option (Option Text × Text) := do
  let rest ← Text.after? ['[', '!'] text
  match ← Text.afterWord? Text.sameLetter spoilerWord rest with
  | ']' :: after => some (none, after)
  | rest =>
    let (digits, rest) ← mention? (← afterBlanks? rest)
    match rest with
    | ']' :: after => some (some digits, after)
    | _ => none

/-- The number of a marker or mention. -/
def chapterOf : Option Text → Except Text.NumeralError (Option Int)
  | none => .ok none
  | some digits => do return some (← Text.readDigits digits)

/-- Detects a spoiler in the text of a quote. -/
def detectQuote (text : Text) : Except Text.NumeralError (Option Region) :=
  match marker? text with
  | none => .ok none
  | some (digits, rest) => do
    return some ⟨← chapterOf digits, Text.trimStart rest, .blockquote⟩

/-- Whether a text in small letters contains the spoiler word. -/
def mentionsSpoiler (className : Text) : Bool :=
  Text.occurs spoilerWord (className.map Text.toSmall)

/-- Whether a class marks a container as a spoiler. -/
def isSpoilerClass : Option Text → Bool
  | none => false
  | some className => mentionsSpoiler className

/-- The digits of the first chapter mention in a text. -/
def firstMention? : Text → Option Text
  | [] => none
  | c :: text =>
    match mention? (c :: text) with
    | some (digits, _) => some digits
    | none => firstMention? text

/-- Detects a spoiler in the class and the text of a container. -/
def detectContainer (text : Text) (className : Option Text) :
    Except Text.NumeralError (Option Region) :=
  if isSpoilerClass className then do
    return some ⟨← chapterOf (firstMention? text), text, .container⟩
  else .ok none

/-- Detects a spoiler in either notation; a marker wins over a class. -/
def detect (text : Text) (className : Option Text) :
    Except Text.NumeralError (Option Region) := do
  match ← detectQuote text with
  | some region => return some region
  | none => detectContainer text className

end Loremark.Spoiler
