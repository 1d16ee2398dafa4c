import Loremark.Embed.Kind
import Loremark.Text.Numeral

/-!
# The syntax of embeds

An embed is written between double braces: a kind, a colon and the digits of a number, then
optionally a colon and a label of at least one character without a closing brace. `match?` reads
an embed at the beginning of a text. There is at most one way to read it: a kind ends at the first
colon, the digits end at the first character that is none, and a label ends at the first closing
brace.
-/

set_option autoImplicit false

namespace Loremark.Embed

/-- What is written between the braces of an embed. -/
structure Written where
  kind : Kind
  digits : Text
  label : Option Text
  deriving DecidableEq, Repr

/-- The two braces in front of an embed. -/
def opening : Text := ['\x7b', '\x7b']

/-- The two braces behind an embed. -/
def closing : Text := ['\x7d', '\x7d']

/-- The text of an embed. -/
def Written.toText (w : Written) : Text :=
  opening ++ w.kind.name ++ ':' :: w.digits ++
    (match w.label with
      | none => []
      | some label => ':' :: label) ++ closing

/-- The kind and the colon behind it at the beginning of a text, and what follows. -/
def kind? (text : Text) : Option (Kind × Text) :=
  Kind.all.findSome? fun kind => (Text.after? (kind.name ++ [':']) text).map (kind, ·)

/-- The rest of an embed behind its digits: nothing or a label, then the closing braces. -/
def labelled? : Text → Option (Option Text × Text)
  | ':' :: text =>
    match text.takeWhile (· != '\x7d') with
    | [] => none
    | label =>
      (Text.after? closing (text.dropWhile (· != '\x7d'))).map fun rest => (some label, rest)
  | text => (Text.after? closing text).map fun rest => (none, rest)

/-- Reads an embed at the beginning of a text: what it says and what follows it. -/
def match? (text : Text) : Option (Written × Text) := do
  let inner ← Text.after? opening text
  let (kind, rest) ← kind? inner
  match rest.takeWhile Text.isDigit with
  | [] => none
  | digits =>
    let (label, after) ← labelled? (rest.dropWhile Text.isDigit)
    some ({ kind, digits, label }, after)

end Loremark.Embed
