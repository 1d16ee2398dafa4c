import Loremark.Text.Basic

/-!
# Escaped text in markup

Three ways to write a text inside markup. `escapeMarks` serves running text, `escapeAll` serves
attribute values and labels, and `escapeDouble` is the form that rendered code and tables use:
it leaves the single quote alone.
-/

set_option autoImplicit false

namespace Loremark.Text

/-- The written form of a character in running text. -/
def escapeMark (c : Char) : Text :=
  match c with
  | '&' => "&amp;".toList
  | '<' => "&lt;".toList
  | '>' => "&gt;".toList
  | c => [c]

/-- A character without a meaning in markup is written as it is. -/
theorem escapeMark_eq_self {c : Char} (ampersand : c ≠ '&') (less : c ≠ '<') (greater : c ≠ '>') :
    escapeMark c = [c] := by
  rw [escapeMark]
  · exact ampersand
  · exact less
  · exact greater

/-- Running text: ampersands and angle brackets are written as entities. -/
def escapeMarks (text : Text) : Text := text.flatMap escapeMark

/-- Running text in which double quotes are written as entities too. -/
def escapeDouble (text : Text) : Text :=
  text.flatMap fun c => if c == '"' then "&quot;".toList else escapeMark c

/-- Text that may stand between quotes: both quotes are written as entities too. -/
def escapeAll (text : Text) : Text :=
  text.flatMap fun c =>
    if c == '"' then "&quot;".toList
    else if c == '\'' then "&#x27;".toList
    else escapeMark c

end Loremark.Text
