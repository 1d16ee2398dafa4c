import Loremark.Text.Basic

/-!
# Line breaks as typed

Markdown folds a lone newline into a space, which is not what people who type plain text expect.
Two spaces at the end of a line make it a line break. They are added to a line that goes on in the
next one, unless the line has a meaning of its own (list item, heading, quote, indented code),
already ends in two blanks, or stands inside fenced code. A line that begins with three backticks
opens or closes a fence.
-/

set_option autoImplicit false

namespace Loremark.Markdown

/-- Whether a text begins with a blank. -/
def startsBlank : Text → Bool
  | c :: _ => Text.isBlank c
  | [] => false

/-- Whether a text without leading blanks begins with a list marker and a blank. -/
def isListStart (text : Text) : Bool :=
  match text with
  | [] => false
  | c :: rest =>
    if c == '*' || c == '+' || c == '-' then startsBlank rest
    else if Text.isDecimal c then
      match rest.dropWhile Text.isDecimal with
      | '.' :: rest => startsBlank rest
      | _ => false
    else false

/-- Whether a text without leading blanks begins with up to six number signs and a blank. -/
def isHeadingStart (text : Text) : Bool :=
  let signs := (text.takeWhile (· == '#')).length
  1 ≤ signs && signs ≤ 6 && startsBlank (text.drop signs)

/-- Whether a text without leading blanks begins with a quote marker and a blank. -/
def isQuoteStart : Text → Bool
  | '>' :: rest => startsBlank rest
  | _ => false

/-- Whether two blanks at the end of a line would disturb its meaning. -/
def isStructural (line : Text) : Bool :=
  let text := Text.trimStart line
  isListStart text || isHeadingStart text || isQuoteStart text ||
    4 ≤ (line.takeWhile Text.isBlank).length

/-- Whether a line ends in two blanks. -/
def endsInTwoBlanks (line : Text) : Bool :=
  match line.reverse with
  | a :: b :: _ => Text.isBlank a && Text.isBlank b
  | _ => false

/-- Whether a line opens or closes fenced code. -/
def isFenceLine (line : Text) : Bool :=
  (Text.after? ['`', '`', '`'] (Text.trimStart line)).isSome

/-- A line that is followed by another one, with a break if it needs one. -/
def breakLine (line next : Text) : Text :=
  if !Text.allBlank line && !Text.allBlank next && !isStructural line && !endsInTwoBlanks line then
    line ++ [' ', ' ']
  else line

/-- The lines with breaks; `fenced` tells that the first one stands inside fenced code. -/
def breakLines : (fenced : Bool) → List Text → List Text
  | _, [] => []
  | _, [line] => [line]
  | fenced, line :: next :: lines =>
    if isFenceLine line then line :: breakLines (!fenced) (next :: lines)
    else if fenced then line :: breakLines true (next :: lines)
    else breakLine line next :: breakLines false (next :: lines)

/-- A text whose newlines are line breaks as typed. -/
def withLineBreaks (text : Text) : Text :=
  Text.joinWith ['\n'] (breakLines false (Text.splitOn '\n' text))

end Loremark.Markdown
