import Loremark.Terminal.Picture

/-!
# Styled messages

The text of a message can hold marks for its style in square brackets: a name opens a style, and the
name behind a slash, or the slash alone, closes it again. A mark begins with a small letter or one
of three signs; other brackets are text, and so is a mark behind a backslash. Between two marks the
text can name pictures. What is shown on a terminal without colours is the text without its marks.
-/

set_option autoImplicit false

namespace Loremark.Terminal

/-- A mark that closes a style which is not open. -/
inductive StyleError where
  /-- No style of the name is open. -/
  | notOpen (name : Text)
  /-- No style is open at all. -/
  | nothingOpen
  deriving DecidableEq, Repr

/-- The wording of the two reasons. -/
def StyleError.message : StyleError → Text
  | notOpen name => "closing tag '[/".toList ++ name ++ "]' doesn't match any open tag".toList
  | nothingOpen => "closing tag '[/]' has nothing to close".toList

/-- A part of a message: text that is shown, or a mark. -/
inductive Piece where
  | shown (text : Text)
  | mark (name : Text)
  deriving DecidableEq, Repr

/-- Whether a mark can begin with a character. -/
def beginsMark (c : Char) : Bool :=
  ('a' ≤ c && c ≤ 'z') || c == '#' || c == '/' || c == '@'

/-- What is inside the mark that a text begins with. -/
def mark? : Text → Option Text
  | '[' :: c :: text =>
    let inside := text.takeWhile fun d => d != ']' && d != '['
    if beginsMark c && (text.drop inside.length).head? == some ']' then some (c :: inside) else none
  | _ => none

/-- The number of backslashes before the mark that a text begins with, and what is inside it. -/
def escapedMark? (text : Text) : Option (Nat × Text) :=
  let slashes := text.takeWhile (· == '\\')
  (mark? (text.drop slashes.length)).map fun inside => (slashes.length, inside)

/-- The pieces of a text that begins with a mark behind a number of backslashes: two backslashes
stand for one, and an odd one makes the mark text. -/
def markPieces (slashes : Nat) (inside : Text) : List Piece :=
  .shown (List.replicate (slashes / 2) '\\') ::
    if slashes % 2 == 1 then [.shown ('[' :: inside ++ [']'])]
    else [.mark (inside.takeWhile (· != '='))]

/-- A text without the backslashes in front of its brackets. -/
def bareBrackets : Text → Text
  | [] => []
  | c :: text =>
    if c == '\\' && text.head? == some '[' then bareBrackets text else c :: bareBrackets text

/-- The pieces of a message behind a stretch of text, which is given last character first. `skip`
characters have been dealt with. A backslash before a bracket that is text is not shown. -/
def pieces : (skip : Nat) → (stretch : Text) → Text → List Piece
  | _, stretch, [] => [.shown (bareBrackets stretch.reverse)]
  | skip + 1, stretch, _ :: text => pieces skip stretch text
  | 0, stretch, c :: text =>
    match escapedMark? (c :: text) with
    | some (slashes, inside) =>
      .shown (bareBrackets stretch.reverse) ::
        (markPieces slashes inside ++ pieces (slashes + inside.length + 1) [] text)
    | none => pieces 0 (c :: stretch) text

/-- The name of a style; some have a short form. -/
def styleName (name : Text) : Text :=
  let name := Text.lower (Text.trim name)
  match String.ofList name with
  | "b" => "bold".toList
  | "d" => "dim".toList
  | "i" => "italic".toList
  | "u" => "underline".toList
  | "uu" => "underline2".toList
  | "r" => "reverse".toList
  | "c" => "conceal".toList
  | "s" => "strike".toList
  | "o" => "overline".toList
  | _ => name

/-- The styles that are open behind a mark, the last one first. -/
def follow (isOpen : List Text) : Text → Except StyleError (List Text)
  | '/' :: name =>
    match Text.trim name, isOpen with
    | [], [] => .error .nothingOpen
    | [], _ :: others => .ok others
    | name, isOpen =>
      if isOpen.contains (styleName name) then .ok (isOpen.erase (styleName name))
      else .error (.notOpen name)
  | name => .ok (styleName name :: isOpen)

/-- The text that pieces show, behind marks for styles that are open. -/
def shownText (isOpen : List Text) : List Piece → Except StyleError Text
  | [] => .ok []
  | .shown text :: pieces => do return withPictures 0 text ++ (← shownText isOpen pieces)
  | .mark name :: pieces => do shownText (← follow isOpen name) pieces

/-- Whether a terminal shows a character at all: bells, backspaces and the breaks that are no line
feeds are left out. -/
def isShown (c : Char) : Bool := !([7, 8, 11, 12, 13].contains c.toNat)

/-- What is shown of a text. -/
def visible (text : Text) : Text := text.filter isShown

/-- What is shown of a message. -/
def unstyled (message : Text) : Except StyleError Text :=
  (shownText [] (pieces 0 [] message)).map visible

/-- A text without the codes that choose the style of what follows on a terminal: an escape, a
bracket, digits and signs, and a letter. `skip` characters belong to a code. -/
def withoutCodes : (skip : Nat) → Text → Text
  | _, [] => []
  | skip + 1, _ :: text => withoutCodes skip text
  | 0, c :: text =>
    let parameters :=
      match text with
      | '[' :: text => text.takeWhile fun d => Text.isDigit d || d == ';' || d == '?'
      | _ => []
    let closing := (text.drop (parameters.length + 1)).head?
    if c == '\x1b' && text.head? == some '[' && closing.any Text.isLetter then
      withoutCodes (parameters.length + 2) text
    else c :: withoutCodes 0 text

end Loremark.Terminal
