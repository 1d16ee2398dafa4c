import Loremark.Text.Basic

/-!
# Markup written by authors

Recognition of the six forms of markup that a line of text can hold: opening and closing tags,
comments, processing instructions, declarations and character data. `tag?` cuts the form that a
text begins with off the text.
-/

set_option autoImplicit false

namespace Loremark.Markdown

/-- The text up to the end of the first occurrence of `closer`, and what follows. -/
def upTo? (closer text : Text) : Option (Text × Text) :=
  (Text.cutAt? closer text).map fun (before, rest) => (before ++ closer, rest)

/-- Whether a character begins the name of an attribute. -/
def beginsName (c : Char) : Bool := Text.isLetter c || c == '_' || c == ':'

/-- Whether a character continues the name of an attribute. -/
def continuesName (c : Char) : Bool :=
  beginsName c || Text.isDigit c || c == '.' || c == '-'

/-- Whether a character continues the name of a tag. -/
def continuesTag (c : Char) : Bool := Text.isAlphanumeric c || c == '-'

/-- Whether a character can stand in a value without quotes. -/
def isUnquoted (c : Char) : Bool := 32 < c.toNat && !"\"'=<>\x60".toList.contains c

/-- What can follow a value without quotes that begins a text, the longest value first. A shorter
value is worth a try only in front of a blank, which the value may hold if it is not ASCII. -/
def afterUnquoted (text : Text) : List Text :=
  let run := text.takeWhile isUnquoted
  let shorter := (List.range run.length).reverse.filter fun n =>
    0 < n && ((run.drop n).head?.map Text.isBlank).getD false
  if run.isEmpty then [] else (run.length :: shorter).map text.drop

/-- What can follow the value of an attribute, with the equals sign in front of it, at the
beginning of a text. -/
def afterValue (text : Text) : List Text :=
  match Text.trimStart text with
  | '=' :: rest =>
    match Text.trimStart rest with
    | '"' :: rest => (upTo? ['"'] rest).toList.map (·.2)
    | '\'' :: rest => (upTo? ['\''] rest).toList.map (·.2)
    | rest => afterUnquoted rest
  | _ => []

/-- The end of a tag: blanks, perhaps a slash, and the closing bracket. -/
def tagEnd? (text : Text) : Option Text :=
  match Text.trimStart text with
  | '>' :: rest => some rest
  | '/' :: '>' :: rest => some rest
  | _ => none

/-- What follows a tag whose attributes begin a text. -/
def afterAttributes? : (fuel : Nat) → Text → Option Text
  | 0, _ => none
  | fuel + 1, text =>
    let attempt : Option Text :=
      match Text.trimStart text with
      | c :: rest =>
        if beginsName c && (text.head?.map Text.isBlank).getD false then
          let rest := rest.dropWhile continuesName
          (afterValue rest ++ [rest]).findSome? (afterAttributes? fuel)
        else none
      | [] => none
    attempt <|> tagEnd? text

/-- What follows an opening tag, behind its bracket. -/
def afterOpeningTag? : Text → Option Text
  | c :: text =>
    if Text.isLetter c then afterAttributes? (text.length + 1) (text.dropWhile continuesTag)
    else none
  | [] => none

/-- What follows a closing tag, behind its bracket and slash. -/
def afterClosingTag? : Text → Option Text
  | c :: text =>
    if Text.isLetter c then
      match Text.trimStart (text.dropWhile continuesTag) with
      | '>' :: rest => some rest
      | _ => none
    else none
  | [] => none

/-- What follows a comment, behind its opening. Two hyphens that are not its end are passed
together with the character behind them. -/
def afterComment? : Text → Option Text
  | '-' :: '-' :: c :: text => if c == '>' then some text else afterComment? text
  | '-' :: c :: text => if c == '-' then none else afterComment? text
  | c :: text => if c == '-' then none else afterComment? text
  | [] => none

/-- What follows the markup that begins behind an opening bracket. -/
def afterMarkup? (text : Text) : Option Text :=
  match text with
  | '/' :: rest => afterClosingTag? rest
  | '?' :: rest => (upTo? ['?', '>'] rest).map (·.2)
  | '!' :: '-' :: '-' :: '>' :: rest => some rest
  | '!' :: '-' :: '-' :: '-' :: '>' :: rest => some rest
  | '!' :: '-' :: '-' :: rest => afterComment? rest
  | '!' :: '[' :: rest =>
    (Text.after? "CDATA[".toList rest).bind fun rest => (upTo? "]]>".toList rest).map (·.2)
  | '!' :: c :: rest => if Text.isLetter c then (upTo? ['>'] rest).map (·.2) else none
  | _ => afterOpeningTag? text

/-- The markup that a text begins with, and what follows. -/
def tag? : Text → Option (Text × Text)
  | '<' :: text =>
    (afterMarkup? text).map fun rest => ('<' :: text.take (text.length - rest.length), rest)
  | _ => none

/-- Whether a text is one opening or closing tag, up to blanks at its end. -/
def isLoneTag : Text → Bool
  | '<' :: '/' :: text => ((afterClosingTag? text).map Text.allBlank).getD false
  | '<' :: text => ((afterOpeningTag? text).map Text.allBlank).getD false
  | _ => false

end Loremark.Markdown
