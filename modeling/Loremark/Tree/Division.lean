import Loremark.Text.Basic

/-!
# Divisions written by authors

A division with a class is the only markup of authors that has a meaning. Reading Markdown cuts
markup at blank lines, so a division may lie in one piece of markup or span several; which, is
told by counting its tags. Names are compared up to case.
-/

set_option autoImplicit false

namespace Loremark.Tree

/-- Whether a text goes on with a word character. -/
def goesOn (text : Text) : Bool := (text.head?.map Text.isWordChar).getD false

/-- What follows the beginning of an opening tag that a text begins with. -/
def afterDivision? (text : Text) : Option Text :=
  (Text.afterWord? Text.sameLetter "<div".toList text).filter (!goesOn ·)

/-- What follows a closing tag that a text begins with. -/
def afterDivisionEnd? (text : Text) : Option Text :=
  match (Text.afterWord? Text.sameLetter "</div".toList text).map Text.trimStart with
  | some ('>' :: rest) => some rest
  | _ => none

/-- The attributes of the opening tag that a text begins with, up to blanks, and what follows
it. -/
def openDivision? (text : Text) : Option (Text × Text) := do
  let rest ← afterDivision? (Text.trimStart text)
  let attrs := rest.takeWhile (· != '>')
  match rest.drop attrs.length with
  | _ :: body => some (attrs, body)
  | [] => none

/-- The number of opening tags in a text less the number of closing ones. -/
def divisionBalance : Text → Int
  | [] => 0
  | c :: text =>
    (if (afterDivision? (c :: text)).isSome then 1 else 0) -
      (if (afterDivisionEnd? (c :: text)).isSome then 1 else 0) + divisionBalance text

/-- The text between quotes behind an equals sign that a text begins with, up to blanks. -/
def quotedValue? (text : Text) : Option Text :=
  match Text.trimStart text with
  | '=' :: rest =>
    match Text.trimStart rest with
    | quote :: rest =>
      if (quote == '"' || quote == '\'') && rest.contains quote then
        some (rest.takeWhile (· != quote))
      else none
    | [] => none
  | _ => none

/-- The value of the first class attribute among the attributes of a tag. `inWord` tells whether a
word character stands in front of the text. -/
def classFrom? : (inWord : Bool) → Text → Option Text
  | _, [] => none
  | inWord, c :: text =>
    let here : Option Text :=
      if inWord then none
      else (Text.afterWord? Text.sameLetter "class".toList (c :: text)).bind quotedValue?
    here <|> classFrom? (Text.isWordChar c) text

/-- The class that the attributes of a tag give. -/
def class? (attrs : Text) : Option Text := classFrom? false attrs

/-- The text in front of the closing tag that ends a text, up to blanks. -/
def beforeEnd? : Text → Option Text
  | [] => none
  | c :: text =>
    match afterDivisionEnd? (c :: text) with
    | some rest =>
      if Text.allBlank rest then some [] else (beforeEnd? text).map (c :: ·)
    | none => (beforeEnd? text).map (c :: ·)

/-- Whether a text consists of closing tags and blanks, with at least one tag. `fuel` bounds the
number of tags. -/
def onlyEnds : (fuel : Nat) → Text → Bool
  | 0, _ => false
  | fuel + 1, text =>
    match afterDivisionEnd? (Text.trimStart text) with
    | some rest => Text.allBlank rest || onlyEnds fuel rest
    | none => false

/-- Whether a piece of markup does nothing but close divisions. -/
def closesOnly (html : Text) : Bool := onlyEnds html.length html

end Loremark.Tree
