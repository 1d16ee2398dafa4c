import Loremark.Terminal.PictureNames
import Loremark.Text.Lower
import Loremark.Text.Names

/-!
# Pictures in messages

A message can name a picture between colons. The name ends at the first colon behind it and holds
no blanks; letter case does not count. The name of a person can go on with a tone of the skin, and
every name with a hyphen and the form in which the picture is to be shown. A name that is not known
stays as it is written, with both its colons.
-/

set_option autoImplicit false

namespace Loremark.Terminal

/-- The pictures of people by name. -/
def tonedPictures : List (Text × Text) := Text.readNames tonedRows

/-- All other pictures by name. -/
def otherPictures : List (Text × Text) := Text.readNames pictureRows

/-- The ends of names that choose a tone of the skin, with the character for the tone. -/
def tones : List (Text × Char) := [
  ("_light_skin_tone".toList, '🏻'), ("_medium-light_skin_tone".toList, '🏼'),
  ("_medium_skin_tone".toList, '🏽'), ("_medium-dark_skin_tone".toList, '🏾'),
  ("_dark_skin_tone".toList, '🏿')]

/-- The character that asks for a picture. -/
def asPicture : Char := '\ufe0f'

/-- The character that asks for a plain sign in place of a picture. -/
def asSign : Char := '\ufe0e'

/-- A picture in a tone of the skin: the tone stands behind the first character, and takes the place
of a character that asks for a picture. -/
def withTone (tone : Char) : Text → Text
  | [] => []
  | c :: text => c :: tone :: text.dropWhile (· == asPicture)

/-- The part of a name in front of its end. -/
def beforeEnd? (ending name : Text) : Option Text :=
  (Text.after? ending.reverse name.reverse).map List.reverse

/-- The picture with a name. -/
def picture? (name : Text) : Option Text :=
  tonedPictures.lookup name <|> otherPictures.lookup name <|>
    tones.findSome? fun (ending, tone) => do
      let person ← beforeEnd? ending name
      (tonedPictures.lookup person).map (withTone tone)

/-- The name that a text begins with, what it asks for, and how many characters there are up to the
colon behind it, that one included. -/
def pictureName? : Text → Option (Text × Text × Nat)
  | [] => none
  | c :: text =>
    if c == ':' then some ([], [], 1)
    else if (Text.after? "-emoji:".toList (c :: text)).isSome then some ([], [asPicture], 7)
    else if (Text.after? "-text:".toList (c :: text)).isSome then some ([], [asSign], 6)
    else if Text.isBlank c then none
    else (pictureName? text).map fun (name, form, length) => (c :: name, form, length + 1)

/-- A text with pictures in place of their names. `skip` characters have been dealt with. -/
def withPictures : (skip : Nat) → Text → Text
  | _, [] => []
  | skip + 1, _ :: text => withPictures skip text
  | 0, c :: text =>
    match if c == ':' then pictureName? text else none with
    | none => c :: withPictures 0 text
    | some (name, form, length) =>
      (match picture? (Text.lower name) with
        | some picture => picture ++ form
        | none => c :: text.take length) ++ withPictures length text

end Loremark.Terminal
