import Loremark.Embed.Extract

/-!
# Splitting text around tokens

A text of the rendered document is split into what stands between tokens and the embeds that the
tokens stand for. The embeds are tried in order, each in what the ones before it have left; a
token of none of them stays literal.
-/

set_option autoImplicit false

namespace Loremark.Embed

/-- A piece of a text: literal characters or an embed. -/
inductive Segment where
  | literal (text : Text)
  | embed (descriptor : Descriptor)
  deriving DecidableEq, Repr

/-- The pieces up to the last token found, and the text behind it. -/
def splitAround : (text : Text) → List Descriptor → List Segment × Text
  | text, [] => ([], text)
  | text, d :: embeds =>
    match Text.cutAt? d.token text with
    | none => splitAround text embeds
    | some (before, rest) =>
      let (segments, last) := splitAround rest embeds
      (if before.isEmpty then (.embed d :: segments, last)
        else (.literal before :: .embed d :: segments, last))

/-- The pieces of a text in order. No literal piece is empty, unless the text is empty and so is
the only piece. -/
def reinsert (text : Text) (embeds : List Descriptor) : List Segment :=
  let (segments, last) := splitAround text embeds
  if !last.isEmpty || segments.isEmpty then segments ++ [.literal last] else segments

end Loremark.Embed
