import Loremark.Text.Basic

/-!
# Inline content

What a line of running text consists of once its markup has been read: texts, code, markup of the
author, line breaks, spans with emphasis, links and images. `joined` puts neighbouring texts
together.
-/

set_option autoImplicit false

namespace Loremark.Markdown

/-- Where a link or image leads, and the title it shows. -/
structure Target where
  address : Text
  title : Text
  deriving DecidableEq, Repr, Inhabited

/-- The kinds of emphasis. -/
inductive SpanKind where
  | emphasis
  | strong
  | strikethrough
  deriving DecidableEq, Repr, Inhabited

/-- A piece of running text. -/
inductive Inline where
  | text (value : Text)
  | code (content : Text)
  /-- Markup of the author, as written. -/
  | html (content : Text)
  | softBreak
  | hardBreak
  | span (kind : SpanKind) (children : List Inline)
  | link (target : Target) (children : List Inline)
  /-- An image: its label as written, and the plain text that stands for it. -/
  | image (target : Target) (label alt : Text)
  deriving Inhabited, Repr

namespace Inline

mutual

/-- The plain text of a piece inside the label of an image. -/
def alt : Inline → Text
  | text value | code value | html value => value
  | softBreak | hardBreak => ['\n']
  | image _ _ alt => alt
  | span _ children => altAll children
  | link _ children => altAll children

/-- The plain text of pieces inside the label of an image. -/
def altAll : List Inline → Text
  | [] => []
  | piece :: pieces => alt piece ++ altAll pieces

end

/-- Puts a text in front of pieces, joined with a text that they begin with. -/
def putText (value : Text) : List Inline → List Inline
  | text next :: pieces => text (value ++ next) :: pieces
  | pieces => if value.isEmpty then pieces else text value :: pieces

mutual

/-- A piece whose children are joined. -/
def joinedPiece : Inline → Inline
  | span kind children => span kind (joined children)
  | link target children => link target (joined children)
  | piece => piece

/-- Pieces in which no text is empty and no two texts are neighbours. -/
def joined : List Inline → List Inline
  | [] => []
  | text value :: pieces => putText value (joined pieces)
  | piece :: pieces => joinedPiece piece :: joined pieces

end

end Inline

end Loremark.Markdown
