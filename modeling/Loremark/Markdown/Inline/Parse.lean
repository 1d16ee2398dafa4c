import Loremark.Markdown.Inline.Bracket
import Loremark.Markdown.Inline.Emphasis

/-!
# Reading running text

The reader goes through a text once. What is no markup gathers in a pending text, which a line
break looks at for the spaces in front of it. The label of a link is read in turn, with one
bracket more around it; the label of an image is read afresh for the plain text that stands for
the image.
-/

set_option autoImplicit false

namespace Loremark.Markdown

/-- The most brackets that can be open around a piece. -/
def bracketLimit : Nat := 20

/-- The pending text, last character first, as a piece in front of others. -/
def flush (pending : Text) (pieces : List Piece) : List Piece :=
  if pending.isEmpty then pieces else .leaf (.text pending.reverse) :: pieces

/-- The line break after a pending text, and what is left of the text: two spaces make the break
a hard one, and spaces in front of a break are dropped. -/
def lineBreak (pending : Text) : Inline × Text :=
  match pending with
  | ' ' :: ' ' :: rest => (.hardBreak, rest.dropWhile (· == ' '))
  | ' ' :: rest => (.softBreak, rest)
  | rest => (.softBreak, rest)

/-- How the parts of a text are read: links by looking up references, labels of links, and the
plain text for labels of images. -/
structure Readers where
  references : References
  label : Place → StateM Memo (List Inline)
  alt : Text → Text

/-- Reads the pieces from a place on. -/
def pieces (readers : Readers) (skip : Skip) : (fuel : Nat) → (pending : Text) → Place →
    StateM Memo (List Piece)
  | 0, pending, _ => return flush pending []
  | fuel + 1, pending, p => do
    let onward (piece : Inline) (pending : Text) (next : Place) : StateM Memo (List Piece) := do
      return flush pending (.leaf piece :: (← pieces readers skip fuel [] next))
    let plain (c : Char) : StateM Memo (List Piece) :=
      pieces readers skip fuel (c :: pending) (p.move 1)
    match p.rest with
    | [] => return flush pending []
    | '\n' :: rest =>
      let (piece, kept) := lineBreak pending
      onward piece kept (p.at (rest.dropWhile Text.isIndent))
    | '[' :: _ =>
      match ← link? skip readers.references p with
      | some found =>
        let children ← readers.label (p.inside found.label)
        onward (.link found.target children) pending found.after
      | none => plain '['
    | '!' :: _ =>
      match ← image? skip readers.references p with
      | some found =>
        onward (.image found.target found.label (readers.alt found.label)) pending found.after
      | none => plain '!'
    | '\x60' :: _ =>
      let (piece, rest) := code p.rest
      onward piece pending (p.at rest)
    | c :: rest =>
      if c == '*' || c == '_' || c == '~' then
        let run := (c :: rest).takeWhile (· == c)
        let next := p.move run.length
        let after := next.rest.headD ' '
        let marks := runPieces c run.length p.index p.before after
        match marks with
        | [.leaf _] => plain c
        | _ => return flush pending (marks ++ (← pieces readers skip fuel [] next))
      else
        match leaf? (c :: rest) with
        | some (piece, rest) => onward piece pending (p.at rest)
        | none => plain c

/-- Reads the text at a place, with room for a number of brackets. -/
def readLine (references : References) (alt : Text → Text) : (room : Nat) → Place →
    StateM Memo (List Inline)
  | 0, p => return if p.rest.isEmpty then [] else [.text p.rest]
  | room + 1, p => do
    let readers : Readers := ⟨references, readLine references alt room, alt⟩
    let skip := skipPiece references (room + 1)
    return spans (← pieces readers skip (p.rest.length + 1) [] p)

/-- Reads a text of its own. -/
def readText (references : References) (alt : Text → Text) (text : Text) : List Inline :=
  (StateT.run (readLine references alt bracketLimit ⟨0, ' ', text⟩) ∅).1

/-- The plain text that stands for an image with a label. -/
def imageAlt (references : References) : (fuel : Nat) → Text → Text
  | 0, _ => []
  | fuel + 1, label =>
    Inline.altAll (readText references (imageAlt references fuel) label)

/-- Reads running text. -/
def readInline (references : References) (text : Text) : List Inline :=
  Inline.joined (readText references (imageAlt references text.length) text)

end Loremark.Markdown
