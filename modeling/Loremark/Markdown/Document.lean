import Loremark.Markdown.Block.Parse
import Loremark.Markdown.Inline.Parse

/-!
# Reading Markdown

A text is read in two passes: its blocks first, which also gives the targets of labels, and then
the running text inside them. A text may be read after others whose definitions it shares.
-/

set_option autoImplicit false

namespace Loremark.Markdown

/-- The blocks of a text, with the definitions that are known behind it. -/
structure Document where
  blocks : List (Block (List Inline))
  references : References

/-- Reads a text; `references` are the definitions known in front of it. -/
def read (references : References) (text : Text) : Except BlockError Document := do
  let blocks ← blocksOf text
  let references := references ++ Block.definitionsAll blocks
  return ⟨Block.mapAll (readInline references) blocks, references⟩

end Loremark.Markdown
