import Loremark.Embed.Syntax
import Loremark.Text.Escape

/-!
# Extraction of embeds

Markdown knows nothing of embeds, so they are cut out before it is read. Each embed is replaced by
a token of capital letters and digits that no markdown rule looks at. The tokens of a text share a
prefix that occurs nowhere in the text, so that a token is never mistaken for something the author
wrote. `Parsed.restore` puts the embeds back where live widgets cannot go.

Embeds that are not well formed, and those with the number zero, stay as they are.
-/

set_option autoImplicit false

namespace Loremark.Embed

/-- One embed found in a text. -/
structure Descriptor where
  /-- The position of the embed among those of its text. -/
  index : Nat
  kind : Kind
  entity : Int
  /-- The label without blanks around it, if anything is left of it. -/
  label : Option Text
  /-- What stands for the embed in the rewritten text. -/
  token : Text
  /-- The embed as the author wrote it. -/
  source : Text
  deriving DecidableEq, Repr, Inhabited

/-- The name of an embed within its text. -/
def Descriptor.id (d : Descriptor) : Text := "entity-embed-".toList ++ Text.ofNat d.index

/-- A text whose embeds have been replaced by tokens, with the embeds in order. -/
structure Parsed where
  rewritten : Text
  embeds : List Descriptor
  deriving DecidableEq, Repr, Inhabited

/-- What every token begins with. -/
def stem : Text := "SPOILERDOWNEMBED".toList

/-- The prefix with a given salt; the salt zero is not written. -/
def saltedPrefix (salt : Nat) : Text :=
  stem ++ (if salt == 0 then [] else Text.ofNat salt) ++ ['Q']

/-- The prefix of the least salt, from `salt` on, that does not occur in a text, looking at no
more than `fuel` occurring ones. -/
def freshFrom (text : Text) : (fuel salt : Nat) → Text
  | 0, salt => saltedPrefix salt
  | fuel + 1, salt =>
    if Text.occurs (saltedPrefix salt) text then freshFrom text fuel (salt + 1)
    else saltedPrefix salt

/-- The prefix of the least salt that does not occur in a text. Different prefixes begin at
different places of the text, so there are no more occurring ones than characters. -/
def freshPrefix (text : Text) : Text := freshFrom text text.length 0

/-- The token of an embed. -/
def tokenOf (start : Text) (index : Nat) : Text := start ++ Text.ofNat index ++ ['E']

/-- The label as shown: without blanks around it, and nothing if that leaves nothing. -/
def shownLabel (label : Option Text) : Option Text :=
  match label.map Text.trim with
  | some [] => none
  | shown => shown

/-- Adds a character of the text to what has been rewritten behind it. -/
def Parsed.push (c : Char) (p : Parsed) : Parsed := { p with rewritten := c :: p.rewritten }

/-- Cuts out the embeds of a text, numbering them from `index` on. `skip` characters of the text
belong to an embed that has been dealt with. -/
def scan (start : Text) : (index skip : Nat) → Text → Except Text.NumeralError Parsed
  | _, _, [] => .ok ⟨[], []⟩
  | index, skip + 1, _ :: text => scan start index skip text
  | index, 0, c :: text =>
    match match? (c :: text) with
    | none => do return (← scan start index 0 text).push c
    | some (written, _) => do
      let entity ← Text.readDigits written.digits
      let source := written.toText
      if entity == 0 then
        let rest ← scan start index (source.length - 1) text
        return { rest with rewritten := source ++ rest.rewritten }
      else
        let token := tokenOf start index
        let rest ← scan start (index + 1) (source.length - 1) text
        let found := {
          index, entity, source, token
          kind := written.kind
          label := shownLabel written.label }
        return ⟨token ++ rest.rewritten, found :: rest.embeds⟩

/-- Replaces the embeds of a text by tokens. The only failure is a number with too many digits. -/
def extract (text : Text) : Except Text.NumeralError Parsed :=
  if Text.occurs opening text then scan (freshPrefix text) 0 0 text else .ok ⟨text, []⟩

/-- The first embed whose token a text begins with. -/
def Parsed.tokenAt? (p : Parsed) (text : Text) : Option Descriptor :=
  p.embeds.find? fun d => d.token.isPrefixOf text

/-- Puts the embeds back in place of their tokens, each written with `write`. `skip` characters of
the text belong to a token that has been dealt with. -/
def Parsed.restoreWith (p : Parsed) (write : Text → Text) : (skip : Nat) → Text → Text
  | _, [] => []
  | skip + 1, _ :: text => p.restoreWith write skip text
  | 0, c :: text =>
    match p.tokenAt? (c :: text) with
    | some d => write d.source ++ p.restoreWith write (d.token.length - 1) text
    | none => c :: p.restoreWith write 0 text

/-- Puts the embeds back as the author wrote them. -/
def Parsed.restore (p : Parsed) (text : Text) : Text := p.restoreWith id 0 text

/-- Puts the embeds back into text that is already escaped. -/
def Parsed.restoreEscaped (p : Parsed) (text : Text) : Text :=
  p.restoreWith Text.escapeAll 0 text

end Loremark.Embed
