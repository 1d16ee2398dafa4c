import Loremark.Embed.Extract
import Loremark.Embed.Format
import Loremark.Terminal.Markup
import Loremark.Terminal.Table

/-!
# Listings

The tables that commands print: the embeds of a file, and samples of what authors can write.
-/

set_option autoImplicit false

namespace Loremark.Command

open Terminal (Table)

/-- What stands in place of a label that is missing. -/
def noLabel : Text := ['-']

/-- The row of an embed. -/
def embedRow (d : Embed.Descriptor) : List Text := [
  Text.ofNat d.index, d.kind.info.label, Text.ofInt d.entity, d.label.getD noLabel,
  d.kind.url d.entity]

/-- The table of the embeds of a file. -/
def embedTable (title : Text) (embeds : List Embed.Descriptor) : Table where
  title
  columns := [
    { heading := "#".toList }, { heading := "Type".toList },
    { heading := "ID".toList, alignment := .right }, { heading := "Label".toList },
    { heading := "Link".toList }]
  rows := embeds.map fun d => (embedRow d).map Terminal.visible

/-- A table of samples and what they stand for. -/
def sampleTable (title : String) (samples : List Embed.Example) : Table where
  title := title.toList
  columns := [{ heading := "Syntax".toList }, { heading := "Description".toList }]
  rows := samples.map fun sample => [sample.code, sample.description]

/-- The samples of embeds. -/
def embedSamples : Table := sampleTable "Entity embeds" (Embed.examples.flatMap Prod.snd)

/-- The samples of spoilers. -/
def spoilerSamples : Table :=
  sampleTable "Spoilers" [
    ⟨"> [!SPOILER Chapter 150] text".toList, "Blockquote spoiler gated at chapter 150".toList⟩,
    ⟨"> [!SPOILER] text".toList, "Blockquote spoiler without a chapter".toList⟩,
    ⟨"<div class=\"spoiler\">Chapter 150 ...</div>".toList, "HTML container spoiler".toList⟩,
    ⟨"::: spoiler Chapter 150\ntext\n:::".toList, "Fenced container spoiler".toList⟩]

end Loremark.Command
