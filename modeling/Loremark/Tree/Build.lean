import Loremark.Embed.Reinsert
import Loremark.Log.Event
import Loremark.Markdown.Document
import Loremark.Markdown.LineBreak
import Loremark.Markdown.Plain
import Loremark.Tree.Division
import Loremark.Tree.Marker

/-!
# Building document trees

A render cuts the embeds out of a text, reads the rest as Markdown, and builds the tree. Running
text is split around the tokens of the embeds, which become slots; where no slot can stand, the
embeds are put back as the author wrote them. Quotes with a marker and containers with a spoiler
class become gated regions.

Divisions that reading Markdown has cut apart are put together again: the blocks between the two
pieces of markup become the content of a container, behind what was read from the rest of the
first piece.
-/

set_option autoImplicit false

namespace Loremark.Tree

/-- Why a text cannot be rendered. -/
inductive BuildError where
  | numeral (cause : Text.NumeralError)
  | blocks (cause : Markdown.BlockError)
  deriving DecidableEq, Repr

/-- The wording of the reasons. -/
def BuildError.message : BuildError → Text
  | .numeral cause => cause.message
  | .blocks cause => cause.message

/-- How a text is rendered. -/
structure Style where
  compact : Bool := false
  /-- Whether an embed that is alone in its paragraph becomes a card. -/
  standaloneCards : Bool := false
  deriving DecidableEq, Repr, Inhabited

/-- The mode of the slots of a style. -/
def Style.mode (style : Style) : Mode := if style.compact then .compact else .inline

/-- What stays the same during a render. -/
structure Source where
  parsed : Embed.Parsed
  style : Style

/-- What has happened during a render. -/
structure Progress where
  /-- The number of slots so far. -/
  slots : Nat := 0
  references : Markdown.References := []
  /-- The events so far, last one first. -/
  events : List Log.Event := []

/-- Steps of a render; what has happened is known even if it fails. -/
abbrev Build := ExceptT BuildError (StateM Progress)

/-- The result of detecting a spoiler, as a step of a render. -/
def orFail {α : Type} : Except Text.NumeralError α → Build α
  | .ok a => pure a
  | .error cause => throw (.numeral cause)

/-- The part of the library that reports on renders. -/
def pipelineLogger : String := "spoilerdown.render.pipeline"

/-- Reports a spoiler. -/
def reportSpoiler (region : Spoiler.Region) : Build Unit :=
  modify fun progress => { progress with
    events := Log.event .debug pipelineLogger "spoiler_detected"
      [("notation", .text region.form.name), ("chapter", Log.optionalInt region.threshold)] ::
      progress.events }

/-- A slot for an embed. -/
def newSlot (source : Source) (descriptor : Embed.Descriptor) : Build Node := do
  let n := (← get).slots
  modify fun progress => { progress with slots := n + 1 }
  return .slot ⟨"embed-".toList ++ Text.ofNat n, descriptor, source.style.mode⟩

/-- The nodes of a text. Slots stand in live text only. -/
def textNodes (source : Source) (live : Bool) (value : Text) : Build (List Node) :=
  if value.isEmpty then pure []
  else if !live || source.parsed.embeds.isEmpty then
    pure [.text (source.parsed.restore value)]
  else
    (Embed.reinsert value source.parsed.embeds).mapM fun segment =>
      match segment with
      | .literal text => pure (.text text)
      | .embed descriptor => newSlot source descriptor

/-- The kind of the markup of a span. -/
def spanKind : Markdown.SpanKind → InlineKind
  | .emphasis => .emphasis
  | .strong => .strong
  | .strikethrough => .strikethrough

mutual

/-- The nodes of a piece of running text. Text inside links is not live. -/
def inlineNode (source : Source) (live : Bool) : Markdown.Inline → Build (List Node)
  | .text value => textNodes source live value
  | .softBreak => pure [.inline .softBreak []]
  | .hardBreak => pure [.inline .hardBreak []]
  | .code content => pure [.inline (.code (source.parsed.restore content)) []]
  | .html content => pure [.inline (.html (source.parsed.restore content)) []]
  | .span kind children => do
    return [.inline (spanKind kind) (← inlineNodes source live children)]
  | .link target children => do
    let kind : InlineKind :=
      .link (source.parsed.restore target.address) (source.parsed.restore target.title)
    return [.inline kind (← inlineNodes source false children)]
  | .image target label _ =>
    pure [.inline (.image (source.parsed.restore target.address)
      (source.parsed.restore target.title) (source.parsed.restore label)) []]

/-- The nodes of running text. -/
def inlineNodes (source : Source) (live : Bool) : List Markdown.Inline → Build (List Node)
  | [] => pure []
  | piece :: pieces => do
    let first ← inlineNode source live piece
    return first ++ (← inlineNodes source live pieces)

end

/-- Whether a node is a slot. -/
def Node.isSlot : Node → Bool
  | .slot _ => true
  | _ => false

/-- Whether a node is a text of blanks. -/
def Node.isBlankText : Node → Bool
  | .text value => Text.allBlank value
  | _ => false

/-- Whether nodes are one slot and otherwise blank. -/
def isLoneSlot (nodes : List Node) : Bool :=
  nodes.countP Node.isSlot == 1 && nodes.all fun node => node.isSlot || node.isBlankText

/-- A slot that shows a card; another node itself. -/
def Node.asCard : Node → Node
  | .slot s => .slot { s with mode := .full }
  | node => node

/-- A paragraph. -/
def paragraphNode (source : Source) (tight : Bool) (children : List Node) : Node :=
  let promoted := source.style.standaloneCards && !source.style.compact && isLoneSlot children
  .block (.paragraph tight (children.any Node.isSlot))
    (if promoted then children.map Node.asCard else children)

/-- A block in plain output, with the embeds put back. -/
def plainNode (source : Source) (block : Markdown.Block (List Markdown.Inline)) : Node :=
  .raw (source.parsed.restoreEscaped (Html.Markup.writeAll (Markdown.plainBlock block)))

/-- A quote, gated if it begins with a marker. -/
def quoteNode (children : List Node) : Build Node := do
  let text := Node.flatten children
  match Spoiler.marker? text, ← orFail (Spoiler.detectQuote text) with
  | some (_, rest), some region =>
    reportSpoiler region
    let inner := Node.withoutMarker (text.length - rest.length) children
    return .spoiler region [.block (.quote Spoiler.spoilerWord) inner]
  | _, _ => return .block (.quote []) children

/-- A container, gated if its class says so. `text` is where a chapter is looked for. -/
def containerNode (className title text : Text) (children : List Node) : Build Node := do
  let container : Node := .block (.container className title) children
  match ← orFail (Spoiler.detectContainer text (some className)) with
  | some region =>
    reportSpoiler region
    return .spoiler region [container]
  | none => return container

/-- A container with the info of its opening line. -/
def fencedContainer (info : Text) (children : List Node) : Build Node :=
  let info := Text.trim info
  let title := ((Text.after? Markdown.containerName info).map Text.trim).getD info
  containerNode Markdown.containerName title (info ++ '\n' :: Node.flatten children) children

/-- Blocks whose running text has been read. -/
abbrev Blocks := List (Markdown.Block (List Markdown.Inline))

/-- The number of blocks up to the piece of markup that closes a division, if that piece does
nothing else. `depth` divisions are open. -/
def closingDistance? : (depth : Int) → Blocks → Option Nat
  | _, [] => none
  | depth, block :: blocks =>
    match block.html? with
    | none => (closingDistance? depth blocks).map (· + 1)
    | some html =>
      let depth := depth + divisionBalance html
      if depth ≤ 0 then if depth == 0 && closesOnly html then some 0 else none
      else (closingDistance? depth blocks).map (· + 1)

/-- A division that a piece of markup opens. -/
structure DivisionStart where
  className : Text
  /-- The text behind the opening tag that belongs to the division. -/
  body : Text
  /-- The number of blocks behind the piece that lie inside the division. -/
  inside : Nat
  /-- The number of blocks behind the piece that belong to the division. -/
  used : Nat

/-- The division that a piece of markup opens, if its end is found in the piece or in one of the
blocks behind it. -/
def divisionStart? (html : Text) (blocks : Blocks) : Option DivisionStart := do
  let (attrs, body) ← openDivision? html
  let className ← class? attrs
  let depth := divisionBalance html
  if depth == 0 then
    let inner ← beforeEnd? body
    some ⟨className, inner, 0, 0⟩
  else if 0 < depth then
    let distance ← closingDistance? depth blocks
    some ⟨className, body, distance, distance + 1⟩
  else none

/-- Reads a text inside a render; its definitions are known from there on. -/
def readInside (text : Text) : Build Blocks := do
  match Markdown.read (← get).references text with
  | .error cause => throw (.blocks cause)
  | .ok document =>
    modify fun progress => { progress with references := document.references }
    return document.blocks

/-- Builds the container of a division. `deeper` builds its content. -/
def divisionNode (deeper : Blocks → Build (List Node)) (start : DivisionStart)
    (blocks : Blocks) : Build Node := do
  let first ←
    if start.used != 0 && Text.allBlank start.body then pure []
    else readInside start.body
  let children ← deeper (first ++ blocks.take start.inside)
  containerNode start.className [] (Node.flatten children) children

mutual

/-- Builds the node of a block. `deeper` builds the content of divisions. -/
def blockNode (deeper : Blocks → Build (List Node)) (source : Source) :
    Markdown.Block (List Markdown.Inline) → Build Node
  | .paragraph tight content => do
    return paragraphNode source tight (← inlineNodes source true content)
  | .heading level content => do
    return .block (.heading level) (← inlineNodes source true content)
  | .bulletList items => do
    return .block .bulletList (← blockNodes deeper source 0 items)
  | .orderedList start items => do
    return .block (.orderedList (start.map Int.ofNat)) (← blockNodes deeper source 0 items)
  | .item children => do
    return .block .listItem (← blockNodes deeper source 0 children)
  | .quote children => do quoteNode (← blockNodes deeper source 0 children)
  | .container info children => do
    fencedContainer info (← blockNodes deeper source 0 children)
  | .code content => pure (plainNode source (.code content))
  | .fence info content => pure (plainNode source (.fence info content))
  | .html content => pure (plainNode source (.html content))
  | .rule => pure (plainNode source .rule)
  | .table columns header rows => pure (plainNode source (.table columns header rows))
  | .definition label target => pure (plainNode source (.definition label target))

/-- Builds the nodes of blocks. The first `skip` blocks belong to a division that has been dealt
with. -/
def blockNodes (deeper : Blocks → Build (List Node)) (source : Source) : (skip : Nat) → Blocks →
    Build (List Node)
  | _, [] => pure []
  | skip + 1, _ :: blocks => blockNodes deeper source skip blocks
  | 0, block :: blocks =>
    match block.html?.bind fun html => divisionStart? html blocks with
    | some start => do
      let node ← divisionNode deeper start blocks
      return node :: (← blockNodes deeper source start.used blocks)
    | none => do
      let node ← blockNode deeper source block
      return node :: (← blockNodes deeper source 0 blocks)

end

/-- Builds the nodes of blocks with divisions inside divisions. Each division inside another one
has an opening bracket fewer to read, so `fuel` need not exceed the number of brackets. -/
def nodesOf (source : Source) : (fuel : Nat) → Blocks → Build (List Node)
  | 0, blocks => blockNodes (fun _ => pure []) source 0 blocks
  | fuel + 1, blocks => blockNodes (nodesOf source fuel) source 0 blocks

/-- A document that has been rendered. -/
structure Rendered where
  tree : List Node := []
  parsed : Embed.Parsed := ⟨[], []⟩
  embedsEnabled : Bool := true
  deriving Inhabited

/-- The event of extracting embeds, if there are any. -/
def extractionEvents (content : Text) (parsed : Embed.Parsed) : List Log.Event :=
  if parsed.embeds.isEmpty then []
  else
    [Log.event .debug "spoilerdown.embeds.extractor" "embeds_extracted"
      [("count", .int parsed.embeds.length), ("prefix", .text (Embed.freshPrefix content))]]

/-- The event at the end of a render. -/
def renderedEvent (rendered : Rendered) : Log.Event :=
  Log.event .debug pipelineLogger "markdown_rendered" [
    ("blocks", .int rendered.tree.length), ("embeds", .int rendered.parsed.embeds.length),
    ("widgets", .int (Node.slots rendered.tree).length),
    ("spoilers", .int (Node.regions rendered.tree).length),
    ("enable_embeds", .bool rendered.embedsEnabled)]

/-- Builds the tree of a text whose embeds have been extracted. -/
def build (source : Source) : Build (List Node) := do
  let text := Markdown.withLineBreaks source.parsed.rewritten
  let blocks ← readInside text
  nodesOf source (text.count '<') blocks

/-- Renders a text, and tells what happened on the way. -/
def render (style : Style) (embedsEnabled : Bool) (content : Text) :
    Except BuildError Rendered × List Log.Event :=
  let content := Text.unifyNewlines content
  match (if embedsEnabled then Embed.extract content else .ok ⟨content, []⟩) with
  | .error cause => (.error (.numeral cause), [])
  | .ok parsed =>
    let (result, progress) := (build ⟨parsed, style⟩).run.run {}
    let events := extractionEvents content parsed ++ progress.events.reverse
    match result with
    | .error cause => (.error cause, events)
    | .ok tree =>
      let rendered : Rendered := ⟨tree, parsed, embedsEnabled⟩
      (.ok rendered, events ++ [renderedEvent rendered])

end Loremark.Tree
