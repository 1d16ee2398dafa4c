import Loremark.Config.Basic
import Loremark.Preview.Session
import Loremark.Tree.Build
import Loremark.Tree.Page

/-!
# Documents

A document is a text that has been rendered, with a preview for each of its slots. Rendering it
anew unmounts the previews it had before there are new ones, and mounts the new ones if the
document was mounted. A document without a store has no previews, and its slots stay placeholders.

The previews of earlier renders stay in the session, in front of the current ones. The loop in which
lookups take their turns is taken to run, so that mounting is never refused for the want of one.
-/

set_option autoImplicit false

namespace Loremark

/-- How a document is rendered and shown. -/
structure Document.Options where
  embedsEnabled : Bool := true
  style : Tree.Style := {}
  cards : Entity.CardOptions := {}
  gate : Spoiler.Gate := {}
  deriving Inhabited

/-- The options that a configuration asks for. -/
def Document.Options.ofConfig (config : Config) : Document.Options where
  embedsEnabled := config.embedsEnabled
  style := ⟨config.previews.compact, config.previews.standaloneCards⟩
  cards := ⟨config.previews.showImages, config.previews.descriptionLimit⟩
  gate := config.spoilers.gate

/-- A rendered text with its previews. -/
structure Document where
  content : Text
  options : Document.Options
  /-- Whether there is a store to look entities up in. -/
  hasStore : Bool
  mounted : Bool := false
  rendered : Tree.Rendered := {}
  /-- Who is told when a current preview changes. -/
  listeners : List Text := []
  session : Preview.Session := {}
  /-- The number of the first current preview. -/
  first : Nat := 0
  deriving Inhabited

namespace Document

/-- The part of the library that reports on documents. -/
def reporter : String := "spoilerdown.document"

/-- The document as a listener of its previews. -/
def self : Preview.Listener := ⟨0, []⟩

/-- The preview for a slot. -/
def previewOf (cards : Entity.CardOptions) (s : Tree.Slot) : Preview where
  kindName := s.descriptor.kind.name
  entity := s.descriptor.entity
  label := s.descriptor.label
  mode := s.mode
  options := cards
  key := s.key
  listeners := [self]

/-- The current previews. -/
def current (d : Document) : List Preview := d.session.previews.drop d.first

/-- The numbers of the current previews. -/
def numbers (d : Document) : List Nat :=
  (List.range d.current.length).map (d.first + ·)

/-- Adds an event to what has been done. -/
def report (d : Document) (event : Log.Event) : Document :=
  { d with session := d.session.note (.ofEvent event) }

/-- Renders the text. A text that cannot be rendered leaves the tree and the previews as they
are. -/
def render (d : Document) : Document × Option Tree.BuildError :=
  let (result, events) := Tree.render d.options.style d.options.embedsEnabled d.content
  let session := d.session.note { events }
  match result with
  | .error cause => ({ d with session }, some cause)
  | .ok rendered =>
    let fresh :=
      if d.hasStore then (Tree.Node.slots rendered.tree).map (previewOf d.options.cards) else []
    ({ d with
        rendered
        first := session.previews.length
        session := { session with previews := session.previews ++ fresh } }, none)

/-- The document of a text, with a script for its store if it has one. -/
def open? (options : Options) (store : Option Preview.Script) (content : Text) :
    Except Tree.BuildError Document :=
  let blank : Document :=
    { content, options, hasStore := store.isSome, session := { script := store.getD {} } }
  match blank.render with
  | (d, none) => .ok d
  | (_, some cause) => .error cause

/-- Mounts the current previews, in a loop that is taken to run; the answer is how many there
are. -/
def mountAll (d : Document) : Document × Except Preview.Unmounted Nat :=
  let numbers := d.numbers
  match d.session.mountEach numbers with
  | (session, some cause) => ({ d with mounted := true, session }, .error cause)
  | (session, none) =>
    let d := { d with mounted := true, session }
    if numbers.isEmpty then (d, .ok 0)
    else
      (d.report (Log.event .debug reporter "previews_mounted" [("count", .int numbers.length)]),
        .ok numbers.length)

/-- Unmounts the current previews. -/
def unmountAll (d : Document) : Document :=
  { d with mounted := false, session := d.session.unmountEach d.numbers }

/-- Lets the lookups that are due take their turns. -/
def run (d : Document) : Document := { d with session := d.session.run }

/-- Releases the replies that are held back. -/
def release (d : Document) : Document := { d with session := d.session.release }

/-- Mounts the current previews and waits until all of them have settled; the answer is what has
become of each. -/
def resolveAll (d : Document) :
    Document × Except Preview.Unmounted (List (Text × Preview.State)) :=
  match d.release.mountAll with
  | (d, .error cause) => (d, .error cause)
  | (d, .ok _) =>
    let d := d.run
    (d, .ok (d.current.map fun p => (p.key, p.state)))

/-- Why a document could not be rendered anew. -/
inductive UpdateError where
  | render (cause : Tree.BuildError)
  | mount (cause : Preview.Unmounted)

/-- Renders the document anew, possibly with another text or another choice about embeds. The
previews are unmounted before the text is rendered. The answer is the number of blocks at the top
of the tree. -/
def update (d : Document) (content : Option Text) (embedsEnabled : Option Bool) :
    Document × Except UpdateError Nat :=
  let wasMounted := d.mounted
  let d := d.unmountAll
  let d := { d with
    content := content.getD d.content
    options := { d.options with
      embedsEnabled := embedsEnabled.getD d.options.embedsEnabled } }
  match d.render with
  | (d, some cause) => (d, .error (.render cause))
  | (d, none) =>
    let d := d.report (Log.event .debug reporter "document_rerendered"
      [("widgets", .int d.current.length), ("mounted", .bool wasMounted)])
    let size := d.rendered.tree.length
    if wasMounted then
      match d.mountAll with
      | (d, .error cause) => (d, .error (.mount cause))
      | (d, .ok _) => (d, .ok size)
    else (d, .ok size)

/-- The page that the document is shown on. -/
def page (d : Document) : Tree.Page where
  previews key := (d.current.find? fun p => p.key == key).map Preview.markup
  gate := d.options.gate

/-- The events of asking a gate about regions: it reports those whose threshold the reader has not
reached. -/
def gateEvents (gate : Spoiler.Gate) (regions : List Spoiler.Region) : List Log.Event :=
  if gate.settings.showAll then []
  else
    (regions.filterMap Spoiler.Region.threshold).filterMap fun threshold =>
      if gate.isBeyond threshold then
        some (Log.event .debug "spoilerdown.spoilers.gate" "spoiler_gated"
          [("threshold", .int threshold), ("progress", .int gate.effectiveProgress)])
      else none

/-- The document as text. -/
def html (d : Document) : Document × Except Tree.UnknownKind Text :=
  let events := gateEvents d.options.gate (Tree.Node.regions d.rendered.tree)
  ({ d with session := d.session.note { events } }, d.page.html d.rendered.tree)

end Document

end Loremark
