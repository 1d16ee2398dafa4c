import Loremark.Entity.Widget
import Loremark.Spoiler.Gate
import Loremark.Tree.Node

/-!
# Documents as markup

A document tree is written for one reader: the gate decides on every gated region, and slots show
the preview of their key, or a placeholder if there is none. The content below a region is built
before the gate is asked, so that a tree that cannot be written is refused for every reader; what
is left out does not reach the output.
-/

set_option autoImplicit false

namespace Loremark.Tree

open Html

/-- A node of a kind that is not known. -/
inductive UnknownKind where
  | block (name : Text)
  | inline (name : Text)
  deriving DecidableEq, Repr

/-- The wording of the two cases. -/
def UnknownKind.message : UnknownKind → Text
  | block name => "Unknown block kind: ".toList ++ name
  | inline name => "Unknown inline kind: ".toList ++ name

/-- What a tree is written with. -/
structure Page where
  previews : Text → Option Markup := fun _ => none
  gate : Spoiler.Gate := {}

/-- The entity that a slot asks for. -/
def Slot.request (s : Slot) : Entity.Request :=
  ⟨s.descriptor.kind, s.descriptor.entity, s.descriptor.label⟩

/-- What stands in a slot. -/
def Page.slot (page : Page) (s : Slot) : Markup :=
  (page.previews s.key).getD (s.request.loading s.mode)

/-- The threshold of a region as an attribute. -/
def chapterAttribute (region : Spoiler.Region) : List Attribute :=
  match region.threshold with
  | some threshold => [⟨"data-chapter", Text.ofInt threshold, .all⟩]
  | none => []

/-- The button over a region that is not shown. -/
def Page.overlay (page : Page) (region : Spoiler.Region) : Fragment :=
  line .button
    [fixed "type" "button", cssClass "sd-spoiler-overlay",
      ⟨"title", page.gate.overlayHint region, .all⟩]
    [.element .strong [] [.label region.overlayLabel],
      .element .span [] [.phrase "Click to reveal"]]

/-- A gated region around its content. -/
def Page.veil (page : Page) (region : Spoiler.Region) (content : Fragment) : Fragment :=
  let wrap (state : String) (body : Fragment) : Fragment :=
    block .div (cssClass ("sd-spoiler " ++ state) :: chapterAttribute region) body
  match page.gate.decide region with
  | .reveal => wrap "sd-revealed" content
  | .hide => wrap "sd-hidden" (page.overlay region)
  | .blur =>
    wrap "sd-blurred"
      (block .div [cssClass "sd-spoiler-content", fixed "aria-hidden" "true"] content ++
        page.overlay region)

/-- A block around its content. -/
def blockFragment (kind : BlockKind) (content : Fragment) : Except UnknownKind Fragment :=
  match kind with
  | .paragraph true _ => .ok content
  | .paragraph false true => .ok (line .div [cssClass "sd-paragraph"] content)
  | .paragraph false false => .ok (line .p [] content)
  | .heading level => .ok (line (.heading level) [] content)
  | .bulletList => .ok (block .ul [] content)
  | .orderedList none => .ok (block .ol [] content)
  | .orderedList (some start) => .ok (block .ol [⟨"start", Text.ofInt start, .all⟩] content)
  | .listItem => .ok (line .li [] content)
  | .quote className => .ok (block .blockquote (optional "class" className) content)
  | .container className title =>
    .ok (block .div (⟨"class", className, .all⟩ :: optional "data-title" title) content)
  | .other name => .error (.block name)

/-- Inline markup around its content. -/
def inlineFragment (kind : InlineKind) (content : Fragment) : Except UnknownKind Fragment :=
  match kind with
  | .emphasis => .ok [.element .em [] content]
  | .strong => .ok [.element .strong [] content]
  | .strikethrough => .ok [.element .s [] content]
  | .softBreak => .ok [.newline]
  | .hardBreak => .ok [.void .br [] true, .newline]
  | .code code => .ok [.element .code [] [.running code]]
  | .html html => .ok [.running html]
  | .link href title => .ok [.element .a (⟨"href", href, .all⟩ :: optional "title" title) content]
  | .image src title alt =>
    .ok [.void .img (⟨"src", src, .all⟩ :: ⟨"alt", alt, .all⟩ :: optional "title" title) true]
  | .other name => .error (.inline name)

/-- Whether the content of a kind of inline markup is written. -/
def InlineKind.holds : InlineKind → Bool
  | emphasis | strong | strikethrough | link .. => true
  | _ => false

/-- Whether a kind of block is known. -/
def BlockKind.isKnown : BlockKind → Bool
  | other _ => false
  | _ => true

/-- Whether a node is a tight paragraph. -/
def Node.isTight : Node → Bool
  | .block (.paragraph tight _) _ => tight
  | _ => false

namespace Page

mutual

/-- A node as markup. -/
def fragment (page : Page) : Node → Except UnknownKind Fragment
  | .text value => .ok [.running value]
  | .slot s => .ok [page.slot s]
  | .raw html => .ok [.raw html]
  | .spoiler region children => do return page.veil region (← page.fragments false children)
  | .inline kind children =>
    if kind.holds then do inlineFragment kind (← page.fragments false children)
    else inlineFragment kind []
  | .block kind children =>
    if kind.isKnown then do blockFragment kind (← page.fragments (kind == .listItem) children)
    else blockFragment kind []

/-- Nodes as markup, one after the other. Within a list item, the end of a line sets a tight
paragraph off from what follows it. -/
def fragments (page : Page) (inItem : Bool) : List Node → Except UnknownKind Fragment
  | [] => .ok []
  | node :: nodes => do
    let first ← page.fragment node
    let rest ← page.fragments inItem nodes
    return first ++ (if inItem && node.isTight && !nodes.isEmpty then [.newline] else []) ++ rest

end

/-- A document as text. -/
def html (page : Page) (nodes : List Node) : Except UnknownKind Text := do
  return Markup.writeAll (← page.fragments false nodes)

end Page

end Loremark.Tree
