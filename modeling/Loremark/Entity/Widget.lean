import Loremark.Entity.Record
import Loremark.Html.Markup

/-!
# Widgets

What stands in the output for an embed: a placeholder while its entity is looked up, an error, or
the entity itself, in each of the three modes. A label of the embed takes the place of the title
and of the error text; an empty label counts as none.
-/

set_option autoImplicit false

namespace Loremark.Entity

open Html

/-- The longest description that is shown whole, unless another limit is set. -/
def descriptionLimit : Int := 160

/-- A text cut to a number of characters, with dots where something was cut off. A limit that is
not positive means no limit. -/
def truncate (text : Text) (limit : Int) : Text :=
  if limit ≤ 0 || (text.length : Int) ≤ limit then text
  else Text.trimEnd (text.take limit.toNat) ++ "...".toList

/-- What an embed asks for: an entity, under a label if it has one. -/
structure Request where
  kind : Kind
  entity : Int
  label : Option Text
  deriving DecidableEq, Repr, Inhabited

/-- How cards show their entity. -/
structure CardOptions where
  showImage : Bool := true
  limit : Int := descriptionLimit
  deriving DecidableEq, Repr, Inhabited

namespace Request

/-- The attributes that tell what a widget stands for and how it fares. -/
def data (r : Request) (mode : Mode) (state : String) : List Attribute := [
  ⟨"data-entity-type", r.kind.name, .all⟩,
  ⟨"data-entity-id", Text.ofInt r.entity, .all⟩,
  ⟨"data-mode", mode.name, .all⟩,
  fixed "data-state" state]

/-- The site path of the entity. -/
def url (r : Request) : Text := r.kind.url r.entity

end Request

/-- The style attribute that sets the accent of a widget. -/
def accentStyle (accent : Text) : Attribute :=
  ⟨"style", "--sd-accent:".toList ++ accent, .all⟩

/-- The accent of a kind: that of the theme, or else its own colour. -/
def accent (kind : Kind) : Text :=
  "var(--sd-accent-".toList ++ kind.info.accentKey ++ ", ".toList ++ kind.info.accentColor ++ [')']

/-- The icon of a kind. -/
def icon (kind : Kind) : Markup :=
  .element .span [cssClass "sd-icon", ⟨"data-icon", kind.info.icon, .all⟩,
    fixed "aria-hidden" "true"] []

/-- A labelled span of a widget. -/
def part (name : String) (text : Text) : Markup := .element .span [cssClass name] [.label text]

/-- An empty span that stands for a part that is not there yet. -/
def skeleton (shape : String) : Markup :=
  .element .span [cssClass ("sd-skeleton " ++ shape)] []

/-- The widget of an entity that is being looked up. -/
def Request.loading (r : Request) (mode : Mode) : Markup :=
  let data := r.data mode "loading"
  match mode with
  | .inline =>
    .element .span
      (cssClass "sd-embed sd-inline sd-loading" :: data ++ [accentStyle (accent r.kind)])
      [.element .span [cssClass "sd-chip"] [icon r.kind, part "sd-chip-text" "...".toList]]
  | .compact =>
    .element .span (cssClass "sd-embed sd-compact sd-loading" :: data)
      [skeleton "sd-skeleton-circle", skeleton "sd-skeleton-line"]
  | .full =>
    .element .div (cssClass "sd-embed sd-card sd-loading" :: data)
      [skeleton "sd-skeleton-circle", skeleton "sd-skeleton-line",
        skeleton "sd-skeleton-line sd-skeleton-short"]

/-- The text of a failed lookup that names the kind. -/
def Request.missing (r : Request) : Text :=
  (nonEmpty? r.label).getD (r.kind.info.label ++ " not found".toList)

/-- The body of a card for a failed lookup. -/
def Request.errorBody (r : Request) : Fragment :=
  [icon r.kind, part "sd-title" r.missing,
    part "sd-meta" ("ID: ".toList ++ Text.ofInt r.entity)]

/-- A chip that leads to the page of the entity. -/
def Request.chip (r : Request) (text : Text) : Markup :=
  .element .a [cssClass "sd-chip", ⟨"href", r.url, .all⟩] [icon r.kind, part "sd-chip-text" text]

/-- A popover beside a chip. -/
def popover (body : Fragment) : Markup :=
  .element .span [cssClass "sd-popover", fixed "role" "tooltip"] body

/-- The widget of a failed lookup. -/
def Request.failed (r : Request) (mode : Mode) : Markup :=
  let data := r.data mode "error" ++ [accentStyle Kind.errorAccent]
  match mode with
  | .inline =>
    .element .span (cssClass "sd-embed sd-inline sd-error" :: data)
      [r.chip ((nonEmpty? r.label).getD "Not found".toList), popover r.errorBody]
  | .compact =>
    .element .span (cssClass "sd-embed sd-compact sd-error" :: data)
      [icon r.kind, part "sd-title" r.missing]
  | .full => .element .div (cssClass "sd-embed sd-card sd-error" :: data) r.errorBody

/-- The picture of an entity, or the place where one will be put. -/
def Request.picture (r : Request) (title : Text) (record : Record) : Markup :=
  match nonEmpty? record.imageUrl with
  | some url =>
    .void .img [cssClass "sd-thumb", ⟨"src", url, .all⟩, ⟨"alt", title, .all⟩,
      fixed "loading" "lazy"] false
  | none =>
    .element .span [cssClass "sd-thumb sd-thumb-pending", ⟨"data-media-type", r.kind.name, .all⟩,
      ⟨"data-media-id", Text.ofInt r.entity, .all⟩, ⟨"aria-label", title, .all⟩] []

/-- The body of a card: picture or icon, title, kind, and the lines that the record has. -/
def Request.cardBody (r : Request) (options : CardOptions) (title : Text) (record : Record) :
    Fragment :=
  (if options.showImage && r.kind.info.hasMedia then r.picture title record else icon r.kind) ::
    part "sd-title" title :: part "sd-badge" r.kind.info.label ::
    ((nonEmpty? record.metaLine).map (part "sd-meta")).toList ++
    (record.descriptionText.map fun text =>
      part "sd-description" (truncate text options.limit)).toList

/-- The widget of an entity that has been found. -/
def Request.loaded (r : Request) (options : CardOptions) (mode : Mode) (record : Record) : Markup :=
  let title := (nonEmpty? r.label).getD (record.title r.entity)
  let data := r.data mode "loaded" ++ [accentStyle (accent r.kind)]
  match mode with
  | .inline =>
    .element .span (cssClass "sd-embed sd-inline" :: data)
      [r.chip title, popover (r.cardBody options title record)]
  | .compact =>
    .element .a (cssClass "sd-embed sd-compact" :: ⟨"href", r.url, .all⟩ :: data)
      [icon r.kind, part "sd-title" title]
  | .full =>
    .element .a (cssClass "sd-embed sd-card" :: ⟨"href", r.url, .all⟩ :: data)
      (r.cardBody options title record)

/-- The widget of an embed whose kind is none of the known ones. -/
def unsupported (kindName : Text) (entity : Int) (label : Option Text) : Markup :=
  .element .span [cssClass "sd-embed sd-error", ⟨"data-entity-type", kindName, .all⟩,
    ⟨"data-entity-id", Text.ofInt entity, .all⟩, fixed "data-state" "error",
    accentStyle Kind.errorAccent]
    [part "sd-title" ((nonEmpty? label).getD ("Unsupported embed: ".toList ++ kindName))]

end Loremark.Entity
