import Loremark.Text.Basic

/-!
# Entity kinds

The eight kinds of entities that an embed can name, and one row of presentation and lookup data
for each: label, icon, accent, site path, collection of the entity service, the record fields that
serve as a description, and whether previews show a picture.
-/

set_option autoImplicit false

namespace Loremark

/-- The kinds of entities that an embed can name. -/
inductive Kind where
  | character
  | arc
  | gamble
  | guide
  | organization
  | chapter
  | volume
  | quote
  deriving DecidableEq, Repr, Inhabited

namespace Kind

/-- Every kind, in the order in which lists of kinds are shown. -/
def all : List Kind :=
  [character, arc, gamble, guide, organization, chapter, volume, quote]

/-- The word that names a kind in an embed. -/
def name : Kind → Text
  | character => "character".toList
  | arc => "arc".toList
  | gamble => "gamble".toList
  | guide => "guide".toList
  | organization => "organization".toList
  | chapter => "chapter".toList
  | volume => "volume".toList
  | quote => "quote".toList

/-- The kind that a word names. -/
def ofName? (word : Text) : Option Kind := all.find? (·.name == word)

/-- A field of a record that can serve as a description. -/
inductive DescriptionField where
  | description
  | arcName
  | summary
  | title
  | text
  deriving DecidableEq, Repr

/-- The name of a description field. -/
def DescriptionField.name : DescriptionField → Text
  | description => "description".toList
  | arcName => "arc_name".toList
  | summary => "summary".toList
  | title => "title".toList
  | text => "text".toList

/-- The presentation and lookup data of a kind. -/
structure Info where
  /-- The name shown to readers. -/
  label : Text
  icon : Text
  /-- The name of the theme's accent. -/
  accentKey : Text
  /-- The accent when the theme has none. -/
  accentColor : Text
  /-- The collection in the entity service, which is also the first part of the site path. -/
  endpoint : Text
  /-- The fields tried in order for a description. -/
  descriptionFields : List DescriptionField
  hasMedia : Bool

/-- The accent of kinds without a colour of their own. -/
def neutralAccent : Text := "#94a3b8".toList

/-- The accent of failed lookups. -/
def errorAccent : Text := "#ef4444".toList

/-- The row of a kind. -/
def info : Kind → Info
  | character => {
      label := "Character".toList, icon := "user".toList, accentKey := "character".toList,
      accentColor := "#1976d2".toList, endpoint := "characters".toList,
      descriptionFields := [.description], hasMedia := true }
  | arc => {
      label := "Arc".toList, icon := "book-open".toList, accentKey := "arc".toList,
      accentColor := "#dc004e".toList, endpoint := "arcs".toList,
      descriptionFields := [.description], hasMedia := true }
  | gamble => {
      label := "Gamble".toList, icon := "dice-6".toList, accentKey := "gamble".toList,
      accentColor := "#d32f2f".toList, endpoint := "gambles".toList,
      descriptionFields := [.description, .arcName], hasMedia := false }
  | guide => {
      label := "Guide".toList, icon := "file-text".toList, accentKey := "guide".toList,
      accentColor := "#388e3c".toList, endpoint := "guides".toList,
      descriptionFields := [.description], hasMedia := false }
  | organization => {
      label := "Organization".toList, icon := "users".toList, accentKey := "organization".toList,
      accentColor := "#7c3aed".toList, endpoint := "organizations".toList,
      descriptionFields := [.description], hasMedia := false }
  | chapter => {
      label := "Chapter".toList, icon := "hash".toList, accentKey := "chapter".toList,
      accentColor := neutralAccent, endpoint := "chapters".toList,
      descriptionFields := [.summary, .title], hasMedia := false }
  | volume => {
      label := "Volume".toList, icon := "volume-2".toList, accentKey := "volume".toList,
      accentColor := neutralAccent, endpoint := "volumes".toList,
      descriptionFields := [.description], hasMedia := true }
  | quote => {
      label := "Quote".toList, icon := "quote".toList, accentKey := "quote".toList,
      accentColor := "#00796b".toList, endpoint := "quotes".toList,
      descriptionFields := [.text], hasMedia := false }

/-- The site path of the entities of a kind, up to the number of the entity. -/
def path (kind : Kind) : Text := '/' :: kind.info.endpoint ++ ['/']

/-- The site path of an entity. -/
def url (kind : Kind) (id : Int) : Text := kind.path ++ Text.ofInt id

end Kind

/-- How much a preview of an entity shows. -/
inductive Mode where
  /-- A chip with a popover, for the middle of a sentence. -/
  | inline
  /-- A chip without popover, for dense lists. -/
  | compact
  /-- A card of its own. -/
  | full
  deriving DecidableEq, Repr, Inhabited

namespace Mode

/-- The name of a mode. -/
def name : Mode → Text
  | inline => "inline".toList
  | compact => "compact".toList
  | full => "full".toList

/-- The mode that a word names. -/
def ofName? (word : Text) : Option Mode := [inline, compact, full].find? (·.name == word)

end Mode

end Loremark
