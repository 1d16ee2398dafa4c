import Loremark.Embed.Kind
import Loremark.Entity.Integer

/-!
# Entity records

A payload of the entity service is validated into a record of its kind. Every declared field can
be missing or null. A field whose name has several words is found under its camel-case spelling
first and under its snake-case spelling otherwise; what is not declared is kept as received.
`Record.title`, `Record.metaLine` and `Record.descriptionText` are what previews show.
-/

set_option autoImplicit false

namespace Loremark.Entity

/-- The entries of a dictionary. -/
abbrev Entries := List (Value × Value)

/-- The part of an arc that a gamble carries. -/
structure ArcRef where
  name : Option Text
  extra : Entries

/-- The fields of a record that depend on its kind. -/
inductive Details where
  | character (name organization : Option Text)
  | arc (name : Option Text) (startChapter endChapter : Option Int)
  | gamble (name : Option Text) (chapterNumber : Option Int) (arc : Option ArcRef)
  | guide (title : Option Text)
  | organization (name : Option Text)
  | chapter (number : Option Int) (title summary : Option Text)
  | volume (number : Option Int)
  | quote (text : Option Text)

/-- A validated payload. -/
structure Record where
  id : Option Int
  description : Option Text
  imageUrl : Option Text
  details : Details
  /-- The entries that are not declared. -/
  extra : Entries

/-- The place of a value that a record cannot take: the key it was found under, and a key inside
it if the fault is there. The empty key stands for the payload itself. -/
abbrev Fault := Text

/-- A declared field: the two spellings of its name. -/
structure Field where
  name : String
  spelling : String

/-- A field whose name is one word. -/
def Field.plain (name : String) : Field := ⟨name, name⟩

namespace Field

/-- The number of the entity itself. -/
def id : Field := plain "id"

/-- The description that most kinds have. -/
def description : Field := plain "description"

/-- The address of a picture. -/
def imageUrl : Field := ⟨"image_url", "imageUrl"⟩

/-- The name of a character, arc, gamble or organization. -/
def nameText : Field := plain "name"

/-- The organization of a character. -/
def organization : Field := plain "organization"

/-- The first chapter of an arc. -/
def startChapter : Field := ⟨"start_chapter", "startChapter"⟩

/-- The last chapter of an arc. -/
def endChapter : Field := ⟨"end_chapter", "endChapter"⟩

/-- The chapter of a gamble. -/
def chapterNumber : Field := ⟨"chapter_number", "chapterNumber"⟩

/-- The arc that a gamble belongs to. -/
def arc : Field := plain "arc"

/-- The title of a guide or chapter. -/
def title : Field := plain "title"

/-- The number of a chapter or volume. -/
def number : Field := plain "number"

/-- The summary of a chapter. -/
def summary : Field := plain "summary"

/-- The words of a quote. -/
def text : Field := plain "text"

end Field

/-- The key of a name inside an organization or arc. -/
def nameKey : Text := Field.nameText.name.toList

/-- The fields that a record of a kind declares. -/
def fields (kind : Kind) : List Field :=
  [Field.id, Field.description, Field.imageUrl] ++
    match kind with
    | .character => [Field.nameText, Field.organization]
    | .arc => [Field.nameText, Field.startChapter, Field.endChapter]
    | .gamble => [Field.nameText, Field.chapterNumber, Field.arc]
    | .guide => [Field.title]
    | .organization => [Field.nameText]
    | .chapter => [Field.number, Field.title, Field.summary]
    | .volume => [Field.number]
    | .quote => [Field.text]

/-- The key under which a payload has a field, with its value. -/
def Field.find? (field : Field) (payload : Entries) : Option (Text × Value) :=
  match Value.get? field.spelling.toList payload with
  | some value => some (field.spelling.toList, value)
  | none => (Value.get? field.name.toList payload).map (field.name.toList, ·)

/-- Reads a field with `read`; null counts as missing. `read` answers with the places inside the
value that are at fault. -/
def Field.get {α : Type} (field : Field) (read : Value → Except (List Fault) α)
    (payload : Entries) : Except (List Fault) (Option α) :=
  match field.find? payload with
  | none | some (_, .null) => .ok none
  | some (key, value) =>
    match read value with
    | .ok found => .ok (some found)
    | .error [] => .error [key]
    | .error inner => .error (inner.map fun place => key ++ '.' :: place)

/-- A text field takes texts only. -/
def readText : Value → Except (List Fault) Text
  | .text text => .ok text
  | _ => .error []

/-- A number field takes everything that stands for an integer. -/
def readInteger (value : Value) : Except (List Fault) Int :=
  match integer? value with
  | some n => .ok n
  | none => .error []

/-- An organization is given by its name or as an object with a name. -/
def readOrganization : Value → Except (List Fault) (Option Text)
  | .dict entries =>
    match Value.get? nameKey entries with
    | none | some .null => .ok none
    | some value => do return some (← readText value)
  | value => do return some (← readText value)

/-- The entries that none of the given keys names. -/
def without (keys : List Text) (entries : Entries) : Entries :=
  entries.filter fun (key, _) =>
    match key with
    | .text key => !keys.contains key
    | _ => true

/-- An arc inside a gamble is an object with an optional name. -/
def readArc : Value → Except (List Fault) ArcRef
  | .dict entries => do
    let name ← Field.nameText.get readText entries
    return ⟨name, without [nameKey] entries⟩
  | _ => .error []

/-- Two validations side by side: the faults of both are reported. -/
def both {α β : Type} (first : Except (List Fault) α) (second : Except (List Fault) β) :
    Except (List Fault) (α × β) :=
  match first, second with
  | .ok a, .ok b => .ok (a, b)
  | .ok _, .error faults => .error faults
  | .error faults, .ok _ => .error faults
  | .error faults, .error more => .error (faults ++ more)

/-- Reads the fields that depend on the kind. -/
def readDetails (kind : Kind) (payload : Entries) : Except (List Fault) Details :=
  let name := Field.nameText.get readText payload
  match kind with
  | .character => do
    let (name, organization) ← both name (Field.organization.get readOrganization payload)
    return .character name organization.join
  | .arc => do
    let (name, first, last) ← both name
      (both (Field.startChapter.get readInteger payload) (Field.endChapter.get readInteger payload))
    return .arc name first last
  | .gamble => do
    let (name, number, arc) ← both name
      (both (Field.chapterNumber.get readInteger payload) (Field.arc.get readArc payload))
    return .gamble name number arc
  | .guide => do return .guide (← Field.title.get readText payload)
  | .organization => do return .organization (← name)
  | .chapter => do
    let (number, title, summary) ← both (Field.number.get readInteger payload)
      (both (Field.title.get readText payload) (Field.summary.get readText payload))
    return .chapter number title summary
  | .volume => do return .volume (← Field.number.get readInteger payload)
  | .quote => do return .quote (← Field.text.get readText payload)

/-- The keys of a payload that declared fields were found under. -/
def usedKeys (kind : Kind) (payload : Entries) : List Text :=
  (fields kind).filterMap fun field => (field.find? payload).map (·.1)

/-- Validates a payload into a record of a kind, or names the places at fault. -/
def parseRecord (kind : Kind) : Value → Except (List Fault) Record
  | .dict payload => do
    let ((id, description, imageUrl), details) ← both
      (both (Field.id.get readInteger payload)
        (both (Field.description.get readText payload) (Field.imageUrl.get readText payload)))
      (readDetails kind payload)
    return { id, description, imageUrl, details, extra := without (usedKeys kind payload) payload }
  | _ => .error [[]]

/-- A text that is there and not empty. -/
def nonEmpty? : Option Text → Option Text
  | some [] => none
  | text => text

/-- A number that is there and not zero. -/
def nonZero? : Option Int → Option Int
  | some 0 => none
  | n => n

namespace Record

/-- The title of a record without a name of its own. -/
def numberedTitle (kind : Kind) (record : Record) (entity : Int) : Text :=
  kind.info.label ++ " #".toList ++ Text.ofInt ((nonZero? record.id).getD entity)

/-- The number shown for a chapter or volume: its own, else that of the record, else that of the
embed. -/
def shownNumber (record : Record) (number : Option Int) (entity : Int) : Text :=
  Text.ofInt ((nonZero? number).getD ((nonZero? record.id).getD entity))

/-- The number of characters of a quote that its title shows. -/
def quoteTitleLength : Nat := 50

/-- The title of a record for an embed without a label. -/
def title (record : Record) (entity : Int) : Text :=
  let named (kind : Kind) (name : Option Text) : Text :=
    (nonEmpty? name).getD (record.numberedTitle kind entity)
  match record.details with
  | .character name _ => named .character name
  | .arc name _ _ => named .arc name
  | .gamble name _ _ => named .gamble name
  | .guide title => named .guide title
  | .organization name => named .organization name
  | .chapter number _ _ => "Chapter ".toList ++ record.shownNumber number entity
  | .volume number => "Volume ".toList ++ record.shownNumber number entity
  | .quote text =>
    match nonEmpty? text with
    | some text => '"' :: text.take quoteTitleLength ++ "...\"".toList
    | none => record.numberedTitle .quote entity

/-- The short line under the title, for kinds that have one. -/
def metaLine (record : Record) : Option Text :=
  match record.details with
  | .character _ organization => nonEmpty? organization
  | .arc _ first last =>
    match nonZero? first, nonZero? last with
    | some first, some last => some ("Ch. ".toList ++ Text.ofInt first ++ '-' :: Text.ofInt last)
    | _, _ => none
  | .gamble _ number _ => (nonZero? number).map fun n => "Ch. ".toList ++ Text.ofInt n
  | .chapter number _ _ => (nonZero? number).map fun n => '#' :: Text.ofInt n
  | .volume number => (nonZero? number).map fun n => "Vol. ".toList ++ Text.ofInt n
  | _ => none

/-- The texts tried for the description, in order. -/
def descriptionTexts (record : Record) : List (Option Text) :=
  match record.details with
  | .gamble _ _ arc => [record.description, arc.bind ArcRef.name]
  | .chapter _ title summary => [summary, title]
  | .quote text => [text]
  | _ => [record.description]

/-- The first description that is not blank, without blanks around it. -/
def descriptionText (record : Record) : Option Text :=
  (record.descriptionTexts.filterMap fun text =>
    text.bind fun text => if Text.allBlank text then none else some (Text.trim text)).head?

end Record

end Loremark.Entity
