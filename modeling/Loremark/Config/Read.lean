import Loremark.Config.Basic

/-!
# Reading a configuration

A configuration is read from a dictionary of sections. A section that counts as false is empty; a
list of pairs, or anything else that can be taken apart into pairs, does for a dictionary. Entries
that are not known are passed over. The first fault that is met, in the order of the sections and
of their entries, is the one that is reported.
-/

set_option autoImplicit false

namespace Loremark.Config

/-- Why a value is no configuration. -/
inductive Fault where
  /-- The whole is not a dictionary. -/
  | notSections (typeName : Text)
  /-- A section cannot be taken apart. -/
  | notIterable (typeName : Text)
  /-- A part of a section cannot be taken apart. -/
  | notPair (position : Nat)
  /-- A part of a section does not have two halves. -/
  | pairLength (position length : Nat)
  /-- The first half of a part cannot be a key. -/
  | notKey (typeName : Text)
  /-- A number of seconds is neither a number nor a text. -/
  | notNumber (typeName : Text)
  /-- A number of seconds is a text that is no numeral; it is given as messages show it. -/
  | notNumeral (shown : Text)
  /-- A number of seconds is too large an integer. -/
  | tooLarge
  /-- A count is not an integer, or it is negative. -/
  | notCount (name : Text) (value : Value)
  /-- A value is not among those that can be chosen. -/
  | notChoice (name : Text) (choices : List Text) (value : Value)
  /-- A value that is to be shown holds an integer that is too long for it. -/
  | overlong (cause : Text.Overlong)
  deriving Inhabited

/-- The wording of a fault. -/
def Fault.message : Fault → Text
  | notSections typeName => '\'' :: typeName ++ "' object has no attribute 'get'".toList
  | notIterable typeName => '\'' :: typeName ++ "' object is not iterable".toList
  | notPair position =>
    "cannot convert dictionary update sequence element #".toList ++ Text.ofNat position ++
      " to a sequence".toList
  | pairLength position length =>
    "dictionary update sequence element #".toList ++ Text.ofNat position ++
      " has length ".toList ++ Text.ofNat length ++ "; 2 is required".toList
  | notKey typeName => "unhashable type: '".toList ++ typeName ++ ['\'']
  | notNumber typeName =>
    "float() argument must be a string or a real number, not '".toList ++ typeName ++ ['\'']
  | notNumeral shown => "could not convert string to float: ".toList ++ shown
  | tooLarge => "int too large to convert to float".toList
  | notCount name value =>
    name ++ " must be a non-negative integer, got ".toList ++ value.shown
  | notChoice name choices value =>
    name ++ " must be one of ".toList ++ Text.joinWith ", ".toList choices ++
      ", got ".toList ++ value.shown
  | overlong cause => cause.message

/-- The refusal of a value by a fault that shows it, unless the value cannot be shown. -/
def refuse {α : Type} (value : Value) (fault : Fault) : Except Fault α :=
  match value.overlong? with
  | some cause => .error (.overlong cause)
  | none => .error fault

/-- The items that a value is made of: those of a list, the keys of a dictionary, the characters of
a text, the numbers of bytes. -/
def items? : Value → Option (List Value)
  | .list items | .tuple items | .set items => some items
  | .dict entries | .ordered entries => some (entries.map Prod.fst)
  | .text s => some (s.map fun c => .text [c])
  | .bytes content => some (content.map fun byte => .int byte.toNat)
  | _ => none

/-- The entries that the parts of a section make up. `position` is the number of the first one. -/
def entriesOfParts (position : Nat) (entries : List (Value × Value)) :
    List Value → Except Fault (List (Value × Value))
  | [] => .ok entries
  | part :: parts =>
    match items? part with
    | none => .error (.notPair position)
    | some [key, value] =>
      match Value.notKey? key with
      | none => entriesOfParts (position + 1) (Value.put key value entries) parts
      | some typeName => .error (.notKey typeName)
    | some halves => .error (.pairLength position halves.length)

/-- The entries of a section. -/
def entriesOf (value : Value) : Except Fault (List (Value × Value)) :=
  if !value.truthy then .ok []
  else
    match value with
    | .dict entries | .ordered entries => .ok entries
    | value =>
      match items? value with
      | none => .error (.notIterable value.qualifiedTypeName)
      | some parts => entriesOfParts 0 [] parts

/-- The entries of a section of a configuration; a section that is missing has none. -/
def sectionOf (name : String) (sections : List (Value × Value)) :
    Except Fault (List (Value × Value)) :=
  entriesOf ((Value.get? name.toList sections).getD .null)

/-- A count. -/
def count (name : String) (default : Nat) (entries : List (Value × Value)) : Except Fault Nat :=
  match Value.get? name.toList entries with
  | none => .ok default
  | some (.int (.ofNat n)) => .ok n
  | some value => refuse value (.notCount name.toList value)

/-- A choice between named values. -/
def choice {α : Type} (name : String) (default : α) (choices : List (Text × α))
    (entries : List (Value × Value)) : Except Fault α :=
  match Value.get? name.toList entries with
  | none => .ok default
  | some value =>
    match choices.find? fun (text, _) => Value.sameKey (.text text) value with
    | some (_, chosen) => .ok chosen
    | none => refuse value (.notChoice name.toList (choices.map Prod.fst) value)

/-- A flag; every value is one. -/
def flag (name : String) (default : Bool) (entries : List (Value × Value)) : Bool :=
  ((Value.get? name.toList entries).map Value.truthy).getD default

/-- A number of seconds. -/
def seconds : Value → Except Fault Float
  | .float x => .ok x
  | .bool flag => .ok (if flag then 1.0 else 0.0)
  | .int n =>
    let size := Decimal.ofScaled n.natAbs 0
    if size.isInf then .error .tooLarge else .ok (if n < 0 then -size else size)
  | .text text =>
    match Decimal.read? text with
    | some x => .ok x
    | none => .error (.notNumeral (Text.quoted text))
  | .bytes content =>
    let text := content.map fun byte => Char.ofNat byte.toNat
    match if text.all fun c => c.toNat < 128 then Decimal.read? text else none with
    | some x => .ok x
    | none => .error (.notNumeral (Text.quotedBytes content))
  | value => .error (.notNumber value.qualifiedTypeName)

/-- The time after which requests are given up, where nothing stands for never. -/
def timeoutOf (entries : List (Value × Value)) : Except Fault (Option Float) :=
  match Value.get? "timeout".toList entries with
  | none => .ok (some 10.0)
  | some .null => .ok none
  | some value => do return some (← seconds value)

/-- The address of the store; every value that can be shown is one. -/
def baseUrlOf (entries : List (Value × Value)) : Except Fault Text :=
  match Value.get? "base_url".toList entries with
  | none => .ok defaultUrl
  | some value => value.write.mapError .overlong

/-- The connection that a section describes. The number of seconds is looked at first. -/
def Api.ofEntries (entries : List (Value × Value)) : Except Fault Api := do
  let timeout ← timeoutOf entries
  let baseUrl ← baseUrlOf entries
  return {
    baseUrl
    timeout
    token := (Value.get? "token".toList entries).getD .null }

/-- The preferences that a section describes. -/
def Spoilers.ofEntries (entries : List (Value × Value)) : Except Fault Spoilers := do
  let progress ← count "user_progress" 0 entries
  let tolerance ← count "chapter_tolerance" 0 entries
  let hiddenStyle ←
    choice "hidden_style" .blur ([HiddenStyle.blur, .hide].map fun s => (s.name, s)) entries
  let unthresholded ←
    choice "unthresholded" .reveal ([Unthresholded.reveal, .hide].map fun s => (s.name, s)) entries
  return {
    progress, tolerance, hiddenStyle, unthresholded
    showAll := flag "show_all_spoilers" false entries }

/-- The presentation that a section describes. -/
def Previews.ofEntries (entries : List (Value × Value)) : Except Fault Previews := do
  let descriptionLimit ← count "description_limit" 160 entries
  return {
    descriptionLimit
    showImages := flag "show_images" true entries
    compact := flag "compact" false entries
    standaloneCards := flag "standalone_cards" false entries }

/-- The configuration that a value describes. -/
def ofValue : Value → Except Fault Config
  | .dict sections | .ordered sections => do
    let api ← Api.ofEntries (← sectionOf "api" sections)
    let spoilers ← Spoilers.ofEntries (← sectionOf "spoilers" sections)
    let previews ← Previews.ofEntries (← sectionOf "preview" sections)
    return { api, spoilers, previews, embedsEnabled := flag "enable_embeds" true sections }
  | value => .error (.notSections value.qualifiedTypeName)

end Loremark.Config
