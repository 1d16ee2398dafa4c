import Loremark.Decimal.Read
import Loremark.Text.Base64
import Loremark.Text.Lower
import Loremark.Yaml.Made
import Loremark.Yaml.Node
import Loremark.Yaml.Plain

/-!
# Values of a YAML text

The nodes of a document become values: scalars by their tag or their form, sequences lists, and
mappings dictionaries, unless a tag asks for pairs, a dictionary that shows its order, or a set. No
key of a mapping may occur twice; what is merged into a mapping gives way to the entries of the
mapping itself.
-/

set_option autoImplicit false

namespace Loremark.Yaml

/-! ## Scalars -/

/-- The message for a text that is no integer in a base. -/
def notInteger {α : Type} (base : Nat) (digits : Text) : Except Error α :=
  .error (.value ("invalid literal for int() with base ".toList ++ Text.ofNat base ++
    ": ".toList ++ Text.quoted digits))

/-- The integer that digits write in a base. -/
def integerIn (base : Nat) (digits : Text) : Except Error Int :=
  let isDigit (c : Char) : Bool :=
    Text.isHexDigit c && Text.hexValue c < base
  if base == 10 then
    match Text.readInt digits with
    | .ok n => .ok n
    | .error cause => .error (.value cause.message)
  else if digits.isEmpty || !digits.all isDigit then notInteger base digits
  else .ok (Text.readBase base digits)

/-- The number that parts between colons write in base sixty. -/
def sixtieths (parts : List Nat) : Nat := parts.foldl (fun n part => n * 60 + part) 0

/-- The integer that a scalar writes. -/
def readInteger (version : Nat) (text : Text) : Except Error Int := do
  let text := text.filter (· != '_')
  let digits := unsigned text
  let size : Int ←
    match digits with
    | '0' :: 'b' :: rest => integerIn 2 rest
    | '0' :: 'x' :: rest => integerIn 16 rest
    | '0' :: 'o' :: rest => integerIn 8 rest
    | digits =>
      if digits == ['0'] then pure 0
      else if version == 1 && digits.head? == some '0' then integerIn 8 digits
      else if version == 1 && digits.contains ':' then
        pure (sixtieths ((Text.splitOn ':' digits).map (Text.readBase 10)) : Nat)
      else integerIn 10 digits
  return if text.head? == some '-' then -size else size

/-- The number with a fraction that a scalar writes. -/
def readFloat (version : Nat) (text : Text) : Except Error Float := do
  let text := Text.lower (text.filter (· != '_'))
  let body := unsigned text
  let size : Float ←
    if body == ".inf".toList then pure (1.0 / 0.0)
    else if body == ".nan".toList then pure (0.0 / 0.0)
    else
      let parts := Text.splitOn ':' body
      match if version == 1 then parts.dropLast else [], Decimal.read? (parts.getLastD []) with
      | [], _ =>
        match Decimal.read? body with
        | some x => pure x
        | none =>
          throw (.value ("could not convert string to float: ".toList ++ Text.quoted body))
      | wholes, last =>
        pure (Float.ofNat (sixtieths (wholes.map (Text.readBase 10)) * 60) + last.getD 0)
  return if text.head? == some '-' then -size else size

/-- The flag that a scalar writes. -/
def readFlag (text : Text) : Except Error Bool :=
  let small := Text.lower text
  if isWord ["yes", "y", "true", "on"] small then .ok true
  else if isWord ["no", "n", "false", "off"] small then .ok false
  else .error (.value (Text.quoted small))

/-- The type that a tag names; every other tag is refused. -/
def typeOfTag (tag : Text) : Except Error ScalarType :=
  match Text.after? tagStart tag with
  | none => .error .malformed
  | some name =>
    match String.ofList name with
    | "null" => .ok .null
    | "bool" => .ok .bool
    | "int" => .ok .int
    | "float" => .ok .float
    | "str" => .ok .text
    | "timestamp" => .ok .timestamp
    | "binary" => .ok .binary
    | "merge" => .ok .merge
    | "value" => .ok .value
    | _ => .error .malformed

/-- The type of a scalar. -/
def scalarType (version : Nat) (tag : Option Text) (text : Text) (plain : Bool) :
    Except Error ScalarType :=
  match tag with
  | some tag => typeOfTag tag
  | none => .ok (if plain then typeOfPlain version text else .text)

/-- The message for a number without a character that could be its sign. -/
def noSign {α : Type} : Except Error α := .error (.value "string index out of range".toList)

/-- The value of a scalar of a type. -/
def scalarValue (version : Nat) (text : Text) : ScalarType → Except Error Value
  | .null => .ok .null
  | .bool => (readFlag text).map .bool
  | .int => if text.all (· == '_') then noSign else (readInteger version text).map .int
  | .float => if text.all (· == '_') then noSign else (readFloat version text).map .float
  | .text => .ok (.text text)
  | .timestamp =>
    match readTimestamp? text with
    | some timestamp => timestamp.value
    | none => .error .malformed
  | .binary =>
    match if text.all fun c => c.toNat < 128 then Text.ofBase64? text else none with
    | some bytes => .ok (.bytes bytes)
    | none => .error .malformed
  | .merge | .value => .error .malformed

/-! ## Collections -/

/-- The types that collections can have. -/
inductive CollectionType where
  | list
  /-- A dictionary that shows its order, written as a list of mappings with one entry each. -/
  | ordered
  /-- A list of keys with their values, written likewise. -/
  | pairs
  | dict
  | set
  deriving DecidableEq, Repr

/-- Whether a tag is there and names a type of the language. -/
def names (name : String) (tag : Option Text) : Bool := tag == some (tagStart ++ name.toList)

/-- The type of collections that a tag names. -/
def collectionOfTag? (tag : Option Text) : Option CollectionType :=
  if names "seq" tag then some .list
  else if names "omap" tag then some .ordered
  else if names "pairs" tag then some .pairs
  else if names "map" tag then some .dict
  else if names "set" tag then some .set
  else none

/-- Whether a node is a scalar of a type by its form, or of any kind with a tag that names it. -/
def isOfType (version : Nat) (type : ScalarType) (name : String) : Node → Bool
  | .scalar none text plain => plain && typeOfPlain version text == type
  | .scalar tag _ _ | .sequence tag _ | .mapping tag _ => names name tag

/-- Whether a node is the key that merges other mappings. -/
def isMergeKey (version : Nat) : Node → Bool := isOfType version .merge "merge"

/-- Whether a node is the key of what a mapping stands for where a scalar is asked for. -/
def isValueKey (version : Nat) : Node → Bool := isOfType version .value "value"

mutual

/-- The text that a node stands for where a scalar is asked for. -/
def scalarText? (version : Nat) : Node → Option Text
  | .scalar _ text _ => some text
  | .sequence .. => none
  | .mapping _ entries => entryText? version entries

/-- The text that a mapping stands for. -/
def entryText? (version : Nat) : List (Node × Node) → Option Text
  | [] => none
  | (key, value) :: entries =>
    if isValueKey version key then scalarText? version value else entryText? version entries

end

/-- The value of a mapping with the tag of a scalar. -/
def mappingScalar (version : Nat) (tag : Text) (entries : List (Node × Node)) :
    Except Error Value := do
  let type ← typeOfTag tag
  match entryText? version entries with
  | some text => if type == .timestamp then throw .malformed else scalarValue version text type
  | none => throw .malformed

/-- The message for a value that cannot be a key. -/
def checkKey (key : Value) : Except Error Unit :=
  match Value.notKey? key with
  | some name => .error (.value ("unhashable type: '".toList ++ name ++ ['\'']))
  | none => .ok ()

/-- The key of a mapping that a value makes: a list becomes a tuple, and sets and dictionaries are
no keys. -/
def keyOf : Value → Except Error Value
  | .list items => .ok (.tuple items)
  | .set _ | .dict _ | .ordered _ => .error .malformed
  | key => .ok key

/-- A key and its value in the making. -/
structure Entry where
  key : Made Value
  value : Made Value

/-- Adds the entries of a mapping one after another, in a round. A key that is there is refused,
unless other mappings are merged into this one. -/
def addEntries (round : Nat) (merging : Bool) (entries : List (Value × Value)) :
    List Entry → Made (List (Value × Value))
  | [] => pure entries
  | entry :: rest => do
    let key ← Made.ofExcept round (keyOf (← entry.key))
    let value ← entry.value
    Made.ofExcept round (checkKey key)
    if !merging && entries.any (Value.sameKey key ·.1) then Made.fail round .malformed
    else addEntries round merging (Value.put key value entries) rest

/-- Adds the entries of a dictionary that shows its order one after another, in a round. A key that
is there is a fault without a message. -/
def addOrdered (round : Nat) (entries : List (Value × Value)) :
    List (Option Entry) → Made (List (Value × Value))
  | [] => pure entries
  | none :: _ => Made.fail round .malformed
  | some entry :: rest => do
    let key ← entry.key
    Made.ofExcept round (checkKey key)
    if entries.any (Value.sameKey key ·.1) then Made.fail round (.value [])
    else do
      let value ← entry.value
      addOrdered round (entries ++ [(key, value)]) rest

/-- The pairs of keys and values, made in a round. -/
def pairsOf (round : Nat) : List (Option Entry) → Made (List Value)
  | [] => pure []
  | none :: _ => Made.fail round .malformed
  | some entry :: rest => do
    let key ← entry.key
    let value ← entry.value
    return .tuple [key, value] :: (← pairsOf round rest)

/-- The round in which the content of a collection is made: the next one, unless it is made as a
whole at once. -/
def contentRound (whole : Bool) (round : Nat) : Nat := if whole then round else round + 1

mutual

/-- The value of a node, made in a round. `whole` tells whether the content of collections is made
at once, as it is for keys. -/
def valueOf (version : Nat) (whole : Bool) (round : Nat) : Node → Made Value
  | .scalar tag text plain =>
    if (collectionOfTag? tag).isSome then Made.fail (contentRound whole round) .malformed
    else Made.ofExcept round (do scalarValue version text (← scalarType version tag text plain))
  | .sequence tag items =>
    let inner := contentRound whole round
    match if tag.isNone then some .list else collectionOfTag? tag with
    | some .list => do return .list (← valuesOf version whole inner items)
    | some .ordered => do
      return .ordered (← addOrdered inner [] (singlesOf version whole inner items))
    | some .pairs => do return .list (← pairsOf inner (singlesOf version whole inner items))
    | some .dict | some .set => Made.fail inner .malformed
    | none => Made.fail round .malformed
  | .mapping tag entries =>
    let inner := contentRound whole round
    let content : Made (List (Value × Value)) :=
      match entriesOf version whole inner entries with
      | .error cause => Made.fail inner cause
      | .ok (merged, own) => addEntries inner (!merged.isEmpty) [] (merged ++ own)
    match if tag.isNone then some .dict else collectionOfTag? tag with
    | some .dict => do return .dict (← content)
    | some .set => do return .set ((← content).map Prod.fst)
    | some _ => Made.fail inner .malformed
    | none => Made.ofExcept round (mappingScalar version (tag.getD []) entries)

/-- The values of nodes. -/
def valuesOf (version : Nat) (whole : Bool) (round : Nat) : List Node → Made (List Value)
  | [] => pure []
  | node :: nodes => do
    return (← valueOf version whole round node) :: (← valuesOf version whole round nodes)

/-- The entries of mappings with one entry each; what is none has none. -/
def singlesOf (version : Nat) (whole : Bool) (round : Nat) : List Node → List (Option Entry)
  | [] => []
  | .mapping _ [(key, value)] :: nodes =>
    some ⟨valueOf version whole round key, valueOf version whole round value⟩ ::
      singlesOf version whole round nodes
  | _ :: nodes => none :: singlesOf version whole round nodes

/-- The entries that are merged into a mapping, and its own. Of two keys for merging, the first one
must have nothing to merge. -/
def entriesOf (version : Nat) (whole : Bool) (round : Nat) :
    List (Node × Node) → Except Error (List Entry × List Entry)
  | [] => .ok ([], [])
  | (key, value) :: rest => do
    if isMergeKey version key then
      let source ← sourceOf version whole round value
      let (merged, own) ← entriesOf version whole round rest
      if !source.isEmpty && rest.any (isMergeKey version ·.1) then throw .malformed
      return (source ++ merged, own)
    else
      let key :=
        if isValueKey version key then
          match scalarText? version key with
          | some text => pure (.text text)
          | none => Made.fail round .malformed
        else valueOf version true round key
      let (merged, own) ← entriesOf version whole round rest
      return (merged, ⟨key, valueOf version whole round value⟩ :: own)

/-- The entries that the value of a merge key holds. -/
def sourceOf (version : Nat) (whole : Bool) (round : Nat) : Node → Except Error (List Entry)
  | .scalar .. => .error .malformed
  | .sequence _ items => sourcesOf version whole round items
  | .mapping _ entries => do
    let (merged, own) ← entriesOf version whole round entries
    return merged ++ own

/-- The entries of mappings, those of the first one last, so that it wins. -/
def sourcesOf (version : Nat) (whole : Bool) (round : Nat) :
    List Node → Except Error (List Entry)
  | [] => .ok []
  | .mapping _ entries :: nodes => do
    let (merged, own) ← entriesOf version whole round entries
    return (← sourcesOf version whole round nodes) ++ merged ++ own
  | _ :: _ => .error .malformed

end

/-- Reads a text; a text without a document is `none`. The types of plain scalars are known for two
versions of the language only. -/
def read? (text : Text) : Except Error (Option Value) := do
  match ← readDocument? (← tokensOf text) with
  | none => return none
  | some document =>
    if document.version == 1 || document.version == 2 || !document.root.hasPlain then
      return some (← (valueOf document.version false 0 document.root).toExcept)
    else
      throw (.value ("(1, ".toList ++ Text.ofNat document.version ++ [')']))

end Loremark.Yaml
