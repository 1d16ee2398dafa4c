import Loremark.Text.Bytes
import Loremark.Text.Numeral
import Loremark.Decimal.Shortest

/-!
# Dynamic values

The values that documents of data are made of: entity payloads, configuration files and event
contexts. A dictionary keeps its entries in order of insertion, and its keys may be any value;
entity payloads have text keys only. Dates, bytes, tuples, sets and dictionaries that show their
order come from configuration files alone, texts with halves of pairs in them from payloads alone.
-/

set_option autoImplicit false

namespace Loremark

/-- A value of a data document. -/
inductive Value where
  | null
  | bool (flag : Bool)
  | int (n : Int)
  | float (x : Float)
  | text (s : Text)
  /-- A text that is none, because halves of pairs stand in it. -/
  | halved (codes : List Text.Code)
  | date (year month day : Nat)
  /-- A date with a time of day. -/
  | moment (year month day hour minute second micros : Nat)
  | bytes (content : List UInt8)
  | list (items : List Value)
  /-- A list that can be a key, if its items can. -/
  | tuple (items : List Value)
  /-- Values without repetition. -/
  | set (items : List Value)
  | dict (entries : List (Value × Value))
  /-- A dictionary that shows its order. -/
  | ordered (entries : List (Value × Value))
  deriving Inhabited

namespace Value

/-- The name of the type of a value, as messages give it. -/
def typeName : Value → Text
  | null => "NoneType".toList
  | bool _ => "bool".toList
  | int _ => "int".toList
  | float _ => "float".toList
  | text _ | halved _ => "str".toList
  | date .. => "date".toList
  | moment .. => "datetime".toList
  | bytes _ => "bytes".toList
  | list _ => "list".toList
  | tuple _ => "tuple".toList
  | set _ => "set".toList
  | dict _ => "dict".toList
  | ordered _ => "ordereddict".toList

/-- The name of the type of a value together with where the type belongs. -/
def qualifiedTypeName : Value → Text
  | date .. => "datetime.date".toList
  | moment .. => "datetime.datetime".toList
  | value => value.typeName

/-- Whether a value counts as true where a flag is expected: everything but nothing, zero and the
empty text, list, set and dictionary. -/
def truthy : Value → Bool
  | null => false
  | bool flag => flag
  | int n => n != 0
  | float x => !(x == 0.0)
  | text s => !s.isEmpty
  | halved codes => !codes.isEmpty
  | date .. | moment .. => true
  | bytes content => !content.isEmpty
  | list items | tuple items | set items => !items.isEmpty
  | dict entries | ordered entries => !entries.isEmpty

/-- A date as messages show it. -/
def shownDate (year month day : Nat) : Text :=
  "datetime.date(".toList ++ Text.joinWith ", ".toList ([year, month, day].map Text.ofNat) ++ [')']

/-- A date with a time of day as messages show it: seconds and what follows them are left out where
they are zero. -/
def shownMoment (year month day hour minute second micros : Nat) : Text :=
  let parts := [year, month, day, hour, minute] ++
    (if micros != 0 then [second, micros] else if second != 0 then [second] else [])
  "datetime.datetime(".toList ++ Text.joinWith ", ".toList (parts.map Text.ofNat) ++ [')']

/-- A tuple as messages show it, given its items: a single one has a comma behind it. -/
def shownTuple : List Text → Text
  | [item] => '(' :: item ++ [',', ')']
  | items => '(' :: Text.joinWith ", ".toList items ++ [')']

/-- A set as messages show it, given its items. -/
def shownSet : List Text → Text
  | [] => "set()".toList
  | items => '\x7b' :: Text.joinWith ", ".toList items ++ ['\x7d']

/-- A dictionary that shows its order, given its entries as tuples. -/
def shownOrdered : List Text → Text
  | [] => "ordereddict()".toList
  | entries => "ordereddict([".toList ++ Text.joinWith ", ".toList entries ++ [']', ')']

mutual

/-- A value as messages show it, with texts between quotes. -/
def shown : Value → Text
  | null => "None".toList
  | bool true => "True".toList
  | bool false => "False".toList
  | int n => Text.ofInt n
  | float x => Decimal.shown x
  | text s => Text.quoted s
  | halved codes => Text.Code.quoted codes
  | date year month day => shownDate year month day
  | moment year month day hour minute second micros =>
    shownMoment year month day hour minute second micros
  | bytes content => Text.quotedBytes content
  | list items => '[' :: Text.joinWith ", ".toList (shownItems items) ++ [']']
  | tuple items => shownTuple (shownItems items)
  | set items => shownSet (shownItems items)
  | ordered entries => shownOrdered (shownPairs entries)
  | dict entries => '\x7b' :: Text.joinWith ", ".toList (shownEntries entries) ++ ['\x7d']

/-- The items of a list as messages show them. -/
def shownItems : List Value → List Text
  | [] => []
  | item :: items => shown item :: shownItems items

/-- The entries of a dictionary as messages show them. -/
def shownEntries : List (Value × Value) → List Text
  | [] => []
  | (key, value) :: entries => (shown key ++ ": ".toList ++ shown value) :: shownEntries entries

/-- The entries of a dictionary as tuples. -/
def shownPairs : List (Value × Value) → List Text
  | [] => []
  | (key, value) :: entries => shownTuple [shown key, shown value] :: shownPairs entries

end

mutual

/-- The first integer inside a value that is too long to be shown, if there is one. -/
def overlong? : Value → Option Text.Overlong
  | int n =>
    match Text.writeInt n with
    | .error cause => some cause
    | .ok _ => none
  | list items | tuple items | set items => overlongItem? items
  | dict entries | ordered entries => overlongEntry? entries
  | _ => none

/-- The first integer among items that is too long to be shown. -/
def overlongItem? : List Value → Option Text.Overlong
  | [] => none
  | item :: items => overlong? item <|> overlongItem? items

/-- The first integer among keys and values that is too long to be shown. -/
def overlongEntry? : List (Value × Value) → Option Text.Overlong
  | [] => none
  | (key, value) :: entries => overlong? key <|> overlong? value <|> overlongEntry? entries

end

/-- The digits of a number with zeros in front of them up to a width. -/
def padded (width n : Nat) : Text :=
  let digits := Text.ofNat n
  List.replicate (width - digits.length) '0' ++ digits

/-- A date as running text. -/
def plainDate (year month day : Nat) : Text :=
  padded 4 year ++ '-' :: padded 2 month ++ '-' :: padded 2 day

/-- A value as running text: texts stand without quotes, and halves of pairs, which running text
cannot hold, as escapes. -/
def plain : Value → Text
  | text s => s
  | halved codes => Text.Code.withEscapes (fun c => [c]) codes
  | date year month day => plainDate year month day
  | moment year month day hour minute second micros =>
    plainDate year month day ++ ' ' :: padded 2 hour ++ ':' :: padded 2 minute ++ ':' ::
      padded 2 second ++ (if micros == 0 then [] else '.' :: padded 6 micros)
  | value => shown value

/-- A value as running text, unless an integer in it is too long to be shown. -/
def write (value : Value) : Except Text.Overlong Text :=
  match value.overlong? with
  | some cause => .error cause
  | none => .ok value.plain

mutual

/-- The name of the type of the first part of a value that keeps it from being a key. -/
def notKey? : Value → Option Text
  | list _ => some "list".toList
  | set _ => some "set".toList
  | dict _ => some "dict".toList
  | ordered _ => some "ordereddict".toList
  | tuple items => notKeyIn? items
  | _ => none

/-- The name of the type of the first item that keeps a tuple from being a key. -/
def notKeyIn? : List Value → Option Text
  | [] => none
  | item :: items => notKey? item <|> notKeyIn? items

end

/-- The integer that a value is equal to as a key, if it is a number without a fraction. -/
def keyNumber? : Value → Option Int
  | bool flag => some (if flag then 1 else 0)
  | int n => some n
  | float x =>
    if x == x.floor && !x.isInf then
      some (if x < 0 then -(Float.toUInt64 (-x)).toNat else (Float.toUInt64 x).toNat)
    else none
  | _ => none

/-- Whether two values are the same key: numbers by value, texts by their characters. -/
def sameKey (a b : Value) : Bool :=
  match a, b with
  | text s, text t => s == t
  | halved s, halved t => s == t
  | text _, halved _ | halved _, text _ => false
  | null, null => true
  | date y m d, date y' m' d' => y == y' && m == m' && d == d'
  | _, _ =>
    match keyNumber? a, keyNumber? b with
    | some n, some k => n == k
    | none, none => shown a == shown b && a.typeName == b.typeName
    | _, _ => false

/-- The value stored under a text key. -/
def get? (key : Text) : List (Value × Value) → Option Value
  | [] => none
  | (text k, value) :: entries => if k == key then some value else get? key entries
  | _ :: entries => get? key entries

/-- Stores a value under a key: an entry that is there keeps its place. -/
def put (key value : Value) : List (Value × Value) → List (Value × Value)
  | [] => [(key, value)]
  | (k, v) :: entries =>
    if sameKey k key then (k, value) :: entries else (k, v) :: put key value entries

/-- The value of codes: a text, unless halves of pairs stand in it. -/
def ofCodes (codes : List Text.Code) : Value :=
  match Text.Code.text? codes with
  | some s => text s
  | none => halved codes

end Value

end Loremark
