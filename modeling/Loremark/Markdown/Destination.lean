import Loremark.Markdown.CharRef
import Loremark.Url.Basic
import Loremark.Url.HostName
import Loremark.Url.Percent

/-!
# Link destinations and titles

How the address and the title of a link are written, and what becomes of an address: its host
name is put into ASCII and it is percent-encoded, and addresses of schemes that can run scripts
or open files are refused.
-/

set_option autoImplicit false

namespace Loremark.Markdown

/-- Whether the host name of an address of this scheme is rewritten. -/
def rewritesHost (scheme : Text) : Bool :=
  scheme.isEmpty ||
    ["http:".toList, "https:".toList, "mailto:".toList].contains scheme

/-- Rewrites the host name of an address. -/
def mapHost (f : Text → Text) (url : Url) : Url :=
  if rewritesHost url.scheme then { url with host := f url.host } else url

/-- An address as it stands in the output. -/
def normalAddress (text : Text) : Text :=
  (mapHost Url.HostName.toAscii (Url.parse text)).toTextBy Url.encode

/-- An address as it is shown to readers. -/
def shownAddress (text : Text) : Text :=
  Url.decode (mapHost Url.HostName.toShown (Url.parse text)).toText

/-- The schemes that are refused, in small letters. -/
def refusedSchemes : List Text :=
  ["vbscript:".toList, "javascript:".toList, "file:".toList, "data:".toList]

/-- The pictures that an address may hold itself, in small letters. -/
def allowedData : List Text :=
  ["data:image/gif;".toList, "data:image/png;".toList, "data:image/jpeg;".toList,
    "data:image/webp;".toList]

/-- Whether an address may be linked to. -/
def isAllowedAddress (address : Text) : Bool :=
  let text := (Text.trim address).map Text.toSmall
  let beginsWith (start : Text) : Bool := (Text.after? start text).isSome
  !refusedSchemes.any beginsWith || allowedData.any beginsWith

/-- A destination between angle brackets, behind the opening one: what stands there, and what
follows. It ends on its line. -/
def bracketed? : Text → Option (Text × Text)
  | [] => none
  | '>' :: text => some ([], text)
  | '\\' :: c :: text => (bracketed? text).map fun (inner, rest) => ('\\' :: c :: inner, rest)
  | c :: text =>
    if c == '\n' || c == '<' then none
    else (bracketed? text).map fun (inner, rest) => (c :: inner, rest)

/-- Whether a character ends a destination: the space and the controls. -/
def endsDestination (c : Char) : Bool := c.toNat ≤ 32 || c.toNat == 127

/-- The deepest nesting of parentheses in a destination. -/
def parenthesisLimit : Nat := 32

/-- A destination without brackets: what stands there, and what follows. Parentheses must be
balanced; `depth` are open. `skip` characters have been dealt with. -/
def bare? : (depth skip : Nat) → Text → Option (Text × Text)
  | depth, _, [] => if depth == 0 then some ([], []) else none
  | depth, skip + 1, c :: text =>
    (bare? depth skip text).map fun (inner, rest) => (c :: inner, rest)
  | depth, 0, c :: text =>
    let stop : Option (Text × Text) := if depth == 0 then some ([], c :: text) else none
    let go (depth skip : Nat) : Option (Text × Text) :=
      (bare? depth skip text).map fun (inner, rest) => (c :: inner, rest)
    if endsDestination c then stop
    else if c == '\\' && !text.isEmpty then
      if text.head? == some ' ' then stop else go depth 1
    else if c == '(' then if depth == parenthesisLimit then none else go (depth + 1) 0
    else if c == ')' then if depth == 0 then stop else go (depth - 1) 0
    else go depth 0

/-- Reads the destination at the beginning of a text: what it says, and what follows. -/
def destination? : Text → Option (Text × Text)
  | '<' :: text => (bracketed? text).map fun (inner, rest) => (unescape inner, rest)
  | text =>
    match bare? 0 0 text with
    | none | some ([], _) => none
    | some (inner, rest) => some (unescape inner, rest)

/-- What reading a title came to. -/
inductive TitleScan where
  /-- The title, and what follows its closing mark. -/
  | closed (title rest : Text)
  /-- The text ends within the title. -/
  | unclosed (title : Text)
  /-- There is no title. -/
  | absent

/-- The closing mark of a title that opens with a mark. -/
def titleMark? (opener : Char) : Option Char :=
  if opener == '"' || opener == '\'' then some opener
  else if opener == '(' then some ')' else none

/-- Reads a title up to its closing mark. `done` holds what has been read of the current stretch,
last character first. -/
def titleFrom (mark : Char) : (done : Text) → Text → TitleScan
  | done, [] => .unclosed (unescape done.reverse)
  | done, '\\' :: c :: text => titleFrom mark (c :: '\\' :: done) text
  | done, c :: text =>
    if c == mark then .closed (unescape done.reverse) text
    else if c == '(' && mark == ')' then .absent
    else titleFrom mark (c :: done) text

/-- Reads the title at the beginning of a text. -/
def title? : Text → Option (Text × Text)
  | [] => none
  | opener :: text =>
    match titleMark? opener with
    | none => none
    | some mark =>
      match titleFrom mark [] text with
      | .closed title rest => some (title, rest)
      | _ => none

end Loremark.Markdown
