import Loremark.Text.Basic

/-!
# Addresses

An address is taken apart so that its host name can be rewritten, and put together again. Reading
is lenient: whatever cannot be part of a host name goes to the path, so that hardly anything is
lost. What is lost are an empty user in front of an at sign, the brackets around a host without
colons, and host names longer than 255 characters.
-/

set_option autoImplicit false

namespace Loremark

/-- The parts of an address; a part that is missing is empty. -/
structure Url where
  /-- The scheme with its colon. -/
  scheme : Text := []
  /-- Whether two slashes stand behind the scheme. -/
  slashes : Bool := false
  user : Text := []
  host : Text := []
  port : Text := []
  path : Text := []
  /-- The query with its question mark. -/
  query : Text := []
  /-- The fragment with its number sign. -/
  fragment : Text := []
  deriving DecidableEq, Repr, Inhabited

namespace Url

/-- The characters of a scheme, letters up to case. -/
def isSchemeChar (c : Char) : Bool :=
  Text.isAlphanumeric c || c == '.' || c == '+' || c == '-' || Text.sameLetter 's' c ||
    Text.sameLetter 'i' c || Text.sameLetter 'k' c

/-- The scheme at the beginning of a text, with its colon, and what follows. -/
def splitScheme (text : Text) : Text × Text :=
  let name := text.takeWhile isSchemeChar
  match text.drop name.length with
  | ':' :: rest => if name.isEmpty then ([], text) else (name ++ [':'], rest)
  | _ => ([], text)

/-- The scheme whose addresses have no host. -/
def isHostless (scheme : Text) : Bool := scheme == "javascript:".toList

/-- The schemes whose addresses have a host behind two slashes only. -/
def isSlashed (scheme : Text) : Bool :=
  ["http:".toList, "https:".toList, "ftp:".toList, "gopher:".toList, "file:".toList].contains scheme

/-- The characters that end the part in which a user can stand. -/
def endsAuthority (c : Char) : Bool := c == '/' || c == '?' || c == '#'

/-- The characters that a host name cannot hold. -/
def endsHost (c : Char) : Bool := "%/?;#'\x7b\x7d|\\^`<>\" \r\n\t".toList.contains c

/-- The characters of a label of a host name. -/
def isLabelChar (c : Char) : Bool :=
  Text.isAlphanumeric c || c == '+' || c == '_' || c == '-'

/-- The longest label. -/
def labelLimit : Nat := 63

/-- The longest host name. -/
def hostLimit : Nat := 255

/-- Whether a label is well formed; characters beyond ASCII are let through. -/
def isLabel (label : Text) : Bool :=
  label.length ≤ labelLimit && label.all fun c => isLabelChar c || 127 < c.toNat

/-- The user in front of the last at sign, and what follows it. -/
def splitUser (text : Text) : Text × Text :=
  let region := text.takeWhile (!endsAuthority ·)
  if region.contains '@' then
    let domain := (region.reverse.takeWhile (· != '@')).reverse
    let user := region.take (region.length - domain.length - 1)
    (user, text.drop (user.length + 1))
  else ([], text)

/-- The host with its port, and what follows. A colon at the end belongs to what follows. -/
def splitHost (text : Text) : Text × Text :=
  let host := text.takeWhile (!endsHost ·)
  let host := if host.getLast? == some ':' then host.dropLast else host
  (host, text.drop host.length)

/-- The host name and the port behind it. -/
def splitPort (host : Text) : Text × Text :=
  let port := (host.reverse.takeWhile Text.isDigit).reverse
  let name := host.take (host.length - port.length)
  if name.getLast? == some ':' then (name.dropLast, port) else (host, [])

/-- The labels up to the first one that is not well formed, that one cut where it goes wrong, and
the text that is cut off. -/
def validLabels : List Text → List Text × Text
  | [] => ([], [])
  | label :: labels =>
    if isLabel label then
      let (valid, spill) := validLabels labels
      (label :: valid, spill)
    else
      let start := (label.take labelLimit).takeWhile isLabelChar
      ([start], Text.joinWith ['.'] (label.drop start.length :: labels))

/-- Whether a host name is written in brackets. -/
def isBracketed (host : Text) : Bool :=
  1 < host.length && host.head? == some '[' && host.getLast? == some ']'

/-- The host name as stored, and what has to go back in front of the path. -/
def validHost (host : Text) : Text × Text :=
  if isBracketed host then
    ((if hostLimit < host.length then [] else host).drop 1 |>.dropLast, [])
  else
    let (labels, spill) := validLabels (Text.splitOn '.' host)
    let name := Text.joinWith ['.'] labels
    (if hostLimit < name.length then [] else name, spill)

/-- Splits a path from the query and the fragment behind it. -/
def withPath (url : Url) (text : Text) : Url :=
  let beforeFragment := text.takeWhile (· != '#')
  let path := beforeFragment.takeWhile (· != '?')
  { url with
    path
    query := beforeFragment.drop path.length
    fragment := text.drop beforeFragment.length }

/-- Reads an address. -/
def parse (text : Text) : Url :=
  let (scheme, rest) := splitScheme (Text.trim text)
  if isHostless scheme then ({ scheme } : Url).withPath rest
  else
    let slashes := rest.take 2 == ['/', '/']
    let rest := if slashes then rest.drop 2 else rest
    if slashes || (!scheme.isEmpty && !isSlashed scheme) then
      let (user, rest) := splitUser rest
      let (host, rest) := splitHost rest
      let (host, port) := splitPort host
      let (host, spill) := validHost host
      ({ scheme, slashes, user, host, port } : Url).withPath (spill ++ rest)
    else ({ scheme } : Url).withPath rest

/-- The text of an address whose parts in front of the host, in the host and behind it are
rewritten by a function. The brackets around a host with colons stay. -/
def toTextBy (f : Text → Text) (url : Url) : Text :=
  let front := url.scheme ++ (if url.slashes then ['/', '/'] else []) ++
    (if url.user.isEmpty then [] else url.user ++ ['@'])
  let back :=
    (if url.port.isEmpty then [] else ':' :: url.port) ++ url.path ++ url.query ++ url.fragment
  f front ++ (if url.host.contains ':' then '[' :: f url.host ++ [']'] else f url.host) ++ f back

/-- The text of an address. -/
def toText (url : Url) : Text := url.toTextBy id

end Url

end Loremark
