import Loremark.Text.Base64
import Loremark.Url.Basic
import Loremark.Url.Internet
import Loremark.Url.Label
import Loremark.Url.Percent

/-!
# Request addresses

The address of a request is brought into a normal form before the request is sent: the scheme and
the host are written in small letters, the usual port of a scheme is left out, dots in the path are
resolved, and characters that cannot be sent are percent-encoded part by part. An address without
a scheme or without a host is sent as a path only, which must be short enough as it is encoded.
-/

set_option autoImplicit false

namespace Loremark.Client

/-- Why no request can be sent to an address. -/
inductive AddressError where
  | tooLong
  | partTooLong (part : Text)
  | control (c : Char) (position : Nat)
  | numbers (host : Text)
  | groups (host : Text)
  | name (host : Text)
  | port (port : Text)
  | pathStart
  | slashes
  | colon
  deriving DecidableEq, Repr

/-- The wording of the reasons. -/
def AddressError.message : AddressError → Text
  | tooLong => "URL too long".toList
  | partTooLong part => "URL component ".toList ++ Text.quoted part ++ " too long".toList
  | control c position =>
    "Invalid non-printable ASCII character in URL, ".toList ++ Text.quoted [c] ++
      " at position ".toList ++ Text.ofNat position ++ ['.']
  | numbers host => "Invalid IPv4 address: ".toList ++ Text.quoted host
  | groups host => "Invalid IPv6 address: ".toList ++ Text.quoted host
  | name host => "Invalid IDNA hostname: ".toList ++ Text.quoted host
  | port text => "Invalid port: ".toList ++ Text.quoted text
  | pathStart => "For absolute URLs, path must be empty or begin with '/'".toList
  | slashes => "Relative URLs cannot have a path starting with '//'".toList
  | colon => "Relative URLs cannot have a path starting with ':'".toList

/-- The parts of an address in normal form. -/
structure Address where
  scheme : Text
  user : Text
  host : Text
  port : Option Int
  path : Text
  query : Option Text
  fragment : Option Text
  deriving DecidableEq, Repr

/-- The longest address. -/
def addressLimit : Nat := 65536

/-- The printable characters of ASCII but for some. -/
def asciiExcept (marks : String) : Text :=
  ((List.range 95).map fun n => Char.ofNat (n + 32)).filter (!marks.toList.contains ·)

/-- The characters that stand as they are in a path. -/
def pathMarks : Text := asciiExcept " \"#<>?\x60\x7b\x7d"

/-- The characters that stand as they are in a query. -/
def queryMarks : Text := asciiExcept " \"#<>"

/-- The characters that stand as they are in a fragment. -/
def fragmentMarks : Text := asciiExcept " \"<>\x60"

/-- The characters that stand as they are in front of a host. -/
def userMarks : Text := asciiExcept " \"#<>?\x60\x7b\x7d/;=@[\\]^|"

/-- The characters that stand as they are in a host. -/
def hostMarks : Text :=
  asciiExcept " #/:<>?@[]^"

/-- A part in which every character but the marks is percent-encoded, and what is encoded already
is left alone. -/
def encodePart (marks : Text) : Text → Text
  | [] => []
  | c :: text =>
    let encoded := c == '%' && (text.take 2).length == 2 && (text.take 2).all Text.isHexDigit
    (if encoded || marks.contains c then [c] else Url.percentChar c) ++ encodePart marks text

/-- A label of a host name in ASCII. -/
def hostLabel? (label : Text) : Option Text :=
  let isAscii := label.all Url.HostName.isAscii
  let encoded := if isAscii then label else Url.HostName.mark ++ Url.HostName.encodeLabel label
  let isValid := if isAscii then Url.Label.isValidAscii label else Url.Label.isValid label
  if isValid && encoded.length ≤ Url.labelLimit then some encoded else none

/-- The longest international host name, in ASCII and without the dot at its end. -/
def hostLimit : Nat := 253

/-- An international host name in ASCII, unless one of its labels cannot be encoded. -/
def hostName? (host : Text) : Option Text := do
  let labels := Text.splitOn '.' (host.map fun c => if Url.HostName.isDot c then '.' else c)
  let (labels, dot) : List Text × Text :=
    if labels.getLast? == some [] then (labels.dropLast, ['.']) else (labels, [])
  let name := Text.joinWith ['.'] (← labels.mapM hostLabel?)
  if name.length ≤ hostLimit then some (name ++ dot) else none

/-- A host in normal form. -/
def encodeHost (host : Text) : Except AddressError Text :=
  if host.isEmpty then .ok []
  else if Url.looksDotted host then if Url.isDotted host then .ok host else .error (.numbers host)
  else if host.head? == some '[' && host.getLast? == some ']' && 1 < host.length then
    let inner := (host.drop 1).dropLast
    if Url.isColonNumber inner then .ok inner else .error (.groups host)
  else if host.all Url.HostName.isAscii then
    .ok (encodePart hostMarks (host.map Text.toSmall))
  else
    match hostName? (Text.lower host) with
    | some name => .ok name
    | none => .error (.name host)

/-- The usual port of a scheme. -/
def usualPort? (scheme : Text) : Option Int :=
  if scheme == "http".toList || scheme == "ws".toList then some 80
  else if scheme == "https".toList || scheme == "wss".toList then some 443
  else if scheme == "ftp".toList then some 21
  else none

/-- A port in normal form. -/
def readPort (scheme port : Text) : Except AddressError (Option Int) :=
  if port.isEmpty then .ok none
  else
    match Text.readInt port with
    | .ok n => .ok (if usualPort? scheme == some n then none else some n)
    | .error _ => .error (.port port)

/-- The scheme at the beginning of an address, and what follows its colon. -/
def splitScheme (text : Text) : Text × Text :=
  let isSchemeChar (c : Char) : Bool := Text.isAlphanumeric c || c == '+' || c == '.' || c == '-'
  match text with
  | ':' :: rest => ([], rest)
  | c :: _ =>
    let name := text.takeWhile isSchemeChar
    match Text.isLetter c, text.drop name.length with
    | true, ':' :: rest => (name, rest)
    | _, _ => ([], text)
  | [] => ([], [])

/-- What stands between two slashes and the path, and what follows. -/
def splitAuthority (text : Text) : Text × Text :=
  match text with
  | '/' :: '/' :: rest =>
    let authority := rest.takeWhile fun c => c != '/' && c != '?' && c != '#'
    (authority, rest.drop authority.length)
  | text => ([], text)

/-- The user in front of the last at sign, and what follows it. -/
def splitUser (authority : Text) : Text × Text :=
  if authority.contains '@' then
    let host := (authority.reverse.takeWhile (· != '@')).reverse
    (authority.take (authority.length - host.length - 1), host)
  else ([], authority)

/-- The host and the port behind it. -/
def splitPort (text : Text) : Text × Text :=
  let host :=
    if text.head? == some '[' && text.contains ']' then
      (text.reverse.dropWhile (· != ']')).reverse
    else text.takeWhile (· != ':')
  match text.drop host.length with
  | ':' :: port => (host, port)
  | port => (host, port)

/-- The components of a path without dots; two dots take the component in front of them away.
`done` holds the components so far, last one first. -/
def resolveDots : (done : List Text) → List Text → List Text
  | done, [] => done.reverse
  | done, component :: components =>
    if component == ['.'] then resolveDots done components
    else if component == ['.', '.'] then
      resolveDots (if done == [[]] then done else done.drop 1) components
    else resolveDots (component :: done) components

/-- A path without components that are dots. -/
def normalPath (path : Text) : Text :=
  let components := Text.splitOn '/' path
  if components.contains ['.'] || components.contains ['.', '.'] then
    Text.joinWith ['/'] (resolveDots [] components)
  else path

/-- Whether an address names a scheme and a host. -/
def Address.isAbsolute (a : Address) : Bool := !a.scheme.isEmpty && !a.host.isEmpty

/-- Refuses a path that cannot stand where it does. -/
def checkPath (hasScheme hasAuthority : Bool) (path : Text) : Except AddressError Unit :=
  if hasAuthority then
    if path.isEmpty || path.head? == some '/' then .ok () else .error .pathStart
  else if hasScheme then .ok ()
  else if path.take 2 == ['/', '/'] then .error .slashes
  else if path.head? == some ':' then .error .colon
  else .ok ()

/-- Whether a character is a control of ASCII. -/
def isControl (c : Char) : Bool := c.toNat < 32 || c.toNat == 127

/-- Reads an address. -/
def Address.read (text : Text) : Except AddressError Address := do
  if addressLimit < text.length then throw .tooLong
  let printable := text.takeWhile (!isControl ·)
  if let c :: _ := text.drop printable.length then throw (.control c printable.length)
  let (scheme, rest) := Client.splitScheme text
  let (authority, rest) := splitAuthority rest
  let (user, place) := Client.splitUser authority
  let (host, port) := Client.splitPort place
  let path := rest.takeWhile fun c => c != '?' && c != '#'
  let rest := rest.drop path.length
  let query := rest.takeWhile (· != '#')
  let fragment := rest.drop query.length
  let host ← encodeHost host
  let port ← readPort scheme port
  let user := encodePart userMarks user
  let hasScheme := !scheme.isEmpty
  let hasAuthority := !user.isEmpty || !host.isEmpty || port.isSome
  checkPath hasScheme hasAuthority path
  let path := if hasScheme || hasAuthority then normalPath path else path
  return {
    scheme := scheme.map Text.toSmall
    user, host, port
    path := encodePart pathMarks path
    query := if query.isEmpty then none else some (encodePart queryMarks (query.drop 1))
    fragment :=
      if fragment.isEmpty then none else some (encodePart fragmentMarks (fragment.drop 1)) }

/-- A part behind its mark, if there is one. -/
def behind (mark : Char) : Option Text → Text
  | none => []
  | some part => mark :: part

/-- The path of an address that is sent as a path only. -/
def Address.ownPath (a : Address) : Text := '/' :: a.path.dropWhile (· == '/')

/-- Refuses an address that is sent as a path only and whose path or query is too long. -/
def Address.checkOwn (a : Address) : Except AddressError Unit :=
  if a.isAbsolute then .ok ()
  else if addressLimit < a.ownPath.length then .error (.partTooLong "path".toList)
  else if addressLimit < (a.query.getD []).length then .error (.partTooLong "query".toList)
  else .ok ()

/-- What a request is addressed to: the whole address, or a path if that is all there is. -/
def Address.target (a : Address) : Text :=
  if a.isAbsolute then
    let authority :=
      (if a.user.isEmpty then [] else a.user ++ ['@']) ++
        (if a.host.contains ':' then '[' :: a.host ++ [']'] else a.host) ++
        behind ':' (a.port.map Text.ofInt)
    a.scheme ++ "://".toList ++ authority ++ a.path ++ behind '?' a.query ++ behind '#' a.fragment
  else a.ownPath ++ behind '?' a.query

/-- The proof of identity that an address carries in front of its host. -/
def Address.credentials? (a : Address) : Option Text :=
  let name := a.user.takeWhile (· != ':')
  let password := a.user.drop (name.length + 1)
  if !a.isAbsolute || (name.isEmpty && password.isEmpty) then none
  else
    let shown := Url.decodeFrom [] 0 name ++ ':' :: Url.decodeFrom [] 0 password
    some ("Basic ".toList ++ Text.toBase64 (Text.toUtf8 shown))

end Loremark.Client
