import Loremark.Client.Address
import Loremark.Entity.Widget
import Loremark.Json.Bytes
import Loremark.Log.Event

/-!
# The client of the entity store

An entity is looked up by one request. The answer to it, or the way in which it fails, decides
between three ends: the entity is there, it is not there, or the lookup failed for a reason. Only
an answer with a status that tells of a failure hands its status on.

Not every lookup comes to one of these ends. The address of an entity is put together before
anything is sent, and then read; what goes wrong there is a fault of its own, as is an answer from
an address without a scheme.
-/

set_option autoImplicit false

namespace Loremark

/-- A client of the store of entities. -/
structure Client where
  /-- The address of the store without slashes at its end. -/
  baseUrl : Text
  /-- What is shown with every request, if anything is. -/
  authorization : Option Text := none
  deriving DecidableEq, Repr, Inhabited

namespace Client

/-- A text that cannot be sent because it is not ASCII: the first characters that stand in the
way, and where they stand. -/
structure HeaderError where
  characters : Text
  position : Nat
  deriving DecidableEq, Repr

/-- The wording of the refusal. -/
def HeaderError.message (e : HeaderError) : Text :=
  let place :=
    match e.characters with
    | [c] =>
      "character '".toList ++ Text.codeEscape c ++ "' in position ".toList ++
        Text.ofNat e.position
    | characters =>
      "characters in position ".toList ++ Text.ofNat e.position ++ '-' ::
        Text.ofNat (e.position + characters.length - 1)
  "'ascii' codec can't encode ".toList ++ place ++ ": ordinal not in range(128)".toList

/-- Why a token cannot be shown. -/
inductive TokenError where
  /-- It holds an integer that is too long. -/
  | overlong (cause : Text.Overlong)
  /-- Its text cannot be sent. -/
  | header (cause : HeaderError)
  deriving DecidableEq, Repr

/-- The wording of the two reasons. -/
def TokenError.message : TokenError → Text
  | overlong cause => cause.message
  | header cause => cause.message

/-- The sort of the two reasons as reports name it. -/
def TokenError.sort : TokenError → Text
  | overlong _ => "ValueError".toList
  | header _ => "UnicodeEncodeError".toList

/-- What is shown with a request for a token. -/
def authorizationOf (token : Value) : Except TokenError Text := do
  let shown := "Bearer ".toList ++ (← token.write.mapError .overlong)
  let sendable := shown.takeWhile Url.HostName.isAscii
  match (shown.drop sendable.length).takeWhile (!Url.HostName.isAscii ·) with
  | [] => return shown
  | characters => throw (.header ⟨characters, sendable.length⟩)

/-- The client for an address and a token; a token that counts as false is not shown. -/
def ofToken (address : Text) (token : Value) : Except TokenError Client :=
  let baseUrl := Text.trimEndOf '/' address
  if token.truthy then (authorizationOf token).map fun shown => ⟨baseUrl, some shown⟩
  else .ok ⟨baseUrl, none⟩

/-- The address of an entity, unless its number is too long to be written. -/
def urlFor (client : Client) (kind : Kind) (entity : Int) : Except Text.Overlong Text := do
  return client.baseUrl ++ '/' :: kind.info.endpoint ++ '/' :: (← Text.writeInt entity)

/-- A request that is sent to the store. -/
structure Request where
  url : Text
  authorization : Option Text
  deriving DecidableEq, Repr, Inhabited

/-- What becomes of a request. -/
inductive Reply where
  | answer (status : Int) (body : Bytes)
  | timeout (message : Text)
  | failure (message : Text)
  deriving DecidableEq, Repr, Inhabited

/-- How a lookup ends. -/
inductive Fetched where
  | found (entries : List (Value × Value))
  | missing
  | failed (reason : Text) (status : Option Int)
  deriving Inhabited

/-- A fault on the way to the store that is not an answer of the store. -/
inductive Fault where
  /-- The number of the entity is too long to be written. -/
  | overlong (cause : Text.Overlong)
  /-- No request can be sent to the address. -/
  | address (cause : AddressError)
  /-- The answer came from an address without a scheme. -/
  | noScheme (url : Text)
  deriving DecidableEq, Repr

/-- The wording of a fault. -/
def Fault.message : Fault → Text
  | overlong cause => cause.message
  | address cause => cause.message
  | noScheme url => "unknown url type: ".toList ++ Text.quoted url

/-- Whether a byte is a blank of ASCII. -/
def isBlankByte (byte : UInt8) : Bool := byte == 32 || (9 ≤ byte && byte ≤ 13)

/-- Whether a status tells of success. -/
def isSuccess (status : Int) : Bool := 200 ≤ status && status ≤ 299

/-- What a body holds. -/
def readBody (body : Bytes) : Fetched :=
  if body.all isBlankByte then .missing
  else
    match Json.readBytes body with
    | .error message => .failed ("Invalid JSON response: ".toList ++ message) none
    | .ok .null => .missing
    | .ok (.dict []) => .missing
    | .ok (.dict entries) => .found entries
    | .ok value => .failed ("Expected a JSON object, got ".toList ++ value.typeName) none

/-- What a reply tells about an entity. -/
def Reply.read : Reply → Fetched
  | timeout message => .failed ("Request timed out: ".toList ++ message) none
  | failure message => .failed ("Request failed: ".toList ++ message) none
  | answer status body =>
    if status == 404 then .missing
    else if isSuccess status then readBody body
    else .failed ("API error (status ".toList ++ Text.ofInt status ++ [')']) (some status)

/-- The event of a reply, if it is reported. -/
def Reply.event? (kind : Kind) (entity : Int) : Reply → Option Log.Event
  | answer 404 _ =>
    some (Log.event .debug "spoilerdown.client" "entity_missing"
      [("entity_type", .text kind.name), ("entity_id", .int entity)])
  | _ => none

/-- The request for an entity. -/
def request (client : Client) (kind : Kind) (entity : Int) :
    Except Fault (Request × Address) := do
  let url ← (client.urlFor kind entity).mapError .overlong
  let address ← (Address.read url).mapError .address
  address.checkOwn.mapError .address
  let authorization := address.credentials?.or client.authorization
  return (⟨address.target, authorization⟩, address)

/-- Looks up an entity, when the store replies in a given way: the request that is sent, if there
is one, and how the lookup ends. An answer from an address that is only a path is refused. -/
def fetch (client : Client) (kind : Kind) (entity : Int) (reply : Reply) :
    Option Request × Except Fault Fetched :=
  match client.request kind entity with
  | .error fault => (none, .error fault)
  | .ok (request, address) =>
    match address.isAbsolute, reply with
    | false, .answer .. => (some request, .error (.noScheme request.url))
    | _, reply => (some request, .ok reply.read)

/-- The wording of a failed lookup. -/
def failureMessage (kind : Kind) (entity : Int) (reason : Text) : Text :=
  '[' :: kind.name ++ ':' :: Text.ofInt entity ++ "] ".toList ++ reason

/-- The error of a failed lookup: what was asked for, why nothing is known about it, and the status
of the answer if it tells of a failure. -/
structure FetchError where
  kind : Kind
  entity : Int
  reason : Text
  status : Option Int := none
  deriving DecidableEq, Repr

/-- The wording of the error. -/
def FetchError.message (e : FetchError) : Text := failureMessage e.kind e.entity e.reason

/-- What is told to the one who asked for an entity: its entries, nothing, or an error. -/
def Fetched.toResult (kind : Kind) (entity : Int) :
    Fetched → Except FetchError (Option (List (Value × Value)))
  | found entries => .ok (some entries)
  | missing => .ok none
  | failed reason status => .error { kind, entity, reason, status }

/-- Looks up an entity for one who asks for it, when the store replies in a given way: the request
that is sent, if there is one, and what is told. -/
def lookUp (client : Client) (kind : Kind) (entity : Int) (reply : Reply) :
    Option Request × Except Fault (Except FetchError (Option (List (Value × Value)))) :=
  let (sent, fetched) := client.fetch kind entity reply
  (sent, fetched.map (Fetched.toResult kind entity))

/-- Replies that are given one after another; the last one is given again and again. -/
def nextReply : List Reply → Reply × List Reply
  | [] => (.answer 404 [], [])
  | [last] => (last, [last])
  | reply :: replies => (reply, replies)

end Client

end Loremark
