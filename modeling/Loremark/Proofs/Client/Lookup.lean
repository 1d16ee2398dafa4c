import Loremark.Client.Basic
import Loremark.Proofs.Client.Addresses
import Loremark.Proofs.Json.Documents

/-!
# Looking up an entity

The address of an entity stands beneath that of the store, and is read wherever that of the store
is, unless it is too long (`exists_read_entityPath`).

A body holds nothing, entries, or something that is refused. Which of these it is depends on the
document that it decodes to (`Decodes`), and no document decodes from blanks
(`not_decodes_blank`). With the status of the answer in front, this tells the replies apart
(`read_eq_missing_iff`, `read_eq_found_iff`, `exists_read_failed_iff`) and with them the lookups
(`Tells`).

Not every lookup at a store whose address is read comes to such an end. Nothing is sent for a number
of too many digits or to an address that is too long, and where the store has no scheme or no host,
answers are refused (`Ends`, `lookUp_outcome`, `lookUp_refused`).
-/

set_option autoImplicit false

namespace Loremark.Client

/-! ## The address of an entity -/

/-- The names of the collections can be printed. -/
theorem isControl_endpoint {kind : Kind} : ∀ c ∈ kind.info.endpoint, isControl c = false := by
  have printable : kind.info.endpoint.all (!isControl ·) = true := by
    cases kind <;> rfl
  simpa only [List.all_eq_true, Bool.not_eq_true'] using printable

/-- The digits of a number, and its sign, can be printed. -/
theorem isControl_ofInt {entity : Int} : ∀ c ∈ Text.ofInt entity, isControl c = false := by
  have digits {n : Nat} : ∀ c ∈ Text.ofNat n, isControl c = false := by
    intro c mem
    have digit := Text.isDigit_of_mem_ofNat mem
    rw [Text.isDigit, Bool.and_eq_true, decide_eq_true_iff, decide_eq_true_iff] at digit
    have least : 48 ≤ c.toNat := UInt32.le_iff_toNat_le.mp digit.1
    have most : c.toNat ≤ 57 := UInt32.le_iff_toNat_le.mp digit.2
    rw [isControl, Bool.or_eq_false_iff, decide_eq_false_iff_not, beq_eq_false_iff_ne]
    omega
  cases entity with
  | ofNat n => exact digits
  | negSucc n =>
    exact List.forall_mem_cons.mpr ⟨by decide, digits⟩

/-- A client keeps the address of its store without the slashes at the end. -/
theorem ofToken_baseUrl {base : Text} {token : Value} {client : Client}
    (made : ofToken base token = .ok client) : client.baseUrl = Text.trimEndOf '/' base := by
  rw [ofToken] at made
  split at made
  · obtain ⟨shown, -, rfl⟩ := map_eq_ok_iff.mp made
    rfl
  · cases made
    rfl

/-- The path of an entity: its collection and its number. -/
def entityPath (kind : Kind) (entity : Int) : Text :=
  kind.info.endpoint ++ '/' :: Text.ofInt entity

/-- A number that has not too many digits. -/
def IsWritable (entity : Int) : Prop := (Text.ofNat entity.natAbs).length ≤ Text.digitLimit

instance (entity : Int) : Decidable (IsWritable entity) := inferInstanceAs (Decidable (_ ≤ _))

/-- The address of an entity that can be written stands beneath that of the store. -/
theorem urlFor_eq_ok {base : Text} {token : Value} {client : Client} {entity : Int}
    (made : ofToken base token = .ok client) (writable : IsWritable entity) (kind : Kind) :
    client.urlFor kind entity = .ok (beneath base (entityPath kind entity)) := by
  have written : Text.writeInt entity = .ok (Text.ofInt entity) := if_neg (Nat.not_lt.mpr writable)
  rw [urlFor, written, ofToken_baseUrl made, beneath, entityPath]
  refine congrArg Except.ok ?_
  simp only [List.append_assoc, List.cons_append]

/-- The address of an entity is read where that of the store is, if it is short enough, and names a
scheme and a host where that of the store does. -/
theorem exists_read_entityPath {base : Text} {place : Address} {kind : Kind} {entity : Int}
    (read : Address.read base = .ok place)
    (short : (beneath base (entityPath kind entity)).length ≤ addressLimit) :
    ∃ address, Address.read (beneath base (entityPath kind entity)) = .ok address ∧
      address.isAbsolute = place.isAbsolute := by
  have notSlash : (entityPath kind entity).head? ≠ some '/' := by
    cases kind <;> exact fun slash => absurd (Option.some.inj slash) (by decide)
  have printable : ∀ c ∈ entityPath kind entity, isControl c = false :=
    List.forall_mem_append.mpr
      ⟨isControl_endpoint, List.forall_mem_cons.mpr ⟨by decide, isControl_ofInt⟩⟩
  obtain ⟨address, isRead, scheme, -, host, -⟩ := exists_read_beneath read printable notSlash short
  refine ⟨address, isRead, ?_⟩
  rw [Address.isAbsolute, scheme, host, Address.isAbsolute]

/-- Only an address without a scheme or without a host is refused for the length of a part. -/
theorem isAbsolute_of_refused {address : Address} {cause : AddressError}
    (refused : address.checkOwn = .error cause) : address.isAbsolute = false := by
  rw [Address.checkOwn] at refused
  split at refused
  · cases refused
  · next relative => exact Bool.eq_false_iff.mpr relative

/-! ## Bodies -/

/-- A body of blanks, or an empty one. -/
def IsBlank (body : Bytes) : Prop := ∀ byte ∈ body, isBlankByte byte = true

/-- A body is the document of a value, in the encoding that its first bytes tell. -/
def Decodes (body : Bytes) (v : Value) : Prop :=
  ∃ text, (Json.Encoding.ofBytes body).decode body = .ok text ∧ Json.Document text v

/-- A body is read as a value exactly if it decodes to a document of that value. -/
theorem readBytes_eq_ok_iff {body : Bytes} {v : Value} :
    Json.readBytes body = .ok v ↔ Decodes body v := by
  rw [Json.readBytes]
  constructor
  · intro read
    split at read
    · cases read
    · next text decoded =>
      exact ⟨text, decoded, Json.read_eq_ok_iff.mp (mapError_eq_ok_iff.mp read)⟩
  · rintro ⟨text, decoded, document⟩
    rw [decoded]
    exact mapError_eq_ok_iff.mpr (Json.read_eq_ok_iff.mpr document)

/-- Blank bytes lie between a tab and a space. -/
theorem toNat_of_isBlankByte {byte : UInt8} (blank : isBlankByte byte = true) :
    9 ≤ byte.toNat ∧ byte.toNat ≤ 32 := by
  simp only [isBlankByte, Bool.or_eq_true, Bool.and_eq_true, beq_iff_eq, decide_eq_true_eq,
    UInt8.le_iff_toNat_le] at blank
  rcases blank with rfl | ⟨least, most⟩
  · decide
  · exact ⟨least, Nat.le_trans most (by decide)⟩

/-- A mark begins no blanks. -/
theorem find?_marks_blank {body : Bytes} (blank : IsBlank body) :
    Json.Encoding.marks.find? (fun (mark, _) => mark.isPrefixOf body) = none := by
  have solid : Json.Encoding.marks.all (·.1.any (!isBlankByte ·)) = true := by decide
  rw [List.find?_eq_none]
  rintro ⟨mark, encoding⟩ isMark begins
  obtain ⟨byte, inMark, notBlank⟩ := List.any_eq_true.mp (List.all_eq_true.mp solid _ isMark)
  have inBody : byte ∈ body := (List.isPrefixOf_iff_prefix.mp begins).subset inMark
  rw [blank byte inBody] at notBlank
  cases notBlank

/-- Blanks are in the encoding that no mark tells. -/
theorem ofBytes_blank {body : Bytes} (blank : IsBlank body) :
    Json.Encoding.ofBytes body = .utf8 := by
  have notZero {byte : UInt8} (mem : byte ∈ body) : (byte == 0) = false := by
    rw [beq_eq_false_iff_ne]
    rintro rfl
    exact absurd (blank 0 mem) (by decide)
  rw [Json.Encoding.ofBytes, find?_marks_blank blank]
  dsimp only
  rw [Json.Encoding.ofZeros.eq_def]
  split
  · next a b c d rest =>
    have first : (a == 0) = false := notZero (by simp)
    have second : (b == 0) = false := notZero (by simp)
    rw [first, second]
    rfl
  · next a b =>
    have first : (a == 0) = false := notZero (by simp)
    have second : (b == 0) = false := notZero (by simp)
    rw [first, second]
    rfl
  · rfl

/-- A blank is a code of its own. -/
theorem readCode_blank {byte : UInt8} (blank : isBlankByte byte = true) (position : Nat)
    (bytes : Bytes) :
    Text.readCode position byte bytes = .ok (.char (Char.ofNat byte.toNat), 0) := by
  obtain ⟨-, most⟩ := toNat_of_isBlankByte blank
  have alone : Text.followers? byte = some 0 := by
    rw [Text.followers?, if_pos]
    rw [UInt8.lt_iff_toNat_lt]
    exact Nat.lt_of_le_of_lt most (by decide)
  have notHalf : Text.isHalf byte bytes = false := by
    have other : (byte == 0xED) = false := by
      rw [beq_eq_false_iff_ne]
      rintro rfl
      exact absurd most (by decide)
    rw [Text.isHalf.eq_def]
    split
    · rw [other]
      rfl
    · rfl
  rw [Text.readCode, notHalf, Text.readChar, alone]
  rfl

/-- Blanks decode to the blanks that they are, one code for each byte. -/
theorem decodeFrom_blank {body : Bytes} (blank : IsBlank body) (position : Nat) :
    Text.decodeFrom Text.readCode 0 position body =
      .ok (body.map fun byte => .char (Char.ofNat byte.toNat)) := by
  induction body generalizing position with
  | nil => rfl
  | cons byte body ih =>
    obtain ⟨first, rest⟩ := List.forall_mem_cons.mp blank
    rw [Text.decodeFrom, readCode_blank first]
    exact bind_eq_ok_iff.mpr ⟨_, rfl, bind_eq_ok_iff.mpr ⟨_, ih rest (position + 1), rfl⟩⟩

/-- Nothing is decoded from blanks. -/
theorem not_decodes_blank {body : Bytes} (blank : IsBlank body) (v : Value) :
    ¬ Decodes body v := by
  rintro ⟨text, decoded, front, written, back, rfl, -, -, writes⟩
  obtain ⟨c, more, rfl, opens⟩ := writes.exists_cons
  rw [ofBytes_blank blank] at decoded
  have decodedText := (decodeFrom_blank blank 0).symm.trans decoded
  rw [Except.ok.injEq] at decodedText
  have mem : c ∈ body.map fun byte => Text.Code.char (Char.ofNat byte.toNat) := by
    rw [decodedText]
    simp
  obtain ⟨byte, inBody, rfl⟩ := List.mem_map.mp mem
  obtain ⟨-, most⟩ := toNat_of_isBlankByte (blank byte inBody)
  have low : ∀ n < 33, (Text.Code.char (Char.ofNat n)).toNat ≤ 32 := by decide
  exact absurd opens.printable (Nat.not_lt.mpr (low byte.toNat (by omega)))

/-! ## Replies -/

/-- A status tells of success from 200 to 299. -/
theorem isSuccess_iff {status : Int} : isSuccess status = true ↔ 200 ≤ status ∧ status ≤ 299 := by
  rw [isSuccess, Bool.and_eq_true, decide_eq_true_iff, decide_eq_true_iff]

/-- The test for blanks is right. -/
theorem isBlank_iff {body : Bytes} : body.all isBlankByte = true ↔ IsBlank body :=
  List.all_eq_true

/-- What a body that is not blank holds. -/
theorem readBody_solid {body : Bytes} (solid : ¬ IsBlank body) :
    readBody body =
      match Json.readBytes body with
      | .error message => .failed ("Invalid JSON response: ".toList ++ message) none
      | .ok .null => .missing
      | .ok (.dict []) => .missing
      | .ok (.dict entries) => .found entries
      | .ok value => .failed ("Expected a JSON object, got ".toList ++ value.typeName) none :=
  if_neg (mt isBlank_iff.mp solid)

/-- Nothing is there if a body is blank, null or an empty dictionary. -/
theorem readBody_eq_missing_iff {body : Bytes} :
    readBody body = .missing ↔ IsBlank body ∨ Decodes body .null ∨ Decodes body (.dict []) := by
  by_cases blank : IsBlank body
  · exact iff_of_true (if_pos (isBlank_iff.mpr blank)) (.inl blank)
  · simp only [← readBytes_eq_ok_iff]
    rw [readBody_solid blank, or_iff_right blank]
    split <;> simp_all

/-- An entity is there if a body is any other dictionary. -/
theorem readBody_eq_found_iff {body : Bytes} {entries : List (Value × Value)} :
    readBody body = .found entries ↔ entries ≠ [] ∧ Decodes body (.dict entries) := by
  by_cases blank : IsBlank body
  · refine iff_of_false ?_ fun found => not_decodes_blank blank _ found.2
    rw [readBody, if_pos (isBlank_iff.mpr blank)]
    simp
  · simp only [← readBytes_eq_ok_iff]
    rw [readBody_solid blank]
    split
    · next read => simp [read]
    · next read => simp [read]
    · next read =>
      refine iff_of_false (fun found => by cases found) ?_
      rintro ⟨some, isDict⟩
      rw [read] at isDict
      cases isDict
      exact some rfl
    · next stored some read =>
      rw [read, Fetched.found.injEq, Except.ok.injEq, Value.dict.injEq]
      exact ⟨fun same => ⟨same ▸ some, same⟩, And.right⟩
    · next value _ _ notDict read =>
      refine iff_of_false (fun found => by cases found) ?_
      rintro ⟨-, isDict⟩
      rw [read] at isDict
      cases isDict
      exact notDict _ rfl

/-- No status is handed on with a body. -/
theorem status_of_readBody {body : Bytes} {reason : Text} {status : Option Int}
    (failed : readBody body = .failed reason status) : status = none := by
  by_cases blank : IsBlank body
  · rw [readBody, if_pos (isBlank_iff.mpr blank)] at failed
    cases failed
  · rw [readBody_solid blank] at failed
    split at failed <;> simp_all

section Reply

variable {reply : Reply}

/-- An answer is taken by its status, and its body counts only where that tells of success. -/
theorem read_answer (status : Int) (body : Bytes) :
    (Reply.answer status body).read =
      if status = 404 then .missing
      else if 200 ≤ status ∧ status ≤ 299 then readBody body
      else .failed ("API error (status ".toList ++ Text.ofInt status ++ [')']) (some status) := by
  rw [Reply.read]
  simp only [beq_iff_eq, isSuccess_iff]

/-- A reply tells that nothing is there exactly for the status 404, and for success with a body that
is blank, null or an empty dictionary. -/
theorem read_eq_missing_iff :
    reply.read = .missing ↔ ∃ status body, reply = .answer status body ∧
      (status = 404 ∨ (200 ≤ status ∧ status ≤ 299) ∧
        (IsBlank body ∨ Decodes body .null ∨ Decodes body (.dict []))) := by
  constructor
  · intro missing
    cases reply with
    | timeout message | failure message => cases missing
    | answer status body =>
      rw [read_answer] at missing
      split at missing
      · next notFound => exact ⟨status, body, rfl, .inl notFound⟩
      · split at missing
        · next success =>
          exact ⟨status, body, rfl, .inr ⟨success, readBody_eq_missing_iff.mp missing⟩⟩
        · cases missing
  · rintro ⟨status, body, rfl, notFound | ⟨success, nothing⟩⟩
    · rw [read_answer, if_pos notFound]
    · rw [read_answer, if_neg (by omega), if_pos success]
      exact readBody_eq_missing_iff.mpr nothing

/-- A reply tells of entries exactly for success with a body that is a dictionary with these
entries. -/
theorem read_eq_found_iff {entries : List (Value × Value)} :
    reply.read = .found entries ↔ entries ≠ [] ∧ ∃ status body, reply = .answer status body ∧
      (200 ≤ status ∧ status ≤ 299) ∧ Decodes body (.dict entries) := by
  constructor
  · intro found
    cases reply with
    | timeout message | failure message => cases found
    | answer status body =>
      rw [read_answer] at found
      split at found
      · cases found
      · split at found
        · next success =>
          obtain ⟨some, decodes⟩ := readBody_eq_found_iff.mp found
          exact ⟨some, status, body, rfl, success, decodes⟩
        · cases found
  · rintro ⟨some, status, body, rfl, success, decodes⟩
    rw [read_answer, if_neg (by omega), if_pos success]
    exact readBody_eq_found_iff.mpr ⟨some, decodes⟩

/-- A status is handed on exactly if it tells of a failure other than that nothing is there. -/
theorem exists_read_failed_iff {status : Int} :
    (∃ reason, reply.read = .failed reason (some status)) ↔
      ∃ body, reply = .answer status body ∧ status ≠ 404 ∧ ¬ (200 ≤ status ∧ status ≤ 299) := by
  constructor
  · rintro ⟨reason, failed⟩
    cases reply with
    | timeout message | failure message => cases failed
    | answer other body =>
      rw [read_answer] at failed
      split at failed
      · cases failed
      · next found =>
        split at failed
        · cases status_of_readBody failed
        · next noSuccess =>
          cases failed
          exact ⟨body, rfl, found, noSuccess⟩
  · rintro ⟨body, rfl, found, noSuccess⟩
    rw [read_answer, if_neg found, if_neg noSuccess]
    exact ⟨_, rfl⟩

end Reply

/-! ## Lookups -/

section Result

variable {kind : Kind} {entity : Int} {fetched : Fetched}

/-- Nothing is told exactly if nothing is there. -/
theorem toResult_eq_none_iff : fetched.toResult kind entity = .ok none ↔ fetched = .missing := by
  cases fetched <;> simp [Fetched.toResult]

/-- Entries are told exactly if they are there. -/
theorem toResult_eq_some_iff {entries : List (Value × Value)} :
    fetched.toResult kind entity = .ok (some entries) ↔ fetched = .found entries := by
  cases fetched <;> simp [Fetched.toResult]

/-- An error is told exactly for a failure, and names what was asked for beside the reason and the
status. -/
theorem toResult_eq_error_iff {e : FetchError} :
    fetched.toResult kind entity = .error e ↔
      e.kind = kind ∧ e.entity = entity ∧ fetched = .failed e.reason e.status := by
  cases fetched with
  | found | missing => simp [Fetched.toResult]
  | failed reason status =>
    obtain ⟨errorKind, errorEntity, errorReason, errorStatus⟩ := e
    simp only [Fetched.toResult, Except.error.injEq, FetchError.mk.injEq, Fetched.failed.injEq]
    constructor
    · rintro ⟨rfl, rfl, rfl, rfl⟩
      exact ⟨rfl, rfl, rfl, rfl⟩
    · rintro ⟨rfl, rfl, rfl, rfl⟩
      exact ⟨rfl, rfl, rfl, rfl⟩

end Result

/-- What is told about an entity when a reply comes: nothing, exactly for an answer that nothing is
there, and for a successful one with a body that is blank, null or an empty dictionary; its
entries, exactly for a successful answer with a body that is a dictionary with entries; and an error
for what was asked for in every other case. -/
structure Tells (reply : Reply) (kind : Kind) (entity : Int)
    (told : Except FetchError (Option (List (Value × Value)))) : Prop where
  missing : told = .ok none ↔ ∃ status body, reply = .answer status body ∧
    (status = 404 ∨ (200 ≤ status ∧ status ≤ 299) ∧
      (IsBlank body ∨ Decodes body .null ∨ Decodes body (.dict [])))
  found : ∀ entries, told = .ok (some entries) ↔ entries ≠ [] ∧ ∃ status body,
    reply = .answer status body ∧ (200 ≤ status ∧ status ≤ 299) ∧ Decodes body (.dict entries)
  failed : ∀ e, told = .error e → e.kind = kind ∧ e.entity = entity
  /-- A status comes with the error exactly if the answer has one that tells neither of success nor
  that nothing is there. -/
  status : ∀ status, (∃ e, told = .error e ∧ e.status = some status) ↔ ∃ body,
    reply = .answer status body ∧ status ≠ 404 ∧ ¬ (200 ≤ status ∧ status ≤ 299)

/-- What a reply is read as tells about the entity what it should. -/
theorem tells_toResult (reply : Reply) (kind : Kind) (entity : Int) :
    Tells reply kind entity (reply.read.toResult kind entity) where
  missing := by rw [toResult_eq_none_iff, read_eq_missing_iff]
  found := by
    intro entries
    rw [toResult_eq_some_iff, read_eq_found_iff]
  failed := by
    intro e failed
    obtain ⟨sameKind, sameEntity, -⟩ := toResult_eq_error_iff.mp failed
    exact ⟨sameKind, sameEntity⟩
  status := by
    intro status
    rw [← exists_read_failed_iff]
    constructor
    · rintro ⟨e, failed, hasStatus⟩
      obtain ⟨-, -, same⟩ := toResult_eq_error_iff.mp failed
      exact ⟨e.reason, by rw [same, hasStatus]⟩
    · rintro ⟨reason, failed⟩
      exact ⟨⟨kind, entity, reason, some status⟩,
        toResult_eq_error_iff.mpr ⟨rfl, rfl, failed⟩, rfl⟩

section Sent

variable {client : Client} {kind : Kind} {entity : Int}

/-- Where no request can be made, nothing is sent. -/
theorem lookUp_of_refused {fault : Fault} (refused : client.request kind entity = .error fault)
    (reply : Reply) : client.lookUp kind entity reply = (none, .error fault) := by
  rw [lookUp, fetch, refused]
  rfl

/-- Nothing is sent for a number that has too many digits. -/
theorem lookUp_overlong (long : ¬ IsWritable entity) (reply : Reply) :
    client.lookUp kind entity reply = (none, .error (.overlong ⟨entity⟩)) := by
  have refused : client.urlFor kind entity = .error ⟨entity⟩ := by
    rw [urlFor, Text.writeInt, if_pos (Nat.not_le.mp long)]
    rfl
  refine lookUp_of_refused ?_ reply
  rw [Client.request, refused]
  rfl

section Written

variable {url : Text} (isUrl : client.urlFor kind entity = .ok url)

include isUrl

/-- A request is made by reading the address and testing what is sent of it. -/
theorem request_eq :
    client.request kind entity = (do
      let address ← (Address.read url).mapError .address
      address.checkOwn.mapError .address
      return (⟨address.target, address.credentials?.or client.authorization⟩, address)) := by
  rw [Client.request, isUrl]
  rfl

/-- Nothing is sent to an address that is too long. -/
theorem lookUp_long (long : addressLimit < url.length) (reply : Reply) :
    client.lookUp kind entity reply = (none, .error (.address .tooLong)) := by
  have refused : Address.read url = .error .tooLong := by
    rw [Address.read, if_pos long]
    rfl
  refine lookUp_of_refused ?_ reply
  rw [request_eq isUrl, refused]
  rfl

/-- Nothing is sent to an address that is read but cannot be sent as the path that it is. -/
theorem lookUp_unsendable {address : Address} {cause : AddressError}
    (read : Address.read url = .ok address) (refused : address.checkOwn = .error cause)
    (reply : Reply) : client.lookUp kind entity reply = (none, .error (.address cause)) := by
  refine lookUp_of_refused ?_ reply
  rw [request_eq isUrl, read]
  change address.checkOwn.mapError Fault.address >>= _ = _
  rw [refused]
  rfl

/-- The request that is sent to an address that is read. -/
theorem request_eq_ok {address : Address} (read : Address.read url = .ok address)
    (sendable : address.checkOwn = .ok ()) :
    client.request kind entity =
      .ok (⟨address.target, address.credentials?.or client.authorization⟩, address) := by
  rw [request_eq isUrl, read]
  change address.checkOwn.mapError Fault.address >>= _ = _
  rw [sendable]
  rfl

end Written

section Answered

variable {request : Request} {address : Address}
  (sent : client.request kind entity = .ok (request, address))

include sent

/-- What is told is what the reply is read as, unless an answer comes from an address without a
scheme or without a host. -/
theorem lookUp_eq {reply : Reply}
    (heard : address.isAbsolute = true ∨ ∀ status body, reply ≠ .answer status body) :
    client.lookUp kind entity reply = (some request, .ok (reply.read.toResult kind entity)) := by
  rw [lookUp, fetch, sent]
  dsimp only
  split
  · next isFalse =>
    rcases heard with isTrue | noAnswer
    · rw [isTrue] at isFalse
      cases isFalse
    · exact absurd rfl (noAnswer _ _)
  · rfl

/-- An answer from an address without a scheme or without a host is refused. -/
theorem lookUp_relative (relative : address.isAbsolute = false) (status : Int) (body : Bytes) :
    client.lookUp kind entity (.answer status body) =
      (some request, .error (.noScheme request.url)) := by
  rw [lookUp, fetch, sent]
  dsimp only
  rw [relative]
  rfl

end Answered

end Sent

/-- How the lookup of an entity ends at a store whose address `base` is read as `place`: the request
that is sent, if there is one, and what comes of it. -/
inductive Ends (base : Text) (place : Address) (kind : Kind) (entity : Int) (reply : Reply) :
    Option Request × Except Fault (Except FetchError (Option (List (Value × Value)))) → Prop
  /-- The number has too many digits: nothing is sent. -/
  | overlong (long : ¬ IsWritable entity) :
      Ends base place kind entity reply (none, .error (.overlong ⟨entity⟩))
  /-- The address of the entity is too long: nothing is sent. -/
  | tooLong (writable : IsWritable entity)
      (long : addressLimit < (beneath base (entityPath kind entity)).length) :
      Ends base place kind entity reply (none, .error (.address .tooLong))
  /-- The store has no scheme or no host, and the path or the query to be sent is too long. -/
  | unsendable {address : Address} {cause : AddressError} (writable : IsWritable entity)
      (read : Address.read (beneath base (entityPath kind entity)) = .ok address)
      (relative : place.isAbsolute = false) (refused : address.checkOwn = .error cause) :
      Ends base place kind entity reply (none, .error (.address cause))
  /-- The store has no scheme or no host, and an answer comes: it is refused. -/
  | noScheme {address : Address} {request : Request} (writable : IsWritable entity)
      (read : Address.read (beneath base (entityPath kind entity)) = .ok address)
      (sendable : address.checkOwn = .ok ()) (url : request.url = address.target)
      (relative : place.isAbsolute = false) (isAnswer : ∃ status body, reply = .answer status body) :
      Ends base place kind entity reply (some request, .error (.noScheme request.url))
  /-- In all other cases one request is sent, and the reply decides what is told. -/
  | told {address : Address} {request : Request}
      {told : Except FetchError (Option (List (Value × Value)))} (writable : IsWritable entity)
      (read : Address.read (beneath base (entityPath kind entity)) = .ok address)
      (sendable : address.checkOwn = .ok ()) (url : request.url = address.target)
      (heard : place.isAbsolute = true ∨ ∀ status body, reply ≠ .answer status body)
      (tells : Tells reply kind entity told) :
      Ends base place kind entity reply (some request, .ok told)

/-- At every store whose address is read, the lookup of an entity sends one request, to the address
of the store without the slashes at its end, the collection and the entity, and what is told is
decided by the reply, unless the entity cannot be written, all of that together is too long for an
address, or the store has no scheme or no host and an answer comes or the path is too long. -/
theorem lookUp_outcome {base : Text} {token : Value} {client : Client} {place : Address}
    (made : ofToken base token = .ok client) (accepted : Address.read base = .ok place)
    (kind : Kind) (entity : Int) (reply : Reply) :
    Ends base place kind entity reply (client.lookUp kind entity reply) := by
  by_cases writable : IsWritable entity
  · have isUrl := urlFor_eq_ok made writable kind
    -- Only its length can keep what stands beneath an address that is read from being read.
    by_cases long : addressLimit < (beneath base (entityPath kind entity)).length
    · rw [lookUp_long isUrl long]
      exact .tooLong writable long
    · obtain ⟨address, read, absolute⟩ := exists_read_entityPath accepted (Nat.le_of_not_lt long)
      cases sendable : address.checkOwn with
      | error cause =>
        have relative : place.isAbsolute = false := absolute ▸ isAbsolute_of_refused sendable
        rw [lookUp_unsendable isUrl read sendable]
        exact .unsendable writable read relative sendable
      | ok =>
        have sent := request_eq_ok isUrl read sendable
        by_cases heard : place.isAbsolute = true ∨ ∀ status body, reply ≠ .answer status body
        · rw [lookUp_eq sent (absolute ▸ heard)]
          exact .told writable read sendable rfl heard (tells_toResult reply kind entity)
        · simp only [not_or, Bool.not_eq_true, not_forall, ne_eq, not_not] at heard
          obtain ⟨relative, status, body, rfl⟩ := heard
          rw [lookUp_relative sent (absolute.trans relative)]
          exact .noScheme writable read sendable rfl relative ⟨status, body, rfl⟩
  · rw [lookUp_overlong writable]
    exact .overlong writable

/-- An arc is found at a store with a slash at the end of its address. -/
theorem lookUp_outcome_arc :
    ∃ address request told,
      Address.read (beneath "http://h/a/".toList (entityPath .arc 5)) = .ok address ∧
      Client.lookUp ⟨"http://h/a".toList, none⟩ .arc 5
        (.answer 200 [123, 34, 105, 100, 34, 58, 53, 125]) = (some request, .ok told) ∧
      request.url = address.target ∧ told = .ok (some [(.text "id".toList, .int 5)]) := by
  have made : ofToken "http://h/a/".toList .null = .ok ⟨"http://h/a".toList, none⟩ := rfl
  obtain ⟨place, accepted, absolute⟩ :
      ∃ place, Address.read "http://h/a/".toList = .ok place ∧ place.isAbsolute = true :=
    ⟨_, rfl, rfl⟩
  have decodes : Decodes [123, 34, 105, 100, 34, 58, 53, 125]
      (.dict [(.text "id".toList, .int 5)]) := readBytes_eq_ok_iff.mp rfl
  have ends := lookUp_outcome made accepted .arc 5
    (.answer 200 [123, 34, 105, 100, 34, 58, 53, 125])
  generalize Client.lookUp _ _ _ _ = result at ends ⊢
  cases ends with
  | overlong long => exact absurd (by decide) long
  | tooLong _ long => exact absurd long (by decide)
  | unsendable _ _ relative =>
    rw [absolute] at relative
    cases relative
  | noScheme _ _ _ _ relative =>
    rw [absolute] at relative
    cases relative
  | told _ read _ url _ tells =>
    exact ⟨_, _, _, read, rfl, url, (tells.found _).mpr
      ⟨List.cons_ne_nil _ _, 200, _, rfl, ⟨by decide, by decide⟩, decodes⟩⟩

/-- A path can fill the address of a store so that the address is read, but not with an entity. -/
theorem lookUp_filled {path : Text} (printable : ∀ c ∈ path, isControl c = false)
    (free : '/' ∉ path) (short : path.length + 9 ≤ addressLimit)
    (long : addressLimit < path.length + 16) (reply : Reply) :
    ∃ client place, ofToken (beneath "http://h".toList path) .null = .ok client ∧
      Address.read (beneath "http://h".toList path) = .ok place ∧
      client.lookUp .arc 5 reply = (none, .error (.address .tooLong)) := by
  have some : path ≠ [] := by
    rintro rfl
    exact absurd long (by decide)
  have notSlash : path.head? ≠ Option.some '/' := fun slash => free (List.mem_of_mem_head? slash)
  have isBeneath : beneath "http://h".toList path = "http://h/".toList ++ path := rfl
  have kept : Text.trimEndOf '/' path = path := Text.trimEndOf_of_not_mem free
  have trimmed : Text.trimEndOf '/' ("http://h/".toList ++ path) = "http://h/".toList ++ path := by
    rw [Text.trimEndOf_append _ (kept.symm ▸ some), kept]
  have length : ("http://h/".toList ++ path).length = path.length + 9 := by
    rw [List.length_append, Nat.add_comm]
    rfl
  obtain ⟨_, host⟩ : ∃ place, Address.read "http://h".toList = .ok place := ⟨_, rfl⟩
  obtain ⟨place, accepted, -⟩ :=
    exists_read_beneath host printable notSlash (isBeneath ▸ length.trans_le short)
  have made : ofToken (beneath "http://h".toList path) .null =
      .ok ⟨Text.trimEndOf '/' (beneath "http://h".toList path), none⟩ := rfl
  have tooLong :
      addressLimit < (beneath (beneath "http://h".toList path) (entityPath .arc 5)).length := by
    rw [isBeneath, beneath, trimmed, List.length_append, length]
    exact long
  exact ⟨_, place, made, accepted, lookUp_long (urlFor_eq_ok made (by decide) .arc) tooLong reply⟩

/-- Lookups that tell nothing, though the address of the store is read: an answer comes to a store
without a scheme, the number has 4301 digits, or the address is too long with the entity. -/
theorem lookUp_refused :
    ((∃ place, Address.read "h/a".toList = .ok place) ∧
      Client.lookUp ⟨"h/a".toList, none⟩ .arc 5
          (.answer 200 [123, 34, 105, 100, 34, 58, 53, 125]) =
        (some ⟨"/h/a/arcs/5".toList, none⟩, .error (.noScheme "/h/a/arcs/5".toList))) ∧
    Client.lookUp ⟨"http://h/a".toList, none⟩ .arc (Int.pow 10 4300) (.answer 404 []) =
      (none, .error (.overlong ⟨Int.pow 10 4300⟩)) ∧
    ∃ client place,
      ofToken (beneath "http://h".toList (List.replicate 65527 'a')) .null = .ok client ∧
      Address.read (beneath "http://h".toList (List.replicate 65527 'a')) = .ok place ∧
      client.lookUp .arc 5 (.answer 404 []) = (none, .error (.address .tooLong)) := by
  refine ⟨⟨⟨_, rfl⟩, rfl⟩, lookUp_overlong (by decide +kernel) _, lookUp_filled ?_ ?_ ?_ ?_ _⟩
  · intro c mem
    rw [List.eq_of_mem_replicate mem]
    decide
  · intro mem
    exact absurd (List.eq_of_mem_replicate mem) (by decide)
  · rw [List.length_replicate]
    decide
  · rw [List.length_replicate]
    decide

end Loremark.Client
