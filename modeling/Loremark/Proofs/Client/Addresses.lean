import Loremark.Client.Address
import Loremark.Proofs.Results
import Loremark.Proofs.Text.Occurrence

/-!
# Reading addresses

An address is cut into a scheme, an authority and what follows them (`splitScheme`,
`splitAuthority`), and it is read exactly if these parts can be (`read_eq_ok_iff`,
`readParts_eq_ok_iff`).

A path can be put beneath every address that is read, one without a scheme or without a host too:
the scheme and the authority stay the same (`splitScheme_beneath`, `splitAuthority_beneath`), and a
path may stand where the end of the address did (`checkPath_beneath`). So what stands beneath an
address is read if it is not too long (`exists_read_beneath`).
-/

set_option autoImplicit false

namespace Loremark.Client

/-! ## Parts of an address -/

/-- What a scheme is made of. -/
def isSchemeChar (c : Char) : Bool :=
  Text.isAlphanumeric c || c == '+' || c == '.' || c == '-'

/-- A scheme: a letter, and characters that may follow one. -/
def IsScheme (scheme : Text) : Prop :=
  (∃ c more, scheme = c :: more ∧ Text.isLetter c = true) ∧ ∀ c ∈ scheme, isSchemeChar c = true

/-- Whether a character can stand between two slashes and the path. -/
def isAuthorityChar (c : Char) : Bool := c != '/' && c != '?' && c != '#'

/-- What may stand behind an authority: nothing, a path, a query or a fragment. -/
def EndsAuthority (rest : Text) : Prop :=
  ∀ c, rest.head? = some c → isAuthorityChar c = false

/-- A scheme may hold letters. -/
theorem isSchemeChar_of_isLetter {c : Char} (isLetter : Text.isLetter c = true) :
    isSchemeChar c = true := by
  rw [isSchemeChar, Text.isAlphanumeric, isLetter]
  rfl

/-- No slash stands in a scheme or in the colon behind it. -/
theorem IsScheme.free {scheme : Text} (isScheme : IsScheme scheme) : '/' ∉ scheme ++ [':'] := by
  rw [List.mem_append]
  rintro (mem | mem)
  · exact absurd (isScheme.2 '/' mem) (by decide)
  · exact absurd mem (by decide)

/-- A text that does not begin with a colon has a scheme if a letter and a run of scheme characters
stand in front of a colon. -/
theorem splitScheme_cons {c : Char} (other : c ≠ ':') (text : Text) :
    splitScheme (c :: text) =
      match Text.isLetter c, (c :: text).drop ((c :: text).takeWhile isSchemeChar).length with
      | true, ':' :: rest => ((c :: text).takeWhile isSchemeChar, rest)
      | _, _ => ([], c :: text) := by
  rw [splitScheme.eq_def]
  split
  · next same => exact absurd (List.cons.inj same).1 other
  · next same =>
    cases same
    rfl
  · next same => cases same

/-- A scheme that is told apart stands in front of a colon. -/
theorem splitScheme_sound {text : Text} (some : (splitScheme text).1 ≠ []) :
    IsScheme (splitScheme text).1 ∧
      text = (splitScheme text).1 ++ ':' :: (splitScheme text).2 := by
  rcases text with _ | ⟨c, text⟩
  · exact absurd rfl some
  by_cases colon : c = ':'
  · subst colon
    exact absurd rfl some
  rw [splitScheme_cons colon] at some ⊢
  rw [Text.drop_takeWhile] at some ⊢
  split
  · next rest isLetter behind =>
    have begins := List.takeWhile_cons_of_pos (l := text) (isSchemeChar_of_isLetter isLetter)
    refine ⟨⟨⟨c, _, begins, isLetter⟩, fun _ mem => List.mem_takeWhile_imp mem⟩, ?_⟩
    rw [← behind]
    exact List.takeWhile_append_dropWhile.symm
  · next none =>
    split at some
    · next isLetter behind => exact (none _ isLetter behind).elim
    · exact absurd rfl some

/-- A text that begins with neither a colon nor a scheme has no scheme. -/
theorem splitScheme_of_none {text : Text} (notColon : text.head? ≠ some ':')
    (none : ∀ scheme rest, IsScheme scheme → text ≠ scheme ++ ':' :: rest) :
    splitScheme text = ([], text) := by
  rcases text with _ | ⟨c, text⟩
  · rfl
  rw [List.head?_cons, ne_eq, Option.some.injEq] at notColon
  by_cases some : (splitScheme (c :: text)).1 = []
  · rw [splitScheme_cons notColon] at some ⊢
    split
    · next rest isLetter behind =>
      rw [isLetter, behind] at some
      rw [List.takeWhile_cons_of_pos (isSchemeChar_of_isLetter isLetter)] at some
      cases some
    · rfl
  · obtain ⟨isScheme, whole⟩ := splitScheme_sound some
    exact (none _ _ isScheme whole).elim

/-- A scheme in front of a colon is told apart. -/
theorem splitScheme_append {scheme : Text} (isScheme : IsScheme scheme) (rest : Text) :
    splitScheme (scheme ++ ':' :: rest) = (scheme, rest) := by
  obtain ⟨⟨c, more, rfl, isLetter⟩, chars⟩ := isScheme
  have other : c ≠ ':' := by
    rintro rfl
    cases isLetter
  have stops : ∀ d, (':' :: rest).head? = some d → isSchemeChar d = false := by
    intro d head
    obtain rfl := Option.some.inj head
    decide
  obtain ⟨taken, dropped⟩ := Text.span_append chars stops
  rw [List.cons_append] at taken dropped ⊢
  rw [splitScheme_cons other, Text.drop_takeWhile, taken, dropped, isLetter]
  rfl

/-- No authority stands where there are no two slashes. -/
theorem splitAuthority_of_not {text : Text} (notSlashes : ¬ ['/', '/'] <+: text) :
    splitAuthority text = ([], text) := by
  rw [splitAuthority.eq_def]
  split
  · next rest => exact absurd ⟨rest, rfl⟩ notSlashes
  · rfl

/-- An authority behind two slashes is told apart. -/
theorem splitAuthority_append {authority rest : Text}
    (chars : ∀ c ∈ authority, isAuthorityChar c = true) (ends : EndsAuthority rest) :
    splitAuthority ('/' :: '/' :: (authority ++ rest)) = (authority, rest) := by
  obtain ⟨taken, dropped⟩ := Text.span_append chars ends
  change ((authority ++ rest).takeWhile isAuthorityChar,
    (authority ++ rest).drop ((authority ++ rest).takeWhile isAuthorityChar).length) = _
  rw [Text.drop_takeWhile, taken, dropped]

/-! ## Reading an address -/

/-- The user in front of a host, in normal form. -/
def userOf (authority : Text) : Text := encodePart userMarks (splitUser authority).1

/-- The host of an authority, as it is written. -/
def hostOf (authority : Text) : Text := (splitPort (splitUser authority).2).1

/-- The port of an authority, as it is written. -/
def portOf (authority : Text) : Text := (splitPort (splitUser authority).2).2

/-- The path in front of a query and a fragment. -/
def pathOf (rest : Text) : Text := rest.takeWhile fun c => c != '?' && c != '#'

/-- Whether something stands between the slashes and the path. -/
def hasAuthority (user host : Text) (port : Option Int) : Bool :=
  !user.isEmpty || !host.isEmpty || port.isSome

/-- The address of parts of which those between the slashes and the path are in normal form. -/
def addressOf (scheme user host : Text) (port : Option Int) (rest : Text) : Address :=
  let path := pathOf rest
  let behind := rest.drop path.length
  let query := behind.takeWhile (· != '#')
  let fragment := behind.drop query.length
  let path := if !scheme.isEmpty || hasAuthority user host port then normalPath path else path
  { scheme := scheme.map Text.toSmall
    user, host, port
    path := encodePart pathMarks path
    query := if query.isEmpty then none else some (encodePart queryMarks (query.drop 1))
    fragment :=
      if fragment.isEmpty then none else some (encodePart fragmentMarks (fragment.drop 1)) }

/-- Brings the parts of an address into normal form. -/
def readParts (scheme authority rest : Text) : Except AddressError Address := do
  let host ← encodeHost (hostOf authority)
  let port ← readPort scheme (portOf authority)
  checkPath (!scheme.isEmpty) (hasAuthority (userOf authority) host port) (pathOf rest)
  return addressOf scheme (userOf authority) host port rest

/-- An address is read if it is short enough, can be printed, and its parts can be read. -/
theorem read_eq_ok_iff {text : Text} {place : Address} :
    Address.read text = .ok place ↔ text.length ≤ addressLimit ∧
      (∀ c ∈ text, isControl c = false) ∧
      readParts (splitScheme text).1 (splitAuthority (splitScheme text).2).1
        (splitAuthority (splitScheme text).2).2 = .ok place := by
  have printable_iff : text.drop (text.takeWhile (!isControl ·)).length = [] ↔
      ∀ c ∈ text, isControl c = false := by
    rw [Text.drop_takeWhile, List.dropWhile_eq_nil_iff]
    simp only [Bool.not_eq_true']
  rw [Address.read]
  split
  · next long => exact iff_of_false (fun read => by cases read) fun parts => by omega
  · next short =>
    dsimp only
    split
    · next c behind found =>
      refine iff_of_false (fun read => by cases read) fun parts => ?_
      rw [printable_iff.mpr parts.2.1] at found
      cases found
    · next notCons =>
      have printable : text.drop (text.takeWhile (!isControl ·)).length = [] := by
        cases found : text.drop (text.takeWhile (!isControl ·)).length with
        | nil => rfl
        | cons c behind => exact (notCons c behind found).elim
      rw [and_iff_right (Nat.le_of_not_lt short), and_iff_right (printable_iff.mp printable)]
      rfl

/-- A path goes on up to a question mark or a number sign. -/
theorem pathOf_cons (c : Char) (rest : Text) :
    pathOf (c :: rest) = if c != '?' && c != '#' then c :: pathOf rest else [] :=
  List.takeWhile_cons

/-- The path behind an authority is empty or begins with a slash exactly if what follows ends an
authority. -/
theorem startsPath_iff {rest : Text} :
    ((pathOf rest).isEmpty || (pathOf rest).head? == some '/') = true ↔ EndsAuthority rest := by
  rcases rest with _ | ⟨c, rest⟩
  · exact iff_of_true rfl (by rintro c ⟨⟩)
  · rw [pathOf_cons, EndsAuthority]
    by_cases query : c = '?' <;> by_cases fragment : c = '#' <;>
      simp [isAuthorityChar, query, fragment]

/-- A path begins with two slashes exactly if the text that it is cut from does. -/
theorem slashes_pathOf_iff {rest : Text} :
    ((pathOf rest).take 2 == ['/', '/']) = true ↔ ['/', '/'] <+: rest := by
  rw [beq_iff_eq]
  constructor
  · intro begins
    exact (List.prefix_iff_eq_take.mpr begins.symm).trans (List.takeWhile_prefix _)
  · rintro ⟨more, rfl⟩
    rfl

/-- A path begins with a colon exactly if the text that it is cut from does. -/
theorem colon_pathOf_iff {rest : Text} :
    ((pathOf rest).head? == some ':') = true ↔ rest.head? = some ':' := by
  rcases rest with _ | ⟨c, rest⟩
  · decide
  · rw [pathOf_cons]
    by_cases query : c = '?' <;> by_cases fragment : c = '#' <;> simp [query, fragment]

/-- What may stand where a path does: behind an authority, anything that ends it; behind a scheme
alone, anything; and where there is neither, anything but two slashes and a colon. -/
theorem checkPath_eq_ok_iff {hasScheme hasAuthority : Bool} {rest : Text} :
    checkPath hasScheme hasAuthority (pathOf rest) = .ok () ↔
      (hasAuthority = true → EndsAuthority rest) ∧
      (hasAuthority = false → hasScheme = false →
        ¬ ['/', '/'] <+: rest ∧ rest.head? ≠ some ':') := by
  rw [checkPath, ← startsPath_iff, ← slashes_pathOf_iff, ne_eq, ← colon_pathOf_iff]
  cases hasAuthority with
  | true =>
    rw [if_pos rfl]
    split <;> simp_all
  | false =>
    cases hasScheme with
    | true => simp
    | false =>
      rw [if_neg Bool.false_ne_true, if_neg Bool.false_ne_true]
      split
      · simp_all
      · split <;> simp_all

/-- The parts of an address are read exactly if the host, the port and the path can be. -/
theorem readParts_eq_ok_iff {scheme authority rest : Text} {place : Address} :
    readParts scheme authority rest = .ok place ↔ ∃ host port,
      encodeHost (hostOf authority) = .ok host ∧ readPort scheme (portOf authority) = .ok port ∧
      checkPath (!scheme.isEmpty) (hasAuthority (userOf authority) host port) (pathOf rest) =
        .ok () ∧
      place = addressOf scheme (userOf authority) host port rest := by
  constructor
  · intro read
    obtain ⟨host, isHost, read⟩ := bind_eq_ok_iff.mp read
    obtain ⟨port, isPort, read⟩ := bind_eq_ok_iff.mp read
    obtain ⟨⟨⟩, isPath, made⟩ := bind_eq_ok_iff.mp read
    cases made
    exact ⟨host, port, isHost, isPort, isPath, rfl⟩
  · rintro ⟨host, port, isHost, isPort, isPath, rfl⟩
    exact bind_eq_ok_iff.mpr ⟨host, isHost, bind_eq_ok_iff.mpr ⟨port, isPort,
      bind_eq_ok_iff.mpr ⟨(), isPath, rfl⟩⟩⟩

/-! ## Beneath an address -/

/-- What stands beneath an address: the address without the slashes at its end, a slash, and a
path. -/
def beneath (base path : Text) : Text := Text.trimEndOf '/' base ++ '/' :: path

section Beneath

variable {base path : Text}

/-- What has no slash at the front of an address stays where it is. -/
theorem beneath_append {front : Text} (free : '/' ∉ front) :
    beneath (front ++ base) path = front ++ beneath base path := by
  rw [beneath, Text.trimEndOf_append_of_not_mem free, List.append_assoc, beneath]

/-- What stands beneath an address begins as the address does, or with the slash in front of the
path. -/
theorem head?_beneath (base path : Text) :
    (beneath base path).head? = some '/' ∨ (beneath base path).head? = base.head? := by
  obtain ⟨slashes, whole⟩ : Text.trimEndOf '/' base <+: base := List.rdropWhile_prefix _ base
  rw [beneath]
  cases kept : Text.trimEndOf '/' base with
  | nil => exact .inl rfl
  | cons c more =>
    rw [kept] at whole
    exact .inr (by rw [← whole]; rfl)

/-- What stands beneath something that ends an authority ends it too. -/
theorem EndsAuthority.beneath (ends : EndsAuthority base) : EndsAuthority (beneath base path) := by
  intro c head
  rcases head?_beneath base path with slash | same
  · rw [slash] at head
    cases head
    decide
  · exact ends c (same ▸ head)

/-- What has no slash, and stands at the front beneath an address, stands at the front of it. -/
theorem prefix_of_beneath {front : Text} (free : '/' ∉ front)
    (begins : front <+: beneath base path) : front <+: base := by
  obtain ⟨behind, whole⟩ := begins
  have isPrefix : front <+: Text.trimEndOf '/' base := by
    rcases List.append_eq_append_iff.mp whole with ⟨more, same, -⟩ | ⟨more, same, rest⟩
    · exact ⟨more, same.symm⟩
    · rcases more with _ | ⟨c, more⟩
      · exact ⟨[], by rw [same, List.append_nil, List.append_nil]⟩
      · obtain rfl := (List.cons.inj rest).1
        exact absurd (same ▸ List.mem_append_right _ List.mem_cons_self) free
  exact isPrefix.trans (List.rdropWhile_prefix _ base)

/-- Two slashes stand at the front beneath an address only if they stand at the front of it. -/
theorem not_slashes_beneath (notSlash : path.head? ≠ some '/')
    (notSlashes : ¬ ['/', '/'] <+: base) : ¬ ['/', '/'] <+: beneath base path := by
  rintro ⟨more, begins⟩
  have kept : Text.trimEndOf '/' base <+: base := List.rdropWhile_prefix _ base
  have last (some : Text.trimEndOf '/' base ≠ []) :
      ¬ ((Text.trimEndOf '/' base).getLast some == '/') = true :=
    List.rdropWhile_last_not (· == '/') base some
  rw [beneath] at begins
  generalize Text.trimEndOf '/' base = front at begins kept last
  rcases front with _ | ⟨c, _ | ⟨d, rest⟩⟩
  · cases begins
    exact notSlash rfl
  · cases begins
    exact last (List.cons_ne_nil _ _) rfl
  · cases begins
    exact notSlashes (List.IsPrefix.trans ⟨rest, rfl⟩ kept)

/-- The scheme of an address is that of what stands beneath it. -/
theorem splitScheme_beneath (base path : Text) :
    splitScheme (beneath base path) = ((splitScheme base).1, beneath (splitScheme base).2 path) := by
  by_cases colon : base.head? = some ':'
  · obtain ⟨rest, rfl⟩ : ∃ rest, base = ':' :: rest := by
      cases base with
      | nil => cases colon
      | cons c rest =>
        cases colon
        exact ⟨rest, rfl⟩
    have begins : beneath ([':'] ++ rest) path = [':'] ++ beneath rest path :=
      beneath_append (by decide)
    exact congrArg splitScheme begins
  by_cases none : ∀ scheme rest, IsScheme scheme → base ≠ scheme ++ ':' :: rest
  · rw [splitScheme_of_none colon none]
    refine splitScheme_of_none ?_ fun scheme rest isScheme begins => ?_
    · rcases head?_beneath base path with slash | same
      · rw [slash]
        decide
      · rwa [same]
    -- A scheme has no slash, so it would stand at the front of the address itself.
    · have begins : (scheme ++ [':']) <+: beneath base path :=
        ⟨rest, by rw [begins, List.append_assoc, List.singleton_append]⟩
      obtain ⟨more, whole⟩ := prefix_of_beneath isScheme.free begins
      exact none scheme more isScheme (by rw [← whole, List.append_assoc, List.singleton_append])
  · simp only [not_forall, ne_eq, not_not] at none
    obtain ⟨scheme, rest, isScheme, rfl⟩ := none
    have whole (rest : Text) : scheme ++ ':' :: rest = scheme ++ [':'] ++ rest := by
      rw [List.append_assoc, List.singleton_append]
    rw [splitScheme_append isScheme, whole, beneath_append isScheme.free, ← whole,
      splitScheme_append isScheme]

/-- The authority of an address is that of what stands beneath it. -/
theorem splitAuthority_beneath (notSlash : path.head? ≠ some '/') :
    splitAuthority (beneath base path) =
      ((splitAuthority base).1, beneath (splitAuthority base).2 path) := by
  by_cases slashes : ['/', '/'] <+: base
  · obtain ⟨behind, rfl⟩ := slashes
    obtain ⟨authority, rest, rfl, chars, ends⟩ : ∃ authority rest, behind = authority ++ rest ∧
        (∀ c ∈ authority, isAuthorityChar c = true) ∧ EndsAuthority rest :=
      ⟨_, _, List.takeWhile_append_dropWhile.symm, fun _ mem => List.mem_takeWhile_imp mem,
        fun _ head => Text.head?_dropWhile head⟩
    have free : '/' ∉ authority := fun mem => absurd (chars '/' mem) (by decide)
    change _ = ((splitAuthority ('/' :: '/' :: (authority ++ rest))).1,
      Client.beneath (splitAuthority ('/' :: '/' :: (authority ++ rest))).2 path)
    rw [splitAuthority_append chars ends]
    by_cases kept : Text.trimEndOf '/' (authority ++ rest) = []
    · -- Nothing but slashes: those in front of the authority are taken away too.
      have all := List.rdropWhile_eq_nil_iff.mp kept
      have whole : Text.trimEndOf '/' (['/', '/'] ++ (authority ++ rest)) = [] :=
        List.rdropWhile_eq_nil_iff.mpr (List.forall_mem_append.mpr ⟨List.all_eq_true.mp rfl, all⟩)
      rw [Text.trimEndOf_append_of_not_mem free, List.append_eq_nil_iff] at kept
      rw [Client.beneath, whole, Client.beneath, kept.1, kept.2]
      refine splitAuthority_of_not ?_
      rintro ⟨more, begins⟩
      cases begins
      exact notSlash rfl
    · have begins : Client.beneath (['/', '/'] ++ (authority ++ rest)) path =
          '/' :: '/' :: (authority ++ Client.beneath rest path) := by
        rw [Client.beneath, Text.trimEndOf_append _ kept, List.append_assoc, ← Client.beneath,
          beneath_append free]
        rfl
      rw [begins, splitAuthority_append chars ends.beneath]
  · rw [splitAuthority_of_not slashes,
      splitAuthority_of_not (not_slashes_beneath notSlash slashes)]

/-- A path may stand beneath what it may stand behind. -/
theorem checkPath_beneath {hasScheme hasAuthority : Bool} (notSlash : path.head? ≠ some '/')
    (isPath : checkPath hasScheme hasAuthority (pathOf base) = .ok ()) :
    checkPath hasScheme hasAuthority (pathOf (beneath base path)) = .ok () := by
  obtain ⟨ends, bare⟩ := checkPath_eq_ok_iff.mp isPath
  refine checkPath_eq_ok_iff.mpr ⟨fun isThere => (ends isThere).beneath, ?_⟩
  intro noAuthority noScheme
  obtain ⟨notSlashes, notColon⟩ := bare noAuthority noScheme
  refine ⟨not_slashes_beneath notSlash notSlashes, ?_⟩
  rcases head?_beneath base path with slash | same
  · rw [slash]
    decide
  · rwa [same]

/-- What stands beneath an address is read where the address is, if it is short enough and the path
can be printed, and names the same place. -/
theorem exists_read_beneath {place : Address} (read : Address.read base = .ok place)
    (printable : ∀ c ∈ path, isControl c = false) (notSlash : path.head? ≠ some '/')
    (short : (beneath base path).length ≤ addressLimit) :
    ∃ address, Address.read (beneath base path) = .ok address ∧
      address.scheme = place.scheme ∧ address.user = place.user ∧ address.host = place.host ∧
      address.port = place.port := by
  obtain ⟨-, basePrintable, parts⟩ := read_eq_ok_iff.mp read
  obtain ⟨host, port, isHost, isPort, isPath, rfl⟩ := readParts_eq_ok_iff.mp parts
  have allPrintable : ∀ c ∈ beneath base path, isControl c = false := by
    intro c mem
    rcases List.mem_append.mp mem with inBase | inPath
    · exact basePrintable c ((List.rdropWhile_prefix _ base).subset inBase)
    · rcases List.mem_cons.mp inPath with rfl | inPath
      · decide
      · exact printable c inPath
  refine ⟨addressOf (splitScheme base).1 (userOf (splitAuthority (splitScheme base).2).1) host port
    (Client.beneath (splitAuthority (splitScheme base).2).2 path),
    read_eq_ok_iff.mpr ⟨short, allPrintable, ?_⟩, rfl, rfl, rfl, rfl⟩
  rw [splitScheme_beneath, splitAuthority_beneath notSlash]
  exact readParts_eq_ok_iff.mpr
    ⟨host, port, isHost, isPort, checkPath_beneath notSlash isPath, rfl⟩

end Beneath

end Loremark.Client
