import Loremark.Text.Bytes
import Loremark.Yaml.Scalar

/-!
# Tokens of a YAML text

A text is cut into tokens. Indentation becomes tokens of its own, that begin and end blocks. That a
scalar, an alias or a flow is a key is known only when its colon has been met, so every place where
a key could begin is numbered, and the numbers of those where one does are collected; in the end
the numbered places give way to the tokens that begin a key.
-/

set_option autoImplicit false

namespace Loremark.Yaml

/-- A token of a text. -/
inductive Token where
  /-- The version of the language. -/
  | version (major minor : Nat)
  /-- A handle, and what tags with that handle begin with. -/
  | handle (name start : Text)
  /-- A directive that is passed over. -/
  | directive
  | documentStart
  | documentEnd
  | sequenceStart
  | mappingStart
  | blockEnd
  | flowSequenceStart
  | flowSequenceEnd
  | flowMappingStart
  | flowMappingEnd
  | blockEntry
  | flowEntry
  | key
  | value
  | reference (name : Text)
  | anchor (name : Text)
  /-- A tag: its handle if it has one, and the rest. -/
  | tag (handle : Option Text) (suffix : Text)
  | scalar (text : Text) (plain : Bool)
  /-- A place where a key could begin. -/
  | place (number : Nat)
  deriving DecidableEq, Repr, Inhabited

/-- A place where a key could begin that has not been given up. -/
structure OpenKey where
  number : Nat
  /-- The number of flows around it. -/
  level : Nat
  /-- Whether there must be a key. -/
  required : Bool
  cursor : Cursor
  deriving DecidableEq, Repr, Inhabited

/-- The state in which a text is cut into tokens. -/
structure Scan where
  cursor : Cursor
  /-- The tokens so far, last one first. -/
  tokens : List Token := []
  /-- The indentation of the innermost block, and of those around it. -/
  indent : Int := -1
  indents : List Int := []
  /-- The flows around this place, innermost first: whether each is a sequence. -/
  flows : List Bool := []
  /-- Whether a key may begin here. -/
  allowKey : Bool := true
  openKeys : List OpenKey := []
  /-- The number of places so far. -/
  places : Nat := 0
  /-- The places where a key begins: whether a block begins with it. -/
  keys : List (Nat × Bool) := []
  deriving Inhabited

namespace Scan

/-- Whether the place is inside a flow. -/
def inFlow (s : Scan) : Bool := !s.flows.isEmpty

/-- Adds a token. -/
def push (s : Scan) (token : Token) : Scan := { s with tokens := token :: s.tokens }

/-- Moves on behind a number of characters. -/
def advance (s : Scan) (count : Nat) : Scan := { s with cursor := s.cursor.advance count }

/-- Closes the blocks that are indented further than a column. -/
def unwind (s : Scan) (column : Int) : Scan :=
  if s.inFlow then s else closeBlocks s.indents s
where
  /-- Closes blocks one after another; the indentations around the innermost one are left. -/
  closeBlocks : List Int → Scan → Scan
    | [], s => s
    | outer :: outers, s =>
      if s.indent > column then
        closeBlocks outers { s.push .blockEnd with indent := outer, indents := outers }
      else s

/-- Opens a block at a column, unless one is open there; the flag tells whether it does. -/
def openBlock (s : Scan) (column : Int) : Bool × Scan :=
  if s.indent < column then
    (true, { s with indent := column, indents := s.indent :: s.indents })
  else (false, s)

/-- The place at this level where a key could begin. -/
def openKey? (s : Scan) : Option OpenKey :=
  s.openKeys.find? fun key => key.level == s.flows.length

/-- Gives up the place at this level where a key could begin; a place where there must be a key
cannot be given up. -/
def dropKey (s : Scan) : Except Error Scan :=
  match s.openKey? with
  | none => .ok s
  | some key =>
    if key.required then .error .malformed
    else .ok { s with openKeys := s.openKeys.filter fun k => k.level != s.flows.length }

/-- Gives up the places that a colon can no longer reach: those on earlier lines, and those more
than 1024 characters back. -/
def dropStale (s : Scan) : Except Error Scan :=
  let isStale (key : OpenKey) : Bool :=
    key.cursor.line != s.cursor.line || 1024 < s.cursor.index - key.cursor.index
  if s.openKeys.any fun key => isStale key && key.required then .error .malformed
  else .ok { s with openKeys := s.openKeys.filter (!isStale ·) }

/-- Numbers this place if a key may begin here. -/
def saveKey (s : Scan) : Except Error Scan := do
  if !s.allowKey then return s
  let s ← s.dropKey
  let key : OpenKey := {
    number := s.places
    level := s.flows.length
    required := !s.inFlow && s.indent == s.cursor.column
    cursor := s.cursor }
  return { s.push (.place s.places) with places := s.places + 1, openKeys := key :: s.openKeys }

/-- Skips blanks, comments and line breaks. `fuel` need not exceed the number of characters
left. -/
def skipBlank : (fuel : Nat) → Scan → Scan
  | 0, s => s
  | fuel + 1, s =>
    let c := s.cursor.skipWhile fun char => char == ' ' || (s.inFlow && char == '\t')
    let c := if c.stands '#' then c.skipWhile (!isLineEnd ·) else c
    if c.test 0 false isBreak then
      skipBlank fuel
        { s with cursor := c.lineBreak.2, allowKey := s.allowKey || !s.inFlow }
    else { s with cursor := c }

/-! ## Directives, tags and names -/

/-- Whether a character may stand in a name of a directive or a handle. -/
def isNameChar (c : Char) : Bool := Text.isAlphanumeric c || c == '-' || c == '_'

/-- Whether a character may stand in a tag. -/
def isTagChar (c : Char) : Bool :=
  Text.isAlphanumeric c || "-;/?:@&=+$,_.!~*'()[]%#".toList.contains c

/-- The place behind the rest of a line with a directive. -/
def directiveEnd (c : Cursor) : Except Error Cursor :=
  let c := c.skipWhile (· == ' ')
  let c := if c.stands '#' then c.skipWhile (!isLineEnd ·) else c
  if c.atLineEnd then .ok c.lineBreak.2 else .error .malformed

/-- A number of a version. -/
def readNumber (c : Cursor) : Except Error (Nat × Cursor) :=
  let (digits, c) := c.takeWhile Text.isDigit
  if digits.isEmpty then .error .malformed else .ok (Text.readBase 10 digits, c)

/-- A tag with its percent-encoded bytes made into characters. `bytes` are those of the run in front
of it. -/
def spellOut (bytes : Bytes) : Text → Except Error Text
  | '%' :: a :: b :: text =>
    if Text.isHexDigit a && Text.isHexDigit b then
      spellOut (bytes ++ [(Text.readBase 16 [a, b]).toUInt8]) text
    else .error .malformed
  | '%' :: _ => .error .malformed
  | c :: text => do return (← ofRun bytes) ++ c :: (← spellOut [] text)
  | [] => ofRun bytes
where
  /-- The characters of a run of bytes. -/
  ofRun (bytes : Bytes) : Except Error Text := (Text.ofUtf8 bytes).mapError fun _ => .malformed

/-- The characters of a tag, with percent-encoded bytes decoded. -/
def readSuffix (c : Cursor) : Except Error (Text × Cursor) := do
  let (suffix, c) := c.takeWhile isTagChar
  if suffix.isEmpty then throw .malformed else return (← spellOut [] suffix, c)

/-- A handle of tags: two exclamation marks with a name between them that may be empty, or one
mark with a blank behind it. -/
def readHandle (c : Cursor) : Except Error (Text × Cursor) :=
  if !c.stands '!' then .error .malformed
  else
    let (name, after) := c.next.takeWhile isNameChar
    if after.stands '!' then .ok ('!' :: name ++ ['!'], after.next)
    else if name.isEmpty && after.stands ' ' then .ok (['!'], after)
    else .error .malformed

/-- A directive. -/
def readDirective (c : Cursor) : Except Error (Token × Cursor) := do
  let (name, c) := c.next.takeWhile fun char => isNameChar char || char == ':' || char == '.'
  if name.isEmpty || !(c.atLineEnd || c.stands ' ') then throw .malformed
  let blank := c.skipWhile (· == ' ')
  if name == "YAML".toList then
    let (major, c) ← readNumber blank
    if !c.stands '.' then throw .malformed
    let (minor, c) ← readNumber c.next
    if !(c.atLineEnd || c.stands ' ') then throw .malformed
    return (.version major minor, ← directiveEnd c)
  else if name == "TAG".toList then
    let (handle, c) ← readHandle blank
    if !c.stands ' ' then throw .malformed
    let (start, c) ← readSuffix (c.skipWhile (· == ' '))
    if !(c.atLineEnd || c.stands ' ') then throw .malformed
    return (.handle handle start, ← directiveEnd c)
  else return (.directive, ← directiveEnd (c.skipWhile (!isLineEnd ·)))

/-- Whether a character may stand in the name of an anchor. -/
def isAnchorChar (c : Char) : Bool :=
  let code := c.toNat
  !isFlowMark c &&
    ((0x21 ≤ code && code ≤ 0x7E) || (0xA0 ≤ code && code ≤ 0xFFFD && code != 0xFEFF) ||
      0x10000 ≤ code)

/-- The name of an anchor or an alias. -/
def readName (c : Cursor) : Except Error (Text × Cursor) :=
  let (name, c) := c.next.takeWhile isAnchorChar
  if name.isEmpty then .error .malformed
  else if c.test 0 true fun char => isGap char || isBreak char || isFlowMark char then
    .ok (name, c)
  else .error .malformed

/-- A tag. -/
def readTag (c : Cursor) : Except Error (Token × Cursor) := do
  let atEnd (c : Cursor) : Bool := c.test 0 true fun char => isBreak char || char == ' '
  if c.test 1 false (· == '<') then
    let (suffix, c) ← readSuffix (c.advance 2)
    if c.stands '>' && atEnd c.next then return (.tag none suffix, c.next) else throw .malformed
  else if c.gapAt 1 then
    if atEnd c.next then return (.tag none ['!'], c.next) else throw .malformed
  else
    let word := (c.rest.drop 1).takeWhile fun char => !(isBreak char || char == ' ')
    let (handle, c) ← if word.contains '!' then readHandle c else pure (['!'], c.next)
    let (suffix, c) ← readSuffix c
    if atEnd c then return (.tag (some handle) suffix, c) else throw .malformed

/-! ## Cutting -/

/-- Ends everything that is open at a mark that stands in the first column. -/
def atMargin (s : Scan) : Except Error Scan := do
  let s ← (s.unwind (-1)).dropKey
  return { s with allowKey := false }

/-- Begins an entry of a block. -/
def blockEntry (s : Scan) : Except Error Scan := do
  if !s.inFlow && !s.allowKey then throw .malformed
  let (opened, s) := if s.inFlow then (false, s) else s.openBlock s.cursor.column
  let s := if opened then s.push .sequenceStart else s
  let s ← { s with allowKey := true }.dropKey
  return (s.push .blockEntry).advance 1

/-- Begins a key that is announced. -/
def announcedKey (s : Scan) : Except Error Scan := do
  if !s.inFlow && !s.allowKey then throw .malformed
  let (opened, s) := if s.inFlow then (false, s) else s.openBlock s.cursor.column
  let s := if opened then s.push .mappingStart else s
  let s ← { s with allowKey := !s.inFlow }.dropKey
  return (s.push .key).advance 1

/-- Begins a value. If a key could begin at this level, it did. -/
def beginValue (s : Scan) : Except Error Scan := do
  match s.openKey? with
  | some key =>
    let (opened, s) := if s.inFlow then (false, s) else s.openBlock key.cursor.column
    let s := { s with
      openKeys := s.openKeys.filter fun k => k.level != s.flows.length
      keys := (key.number, opened) :: s.keys
      allowKey := false }
    return (s.push .value).advance 1
  | none =>
    if !s.inFlow && !s.allowKey then throw .malformed
    let (opened, s) := if s.inFlow then (false, s) else s.openBlock s.cursor.column
    let s := if opened then s.push .mappingStart else s
    let s ← { s with allowKey := !s.inFlow }.dropKey
    return (s.push .value).advance 1

/-- Whether a plain scalar begins here. -/
def startsPlain (s : Scan) : Bool :=
  match s.cursor.rest with
  | [] => false
  | char :: _ =>
    let marks := "-?:,[]\x7b\x7d#&*!|>'\"%@\x60".toList
    if !(isGap char || isBreak char || marks.contains char) then true
    else if char == '-' then !s.cursor.gapAt 1
    else if char == ':' && s.inFlow then
      s.cursor.test 1 true fun next => next != ' ' && next != '\t'
    else (char == '?' || char == ':') && !s.inFlow && !s.cursor.gapAt 1

/-- Whether a colon here begins a value. Behind another colon it may stand for itself, as long as it
is open whether a key has begun in front of them. -/
def startsValue (s : Scan) (isOpen : Bool) : Bool :=
  match s.flows with
  | [] => s.cursor.gapAt 1
  | true :: _ => s.cursor.gapAt 1
  | false :: _ => !(isOpen && s.tokens.head? == some .value) || s.cursor.gapAt 1

/-- Reads the token at a place that is not blank; none is left at the end of the text. `isOpen`
tells whether a key could have begun in front of the blanks. -/
def token (s : Scan) (isOpen : Bool) (char : Char) : Except Error Scan := do
  let c := s.cursor
  let saved (token : Token) (c : Cursor) (s : Scan) : Scan :=
    { s.push token with cursor := c, allowKey := false }
  if char == '%' && c.column == 0 then
    let s ← s.atMargin
    let (token, c) ← readDirective c
    return { s.push token with cursor := c }
  else if c.column == 0 && c.atMark "---".toList then
    return ((← s.atMargin).push .documentStart).advance 3
  else if c.column == 0 && c.atMark "...".toList then
    return ((← s.atMargin).push .documentEnd).advance 3
  else if char == '[' || char == '\x7b' then
    let s ← s.saveKey
    let token := if char == '[' then Token.flowSequenceStart else .flowMappingStart
    return ({ s with flows := (char == '[') :: s.flows, allowKey := true }.push token).advance 1
  else if char == ']' || char == '\x7d' then
    let s ← s.dropKey
    let token := if char == ']' then Token.flowSequenceEnd else .flowMappingEnd
    return ({ s with flows := s.flows.drop 1, allowKey := false }.push token).advance 1
  else if char == ',' then
    let s ← { s with allowKey := true }.dropKey
    return (s.push .flowEntry).advance 1
  else if char == '-' && c.gapAt 1 then s.blockEntry
  else if char == '?' && (s.inFlow || c.gapAt 1) then s.announcedKey
  else if char == ':' && s.startsValue isOpen then s.beginValue
  else if char == '*' then
    let (name, after) ← readName c
    return saved (.reference name) after (← s.saveKey)
  else if char == '&' then
    let (name, after) ← readName c
    return saved (.anchor name) after (← s.saveKey)
  else if char == '!' then
    let (token, after) ← readTag c
    return saved token after (← s.saveKey)
  else if (char == '|' || char == '>') && !s.inFlow then
    let s ← { s with allowKey := true }.dropKey
    let (text, after) ← readBlock (char == '>') s.indent c
    return { s.push (.scalar text false) with cursor := after }
  else if char == '\'' || char == '"' then
    let (text, after) ← readQuoted (char == '"') c
    return saved (.scalar text false) after (← s.saveKey)
  else if s.startsPlain then
    let s ← s.saveKey
    let (text, broken, after) := readPlain s.inFlow (s.indent + 1) c
    return { s.push (.scalar text true) with cursor := after, allowKey := broken }
  else throw .malformed

/-- Cuts the rest of a text. Every token takes a character at least, so that `fuel` need not
exceed the number of characters. -/
def cut : (fuel : Nat) → Scan → Except Error Scan
  | 0, _ => .error .malformed
  | fuel + 1, s => do
    let s ← s.dropStale
    let isOpen := !s.openKeys.isEmpty
    let s ← (s.skipBlank (s.cursor.rest.length + 1)).dropStale
    match s.cursor.rest with
    | [] => (s.unwind (-1)).dropKey
    | char :: _ => cut fuel (← (s.unwind s.cursor.column).token isOpen char)

end Scan

/-- The tokens with those in place of the numbered places that begin a key. -/
def settlePlaces (keys : List (Nat × Bool)) (tokens : List Token) : List Token :=
  tokens.flatMap fun token =>
    match token with
    | .place number =>
      match keys.find? fun key => key.1 == number with
      | some (_, true) => [.mappingStart, .key]
      | some (_, false) => [.key]
      | none => []
    | token => [token]

/-- The tokens of a text. A mark of the byte order at its beginning is skipped. -/
def tokensOf (text : Text) : Except Error (List Token) := do
  if !text.all isAllowed then throw .malformed
  let text := if text.head? == some '\ufeff' then text.drop 1 else text
  let s ← Scan.cut (text.length + 1) { cursor := { rest := text } }
  return settlePlaces s.keys s.tokens.reverse

end Loremark.Yaml
