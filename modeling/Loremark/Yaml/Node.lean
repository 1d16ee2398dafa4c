import Loremark.Yaml.Token

/-!
# Nodes of a YAML text

The tokens of a text make up one document: a tree of scalars, sequences and mappings. An alias
stands for the node with its anchor, which has to begin before it; inside that node it stands for
one without content. A node that is left out is an empty plain scalar.
-/

set_option autoImplicit false

namespace Loremark.Yaml

/-- A node of a document. A node without a tag has its type told by its form. -/
inductive Node where
  | scalar (tag : Option Text) (text : Text) (plain : Bool)
  | sequence (tag : Option Text) (items : List Node)
  | mapping (tag : Option Text) (entries : List (Node × Node))
  deriving Inhabited

mutual

/-- Whether a node holds a plain scalar without a tag. -/
def Node.hasPlain : Node → Bool
  | .scalar tag _ plain => plain && tag.isNone
  | .sequence _ items => nodesHavePlain items
  | .mapping _ entries => entriesHavePlain entries

/-- Whether one of some nodes holds a plain scalar without a tag. -/
def nodesHavePlain : List Node → Bool
  | [] => false
  | node :: nodes => node.hasPlain || nodesHavePlain nodes

/-- Whether a key or a value holds a plain scalar without a tag. -/
def entriesHavePlain : List (Node × Node) → Bool
  | [] => false
  | (key, value) :: entries => key.hasPlain || value.hasPlain || entriesHavePlain entries

end

/-- What stands for a node that is left out. -/
def Node.empty : Node := .scalar none [] true

/-- What the tags of the language begin with. -/
def tagStart : Text := "tag:yaml.org,2002:".toList

/-- The state in which tokens are made into nodes. -/
structure Reading where
  tokens : List Token
  anchors : List (Text × Node) := []
  /-- The handles of tags with what they stand for. -/
  handles : List (Text × Text) := [(['!'], ['!']), (['!', '!'], tagStart)]
  deriving Inhabited

/-- The anchor and the tag of a node. -/
structure Properties where
  anchor : Option Text := none
  tag : Option Text := none

/-- A tag with its handle spelled out. -/
def spellTag (handles : List (Text × Text)) (handle : Option Text) (suffix : Text) :
    Except Error Text :=
  match handle with
  | none => .ok suffix
  | some handle =>
    match handles.find? fun entry => entry.1 == handle with
    | some (_, start) => .ok (start ++ suffix)
    | none => .error .malformed

/-- Reads the anchor and the tag of a node, in either order. -/
def readProperties (r : Reading) : Except Error (Properties × Reading) := do
  match r.tokens with
  | .anchor name :: .tag handle suffix :: rest | .tag handle suffix :: .anchor name :: rest =>
    return (⟨some name, some (← spellTag r.handles handle suffix)⟩, { r with tokens := rest })
  | .anchor name :: rest => return (⟨some name, none⟩, { r with tokens := rest })
  | .tag handle suffix :: rest =>
    return (⟨none, some (← spellTag r.handles handle suffix)⟩, { r with tokens := rest })
  | _ => return ({}, r)

/-- Whether the next token is one of some. -/
def Reading.isAt (r : Reading) (tokens : List Token) : Bool :=
  match r.tokens with
  | [] => false
  | token :: _ => tokens.contains token

/-- Moves on to the next token. -/
def Reading.next (r : Reading) : Reading := { r with tokens := r.tokens.drop 1 }

/-- The tokens at which a part of a block mapping is left out. -/
def blockStops : List Token := [.key, .value, .blockEnd]

/-- The node that begins with the next token, without its content. -/
def Reading.outline (r : Reading) (tag : Option Text) : Node :=
  match r.tokens with
  | .flowMappingStart :: _ | .mappingStart :: _ => .mapping tag []
  | .scalar text plain :: _ => .scalar tag text plain
  | _ => .sequence tag []

/-- Notes a node that may have an anchor. -/
def Reading.note (r : Reading) (anchor : Option Text) (node : Node) : Reading :=
  match anchor with
  | some name => { r with anchors := (name, node) :: r.anchors }
  | none => r

/-- Completes the node that was noted when there were `before` anchors. Anchors that were noted
inside it stay in front of it. -/
def Reading.complete (r : Reading) (anchor : Option Text) (before : Nat) (node : Node) : Reading :=
  match anchor with
  | some name => { r with anchors := r.anchors.set (r.anchors.length - 1 - before) (name, node) }
  | none => r

mutual

/-- Reads a node. `block` allows blocks, and `indentless` allows the entries of a sequence that is
not indented. -/
def readNode : (fuel : Nat) → (block indentless : Bool) → Reading → Except Error (Node × Reading)
  | 0, _, _, _ => .error .malformed
  | fuel + 1, block, indentless, r => do
    match r.tokens with
    | .reference name :: _ =>
      match r.anchors.find? fun entry => entry.1 == name with
      | some (_, node) => return (node, r.next)
      | none => throw .malformed
    | _ =>
      let (properties, r) ← readProperties r
      let tag := properties.tag.filter (· != ['!'])
      let before := r.anchors.length
      let r := r.note properties.anchor (r.outline tag)
      let (node, r) ←
        match r.tokens, block, indentless with
        | .blockEntry :: _, _, true => do
          let (items, r) ← readIndentless fuel r
          pure (Node.sequence tag items, r)
        | .scalar text plain :: _, _, _ =>
          pure (Node.scalar tag text (plain || properties.tag == some ['!']), r.next)
        | .flowSequenceStart :: _, _, _ => do
          let (items, r) ← readFlowItems fuel true r.next
          pure (Node.sequence tag items, r)
        | .flowMappingStart :: _, _, _ => do
          let (entries, r) ← readFlowEntries fuel true r.next
          pure (Node.mapping tag entries, r)
        | .sequenceStart :: _, true, _ => do
          let (items, r) ← readItems fuel r.next
          pure (Node.sequence tag items, r)
        | .mappingStart :: _, true, _ => do
          let (entries, r) ← readEntries fuel r.next
          pure (Node.mapping tag entries, r)
        | _, _, _ =>
          if properties.anchor.isSome || properties.tag.isSome then
            pure (Node.scalar tag [] true, r)
          else throw .malformed
      return (node, r.complete properties.anchor before node)

/-- Reads a node of a block, unless it is left out. -/
def readPart : (fuel : Nat) → (indentless : Bool) → (stops : List Token) → Reading →
    Except Error (Node × Reading)
  | 0, _, _, _ => .error .malformed
  | fuel + 1, indentless, stops, r =>
    if r.isAt stops then .ok (.empty, r) else readNode fuel true indentless r

/-- Reads a node of a flow, unless it is left out. -/
def readFlowPart : (fuel : Nat) → (stops : List Token) → Reading → Except Error (Node × Reading)
  | 0, _, _ => .error .malformed
  | fuel + 1, stops, r =>
    if r.isAt stops then .ok (.empty, r) else readNode fuel false false r

/-- Reads the items of a block sequence up to its end. -/
def readItems : (fuel : Nat) → Reading → Except Error (List Node × Reading)
  | 0, _ => .error .malformed
  | fuel + 1, r => do
    match r.tokens with
    | .blockEnd :: _ => return ([], r.next)
    | .blockEntry :: _ =>
      let (item, r) ← readPart fuel false [.blockEntry, .blockEnd] r.next
      let (items, r) ← readItems fuel r
      return (item :: items, r)
    | _ => throw .malformed

/-- Reads the items of a sequence that is not indented. -/
def readIndentless : (fuel : Nat) → Reading → Except Error (List Node × Reading)
  | 0, _ => .error .malformed
  | fuel + 1, r => do
    match r.tokens with
    | .blockEntry :: _ =>
      let (item, r) ← readPart fuel false (.blockEntry :: blockStops) r.next
      let (items, r) ← readIndentless fuel r
      return (item :: items, r)
    | _ => return ([], r)

/-- Reads the entries of a block mapping up to its end. -/
def readEntries : (fuel : Nat) → Reading → Except Error (List (Node × Node) × Reading)
  | 0, _ => .error .malformed
  | fuel + 1, r => do
    if r.isAt [.blockEnd] then return ([], r.next)
    if !r.isAt [.key, .value] then throw .malformed
    let (key, r) ←
      if r.isAt [.key] then readPart fuel true blockStops r.next else pure (Node.empty, r)
    let (value, r) ←
      if r.isAt [.value] then readPart fuel true blockStops r.next else pure (Node.empty, r)
    let (entries, r) ← readEntries fuel r
    return ((key, value) :: entries, r)

/-- Reads the items of a flow sequence up to its end. -/
def readFlowItems : (fuel : Nat) → (first : Bool) → Reading → Except Error (List Node × Reading)
  | 0, _, _ => .error .malformed
  | fuel + 1, first, r => do
    if r.isAt [.flowSequenceEnd] then return ([], r.next)
    if !first && !r.isAt [.flowEntry] then throw .malformed
    let r := if first then r else r.next
    if r.isAt [.flowSequenceEnd] then return ([], r.next)
    let (item, r) ←
      if r.isAt [.key] then do
        let (key, r) ← readFlowPart fuel [.value, .flowEntry, .flowSequenceEnd] r.next
        let (value, r) ←
          if r.isAt [.value] then readFlowPart fuel [.flowEntry, .flowSequenceEnd] r.next
          else pure (Node.empty, r)
        pure (Node.mapping none [(key, value)], r)
      else readNode fuel false false r
    let (items, r) ← readFlowItems fuel false r
    return (item :: items, r)

/-- Reads the entries of a flow mapping up to its end. -/
def readFlowEntries : (fuel : Nat) → (first : Bool) → Reading →
    Except Error (List (Node × Node) × Reading)
  | 0, _, _ => .error .malformed
  | fuel + 1, first, r => do
    if r.isAt [.flowMappingEnd] then return ([], r.next)
    if !first && !r.isAt [.flowEntry] then throw .malformed
    let r := if first then r else r.next
    if r.isAt [.flowMappingEnd] then return ([], r.next)
    let announced := r.isAt [.key, .value]
    let (key, r) ←
      if r.isAt [.key] then readFlowPart fuel [.value, .flowEntry, .flowMappingEnd] r.next
      else if r.isAt [.value] then pure (Node.empty, r)
      else readNode fuel false false r
    let (value, r) ←
      if announced && r.isAt [.value] then
        readFlowPart fuel [.flowEntry, .flowMappingEnd] r.next
      else pure (Node.empty, r)
    let (entries, r) ← readFlowEntries fuel false r
    return ((key, value) :: entries, r)

end

/-- A document: the minor number of the version it is written in, and its root. -/
structure Document where
  version : Nat
  root : Node
  deriving Inhabited

/-- The version of documents that name none. -/
def defaultVersion : Nat := 2

/-- Reads the directives in front of a document. -/
def readDirectives : (version : Option Nat) → (handles : List (Text × Text)) → List Token →
    Except Error (Option Nat × List (Text × Text) × List Token)
  | version, handles, .version major minor :: tokens =>
    if version.isSome || major != 1 then .error .malformed
    else readDirectives (some minor) handles tokens
  | version, handles, .handle name start :: tokens =>
    if handles.any fun entry => entry.1 == name then .error .malformed
    else readDirectives version (handles ++ [(name, start)]) tokens
  | version, handles, .directive :: tokens => readDirectives version handles tokens
  | version, handles, tokens => .ok (version, handles, tokens)

/-- Whether a token belongs to no document. -/
def Token.isOutside : Token → Bool
  | version .. | handle .. | directive | documentStart | documentEnd => true
  | _ => false

/-- Reads the one document that tokens make up; without tokens there is none. -/
def readDocument? (tokens : List Token) : Except Error (Option Document) := do
  let fuel := 4 * tokens.length + 4
  let (version, root, rest) ←
    match tokens with
    | [] => return none
    | first :: _ =>
      if first.isOutside then do
        let (version, handles, tokens) ← readDirectives none [] tokens
        match tokens with
        | .documentStart :: tokens =>
          if tokens.isEmpty || tokens.head?.any Token.isOutside then
            pure (version, Node.empty, tokens)
          else do
            let defaults : Reading := { tokens }
            let (root, r) ← readNode fuel true false
              { defaults with handles := handles ++ defaults.handles }
            pure (version, root, r.tokens)
        | _ => throw .malformed
      else do
        let (root, r) ← readNode fuel true false { tokens }
        pure (none, root, r.tokens)
  match rest with
  | [] | [.documentEnd] => return some ⟨version.getD defaultVersion, root⟩
  | _ => throw .malformed

end Loremark.Yaml
