import Loremark.Yaml.Cursor

/-!
# Scalars of a YAML text

The five ways to write a scalar: plain, between single or double quotes, and as a block whose line
breaks are kept or folded. Each reader begins at the first character of the scalar and gives its
text and the place behind it.
-/

set_option autoImplicit false

namespace Loremark.Yaml

/-- The line breaks from here on, with blanks between them skipped by `skip`. `fuel` need not
exceed the number of characters left. -/
def readBreaks (skip : Cursor → Cursor) : (fuel : Nat) → Cursor → Text × Cursor
  | 0, c => ([], c)
  | fuel + 1, c =>
    let c := skip c
    if c.test 0 false isBreak then
      let (char, c) := c.lineBreak
      let (more, c) := readBreaks skip fuel c
      (char ++ more, c)
    else ([], c)

/-- What the first break of a run and the others stand for: a single break is a blank. -/
def foldBreaks (first others : Text) : Text :=
  (if first != ['\n'] then first else if others.isEmpty then [' '] else []) ++ others

/-! ## Plain scalars -/

/-- Whether a character separates items of a flow. -/
def isFlowMark (c : Char) : Bool := c == ',' || c == '[' || c == ']' || c == '\x7b' || c == '\x7d'

/-- The characters of a plain scalar up to the end of its piece. -/
def plainPiece (inFlow : Bool) : Text → Text
  | [] => []
  | c :: text =>
    let gapNext :=
      match text with
      | [] => true
      | d :: _ => isGap d
    if isGap c then []
    else if c == ':' then if gapNext then [] else c :: plainPiece inFlow text
    else if inFlow && isFlowMark c then []
    else c :: plainPiece inFlow text

/-- What stands between two pieces of a plain scalar, and whether the line has ended. Nothing
stands there when a document ends. -/
def plainGap (c : Cursor) : Text × Bool × Cursor :=
  let (blanks, c) := c.takeWhile (· == ' ')
  if c.test 0 false isBreak then
    let (first, c) := c.lineBreak
    if c.atSeparator then ([], true, c)
    else
      let (others, after) := plainBreaks c.rest.length c
      match others with
      | none => ([], true, after)
      | some others => (foldBreaks first others, true, after)
  else (blanks, false, c)
where
  /-- The breaks behind the first one; `none` when a document ends among them. -/
  plainBreaks : Nat → Cursor → Option Text × Cursor
    | 0, c => (some [], c)
    | fuel + 1, c =>
      let c := c.skipWhile (· == ' ')
      if c.test 0 false isBreak then
        let (char, c) := c.lineBreak
        if c.atSeparator then (none, c)
        else
          let (more, c) := plainBreaks fuel c
          (more.map (char ++ ·), c)
      else (some [], c)

/-- The rest of a plain scalar: its pieces, what stands between them, and whether a line has
ended at its end. `gap` is what stands in front of the next piece. -/
def plainPieces (inFlow : Bool) (indent : Int) :
    (fuel : Nat) → (gap : Text) → (broken : Bool) → Cursor → Text × Bool × Cursor
  | 0, _, broken, c => ([], broken, c)
  | fuel + 1, gap, broken, c =>
    let piece := if c.stands '#' then [] else plainPiece inFlow c.rest
    if piece.isEmpty then ([], broken, c)
    else
      let (next, isBroken, after) := plainGap (c.advance piece.length)
      let ended := next.isEmpty || after.stands '#' || (!inFlow && (after.column : Int) < indent)
      if ended then (gap ++ piece, isBroken, after)
      else
        let (more, broken, after) := plainPieces inFlow indent fuel next isBroken after
        (gap ++ piece ++ more, broken, after)

/-- Reads a plain scalar that is indented by a number of places at least; the flag tells whether
the line has ended behind it. -/
def readPlain (inFlow : Bool) (indent : Int) (c : Cursor) : Text × Bool × Cursor :=
  plainPieces inFlow indent (c.rest.length + 1) [] false c

/-! ## Quoted scalars -/

/-- The characters that a letter behind a backslash stands for. -/
def escaped? : Char → Option Char
  | '0' => some '\x00'
  | 'a' => some '\x07'
  | 'b' => some '\x08'
  | 't' => some '\t'
  | '\t' => some '\t'
  | 'n' => some '\n'
  | 'v' => some '\x0b'
  | 'f' => some '\x0c'
  | 'r' => some '\r'
  | 'e' => some '\x1b'
  | ' ' => some ' '
  | '"' => some '"'
  | '/' => some '/'
  | '\\' => some '\\'
  | 'N' => some '\x85'
  | '_' => some '\xa0'
  | 'L' => some '\u2028'
  | 'P' => some '\u2029'
  | _ => none

/-- The number of digits behind a letter that announces a code. -/
def codeLength? : Char → Option Nat
  | 'x' => some 2
  | 'u' => some 4
  | 'U' => some 8
  | _ => none

/-- The breaks inside a quoted scalar; a document must not end among them. -/
def quotedBreaks : (fuel : Nat) → Cursor → Except Error (Text × Cursor)
  | 0, c => .ok ([], c)
  | fuel + 1, c =>
    if c.atSeparator then .error .malformed
    else
      let c := c.skipWhile fun char => char == ' ' || char == '\t'
      if c.test 0 false isBreak then do
        let (char, c) := c.lineBreak
        let (more, c) ← quotedBreaks fuel c
        return (char ++ more, c)
      else .ok ([], c)

/-- The escape behind a backslash: what it stands for, and the place behind it. -/
def readEscape (c : Cursor) : Except Error (Text × Cursor) :=
  match c.rest with
  | [] => .error .malformed
  | char :: rest =>
    match escaped? char, codeLength? char with
    | some e, _ => .ok ([e], c.next)
    | none, some length =>
      let digits := rest.take length
      if digits.length == length && digits.all Text.isHexDigit then
        let code := Text.readBase 16 digits
        if 0x10FFFF < code then .error (.value "chr() arg not in range(0x110000)".toList)
        else .ok ([if Nat.isValidChar code then Char.ofNat code else '\ufffd'],
          c.next.advance length)
      else .error .malformed
    | none, none =>
      if isBreak char then
        let c := c.lineBreak.2
        quotedBreaks (c.rest.length + 1) c
      else .error .malformed

/-- Reads a quoted scalar behind its opening quote. -/
def quotedFrom (double : Bool) : (fuel : Nat) → Cursor → Except Error (Text × Cursor)
  | 0, _ => .error .malformed
  | fuel + 1, c =>
    match c.rest with
    | [] => .error .malformed
    | char :: rest =>
      if char == '\'' && !double then
        if rest.head? == some '\'' then do
          let (more, c) ← quotedFrom double fuel (c.advance 2)
          return ('\'' :: more, c)
        else .ok ([], c.next)
      else if char == '"' && double then .ok ([], c.next)
      else if char == '\\' && double then do
        let (e, c) ← readEscape c.next
        let (more, c) ← quotedFrom double fuel c
        return (e ++ more, c)
      else if char == ' ' || char == '\t' || isBreak char then do
        let (blanks, c) := c.takeWhile fun char => char == ' ' || char == '\t'
        if c.test 0 false isBreak then
          let (first, c) := c.lineBreak
          let (others, c) ← quotedBreaks (c.rest.length + 1) c
          let (more, c) ← quotedFrom double fuel c
          return (foldBreaks first others ++ more, c)
        else
          let (more, c) ← quotedFrom double fuel c
          return (blanks ++ more, c)
      else do
        let (more, c) ← quotedFrom double fuel c.next
        return (char :: more, c)

/-- Reads a scalar between double or single quotes. -/
def readQuoted (double : Bool) (c : Cursor) : Except Error (Text × Cursor) :=
  quotedFrom double (c.rest.length + 1) c.next

/-! ## Block scalars -/

/-- What becomes of the line breaks at the end of a block. -/
inductive Chomping where
  | strip
  | clip
  | keep
  deriving DecidableEq, Repr, Inhabited

/-- The marks behind the first character of a block: what becomes of its end, and how far it is
indented. -/
def blockMarks (c : Cursor) : Except Error (Chomping × Option Nat × Cursor) := do
  let chomping? (c : Cursor) : Option Chomping :=
    if c.stands '+' then some .keep else if c.stands '-' then some .strip else none
  let digit? (c : Cursor) : Option Nat :=
    c.rest.head?.bind fun char => if Text.isDigit char then some (Text.hexValue char) else none
  let (chomping, increment, c) : Option Chomping × Option Nat × Cursor :=
    match chomping? c, digit? c with
    | some chomping, _ =>
      match digit? c.next with
      | some n => (some chomping, some n, c.advance 2)
      | none => (some chomping, none, c.next)
    | none, some n =>
      match chomping? c.next with
      | some chomping => (some chomping, some n, c.advance 2)
      | none => (none, some n, c.next)
    | none, none => (none, none, c)
  if increment == some 0 then throw .malformed
  if c.test 0 true fun char => isBreak char || char == ' ' then
    return (chomping.getD .clip, increment, c)
  else throw .malformed

/-- The place behind the rest of a line that holds nothing but a comment. -/
def skipComment (c : Cursor) : Except Error Cursor :=
  let c := c.skipWhile (· == ' ')
  let c := if c.stands '#' then c.skipWhile (!isLineEnd ·) else c
  if c.atLineEnd then .ok c.lineBreak.2 else .error .malformed

/-- The empty lines at the beginning of a block: their breaks, the widest indentation among them,
and the place behind it. A line that is indented further than an empty one in front of it is
refused. -/
def blockIndentation : (fuel : Nat) → (first : Option Nat) → (widest : Nat) → Cursor →
    Except Error (Text × Nat × Cursor)
  | 0, _, widest, c => .ok ([], widest, c)
  | fuel + 1, first, widest, c =>
    if c.stands ' ' then blockIndentation fuel first (max widest c.next.column) c.next
    else if c.test 0 false isBreak then do
      let (char, after) := c.lineBreak
      let (more, widest, c) ← blockIndentation fuel (first.or (some c.column)) widest after
      return (char ++ more, widest, c)
    else
      match first with
      | some (n + 1) => if n + 1 < widest then .error .malformed else .ok ([], widest, c)
      | _ => .ok ([], widest, c)

/-- The breaks in front of a line of a block, up to its indentation. -/
def blockBreaks (indent : Nat) (c : Cursor) : Text × Cursor :=
  let skip (c : Cursor) : Cursor :=
    let blanks := (c.rest.takeWhile (· == ' ')).length
    c.advance (min blanks (indent - c.column))
  readBreaks skip (c.rest.length + 1) c

/-- The lines of a block. `breaks` are those in front of the first one, and `trailing` holds the
break behind the last line read. The answer is the text up to the last line, the break behind it,
and the breaks that follow. -/
def blockLines (folded topLevel : Bool) (indent : Nat) :
    (fuel : Nat) → (breaks trailing : Text) → Cursor → Text × Text × Text × Cursor
  | 0, breaks, trailing, c => ([], trailing, breaks, c)
  | fuel + 1, breaks, trailing, c =>
    if c.column == indent && !c.rest.isEmpty then
      let isLead (c : Cursor) : Bool := c.test 0 true fun char => char != ' ' && char != '\t'
      let leads := isLead c
      let (line, after) := c.takeWhile (!isLineEnd ·)
      let (lineBreak, after) := after.lineBreak
      let (next, after) := blockBreaks indent after
      if topLevel && after.atDocumentMark then (breaks ++ line, lineBreak, next, after)
      else if after.column == indent && !after.rest.isEmpty then
        let joint :=
          if folded && lineBreak == ['\n'] && leads && isLead after then
            if next.isEmpty then [' '] else []
          else lineBreak
        let (more, last, tail, c) := blockLines folded topLevel indent fuel next lineBreak after
        (breaks ++ line ++ joint ++ more, last, tail, c)
      else (breaks ++ line, lineBreak, next, after)
    else ([], trailing, breaks, c)

/-- Reads a block inside a parent that is indented by a number of places. -/
def readBlock (folded : Bool) (parent : Int) (c : Cursor) : Except Error (Text × Cursor) := do
  let (chomping, increment, c) ← blockMarks c.next
  let c ← skipComment c
  let least := (parent + 1).toNat
  let (indent, breaks, c) ←
    match increment with
    | some n =>
      let indent := max least 1 + n - 1
      let (breaks, c) := blockBreaks indent c
      pure (indent, breaks, c)
    | none => do
      let (breaks, widest, c) ← blockIndentation (c.rest.length + 1) none 0 c
      pure (max least widest, breaks, c)
  let topLevel := least == 0 && increment.isNone
  let (text, last, tail, c) := blockLines folded topLevel indent (c.rest.length + 1) breaks [] c
  match chomping with
  | .strip => return (text, c)
  | .clip => return (text ++ last, c)
  | .keep => return (text ++ last ++ tail, c)

end Loremark.Yaml
