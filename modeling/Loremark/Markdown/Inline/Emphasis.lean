import Loremark.Markdown.Inline.Basic

/-!
# Emphasis

Runs of asterisks, underscores and tildes open and close spans depending on what stands on their
two sides. Each closing mark takes the nearest opening mark of its kind that is still waiting in
front of its run, and whatever waits between the two is given up, so that spans nest. Two adjacent
pairs of single marks make a strong span, the inner ones first.
-/

set_option autoImplicit false

namespace Loremark.Markdown

/-- A mark that may open or close a span. -/
structure Mark where
  /-- The character of the mark. -/
  marker : Char
  /-- The place of the run that the mark belongs to. -/
  run : Nat
  /-- The length of the run, or zero for tildes. -/
  length : Nat
  opens : Bool
  closes : Bool
  deriving DecidableEq, Repr, Inhabited

/-- A mark as written. -/
def Mark.text (m : Mark) : Text := if m.marker == '~' then ['~', '~'] else [m.marker]

/-- A piece of running text before spans are formed. -/
inductive Piece where
  | leaf (piece : Inline)
  | mark (mark : Mark)
  /-- The odd tilde in front of the pairs of a run. -/
  | odd
  deriving Inhabited

/-- Blank characters as emphasis sees them. -/
def isGapChar (c : Char) : Bool :=
  let code := c.toNat
  (9 ≤ code && code ≤ 13) || code == 32 || code == 0xA0 || code == 0x1680 ||
    (0x2000 ≤ code && code ≤ 0x200A) || code == 0x202F || code == 0x205F || code == 0x3000

/-- Whether a run between two characters begins a word and whether it ends one. -/
def flanks (before after : Char) : Bool × Bool :=
  let punctBefore := Text.isPunctuation before
  let punctAfter := Text.isPunctuation after
  let gapBefore := isGapChar before
  let gapAfter := isGapChar after
  (!(gapAfter || (punctAfter && !(gapBefore || punctBefore))),
    !(gapBefore || (punctBefore && !(gapAfter || punctAfter))))

/-- Whether a run of a marker between two characters can open and whether it can close spans.
Underscores do neither inside a word. -/
def abilities (marker before after : Char) : Bool × Bool :=
  let (left, right) := flanks before after
  if marker == '_' then
    (left && (!right || Text.isPunctuation before), right && (!left || Text.isPunctuation after))
  else (left, right)

/-- The pieces of a run of a marker. One tilde alone is text, and of an odd number of tildes the
first one stands apart. -/
def runPieces (marker : Char) (length place : Nat) (before after : Char) : List Piece :=
  let (opens, closes) := abilities marker before after
  if marker == '~' then
    if length < 2 then [.leaf (.text ['~'])]
    else
      (if length % 2 == 1 then [Piece.odd] else []) ++
        List.replicate (length / 2) (.mark ⟨marker, place, 0, opens, closes⟩)
  else List.replicate length (.mark ⟨marker, place, length, opens, closes⟩)

/-- A mark with its number among the marks of its text. -/
abbrev Numbered := Nat × Mark

/-- Whether the lengths of two runs forbid that a mark of one opens what a mark of the other
closes: one of them could do both, and the sum is a multiple of three without both being one. -/
def lengthsClash (opener closer : Mark) : Bool :=
  (opener.closes || closer.opens) && (opener.length + closer.length) % 3 == 0 &&
    (opener.length % 3 != 0 || closer.length % 3 != 0)

/-- The nearest waiting mark that a closing mark can take, and those that wait behind it. -/
def opener? (closer : Mark) : (waiting : List Numbered) → Option (Nat × List Numbered)
  | [] => none
  | (n, m) :: waiting =>
    if m.marker == closer.marker && !lengthsClash m closer then some (n, waiting)
    else opener? closer waiting

/-- Pairs the marks of a text. `waiting` are the opening marks in front of the run that is being
read, nearest first, and `here` those of the run itself. -/
def pairMarks : (run : Option Nat) → (waiting here : List Numbered) → List Numbered →
    List (Nat × Nat)
  | _, _, _, [] => []
  | run, waiting, here, (n, m) :: marks =>
    let (waiting, here) : List Numbered × List Numbered :=
      if run == some m.run then (waiting, here) else (here ++ waiting, [])
    let keep := if m.opens then (n, m) :: here else here
    if m.closes then
      match opener? m waiting with
      | some (opener, waiting) => (opener, n) :: pairMarks (some m.run) waiting [] marks
      | none => pairMarks (some m.run) waiting keep marks
    else pairMarks (some m.run) waiting keep marks

/-- What becomes of a mark. -/
inductive Role where
  | opens (kind : SpanKind)
  | closes (kind : SpanKind)
  /-- The second mark of a strong span on either side. -/
  | absorbed
  deriving DecidableEq, Repr

/-- The roles of the marks of pairs. The pairs are given by falling number of the opening mark. -/
def rolesOf (marks : List Numbered) : List (Nat × Nat) → List (Nat × Role)
  | [] => []
  | (opener, closer) :: pairs =>
    let find (n : Nat) : Option Mark := (marks.find? (·.1 == n)).map (·.2)
    match find opener with
    | none => rolesOf marks pairs
    | some m =>
      if m.marker == '~' then
        (opener, .opens .strikethrough) :: (closer, .closes .strikethrough) :: rolesOf marks pairs
      else
        match pairs with
        | [] => [(opener, .opens .emphasis), (closer, .closes .emphasis)]
        | (outer, outerCloser) :: more =>
          if outer + 1 == opener && outerCloser == closer + 1 &&
              (find outer).map (·.run) == some m.run &&
              (find outerCloser).map (·.run) == (find closer).map (·.run) then
            (opener, .opens .strong) :: (closer, .closes .strong) :: (outer, .absorbed) ::
              (outerCloser, .absorbed) :: rolesOf marks more
          else
            (opener, .opens .emphasis) :: (closer, .closes .emphasis) ::
              rolesOf marks ((outer, outerCloser) :: more)

/-- A piece whose part in spans is known. -/
inductive Event where
  | leaf (piece : Inline)
  | opens (kind : SpanKind)
  | closes (kind : SpanKind)
  | odd
  deriving Inhabited

/-- The events of pieces, the marks among them numbered from `n` on. -/
def events (roles : List (Nat × Role)) : (n : Nat) → List Piece → List Event
  | _, [] => []
  | n, .leaf piece :: pieces => .leaf piece :: events roles n pieces
  | n, .odd :: pieces => .odd :: events roles n pieces
  | n, .mark m :: pieces =>
    (match (roles.find? (·.1 == n)).map (·.2) with
      | none => [.leaf (.text m.text)]
      | some (.opens kind) => [.opens kind]
      | some (.closes kind) => [.closes kind]
      | some .absorbed => []) ++ events roles (n + 1) pieces

/-- Moves an odd tilde behind the struck spans that end next to it. -/
def placeOdd : List Event → List Event
  | [] => []
  | .odd :: .closes .strikethrough :: rest => .closes .strikethrough :: placeOdd (.odd :: rest)
  | .odd :: rest => .leaf (.text ['~']) :: placeOdd rest
  | event :: rest => event :: placeOdd rest
termination_by events => events.length

/-- The spans that are open at a place: their kinds, and what came before each in the one around
it, last piece first. -/
abbrev OpenSpans := List (SpanKind × List Inline)

/-- The pieces of spans that are not closed: the spans are given up, and their content stays. -/
def giveUp : OpenSpans → (done : List Inline) → List Inline
  | [], done => done.reverse
  | (_, outer) :: spans, done => giveUp spans (done ++ outer)

/-- Builds the spans of events. `done` holds the pieces of the innermost open span, last piece
first. -/
def nest : OpenSpans → (done : List Inline) → List Event → List Inline
  | spans, done, [] => giveUp spans done
  | spans, done, .leaf piece :: rest => nest spans (piece :: done) rest
  | spans, done, .odd :: rest => nest spans (.text ['~'] :: done) rest
  | spans, done, .opens kind :: rest => nest ((kind, done) :: spans) [] rest
  | (kind, outer) :: spans, done, .closes _ :: rest =>
    nest spans (.span kind done.reverse :: outer) rest
  | [], done, .closes _ :: rest => nest [] done rest

/-- The marks among pieces, numbered in order. -/
def numbered (pieces : List Piece) : List Numbered :=
  let marks := pieces.filterMap fun piece =>
    match piece with
    | .mark m => some m
    | _ => none
  marks.mapIdx fun n m => (n, m)

/-- The pieces of a text with their spans. -/
def spans (pieces : List Piece) : List Inline :=
  let marks := numbered pieces
  let pairs := (pairMarks none [] [] marks).mergeSort fun a b => b.1 ≤ a.1
  nest [] [] (placeOdd (events (rolesOf marks pairs) 0 pieces))

end Loremark.Markdown
