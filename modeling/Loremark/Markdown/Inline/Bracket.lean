import Loremark.Markdown.Inline.Leaf
import Loremark.Text.CaseKey
import Std.Data.HashMap

/-!
# Links and images

A label ends at the bracket that balances its opening one, where brackets inside other pieces do
not count, and a link inside the label of a link is refused. To find the end, pieces are skipped
one after the other; skipping a bracket means reading a whole link in turn, so what has been
skipped is remembered by place. Nesting is limited: behind too many open brackets, skipping runs
off the end of the text.
-/

set_option autoImplicit false

namespace Loremark.Markdown

/-- The targets that labels stand for; the first one with a label counts. -/
abbrev References := List (Text × Target)

/-- A label as it is compared with others: blanks collapsed, letters up to case. -/
def labelKey (label : Text) : Text := Text.caseKey (Text.collapse label)

/-- The target that a label stands for. -/
def References.find? (references : References) (label : Text) : Option Target :=
  let key := labelKey label
  (List.find? (·.1 == key) references).map (·.2)

/-- A place in a text: the number of characters in front of it, the last of them, and what
follows. -/
structure Place where
  index : Nat
  before : Char
  rest : Text
  deriving Repr, Inhabited

/-- The place a number of characters further on. -/
def Place.move : (count : Nat) → Place → Place
  | 0, p => p
  | count + 1, ⟨index, before, []⟩ => Place.move count ⟨index, before, []⟩
  | count + 1, ⟨index, _, c :: rest⟩ => Place.move count ⟨index + 1, c, rest⟩

/-- The place where a part of what follows a place begins. -/
def Place.at (p : Place) (rest : Text) : Place := p.move (p.rest.length - rest.length)

/-- The text between two places. -/
def Place.upTo (p q : Place) : Text := p.rest.take (q.index - p.index)

/-- What is remembered while a text is read: where skipping the piece at an index leads, and nothing
where it runs off the text. -/
abbrev Memo := Std.HashMap Nat (Option Nat)

/-- Skips the piece at a place; nothing when skipping runs off the text. -/
abbrev Skip := Place → StateM Memo (Option Place)

/-- The place of the bracket that closes a label, with `depth` brackets open. A link inside the
label is passed over only if `nested` allows it. -/
def labelEnd? (skip : Skip) (nested : Bool) : (fuel depth : Nat) → Place →
    StateM Memo (Option Place)
  | 0, _, _ => return none
  | fuel + 1, depth, p => do
    match p.rest with
    | [] => return none
    | c :: _ =>
      let depth := if c == ']' then depth - 1 else depth
      if c == ']' && depth == 0 then return some p
      else
        match ← skip p with
        | none => return none
        | some q =>
          if c == '[' then
            if q.index == p.index + 1 then labelEnd? skip nested fuel (depth + 1) q
            else if nested then labelEnd? skip nested fuel depth q
            else return none
          else labelEnd? skip nested fuel depth q

/-- The label behind the bracket at a place: its text, and the place behind its closing bracket. -/
def label? (skip : Skip) (nested : Bool) (p : Place) : StateM Memo (Option (Text × Place)) := do
  let start := p.move 1
  match ← labelEnd? skip nested (start.rest.length + 1) 1 start with
  | none => return none
  | some q => return some (start.upTo q, q.move 1)

/-- The text without leading blanks and line ends. -/
def skipGap (text : Text) : Text := text.dropWhile fun c => Text.isIndent c || c == '\n'

/-- Reads a destination and a title, behind the parenthesis that opens them: the target, and what
follows, which is the closing parenthesis if all is well. Nothing if the text ends first. -/
def target? (text : Text) : Option (Target × Text) :=
  match skipGap text with
  | [] => none
  | text =>
    let (address, rest) : Text × Text :=
      match destination? text with
      | none => ([], text)
      | some (written, rest) =>
        let address := normalAddress written
        if isAllowedAddress address then (address, rest) else ([], text)
    let gap := skipGap rest
    if gap.length == rest.length then some (⟨address, []⟩, rest)
    else
      match title? gap with
      | none => some (⟨address, []⟩, gap)
      | some (title, rest) => some (⟨address, title⟩, skipGap rest)

/-- A link or image that has been recognised: its label, where it leads, and the place behind
it. -/
structure Found where
  label : Text
  target : Target
  after : Place

/-- The part of a text inside the bracket at a place. -/
def Place.inside (p : Place) (label : Text) : Place := ⟨p.index + 1, '[', label⟩

/-- Resolves a label by the references. Behind it, at `next`, a label of its own may stand; it is
used unless it is empty. `after` is the place behind the first label. Where there are no
references, nothing is looked at. -/
def reference? (skip : Skip) (references : References) (label : Text) (after next : Place) :
    StateM Memo (Option Found) := do
  if references.isEmpty then return none
  let second ←
    match next.rest with
    | '[' :: _ => label? skip true next
    | _ => pure none
  let (key, behind) : Text × Place :=
    match second with
    | none => (label, after)
    | some ([], behind) => (label, behind)
    | some (key, behind) => (key, behind)
  return (references.find? key).map fun target => ⟨label, target, behind⟩

/-- Reads a link at its opening bracket. If what follows the label in parentheses is no target,
the label is looked up, and a second label is looked for where reading the target failed. -/
def link? (skip : Skip) (references : References) (p : Place) : StateM Memo (Option Found) := do
  match ← label? skip false p with
  | none => return none
  | some (label, after) =>
    match after.rest with
    | '(' :: text =>
      match target? text with
      | none => return none
      | some (target, ')' :: rest) => return some ⟨label, target, after.at rest⟩
      | some (_, rest) => reference? skip references label after ((after.at rest).move 1)
    | _ => reference? skip references label after after

/-- Reads an image at its exclamation mark. -/
def image? (skip : Skip) (references : References) (p : Place) : StateM Memo (Option Found) := do
  match p.rest with
  | '!' :: '[' :: _ =>
    match ← label? skip true (p.move 1) with
    | none => return none
    | some (label, after) =>
      match after.rest with
      | '(' :: text =>
        match target? text with
        | some (target, ')' :: rest) => return some ⟨label, target, after.at rest⟩
        | _ => return none
      | _ => reference? skip references label after after
  | _ => return none

/-- Remembers where skipping the piece at a place leads. -/
def remember (p : Place) (after : Option Place) : StateM Memo (Option Place) := do
  modify (·.insert p.index (after.map Place.index))
  return after

/-- Skips the piece at a place. `room` is the number of brackets that may still be opened around
it. -/
def skipPiece (references : References) (room : Nat) (p : Place) : StateM Memo (Option Place) := do
  match (← get)[p.index]? with
  | some known => return known.map fun index => p.move (index - p.index)
  | none =>
    match room with
    | 0 => remember p none
    | room + 1 =>
      let found : Option Place ←
        match p.rest with
        | '[' :: _ => (·.map Found.after) <$> link? (skipPiece references room) references p
        | '!' :: _ => (·.map Found.after) <$> image? (skipPiece references room) references p
        | '\n' :: rest => pure (some (p.at (rest.dropWhile Text.isIndent)))
        | '\x60' :: _ => pure (some (p.at (code p.rest).2))
        | rest => pure ((leaf? rest).map fun (_, after) => p.at after)
      remember p (found.getD (p.move 1))

end Loremark.Markdown
