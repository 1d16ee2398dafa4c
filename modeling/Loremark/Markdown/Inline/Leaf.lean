import Loremark.Markdown.Destination
import Loremark.Markdown.Inline.Basic
import Loremark.Markdown.Tag

/-!
# Pieces without brackets

The readers for pieces of running text that are decided by what follows them: escapes, code between
backticks, addresses and markup between angle brackets, and character references. Code ends at the
first run of backticks that is as long as the one it begins with.
-/

set_option autoImplicit false

namespace Loremark.Markdown

/-- What was read from the beginning of a text, and what follows. -/
abbrev Reading (α : Type) := Option (α × Text)

/-- Reads an escape, behind its backslash. At the end of a line it is a line break; in front of a
character that is no punctuation the backslash stays. -/
def escape? : Text → Reading Inline
  | [] => none
  | c :: text =>
    if c == '\n' then some (.hardBreak, text.dropWhile Text.isIndent)
    else if Text.isAsciiPunctuation c then some (.text [c], text)
    else some (.text ['\\', c], text)

/-- Cuts a text at the first run of exactly `width` backticks: what stands in front of it, and what
follows it. A longer or a shorter run belongs to what stands in front. `run` backticks have been
passed right in front of the text. -/
def cutAtRun? (width : Nat) : (run : Nat) → Text → Option (Text × Text)
  | run, [] => if run == width then some ([], []) else none
  | run, '\x60' :: text => cutAtRun? width (run + 1) text
  | run, c :: text =>
    if run == width then some ([], c :: text)
    else (cutAtRun? width 0 text).map fun (before, rest) =>
      (List.replicate run '\x60' ++ c :: before, rest)

/-- The content of code: line breaks become spaces, and one space is cut at both ends if there is
one at both with something between them. -/
def codeContent (text : Text) : Text :=
  let text := text.map fun c => if c == '\n' then ' ' else c
  if text.head? == some ' ' && text.getLast? == some ' ' && 2 < text.length then
    (text.drop 1).dropLast
  else text

/-- Reads code, or a run of backticks that nothing closes. -/
def code (text : Text) : Inline × Text :=
  let run := text.takeWhile (· == '\x60')
  let rest := text.drop run.length
  match cutAtRun? run.length 0 rest with
  | some (content, after) => (.code (codeContent content), after)
  | none => (.text run, rest)

/-- Whether a text is an address with a scheme. -/
def isAddress (text : Text) : Bool :=
  let scheme := text.takeWhile fun c =>
    Text.isAlphanumeric c || c == '+' || c == '.' || c == '-'
  (scheme.head?.map Text.isLetter).getD false && 2 ≤ scheme.length && scheme.length ≤ 32 &&
    (match text.drop scheme.length with
      | ':' :: rest => rest.all fun c => 32 < c.toNat && c != '<' && c != '>'
      | _ => false)

/-- The marks that can stand in front of the at sign of a mail address. -/
def mailMarks : Text := ".!#$%&'*+/=?^_\x60\x7b|\x7d~-".toList

/-- Whether a text is a label of a mail domain. -/
def isMailLabel (label : Text) : Bool :=
  !label.isEmpty && label.length ≤ 63 && label.head? != some '-' && label.getLast? != some '-' &&
    label.all fun c => Text.isAlphanumeric c || c == '-'

/-- Whether a text is a mail address. -/
def isMail (text : Text) : Bool :=
  let user := text.takeWhile (· != '@')
  match text.drop user.length with
  | _ :: domain =>
    !user.isEmpty && user.all (fun c => Text.isAlphanumeric c || mailMarks.contains c) &&
      (Text.splitOn '.' domain).all isMailLabel
  | [] => false

/-- A link that shows its own address. -/
def autolink? (address shown : Text) : Option Inline :=
  let address := normalAddress address
  if isAllowedAddress address then
    some (.link ⟨address, []⟩ [.text (shownAddress shown)])
  else none

/-- Reads an address between angle brackets, behind the opening one. -/
def angled? (text : Text) : Reading Inline :=
  let inner := text.takeWhile fun c => c != '<' && c != '>'
  match text.drop inner.length with
  | '>' :: rest =>
    (if isAddress inner then autolink? inner inner
      else if isMail inner then autolink? ("mailto:".toList ++ inner) inner
      else none).map (·, rest)
  | _ => none

/-- Reads markup of the author. -/
def authorTag? (text : Text) : Reading Inline :=
  (tag? text).map fun (tag, rest) => (.html tag, rest)

/-- Reads a piece that is neither plain text nor code, and does not depend on brackets or
emphasis. -/
def leaf? : Text → Reading Inline
  | '\\' :: text => escape? text
  | '<' :: text =>
    angled? text <|> authorTag? ('<' :: text)
  | '&' :: text => (charRef? text).map fun (chars, rest) => (.text chars, rest)
  | _ => none

end Loremark.Markdown
