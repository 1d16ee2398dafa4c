import Loremark.Proofs.Markdown.PlainText
import Loremark.Proofs.Tree.Building
import Loremark.Proofs.Tree.Strings

/-!
# What readers see

The texts of a tree outside gated regions, and whether a line of plain text is among them. Running
text shows the lines it is typed as, and markup in plain output the plain lines among its rows,
because the tags around them are escaped.
-/

set_option autoImplicit false

namespace Loremark.Tree

open Markdown

namespace Node

mutual

/-- The strings of a node's running text and plain output, gated regions left out. -/
def ungated : Node → List Text
  | text value => [value]
  | slot _ => []
  | raw html => [html]
  | spoiler _ _ => []
  | inline kind children => kind.strings ++ ungatedAll children
  | block _ children => ungatedAll children

/-- The strings of the running text and plain output of nodes, gated regions left out. -/
def ungatedAll : List Node → List Text
  | [] => []
  | node :: nodes => ungated node ++ ungatedAll nodes

end

/-- Nodes expose a line if a line of a text outside gated regions begins with it. -/
def Exposes (nodes : List Node) (line : Text) : Prop :=
  ∃ text ∈ ungatedAll nodes, ∃ other ∈ Text.splitOn '\n' text, line <+: other

end Node

/-- A line is among others if one of them begins with it. -/
def Among (line : Text) (lines : List Text) : Prop := ∃ other ∈ lines, line <+: other

section Lists

variable {line : Text} {nodes others children : List Node}

/-- The strings of two lists of nodes follow each other. -/
theorem ungatedAll_append (nodes others : List Node) :
    Node.ungatedAll (nodes ++ others) = Node.ungatedAll nodes ++ Node.ungatedAll others := by
  induction nodes with
  | nil => rfl
  | cons node nodes ih =>
    rw [List.cons_append, Node.ungatedAll, ih, Node.ungatedAll, List.append_assoc]

/-- No nodes expose anything. -/
theorem exposes_nil : ¬ Node.Exposes [] line := by
  rintro ⟨text, mem, -⟩
  cases mem

/-- Two lists of nodes expose what one of them does. -/
theorem exposes_append :
    Node.Exposes (nodes ++ others) line ↔
      Node.Exposes nodes line ∨ Node.Exposes others line := by
  simp only [Node.Exposes, ungatedAll_append, List.mem_append, or_and_right, exists_or]

/-- Nodes expose what the first one does or the others do. -/
theorem exposes_cons {node : Node} :
    Node.Exposes (node :: nodes) line ↔ Node.Exposes [node] line ∨ Node.Exposes nodes line := by
  rw [← List.singleton_append, exposes_append]

/-- A block exposes what its children do. -/
theorem exposes_block {kind : BlockKind} :
    Node.Exposes [.block kind children] line ↔ Node.Exposes children line := by
  simp only [Node.Exposes, Node.ungatedAll, Node.ungated, List.append_nil]

/-- A gated region exposes nothing. -/
theorem not_exposes_spoiler {region : Spoiler.Region} :
    ¬ Node.Exposes [.spoiler region children] line := by
  rintro ⟨text, mem, -⟩
  cases mem

/-- No line is among none. -/
theorem among_nil : ¬ Among line [] := by
  rintro ⟨other, mem, -⟩
  cases mem

/-- A line is among two lists if it is among one of them. -/
theorem among_append {lines more : List Text} :
    Among line (lines ++ more) ↔ Among line lines ∨ Among line more := by
  simp only [Among, List.mem_append, or_and_right, exists_or]

/-- A line is among lines if the first one begins with it or it is among the others. -/
theorem among_cons {first : Text} {lines : List Text} :
    Among line (first :: lines) ↔ line <+: first ∨ Among line lines := by
  simp [Among]

end Lists

/-! ## Running text -/

section Running

variable {source : Source} {line : Text}

/-- Without embeds nothing is put back. -/
theorem restoreWith_of_nil {p : Embed.Parsed} (noEmbeds : p.embeds = []) (write : Text → Text)
    (text : Text) : p.restoreWith write 0 text = text := by
  have free : p.TokenFree text := by
    intro d mem
    rw [noEmbeds] at mem
    cases mem
  exact free.restoreWith write

/-- The nodes of lines of running text are their texts and breaks. -/
theorem runs_shown {found : List Inline} {lines : List Text} (runs : Runs found lines)
    (plain : ∀ other ∈ lines, PlainLine other) (noEmbeds : source.parsed.embeds = [])
    {n later : Nat} {nodes : List Node} (shown : ShownInlines source true n found nodes later) :
    Node.ungatedAll nodes = lines ∧ nodes.countP Node.isSlot = 0 := by
  have text {value : Text} (plain : PlainLine value) {n later : Nat} {nodes : List Node}
      (shown : ShownInline source true n (.text value) nodes later) : nodes = [.text value] := by
    obtain ⟨c, rest, rfl, -⟩ := plain.first
    cases shown with
    | text shown =>
      cases shown with
      | restored nonempty whole =>
        rw [Embed.Parsed.restore, restoreWith_of_nil noEmbeds]
      | split nonempty embeds pieces => exact absurd noEmbeds embeds
    | leaf leaf => cases leaf
  induction runs generalizing n nodes with
  | last value =>
    cases shown with
    | cons here behind =>
      cases behind with
      | nil =>
        rw [text (plain value List.mem_cons_self) here]
        exact ⟨rfl, rfl⟩
  | @line value piece isBreak found lines behind ih =>
    have later := fun other mem => plain other (List.mem_cons_of_mem value mem)
    cases shown with
    | cons here rest =>
      cases rest with
      | cons middle last =>
        obtain ⟨strings, slots⟩ := ih later last
        rw [text (plain value List.mem_cons_self) here]
        rcases isBreak with rfl | rfl
        · cases middle with
          | leaf leaf =>
            obtain rfl := Option.some.inj leaf
            exact ⟨congrArg (value :: ·) strings, slots⟩
        · cases middle with
          | leaf leaf =>
            obtain rfl := Option.some.inj leaf
            exact ⟨congrArg (value :: ·) strings, slots⟩

/-- Without slots none is alone. -/
theorem not_isLoneSlot {nodes : List Node} (slots : nodes.countP Node.isSlot = 0) :
    isLoneSlot nodes = false := by
  rw [isLoneSlot, slots]
  rfl

/-- A paragraph of lines exposes the lines. -/
theorem exposes_paragraph {found : List Inline} {lines : List Text} (runs : Runs found lines)
    (plain : ∀ other ∈ lines, PlainLine other) (noEmbeds : source.parsed.embeds = [])
    {n later : Nat} {node : Node} (shown : Shown source n (.paragraph false found) node later) :
    Node.Exposes [node] line ↔ Among line lines := by
  cases shown with
  | @paragraph _ _ _ _ nodes shown =>
    obtain ⟨strings, slots⟩ := runs_shown runs plain noEmbeds shown
    have single : ∀ other ∈ lines, Text.splitOn '\n' other = [other] := by
      intro other mem
      refine Text.splitOn_of_not_mem fun newline => ?_
      exact ne_of_isPlainChar ((plain other mem).chars _ newline) '\n' (by decide) rfl
    rw [paragraphNode, not_isLoneSlot slots, Bool.and_false, exposes_block]
    simp only [Bool.false_eq_true, if_false, Node.Exposes, strings]
    constructor
    · rintro ⟨other, mem, piece, inPieces, begins⟩
      rw [single other mem, List.mem_singleton] at inPieces
      subst inPieces
      exact ⟨piece, mem, begins⟩
    · rintro ⟨other, mem, begins⟩
      refine ⟨other, mem, other, ?_, begins⟩
      rw [single other mem]
      exact List.mem_singleton_self other

end Running

/-! ## Lines in output -/

section Output

variable {line pad : Text} {row : Row} {rows : List Row} {text : Text}

/-- Two texts are escaped one behind the other. -/
theorem escapeMarks_append (front back : Text) :
    Text.escapeMarks (front ++ back) = Text.escapeMarks front ++ Text.escapeMarks back := by
  rw [Text.escapeMarks, List.flatMap_append]
  rfl

/-- A text without marks of markup is written as it is. -/
theorem escapeMarks_eq_self (free : ∀ c ∈ text, c ≠ '&' ∧ c ≠ '<' ∧ c ≠ '>') :
    Text.escapeMarks text = text := by
  induction text with
  | nil => rfl
  | cons c text ih =>
    obtain ⟨⟨ampersand, less, greater⟩, later⟩ := List.forall_mem_cons.mp free
    have own := Text.escapeMark_eq_self ampersand less greater
    have rest : Text.escapeMarks (c :: text) = Text.escapeMark c ++ Text.escapeMarks text := rfl
    rw [rest, own, ih later]
    rfl

/-- A plain line is written as it is. -/
theorem escapeMarks_words (plain : PlainLine line) : Text.escapeMarks line = line := by
  refine escapeMarks_eq_self fun c mem => ?_
  have own := plain.chars c mem
  exact ⟨ne_of_isPlainChar own '&' (by decide), ne_of_isPlainChar own '<' (by decide),
    ne_of_isPlainChar own '>' (by decide)⟩

/-- Spaces are written as they are. -/
theorem escapeMarks_spaces (spaces : Spaces pad) : Text.escapeMarks pad = pad := by
  refine escapeMarks_eq_self fun c mem => ?_
  rw [spaces c mem]
  decide

/-- Escaping adds no line ends. -/
theorem newline_not_mem_escapeMarks (free : '\n' ∉ text) : '\n' ∉ Text.escapeMarks text := by
  intro mem
  obtain ⟨c, inText, inside⟩ := List.mem_flatMap.mp mem
  rw [Text.escapeMark.eq_def] at inside
  split at inside
  · exact absurd inside (by decide)
  · exact absurd inside (by decide)
  · exact absurd inside (by decide)
  · obtain rfl := List.mem_singleton.mp inside
    exact free inText

/-- What follows a plain line in output does not make another one begin there. -/
theorem prefix_append_iff {other more : Text} (plain : PlainLine line) (spaces : Spaces pad)
    (foreign : ∀ c ∈ more.head?, c = '<') : line <+: other ++ (pad ++ more) ↔ line <+: other := by
  refine ⟨fun begins => ?_, fun begins => begins.trans (List.prefix_append _ _)⟩
  by_cases short : line.length ≤ other.length
  · exact List.prefix_of_prefix_length_le begins (List.prefix_append _ _) short
  -- The last character of a longer line would be a space or stand behind an angle bracket.
  · exfalso
    have longer : other <+: line :=
      List.prefix_of_prefix_length_le (List.prefix_append _ _) begins (by omega)
    obtain ⟨tail, rfl⟩ := longer
    have tailBegins : tail <+: pad ++ more := (List.prefix_append_right_inj other).mp begins
    obtain ⟨front, c, whole, notBlank⟩ := plain.last
    have lastMem : c ∈ tail := by
      rcases List.eq_nil_or_concat tail with rfl | ⟨start, d, rfl⟩
      · simp at short
      · have same := congrArg List.getLast? whole
        rw [List.concat_eq_append, ← List.append_assoc, List.getLast?_concat,
          List.getLast?_concat] at same
        rw [Option.some.inj same]
        simp
    have notPad : c ∉ pad := by
      intro mem
      rw [spaces c mem] at notBlank
      cases notBlank
    rcases List.prefix_or_prefix_of_prefix tailBegins (List.prefix_append pad more) with
      within | beyond
    · exact notPad (within.subset lastMem)
    · obtain ⟨rest, rfl⟩ := beyond
      have restBegins : rest <+: more := (List.prefix_append_right_inj pad).mp tailBegins
      cases rest with
      | nil => exact notPad (by simpa using lastMem)
      | cons d rest =>
        obtain ⟨behind, rfl⟩ := restBegins
        obtain rfl := foreign d rfl
        have inside : '<' ∈ other ++ (pad ++ '<' :: rest) := by simp
        exact ne_of_isPlainChar (plain.chars '<' inside) '<' (by decide) rfl

/-- A plain line has characters. -/
theorem plainLine_ne_nil (plain : PlainLine line) : line ≠ [] := by
  obtain ⟨c, rest, rfl, -⟩ := plain.first
  exact List.cons_ne_nil c rest

/-- Of the rows in output, only a plain line begins with a plain line. -/
theorem prefix_row_iff {more : Text} (plain : PlainLine line) (own : row.Plain)
    (filled : row.isFilled = true) (spaces : Spaces pad) (foreign : ∀ c ∈ more.head?, c = '<') :
    line <+: Text.escapeMarks row.text ++ (pad ++ more) ↔ Among line (wordsOf [row]) := by
  have notMark (rest : Text) : ¬ line <+: '&' :: rest := by
    obtain ⟨c, behind, rfl, -⟩ := plain.first
    intro begins
    obtain ⟨same, -⟩ := List.cons_prefix_cons.mp begins
    exact ne_of_isPlainChar (plain.chars c List.mem_cons_self) '&' (by decide) same
  cases row with
  | opens className => exact iff_of_false (notMark _) among_nil
  | closes => exact iff_of_false (notMark _) among_nil
  | words words =>
    rw [Row.text, escapeMarks_words own, prefix_append_iff plain spaces foreign]
    simp [Among, wordsOf, Row.words?]
  | blank => cases filled

/-- Texts that spell rows, without a line end at the end. -/
inductive Lined : Text → List Row → Prop
  | last (row : Row) (pad : Text) (spaces : Spaces pad) : Lined (row.text ++ pad) [row]
  | line (row : Row) (pad : Text) (spaces : Spaces pad) {text : Text} {rows : List Row}
      (behind : Lined text rows) : Lined (row.text ++ pad ++ '\n' :: text) (row :: rows)

/-- A text that spells filled rows has characters. -/
theorem Lined.ne_nil (lined : Lined text rows) (filled : ∀ other ∈ rows, other.isFilled = true)
    (plain : AllPlain rows) : text ≠ [] := by
  cases lined with
  | last row pad spaces =>
    obtain ⟨c, rest, begins, -⟩ := plain.head.text_eq_cons (filled _ List.mem_cons_self)
    rw [begins]
    exact List.cons_ne_nil _ _
  | line row pad spaces behind => simp

/-- A printed text without the line ends at its end. -/
theorem lined_trimEndOf (printed : Printed text rows) (plain : AllPlain rows)
    (filled : ∀ other ∈ rows, other.isFilled = true) (some : rows ≠ []) :
    Lined (Text.trimEndOf '\n' text) rows := by
  induction printed with
  | nil => exact absurd rfl some
  | last row pad spaces =>
    rw [Text.trimEndOf_of_not_mem (newline_not_mem plain.head spaces)]
    exact .last row pad spaces
  | @line row pad spaces text rows behind ih =>
    have later : ∀ other ∈ rows, other.isFilled = true :=
      fun other mem => filled other (List.mem_cons_of_mem row mem)
    by_cases more : rows = []
    · subst more
      cases behind with
      | nil =>
        rw [Text.trimEndOf_concat, Text.trimEndOf_of_not_mem (newline_not_mem plain.head spaces)]
        exact .last row pad spaces
    · have lined := ih plain.tail later more
      have trimmed := Text.trimEndOf_append (row.text ++ pad ++ ['\n'])
        (lined.ne_nil later plain.tail)
      rw [List.append_assoc _ ['\n'], List.append_assoc _ ['\n']] at trimmed
      have whole : Text.trimEndOf '\n' (row.text ++ pad ++ '\n' :: text) =
        row.text ++ pad ++ '\n' :: Text.trimEndOf '\n' text := trimmed
      rw [whole]
      exact .line row pad spaces lined

/-! ## Markup in plain output -/

/-- What follows the rows of a piece of markup in plain output. -/
def paragraphEnd : Text := ['<', '/', 'p', '>']

/-- The plain line of the first row stands in front of those of the others. -/
theorem wordsOf_cons (row : Row) (rows : List Row) :
    wordsOf (row :: rows) = wordsOf [row] ++ wordsOf rows := by
  rw [wordsOf, ← List.singleton_append, List.filterMap_append]
  rfl

/-- The empty text does not begin with a plain line. -/
theorem not_prefix_nil (plain : PlainLine line) : ¬ line <+: [] := by
  rw [List.prefix_nil]
  exact plainLine_ne_nil plain

/-- The output of rows has the lines of the rows. -/
theorem among_output (lined : Lined text rows) (plain : AllPlain rows)
    (filled : ∀ other ∈ rows, other.isFilled = true) (plainLine : PlainLine line) :
    Among line (Text.splitOn '\n' (Text.escapeMarks text ++ (paragraphEnd ++ ['\n']))) ↔
      Among line (wordsOf rows) := by
  induction lined with
  | last row pad spaces =>
    have own := filled row List.mem_cons_self
    have free : '\n' ∉ Text.escapeMarks row.text ++ (pad ++ paragraphEnd) :=
      List.not_mem_append (newline_not_mem_escapeMarks (plain.head.not_mem (by decide)))
        (List.not_mem_append (spaces.not_mem (by decide)) (by decide))
    have whole : Text.escapeMarks (row.text ++ pad) ++ (paragraphEnd ++ ['\n']) =
        Text.escapeMarks row.text ++ (pad ++ paragraphEnd) ++ '\n' :: [] := by
      simp [escapeMarks_append, escapeMarks_spaces spaces]
    rw [whole, Text.splitOn_append_cons free, among_cons,
      prefix_row_iff plainLine plain.head own spaces (by simp [paragraphEnd])]
    simp [Text.splitOn, among_cons, among_nil, not_prefix_nil plainLine]
  | @line row pad spaces text rows behind ih =>
    have own := filled row List.mem_cons_self
    have later := ih plain.tail fun other mem => filled other (List.mem_cons_of_mem row mem)
    have free : '\n' ∉ Text.escapeMarks row.text ++ (pad ++ []) :=
      List.not_mem_append (newline_not_mem_escapeMarks (plain.head.not_mem (by decide)))
        (List.not_mem_append (spaces.not_mem (by decide)) List.not_mem_nil)
    have newline : Text.escapeMarks ('\n' :: text) = '\n' :: Text.escapeMarks text := rfl
    have whole : Text.escapeMarks (row.text ++ pad ++ '\n' :: text) ++ (paragraphEnd ++ ['\n']) =
        Text.escapeMarks row.text ++ (pad ++ []) ++
          '\n' :: (Text.escapeMarks text ++ (paragraphEnd ++ ['\n'])) := by
      simp [escapeMarks_append, escapeMarks_spaces spaces, newline]
    rw [whole, Text.splitOn_append_cons free, among_cons, later, wordsOf_cons, among_append,
      prefix_row_iff plainLine plain.head own spaces (by simp)]

/-- A character in front goes to the first piece of a text. -/
theorem tail_splitOn_cons {c : Char} (other : c ≠ '\n') (text : Text) :
    (Text.splitOn '\n' (c :: text)).tail = (Text.splitOn '\n' text).tail ∧
      ∃ piece, (Text.splitOn '\n' (c :: text)).head? = some (c :: piece) := by
  rw [Text.splitOn, if_neg (by simpa using other)]
  cases cut : Text.splitOn '\n' text with
  | nil => exact absurd cut (Text.splitOn_ne_nil _ _)
  | cons piece pieces => exact ⟨rfl, piece, rfl⟩

/-- A line that cannot begin with the first character of a text is not its first one. -/
theorem among_splitOn_cons {c : Char} (other : c ≠ '\n')
    (foreign : ∀ rest, ¬ line <+: c :: rest) (text : Text) :
    Among line (Text.splitOn '\n' (c :: text)) ↔
      Among line (Text.splitOn '\n' text).tail := by
  obtain ⟨tail, piece, head⟩ := tail_splitOn_cons other text
  cases cut : Text.splitOn '\n' (c :: text) with
  | nil => exact absurd cut (Text.splitOn_ne_nil _ _)
  | cons first pieces =>
    rw [cut] at tail head
    obtain rfl := Option.some.inj head
    rw [among_cons, ← tail, List.tail_cons]
    exact or_iff_right (foreign piece)

/-- A paragraph of output. -/
theorem writeAll_running (value : Text) :
    Html.Markup.writeAll (Html.line .p [] [.running value]) =
      '<' :: 'p' :: '>' :: (Text.escapeMarks value ++ (paragraphEnd ++ ['\n'])) := by
  have body : Html.Markup.writeAll [.running value] = Text.escapeMarks value ++ [] := rfl
  have whole : Html.Markup.writeAll (Html.line .p [] [.running value]) =
      ['<', 'p'] ++ [] ++ '>' :: Html.Markup.writeAll [.running value] ++ ['<', '/', 'p'] ++ ['>'] ++
        ['\n'] := rfl
  rw [whole, body, List.append_nil]
  simp [paragraphEnd]

/-- Markup that is shown as text exposes the plain lines among its rows. -/
theorem exposes_markup {source : Source} {html : Text} {tag : Row}
    (printed : Printed html (tag :: rows)) (isTag : tag.isTag = true)
    (plain : AllPlain (tag :: rows)) (filled : ∀ other ∈ rows, other.isFilled = true)
    (noEmbeds : source.parsed.embeds = []) (plainLine : PlainLine line) {n later : Nat} {node : Node}
    (shown : Shown source n (.plain (.html html)) node later) :
    Node.Exposes [node] line ↔ Among line (wordsOf (tag :: rows)) := by
  have allFilled : ∀ other ∈ tag :: rows, other.isFilled = true :=
    List.forall_mem_cons.mpr ⟨Row.isFilled_of_isTag isTag, filled⟩
  have lined := lined_trimEndOf printed plain allFilled (List.cons_ne_nil tag rows)
  have among := among_output lined plain allFilled plainLine
  -- The bracket of the tag is escaped, and no plain line begins with what it is escaped as.
  obtain ⟨behind, begins⟩ : ∃ behind, Text.escapeMarks (Text.trimEndOf '\n' html) ++
      (paragraphEnd ++ ['\n']) = '&' :: behind := by
    generalize Text.trimEndOf '\n' html = trimmed at lined
    cases lined with
    | last _ pad spaces =>
      cases tag with
      | opens className => exact ⟨_, rfl⟩
      | closes => exact ⟨_, rfl⟩
      | _ => cases isTag
    | line _ pad spaces more =>
      cases tag with
      | opens className => exact ⟨_, rfl⟩
      | closes => exact ⟨_, rfl⟩
      | _ => cases isTag
  have foreign {c : Char} (notPlain : isPlainChar c = false) (rest : Text) :
      ¬ line <+: c :: rest := by
    obtain ⟨d, more, rfl, -⟩ := plainLine.first
    intro within
    obtain ⟨rfl, -⟩ := List.cons_prefix_cons.mp within
    rw [plainLine.chars d List.mem_cons_self] at notPlain
    cases notPlain
  cases shown with
  | plain _ _ =>
    have output := writeAll_running (Text.trimEndOf '\n' html)
    have exposes (value : Text) : Node.Exposes [.raw value] line ↔
        Among line (Text.splitOn '\n' value) := by
      simp [Node.Exposes, Node.ungatedAll, Node.ungated, Among]
    rw [begins, among_splitOn_cons (by decide) (foreign (by decide))] at among
    rw [plainNode, Embed.Parsed.restoreEscaped, restoreWith_of_nil noEmbeds, exposes, plainBlock,
      plainHtml, output, begins,
      among_splitOn_cons (by decide) (foreign (by decide)), (tail_splitOn_cons (by decide) _).1,
      (tail_splitOn_cons (by decide) _).1, (tail_splitOn_cons (by decide) _).1, among]

end Output

end Loremark.Tree
