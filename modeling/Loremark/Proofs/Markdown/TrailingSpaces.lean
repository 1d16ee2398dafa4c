import Loremark.Proofs.Markdown.Rows
import Loremark.Proofs.Text.Occurrence
import Mathlib.Data.List.TakeWhile

/-!
# Spaces at the end of a line

No test on a single line looks at the spaces that the line ends with: what a line begins is the same
when spaces stand behind it. Each section takes one kind of test.
-/

set_option autoImplicit false

namespace Loremark.Markdown

variable {pad : Text}

/-! ## Texts -/

/-- What is taken up to a space does not go beyond the text. -/
theorem takeWhile_spaces (spaces : Spaces pad) {p : Char → Bool} (stop : p ' ' = false)
    (text : Text) : (text ++ pad).takeWhile p = text.takeWhile p := by
  have none : pad.takeWhile p = [] := by
    cases pad with
    | nil => rfl
    | cons c pad => rw [spaces c List.mem_cons_self, List.takeWhile_cons, stop]; rfl
  induction text with
  | nil => exact none
  | cons c text ih => rw [List.cons_append, List.takeWhile_cons, List.takeWhile_cons, ih]

/-- What is dropped up to a space leaves the spaces behind the text. -/
theorem dropWhile_spaces (spaces : Spaces pad) {p : Char → Bool} (stop : p ' ' = false)
    (text : Text) : (text ++ pad).dropWhile p = text.dropWhile p ++ pad := by
  induction text with
  | nil =>
    cases pad with
    | nil => rfl
    | cons c pad =>
      rw [spaces c List.mem_cons_self, List.nil_append, List.dropWhile_cons, stop]
      rfl
  | cons c text ih =>
    rw [List.cons_append, List.dropWhile_cons, List.dropWhile_cons, ih]
    split <;> rfl

/-- Spaces that pass a test do not matter to it. -/
theorem all_spaces (spaces : Spaces pad) {p : Char → Bool} (passes : p ' ' = true) (text : Text) :
    (text ++ pad).all p = text.all p := by
  have pads : pad.all p = true := List.all_eq_true.mpr fun c mem => spaces c mem ▸ passes
  rw [List.all_append, pads, Bool.and_true]

/-- Whether a text is empty or begins with a space-like character. -/
theorem head_spaces (spaces : Spaces pad) {p : Char → Bool} (passes : p ' ' = true) (text : Text) :
    ((text ++ pad).head?.map p).getD true = (text.head?.map p).getD true := by
  cases text with
  | nil =>
    cases pad with
    | nil => rfl
    | cons c pad => rw [spaces c List.mem_cons_self]; exact passes
  | cons c text => rfl

/-- Spaces that are stripped can stand behind the text. -/
theorem strip_spaces (spaces : Spaces pad) {p : Char → Bool} (passes : p ' ' = true)
    (text : Text) : Text.strip p (text ++ pad) = Text.strip p text := by
  have pads : ∀ c ∈ pad.reverse, p c = true := fun c mem =>
    spaces c (List.mem_reverse.mp mem) ▸ passes
  have all : ∀ c ∈ pad, p c = true := fun c mem => pads c (List.mem_reverse.mpr mem)
  have back (text : Text) : (text ++ pad).reverse.dropWhile p = text.reverse.dropWhile p := by
    rw [List.reverse_append, List.dropWhile_append_of_pos pads]
  have front : (text ++ pad).dropWhile p = text.dropWhile p ++ pad ∨
      (text ++ pad).dropWhile p = text.dropWhile p := by
    induction text with
    | nil => exact .inr (by rw [List.nil_append, List.dropWhile_eq_nil_iff.mpr all]; rfl)
    | cons c text ih =>
      rw [List.cons_append, List.dropWhile_cons, List.dropWhile_cons]
      split
      · exact ih
      · exact .inl rfl
  rw [Text.strip, Text.strip]
  rcases front with kept | gone
  · rw [kept, back]
  · rw [gone]

/-- Spaces behind a text are gone without its spaces. -/
theorem unspace_spaces (spaces : Spaces pad) (text : Text) :
    Text.unspace (text ++ pad) = Text.unspace text := strip_spaces spaces rfl text

/-- Spaces behind a text are trimmed. -/
theorem trim_spaces (spaces : Spaces pad) (text : Text) :
    Text.trim (text ++ pad) = Text.trim text := strip_spaces spaces rfl text

/-- A gap is a gap with spaces behind it. -/
theorem isGap_spaces (spaces : Spaces pad) (text : Text) : isGap (text ++ pad) = isGap text :=
  all_spaces spaces rfl text

/-- Spaces do not belong to a run of other characters. -/
theorem runOf_spaces (spaces : Spaces pad) {c : Char} (other : c ≠ ' ') (text : Text) :
    runOf c (text ++ pad) = ((runOf c text).1, (runOf c text).2 ++ pad) := by
  have stop : (' ' == c) = false := beq_eq_false_iff_ne.mpr other.symm
  rw [runOf, takeWhile_spaces spaces stop, dropWhile_spaces spaces stop]
  rfl

/-- A word without spaces begins a text with spaces behind it exactly if it begins the text. -/
theorem afterWord?_spaces (spaces : Spaces pad) {same : Char → Char → Bool} {word : Text}
    (solid : ∀ a ∈ word, same a ' ' = false) (text : Text) :
    Text.afterWord? same word (text ++ pad) = (Text.afterWord? same word text).map (· ++ pad) := by
  induction word generalizing text with
  | nil => rfl
  | cons a word ih =>
    obtain ⟨here, behind⟩ := List.forall_mem_cons.mp solid
    cases text with
    | nil =>
      cases pad with
      | nil => rfl
      | cons c pad =>
        rw [List.nil_append, Text.afterWord?, Text.afterWord?, spaces c List.mem_cons_self, here]
        rfl
    | cons c text =>
      rw [List.cons_append, Text.afterWord?, Text.afterWord?]
      split
      · exact ih behind text
      · rfl

/-- A word without spaces does not reach into those behind the text. -/
theorem after?_spaces (spaces : Spaces pad) {start : Text} (solid : ' ' ∉ start) (text : Text) :
    Text.after? start (text ++ pad) = (Text.after? start text).map (· ++ pad) := by
  rw [Text.after?_eq_afterWord?, Text.after?_eq_afterWord?]
  refine afterWord?_spaces spaces (fun a mem => ?_) text
  exact beq_eq_false_iff_ne.mpr fun same => solid (same ▸ mem)

/-- A needle without spaces is found in front of them. -/
theorem cutAt?_spaces (spaces : Spaces pad) {needle : Text} (some : needle ≠ [])
    (solid : ' ' ∉ needle) (text : Text) :
    Text.cutAt? needle (text ++ pad) =
      (Text.cutAt? needle text).map fun (before, rest) => (before, rest ++ pad) := by
  induction text with
  | nil =>
    have absent : ¬ needle <:+: pad := by
      intro occurs
      obtain ⟨c, behind, rfl⟩ := List.exists_cons_of_ne_nil some
      exact solid (spaces c (occurs.subset List.mem_cons_self) ▸ List.mem_cons_self)
    have nowhere : ¬ needle <:+: [] := fun occurs => some (List.infix_nil.mp occurs)
    rw [List.nil_append, Text.cutAt?_eq_none_iff.mpr absent, Text.cutAt?_eq_none_iff.mpr nowhere]
    rfl
  | cons c text ih =>
    rw [List.cons_append, Text.cutAt?, Text.cutAt?, ← List.cons_append, after?_spaces spaces solid]
    cases Text.after? needle (c :: text) with
    | some rest => rfl
    | none =>
      dsimp only [Option.map_none]
      rw [ih, Option.map_map, Option.map_map]
      rfl

/-- A word without spaces does not occur among those behind the text. -/
theorem occurs_spaces (spaces : Spaces pad) {needle : Text} (some : needle ≠ [])
    (solid : ' ' ∉ needle) (text : Text) :
    Text.occurs needle (text ++ pad) = Text.occurs needle text := by
  rw [Text.occurs, Text.occurs, cutAt?_spaces spaces some solid, Option.isSome_map]

/-- Spaces behind a text stay behind what is left of it without the blanks in front, if anything
is. -/
theorem trimStart_spaces {text : Text} (pad : Text) (filled : Text.trimStart text ≠ []) :
    Text.trimStart (text ++ pad) = Text.trimStart text ++ pad := by
  rw [Text.trimStart] at filled
  induction text with
  | nil => exact absurd rfl filled
  | cons c text ih =>
    rw [List.dropWhile_cons] at filled
    rw [Text.trimStart, Text.trimStart, List.cons_append, List.dropWhile_cons, List.dropWhile_cons]
    split
    · rename_i blank
      rw [if_pos blank] at filled
      exact ih filled
    · rfl

/-- Spaces behind blanks are trimmed with them. -/
theorem trimStart_spaces_nil (spaces : Spaces pad) {text : Text}
    (blank : Text.trimStart text = []) : Text.trimStart (text ++ pad) = [] := by
  rw [Text.trimStart, List.dropWhile_eq_nil_iff] at blank ⊢
  intro c mem
  rcases List.mem_append.mp mem with inText | inPad
  · exact blank c inText
  · rw [spaces c inPad]
    rfl

/-! ## Lines -/

/-- A line with spaces behind it. -/
def Line.padded (line : Line) (pad : Text) : Line := { line with text := line.text ++ pad }

/-- Spaces do not change the shift of a line. -/
@[simp] theorem padded_shift (line : Line) (pad : Text) : (line.padded pad).shift = line.shift :=
  rfl

/-- Spaces do not change the column of a line. -/
@[simp] theorem padded_column (line : Line) (pad : Text) :
    (line.padded pad).column = line.column := rfl

/-- Spaces do not change the origin of a line. -/
@[simp] theorem padded_origin (line : Line) (pad : Text) :
    (line.padded pad).origin = line.origin := rfl

/-- Spaces do not change which line ends the text. -/
@[simp] theorem padded_isLast (line : Line) (pad : Text) :
    (line.padded pad).isLast = line.isLast := rfl

variable {frame : Frame} {line : Line}

/-- The spaces stand behind the content of a filled line. -/
theorem content_padded (filled : line.isEmpty = false) (pad : Text) :
    (line.padded pad).content = line.content ++ pad := by
  rw [Line.isEmpty, decide_eq_false_iff_not, Nat.not_le] at filled
  exact List.drop_append_of_le_length (Nat.le_of_lt filled)

/-- A filled line has a first character of its content. -/
theorem content_eq_cons (filled : line.isEmpty = false) : ∃ c text, line.content = c :: text := by
  refine List.exists_cons_of_ne_nil fun none => ?_
  rw [Line.isEmpty, decide_eq_false_iff_not] at filled
  exact filled (List.drop_eq_nil_iff.mp none)

/-- A filled line stays filled. -/
theorem isEmpty_padded (filled : line.isEmpty = false) (pad : Text) :
    (line.padded pad).isEmpty = false := by
  rw [Line.isEmpty, decide_eq_false_iff_not, Nat.not_le] at filled ⊢
  exact Nat.lt_of_lt_of_le filled (List.length_append ▸ Nat.le_add_right _ _)

/-- Spaces make no line indented code. -/
theorem isCode_padded (frame : Frame) (line : Line) (pad : Text) :
    frame.isCode (line.padded pad) = frame.isCode line := rfl

section Openings

variable (spaces : Spaces pad) (filled : line.isEmpty = false)

include spaces filled

/-- The marker and the length of a fence do not depend on what its line ends with. -/
theorem fence?_padded :
    (fence? frame (line.padded pad)).map (fun fence => (fence.marker, fence.length)) =
      (fence? frame line).map fun fence => (fence.marker, fence.length) := by
  obtain ⟨c, text, content⟩ := content_eq_cons filled
  rw [fence?, fence?, isCode_padded, content_padded filled, content]
  split
  · rfl
  · by_cases isMark : c = '~' ∨ c = '\x60'
    · have other : c ≠ ' ' := by rintro rfl; simp at isMark
      have same : ((runOf c (c :: text)).2 ++ pad).contains '\x60' =
          (runOf c (c :: text)).2.contains '\x60' := by
        rw [Bool.eq_iff_iff, List.contains_iff_mem, List.contains_iff_mem, List.mem_append]
        exact or_iff_left fun mem => absurd (spaces _ mem) (by decide)
      dsimp only [List.cons_append]
      rw [← List.cons_append, runOf_spaces spaces other, same]
      split <;> rfl
    · rw [not_or] at isMark
      simp [isMark]

/-- Spaces close no fence. -/
theorem closesRun_padded {marker : Char} (other : marker ≠ ' ') (length : Nat) :
    closesRun frame marker length (line.padded pad) = closesRun frame marker length line := by
  rw [closesRun, closesRun, content_padded filled, runOf_spaces spaces other]
  dsimp only
  rw [isGap_spaces spaces, isCode_padded]

/-- The number of colons of a container does not depend on what its line ends with. -/
theorem container?_padded :
    (container? frame (line.padded pad)).map Prod.fst = (container? frame line).map Prod.fst := by
  rw [container?, container?, content_padded filled, runOf_spaces spaces (by decide)]
  dsimp only
  rw [trim_spaces spaces, isCode_padded]
  split <;> rfl

omit spaces in
/-- Spaces make no line a quote. -/
theorem isQuoted_padded : isQuoted frame (line.padded pad) = isQuoted frame line := by
  obtain ⟨c, text, content⟩ := content_eq_cons filled
  rw [isQuoted, isQuoted, content_padded filled, content, isCode_padded]
  rfl

/-- Spaces make no line a rule. -/
theorem isRule_padded : isRule frame (line.padded pad) = isRule frame line := by
  obtain ⟨c, text, content⟩ := content_eq_cons filled
  rw [isRule, isRule, content_padded filled, content, isCode_padded]
  dsimp only [List.cons_append]
  by_cases isMark : (c == '*' || c == '-' || c == '_') = true
  · have other : c ≠ ' ' := by rintro rfl; simp at isMark
    have none : pad.count c = 0 := List.count_eq_zero.mpr fun mem => other (spaces c mem)
    have isIndent : (' ' == c || Text.isIndent ' ') = true := by rw [Bool.or_comm]; rfl
    rw [all_spaces spaces isIndent, List.count_append, none, Nat.add_zero]
  · simp [isMark]

/-- Spaces make no line a heading. -/
theorem heading?_padded :
    (heading? frame (line.padded pad)).isSome = (heading? frame line).isSome := by
  rw [heading?, heading?, content_padded filled, runOf_spaces spaces (by decide)]
  dsimp only
  rw [head_spaces spaces rfl, isCode_padded]
  split <;> rfl

/-- Spaces make no line an underline. -/
theorem underline?_padded : underline? (line.padded pad) = underline? line := by
  obtain ⟨c, text, content⟩ := content_eq_cons filled
  rw [underline?, underline?, content_padded filled, content]
  dsimp only [List.cons_append]
  by_cases isMark : (c == '=' || c == '-') = true
  · have stop : (' ' == c) = false := by
      rw [beq_eq_false_iff_ne]
      rintro rfl
      simp at isMark
    rw [dropWhile_spaces spaces stop, isGap_spaces spaces]
  · simp [isMark]

/-- Spaces behind a line leave the mark of its list item. -/
theorem listMark?_padded : listMark? (line.padded pad) = listMark? line := by
  obtain ⟨c, text, content⟩ := content_eq_cons filled
  have ends (text : Text) : endsMark (text ++ pad) = endsMark text := head_spaces spaces rfl text
  rw [listMark?, listMark?, content_padded filled, content]
  dsimp only [List.cons_append]
  rw [ends, ← List.cons_append, takeWhile_spaces spaces rfl]
  split
  · rfl
  · have short : ((c :: text).takeWhile Text.isDigit).length ≤ (c :: text).length :=
      (List.takeWhile_prefix _).length_le
    rw [List.drop_append_of_le_length short]
    cases (c :: text).drop ((c :: text).takeWhile Text.isDigit).length with
    | nil =>
      cases pad with
      | nil => rfl
      | cons d pad =>
        rw [spaces d List.mem_cons_self]
        simp
    | cons mark rest =>
      dsimp only [List.cons_append]
      rw [ends]

/-- Spaces behind a line begin no other list. -/
theorem list?_padded : list? frame (line.padded pad) = list? frame line := by
  rw [list?, list?, isCode_padded, listMark?_padded spaces filled]
  rfl

/-- Spaces do not matter to whether a list interrupts a paragraph. -/
theorem listInterrupts_padded :
    listInterrupts frame (line.padded pad) = listInterrupts frame line := by
  rw [listInterrupts, listInterrupts, list?_padded spaces filled]
  split
  · rfl
  · rename_i mark found
    have behind : Spaces (pad.drop (mark.width - line.content.length)) :=
      fun c mem => spaces c (List.mem_of_mem_drop mem)
    rw [content_padded filled, List.drop_append, isGap_spaces behind]
    rfl

end Openings

/-! ## Markup -/

/-- The words of a text hold no spacing. -/
theorem not_isSpacing_of_mem_words {text word : Text} (mem : word ∈ Text.words text) :
    ∀ c ∈ word, Text.isSpacing c = false := by
  have pieces (text : Text) : ∀ piece ∈ Text.words.step text, ∀ c ∈ piece,
      Text.isSpacing c = false := by
    induction text with
    | nil => simp [Text.words.step]
    | cons d text ih =>
      rw [Text.words.step]
      split
      · exact List.forall_mem_cons.mpr ⟨List.forall_mem_nil _, ih⟩
      · rename_i solid
        rw [Bool.not_eq_true] at solid
        split
        · simpa using solid
        · rename_i piece pieces found
          rw [found] at ih
          obtain ⟨here, behind⟩ := List.forall_mem_cons.mp ih
          exact List.forall_mem_cons.mpr ⟨List.forall_mem_cons.mpr ⟨solid, here⟩, behind⟩
  exact pieces text word (List.mem_of_mem_filter mem)

/-- Tests that agree on all members of a list agree on the list. -/
theorem any_congr_of_mem {α : Type} {as : List α} {p q : α → Bool}
    (same : ∀ a ∈ as, p a = q a) : as.any p = as.any q := by
  induction as with
  | nil => rfl
  | cons a as ih =>
    obtain ⟨here, behind⟩ := List.forall_mem_cons.mp same
    rw [List.any_cons, List.any_cons, here, ih behind]

/-- Letters are compared up to case, and no letter is a space. -/
theorem isCaseOf_space {name : Text} (solid : ∀ c ∈ name, Text.isSpacing c = false) :
    ∀ a ∈ name, Text.isCaseOf a ' ' = false := by
  intro a mem
  refine beq_eq_false_iff_ne.mpr fun isSpace => ?_
  have spacing : Text.isSpacing a = true := isSpace ▸ rfl
  rw [solid a mem] at spacing
  cases spacing

/-- The names of markup that is taken as it is have no spaces in them. -/
theorem not_isSpacing_of_mem_verbatimNames {name : Text} (mem : name ∈ verbatimNames) :
    ∀ c ∈ name, Text.isSpacing c = false := by
  have solid : (verbatimNames.all fun name => name.all fun c => !Text.isSpacing c) = true := by
    decide
  simpa using List.all_eq_true.mp solid name mem

/-- Spaces begin no markup that is taken as it is. -/
theorem isVerbatimStart_spaces (spaces : Spaces pad) (text : Text) :
    isVerbatimStart (text ++ pad) = isVerbatimStart text := by
  refine any_congr_of_mem fun name mem => ?_
  rw [afterWord?_spaces spaces (isCaseOf_space (not_isSpacing_of_mem_verbatimNames mem))]
  rcases Text.afterWord? Text.isCaseOf name text with _ | ⟨_ | ⟨c, rest⟩⟩
  · rfl
  · cases pad with
    | nil => rfl
    | cons c pad => rw [spaces c List.mem_cons_self]; rfl
  · rfl

/-- Spaces begin no block of markup. -/
theorem isBlockStart_spaces (spaces : Spaces pad) (text : Text) :
    isBlockStart (text ++ pad) = isBlockStart text := by
  refine any_congr_of_mem fun name mem => ?_
  rw [afterWord?_spaces spaces (isCaseOf_space (not_isSpacing_of_mem_words mem))]
  rcases Text.afterWord? Text.isCaseOf name text with _ | ⟨_ | ⟨c, _ | ⟨d, rest⟩⟩⟩
  · rfl
  · cases pad with
    | nil => rfl
    | cons c pad => rw [spaces c List.mem_cons_self]; rfl
  · cases pad with
    | nil => rfl
    | cons d pad =>
      rw [spaces d List.mem_cons_self]
      by_cases slash : c = '/'
      · rw [slash]
        rfl
      · simp [slash]
  · by_cases slash : c = '/'
    · by_cases bracket : d = '>'
      · rw [slash, bracket]
        rfl
      · simp [slash, bracket]
    · simp [slash]

/-- What ends in front of the spaces ends at the same place with them. -/
theorem upTo?_spaces (spaces : Spaces pad) {closer : Text} (some : closer ≠ [])
    (solid : ' ' ∉ closer) (text : Text) :
    (upTo? closer (text ++ pad)).map Prod.snd =
      ((upTo? closer text).map Prod.snd).map (· ++ pad) := by
  rw [upTo?, upTo?, cutAt?_spaces spaces some solid]
  simp only [Option.map_map]
  rfl

/-- A value without quotes ends in front of the spaces. -/
theorem afterUnquoted_spaces (spaces : Spaces pad) (text : Text) :
    afterUnquoted (text ++ pad) = (afterUnquoted text).map (· ++ pad) := by
  rw [afterUnquoted, afterUnquoted, takeWhile_spaces spaces rfl]
  split
  · rfl
  · rw [List.map_map]
    refine List.map_congr_left fun n mem => ?_
    have short : (text.takeWhile isUnquoted).length ≤ text.length :=
      (List.takeWhile_prefix _).length_le
    have le : n ≤ text.length := by
      rcases List.mem_cons.mp mem with rfl | later
      · exact short
      · have below := List.mem_range.mp (List.mem_reverse.mp (List.mem_of_mem_filter later))
        exact (Nat.le_of_lt below).trans short
    exact List.drop_append_of_le_length le

/-- Spaces behind a text stay behind what is left of it when a value is cut off. -/
theorem afterValue_spaces (spaces : Spaces pad) (text : Text) :
    afterValue (text ++ pad) = (afterValue text).map (· ++ pad) := by
  have upTo (mark : Char) (solid : ' ' ∉ [mark]) (text : Text) :
      (upTo? [mark] (text ++ pad)).toList.map Prod.snd =
        ((upTo? [mark] text).toList.map Prod.snd).map (· ++ pad) := by
    have found := congrArg Option.toList (upTo?_spaces spaces (List.cons_ne_nil mark []) solid text)
    rwa [Option.toList_map, Option.toList_map, Option.toList_map] at found
  rw [afterValue, afterValue]
  cases blank : Text.trimStart text with
  | nil => rw [trimStart_spaces_nil spaces blank]; rfl
  | cons c rest =>
    have kept := trimStart_spaces pad (blank ▸ List.cons_ne_nil c rest)
    rw [kept, blank, List.cons_append]
    by_cases equals : c = '='
    · simp only [equals]
      cases behind : Text.trimStart rest with
      | nil => rw [trimStart_spaces_nil spaces behind]; rfl
      | cons d value =>
        have kept := trimStart_spaces pad (behind ▸ List.cons_ne_nil d value)
        rw [kept, behind, List.cons_append]
        by_cases double : d = '"'
        · rw [double]
          exact upTo '"' (by decide) value
        · by_cases single : d = '\''
          · rw [single]
            exact upTo '\'' (by decide) value
          · have whole := afterUnquoted_spaces spaces (d :: value)
            simpa [double, single] using whole
    · simp [equals]

/-- A tag ends at the same place with spaces behind it. -/
theorem tagEnd?_spaces (spaces : Spaces pad) (text : Text) :
    tagEnd? (text ++ pad) = (tagEnd? text).map (· ++ pad) := by
  rw [tagEnd?, tagEnd?]
  cases blank : Text.trimStart text with
  | nil => rw [trimStart_spaces_nil spaces blank]; rfl
  | cons c rest =>
    have kept := trimStart_spaces pad (blank ▸ List.cons_ne_nil c rest)
    rw [kept, blank, List.cons_append]
    by_cases bracket : c = '>'
    · rw [bracket]
      rfl
    · by_cases slash : c = '/'
      · cases rest with
        | nil =>
          cases pad with
          | nil => simp [slash]
          | cons d pad =>
            rw [spaces d List.mem_cons_self]
            simp [slash]
        | cons d rest =>
          by_cases closing : d = '>'
          · rw [slash, closing]
            rfl
          · simp [slash, closing]
      · simp [bracket, slash]

/-- Trimming makes no text longer. -/
theorem length_trimStart_le (text : Text) : (Text.trimStart text).length ≤ text.length :=
  (List.dropWhile_suffix _).length_le

/-- What is left when a value is cut off is no longer than before. -/
theorem length_of_mem_afterValue {text rest : Text} (mem : rest ∈ afterValue text) :
    rest.length ≤ text.length := by
  have upTo {mark : Char} {text : Text} (mem : rest ∈ (upTo? [mark] text).toList.map Prod.snd) :
      rest.length ≤ text.length := by
    obtain ⟨found, there, rfl⟩ := List.mem_map.mp mem
    obtain ⟨⟨before, rest⟩, cut, rfl⟩ := Option.map_eq_some_iff.mp (Option.mem_toList.mp there)
    have whole := congrArg List.length (Text.eq_append_of_cutAt? cut)
    simp only [List.length_append] at whole
    dsimp only
    omega
  have unquoted {text : Text} (mem : rest ∈ afterUnquoted text) : rest.length ≤ text.length := by
    rw [afterUnquoted] at mem
    split at mem
    · cases mem
    · obtain ⟨n, -, rfl⟩ := List.mem_map.mp mem
      exact (List.drop_suffix n text).length_le
  have first := length_trimStart_le text
  rw [afterValue] at mem
  split at mem
  · rename_i behind start
    have second := length_trimStart_le behind
    rw [start, List.length_cons] at first
    split at mem
    · rename_i value same
      rw [same, List.length_cons] at second
      have bound := upTo mem
      omega
    · rename_i value same
      rw [same, List.length_cons] at second
      have bound := upTo mem
      omega
    · have bound := unquoted mem
      omega
  · cases mem

/-- Searches that agree on all members of a list find the same. -/
theorem findSome?_congr_of_mem {α β : Type} {as : List α} {f g : α → Option β}
    (same : ∀ a ∈ as, f a = g a) : as.findSome? f = as.findSome? g := by
  induction as with
  | nil => rfl
  | cons a as ih =>
    obtain ⟨here, behind⟩ := List.forall_mem_cons.mp same
    rw [List.findSome?_cons, List.findSome?_cons, here, ih behind]

/-- More fuel than a text is long is as good as any more. -/
theorem afterAttributes?_fuel {fuel more : Nat} {text : Text} (enough : text.length < fuel)
    (le : fuel ≤ more) : afterAttributes? more text = afterAttributes? fuel text := by
  induction fuel generalizing more text with
  | zero => exact absurd enough (Nat.not_lt_zero _)
  | succ fuel ih =>
    obtain ⟨more, rfl⟩ := Nat.exists_eq_add_of_lt (Nat.lt_of_lt_of_le (Nat.succ_pos fuel) le)
    rw [Nat.zero_add] at le ⊢
    rw [afterAttributes?, afterAttributes?]
    congr 1
    cases start : Text.trimStart text with
    | nil => rfl
    | cons c rest =>
      dsimp only
      split
      · -- What is left of a text behind the name of an attribute is shorter.
        have first := length_trimStart_le text
        rw [start, List.length_cons] at first
        have second : (rest.dropWhile continuesName).length ≤ rest.length :=
          (List.dropWhile_suffix _).length_le
        refine findSome?_congr_of_mem fun later mem => ih ?_ (Nat.le_of_succ_le_succ le)
        rcases List.mem_append.mp mem with inValue | alone
        · have third := length_of_mem_afterValue inValue
          omega
        · obtain rfl := List.mem_singleton.mp alone
          omega
      · rfl

/-- Spaces behind a tag stay behind what follows it. -/
theorem afterAttributes?_spaces (spaces : Spaces pad) (fuel : Nat) (text : Text) :
    afterAttributes? fuel (text ++ pad) = (afterAttributes? fuel text).map (· ++ pad) := by
  induction fuel generalizing text with
  | zero => rfl
  | succ fuel ih =>
    rw [afterAttributes?, afterAttributes?, tagEnd?_spaces spaces]
    cases blank : Text.trimStart text with
    | nil =>
      rw [trimStart_spaces_nil spaces blank]
      rfl
    | cons c rest =>
      have kept := trimStart_spaces pad (blank ▸ List.cons_ne_nil c rest)
      rw [kept, blank, List.cons_append]
      have head : (text ++ pad).head? = text.head? := by
        cases text with
        | nil => cases blank
        | cons d text => rfl
      dsimp only
      rw [head, dropWhile_spaces spaces (by decide), afterValue_spaces spaces]
      have onward (texts : List Text) :
          (texts.map (· ++ pad)).findSome? (afterAttributes? fuel) =
            (texts.findSome? (afterAttributes? fuel)).map (· ++ pad) := by
        rw [List.findSome?_map, List.map_findSome?]
        exact findSome?_congr_of_mem fun text _ => ih text
      split
      · have more := onward (afterValue (rest.dropWhile continuesName) ++
          [rest.dropWhile continuesName])
        rw [List.map_append, List.map_singleton] at more
        rw [more]
        cases (afterValue (rest.dropWhile continuesName) ++
          [rest.dropWhile continuesName]).findSome? (afterAttributes? fuel) <;> rfl
      · rfl

/-- An opening tag ends at the same place with spaces behind it. -/
theorem afterOpeningTag?_spaces (spaces : Spaces pad) (text : Text) :
    afterOpeningTag? (text ++ pad) = (afterOpeningTag? text).map (· ++ pad) := by
  cases text with
  | nil =>
    cases pad with
    | nil => rfl
    | cons c pad => rw [spaces c List.mem_cons_self]; rfl
  | cons c text =>
    rw [List.cons_append, afterOpeningTag?, afterOpeningTag?]
    split
    · have short : (text.dropWhile continuesTag).length ≤ text.length :=
        (List.dropWhile_suffix _).length_le
      rw [dropWhile_spaces spaces rfl, afterAttributes?_spaces spaces,
        afterAttributes?_fuel (Nat.lt_succ_of_le short)]
      rw [List.length_append]
      omega
    · rfl

/-- A closing tag ends at the same place with spaces behind it. -/
theorem afterClosingTag?_spaces (spaces : Spaces pad) (text : Text) :
    afterClosingTag? (text ++ pad) = (afterClosingTag? text).map (· ++ pad) := by
  cases text with
  | nil =>
    cases pad with
    | nil => rfl
    | cons c pad => rw [spaces c List.mem_cons_self]; rfl
  | cons c text =>
    rw [List.cons_append, afterClosingTag?, afterClosingTag?]
    split
    · rw [dropWhile_spaces spaces rfl]
      cases blank : Text.trimStart (text.dropWhile continuesTag) with
      | nil => rw [trimStart_spaces_nil spaces blank]; rfl
      | cons d rest =>
        rw [trimStart_spaces pad (blank ▸ List.cons_ne_nil d rest), blank, List.cons_append]
        by_cases bracket : d = '>'
        · rw [bracket]
          rfl
        · simp [bracket]
    · rfl

/-- A tag stands alone with spaces behind it as well. -/
theorem isLoneTag_spaces (spaces : Spaces pad) {text : Text} (filled : text ≠ []) :
    isLoneTag (text ++ pad) = isLoneTag text := by
  have blank (rest : Option Text) :
      ((rest.map (· ++ pad)).map Text.allBlank).getD false =
        (rest.map Text.allBlank).getD false := by
    cases rest with
    | none => rfl
    | some rest => exact all_spaces spaces rfl rest
  obtain ⟨c, text, rfl⟩ := List.exists_cons_of_ne_nil filled
  by_cases bracket : c = '<'
  · rw [bracket]
    have opening : (afterOpeningTag? (text ++ pad)).map Text.allBlank =
        ((afterOpeningTag? text).map (· ++ pad)).map Text.allBlank := by
      rw [afterOpeningTag?_spaces spaces]
    cases text with
    | nil =>
      cases pad with
      | nil => rfl
      | cons d pad => rw [spaces d List.mem_cons_self]; rfl
    | cons d text =>
      by_cases slash : d = '/'
      · rw [slash]
        have closing := blank (afterClosingTag? text)
        rw [← afterClosingTag?_spaces spaces] at closing
        exact closing
      · have here := blank (afterOpeningTag? (d :: text))
        rw [← afterOpeningTag?_spaces spaces] at here
        simpa [isLoneTag, slash] using here
  · simp [isLoneTag, bracket]

/-- Whether a text begins with a character of a class does not depend on what it ends with. -/
theorem headIs_spaces (spaces : Spaces pad) {p : Char → Bool} (solid : p ' ' = false)
    (text : Text) : ((text ++ pad).head?.map p).getD false = (text.head?.map p).getD false := by
  cases text with
  | nil =>
    cases pad with
    | nil => rfl
    | cons c pad => rw [spaces c List.mem_cons_self]; exact solid
  | cons c text => rfl

/-- Spaces do not change how a text begins. -/
theorem head?_beq_spaces (spaces : Spaces pad) {c : Char} (solid : c ≠ ' ') (text : Text) :
    ((text ++ pad).head? == some c) = (text.head? == some c) := by
  cases text with
  | nil =>
    cases pad with
    | nil => rfl
    | cons d pad => rw [spaces d List.mem_cons_self]; simpa using solid.symm
  | cons d text => rfl

/-- Spaces do not change the form of markup. -/
theorem htmlForm?_spaces (spaces : Spaces pad) {text : Text} (filled : text ≠ []) :
    htmlForm? (text ++ pad) = htmlForm? text := by
  have lone := isLoneTag_spaces spaces filled
  obtain ⟨c, text, rfl⟩ := List.exists_cons_of_ne_nil filled
  rw [List.cons_append] at lone ⊢
  by_cases bracket : c = '<'
  · rw [bracket] at lone ⊢
    have after (start : Text) (solid : ' ' ∉ start) :
        (Text.after? start (text ++ pad)).isSome = (Text.after? start text).isSome := by
      rw [after?_spaces spaces solid, Option.isSome_map]
    have second : (((text ++ pad).drop 1).head?.map Text.isLetter).getD false =
        ((text.drop 1).head?.map Text.isLetter).getD false := by
      have behind : Spaces (pad.drop (1 - text.length)) :=
        fun c mem => spaces c (List.mem_of_mem_drop mem)
      rw [List.drop_append, headIs_spaces behind rfl]
    have comment := after "!--".toList (by decide)
    have data := after "![CDATA[".toList (by decide)
    have processing := head?_beq_spaces spaces (by decide : '?' ≠ ' ') text
    have declaration := head?_beq_spaces spaces (by decide : '!' ≠ ' ') text
    have verbatim := isVerbatimStart_spaces spaces text
    unfold htmlForm?
    simp only [verbatim, comment, data, processing, declaration, second, lone]
    -- Only the name behind the bracket, and perhaps a slash, is left.
    have named := isBlockStart_spaces spaces
    clear verbatim comment data processing declaration second lone after
    generalize isBlockStart = isStart at named ⊢
    generalize isLoneTag ('<' :: text) = lone
    generalize isVerbatimStart text = verbatim
    generalize (Text.after? "!--".toList text).isSome = comment
    generalize (Text.after? "![CDATA[".toList text).isSome = data
    generalize (text.head? == some '?') = processing
    generalize (text.head? == some '!' && _) = declaration
    congr 7
    cases text with
    | nil =>
      cases pad with
      | nil => rfl
      | cons d pad =>
        obtain rfl := spaces d List.mem_cons_self
        exact named []
    | cons d text =>
      by_cases slash : d = '/'
      · rw [slash]
        exact named text
      · simpa [slash] using named (d :: text)
  · have other (text : Text) : htmlForm? (c :: text) = none := by
      rw [htmlForm?.eq_def]
      split
      · rename_i same
        exact absurd (List.cons.inj same).1 bracket
      · rfl
    rw [other, other]

/-- Spaces do not close markup that is taken as it is. -/
theorem closesVerbatim_spaces (spaces : Spaces pad) (text : Text) :
    closesVerbatim (text ++ pad) = closesVerbatim text := by
  have solid : ∀ name ∈ verbatimNames, ∀ c ∈ '<' :: '/' :: name ++ ['>'],
      Text.isSpacing c = false := by
    intro name mem c inTag
    rcases List.mem_append.mp inTag with front | last
    · rcases front with _ | ⟨_, _ | ⟨_, inName⟩⟩
      · rfl
      · rfl
      · exact not_isSpacing_of_mem_verbatimNames mem c inName
    · obtain rfl := List.mem_singleton.mp last
      rfl
  have here (text : Text) : (verbatimNames.any fun name =>
      (Text.afterWord? Text.isCaseOf ('<' :: '/' :: name ++ ['>']) (text ++ pad)).isSome) =
        verbatimNames.any fun name =>
          (Text.afterWord? Text.isCaseOf ('<' :: '/' :: name ++ ['>']) text).isSome := by
    refine any_congr_of_mem fun name mem => ?_
    rw [afterWord?_spaces spaces (isCaseOf_space (solid name mem)), Option.isSome_map]
  -- No closing tag begins with a space.
  have nothing {pad : Text} (spaces : Spaces pad) : closesVerbatim pad = false := by
    induction pad with
    | nil => rfl
    | cons c pad ih =>
      obtain rfl := spaces c List.mem_cons_self
      rw [closesVerbatim, ih fun c mem => spaces c (List.mem_cons_of_mem _ mem), Bool.or_false]
      rfl
  induction text with
  | nil => exact nothing spaces
  | cons c text ih =>
    rw [List.cons_append, closesVerbatim, closesVerbatim, ← List.cons_append, here, ih]

/-- Spaces do not end markup of any form. -/
theorem endsIn_spaces (spaces : Spaces pad) (form : HtmlForm) {text : Text} (filled : text ≠ []) :
    form.endsIn (text ++ pad) = form.endsIn text := by
  have isEmpty : (text ++ pad).isEmpty = text.isEmpty := by
    obtain ⟨c, text, rfl⟩ := List.exists_cons_of_ne_nil filled
    rfl
  cases form with
  | verbatim => exact closesVerbatim_spaces spaces text
  | comment => exact occurs_spaces spaces (by decide) (by decide) text
  | processing => exact occurs_spaces spaces (by decide) (by decide) text
  | data => exact occurs_spaces spaces (by decide) (by decide) text
  | declaration =>
    rw [HtmlForm.endsIn, HtmlForm.endsIn, Bool.eq_iff_iff, List.contains_iff_mem,
      List.contains_iff_mem, List.mem_append]
    exact or_iff_left fun mem => absurd (spaces _ mem) (by decide)
  | block => exact isEmpty
  | tag => exact isEmpty

/-- Spaces behind a line begin no other markup. -/
theorem html?_padded (spaces : Spaces pad) (filled : line.isEmpty = false) :
    html? frame (line.padded pad) = html? frame line := by
  obtain ⟨c, text, content⟩ := content_eq_cons filled
  rw [html?, html?, isCode_padded, content_padded filled,
    htmlForm?_spaces spaces (content ▸ List.cons_ne_nil c text)]

/-! ## Tables -/

section Tables

variable {header ruler : Line} {lines others : List Line}

/-- Spaces behind a header and other lines behind the ruler leave the head of a table. -/
theorem tableHead?_header (spaces : Spaces pad) (filled : header.isEmpty = false) :
    tableHead? frame (header.padded pad :: ruler :: lines) =
      tableHead? frame (header :: ruler :: others) := by
  have row : Text.unspace (header.padded pad).content = Text.unspace header.content := by
    rw [content_padded filled, unspace_spaces spaces]
  simp only [tableHead?, isCode_padded, row]

/-- A single bar, dash or colon below a header makes no table, whether it is taken for a line of
alignments or not. -/
theorem tableHead?_single {c : Char} (content : ruler.content = [c]) (spaces : Spaces pad)
    (lines : List Line) : tableHead? frame (header :: ruler.padded pad :: lines) = none := by
  have filled : ruler.isEmpty = false := by
    rw [Line.isEmpty, decide_eq_false_iff_not, Nat.not_le]
    by_contra short
    rw [Line.content, List.drop_eq_nil_of_le (Nat.le_of_not_lt short)] at content
    cases content
  have whole : (ruler.padded pad).content = c :: pad := by
    rw [content_padded filled, content]
    rfl
  have row : Text.unspace (c :: pad) = Text.unspace [c] := unspace_spaces spaces [c]
  rw [tableHead?, whole, row]
  by_cases bar : c = '|'
  · have none : alignsOf? (Text.unspace ['|']) = some [] := rfl
    rw [bar, none]
    split
    · rfl
    · dsimp only [Option.bind_eq_bind, Option.bind_some]
      cases cellsOf (Text.unspace header.content) <;> simp
  · by_cases colon : c = ':'
    · have none : alignsOf? (Text.unspace [':']) = none := rfl
      rw [colon, none]
      split <;> rfl
    · have noRuler : isRuler (c :: pad) = false := by
        cases pad with
        | nil => rfl
        | cons d pad =>
          rw [spaces d List.mem_cons_self]
          by_cases dash : c = '-'
          · rw [dash]
            rfl
          · simp [isRuler, bar, colon, dash]
      rw [noRuler]
      simp

/-- Spaces behind a ruler and other lines behind it leave the head of a table. -/
theorem tableHead?_ruler (spaces : Spaces pad) (filled : ruler.isEmpty = false) :
    tableHead? frame (header :: ruler.padded pad :: lines) =
      tableHead? frame (header :: ruler :: others) := by
  obtain ⟨c, text, content⟩ := content_eq_cons filled
  cases text with
  | nil =>
    have bare : tableHead? frame (header :: ruler.padded [] :: others) = none :=
      tableHead?_single content (List.forall_mem_nil _) others
    have same : ruler.padded [] = ruler := by rw [Line.padded, List.append_nil]
    rw [same] at bare
    rw [bare, tableHead?_single content spaces]
  | cons d text =>
    have isRuler_eq : isRuler (ruler.padded pad).content = isRuler ruler.content := by
      rw [content_padded filled, content]
      dsimp only [List.cons_append, isRuler]
      rw [all_spaces spaces rfl]
    have row : Text.unspace (ruler.padded pad).content = Text.unspace ruler.content := by
      rw [content_padded filled, unspace_spaces spaces]
    simp only [tableHead?, isCode_padded, isRuler_eq, row]
    rfl

end Tables

end Loremark.Markdown
