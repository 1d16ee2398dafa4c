import Loremark.Proofs.Markdown.PlainText
import Loremark.Tree.Division
import Mathlib.Algebra.Ring.Int.Defs

/-!
# The tags of a printed text

What the readers of tags find in a text that spells rows: they count the tags of the rows, take the
class of the first one, and look at the last one. Nothing but a tag has an angle bracket in such a
text, so each reader passes over the rest.
-/

set_option autoImplicit false

namespace Loremark.Tree

open Markdown

/-! ## Tags in a text -/

section Text

variable {c : Char} {front text : Text}

/-- A character of a small number has that number. -/
theorem toNat_ofNat {n : Nat} (low : n < 0xd800) : (Char.ofNat n).toNat = n := by
  have valid : n.isValidChar := .inl low
  rw [Char.ofNat, dif_pos valid]
  rfl

/-- No other letter is the same as an angle bracket. -/
theorem eq_of_sameLetter (same : Text.sameLetter '<' c = true) : c = '<' := by
  have small : Text.toSmall c = '<' := by simpa [Text.sameLetter] using same
  rw [Text.toSmall] at small
  split at small
  · rename_i capital
    simp only [Bool.and_eq_true, decide_eq_true_eq, Char.le_def, UInt32.le_iff_toNat_le] at capital
    have low : 65 ≤ c.toNat := capital.1
    have high : c.toNat ≤ 90 := capital.2
    have code : (Char.ofNat (c.toNat + 32)).toNat = 60 := congrArg Char.toNat small
    have shifted := toNat_ofNat (n := c.toNat + 32) (by omega)
    omega
  · exact small

/-- A word with an angle bracket does not begin with another character. -/
theorem afterWord?_eq_none (word : Text) (other : c ≠ '<') :
    Text.afterWord? Text.sameLetter ('<' :: word) (c :: text) = none := by
  rw [Text.afterWord?, if_neg fun same => other (eq_of_sameLetter same)]

/-- An opening tag begins with its name, which must not go on. -/
theorem afterDivision?_eq (text : Text) :
    afterDivision? text =
      (Text.afterWord? Text.sameLetter ['<', 'd', 'i', 'v'] text).filter (!goesOn ·) := by
  simp only [afterDivision?, String.reduceToList]

/-- A closing tag is its name and a bracket, with blanks between them. -/
theorem afterDivisionEnd?_eq (text : Text) :
    afterDivisionEnd? text =
      match (Text.afterWord? Text.sameLetter ['<', '/', 'd', 'i', 'v'] text).map Text.trimStart with
      | some ('>' :: rest) => some rest
      | _ => none := by
  have word : "</div".toList = ['<', '/', 'd', 'i', 'v'] := by simp only [String.reduceToList]
  rw [← word]
  rfl

/-- No division is opened where no angle bracket stands. -/
theorem afterDivision?_eq_none (other : c ≠ '<') : afterDivision? (c :: text) = none := by
  rw [afterDivision?_eq, afterWord?_eq_none _ other]
  rfl

/-- No division is closed where no angle bracket stands. -/
theorem afterDivisionEnd?_eq_none (other : c ≠ '<') : afterDivisionEnd? (c :: text) = none := by
  rw [afterDivisionEnd?_eq, afterWord?_eq_none _ other]
  rfl

/-- Counting passes over a text without angle brackets. -/
theorem divisionBalance_append (free : '<' ∉ front) :
    divisionBalance (front ++ text) = divisionBalance text := by
  induction front with
  | nil => rfl
  | cons c front ih =>
    have other := (List.ne_of_not_mem_cons free).symm
    rw [List.cons_append, divisionBalance, afterDivision?_eq_none other,
      afterDivisionEnd?_eq_none other, ih (List.not_mem_of_not_mem_cons free)]
    simp

/-- What stands in front of a closing tag goes up to an angle bracket. -/
theorem beforeEnd?_cons (other : c ≠ '<') :
    beforeEnd? (c :: text) = (beforeEnd? text).map (c :: ·) := by
  conv_lhs => unfold beforeEnd?
  rw [afterDivisionEnd?_eq_none other]

/-- Looking for the last closing tag passes over a text without angle brackets. -/
theorem beforeEnd?_append (free : '<' ∉ front) :
    beforeEnd? (front ++ text) = (beforeEnd? text).map (front ++ ·) := by
  induction front with
  | nil => simp
  | cons c front ih =>
    rw [List.cons_append, beforeEnd?_cons (List.ne_of_not_mem_cons free).symm,
      ih (List.not_mem_of_not_mem_cons free), Option.map_map]
    rfl

end Text

/-! ## Tags of rows -/

/-- What a row adds to the number of open divisions. -/
def step : Row → Int
  | .opens _ => 1
  | .closes => -1
  | _ => 0

/-- The number of opening tags among rows less the number of closing ones. -/
def balance (rows : List Row) : Int := (rows.map step).sum

variable {row : Row} {rows : List Row} {className text pad : Text}

/-- What follows the angle bracket of an opening tag. -/
def openingInner (className : Text) : Text :=
  'd' :: 'i' :: 'v' :: ' ' :: 'c' :: 'l' :: 'a' :: 's' :: 's' :: '=' :: '"' ::
    (className ++ ['"', '>'])

/-- What follows the angle bracket of a closing tag. -/
def closingInner : Text := ['/', 'd', 'i', 'v', '>']

/-- An opening tag begins with an angle bracket. -/
theorem text_opens (className : Text) :
    (Row.opens className).text = '<' :: openingInner className := rfl

/-- A closing tag begins with an angle bracket. -/
theorem text_closes : Row.closes.text = '<' :: closingInner := rfl

/-- An opening tag has no other angle bracket. -/
theorem angle_not_mem_openingInner (plain : (Row.opens className).Plain) :
    '<' ∉ openingInner className := by
  have free : '<' ∉ className := by
    intro mem
    have notClass : isClassChar '<' = false := by decide
    exact Bool.false_ne_true (notClass.symm.trans (plain '<' mem))
  simp [openingInner, free]

/-- A plain line has no angle bracket. -/
theorem angle_not_mem_words {line : Text} (plain : (Row.words line).Plain) : '<' ∉ line := by
  intro mem
  have notPlain : isPlainChar '<' = false := by decide
  exact Bool.false_ne_true (notPlain.symm.trans (PlainLine.chars plain '<' mem))

/-- An opening tag opens a division. -/
theorem afterDivision?_opens (rest : Text) :
    afterDivision? ('<' :: (openingInner className ++ rest)) =
      some (' ' :: 'c' :: 'l' :: 'a' :: 's' :: 's' :: '=' :: '"' ::
        (className ++ ['"', '>'] ++ rest)) := by
  rw [afterDivision?_eq]
  rfl

/-- An opening tag closes no division. -/
theorem afterDivisionEnd?_opens (rest : Text) :
    afterDivisionEnd? ('<' :: (openingInner className ++ rest)) = none := by
  rw [afterDivisionEnd?_eq]
  rfl

/-- A closing tag opens no division. -/
theorem afterDivision?_closes (rest : Text) :
    afterDivision? ('<' :: (closingInner ++ rest)) = none := by
  rw [afterDivision?_eq]
  rfl

/-- A closing tag closes a division. -/
theorem afterDivisionEnd?_closes (rest : Text) :
    afterDivisionEnd? ('<' :: (closingInner ++ rest)) = some rest := by
  rw [afterDivisionEnd?_eq]
  rfl

/-- A row in front of a text adds its step to the balance. -/
theorem divisionBalance_row (plain : row.Plain) (text : Text) :
    divisionBalance (row.text ++ text) = step row + divisionBalance text := by
  cases row with
  | opens className =>
    have inner := angle_not_mem_openingInner plain
    rw [text_opens, List.cons_append, divisionBalance, afterDivision?_opens,
      afterDivisionEnd?_opens, divisionBalance_append inner]
    rfl
  | closes =>
    have inner : '<' ∉ closingInner := by decide
    rw [text_closes, List.cons_append, divisionBalance, afterDivision?_closes,
      afterDivisionEnd?_closes, divisionBalance_append inner]
    rfl
  | words line =>
    have passed : divisionBalance (line ++ text) = divisionBalance text :=
      divisionBalance_append (angle_not_mem_words plain)
    exact passed.trans (Int.zero_add _).symm
  | blank => exact (Int.zero_add _).symm

/-- Spaces open and close nothing. -/
theorem divisionBalance_spaces (spaces : Spaces pad) (text : Text) :
    divisionBalance (pad ++ text) = divisionBalance text :=
  divisionBalance_append (spaces.not_mem (by decide))

/-- The balance of a printed text is that of its rows. -/
theorem divisionBalance_printed (printed : Printed text rows) (plain : AllPlain rows) :
    divisionBalance text = balance rows := by
  induction printed with
  | nil => rfl
  | last row pad spaces =>
    have empty := divisionBalance_spaces spaces []
    rw [List.append_nil] at empty
    rw [divisionBalance_row plain.head, empty]
    rfl
  | line row pad spaces behind ih =>
    rw [List.append_assoc, divisionBalance_row plain.head, divisionBalance_spaces spaces,
      divisionBalance, afterDivision?_eq_none (by decide), afterDivisionEnd?_eq_none (by decide),
      ih plain.tail, balance, balance, List.map_cons, List.sum_cons]
    simp

/-! ## The first tag -/

/-- The attributes of an opening tag. -/
def attributes (className : Text) : Text :=
  ' ' :: 'c' :: 'l' :: 'a' :: 's' :: 's' :: '=' :: '"' :: (className ++ ['"'])

/-- A class between quotes is read up to the second one. -/
theorem classFrom?_quoted (value rest : Text) (free : '"' ∉ value) :
    classFrom? false ('c' :: 'l' :: 'a' :: 's' :: 's' :: '=' :: '"' :: (value ++ '"' :: rest)) =
      some value := by
  have cut : (value ++ '"' :: rest).takeWhile (· != '"') = value := by
    rw [List.takeWhile_append_of_pos fun c mem => by simpa using ne_of_mem_of_not_mem mem free]
    simp
  have quoted : quotedValue? ('=' :: '"' :: (value ++ '"' :: rest)) = some value := by
    change (if (('"' == '"' || '"' == '\'') && (value ++ '"' :: rest).contains '"') = true then
      some ((value ++ '"' :: rest).takeWhile (· != '"')) else none) = some value
    rw [cut, if_pos (by simp)]
  have word : Text.afterWord? Text.sameLetter "class".toList
      ('c' :: 'l' :: 'a' :: 's' :: 's' :: '=' :: '"' :: (value ++ '"' :: rest)) =
        some ('=' :: '"' :: (value ++ '"' :: rest)) := by
    simp only [String.reduceToList]
    rfl
  unfold classFrom?
  rw [word, if_neg Bool.false_ne_true, Option.bind_some, quoted, Option.orElse_eq_orElse,
    Option.orElse_some]

/-- The class of an opening tag is read from its attributes. -/
theorem class?_attributes (plain : (Row.opens className).Plain) :
    class? (attributes className) = some className := by
  have free : '"' ∉ className := by
    intro mem
    have notClass : isClassChar '"' = false := by decide
    exact Bool.false_ne_true (notClass.symm.trans (plain '"' mem))
  have none (rest : Text) : Text.afterWord? Text.sameLetter "class".toList (' ' :: rest) = none := by
    simp only [String.reduceToList]
    rfl
  have blank : Text.isWordChar ' ' = false := by decide
  unfold class? attributes classFrom?
  rw [none, if_neg Bool.false_ne_true, Option.bind_none, Option.orElse_eq_orElse,
    Option.orElse_none, blank, classFrom?_quoted className [] free]

/-- Markup that begins with an opening tag: its class, and the rest, which spells the rows behind
the tag. -/
theorem openDivision?_opens (printed : Printed text (.opens className :: rows))
    (plain : AllPlain (.opens className :: rows)) :
    ∃ attrs body, openDivision? text = some (attrs, body) ∧ class? attrs = some className ∧
      Printed body (.blank :: rows) := by
  have free : ∀ c ∈ attributes className, (c != '>') = true := by
    intro c mem
    have notAngle : '>' ∉ attributes className := by
      have notClass : isClassChar '>' = false := by decide
      have inside : '>' ∉ className := fun mem =>
        Bool.false_ne_true (notClass.symm.trans (plain.head '>' mem))
      simp [attributes, inside]
    simpa using ne_of_mem_of_not_mem mem notAngle
  have opened (body : Text) : openDivision? ((Row.opens className).text ++ body) =
      some (attributes className, body) := by
    have trimmed : Text.trimStart ((Row.opens className).text ++ body) =
        '<' :: (openingInner className ++ body) := rfl
    have rest : ' ' :: 'c' :: 'l' :: 'a' :: 's' :: 's' :: '=' :: '"' ::
        (className ++ ['"', '>'] ++ body) = attributes className ++ '>' :: body := by
      simp [attributes]
    have attrs : (attributes className ++ '>' :: body).takeWhile (· != '>') =
        attributes className := by
      rw [List.takeWhile_append_of_pos free]
      simp
    simp only [openDivision?, trimmed, afterDivision?_opens, rest, attrs, Option.bind_eq_bind,
      Option.bind_some, List.drop_left]
  cases printed with
  | last row pad spaces =>
    exact ⟨_, _, opened pad, class?_attributes plain.head, .last .blank pad spaces⟩
  | @line row pad spaces behind text printed =>
    rw [List.append_assoc]
    exact ⟨_, _, opened _, class?_attributes plain.head, .line .blank pad spaces printed⟩

/-- No division is opened by a closing tag. -/
theorem openDivision?_closes (printed : Printed text (.closes :: rows)) :
    openDivision? text = none := by
  have closed (body : Text) : openDivision? (Row.closes.text ++ body) = none := by
    have trimmed : Text.trimStart (Row.closes.text ++ body) = '<' :: (closingInner ++ body) := rfl
    rw [openDivision?, trimmed, afterDivision?_closes]
    rfl
  cases printed with
  | last row pad spaces => exact closed pad
  | line row pad spaces behind =>
    rw [List.append_assoc]
    exact closed _

/-! ## The last tag -/

/-- Two texts are blank together if each of them is. -/
theorem allBlank_append_iff (front text : Text) :
    Text.allBlank (front ++ text) = true ↔
      Text.allBlank front = true ∧ Text.allBlank text = true := by
  simp [Text.allBlank]

/-- A filled row is not blank. -/
theorem allBlank_row (plain : row.Plain) (filled : row.isFilled = true) (text : Text) :
    ¬ Text.allBlank (row.text ++ text) = true := by
  obtain ⟨c, rest, begins, start, -⟩ := plain.text_eq_cons filled
  rw [begins, Text.allBlank, List.cons_append, List.all_cons, (isStart_facts start).2.2]
  simp

/-- A printed text is blank only if it has no row that is more. -/
theorem eq_nil_of_allBlank (printed : Printed text rows) (plain : AllPlain rows)
    (filled : ∀ other ∈ rows, other.isFilled = true) (blank : Text.allBlank text = true) :
    rows = [] := by
  cases printed with
  | nil => rfl
  | last row pad spaces =>
    exact absurd blank (allBlank_row plain.head (filled _ List.mem_cons_self) pad)
  | line row pad spaces behind =>
    rw [List.append_assoc] at blank
    exact absurd blank (allBlank_row plain.head (filled _ List.mem_cons_self) _)

/-- A text without rows is empty. -/
theorem text_eq_nil (printed : Printed text []) : text = [] := by
  cases printed with
  | nil => rfl

/-- Spaces are blank. -/
theorem allBlank_spaces (spaces : Spaces pad) : Text.allBlank pad = true :=
  List.all_eq_true.mpr spaces.isBlank

/-- No closing tag stands among spaces. -/
theorem beforeEnd?_spaces (spaces : Spaces pad) : beforeEnd? pad = none := by
  have passed : beforeEnd? (pad ++ []) = (beforeEnd? []).map (pad ++ ·) :=
    beforeEnd?_append (spaces.not_mem (by decide))
  rwa [List.append_nil] at passed

/-- Looking for the last closing tag passes over a row that is none, and over one with more behind
it. -/
theorem beforeEnd?_row (plain : row.Plain)
    (passed : row = .closes → ¬ Text.allBlank text = true) :
    beforeEnd? (row.text ++ text) = (beforeEnd? text).map (row.text ++ ·) := by
  cases row with
  | opens className =>
    have inner : beforeEnd? (openingInner className ++ text) =
        (beforeEnd? text).map (openingInner className ++ ·) :=
      beforeEnd?_append (angle_not_mem_openingInner plain)
    rw [text_opens, List.cons_append]
    conv_lhs => unfold beforeEnd?
    rw [afterDivisionEnd?_opens, inner, Option.map_map]
    rfl
  | closes =>
    have inner : beforeEnd? (closingInner ++ text) = (beforeEnd? text).map (closingInner ++ ·) :=
      beforeEnd?_append (by decide)
    rw [text_closes, List.cons_append]
    conv_lhs => unfold beforeEnd?
    rw [afterDivisionEnd?_closes]
    dsimp only
    rw [if_neg (passed rfl), inner, Option.map_map]
    rfl
  | words line => exact beforeEnd?_append (angle_not_mem_words plain)
  | blank => simp [Row.text]

/-- The last closing tag is found if nothing but blanks follows it. -/
theorem beforeEnd?_closes (blank : Text.allBlank text = true) :
    beforeEnd? (Row.closes.text ++ text) = some [] := by
  rw [text_closes, List.cons_append]
  conv_lhs => unfold beforeEnd?
  rw [afterDivisionEnd?_closes]
  exact if_pos blank

/-- A line of spaces is passed in the search for a closing tag. -/
theorem beforeEnd?_gap (spaces : Spaces pad) (text : Text) :
    beforeEnd? (pad ++ '\n' :: text) = (beforeEnd? text).map (pad ++ '\n' :: ·) := by
  have noAngle : '<' ∉ pad ++ ['\n'] :=
    List.not_mem_append (spaces.not_mem (by decide)) (by decide)
  have passed : beforeEnd? (pad ++ ['\n'] ++ text) =
      (beforeEnd? text).map (pad ++ ['\n'] ++ ·) := beforeEnd?_append noAngle
  simpa only [List.append_assoc, List.singleton_append] using passed

/-- The text in front of a closing tag that ends a printed text spells the rows in front of it. -/
theorem beforeEnd?_printed (printed : Printed text rows) (plain : AllPlain rows)
    (filled : ∀ other ∈ rows.tail, other.isFilled = true) :
    if rows.getLast? = some .closes then
      ∃ before, beforeEnd? text = some before ∧ Printed before rows.dropLast
    else beforeEnd? text = none := by
  induction printed with
  | nil => rfl
  | last row pad spaces =>
    by_cases closes : row = .closes
    · subst closes
      rw [List.getLast?_singleton, if_pos rfl]
      exact ⟨[], beforeEnd?_closes (allBlank_spaces spaces), .nil⟩
    · rw [List.getLast?_singleton, if_neg fun same => closes (Option.some.inj same),
        beforeEnd?_row plain.head fun same => absurd same closes, beforeEnd?_spaces spaces]
      rfl
  | @line row pad spaces text rows behind ih =>
    have allFilled : ∀ other ∈ rows, other.isFilled = true := filled
    have later := ih plain.tail fun other mem => allFilled other (List.mem_of_mem_tail mem)
    rw [List.append_assoc]
    -- A closing tag ends the text if nothing but blanks stands behind it.
    by_cases ends : row = .closes ∧ rows = []
    · obtain ⟨rfl, rfl⟩ := ends
      rw [List.getLast?_singleton, if_pos rfl, text_eq_nil behind]
      have blank : Text.allBlank (pad ++ ['\n']) = true :=
        (allBlank_append_iff _ _).mpr ⟨allBlank_spaces spaces, rfl⟩
      exact ⟨[], beforeEnd?_closes blank, .nil⟩
    · have passed : row = .closes → ¬ Text.allBlank (pad ++ '\n' :: text) = true := by
        intro closes blank
        rw [allBlank_append_iff, ← List.singleton_append, allBlank_append_iff] at blank
        exact ends ⟨closes, eq_nil_of_allBlank behind plain.tail allFilled blank.2.2⟩
      rw [beforeEnd?_row plain.head passed, beforeEnd?_gap spaces]
      cases rows with
      | nil =>
        have other : ¬ [row].getLast? = some .closes := by
          intro same
          exact ends ⟨Option.some.inj same, rfl⟩
        rw [if_neg other, text_eq_nil behind]
        rfl
      | cons next rows =>
        rw [List.getLast?_cons_cons]
        split
        · rename_i last
          rw [if_pos last] at later
          obtain ⟨before, found, spelled⟩ := later
          refine ⟨row.text ++ pad ++ '\n' :: before, ?_, .line row pad spaces spelled⟩
          rw [found, List.append_assoc]
          rfl
        · rename_i last
          rw [if_neg last] at later
          rw [later]
          rfl

/-! ## Closing tags only -/

/-- Whether a row is a closing tag. -/
def isClosing : Row → Bool
  | .closes => true
  | _ => false

/-- Trimming goes up to a filled row. -/
theorem trimStart_row (plain : row.Plain) (filled : row.isFilled = true) {gap : Text}
    (blank : Text.allBlank gap = true) (text : Text) :
    Text.trimStart (gap ++ (row.text ++ text)) = row.text ++ text := by
  obtain ⟨c, rest, begins, start, -⟩ := plain.text_eq_cons filled
  rw [Text.trimStart, List.dropWhile_append_of_pos (List.all_eq_true.mp blank), begins,
    List.cons_append, List.dropWhile_cons_of_neg (by simp [(isStart_facts start).2.2])]

/-- A row closes a division exactly if it is a closing tag. -/
theorem afterDivisionEnd?_row (plain : row.Plain) (filled : row.isFilled = true) (text : Text) :
    afterDivisionEnd? (row.text ++ text) = if isClosing row then some text else none := by
  cases row with
  | opens className => exact afterDivisionEnd?_opens text
  | closes => exact afterDivisionEnd?_closes text
  | words line =>
    obtain ⟨c, rest, rfl, -⟩ := PlainLine.first plain
    have other := (List.ne_of_not_mem_cons (angle_not_mem_words plain)).symm
    exact afterDivisionEnd?_eq_none other
  | blank => cases filled

/-- A text is nothing but closing tags exactly if its rows are. -/
theorem onlyEnds_printed {fuel : Nat} (printed : Printed text rows) (plain : AllPlain rows)
    (filled : ∀ other ∈ rows, other.isFilled = true) (some : rows ≠ []) {gap : Text}
    (blank : Text.allBlank gap = true) (enough : rows.length ≤ fuel) :
    onlyEnds fuel (gap ++ text) = rows.all isClosing := by
  induction printed generalizing fuel gap with
  | nil => exact absurd rfl some
  | last row pad spaces =>
    have own := filled row List.mem_cons_self
    cases fuel with
    | zero => cases enough
    | succ fuel =>
      rw [onlyEnds, trimStart_row plain.head own blank, afterDivisionEnd?_row plain.head own,
        List.all_cons, List.all_nil, Bool.and_true]
      cases isClosing row with
      | true => simp [allBlank_spaces spaces]
      | false => rfl
  | @line row pad spaces text rows behind ih =>
    have own := filled row List.mem_cons_self
    have later : ∀ other ∈ rows, other.isFilled = true :=
      fun other mem => filled other (List.mem_cons_of_mem row mem)
    have gapBlank : Text.allBlank (pad ++ ['\n']) = true :=
      (allBlank_append_iff _ _).mpr ⟨allBlank_spaces spaces, rfl⟩
    have split : pad ++ '\n' :: text = pad ++ ['\n'] ++ text := by simp
    cases fuel with
    | zero => cases enough
    | succ fuel =>
      rw [onlyEnds, List.append_assoc, trimStart_row plain.head own blank,
        afterDivisionEnd?_row plain.head own, List.all_cons]
      cases isClosing row with
      | false => rfl
      | true =>
        rw [if_pos rfl, Bool.true_and]
        dsimp only
        rw [split]
        by_cases more : rows = []
        · subst more
          rw [text_eq_nil behind, List.append_nil, gapBlank]
          rfl
        · -- Filled rows follow, so more tags are looked for behind the line end.
          have notBlank : Text.allBlank (pad ++ ['\n'] ++ text) = false := by
            rw [Bool.eq_false_iff]
            intro allBlank
            rw [allBlank_append_iff] at allBlank
            exact more (eq_nil_of_allBlank behind plain.tail later allBlank.2)
          rw [notBlank, Bool.false_or]
          exact ih plain.tail later more gapBlank (Nat.le_of_succ_le_succ enough)

/-- Filled rows are at most as many as the characters of the text. -/
theorem length_rows_le (printed : Printed text rows) (plain : AllPlain rows)
    (filled : ∀ other ∈ rows, other.isFilled = true) : rows.length ≤ text.length := by
  have positive {row : Row} (plain : row.Plain) (filled : row.isFilled = true) :
      1 ≤ row.text.length := by
    obtain ⟨c, rest, begins, -⟩ := plain.text_eq_cons filled
    rw [begins]
    simp
  induction printed with
  | nil => exact Nat.le_refl 0
  | last row pad spaces =>
    have own := positive plain.head (filled row List.mem_cons_self)
    rw [List.length_append, List.length_singleton]
    omega
  | @line row pad spaces text rows behind ih =>
    have later := ih plain.tail fun other mem => filled other (List.mem_cons_of_mem row mem)
    simp only [List.length_append, List.length_cons]
    omega

/-- Markup closes divisions and does nothing else if all its rows do. -/
theorem closesOnly_printed (printed : Printed text rows) (plain : AllPlain rows)
    (filled : ∀ other ∈ rows, other.isFilled = true) (some : rows ≠ []) :
    closesOnly text = rows.all isClosing := by
  have noGap : Text.allBlank [] = true := rfl
  have enough := length_rows_le printed plain filled
  exact onlyEnds_printed printed plain filled some noGap enough

end Loremark.Tree
