import Loremark.Proofs.Embed.Addresses
import Loremark.Proofs.Spoiler.Marker
import Loremark.Proofs.Text.Numerals

/-!
# Mentions of chapters

`Mentions` says that a chapter is mentioned somewhere in a text, and `FirstMention` which number the
first mention in it has. The search for a mention answers exactly that (`firstMention?_eq_none_iff`,
`firstMention?_eq_some_iff`). A first mention stays the first one behind a text without the letter
that mentions begin with, and in front of further lines (`FirstMention.append_front`,
`FirstMention.append_line`).
-/

set_option autoImplicit false

namespace Loremark.Spoiler

/-! ## Characters -/

/-- Digits are small letters already. -/
theorem toSmall_of_isDecimal {c : Char} (digit : Text.isDecimal c = true) :
    Text.toSmall c = c := by
  have apart := Text.toNat_of_isDecimal digit
  unfold Text.toSmall
  split
  · rename_i capital
    simp only [Bool.and_eq_true, decide_eq_true_iff, Char.le_def, UInt32.le_iff_toNat_le]
      at capital
    change 65 ≤ c.toNat ∧ c.toNat ≤ 90 at capital
    omega
  · rfl

/-- Case folding brings nothing but the capitals to most letters. -/
theorem spelled_small {word spelled : Text} (same : Spelled word spelled)
    (plain : word.all (fun a => a != 's' && a != 'i' && a != 'k') = true) :
    spelled.map Text.toSmall = word := by
  induction same with
  | nil => rfl
  | cons here behind ih =>
    rename_i a c word spelled
    simp only [List.all_cons, Bool.and_eq_true, bne_iff_ne] at plain
    obtain ⟨⟨⟨noS, noI⟩, noK⟩, others⟩ := plain
    have small : Text.toSmall c = a := by
      simpa [Text.sameLetter, noS, noI, noK] using here
    rw [List.map_cons, small, ih others]

/-! ## Mentions -/

/-- A mention of the chapter with some digits: the word for it, blanks, and the digits. -/
inductive Mention : (digits mention : Text) → Prop
  | mk {word space digits : Text} (named : Spelled chapterWord word) (spaced : Blanks space)
      (numeral : Numeral digits) : Mention digits (word ++ (space ++ digits))

/-- A chapter is mentioned in a text. -/
def Mentions (text : Text) : Prop := ∃ digits mention, Mention digits mention ∧ mention <:+: text

/-- A text begins with a mention, and its digits go no further. -/
def Begins (text digits : Text) : Prop :=
  ∃ mention behind, Mention digits mention ∧ text = mention ++ behind ∧
    ∀ c ∈ behind.head?, Text.isDecimal c = false

/-- The first mention in a text has some digits. -/
inductive FirstMention : (text digits : Text) → Prop
  | here {text digits : Text} (begins : Begins text digits) : FirstMention text digits
  | behind {c : Char} {text digits : Text} (other : ∀ digits, ¬ Begins (c :: text) digits)
      (later : FirstMention text digits) : FirstMention (c :: text) digits

variable {text part digits mention : Text}

/-- What a part mentions is mentioned in the whole text. -/
theorem Mentions.mono (mentions : Mentions part) (inside : part <:+: text) : Mentions text := by
  obtain ⟨digits, mention, isMention, within⟩ := mentions
  exact ⟨digits, mention, isMention, within.trans inside⟩

/-- The letter that a mention begins with does not come again in it. -/
theorem Mention.head (isMention : Mention digits mention) :
    ∃ c tail, mention = c :: tail ∧ Text.toSmall c = 'c' ∧ 'c' ∉ tail.map Text.toSmall := by
  cases isMention with
  | mk named spaced numeral =>
    rename_i word space
    have small : word.map Text.toSmall = chapterWord := spelled_small named (by decide)
    cases word with
    | nil => cases small
    | cons c word =>
      obtain ⟨first, others⟩ := List.cons.inj small
      refine ⟨c, word ++ (space ++ digits), rfl, first, ?_⟩
      simp only [List.map_append, List.mem_append, not_or]
      refine ⟨?_, ?_, ?_⟩
      · rw [others]
        decide
      · intro mem
        obtain ⟨d, inside, same⟩ := List.mem_map.mp mem
        have blank := spaced.all d inside
        rw [Embed.toSmall_of_isBlank blank] at same
        rw [same] at blank
        cases blank
      · intro mem
        obtain ⟨d, inside, same⟩ := List.mem_map.mp mem
        have digit := numeral.all d inside
        rw [toSmall_of_isDecimal digit] at same
        rw [same] at digit
        exact absurd digit (by decide)

/-- Where a mention stands at the beginning, one stands there whose digits go no further. -/
theorem begins_of_prefix (isMention : Mention digits mention) (begins : mention <+: text) :
    ∃ more, Begins text more := by
  obtain ⟨rest, rfl⟩ := begins
  cases isMention with
  | mk named spaced numeral =>
    rename_i word space
    have longer : Numeral (digits ++ rest.takeWhile Text.isDecimal) :=
      ⟨List.append_ne_nil_of_left_ne_nil numeral.nonempty _,
        List.forall_mem_append.mpr ⟨numeral.all, fun c mem => List.mem_takeWhile_imp mem⟩⟩
    refine ⟨_, _, rest.dropWhile Text.isDecimal, .mk named spaced longer, ?_, ?_⟩
    · simp only [List.append_assoc, List.takeWhile_append_dropWhile]
    · intro c first
      simpa [Option.mem_def.mp first] using List.head?_dropWhile_not Text.isDecimal rest

/-- What a text begins with is mentioned in it. -/
theorem Begins.mentions (begins : Begins text digits) : Mentions text := by
  obtain ⟨mention, behind, isMention, rfl, -⟩ := begins
  exact ⟨digits, mention, isMention, (List.prefix_append _ _).isInfix⟩

/-- The first mention is one. -/
theorem FirstMention.mentions (first : FirstMention text digits) : Mentions text := by
  induction first with
  | here begins => exact begins.mentions
  | behind other later ih => exact ih.mono (List.suffix_cons _ _).isInfix

/-- No text begins with a mention behind another letter. -/
theorem not_begins {c : Char} (other : Text.toSmall c ≠ 'c') : ¬ Begins (c :: text) digits := by
  rintro ⟨mention, behind, isMention, same, -⟩
  obtain ⟨d, tail, rfl, small, -⟩ := isMention.head
  rw [(List.cons.inj same).1] at other
  exact other small

/-! ## The search for a mention -/

/-- The word, blanks and digits are read as a mention, up to something that is no digit. -/
theorem mention?_append {word space behind : Text} (named : Spelled chapterWord word)
    (spaced : Blanks space) (numeral : Numeral digits)
    (ends : ∀ c ∈ behind.head?, Text.isDecimal c = false) :
    mention? (word ++ (space ++ (digits ++ behind))) = some (digits, behind) := by
  have reads : Text.afterWord? Text.sameLetter chapterWord
      (word ++ (space ++ (digits ++ behind))) = some (space ++ (digits ++ behind)) :=
    Text.afterWord?_eq_some_iff.mpr ⟨word, named, rfl⟩
  obtain ⟨d, digits', rfl⟩ := List.exists_cons_of_ne_nil numeral.nonempty
  have passes : afterBlanks? (space ++ (d :: digits' ++ behind)) =
      some (d :: digits' ++ behind) := by
    apply afterBlanks?_append spaced
    rintro c ⟨⟩
    exact Text.not_isBlank_of_isDecimal (numeral.all d List.mem_cons_self)
  have stops : behind.takeWhile Text.isDecimal = [] ∧
      behind.dropWhile Text.isDecimal = behind := by
    cases behind with
    | nil => exact ⟨rfl, rfl⟩
    | cons c behind =>
      have digit : ¬ Text.isDecimal c = true := by simp [ends c rfl]
      exact ⟨List.takeWhile_cons_of_neg digit, List.dropWhile_cons_of_neg digit⟩
  have taken : (d :: digits' ++ behind).takeWhile Text.isDecimal = d :: digits' := by
    rw [List.takeWhile_append_of_pos numeral.all, stops.1, List.append_nil]
  have left : (d :: digits' ++ behind).dropWhile Text.isDecimal = behind := by
    rw [List.dropWhile_append_of_pos numeral.all, stops.2]
  simp only [mention?, reads, passes, taken, left, Option.bind_eq_bind, Option.bind_some]

/-- A mention is read exactly where a text begins with one. -/
theorem begins_iff : Begins text digits ↔ ∃ behind, mention? text = some (digits, behind) := by
  constructor
  · rintro ⟨mention, behind, isMention, rfl, ends⟩
    cases isMention with
    | mk named spaced numeral =>
      refine ⟨behind, ?_⟩
      rw [List.append_assoc, List.append_assoc]
      exact mention?_append named spaced numeral ends
  · rintro ⟨behind, found⟩
    obtain ⟨word, space, named, spaced, numeral, rfl⟩ := mention?_eq_some found
    have stands : word ++ (space ++ digits) <+: word ++ (space ++ (digits ++ behind)) :=
      ⟨behind, by simp only [List.append_assoc]⟩
    obtain ⟨more, mention, rest, isMention, same, ends⟩ :=
      begins_of_prefix (.mk named spaced numeral) stands
    cases isMention with
    | mk named' spaced' numeral' =>
      rw [same, List.append_assoc, List.append_assoc,
        mention?_append named' spaced' numeral' ends] at found
      obtain ⟨rfl, rfl⟩ := Prod.mk.inj (Option.some.inj found)
      rw [same]
      exact ⟨_, rest, .mk named' spaced' numeral', rfl, ends⟩

/-- The search finds the digits of the first mention. -/
theorem firstMention?_eq_some_iff : firstMention? text = some digits ↔ FirstMention text digits := by
  induction text with
  | nil =>
    refine iff_of_false (fun found => nomatch found) ?_
    rintro (begins | _)
    obtain ⟨mention, behind, isMention, same, -⟩ := begins
    obtain ⟨c, tail, rfl, -⟩ := isMention.head
    cases same
  | cons c text ih =>
    rw [firstMention?]
    split
    · rename_i found behind read
      have begins : Begins (c :: text) found := begins_iff.mpr ⟨behind, read⟩
      constructor
      · intro same
        cases same
        exact .here begins
      · rintro (other | ⟨other, later⟩)
        · obtain ⟨rest, again⟩ := begins_iff.mp other
          rw [read] at again
          exact congrArg some (Prod.mk.inj (Option.some.inj again)).1
        · exact absurd begins (other found)
    · rename_i nothing
      have other (digits : Text) : ¬ Begins (c :: text) digits := by
        intro begins
        obtain ⟨behind, read⟩ := begins_iff.mp begins
        rw [nothing] at read
        cases read
      rw [ih]
      constructor
      · exact fun later => .behind other later
      · rintro (begins | ⟨_, later⟩)
        · exact absurd begins (other digits)
        · exact later

/-- The search fails exactly where no chapter is mentioned. -/
theorem firstMention?_eq_none_iff : firstMention? text = none ↔ ¬ Mentions text := by
  constructor
  · rintro nothing ⟨digits, mention, isMention, before, behind, same⟩
    induction before generalizing text with
    | nil =>
      have stands : mention <+: text := ⟨behind, same⟩
      obtain ⟨more, begins⟩ := begins_of_prefix isMention stands
      rw [firstMention?_eq_some_iff.mpr (.here begins)] at nothing
      cases nothing
    | cons c before ih =>
      subst same
      simp only [List.cons_append] at nothing
      rw [firstMention?] at nothing
      split at nothing
      · cases nothing
      · exact ih nothing rfl
  · intro nowhere
    cases found : firstMention? text with
    | none => rfl
    | some digits => exact absurd (firstMention?_eq_some_iff.mp found).mentions nowhere

/-- A chapter is mentioned exactly if there is a first mention. -/
theorem mentions_iff : Mentions text ↔ ∃ digits, FirstMention text digits := by
  constructor
  · intro mentions
    cases found : firstMention? text with
    | none => exact absurd mentions (firstMention?_eq_none_iff.mp found)
    | some digits => exact ⟨digits, firstMention?_eq_some_iff.mp found⟩
  · rintro ⟨digits, first⟩
    exact first.mentions

/-! ## First mentions in longer texts -/

/-- A text without the letter that mentions begin with may stand in front. -/
theorem FirstMention.append_front {front : Text} (first : FirstMention text digits)
    (other : ∀ c ∈ front, Text.toSmall c ≠ 'c') : FirstMention (front ++ text) digits := by
  induction front with
  | nil => exact first
  | cons c front ih =>
    obtain ⟨here, behind⟩ := List.forall_mem_cons.mp other
    exact .behind (fun _ => not_begins here) (ih behind)

/-- A mention that goes beyond the end of a text has no other one of that text in it. -/
theorem begins_of_append_line {c : Char} {rest : Text} (mentions : Mentions text)
    (begins : Begins (c :: text ++ '\n' :: rest) digits) : ∃ more, Begins (c :: text) more := by
  obtain ⟨mention, behind, isMention, same, -⟩ := begins
  rcases List.append_eq_append_iff.mp same with ⟨beyond, rfl, -⟩ | ⟨inside, split, -⟩
  · -- The mention holds the whole text, so the other one would repeat its first letter.
    obtain ⟨number, other, isOther, within⟩ := mentions
    obtain ⟨d, tail, whole, -, once⟩ := isMention.head
    obtain ⟨e, otherTail, rfl, again, -⟩ := isOther.head
    have place : e ∈ tail := by
      rw [← (List.cons.inj whole).2]
      exact List.mem_append_left _ (within.subset List.mem_cons_self)
    exact absurd (again ▸ List.mem_map_of_mem place) once
  · exact begins_of_prefix isMention ⟨inside, split.symm⟩

/-- Further lines may follow. -/
theorem FirstMention.append_line (first : FirstMention text digits) (rest : Text) :
    FirstMention (text ++ '\n' :: rest) digits := by
  induction first with
  | here begins =>
    obtain ⟨mention, behind, isMention, rfl, ends⟩ := begins
    refine .here ⟨mention, behind ++ '\n' :: rest, isMention, List.append_assoc _ _ _, ?_⟩
    cases behind with
    | nil =>
      rintro c ⟨⟩
      decide
    | cons c behind => exact ends
  | behind other later ih =>
    refine .behind ?_ ih
    intro digits begins
    obtain ⟨more, own⟩ := begins_of_append_line later.mentions begins
    exact other more own

end Loremark.Spoiler
