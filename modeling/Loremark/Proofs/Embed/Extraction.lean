import Loremark.Proofs.Embed.Token
import Mathlib.Data.List.Nodup
import Mathlib.Data.List.TakeWhile

/-!
# What extraction finds

`Scanned` tells what the scan of a text does, one constructor for each step: a character is kept, an
embed with the number zero is kept, or an embed is cut out and a token takes its place. From it
follow the facts about extracted texts: an embed says what its source spells
(`Descriptor.SpelledBy`), and the tokens of a text share a prefix that does not occur in the text
and are numbered in order (`Extracted`).
-/

set_option autoImplicit false

namespace Loremark.Kind

/-- A word is read as a kind exactly if it is the name of that kind. -/
theorem ofName?_eq_some_iff {word : Text} {kind : Kind} :
    ofName? word = some kind ↔ word = kind.name := by
  constructor
  · intro found
    have named := List.find?_some found
    exact (beq_iff_eq.mp named).symm
  · rintro rfl
    cases kind <;> decide

end Loremark.Kind

namespace Loremark.Embed

/-! ## Reading one embed -/

/-- What is read as a kind is its name in front of a colon. -/
theorem kind?_eq_some {text rest : Text} {kind : Kind} (found : kind? text = some (kind, rest)) :
    text = kind.name ++ ':' :: rest := by
  obtain ⟨found, -, here⟩ := List.exists_of_findSome?_eq_some found
  obtain ⟨behind, begins, same⟩ := Option.map_eq_some_iff.mp here
  obtain ⟨rfl, rfl⟩ := Prod.mk.inj same
  simpa using Text.after?_eq_some_iff.mp begins

/-- What is read behind the digits: perhaps a label, which is not empty and ends at the first
closing brace, and then the closing braces. -/
theorem labelled?_eq_some {text rest : Text} {label : Option Text}
    (found : labelled? text = some (label, rest)) :
    text = (label.elim [] (':' :: ·)) ++ (closing ++ rest) ∧
      ∀ words ∈ label, words ≠ [] ∧ '\x7d' ∉ words := by
  unfold labelled? at found
  split at found
  · rename_i text
    split at found
    · cases found
    · rename_i words nonempty
      obtain ⟨behind, closes, same⟩ := Option.map_eq_some_iff.mp found
      obtain ⟨rfl, rfl⟩ := Prod.mk.inj same
      have split := List.takeWhile_append_dropWhile (p := fun c => c != '\x7d') (l := text)
      rw [Text.after?_eq_some_iff.mp closes] at split
      refine ⟨congrArg (':' :: ·) split.symm, ?_⟩
      intro words same
      rw [← Option.some.inj same]
      refine ⟨fun empty => nonempty empty, ?_⟩
      intro brace
      simpa using List.mem_takeWhile_imp brace
  · obtain ⟨behind, closes, same⟩ := Option.map_eq_some_iff.mp found
    obtain ⟨rfl, rfl⟩ := Prod.mk.inj same
    refine ⟨?_, by simp⟩
    rw [Option.elim_none, List.nil_append]
    exact Text.after?_eq_some_iff.mp closes

/-- Embeds as they can be written: the number has digits of ASCII, and a label is not empty and
holds no closing brace. -/
structure Written.WellFormed (w : Written) : Prop where
  digits_ne : w.digits ≠ []
  digits : ∀ c ∈ w.digits, Text.isDigit c = true
  label : ∀ words ∈ w.label, words ≠ [] ∧ '\x7d' ∉ words

/-- An embed that is read at the beginning of a text is written there. -/
theorem match?_eq_some {text rest : Text} {w : Written} (found : match? text = some (w, rest)) :
    text = w.toText ++ rest ∧ w.WellFormed := by
  unfold match? at found
  obtain ⟨inner, opens, found⟩ := Option.bind_eq_some_iff.mp found
  obtain ⟨⟨kind, behind⟩, named, found⟩ := Option.bind_eq_some_iff.mp found
  dsimp only at found
  split at found
  · cases found
  · rename_i digits nonempty
    obtain ⟨⟨label, after⟩, labelled, same⟩ := Option.bind_eq_some_iff.mp found
    obtain ⟨rfl, rfl⟩ := Prod.mk.inj (Option.some.inj same)
    obtain ⟨tail, labels⟩ := labelled?_eq_some labelled
    refine ⟨?_, fun empty => nonempty empty, fun c digit => List.mem_takeWhile_imp digit, labels⟩
    have split : behind = behind.takeWhile Text.isDigit ++
        (label.elim [] (':' :: ·) ++ (closing ++ after)) := by
      rw [← tail, List.takeWhile_append_dropWhile]
    calc text = opening ++ (kind.name ++ ':' :: behind) := by
          rw [Text.after?_eq_some_iff.mp opens, kind?_eq_some named]
      _ = opening ++ (kind.name ++ ':' :: (behind.takeWhile Text.isDigit ++
          (label.elim [] (':' :: ·) ++ (closing ++ after)))) := by rw [← split]
      _ = _ := by rw [Written.toText]; cases label <;> simp

/-! ## Numbers and labels -/

/-- The value of a digit of ASCII is its distance from zero. -/
theorem digitValue?_eq {c : Char} (digit : Text.isDigit c = true) :
    Text.digitValue? c = some (c.toNat - '0'.toNat) := by
  rw [Text.isDigit, Bool.and_eq_true, decide_eq_true_iff, decide_eq_true_iff, Char.le_def,
    Char.le_def, UInt32.le_iff_toNat_le, UInt32.le_iff_toNat_le] at digit
  have low : 48 ≤ c.toNat := digit.1
  have high : c.toNat ≤ 57 := digit.2
  have first : (decide (48 ≤ c.toNat) && decide (c.toNat < 48 + 10)) = true := by
    rw [Bool.and_eq_true, decide_eq_true_iff, decide_eq_true_iff]
    omega
  rw [Text.digitValue?, Text.zeroDigits, List.find?_cons, first]
  rfl

/-- A numeral of ASCII digits is read in base ten. -/
theorem valueOfDigits_eq {digits : Text} (all : ∀ c ∈ digits, Text.isDigit c = true) :
    Text.valueOfDigits digits = Nat.ofDigitChars 10 digits 0 := by
  have from_ (value : Nat) :
      digits.foldl (fun value c => value * 10 + (Text.digitValue? c).getD 0) value =
        Nat.ofDigitChars 10 digits value := by
    induction digits generalizing value with
    | nil => rfl
    | cons c digits ih =>
      rw [List.foldl_cons, digitValue?_eq (all c List.mem_cons_self), Option.getD_some,
        Nat.ofDigitChars_cons, Nat.mul_comm]
      exact ih (fun d digit => all d (List.mem_cons_of_mem c digit)) _
  exact from_ 0

/-- Nothing is left of a text without the blanks at its ends exactly if it is blank. -/
theorem trim_eq_nil_iff (text : Text) : Text.trim text = [] ↔ Text.allBlank text = true := by
  have start (text : Text) : text.dropWhile Text.isBlank = [] ↔ text.all Text.isBlank = true := by
    rw [List.dropWhile_eq_nil_iff, List.all_eq_true]
  rw [Text.trim, Text.trimEnd, List.reverse_eq_nil_iff, start, List.all_reverse, Text.trimStart,
    Text.allBlank]
  constructor
  · intro rest
    rw [List.all_eq_true] at rest ⊢
    intro c mem
    rw [← List.takeWhile_append_dropWhile (p := Text.isBlank) (l := text)] at mem
    rcases List.mem_append.mp mem with leading | behind
    · exact List.mem_takeWhile_imp leading
    · exact rest c behind
  · intro all
    rw [(start text).mpr all]
    rfl

/-- The label that is shown: nothing for a missing or blank one, else the label without the blanks
around it. -/
theorem shownLabel_eq (label : Option Text) :
    shownLabel label = label.bind fun words =>
      if Text.allBlank words then none else some (Text.trim words) := by
  cases label with
  | none => rfl
  | some words =>
    by_cases blank : Text.allBlank words = true
    · rw [shownLabel, Option.map_some, (trim_eq_nil_iff words).mpr blank]
      simp [blank]
    · have some_left : Text.trim words ≠ [] := fun nil => blank ((trim_eq_nil_iff words).mp nil)
      simp only [shownLabel, Option.map_some, Option.bind_some, blank]
      split
      · rename_i nil
        exact absurd (Option.some.inj nil) some_left
      · rfl

/-! ## The scan -/

/-- What becomes of an embed that is cut out. -/
def Written.descriptor (w : Written) (start : Text) (index entity : Nat) : Descriptor where
  index
  kind := w.kind
  entity
  label := shownLabel w.label
  token := tokenOf start index
  source := w.toText

/-- The scan of a text, whose next embed has the number `index`: what the text is rewritten to, and
the embeds that are cut out. -/
inductive Scanned (start : Text) : (index : Nat) → (text rewritten : Text) → List Descriptor → Prop
  | done (index : Nat) : Scanned start index [] [] []
  /-- No embed begins here. -/
  | keep {index : Nat} {text rewritten : Text} {embeds : List Descriptor} (c : Char)
      (plain : match? (c :: text) = none) (behind : Scanned start index text rewritten embeds) :
      Scanned start index (c :: text) (c :: rewritten) embeds
  /-- An embed with the number zero stays as it is. -/
  | zero {index : Nat} {text rewritten : Text} {embeds : List Descriptor} (w : Written)
      (found : match? (w.toText ++ text) = some (w, text))
      (number : Text.readDigits w.digits = .ok 0)
      (behind : Scanned start index text rewritten embeds) :
      Scanned start index (w.toText ++ text) (w.toText ++ rewritten) embeds
  /-- A token takes the place of an embed. -/
  | cut {index : Nat} {text rewritten : Text} {embeds : List Descriptor} (w : Written) (n : Nat)
      (found : match? (w.toText ++ text) = some (w, text))
      (number : Text.readDigits w.digits = .ok (n + 1))
      (behind : Scanned start (index + 1) text rewritten embeds) :
      Scanned start index (w.toText ++ text) (tokenOf start index ++ rewritten)
        (w.descriptor start index (n + 1) :: embeds)

/-- An embed is written with an opening brace in front. -/
theorem Written.toText_eq_cons (w : Written) : ∃ tail, w.toText = '\x7b' :: tail := by
  rw [Written.toText, opening]
  exact ⟨_, rfl⟩

/-- The characters of an embed behind the first one are those that the scan skips. -/
theorem drop_source {c : Char} {text rest : Text} {w : Written}
    (split : c :: text = w.toText ++ rest) : text.drop (w.toText.length - 1) = rest := by
  obtain ⟨tail, source⟩ := w.toText_eq_cons
  rw [source, List.cons_append] at split
  rw [source, (List.cons.inj split).2, List.length_cons, Nat.add_sub_cancel, List.drop_left]

/-- What the scan gives is a scan of the characters that it does not skip. -/
theorem scan_scanned {start : Text} (text : Text) {index skip : Nat} {p : Parsed}
    (ok : scan start index skip text = .ok p) :
    Scanned start index (text.drop skip) p.rewritten p.embeds := by
  induction text generalizing index skip p with
  | nil =>
    have empty : p = ⟨[], []⟩ := by
      cases skip <;> exact (Except.ok.inj ok).symm
    rw [empty, List.drop_nil]
    exact .done index
  | cons c text ih =>
    cases skip with
    | succ skip => exact ih ok
    | zero =>
      rw [List.drop_zero]
      rw [scan] at ok
      split at ok
      · rename_i plain
        cases behind : scan start index 0 text with
        | error cause => rw [behind] at ok; cases ok
        | ok rest =>
          rw [behind] at ok
          obtain rfl : rest.push c = p := Except.ok.inj ok
          exact .keep c plain (ih behind)
      · rename_i w rest found
        obtain ⟨split, -⟩ := match?_eq_some found
        have skipped := drop_source split
        rw [split] at found ⊢
        cases number : Text.readDigits w.digits with
        | error cause => rw [number] at ok; cases ok
        | ok entity =>
          rw [number] at ok
          -- An embed of the number zero is kept as it was typed.
          cases entity with
          | zero =>
            cases behind : scan start index (w.toText.length - 1) text with
            | error cause => simp [behind, bind, Except.bind] at ok
            | ok later =>
              have same : { later with rewritten := w.toText ++ later.rewritten } = p := by
                simpa [behind, bind, Except.bind, pure, Except.pure] using ok
              subst same
              exact .zero w found number (skipped ▸ ih behind)
          | succ n =>
            cases behind : scan start (index + 1) (w.toText.length - 1) text with
            | error cause => simp [behind, bind, Except.bind] at ok
            | ok later =>
              have same : (⟨tokenOf start index ++ later.rewritten,
                  w.descriptor start index (n + 1) :: later.embeds⟩ : Parsed) = p := by
                simpa [behind, bind, Except.bind, pure, Except.pure, Written.descriptor] using ok
              subst same
              exact .cut w n found number (skipped ▸ ih behind)

/-- A text without two opening braces in a row is kept as it is. -/
theorem scanned_of_not_opening {start : Text} (index : Nat) {text : Text}
    (free : ¬ opening <:+: text) : Scanned start index text text [] := by
  induction text with
  | nil => exact .done index
  | cons c text ih =>
    rw [List.infix_cons_iff, not_or] at free
    have plain : match? (c :: text) = none := by
      rw [match?, Text.after?_eq_none_iff.mpr free.1]
      rfl
    exact .keep c plain (ih free.2)

/-! ## Extracted texts -/

/-- What an embed says is what the digits and the label between its braces spell. -/
structure Descriptor.SpelledBy (d : Descriptor) (digits : Text) (label : Option Text) : Prop where
  source : d.source = (Written.mk d.kind digits label).toText
  wellFormed : (Written.mk d.kind digits label).WellFormed
  entity : d.entity = Nat.ofDigitChars 10 digits 0
  positive : 0 < d.entity
  label : d.label = label.bind fun words =>
    if Text.allBlank words then none else some (Text.trim words)

/-- Every embed that is cut out says what its source spells. -/
theorem Scanned.spelledBy {start text rewritten : Text} {index : Nat} {embeds : List Descriptor}
    (scanned : Scanned start index text rewritten embeds) :
    ∀ d ∈ embeds, ∃ digits label, d.SpelledBy digits label := by
  induction scanned with
  | done index => simp
  | keep c plain behind ih => exact ih
  | zero w found number behind ih => exact ih
  | cut w n found number behind ih =>
    intro d mem
    rcases List.mem_cons.mp mem with rfl | later
    · obtain ⟨-, wellFormed⟩ := match?_eq_some found
      have value : n + 1 = Nat.ofDigitChars 10 w.digits 0 :=
        (Text.readDigits_eq_ok_iff.mp number).2.trans (valueOfDigits_eq wellFormed.digits)
      refine ⟨w.digits, w.label, rfl, wellFormed, ?_, ?_, shownLabel_eq w.label⟩
      · rw [← value]
        rfl
      · exact Int.natCast_pos.mpr (Nat.succ_pos n)
    · exact ih d later

/-- The embeds that are cut out are numbered in order, and their tokens follow from the numbers. -/
theorem Scanned.numbered {start text rewritten : Text} {index : Nat} {embeds : List Descriptor}
    (scanned : Scanned start index text rewritten embeds) :
    embeds.map Descriptor.index = List.range' index embeds.length ∧
      ∀ d ∈ embeds, d.token = tokenOf start d.index := by
  induction scanned with
  | done index => simp
  | keep c plain behind ih => exact ih
  | zero w found number behind ih => exact ih
  | cut w n found number behind ih =>
    obtain ⟨numbers, tokens⟩ := ih
    constructor
    · rw [List.map_cons, numbers, List.length_cons, List.range'_succ]
      rfl
    · intro d mem
      rcases List.mem_cons.mp mem with rfl | later
      · rfl
      · exact tokens d later

/-- Every embed that is cut out stands in the text. -/
theorem Scanned.source_infix {start text rewritten : Text} {index : Nat} {embeds : List Descriptor}
    (scanned : Scanned start index text rewritten embeds) : ∀ d ∈ embeds, d.source <:+: text := by
  induction scanned with
  | done index => simp
  | keep c plain behind ih => exact fun d mem => List.infix_cons (ih d mem)
  | zero w found number behind ih =>
    exact fun d mem => (ih d mem).trans (List.suffix_append _ _).isInfix
  | cut w n found number behind ih =>
    intro d mem
    rcases List.mem_cons.mp mem with rfl | later
    · exact (List.prefix_append _ _).isInfix
    · exact (ih d later).trans (List.suffix_append _ _).isInfix

/-- A text whose embeds have been replaced by tokens with a prefix that does not occur in it. -/
structure Extracted (start text : Text) (p : Parsed) : Prop where
  salted : ∃ salt, start = saltedPrefix salt
  fresh : ¬ start <:+: text
  scanned : Scanned start 0 text p.rewritten p.embeds

/-- What extraction gives is an extracted text. -/
theorem extracted_of_extract {text : Text} {p : Parsed} (ok : extract text = .ok p) :
    Extracted (freshPrefix text) text p := by
  obtain ⟨salt, found, fresh⟩ := freshPrefix_not_infix text
  refine ⟨⟨salt, found⟩, found ▸ fresh, ?_⟩
  rw [extract] at ok
  split at ok
  · simpa using scan_scanned text ok
  · rename_i free
    obtain rfl : ⟨text, []⟩ = p := Except.ok.inj ok
    exact scanned_of_not_opening 0 fun opens => free (Text.occurs_iff.mpr opens)

namespace Extracted

variable {start text : Text} {p : Parsed}

/-- What an extraction puts in the place of an embed looks like a token. -/
theorem isToken (extracted : Extracted start text p) {d : Descriptor} (mem : d ∈ p.embeds) :
    IsToken d.token := by
  obtain ⟨salt, rfl⟩ := extracted.salted
  rw [extracted.scanned.numbered.2 d mem]
  exact isToken_tokenOf salt d.index

/-- The numbers of the embeds grow. -/
theorem pairwise_index (extracted : Extracted start text p) :
    p.embeds.Pairwise fun d e => d.index < e.index := by
  rw [← List.pairwise_map (f := Descriptor.index) (R := (· < ·)), extracted.scanned.numbered.1]
  exact List.pairwise_lt_range'

/-- Two embeds whose tokens begin one text are the same. -/
theorem eq_of_begins (extracted : Extracted start text p) {d e : Descriptor}
    (mem : d ∈ p.embeds) (other : e ∈ p.embeds) {place : Text} (begins : d.token <+: place)
    (otherBegins : e.token <+: place) : d = e := by
  obtain ⟨-, tokens⟩ := extracted.scanned.numbered
  rw [tokens d mem] at begins
  rw [tokens e other] at otherBegins
  have distinct : (p.embeds.map Descriptor.index).Nodup := by
    rw [extracted.scanned.numbered.1]
    exact List.nodup_range'
  exact List.inj_on_of_nodup_map distinct mem other
    (index_eq_of_begins begins otherBegins)

end Extracted

end Loremark.Embed
