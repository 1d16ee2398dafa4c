import Loremark.Text.Numeral
import Loremark.Proofs.Results
import Loremark.Proofs.Text.Lines
import Mathlib.Data.List.DropRight

/-!
# Numerals

The integers that texts write: padding, at most one sign, digits of any script with single
underscores between them, padding again. A text is read as an integer exactly if it is one of these
and has no more digits than are read (`readInt_eq_ok_iff`).
-/

set_option autoImplicit false

namespace Loremark.Text

/-! ## Characters -/

/-- A decimal digit is in none of the ranges of blanks and capitals. -/
theorem toNat_of_isDecimal {c : Char} (digit : isDecimal c = true) :
    32 < c.toNat ∧ (c.toNat < 65 ∨ 90 < c.toNat) ∧ c.toNat ≠ 0x85 ∧ c.toNat ≠ 0xA0 ∧
      c.toNat ≠ 0x1680 ∧ (c.toNat < 0x2000 ∨ 0x3000 < c.toNat) := by
  have apart : zeroDigits.all (fun first => decide (32 < first) &&
      (decide (first + 9 < 65) || decide (90 < first) && (decide (first + 9 < 0x85) ||
        decide (0xA0 < first) && (decide (first + 9 < 0x1680) ||
          decide (0x1680 < first) && (decide (first + 9 < 0x2000) ||
            decide (0x3000 < first)))))) = true := by
    decide
  rw [isDecimal, digitValue?, Option.isSome_map, List.find?_isSome] at digit
  obtain ⟨first, mem, within⟩ := digit
  have own := List.all_eq_true.mp apart first mem
  simp only [Bool.and_eq_true, Bool.or_eq_true, decide_eq_true_iff] at own within
  omega

/-- No digit is a blank. -/
theorem not_isBlank_of_isDecimal {c : Char} (digit : isDecimal c = true) : isBlank c = false := by
  have apart := toNat_of_isDecimal digit
  rw [Bool.eq_false_iff]
  intro blank
  simp only [isBlank, Bool.or_eq_true, Bool.and_eq_true, decide_eq_true_iff, beq_iff_eq] at blank
  omega

/-- No digit is padding. -/
theorem not_isPadding_of_isDecimal {c : Char} (digit : isDecimal c = true) :
    isPadding c = false := by
  rw [isPadding, not_isBlank_of_isDecimal digit, Bool.false_and]

/-- The numeral of a number has digits only. -/
theorem isDigit_of_mem_ofNat {n : Nat} {c : Char} (digit : c ∈ ofNat n) :
    isDigit c = true := by
  have standard : c.isDigit = true :=
    Nat.isDigit_of_mem_toDigits (by decide) (by decide) digit
  rw [Char.isDigit_iff_toNat] at standard
  rw [isDigit, Bool.and_eq_true, decide_eq_true_iff, decide_eq_true_iff, Char.le_def,
    Char.le_def, UInt32.le_iff_toNat_le, UInt32.le_iff_toNat_le]
  exact standard

/-- Numbers with the same numeral are the same. -/
theorem ofNat_injective : Function.Injective ofNat := by
  intro m n same
  rw [← Nat.ofDigitChars_ten_toDigits (n := m), ← Nat.ofDigitChars_ten_toDigits (n := n)]
  exact congrArg (fun digits => Nat.ofDigitChars 10 digits 0) same

/-! ## Runs of digits -/

/-- Digits with single underscores between them, and the digits alone. -/
inductive Grouped : Text → Text → Prop
  | last {c : Char} (digit : isDecimal c = true) : Grouped [c] [c]
  | next {c : Char} {written digits : Text} (digit : isDecimal c = true)
      (rest : Grouped written digits) : Grouped (c :: written) (c :: digits)
  | gap {c : Char} {written digits : Text} (digit : isDecimal c = true)
      (rest : Grouped written digits) : Grouped (c :: '_' :: written) (c :: digits)

/-- A digit is none of the characters that are no digits. -/
theorem ne_of_isDecimal {c d : Char} (digit : isDecimal c = true) (other : isDecimal d = false) :
    c ≠ d := by
  rintro rfl
  rw [digit] at other
  cases other

/-- A digit at the front is the first one of the run. -/
theorem digitRun?_cons {c : Char} (digit : isDecimal c = true) (text : Text) :
    digitRun? (c :: text) = (digitRun? text).map fun (digits, rest) => (c :: digits, rest) := by
  have notGap : c ≠ '_' := ne_of_isDecimal digit (by decide)
  rw [digitRun?.eq_def]
  split
  · contradiction
  · next same => exact absurd (List.cons.inj same).1 notGap
  · next same =>
    cases same
    rw [if_pos digit]

/-- An underscore in front of a digit is passed over. -/
theorem digitRun?_gap {c : Char} (digit : isDecimal c = true) (text : Text) :
    digitRun? ('_' :: c :: text) = digitRun? (c :: text) := by
  rw [digitRun?_cons digit, digitRun?, if_pos digit]

/-- Grouped digits begin with a digit. -/
theorem Grouped.exists_cons {written digits : Text} (grouped : Grouped written digits) :
    ∃ c text, written = c :: text ∧ isDecimal c = true := by
  cases grouped with
  | last digit | next digit | gap digit => exact ⟨_, _, rfl, digit⟩

/-- Grouped digits end with a digit. -/
theorem Grouped.exists_last {written digits : Text} (grouped : Grouped written digits) :
    ∃ text c, written = text ++ [c] ∧ isDecimal c = true := by
  induction grouped with
  | last digit => exact ⟨[], _, rfl, digit⟩
  | next _ _ ih =>
    obtain ⟨text, c, rfl, digit⟩ := ih
    exact ⟨_ :: text, c, rfl, digit⟩
  | gap _ _ ih =>
    obtain ⟨text, c, rfl, digit⟩ := ih
    exact ⟨_ :: '_' :: text, c, rfl, digit⟩

/-- Grouped digits are not empty. -/
theorem Grouped.ne_nil {written digits : Text} (grouped : Grouped written digits) :
    digits ≠ [] := by
  cases grouped <;> exact List.cons_ne_nil _ _

/-- Grouped digits are a run and leave nothing. -/
theorem Grouped.digitRun? {written digits : Text} (grouped : Grouped written digits) :
    Text.digitRun? written = some (digits, []) := by
  induction grouped with
  | last digit => rw [digitRun?_cons digit, Text.digitRun?, Option.map_some]
  | next digit _ ih => rw [digitRun?_cons digit, ih, Option.map_some]
  | gap digit rest ih =>
    obtain ⟨d, text, rfl, first⟩ := rest.exists_cons
    rw [digitRun?_cons digit, digitRun?_gap first, ih, Option.map_some]

/-- A digit in front of what may follow one. -/
theorem grouped_cons {c : Char} {text digits : Text} (digit : isDecimal c = true)
    (behind : (text = [] ∧ digits = []) ∨ Grouped text digits ∨
      ∃ written, text = '_' :: written ∧ Grouped written digits) :
    Grouped (c :: text) (c :: digits) := by
  rcases behind with ⟨rfl, rfl⟩ | rest | ⟨written, rfl, rest⟩
  · exact .last digit
  · exact .next digit rest
  · exact .gap digit rest

/-- A text that is a run of digits to its end: no digits at all, or a group, possibly behind an
underscore. -/
theorem grouped_of_digitRun? {text digits : Text} (run : digitRun? text = some (digits, [])) :
    (text = [] ∧ digits = []) ∨ Grouped text digits ∨
      ∃ written, text = '_' :: written ∧ Grouped written digits := by
  fun_induction digitRun? text generalizing digits with
  | case1 =>
    cases run
    exact .inl ⟨rfl, rfl⟩
  | case2 c text digit ih =>
    obtain ⟨⟨later, rest⟩, found, same⟩ := Option.map_eq_some_iff.mp run
    cases same
    exact .inr (.inr ⟨c :: text, rfl, grouped_cons digit (ih found)⟩)
  | case3 c text other => cases run
  | case4 c text notGap digit ih =>
    obtain ⟨⟨later, rest⟩, found, same⟩ := Option.map_eq_some_iff.mp run
    cases same
    exact .inr (.inl (grouped_cons digit (ih found)))
  | case5 c text notGap other gap => cases run
  | case6 c text notGap other otherMark => cases run

/-! ## Integers -/

/-- The integers that texts write, with no more digits than are read. -/
inductive Numeral : Text → Int → Prop
  | mk {front sign written digits back : Text} (padded : ∀ c ∈ front ++ back, isPadding c = true)
      (isSign : sign ∈ [[], ['+'], ['-']]) (grouped : Grouped written digits)
      (short : digits.length ≤ digitLimit) :
      Numeral (front ++ (sign ++ written) ++ back)
        (if sign = ['-'] then -(valueOfDigits digits : Int) else valueOfDigits digits)

/-- What is stripped off a text stands at its ends. -/
theorem exists_strip (isOuter : Char → Bool) (text : Text) :
    ∃ front back, text = front ++ strip isOuter text ++ back ∧
      ∀ c ∈ front ++ back, isOuter c = true := by
  refine ⟨text.takeWhile isOuter, ((text.dropWhile isOuter).reverse.takeWhile isOuter).reverse,
    ?_, ?_⟩
  · rw [strip, List.append_assoc, ← List.reverse_append, List.takeWhile_append_dropWhile,
      List.reverse_reverse, List.takeWhile_append_dropWhile]
  · intro c mem
    rw [List.mem_append, List.mem_reverse] at mem
    rcases mem with mem | mem <;> exact List.mem_takeWhile_imp mem

/-- What is stripped anyway can be put in front of a text. -/
theorem strip_append_left {isOuter : Char → Bool} {front : Text}
    (outer : ∀ c ∈ front, isOuter c = true) (text : Text) :
    strip isOuter (front ++ text) = strip isOuter text := by
  rw [strip, strip, List.dropWhile_append_of_pos outer]

/-- A sign in front of digits, without the padding around them. -/
theorem unpad_padded {front sign written digits back : Text}
    (padded : ∀ c ∈ front ++ back, isPadding c = true) (isSign : sign ∈ [[], ['+'], ['-']])
    (grouped : Grouped written digits) :
    unpad (front ++ (sign ++ written) ++ back) = sign ++ written := by
  obtain ⟨first, behind, begins, digit⟩ := grouped.exists_cons
  obtain ⟨before, last, ends, lastDigit⟩ := grouped.exists_last
  have starts : ∃ c behind, sign ++ written = c :: behind ∧ isPadding c = false := by
    simp only [List.mem_cons, List.not_mem_nil, or_false] at isSign
    rcases isSign with rfl | rfl | rfl
    · exact ⟨first, behind, begins, not_isPadding_of_isDecimal digit⟩
    · exact ⟨'+', written, rfl, rfl⟩
    · exact ⟨'-', written, rfl, rfl⟩
  obtain ⟨c, rest, whole, notPadding⟩ := starts
  have outerFront : ∀ c ∈ front, isPadding c = true := fun c mem =>
    padded c (List.mem_append_left back mem)
  have outerBack : ∀ c ∈ back, isPadding c = true := fun c mem =>
    padded c (List.mem_append_right front mem)
  rw [unpad, List.append_assoc, strip_append_left outerFront]
  refine strip_append ⟨rest, whole⟩ notPadding ⟨sign ++ before, ?_⟩
    (not_isPadding_of_isDecimal lastDigit) outerBack
  rw [ends, List.append_assoc]

/-- A sign is cut off, and it is at most one character. -/
theorem splitSign_eq (core : Text) :
    ∃ sign ∈ [[], ['+'], ['-']], core = sign ++ (splitSign core).2 ∧
      ((splitSign core).1 = true ↔ sign = ['-']) := by
  rw [splitSign.eq_def]
  split
  · exact ⟨['-'], by simp, rfl, by simp⟩
  · exact ⟨['+'], by simp, rfl, by simp⟩
  · exact ⟨[], by simp, rfl, by simp⟩

/-- A sign in front of grouped digits is cut off. -/
theorem splitSign_append {sign written digits : Text} (isSign : sign ∈ [[], ['+'], ['-']])
    (grouped : Grouped written digits) :
    splitSign (sign ++ written) = (decide (sign = ['-']), written) := by
  obtain ⟨first, behind, rfl, digit⟩ := grouped.exists_cons
  simp only [List.mem_cons, List.not_mem_nil, or_false] at isSign
  rcases isSign with rfl | rfl | rfl
  · rw [List.nil_append, splitSign.eq_def]
    split
    · next same => exact absurd (List.cons.inj same).1 (ne_of_isDecimal digit (by decide))
    · next same => exact absurd (List.cons.inj same).1 (ne_of_isDecimal digit (by decide))
    · rfl
  · rfl
  · rfl

/-- Digits are read as their value if there are not too many of them. -/
theorem readDigits_eq_ok_iff {digits : Text} {value : Nat} :
    readDigits digits = .ok value ↔ digits.length ≤ digitLimit ∧ value = valueOfDigits digits := by
  rw [readDigits]
  split
  · next long => simp [Nat.not_le.mpr long]
  · next short =>
    rw [Except.ok.injEq, eq_comm]
    exact (and_iff_right (Nat.le_of_not_lt short)).symm

/-- A text is read as an integer exactly if it writes it. -/
theorem readInt_eq_ok_iff {text : Text} {n : Int} : readInt text = .ok n ↔ Numeral text n := by
  constructor
  · intro read
    obtain ⟨front, back, whole, padded⟩ := exists_strip isPadding text
    obtain ⟨sign, isSign, core, negative⟩ := splitSign_eq (unpad text)
    rw [readInt] at read
    dsimp only at read
    split at read
    · cases read
    · cases read
    · cases read
    · next _ run rest someDigits found notGap =>
      obtain ⟨value, valueRead, read⟩ := bind_eq_ok_iff.mp read
      obtain ⟨short, rfl⟩ := readDigits_eq_ok_iff.mp valueRead
      split at read
      · next ended =>
        rw [List.isEmpty_iff.mp ended] at found
        have grouped : Grouped (splitSign (unpad text)).2 run := by
          rcases grouped_of_digitRun? found with ⟨-, none⟩ | grouped | ⟨written, gap, -⟩
          · exact absurd none someDigits
          · exact grouped
          · exact absurd gap (notGap written)
        cases read
        have numeral := Numeral.mk padded isSign grouped short
        rw [← core] at numeral
        simp only [negative]
        rw [whole]
        exact numeral
      · cases read
  · rintro ⟨padded, isSign, grouped, short⟩
    rename_i front sign written digits back
    obtain ⟨c, behind, begins, digit⟩ := grouped.exists_cons
    have notGap (rest : Text) : written ≠ '_' :: rest := by
      rw [begins]
      exact fun same => ne_of_isDecimal digit (by decide) (List.cons.inj same).1
    rw [readInt, unpad_padded padded isSign grouped, splitSign_append isSign grouped]
    dsimp only
    rw [grouped.digitRun?]
    split
    · next gap _ => exact absurd rfl (notGap _)
    · next none => cases none
    · next none => cases none; exact absurd rfl grouped.ne_nil
    · next same =>
      cases same
      rw [readDigits_eq_ok_iff.mpr ⟨short, rfl⟩]
      simp only [decide_eq_true_eq]
      rfl

end Loremark.Text
