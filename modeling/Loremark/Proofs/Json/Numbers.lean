import Loremark.Json.Read
import Loremark.Proofs.Text.Numerals
import Loremark.Proofs.Text.Occurrence

/-!
# Numbers of JSON texts

A number is written with a sign or without one, with digits of which the first one is no zero but
where it is the only one, and with a fraction and an exponent that may be missing (`Number`). It is
an integer if both are missing. A run of characters is read as the number that it begins with
(`readNumber?_sound`), and a number is read to its end (`readNumber?_complete`).
-/

set_option autoImplicit false

namespace Loremark.Json

/-! ## Parts -/

/-- Digits one after another, and at least one. -/
def IsDigits (text : Text) : Prop :=
  text ≠ [] ∧ ∀ c ∈ text, Text.isDigit c = true

/-- The digits in front of a point: zero alone, or digits that do not begin with it. -/
def IsWhole (text : Text) : Prop :=
  IsDigits text ∧ (text.head? = some '0' → text = ['0'])

/-- A fraction, or nothing. -/
inductive IsFraction : Text → Prop
  | none : IsFraction []
  | point {digits : Text} (isDigits : IsDigits digits) : IsFraction ('.' :: digits)

/-- An exponent, or nothing. -/
inductive IsExponent : Text → Prop
  | none : IsExponent []
  | letter {e : Char} {sign digits : Text} (isLetter : e = 'e' ∨ e = 'E')
      (isSign : sign ∈ [[], ['+'], ['-']]) (isDigits : IsDigits digits) :
      IsExponent (e :: (sign ++ digits))

/-- A number and its value. -/
inductive Number : Text → Value → Prop
  | integer {sign whole : Text} {n : Int} (isSign : sign ∈ [[], ['-']]) (isWhole : IsWhole whole)
      (numeral : Text.Numeral (sign ++ whole) n) : Number (sign ++ whole) (.int n)
  | real {sign whole fraction exponent : Text} (isSign : sign ∈ [[], ['-']])
      (isWhole : IsWhole whole) (isFraction : IsFraction fraction)
      (isExponent : IsExponent exponent) (notInteger : fraction ≠ [] ∨ exponent ≠ []) :
      Number (sign ++ whole ++ fraction ++ exponent)
        (.float ((Decimal.read? (sign ++ whole ++ fraction ++ exponent)).getD 0))

/-! ## Reading the parts -/

/-- A run of digits that is not empty consists of digits. -/
theorem isDigits_takeWhile {text : Text} (some : text.takeWhile Text.isDigit ≠ []) :
    IsDigits (text.takeWhile Text.isDigit) :=
  ⟨some, fun _ mem => List.mem_takeWhile_imp mem⟩

/-- Digits begin with a digit. -/
theorem IsDigits.exists_cons {digits : Text} (isDigits : IsDigits digits) :
    ∃ c more, digits = c :: more ∧ Text.isDigit c = true := by
  obtain ⟨some, all⟩ := isDigits
  cases digits with
  | nil => exact absurd rfl some
  | cons c more => exact ⟨c, more, rfl, all c List.mem_cons_self⟩

/-- The fraction that a text begins with is one, and nothing is lost. -/
theorem fractionPart_sound (text : Text) :
    text = (fractionPart text).1 ++ (fractionPart text).2 ∧ IsFraction (fractionPart text).1 := by
  rw [fractionPart.eq_def]
  split
  · next c text =>
    split
    · next digit =>
      have taken : (c :: text).takeWhile Text.isDigit = c :: text.takeWhile Text.isDigit :=
        List.takeWhile_cons_of_pos digit
      refine ⟨?_, .point (taken ▸ isDigits_takeWhile (by rw [taken]; exact List.cons_ne_nil _ _))⟩
      rw [List.cons_append, List.cons_append, List.takeWhile_append_dropWhile]
    · exact ⟨rfl, .none⟩
  · exact ⟨rfl, .none⟩

/-- A fraction in front of something that is no part of it is taken as a whole. -/
theorem fractionPart_append {fraction rest : Text} (isFraction : IsFraction fraction)
    (stops : ∀ c, rest.head? = some c → Text.isDigit c = false ∧ c ≠ '.') :
    fractionPart (fraction ++ rest) = (fraction, rest) := by
  cases isFraction with
  | none =>
    rw [List.nil_append, fractionPart.eq_def]
    split
    · exact absurd rfl (stops '.' rfl).2
    · rfl
  | @point digits isDigits =>
    obtain ⟨taken, dropped⟩ := Text.span_append isDigits.2 fun c head => (stops c head).1
    obtain ⟨c, more, rfl, digit⟩ := isDigits.exists_cons
    rw [List.cons_append, List.takeWhile_cons_of_pos digit, List.cons.injEq] at taken
    rw [List.cons_append, List.dropWhile_cons_of_pos digit] at dropped
    rw [List.cons_append, List.cons_append, fractionPart, if_pos digit, taken.2, dropped]

/-- The sign of an exponent, and what follows. -/
def splitExponentSign : Text → Text × Text
  | '+' :: more => (['+'], more)
  | '-' :: more => (['-'], more)
  | more => ([], more)

/-- An exponent is a letter, a sign or none, and at least one digit. -/
theorem exponentPart_eq {e : Char} (rest : Text) :
    exponentPart (e :: rest) =
      if e == 'e' || e == 'E' then
        match (splitExponentSign rest).2.takeWhile Text.isDigit with
        | [] => ([], e :: rest)
        | written =>
          (e :: (splitExponentSign rest).1 ++ written,
            (splitExponentSign rest).2.dropWhile Text.isDigit)
      else ([], e :: rest) := rfl

/-- The sign of an exponent is plus, minus or none, and nothing is lost. -/
theorem splitExponentSign_sound (text : Text) :
    text = (splitExponentSign text).1 ++ (splitExponentSign text).2 ∧
      (splitExponentSign text).1 ∈ [[], ['+'], ['-']] := by
  rw [splitExponentSign.eq_def]
  split <;> simp

/-- A sign in front of digits is told apart. -/
theorem splitExponentSign_append {sign digits : Text} (isSign : sign ∈ [[], ['+'], ['-']])
    (isDigits : IsDigits digits) : splitExponentSign (sign ++ digits) = (sign, digits) := by
  obtain ⟨c, more, rfl, digit⟩ := isDigits.exists_cons
  have notSign (d : Char) (other : Text.isDigit d = false) : c ≠ d := by
    rintro rfl
    rw [digit] at other
    cases other
  simp only [List.mem_cons, List.not_mem_nil, or_false] at isSign
  rcases isSign with rfl | rfl | rfl
  · rw [List.nil_append, splitExponentSign.eq_def]
    split
    · next same => exact absurd (List.cons.inj same).1 (notSign '+' (by decide))
    · next same => exact absurd (List.cons.inj same).1 (notSign '-' (by decide))
    · rfl
  · rfl
  · rfl

/-- The exponent that a text begins with is one, and nothing is lost. -/
theorem exponentPart_sound (text : Text) :
    text = (exponentPart text).1 ++ (exponentPart text).2 ∧ IsExponent (exponentPart text).1 := by
  cases text with
  | nil => exact ⟨rfl, .none⟩
  | cons e rest =>
    obtain ⟨whole, isSign⟩ := splitExponentSign_sound rest
    rw [exponentPart_eq]
    split
    · next isLetter =>
      rw [Bool.or_eq_true, beq_iff_eq, beq_iff_eq] at isLetter
      split
      · exact ⟨rfl, .none⟩
      · next written some =>
        refine ⟨?_, .letter isLetter isSign (isDigits_takeWhile some)⟩
        rw [List.cons_append, List.cons_append, List.append_assoc,
          List.takeWhile_append_dropWhile, ← whole]
    · exact ⟨rfl, .none⟩

/-- An exponent is taken to its end. -/
theorem exponentPart_complete {exponent : Text} (isExponent : IsExponent exponent) :
    exponentPart exponent = (exponent, []) := by
  cases isExponent with
  | none => rfl
  | @letter e sign digits isLetter isSign isDigits =>
    have isMark : (e == 'e' || e == 'E') = true := by simpa using isLetter
    have taken : digits.takeWhile Text.isDigit = digits :=
      List.takeWhile_eq_self_iff.mpr isDigits.2
    have dropped : digits.dropWhile Text.isDigit = [] := List.dropWhile_eq_nil_iff.mpr isDigits.2
    rw [exponentPart_eq, if_pos isMark, splitExponentSign_append isSign isDigits]
    dsimp only
    rw [taken, dropped]
    split
    · exact absurd rfl isDigits.1
    · rfl

/-! ## Numbers -/

/-- The sign of a number, and what follows. -/
def splitMinus : Text → Text × Text
  | '-' :: rest => (['-'], rest)
  | rest => ([], rest)

/-- The digits in front of a point that a text begins with. -/
def wholePart : Text → Text
  | '0' :: _ => ['0']
  | digits => digits.takeWhile Text.isDigit

/-- The value of the parts of a number. -/
def numberOfParts (sign whole fraction exponent : Text) : Except Text.NumeralError Value :=
  if fraction.isEmpty && exponent.isEmpty then (Text.readInt (sign ++ whole)).map .int
  else .ok (.float ((Decimal.read? (sign ++ whole ++ fraction ++ exponent)).getD 0))

/-- A number is read part by part. -/
theorem readNumber?_eq (text : Text) :
    readNumber? text =
      let (sign, unsigned) := splitMinus text
      let whole := wholePart unsigned
      if whole.isEmpty then none
      else
        let (fraction, behind) := fractionPart (unsigned.drop whole.length)
        let (exponent, rest) := exponentPart behind
        some (numberOfParts sign whole fraction exponent, rest) := rfl

/-- The sign of a number is minus or none, and nothing is lost. -/
theorem splitMinus_sound (text : Text) :
    text = (splitMinus text).1 ++ (splitMinus text).2 ∧ (splitMinus text).1 ∈ [[], ['-']] := by
  rw [splitMinus.eq_def]
  split <;> simp

/-- A sign in front of digits is told apart from them. -/
theorem splitMinus_append {sign whole : Text} (isSign : sign ∈ [[], ['-']])
    (isWhole : IsWhole whole) (rest : Text) :
    splitMinus (sign ++ (whole ++ rest)) = (sign, whole ++ rest) := by
  obtain ⟨c, more, rfl, digit⟩ := isWhole.1.exists_cons
  simp only [List.mem_cons, List.not_mem_nil, or_false] at isSign
  rcases isSign with rfl | rfl
  · rw [List.nil_append, List.cons_append, splitMinus.eq_def]
    split
    · next same =>
      cases same
      cases digit
    · rfl
  · rfl

/-- Digits that do not begin with zero are taken together. -/
theorem wholePart_cons {c : Char} (notZero : c ≠ '0') (text : Text) :
    wholePart (c :: text) = (c :: text).takeWhile Text.isDigit := by
  rw [wholePart.eq_def]
  split
  · next same => exact absurd (List.cons.inj same).1 notZero
  · rfl

/-- The digits in front of a point are as they should be, and nothing is lost. -/
theorem wholePart_sound {text : Text} (some : wholePart text ≠ []) :
    IsWhole (wholePart text) ∧ text = wholePart text ++ text.drop (wholePart text).length := by
  rcases text with _ | ⟨c, text⟩
  · exact absurd rfl some
  · by_cases zero : c = '0'
    · subst zero
      have zeroDigit : ∀ c ∈ ['0'], Text.isDigit c = true := List.forall_mem_singleton.mpr rfl
      exact ⟨⟨⟨List.cons_ne_nil _ _, zeroDigit⟩, fun _ => rfl⟩, rfl⟩
    · rw [wholePart_cons zero] at some ⊢
      refine ⟨⟨isDigits_takeWhile some, ?_⟩, ?_⟩
      · intro head
        rw [List.takeWhile_cons] at head
        split at head
        · exact absurd (Option.some.inj head) zero
        · cases head
      · exact (List.prefix_iff_eq_append.mp (List.takeWhile_prefix _)).symm

/-- The digits in front of a point are taken as a whole. -/
theorem wholePart_append {whole rest : Text} (isWhole : IsWhole whole)
    (stops : ∀ c, rest.head? = some c → Text.isDigit c = false) :
    wholePart (whole ++ rest) = whole := by
  obtain ⟨isDigits, zero⟩ := isWhole
  obtain ⟨c, more, rfl, -⟩ := isDigits.exists_cons
  rw [wholePart.eq_def]
  split
  · next same =>
    obtain ⟨rfl, -⟩ := List.cons.inj same
    exact (zero rfl).symm
  · exact (Text.span_append isDigits.2 stops).1

/-- The parts of a number give a value that they write. -/
theorem numberOfParts_sound {sign whole fraction exponent : Text} {value : Value}
    (isSign : sign ∈ [[], ['-']]) (isWhole : IsWhole whole) (isFraction : IsFraction fraction)
    (isExponent : IsExponent exponent)
    (made : numberOfParts sign whole fraction exponent = .ok value) :
    Number (sign ++ whole ++ fraction ++ exponent) value := by
  rw [numberOfParts] at made
  split at made
  · next none =>
    rw [Bool.and_eq_true, List.isEmpty_iff, List.isEmpty_iff] at none
    obtain ⟨rfl, rfl⟩ := none
    rw [List.append_nil, List.append_nil]
    obtain ⟨n, read, rfl⟩ := map_eq_ok_iff.mp made
    exact .integer isSign isWhole (Text.readInt_eq_ok_iff.mp read)
  · next some =>
    cases made
    rw [Bool.and_eq_true, List.isEmpty_iff, List.isEmpty_iff, not_and_or] at some
    exact .real isSign isWhole isFraction isExponent some

/-- A number is read as one that its characters write. -/
theorem readNumber?_sound {text rest : Text} {value : Value}
    (read : readNumber? text = some (.ok value, rest)) :
    ∃ written, text = written ++ rest ∧ Number written value := by
  rw [readNumber?_eq] at read
  dsimp only at read
  obtain ⟨signed, isSign⟩ := splitMinus_sound text
  split at read
  · cases read
  · next some =>
    obtain ⟨isWhole, digits⟩ := wholePart_sound (mt List.isEmpty_iff.mpr some)
    obtain ⟨fractioned, isFraction⟩ := fractionPart_sound
      ((splitMinus text).2.drop (wholePart (splitMinus text).2).length)
    obtain ⟨exponented, isExponent⟩ := exponentPart_sound (fractionPart
      ((splitMinus text).2.drop (wholePart (splitMinus text).2).length)).2
    obtain ⟨isMade, rfl⟩ := Prod.mk.inj (Option.some.inj read)
    refine ⟨_, ?_, numberOfParts_sound isSign isWhole isFraction isExponent isMade⟩
    simp only [List.append_assoc]
    rw [← exponented, ← fractioned, ← digits, ← signed]

/-- An exponent begins with neither a digit nor a point. -/
theorem IsExponent.head {exponent : Text} (isExponent : IsExponent exponent) {c : Char}
    (head : exponent.head? = some c) : Text.isDigit c = false ∧ c ≠ '.' := by
  cases isExponent with
  | none => cases head
  | letter isLetter =>
    obtain rfl := Option.some.inj head
    rcases isLetter with rfl | rfl <;> decide

/-- What follows the digits in front of a point does not begin with a digit. -/
theorem IsFraction.head {fraction exponent : Text} (isFraction : IsFraction fraction)
    (isExponent : IsExponent exponent) {c : Char} (head : (fraction ++ exponent).head? = some c) :
    Text.isDigit c = false := by
  cases isFraction with
  | none => exact (isExponent.head head).1
  | point =>
    obtain rfl := Option.some.inj head
    decide

/-- The parts of a number are told apart. -/
theorem readNumber?_parts {sign whole fraction exponent : Text} (isSign : sign ∈ [[], ['-']])
    (isWhole : IsWhole whole) (isFraction : IsFraction fraction)
    (isExponent : IsExponent exponent) :
    readNumber? (sign ++ (whole ++ (fraction ++ exponent))) =
      some (numberOfParts sign whole fraction exponent, []) := by
  have some : ¬ whole.isEmpty = true := mt List.isEmpty_iff.mp isWhole.1.1
  rw [readNumber?_eq, splitMinus_append isSign isWhole]
  dsimp only
  rw [wholePart_append isWhole fun c => isFraction.head isExponent, if_neg some, List.drop_left,
    fractionPart_append isFraction fun c => isExponent.head]
  dsimp only
  rw [exponentPart_complete isExponent]

/-- A number is read as what it writes. -/
theorem readNumber?_complete {written : Text} {value : Value} (number : Number written value) :
    readNumber? written = some (.ok value, []) := by
  cases number with
  | @integer sign whole n isSign isWhole numeral =>
    have read := readNumber?_parts isSign isWhole .none .none
    rw [List.append_nil, List.append_nil] at read
    rw [read, numberOfParts, List.isEmpty_nil, Bool.and_self, if_pos rfl,
      Text.readInt_eq_ok_iff.mpr numeral]
    rfl
  | @real sign whole fraction exponent isSign isWhole isFraction isExponent notInteger =>
    have some : ¬ (fraction.isEmpty && exponent.isEmpty) = true := by
      rw [Bool.and_eq_true, List.isEmpty_iff, List.isEmpty_iff, not_and_or]
      exact notInteger
    have read := readNumber?_parts isSign isWhole isFraction isExponent
    rw [numberOfParts, if_neg some] at read
    simpa only [List.append_assoc] using read

end Loremark.Json
