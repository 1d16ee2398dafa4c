import Loremark.Json.Bytes
import Loremark.Proofs.Results

/-!
# Strings of JSON texts

What the codes between the quotes of a string write (`Spells`): most of them themselves, a
backslash and what follows it another one. Two escapes that are the halves of a pair write one
character together, and a half without its other half stands for itself. Codes are told apart by
their numbers (`toNat_ofNat`, `toNat_injective`), halves included. Strings are read exactly as they
are spelled (`readString_eq_ok_iff`).
-/

set_option autoImplicit false

namespace Loremark.Text.Code

/-! ## Codes -/

/-- A number that is that of a code is the number of its code. -/
theorem toNat_ofNat {n : Nat} (le : n ≤ 0x10FFFF) : (ofNat n).toNat = n := by
  rw [ofNat]
  split
  · next isHalf => exact Nat.add_sub_cancel' isHalf.1
  · next notHalf =>
    have valid : n.isValidChar := by
      rw [Nat.isValidChar]
      omega
    rw [toNat, Char.ofNat, dif_pos valid]
    rfl

/-- Codes with the same number are the same. -/
theorem toNat_injective : Function.Injective toNat := by
  have apart (c : Char) (place : Fin 2048) : c.toNat ≠ 0xD800 + place := by
    intro same
    have valid : c.toNat.isValidChar := c.valid
    have bound := place.isLt
    rw [Nat.isValidChar] at valid
    omega
  intro a b same
  cases a with
  | char c =>
    cases b with
    | char d => exact congrArg char (Char.toNat_inj.mp same)
    | half place => exact absurd same (apart c place)
  | half place =>
    cases b with
    | char d => exact absurd same.symm (apart d place)
    | half other => exact congrArg half (Fin.ext (Nat.add_left_cancel same))

/-- An empty text has no codes. -/
@[simp] theorem ofText_nil : ofText [] = [] := rfl

/-- The codes of a text begin with that of its first character. -/
@[simp] theorem ofText_cons (c : Char) (text : Text) :
    ofText (c :: text) = char c :: ofText text := rfl

/-- The codes of texts together are those of each in turn. -/
@[simp] theorem ofText_append (text more : Text) :
    ofText (text ++ more) = ofText text ++ ofText more := List.map_append

/-- A text has as many codes as characters. -/
@[simp] theorem length_ofText (text : Text) : (ofText text).length = text.length :=
  List.length_map _

/-- Texts with the same codes are the same. -/
theorem ofText_injective : Function.Injective ofText :=
  fun _ _ same => List.map_inj_right (fun _ _ => Code.char.inj) |>.mp same

/-- Codes are a text exactly if they are the codes of that text. -/
theorem text?_eq_some_iff {codes : List Code} {text : Text} :
    text? codes = some text ↔ codes = ofText text := by
  constructor
  · intro isText
    induction codes generalizing text with
    | nil =>
      cases isText
      rfl
    | cons code codes ih =>
      cases code with
      | char c =>
        obtain ⟨rest, isRest, rfl⟩ := Option.map_eq_some_iff.mp isText
        rw [ofText_cons, ih isRest]
      | half place => cases isText
  · rintro rfl
    induction text with
    | nil => rfl
    | cons c text ih => rw [ofText_cons, text?, ih, Option.map_some]

end Loremark.Text.Code

namespace Loremark.Json

open Loremark.Text (Code)

/-! ## Spelling -/

/-- The four digits of a two-byte unit. -/
structure IsUnit (digits : Text) (code : Nat) : Prop where
  four : digits.length = 4
  hex : digits.all Text.isHexDigit = true
  value : code = Text.readBase 16 digits

/-- A text that begins with the escape of the second half of a pair. -/
def BeginsLow (text : List Code) : Prop :=
  ∃ digits code rest, IsUnit digits code ∧ isLowHalf code = true ∧
    text = .char '\\' :: .char 'u' :: (Code.ofText digits ++ rest)

/-- An escape in front of a text, without its backslash, and the code that it writes there. -/
inductive Escape (behind : List Code) : List Code → Code → Prop
  | letter {e : Code} {c : Char} (isLetter : escapedChar? e = some c) :
      Escape behind [e] (.char c)
  | unit {digits : Text} {code : Nat} (isUnit : IsUnit digits code)
      (alone : isHighHalf code = true → ¬ BeginsLow behind) :
      Escape behind (.char 'u' :: Code.ofText digits) (.ofNat code)
  | pair {high low : Text} {highCode lowCode : Nat} (isHigh : IsUnit high highCode)
      (highHalf : isHighHalf highCode = true) (isLow : IsUnit low lowCode)
      (lowHalf : isLowHalf lowCode = true) :
      Escape behind (.char 'u' :: (Code.ofText high ++ .char '\\' :: .char 'u' :: Code.ofText low))
        (.char (charOfHalves highCode lowCode))

/-- What the codes between two quotes write. -/
inductive Spells : List Code → List Code → Prop
  | nil : Spells [] []
  | plain {c : Code} {written text : List Code} (notQuote : c ≠ .char '"')
      (notMark : c ≠ .char '\\') (printable : 32 ≤ c.toNat) (rest : Spells written text) :
      Spells (c :: written) (c :: text)
  | escape {escape written text : List Code} {c : Code} (isEscape : Escape written escape c)
      (rest : Spells written text) : Spells (.char '\\' :: (escape ++ written)) (c :: text)

/-! ## Units -/

/-- Four digits in front of something are those of a unit. -/
theorem fourDigits?_eq_some_iff {text rest : List Code} {code : Nat} :
    fourDigits? text = some (code, rest) ↔
      rest ≠ [] ∧ ∃ digits, IsUnit digits code ∧ text = Code.ofText digits ++ rest := by
  constructor
  · intro read
    rw [fourDigits?.eq_def] at read
    split at read
    · next a b c d rest =>
      split at read
      · next isUnit =>
        rw [Bool.and_eq_true, Bool.not_eq_true', List.isEmpty_eq_false_iff] at isUnit
        cases read
        exact ⟨isUnit.2, [a, b, c, d], ⟨rfl, isUnit.1, rfl⟩, rfl⟩
      · cases read
    · cases read
  · rintro ⟨more, digits, ⟨four, hex, rfl⟩, rfl⟩
    obtain ⟨a, b, c, d, rfl⟩ : ∃ a b c d, digits = [a, b, c, d] := by
      rcases digits with _ | ⟨a, _ | ⟨b, _ | ⟨c, _ | ⟨d, _ | ⟨e, digits⟩⟩⟩⟩⟩ <;> simp_all
    have isUnit : ([a, b, c, d].all Text.isHexDigit && !rest.isEmpty) = true := by
      rw [hex, Bool.true_and, Bool.not_eq_true', List.isEmpty_eq_false_iff]
      exact more
    exact if_pos isUnit

/-- The digits that a text begins with tell the unit. -/
theorem IsUnit.code_eq {digits other : Text} {rest otherRest : List Code} {code otherCode : Nat}
    (isUnit : IsUnit digits code) (otherUnit : IsUnit other otherCode)
    (same : Code.ofText digits ++ rest = Code.ofText other ++ otherRest) : code = otherCode := by
  have lengths : (Code.ofText digits).length = (Code.ofText other).length := by
    rw [Code.length_ofText, Code.length_ofText, isUnit.four, otherUnit.four]
  rw [isUnit.value, otherUnit.value, Code.ofText_injective (List.append_inj same lengths).1]

/-! ## Escapes -/

/-- The first half of a pair in front of something: the second half goes with it if it follows. -/
def takeHigh (code : Nat) (rest : List Code) : Except Error (Code × List Code) :=
  match rest with
  | .char '\\' :: .char 'u' :: more =>
    if more.length ≤ 4 then .ok (.ofNat code, rest)
    else
      match fourDigits? more with
      | none => faultAt .badUnicodeEscape (.char 'u' :: more)
      | some (low, after) =>
        if isLowHalf low then
          .ok (.char (charOfHalves code low), after)
        else .ok (.ofNat code, rest)
  | _ => .ok (.ofNat code, rest)

/-- An escape begins with four digits, and goes on if they are those of a first half. -/
theorem unicodeEscape_eq (text : List Code) :
    unicodeEscape (.char 'u' :: text) =
      match fourDigits? text with
      | none => faultAt .badUnicodeEscape (.char 'u' :: text)
      | some (code, rest) =>
        if isHighHalf code then takeHigh code rest else .ok (.ofNat code, rest) := rfl

/-- No second half stands in front of a quote where only few characters follow a backslash and a
letter, or where their digits are not those of a second half. -/
theorem not_beginsLow {written tail more : List Code}
    (same : .char '\\' :: .char 'u' :: more = written ++ .char '"' :: tail)
    (notLow : more.length ≤ 4 ∨ ∃ code after, fourDigits? more = some (code, after) ∧
      isLowHalf code = false) : ¬ BeginsLow written := by
  rintro ⟨digits, code, rest, isLow, lowHalf, rfl⟩
  simp only [List.cons_append, List.cons.injEq, true_and, List.append_assoc] at same
  rcases notLow with short | ⟨other, after, otherFound, notLow⟩
  · have lengths := congrArg List.length same
    simp only [List.length_append, List.length_cons, Code.length_ofText, isLow.four] at lengths
    omega
  · obtain ⟨-, otherDigits, isOther, whole⟩ := fourDigits?_eq_some_iff.mp otherFound
    rw [isOther.code_eq isLow (whole.symm.trans same), lowHalf] at notLow
    cases notLow

/-- What is read behind the first half of a pair, and the escape that it makes. -/
theorem takeHigh_sound {digits : Text} {rest left : List Code} {code : Nat} {c : Code}
    (isUnit : IsUnit digits code) (isHigh : isHighHalf code = true)
    (read : takeHigh code rest = .ok (c, left)) :
    ∃ escape, .char 'u' :: (Code.ofText digits ++ rest) = escape ++ left ∧
      ∀ written tail, left = written ++ .char '"' :: tail → Escape written escape c := by
  rw [takeHigh.eq_def] at read
  -- A second half follows and the two make one code, or the first half is a code of its own.
  split at read
  · next more =>
    split at read
    · next short =>
      cases read
      exact ⟨.char 'u' :: Code.ofText digits, rfl, fun written tail same =>
        .unit isUnit fun _ => not_beginsLow same (.inl short)⟩
    · split at read
      · cases read
      · next low after found =>
        obtain ⟨-, lowDigits, isLow, rfl⟩ := fourDigits?_eq_some_iff.mp found
        split at read
        · next lowHalf =>
          rw [Except.ok.injEq, Prod.mk.injEq] at read
          obtain ⟨rfl, rfl⟩ := read
          exact ⟨.char 'u' :: (Code.ofText digits ++ .char '\\' :: .char 'u' ::
            Code.ofText lowDigits), by simp,
            fun _ _ _ => .pair isUnit isHigh isLow lowHalf⟩
        · next notLow =>
          rw [Bool.not_eq_true] at notLow
          cases read
          exact ⟨.char 'u' :: Code.ofText digits, rfl, fun written tail same =>
            .unit isUnit fun _ => not_beginsLow same (.inr ⟨low, after, found, notLow⟩)⟩
  · next notUnit =>
    cases read
    refine ⟨.char 'u' :: Code.ofText digits, rfl, fun written tail same => .unit isUnit ?_⟩
    rintro - ⟨low, lowCode, more, -, -, rfl⟩
    exact (notUnit _ same).elim

/-- What is read behind a backslash and the letter `u` is an escape. -/
theorem unicodeEscape_sound {text left : List Code} {c : Code}
    (read : unicodeEscape (.char 'u' :: text) = .ok (c, left)) :
    ∃ escape, .char 'u' :: text = escape ++ left ∧
      ∀ written tail, left = written ++ .char '"' :: tail → Escape written escape c := by
  rw [unicodeEscape_eq] at read
  split at read
  · cases read
  · next code rest found =>
    obtain ⟨-, digits, isUnit, rfl⟩ := fourDigits?_eq_some_iff.mp found
    split at read
    · next isHigh => exact takeHigh_sound isUnit isHigh read
    · next notHigh =>
      cases read
      exact ⟨.char 'u' :: Code.ofText digits, rfl, fun _ _ _ =>
        .unit isUnit fun isHigh => absurd isHigh notHigh⟩

/-- A spelling that begins with a backslash and the letter `u` goes on with a unit. -/
theorem Spells.exists_isUnit {written more text : List Code} (spelled : Spells written text)
    (begins : written = .char '\\' :: .char 'u' :: more) :
    ∃ digits code rest, IsUnit digits code ∧ more = Code.ofText digits ++ rest := by
  cases spelled with
  | nil => cases begins
  | plain _ notMark => exact absurd (List.cons.inj begins).1 notMark
  | escape isEscape =>
    cases isEscape with
    | letter isLetter =>
      cases begins
      cases isLetter
    | unit isUnit =>
      cases begins
      exact ⟨_, _, _, isUnit, rfl⟩
    | pair isHigh =>
      cases begins
      exact ⟨_, _, _, isHigh, List.append_assoc _ _ _⟩

section Complete

variable {written tail text : List Code} {c : Code}

/-- Something stands behind what is spelled, at least the closing quote. -/
theorem behind_ne_nil (written tail : List Code) : written ++ .char '"' :: tail ≠ [] :=
  List.append_ne_nil_of_right_ne_nil written (List.cons_ne_nil _ _)

/-- The first half of a pair is read alone where no second half is spelled behind it. -/
theorem takeHigh_alone {code : Nat} (spelled : Spells written text)
    (alone : ¬ BeginsLow written) :
    takeHigh code (written ++ .char '"' :: tail) =
      .ok (.ofNat code, written ++ .char '"' :: tail) := by
  rw [takeHigh.eq_def]
  split
  · next more begins =>
    obtain ⟨behind, rfl, rfl⟩ :
        ∃ behind, written = .char '\\' :: .char 'u' :: behind ∧
          more = behind ++ .char '"' :: tail := by
      rcases written with _ | ⟨a, _ | ⟨b, behind⟩⟩ <;> cases begins
      exact ⟨behind, rfl, rfl⟩
    obtain ⟨digits, low, rest, isUnit, rfl⟩ := spelled.exists_isUnit rfl
    have notLow : ¬ isLowHalf low = true := fun lowHalf =>
      alone ⟨digits, low, rest, isUnit, lowHalf, rfl⟩
    have found : fourDigits? (Code.ofText digits ++ rest ++ .char '"' :: tail) =
        some (low, rest ++ .char '"' :: tail) :=
      fourDigits?_eq_some_iff.mpr ⟨behind_ne_nil rest tail, digits, isUnit, List.append_assoc ..⟩
    split
    · rfl
    · rw [found]
      exact if_neg notLow
  · rfl

/-- An escape behind the letter `u` is read as what it writes in front of a spelling. -/
theorem unicodeEscape_complete {more : List Code} (spelled : Spells written text)
    (isEscape : Escape written (.char 'u' :: more) c) :
    unicodeEscape (.char 'u' :: (more ++ (written ++ .char '"' :: tail))) =
      .ok (c, written ++ .char '"' :: tail) := by
  have found {digits : Text} {rest : List Code} {code : Nat} (isUnit : IsUnit digits code)
      (behind : rest ≠ []) : fourDigits? (Code.ofText digits ++ rest) = some (code, rest) :=
    fourDigits?_eq_some_iff.mpr ⟨behind, digits, isUnit, rfl⟩
  rw [unicodeEscape_eq]
  cases isEscape with
  | letter isLetter => cases isLetter
  | unit isUnit alone =>
    rw [found isUnit (behind_ne_nil written tail)]
    dsimp only
    split
    · next isHigh => exact takeHigh_alone spelled (alone isHigh)
    · rfl
  | @pair high low highCode lowCode isHigh highHalf isLow lowHalf =>
    rw [List.append_assoc, found isHigh (List.append_ne_nil_of_left_ne_nil (by simp) _)]
    dsimp only
    rw [if_pos highHalf, List.cons_append, List.cons_append, takeHigh]
    have long : ¬ (Code.ofText low ++ (written ++ .char '"' :: tail)).length ≤ 4 := by
      rw [List.length_append, List.length_append, List.length_cons, Code.length_ofText,
        isLow.four]
      omega
    rw [if_neg long, found isLow (behind_ne_nil written tail)]
    exact if_pos lowHalf

end Complete

/-! ## Strings -/

/-- The characters that are read up to a quote are what is spelled in front of it. -/
theorem readString_sound {left fuel : Nat} {done text value rest : List Code}
    (read : readString left fuel done text = .ok (value, rest)) :
    ∃ written behind, text = written ++ .char '"' :: rest ∧ Spells written behind ∧
      value = done.reverse ++ behind := by
  have extend {done behind : List Code} {c : Code} (same : value = (c :: done).reverse ++ behind) :
      value = done.reverse ++ c :: behind := by
    rw [same, List.reverse_cons, List.append_assoc, List.singleton_append]
  fun_induction readString left fuel done text with
  | case1 | case2 | case4 | case7 | case8 => cases read
  | case3 fuel done c text quote =>
    cases read
    rw [beq_iff_eq] at quote
    exact ⟨[], [], by rw [quote]; rfl, .nil, (List.append_nil _).symm⟩
  | case5 fuel done c notQuote mark text ih =>
    obtain ⟨⟨e, after⟩, escapeRead, read⟩ := bind_eq_ok_iff.mp read
    obtain ⟨written, behind, rfl, spelled, same⟩ := ih e after read
    obtain ⟨escape, whole, isEscape⟩ := unicodeEscape_sound escapeRead
    rw [beq_iff_eq] at mark
    refine ⟨.char '\\' :: (escape ++ written), e :: behind, ?_, .escape (isEscape _ _ rfl) spelled,
      extend same⟩
    rw [mark, whole, List.cons_append, List.append_assoc]
  | case6 fuel done c notQuote mark e text notUnit d isLetter ih =>
    obtain ⟨written, behind, rfl, spelled, same⟩ := ih read
    rw [beq_iff_eq] at mark
    exact ⟨.char '\\' :: ([e] ++ written), .char d :: behind, by rw [mark]; rfl,
      .escape (.letter isLetter) spelled, extend same⟩
  | case9 fuel done c text notQuote notMark printable ih =>
    obtain ⟨written, behind, rfl, spelled, same⟩ := ih read
    rw [beq_iff_eq] at notQuote notMark
    exact ⟨c :: written, c :: behind, rfl,
      .plain notQuote notMark (Nat.le_of_not_lt printable) spelled, extend same⟩

/-- An escape in front of a spelling is read in one step. -/
theorem readString_escape {left fuel : Nat} {done written text escape tail : List Code} {c : Code}
    (isEscape : Escape written escape c) (spelled : Spells written text) :
    readString left (fuel + 1) done (.char '\\' :: (escape ++ (written ++ .char '"' :: tail))) =
      readString left fuel (c :: done) (written ++ .char '"' :: tail) := by
  -- Both kinds of numbered escapes begin with one letter, and one reader takes them.
  have unit {more : List Code} (begins : escape = .char 'u' :: more) :
      readString left (fuel + 1) done (.char '\\' :: (escape ++ (written ++ .char '"' :: tail))) =
        readString left fuel (c :: done) (written ++ .char '"' :: tail) := by
    rw [begins] at isEscape ⊢
    rw [List.cons_append, readString, if_neg (by decide), if_pos (by decide)]
    dsimp only
    rw [unicodeEscape_complete spelled isEscape]
    rfl
  cases isEscape with
  | @letter e c isLetter =>
    have notUnit : e ≠ .char 'u' := by
      rintro rfl
      cases isLetter
    rw [readString.eq_def]
    dsimp only
    rw [if_neg (by decide), if_pos (by decide)]
    split
    · next ended => cases ended
    · next begins => exact absurd (List.cons.inj begins).1 notUnit
    · next begins =>
      cases begins
      rw [isLetter]
      rfl
  | unit => exact unit rfl
  | pair => exact unit rfl

/-- A spelling in front of a quote is read to its end. -/
theorem readString_complete {written text : List Code} (spelled : Spells written text)
    {left fuel : Nat} {done tail : List Code} (enough : written.length < fuel) :
    readString left fuel done (written ++ .char '"' :: tail) =
      .ok (done.reverse ++ text, tail) := by
  induction spelled generalizing fuel done with
  | nil =>
    cases fuel with
    | zero => cases enough
    | succ fuel =>
      rw [List.nil_append, List.append_nil]
      rfl
  | @plain c written text notQuote notMark printable _ ih =>
    cases fuel with
    | zero => cases enough
    | succ fuel =>
      rw [List.cons_append, readString.eq_def]
      dsimp only
      rw [if_neg (by simpa using notQuote), if_neg (by simpa using notMark),
        if_neg (Nat.not_lt.mpr printable), ih (Nat.lt_of_succ_lt_succ enough),
        List.reverse_cons, List.append_assoc, List.singleton_append]
  | @escape escape written text c isEscape rest ih =>
    cases fuel with
    | zero => cases enough
    | succ fuel =>
      rw [List.cons_append, List.append_assoc, readString_escape isEscape rest, ih]
      · rw [List.reverse_cons, List.append_assoc, List.singleton_append]
      · rw [List.length_cons, List.length_append] at enough
        omega

/-- A string is read as what is spelled in front of its closing quote. -/
theorem readString_eq_ok_iff {left : Nat} {text value rest : List Code} :
    readString left (text.length + 1) [] text = .ok (value, rest) ↔
      ∃ written, text = written ++ .char '"' :: rest ∧ Spells written value := by
  constructor
  · intro read
    obtain ⟨written, behind, whole, spelled, rfl⟩ := readString_sound read
    exact ⟨written, whole, spelled⟩
  · rintro ⟨written, rfl, spelled⟩
    have enough : written.length < (written ++ .char '"' :: rest).length + 1 := by
      rw [List.length_append]
      omega
    exact readString_complete spelled enough

end Loremark.Json
