import Loremark.Proofs.Json.Numbers
import Loremark.Proofs.Json.Strings

/-!
# Documents of JSON texts

The values that JSON texts write (`Document`): words, numbers, strings, lists and dictionaries, with
gaps between their parts. A dictionary has its members in the order in which their names come up
first, each with the value that its name has last.

Texts are read exactly as they are written (`read_eq_ok_iff`). That what is read is written is shown
by an induction on the depth that is left to the reader; that what is written is read, by one on how
it is written, for every text that may follow.
-/

set_option autoImplicit false

namespace Loremark

/-- Codes are told apart as keys exactly if they differ, halves of pairs included. -/
theorem Value.sameKey_ofCodes {a b : List Text.Code} :
    sameKey (ofCodes a) (ofCodes b) = true ↔ a = b := by
  rw [ofCodes, ofCodes]
  cases first : Text.Code.text? a with
  | none =>
    cases second : Text.Code.text? b with
    | none => simp [sameKey]
    | some t =>
      refine iff_of_false (by simp [sameKey]) ?_
      rintro rfl
      rw [first] at second
      cases second
  | some s =>
    cases second : Text.Code.text? b with
    | none =>
      refine iff_of_false (by simp [sameKey]) ?_
      rintro rfl
      rw [first] at second
      cases second
    | some t =>
      rw [Text.Code.text?_eq_some_iff.mp first, Text.Code.text?_eq_some_iff.mp second,
        Text.Code.ofText_injective.eq_iff]
      simp [sameKey]

namespace Json

open Text (Code)

/-! ## Documents -/

/-- Blanks between the parts of a document. -/
def IsGap (text : List Code) : Prop := ∀ c ∈ text, isGap c = true

/-- Entries with members stored into them one after another. -/
def putAll (entries : List (Value × Value)) (members : List (List Code × Value)) :
    List (Value × Value) :=
  members.foldl (fun entries (key, value) => Value.put (.ofCodes key) value entries) entries

/-- What a part of a document stands for. -/
inductive Piece where
  | value (v : Value)
  | items (items : List Value)
  | member (key : List Code) (v : Value)
  | members (members : List (List Code × Value))

/-- A part of a document, and how it is written. -/
inductive Writes : Piece → List Code → Prop
  | word {word : Text} {v : Value} (isWord : (word, v) ∈ words) :
      Writes (.value v) (Code.ofText word)
  | number {written : Text} {v : Value} (number : Number written v) :
      Writes (.value v) (Code.ofText written)
  | text {written s : List Code} (spelled : Spells written s) :
      Writes (.value (.ofCodes s)) (.char '"' :: (written ++ [.char '"']))
  | noItems {gap : List Code} (isGap : IsGap gap) :
      Writes (.value (.list [])) (.char '[' :: (gap ++ [.char ']']))
  | list {front written back : List Code} {items : List Value} (isFront : IsGap front)
      (isBack : IsGap back) (inner : Writes (.items items) written) :
      Writes (.value (.list items)) (.char '[' :: (front ++ (written ++ (back ++ [.char ']']))))
  | noMembers {gap : List Code} (isGap : IsGap gap) :
      Writes (.value (.dict [])) (.char '\x7b' :: (gap ++ [.char '\x7d']))
  | dict {front written back : List Code} {members : List (List Code × Value)}
      (isFront : IsGap front) (isBack : IsGap back) (inner : Writes (.members members) written) :
      Writes (.value (.dict (putAll [] members)))
        (.char '\x7b' :: (front ++ (written ++ (back ++ [.char '\x7d']))))
  | lastItem {written : List Code} {v : Value} (inner : Writes (.value v) written) :
      Writes (.items [v]) written
  | nextItem {written back front rest : List Code} {v : Value} {items : List Value}
      (isBack : IsGap back) (isFront : IsGap front) (inner : Writes (.value v) written)
      (more : Writes (.items items) rest) :
      Writes (.items (v :: items)) (written ++ (back ++ .char ',' :: (front ++ rest)))
  | member {spelling back front written key : List Code} {v : Value}
      (spelled : Spells spelling key) (isBack : IsGap back) (isFront : IsGap front)
      (inner : Writes (.value v) written) :
      Writes (.member key v)
        (.char '"' :: (spelling ++ .char '"' :: (back ++ .char ':' :: (front ++ written))))
  | lastMember {written key : List Code} {v : Value} (inner : Writes (.member key v) written) :
      Writes (.members [(key, v)]) written
  | nextMember {written back front rest key : List Code} {v : Value}
      {members : List (List Code × Value)} (isBack : IsGap back) (isFront : IsGap front)
      (inner : Writes (.member key v) written) (more : Writes (.members members) rest) :
      Writes (.members ((key, v) :: members)) (written ++ (back ++ .char ',' :: (front ++ rest)))

/-- A text that is the value of a document, with gaps around it. -/
def Document (text : List Code) (v : Value) : Prop :=
  ∃ front written back, text = front ++ (written ++ back) ∧ IsGap front ∧ IsGap back ∧
    Writes (.value v) written

/-! ## Gaps -/

/-- What is skipped in front of a text is a gap. -/
theorem exists_skipGap (text : List Code) : ∃ gap, IsGap gap ∧ text = gap ++ skipGap text :=
  ⟨text.takeWhile isGap, fun _ mem => List.mem_takeWhile_imp mem,
    List.takeWhile_append_dropWhile.symm⟩

/-- A gap in front of what is none is skipped. -/
theorem skipGap_cons {gap : List Code} (isGap : IsGap gap) {c : Code}
    (solid : Json.isGap c = false) (text : List Code) : skipGap (gap ++ c :: text) = c :: text := by
  rw [skipGap, List.dropWhile_append_of_pos isGap,
    List.dropWhile_cons_of_neg (Bool.eq_false_iff.mp solid)]

/-- Whether a code may stand behind a value. -/
def isDelimiter (c : Code) : Bool :=
  isGap c || c == .char ',' || c == .char ']' || c == .char '\x7d'

/-- A text that is at its end, or goes on with something that is no part of a value. -/
def Stops (text : List Code) : Prop := ∀ c, text.head? = some c → isDelimiter c = true

/-- A gap in front of a delimiter stops a value. -/
theorem stops_gap {gap : List Code} (isGap : IsGap gap) {c : Code}
    (delimiter : isDelimiter c = true) (text : List Code) : Stops (gap ++ c :: text) := by
  intro d head
  cases gap with
  | nil =>
    obtain rfl := Option.some.inj head
    exact delimiter
  | cons e gap =>
    obtain rfl := Option.some.inj head
    rw [isDelimiter, isGap e List.mem_cons_self]
    rfl

/-- A gap at the end of a document stops a value. -/
theorem stops_of_isGap {gap : List Code} (isGap : IsGap gap) : Stops gap := by
  intro c head
  rw [isDelimiter, isGap c (List.mem_of_mem_head? head)]
  rfl

/-! ## Words and numbers -/

/-- A word that is read stands at the beginning of the text. -/
theorem readWord?_sound {text rest : Text} {v : Value} (read : readWord? text = some (v, rest)) :
    ∃ word, (word, v) ∈ words ∧ text = word ++ rest := by
  obtain ⟨⟨word, value⟩, isWord, found⟩ := List.exists_of_findSome?_eq_some read
  obtain ⟨behind, after, same⟩ := Option.map_eq_some_iff.mp found
  cases same
  exact ⟨word, isWord, Text.after?_eq_some_iff.mp after⟩

/-- Every word is read as its value. -/
theorem readWord?_word {word : Text} {v : Value} (isWord : (word, v) ∈ words) :
    readWord? word = some (v, []) := by
  simp only [words, List.mem_cons, Prod.mk.injEq, List.not_mem_nil, or_false] at isWord
  rcases isWord with ⟨rfl, rfl⟩ | ⟨rfl, rfl⟩ | ⟨rfl, rfl⟩ | ⟨rfl, rfl⟩ | ⟨rfl, rfl⟩ | ⟨rfl, rfl⟩ <;>
    rfl

/-- A number is a sign or none, digits, and what follows them. -/
theorem Number.exists_digits {written : Text} {v : Value} (number : Number written v) :
    ∃ sign digits rest, written = sign ++ (digits ++ rest) ∧ sign ∈ [[], ['-']] ∧
      IsDigits digits := by
  cases number with
  | @integer sign whole n isSign isWhole =>
    exact ⟨sign, whole, [], by rw [List.append_nil], isSign, isWhole.1⟩
  | @real sign whole fraction exponent isSign isWhole =>
    exact ⟨sign, whole, fraction ++ exponent, by simp only [List.append_assoc], isSign,
      isWhole.1⟩

/-- No word is read where none of them stands. -/
theorem readWord?_eq_none {text : Text}
    (apart : ∀ word v, (word, v) ∈ words → ¬ word <+: text) : readWord? text = none := by
  rw [readWord?, List.findSome?_eq_none_iff]
  rintro ⟨word, v⟩ isWord
  rw [Option.map_eq_none_iff, Text.after?_eq_none_iff]
  exact apart word v isWord

/-- No number begins with a word. -/
theorem readWord?_number {written : Text} {v : Value} (number : Number written v) :
    readWord? written = none := by
  obtain ⟨sign, digits, rest, rfl, isSign, isDigits⟩ := number.exists_digits
  obtain ⟨c, more, rfl, digit⟩ := isDigits.exists_cons
  have differs (d : Char) (other : Text.isDigit d = false) : d ≠ c := by
    rintro rfl
    rw [digit] at other
    cases other
  apply readWord?_eq_none
  rintro word v isWord ⟨behind, same⟩
  simp only [words, List.mem_cons, Prod.mk.injEq, List.not_mem_nil, or_false] at isWord isSign
  rcases isSign with rfl | rfl
  · rcases isWord with ⟨rfl, -⟩ | ⟨rfl, -⟩ | ⟨rfl, -⟩ | ⟨rfl, -⟩ | ⟨rfl, -⟩ | ⟨rfl, -⟩ <;>
      exact differs _ (by decide) (List.cons.inj same).1
  · rcases isWord with ⟨rfl, -⟩ | ⟨rfl, -⟩ | ⟨rfl, -⟩ | ⟨rfl, -⟩ | ⟨rfl, -⟩ | ⟨rfl, -⟩
    · exact absurd (List.cons.inj same).1 (by decide)
    · exact absurd (List.cons.inj same).1 (by decide)
    · exact absurd (List.cons.inj same).1 (by decide)
    · exact absurd (List.cons.inj same).1 (by decide)
    · exact absurd (List.cons.inj same).1 (by decide)
    · -- Of the words, only this one begins like a number with a sign.
      exact differs 'I' (by decide) (List.cons.inj (List.cons.inj same).2).1

/-- A character that no word or number has is another one than those of words and numbers. -/
theorem ne_of_isBare {c d : Char} (bare : isBare c = true) (other : isBare d = false) : c ≠ d := by
  rintro rfl
  rw [other] at bare
  cases bare

/-- The characters that words and numbers are made of are no blanks. -/
theorem printable_of_isBare {c : Char} (bare : isBare c = true) : 32 < c.toNat := by
  have atLeast {d : Char} (least : d ≤ c) (printable : 32 < d.toNat) : 32 < c.toNat :=
    Nat.lt_of_lt_of_le printable (UInt32.le_iff_toNat_le.mp least)
  simp only [isBare, Text.isAlphanumeric, Text.isLetter, Text.isDigit, Bool.or_eq_true,
    Bool.and_eq_true, decide_eq_true_eq, beq_iff_eq, or_assoc] at bare
  rcases bare with ⟨least, -⟩ | ⟨least, -⟩ | ⟨least, -⟩ | rfl | rfl | rfl
  · exact atLeast least (by decide)
  · exact atLeast least (by decide)
  · exact atLeast least (by decide)
  · decide
  · decide
  · decide

/-- Characters that words and numbers are made of, and at least one. -/
def IsRun (written : Text) : Prop := written ≠ [] ∧ ∀ c ∈ written, isBare c = true

/-- A run begins with a character that words and numbers are made of. -/
theorem IsRun.exists_cons {written : Text} (isRun : IsRun written) :
    ∃ c more, written = c :: more ∧ isBare c = true := by
  obtain ⟨c, more, rfl⟩ := List.exists_cons_of_ne_nil isRun.1
  exact ⟨c, more, rfl, isRun.2 c List.mem_cons_self⟩

/-- Every word is a run. -/
theorem isRun_of_word {word : Text} {v : Value} (isWord : (word, v) ∈ words) : IsRun word := by
  simp only [words, List.mem_cons, Prod.mk.injEq, List.not_mem_nil, or_false] at isWord
  rcases isWord with ⟨rfl, -⟩ | ⟨rfl, -⟩ | ⟨rfl, -⟩ | ⟨rfl, -⟩ | ⟨rfl, -⟩ | ⟨rfl, -⟩ <;>
    exact ⟨List.cons_ne_nil _ _, List.all_eq_true.mp rfl⟩

/-- Digits can stand in a run. -/
theorem isBare_of_isDigit {c : Char} (digit : Text.isDigit c = true) : isBare c = true := by
  rw [isBare, Text.isAlphanumeric, digit, Bool.or_true, Bool.true_or, Bool.true_or, Bool.true_or]

/-- All of the digits of a number can stand in a run. -/
theorem IsDigits.isBare {digits : Text} (isDigits : IsDigits digits) :
    ∀ c ∈ digits, isBare c = true :=
  fun c mem => isBare_of_isDigit (isDigits.2 c mem)

/-- A fraction can stand in a run. -/
theorem IsFraction.isBare {fraction : Text} (isFraction : IsFraction fraction) :
    ∀ c ∈ fraction, isBare c = true := by
  cases isFraction with
  | none => exact List.forall_mem_nil _
  | point isDigits => exact List.forall_mem_cons.mpr ⟨by decide, isDigits.isBare⟩

/-- A sign is made of the characters of a number, that of an exponent too. -/
theorem isBare_of_sign {sign : Text} (isSign : sign ∈ [[], ['+'], ['-']]) :
    ∀ c ∈ sign, isBare c = true := by
  simp only [List.mem_cons, List.not_mem_nil, or_false] at isSign
  rcases isSign with rfl | rfl | rfl <;> exact List.all_eq_true.mp rfl

/-- An exponent can stand in a run. -/
theorem IsExponent.isBare {exponent : Text} (isExponent : IsExponent exponent) :
    ∀ c ∈ exponent, isBare c = true := by
  cases isExponent with
  | none => exact List.forall_mem_nil _
  | letter isLetter isSign isDigits =>
    have behind := List.forall_mem_append.mpr ⟨isBare_of_sign isSign, isDigits.isBare⟩
    refine List.forall_mem_cons.mpr ⟨?_, behind⟩
    rcases isLetter with rfl | rfl <;> decide

/-- Every number is a run. -/
theorem Number.isRun {written : Text} {v : Value} (number : Number written v) :
    IsRun written := by
  have minus {sign : Text} (isSign : sign ∈ [[], ['-']]) : ∀ c ∈ sign, isBare c = true :=
    isBare_of_sign (by simp only [List.mem_cons, List.not_mem_nil, or_false] at isSign ⊢; tauto)
  cases number with
  | integer isSign isWhole =>
    exact ⟨List.append_ne_nil_of_right_ne_nil _ isWhole.1.1,
      List.forall_mem_append.mpr ⟨minus isSign, isWhole.1.isBare⟩⟩
  | real isSign isWhole isFraction isExponent =>
    refine ⟨by simp [isWhole.1.1], ?_⟩
    simp only [List.forall_mem_append]
    exact ⟨⟨⟨minus isSign, isWhole.1.isBare⟩, isFraction.isBare⟩, isExponent.isBare⟩

/-- The run at the beginning of a text stands there. -/
theorem exists_bareRun (text : List Code) : ∃ rest, text = Code.ofText (bareRun text) ++ rest := by
  fun_induction bareRun text with
  | case1 c text bare ih =>
    obtain ⟨rest, same⟩ := ih
    exact ⟨rest, congrArg (Code.char c :: ·) same⟩
  | case2 => exact ⟨_, rfl⟩
  | case3 => exact ⟨_, rfl⟩

/-- A run in front of something that stops values is taken as a whole. -/
theorem bareRun_append {run : Text} (bare : ∀ c ∈ run, isBare c = true) {rest : List Code}
    (stops : Stops rest) : bareRun (Code.ofText run ++ rest) = run := by
  induction run with
  | nil =>
    rw [Code.ofText_nil, List.nil_append, bareRun.eq_def]
    split
    · next c text =>
      have notBare : isBare c = false := by
        have delimiter := stops _ rfl
        simp only [isDelimiter, isGap, Bool.or_eq_true, beq_iff_eq, Code.char.injEq,
          or_assoc] at delimiter
        rcases delimiter with rfl | rfl | rfl | rfl | rfl | rfl | rfl <;> decide
      exact if_neg (Bool.eq_false_iff.mp notBare)
    · rfl
  | cons c run ih =>
    obtain ⟨isBare, others⟩ := List.forall_mem_cons.mp bare
    rw [Code.ofText_cons, List.cons_append, bareRun, if_pos isBare, ih others]

/-- What is left of a run stands in front of what follows it. -/
theorem drop_bareRun {text : List Code} {written left : Text}
    (same : bareRun text = written ++ left) :
    text = Code.ofText written ++ text.drop ((bareRun text).length - left.length) := by
  obtain ⟨rest, whole⟩ := exists_bareRun text
  have begins : text = Code.ofText written ++ (Code.ofText left ++ rest) := by
    rw [whole, same, Code.ofText_append, List.append_assoc]
  have count : (bareRun text).length - left.length = (Code.ofText written).length := by
    rw [same, List.length_append, Nat.add_sub_cancel, Code.length_ofText]
  rw [count]
  nth_rewrite 1 [begins]
  rw [begins, List.drop_left]

/-- What is read at the beginning of a run is a word or a number that stands there. -/
theorem readBare_sound {text rest : List Code} {v : Value}
    (read : readBare text = .ok (v, rest)) :
    ∃ written, text = Code.ofText written ++ rest ∧ ((written, v) ∈ words ∨ Number written v) := by
  rw [readBare.eq_def] at read
  dsimp only at read
  split at read
  · next found isFound =>
    cases read
    obtain ⟨word, isWord, whole⟩ := readWord?_sound isFound
    exact ⟨word, drop_bareRun whole, .inl isWord⟩
  · split at read
    · next isFound =>
      cases read
      obtain ⟨written, whole, number⟩ := readNumber?_sound isFound
      exact ⟨written, drop_bareRun whole, .inr number⟩
    · cases read
    · cases read

/-- A word or a number is read to its end where something follows that is no part of it. -/
theorem readBare_complete {written : Text} {v : Value}
    (isWritten : (written, v) ∈ words ∨ Number written v) {rest : List Code}
    (stops : Stops rest) : readBare (Code.ofText written ++ rest) = .ok (v, rest) := by
  have bare : ∀ c ∈ written, isBare c = true :=
    isWritten.elim (fun isWord => (isRun_of_word isWord).2) fun number => number.isRun.2
  have behind : (Code.ofText written ++ rest).drop (written.length - 0) = rest := by
    rw [Nat.sub_zero, ← Code.length_ofText written, List.drop_left]
  rw [readBare.eq_def, bareRun_append bare stops]
  dsimp only
  rcases isWritten with isWord | number
  · rw [readWord?_word isWord]
    exact congrArg (fun left => Except.ok (v, left)) behind
  · rw [readWord?_number number, readNumber?_complete number]
    exact congrArg (fun left => Except.ok (v, left)) behind

/-! ## One step of the reader -/

/-- What is read behind an item: the end of the list, or the items that follow. -/
def readItemsBehind (fuel : Nat) (item : Value) (text : List Code) :
    Except Error (List Value × List Code) :=
  match skipGap text with
  | .char ']' :: rest => .ok ([item], rest)
  | .char ',' :: rest =>
    readItems fuel (skipGap rest) >>= fun (items, rest) => .ok (item :: items, rest)
  | rest => faultAt .expectingComma rest

/-- What is read behind a member: the end of the dictionary, or the members that follow. -/
def readMembersBehind (fuel : Nat) (entries : List (Value × Value)) (text : List Code) :
    Except Error (List (Value × Value) × List Code) :=
  match skipGap text with
  | .char '\x7d' :: rest => .ok (entries, rest)
  | .char ',' :: rest => readMembers fuel entries (skipGap rest)
  | rest => faultAt .expectingComma rest

/-- What is read behind the name of a member: its value, and the members that follow. -/
def readNameBehind (fuel : Nat) (entries : List (Value × Value)) (key text : List Code) :
    Except Error (List (Value × Value) × List Code) :=
  match skipGap text with
  | .char ':' :: rest => readValue fuel (skipGap rest) >>= fun (value, rest) =>
    readMembersBehind fuel (Value.put (.ofCodes key) value entries) rest
  | rest => faultAt .expectingColon rest

section Steps

variable (fuel : Nat) (text : List Code)

/-- A quote begins a string. -/
theorem readValue_quote :
    readValue (fuel + 1) (.char '"' :: text) =
      readString (text.length + 1) (text.length + 1) [] text >>= fun (s, rest) =>
        .ok (.ofCodes s, rest) := rfl

/-- A bracket begins a list, which ends at once or has items. -/
theorem readValue_bracket :
    readValue (fuel + 1) (.char '[' :: text) =
      match skipGap text with
      | .char ']' :: rest => .ok (.list [], rest)
      | rest => readItems fuel rest >>= fun (items, rest) => .ok (.list items, rest) := rfl

/-- A brace begins a dictionary, which ends at once or has members. -/
theorem readValue_brace :
    readValue (fuel + 1) (.char '\x7b' :: text) =
      match skipGap text with
      | .char '\x7d' :: rest => .ok (.dict [], rest)
      | rest => readMembers fuel [] rest >>= fun (entries, rest) =>
        .ok (.dict entries, rest) := rfl

/-- The items of a list are a value and what is read behind it. -/
theorem readItems_succ :
    readItems (fuel + 1) text =
      readValue fuel text >>= fun (item, rest) => readItemsBehind fuel item rest := rfl

/-- The members of a dictionary are a name and what is read behind it. -/
theorem readMembers_quote (entries : List (Value × Value)) :
    readMembers (fuel + 1) entries (.char '"' :: text) =
      readString (text.length + 1) (text.length + 1) [] text >>= fun (key, rest) =>
        readNameBehind fuel entries key rest := rfl

end Steps

/-! ## What is read is written -/

/-- Values that are read are written in front of what is left. -/
def ValuesWritten (fuel : Nat) : Prop :=
  ∀ text v rest, readValue fuel text = .ok (v, rest) →
    ∃ written, text = written ++ rest ∧ Writes (.value v) written

/-- Items that are read are written in front of a bracket. -/
def ItemsWritten (fuel : Nat) : Prop :=
  ∀ text items rest, readItems fuel text = .ok (items, rest) →
    ∃ written back, text = written ++ (back ++ .char ']' :: rest) ∧ IsGap back ∧
      Writes (.items items) written

/-- Members that are read are written in front of a brace. -/
def MembersWritten (fuel : Nat) : Prop :=
  ∀ text entries stored rest, readMembers fuel entries text = .ok (stored, rest) →
    ∃ written back members, text = written ++ (back ++ .char '\x7d' :: rest) ∧ IsGap back ∧
      Writes (.members members) written ∧ stored = putAll entries members

/-- Values are written if, with one level less, items and members are. -/
theorem valuesWritten_succ {fuel : Nat} (items : ItemsWritten fuel)
    (members : MembersWritten fuel) : ValuesWritten (fuel + 1) := by
  intro text v rest read
  rw [readValue.eq_def] at read
  dsimp only at read
  split at read
  · next behind =>
    obtain ⟨⟨s, left⟩, string, read⟩ := bind_eq_ok_iff.mp read
    cases read
    obtain ⟨spelling, rfl, spelled⟩ := readString_eq_ok_iff.mp string
    exact ⟨.char '"' :: (spelling ++ [.char '"']), by simp, .text spelled⟩
  · next behind =>
    obtain ⟨front, isFront, whole⟩ := exists_skipGap behind
    split at read
    · next left ended =>
      cases read
      exact ⟨_, by rw [whole, ended]; simp, .noMembers isFront⟩
    · obtain ⟨⟨entries, left⟩, inner, read⟩ := bind_eq_ok_iff.mp read
      cases read
      obtain ⟨written, back, stored, same, isBack, writes, rfl⟩ := members _ _ _ _ inner
      exact ⟨_, by rw [whole, same]; simp, .dict isFront isBack writes⟩
  · next behind =>
    obtain ⟨front, isFront, whole⟩ := exists_skipGap behind
    split at read
    · next left ended =>
      cases read
      exact ⟨_, by rw [whole, ended]; simp, .noItems isFront⟩
    · obtain ⟨⟨stored, left⟩, inner, read⟩ := bind_eq_ok_iff.mp read
      cases read
      obtain ⟨written, back, same, isBack, writes⟩ := items _ _ _ inner
      exact ⟨_, by rw [whole, same]; simp, .list isFront isBack writes⟩
  · obtain ⟨written, whole, isWord | number⟩ := readBare_sound read
    · exact ⟨_, whole, .word isWord⟩
    · exact ⟨_, whole, .number number⟩

/-- Items are written if, with one level less, values and items are. -/
theorem itemsWritten_succ {fuel : Nat} (values : ValuesWritten fuel)
    (items : ItemsWritten fuel) : ItemsWritten (fuel + 1) := by
  intro text stored rest read
  rw [readItems_succ] at read
  obtain ⟨⟨item, behind⟩, value, next⟩ := bind_eq_ok_iff.mp read
  obtain ⟨written, begins, writes⟩ := values _ _ _ value
  obtain ⟨back, isBack, whole⟩ := exists_skipGap behind
  dsimp only [readItemsBehind] at next
  split at next
  · next left ended =>
    cases next
    exact ⟨written, back, by rw [begins, whole, ended], isBack, .lastItem writes⟩
  · next left more =>
    obtain ⟨⟨others, later⟩, inner, made⟩ := bind_eq_ok_iff.mp next
    cases made
    obtain ⟨front, isFront, goesOn⟩ := exists_skipGap left
    obtain ⟨otherWritten, otherBack, same, isOtherBack, otherWrites⟩ := items _ _ _ inner
    refine ⟨_, otherBack, ?_, isOtherBack, .nextItem isBack isFront writes otherWrites⟩
    rw [begins, whole, more, goesOn, same]
    simp
  · cases next

/-- Members are written if, with one level less, values and members are. -/
theorem membersWritten_succ {fuel : Nat} (values : ValuesWritten fuel)
    (members : MembersWritten fuel) : MembersWritten (fuel + 1) := by
  intro text entries stored rest read
  by_cases quoted : ∃ behind, text = .char '"' :: behind
  · obtain ⟨behind, rfl⟩ := quoted
    rw [readMembers_quote] at read
    obtain ⟨⟨key, afterKey⟩, string, next⟩ := bind_eq_ok_iff.mp read
    obtain ⟨spelling, isKey, spelled⟩ := readString_eq_ok_iff.mp string
    obtain ⟨keyBack, isKeyBack, keyWhole⟩ := exists_skipGap afterKey
    dsimp only [readNameBehind] at next
    split at next
    · next afterColon colon =>
      obtain ⟨⟨value, afterValue⟩, inner, last⟩ := bind_eq_ok_iff.mp next
      obtain ⟨valueFront, isValueFront, valueBegins⟩ := exists_skipGap afterColon
      obtain ⟨written, same, writes⟩ := values _ _ _ inner
      have member := Writes.member spelled isKeyBack isValueFront writes
      obtain ⟨back, isBack, whole⟩ := exists_skipGap afterValue
      have begins : .char '"' :: behind =
          .char '"' :: (spelling ++ .char '"' :: (keyBack ++ .char ':' :: (valueFront ++ written))) ++
            (back ++ skipGap afterValue) := by
        rw [← whole, isKey, keyWhole, colon, valueBegins, same]
        simp
      -- Behind a member a brace ends the dictionary, or a comma makes it go on.
      dsimp only [readMembersBehind] at last
      split at last
      · next left ended =>
        cases last
        refine ⟨_, back, [(key, value)], ?_, isBack, .lastMember member, rfl⟩
        rw [begins, ended]
      · next left more =>
        obtain ⟨front, isFront, goesOn⟩ := exists_skipGap left
        obtain ⟨otherWritten, otherBack, others, otherSame, isOtherBack, otherWrites, rfl⟩ :=
          members _ _ _ _ last
        refine ⟨_, otherBack, (key, value) :: others, ?_, isOtherBack,
          .nextMember isBack isFront member otherWrites, rfl⟩
        rw [begins, more, goesOn, otherSame]
        simp
      · cases last
    · cases next
  · rw [readMembers.eq_def] at read
    dsimp only at read
    split at read
    · next behind => exact absurd ⟨behind, rfl⟩ quoted
    · cases read

/-- What is read with any depth is written. -/
theorem all_written (fuel : Nat) :
    ValuesWritten fuel ∧ ItemsWritten fuel ∧ MembersWritten fuel := by
  induction fuel with
  | zero =>
    refine ⟨?_, ?_, ?_⟩
    · intro text v rest read
      cases read
    · intro text items rest read
      cases read
    · intro text entries stored rest read
      cases read
  | succ fuel ih =>
    obtain ⟨values, items, members⟩ := ih
    exact ⟨valuesWritten_succ items members, itemsWritten_succ values items,
      membersWritten_succ values members⟩

/-! ## What is written is read -/

/-- A code that a part of a document can begin with: it is no blank, and not the end of a list or
of a dictionary. -/
structure Opens (c : Code) : Prop where
  printable : 32 < c.toNat
  notBracket : c ≠ .char ']'
  notBrace : c ≠ .char '\x7d'

/-- What a part of a document begins with is no gap. -/
theorem Opens.solid {c : Code} (opens : Opens c) : isGap c = false := by
  have differs {d : Char} (low : d.toNat ≤ 32) : (c == .char d) = false := by
    rw [beq_eq_false_iff_ne]
    rintro rfl
    exact absurd opens.printable (Nat.not_lt.mpr low)
  rw [isGap, differs (by decide), differs (by decide), differs (by decide), differs (by decide)]
  rfl

/-- Words and numbers open parts of a document. -/
theorem opens_of_isBare {c : Char} (bare : isBare c = true) : Opens (.char c) := by
  have differs {d : Char} (other : isBare d = false) : Code.char c ≠ .char d :=
    fun same => ne_of_isBare bare other (Code.char.inj same)
  exact ⟨printable_of_isBare bare, differs (by decide), differs (by decide)⟩

/-- Every part of a document begins with a code that opens one. -/
theorem Writes.exists_cons {piece : Piece} {written : List Code} (writes : Writes piece written) :
    ∃ c more, written = c :: more ∧ Opens c := by
  have run {written : Text} (isRun : IsRun written) :
      ∃ c more, Code.ofText written = c :: more ∧ Opens c := by
    obtain ⟨c, more, rfl, bare⟩ := isRun.exists_cons
    exact ⟨.char c, _, rfl, opens_of_isBare bare⟩
  induction writes with
  | word isWord => exact run (isRun_of_word isWord)
  | number number => exact run number.isRun
  | text | member => exact ⟨.char '"', _, rfl, by decide, by decide, by decide⟩
  | noItems | list => exact ⟨.char '[', _, rfl, by decide, by decide, by decide⟩
  | noMembers | dict => exact ⟨.char '\x7b', _, rfl, by decide, by decide, by decide⟩
  | lastItem inner ih => exact ih
  | lastMember inner ih => exact ih
  | nextItem _ _ _ _ ih =>
    obtain ⟨c, more, rfl, opens⟩ := ih
    exact ⟨c, _, rfl, opens⟩
  | nextMember _ _ _ _ ih =>
    obtain ⟨c, more, rfl, opens⟩ := ih
    exact ⟨c, _, rfl, opens⟩

/-- A gap in front of a part of a document is skipped. -/
theorem Writes.skipGap {piece : Piece} {written front : List Code} (writes : Writes piece written)
    (isFront : IsGap front) (rest : List Code) :
    Json.skipGap (front ++ (written ++ rest)) = written ++ rest := by
  obtain ⟨c, more, rfl, opens⟩ := writes.exists_cons
  exact skipGap_cons isFront opens.solid (more ++ rest)

/-- How a part of a document is read in front of what may follow it, when enough depth is left. -/
def Piece.IsRead : Piece → List Code → Prop
  | value v, written => ∀ fuel rest, 2 * written.length ≤ fuel → Stops rest →
      readValue fuel (written ++ rest) = .ok (v, rest)
  | items all, written => ∀ fuel back rest, 2 * written.length < fuel → IsGap back →
      readItems fuel (written ++ (back ++ .char ']' :: rest)) = .ok (all, rest)
  | member key v, written => ∀ fuel entries rest, 2 * written.length ≤ fuel + 1 → Stops rest →
      readMembers (fuel + 1) entries (written ++ rest) =
        readMembersBehind fuel (Value.put (.ofCodes key) v entries) rest
  | members all, written => ∀ fuel entries back rest, 2 * written.length < fuel → IsGap back →
      readMembers fuel entries (written ++ (back ++ .char '\x7d' :: rest)) =
        .ok (putAll entries all, rest)

/-- What begins neither a string nor a list nor a dictionary is read as a word or a number. -/
theorem readValue_bare {fuel : Nat} {c : Char} (bare : isBare c = true) (text : List Code) :
    readValue (fuel + 1) (.char c :: text) = readBare (.char c :: text) := by
  have differs {d : Char} (other : isBare d = false) {rest : List Code}
      (same : Code.char c :: text = .char d :: rest) : False :=
    ne_of_isBare bare other (Code.char.inj (List.cons.inj same).1)
  rw [readValue.eq_def]
  dsimp only
  split
  · next same => exact (differs (by decide) same).elim
  · next same => exact (differs (by decide) same).elim
  · next same => exact (differs (by decide) same).elim
  · rfl

/-- Words and numbers are read where they are written. -/
theorem isRead_bare {written : Text} {v : Value} (isRun : IsRun written)
    (isWritten : (written, v) ∈ words ∨ Number written v) :
    (Piece.value v).IsRead (Code.ofText written) := by
  intro fuel rest enough stops
  have read := readBare_complete isWritten stops
  obtain ⟨c, more, rfl, bare⟩ := isRun.exists_cons
  cases fuel with
  | zero => cases enough
  | succ fuel => exact (readValue_bare bare _).trans read

/-- Strings are read where they are written. -/
theorem isRead_text {written s : List Code} (spelled : Spells written s) :
    (Piece.value (.ofCodes s)).IsRead (.char '"' :: (written ++ [.char '"'])) := by
  intro fuel rest enough stops
  cases fuel with
  | zero => cases enough
  | succ fuel =>
    rw [List.cons_append, List.append_assoc, List.singleton_append, readValue_quote,
      readString_eq_ok_iff.mpr ⟨written, rfl, spelled⟩]
    rfl

section Complete

variable {written front back rest : List Code} {v : Value}

/-- A bracket behind an item ends the list. -/
theorem readItemsBehind_end (isBack : IsGap back) (fuel : Nat) (item : Value) (rest : List Code) :
    readItemsBehind fuel item (back ++ .char ']' :: rest) = .ok ([item], rest) := by
  rw [readItemsBehind, skipGap_cons isBack (by decide)]
  rfl

/-- A comma behind an item brings more of them. -/
theorem readItemsBehind_next (isBack : IsGap back) (fuel : Nat) (item : Value) (rest : List Code) :
    readItemsBehind fuel item (back ++ .char ',' :: rest) =
      readItems fuel (skipGap rest) >>= fun (items, rest) => .ok (item :: items, rest) := by
  rw [readItemsBehind, skipGap_cons isBack (by decide)]
  rfl

/-- A brace behind a member ends the dictionary. -/
theorem readMembersBehind_end (isBack : IsGap back) (fuel : Nat)
    (entries : List (Value × Value)) (rest : List Code) :
    readMembersBehind fuel entries (back ++ .char '\x7d' :: rest) = .ok (entries, rest) := by
  rw [readMembersBehind, skipGap_cons isBack (by decide)]
  rfl

/-- A comma behind a member brings more of them. -/
theorem readMembersBehind_next (isBack : IsGap back) (fuel : Nat)
    (entries : List (Value × Value)) (rest : List Code) :
    readMembersBehind fuel entries (back ++ .char ',' :: rest) =
      readMembers fuel entries (skipGap rest) := by
  rw [readMembersBehind, skipGap_cons isBack (by decide)]
  rfl

/-- A colon behind a name brings the value of the member. -/
theorem readNameBehind_colon (isBack : IsGap back) (fuel : Nat)
    (entries : List (Value × Value)) (key rest : List Code) :
    readNameBehind fuel entries key (back ++ .char ':' :: rest) =
      readValue fuel (skipGap rest) >>= fun (value, rest) =>
        readMembersBehind fuel (Value.put (.ofCodes key) value entries) rest := by
  rw [readNameBehind, skipGap_cons isBack (by decide)]
  rfl

/-- A list without items is read where it is written. -/
theorem isRead_noItems (isFront : IsGap front) :
    (Piece.value (.list [])).IsRead (.char '[' :: (front ++ [.char ']'])) := by
  intro fuel rest enough stops
  cases fuel with
  | zero => cases enough
  | succ fuel =>
    rw [List.cons_append, List.append_assoc, List.singleton_append, readValue_bracket,
      skipGap_cons isFront (by decide)]
    rfl

/-- A list is read where it is written if its items are. -/
theorem isRead_list {items : List Value} (isFront : IsGap front) (isBack : IsGap back)
    (inner : Writes (.items items) written) (isRead : (Piece.items items).IsRead written) :
    (Piece.value (.list items)).IsRead (.char '[' :: (front ++ (written ++ (back ++ [.char ']'])))) := by
  intro fuel rest enough stops
  simp only [List.length_cons, List.length_append] at enough
  cases fuel with
  | zero => omega
  | succ fuel =>
    have innerRead := isRead fuel back rest (by omega) isBack
    simp only [List.cons_append, List.append_assoc, List.nil_append]
    rw [readValue_bracket, inner.skipGap isFront]
    obtain ⟨c, behind, rfl, opens⟩ := inner.exists_cons
    rw [List.cons_append] at innerRead ⊢
    split
    · next same => exact absurd (List.cons.inj same).1 opens.notBracket
    · rw [innerRead]
      rfl

/-- A dictionary without members is read where it is written. -/
theorem isRead_noMembers (isFront : IsGap front) :
    (Piece.value (.dict [])).IsRead (.char '\x7b' :: (front ++ [.char '\x7d'])) := by
  intro fuel rest enough stops
  cases fuel with
  | zero => cases enough
  | succ fuel =>
    rw [List.cons_append, List.append_assoc, List.singleton_append, readValue_brace,
      skipGap_cons isFront (by decide)]
    rfl

/-- A dictionary is read where it is written if its members are. -/
theorem isRead_dict {members : List (List Code × Value)} (isFront : IsGap front)
    (isBack : IsGap back) (inner : Writes (.members members) written)
    (isRead : (Piece.members members).IsRead written) :
    (Piece.value (.dict (putAll [] members))).IsRead
      (.char '\x7b' :: (front ++ (written ++ (back ++ [.char '\x7d'])))) := by
  intro fuel rest enough stops
  simp only [List.length_cons, List.length_append] at enough
  cases fuel with
  | zero => omega
  | succ fuel =>
    have innerRead := isRead fuel [] back rest (by omega) isBack
    simp only [List.cons_append, List.append_assoc, List.nil_append]
    rw [readValue_brace, inner.skipGap isFront]
    obtain ⟨c, behind, rfl, opens⟩ := inner.exists_cons
    rw [List.cons_append] at innerRead ⊢
    split
    · next same => exact absurd (List.cons.inj same).1 opens.notBrace
    · rw [innerRead]
      rfl

/-- The last item is read as items if it is read as a value. -/
theorem isRead_lastItem (isRead : (Piece.value v).IsRead written) :
    (Piece.items [v]).IsRead written := by
  intro fuel back rest enough isBack
  cases fuel with
  | zero => cases enough
  | succ fuel =>
    have stops : Stops (back ++ .char ']' :: rest) := stops_gap isBack (by decide) rest
    rw [readItems_succ, isRead fuel _ (Nat.le_of_lt_succ enough) stops]
    exact readItemsBehind_end isBack fuel v rest

/-- An item in front of others is read if it and the others are. -/
theorem isRead_nextItem {items : List Value} {others : List Code} (isBack : IsGap back)
    (isFront : IsGap front) (isRead : (Piece.value v).IsRead written)
    (more : Writes (.items items) others) (othersRead : (Piece.items items).IsRead others) :
    (Piece.items (v :: items)).IsRead (written ++ (back ++ .char ',' :: (front ++ others))) := by
  intro fuel last rest enough isLast
  simp only [List.length_cons, List.length_append] at enough
  cases fuel with
  | zero => omega
  | succ fuel =>
    simp only [List.cons_append, List.append_assoc]
    have stops := stops_gap isBack (c := .char ',') (by decide)
      (front ++ (others ++ (last ++ .char ']' :: rest)))
    rw [readItems_succ, isRead fuel _ (by omega) stops]
    refine (readItemsBehind_next isBack fuel v _).trans ?_
    rw [more.skipGap isFront, othersRead fuel last rest (by omega) isLast]
    rfl

/-- A member is read where it is written if its value is. -/
theorem isRead_member {spelling key : List Code} (spelled : Spells spelling key)
    (isBack : IsGap back) (isFront : IsGap front) (inner : Writes (.value v) written)
    (isRead : (Piece.value v).IsRead written) :
    (Piece.member key v).IsRead
      (.char '"' :: (spelling ++ .char '"' :: (back ++ .char ':' :: (front ++ written)))) := by
  intro fuel entries rest enough stops
  simp only [List.length_cons, List.length_append] at enough
  simp only [List.cons_append, List.append_assoc]
  rw [readMembers_quote, readString_eq_ok_iff.mpr ⟨spelling, rfl, spelled⟩]
  refine (readNameBehind_colon isBack fuel entries key _).trans ?_
  rw [inner.skipGap isFront, isRead fuel rest (by omega) stops]
  rfl

/-- The last member is read as members if it is read as one. -/
theorem isRead_lastMember {key : List Code} (isRead : (Piece.member key v).IsRead written) :
    (Piece.members [(key, v)]).IsRead written := by
  intro fuel entries back rest enough isBack
  cases fuel with
  | zero => cases enough
  | succ fuel =>
    have stops : Stops (back ++ .char '\x7d' :: rest) := stops_gap isBack (by decide) rest
    rw [isRead fuel entries _ (Nat.le_of_lt enough) stops]
    exact readMembersBehind_end isBack fuel _ rest

/-- A member in front of others is read if it and the others are. -/
theorem isRead_nextMember {key others : List Code} {members : List (List Code × Value)}
    (isBack : IsGap back) (isFront : IsGap front) (isRead : (Piece.member key v).IsRead written)
    (more : Writes (.members members) others)
    (othersRead : (Piece.members members).IsRead others) :
    (Piece.members ((key, v) :: members)).IsRead
      (written ++ (back ++ .char ',' :: (front ++ others))) := by
  intro fuel entries last rest enough isLast
  simp only [List.length_cons, List.length_append] at enough
  cases fuel with
  | zero => omega
  | succ fuel =>
    simp only [List.cons_append, List.append_assoc]
    have stops := stops_gap isBack (c := .char ',') (by decide)
      (front ++ (others ++ (last ++ .char '\x7d' :: rest)))
    rw [isRead fuel entries _ (by omega) stops, readMembersBehind_next isBack,
      more.skipGap isFront, othersRead fuel _ last rest (by omega) isLast]
    rfl

end Complete

/-- Every part of a document is read where it is written. -/
theorem Writes.isRead {piece : Piece} {written : List Code} (writes : Writes piece written) :
    piece.IsRead written := by
  induction writes with
  | word isWord => exact isRead_bare (isRun_of_word isWord) (.inl isWord)
  | number number => exact isRead_bare number.isRun (.inr number)
  | text spelled => exact isRead_text spelled
  | noItems isFront => exact isRead_noItems isFront
  | list isFront isBack inner ih => exact isRead_list isFront isBack inner ih
  | noMembers isFront => exact isRead_noMembers isFront
  | dict isFront isBack inner ih => exact isRead_dict isFront isBack inner ih
  | lastItem _ ih => exact isRead_lastItem ih
  | nextItem isBack isFront _ more ih moreIh =>
    exact isRead_nextItem isBack isFront ih more moreIh
  | member spelled isBack isFront inner ih =>
    exact isRead_member spelled isBack isFront inner ih
  | lastMember _ ih => exact isRead_lastMember ih
  | nextMember isBack isFront _ more ih moreIh =>
    exact isRead_nextMember isBack isFront ih more moreIh

/-- A text is read as a value exactly if it writes that value. -/
theorem read_eq_ok_iff {text : List Code} {v : Value} : read text = .ok v ↔ Document text v := by
  constructor
  · intro isRead
    obtain ⟨⟨value, behind⟩, isValue, rest⟩ := bind_eq_ok_iff.mp isRead
    obtain ⟨front, isFront, begins⟩ := exists_skipGap text
    obtain ⟨back, isBack, whole⟩ := exists_skipGap behind
    obtain ⟨written, same, writes⟩ := (all_written _).1 _ _ _ isValue
    dsimp only at rest
    split at rest
    · next ended =>
      cases rest
      refine ⟨front, written, back, ?_, isFront, isBack, writes⟩
      rw [begins, same, whole, ended, List.append_nil]
    · cases rest
  · rintro ⟨front, written, back, rfl, isFront, isBack, writes⟩
    have enough : 2 * written.length ≤ 2 * (front ++ (written ++ back)).length + 2 := by
      simp only [List.length_append]
      omega
    have ended : skipGap back = [] := List.dropWhile_eq_nil_iff.mpr isBack
    have isValue := writes.isRead _ back enough (stops_of_isGap isBack)
    refine bind_eq_ok_iff.mpr ⟨(v, back), (writes.skipGap isFront back).symm ▸ isValue, ?_⟩
    dsimp only
    rw [ended]
    rfl

end Json

end Loremark
