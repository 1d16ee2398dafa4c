import Loremark.Embed.Extract
import Loremark.Proofs.Text.Numerals
import Loremark.Proofs.Text.Occurrence
import Mathlib.Data.Fintype.Card

/-!
# Tokens

A token is made of capital letters and digits, and the letter that it begins with stands nowhere
else in it. So two occurrences of tokens in one text never overlap: whatever surrounds a token, an
occurrence of another one lies in front of it, behind it, or is the token itself
(`token_occurrence`). The digits in a token are delimited by letters, so that no prefix is the
beginning of another one; since every occurring prefix then takes a place of its own, a text is too
short for all the prefixes that are tried, and the one that is chosen occurs nowhere
(`freshPrefix_not_infix`).
-/

set_option autoImplicit false

namespace Loremark.Embed

/-- The characters that tokens consist of. -/
def isTokenChar (c : Char) : Bool := ('A' ≤ c && c ≤ 'Z') || Text.isDigit c

/-- Texts that look like tokens: capitals and digits behind the common stem, and the first letter
stands in front only. -/
structure IsToken (token : Text) : Prop where
  begins : stem <+: token
  head : ∃ tail, token = 'S' :: tail ∧ 'S' ∉ tail
  chars : ∀ c ∈ token, isTokenChar c = true

/-! ## Digits -/

/-- The digits of a salt as they stand in a prefix. -/
def saltDigits (salt : Nat) : Text := if salt == 0 then [] else Text.ofNat salt

/-- A prefix is the stem, the digits of its salt, and a letter behind them. -/
theorem saltedPrefix_eq (salt : Nat) : saltedPrefix salt = stem ++ (saltDigits salt ++ ['Q']) := by
  rw [saltedPrefix, saltDigits, List.append_assoc]

/-- The digits of a salt are digits of ASCII. -/
theorem isDigit_of_mem_saltDigits {salt : Nat} {c : Char} (digit : c ∈ saltDigits salt) :
    Text.isDigit c = true := by
  rw [saltDigits] at digit
  split at digit
  · cases digit
  · exact Text.isDigit_of_mem_ofNat digit

/-- Salts are told apart by their digits. -/
theorem saltDigits_injective : Function.Injective saltDigits := by
  intro m n same
  rw [saltDigits, saltDigits] at same
  split at same <;> split at same
  · simp_all
  · exact absurd same.symm Nat.toDigits_ne_nil
  · exact absurd same Nat.toDigits_ne_nil
  · exact Text.ofNat_injective same

/-- A letter stands nowhere in a text of digits. -/
theorem not_mem_of_digits {digits : Text} {letter : Char}
    (all : ∀ c ∈ digits, Text.isDigit c = true) (other : Text.isDigit letter = false) :
    letter ∉ digits := by
  intro mem
  rw [all letter mem] at other
  cases other

/-! ## Tokens of a prefix -/

/-- The letter that a prefix begins with stands in front only. -/
theorem saltedPrefix_head (salt : Nat) : ∃ tail, saltedPrefix salt = 'S' :: tail ∧ 'S' ∉ tail := by
  have free : 'S' ∉ saltDigits salt :=
    not_mem_of_digits (fun _ digit => isDigit_of_mem_saltDigits digit) rfl
  refine ⟨"POILERDOWNEMBED".toList ++ (saltDigits salt ++ ['Q']), ?_, by simp [free]⟩
  rw [saltedPrefix_eq]
  rfl

/-- A prefix with a number and a letter behind it looks like a token. -/
theorem isToken_tokenOf (salt index : Nat) : IsToken (tokenOf (saltedPrefix salt) index) := by
  have free : 'S' ∉ Text.ofNat index :=
    not_mem_of_digits (fun _ digit => Text.isDigit_of_mem_ofNat digit) rfl
  obtain ⟨tail, head, once⟩ := saltedPrefix_head salt
  constructor
  · rw [tokenOf, saltedPrefix_eq, List.append_assoc, List.append_assoc]
    exact List.prefix_append _ _
  · refine ⟨tail ++ Text.ofNat index ++ ['E'], ?_, by simp [once, free]⟩
    rw [tokenOf, head]
    rfl
  · intro c mem
    rw [tokenOf, saltedPrefix_eq, List.mem_append, List.mem_append, List.mem_append,
      List.mem_append] at mem
    have ofDigit {c : Char} (digit : Text.isDigit c = true) : isTokenChar c = true := by
      rw [isTokenChar, digit, Bool.or_true]
    rcases mem with ((inStem | inSalt | inMark) | inIndex) | inEnd
    · have all : stem.all isTokenChar = true := by decide
      exact List.all_eq_true.mp all c inStem
    · exact ofDigit (isDigit_of_mem_saltDigits inSalt)
    · rw [List.mem_singleton.mp inMark]
      rfl
    · exact ofDigit (Text.isDigit_of_mem_ofNat inIndex)
    · rw [List.mem_singleton.mp inEnd]
      rfl

/-- Two tokens of one prefix that begin the same text are those of the same embed: the letter
behind the digits keeps a token from being the beginning of another one. -/
theorem index_eq_of_begins {start text : Text} {i j : Nat}
    (begins : tokenOf start i <+: text) (otherBegins : tokenOf start j <+: text) : i = j := by
  rw [tokenOf, List.append_assoc] at begins otherBegins
  obtain ⟨rest, rfl⟩ := begins
  rw [List.append_assoc, List.prefix_append_right_inj] at otherBegins
  have free (n : Nat) : 'E' ∉ Text.ofNat n :=
    not_mem_of_digits (fun _ digit => Text.isDigit_of_mem_ofNat digit) rfl
  exact Text.ofNat_injective (Text.eq_of_delimited_begins (free i) (free j)
    (List.prefix_append _ rest) otherBegins)

/-- No token is empty. -/
theorem IsToken.ne_nil {token : Text} (isToken : IsToken token) : token ≠ [] := by
  obtain ⟨tail, rfl, -⟩ := isToken.head
  exact List.cons_ne_nil _ _

/-- A character of another kind stands in no token. -/
theorem IsToken.not_mem {token : Text} (isToken : IsToken token) {c : Char}
    (foreign : isTokenChar c = false) : c ∉ token := by
  intro mem
  rw [isToken.chars c mem] at foreign
  cases foreign

/-- A text without some letter of the stem holds no token. -/
theorem IsToken.not_within {token : Text} (isToken : IsToken token) {letter : Char} {text : Text}
    (inStem : letter ∈ stem) (free : letter ∉ text) : ¬ token <:+: text := by
  intro here
  exact free (here.subset (isToken.begins.subset inStem))

/-! ## Occurrences of tokens -/

/-- Inside a text that begins with a token, another token begins with it or behind it. -/
theorem token_behind {token other rest front back : Text} (isToken : IsToken token)
    (isOther : IsToken other) (same : token ++ rest = front ++ (other ++ back)) :
    front = [] ∨ ∃ gap, front = token ++ gap := by
  obtain ⟨tail, rfl, once⟩ := isToken.head
  obtain ⟨otherTail, rfl, -⟩ := isOther.head
  rcases List.append_eq_append_iff.mp same with ⟨gap, inFront, -⟩ | ⟨inner, split, begins⟩
  · exact .inr ⟨gap, inFront⟩
  · cases front with
    | nil => exact .inl rfl
    | cons c front =>
      cases inner with
      | nil => exact .inr ⟨[], by rw [split, List.append_nil, List.append_nil]⟩
      | cons d inner =>
        -- The other token would begin inside the first one, where its first letter cannot stand.
        have first : 'S' = d := (List.cons.inj begins).1
        have tail_eq : tail = front ++ d :: inner := (List.cons.inj split).2
        rw [tail_eq, ← first] at once
        exact absurd (List.mem_append_right front List.mem_cons_self) once

/-- Whatever surrounds a token, another one lies in front of it, begins where it begins, or lies
behind it. -/
theorem token_occurrence {token other before rest front back : Text} (isToken : IsToken token)
    (isOther : IsToken other) (same : before ++ (token ++ rest) = front ++ (other ++ back)) :
    (∃ gap, before = front ++ (other ++ gap)) ∨ (front = before ∧ token ++ rest = other ++ back) ∨
      ∃ gap, front = before ++ (token ++ gap) := by
  rcases List.append_eq_append_iff.mp same with ⟨inner, rfl, begins⟩ | ⟨inner, rfl, begins⟩
  · rcases token_behind isToken isOther begins with rfl | ⟨gap, rfl⟩
    · exact .inr (.inl ⟨List.append_nil before, begins⟩)
    · exact .inr (.inr ⟨gap, rfl⟩)
  · rcases token_behind isOther isToken begins with rfl | ⟨gap, rfl⟩
    · exact .inr (.inl ⟨(List.append_nil front).symm, begins.symm⟩)
    · exact .inl ⟨gap, rfl⟩

/-! ## The prefix of a text -/

/-- Two prefixes that begin the same text have the same salt. -/
theorem salt_eq_of_begins {text : Text} {m n : Nat} (begins : saltedPrefix m <+: text)
    (otherBegins : saltedPrefix n <+: text) : m = n := by
  rw [saltedPrefix_eq] at begins otherBegins
  obtain ⟨rest, rfl⟩ := begins
  rw [List.append_assoc, List.prefix_append_right_inj] at otherBegins
  have free (salt : Nat) : 'Q' ∉ saltDigits salt :=
    not_mem_of_digits (fun _ digit => isDigit_of_mem_saltDigits digit) rfl
  exact saltDigits_injective (Text.eq_of_delimited_begins (free m) (free n)
    (List.prefix_append _ rest) otherBegins)

/-- Every occurring prefix takes a place of its own, so a text has at least as many characters as
prefixes that occur in it. -/
theorem salts_le_length {text : Text} {salts : Nat}
    (occur : ∀ salt < salts, saltedPrefix salt <:+: text) : salts ≤ text.length := by
  have place (salt : Fin salts) :
      ∃ place : Fin text.length, saltedPrefix salt <+: text.drop place := by
    obtain ⟨before, rest, rfl⟩ := occur salt salt.isLt
    have inside : before.length < (before ++ saltedPrefix salt ++ rest).length := by
      simp only [saltedPrefix_eq, List.length_append, List.length_cons]
      omega
    have behind : (before ++ saltedPrefix salt ++ rest).drop before.length =
        saltedPrefix salt ++ rest := by
      rw [List.append_assoc, List.drop_left]
    exact ⟨⟨before.length, inside⟩, rest, behind.symm⟩
  choose at_ found using place
  have injective : Function.Injective at_ := by
    intro m n same
    have otherFound := found n
    rw [← same] at otherFound
    exact Fin.ext (salt_eq_of_begins (found m) otherFound)
  simpa using Fintype.card_le_of_injective at_ injective

/-- There is a least salt whose prefix does not occur in a text, and it is at most the length of the
text. -/
theorem exists_least_salt (text : Text) :
    ∃ least ≤ text.length, ¬ saltedPrefix least <:+: text ∧
      ∀ lower < least, saltedPrefix lower <:+: text := by
  classical
  have exists_free : ∃ salt ≤ text.length, ¬ saltedPrefix salt <:+: text := by
    by_contra! occur
    have tooMany : text.length + 1 ≤ text.length :=
      salts_le_length fun salt less => occur salt (Nat.le_of_lt_succ less)
    omega
  obtain ⟨salt, short, free⟩ := exists_free
  have found : ∃ salt, ¬ saltedPrefix salt <:+: text := ⟨salt, free⟩
  refine ⟨Nat.find found, (Nat.find_min' found free).trans short, Nat.find_spec found, ?_⟩
  intro lower less
  exact not_not.mp (Nat.find_min found less)

/-- A search that has not passed the least salt whose prefix does not occur goes on to it, or as far
as its fuel allows. -/
theorem freshFrom_eq {text : Text} {least : Nat} (free : ¬ saltedPrefix least <:+: text)
    (below : ∀ lower < least, saltedPrefix lower <:+: text) (fuel : Nat) {salt : Nat}
    (reached : salt ≤ least) :
    freshFrom text fuel salt = saltedPrefix (min (salt + fuel) least) := by
  induction fuel generalizing salt with
  | zero => rw [freshFrom, Nat.add_zero, min_eq_left reached]
  | succ fuel ih =>
    rw [freshFrom]
    rcases reached.eq_or_lt with rfl | before
    · rw [Text.occurs_eq_false_iff.mpr free, if_neg Bool.false_ne_true,
        min_eq_right (Nat.le_add_right _ _)]
    · rw [if_pos (Text.occurs_iff.mpr (below salt before)), ih before]
      congr 2
      omega

/-- The prefix of a text has the least salt whose prefix does not occur in it, and that salt is at
most the length of the text. A search that may pass `limit` prefixes ends with that of the salt
`limit` as long as this one is smaller, and from then on with the prefix of the text: so many salts
are passed and not one more. -/
theorem freshPrefix_least (text : Text) :
    ∃ least ≤ text.length, freshPrefix text = saltedPrefix least ∧
      ¬ saltedPrefix least <:+: text ∧ (∀ lower < least, saltedPrefix lower <:+: text) ∧
      ∀ limit, freshFrom text limit 0 = saltedPrefix (min limit least) := by
  obtain ⟨least, short, free, below⟩ := exists_least_salt text
  have search (limit : Nat) : freshFrom text limit 0 = saltedPrefix (min limit least) := by
    rw [freshFrom_eq free below limit (Nat.zero_le least), Nat.zero_add]
  refine ⟨least, short, ?_, free, below, search⟩
  rw [freshPrefix, search, min_eq_right short]

example : freshPrefix "SPOILERDOWNEMBED1Q SPOILERDOWNEMBEDQ".toList = saltedPrefix 2 := by decide

/-- The prefix of a text is a salted one and does not occur in the text. -/
theorem freshPrefix_not_infix (text : Text) :
    ∃ salt, freshPrefix text = saltedPrefix salt ∧ ¬ saltedPrefix salt <:+: text := by
  obtain ⟨least, short, free, below⟩ := exists_least_salt text
  refine ⟨least, ?_, free⟩
  rw [freshPrefix, freshFrom_eq free below text.length (Nat.zero_le least), Nat.zero_add,
    min_eq_right short]

end Loremark.Embed
