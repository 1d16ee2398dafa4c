import Loremark.Embed.Format
import Loremark.Proofs.Embed.Rescan

/-!
# Reading written embeds

What is written for a kind, a number and a label is read back: extraction finds one embed, which is
the whole text, with that kind, that number and the label without the blanks around it. `Refusal`
lists the reasons why nothing is written, which exclude each other; a kind, a number and a label that
give no such reason are written (`extract_format`).
-/

set_option autoImplicit false

namespace Loremark.Embed

/-! ## Kinds, numbers and labels -/

/-- A label, or none, as a value. -/
def labelValue : Option Text → Value
  | none => .null
  | some words => .text words

/-- The label without the blanks around it, if it is more than blanks. -/
def filledLabel (label : Option Text) : Option Text :=
  label.bind fun words => if Text.allBlank words then none else some (Text.trim words)

/-- Why a kind, a number and a label are not written. -/
inductive Refusal (kind : Value) (id : Int) (label : Option Text) : FormatError → Prop
  | kind (unknown : ∀ known : Kind, kind ≠ .text known.name) :
      Refusal kind id label (.unknownKind kind.plain)
  | id {known : Kind} (named : kind = .text known.name) (low : id ≤ 0) :
      Refusal kind id label (.badId (Text.ofInt id))
  | label {known : Kind} (named : kind = .text known.name) (positive : 0 < id) {words : Text}
      (given : label = some words) (filled : Text.allBlank words = false)
      (brace : '\x7d' ∈ words) : Refusal kind id label .braceInLabel

/-- A value is taken as a kind exactly if it is the name of that kind. -/
theorem kindOf?_eq_some_iff {kind : Value} {known : Kind} :
    kindOf? kind = some known ↔ kind = .text known.name := by
  cases kind with
  | text word =>
    rw [kindOf?, Kind.ofName?_eq_some_iff]
    exact ⟨congrArg Value.text, Value.text.inj⟩
  | _ => exact ⟨nofun, nofun⟩

/-- A positive number is taken as it is. -/
theorem positive?_of_pos {id : Int} (positive : 0 < id) : positive? (.int id) = some id.toNat := by
  obtain ⟨n, rfl⟩ := Int.eq_succ_of_zero_lt positive
  rfl

/-- Zero and negative numbers are not taken. -/
theorem positive?_of_nonpos {id : Int} (low : id ≤ 0) : positive? (.int id) = none := by
  cases id with
  | ofNat n =>
    have zero : n = 0 := Int.ofNat_eq_zero.mp (low.antisymm (Int.natCast_nonneg n))
    subst zero
    rfl
  | negSucc n => rfl

/-- A label that may be written is one that is shown as it is. -/
structure Legible (label : Option Text) : Prop where
  shown : filledLabel label = label
  wellFormed : ∀ words ∈ label, words ≠ [] ∧ '\x7d' ∉ words

/-- Blanks around a label do not matter. -/
theorem filledLabel_filledLabel (label : Option Text) :
    filledLabel (filledLabel label) = filledLabel label := by
  cases label with
  | none => rfl
  | some words =>
    unfold filledLabel
    by_cases blank : Text.allBlank words = true
    · simp [blank]
    · have filled : ¬ Text.allBlank (Text.trim words) = true := by
        rw [← trim_eq_nil_iff] at blank ⊢
        rwa [Text.trim_trim]
      simp [blank, filled, Text.trim_trim]

/-- A label is refused if it is more than blanks and holds a closing brace. -/
theorem labelOf_eq_error {words : Text} (filled : Text.allBlank words = false)
    (brace : '\x7d' ∈ words) : labelOf (.text words) = .error .braceInLabel := by
  simp [labelOf, filled, brace]

/-- Every other label is written without the blanks around it. -/
theorem labelOf_eq_ok {label : Option Text}
    (open_ : ∀ words ∈ label, Text.allBlank words = false → '\x7d' ∉ words) :
    labelOf (labelValue label) = .ok (filledLabel label) ∧ Legible (filledLabel label) := by
  have again := filledLabel_filledLabel label
  cases label with
  | none => exact ⟨rfl, again, nofun⟩
  | some words =>
    by_cases blank : Text.allBlank words = true
    · have none : filledLabel (some words) = none := by simp [filledLabel, blank]
      rw [none] at again ⊢
      exact ⟨by simp [labelValue, labelOf, blank], again, nofun⟩
    · rw [Bool.not_eq_true] at blank
      have free := open_ words rfl blank
      have kept : filledLabel (some words) = some (Text.trim words) := by simp [filledLabel, blank]
      rw [kept] at again ⊢
      refine ⟨by simp [labelValue, labelOf, blank, free], again, ?_⟩
      rintro _ ⟨⟩
      refine ⟨?_, fun mem => free ((Text.trim_infix words).subset mem)⟩
      rw [ne_eq, trim_eq_nil_iff, blank]
      exact Bool.false_ne_true

/-! ## What is written -/

variable {kind : Value} {id : Int} {label : Option Text}

/-- Nothing is written where there is a reason for it, and the reason is given. -/
theorem Refusal.format_eq {fault : FormatError} (refusal : Refusal kind id label fault) :
    format kind (.int id) (labelValue label) = .error fault := by
  cases refusal with
  | kind unknown =>
    have none : kindOf? kind = none := by
      rw [Option.eq_none_iff_forall_ne_some]
      intro known found
      exact unknown known (kindOf?_eq_some_iff.mp found)
    rw [format, none]
  | id named low =>
    rw [format, kindOf?_eq_some_iff.mpr named, positive?_of_nonpos low]
    rfl
  | label named positive given filled brace =>
    rw [format, kindOf?_eq_some_iff.mpr named, positive?_of_pos positive, given, labelValue]
    dsimp only
    rw [labelOf_eq_error filled brace]
    rfl

/-- What gives no reason to refuse it is written. -/
theorem format_cases (kind : Value) (id : Int) (label : Option Text) :
    (∃ fault, Refusal kind id label fault) ∨ ∃ known : Kind, kind = .text known.name ∧ 0 < id ∧
      Legible (filledLabel label) ∧
      format kind (.int id) (labelValue label) =
        .ok (written known id.toNat (filledLabel label)) := by
  by_cases unknown : ∀ known : Kind, kind ≠ .text known.name
  · exact .inl ⟨_, .kind unknown⟩
  simp only [ne_eq, not_forall, not_not] at unknown
  obtain ⟨known, named⟩ := unknown
  by_cases low : id ≤ 0
  · exact .inl ⟨_, .id named low⟩
  have positive : 0 < id := Int.not_le.mp low
  by_cases braced : ∃ words, label = some words ∧ Text.allBlank words = false ∧ '\x7d' ∈ words
  · obtain ⟨words, given, filled, brace⟩ := braced
    exact .inl ⟨_, .label named positive given filled brace⟩
  have open_ : ∀ words ∈ label, Text.allBlank words = false → '\x7d' ∉ words := by
    intro words given filled brace
    exact braced ⟨words, given, filled, brace⟩
  obtain ⟨read, legible⟩ := labelOf_eq_ok open_
  refine .inr ⟨known, named, positive, legible, ?_⟩
  rw [format, kindOf?_eq_some_iff.mpr named, positive?_of_pos positive]
  dsimp only
  rw [read]
  rfl

/-- The reason that is given for writing nothing is the one that there is. -/
theorem format_eq_error_iff {fault : FormatError} :
    format kind (.int id) (labelValue label) = .error fault ↔ Refusal kind id label fault := by
  constructor
  · intro failed
    rcases format_cases kind id label with ⟨other, refusal⟩ | ⟨known, -, -, -, ok⟩
    · rw [refusal.format_eq] at failed
      exact Except.error.inj failed ▸ refusal
    · rw [ok] at failed
      cases failed
  · exact Refusal.format_eq

/-- Something is refused exactly if its kind is unknown, its number is not positive, or its label is
more than blanks and holds a closing brace. -/
theorem exists_refusal_iff : (∃ fault, Refusal kind id label fault) ↔
    (∀ known : Kind, kind ≠ .text known.name) ∨ id ≤ 0 ∨
      ∃ words, label = some words ∧ Text.allBlank words = false ∧ '\x7d' ∈ words := by
  constructor
  · rintro ⟨_, unknown | ⟨named, low⟩ | ⟨named, positive, given, filled, brace⟩⟩
    · exact .inl unknown
    · exact .inr (.inl low)
    · exact .inr (.inr ⟨_, given, filled, brace⟩)
  · intro reason
    rcases format_cases kind id label with refused | ⟨known, named, positive, -, ok⟩
    · exact refused
    rcases reason with unknown | low | ⟨words, given, filled, brace⟩
    · exact absurd named (unknown known)
    · omega
    · exact ⟨_, .label named positive given filled brace⟩

/-! ## Reading it back -/

/-- A number that is written with few enough digits is read back. -/
theorem readDigits_ofNat {n : Nat} (short : (Text.ofNat n).length ≤ Text.digitLimit) :
    Text.readDigits (Text.ofNat n) = .ok n := by
  have digits : ∀ c ∈ Text.ofNat n, Text.isDigit c = true := fun _ digit =>
    Text.isDigit_of_mem_ofNat digit
  refine Text.readDigits_eq_ok_iff.mpr ⟨short, ?_⟩
  rw [valueOfDigits_eq digits, Text.ofNat, Nat.ofDigitChars_ten_toDigits]

/-- One embed alone is cut out as a whole. -/
theorem extract_toText {w : Written} (wellFormed : w.WellFormed) {n : Nat} (positive : n ≠ 0)
    (number : Text.readDigits w.digits = .ok n) :
    extract w.toText = .ok ⟨tokenOf (freshPrefix w.toText) 0,
      [w.descriptor (freshPrefix w.toText) 0 n]⟩ := by
  have opens : opening <:+: w.toText := by
    have whole := w.toText_append []
    rw [List.append_nil] at whole
    rw [whole]
    exact (List.prefix_append _ _).isInfix
  have found := match?_toText wellFormed []
  have cut : scan (freshPrefix w.toText) 0 0 (w.toText ++ []) =
      .ok ⟨tokenOf (freshPrefix w.toText) 0 ++ [], [w.descriptor (freshPrefix w.toText) 0 n]⟩ :=
    scan_cut found positive number rfl
  rw [List.append_nil, List.append_nil] at cut
  rw [extract, if_pos (Text.occurs_iff.mpr opens)]
  exact cut

/-- Writing an embed fails exactly for the reasons listed. It fails, or gives a text that is read back
as one embed that makes up the whole of it. -/
theorem extract_format (kind : Value) (id : Int) (label : Option Text)
    (short : (Text.ofNat id.natAbs).length ≤ Text.digitLimit) :
    (∀ fault, format kind (.int id) (labelValue label) = .error fault ↔
        Refusal kind id label fault) ∧
      ((∃ fault, Refusal kind id label fault) ↔
        (∀ known : Kind, kind ≠ .text known.name) ∨ id ≤ 0 ∨
          ∃ words, label = some words ∧ Text.allBlank words = false ∧ '\x7d' ∈ words) ∧
      ((∃ fault, format kind (.int id) (labelValue label) = .error fault) ∨
        ∃ (text : Text) (d : Descriptor), format kind (.int id) (labelValue label) = .ok text ∧
          extract text = .ok ⟨d.token, [d]⟩ ∧ kind = .text d.kind.name ∧ d.entity = id ∧
          d.label = filledLabel label ∧ d.source = text) := by
  refine ⟨fun fault => format_eq_error_iff, exists_refusal_iff, ?_⟩
  rcases format_cases kind id label with ⟨fault, refusal⟩ | ⟨known, named, positive, legible, ok⟩
  · exact .inl ⟨fault, refusal.format_eq⟩
  -- The number of the embed is the one that was given.
  have value : (id.toNat : Int) = id := Int.toNat_of_nonneg positive.le
  have number : Text.readDigits (Text.ofNat id.toNat) = .ok id.toNat := by
    apply readDigits_ofNat
    rwa [← value, Int.natAbs_natCast] at short
  let w : Written := ⟨known, Text.ofNat id.toNat, filledLabel label⟩
  have wellFormed : w.WellFormed :=
    ⟨Nat.toDigits_ne_nil, fun _ digit => Text.isDigit_of_mem_ofNat digit, legible.wellFormed⟩
  refine .inr ⟨w.toText, w.descriptor (freshPrefix w.toText) 0 id.toNat, ok,
    extract_toText wellFormed (by omega) number, named, value, ?_, rfl⟩
  exact (shownLabel_eq _).trans legible.shown

/-- A label with a text in it that looks like an embed, between blanks of several kinds. -/
def bracedLabel : Text := "\u2003\x7b\x7barc:5:\x7b\n: Tower \u0085".toList

/-- A label in braces is written without the blanks around it, and read back. -/
theorem extract_format_bracedLabel :
    (Text.ofNat (150 : Int).natAbs).length ≤ Text.digitLimit ∧
    ∃ (text : Text) (d : Descriptor),
      format (.text "chapter".toList) (.int 150) (.text bracedLabel) = .ok text ∧
        extract text = .ok ⟨d.token, [d]⟩ ∧ Value.text "chapter".toList = .text d.kind.name ∧
        d.entity = 150 ∧ d.label = filledLabel (some bracedLabel) ∧ d.source = text := by
  have short : (Text.ofNat (150 : Int).natAbs).length ≤ Text.digitLimit := by decide
  obtain ⟨-, -, ⟨fault, failed⟩ | read⟩ :=
    extract_format (.text "chapter".toList) 150 (some bracedLabel) short
  · cases failed
  · exact ⟨short, read⟩

end Loremark.Embed
