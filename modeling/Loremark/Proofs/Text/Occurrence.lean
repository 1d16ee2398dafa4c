import Loremark.Text.Basic
import Mathlib.Data.List.DropRight
import Mathlib.Data.List.Forall2
import Mathlib.Data.List.TakeWhile

/-!
# Where a text occurs in another one

The searching functions of `Text.Basic` in terms of prefixes and infixes: `after?` cuts a prefix
off, `cutAt?` cuts at the first occurrence, and `occurs` tells whether there is one. What is left of
a text without the blanks at its ends stands in it as a whole and loses nothing more. The last
section is about words with a delimiter, which are determined by any text that they begin.
-/

set_option autoImplicit false

namespace Loremark.Text

/-- What follows a prefix is what is left when it is cut off. -/
theorem after?_eq_some_iff {start text rest : Text} :
    after? start text = some rest ↔ text = start ++ rest := by
  induction start generalizing text with
  | nil => simp [after?, eq_comm]
  | cons a start ih =>
    cases text with
    | nil => simp [after?]
    | cons c text =>
      by_cases same : a = c
      · subst same
        simp [after?, ih]
      · have differ : ¬ c = a := fun h => same h.symm
        simp [after?, same, differ]

/-- A beginning is cut off a text that begins with it. -/
theorem after?_append (start rest : Text) : after? start (start ++ rest) = some rest :=
  after?_eq_some_iff.mpr rfl

/-- A beginning can be cut off exactly if the text begins with it. -/
theorem after?_isSome_iff {start text : Text} : (after? start text).isSome ↔ start <+: text := by
  rw [Option.isSome_iff_exists]
  constructor
  · rintro ⟨rest, found⟩
    exact ⟨rest, (after?_eq_some_iff.mp found).symm⟩
  · rintro ⟨rest, rfl⟩
    exact ⟨rest, after?_append start rest⟩

/-- Nothing can be cut off a text that begins otherwise. -/
theorem after?_eq_none_iff {start text : Text} : after? start text = none ↔ ¬ start <+: text := by
  rw [← after?_isSome_iff, Option.not_isSome_iff_eq_none]

/-- Cutting a beginning off is reading a word letter by letter. -/
theorem after?_eq_afterWord? (start text : Text) :
    after? start text = afterWord? (· == ·) start text := by
  induction start generalizing text with
  | nil => rfl
  | cons a start ih =>
    cases text with
    | nil => rfl
    | cons c text => rw [after?, afterWord?, ih]

/-- What follows a word that is compared letter by letter is what is left when some spelling of
the word is cut off. -/
theorem afterWord?_eq_some_iff {same : Char → Char → Bool} {word text rest : Text} :
    afterWord? same word text = some rest ↔
      ∃ spelled, List.Forall₂ (fun a c => same a c = true) word spelled ∧
        text = spelled ++ rest := by
  induction word generalizing text with
  | nil =>
    rw [afterWord?, Option.some.injEq]
    simp only [List.forall₂_nil_left_iff, exists_eq_left, List.nil_append]
  | cons a word ih =>
    simp only [List.forall₂_cons_left_iff]
    cases text with
    | nil =>
      rw [afterWord?]
      constructor
      · intro found
        cases found
      · rintro ⟨_, ⟨c, spelled, -, -, rfl⟩, same⟩
        cases same
    | cons c text =>
      rw [afterWord?]
      split
      · rename_i here
        rw [ih]
        constructor
        · rintro ⟨spelled, all, rfl⟩
          exact ⟨c :: spelled, ⟨c, spelled, here, all, rfl⟩, rfl⟩
        · rintro ⟨_, ⟨d, spelled, -, all, rfl⟩, same⟩
          exact ⟨spelled, all, (List.cons.inj same).2⟩
      · rename_i differ
        constructor
        · intro found
          cases found
        · rintro ⟨_, ⟨d, spelled, here, -, rfl⟩, same⟩
          rw [(List.cons.inj same).1] at differ
          exact absurd here differ

/-- Nothing is lost when a text is cut. -/
theorem eq_append_of_cutAt? {needle text before rest : Text}
    (cut : cutAt? needle text = some (before, rest)) : text = before ++ (needle ++ rest) := by
  induction text generalizing before with
  | nil =>
    cases needle with
    | nil =>
      simp only [cutAt?, List.isEmpty_nil, if_true, Option.some.injEq, Prod.mk.injEq] at cut
      obtain ⟨rfl, rfl⟩ := cut
      rfl
    | cons a needle => simp [cutAt?] at cut
  | cons c text ih =>
    rw [cutAt?] at cut
    cases found : after? needle (c :: text) with
    | some here =>
      simp only [found, Option.some.injEq, Prod.mk.injEq] at cut
      obtain ⟨rfl, rfl⟩ := cut
      rw [List.nil_append]
      exact after?_eq_some_iff.mp found
    | none =>
      simp only [found, Option.map_eq_some_iff, Prod.exists, Prod.mk.injEq] at cut
      obtain ⟨earlier, later, deeper, rfl, rfl⟩ := cut
      rw [ih deeper, List.cons_append]

/-- A text is not cut exactly where the needle does not occur. -/
theorem cutAt?_eq_none_iff {needle text : Text} : cutAt? needle text = none ↔ ¬ needle <:+: text := by
  induction text with
  | nil =>
    cases needle with
    | nil => simp [cutAt?]
    | cons a needle => simp [cutAt?]
  | cons c text ih =>
    rw [cutAt?, List.infix_cons_iff, not_or, ← ih, ← after?_eq_none_iff]
    cases after? needle (c :: text) with
    | some rest => simp
    | none => simp

/-- A text occurs exactly where it is a part. -/
theorem occurs_iff {needle text : Text} : occurs needle text = true ↔ needle <:+: text := by
  rw [occurs, ← Option.ne_none_iff_isSome, ne_eq, cutAt?_eq_none_iff,
    Classical.not_not]

/-- A text that does not occur is no part. -/
theorem occurs_eq_false_iff {needle text : Text} :
    occurs needle text = false ↔ ¬ needle <:+: text := by
  rw [← occurs_iff, Bool.not_eq_true]

/-- A word without some character ends in front of it. -/
theorem prefix_append_cons_iff {word text rest : Text} {c : Char} (foreign : c ∉ word) :
    word <+: text ++ c :: rest ↔ word <+: text := by
  constructor
  · rintro ⟨behind, same⟩
    rcases List.append_eq_append_iff.mp same with ⟨gap, rfl, -⟩ | ⟨gap, rfl, stop⟩
    · exact List.prefix_append word gap
    · cases gap with
      | nil => exact (List.append_nil text).symm ▸ List.prefix_rfl
      | cons d gap =>
        obtain ⟨rfl, -⟩ := List.cons.inj stop
        exact absurd (List.mem_append_right text List.mem_cons_self) foreign
  · exact fun here => here.trans (List.prefix_append text (c :: rest))

/-- A word does not reach across a character that it does not hold. -/
theorem infix_append_cons_iff {word text rest : Text} {c : Char} (foreign : c ∉ word) :
    word <:+: text ++ c :: rest ↔ word <:+: text ∨ word <:+: rest := by
  constructor
  · intro here
    rcases List.infix_append_iff.mp here with front | back | ⟨front, back, rfl, ends, begins⟩
    · exact .inl front
    · rcases List.infix_cons_iff.mp back with begins | behind
      · cases word with
        | nil => exact .inl List.nil_infix
        | cons d word =>
          obtain ⟨rfl, -⟩ := List.cons_prefix_cons.mp begins
          exact absurd List.mem_cons_self foreign
      · exact .inr behind
    · cases back with
      | nil =>
        rw [List.append_nil]
        exact .inl ends.isInfix
      | cons d back =>
        obtain ⟨rfl, -⟩ := List.cons_prefix_cons.mp begins
        exact absurd (List.mem_append_right front List.mem_cons_self) foreign
  · rintro (front | back)
    · exact front.trans (List.prefix_append _ _).isInfix
    · exact (List.infix_cons back).trans (List.suffix_append _ _).isInfix

/-- A word does not reach into characters in front of a text that it does not hold. -/
theorem infix_of_foreign_front {word front text : Text} (foreign : ∀ c ∈ front, c ∉ word)
    (here : word <:+: front ++ text) : word <:+: text := by
  induction front with
  | nil => exact here
  | cons c front ih =>
    rw [List.cons_append, ← List.nil_append (c :: (front ++ text)),
      infix_append_cons_iff (foreign c List.mem_cons_self)] at here
    rcases here with nothing | behind
    · rw [List.eq_nil_of_infix_nil nothing]
      exact List.nil_infix
    · exact ih (fun d mem => foreign d (List.mem_cons_of_mem c mem)) behind

/-- A word does not reach into characters behind a text that it does not hold. -/
theorem infix_of_foreign_back {word text back : Text} (foreign : ∀ c ∈ back, c ∉ word)
    (here : word <:+: text ++ back) : word <:+: text := by
  rw [← List.reverse_infix, List.reverse_append] at here
  rw [← List.reverse_infix]
  refine infix_of_foreign_front ?_ here
  intro c mem
  rw [List.mem_reverse] at mem ⊢
  exact foreign c mem

/-! ## Blanks at the ends -/

/-- A text is what is left of it without its trailing blanks, and those blanks. -/
theorem trimEnd_append_blanks (text : Text) :
    trimEnd text ++ (text.reverse.takeWhile isBlank).reverse = text := by
  rw [trimEnd, ← List.reverse_append, List.takeWhile_append_dropWhile, List.reverse_reverse]

/-- The blanks at the end are those dropped from the right. -/
theorem trimEnd_eq_rdropWhile (text : Text) : trimEnd text = text.rdropWhile isBlank := rfl

/-- The beginning of a text without leading blanks has none. -/
theorem trimStart_of_prefix {text front : Text} (solid : trimStart text = text)
    (part : front <+: text) : trimStart front = front := by
  unfold trimStart at solid ⊢
  rw [List.dropWhile_eq_self_iff] at solid ⊢
  intro nonempty
  rw [part.getElem nonempty]
  exact solid (nonempty.trans_le part.length_le)

/-- The end of a text without trailing blanks has none. -/
theorem trimEnd_of_suffix {text back : Text} (solid : trimEnd text = text)
    (part : back <:+ text) : trimEnd back = back := by
  rw [trimEnd_eq_rdropWhile, List.rdropWhile_eq_self_iff] at solid ⊢
  intro nonempty
  rw [part.getLast nonempty]
  exact solid (part.ne_nil nonempty)

/-- A trimmed text has no blanks at its end. -/
theorem trimEnd_trim (text : Text) : trimEnd (trim text) = trim text :=
  List.rdropWhile_idempotent isBlank (trimStart text)

/-- Nothing more is lost when the blanks at the ends are gone. -/
theorem trim_trim (text : Text) : trim (trim text) = trim text := by
  have solid : trimStart (trimStart text) = trimStart text :=
    List.dropWhile_idempotent isBlank text
  have front : trimStart (trim text) = trim text :=
    trimStart_of_prefix solid (List.rdropWhile_prefix isBlank (trimStart text))
  rw [trim, front, trimEnd_trim]

/-- A trimmed text is a part of the text. -/
theorem trim_infix (text : Text) : trim text <:+: text :=
  (List.rdropWhile_prefix isBlank (trimStart text)).isInfix.trans
    (List.dropWhile_suffix isBlank).isInfix

/-! ## Characters at the end -/

/-- Nothing is cut off the end of a text without the character. -/
theorem trimEndOf_of_not_mem {c : Char} {text : Text} (free : c ∉ text) : trimEndOf c text = text := by
  have kept : text.reverse.dropWhile (· == c) = text.reverse := by
    cases back : text.reverse with
    | nil => rfl
    | cons d back =>
      have mem : d ∈ text := by
        rw [← List.mem_reverse, back]
        exact List.mem_cons_self
      refine List.dropWhile_cons_of_neg ?_
      simpa using ne_of_mem_of_not_mem mem free
  rw [trimEndOf, kept, List.reverse_reverse]

/-- The character at the end is cut off. -/
theorem trimEndOf_concat (c : Char) (text : Text) :
    trimEndOf c (text ++ [c]) = trimEndOf c text := by
  rw [trimEndOf, List.reverse_append, List.reverse_singleton, List.singleton_append,
    List.dropWhile_cons_of_pos (by simp), ← trimEndOf]

/-- Cutting off the end does not reach into what stands in front. -/
theorem trimEndOf_append {c : Char} {text : Text} (front : Text) (some : trimEndOf c text ≠ []) :
    trimEndOf c (front ++ text) = front ++ trimEndOf c text := by
  have more : (text.reverse.dropWhile (· == c)).isEmpty = false := by
    rw [List.isEmpty_eq_false_iff]
    intro empty
    rw [trimEndOf, empty] at some
    exact some rfl
  rw [trimEndOf, List.reverse_append, List.dropWhile_append, more, if_neg Bool.false_ne_true,
    List.reverse_append, List.reverse_reverse, ← trimEndOf]

/-- The end of a text is trimmed alone behind characters that stay. -/
theorem trimEndOf_append_of_not_mem {c : Char} {front : Text} (free : c ∉ front) (text : Text) :
    trimEndOf c (front ++ text) = front ++ trimEndOf c text := by
  by_cases some : trimEndOf c text = []
  · have whole : (text.reverse.dropWhile (· == c)).isEmpty = true := by
      rw [List.isEmpty_iff]
      exact List.reverse_eq_nil_iff.mp some
    rw [some, List.append_nil, trimEndOf, List.reverse_append, List.dropWhile_append, if_pos whole,
      ← trimEndOf, trimEndOf_of_not_mem free]
  · exact trimEndOf_append front some

/-! ## Runs of characters -/

section Runs

variable {accepts : Char → Bool}

/-- A run of characters ends where another one stands. -/
theorem span_append {front rest : Text} (all : ∀ c ∈ front, accepts c = true)
    (stops : ∀ c, rest.head? = some c → accepts c = false) :
    (front ++ rest).takeWhile accepts = front ∧ (front ++ rest).dropWhile accepts = rest := by
  rw [List.takeWhile_append_of_pos all, List.dropWhile_append_of_pos all]
  cases rest with
  | nil => exact ⟨List.append_nil front, rfl⟩
  | cons c rest =>
    have other : ¬ accepts c = true := Bool.eq_false_iff.mp (stops c rfl)
    rw [List.takeWhile_cons_of_neg other, List.dropWhile_cons_of_neg other]
    exact ⟨List.append_nil front, rfl⟩

/-- Dropping as many characters as a run has is dropping the run. -/
theorem drop_takeWhile (text : Text) :
    text.drop (text.takeWhile accepts).length = text.dropWhile accepts :=
  calc text.drop (text.takeWhile accepts).length
      = (text.takeWhile accepts ++ text.dropWhile accepts).drop
          (text.takeWhile accepts).length := by rw [List.takeWhile_append_dropWhile]
    _ = text.dropWhile accepts := List.drop_left

/-- A run ends in front of a character that is not in it. -/
theorem head?_dropWhile {text : Text} {c : Char}
    (head : (text.dropWhile accepts).head? = some c) : accepts c = false := by
  have stops := List.head?_dropWhile_not accepts text
  rwa [head] at stops

end Runs

/-! ## Words with a delimiter -/

/-- A word that ends at the first delimiter is the same in all texts that begin alike. -/
theorem eq_of_delimited {delimiter : Char} {word other rest otherRest : Text}
    (free : delimiter ∉ word) (otherFree : delimiter ∉ other)
    (same : word ++ delimiter :: rest = other ++ delimiter :: otherRest) : word = other := by
  induction word generalizing other with
  | nil =>
    cases other with
    | nil => rfl
    | cons c other =>
      have first : delimiter = c := (List.cons.inj same).1
      exact absurd (first ▸ List.mem_cons_self) otherFree
  | cons c word ih =>
    cases other with
    | nil =>
      have first : c = delimiter := (List.cons.inj same).1
      exact absurd (first ▸ List.mem_cons_self) free
    | cons d other =>
      obtain ⟨first, behind⟩ := List.cons.inj same
      rw [first, ih (List.not_mem_of_not_mem_cons free) (List.not_mem_of_not_mem_cons otherFree)
        behind]

/-- Two words with a delimiter behind them that begin the same text are equal. -/
theorem eq_of_delimited_begins {delimiter : Char} {word other text : Text}
    (free : delimiter ∉ word) (otherFree : delimiter ∉ other)
    (begins : word ++ [delimiter] <+: text) (otherBegins : other ++ [delimiter] <+: text) :
    word = other := by
  obtain ⟨rest, rfl⟩ := begins
  obtain ⟨otherRest, same⟩ := otherBegins
  rw [List.append_assoc, List.append_assoc] at same
  exact (eq_of_delimited otherFree free same).symm

end Loremark.Text
