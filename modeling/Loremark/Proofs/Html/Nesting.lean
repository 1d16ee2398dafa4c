import Loremark.Html.Markup
import Mathlib.Data.List.Infix

/-!
# Well nested output

What it means that a text is a well nested sequence of elements: angle brackets stand in tags only,
every element is closed by its own name, and no attribute value holds a quote or an angle bracket.
The names of elements are those of `Tag` and `VoidTag`, and no others. Some markup of the plain
renderer keeps single quotes in attribute values, so whether they may stand there is a parameter.

`writeAll_wellNested` says that markup is written to such a text whatever its texts are, as long as
its attributes are escaped for values and what has been written before is such a text itself.
-/

set_option autoImplicit false

namespace Loremark.Html

/-! ## The grammar of the output -/

/-- Whether a character can stand in the name of an attribute. -/
def isNameChar (c : Char) : Bool := c == '-' || ('a' ≤ c && c ≤ 'z')

/-- Whether a character can stand in the value of an attribute; a strict one holds no single quote
either. -/
def isValueChar (strict : Bool) (c : Char) : Bool :=
  c != '"' && c != '<' && c != '>' && !(strict && c == '\'')

/-- The attributes of a tag, each behind a space and with its value between double quotes. -/
inductive Attributes (strict : Bool) : Text → Prop
  | none : Attributes strict []
  | more {name value rest : Text} (named : name ≠ [])
      (nameChars : ∀ c ∈ name, isNameChar c = true)
      (valueChars : ∀ c ∈ value, isValueChar strict c = true) (behind : Attributes strict rest) :
      Attributes strict (' ' :: (name ++ '=' :: '"' :: (value ++ '"' :: rest)))

/-- Texts that are sequences of characters and elements, where every element nests properly. -/
inductive WellNested (strict : Bool) : Text → Prop
  | done : WellNested strict []
  | char {rest : Text} (c : Char) (open_ : c ≠ '<') (close : c ≠ '>')
      (behind : WellNested strict rest) : WellNested strict (c :: rest)
  | element {attrs body rest : Text} (tag : Tag) (attributes : Attributes strict attrs)
      (inside : WellNested strict body) (behind : WellNested strict rest) :
      WellNested strict ('<' :: (tag.name ++ (attrs ++ '>' ::
        (body ++ '<' :: '/' :: (tag.name ++ '>' :: rest)))))
  | void {attrs rest : Text} (tag : VoidTag) (attributes : Attributes strict attrs) (slash : Bool)
      (behind : WellNested strict rest) :
      WellNested strict ('<' :: (tag.name ++ (attrs ++
        ((if slash then [' ', '/'] else []) ++ '>' :: rest))))

section Grammar

variable {strict : Bool} {text rest : Text}

/-- Attributes may follow each other. -/
theorem Attributes.append (first : Attributes strict text) (second : Attributes strict rest) :
    Attributes strict (text ++ rest) := by
  induction first with
  | none => exact second
  | more named nameChars valueChars behind ih =>
    simp only [List.cons_append, List.append_assoc]
    exact .more named nameChars valueChars ih

/-- Well nested texts may follow each other. -/
theorem WellNested.append (first : WellNested strict text) (second : WellNested strict rest) :
    WellNested strict (text ++ rest) := by
  induction first with
  | done => exact second
  | char c open_ close behind ih => exact .char c open_ close ih
  | element tag attributes inside behind _ ih =>
    simp only [List.cons_append, List.append_assoc]
    exact .element tag attributes inside ih
  | void tag attributes slash behind ih =>
    simp only [List.cons_append, List.append_assoc]
    exact .void tag attributes slash ih

/-- Texts without angle brackets are well nested. -/
theorem WellNested.of_chars (open_ : '<' ∉ text) (close : '>' ∉ text) : WellNested strict text := by
  induction text with
  | nil => exact .done
  | cons c text ih =>
    have here : c ≠ '<' := fun same => open_ (same ▸ List.mem_cons_self)
    have there : c ≠ '>' := fun same => close (same ▸ List.mem_cons_self)
    exact .char c here there
      (ih (List.not_mem_of_not_mem_cons open_) (List.not_mem_of_not_mem_cons close))

/-- Characters outside tags can be cut off. -/
theorem WellNested.of_append (nested : WellNested strict (text ++ rest)) (open_ : '<' ∉ text) :
    WellNested strict rest := by
  induction text with
  | nil => exact nested
  | cons c text ih =>
    have plain : c ≠ '<' := fun same => open_ (same ▸ List.mem_cons_self)
    have inner : WellNested strict (text ++ rest) := by
      generalize whole : c :: text ++ rest = html at nested
      cases nested with
      | done => cases whole
      | char d _ _ behind =>
        obtain ⟨-, rfl⟩ := List.cons.inj whole
        exact behind
      | element tag => exact absurd (List.cons.inj whole).1 plain
      | void tag => exact absurd (List.cons.inj whole).1 plain
    exact ih inner (List.not_mem_of_not_mem_cons open_)

end Grammar

/-! ## Escaped texts -/

/-- Escaping leaves no angle bracket. -/
theorem escapeMark_brackets {bracket : Char} (isBracket : bracket = '<' ∨ bracket = '>')
    (c : Char) : bracket ∉ Text.escapeMark c := by
  unfold Text.escapeMark
  split
  · rcases isBracket with rfl | rfl <;> decide
  · rcases isBracket with rfl | rfl <;> decide
  · rcases isBracket with rfl | rfl <;> decide
  · rename_i less greater
    rw [List.mem_singleton]
    rcases isBracket with rfl | rfl
    · exact Ne.symm less
    · exact Ne.symm greater

/-- Escaping a character that is no quote writes no quote. -/
theorem escapeMark_quotes {c quote : Char} (other : c ≠ quote)
    (isQuote : quote = '"' ∨ quote = '\'') : quote ∉ Text.escapeMark c := by
  unfold Text.escapeMark
  split
  · rcases isQuote with rfl | rfl <;> decide
  · rcases isQuote with rfl | rfl <;> decide
  · rcases isQuote with rfl | rfl <;> decide
  · exact fun mem => other (List.mem_singleton.mp mem).symm

/-- No angle bracket is left of an escaped text. -/
theorem Escaping.apply_free (escaping : Escaping) (value : Text) :
    '<' ∉ escaping.apply value ∧ '>' ∉ escaping.apply value := by
  have free {bracket : Char} (isBracket : bracket = '<' ∨ bracket = '>') :
      bracket ∉ escaping.apply value := by
    have double : bracket ∉ "&quot;".toList := by rcases isBracket with rfl | rfl <;> decide
    have single : bracket ∉ "&#x27;".toList := by rcases isBracket with rfl | rfl <;> decide
    intro mem
    cases escaping with
    | marks =>
      obtain ⟨c, -, inside⟩ := List.mem_flatMap.mp mem
      exact escapeMark_brackets isBracket c inside
    | double =>
      obtain ⟨c, -, inside⟩ := List.mem_flatMap.mp mem
      split at inside
      · exact double inside
      · exact escapeMark_brackets isBracket c inside
    | all =>
      obtain ⟨c, -, inside⟩ := List.mem_flatMap.mp mem
      split at inside
      · exact double inside
      · split at inside
        · exact single inside
        · exact escapeMark_brackets isBracket c inside
  exact ⟨free (.inl rfl), free (.inr rfl)⟩

/-- Escaping for double quotes leaves no double quote. -/
theorem escapeDouble_quote (value : Text) : '"' ∉ Text.escapeDouble value := by
  intro mem
  obtain ⟨c, -, inside⟩ := List.mem_flatMap.mp mem
  split at inside
  · revert inside
    decide
  · rename_i other
    exact escapeMark_quotes (by simpa using other) (.inl rfl) inside

/-- Escaping everything leaves no quote of either kind. -/
theorem escapeAll_quotes {quote : Char} (isQuote : quote = '"' ∨ quote = '\'') (value : Text) :
    quote ∉ Text.escapeAll value := by
  intro mem
  obtain ⟨c, -, inside⟩ := List.mem_flatMap.mp mem
  split at inside
  · rcases isQuote with rfl | rfl <;> revert inside <;> decide
  · rename_i double
    split at inside
    · rcases isQuote with rfl | rfl <;> revert inside <;> decide
    · rename_i single
      refine escapeMark_quotes ?_ isQuote inside
      rcases isQuote with rfl | rfl
      · simpa using double
      · simpa using single

/-- The ways to escape that serve attribute values. -/
def Escaping.servesValues (strict : Bool) : Escaping → Bool
  | .marks => false
  | .double => !strict
  | .all => true

/-- What is escaped for values can stand in a value. -/
theorem Escaping.apply_value {strict : Bool} {escaping : Escaping}
    (serves : escaping.servesValues strict = true) (value : Text) :
    ∀ c ∈ escaping.apply value, isValueChar strict c = true := by
  intro c mem
  obtain ⟨open_, close⟩ := escaping.apply_free value
  have less : c ≠ '<' := fun same => open_ (same ▸ mem)
  have greater : c ≠ '>' := fun same => close (same ▸ mem)
  cases escaping with
  | marks => cases serves
  | double =>
    have lax : strict = false := by simpa [servesValues] using serves
    have quote : c ≠ '"' := fun same => escapeDouble_quote value (same ▸ mem)
    simp [isValueChar, lax, less, greater, quote]
  | all =>
    have double : c ≠ '"' := fun same => escapeAll_quotes (.inl rfl) value (same ▸ mem)
    have single : c ≠ '\'' := fun same => escapeAll_quotes (.inr rfl) value (same ▸ mem)
    simp [isValueChar, less, greater, double, single]

/-! ## Written markup -/

/-- Whether a word can be the name of an attribute. -/
def isName (name : String) : Bool := !name.toList.isEmpty && name.toList.all isNameChar

/-- Whether an attribute can be written: it has a name, and its value is escaped as values are. -/
def Attribute.isSound (strict : Bool) (attr : Attribute) : Bool :=
  isName attr.name && attr.escaping.servesValues strict

section Attribute

variable {strict : Bool}

/-- An attribute whose value is escaped in full is sound if it has a name. -/
@[simp] theorem Attribute.isSound_all (name : String) (value : Text) :
    Attribute.isSound strict ⟨name, value, .all⟩ = isName name :=
  Bool.and_true (isName name)

/-- An attribute with a fixed value is sound if it has a name. -/
@[simp] theorem isSound_fixed (name value : String) :
    (fixed name value).isSound strict = isName name :=
  Attribute.isSound_all name value.toList

/-- The class of an element is a sound attribute. -/
@[simp] theorem isSound_cssClass (value : String) : (cssClass value).isSound strict = true :=
  isSound_fixed "class" value

/-- An attribute that is there only for a text that is not empty is sound if it has a name. -/
theorem isSound_optional {name : String} (named : isName name = true) (value : Text) :
    (optional name value).all (Attribute.isSound strict) = true := by
  rw [optional]
  split
  · rfl
  · simp [named]

end Attribute

namespace Markup

mutual

/-- The attributes of markup can be written, and what has been written before is well nested. -/
def Sound (strict : Bool) : Markup → Prop
  | text _ _ => True
  | element _ attrs body => attrs.all (Attribute.isSound strict) = true ∧ SoundAll strict body
  | void _ attrs _ => attrs.all (Attribute.isSound strict) = true
  | raw html => WellNested strict html

/-- Pieces of markup that can be written, all of them. -/
def SoundAll (strict : Bool) : List Markup → Prop
  | [] => True
  | piece :: pieces => Sound strict piece ∧ SoundAll strict pieces

end

section Sound

variable {strict : Bool} {pieces others : List Markup}

/-- Pieces are sound together exactly if the pieces in front and those behind are. -/
theorem soundAll_append :
    SoundAll strict (pieces ++ others) ↔ SoundAll strict pieces ∧ SoundAll strict others := by
  induction pieces with
  | nil => simp [SoundAll]
  | cons piece pieces ih => simp [SoundAll, ih, and_assoc]

/-- A newline can be written. -/
theorem newline_sound : Sound strict newline := by
  rw [newline, Sound]
  trivial

/-- A line of markup is sound exactly if its attributes and its pieces are. -/
theorem soundAll_line {tag : Tag} {attrs : List Attribute} :
    SoundAll strict (line tag attrs pieces) ↔
      attrs.all (Attribute.isSound strict) = true ∧ SoundAll strict pieces := by
  simp [line, SoundAll, Sound, newline_sound]

/-- A block of markup is sound exactly if its attributes and its pieces are. -/
theorem soundAll_block {tag : Tag} {attrs : List Attribute} :
    SoundAll strict (block tag attrs pieces) ↔
      attrs.all (Attribute.isSound strict) = true ∧ SoundAll strict pieces := by
  simp [block, soundAll_line, SoundAll, newline_sound]

end Sound

/-- Sound attributes are written as attributes. -/
theorem writtenAttributes_attributes {strict : Bool} {attrs : List Attribute}
    (sound : attrs.all (Attribute.isSound strict) = true) :
    Attributes strict (writtenAttributes attrs) := by
  induction attrs with
  | nil => exact .none
  | cons attr attrs ih =>
    rw [List.all_cons, Bool.and_eq_true, Attribute.isSound, isName, Bool.and_eq_true,
      Bool.and_eq_true, Bool.not_eq_true'] at sound
    obtain ⟨⟨⟨named, nameChars⟩, serves⟩, others⟩ := sound
    have one : Attributes strict attr.written := by
      have value := Escaping.apply_value serves attr.value
      have written := Attributes.more (List.isEmpty_eq_false_iff.mp named)
        (List.all_eq_true.mp nameChars) value .none
      simpa [Attribute.written] using written
    exact one.append (ih others)

mutual

/-- Sound markup is written as a well nested text. -/
theorem write_wellNested {strict : Bool} (piece : Markup) (sound : Sound strict piece) :
    WellNested strict (write piece) := by
  cases piece with
  | text escaping value =>
    obtain ⟨open_, close⟩ := escaping.apply_free value
    exact .of_chars open_ close
  | element tag attrs body =>
    obtain ⟨attributes, below⟩ := sound
    have inside := writeAll_wellNested body below
    have written := WellNested.element tag (writtenAttributes_attributes attributes) inside .done
    simpa [write] using written
  | void tag attrs slash =>
    have written := WellNested.void tag (writtenAttributes_attributes sound) slash .done
    cases slash <;> simpa [write] using written
  | raw html => exact sound

/-- Markup is written to a well nested text. -/
theorem writeAll_wellNested {strict : Bool} (pieces : List Markup)
    (sound : SoundAll strict pieces) : WellNested strict (writeAll pieces) := by
  cases pieces with
  | nil => exact .done
  | cons piece pieces =>
    obtain ⟨here, behind⟩ := sound
    exact (write_wellNested piece here).append (writeAll_wellNested pieces behind)

end

end Markup

end Loremark.Html
