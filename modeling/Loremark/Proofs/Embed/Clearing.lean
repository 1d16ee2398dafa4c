import Loremark.Proofs.Embed.Restoration

/-!
# Texts without tokens

`Parsed.TokenFree` says that no token of a document occurs in a text. Whatever text embeds are put
back into, none occurs in the result (`restoreWith_tokenFree`): the source of an embed stands
between braces, which no token holds, so an occurrence would lie in the source of an embed or among
characters that were kept, and restoring keeps no character where a token begins.
-/

set_option autoImplicit false

namespace Loremark.Embed

/-- No token of a document occurs in a text. -/
def Parsed.TokenFree (p : Parsed) (text : Text) : Prop := ∀ d ∈ p.embeds, ¬ d.token <:+: text

/-- Documents whose tokens can be told from each other, and from what the author wrote. -/
structure Parsed.Distinct (p : Parsed) : Prop where
  isToken : ∀ d ∈ p.embeds, IsToken d.token
  increasing : p.embeds.Pairwise fun d e => d.index < e.index
  unique : ∀ d ∈ p.embeds, ∀ e ∈ p.embeds, ∀ place : Text,
    d.token <+: place → e.token <+: place → d = e
  braced : ∀ d ∈ p.embeds, ∃ inner, d.source = '\x7b' :: (inner ++ ['\x7d'])
  foreign : ∀ d ∈ p.embeds, p.TokenFree d.source

/-- The text of an embed stands between braces. -/
theorem Written.toText_braced (w : Written) : ∃ inner, w.toText = '\x7b' :: (inner ++ ['\x7d']) := by
  refine ⟨'\x7b' :: (w.kind.name ++ ':' :: w.digits ++ w.label.elim [] (':' :: ·) ++ ['\x7d']), ?_⟩
  rw [Written.toText, opening, closing]
  cases w.label <;> simp

/-- The tokens of an extraction can be told from each other and from the text. -/
theorem Extracted.distinct {start text : Text} {p : Parsed} (extracted : Extracted start text p) :
    p.Distinct where
  isToken _ mem := extracted.isToken mem
  increasing := extracted.pairwise_index
  unique _ mem _ other _ begins otherBegins := extracted.eq_of_begins mem other begins otherBegins
  braced d mem := by
    obtain ⟨digits, label, spelled⟩ := extracted.scanned.spelledBy d mem
    rw [spelled.source]
    exact Written.toText_braced _
  foreign d mem e other here := by
    have begins : start <+: e.token := by
      rw [extracted.scanned.numbered.2 e other, tokenOf, List.append_assoc]
      exact List.prefix_append _ _
    exact extracted.fresh
      (begins.isInfix.trans (here.trans (extracted.scanned.source_infix d mem)))

/-- A document without embeds has no tokens. -/
theorem Parsed.distinct_of_nil {p : Parsed} (none : p.embeds = []) : p.Distinct := by
  constructor <;> simp [none]

/-! ## Escaping and tokens -/

/-- A character is escaped as itself, or as an entity without capitals. No token holds a character
of the second kind. -/
theorem escapeAll_cases (c : Char) :
    (∀ text, Text.escapeAll (c :: text) = c :: Text.escapeAll text) ∨
      isTokenChar c = false ∧ ∃ name, 'S' ∉ name ∧
        ∀ text, Text.escapeAll (c :: text) = '&' :: (name ++ ';' :: Text.escapeAll text) := by
  by_cases double : c = '"'
  · subst double
    exact .inr ⟨rfl, "quot".toList, by decide, fun _ => rfl⟩
  by_cases single : c = '\''
  · subst single
    exact .inr ⟨rfl, "#x27".toList, by decide, fun _ => rfl⟩
  by_cases ampersand : c = '&'
  · subst ampersand
    exact .inr ⟨rfl, "amp".toList, by decide, fun _ => rfl⟩
  by_cases less : c = '<'
  · subst less
    exact .inr ⟨rfl, "lt".toList, by decide, fun _ => rfl⟩
  by_cases greater : c = '>'
  · subst greater
    exact .inr ⟨rfl, "gt".toList, by decide, fun _ => rfl⟩
  left
  intro text
  rw [Text.escapeAll, List.flatMap_cons, if_neg (by simpa using double),
    if_neg (by simpa using single), Text.escapeMark_eq_self ampersand less greater]
  rfl

/-- Texts are escaped piece by piece. -/
theorem escapeAll_append (front text : Text) :
    Text.escapeAll (front ++ text) = Text.escapeAll front ++ Text.escapeAll text :=
  List.flatMap_append

/-- Capitals and digits are escaped as themselves. -/
theorem escapeAll_of_isTokenChar {text : Text} (chars : ∀ c ∈ text, isTokenChar c = true) :
    Text.escapeAll text = text := by
  induction text with
  | nil => rfl
  | cons c text ih =>
    obtain ⟨here, behind⟩ := List.forall_mem_cons.mp chars
    rcases escapeAll_cases c with plain | ⟨foreign, -⟩
    · rw [plain, ih behind]
    · rw [here] at foreign
      cases foreign

/-- Capitals and digits begin an escaped text exactly if they begin the text itself: no entity
begins with one. -/
theorem prefix_escapeAll_iff {begins text : Text} (chars : ∀ c ∈ begins, isTokenChar c = true) :
    begins <+: Text.escapeAll text ↔ begins <+: text := by
  constructor
  · intro isPrefix
    induction text generalizing begins with
    | nil => exact isPrefix
    | cons c text ih =>
      cases begins with
      | nil => exact List.nil_prefix
      | cons b begins =>
        obtain ⟨here, behind⟩ := List.forall_mem_cons.mp chars
        rcases escapeAll_cases c with plain | ⟨-, name, -, entity⟩
        · rw [plain] at isPrefix
          obtain ⟨same, later⟩ := List.cons_prefix_cons.mp isPrefix
          exact List.cons_prefix_cons.mpr ⟨same, ih behind later⟩
        · rw [entity] at isPrefix
          obtain ⟨rfl, -⟩ := List.cons_prefix_cons.mp isPrefix
          cases here
  · rintro ⟨rest, rfl⟩
    rw [escapeAll_append, escapeAll_of_isTokenChar chars]
    exact List.prefix_append begins _

/-- Escaping brings in no token. -/
theorem infix_of_escapeAll {token text : Text} (isToken : IsToken token)
    (here : token <:+: Text.escapeAll text) : token <:+: text := by
  induction text with
  | nil => exact here
  | cons c text ih =>
    rcases escapeAll_cases c with plain | ⟨-, name, free, entity⟩
    · rw [plain] at here
      rcases List.infix_cons_iff.mp here with begins | behind
      · rw [← plain] at begins
        exact ((prefix_escapeAll_iff isToken.chars).mp begins).isInfix
      · exact List.infix_cons (ih behind)
    · rw [entity, ← List.cons_append, Text.infix_append_cons_iff (isToken.not_mem rfl)] at here
      rcases here with inName | behind
      · refine absurd inName (isToken.not_within (by decide : 'S' ∈ stem) ?_)
        simpa using free
      · exact List.infix_cons (ih behind)

namespace Parsed

variable {p : Parsed}

/-- A part of a text without tokens has none either. -/
theorem TokenFree.mono {text part : Text} (free : p.TokenFree text) (inside : part <:+: text) :
    p.TokenFree part := fun d mem here => free d mem (here.trans inside)

/-- Nothing is put back into a text without tokens. -/
theorem TokenFree.restoreWith {text : Text} (free : p.TokenFree text) (write : Text → Text) :
    p.restoreWith write 0 text = text := by
  induction text with
  | nil => rfl
  | cons c text ih =>
    have plain : p.tokenAt? (c :: text) = none :=
      tokenAt?_eq_none_iff.mpr fun d mem begins => free d mem begins.isInfix
    rw [restoreWith_plain plain, ih (free.mono (List.suffix_cons c text).isInfix)]

/-- Ways to write an embed that keep its braces and bring in no token. -/
structure Guards (p : Parsed) (write : Text → Text) : Prop where
  braced : ∀ d ∈ p.embeds, ∃ inner, write d.source = '\x7b' :: (inner ++ ['\x7d'])
  foreign : ∀ d ∈ p.embeds, p.TokenFree (write d.source)

/-- An empty text holds no token. -/
theorem Distinct.tokenFree_nil (distinct : p.Distinct) : p.TokenFree [] := by
  intro d mem here
  exact (distinct.isToken d mem).ne_nil (List.eq_nil_of_infix_nil here)

/-- Capitals and digits that begin a restored text begin the text itself: no source does. -/
theorem prefix_of_restoreWith {write : Text → Text} (guards : Guards p write) {begins : Text}
    (chars : ∀ c ∈ begins, isTokenChar c = true) (text : Text)
    (isPrefix : begins <+: p.restoreWith write 0 text) : begins <+: text := by
  induction text generalizing begins with
  | nil => exact isPrefix
  | cons c text ih =>
    cases begins with
    | nil => exact List.nil_prefix
    | cons b begins =>
      cases found : p.tokenAt? (c :: text) with
      | none =>
        rw [restoreWith_plain found] at isPrefix
        obtain ⟨same, behind⟩ := List.cons_prefix_cons.mp isPrefix
        exact List.cons_prefix_cons.mpr
          ⟨same, ih (fun a mem => chars a (List.mem_cons_of_mem _ mem)) behind⟩
      | some d =>
        obtain ⟨inner, braced⟩ := guards.braced d (tokenAt?_eq_some found).1
        rw [restoreWith_found found, braced, List.cons_append] at isPrefix
        obtain ⟨rfl, -⟩ := List.cons_prefix_cons.mp isPrefix
        cases chars _ List.mem_cons_self

/-- No token is left where embeds have been put back. -/
theorem Distinct.restoreWith_tokenFree (distinct : p.Distinct) {write : Text → Text}
    (guards : Guards p write) (text : Text) : p.TokenFree (p.restoreWith write 0 text) := by
  induction length : text.length using Nat.strong_induction_on generalizing text with
  | _ n ih =>
    cases text with
    | nil => exact distinct.tokenFree_nil
    | cons c text =>
      rw [List.length_cons] at length
      cases found : p.tokenAt? (c :: text) with
      | none =>
        rw [restoreWith_plain found]
        intro e other here
        -- A token would begin at this character, where none was found, or stand behind it.
        rcases List.infix_cons_iff.mp here with begins | behind
        · rw [← restoreWith_plain found] at begins
          have kept := prefix_of_restoreWith guards (distinct.isToken e other).chars _ begins
          exact tokenAt?_eq_none_iff.mp found e other kept
        · exact ih text.length (by omega) text rfl e other behind
      | some d =>
        obtain ⟨mem, -⟩ := tokenAt?_eq_some found
        obtain ⟨inner, braced⟩ := guards.braced d mem
        rw [restoreWith_found found, braced]
        intro e other here
        rw [List.cons_append, List.append_assoc, List.singleton_append, ← List.cons_append,
          Text.infix_append_cons_iff ((distinct.isToken e other).not_mem rfl)] at here
        rcases here with inSource | behind
        · refine guards.foreign d mem e other ?_
          rw [braced, ← List.cons_append]
          exact inSource.trans (List.prefix_append _ _).isInfix
        · have shorter := List.length_drop (i := d.token.length - 1) (l := text)
          exact ih _ (by omega) _ rfl e other behind

/-! ## Texts that cannot hold a token -/

/-- A text without the letter that tokens begin with holds none. -/
theorem Distinct.tokenFree_of_not_mem (distinct : p.Distinct) {text : Text} (free : 'S' ∉ text) :
    p.TokenFree text :=
  fun d mem => (distinct.isToken d mem).not_within (by decide : 'S' ∈ stem) free

/-- Characters of another kind in front of a text do not matter. -/
theorem Distinct.tokenFree_front_iff (distinct : p.Distinct) {front text : Text}
    (foreign : ∀ c ∈ front, isTokenChar c = false) :
    p.TokenFree (front ++ text) ↔ p.TokenFree text := by
  constructor
  · exact fun free => free.mono (List.suffix_append _ _).isInfix
  · intro free d mem here
    exact free d mem (Text.infix_of_foreign_front
      (fun c front => (distinct.isToken d mem).not_mem (foreign c front)) here)

/-- Characters of another kind behind a text do not matter. -/
theorem Distinct.tokenFree_back_iff (distinct : p.Distinct) {text back : Text}
    (foreign : ∀ c ∈ back, isTokenChar c = false) :
    p.TokenFree (text ++ back) ↔ p.TokenFree text := by
  constructor
  · exact fun free => free.mono (List.prefix_append _ _).isInfix
  · intro free d mem here
    exact free d mem (Text.infix_of_foreign_back
      (fun c back => (distinct.isToken d mem).not_mem (foreign c back)) here)

/-- No blank stands in a token. -/
theorem isTokenChar_of_isBlank {c : Char} (blank : Text.isBlank c = true) :
    isTokenChar c = false := by
  rw [Bool.eq_false_iff]
  intro token
  simp only [isTokenChar, Text.isDigit, Bool.or_eq_true, Bool.and_eq_true, decide_eq_true_iff,
    Char.le_def, UInt32.le_iff_toNat_le] at token
  simp only [Text.isBlank, Bool.or_eq_true, Bool.and_eq_true, decide_eq_true_iff, beq_iff_eq,
    Char.toNat] at blank
  change (65 ≤ c.val.toNat ∧ c.val.toNat ≤ 90) ∨ (48 ≤ c.val.toNat ∧ c.val.toNat ≤ 57) at token
  omega

/-- Blanks at the beginning of a text make no difference to its tokens. -/
theorem Distinct.tokenFree_trimStart_iff (distinct : p.Distinct) {text : Text} :
    p.TokenFree (Text.trimStart text) ↔ p.TokenFree text := by
  have split := List.takeWhile_append_dropWhile (p := Text.isBlank) (l := text)
  conv_rhs => rw [← split]
  exact (distinct.tokenFree_front_iff fun c mem =>
    isTokenChar_of_isBlank (List.mem_takeWhile_imp mem)).symm

/-- Blanks around a text make no difference to its tokens. -/
theorem Distinct.tokenFree_trim_iff (distinct : p.Distinct) {text : Text} :
    p.TokenFree (Text.trim text) ↔ p.TokenFree text := by
  have ends : Text.trim text ++ ((Text.trimStart text).reverse.takeWhile Text.isBlank).reverse =
      Text.trimStart text := Text.trimEnd_append_blanks (Text.trimStart text)
  have start : p.TokenFree (Text.trimStart text) ↔ p.TokenFree text :=
    distinct.tokenFree_trimStart_iff
  rw [← start, ← ends]
  refine (distinct.tokenFree_back_iff ?_).symm
  intro c mem
  exact isTokenChar_of_isBlank (List.mem_takeWhile_imp (List.mem_reverse.mp mem))

/-! ## The two ways to write an embed -/

/-- An embed that is written as it is keeps its braces and brings in no token. -/
theorem Distinct.guards_id (distinct : p.Distinct) : Guards p id where
  braced := distinct.braced
  foreign := distinct.foreign

/-- An escaped embed keeps its braces and brings in no token. -/
theorem Distinct.guards_escapeAll (distinct : p.Distinct) : Guards p Text.escapeAll where
  braced d mem := by
    obtain ⟨inner, braced⟩ := distinct.braced d mem
    refine ⟨Text.escapeAll inner, ?_⟩
    rw [braced, ← List.singleton_append, escapeAll_append, escapeAll_append]
    rfl
  foreign d mem e other here :=
    distinct.foreign d mem e other (infix_of_escapeAll (distinct.isToken e other) here)

/-- No token is left in a restored text. -/
theorem Distinct.restore_tokenFree (distinct : p.Distinct) (text : Text) :
    p.TokenFree (p.restore text) :=
  distinct.restoreWith_tokenFree distinct.guards_id text

/-- No token is left in a restored text that is escaped. -/
theorem Distinct.restoreEscaped_tokenFree (distinct : p.Distinct) (text : Text) :
    p.TokenFree (p.restoreEscaped text) :=
  distinct.restoreWith_tokenFree distinct.guards_escapeAll text

end Parsed

end Loremark.Embed
