import Loremark.Proofs.Embed.Extraction
import Mathlib.Data.List.Find

/-!
# Putting embeds back

Restoring goes through a text once and writes the source of an embed wherever its token begins.
Restoring the rewritten text of an extraction gives the text that it was made from
(`extract_restore`), because no token begins where the scan has kept a character: it would lie in a
kept piece of the text, where its prefix does not occur.
-/

set_option autoImplicit false

namespace Loremark.Embed

namespace Parsed

variable {p : Parsed}

/-- No token is found at the beginning of a text exactly if none stands there. -/
theorem tokenAt?_eq_none_iff {text : Text} :
    p.tokenAt? text = none ↔ ∀ d ∈ p.embeds, ¬ d.token <+: text := by
  simp only [tokenAt?, List.find?_eq_none, List.isPrefixOf_iff_prefix]

/-- A token that is found at the beginning of a text is that of an embed, and stands there. -/
theorem tokenAt?_eq_some {text : Text} {d : Descriptor} (found : p.tokenAt? text = some d) :
    d ∈ p.embeds ∧ d.token <+: text := by
  have begins : d.token.isPrefixOf text = true :=
    List.find?_some (p := fun e : Descriptor => e.token.isPrefixOf text) found
  exact ⟨List.mem_of_find?_eq_some found, List.isPrefixOf_iff_prefix.mp begins⟩

/-- The characters that are skipped do not matter. -/
theorem restoreWith_skip (write : Text → Text) (skip : Nat) (text : Text) :
    p.restoreWith write skip text = p.restoreWith write 0 (text.drop skip) := by
  induction text generalizing skip with
  | nil => cases skip <;> rfl
  | cons c text ih =>
    cases skip with
    | zero => rfl
    | succ skip =>
      rw [restoreWith, List.drop_succ_cons]
      exact ih skip

/-- Where no token begins, a character is kept. -/
theorem restoreWith_plain {write : Text → Text} {c : Char} {text : Text}
    (plain : p.tokenAt? (c :: text) = none) :
    p.restoreWith write 0 (c :: text) = c :: p.restoreWith write 0 text := by
  rw [restoreWith, plain]

/-- What follows a source that has been written, as restoring goes on behind the token. -/
theorem restoreWith_found {write : Text → Text} {d : Descriptor} {c : Char} {text : Text}
    (found : p.tokenAt? (c :: text) = some d) :
    p.restoreWith write 0 (c :: text) =
      write d.source ++ p.restoreWith write 0 (text.drop (d.token.length - 1)) := by
  rw [restoreWith, found]
  dsimp only
  rw [restoreWith_skip]

/-- Where a token begins, what is written for its embed takes its place. -/
theorem restoreWith_token {write : Text → Text} {d : Descriptor} {text : Text}
    (nonempty : d.token ≠ []) (found : p.tokenAt? (d.token ++ text) = some d) :
    p.restoreWith write 0 (d.token ++ text) =
      write d.source ++ p.restoreWith write 0 text := by
  cases token : d.token with
  | nil => exact absurd token nonempty
  | cons c tail =>
    rw [token, List.cons_append] at found
    rw [List.cons_append, restoreWith_found found, token, List.length_cons, Nat.add_sub_cancel,
      List.drop_left]

/-! ### Around characters that tokens do not hold -/

section Around

variable {write : Text → Text}

/-- No token begins in a text without the letter that tokens begin with. -/
theorem restoreWith_literal (tokens : ∀ d ∈ p.embeds, IsToken d.token) {literal : Text}
    (free : 'S' ∉ literal) (rest : Text) :
    p.restoreWith write 0 (literal ++ rest) = literal ++ p.restoreWith write 0 rest := by
  induction literal with
  | nil => rfl
  | cons c literal ih =>
    have plain : p.tokenAt? (c :: (literal ++ rest)) = none := by
      rw [tokenAt?_eq_none_iff]
      intro d mem begins
      obtain ⟨tail, token, -⟩ := (tokens d mem).head
      rw [token] at begins
      exact free ((List.cons_prefix_cons.mp begins).1 ▸ List.mem_cons_self)
    rw [List.cons_append, restoreWith_plain plain, List.cons_append,
      ih (List.not_mem_of_not_mem_cons free)]

/-- Whether a token begins a text is decided in front of a character that no token holds. -/
theorem tokenAt?_append_cons (tokens : ∀ d ∈ p.embeds, IsToken d.token) {c : Char}
    (foreign : isTokenChar c = false) (text rest : Text) :
    p.tokenAt? (text ++ c :: rest) = p.tokenAt? text := by
  rw [tokenAt?, tokenAt?]
  refine List.find?_congr fun d mem => ?_
  rw [Bool.eq_iff_iff, List.isPrefixOf_iff_prefix, List.isPrefixOf_iff_prefix]
  exact Text.prefix_append_cons_iff ((tokens d mem).not_mem foreign)

/-- A text is restored piece by piece around a character that no token holds. -/
theorem restoreWith_append_cons (tokens : ∀ d ∈ p.embeds, IsToken d.token) {c : Char}
    (foreign : isTokenChar c = false) (text rest : Text) :
    p.restoreWith write 0 (text ++ c :: rest) =
      p.restoreWith write 0 text ++ c :: p.restoreWith write 0 rest := by
  have here := tokenAt?_append_cons tokens foreign
  -- Induction on the length, because a token that is found is passed as a whole.
  induction length : text.length using Nat.strong_induction_on generalizing text with
  | _ n ih =>
    cases text with
    | nil =>
      have plain : p.tokenAt? (c :: rest) = none := by
        rw [tokenAt?_eq_none_iff]
        intro d mem begins
        have empty : d.token <+: [] := by
          rw [← List.nil_append (c :: rest)] at begins
          exact (Text.prefix_append_cons_iff ((tokens d mem).not_mem foreign)).mp begins
        exact (tokens d mem).ne_nil (List.prefix_nil.mp empty)
      rw [List.nil_append, restoreWith_plain plain]
      rfl
    | cons a text =>
      rw [List.length_cons] at length
      have same := here (a :: text) rest
      cases found : p.tokenAt? (a :: text) with
      | none =>
        rw [found] at same
        rw [List.cons_append] at same ⊢
        rw [restoreWith_plain same, restoreWith_plain found, List.cons_append,
          ih text.length (by omega) text rfl]
      | some d =>
        rw [found] at same
        rw [List.cons_append] at same ⊢
        have inside : d.token.length - 1 ≤ text.length := by
          have fits := (tokenAt?_eq_some found).2.length_le
          rw [List.length_cons] at fits
          omega
        have shorter : (text.drop (d.token.length - 1)).length ≤ text.length := by
          rw [List.length_drop]
          omega
        rw [restoreWith_found same, restoreWith_found found, List.drop_append_of_le_length inside,
          ih _ (by omega) _ rfl, List.append_assoc]

/-- A character of a restored text comes from the text or from an embed that was put back. -/
theorem mem_restoreWith {skip : Nat} {text : Text} {c : Char}
    (mem : c ∈ p.restoreWith write skip text) : c ∈ text ∨ ∃ d ∈ p.embeds, c ∈ write d.source := by
  induction text generalizing skip with
  | nil => cases skip <;> cases mem
  | cons a text ih =>
    have behind {skip : Nat} (later : c ∈ p.restoreWith write skip text) :
        c ∈ a :: text ∨ ∃ d ∈ p.embeds, c ∈ write d.source :=
      (ih later).imp_left (List.mem_cons_of_mem a)
    cases skip with
    | succ skip => exact behind mem
    | zero =>
      rw [restoreWith] at mem
      split at mem
      · rename_i d found
        rcases List.mem_append.mp mem with inSource | later
        · exact .inr ⟨d, (tokenAt?_eq_some found).1, inSource⟩
        · exact behind later
      · rcases List.mem_cons.mp mem with rfl | later
        · exact .inl List.mem_cons_self
        · exact behind later

end Around

end Parsed

/-- The token that begins a text is found there. -/
theorem Extracted.tokenAt?_token {start text rest : Text} {p : Parsed}
    (extracted : Extracted start text p) {d : Descriptor} (mem : d ∈ p.embeds) :
    p.tokenAt? (d.token ++ rest) = some d := by
  cases found : p.tokenAt? (d.token ++ rest) with
  | none => exact absurd (List.prefix_append _ _) (Parsed.tokenAt?_eq_none_iff.mp found d mem)
  | some e =>
    obtain ⟨other, begins⟩ := Parsed.tokenAt?_eq_some found
    exact congrArg some (extracted.eq_of_begins other mem begins (List.prefix_append _ _))

/-- A text without the letter that tokens begin with, at the beginning of what a text is rewritten
to, begins the text as well: it ends in front of the first token. -/
def Reflects (text rewritten : Text) : Prop :=
  ∀ begins : Text, 'S' ∉ begins → begins <+: rewritten → begins <+: text

/-- Words may be put in front of a text and of what reflects it. -/
theorem Reflects.append {text rewritten : Text} (reflects : Reflects text rewritten)
    (literal : Text) : Reflects (literal ++ text) (literal ++ rewritten) := by
  induction literal with
  | nil => exact reflects
  | cons c literal ih =>
    intro begins free isPrefix
    cases begins with
    | nil => exact List.nil_prefix
    | cons b begins =>
      obtain ⟨same, behind⟩ := List.cons_prefix_cons.mp isPrefix
      exact List.cons_prefix_cons.mpr
        ⟨same, ih begins (List.not_mem_of_not_mem_cons free) behind⟩

/-- What a scan rewrites a text to reflects the text. -/
theorem Scanned.reflects {start text rewritten : Text} {index : Nat} {embeds : List Descriptor}
    (scanned : Scanned start index text rewritten embeds)
    (tokens : ∀ i, IsToken (tokenOf start i)) : Reflects text rewritten := by
  induction scanned with
  | done index => exact fun begins _ isPrefix => isPrefix
  | keep c plain behind ih => exact ih.append [c]
  | zero w found number behind ih => exact ih.append w.toText
  | @cut index text rewritten embeds w n found number behind ih =>
    intro begins free isPrefix
    obtain ⟨tail, token, -⟩ := (tokens index).head
    cases begins with
    | nil => exact List.nil_prefix
    | cons b begins =>
      rw [token, List.cons_append] at isPrefix
      obtain ⟨first, -⟩ := List.cons_prefix_cons.mp isPrefix
      exact absurd (first ▸ List.mem_cons_self) free

namespace Extracted

variable {start whole : Text} {p : Parsed}

/-- No token begins at a character that the scan has kept. -/
theorem tokenAt?_kept (extracted : Extracted start whole p) {c : Char} {text rewritten : Text}
    (reflects : Reflects text rewritten) (inside : c :: text <:+: whole) :
    p.tokenAt? (c :: rewritten) = none := by
  rw [Parsed.tokenAt?_eq_none_iff]
  intro d mem begins
  obtain ⟨salt, rfl⟩ := extracted.salted
  obtain ⟨tail, head, once⟩ := saltedPrefix_head salt
  obtain ⟨-, tokens⟩ := extracted.scanned.numbered
  have startBegins : saltedPrefix salt <+: c :: rewritten := by
    rw [tokens d mem, tokenOf, List.append_assoc] at begins
    exact (List.prefix_append _ _).trans begins
  rw [head] at startBegins
  obtain ⟨first, behind⟩ := List.cons_prefix_cons.mp startBegins
  have here : saltedPrefix salt <+: c :: text := by
    rw [head]
    exact List.cons_prefix_cons.mpr ⟨first, reflects _ once behind⟩
  exact extracted.fresh (here.isInfix.trans inside)

/-- Characters that the scan has kept are kept again. -/
theorem restoreWith_kept (extracted : Extracted start whole p) (write : Text → Text)
    {text rewritten : Text} (reflects : Reflects text rewritten) (literal : Text)
    (inside : literal ++ text <:+: whole) :
    p.restoreWith write 0 (literal ++ rewritten) =
      literal ++ p.restoreWith write 0 rewritten := by
  induction literal with
  | nil => rfl
  | cons c literal ih =>
    have plain := extracted.tokenAt?_kept (reflects.append literal) inside
    rw [List.cons_append, Parsed.restoreWith_plain plain, List.cons_append,
      ih ((List.suffix_cons _ _).isInfix.trans inside)]

/-- Restoring undoes what the scan has done behind some place of the text. -/
theorem restore_scanned (extracted : Extracted start whole p) {text rewritten : Text} {index : Nat}
    {embeds : List Descriptor} (scanned : Scanned start index text rewritten embeds)
    (inside : text <:+: whole) (found : embeds ⊆ p.embeds) : p.restore rewritten = text := by
  have tokens (i : Nat) : IsToken (tokenOf start i) := by
    obtain ⟨salt, rfl⟩ := extracted.salted
    exact isToken_tokenOf salt i
  rw [Parsed.restore]
  induction scanned with
  | done index => rfl
  | @keep index text rewritten embeds c plain behind ih =>
    have kept := extracted.restoreWith_kept id (behind.reflects tokens) [c] inside
    rw [List.singleton_append] at kept
    rw [kept, ih ((List.suffix_cons _ _).isInfix.trans inside) found]
    rfl
  | zero w read number behind ih =>
    rw [extracted.restoreWith_kept id (behind.reflects tokens) w.toText inside,
      ih ((List.suffix_append _ _).isInfix.trans inside) found]
  | @cut index text rewritten embeds w n read number behind ih =>
    have mem : w.descriptor start index (n + 1) ∈ p.embeds := found List.mem_cons_self
    have token : tokenOf start index = (w.descriptor start index (n + 1)).token := rfl
    rw [token, Parsed.restoreWith_token (extracted.isToken mem).ne_nil
        (extracted.tokenAt?_token mem),
      ih ((List.suffix_append _ _).isInfix.trans inside)
        (fun d later => found (List.mem_cons_of_mem _ later))]
    rfl

end Extracted

/-- Restoring the rewritten text of an extraction gives the text, and every embed that was cut out
says what its source spells. -/
theorem extract_restore {text : Text} {p : Parsed} (ok : extract text = .ok p) :
    p.restore p.rewritten = text ∧
      ∀ d ∈ p.embeds, ∃ digits label, d.SpelledBy digits label := by
  have extracted := extracted_of_extract ok
  exact ⟨extracted.restore_scanned extracted.scanned (List.infix_refl _) (List.Subset.refl _),
    extracted.scanned.spelledBy⟩

/-- A text with something like a token in front of an embed with the number zero, of one whose
label stands between blanks, and of one with a blank label. -/
def lookAlikes : Text :=
  "SPOILERDOWNEMBEDQ0E".toList ++ (Written.mk .arc ['0'] none).toText ++
    (Written.mk .arc "010".toList (some " Tower ".toList)).toText ++
    (Written.mk .quote ['1'] (some "  ".toList)).toText ++ "1E".toList

/-- A text with something like a token in it is restored. -/
theorem extract_restore_lookAlikes :
    ∃ p, extract lookAlikes = .ok p ∧
      p.rewritten = "SPOILERDOWNEMBEDQ0E".toList ++ (Written.mk .arc ['0'] none).toText ++
        "SPOILERDOWNEMBED1Q0ESPOILERDOWNEMBED1Q1E1E".toList ∧
      p.restore p.rewritten = lookAlikes ∧
      ∀ d ∈ p.embeds, ∃ digits label, d.SpelledBy digits label := by
  refine ⟨⟨"SPOILERDOWNEMBEDQ0E".toList ++ (Written.mk .arc ['0'] none).toText ++
      "SPOILERDOWNEMBED1Q0ESPOILERDOWNEMBED1Q1E1E".toList,
    [⟨0, .arc, 10, some "Tower".toList, "SPOILERDOWNEMBED1Q0E".toList,
        (Written.mk .arc "010".toList (some " Tower ".toList)).toText⟩,
      ⟨1, .quote, 1, none, "SPOILERDOWNEMBED1Q1E".toList,
        (Written.mk .quote ['1'] (some "  ".toList)).toText⟩]⟩,
    ?_, rfl, extract_restore ?_⟩ <;> decide +kernel

end Loremark.Embed
