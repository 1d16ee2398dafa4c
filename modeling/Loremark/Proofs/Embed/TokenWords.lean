import Loremark.Proofs.Embed.Reinsertion
import Loremark.Proofs.Text.Vocabulary

/-!
# Tokens as words

The tokens of an extraction are a vocabulary. The rewritten text has the tokens of the embeds in the
order of extraction and no others (`Extracted.hits_scanned`), and looking for the embeds in a text
finds tokens in the order in which they stand there (`tokens_foundIn_sublist`).
-/

set_option autoImplicit false

namespace Loremark.Embed

open Text (Vocabulary)

/-- The tokens of the embeds of an extraction. -/
def tokenWords (p : Parsed) : Vocabulary where
  isWord word := !word.isEmpty && p.embeds.any (·.token == word)
  nonempty := rfl

variable {p : Parsed}

/-- The words of the vocabulary are the tokens of the embeds. -/
theorem isWord_iff {word : Text} :
    (tokenWords p).isWord word = true ↔ word ≠ [] ∧ ∃ d ∈ p.embeds, d.token = word := by
  simp [tokenWords]

/-- Where no token is found, no word begins. -/
theorem here_eq_nil {text : Text} (none : p.tokenAt? text = none) :
    (tokenWords p).here text = [] := by
  rw [List.eq_nil_iff_forall_not_mem]
  intro word mem
  obtain ⟨isWord, begins⟩ := Vocabulary.mem_here.mp mem
  obtain ⟨-, d, isEmbed, rfl⟩ := isWord_iff.mp isWord
  exact Parsed.tokenAt?_eq_none_iff.mp none d isEmbed begins

/-- No punctuation stands in a token. -/
theorem isTokenChar_of_punctuation {c : Char} (punctuation : Text.isAsciiPunctuation c = true) :
    isTokenChar c = false := by
  simp only [Text.isAsciiPunctuation, Bool.or_eq_true, Bool.and_eq_true, decide_eq_true_eq]
    at punctuation
  rw [isTokenChar, Text.isDigit, Bool.eq_false_iff]
  simp only [ne_eq, Bool.or_eq_true, Bool.and_eq_true, decide_eq_true_eq, Char.le_def,
    UInt32.le_iff_toNat_le]
  change ¬ ((65 ≤ c.toNat ∧ c.toNat ≤ 90) ∨ 48 ≤ c.toNat ∧ c.toNat ≤ 57)
  omega

/-- Whether some token holds a character. -/
def Parsed.inToken (p : Parsed) (c : Char) : Bool := p.embeds.any fun d => d.token.contains c

/-- A character that no token holds separates tokens. -/
theorem separates_of_inToken {c : Char} (foreign : p.inToken c = false) :
    (tokenWords p).Separates c := by
  intro word isWord mem
  obtain ⟨-, d, isEmbed, rfl⟩ := isWord_iff.mp isWord
  rw [Parsed.inToken, List.any_eq_false] at foreign
  exact foreign d isEmbed (List.contains_iff_mem.mpr mem)

namespace Parsed.Distinct

/-- Characters that no token can hold separate tokens. -/
theorem separates (distinct : p.Distinct) {c : Char} (foreign : isTokenChar c = false) :
    (tokenWords p).Separates c := by
  intro word isWord
  obtain ⟨-, d, isEmbed, rfl⟩ := isWord_iff.mp isWord
  exact (distinct.isToken d isEmbed).not_mem foreign

/-- No token begins with anything but the letter of the stem. -/
theorem here_cons (distinct : p.Distinct) {c : Char} (other : c ≠ 'S') (text : Text) :
    (tokenWords p).here (c :: text) = [] := by
  refine here_eq_nil (tokenAt?_eq_none_iff.mpr fun d isEmbed begins => ?_)
  obtain ⟨tail, isTail, -⟩ := (distinct.isToken d isEmbed).head
  rw [isTail] at begins
  exact other (List.cons_prefix_cons.mp begins).1.symm

/-- The token of an embed is found as that of this embed. -/
theorem tokenAt?_token (distinct : p.Distinct) {d : Descriptor} (mem : d ∈ p.embeds) :
    p.tokenAt? d.token = some d := by
  cases found : p.tokenAt? d.token with
  | none => exact absurd List.prefix_rfl (tokenAt?_eq_none_iff.mp found d mem)
  | some e =>
    obtain ⟨other, begins⟩ := tokenAt?_eq_some found
    rw [distinct.unique e other d mem d.token begins List.prefix_rfl]

/-- Embeds whose tokens come in order come in order. -/
theorem sublist_of_tokens (distinct : p.Distinct) {found : List Descriptor}
    (isPart : found ⊆ p.embeds)
    (fewer : (found.map Descriptor.token).Sublist (p.embeds.map Descriptor.token)) :
    found.Sublist p.embeds := by
  have back {embeds : List Descriptor} (all : embeds ⊆ p.embeds) :
      (embeds.map Descriptor.token).filterMap p.tokenAt? = embeds := by
    have each : ∀ d ∈ embeds, (p.tokenAt? ∘ Descriptor.token) d = some d :=
      fun d mem => distinct.tokenAt?_token (all mem)
    rw [List.filterMap_map, List.filterMap_congr each, List.filterMap_some]
  have tokens := fewer.filterMap p.tokenAt?
  rwa [back isPart, back (List.Subset.refl _)] at tokens

end Parsed.Distinct

/-! ## The rewritten text -/

namespace Extracted

variable {start whole : Text}

/-- Characters that the scan has kept begin no token. -/
theorem hits_kept (extracted : Extracted start whole p) {text rewritten : Text}
    (reflects : Reflects text rewritten) (literal : Text) (inside : literal ++ text <:+: whole) :
    (tokenWords p).hits (literal ++ rewritten) = (tokenWords p).hits rewritten := by
  induction literal with
  | nil => rfl
  | cons c literal ih =>
    have plain := extracted.tokenAt?_kept (reflects.append literal) inside
    rw [List.cons_append, Vocabulary.hits, here_eq_nil plain, List.nil_append,
      ih ((List.suffix_cons _ _).isInfix.trans inside)]

/-- In a token and behind it, no word begins before the end of the token but the token itself. -/
theorem hits_token (extracted : Extracted start whole p) {d : Descriptor} (mem : d ∈ p.embeds)
    (rest : Text) :
    ((tokenWords p).hits (d.token ++ rest)).Sublist (d.token :: (tokenWords p).hits rest) := by
  have distinct := extracted.distinct
  have first : ((tokenWords p).here (d.token ++ rest)).Sublist [d.token] := by
    refine Vocabulary.here_sublist_singleton fun other isWord begins => ?_
    obtain ⟨-, e, isEmbed, rfl⟩ := isWord_iff.mp isWord
    rw [extracted.eq_of_begins isEmbed mem begins (List.prefix_append _ _)]
  -- Behind its first letter, a token has none that could begin another one.
  obtain ⟨tail, isTail, once⟩ := (distinct.isToken d mem).head
  have nothing : ∀ c ∈ tail, ∀ behind, (tokenWords p).here (c :: behind) = [] := by
    intro c inTail behind
    refine distinct.here_cons (fun same => once (same ▸ inTail)) behind
  rw [isTail, List.cons_append] at first ⊢
  rw [Vocabulary.hits, Vocabulary.hits_append_of_here_eq_nil nothing]
  exact first.append (List.Sublist.refl _)

/-- The tokens of the rewritten text are those of the embeds, in the order of extraction. -/
theorem hits_scanned (extracted : Extracted start whole p) {text rewritten : Text} {index : Nat}
    {embeds : List Descriptor} (scanned : Scanned start index text rewritten embeds)
    (inside : text <:+: whole) (found : embeds ⊆ p.embeds) :
    ((tokenWords p).hits rewritten).Sublist (embeds.map Descriptor.token) := by
  have tokens (i : Nat) : IsToken (tokenOf start i) := by
    obtain ⟨salt, rfl⟩ := extracted.salted
    exact isToken_tokenOf salt i
  induction scanned with
  | done index => exact List.Sublist.refl _
  | @keep index text rewritten embeds c plain behind ih =>
    have kept := extracted.hits_kept (behind.reflects tokens) [c] inside
    rw [List.singleton_append] at kept
    rw [kept]
    exact ih ((List.suffix_cons _ _).isInfix.trans inside) found
  | zero w read number behind ih =>
    rw [extracted.hits_kept (behind.reflects tokens) w.toText inside]
    exact ih ((List.suffix_append _ _).isInfix.trans inside) found
  | @cut index text rewritten embeds w n read number behind ih =>
    have mem : w.descriptor start index (n + 1) ∈ p.embeds := found List.mem_cons_self
    have later := ih ((List.suffix_append _ _).isInfix.trans inside)
      fun d isLater => found (List.mem_cons_of_mem _ isLater)
    exact (extracted.hits_token mem rewritten).trans (later.cons_cons _)

end Extracted

/-! ## What is found in a text -/

/-- The embed that a segment is. -/
def Segment.descriptor? : Segment → Option Descriptor
  | .literal _ => none
  | .embed d => some d

/-- The embeds that are found in a live text. -/
def foundIn (embeds : List Descriptor) (text : Text) : List Descriptor :=
  (reinsert text embeds).filterMap Segment.descriptor?

/-- The embeds that are found are those among the pieces. -/
theorem foundIn_eq (embeds : List Descriptor) (text : Text) :
    foundIn embeds text = (splitAround text embeds).1.filterMap Segment.descriptor? := by
  rw [foundIn, reinsert]
  cases splitAround text embeds with
  | mk segments last =>
    dsimp only
    split
    · simp [Segment.descriptor?]
    · rfl

/-- Where no embeds are looked for, none is found. -/
@[simp] theorem foundIn_nil (text : Text) : foundIn [] text = [] := by
  rw [foundIn_eq]
  rfl

/-- An embed whose token does not occur is passed over. -/
theorem foundIn_cons_none {d : Descriptor} {embeds : List Descriptor} {text : Text}
    (absent : Text.cutAt? d.token text = none) :
    foundIn (d :: embeds) text = foundIn embeds text := by
  rw [foundIn_eq, foundIn_eq, splitAround, absent]

/-- An embed whose token occurs is found, and the others are looked for behind it. -/
theorem foundIn_cons_some {d : Descriptor} {embeds : List Descriptor} {text before rest : Text}
    (cut : Text.cutAt? d.token text = some (before, rest)) :
    foundIn (d :: embeds) text = d :: foundIn embeds rest := by
  rw [foundIn_eq, foundIn_eq, splitAround, cut]
  cases before <;> rfl

/-- Embeds are found in the order in which they are looked for. -/
theorem foundIn_sublist (embeds : List Descriptor) (text : Text) :
    (foundIn embeds text).Sublist embeds := by
  induction embeds generalizing text with
  | nil => rw [foundIn_nil]
  | cons d embeds ih =>
    cases cut : Text.cutAt? d.token text with
    | none =>
      rw [foundIn_cons_none cut]
      exact (ih text).cons d
    | some parts =>
      rw [foundIn_cons_some cut]
      exact (ih parts.2).cons_cons d

/-- The tokens of what is found in a text stand there in the order in which they are found. -/
theorem tokens_foundIn_sublist (distinct : p.Distinct) {embeds : List Descriptor}
    (isPart : embeds ⊆ p.embeds) (text : Text) :
    ((foundIn embeds text).map Descriptor.token).Sublist ((tokenWords p).hits text) := by
  induction embeds generalizing text with
  | nil =>
    rw [foundIn_nil]
    exact List.nil_sublist _
  | cons d embeds ih =>
    obtain ⟨mem, later⟩ := List.cons_subset.mp isPart
    cases cut : Text.cutAt? d.token text with
    | none =>
      rw [foundIn_cons_none cut]
      exact ih later text
    | some parts =>
      obtain ⟨before, rest⟩ := parts
      have isWord : (tokenWords p).isWord d.token = true :=
        isWord_iff.mpr ⟨(distinct.isToken d mem).ne_nil, d, mem, rfl⟩
      have here : [d.token].Sublist ((tokenWords p).hits (before ++ d.token)) :=
        List.singleton_sublist.mpr
          (Vocabulary.mem_hits_of_isWord isWord (List.suffix_append before d.token).isInfix)
      rw [foundIn_cons_some cut, Text.eq_append_of_cutAt? cut, ← List.append_assoc]
      exact (here.append (ih later rest)).trans (Vocabulary.hits_append_sublist _ _)

/-- The tokens of the embeds found in texts stand in these texts in the same order. -/
theorem tokens_flatMap_foundIn_sublist (distinct : p.Distinct) (texts : List Text) :
    ((texts.flatMap (foundIn p.embeds)).map Descriptor.token).Sublist
      ((tokenWords p).hitsAll texts) := by
  induction texts with
  | nil => exact List.Sublist.refl _
  | cons text texts ih =>
    rw [List.flatMap_cons, List.map_append, Vocabulary.hitsAll_cons]
    exact (tokens_foundIn_sublist distinct (List.Subset.refl _) text).append ih

/-- No embed is found in an empty text. -/
theorem Parsed.Distinct.foundIn_empty (distinct : p.Distinct) : foundIn p.embeds [] = [] :=
  List.map_eq_nil_iff.mp
    (List.sublist_nil.mp (tokens_foundIn_sublist distinct (List.Subset.refl _) []))

end Loremark.Embed
