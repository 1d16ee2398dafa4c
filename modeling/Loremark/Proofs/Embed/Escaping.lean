import Loremark.Proofs.Embed.Clearing

/-!
# Embeds put back, escaped or not

Embeds are put back as the author wrote them, or escaped where the text is output already. Either
way no token is left, whatever the text was, so that putting them back again changes nothing
(`restoreAs_clears`). The two ways agree: escaping keeps the characters of tokens and writes no
entity that a token could begin in, so a text may be escaped before or after its embeds are put back
(`restoreEscaped_escapeAll`).
-/

set_option autoImplicit false

namespace Loremark.Embed

/-- Puts the embeds back, escaped or as the author wrote them. -/
def Parsed.restoreAs (p : Parsed) (escaped : Bool) (text : Text) : Text :=
  if escaped then p.restoreEscaped text else p.restore text

namespace Parsed

variable {p : Parsed}

/-! ## Nothing is left to put back -/

/-- No token is left when embeds are put back, escaped or not. -/
theorem Distinct.restoreAs_tokenFree (distinct : p.Distinct) (escaped : Bool) (text : Text) :
    p.TokenFree (p.restoreAs escaped text) := by
  cases escaped with
  | false => exact distinct.restore_tokenFree text
  | true => exact distinct.restoreEscaped_tokenFree text

/-- A text without tokens is left as it is. -/
theorem TokenFree.restoreAs {text : Text} (free : p.TokenFree text) (escaped : Bool) :
    p.restoreAs escaped text = text := by
  cases escaped with
  | false => exact free.restoreWith id
  | true => exact free.restoreWith Text.escapeAll

/-- A text is changed exactly if a token occurs in it. -/
theorem Distinct.restoreAs_eq_self_iff (distinct : p.Distinct) (escaped : Bool) (text : Text) :
    p.restoreAs escaped text = text ↔ p.TokenFree text := by
  constructor
  · intro same
    rw [← same]
    exact distinct.restoreAs_tokenFree escaped text
  · intro free
    exact free.restoreAs escaped

end Parsed

/-- No token is left in a text whose embeds have been put back, and putting them back again, in
either way, changes nothing. A text that holds no token is the only one left as it is. -/
theorem restoreAs_clears {content : Text} {p : Parsed} (ok : extract content = .ok p)
    (escaped : Bool) (text : Text) :
    p.TokenFree (p.restoreAs escaped text) ∧
      (∀ again, p.restoreAs again (p.restoreAs escaped text) = p.restoreAs escaped text) ∧
      (p.restoreAs escaped text = text ↔ p.TokenFree text) := by
  have distinct := (extracted_of_extract ok).distinct
  have free := distinct.restoreAs_tokenFree escaped text
  refine ⟨free, ?_, distinct.restoreAs_eq_self_iff escaped text⟩
  intro again
  exact free.restoreAs again

/-- Two embeds, one of them with a label that is escaped. -/
def labelledPair : Text :=
  (Written.mk .arc ['5'] (some "<Tower> & \"Arc\"".toList)).toText ++
    (Written.mk .quote ['7'] none).toText

/-- The embeds of the pair. -/
def pairEmbeds : List Descriptor :=
  [⟨0, .arc, 5, some "<Tower> & \"Arc\"".toList, "SPOILERDOWNEMBEDQ0E".toList,
      (Written.mk .arc ['5'] (some "<Tower> & \"Arc\"".toList)).toText⟩,
    ⟨1, .quote, 7, none, "SPOILERDOWNEMBEDQ1E".toList, (Written.mk .quote ['7'] none).toText⟩]

/-- The pair is extracted as two tokens that touch. -/
theorem extract_labelledPair :
    extract labelledPair = .ok ⟨"SPOILERDOWNEMBEDQ0ESPOILERDOWNEMBEDQ1E".toList, pairEmbeds⟩ := by
  decide +kernel

/-- Tokens that touch each other, are repeated or cut, and one that none of the embeds has. -/
def brokenTokens : Text :=
  "SPOILERDOWNEMBEDQSPOILERDOWNEMBEDQ1ESPOILERDOWNEMBEDQ1E0E&SPOILERDOWNEMBEDQ2E".toList

/-- Broken tokens are cleared for good, though a token of the pair stands among them. -/
theorem restoreAs_clears_brokenTokens : ∃ p, extract labelledPair = .ok p ∧
    ¬ p.TokenFree brokenTokens ∧ p.TokenFree (p.restoreAs true brokenTokens) ∧
      (∀ again, p.restoreAs again (p.restoreAs true brokenTokens) =
        p.restoreAs true brokenTokens) ∧
      (p.restoreAs true brokenTokens = brokenTokens ↔ p.TokenFree brokenTokens) := by
  refine ⟨_, extract_labelledPair, ?_, restoreAs_clears extract_labelledPair true brokenTokens⟩
  intro free
  refine free ⟨1, .quote, 7, none, "SPOILERDOWNEMBEDQ1E".toList, _⟩ (.tail _ (.head _)) ?_
  exact ⟨"SPOILERDOWNEMBEDQ".toList, _, rfl⟩

/-! ## Escaping before and after -/

namespace Parsed

variable {p : Parsed}

/-- Whether a token begins a text is not changed by escaping. -/
theorem tokenAt?_escapeAll (tokens : ∀ d ∈ p.embeds, IsToken d.token) (text : Text) :
    p.tokenAt? (Text.escapeAll text) = p.tokenAt? text := by
  unfold tokenAt?
  apply List.find?_congr
  intro d mem
  rw [Bool.eq_iff_iff, List.isPrefixOf_iff_prefix, List.isPrefixOf_iff_prefix]
  exact prefix_escapeAll_iff (tokens d mem).chars

/-- Putting embeds back commutes with escaping, if what is put back is escaped too. -/
theorem restoreWith_escapeAll (tokens : ∀ d ∈ p.embeds, IsToken d.token) (write : Text → Text)
    (text : Text) :
    p.restoreWith (Text.escapeAll ∘ write) 0 (Text.escapeAll text) =
      Text.escapeAll (p.restoreWith write 0 text) := by
  induction length : text.length using Nat.strong_induction_on generalizing text with
  | _ n ih =>
    cases text with
    | nil => rfl
    | cons c text =>
      have same := tokenAt?_escapeAll tokens (c :: text)
      cases found : p.tokenAt? (c :: text) with
      | none =>
        have later := ih text.length (by simp only [List.length_cons] at length; omega) text rfl
        rw [restoreWith_plain found]
        rcases escapeAll_cases c with plain | ⟨-, name, free, entity⟩
        · -- The character is kept on both sides.
          rw [found, plain] at same
          rw [plain, restoreWith_plain same, plain, later]
        · -- No token begins in the entity, as none of its characters is a capital.
          have literal : 'S' ∉ '&' :: (name ++ [';']) := by simp [free]
          have split (rest : Text) :
              '&' :: (name ++ ';' :: rest) = '&' :: (name ++ [';']) ++ rest := by simp
          rw [entity, entity, split, restoreWith_literal tokens literal, later, ← split]
      | some d =>
        obtain ⟨mem, rest, whole⟩ := tokenAt?_eq_some found
        have isToken := tokens d mem
        have shorter : rest.length < n := by
          have positive := List.length_pos_iff.mpr isToken.ne_nil
          have lengths := congrArg List.length whole
          rw [List.length_append] at lengths
          omega
        rw [← whole] at found same ⊢
        rw [escapeAll_append, escapeAll_of_isTokenChar isToken.chars, found] at same
        rw [escapeAll_append, escapeAll_of_isTokenChar isToken.chars,
          restoreWith_token isToken.ne_nil same, restoreWith_token isToken.ne_nil found,
          escapeAll_append, ih rest.length shorter rest rfl]
        rfl

end Parsed

/-- It does not matter whether a text is escaped before its embeds are put back, escaped themselves,
or after. -/
theorem restoreEscaped_escapeAll {content : Text} {p : Parsed} (ok : extract content = .ok p)
    (text : Text) :
    p.restoreEscaped (Text.escapeAll text) = Text.escapeAll (p.restore text) := by
  have tokens := (extracted_of_extract ok).distinct.isToken
  exact Parsed.restoreWith_escapeAll tokens id text

/-- Tokens between characters that are escaped, and the rest of one behind an entity. -/
def tokensInMarkup : Text :=
  "<SPOILERDOWNEMBEDQ0E&SPOILERDOWNEMBEDQ1E'SPOILERDOWNEMBEDQ&27Q0E".toList

/-- Between escaped characters the two orders agree, and something is put back. -/
theorem restoreEscaped_escapeAll_tokensInMarkup : ∃ p, extract labelledPair = .ok p ∧
    p.restore tokensInMarkup ≠ tokensInMarkup ∧
      p.restoreEscaped (Text.escapeAll tokensInMarkup) =
        Text.escapeAll (p.restore tokensInMarkup) := by
  refine ⟨_, extract_labelledPair, ?_, restoreEscaped_escapeAll extract_labelledPair _⟩
  decide +kernel

end Loremark.Embed
