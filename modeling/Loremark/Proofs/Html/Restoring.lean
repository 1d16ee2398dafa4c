import Loremark.Proofs.Embed.Restoration
import Loremark.Proofs.Html.Nesting

/-!
# Putting embeds back into output

Plain output is written while the tokens of embeds stand in it, and the embeds are put back into the
text. Tokens are capitals and digits, so none touches a tag: it lies in a value or among characters
outside tags. What takes its place is escaped like a value, and the text stays well nested
(`WellNested.restoreEscaped`).
-/

set_option autoImplicit false

namespace Loremark.Html

open Embed

/-- The letter that tokens begin with stands in the name of no element. -/
theorem capital_not_mem_tag (tag : Tag) : 'S' ∉ tag.name := by
  cases tag with
  | heading level =>
    have digits (n : Nat) : 'S' ∉ Text.ofNat n :=
      not_mem_of_digits (fun _ digit => Text.isDigit_of_mem_ofNat digit) rfl
    have value : 'S' ∉ Text.ofInt level := by
      cases level with
      | ofNat n => exact digits n
      | negSucc n => exact List.not_mem_cons_of_ne_of_not_mem (by decide) (digits (n + 1))
    exact List.not_mem_cons_of_ne_of_not_mem (by decide) value
  | _ => decide

/-- The letter that tokens begin with stands in the name of no element without an end. -/
theorem capital_not_mem_void (tag : VoidTag) : 'S' ∉ tag.name := by
  cases tag <;> decide

variable {strict : Bool} {p : Parsed}

/-- The attributes of a tag after the embeds have been put back. -/
theorem Attributes.restored (tokens : ∀ d ∈ p.embeds, IsToken d.token) {attrs : Text}
    (attributes : Attributes strict attrs) : Attributes strict (p.restoreEscaped attrs) := by
  rw [Parsed.restoreEscaped]
  induction attributes with
  | none => exact .none
  | @more name value rest named nameChars valueChars behind ih =>
    have free : 'S' ∉ ' ' :: (name ++ ['=', '"']) := by
      have inName : 'S' ∉ name := fun mem => by cases nameChars _ mem
      simp [inName]
    have split : ' ' :: (name ++ '=' :: '"' :: (value ++ '"' :: rest)) =
        (' ' :: (name ++ ['=', '"'])) ++ (value ++ '"' :: rest) := by simp
    rw [split, Parsed.restoreWith_literal tokens free,
      Parsed.restoreWith_append_cons tokens (by decide)]
    have restored : ∀ c ∈ p.restoreWith Text.escapeAll 0 value, isValueChar strict c = true := by
      intro c mem
      rcases Parsed.mem_restoreWith mem with kept | ⟨d, -, inSource⟩
      · exact valueChars c kept
      · have serves : Escaping.all.servesValues strict = true := rfl
        exact Escaping.apply_value serves d.source c inSource
    simpa using Attributes.more named nameChars restored ih

/-- With its embeds put back, a text that begins with no angle bracket is well nested if what follows
is, wherever the first embed ends. -/
theorem WellNested.restoreWith_char (tokens : ∀ d ∈ p.embeds, IsToken d.token) {c : Char}
    {rest : Text} (open_ : c ≠ '<') (close : c ≠ '>') (behind : WellNested strict rest)
    (later : ∀ text : Text, text.length ≤ rest.length → WellNested strict text →
      WellNested strict (p.restoreWith Text.escapeAll 0 text)) :
    WellNested strict (p.restoreWith Text.escapeAll 0 (c :: rest)) := by
  cases found : p.tokenAt? (c :: rest) with
  | none =>
    rw [Parsed.restoreWith_plain found]
    exact .char c open_ close (later rest le_rfl behind)
  | some d =>
    obtain ⟨mem, after, whole⟩ := Parsed.tokenAt?_eq_some found
    obtain ⟨tail, token, -⟩ := (tokens d mem).head
    have cut : rest.drop (d.token.length - 1) = after := by
      rw [token, List.cons_append] at whole
      rw [← (List.cons.inj whole).2, token, List.length_cons, Nat.add_sub_cancel, List.drop_left]
    have left : WellNested strict after := by
      have nested := WellNested.char c open_ close behind
      rw [← whole] at nested
      exact nested.of_append ((tokens d mem).not_mem rfl)
    have shorter : after.length ≤ rest.length := by
      rw [← cut, List.length_drop]
      omega
    rw [Parsed.restoreWith_found found, cut]
    obtain ⟨noOpen, noClose⟩ := Escaping.apply_free .all d.source
    exact (WellNested.of_chars noOpen noClose).append (later after shorter left)

/-- Well nested output stays so when the embeds are put back. -/
theorem WellNested.restoreEscaped (tokens : ∀ d ∈ p.embeds, IsToken d.token) {html : Text}
    (nested : WellNested strict html) : WellNested strict (p.restoreEscaped html) := by
  rw [Parsed.restoreEscaped]
  -- Induction on the length, because a token is replaced as a whole.
  induction length : html.length using Nat.strong_induction_on generalizing html with
  | _ n ih =>
    cases nested with
    | done => exact .done
    | @char rest c open_ close behind =>
      rw [List.length_cons] at length
      exact restoreWith_char tokens open_ close behind
        fun text shorter nested => ih text.length (by omega) nested rfl
    | @element attrs body rest tag attributes inside behind =>
      simp only [List.length_cons, List.length_append] at length
      -- Tokens begin with a capital, and no name of a tag has one: tokens do not reach into tags.
      have capital := capital_not_mem_tag tag
      have free : 'S' ∉ '<' :: tag.name := by simp [capital]
      have closing : 'S' ∉ '/' :: (tag.name ++ ['>']) := by simp [capital]
      have split : '<' :: (tag.name ++ (attrs ++ '>' :: (body ++ '<' :: '/' ::
          (tag.name ++ '>' :: rest)))) = ('<' :: tag.name) ++ (attrs ++ '>' :: (body ++ '<' ::
            (('/' :: (tag.name ++ ['>'])) ++ rest))) := by simp
      rw [split, Parsed.restoreWith_literal tokens free,
        Parsed.restoreWith_append_cons tokens (by decide),
        Parsed.restoreWith_append_cons tokens (by decide),
        Parsed.restoreWith_literal tokens closing]
      have within := ih body.length (by omega) inside rfl
      have later := ih rest.length (by omega) behind rfl
      simpa [Parsed.restoreEscaped] using
        WellNested.element tag (attributes.restored tokens) within later
    | @void attrs rest tag attributes slash behind =>
      simp only [List.length_cons, List.length_append] at length
      have capital := capital_not_mem_void tag
      have free : 'S' ∉ '<' :: tag.name := by simp [capital]
      have later := ih rest.length (by omega) behind rfl
      have written := WellNested.void tag (attributes.restored tokens) slash later
      cases slash with
      | false =>
        have split : '<' :: (tag.name ++ (attrs ++ ([] ++ '>' :: rest))) =
            ('<' :: tag.name) ++ (attrs ++ '>' :: rest) := by simp
        rw [if_neg Bool.false_ne_true, split, Parsed.restoreWith_literal tokens free,
          Parsed.restoreWith_append_cons tokens (by decide)]
        simpa [Parsed.restoreEscaped] using written
      | true =>
        have close : 'S' ∉ ['/', '>'] := by decide
        have split : '<' :: (tag.name ++ (attrs ++ ([' ', '/'] ++ '>' :: rest))) =
            ('<' :: tag.name) ++ (attrs ++ ' ' :: (['/', '>'] ++ rest)) := by simp
        rw [if_pos rfl, split, Parsed.restoreWith_literal tokens free,
          Parsed.restoreWith_append_cons tokens (by decide),
          Parsed.restoreWith_literal tokens close]
        simpa [Parsed.restoreEscaped] using written

end Loremark.Html
