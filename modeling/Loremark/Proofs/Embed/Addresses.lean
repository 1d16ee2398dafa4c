import Loremark.Markdown.Destination
import Loremark.Proofs.Embed.Clearing

/-!
# Addresses with embeds in them

An address is tested while the tokens stand in it, and the embeds are put back afterwards. The test
comes out the same (`Distinct.isAllowedAddress_restore`). It asks how the address begins, behind
its blanks and in small letters, and none of the beginnings it asks for can end within a token or
within the source of an embed: an embed begins with a brace, which stands in none of them, and
wherever a token could begin in one of them, another letter stands there (`isOutside`).
-/

set_option autoImplicit false

namespace Loremark.Embed

/-- What every token begins with, in small letters. -/
def smallStem : Text := stem.map Text.toSmall

/-- Beginnings that hold no brace and no part of which, up to its end, agrees with a token in small
letters. -/
def isOutside : Text → Bool
  | [] => true
  | c :: start =>
    c != '\x7b' && !(c :: start).isPrefixOf smallStem && !smallStem.isPrefixOf (c :: start) &&
      isOutside start

/-- The beginnings that are looked for in addresses can be told from tokens and from embeds. -/
theorem isOutside_starts :
    (Markdown.refusedSchemes ++ Markdown.allowedData).all isOutside = true := by
  decide

/-- A beginning that ends as a token begins could be completed by one. -/
example : isOutside "gossip".toList = true ∧ isOutside "gossips".toList = false := by
  decide

namespace Parsed

variable {p : Parsed}

/-- No token begins with such a part of an address, and no such part with a token. -/
theorem Distinct.not_prefix_of_token (distinct : p.Distinct) {d : Descriptor}
    (mem : d ∈ p.embeds) {a : Char} {start text : Text} (outside : isOutside (a :: start) = true)
    (begins : d.token <+: text) : ¬ (a :: start) <+: text.map Text.toSmall := by
  intro here
  have stemHere : smallStem <+: text.map Text.toSmall :=
    ((distinct.isToken d mem).begins.trans begins).map Text.toSmall
  simp only [isOutside, Bool.and_eq_true, Bool.not_eq_true', ← Bool.not_eq_true,
    List.isPrefixOf_iff_prefix] at outside
  obtain ⟨⟨⟨-, notWithin⟩, notBehind⟩, -⟩ := outside
  rcases List.prefix_or_prefix_of_prefix here stemHere with within | behind
  · exact notWithin within
  · exact notBehind behind

/-- Putting embeds back does not change whether a text begins so. -/
theorem Distinct.prefix_restoreWith_iff (distinct : p.Distinct) (text : Text) {start : Text}
    (outside : isOutside start = true) :
    start <+: (p.restoreWith id 0 text).map Text.toSmall ↔ start <+: text.map Text.toSmall := by
  induction text generalizing start with
  | nil => exact Iff.rfl
  | cons c text ih =>
    cases start with
    | nil => exact iff_of_true List.nil_prefix List.nil_prefix
    | cons a start =>
      cases found : p.tokenAt? (c :: text) with
      | none =>
        have further : isOutside start = true := (Bool.and_eq_true _ _ ▸ outside :).2
        rw [restoreWith_plain found, List.map_cons, List.map_cons, List.cons_prefix_cons,
          List.cons_prefix_cons, ih further]
      | some d =>
        obtain ⟨mem, begins⟩ := tokenAt?_eq_some found
        obtain ⟨inner, braced⟩ := distinct.braced d mem
        have noBrace : a ≠ '\x7b' := by
          simp only [isOutside, Bool.and_eq_true, bne_iff_ne] at outside
          exact outside.1.1.1
        refine iff_of_false ?_ (distinct.not_prefix_of_token mem outside begins)
        rw [restoreWith_found found, id, braced, List.cons_append, List.map_cons]
        intro here
        exact noBrace (List.cons_prefix_cons.mp here).1

/-- Where a blank stands, no token begins. -/
theorem Distinct.tokenAt?_of_isBlank (distinct : p.Distinct) {c : Char} {text : Text}
    (blank : Text.isBlank c = true) : p.tokenAt? (c :: text) = none := by
  rw [tokenAt?_eq_none_iff]
  intro d mem begins
  obtain ⟨tail, head, -⟩ := (distinct.isToken d mem).head
  rw [head] at begins
  have first : 'S' = c := (List.cons_prefix_cons.mp begins).1
  rw [← first] at blank
  cases blank

/-- Embeds are put back behind the leading blanks of a text. -/
theorem Distinct.trimStart_restore (distinct : p.Distinct) (text : Text) :
    Text.trimStart (p.restore text) = p.restore (Text.trimStart text) := by
  simp only [Text.trimStart, restore]
  induction text with
  | nil => rfl
  | cons c text ih =>
    cases blank : Text.isBlank c with
    | true =>
      rw [restoreWith_plain (distinct.tokenAt?_of_isBlank blank), List.dropWhile_cons_of_pos blank,
        List.dropWhile_cons_of_pos blank, ih]
    | false =>
      have solid : ¬ Text.isBlank c = true := by
        rw [blank]
        exact Bool.false_ne_true
      rw [List.dropWhile_cons_of_neg solid]
      cases found : p.tokenAt? (c :: text) with
      | none => rw [restoreWith_plain found, List.dropWhile_cons_of_neg solid]
      | some d =>
        obtain ⟨inner, braced⟩ := distinct.braced d (tokenAt?_eq_some found).1
        rw [restoreWith_found found, id, braced, List.cons_append,
          List.dropWhile_cons_of_neg (by decide)]

end Parsed

/-- A blank is no capital. -/
theorem toSmall_of_isBlank {c : Char} (blank : Text.isBlank c = true) : Text.toSmall c = c := by
  have foreign := Parsed.isTokenChar_of_isBlank blank
  rw [isTokenChar, Bool.or_eq_false_iff] at foreign
  rw [Text.toSmall, foreign.1, if_neg Bool.false_ne_true]

/-- Blanks behind a text do not matter for a beginning without blanks. -/
theorem prefix_trimEnd_iff {start text : Text} (solid : start.all (!Text.isBlank ·) = true) :
    start <+: (Text.trimEnd text).map Text.toSmall ↔ start <+: text.map Text.toSmall := by
  conv_rhs => rw [← Text.trimEnd_append_blanks text, List.map_append]
  cases blanks : (text.reverse.takeWhile Text.isBlank).reverse with
  | nil => rw [List.map_nil, List.append_nil]
  | cons c blanks' =>
    have blank : Text.isBlank c = true := by
      have mem : c ∈ (text.reverse.takeWhile Text.isBlank).reverse := blanks ▸ List.mem_cons_self
      exact List.mem_takeWhile_imp (List.mem_reverse.mp mem)
    have foreign : c ∉ start := by
      intro mem
      have notBlank := List.all_eq_true.mp solid c mem
      rw [blank] at notBlank
      cases notBlank
    rw [List.map_cons, toSmall_of_isBlank blank, Text.prefix_append_cons_iff foreign]

/-- No beginning that the test of an address asks for holds a blank. -/
theorem all_not_isBlank_starts : (Markdown.refusedSchemes ++ Markdown.allowedData).all
    (·.all (!Text.isBlank ·)) = true := by
  decide

/-- An address begins in one of the ways that are asked for exactly if it does with its embeds put
back. -/
theorem Parsed.Distinct.begins_restore_iff {p : Parsed} (distinct : p.Distinct) (url : Text)
    {start : Text} (asked : start ∈ Markdown.refusedSchemes ++ Markdown.allowedData) :
    start <+: (Text.trim (p.restore url)).map Text.toSmall ↔
      start <+: (Text.trim url).map Text.toSmall := by
  have outside := List.all_eq_true.mp isOutside_starts start asked
  have solid := List.all_eq_true.mp all_not_isBlank_starts start asked
  rw [Text.trim, Text.trim, prefix_trimEnd_iff solid, prefix_trimEnd_iff solid,
    distinct.trimStart_restore]
  exact distinct.prefix_restoreWith_iff (Text.trimStart url) outside

/-- An address may be linked to unless it begins with a scheme that is refused; data may stand in it
if it begins as a picture does. -/
theorem isAllowedAddress_iff {address : Text} : Markdown.isAllowedAddress address = true ↔
    (∀ start ∈ Markdown.refusedSchemes, ¬ start <+: (Text.trim address).map Text.toSmall) ∨
      ∃ start ∈ Markdown.allowedData, start <+: (Text.trim address).map Text.toSmall := by
  simp only [Markdown.isAllowedAddress, Bool.or_eq_true, Bool.not_eq_true', ← Bool.not_eq_true,
    List.any_eq_true, Text.after?_isSome_iff, not_exists, not_and]

/-- Putting embeds back neither makes an address one that is refused nor one that is allowed. -/
theorem Parsed.Distinct.isAllowedAddress_restore {p : Parsed} (distinct : p.Distinct)
    (url : Text) :
    Markdown.isAllowedAddress (p.restore url) = Markdown.isAllowedAddress url := by
  rw [Bool.eq_iff_iff, isAllowedAddress_iff, isAllowedAddress_iff]
  apply or_congr
  · apply forall₂_congr
    intro start refused
    rw [distinct.begins_restore_iff url (List.mem_append_left _ refused)]
  · apply exists_congr
    intro start
    apply and_congr_right
    intro allowed
    rw [distinct.begins_restore_iff url (List.mem_append_right _ allowed)]

end Loremark.Embed
