import Loremark.Embed.Reinsert
import Loremark.Proofs.Embed.Clearing

/-!
# Where tokens are found again

A text is split around the tokens of the embeds one embed after the other, so a token that stands
in front of the token of an earlier embed is passed over and stays in a literal piece. The pieces
hold no token exactly if the tokens of the text follow each other in the order of the embeds
(`reinsert_tokenFree_iff`).
-/

set_option autoImplicit false

namespace Loremark.Embed

/-- The text of a literal piece. -/
def Segment.literal? : Segment → Option Text
  | .literal text => some text
  | .embed _ => none

/-- The literal pieces among the pieces of a text. -/
def literals (segments : List Segment) : List Text := segments.filterMap Segment.literal?

namespace Parsed

variable {p : Parsed}

/-- The tokens of a text follow each other in the order of the embeds, and none stands there
twice. -/
def InOrder (p : Parsed) (text : Text) : Prop :=
  ∀ d ∈ p.embeds, ∀ e ∈ p.embeds, ∀ before between behind : Text,
    text = before ++ (d.token ++ (between ++ (e.token ++ behind))) → d.index < e.index

/-- Where there are no tokens, they are in order. -/
theorem TokenFree.inOrder {text : Text} (free : p.TokenFree text) : p.InOrder text := by
  intro d mem e _ before between behind same
  refine absurd ?_ (free d mem)
  rw [same]
  exact ⟨before, between ++ (e.token ++ behind), by rw [List.append_assoc]⟩

/-- Tokens that are in order stay so when the front of the text is cut off. -/
theorem InOrder.of_behind {before text : Text} (ordered : p.InOrder (before ++ text)) :
    p.InOrder text := by
  intro d mem e other front between behind same
  refine ordered d mem e other (before ++ front) between behind ?_
  rw [same, List.append_assoc]

namespace Distinct

/-- An occurrence of a token in a text that holds another one. -/
theorem token_around (distinct : p.Distinct) {d e : Descriptor} (mem : d ∈ p.embeds)
    (other : e ∈ p.embeds) {before rest front back : Text}
    (same : before ++ (d.token ++ rest) = front ++ (e.token ++ back)) :
    (∃ gap, before = front ++ (e.token ++ gap)) ∨ (e = d ∧ back = rest) ∨
      ∃ gap, rest = gap ++ (e.token ++ back) := by
  rcases token_occurrence (distinct.isToken d mem) (distinct.isToken e other) same with
    inFront | ⟨rfl, here⟩ | ⟨gap, rfl⟩
  · exact .inl inFront
  · have equal : e = d :=
      distinct.unique e other d mem (e.token ++ back) (List.prefix_append _ _)
        (here ▸ List.prefix_append _ _)
    subst equal
    exact .inr (.inl ⟨rfl, (List.append_cancel_left here).symm⟩)
  · refine .inr (.inr ⟨gap, ?_⟩)
    rw [List.append_assoc, List.append_assoc] at same
    exact List.append_cancel_left (List.append_cancel_left same)

/-- The embeds behind one in the list have larger numbers, and only those have. -/
theorem index_lt_iff_mem (distinct : p.Distinct) {d e : Descriptor} {embeds : List Descriptor}
    (isSuffix : d :: embeds <:+ p.embeds) (other : e ∈ p.embeds) :
    d.index < e.index ↔ e ∈ embeds := by
  obtain ⟨front, split⟩ := isSuffix
  have increasing := distinct.increasing
  rw [← split, List.pairwise_append, List.pairwise_cons] at increasing
  obtain ⟨-, ⟨behind, -⟩, across⟩ := increasing
  rw [← split] at other
  constructor
  · intro less
    rcases List.mem_append.mp other with before | later
    · have greater := across e before d List.mem_cons_self
      omega
    · rcases List.mem_cons.mp later with rfl | later
      · omega
      · exact later
  · exact behind e

/-- Where a text is cut at the token of an embed, the tokens come in order exactly if none is in
front of the cut and those behind it come in order and are those of later embeds. -/
theorem inOrder_cut_iff (distinct : p.Distinct) {d : Descriptor} {embeds : List Descriptor}
    (isSuffix : d :: embeds <:+ p.embeds) (before rest : Text) :
    (p.TokenFree before ∧ p.InOrder rest ∧ ∀ e ∈ p.embeds, e ∉ embeds → ¬ e.token <:+: rest) ↔
      p.InOrder (before ++ (d.token ++ rest)) ∧
        ∀ e ∈ p.embeds, e ∉ d :: embeds → ¬ e.token <:+: before ++ (d.token ++ rest) := by
  have mem : d ∈ p.embeds := isSuffix.subset List.mem_cons_self
  constructor
  · rintro ⟨free, ordered, absent⟩
    -- A token of the whole text is that of the cut or lies behind it.
    have located {e : Descriptor} (other : e ∈ p.embeds) {front back : Text}
        (same : before ++ (d.token ++ rest) = front ++ (e.token ++ back)) :
        (e = d ∧ back = rest) ∨ ∃ gap, rest = gap ++ (e.token ++ back) := by
      rcases distinct.token_around mem other same with ⟨gap, inFront⟩ | at_ | behind
      · exact absurd ⟨front, gap, by rw [inFront, List.append_assoc]⟩ (free e other)
      · exact .inl at_
      · exact .inr behind
    have inRest {e : Descriptor} (other : e ∈ p.embeds) (here : e.token <:+: rest) :
        d.index < e.index := by
      rw [distinct.index_lt_iff_mem isSuffix other]
      by_contra fresh
      exact absent e other fresh here
    constructor
    · intro e other f another front between back same
      rcases located other same with ⟨rfl, found⟩ | ⟨gap, found⟩
      · refine inRest another ⟨between, back, ?_⟩
        rw [← found, List.append_assoc]
      · exact ordered e other f another gap between back found
    · rintro e other fresh ⟨front, back, same⟩
      rw [List.append_assoc] at same
      rcases located other same.symm with ⟨rfl, -⟩ | ⟨gap, found⟩
      · exact fresh List.mem_cons_self
      · refine absent e other (fun later => fresh (List.mem_cons_of_mem d later)) ⟨gap, back, ?_⟩
        rw [found, List.append_assoc]
  · rintro ⟨ordered, absent⟩
    refine ⟨?_, ?_, ?_⟩
    · rintro e other ⟨front, gap, inFront⟩
      have less : e.index < d.index := by
        refine ordered e other d mem front gap rest ?_
        rw [← inFront]
        simp only [List.append_assoc]
      refine absent e other ?_ ⟨front, gap ++ (d.token ++ rest), ?_⟩
      · intro later
        rcases List.mem_cons.mp later with rfl | later
        · omega
        · have greater := (distinct.index_lt_iff_mem isSuffix other).mpr later
          omega
      · rw [← inFront]
        simp only [List.append_assoc]
    · rw [← List.append_assoc] at ordered
      exact ordered.of_behind
    · rintro e other fresh ⟨gap, back, found⟩
      have less : d.index < e.index := by
        refine ordered d mem e other before gap back ?_
        rw [← found, List.append_assoc]
      exact fresh ((distinct.index_lt_iff_mem isSuffix other).mp less)

/-- Nothing is left of the tokens of a text exactly if they come in the order of the embeds and
those that are not looked for do not occur. -/
theorem splitAround_tokenFree_iff (distinct : p.Distinct) {embeds : List Descriptor}
    (isSuffix : embeds <:+ p.embeds) (text : Text) :
    ((∀ literal ∈ literals (splitAround text embeds).1, p.TokenFree literal) ∧
        p.TokenFree (splitAround text embeds).2) ↔
      p.InOrder text ∧ ∀ d ∈ p.embeds, d ∉ embeds → ¬ d.token <:+: text := by
  induction embeds generalizing text with
  | nil =>
    simp only [splitAround, literals, List.filterMap_nil, List.not_mem_nil, false_implies,
      implies_true, true_and, not_false_eq_true, true_implies]
    exact ⟨fun free => ⟨free.inOrder, free⟩, And.right⟩
  | cons d embeds ih =>
    have later : embeds <:+ p.embeds := (List.suffix_cons d embeds).trans isSuffix
    -- An embed whose token is not found is one of those that do not occur.
    cases cut : Text.cutAt? d.token text with
    | none =>
      have absent := Text.cutAt?_eq_none_iff.mp cut
      rw [splitAround, cut]
      dsimp only
      rw [ih later text]
      refine and_congr_right fun _ => ⟨?_, ?_⟩
      · intro free e other fresh
        exact free e other fun found => fresh (List.mem_cons_of_mem d found)
      · intro free e other fresh
        by_cases same : e = d
        · rw [same]
          exact absent
        · exact free e other (List.not_mem_cons_of_ne_of_not_mem same fresh)
    | some parts =>
      obtain ⟨before, rest⟩ := parts
      rw [Text.eq_append_of_cutAt? cut, ← distinct.inOrder_cut_iff isSuffix, ← ih later rest,
        ← Text.eq_append_of_cutAt? cut, splitAround, cut]
      dsimp only
      cases empty : before.isEmpty with
      | true =>
        rw [List.isEmpty_iff.mp empty]
        simp [literals, Segment.literal?, distinct.tokenFree_nil]
      | false => simp [literals, Segment.literal?, and_assoc]

/-- The literal pieces of a text hold no token exactly if the tokens of the text come in the order
of the embeds. -/
theorem reinsert_tokenFree_iff (distinct : p.Distinct) (text : Text) :
    (∀ literal ∈ literals (reinsert text p.embeds), p.TokenFree literal) ↔ p.InOrder text := by
  have all := distinct.splitAround_tokenFree_iff (List.suffix_refl p.embeds) text
  have nothing : ∀ d ∈ p.embeds, d ∉ p.embeds → ¬ d.token <:+: text :=
    fun d mem absent => absurd mem absent
  rw [and_iff_left nothing] at all
  rw [← all, reinsert]
  cases split : splitAround text p.embeds with
  | mk segments last =>
    dsimp only
    by_cases kept : (!last.isEmpty || segments.isEmpty) = true
    · rw [if_pos kept]
      simp [literals, Segment.literal?, or_imp, forall_and]
    · rw [if_neg kept]
      have empty : last = [] := by
        simp only [Bool.or_eq_true, Bool.not_eq_true', not_or, Bool.not_eq_false,
          List.isEmpty_iff] at kept
        exact kept.1
      rw [empty, and_iff_left distinct.tokenFree_nil]

end Distinct

end Parsed

end Loremark.Embed
