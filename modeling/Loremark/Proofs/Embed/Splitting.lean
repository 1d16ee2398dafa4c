import Loremark.Proofs.Embed.TokenWords

/-!
# Pieces of a text

Splitting a text around tokens loses nothing: the pieces in order, an embed read as its token, are
the text again. This holds of any embeds, also of some whose tokens are empty, overlap or stand in a
text several times. In a stretch of the rewritten text of an extraction all tokens are found
(`foundIn_slice`), because the rewritten text has the tokens in the order of the embeds and each of
them at one place. A token that the stretch cuts in two is left in a literal piece.
-/

set_option autoImplicit false

namespace Loremark.Embed

/-! ## Nothing is lost -/

/-- A piece as it stands in the text. -/
def Segment.written : Segment → Text
  | .literal text => text
  | .embed d => d.token

/-- The pieces around tokens and what is left behind them are the text. -/
theorem written_splitAround (text : Text) (embeds : List Descriptor) :
    (splitAround text embeds).1.flatMap Segment.written ++ (splitAround text embeds).2 = text := by
  induction embeds generalizing text with
  | nil => rfl
  | cons d embeds ih =>
    unfold splitAround
    cases cut : Text.cutAt? d.token text with
    | none => exact ih text
    | some parts =>
      obtain ⟨before, rest⟩ := parts
      have behind := ih rest
      have whole := Text.eq_append_of_cutAt? cut
      cases before with
      | nil => simp [Segment.written, behind, whole]
      | cons c before => simp [Segment.written, behind, whole]

/-- Only literal pieces with characters stand in front of the last token. -/
theorem nil_not_mem_splitAround (text : Text) (embeds : List Descriptor) :
    [] ∉ literals (splitAround text embeds).1 := by
  induction embeds generalizing text with
  | nil => exact List.not_mem_nil
  | cons d embeds ih =>
    unfold splitAround
    cases cut : Text.cutAt? d.token text with
    | none => exact ih text
    | some parts =>
      obtain ⟨before, rest⟩ := parts
      have behind := ih rest
      unfold literals at behind ⊢
      cases before with
      | nil => simpa [Segment.literal?] using behind
      | cons c before => simpa [Segment.literal?] using behind

/-- The text behind the last token is a piece too, unless it is empty and not the only one. -/
theorem reinsert_eq (text : Text) (embeds : List Descriptor) :
    reinsert text embeds = (splitAround text embeds).1 ++
      if (splitAround text embeds).2 = [] ∧ (splitAround text embeds).1 ≠ [] then []
      else [.literal (splitAround text embeds).2] := by
  unfold reinsert
  cases splitAround text embeds with
  | mk segments last => cases last <;> cases segments <;> simp

/-- The pieces of a text in order are the text. -/
theorem written_reinsert (text : Text) (embeds : List Descriptor) :
    (reinsert text embeds).flatMap Segment.written = text := by
  have whole := written_splitAround text embeds
  rw [reinsert_eq, List.flatMap_append]
  split
  · rename_i ended
    rw [ended.1] at whole
    exact whole
  · simpa [Segment.written] using whole

/-- An empty literal piece is the only piece. -/
theorem eq_of_nil_mem_literals {text : Text} {embeds : List Descriptor}
    (empty : [] ∈ literals (reinsert text embeds)) : reinsert text embeds = [.literal []] := by
  have inFront := nil_not_mem_splitAround text embeds
  rw [reinsert_eq] at empty ⊢
  unfold literals at inFront empty
  rw [List.filterMap_append, List.mem_append, or_iff_right inFront] at empty
  split at empty
  · cases empty
  · rename_i more
    have last : (splitAround text embeds).2 = [] := (List.mem_singleton.mp empty).symm
    have alone : (splitAround text embeds).1 = [] := by
      by_contra segments
      exact more ⟨last, segments⟩
    rw [if_neg more, last, alone]
    rfl

/-! ## Tokens in order are found -/

section Found

variable {p : Parsed}

/-- Tokens that are in order are so in every part of the text. -/
theorem Parsed.InOrder.of_infix {text part : Text} (ordered : p.InOrder text)
    (inside : part <:+: text) : p.InOrder part := by
  obtain ⟨front, back, whole⟩ := inside
  intro d mem e other before between behind same
  refine ordered d mem e other (front ++ before) between (behind ++ back) ?_
  rw [← whole, same]
  simp only [List.append_assoc]

/-- Behind the token of an embed, the tokens of later embeds are those of the whole text. -/
theorem Parsed.Distinct.occurs_behind_iff (distinct : p.Distinct) {d e : Descriptor}
    (mem : d ∈ p.embeds) (other : e ∈ p.embeds) (later : d.index < e.index) {before rest : Text}
    (free : p.TokenFree before) :
    Text.occurs e.token (before ++ (d.token ++ rest)) = Text.occurs e.token rest := by
  rw [Bool.eq_iff_iff, Text.occurs_iff, Text.occurs_iff]
  constructor
  · rintro ⟨front, back, same⟩
    rw [List.append_assoc] at same
    rcases distinct.token_around mem other same.symm with ⟨gap, inFront⟩ | ⟨rfl, -⟩ | ⟨gap, behind⟩
    · refine absurd ⟨front, gap, ?_⟩ (free e other)
      rw [inFront, List.append_assoc]
    · exact absurd later (Nat.lt_irrefl _)
    · refine ⟨gap, back, ?_⟩
      rw [behind, List.append_assoc]
  · intro here
    rw [← List.append_assoc]
    exact here.trans (List.suffix_append _ _).isInfix

/-- Where the tokens come in the order of the embeds, all of them are found. -/
theorem foundIn_eq_filter (distinct : p.Distinct) {embeds : List Descriptor}
    (isSuffix : embeds <:+ p.embeds) {text : Text} (ordered : p.InOrder text)
    (absent : ∀ d ∈ p.embeds, d ∉ embeds → ¬ d.token <:+: text) :
    foundIn embeds text = embeds.filter fun d => Text.occurs d.token text := by
  induction embeds generalizing text with
  | nil => exact foundIn_nil text
  | cons d embeds ih =>
    have behind : embeds <:+ p.embeds := (List.suffix_cons d embeds).trans isSuffix
    cases cut : Text.cutAt? d.token text with
    | none =>
      have missing : ¬ d.token <:+: text := Text.cutAt?_eq_none_iff.mp cut
      have none : Text.occurs d.token text = false := Text.occurs_eq_false_iff.mpr missing
      rw [foundIn_cons_none cut, List.filter_cons, none, if_neg Bool.false_ne_true]
      refine ih behind ordered fun e other fresh => ?_
      by_cases same : e = d
      · rw [same]
        exact missing
      · exact absent e other (List.not_mem_cons_of_ne_of_not_mem same fresh)
    | some parts =>
      obtain ⟨before, rest⟩ := parts
      have here : Text.occurs d.token text = true := by simp [Text.occurs, cut]
      rw [foundIn_cons_some cut, List.filter_cons, if_pos here]
      -- No token stands in front of this one, so later embeds occur behind it or not at all.
      have mem : d ∈ p.embeds := isSuffix.subset List.mem_cons_self
      have whole := Text.eq_append_of_cutAt? cut
      rw [whole] at ordered absent ⊢
      obtain ⟨free, orderedRest, absentRest⟩ :=
        (distinct.inOrder_cut_iff isSuffix before rest).mpr ⟨ordered, absent⟩
      rw [ih behind orderedRest absentRest]
      refine congrArg (d :: ·) (List.filter_congr fun e isLater => ?_)
      have other : e ∈ p.embeds := behind.subset isLater
      have later := (distinct.index_lt_iff_mem isSuffix other).mpr isLater
      exact (distinct.occurs_behind_iff mem other later free).symm

end Found

/-! ## The tokens of a rewritten text -/

/-- The token of an embed stands at a place of the rewritten text, counted in characters. -/
def Parsed.StandsAt (p : Parsed) (d : Descriptor) (place : Nat) : Prop :=
  ∃ before behind : Text, p.rewritten = before ++ (d.token ++ behind) ∧ before.length = place

/-- The token of every embed that a scan cuts out stands in the rewritten text. -/
theorem Scanned.token_infix {start text rewritten : Text} {index : Nat} {embeds : List Descriptor}
    (scanned : Scanned start index text rewritten embeds) :
    ∀ d ∈ embeds, d.token <:+: rewritten := by
  induction scanned with
  | done index => simp
  | keep c plain behind ih => exact fun d mem => List.infix_cons (ih d mem)
  | zero w found number behind ih =>
    exact fun d mem => (ih d mem).trans (List.suffix_append _ _).isInfix
  | cut w n found number behind ih =>
    intro d mem
    rcases List.mem_cons.mp mem with rfl | later
    · exact (List.prefix_append _ _).isInfix
    · exact (ih d later).trans (List.suffix_append _ _).isInfix

namespace Extracted

variable {start text : Text} {p : Parsed}

/-- The tokens of the rewritten text come in the order of the embeds, and none stands there twice. -/
theorem inOrder (extracted : Extracted start text p) : p.InOrder p.rewritten := by
  have distinct := extracted.distinct
  intro d mem e other before between behind same
  have isWord {f : Descriptor} (isEmbed : f ∈ p.embeds) :
      (tokenWords p).isWord f.token = true :=
    isWord_iff.mpr ⟨(distinct.isToken f isEmbed).ne_nil, f, isEmbed, rfl⟩
  have first : [d.token].Sublist ((tokenWords p).hits (before ++ d.token)) :=
    List.singleton_sublist.mpr
      (Text.Vocabulary.mem_hits_of_isWord (isWord mem) (List.suffix_append _ _).isInfix)
  have second : [e.token].Sublist ((tokenWords p).hits (between ++ (e.token ++ behind))) := by
    refine List.singleton_sublist.mpr (Text.Vocabulary.mem_hits_of_isWord (isWord other) ?_)
    exact ⟨between, behind, List.append_assoc _ _ _⟩
  have both : [d.token, e.token].Sublist ((tokenWords p).hits p.rewritten) := by
    rw [same, ← List.append_assoc]
    exact (first.append second).trans (Text.Vocabulary.hits_append_sublist _ _)
  have inEmbeds : [d, e].Sublist p.embeds := by
    refine distinct.sublist_of_tokens (by simp [mem, other]) (both.trans ?_)
    exact extracted.hits_scanned extracted.scanned (List.infix_refl _) (List.Subset.refl _)
  exact List.rel_of_pairwise_cons (distinct.increasing.sublist inEmbeds) (List.mem_singleton_self e)

/-- The token of an embed stands at one place of the rewritten text. -/
theorem existsUnique_standsAt (extracted : Extracted start text p) {d : Descriptor}
    (mem : d ∈ p.embeds) : ∃! place, p.StandsAt d place := by
  obtain ⟨before, behind, here⟩ := extracted.scanned.token_infix d mem
  rw [List.append_assoc] at here
  refine ⟨before.length, ⟨before, behind, here.symm, rfl⟩, ?_⟩
  rintro _ ⟨front, back, there, rfl⟩
  -- Of two places, one would have the token in front of itself.
  have once {first between last : Text} :
      p.rewritten ≠ first ++ (d.token ++ (between ++ (d.token ++ last))) :=
    fun twice => Nat.lt_irrefl _ (extracted.inOrder d mem d mem first between last twice)
  rcases extracted.distinct.token_around mem mem (here.trans there) with
    ⟨gap, inFront⟩ | ⟨-, same⟩ | ⟨gap, inBehind⟩
  · refine absurd here.symm ?_
    rw [inFront, List.append_assoc, List.append_assoc]
    exact once
  · rw [← here, same] at there
    exact congrArg List.length (List.append_cancel_right there).symm
  · refine absurd here.symm ?_
    rw [inBehind]
    exact once

end Extracted

/-! ## Stretches of a text -/

/-- The characters of a text from one place up to another one. -/
def slice (text : Text) (start stop : Nat) : Text := (text.take stop).drop start

/-- A slice of a text is a part of it. -/
theorem slice_within (text : Text) (start stop : Nat) : slice text start stop <:+: text :=
  (List.drop_suffix _ _).isInfix.trans (List.take_prefix _ _).isInfix

/-- A word stands in a stretch of a text exactly if it stands in the text between its ends. -/
theorem infix_slice_iff {word text : Text} (nonempty : word ≠ []) (start stop : Nat) :
    word <:+: slice text start stop ↔ ∃ before behind : Text,
      text = before ++ (word ++ behind) ∧ start ≤ before.length ∧
        before.length + word.length ≤ stop := by
  have positive : 0 < word.length := List.length_pos_iff.mpr nonempty
  constructor
  · rintro ⟨front, back, inside⟩
    have lengths := congrArg List.length inside
    simp only [slice, List.length_append, List.length_drop, List.length_take] at lengths
    refine ⟨(text.take stop).take start ++ front, back ++ text.drop stop, ?_, ?_, ?_⟩
    · calc
        text = ((text.take stop).take start ++ slice text start stop) ++ text.drop stop := by
          rw [slice, List.take_append_drop, List.take_append_drop]
        _ = _ := by
          rw [← inside]
          simp only [List.append_assoc]
    · rw [List.length_append, List.length_take, List.length_take]
      omega
    · rw [List.length_append, List.length_take, List.length_take]
      omega
  · rintro ⟨before, behind, rfl, above, below⟩
    obtain ⟨more, rfl⟩ := Nat.exists_eq_add_of_le below
    have upTo : (before ++ (word ++ behind)).take (before.length + word.length + more) =
        before ++ (word ++ behind.take more) := by
      rw [Nat.add_assoc, List.take_length_add_append, List.take_length_add_append]
    rw [slice, upTo, List.drop_append_of_le_length above]
    exact ⟨before.drop start, behind.take more, List.append_assoc _ _ _⟩

/-- In a stretch of the rewritten text, exactly the embeds are found whose tokens lie in it. -/
theorem foundIn_slice {content : Text} {p : Parsed} (ok : extract content = .ok p)
    (start stop : Nat) :
    foundIn p.embeds (slice p.rewritten start stop) =
      p.embeds.filter fun d => Text.occurs d.token (slice p.rewritten start stop) := by
  have extracted := extracted_of_extract ok
  refine foundIn_eq_filter extracted.distinct (List.suffix_refl _)
    (extracted.inOrder.of_infix (slice_within _ _ _)) ?_
  exact fun d mem absent => absurd mem absent

/-- Splitting a text gives the text back, finds embeds in their order, and leaves no empty literal
piece but that of an empty text; and in a stretch of a rewritten text it finds exactly the embeds
whose tokens lie between its ends. Each token stands at one place, so that it is clear which ones
these are; the stretch may cut tokens. -/
theorem reinsert_lossless_complete :
    (∀ (text : Text) (embeds : List Descriptor),
      (reinsert text embeds).flatMap Segment.written = text ∧
        (foundIn embeds text).Sublist embeds ∧
        ([] ∈ literals (reinsert text embeds) → reinsert text embeds = [.literal []])) ∧
    ∀ (content : Text) (p : Parsed), extract content = .ok p → ∀ start stop : Nat,
      foundIn p.embeds (slice p.rewritten start stop) =
          p.embeds.filter (fun d => Text.occurs d.token (slice p.rewritten start stop)) ∧
        ∀ d ∈ p.embeds, ∃ place, (∀ other, p.StandsAt d other ↔ other = place) ∧
          (Text.occurs d.token (slice p.rewritten start stop) = true ↔
            start ≤ place ∧ place + d.token.length ≤ stop) := by
  refine ⟨fun text embeds => ⟨written_reinsert text embeds, foundIn_sublist embeds text,
    eq_of_nil_mem_literals⟩, fun content p ok start stop => ⟨foundIn_slice ok start stop, ?_⟩⟩
  intro d mem
  have extracted := extracted_of_extract ok
  obtain ⟨place, here, only⟩ := extracted.existsUnique_standsAt mem
  have unique (other : Nat) : p.StandsAt d other ↔ other = place :=
    ⟨only other, fun same => same ▸ here⟩
  refine ⟨place, unique, ?_⟩
  rw [Text.occurs_iff, infix_slice_iff (extracted.isToken mem).ne_nil]
  constructor
  · rintro ⟨before, behind, whole, above, below⟩
    obtain rfl := (unique before.length).mp ⟨before, behind, whole, rfl⟩
    exact ⟨above, below⟩
  · obtain ⟨before, behind, whole, rfl⟩ := here
    exact fun ⟨above, below⟩ => ⟨before, behind, whole, above, below⟩

/-- Three embeds, of which one has the number zero. -/
def threeEmbeds : Text :=
  (Written.mk .arc ['1'] none).toText ++ (Written.mk .arc ['0'] none).toText ++
    (Written.mk .volume ['2'] none).toText

/-- A stretch that cuts the first token holds the other one. -/
theorem reinsert_lossless_complete_threeEmbeds :
    ∃ p, extract threeEmbeds = .ok p ∧ p.embeds.length = 2 ∧
      (foundIn p.embeds (slice p.rewritten 3 47)).map Descriptor.index = [1] ∧
      foundIn p.embeds (slice p.rewritten 3 47) =
        p.embeds.filter fun d => Text.occurs d.token (slice p.rewritten 3 47) := by
  refine ⟨⟨"SPOILERDOWNEMBEDQ0E".toList ++ (Written.mk .arc ['0'] none).toText ++
      "SPOILERDOWNEMBEDQ1E".toList,
    [⟨0, .arc, 1, none, "SPOILERDOWNEMBEDQ0E".toList, (Written.mk .arc ['1'] none).toText⟩,
      ⟨1, .volume, 2, none, "SPOILERDOWNEMBEDQ1E".toList,
        (Written.mk .volume ['2'] none).toText⟩]⟩,
    ?_, rfl, ?_, (reinsert_lossless_complete.2 threeEmbeds _ ?_ 3 47).1⟩ <;> decide +kernel

end Loremark.Embed
