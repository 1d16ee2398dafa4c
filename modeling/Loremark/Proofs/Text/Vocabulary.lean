import Loremark.Proofs.Text.Lines
import Mathlib.Data.List.Infix
import Mathlib.Data.List.Nodup

/-!
# The words of a vocabulary in a text

A vocabulary tells which texts are words; `hits` lists the words that begin at the places of a text,
in order. Taking a text apart never adds a word: the hits of the pieces are among those of the whole
(`hits_append_sublist`). Putting texts together adds none either if a character that is in no word
stands between them (`hits_append_cons`).
-/

set_option autoImplicit false

namespace Loremark.Text

/-- Texts that are looked for in other ones. -/
structure Vocabulary where
  isWord : Text → Bool
  nonempty : isWord [] = false

namespace Vocabulary

variable (v : Vocabulary)

/-- No word holds the character. -/
def Separates (c : Char) : Prop := ∀ word : Text, v.isWord word = true → c ∉ word

/-- The words that begin at a place, by length. -/
def here (text : Text) : List Text := text.inits.filter v.isWord

/-- The words that begin at the places of a text. -/
def hits : Text → List Text
  | [] => []
  | c :: text => v.here (c :: text) ++ hits text

/-- The words that begin at the places of texts, text after text. -/
def hitsAll (texts : List Text) : List Text := texts.flatMap v.hits

variable {v} {text front behind : Text} {c : Char}

/-- No word begins at the end of a text. -/
theorem here_nil : v.here [] = [] := by
  simp [here, v.nonempty]

/-- Every word that begins in a text begins there in a longer one, too. -/
theorem here_sublist (text behind : Text) : (v.here text).Sublist (v.here (text ++ behind)) := by
  rw [here, here, List.inits_append, List.filter_append]
  exact List.sublist_append_left _ _

/-- What stands behind a separator brings no words in front of it. -/
theorem here_append_cons (separates : v.Separates c) (text behind : Text) :
    v.here (text ++ c :: behind) = v.here text := by
  have longer : ∀ word ∈ (List.inits (c :: behind)).tail.map (text ++ ·), ¬ v.isWord word := by
    intro word mem isWord
    obtain ⟨tail, begins, rfl⟩ := List.mem_map.mp mem
    rw [List.inits_cons, List.tail_cons] at begins
    obtain ⟨more, -, rfl⟩ := List.mem_map.mp begins
    exact separates _ isWord (List.mem_append_right text List.mem_cons_self)
  rw [here, List.inits_append, List.filter_append, List.filter_eq_nil_iff.mpr longer,
    List.append_nil, here]

/-- The words at a place are those that the text begins with. -/
theorem mem_here {word : Text} : word ∈ v.here text ↔ v.isWord word = true ∧ word <+: text := by
  rw [here, List.mem_filter, List.mem_inits, and_comm]

/-- No word begins at a separator. -/
theorem here_cons (separates : v.Separates c) (behind : Text) : v.here (c :: behind) = [] :=
  (here_append_cons separates [] behind).trans here_nil

/-- Each word begins once at a place. -/
theorem nodup_here (text : Text) : (v.here text).Nodup := by
  refine List.Nodup.filter _ ?_
  rw [List.nodup_iff_injective_get]
  intro i j same
  have lengths := congrArg List.length same
  simp only [List.get_eq_getElem, List.getElem_inits, List.length_take] at lengths
  have inside (n : Fin text.inits.length) : (n : Nat) ≤ text.length :=
    Nat.le_of_lt_succ (n.isLt.trans_eq (List.length_inits text))
  have iLe := inside i
  have jLe := inside j
  exact Fin.ext (by omega)

/-- At a place where no other word begins, a word begins once. -/
theorem here_sublist_singleton {word : Text}
    (only : ∀ other, v.isWord other = true → other <+: text → other = word) :
    (v.here text).Sublist [word] := by
  have same : v.here text = List.replicate (v.here text).length word := by
    rw [List.eq_replicate_iff]
    refine ⟨rfl, fun other mem => ?_⟩
    obtain ⟨isWord, begins⟩ := mem_here.mp mem
    exact only other isWord begins
  have once := nodup_here (v := v) text
  rw [same, List.nodup_replicate] at once
  rw [same]
  exact (List.replicate_sublist_replicate word).mpr once

/-! ## Taking texts apart -/

/-- Putting texts together loses no words. -/
theorem hits_append_sublist (text behind : Text) :
    (v.hits text ++ v.hits behind).Sublist (v.hits (text ++ behind)) := by
  induction text with
  | nil => exact List.Sublist.refl _
  | cons c text ih =>
    rw [List.cons_append, hits, hits, List.append_assoc, ← List.cons_append]
    exact (here_sublist (c :: text) behind).append ih

/-- The end of a text has no words but those of the text. -/
theorem hits_suffix_sublist (part : text <:+ front) : (v.hits text).Sublist (v.hits front) := by
  obtain ⟨more, rfl⟩ := part
  exact (List.sublist_append_right _ _).trans (hits_append_sublist more text)

/-- The beginning of a text has no words but those of the text. -/
theorem hits_prefix_sublist (part : text <+: front) : (v.hits text).Sublist (v.hits front) := by
  obtain ⟨more, rfl⟩ := part
  exact (List.sublist_append_left _ _).trans (hits_append_sublist text more)

/-- A part of a text has no words but those of the text. -/
theorem hits_infix_sublist (part : text <:+: front) : (v.hits text).Sublist (v.hits front) := by
  obtain ⟨before, more, rfl⟩ := part
  exact (hits_suffix_sublist (List.suffix_append before text)).trans
    (hits_prefix_sublist (List.prefix_append (before ++ text) more))

/-- A word that is a part of a text is among its hits. -/
theorem mem_hits_of_isWord {word : Text} (isWord : v.isWord word = true) (part : word <:+: text) :
    word ∈ v.hits text := by
  cases word with
  | nil => cases v.nonempty.symm.trans isWord
  | cons c word =>
    have first : c :: word ∈ v.hits (c :: word) :=
      List.mem_append_left _ (mem_here.mpr ⟨isWord, List.prefix_rfl⟩)
    exact (hits_infix_sublist part).subset first

/-- A hit is a word that begins somewhere in the text. -/
theorem exists_of_mem_hits {word : Text} (mem : word ∈ v.hits text) :
    v.isWord word = true ∧ ∃ rest, word ++ rest <:+ text := by
  induction text with
  | nil => cases mem
  | cons c text ih =>
    rcases List.mem_append.mp mem with first | later
    · obtain ⟨isWord, rest, same⟩ := mem_here.mp first
      exact ⟨isWord, rest, same ▸ List.suffix_refl _⟩
    · obtain ⟨isWord, rest, part⟩ := ih later
      exact ⟨isWord, rest, part.trans (List.suffix_cons c text)⟩

/-- Characters with which no word begins. -/
theorem hits_append_of_here_eq_nil (nothing : ∀ d ∈ front, ∀ behind, v.here (d :: behind) = [])
    (text : Text) : v.hits (front ++ text) = v.hits text := by
  induction front with
  | nil => rfl
  | cons d front ih =>
    rw [List.cons_append, hits, nothing d List.mem_cons_self, List.nil_append]
    exact ih fun e mem => nothing e (List.mem_cons_of_mem d mem)

/-! ## Separators -/

/-- Separators in front bring no words. -/
theorem hits_of_separators_append (separates : ∀ d ∈ front, v.Separates d) (text : Text) :
    v.hits (front ++ text) = v.hits text :=
  hits_append_of_here_eq_nil (fun d mem => here_cons (separates d mem)) text

/-- One separator in front brings no words. -/
theorem hits_cons (separates : v.Separates c) (behind : Text) :
    v.hits (c :: behind) = v.hits behind := by
  rw [hits, here_cons separates, List.nil_append]

/-- The words on the two sides of a separator are told apart. -/
theorem hits_append_cons (separates : v.Separates c) (text behind : Text) :
    v.hits (text ++ c :: behind) = v.hits text ++ v.hits behind := by
  induction text with
  | nil => exact hits_cons separates behind
  | cons d text ih =>
    have first := here_append_cons separates (d :: text) behind
    rw [List.cons_append] at first ⊢
    rw [hits, first, ih, hits, List.append_assoc]

/-- The words on the two sides of a gap of separators are told apart. -/
theorem hits_append_gap {gap : Text} (nonempty : gap ≠ []) (separates : ∀ d ∈ gap, v.Separates d)
    (text behind : Text) : v.hits (text ++ (gap ++ behind)) = v.hits text ++ v.hits behind := by
  cases gap with
  | nil => exact absurd rfl nonempty
  | cons d gap =>
    rw [List.cons_append, hits_append_cons (separates d List.mem_cons_self),
      hits_of_separators_append fun e mem => separates e (List.mem_cons_of_mem d mem)]

/-- Separators behind a text bring no words. -/
theorem hits_append_separators (separates : ∀ d ∈ behind, v.Separates d) (text : Text) :
    v.hits (text ++ behind) = v.hits text := by
  cases behind with
  | nil => rw [List.append_nil]
  | cons d behind =>
    have gap := hits_append_gap (List.cons_ne_nil d behind) separates text []
    rwa [List.append_nil, hits, List.append_nil] at gap

/-! ## Behind any text -/

section Within

variable (v)

/-- Whatever stands in front, a text brings no words that another one does not bring. -/
def Within (text other : Text) : Prop :=
  ∀ front, (v.hits (front ++ text)).Sublist (v.hits (front ++ other))

variable {v} {other : Text}

/-- A text brings no more words than itself. -/
theorem Within.refl (text : Text) : v.Within text text := fun _ => List.Sublist.refl _

/-- Bringing no more words can be shown in two steps. -/
theorem Within.trans {third : Text} (within : v.Within text other) (more : v.Within other third) :
    v.Within text third := fun front => (within front).trans (more front)

/-- A text that brings no more words has no more hits. -/
theorem Within.hits (within : v.Within text other) : (v.hits text).Sublist (v.hits other) :=
  within []

/-- Whatever stands in front of both texts changes nothing. -/
theorem Within.append_left (within : v.Within text other) (before : Text) :
    v.Within (before ++ text) (before ++ other) := by
  intro front
  rw [← List.append_assoc, ← List.append_assoc]
  exact within (front ++ before)

/-- A text brings no more words than a longer one. -/
theorem within_append_right (text behind : Text) : v.Within text (text ++ behind) := by
  intro front
  rw [← List.append_assoc]
  exact hits_prefix_sublist (List.prefix_append _ _)

/-- A gap of separators takes the place of some of a text. -/
theorem within_prefix_gap {before start gap : Text} (begins : before <+: start)
    (nonempty : gap ≠ []) (separates : ∀ d ∈ gap, v.Separates d) (fewer : (v.hits text).Sublist (v.hits other)) :
    v.Within (before ++ (gap ++ text)) (start ++ other) := by
  intro front
  rw [← List.append_assoc, hits_append_gap nonempty separates, ← List.append_assoc]
  refine List.Sublist.trans ?_ (hits_append_sublist (front ++ start) other)
  have shorter : front ++ before <+: front ++ start :=
    (List.prefix_append_right_inj front).mpr begins
  exact (hits_prefix_sublist shorter).append fewer

/-- Behind a gap of separators, fewer hits are enough. -/
theorem within_gap {gap : Text} (nonempty : gap ≠ []) (separates : ∀ d ∈ gap, v.Separates d)
    (fewer : (v.hits text).Sublist (v.hits other)) : v.Within (gap ++ text) other :=
  within_prefix_gap (List.prefix_refl []) nonempty separates fewer

/-- Behind one separator, fewer hits are enough. -/
theorem within_cons (separates : v.Separates c) (fewer : (v.hits text).Sublist (v.hits other)) :
    v.Within (c :: text) other :=
  within_gap (List.cons_ne_nil c []) (by simpa using separates) fewer

end Within

/-! ## Several texts -/

section Several

variable {texts others : List Text}

/-- The hits of the first text stand in front of those of the others. -/
theorem hitsAll_cons (text : Text) (texts : List Text) :
    v.hitsAll (text :: texts) = v.hits text ++ v.hitsAll texts := List.flatMap_cons

/-- The hits of two lists of texts follow each other. -/
theorem hitsAll_append (texts others : List Text) :
    v.hitsAll (texts ++ others) = v.hitsAll texts ++ v.hitsAll others := List.flatMap_append

/-- The hits of one text are those of a list of it alone. -/
theorem hitsAll_singleton (text : Text) : v.hitsAll [text] = v.hits text := by
  rw [hitsAll_cons]
  exact List.append_nil _

/-- Fewer texts have fewer hits. -/
theorem hitsAll_sublist_of_sublist (fewer : texts.Sublist others) :
    (v.hitsAll texts).Sublist (v.hitsAll others) := by
  induction fewer with
  | slnil => exact List.Sublist.refl _
  | cons text _ ih =>
    rw [hitsAll_cons]
    exact ih.trans (List.sublist_append_right _ _)
  | cons_cons text _ ih =>
    rw [hitsAll_cons, hitsAll_cons]
    exact (List.Sublist.refl _).append ih

/-- Texts that have fewer hits one by one have fewer together. -/
theorem hitsAll_sublist_of_forall₂
    (parts : List.Forall₂ (fun text other => (v.hits text).Sublist (v.hits other)) texts others) :
    (v.hitsAll texts).Sublist (v.hitsAll others) := by
  induction parts with
  | nil => exact List.Sublist.refl _
  | cons part _ ih => exact part.append ih

/-- Texts joined by a separator have the hits of each of them. -/
theorem hits_joinWith (separates : v.Separates c) (texts : List Text) :
    v.hits (joinWith [c] texts) = v.hitsAll texts := by
  induction texts with
  | nil => rfl
  | cons text texts ih =>
    by_cases more : texts = []
    · rw [more]
      exact (hitsAll_singleton text).symm
    · rw [joinWith_cons more, List.append_assoc, List.singleton_append,
        hits_append_cons separates, ih, hitsAll_cons]

/-- Cutting a text at a separator loses no hits and adds none. -/
theorem hitsAll_splitOn (separates : v.Separates c) (text : Text) :
    v.hitsAll (splitOn c text) = v.hits text := by
  rw [← hits_joinWith separates, joinWith_splitOn]

end Several

end Vocabulary

end Loremark.Text
