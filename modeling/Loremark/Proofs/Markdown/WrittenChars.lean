import Loremark.Proofs.Markdown.RunningText
import Loremark.Proofs.Markdown.TakenLines

/-!
# Characters that references write

The character references that write a character of some class are a vocabulary of their own. They
hold neither spaces nor line ends, so a text that is cut into lines and put together again has no
more of them than before (`spaced_references`), and where there are none, every reference stands for
other characters (`plainReferences_of_hits`).
-/

set_option autoImplicit false

namespace Loremark.Markdown

open Text (Vocabulary)

/-! ## The shape of references -/

/-- A reference is letters and digits up to a semicolon. -/
theorem referenceBody?_eq {text body rest : Text}
    (found : referenceBody? text = some (body, rest)) :
    text = body ++ ';' :: rest ∧ ∀ c ∈ body, Text.isAlphanumeric c = true := by
  rw [referenceBody?] at found
  split at found
  · rename_i behind cut
    obtain ⟨rfl, rfl⟩ := Prod.mk.inj (Option.some.inj found)
    refine ⟨?_, List.all_eq_true.mp List.all_takeWhile⟩
    rw [← cut]
    exact (List.prefix_iff_eq_append.mp (List.takeWhile_prefix _)).symm
  · cases found

/-- Letters and digits up to a semicolon are a reference. -/
theorem referenceBody?_append {body : Text} (all : ∀ c ∈ body, Text.isAlphanumeric c = true)
    (rest : Text) : referenceBody? (body ++ ';' :: rest) = some (body, rest) := by
  have run : (body ++ ';' :: rest).takeWhile Text.isAlphanumeric = body := by
    rw [List.takeWhile_append_of_pos all, List.takeWhile_cons_of_neg (by decide), List.append_nil]
  rw [referenceBody?, run, List.drop_left]
  rfl

/-- A reference behind its ampersand: letters, digits, and the two marks around them, whatever
follows. -/
theorem charRef?_eq {text chars rest : Text} (found : charRef? text = some (chars, rest)) :
    ∃ body, text = body ++ rest ∧ (∀ behind, charRef? (body ++ behind) = some (chars, behind)) ∧
      ∀ c ∈ body, Text.isAlphanumeric c = true ∨ c = '#' ∨ c = ';' := by
  rw [charRef?.eq_def] at found
  split at found
  · rename_i text
    simp only [Option.bind_eq_bind, Option.bind_eq_some_iff] at found
    obtain ⟨⟨body, behind⟩, isBody, code, isCode, same⟩ := found
    obtain ⟨rfl, rfl⟩ := Prod.mk.inj (Option.some.inj same)
    obtain ⟨rfl, all⟩ := referenceBody?_eq isBody
    refine ⟨'#' :: (body ++ [';']), by simp, fun rest => ?_, ?_⟩
    · rw [List.cons_append, List.append_assoc, List.singleton_append]
      simp only [charRef?, referenceBody?_append all, Option.bind_eq_bind, Option.bind_some, isCode]
    · intro c mem
      simp only [List.mem_cons, List.mem_append, List.not_mem_nil, or_false] at mem
      rcases mem with isSign | inBody | isEnd
      · exact .inr (.inl isSign)
      · exact .inl (all c inBody)
      · exact .inr (.inr isEnd)
  · rename_i unsigned
    simp only [Option.bind_eq_bind, Option.bind_eq_some_iff] at found
    obtain ⟨⟨body, behind⟩, isBody, other, named, same⟩ := found
    obtain ⟨rfl, rfl⟩ := Prod.mk.inj (Option.some.inj same)
    obtain ⟨rfl, all⟩ := referenceBody?_eq isBody
    refine ⟨body ++ [';'], by simp, fun rest => ?_, ?_⟩
    · rw [List.append_assoc, List.singleton_append, charRef?.eq_def]
      split
      · rename_i signed
        cases body with
        | nil => cases signed
        | cons c body => exact absurd (congrArg (· :: _) (List.cons.inj signed).1) (unsigned _)
      · simp only [referenceBody?_append all, Option.bind_eq_bind, Option.bind_some, named]
    · intro c mem
      rcases List.mem_append.mp mem with inBody | isEnd
      · exact .inl (all c inBody)
      · exact .inr (.inr (List.mem_singleton.mp isEnd))

/-! ## The vocabulary of references -/

/-- The references that write a character of a class. -/
def references (isWritten : Char → Bool) : Vocabulary where
  isWord
    | '&' :: body =>
      match charRef? body with
      | some (chars, []) => chars.any isWritten
      | _ => false
    | _ => false
  nonempty := rfl

variable {isWritten : Char → Bool}

/-- A word is an ampersand and what is read as a reference to one of the characters. -/
theorem isWord_references_iff {word : Text} : (references isWritten).isWord word = true ↔
    ∃ body chars, word = '&' :: body ∧ charRef? body = some (chars, []) ∧
      ∃ c ∈ chars, isWritten c = true := by
  rw [references]
  dsimp only
  constructor
  · intro isWord
    split at isWord
    · split at isWord
      · rename_i body _ chars found
        exact ⟨body, chars, rfl, found, List.any_eq_true.mp isWord⟩
      · cases isWord
    · cases isWord
  · rintro ⟨body, chars, rfl, found, written⟩
    simp only [found]
    exact List.any_eq_true.mpr written

/-- References have no spaces and no line ends in them. -/
theorem spaced_references (isWritten : Char → Bool) : Spaced (references isWritten) := by
  have separates {c : Char} (foreign : Text.isAlphanumeric c = false)
      (other : c ∉ ['&', '#', ';']) : (references isWritten).Separates c := by
    intro word isWord mem
    obtain ⟨body, chars, rfl, found, -⟩ := isWord_references_iff.mp isWord
    obtain ⟨whole, same, -, all⟩ := charRef?_eq found
    rw [List.append_nil] at same
    rcases List.mem_cons.mp mem with rfl | inBody
    · exact other (by decide)
    · rcases all c (same ▸ inBody) with isAlphanumeric | rfl | rfl
      · rw [foreign] at isAlphanumeric
        cases isAlphanumeric
      · exact other (by decide)
      · exact other (by decide)
  exact ⟨separates (by decide) (by decide), separates (by decide) (by decide),
    separates (by decide) (by decide), separates (by decide) (by decide),
    separates (by decide) (by decide)⟩

/-- A text has no such references exactly if none of its references writes a character of the
class. -/
theorem hits_references_eq_nil_iff {text : Text} : (references isWritten).hits text = [] ↔
    ∀ body chars rest, '&' :: body <:+ text → charRef? body = some (chars, rest) →
      ∀ c ∈ chars, isWritten c = false := by
  constructor
  · intro none body chars rest inside found c mem
    by_contra written
    obtain ⟨body, rfl, whole, -⟩ := charRef?_eq found
    have isWord : (references isWritten).isWord ('&' :: body) = true := by
      refine isWord_references_iff.mpr ⟨body, chars, rfl, ?_, c, mem, by simpa using written⟩
      simpa using whole []
    have part : '&' :: body <:+: text :=
      (List.prefix_append ('&' :: body) rest).isInfix.trans inside.isInfix
    have hit := Vocabulary.mem_hits_of_isWord isWord part
    rw [none] at hit
    cases hit
  · intro all
    rw [List.eq_nil_iff_forall_not_mem]
    intro word mem
    obtain ⟨isWord, rest, inside⟩ := Vocabulary.exists_of_mem_hits mem
    obtain ⟨body, chars, rfl, found, c, inChars, written⟩ := isWord_references_iff.mp isWord
    obtain ⟨whole, same, extended, -⟩ := charRef?_eq found
    rw [List.append_nil] at same
    subst same
    rw [all _ chars rest inside (extended rest) c inChars] at written
    cases written

/-- Without references that write characters of words, every reference stands for separators. -/
theorem plainReferences_of_hits {v : Vocabulary}
    (foreign : ∀ c, isWritten c = false → v.Separates c) {text : Text}
    (none : (references isWritten).hits text = []) : PlainReferences v text :=
  fun body chars rest inside found c mem =>
    foreign c (hits_references_eq_nil_iff.mp none body chars rest inside found c mem)

end Loremark.Markdown
