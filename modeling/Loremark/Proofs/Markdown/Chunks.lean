import Loremark.Proofs.Markdown.Rows
import Mathlib.Data.List.DropRight
import Mathlib.Data.List.TakeWhile

/-!
# The blocks of rows

Reading Markdown cuts rows into chunks: blank rows stand between chunks, a tag begins a chunk of
markup that goes on to the next blank row, and the plain lines in front of it are running text.
`chunks` says so on the rows alone, and `blocksOf_printed` that the blocks of a printed text are
those of its chunks. Rows that are no tags pass every test for other blocks, because none of those
begins with a character that begins a row.
-/

set_option autoImplicit false

namespace Loremark.Markdown

/-- What rows are cut into. -/
inductive Chunk where
  /-- Lines of running text. -/
  | running (lines : List Text)
  /-- A tag and the rows behind it. -/
  | markup (rows : List Row)
  deriving DecidableEq, Repr

/-- The plain lines among rows. -/
def wordsOf (rows : List Row) : List Text := rows.filterMap Row.words?

/-- The chunks of rows without a blank one. -/
def chunksOfRun (run : List Row) : List Chunk :=
  (if run.takeWhile Row.isWords = [] then []
    else [.running (wordsOf (run.takeWhile Row.isWords))]) ++
  (if run.dropWhile Row.isWords = [] then [] else [.markup (run.dropWhile Row.isWords)])

/-- The chunks of rows. -/
def chunks (rows : List Row) : List Chunk :=
  (rows.splitOnP fun row => !row.isFilled).flatMap chunksOfRun

/-! ## Cutting rows -/

/-- A row of words is filled. -/
theorem Row.isFilled_of_isWords {row : Row} (words : row.isWords = true) :
    row.isFilled = true := by
  cases row with
  | words line => rfl
  | _ => cases words

/-- A tag is filled. -/
theorem Row.isFilled_of_isTag {row : Row} (tag : row.isTag = true) : row.isFilled = true := by
  cases row with
  | opens className => rfl
  | closes => rfl
  | _ => cases tag

/-- A tag is no row of words. -/
theorem Row.isWords_of_isTag {row : Row} (tag : row.isTag = true) : row.isWords = false := by
  cases row with
  | opens className => rfl
  | closes => rfl
  | _ => cases tag

/-- No rows make no chunks. -/
theorem chunks_nil : chunks [] = [] := rfl

/-- A blank row in front makes no chunk. -/
theorem chunks_blank (rows : List Row) : chunks (.blank :: rows) = chunks rows := by
  rw [chunks, List.splitOnP_cons_eq_if_modifyHead, if_pos (by rfl), List.flatMap_cons]
  rfl

/-- The first run ends in front of the first blank row. -/
theorem splitOnP_eq_takeWhile (rows : List Row) :
    ∃ runs, (rows.splitOnP fun row => !row.isFilled) = rows.takeWhile Row.isFilled :: runs ∧
      runs.flatMap chunksOfRun = chunks (rows.dropWhile Row.isFilled) := by
  induction rows with
  | nil => exact ⟨[], rfl, rfl⟩
  | cons row rows ih =>
    rw [List.splitOnP_cons_eq_if_modifyHead]
    cases filled : row.isFilled with
    | true =>
      obtain ⟨runs, cut, others⟩ := ih
      rw [List.takeWhile_cons_of_pos filled, List.dropWhile_cons_of_pos filled,
        if_neg (by simp), cut]
      exact ⟨runs, rfl, others⟩
    | false =>
      have notFilled : ¬ row.isFilled = true := by simp [filled]
      rw [List.takeWhile_cons_of_neg notFilled, List.dropWhile_cons_of_neg notFilled,
        if_pos (by simp)]
      refine ⟨_, rfl, ?_⟩
      rw [← chunks]
      cases row with
      | blank => exact (chunks_blank rows).symm
      | _ => cases filled

/-- The chunks of rows are those in front of the first blank row and those behind it. -/
theorem chunks_eq (rows : List Row) :
    chunks rows =
      chunksOfRun (rows.takeWhile Row.isFilled) ++ chunks (rows.dropWhile Row.isFilled) := by
  obtain ⟨runs, cut, others⟩ := splitOnP_eq_takeWhile rows
  rw [chunks, cut, List.flatMap_cons, others]

/-- No chunk spans a blank row. -/
theorem chunks_takeWhile_dropWhile (rows : List Row) :
    chunks (rows.takeWhile Row.isFilled) ++ chunks (rows.dropWhile Row.isFilled) = chunks rows := by
  have filled : ∀ row ∈ rows.takeWhile Row.isFilled, row.isFilled = true :=
    fun row mem => List.mem_takeWhile_imp mem
  rw [chunks_eq (rows.takeWhile Row.isFilled), List.takeWhile_eq_self_iff.mpr filled,
    List.dropWhile_eq_nil_iff.mpr filled, chunks_nil, List.append_nil, ← chunks_eq]

/-- A tag takes the rows behind it up to a blank one. -/
theorem chunks_tag {tag : Row} (isTag : tag.isTag = true) (rows : List Row) :
    chunks (tag :: rows) = .markup (tag :: rows.takeWhile Row.isFilled) ::
      chunks (rows.dropWhile Row.isFilled) := by
  have filled := Row.isFilled_of_isTag isTag
  have notWords : ¬ tag.isWords = true := by simp [Row.isWords_of_isTag isTag]
  rw [chunks_eq, List.takeWhile_cons_of_pos filled, List.dropWhile_cons_of_pos filled,
    chunksOfRun, List.takeWhile_cons_of_neg notWords, List.dropWhile_cons_of_neg notWords]
  rfl

/-- The words at the front stand in front of the first blank row. -/
theorem takeWhile_isWords_takeWhile (rows : List Row) :
    (rows.takeWhile Row.isFilled).takeWhile Row.isWords = rows.takeWhile Row.isWords := by
  induction rows with
  | nil => rfl
  | cons row rows ih =>
    cases row with
    | words line => exact congrArg (Row.words line :: ·) ih
    | _ => rfl

/-- What follows the words in front of the first blank row is what follows all of them. -/
theorem dropWhile_isWords_takeWhile (rows : List Row) :
    (rows.takeWhile Row.isFilled).dropWhile Row.isWords =
      (rows.dropWhile Row.isWords).takeWhile Row.isFilled := by
  induction rows with
  | nil => rfl
  | cons row rows ih =>
    cases row with
    | words line => exact ih
    | _ => rfl

/-- What follows the first blank row can be found behind the words. -/
theorem dropWhile_isFilled_dropWhile (rows : List Row) :
    (rows.dropWhile Row.isWords).dropWhile Row.isFilled = rows.dropWhile Row.isFilled := by
  induction rows with
  | nil => rfl
  | cons row rows ih =>
    cases row with
    | words line => exact ih
    | _ => rfl

/-- Running text ends in front of a tag or a blank row. -/
theorem chunks_words (line : Text) (rows : List Row) :
    chunks (.words line :: rows) = .running (line :: wordsOf (rows.takeWhile Row.isWords)) ::
      chunks (rows.dropWhile Row.isWords) := by
  have none : (rows.dropWhile Row.isWords).takeWhile Row.isWords = [] := by
    rw [List.takeWhile_eq_nil_iff]
    exact fun some => List.dropWhile_get_zero_not _ _ some
  have markup : chunksOfRun ((rows.dropWhile Row.isWords).takeWhile Row.isFilled) =
      if (rows.takeWhile Row.isFilled).dropWhile Row.isWords = [] then []
      else [.markup ((rows.takeWhile Row.isFilled).dropWhile Row.isWords)] := by
    rw [chunksOfRun, takeWhile_isWords_takeWhile, none, dropWhile_isWords_takeWhile,
      List.dropWhile_idempotent, dropWhile_isWords_takeWhile]
    rfl
  rw [chunks_eq (rows.dropWhile Row.isWords), dropWhile_isFilled_dropWhile, markup, chunks_eq,
    List.takeWhile_cons_of_pos rfl, List.dropWhile_cons_of_pos rfl, chunksOfRun,
    List.takeWhile_cons_of_pos rfl, List.dropWhile_cons_of_pos rfl, takeWhile_isWords_takeWhile]
  rfl

/-- Chunks are cut off the front of rows one after the other. -/
theorem chunk_induction {motive : List Row → Prop} (nil : motive [])
    (blank : ∀ rows, motive rows → motive (.blank :: rows))
    (tag : ∀ (tag : Row) (rows : List Row), tag.isTag = true →
      motive (rows.dropWhile Row.isFilled) → motive (tag :: rows))
    (words : ∀ (line : Text) (rows : List Row),
      motive (rows.dropWhile Row.isWords) → motive (.words line :: rows))
    (rows : List Row) : motive rows := by
  induction length : rows.length using Nat.strong_induction_on generalizing rows with
  | h n ih =>
    subst length
    cases rows with
    | nil => exact nil
    | cons row rows =>
      have later (p : Row → Bool) : motive (rows.dropWhile p) := by
        have short := (List.dropWhile_suffix p (l := rows)).length_le
        exact ih _ (by rw [List.length_cons]; omega) _ rfl
      cases row with
      | opens className => exact tag _ rows rfl (later _)
      | closes => exact tag _ rows rfl (later _)
      | words line => exact words line rows (later _)
      | blank => exact blank rows (ih _ (by rw [List.length_cons]; omega) _ rfl)

/-! ## Cutting two parts -/

/-- Rows without a tag behind the last blank row. -/
def Settled (rows : List Row) : Prop :=
  ∀ run, run <:+ rows → (∀ row ∈ run, row.isFilled = true) → ∀ row ∈ run, row.isWords = true

/-- The end of settled rows is settled. -/
theorem Settled.of_suffix {front rows : List Row} (settled : Settled rows) (ends : front <:+ rows) :
    Settled front := fun run short => settled run (short.trans ends)

/-- Where the front does not pass a test as a whole, the rows behind it do not matter. -/
theorem takeWhile_append_of_not_all {p : Row → Bool} {front : List Row}
    (some : ¬ ∀ row ∈ front, p row = true) (rows : List Row) :
    (front ++ rows).takeWhile p = front.takeWhile p ∧
      (front ++ rows).dropWhile p = front.dropWhile p ++ rows := by
  constructor
  · rw [List.takeWhile_append, if_neg]
    intro whole
    exact some (List.takeWhile_eq_self_iff.mp ((List.takeWhile_prefix p).eq_of_length whole))
  · rw [List.dropWhile_append, if_neg]
    rw [List.isEmpty_iff, List.dropWhile_eq_nil_iff]
    exact some

/-- A tag behind settled rows begins a chunk. -/
theorem chunks_append_tag {front : List Row} (settled : Settled front) {tag : Row}
    (isTag : tag.isTag = true) (rows : List Row) :
    chunks (front ++ tag :: rows) = chunks front ++ chunks (tag :: rows) := by
  have notWords : ¬ tag.isWords = true := by simp [Row.isWords_of_isTag isTag]
  induction front using chunk_induction with
  | nil => rfl
  | blank front ih =>
    rw [List.cons_append, chunks_blank, chunks_blank, ih (settled.of_suffix (List.suffix_cons _ _))]
  | tag first front firstTag ih =>
    -- Settled rows have no tag behind their last blank row, so one of these rows is blank.
    have some : ¬ ∀ row ∈ front, row.isFilled = true := by
      intro filled
      have words := settled _ (List.suffix_refl _)
        (List.forall_mem_cons.mpr ⟨Row.isFilled_of_isTag firstTag, filled⟩) first List.mem_cons_self
      rw [Row.isWords_of_isTag firstTag] at words
      cases words
    obtain ⟨taken, dropped⟩ := takeWhile_append_of_not_all some (tag :: rows)
    have ends := (List.dropWhile_suffix Row.isFilled).trans (List.suffix_cons first front)
    rw [List.cons_append, chunks_tag firstTag, chunks_tag firstTag, taken, dropped,
      ih (settled.of_suffix ends), List.cons_append]
  | words line front ih =>
    rw [List.cons_append, chunks_words, chunks_words]
    by_cases all : ∀ row ∈ front, row.isWords = true
    · rw [List.takeWhile_append_of_pos all, List.dropWhile_append_of_pos all,
        List.takeWhile_cons_of_neg notWords, List.dropWhile_cons_of_neg notWords,
        List.takeWhile_eq_self_iff.mpr all, List.dropWhile_eq_nil_iff.mpr all, List.append_nil]
      rfl
    · obtain ⟨taken, dropped⟩ := takeWhile_append_of_not_all all (tag :: rows)
      have ends := (List.dropWhile_suffix Row.isWords).trans (List.suffix_cons (.words line) front)
      rw [taken, dropped, ih (settled.of_suffix ends), List.cons_append]

end Loremark.Markdown
