import Loremark.Proofs.Tree.Gathering
import Mathlib.Data.List.Chain

/-!
# Nested divisions

Rows whose tags are nested properly, and which of their lines stand inside spoiler divisions.
Divisions are put together from chunks by counting tags, which finds the divisions that were
written as long as a chunk holds nothing behind a closing tag. `shownFrom_nested` says so for rows
in which every closing tag stands in front of a blank row or ends the document.
-/

set_option autoImplicit false

namespace Loremark.Tree

open Markdown

/-- Rows whose opening and closing tags match. -/
inductive Nested : List Row → Prop
  | nil : Nested []
  | line (row : Row) (notTag : row.isTag = false) {rows : List Row} (behind : Nested rows) :
      Nested (row :: rows)
  | division (className : Text) {inside rows : List Row} (within : Nested inside)
      (behind : Nested rows) : Nested (.opens className :: (inside ++ .closes :: rows))

/-- Whether every closing tag stands in front of a blank row or is the last row. -/
def EndsApart (rows : List Row) : Prop :=
  rows.IsChain fun row next => row = .closes → next = .blank

/-- The plain lines among rows that stand inside a spoiler division, or those that do not. `around`
tells of each division around the rows whether it is one. -/
def linesWhere (gated : Bool) : (around : List Bool) → List Row → List Text
  | _, [] => []
  | around, .opens className :: rows =>
    linesWhere gated (Spoiler.mentionsSpoiler className :: around) rows
  | around, .closes :: rows => linesWhere gated around.tail rows
  | around, .words line :: rows =>
    if around.contains true = gated then line :: linesWhere gated around rows
    else linesWhere gated around rows
  | around, .blank :: rows => linesWhere gated around rows

/-- The plain lines inside spoiler divisions. -/
def secretLines (rows : List Row) : List Text := linesWhere true [] rows

/-- The plain lines outside spoiler divisions. -/
def openLines (rows : List Row) : List Text := linesWhere false [] rows

variable {rows inside front run more : List Row} {className : Text}

/-! ## Lines of nested rows -/

/-- The lines of nested rows stand in front of those of the rows behind them. -/
theorem linesWhere_append (nested : Nested rows) (gated : Bool) (around : List Bool)
    (more : List Row) :
    linesWhere gated around (rows ++ more) =
      linesWhere gated around rows ++ linesWhere gated around more := by
  induction nested generalizing around more with
  | nil => rfl
  | line row notTag behind ih =>
    cases row with
    | words line =>
      rw [List.cons_append, linesWhere, linesWhere, ih]
      split <;> rfl
    | blank => exact ih around more
    | _ => cases notTag
  | division className within behind ihWithin ihBehind =>
    rw [List.cons_append, List.append_assoc, linesWhere, linesWhere, ihWithin, ihWithin,
      List.append_assoc]
    congr 1
    exact ihBehind around more

/-- Only whether one of the divisions around is a spoiler matters. -/
theorem linesWhere_congr (nested : Nested rows) (gated : Bool) {around others : List Bool}
    (same : around.contains true = others.contains true) :
    linesWhere gated around rows = linesWhere gated others rows := by
  induction nested generalizing around others with
  | nil => rfl
  | line row notTag behind ih =>
    cases row with
    | words line => rw [linesWhere, linesWhere, same, ih same]
    | blank => exact ih same
    | _ => cases notTag
  | @division className inside rows within behind ihWithin ihBehind =>
    have deeper : (Spoiler.mentionsSpoiler className :: around).contains true =
        (Spoiler.mentionsSpoiler className :: others).contains true := by
      rw [List.contains_cons, List.contains_cons, same]
    rw [linesWhere, linesWhere, linesWhere_append within, linesWhere_append within,
      ihWithin deeper]
    exact congrArg _ (ihBehind same)

/-- No line inside a spoiler division stands outside all of them. -/
theorem linesWhere_false_of_gated (nested : Nested rows) {around : List Bool}
    (spoils : around.contains true = true) : linesWhere false around rows = [] := by
  induction nested generalizing around with
  | nil => rfl
  | line row notTag behind ih =>
    cases row with
    | words line => rw [linesWhere, spoils, if_neg (by decide), ih spoils]
    | blank => exact ih spoils
    | _ => cases notTag
  | division className within behind ihWithin ihBehind =>
    have deeper : (Spoiler.mentionsSpoiler className :: around).contains true = true := by
      rw [List.contains_cons, spoils, Bool.or_true]
    rw [linesWhere, linesWhere_append within, ihWithin deeper]
    exact ihBehind spoils

/-- The open lines of a division and the rows behind it. -/
theorem openLines_division (within : Nested inside) (rows : List Row) :
    openLines (.opens className :: (inside ++ .closes :: rows)) =
      (if Spoiler.mentionsSpoiler className then [] else openLines inside) ++ openLines rows := by
  have content : linesWhere false [Spoiler.mentionsSpoiler className] inside =
      if Spoiler.mentionsSpoiler className then [] else openLines inside := by
    split
    · rename_i spoils
      rw [spoils]
      exact linesWhere_false_of_gated within rfl
    · rename_i other
      rw [Bool.eq_false_iff.mpr other]
      exact linesWhere_congr within false rfl
  rw [openLines, linesWhere, linesWhere_append within, content]
  rfl

/-- A plain line in front stands outside divisions. -/
theorem openLines_words (line : Text) (rows : List Row) :
    openLines (.words line :: rows) = line :: openLines rows := rfl

/-- Plain lines in front of other rows are open. -/
theorem openLines_takeWhile (rows : List Row) :
    openLines rows =
      wordsOf (rows.takeWhile Row.isWords) ++ openLines (rows.dropWhile Row.isWords) := by
  induction rows with
  | nil => rfl
  | cons row rows ih =>
    cases row with
    | words line => exact congrArg (line :: ·) ih
    | _ => rfl

/-- Every line that is picked is a row. -/
theorem mem_of_mem_linesWhere {line : Text} {gated : Bool} {around : List Bool}
    (mem : line ∈ linesWhere gated around rows) : .words line ∈ rows := by
  induction rows generalizing around with
  | nil => cases mem
  | cons row rows ih =>
    cases row with
    | words words =>
      rw [linesWhere] at mem
      split at mem
      · rcases List.mem_cons.mp mem with rfl | later
        · exact List.mem_cons_self
        · exact List.mem_cons_of_mem _ (ih later)
      · exact List.mem_cons_of_mem _ (ih mem)
    | _ => exact List.mem_cons_of_mem _ (ih mem)

/-! ## Counting nested tags -/

/-- The balances of two lists of rows add up. -/
theorem balance_append (front rows : List Row) :
    balance (front ++ rows) = balance front + balance rows := by
  rw [balance, List.map_append, List.sum_append]
  rfl

/-- A row adds its step to the balance of the others. -/
theorem balance_cons (row : Row) (rows : List Row) :
    balance (row :: rows) = step row + balance rows := by
  rw [balance, List.map_cons, List.sum_cons]
  rfl

/-- A row that is no tag opens and closes nothing. -/
theorem step_of_not_isTag {row : Row} (notTag : row.isTag = false) : step row = 0 := by
  cases row with
  | words line => rfl
  | blank => rfl
  | _ => cases notTag

/-- Nested rows open as many divisions as they close. -/
theorem Nested.balance_eq_zero (nested : Nested rows) : balance rows = 0 := by
  induction nested with
  | nil => rfl
  | line row notTag behind ih => rw [balance_cons, step_of_not_isTag notTag, ih, Int.zero_add]
  | division className within behind ihWithin ihBehind =>
    rw [balance_cons, balance_append, balance_cons, ihWithin, ihBehind]
    rfl

/-- No front of nested rows closes more than it opens. -/
theorem Nested.balance_nonneg (nested : Nested rows) (begins : front <+: rows) :
    0 ≤ balance front := by
  induction nested generalizing front with
  | nil =>
    rw [List.prefix_nil.mp begins]
    exact Int.le_refl 0
  | line row notTag behind ih =>
    rcases List.prefix_cons_iff.mp begins with rfl | ⟨others, rfl, later⟩
    · exact Int.le_refl 0
    · rw [balance_cons, step_of_not_isTag notTag, Int.zero_add]
      exact ih later
  | @division className inside rows within behind ihWithin ihBehind =>
    have opened : step (.opens className) = 1 := rfl
    have closed : step .closes = -1 := rfl
    rcases List.prefix_cons_iff.mp begins with rfl | ⟨others, rfl, later⟩
    · exact Int.le_refl 0
    rw [balance_cons, opened]
    rcases List.prefix_or_prefix_of_prefix later (List.prefix_append inside _) with
      short | ⟨others, rfl⟩
    · have deep := ihWithin short
      omega
    · rw [balance_append, within.balance_eq_zero]
      rcases List.prefix_cons_iff.mp ((List.prefix_append_right_inj inside).mp later) with
        rfl | ⟨others, rfl, beyond⟩
      · decide
      · have deep := ihBehind beyond
        rw [balance_cons, closed]
        omega

/-! ## Chunks of nested rows -/

/-- In front of a closing tag nested rows are settled: a tag behind their last blank row would be
a closing one, and what stands behind it is not blank. -/
theorem settled_of_endsApart (nested : Nested rows)
    (apart : EndsApart (rows ++ .closes :: more)) : Settled rows := by
  induction nested with
  | nil =>
    intro run ends filled row mem
    rw [List.suffix_nil.mp ends] at mem
    cases mem
  | line row notTag behind ih =>
    intro run ends filled
    rcases List.suffix_cons_iff.mp ends with rfl | later
    · obtain ⟨own, others⟩ := List.forall_mem_cons.mp filled
      refine List.forall_mem_cons.mpr ⟨?_, ih apart.tail _ (List.suffix_refl _) others⟩
      cases row with
      | words line => rfl
      | blank => cases own
      | _ => cases notTag
    · exact ih apart.tail run later filled
  | @division className inside rows within behind ihWithin ihBehind =>
    have whole : .opens className :: (inside ++ .closes :: rows) ++ .closes :: more =
        .opens className :: inside ++ .closes :: (rows ++ .closes :: more) := by simp
    have apart : EndsApart (.closes :: (rows ++ .closes :: more)) := by
      rw [whole] at apart
      exact apart.right_of_append
    intro run ends filled
    -- Filled rows with the closing tag among them would go on to the blank row behind it.
    have notClosed : ¬ .closes :: rows <:+ run := by
      intro closed
      have next := apart.rel_head?
      cases rows with
      | nil => exact absurd (next rfl rfl) (by decide)
      | cons row rows =>
        obtain rfl := next rfl rfl
        have blank := filled .blank (closed.subset (by simp))
        cases blank
    have closing : .closes :: rows <:+ .opens className :: (inside ++ .closes :: rows) :=
      ⟨.opens className :: inside, by simp⟩
    rcases List.suffix_or_suffix_of_suffix ends closing with short | long
    · rcases List.suffix_cons_iff.mp short with rfl | later
      · exact absurd (List.suffix_refl _) notClosed
      · exact ihBehind apart.tail run later filled
    · exact absurd long notClosed

/-- Plain rows open and close nothing. -/
theorem balance_eq_zero_of_words (words : ∀ row ∈ rows, row.isWords = true) :
    balance rows = 0 := by
  induction rows with
  | nil => rfl
  | cons row rows ih =>
    obtain ⟨own, others⟩ := List.forall_mem_cons.mp words
    cases row with
    | words line => rw [balance_cons, ih others]; rfl
    | _ => cases own

/-- A balance can be taken of the rows that pass a test and those behind them. -/
theorem balance_takeWhile_dropWhile (p : Row → Bool) (rows : List Row) :
    balance (rows.takeWhile p) + balance (rows.dropWhile p) = balance rows := by
  rw [← balance_append, List.takeWhile_append_dropWhile]

/-- What stands behind the rows that pass a test begins there. -/
theorem takeWhile_append_begins (p : Row → Bool) (begins : front <+: rows.dropWhile p) :
    rows.takeWhile p ++ front <+: rows := by
  conv_rhs => rw [← List.takeWhile_append_dropWhile (p := p) (l := rows)]
  exact (List.prefix_append_right_inj _).mpr begins

/-- Looking for the end of a division passes over rows in which it does not end. -/
theorem closingChunk?_append {depth : Int}
    (deep : ∀ front, front <+: rows → 0 < depth + balance front) (cut : List Chunk) :
    closingChunk? depth (chunks rows ++ cut) =
      (closingChunk? (depth + balance rows) cut).map (· + (chunks rows).length) := by
  -- Induction on the chunks: at the end of each of them a division is still open.
  induction rows using chunk_induction generalizing depth with
  | nil =>
    have empty : balance [] = 0 := rfl
    rw [empty, Int.add_zero]
    exact Option.map_id'.symm
  | blank rows ih =>
    have same (rows : List Row) : balance (.blank :: rows) = balance rows := by
      rw [balance_cons]
      exact Int.zero_add _
    rw [chunks_blank, same, ih fun front begins => ?_]
    rw [← same]
    exact deep _ (List.cons_prefix_cons.mpr ⟨rfl, begins⟩)
  | tag tag rows isTag ih =>
    have here := deep (tag :: rows.takeWhile Row.isFilled)
      (List.cons_prefix_cons.mpr ⟨rfl, List.takeWhile_prefix _⟩)
    have total : depth + balance (tag :: rows.takeWhile Row.isFilled) +
        balance (rows.dropWhile Row.isFilled) = depth + balance (tag :: rows) := by
      rw [balance_cons, balance_cons, ← balance_takeWhile_dropWhile Row.isFilled rows]
      omega
    rw [chunks_tag isTag, List.cons_append, closingChunk?, if_neg (by omega),
      ih fun front begins => ?_, total, Option.map_map]
    · rfl
    · have later := deep _ (List.cons_prefix_cons.mpr
        ⟨rfl, takeWhile_append_begins Row.isFilled begins⟩ : tag :: _ <+: _)
      rw [balance_cons, balance_append] at later
      rw [balance_cons]
      omega
  | words line rows ih =>
    have taken : balance (rows.takeWhile Row.isWords) = 0 :=
      balance_eq_zero_of_words fun row mem => List.mem_takeWhile_imp mem
    have own (rows : List Row) : balance (.words line :: rows) = balance rows := by
      rw [balance_cons]
      exact Int.zero_add _
    have total := balance_takeWhile_dropWhile Row.isWords rows
    rw [taken, Int.zero_add] at total
    rw [chunks_words, List.cons_append, closingChunk?, ih fun front begins => ?_, total, own,
      Option.map_map]
    · rfl
    · have later := deep _ (List.cons_prefix_cons.mpr
        ⟨rfl, takeWhile_append_begins Row.isWords begins⟩ : .words line :: _ <+: _)
      rwa [own, balance_append, taken, Int.zero_add] at later

/-- Behind a closing tag that stands apart, no filled row follows at once. -/
theorem takeWhile_isFilled_of_endsApart (apart : EndsApart (.closes :: rows)) :
    rows.takeWhile Row.isFilled = [] ∧ rows.dropWhile Row.isFilled = rows := by
  have next := apart.rel_head?
  cases rows with
  | nil => exact ⟨rfl, rfl⟩
  | cons row rows =>
    obtain rfl := next rfl rfl
    exact ⟨rfl, rfl⟩

/-- A division of plain lines alone is found in one chunk. -/
theorem gathered?_whole (words : ∀ row ∈ inside, row.isWords = true) (cut : List Chunk) :
    gathered? (.markup (.opens className :: (inside ++ [.closes]))) cut =
      some ⟨className, inside, 0, 0⟩ := by
  have even : 1 + balance (inside ++ [.closes]) = 0 := by
    rw [balance_append, balance_eq_zero_of_words words]
    rfl
  rw [gathered?, if_pos even, if_pos List.getLast?_concat, List.dropLast_concat]

/-- A division whose first chunk ends inside it goes on to the closing tag. -/
theorem gathered?_spanning (within : Nested (front ++ inside)) (cut : List Chunk) :
    gathered? (.markup (.opens className :: front)) (chunks inside ++ .markup [.closes] :: cut) =
      some ⟨className, front, (chunks inside).length, (chunks inside).length + 1⟩ := by
  have deep := within.balance_nonneg (List.prefix_append front inside)
  have total := within.balance_eq_zero
  rw [balance_append] at total
  have even : 1 + balance front + balance inside = 1 := by omega
  have ends : closingChunk? 1 (.markup [.closes] :: cut) = some 0 := rfl
  have found : closingChunk? (1 + balance front) (chunks inside ++ .markup [.closes] :: cut) =
      some (chunks inside).length := by
    rw [closingChunk?_append, even, ends, Option.map_some, Nat.zero_add]
    intro more begins
    have later := within.balance_nonneg ((List.prefix_append_right_inj front).mpr begins)
    rw [balance_append] at later
    omega
  rw [gathered?, if_neg (by omega), if_pos (by omega), found]
  rfl

/-- A division whose closing tags stand apart is put together from the chunks of its content. -/
theorem gathered?_division (within : Nested inside)
    (apart : EndsApart (.opens className :: (inside ++ .closes :: rows))) :
    ∃ first cut g, chunks (.opens className :: (inside ++ .closes :: rows)) = first :: cut ∧
      gathered? first cut = some g ∧ g.className = className ∧
      chunks g.rows ++ cut.take g.inside = chunks inside ∧ cut.drop g.used = chunks rows := by
  have settled : Settled inside := settled_of_endsApart within apart.tail
  obtain ⟨none, all⟩ := takeWhile_isFilled_of_endsApart apart.tail.right_of_append
  by_cases filled : ∀ row ∈ inside, row.isFilled = true
  · -- Without a blank row the content has no tag either: one that closes would stand apart.
    have taken : (inside ++ .closes :: rows).takeWhile Row.isFilled = inside ++ [.closes] := by
      rw [List.takeWhile_append_of_pos filled, List.takeWhile_cons_of_pos rfl, none]
    have dropped : (inside ++ .closes :: rows).dropWhile Row.isFilled = rows := by
      rw [List.dropWhile_append_of_pos filled, List.dropWhile_cons_of_pos rfl, all]
    have words := settled inside (List.suffix_refl _) filled
    rw [chunks_tag rfl, taken, dropped]
    exact ⟨_, _, _, rfl, gathered?_whole words _, rfl, List.append_nil _, rfl⟩
  · obtain ⟨taken, dropped⟩ := takeWhile_append_of_not_all filled (.closes :: rows)
    have closing : chunks (inside.dropWhile Row.isFilled ++ .closes :: rows) =
        chunks (inside.dropWhile Row.isFilled) ++ .markup [.closes] :: chunks rows := by
      rw [chunks_append_tag (settled.of_suffix (List.dropWhile_suffix _)) rfl, chunks_tag rfl, none,
        all]
    have whole : Nested (inside.takeWhile Row.isFilled ++ inside.dropWhile Row.isFilled) := by
      rwa [List.takeWhile_append_dropWhile]
    rw [chunks_tag rfl, taken, dropped, closing]
    refine ⟨_, _, _, rfl, gathered?_spanning whole _, rfl, ?_, ?_⟩
    · rw [List.take_left, chunks_takeWhile_dropWhile]
    · rw [List.drop_append]
      simp

/-! ## Lines that are shown -/

/-- Skipping chunks is dropping them. -/
theorem shownWith_drop (deeper : List Chunk → List Text) (skip : Nat) (cut : List Chunk) :
    shownWith deeper skip cut = shownWith deeper 0 (cut.drop skip) := by
  induction cut generalizing skip with
  | nil => cases skip <;> rfl
  | cons chunk cut ih =>
    cases skip with
    | zero => rfl
    | succ skip => exact ih skip

/-- Running text in front shows its lines. -/
theorem shownFrom_running (fuel : Nat) (lines : List Text) (cut : List Chunk) :
    shownFrom fuel (.running lines :: cut) = lines ++ shownFrom fuel cut := by
  cases fuel <;> rfl

/-- Nested rows stay nested without the plain rows in front. -/
theorem Nested.dropWords (nested : Nested rows) : Nested (rows.dropWhile Row.isWords) := by
  induction nested with
  | nil => exact .nil
  | line row notTag behind ih =>
    cases row with
    | words line => exact ih
    | blank => exact .line .blank notTag behind
    | _ => cases notTag
  | division className within behind => exact .division className within behind

/-- Of nested rows whose closing tags stand apart, the lines outside spoiler divisions are shown. -/
theorem shownFrom_nested (nested : Nested rows) (apart : EndsApart rows) {fuel : Nat}
    (enough : rows.countP Row.isTag ≤ fuel) : shownFrom fuel (chunks rows) = openLines rows := by
  induction length : rows.length using Nat.strong_induction_on generalizing rows fuel with
  | h n ih =>
    subst length
    cases nested with
    | nil => cases fuel <;> rfl
    | @line row notTag rows behind =>
      rw [List.countP_cons_of_neg (by simp [notTag])] at enough
      cases row with
      | words line =>
        have ends := List.dropWhile_suffix (l := rows) Row.isWords
        have shorter := ends.length_le
        have fewer := ends.sublist.countP_le (p := Row.isTag)
        rw [chunks_words, shownFrom_running, openLines_words, openLines_takeWhile rows,
          ih _ (by rw [List.length_cons]; omega) behind.dropWords (apart.tail.suffix ends)
            (fewer.trans enough) rfl]
        rfl
      | blank =>
        rw [chunks_blank]
        exact ih _ (by rw [List.length_cons]; omega) behind apart.tail enough rfl
      | _ => cases notTag
    | @division className inside rows within behind =>
      have some : (Row.opens className).isTag = true := rfl
      rw [List.countP_cons_of_pos some, List.countP_append, List.countP_cons_of_pos rfl] at enough
      -- The two tags pay for the step into the division.
      obtain ⟨fuel, rfl⟩ : ∃ less, fuel = less + 1 := ⟨fuel - 1, by omega⟩
      obtain ⟨first, cut, g, begins, found, rfl, content, rest⟩ := gathered?_division within apart
      have longer : inside.length < (Row.opens g.className :: (inside ++ .closes :: rows)).length ∧
          rows.length < (Row.opens g.className :: (inside ++ .closes :: rows)).length := by
        simp only [List.length_cons, List.length_append]
        omega
      have shownInside : shownFrom fuel (chunks inside) = openLines inside :=
        ih _ longer.1 within apart.tail.left_of_append (by omega) rfl
      have shownRest : shownFrom (fuel + 1) (chunks rows) = openLines rows :=
        ih _ longer.2 behind apart.tail.right_of_append.tail (by omega) rfl
      rw [begins, shownFrom, shownWith, found]
      dsimp only
      rw [content, shownInside, shownWith_drop, rest, openLines_division within]
      exact congrArg _ shownRest

end Loremark.Tree
