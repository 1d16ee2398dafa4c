import Loremark.Proofs.Spoiler.Marker
import Loremark.Proofs.Tree.Tags
import Loremark.Tree.Build

/-!
# Putting divisions together loses no block

`regroup` takes blocks that stand side by side apart into pieces: blocks that are built by
themselves, and divisions with the blocks inside them and the one that closes them. The pieces are
all of the blocks in their order (`flatMap_regroup`), each of them becomes one node
(`blockNodes_eq_mapM`), and a division ends in its first block or in one that holds nothing but
closing tags (`sound_of_mem_regroup`). The search for that one never looks behind the last block
(`scan_lt`).
-/

set_option autoImplicit false

namespace Loremark.Tree

open Markdown
open Spoiler (Spelled)

variable {text html body rest tag : Text}

/-! ## Tags -/

/-- A closing tag, its name in letters of either case. -/
inductive EndTag : Text → Prop
  | intro {word gap : Text} (named : Spelled "</div".toList word)
      (blank : Text.allBlank gap = true) : EndTag (word ++ (gap ++ ['>']))

/-- Closing tags and blanks, with one tag at least. -/
inductive EndTags : Text → Prop
  | last {gap tag behind : Text} (blank : Text.allBlank gap = true) (isTag : EndTag tag)
      (blankBehind : Text.allBlank behind = true) : EndTags (gap ++ (tag ++ behind))
  | cons {gap tag rest : Text} (blank : Text.allBlank gap = true) (isTag : EndTag tag)
      (more : EndTags rest) : EndTags (gap ++ (tag ++ rest))

/-- An opening tag with a class, up to blanks in front of it. -/
inductive StartTag (className : Text) : Text → Prop
  | intro {gap word attrs : Text} (blank : Text.allBlank gap = true)
      (named : Spelled "<div".toList word) (ends : '>' ∉ attrs)
      (classed : class? attrs = some className) :
      StartTag className (gap ++ (word ++ (attrs ++ ['>'])))

/-- Blanks in front of a character that is none are cut off. -/
theorem trimStart_gap {gap : Text} {c : Char} (blank : Text.allBlank gap = true)
    (filled : Text.isBlank c = false) : Text.trimStart (gap ++ c :: rest) = c :: rest := by
  rw [Text.trimStart, List.dropWhile_append_of_pos (List.all_eq_true.mp blank),
    List.dropWhile_cons_of_neg (by simp [filled])]

/-- A text is blanks in front of the trimmed text. -/
theorem trimStart_split (text : Text) :
    ∃ gap, Text.allBlank gap = true ∧ text = gap ++ Text.trimStart text := by
  refine ⟨text.takeWhile Text.isBlank, ?_, List.takeWhile_append_dropWhile.symm⟩
  exact List.all_eq_true.mpr fun c mem => List.mem_takeWhile_imp mem

/-- The end of a division is read exactly if a closing tag stands there. -/
theorem afterDivisionEnd?_eq_some_iff :
    afterDivisionEnd? text = some rest ↔ ∃ tag, EndTag tag ∧ text = tag ++ rest := by
  rw [afterDivisionEnd?]
  constructor
  · intro found
    split at found
    · rename_i behind closes
      obtain rfl := Option.some.inj found
      obtain ⟨after, named, trimmed⟩ := Option.map_eq_some_iff.mp closes
      obtain ⟨word, spelled, rfl⟩ := Text.afterWord?_eq_some_iff.mp named
      obtain ⟨gap, blank, split⟩ := trimStart_split after
      refine ⟨_, .intro spelled blank, ?_⟩
      rw [split, trimmed]
      simp
    · cases found
  · rintro ⟨_, ⟨named, blank⟩, rfl⟩
    rename_i word gap
    have reads : Text.afterWord? Text.sameLetter "</div".toList (word ++ (gap ++ '>' :: rest)) =
        some (gap ++ '>' :: rest) := Text.afterWord?_eq_some_iff.mpr ⟨word, named, rfl⟩
    have shape : word ++ (gap ++ ['>']) ++ rest = word ++ (gap ++ '>' :: rest) := by simp
    rw [shape, reads, Option.map_some, trimStart_gap blank (by decide)]
    rfl

/-- A tag begins with an angle bracket. -/
theorem begins_of_spelled {name word : Text} (spelled : Spelled ('<' :: name) word) :
    ∃ behind, word = '<' :: behind := by
  obtain ⟨c, behind, same, -, rfl⟩ := List.forall₂_cons_left_iff.mp spelled
  exact ⟨behind, by rw [eq_of_sameLetter same]⟩

/-- A closing tag begins with an angle bracket. -/
theorem EndTag.begins (isTag : EndTag tag) : ∃ behind, tag = '<' :: behind := by
  cases isTag with
  | intro named blank =>
    have name : "</div".toList = '<' :: ['/', 'd', 'i', 'v'] := by simp only [String.reduceToList]
    rw [name] at named
    obtain ⟨behind, rfl⟩ := begins_of_spelled named
    exact ⟨_, rfl⟩

/-- A closing tag is read behind blanks. -/
theorem afterDivisionEnd?_gap {gap : Text} (blank : Text.allBlank gap = true)
    (isTag : EndTag tag) :
    afterDivisionEnd? (Text.trimStart (gap ++ (tag ++ rest))) = some rest := by
  have found : afterDivisionEnd? (tag ++ rest) = some rest :=
    afterDivisionEnd?_eq_some_iff.mpr ⟨tag, isTag, rfl⟩
  obtain ⟨inner, rfl⟩ := isTag.begins
  rw [List.cons_append, trimStart_gap blank (by decide)]
  exact found

/-- What passes the test for closing tags is closing tags and blanks. -/
theorem endTags_of_onlyEnds {fuel : Nat} (only : onlyEnds fuel html = true) : EndTags html := by
  induction fuel generalizing html with
  | zero => cases only
  | succ fuel ih =>
    rw [onlyEnds] at only
    split at only
    · rename_i rest found
      obtain ⟨tag, isTag, split⟩ := afterDivisionEnd?_eq_some_iff.mp found
      obtain ⟨gap, blank, whole⟩ := trimStart_split html
      rw [whole, split]
      rcases Bool.or_eq_true _ _ ▸ only with last | more
      · exact .last blank isTag last
      · exact .cons blank isTag (ih more)
    · cases only

/-- Closing tags and blanks pass the test. -/
theorem onlyEnds_of_endTags (only : EndTags html) {fuel : Nat} (enough : html.length ≤ fuel) :
    onlyEnds fuel html = true := by
  -- A tag is not empty, so that some fuel is there, and less is enough for what is behind the tag.
  induction only generalizing fuel with
  | last blank isTag blankBehind =>
    obtain ⟨inner, same⟩ := isTag.begins
    have longer := congrArg List.length same
    simp only [List.length_append, List.length_cons] at enough longer
    obtain ⟨less, rfl⟩ : ∃ less, fuel = less + 1 := Nat.exists_eq_add_one.mpr (by omega)
    rw [onlyEnds, afterDivisionEnd?_gap blank isTag]
    simp only [blankBehind, Bool.true_or]
  | cons blank isTag more ih =>
    obtain ⟨inner, same⟩ := isTag.begins
    have longer := congrArg List.length same
    simp only [List.length_append, List.length_cons] at enough longer
    obtain ⟨less, rfl⟩ : ∃ less, fuel = less + 1 := Nat.exists_eq_add_one.mpr (by omega)
    have behind := ih (by omega : _ ≤ less)
    rw [onlyEnds, afterDivisionEnd?_gap blank isTag]
    simp only [behind, Bool.or_true]

/-- Markup that closes divisions and does nothing else is closing tags and blanks. -/
theorem closesOnly_iff : closesOnly html = true ↔ EndTags html :=
  ⟨endTags_of_onlyEnds, fun only => onlyEnds_of_endTags only le_rfl⟩

/-- The text in front of the closing tag that ends a text. -/
theorem beforeEnd?_eq_some {before : Text} (found : beforeEnd? text = some before) :
    ∃ tag gap, EndTag tag ∧ Text.allBlank gap = true ∧ text = before ++ (tag ++ gap) := by
  induction text generalizing before with
  | nil => cases found
  | cons c text ih =>
    have onward (found : (beforeEnd? text).map (c :: ·) = some before) :
        ∃ tag gap, EndTag tag ∧ Text.allBlank gap = true ∧ c :: text = before ++ (tag ++ gap) := by
      obtain ⟨inner, inside, rfl⟩ := Option.map_eq_some_iff.mp found
      obtain ⟨tag, gap, isTag, blank, split⟩ := ih inside
      exact ⟨tag, gap, isTag, blank, by rw [split, List.cons_append]⟩
    unfold beforeEnd? at found
    split at found
    · rename_i rest closes
      split at found
      · rename_i blank
        obtain rfl := Option.some.inj found
        obtain ⟨tag, isTag, split⟩ := afterDivisionEnd?_eq_some_iff.mp closes
        exact ⟨tag, rest, isTag, blank, split⟩
      · exact onward found
    · exact onward found

/-- A division that is opened begins with its tag. -/
theorem openDivision?_eq_some {attrs className : Text}
    (opened : openDivision? html = some (attrs, body)) (classed : class? attrs = some className) :
    ∃ tag, StartTag className tag ∧ html = tag ++ body := by
  rw [openDivision?] at opened
  simp only [Option.bind_eq_bind, Option.bind_eq_some_iff] at opened
  obtain ⟨after, named, opened⟩ := opened
  obtain ⟨gap, blank, whole⟩ := trimStart_split html
  obtain ⟨found, -⟩ := Option.filter_eq_some_iff.mp named
  obtain ⟨word, spelled, split⟩ := Text.afterWord?_eq_some_iff.mp found
  split at opened
  · rename_i c behind cut
    obtain ⟨rfl, rfl⟩ := Prod.mk.inj (Option.some.inj opened)
    -- The attributes end at the first bracket.
    have parts : after.takeWhile (· != '>') ++ after.dropWhile (· != '>') = after :=
      List.takeWhile_append_dropWhile
    have rest : after.dropWhile (· != '>') = c :: behind := by
      have dropped := congrArg (List.drop (after.takeWhile (· != '>')).length) parts
      rw [List.drop_left] at dropped
      exact dropped.trans cut
    have bracket : c = '>' := by
      have stops := List.head?_dropWhile_not (· != '>') after
      rw [rest] at stops
      simpa using stops
    refine ⟨_, .intro blank spelled ?_ classed, ?_⟩
    · intro mem
      have passed := List.mem_takeWhile_imp mem
      simp at passed
    · rw [rest, bracket] at parts
      calc html = gap ++ (word ++ after) := by rw [← split, ← whole]
        _ = gap ++ (word ++ (after.takeWhile (· != '>') ++ '>' :: behind)) := by rw [parts]
        _ = _ := by simp
  · cases opened

/-! ## The end of a division -/

/-- The search for the end of a division in which `depth` divisions are open: the number of blocks
that it passes by, and the number of divisions that are open at its end. It ends at the first markup
behind which none is open, or behind the last block. -/
def scan : (depth : Int) → Blocks → Nat × Int
  | depth, [] => (0, depth)
  | depth, block :: blocks =>
    match block.html? with
    | none => ((scan depth blocks).1 + 1, (scan depth blocks).2)
    | some html =>
      let depth := depth + divisionBalance html
      if depth ≤ 0 then (0, depth) else ((scan depth blocks).1 + 1, (scan depth blocks).2)

/-- A search that ends with no division open ends at a block. -/
theorem scan_lt {depth : Int} (begins : 0 < depth) (blocks : Blocks)
    (ends : (scan depth blocks).2 = 0) : (scan depth blocks).1 < blocks.length := by
  induction blocks generalizing depth with
  | nil =>
    rw [scan] at ends
    exact absurd ends (Int.ne_of_gt begins)
  | cons block blocks ih =>
    rw [scan] at ends ⊢
    split at ends
    · rename_i none
      exact Nat.succ_lt_succ (ih begins ends)
    · rename_i html isHtml
      dsimp only at ends ⊢
      split at ends
      · rename_i closed
        rw [if_pos closed]
        exact Nat.succ_pos _
      · rename_i more
        rw [if_neg more]
        exact Nat.succ_lt_succ (ih (Int.not_le.mp more) ends)

/-- A division ends where the search for its end ends, if none is open there and the markup at that
place only closes divisions. -/
theorem closingDistance?_eq_some_iff {depth : Int} {blocks : Blocks} {distance : Nat} :
    closingDistance? depth blocks = some distance ↔ scan depth blocks = (distance, 0) ∧
      ∃ html, blocks[distance]? = some (.html html) ∧ EndTags html := by
  induction blocks generalizing depth distance with
  | nil => simp [closingDistance?]
  | cons block blocks ih =>
    -- One block farther on.
    have onward (depth : Int) :
        (closingDistance? depth blocks).map (· + 1) = some distance ↔
          ((scan depth blocks).1 + 1, (scan depth blocks).2) = (distance, 0) ∧
            ∃ html, (block :: blocks)[distance]? = some (.html html) ∧ EndTags html := by
      cases distance with
      | zero => simp
      | succ distance => simp [ih, Prod.ext_iff]
    rw [closingDistance?, scan]
    cases block with
    | html html =>
      simp only [Block.html?]
      split
      · rename_i closed
        cases even : depth + divisionBalance html == 0 && closesOnly html with
        | true =>
          simp only [Bool.and_eq_true, beq_iff_eq, closesOnly_iff] at even
          simp only [if_true, Option.some.injEq, even.1]
          constructor
          · rintro rfl
            exact ⟨rfl, html, rfl, even.2⟩
          · rintro ⟨same, -⟩
            exact (Prod.mk.inj same).1
        | false =>
          simp only [Bool.false_eq_true, if_false, reduceCtorEq, false_iff]
          rintro ⟨same, other, here, only⟩
          obtain ⟨rfl, zero⟩ := Prod.mk.inj same
          cases here
          rw [zero, closesOnly_iff.mpr only] at even
          cases even
      · exact onward _
    | _ => exact onward depth

/-- How a division takes its first piece of markup apart, and which blocks behind it belong to it. -/
theorem divisionStart?_shape {blocks : Blocks} {start : DivisionStart}
    (found : divisionStart? html blocks = some start) :
    ∃ tag, StartTag start.className tag ∧
      ((∃ last gap, EndTag last ∧ Text.allBlank gap = true ∧
          html = tag ++ (start.body ++ (last ++ gap)) ∧ start.inside = 0 ∧ start.used = 0) ∨
        html = tag ++ start.body ∧ start.used = start.inside + 1 ∧
          ∃ closing, blocks[start.inside]? = some (.html closing) ∧ EndTags closing) := by
  rw [divisionStart?] at found
  simp only [Option.bind_eq_bind, Option.bind_eq_some_iff] at found
  obtain ⟨⟨attrs, body⟩, opened, className, classed, found⟩ := found
  obtain ⟨tag, isTag, whole⟩ := openDivision?_eq_some opened classed
  dsimp only at found
  split at found
  · obtain ⟨inner, before, same⟩ := Option.bind_eq_some_iff.mp found
    obtain rfl := Option.some.inj same
    obtain ⟨last, gap, isEnd, blank, split⟩ := beforeEnd?_eq_some before
    exact ⟨tag, isTag, .inl ⟨last, gap, isEnd, blank, by rw [whole, split], rfl, rfl⟩⟩
  · split at found
    · obtain ⟨distance, closes, same⟩ := Option.bind_eq_some_iff.mp found
      obtain rfl := Option.some.inj same
      exact ⟨tag, isTag, .inr ⟨whole, rfl, (closingDistance?_eq_some_iff.mp closes).2⟩⟩
    · cases found

/-- What a division takes from its first piece of markup and from the blocks behind it. -/
theorem divisionStart?_cases {blocks : Blocks} {start : DivisionStart}
    (found : divisionStart? html blocks = some start) :
    start.body <:+: html ∧ start.inside ≤ start.used := by
  obtain ⟨tag, -, ⟨last, gap, -, -, whole, inside, used⟩ | ⟨whole, used, -⟩⟩ :=
    divisionStart?_shape found
  · refine ⟨⟨tag, last ++ gap, ?_⟩, by omega⟩
    rw [whole, List.append_assoc]
  · refine ⟨⟨tag, [], ?_⟩, by omega⟩
    rw [whole, List.append_nil]

/-! ## Pieces -/

/-- What blocks that stand side by side are taken apart into. -/
inductive Piece where
  /-- A block that is built by itself. -/
  | single (block : Block (List Inline))
  /-- A division that begins in a block, with the blocks inside it and those that end it. -/
  | division (first : Block (List Inline)) (start : DivisionStart) (inside ends : Blocks)

/-- The blocks of a piece. -/
def Piece.blocks : Piece → Blocks
  | single block => [block]
  | division first _ inside ends => first :: (inside ++ ends)

/-- The pieces of blocks, of which the first `skip` belong to a division in front of them. -/
def regroup : (skip : Nat) → Blocks → List Piece
  | _, [] => []
  | skip + 1, _ :: blocks => regroup skip blocks
  | 0, block :: blocks =>
    match block.html?.bind fun html => divisionStart? html blocks with
    | some start =>
      .division block start (blocks.take start.inside)
        ((blocks.take start.used).drop start.inside) :: regroup start.used blocks
    | none => .single block :: regroup 0 blocks

/-- Builds the node of a piece. -/
def pieceNode (deeper : Blocks → Build (List Node)) (source : Source) : Piece → Build Node
  | .single block => blockNode deeper source block
  | .division _ start inside _ => do
    let first ←
      if start.used != 0 && Text.allBlank start.body then pure []
      else readInside start.body
    let children ← deeper (first ++ inside)
    containerNode start.className [] (Node.flatten children) children

/-- A division begins with its opening tag and ends in the same piece of markup, or in a block behind
those inside it that is closing tags and blanks. -/
def Piece.Sound : Piece → Prop
  | single _ => True
  | division first start inside ends => inside.length = start.inside ∧
    ∃ html tag, first = .html html ∧ StartTag start.className tag ∧
      ((∃ last gap, EndTag last ∧ Text.allBlank gap = true ∧
          html = tag ++ (start.body ++ (last ++ gap)) ∧ inside = [] ∧ ends = []) ∨
        html = tag ++ start.body ∧ ∃ closing, EndTags closing ∧ ends = [.html closing])

section Pieces

variable {blocks : Blocks} {start : DivisionStart}

/-- A block of markup is its markup. -/
theorem eq_html_of_html? {block : Block (List Inline)} (isHtml : block.html? = some html) :
    block = .html html := by
  cases block with
  | html content => rw [Option.some.inj isHtml]
  | _ => cases isHtml

/-- Every block is in one piece, and the pieces are in the order of the blocks. -/
theorem flatMap_regroup (skip : Nat) (blocks : Blocks) :
    (regroup skip blocks).flatMap Piece.blocks = blocks.drop skip := by
  fun_induction regroup skip blocks with
  | case1 skip => exact List.drop_nil.symm
  | case2 block blocks skip ih => exact ih
  | case3 block blocks start found ih =>
    obtain ⟨html, -, begins⟩ := Option.bind_eq_some_iff.mp found
    obtain ⟨-, le⟩ := divisionStart?_cases begins
    have inside : blocks.take start.inside ++ (blocks.take start.used).drop start.inside =
        blocks.take start.used := by
      have parts := List.take_append_drop start.inside (blocks.take start.used)
      rwa [List.take_take, min_eq_left le] at parts
    rw [List.flatMap_cons, ih, Piece.blocks, inside, List.cons_append, List.take_append_drop,
      List.drop_zero]
  | case4 block blocks none ih =>
    rw [List.flatMap_cons, ih]
    rfl

/-- A division with the block that closes it, and a block behind it. -/
example :
    (regroup 0 [.html "<div class=\"note\">".toList, .rule, .html "</div>".toList, .rule]).map
      (fun piece => piece.blocks.length) = [3, 1] := by
  decide +kernel

/-- Every piece becomes one node, in order. -/
theorem blockNodes_eq_mapM (deeper : Blocks → Build (List Node)) (source : Source) (skip : Nat)
    (blocks : Blocks) :
    blockNodes deeper source skip blocks =
      (regroup skip blocks).mapM (pieceNode deeper source) := by
  fun_induction regroup skip blocks with
  | case1 skip => cases skip <;> rfl
  | case2 block blocks skip ih =>
    rw [blockNodes]
    exact ih
  | case3 block blocks start found ih =>
    rw [blockNodes, found, List.mapM_cons, pieceNode, ← divisionNode, ← ih]
  | case4 block blocks none ih =>
    rw [blockNodes, none, List.mapM_cons, pieceNode, ← ih]

/-- A division that is found is a sound piece. -/
theorem sound_of_divisionStart? {html : Text} (found : divisionStart? html blocks = some start) :
    Piece.Sound (.division (.html html) start (blocks.take start.inside)
      ((blocks.take start.used).drop start.inside)) := by
  obtain ⟨tag, isTag, ⟨last, gap, isEnd, blank, whole, inside, used⟩ |
    ⟨whole, used, closing, here, only⟩⟩ := divisionStart?_shape found
  · rw [Piece.Sound, inside, used]
    exact ⟨rfl, html, tag, rfl, isTag, .inl ⟨last, gap, isEnd, blank, whole, rfl, rfl⟩⟩
  · obtain ⟨lt, get⟩ := List.getElem?_eq_some_iff.mp here
    have ends : (blocks.take start.used).drop start.inside = [.html closing] := by
      rw [used, List.take_succ_eq_append_getElem lt, get, List.drop_left']
      exact List.length_take_of_le lt.le
    rw [Piece.Sound, ends]
    exact ⟨List.length_take_of_le lt.le, html, tag, rfl, isTag, .inr ⟨whole, closing, only, rfl⟩⟩

/-- All pieces are sound. -/
theorem sound_of_mem_regroup {skip : Nat} {piece : Piece} (mem : piece ∈ regroup skip blocks) :
    piece.Sound := by
  fun_induction regroup skip blocks with
  | case1 skip => cases mem
  | case2 block blocks skip ih => exact ih mem
  | case3 block blocks start found ih =>
    rcases List.mem_cons.mp mem with rfl | behind
    · obtain ⟨html, isHtml, begins⟩ := Option.bind_eq_some_iff.mp found
      obtain rfl := eq_html_of_html? isHtml
      exact sound_of_divisionStart? begins
    · exact ih behind
  | case4 block blocks none ih =>
    rcases List.mem_cons.mp mem with rfl | behind
    · trivial
    · exact ih behind

end Pieces

end Loremark.Tree
