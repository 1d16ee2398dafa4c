import Loremark.Proofs.Tree.OutlineWords

/-!
# Divisions inside divisions come to an end

Building a division reads its body anew, so the blocks that are built for it are in no block that
was there before. They have fewer opening brackets in their markup, though: the body is read without
the tag in front of it (`openings_division`). So the bound on the depth of divisions never matters
once it is as large as the number of brackets, and building is the one function that satisfies its
own equation without a bound (`exists_regroups`).
-/

set_option autoImplicit false

namespace Loremark.Tree

open Markdown
open Text (Vocabulary)

/-! ## Brackets -/

/-- The number of opening brackets in the markup of blocks, at any depth. -/
def openings (blocks : Blocks) : Nat :=
  (Block.textsOfAll (fun _ => []) blocks).flatten.count '<'

/-- The brackets of two lists of blocks add up. -/
theorem openings_append (blocks others : Blocks) :
    openings (blocks ++ others) = openings blocks + openings others := by
  rw [openings, Block.textsOfAll_append, List.flatten_append, List.count_append, openings, openings]

/-- The brackets of the first block are added to those of the others. -/
theorem openings_cons (block : Block (List Inline)) (blocks : Blocks) :
    openings (block :: blocks) = openings [block] + openings blocks :=
  openings_append [block] blocks

/-- The brackets of markup are those that are typed in it. -/
theorem openings_html (html : Text) : openings [.html html] = html.count '<' := by
  simp [openings, Block.textsOfAll, Block.textsOf]

/-- The first blocks have no more brackets than all of them. -/
theorem openings_take_le (count : Nat) (blocks : Blocks) :
    openings (blocks.take count) ≤ openings blocks := by
  have parts := openings_append (blocks.take count) (blocks.drop count)
  rw [List.take_append_drop] at parts
  omega

/-- A block that holds other blocks has their brackets. -/
theorem openings_inside (block : Block (List Inline)) {children : Blocks}
    (same : Block.textsOf (fun _ => []) block = Block.textsOfAll (fun _ => []) children) :
    openings [block] = openings children := by
  rw [openings, Block.textsOfAll, same, Block.textsOfAll, List.append_nil, openings]

/-- The vocabulary of which the opening bracket is the only word. -/
def bracket : Vocabulary := ⟨fun word => word == ['<'], rfl⟩

/-- Every other character separates brackets. -/
theorem separates_bracket {c : Char} (other : c ≠ '<') : bracket.Separates c := by
  intro word isWord mem
  rw [beq_iff_eq.mp isWord, List.mem_singleton] at mem
  exact other mem

/-- Brackets have no spaces and no line ends in them. -/
theorem spaced_bracket : Spaced bracket where
  space := separates_bracket (by decide)
  lineEnd := separates_bracket (by decide)
  carriage := separates_bracket (by decide)
  null := separates_bracket (by decide)
  replacement := separates_bracket (by decide)

/-- The opening brackets of a text are its words in that vocabulary. -/
theorem length_hits_bracket (text : Text) : (bracket.hits text).length = text.count '<' := by
  induction text with
  | nil => rfl
  | cons c text ih =>
    rw [Vocabulary.hits, List.length_append, ih, List.count_cons, Nat.add_comm]
    congr 1
    by_cases isBracket : c = '<'
    · have once : (bracket.here (c :: text)).Sublist [['<']] :=
        Vocabulary.here_sublist_singleton fun other isWord _ => beq_iff_eq.mp isWord
      have mem : ['<'] ∈ bracket.here (c :: text) :=
        Vocabulary.mem_here.mpr ⟨rfl, isBracket ▸ List.prefix_append ['<'] text⟩
      rw [isBracket] at once mem ⊢
      exact le_antisymm once.length_le (List.length_pos_of_mem mem)
    · rw [Vocabulary.here_cons (separates_bracket isBracket)]
      simp [isBracket]

/-- As many brackets are found as are typed. -/
theorem length_hitsAll_bracket (texts : List Text) :
    (bracket.hitsAll texts).length = texts.flatten.count '<' := by
  induction texts with
  | nil => rfl
  | cons text texts ih =>
    rw [Vocabulary.hitsAll_cons, List.length_append, length_hits_bracket, ih, List.flatten_cons,
      List.count_append]

/-- The markup of the blocks of a text has no more brackets than the text. -/
theorem openings_le_of_read {known : References} {text : Text} {document : Document}
    (read : Markdown.read known text = .ok document) :
    openings document.blocks ≤ text.count '<' := by
  rw [Markdown.read] at read
  obtain ⟨found, ran, same⟩ := of_except_bind read
  cases same
  have markup : (bracket.hitsAll (Block.textsOfAll (fun _ => [])
      (Block.mapAll (readInline (known ++ Block.definitionsAll found)) found))).Sublist
      (bracket.hitsAll (written found)) := by
    refine textsOfAll_mapAll ?_ found fun _ _ => trivial
    exact fun _ _ => List.nil_sublist _
  have fewer := (markup.trans (blocksOf_sublist spaced_bracket ran)).length_le
  rwa [length_hitsAll_bracket, length_hits_bracket] at fewer

/-- A tag has a bracket. -/
theorem StartTag.opens {className tag : Text} (isTag : StartTag className tag) :
    0 < tag.count '<' := by
  cases isTag with
  | intro blank named ends classed =>
    have name : "<div".toList = '<' :: ['d', 'i', 'v'] := by simp only [String.reduceToList]
    rw [name] at named
    obtain ⟨behind, rfl⟩ := begins_of_spelled named
    rw [List.count_pos_iff]
    simp

/-- What is built for a division has fewer brackets than the blocks that it is made of. -/
theorem openings_division {html : Text} {blocks first : Blocks} {start : DivisionStart}
    (found : divisionStart? html blocks = some start)
    (fewer : openings first ≤ start.body.count '<') :
    openings (first ++ blocks.take start.inside) < openings (.html html :: blocks) := by
  have taken := openings_take_le start.inside blocks
  rw [openings_append, openings_cons, openings_html]
  obtain ⟨tag, isTag, shape⟩ := divisionStart?_shape found
  have opens := isTag.opens
  have less : start.body.count '<' < html.count '<' := by
    obtain ⟨last, gap, -, -, whole, -⟩ | ⟨whole, -⟩ := shape
    · rw [whole, List.count_append, List.count_append]
      omega
    · rw [whole, List.count_append]
      omega
  omega

/-! ## Where building looks -/

section Congruence

variable {source : Source} {deeper other : Blocks → Build (List Node)} {bound : Nat}

/-- What comes behind a step matters for the values only that the step can give. -/
theorem bind_congr_of_gives {α β : Type} {step : Build α} {next later : α → Build β}
    (same : ∀ s a t, Gives step s a t → next a = later a) : (step >>= next) = (step >>= later) := by
  refine ExceptT.ext (StateT.ext fun s => ?_)
  simp only [ExceptT.run_bind, StateT.run_bind]
  cases ran : step.run.run s with
  | mk result t =>
    cases result with
    | error cause => rfl
    | ok a =>
      show (next a).run.run t = (later a).run.run t
      rw [same s a t ran]

/-- The blocks that are read inside a render have as few brackets as their text. -/
theorem openings_le_of_gives {text : Text} {s t : Progress} {blocks : Blocks}
    (gives : Gives (readInside text) s blocks t) : openings blocks ≤ text.count '<' := by
  have read := (readInside_gives gives).1
  rw [readText] at read
  obtain ⟨document, found, done⟩ := of_except_bind read
  obtain ⟨rfl, -⟩ := Prod.mk.inj (Except.ok.inj done)
  exact openings_le_of_read found

/-- A division is built the same way if the blocks with fewer brackets are. -/
theorem divisionNode_congr (agree : ∀ inner, openings inner < bound → deeper inner = other inner)
    {html : Text} {blocks : Blocks} {start : DivisionStart}
    (found : divisionStart? html blocks = some start)
    (le : openings (.html html :: blocks) ≤ bound) :
    divisionNode deeper start blocks = divisionNode other start blocks := by
  have rest {first : Blocks} (fewer : openings first ≤ start.body.count '<') :
      (do
        let children ← deeper (first ++ blocks.take start.inside)
        containerNode start.className [] (Node.flatten children) children) =
      (do
        let children ← other (first ++ blocks.take start.inside)
        containerNode start.className [] (Node.flatten children) children) := by
    rw [agree _ (Nat.lt_of_lt_of_le (openings_division found fewer) le)]
  rw [divisionNode, divisionNode]
  split
  · rw [pure_bind, pure_bind]
    exact rest (Nat.zero_le _)
  · exact bind_congr_of_gives fun s first t gives => rest (openings_le_of_gives gives)

mutual

/-- A block is built the same way if the blocks with fewer brackets are. -/
theorem blockNode_congr (agree : ∀ inner, openings inner < bound → deeper inner = other inner)
    (block : Block (List Inline)) (le : openings [block] ≤ bound) :
    blockNode deeper source block = blockNode other source block := by
  cases block with
  | bulletList items =>
    rw [openings_inside (.bulletList items) rfl] at le
    rw [blockNode, blockNode, blockNodes_congr agree 0 items le]
  | orderedList start items =>
    rw [openings_inside (.orderedList start items) rfl] at le
    rw [blockNode, blockNode, blockNodes_congr agree 0 items le]
  | item children =>
    rw [openings_inside (.item children) rfl] at le
    rw [blockNode, blockNode, blockNodes_congr agree 0 children le]
  | quote children =>
    rw [openings_inside (.quote children) rfl] at le
    rw [blockNode, blockNode, blockNodes_congr agree 0 children le]
  | container info children =>
    rw [openings_inside (.container info children) rfl] at le
    rw [blockNode, blockNode, blockNodes_congr agree 0 children le]
  | _ => rfl

/-- Building blocks builds the content of divisions with fewer brackets only. -/
theorem blockNodes_congr (agree : ∀ inner, openings inner < bound → deeper inner = other inner)
    (skip : Nat) (blocks : Blocks) (le : openings blocks ≤ bound) :
    blockNodes deeper source skip blocks = blockNodes other source skip blocks := by
  cases blocks with
  | nil => cases skip <;> rfl
  | cons block blocks =>
    have parts := openings_cons block blocks
    have behind (skip : Nat) :
        blockNodes deeper source skip blocks = blockNodes other source skip blocks :=
      blockNodes_congr agree skip blocks (by omega)
    cases skip with
    | succ skip => exact behind skip
    | zero =>
      rw [blockNodes, blockNodes]
      cases found : block.html?.bind fun html => divisionStart? html blocks with
      | some start =>
        obtain ⟨html, isHtml, begins⟩ := Option.bind_eq_some_iff.mp found
        obtain rfl := eq_html_of_html? isHtml
        dsimp only
        rw [divisionNode_congr agree begins le, behind start.used]
      | none =>
        dsimp only
        rw [blockNode_congr agree block (by omega), behind 0]

end

end Congruence

/-! ## Without a bound -/

/-- Builds the nodes of blocks, as deep as there are divisions inside divisions. -/
def wholeNodes (source : Source) (blocks : Blocks) : Build (List Node) :=
  nodesOf source (openings blocks) blocks

section Whole

variable {source : Source}

/-- A bound that is as large as the number of brackets does not matter. -/
theorem nodesOf_eq_wholeNodes {fuel : Nat} {blocks : Blocks} (enough : openings blocks ≤ fuel) :
    nodesOf source fuel blocks = wholeNodes source blocks := by
  induction count : openings blocks using Nat.strong_induction_on generalizing fuel blocks with
  | _ count ih =>
    subst count
    -- With any bound that is large enough, what is built below does not depend on the bound.
    have below {fuel : Nat} (enough : openings blocks ≤ fuel) :
        nodesOf source fuel blocks = blockNodes (wholeNodes source) source 0 blocks := by
      cases fuel with
      | zero =>
        refine blockNodes_congr (fun inner fewer => ?_) 0 blocks le_rfl
        exact absurd fewer (by omega)
      | succ fuel =>
        refine blockNodes_congr (fun inner fewer => ?_) 0 blocks le_rfl
        exact ih _ fewer (by omega) rfl
    rw [wholeNodes, below enough, below le_rfl]

/-- Building blocks is building each of them, with the same building inside. -/
theorem wholeNodes_eq (blocks : Blocks) :
    wholeNodes source blocks = blockNodes (wholeNodes source) source 0 blocks := by
  rw [← nodesOf_eq_wholeNodes (Nat.le_succ (openings blocks)), nodesOf]
  refine blockNodes_congr (fun inner fewer => ?_) 0 blocks le_rfl
  exact nodesOf_eq_wholeNodes (Nat.le_of_lt fewer)

/-- Nothing else satisfies the equation of building. -/
theorem eq_wholeNodes {other : Blocks → Build (List Node)}
    (solves : ∀ blocks, other blocks = blockNodes other source 0 blocks) :
    other = wholeNodes source := by
  funext blocks
  induction count : openings blocks using Nat.strong_induction_on generalizing blocks with
  | _ count ih =>
    subst count
    rw [solves, wholeNodes_eq]
    exact blockNodes_congr (fun inner fewer => ih _ fewer inner rfl) 0 blocks le_rfl

/-- The bound that a render sets is large enough. -/
theorem build_eq (source : Source) :
    build source = readInside (withLineBreaks source.parsed.rewritten) >>= wholeNodes source :=
  bind_congr_of_gives fun _ _ _ gives => nodesOf_eq_wholeNodes (openings_le_of_gives gives)

end Whole

/-- How blocks with divisions inside divisions are built. -/
structure Regroups (source : Source) (whole : Blocks → Build (List Node)) : Prop where
  /-- A render builds its blocks so. -/
  renders : build source = readInside (withLineBreaks source.parsed.rewritten) >>= whole
  /-- A bound on the depth of divisions does not matter if it is as large as the number of opening
  brackets in the markup. -/
  bounded : ∀ blocks fuel, openings blocks ≤ fuel → nodesOf source fuel blocks = whole blocks
  /-- Without a bound, nothing else satisfies the equation of building. -/
  unique : ∀ other : Blocks → Build (List Node),
    (∀ blocks, other blocks = blockNodes other source 0 blocks) ↔ other = whole
  /-- Each piece that the blocks are taken apart into becomes one node. -/
  nodes : ∀ blocks, whole blocks = (regroup 0 blocks).mapM (pieceNode whole source)
  /-- The pieces are all of the blocks, in order. -/
  pieces : ∀ blocks, (regroup 0 blocks).flatMap Piece.blocks = blocks
  /-- A division holds all of its blocks but the one that closes it, and that is closing tags and
  blanks. -/
  sound : ∀ blocks, ∀ piece ∈ regroup 0 blocks, piece.Sound
  /-- A search for the end of a division that ends with no division open ends at a block. -/
  search : ∀ depth, 0 < depth → ∀ blocks, (scan depth blocks).2 = 0 →
    (scan depth blocks).1 < blocks.length
  /-- The division ends there if that block is closing tags and blanks. -/
  closing : ∀ depth blocks distance, closingDistance? depth blocks = some distance ↔
    scan depth blocks = (distance, 0) ∧
      ∃ html, blocks[distance]? = some (.html html) ∧ EndTags html

/-- There is one way to build blocks with divisions inside divisions at any depth, and it builds
every block once and in its place. -/
theorem exists_regroups (source : Source) : ∃ whole, Regroups source whole := by
  refine ⟨wholeNodes source, ?_⟩
  constructor
  case renders => exact build_eq source
  case bounded => exact fun blocks fuel enough => nodesOf_eq_wholeNodes enough
  case unique =>
    refine fun other => ⟨eq_wholeNodes, ?_⟩
    rintro rfl
    exact wholeNodes_eq
  case nodes =>
    intro blocks
    rw [wholeNodes_eq]
    exact blockNodes_eq_mapM (wholeNodes source) source 0 blocks
  case pieces => exact fun blocks => flatMap_regroup 0 blocks
  case sound => exact fun blocks piece mem => sound_of_mem_regroup mem
  case search => exact fun depth begins blocks => scan_lt begins blocks
  case closing => exact fun depth blocks distance => closingDistance?_eq_some_iff

end Loremark.Tree
