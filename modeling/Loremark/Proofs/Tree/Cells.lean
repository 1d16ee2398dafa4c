import Loremark.Proofs.Tree.Regions

/-!
# Cutting plain text off a tree

The plain text of a tree is spelled by `cells`: characters that stand in its texts, its code and its
line breaks, gaps that set blocks off, and nodes without characters of their own, which cutting drops
(`leaf`) or stops at (`wall`). Cutting a number of characters off the tree goes over cells from the
beginning, and what it leaves is spelled by the other ones, up to blanks at the beginning
(`withoutMarker_spelled`).
-/

set_option autoImplicit false

namespace Loremark.Tree

/-! ## Blanks at the beginning -/

/-- Two texts are alike up to blanks at their beginnings. -/
def Alike (a b : Text) : Prop := Text.trimStart a = Text.trimStart b

section Alike

variable {a b c d : Text}

/-- A text is like itself. -/
theorem Alike.refl (a : Text) : Alike a a := rfl

/-- Likeness goes both ways. -/
theorem Alike.symm (alike : Alike a b) : Alike b a := Eq.symm alike

/-- Texts that are like the same one are alike. -/
theorem Alike.trans (alike : Alike a b) (more : Alike b c) : Alike a c := Eq.trans alike more

/-- Trimming goes on with the second text where the first one is blank. -/
theorem trimStart_append (a b : Text) : Text.trimStart (a ++ b) =
    if Text.trimStart a = [] then Text.trimStart b else Text.trimStart a ++ b := by
  unfold Text.trimStart
  rw [List.dropWhile_append]
  simp only [List.isEmpty_iff]

/-- Blanks at the beginning do not matter. -/
theorem alike_append_left (blank : Alike a []) (b : Text) : Alike (a ++ b) b := by
  have empty : Text.trimStart a = [] := blank
  unfold Alike
  rw [trimStart_append, if_pos empty]

/-- Whatever follows, texts stay alike. -/
theorem Alike.append_right (alike : Alike a b) (c : Text) : Alike (a ++ c) (b ++ c) := by
  unfold Alike at alike ⊢
  rw [trimStart_append, trimStart_append, alike]

/-- What follows blanks may differ by blanks itself. -/
theorem Alike.append (alike : Alike a b) (behind : Alike c d) (blank : Alike a []) :
    Alike (a ++ c) (b ++ d) := by
  have other : Alike b [] := alike.symm.trans blank
  exact (alike_append_left blank c).trans (behind.trans (alike_append_left other d).symm)

/-- Only blank texts are like the empty one. -/
theorem alike_nil_iff : Alike a [] ↔ Text.allBlank a = true := by
  unfold Alike Text.trimStart Text.allBlank
  rw [List.dropWhile_nil, List.dropWhile_eq_nil_iff, List.all_eq_true]

end Alike

/-! ## Cells -/

/-- Whether inline markup has no plain text: images, and markup of the author. -/
def InlineKind.isSilent : InlineKind → Bool
  | image .. | html _ => true
  | _ => false

namespace Node

/-- A part of the plain text of a tree, or of what stands between. -/
inductive Cell where
  | char (c : Char)
  /-- What sets a block off from the text in front of it. -/
  | gap
  /-- A node without plain text that is dropped on the way. -/
  | leaf (node : Node)
  /-- A node that cutting stops at: a slot, plain output, or a gated region. -/
  | wall (node : Node)

mutual

/-- The cells of a node. -/
def cells : Node → List Cell
  | text value => value.map .char
  | slot s => [.wall (.slot s)]
  | raw html => [.wall (.raw html)]
  | spoiler region children => [.wall (.spoiler region children)]
  | inline kind children =>
    match kind with
    | .softBreak | .hardBreak => [.char '\n']
    | .code content => content.map .char
    | kind =>
      (if kind.isSilent then [.leaf (.inline kind children)] else []) ++ cellsFrom false children
  | block _ children => cellsFrom false children

/-- The cells of nodes; `preceded` tells whether there is a node with a text in front. -/
def cellsFrom : (preceded : Bool) → List Node → List Cell
  | _, [] => []
  | preceded, node :: nodes =>
    (if node.isBlock && preceded && !(flattenNode node).isEmpty then [.gap] else []) ++
      (cells node ++ cellsFrom (preceded || !node.isRaw) nodes)

end

/-- Whether a node is a slot, plain output, an image or markup of the author. -/
def isLeaf : Node → Bool
  | slot _ | raw _ => true
  | inline kind _ => kind.isSilent
  | _ => false

/-- The slots, the plain output, the images and the markup of the author in a tree, in document
order. -/
def leaves (nodes : List Node) : List Node := (preorderAll nodes).filter isLeaf

/-- What a cell adds to the plain text. -/
def Cell.text : Cell → Text
  | char c => [c]
  | gap => ['\n', '\n']
  | leaf _ => []
  | wall node => flattenNode node

/-- The nodes of that kind in a cell. -/
def Cell.leaves : Cell → List Node
  | char _ | gap => []
  | leaf node => [node]
  | wall node => Node.leaves [node]

/-- The text that cells spell. -/
def textOf (cells : List Cell) : Text := cells.flatMap Cell.text

/-- The nodes of that kind in cells. -/
def leavesOf (cells : List Cell) : List Node := cells.flatMap Cell.leaves

section Cells

variable {nodes others children : List Node}

/-- Two rows of cells spell one behind the other. -/
theorem textOf_append (front back : List Cell) : textOf (front ++ back) =
    textOf front ++ textOf back := List.flatMap_append

/-- Two rows of cells have the nodes of both. -/
theorem leavesOf_append (front back : List Cell) : leavesOf (front ++ back) =
    leavesOf front ++ leavesOf back := List.flatMap_append

/-- A text is spelled by its characters. -/
theorem textOf_chars (value : Text) : textOf (value.map .char) = value := by
  induction value with
  | nil => rfl
  | cons c value ih =>
    show c :: textOf (value.map .char) = _
    rw [ih]

/-- Characters have no nodes in them. -/
theorem leavesOf_chars (value : Text) : leavesOf (value.map .char) = [] := by
  induction value with
  | nil => rfl
  | cons c value ih => exact ih

/-- The nodes without plain text of two lists follow each other. -/
theorem leaves_append (nodes others : List Node) :
    leaves (nodes ++ others) = leaves nodes ++ leaves others := by
  unfold leaves
  rw [preorderAll_append, List.filter_append]

/-- Those of the first node stand in front of those of the others. -/
theorem leaves_cons (node : Node) (nodes : List Node) :
    leaves (node :: nodes) = leaves [node] ++ leaves nodes := by
  rw [← List.singleton_append, leaves_append]

/-- A block has those of its children. -/
theorem leaves_block (kind : BlockKind) : leaves [.block kind children] = leaves children := by
  simp [leaves, preorderAll, preorder, isLeaf]

/-- A text has none of them. -/
theorem leaves_text (value : Text) : leaves [.text value] = [] := by
  simp [leaves, preorderAll, preorder, isLeaf]

/-- Inline markup with a text has those of its children. -/
theorem leaves_inline {kind : InlineKind} (sounds : kind.isSilent = false) :
    leaves [.inline kind children] = leaves children := by
  simp [leaves, preorderAll, preorder, isLeaf, sounds]

mutual

/-- The cells of a node spell its plain text. -/
theorem textOf_cells (node : Node) : textOf (cells node) = flattenNode node := by
  cases node with
  | text value => exact textOf_chars value
  | slot s => exact List.append_nil _
  | raw html => rfl
  | spoiler region children => exact List.append_nil _
  | inline kind children =>
    have below := textOf_cellsFrom false children
    cases kind with
    | softBreak => rfl
    | hardBreak => rfl
    | code content => exact textOf_chars content
    | _ => exact below
  | block kind children => exact textOf_cellsFrom false children

/-- The cells of nodes spell their plain text. -/
theorem textOf_cellsFrom (preceded : Bool) (nodes : List Node) :
    textOf (cellsFrom preceded nodes) = flattenFrom preceded nodes := by
  cases nodes with
  | nil => rfl
  | cons node nodes =>
    rw [cellsFrom, flattenFrom, textOf_append, textOf_append, textOf_cells node,
      textOf_cellsFrom _ nodes, List.append_assoc]
    congr 1
    split <;> rfl

end

mutual

/-- The cells of a node hold its nodes without plain text. -/
theorem leavesOf_cells (node : Node) (hollow : Hollow [node]) :
    leavesOf (cells node) = leaves [node] := by
  cases node with
  | text value => exact (leavesOf_chars value).trans (leaves_text value).symm
  | slot s => rfl
  | raw html => rfl
  | spoiler region children => exact List.append_nil _
  | inline kind children =>
    obtain ⟨own, inside⟩ := everywhere_inline.mp hollow
    have below := leavesOf_cellsFrom false children inside
    cases kind with
    | softBreak => rw [own rfl]; rfl
    | hardBreak => rw [own rfl]; rfl
    | code content => rw [own rfl]; exact leavesOf_chars content
    | html content => rw [own rfl]; rfl
    | image source title alt => rw [own rfl]; rfl
    | _ => exact below.trans (leaves_inline rfl).symm
  | block kind children =>
    rw [leaves_block]
    exact leavesOf_cellsFrom false children (everywhere_block.mp hollow).2

/-- The cells of nodes hold the nodes that plain text leaves out. -/
theorem leavesOf_cellsFrom (preceded : Bool) (nodes : List Node) (hollow : Hollow nodes) :
    leavesOf (cellsFrom preceded nodes) = leaves nodes := by
  cases nodes with
  | nil => rfl
  | cons node nodes =>
    obtain ⟨here, behind⟩ := everywhere_cons.mp hollow
    rw [cellsFrom, leavesOf_append, leavesOf_append, leavesOf_cells node here,
      leavesOf_cellsFrom _ nodes behind, leaves_cons node nodes]
    split <;> rfl

end

mutual

/-- Only images and markup of the author are dropped. -/
theorem silent_of_mem_cells {lost : Node} (node : Node) (mem : .leaf lost ∈ cells node) :
    ∃ kind below, lost = .inline kind below ∧ kind.isSilent = true := by
  cases node with
  | text value => simp [cells] at mem
  | slot s => simp [cells] at mem
  | raw html => simp [cells] at mem
  | spoiler region children => simp [cells] at mem
  | inline kind children =>
    have inside : .leaf lost ∈ cellsFrom false children →
        ∃ kind below, lost = .inline kind below ∧ kind.isSilent = true :=
      silent_of_mem_cellsFrom false children
    cases kind with
    | softBreak => simp [cells] at mem
    | hardBreak => simp [cells] at mem
    | code content => simp [cells] at mem
    | html content =>
      rcases List.mem_cons.mp mem with here | below
      · exact ⟨_, _, Cell.leaf.inj here, rfl⟩
      · exact inside below
    | image source title alt =>
      rcases List.mem_cons.mp mem with here | below
      · exact ⟨_, _, Cell.leaf.inj here, rfl⟩
      · exact inside below
    | _ => exact inside mem
  | block kind children => exact silent_of_mem_cellsFrom false children mem

/-- What cutting may drop are images and markup of the author. -/
theorem silent_of_mem_cellsFrom {lost : Node} (preceded : Bool) (nodes : List Node)
    (mem : .leaf lost ∈ cellsFrom preceded nodes) :
    ∃ kind below, lost = .inline kind below ∧ kind.isSilent = true := by
  cases nodes with
  | nil => cases mem
  | cons node nodes =>
    rw [cellsFrom] at mem
    rcases List.mem_append.mp mem with gap | rest
    · split at gap
      · cases List.mem_singleton.mp gap
      · cases gap
    · rcases List.mem_append.mp rest with here | behind
      · exact silent_of_mem_cells node here
      · exact silent_of_mem_cellsFrom _ nodes behind

end

end Cells

/-! ## Cutting cells -/

/-- Cells without their first `count` characters, with the number of characters that are still to be
cut. What stands between the characters goes with them, and nothing goes from a wall on. -/
def cutCells : (count : Nat) → List Cell → List Cell × Nat
  | 0, cells => (cells, 0)
  | count + 1, [] => ([], count + 1)
  | count + 1, .char _ :: cells => cutCells count cells
  | count + 1, .gap :: cells => cutCells (count + 1) cells
  | count + 1, .leaf _ :: cells => cutCells (count + 1) cells
  | _ + 1, .wall node :: cells => (.wall node :: cells, 0)

/-- The cells that are cut off. -/
def passed : (count : Nat) → List Cell → List Cell
  | 0, _ => []
  | _ + 1, [] => []
  | count + 1, .char c :: cells => .char c :: passed count cells
  | count + 1, .gap :: cells => .gap :: passed (count + 1) cells
  | count + 1, .leaf node :: cells => .leaf node :: passed (count + 1) cells
  | _ + 1, .wall _ :: _ => []

section Cutting

variable {count : Nat} {cells front back : List Cell}

/-- Cells are those that are cut off, with those that are left behind them. -/
theorem passed_append_cutCells (count : Nat) (cells : List Cell) :
    passed count cells ++ (cutCells count cells).1 = cells := by
  fun_induction cutCells count cells with
  | case1 cells => rw [passed, List.nil_append]
  | case2 count => rfl
  | case3 count c cells ih => rw [passed, List.cons_append, ih]
  | case4 count cells ih => rw [passed, List.cons_append, ih]
  | case5 count node cells ih => rw [passed, List.cons_append, ih]
  | case6 count node cells => rfl

/-- No wall is cut off. -/
theorem mem_of_mem_leavesOf_passed {lost : Node} (mem : lost ∈ leavesOf (passed count cells)) :
    .leaf lost ∈ cells := by
  fun_induction passed count cells with
  | case1 cells => cases mem
  | case2 count => cases mem
  | case3 count c cells ih => exact List.mem_cons_of_mem _ (ih mem)
  | case4 count cells ih => exact List.mem_cons_of_mem _ (ih mem)
  | case5 count node cells ih =>
    rcases List.mem_cons.mp mem with rfl | behind
    · exact List.mem_cons_self
    · exact List.mem_cons_of_mem _ (ih behind)
  | case6 count node cells => cases mem

/-- Cutting goes on behind cells as far as it has not been done with them. -/
theorem cutCells_append (count : Nat) (front back : List Cell) :
    cutCells count (front ++ back) =
      ((cutCells count front).1 ++ (cutCells (cutCells count front).2 back).1,
        (cutCells (cutCells count front).2 back).2) := by
  fun_induction cutCells count front with
  | case1 front => simp [cutCells]
  | case2 count => simp
  | case3 count c front ih => simpa [cutCells] using ih
  | case4 count front ih => simpa [cutCells] using ih
  | case5 count node front ih => simpa [cutCells] using ih
  | case6 count node front => simp [cutCells]

/-- No cells leave all characters to be cut. -/
theorem cutCells_nil (count : Nat) : cutCells count [] = ([], count) := by
  cases count <;> rfl

/-- Cutting characters drops the first ones. -/
theorem cutCells_chars (count : Nat) (value : Text) :
    cutCells count (value.map .char) =
      ((value.drop count).map .char, count - value.length) := by
  induction value generalizing count with
  | nil => cases count <;> rfl
  | cons c value ih =>
    cases count with
    | zero =>
      rw [Nat.zero_sub]
      rfl
    | succ count =>
      rw [List.map_cons, cutCells, ih, List.drop_succ_cons, List.length_cons,
        Nat.add_sub_add_right]

/-- Something is left to be cut only if nothing is left of the cells. -/
theorem cutCells_eq_nil (more : (cutCells count cells).2 ≠ 0) : (cutCells count cells).1 = [] := by
  fun_induction cutCells count cells with
  | case1 cells => exact absurd rfl more
  | case2 count => rfl
  | case3 count c cells ih => exact ih more
  | case4 count cells ih => exact ih more
  | case5 count node cells ih => exact ih more
  | case6 count node cells => exact absurd rfl more

/-- A gap in front goes with the characters behind it. -/
theorem cutCells_gap (some : count ≠ 0) (gap : Bool) (cells : List Cell) :
    cutCells count ((if gap then [.gap] else []) ++ cells) = cutCells count cells := by
  obtain ⟨count, rfl⟩ := Nat.exists_eq_succ_of_ne_zero some
  cases gap with
  | false => rfl
  | true => rw [if_pos rfl, List.singleton_append, cutCells]

end Cutting

/-! ## Plain text up to blanks -/

section Flatten

variable {nodes others children : List Node}

/-- The plain text of two lists of nodes is that of the one in front of that of the other. -/
theorem flattenFrom_append (preceded : Bool) (nodes others : List Node) :
    flattenFrom preceded (nodes ++ others) = flattenFrom preceded nodes ++
      flattenFrom (preceded || nodes.any fun node => !node.isRaw) others := by
  induction nodes generalizing preceded with
  | nil => simp [flattenFrom]
  | cons node nodes ih =>
    rw [List.cons_append, flattenFrom, flattenFrom, ih, List.any_cons, Bool.or_assoc]
    simp only [List.append_assoc]

/-- A gap in front of the first text does not matter. -/
theorem alike_cons (preceded other : Bool) (node : Node) (nodes : List Node)
    (behind : Alike (flattenFrom (preceded || !node.isRaw) nodes)
      (flattenFrom (other || !node.isRaw) nodes)) :
    Alike (flattenFrom preceded (node :: nodes)) (flattenFrom other (node :: nodes)) := by
  have gap (preceded : Bool) : Alike (flattenFrom preceded (node :: nodes))
      (flattenNode node ++ flattenFrom (preceded || !node.isRaw) nodes) := by
    rw [flattenFrom, List.append_assoc]
    refine alike_append_left (alike_nil_iff.mpr ?_) _
    split <;> rfl
  refine (gap preceded).trans (Alike.trans ?_ (gap other).symm)
  cases raw : node.isRaw with
  | false =>
    rw [Bool.not_false, Bool.or_true, Bool.or_true]
    exact .refl _
  | true =>
    have silent : flattenNode node = [] := by
      cases node <;> first | rfl | cases raw
    rw [raw] at behind
    rw [silent]
    exact behind

/-- What is in front of nodes changes the blanks at the beginning of their plain text only. -/
theorem alike_flattenFrom (preceded other : Bool) (nodes : List Node) :
    Alike (flattenFrom preceded nodes) (flattenFrom other nodes) := by
  induction nodes generalizing preceded other with
  | nil => exact .refl _
  | cons node nodes ih => exact alike_cons preceded other node nodes (ih _ _)

/-- The plain text of one node is that of a list of it alone, up to blanks. -/
theorem alike_singleton (preceded : Bool) (node : Node) :
    Alike (flattenFrom preceded [node]) (flattenNode node) := by
  refine (alike_flattenFrom preceded false [node]).trans ?_
  simp [flattenFrom, Alike]

/-- Plain output alone has no plain text. -/
theorem any_not_isRaw {preceded : Bool} (some : flattenFrom preceded nodes ≠ []) :
    (nodes.any fun node => !node.isRaw) = true := by
  induction nodes generalizing preceded with
  | nil => exact absurd rfl some
  | cons node nodes ih =>
    cases node with
    | raw html =>
      have behind : flattenFrom (preceded || !(raw html).isRaw) nodes ≠ [] := by
        simpa [flattenFrom, flattenNode, isBlock] using some
      exact ih behind
    | _ => rfl

end Flatten

/-! ## Cutting trees -/

/-- Nodes have the plain text that cells spell, up to blanks at its beginning, and the same nodes
without plain text stand in both. -/
structure SpelledBy (nodes : List Node) (cells : List Cell) : Prop where
  text : Alike (flatten nodes) (textOf cells)
  leaves : leaves nodes = leavesOf cells

section Spelled

variable {nodes others children : List Node} {cells front back : List Cell}

/-- No nodes are spelled by no cells. -/
theorem spelledBy_nil : SpelledBy [] [] := ⟨.refl _, rfl⟩

/-- Nodes are spelled by their cells, whatever is in front. -/
theorem spelledBy_cellsFrom (preceded : Bool) (hollow : Hollow nodes) :
    SpelledBy nodes (cellsFrom preceded nodes) where
  text := by
    rw [textOf_cellsFrom]
    exact alike_flattenFrom false preceded nodes
  leaves := (leavesOf_cellsFrom preceded nodes hollow).symm

/-- A node is spelled by its cells. -/
theorem spelledBy_cells {node : Node} (hollow : Hollow [node]) :
    SpelledBy [node] (Node.cells node) where
  text := by
    rw [textOf_cells]
    exact alike_singleton false node
  leaves := (leavesOf_cells node hollow).symm

/-- Nodes are put together if the first ones have no plain text but blanks. -/
theorem SpelledBy.append_blank (first : SpelledBy nodes front) (rest : SpelledBy others back)
    (blank : Alike (flatten nodes) []) : SpelledBy (nodes ++ others) (front ++ back) where
  text := by
    rw [flatten, flattenFrom_append, textOf_append]
    exact first.text.append ((alike_flattenFrom _ false others).trans rest.text) blank
  leaves := by rw [leaves_append, leavesOf_append, first.leaves, rest.leaves]

/-- Nodes are put together in front of ones that nothing was cut off. -/
theorem SpelledBy.append_whole (first : SpelledBy nodes front) (some : flatten nodes ≠ [])
    (hollow : Hollow others) : SpelledBy (nodes ++ others) (front ++ cellsFrom true others) where
  text := by
    rw [flatten, flattenFrom_append, any_not_isRaw some, Bool.or_true, textOf_append,
      textOf_cellsFrom]
    exact first.text.append_right _
  leaves := by rw [leaves_append, leavesOf_append, first.leaves, leavesOf_cellsFrom _ _ hollow]

/-- Nothing stays of a node that is used up. -/
theorem SpelledBy.wrap {node : Node} (spelled : SpelledBy nodes cells)
    (text : Alike (flatten [node]) (flatten nodes)) (same : Node.leaves [node] = Node.leaves nodes) :
    SpelledBy (if nodes.isEmpty then [] else [node]) cells := by
  cases nodes with
  | nil => exact spelled
  | cons first others => exact ⟨text.trans spelled.text, same.trans spelled.leaves⟩

/-- Cutting goes on in the other nodes with what is left to be cut. -/
theorem cutAll_cons {count : Nat} (some : count ≠ 0) (node : Node) (nodes : List Node) :
    cutAll count (node :: nodes) =
      ((cutNode count node).1 ++ (cutAll (cutNode count node).2 nodes).1,
        (cutAll (cutNode count node).2 nodes).2) := by
  rw [cutAll, if_neg (by simpa using some)]

/-- What is left of a run of characters. -/
theorem spelledBy_drop {count : Nat} {value : Text} {node : Node}
    (spelled : SpelledBy [node] ((value.drop count).map .char)) :
    SpelledBy (if value.length ≤ count then ([], count - value.length) else ([node], 0)).1
        ((value.drop count).map .char) ∧
      (if value.length ≤ count then ([], count - value.length) else ([node], 0)).2 =
        count - value.length := by
  split
  · rename_i short
    rw [List.drop_eq_nil_of_le short]
    exact ⟨spelledBy_nil, rfl⟩
  · rename_i long
    refine ⟨spelled, ?_⟩
    show 0 = _
    omega

mutual

/-- Cutting a node leaves what is spelled by its cells behind the cut. -/
theorem cutNode_spelled {count : Nat} (some : count ≠ 0) (node : Node) (hollow : Hollow [node]) :
    SpelledBy (cutNode count node).1 (cutCells count (Node.cells node)).1 ∧
      (cutNode count node).2 = (cutCells count (Node.cells node)).2 := by
  obtain ⟨below, rfl⟩ := Nat.exists_eq_succ_of_ne_zero some
  cases node with
  | text value =>
    rw [cutNode, Node.cells, cutCells_chars]
    have short : SpelledBy [.text (value.drop (below + 1))]
        ((value.drop (below + 1)).map .char) := spelledBy_cells (everywhere_text.mpr trivial)
    exact spelledBy_drop short
  | slot s => exact ⟨spelledBy_cells hollow, rfl⟩
  | raw html => exact ⟨spelledBy_cells hollow, rfl⟩
  | spoiler region children => exact ⟨spelledBy_cells hollow, rfl⟩
  | inline kind children =>
    obtain ⟨own, inside⟩ := everywhere_inline.mp hollow
    obtain ⟨spelled, left⟩ := cutAll_spelled (below + 1) false children inside
    cases kind with
    | softBreak =>
      show SpelledBy [] (cutCells below []).1 ∧ below = (cutCells below []).2
      rw [cutCells_nil]
      exact ⟨spelledBy_nil, rfl⟩
    | hardBreak =>
      show SpelledBy [] (cutCells below []).1 ∧ below = (cutCells below []).2
      rw [cutCells_nil]
      exact ⟨spelledBy_nil, rfl⟩
    | code content =>
      obtain rfl := own rfl
      rw [cutNode, Node.cells, cutCells_chars]
      have short : SpelledBy [.inline (.code (content.drop (below + 1))) []]
          ((content.drop (below + 1)).map .char) := spelledBy_cells (everywhere_inline.mpr ⟨fun _ => rfl, everywhere_nil⟩)
      exact spelledBy_drop short
    -- Images and markup of the author have no characters: they are dropped, and nothing is counted.
    | html content =>
      obtain rfl := own rfl
      exact ⟨spelledBy_nil, rfl⟩
    | image source title alt =>
      obtain rfl := own rfl
      exact ⟨spelledBy_nil, rfl⟩
    | _ => exact ⟨spelled.wrap (alike_singleton false _) (leaves_inline rfl), left⟩
  | block kind children =>
    obtain ⟨spelled, left⟩ := cutAll_spelled (below + 1) false children (everywhere_block.mp hollow).2
    rw [cutNode]
    exact ⟨spelled.wrap (alike_singleton _ _) (leaves_block kind), left⟩

/-- Cutting characters off nodes leaves what cutting them off their cells does. -/
theorem cutAll_spelled (count : Nat) (preceded : Bool) (nodes : List Node) (hollow : Hollow nodes) :
    SpelledBy (cutAll count nodes).1 (cutCells count (cellsFrom preceded nodes)).1 ∧
      (cutAll count nodes).2 = (cutCells count (cellsFrom preceded nodes)).2 := by
  by_cases some : count = 0
  · rw [some, cutAll_zero, cutCells]
    exact ⟨spelledBy_cellsFrom preceded hollow, rfl⟩
  cases nodes with
  | nil =>
    rw [cutAll, cellsFrom, cutCells_nil]
    exact ⟨spelledBy_nil, rfl⟩
  | cons node nodes =>
    obtain ⟨here, behind⟩ := everywhere_cons.mp hollow
    obtain ⟨first, left⟩ := cutNode_spelled some node here
    obtain ⟨rest, last⟩ :=
      cutAll_spelled (cutNode count node).2 (preceded || !node.isRaw) nodes behind
    rw [cutAll_cons some, cellsFrom, cutCells_gap some, cutCells_append, ← left]
    refine ⟨?_, last⟩
    by_cases blank : Alike (flatten (cutNode count node).1) []
    · exact first.append_blank rest blank
    · -- The first node keeps some text, so cutting has come to its end.
      have done : (cutNode count node).2 = 0 := by
        by_contra more
        rw [left] at more
        have used := first.text
        rw [cutCells_eq_nil more] at used
        exact blank used
      have whole : (preceded || !node.isRaw) = true := by
        cases node with
        | raw html => exact absurd (.refl _) blank
        | _ => exact Bool.or_true _
      rw [done, cutAll_zero, cutCells, whole]
      refine first.append_whole ?_ behind
      intro empty
      rw [empty] at blank
      exact blank (.refl _)

end

/-- Blanks and line breaks at the beginning have no part in it. -/
theorem trimLeading_spelled (nodes : List Node) (hollow : Hollow nodes) :
    Alike (flatten (trimLeading nodes)) (flatten nodes) ∧
      leaves (trimLeading nodes) = leaves nodes := by
  -- A first node that is blank and holds nothing may go.
  have drop {node : Node} {nodes : List Node} (blank : Alike (flattenNode node) [])
      (empty : leaves [node] = []) (ih : Alike (flatten (trimLeading nodes)) (flatten nodes) ∧
        leaves (trimLeading nodes) = leaves nodes) :
      Alike (flatten (trimLeading nodes)) (flatten (node :: nodes)) ∧
        leaves (trimLeading nodes) = leaves (node :: nodes) := by
    have nothing : Alike (flatten [node]) [] := (alike_singleton false node).trans blank
    have behind : Alike (flatten nodes) (flatten (node :: nodes)) := by
      rw [← List.singleton_append, flatten, flatten, flattenFrom_append]
      exact (alike_flattenFrom _ _ _).trans (alike_append_left nothing _).symm
    rw [leaves_cons, empty, List.nil_append]
    exact ⟨ih.1.trans behind, ih.2⟩
  fun_induction trimLeading nodes with
  | case1 value nodes blank ih =>
    exact drop blank (leaves_text value) (ih (everywhere_cons.mp hollow).2)
  | case2 value nodes more =>
    constructor
    · show Alike (Text.trimStart value ++ _) (value ++ _)
      refine Alike.append_right ?_ _
      exact List.dropWhile_idempotent _ value
    · rw [leaves_cons, leaves_text, leaves_cons (.text value), leaves_text]
  | case3 kind children nodes isBreak ih =>
    obtain ⟨here, behind⟩ := everywhere_cons.mp hollow
    have own := (everywhere_inline.mp here).1
    refine drop ?_ ?_ (ih behind)
    · cases kind <;> first | rfl | cases isBreak
    · cases kind <;> first | (rw [own rfl]; rfl) | cases isBreak
  | case4 kind children nodes other => exact ⟨.refl _, rfl⟩
  | case5 nodes => exact ⟨.refl _, rfl⟩

/-- A quote without its marker is spelled by what cutting the marker off its cells leaves. -/
theorem withoutMarker_spelled (count : Nat) (nodes : List Node) (hollow : Hollow nodes) :
    SpelledBy (withoutMarker count nodes) (cutCells count (cellsFrom false nodes)).1 := by
  obtain ⟨spelled, -⟩ := cutAll_spelled count false nodes hollow
  have cut : Hollow (cutAll count nodes).1 :=
    everywhere_cutAll cuttable_hollow count nodes hollow
  rw [withoutMarker]
  split
  · rename_i kind children rest same
    rw [same] at spelled cut
    obtain ⟨first, -⟩ := everywhere_cons.mp cut
    obtain ⟨text, kept⟩ := trimLeading_spelled children (everywhere_block.mp first).2
    split
    · rename_i empty
      rw [empty] at text kept
      have blank : Alike (flatten children) [] := text.symm
      constructor
      · refine Alike.trans ?_ spelled.text
        exact (alike_flattenFrom false true rest).trans (alike_append_left blank _).symm
      · rw [← spelled.leaves, leaves_cons (.block kind children), leaves_block, ← kept]
        rfl
    · constructor
      · refine Alike.trans ?_ spelled.text
        exact text.append_right _
      · rw [← spelled.leaves, leaves_cons, leaves_block, kept, leaves_cons (.block kind children),
          leaves_block]
  · exact spelled

/-- The cells that are cut off and what is left hold what the nodes held. -/
theorem leaves_eq_passed_append (count : Nat) (hollow : Hollow nodes) : leaves nodes =
    leavesOf (passed count (cellsFrom false nodes)) ++ leaves (withoutMarker count nodes) := by
  rw [(withoutMarker_spelled count nodes hollow).leaves, ← leavesOf_append,
    passed_append_cutCells, leavesOf_cellsFrom false nodes hollow]

/-- They spell the plain text of the nodes. -/
theorem flatten_eq_passed_append (count : Nat) (nodes : List Node) : flatten nodes =
    textOf (passed count (cellsFrom false nodes)) ++
      textOf (cutCells count (cellsFrom false nodes)).1 := by
  rw [← textOf_append, passed_append_cutCells, textOf_cellsFrom]
  rfl

end Spelled

end Node

end Loremark.Tree
