import Loremark.Proofs.Tree.Cells

/-!
# Cutting characters off running text

Among texts and inline markup nothing sets nodes off from each other, so the plain text of such
nodes is put together from theirs without gaps (`flatten_append`). Cutting a number of characters
off the nodes is then the same as cutting them off the plain text, whatever is nested in what, and
what is still to be cut is what the text was too short for (`flatten_cutAll`).
-/

set_option autoImplicit false

namespace Loremark.Tree

namespace Node

/-- A text, or inline markup of any kind. -/
def IsWording : Node → Prop
  | text _ | inline .. => True
  | _ => False

section Wording

variable {node : Node} {nodes others : List Node}

/-- Running text is no block. -/
theorem isBlock_of_wording (wording : Everywhere IsWording [node]) : node.isBlock = false := by
  cases node with
  | spoiler region children => exact absurd (everywhere_spoiler.mp wording).1 id
  | block kind children => exact absurd (everywhere_block.mp wording).1 id
  | _ => rfl

/-- Cutting texts and inline markup leaves texts and inline markup. -/
theorem cuttable_isWording : Cuttable IsWording where
  text _ _ := trivial
  code _ _ := trivial
  inline _ _ := trivial
  block own := own

/-- Nothing is set off from what stands in front of it. -/
theorem flattenFrom_wording (preceded : Bool) (wording : Everywhere IsWording nodes) :
    flattenFrom preceded nodes = nodes.flatMap flattenNode := by
  induction nodes generalizing preceded with
  | nil => rfl
  | cons node nodes ih =>
    obtain ⟨here, behind⟩ := everywhere_cons.mp wording
    have joined : node.isBlock = false := isBlock_of_wording here
    simp only [flattenFrom, joined, Bool.false_and, Bool.false_eq_true, if_false,
      List.nil_append, List.flatMap_cons]
    rw [ih _ behind]

/-- The plain text of running text is put together without gaps. -/
theorem flatten_append (wording : Everywhere IsWording others) :
    flatten (nodes ++ others) = flatten nodes ++ flatten others := by
  have joined (preceded : Bool) : flattenFrom preceded others = flatten others :=
    (flattenFrom_wording preceded wording).trans (flattenFrom_wording false wording).symm
  rw [flatten, flattenFrom_append, joined]
  rfl

/-- The plain text of one node is its own. -/
theorem flatten_singleton (node : Node) : flatten [node] = flattenNode node := by
  simp [flatten, flattenFrom]

end Wording

/-! ## What cutting leaves -/

/-- Some nodes, and a number of characters that are still to be cut, are what is left when `count`
characters are cut off a text. -/
structure Drops (count : Nat) (text : Text) (left : List Node × Nat) : Prop where
  kept : flatten left.1 = text.drop count
  missing : left.2 = count - text.length

section Drops

variable {count : Nat} {node : Node} {nodes others children : List Node} {value : Text}

/-- A run of characters is used up, or its end is kept in a node. -/
theorem drops_run (ending : flatten [node] = value.drop count) :
    Drops count value
      (if value.length ≤ count then ([], count - value.length) else ([node], 0)) := by
  split
  · rename_i short
    exact ⟨(List.drop_eq_nil_of_le short).symm, rfl⟩
  · rename_i long
    refine ⟨ending, ?_⟩
    show 0 = count - value.length
    omega

/-- A line break is one character. -/
theorem drops_break (some : count ≠ 0) : Drops count ['\n'] ([], count - 1) where
  kept := by
    have short : ['\n'].length ≤ count := Nat.one_le_iff_ne_zero.mpr some
    rw [List.drop_eq_nil_of_le short]
    rfl
  missing := rfl

/-- A node around others goes if nothing is left of them. -/
theorem Drops.wrap {left : Nat} (drops : Drops count value (children, left))
    (same : flatten [node] = flatten children) :
    Drops count value (if children.isEmpty then [] else [node], left) where
  kept := by
    rw [← drops.kept]
    cases children with
    | nil => rfl
    | cons first rest => exact same
  missing := drops.missing

/-- Cutting goes on in what follows with the characters that are still to be cut. -/
theorem Drops.append {left last : Nat} {front back : Text}
    (first : Drops count front (nodes, left)) (rest : Drops left back (others, last))
    (wording : Everywhere IsWording others) :
    Drops count (front ++ back) (nodes ++ others, last) := by
  have some : left = count - front.length := first.missing
  subst some
  constructor
  · rw [flatten_append wording, first.kept, rest.kept, List.drop_append]
  · rw [rest.missing, List.length_append, Nat.sub_add_eq]

end Drops

mutual

/-- Cutting characters off a node cuts them off its plain text. -/
theorem drops_cutNode {count : Nat} (some : count ≠ 0) (node : Node)
    (wording : Everywhere IsWording [node]) :
    Drops count (flattenNode node) (cutNode count node) := by
  cases node with
  | text value =>
    rw [cutNode]
    exact drops_run (flatten_singleton _)
  | inline kind children =>
    have below := drops_cutAll count children (everywhere_inline.mp wording).2
    cases kind with
    | softBreak => exact drops_break some
    | hardBreak => exact drops_break some
    | code content =>
      rw [cutNode]
      exact drops_run (flatten_singleton _)
    | _ => exact below.wrap (flatten_singleton _)
  | _ => exact absurd (wording _ List.mem_cons_self) id

/-- Cutting nodes cuts their plain text. -/
theorem drops_cutAll (count : Nat) (nodes : List Node) (wording : Everywhere IsWording nodes) :
    Drops count (flatten nodes) (cutAll count nodes) := by
  by_cases some : count = 0
  · rw [some, cutAll_zero]
    exact ⟨rfl, (Nat.zero_sub _).symm⟩
  cases nodes with
  | nil => exact ⟨List.drop_nil.symm, rfl⟩
  | cons node nodes =>
    obtain ⟨here, behind⟩ := everywhere_cons.mp wording
    -- What the first node was too short for is cut off the other ones.
    have first := drops_cutNode some node here
    have rest := drops_cutAll (cutNode count node).2 nodes behind
    rw [cutAll_cons some, ← List.singleton_append, flatten_append behind, flatten_singleton]
    exact first.append rest (everywhere_cutAll cuttable_isWording _ nodes behind)

end

/-- Cutting a number of characters off texts and inline markup, however nested, leaves texts and
inline markup whose plain text is the old one without its first so many characters, and as many
characters still to be cut as the old one was too short. -/
theorem flatten_cutAll {nodes : List Node} (wording : Everywhere IsWording nodes) (count : Nat) :
    Everywhere IsWording (cutAll count nodes).1 ∧
      flatten (cutAll count nodes).1 = (flatten nodes).drop count ∧
      (cutAll count nodes).2 = count - (flatten nodes).length := by
  have drops := drops_cutAll count nodes wording
  exact ⟨everywhere_cutAll cuttable_isWording count nodes wording, drops.kept, drops.missing⟩

/-- Emphasis around code, a line break, an image, and a link around bold text: ten characters. -/
def nestedMarkup : List Node :=
  [.inline .emphasis [.text "ab".toList, .inline (.code "cd".toList) []], .inline .softBreak [],
    .inline (.image "map.png".toList [] "map".toList) [],
    .inline (.link "/arcs".toList [])
      [.text "ef".toList, .inline .strong [.text "gh".toList, .inline .hardBreak []]]]

/-- A cut that ends within the bold text, and one that is longer than the text. -/
theorem flatten_cutAll_nestedMarkup : Everywhere IsWording nestedMarkup ∧
    flatten (cutAll 8 nestedMarkup).1 = "h\n".toList ∧ (cutAll 8 nestedMarkup).2 = 0 ∧
    flatten (cutAll 13 nestedMarkup).1 = [] ∧ (cutAll 13 nestedMarkup).2 = 3 := by
  have wording : Everywhere IsWording nestedMarkup := by
    simp [nestedMarkup, Everywhere, preorderAll, preorder, IsWording]
  obtain ⟨-, short, none⟩ := flatten_cutAll wording 8
  obtain ⟨-, long, missing⟩ := flatten_cutAll wording 13
  exact ⟨wording, short, none, long, missing⟩

end Node

end Loremark.Tree
