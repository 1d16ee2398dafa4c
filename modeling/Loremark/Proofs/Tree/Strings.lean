import Loremark.Proofs.Embed.Clearing
import Loremark.Tree.Marker

/-!
# The strings of a tree

`strings` are the strings that a node holds itself, and `TokenFree` says that no token occurs in
those of a tree: in its running text and plain output (`InlineFree`), in the frames of its blocks
(`FramesFree`) and in the texts of its gated regions (`InnersFree`). Cutting a marker off a quote
shortens texts from their beginning and drops nodes, so it keeps what is true of every node and
does not depend on that (`everywhere_withoutMarker`). What it never takes away are gated regions: it
stops in front of them (`region_mem_withoutMarker`). `spoken` lists the nodes that plain text is put
together from, and their plain texts stand in it (`infix_flatten`).
-/

set_option autoImplicit false

namespace Loremark.Tree

/-- The strings of a kind of inline markup. -/
def InlineKind.strings : InlineKind → List Text
  | .code content => [content]
  | .html content => [content]
  | .link href title => [href, title]
  | .image source title alt => [source, title, alt]
  | _ => []

/-- The strings of a kind of block. -/
def BlockKind.strings : BlockKind → List Text
  | .quote className => [className]
  | .container className title => [className, title]
  | _ => []

namespace Node

/-- The strings that a node holds itself. -/
def strings : Node → List Text
  | text value => [value]
  | slot _ => []
  | raw html => [html]
  | spoiler region _ => [region.inner]
  | inline kind _ => kind.strings
  | block kind _ => kind.strings

/-! ## Properties of every node -/

/-- Every node of some trees has a property. -/
def Everywhere (P : Node → Prop) (nodes : List Node) : Prop := ∀ node ∈ preorderAll nodes, P node

section Everywhere

variable {P : Node → Prop} {nodes others children : List Node}

/-- The listings of two lists of nodes follow each other. -/
theorem preorderAll_append (nodes others : List Node) :
    preorderAll (nodes ++ others) = preorderAll nodes ++ preorderAll others := by
  induction nodes with
  | nil => rfl
  | cons node nodes ih => rw [List.cons_append, preorderAll, ih, preorderAll, List.append_assoc]

/-- Everything holds everywhere in no nodes. -/
theorem everywhere_nil : Everywhere P [] := by
  intro node mem
  cases mem

/-- A property holds everywhere in two lists of nodes if it does in each of them. -/
theorem everywhere_append :
    Everywhere P (nodes ++ others) ↔ Everywhere P nodes ∧ Everywhere P others := by
  simp only [Everywhere, preorderAll_append, List.mem_append, or_imp, forall_and]

/-- A property holds everywhere in nodes if it does in the first one and in the others. -/
theorem everywhere_cons {node : Node} :
    Everywhere P (node :: nodes) ↔ Everywhere P [node] ∧ Everywhere P nodes := by
  rw [← List.singleton_append, everywhere_append]

/-- A property holds everywhere in a text if the text has it. -/
theorem everywhere_text {value : Text} : Everywhere P [.text value] ↔ P (.text value) := by
  simp [Everywhere, preorderAll, preorder]

/-- A property holds everywhere in a slot if the slot has it. -/
theorem everywhere_slot {s : Slot} : Everywhere P [.slot s] ↔ P (.slot s) := by
  simp [Everywhere, preorderAll, preorder]

/-- A property holds everywhere in plain output if the output has it. -/
theorem everywhere_raw {html : Text} : Everywhere P [.raw html] ↔ P (.raw html) := by
  simp [Everywhere, preorderAll, preorder]

/-- A property holds everywhere in a gated region if the region has it and all below it. -/
theorem everywhere_spoiler {region : Spoiler.Region} :
    Everywhere P [.spoiler region children] ↔
      P (.spoiler region children) ∧ Everywhere P children := by
  simp [Everywhere, preorderAll, preorder]

/-- A property holds everywhere in inline markup if the markup has it and all below it. -/
theorem everywhere_inline {kind : InlineKind} :
    Everywhere P [.inline kind children] ↔
      P (.inline kind children) ∧ Everywhere P children := by
  simp [Everywhere, preorderAll, preorder]

/-- A property holds everywhere in a block if the block has it and all below it. -/
theorem everywhere_block {kind : BlockKind} :
    Everywhere P [.block kind children] ↔
      P (.block kind children) ∧ Everywhere P children := by
  simp [Everywhere, preorderAll, preorder]

end Everywhere

/-! ## Cutting -/

/-- Cutting nothing leaves the nodes as they are. -/
theorem cutAll_zero (nodes : List Node) : cutAll 0 nodes = (nodes, 0) := by
  cases nodes with
  | nil => rfl
  | cons node nodes =>
    rw [cutAll]
    rfl

/-- Properties that a node keeps when its text is shortened from the beginning and when it gets
other children; a piece of running text without children gets none. -/
structure Cuttable (P : Node → Prop) : Prop where
  text : ∀ {value rest : Text}, rest <:+ value → P (.text value) → P (.text rest)
  code : ∀ {content rest : Text} {children : List Node}, rest <:+ content →
    P (.inline (.code content) children) → P (.inline (.code rest) children)
  inline : ∀ {kind : InlineKind} {children others : List Node}, (children = [] → others = []) →
    P (.inline kind children) → P (.inline kind others)
  block : ∀ {kind : BlockKind} {children others : List Node},
    P (.block kind children) → P (.block kind others)

section Cutting

variable {P : Node → Prop}

mutual

/-- Cutting a node keeps what can be cut everywhere. -/
theorem everywhere_cutNode (cuttable : Cuttable P) (count : Nat) (node : Node)
    (all : Everywhere P [node]) : Everywhere P (cutNode count node).1 := by
  cases node with
  | text value =>
    rw [cutNode]
    split
    · exact everywhere_nil
    · rw [everywhere_text] at all ⊢
      exact cuttable.text (List.drop_suffix _ _) all
  | slot s => exact all
  | raw html => exact all
  | spoiler region children => exact all
  | inline kind children =>
    obtain ⟨own, below⟩ := everywhere_inline.mp all
    have shorter := everywhere_cutAll cuttable count children below
    cases kind with
    | softBreak => exact everywhere_nil
    | hardBreak => exact everywhere_nil
    | code content =>
      rw [cutNode]
      split
      · exact everywhere_nil
      · exact everywhere_inline.mpr ⟨cuttable.code (List.drop_suffix _ _) own, below⟩
    | _ =>
      simp only [cutNode]
      split
      · exact everywhere_nil
      · refine everywhere_inline.mpr ⟨cuttable.inline ?_ own, shorter⟩
        intro empty
        rw [empty, cutAll]
  | block kind children =>
    obtain ⟨own, below⟩ := everywhere_block.mp all
    rw [cutNode]
    dsimp only
    split
    · exact everywhere_nil
    · exact everywhere_block.mpr
        ⟨cuttable.block own, everywhere_cutAll cuttable count children below⟩

/-- Cutting nodes keeps what can be cut everywhere. -/
theorem everywhere_cutAll (cuttable : Cuttable P) (count : Nat) (nodes : List Node)
    (all : Everywhere P nodes) : Everywhere P (cutAll count nodes).1 := by
  cases nodes with
  | nil => exact everywhere_nil
  | cons node nodes =>
    rw [cutAll]
    split
    · exact all
    · obtain ⟨here, behind⟩ := everywhere_cons.mp all
      exact everywhere_append.mpr ⟨everywhere_cutNode cuttable count node here,
        everywhere_cutAll cuttable _ nodes behind⟩

end

/-- Trimming nodes keeps what can be cut everywhere. -/
theorem everywhere_trimLeading (cuttable : Cuttable P) (nodes : List Node)
    (all : Everywhere P nodes) : Everywhere P (trimLeading nodes) := by
  fun_induction trimLeading nodes with
  | case1 value nodes blank ih => exact ih (everywhere_cons.mp all).2
  | case2 value nodes more =>
    obtain ⟨here, behind⟩ := everywhere_cons.mp all
    rw [everywhere_text] at here
    refine everywhere_cons.mpr ⟨everywhere_text.mpr ?_, behind⟩
    exact cuttable.text (List.dropWhile_suffix _) here
  | case3 kind children nodes isBreak ih => exact ih (everywhere_cons.mp all).2
  | case4 kind children nodes other => exact all
  | case5 nodes => exact all

/-- Cutting a marker off a quote keeps what is true of every node. -/
theorem everywhere_withoutMarker (cuttable : Cuttable P) (count : Nat) (nodes : List Node)
    (all : Everywhere P nodes) : Everywhere P (withoutMarker count nodes) := by
  have cut := everywhere_cutAll cuttable count nodes all
  rw [withoutMarker]
  split
  · rename_i kind children rest same
    rw [same] at cut
    obtain ⟨first, behind⟩ := everywhere_cons.mp cut
    obtain ⟨own, below⟩ := everywhere_block.mp first
    split
    · exact behind
    · exact everywhere_cons.mpr ⟨everywhere_block.mpr
        ⟨cuttable.block own, everywhere_trimLeading cuttable children below⟩, behind⟩
  · exact cut

end Cutting

/-! ## Trees without tokens -/

/-- No token of a document occurs in a tree. -/
def TokenFree (p : Embed.Parsed) (nodes : List Node) : Prop :=
  Everywhere (fun node => ∀ text ∈ node.strings, p.TokenFree text) nodes

/-- No token of a document occurs in the running text and the plain output of a tree. -/
def InlineFree (p : Embed.Parsed) (nodes : List Node) : Prop :=
  Everywhere (fun node => node.isBlock = false → ∀ text ∈ node.strings, p.TokenFree text) nodes

/-- No token of a document occurs in the classes and titles of the blocks of a tree. -/
def FramesFree (p : Embed.Parsed) (nodes : List Node) : Prop :=
  Everywhere (fun node => ∀ kind children, node = .block kind children →
    ∀ text ∈ kind.strings, p.TokenFree text) nodes

/-- No token of a document occurs in the texts of the gated regions of a tree. -/
def InnersFree (p : Embed.Parsed) (nodes : List Node) : Prop :=
  Everywhere (fun node => ∀ region children, node = .spoiler region children →
    p.TokenFree region.inner) nodes

section TokenFree

variable {p : Embed.Parsed} {nodes children : List Node}

/-- The three places where a token can be. -/
theorem tokenFree_iff :
    TokenFree p nodes ↔ InlineFree p nodes ∧ FramesFree p nodes ∧ InnersFree p nodes := by
  simp only [TokenFree, InlineFree, FramesFree, InnersFree, Everywhere, ← forall_and]
  refine forall_congr' fun node => forall_congr' fun _ => ?_
  cases node <;> simp [strings, isBlock]

/-- Having no tokens in running text is kept by cutting. -/
theorem cuttable_inlineFree :
    Cuttable fun node => node.isBlock = false → ∀ text ∈ node.strings, p.TokenFree text where
  text shorter free _ := by
    simp only [strings, List.mem_singleton, forall_eq] at free ⊢
    exact (free rfl).mono shorter.isInfix
  code shorter free _ := by
    simp only [strings, InlineKind.strings, List.mem_singleton, forall_eq] at free ⊢
    exact (free rfl).mono shorter.isInfix
  inline _ free := free
  block _ other := nomatch other

/-- Having no tokens in frames is kept by cutting. -/
theorem cuttable_framesFree :
    Cuttable fun node => ∀ kind children, node = .block kind children →
      ∀ text ∈ kind.strings, p.TokenFree text where
  text _ _ _ _ other := nomatch other
  code _ _ _ _ other := nomatch other
  inline _ _ _ _ other := nomatch other
  block free kind children same := by
    obtain ⟨rfl, rfl⟩ := Node.block.inj same
    exact free _ _ rfl

/-- No nodes hold no tokens. -/
theorem inlineFree_nil : InlineFree p [] := everywhere_nil

/-- Two lists of nodes hold no tokens if neither of them does. -/
theorem inlineFree_append {others : List Node} :
    InlineFree p (nodes ++ others) ↔ InlineFree p nodes ∧ InlineFree p others :=
  everywhere_append

/-- Nodes hold no tokens if the first one does not and the others do not. -/
theorem inlineFree_cons {node : Node} :
    InlineFree p (node :: nodes) ↔ InlineFree p [node] ∧ InlineFree p nodes :=
  everywhere_cons

/-- A text holds no tokens if none occurs in it. -/
theorem inlineFree_text {value : Text} : InlineFree p [.text value] ↔ p.TokenFree value := by
  simp [InlineFree, everywhere_text, strings, isBlock]

/-- A slot holds no tokens. -/
theorem inlineFree_slot {s : Slot} : InlineFree p [.slot s] := by
  simp [InlineFree, everywhere_slot, strings]

/-- Plain output holds no tokens if none occurs in it. -/
theorem inlineFree_raw {html : Text} : InlineFree p [.raw html] ↔ p.TokenFree html := by
  simp [InlineFree, everywhere_raw, strings, isBlock]

/-- A gated region holds the tokens below it. -/
theorem inlineFree_spoiler {region : Spoiler.Region} :
    InlineFree p [.spoiler region children] ↔ InlineFree p children := by
  simp [InlineFree, everywhere_spoiler, isBlock]

/-- Inline markup holds no tokens if its own strings do not and nothing below it does. -/
theorem inlineFree_inline {kind : InlineKind} :
    InlineFree p [.inline kind children] ↔
      (∀ text ∈ kind.strings, p.TokenFree text) ∧ InlineFree p children := by
  simp [InlineFree, everywhere_inline, strings, isBlock]

/-- A block holds the tokens below it. -/
theorem inlineFree_block {kind : BlockKind} :
    InlineFree p [.block kind children] ↔ InlineFree p children := by
  simp [InlineFree, everywhere_block, isBlock]

/-- A text has no frames. -/
theorem framesFree_text {value : Text} : FramesFree p [.text value] := by
  simp [FramesFree, everywhere_text]

/-- A slot has no frames. -/
theorem framesFree_slot {s : Slot} : FramesFree p [.slot s] := by
  simp [FramesFree, everywhere_slot]

/-- Plain output has no frames. -/
theorem framesFree_raw {html : Text} : FramesFree p [.raw html] := by
  simp [FramesFree, everywhere_raw]

/-- A gated region has the frames below it. -/
theorem framesFree_spoiler {region : Spoiler.Region} :
    FramesFree p [.spoiler region children] ↔ FramesFree p children := by
  simp [FramesFree, everywhere_spoiler]

/-- Inline markup has the frames below it. -/
theorem framesFree_inline {kind : InlineKind} :
    FramesFree p [.inline kind children] ↔ FramesFree p children := by
  simp [FramesFree, everywhere_inline]

/-- A block has its own frame and those below it. -/
theorem framesFree_block {kind : BlockKind} :
    FramesFree p [.block kind children] ↔
      (∀ text ∈ kind.strings, p.TokenFree text) ∧ FramesFree p children := by
  simp only [FramesFree, everywhere_block, Node.block.injEq]
  constructor
  · exact fun free => ⟨free.1 kind children ⟨rfl, rfl⟩, free.2⟩
  · rintro ⟨own, below⟩
    refine ⟨?_, below⟩
    rintro _ _ ⟨rfl, rfl⟩
    exact own

end TokenFree

/-! ## Plain text -/

mutual

/-- A node and the nodes below it that its plain text is put together from. -/
def spoken : Node → List Node
  | text value => [text value]
  | slot s => [slot s]
  | raw html => [raw html]
  | spoiler region children => spoiler region children :: spokenAll children
  | inline kind children =>
    inline kind children ::
      match kind with
      | .softBreak | .hardBreak | .code _ => []
      | _ => spokenAll children
  | block kind children => block kind children :: spokenAll children

/-- The nodes that the plain text of nodes is put together from, in document order. -/
def spokenAll : List Node → List Node
  | [] => []
  | node :: nodes => spoken node ++ spokenAll nodes

end

/-- The plain text of two lists of nodes is put together from the nodes of both. -/
theorem spokenAll_append (nodes others : List Node) :
    spokenAll (nodes ++ others) = spokenAll nodes ++ spokenAll others := by
  induction nodes with
  | nil => rfl
  | cons node nodes ih => rw [List.cons_append, spokenAll, ih, spokenAll, List.append_assoc]

mutual

/-- The plain text of a node is put together from nodes in its listing. -/
theorem spoken_subset (node : Node) : spoken node ⊆ preorder node := by
  cases node with
  | text value => exact List.Subset.refl _
  | slot s => exact List.Subset.refl _
  | raw html => exact List.Subset.refl _
  | spoiler region children => exact List.cons_subset_cons _ (spokenAll_subset children)
  | inline kind children =>
    have below := spokenAll_subset children
    cases kind with
    | softBreak => exact List.cons_subset_cons _ (List.nil_subset _)
    | hardBreak => exact List.cons_subset_cons _ (List.nil_subset _)
    | code content => exact List.cons_subset_cons _ (List.nil_subset _)
    | _ => exact List.cons_subset_cons _ below
  | block kind children => exact List.cons_subset_cons _ (spokenAll_subset children)

/-- The plain text of nodes is put together from nodes in their listing. -/
theorem spokenAll_subset (nodes : List Node) : spokenAll nodes ⊆ preorderAll nodes := by
  cases nodes with
  | nil => exact List.Subset.refl _
  | cons node nodes =>
    rw [spokenAll, preorderAll]
    exact List.append_subset.mpr
      ⟨List.subset_append_of_subset_left _ (spoken_subset node),
        List.subset_append_of_subset_right _ (spokenAll_subset nodes)⟩

end

mutual

/-- What plain text is put together from is a part of it. -/
theorem infix_flattenNode {inner : Node} (node : Node) (mem : inner ∈ spoken node) :
    flattenNode inner <:+: flattenNode node := by
  -- The node itself, or one below it.
  have here (same : inner = node) : flattenNode inner <:+: flattenNode node := by
    rw [same]
  cases node with
  | text value => exact here (List.mem_singleton.mp mem)
  | slot s => exact here (List.mem_singleton.mp mem)
  | raw html => exact here (List.mem_singleton.mp mem)
  | spoiler region children =>
    rcases List.mem_cons.mp mem with same | below
    · exact here same
    · exact infix_flatten false children below
  | inline kind children =>
    rcases List.mem_cons.mp mem with same | below
    · exact here same
    · have inside : inner ∈ spokenAll children →
          flattenNode inner <:+: flattenFrom false children :=
        infix_flatten false children
      cases kind with
      | softBreak => cases below
      | hardBreak => cases below
      | code content => cases below
      | _ => exact inside below
  | block kind children =>
    rcases List.mem_cons.mp mem with same | below
    · exact here same
    · exact infix_flatten false children below

/-- The plain texts of the nodes that a plain text is put together from stand in it. -/
theorem infix_flatten {inner : Node} (preceded : Bool) (nodes : List Node)
    (mem : inner ∈ spokenAll nodes) : flattenNode inner <:+: flattenFrom preceded nodes := by
  cases nodes with
  | nil => cases mem
  | cons node nodes =>
    rw [spokenAll] at mem
    rw [flattenFrom]
    rcases List.mem_append.mp mem with here | behind
    · have inside := infix_flattenNode node here
      exact List.infix_append_of_infix_left (List.infix_append_of_infix_right inside)
    · exact List.infix_append_of_infix_right (infix_flatten _ nodes behind)

end

section Regions

variable {region : Spoiler.Region} {content : List Node}

mutual

/-- Cutting a node keeps the regions that its plain text is put together from. -/
theorem region_mem_cutNode (count : Nat) (node : Node)
    (mem : .spoiler region content ∈ spoken node) :
    .spoiler region content ∈ spokenAll (cutNode count node).1 := by
  cases node with
  | text value => simp [spoken] at mem
  | slot s => simp [spoken] at mem
  | raw html => simp [spoken] at mem
  | spoiler other children => simpa [cutNode, spokenAll] using mem
  | inline kind children =>
    have below : .spoiler region content ∈ spokenAll children →
        .spoiler region content ∈ spokenAll (cutAll count children).1 :=
      region_mem_cutAll count children
    cases kind with
    | softBreak => simp [spoken] at mem
    | hardBreak => simp [spoken] at mem
    | code value => simp [spoken] at mem
    | _ =>
      have kept := below (by simpa [spoken] using mem)
      simp only [cutNode]
      split
      · rename_i empty
        rw [List.isEmpty_iff.mp empty] at kept
        exact kept
      · simpa [spokenAll, spoken] using kept
  | block kind children =>
    have kept : .spoiler region content ∈ spokenAll (cutAll count children).1 :=
      region_mem_cutAll count children (by simpa [spoken] using mem)
    simp only [cutNode]
    split
    · rename_i empty
      rw [List.isEmpty_iff.mp empty] at kept
      exact kept
    · simpa [spokenAll, spoken] using kept

/-- Cutting nodes keeps the regions that their plain text is put together from. -/
theorem region_mem_cutAll (count : Nat) (nodes : List Node)
    (mem : .spoiler region content ∈ spokenAll nodes) :
    .spoiler region content ∈ spokenAll (cutAll count nodes).1 := by
  cases nodes with
  | nil => exact mem
  | cons node nodes =>
    rw [cutAll]
    split
    · exact mem
    · rw [spokenAll] at mem
      dsimp only
      rw [spokenAll_append, List.mem_append]
      rcases List.mem_append.mp mem with here | behind
      · exact .inl (region_mem_cutNode count node here)
      · exact .inr (region_mem_cutAll _ nodes behind)

end

/-- Trimming nodes keeps the regions that their plain text is put together from. -/
theorem region_mem_trimLeading (nodes : List Node)
    (mem : .spoiler region content ∈ spokenAll nodes) :
    .spoiler region content ∈ spokenAll (trimLeading nodes) := by
  fun_induction trimLeading nodes with
  | case1 value nodes blank ih => exact ih (by simpa [spokenAll, spoken] using mem)
  | case2 value nodes more => simpa [spokenAll, spoken] using mem
  | case3 kind children nodes isBreak ih =>
    refine ih ?_
    cases kind with
    | softBreak => simpa [spokenAll, spoken] using mem
    | hardBreak => simpa [spokenAll, spoken] using mem
    | _ => cases isBreak
  | case4 kind children nodes other => exact mem
  | case5 nodes => exact mem

/-- Cutting a marker off a quote takes no gated region away. -/
theorem region_mem_withoutMarker (count : Nat) (nodes : List Node)
    (mem : .spoiler region content ∈ spokenAll nodes) :
    .spoiler region content ∈ spokenAll (withoutMarker count nodes) := by
  have kept := region_mem_cutAll count nodes mem
  rw [withoutMarker]
  split
  · rename_i kind children rest same
    rw [same, spokenAll, List.mem_append] at kept
    rcases kept with first | behind
    · have inside : .spoiler region content ∈ spokenAll (trimLeading children) :=
        region_mem_trimLeading children (by simpa [spoken] using first)
      split
      · rename_i empty
        rw [empty] at inside
        cases inside
      · simp [spokenAll, spoken, inside]
    · split
      · exact behind
      · simp [spokenAll, behind]
  · exact kept

end Regions

end Node

end Loremark.Tree
