import Loremark.Proofs.Tree.Paragraphs

/-!
# Slots that are alone in a paragraph

`AloneIn` says that some nodes are one slot and otherwise texts of blanks, which is what makes an
embed a card (`isLoneSlot_iff`), and `Alone` that a slot is alone in a paragraph of a tree. Cutting a
marker off a quote takes nothing but texts, line breaks and code, so a slot that is alone stays so
(`alone_withoutMarker`); the other direction fails.
-/

set_option autoImplicit false

namespace Loremark.Tree

open Node

variable {s : Slot} {nodes others children : List Node} {node : Node}

/-! ## One slot and otherwise blanks -/

/-- Some nodes are a slot and otherwise texts of blanks. -/
def AloneIn (s : Slot) (children : List Node) : Prop :=
  (children.filter fun node => !node.isBlankText) = [.slot s]

/-- A blank text beside a slot leaves it alone. -/
theorem aloneIn_cons_blank (blank : node.isBlankText = true) :
    AloneIn s (node :: nodes) ↔ AloneIn s nodes := by
  rw [AloneIn, List.filter_cons_of_neg (by simp [blank]), AloneIn]

/-- What is no blank text is the slot that is alone. -/
theorem aloneIn_cons_other (other : node.isBlankText = false) :
    AloneIn s (node :: nodes) ↔ node = .slot s ∧ ∀ node ∈ nodes, node.isBlankText = true := by
  rw [AloneIn, List.filter_cons_of_pos (by simp [other]), List.cons.injEq, List.filter_eq_nil_iff]
  simp

/-- A slot that is alone is the only one. -/
theorem slots_of_aloneIn (alone : AloneIn s children) : slots children = [s] := by
  have blanks {nodes : List Node} (all : ∀ node ∈ nodes, node.isBlankText = true) :
      slots nodes = [] := by
    induction nodes with
    | nil => exact slots_nil
    | cons node nodes ih =>
      obtain ⟨blank, behind⟩ := List.forall_mem_cons.mp all
      cases node with
      | text value => rw [slots_cons, slots_text, List.nil_append, ih behind]
      | _ => cases blank
  induction children with
  | nil => cases alone
  | cons node nodes ih =>
    cases blank : node.isBlankText with
    | false =>
      obtain ⟨rfl, rest⟩ := (aloneIn_cons_other blank).mp alone
      rw [slots_cons, slots_slot, blanks rest]
      rfl
    | true =>
      have later := ih ((aloneIn_cons_blank blank).mp alone)
      cases node with
      | text value => rw [slots_cons, slots_text, List.nil_append, later]
      | _ => cases blank

/-- Among slots and blanks, the slots are what is not blank. -/
theorem filter_isBlankText (each : ∀ node ∈ children, (node.isSlot || node.isBlankText) = true) :
    (children.filter fun node => !node.isBlankText) = children.filter isSlot := by
  refine List.filter_congr fun node mem => ?_
  have own := each node mem
  cases node with
  | text value =>
    have blank : Text.allBlank value = true := own
    simp [isBlankText, isSlot, blank]
  | slot t => rfl
  | _ => cases own

/-- Nodes are a lone slot exactly if some slot is alone in them. -/
theorem isLoneSlot_iff : isLoneSlot children = true ↔ ∃ s, AloneIn s children := by
  rw [isLoneSlot, Bool.and_eq_true, beq_iff_eq, List.all_eq_true, List.countP_eq_length_filter]
  constructor
  · rintro ⟨one, each⟩
    obtain ⟨node, only⟩ := List.length_eq_one_iff.mp one
    have mem : node ∈ children.filter isSlot := by
      rw [only]
      exact List.mem_singleton_self node
    cases node with
    | slot t => exact ⟨t, (filter_isBlankText each).trans only⟩
    | _ => cases (List.mem_filter.mp mem).2
  · rintro ⟨s, alone⟩
    have each : ∀ node ∈ children, (node.isSlot || node.isBlankText) = true := by
      intro node mem
      cases blank : node.isBlankText with
      | true => exact Bool.or_true _
      | false =>
        have kept : node ∈ children.filter fun node => !node.isBlankText :=
          List.mem_filter.mpr ⟨mem, by rw [blank]; rfl⟩
        rw [show _ = _ from alone, List.mem_singleton] at kept
        rw [kept]
        rfl
    refine ⟨?_, each⟩
    rw [← filter_isBlankText each, show _ = _ from alone]
    rfl

/-- The card of a slot. -/
def Slot.card (s : Slot) : Slot := { s with mode := .full }

/-- A slot that is alone becomes a card that is alone. -/
theorem AloneIn.cards (alone : AloneIn s children) : AloneIn s.card (children.map asCard) := by
  have same : (fun node : Node => !node.isBlankText) ∘ asCard = fun node => !node.isBlankText := by
    funext node
    cases node <;> rfl
  rw [AloneIn, List.filter_map, same, show _ = _ from alone]
  rfl

/-! ## A slot alone in a paragraph -/

/-- A node is a paragraph in which a slot is alone. -/
def HoldsAlone (s : Slot) : Node → Prop
  | .block (.paragraph _ _) children => AloneIn s children
  | _ => False

/-- A slot is alone in a paragraph of a tree. -/
def Alone (nodes : List Node) (s : Slot) : Prop := ∃ node ∈ preorderAll nodes, HoldsAlone s node

/-- No slot is alone among no nodes. -/
theorem alone_nil : ¬ Alone [] s := by
  rintro ⟨node, mem, -⟩
  cases mem

/-- A slot is alone in two lists of nodes if it is in one of them. -/
theorem alone_append : Alone (nodes ++ others) s ↔ Alone nodes s ∨ Alone others s := by
  simp only [Alone, preorderAll_append, List.mem_append, or_and_right, exists_or]

/-- A slot is alone among nodes if it is in the first one or in the others. -/
theorem alone_cons : Alone (node :: nodes) s ↔ Alone [node] s ∨ Alone nodes s := by
  rw [← List.singleton_append, alone_append]

/-- No slot is alone in a text. -/
theorem alone_text {value : Text} : ¬ Alone [.text value] s := by
  simp [Alone, preorderAll, preorder, HoldsAlone]

/-- No slot is alone in plain output. -/
theorem alone_raw {html : Text} : ¬ Alone [.raw html] s := by
  simp [Alone, preorderAll, preorder, HoldsAlone]

/-- A slot is alone in a gated region if it is among the nodes in it. -/
theorem alone_spoiler {region : Spoiler.Region} :
    Alone [.spoiler region children] s ↔ Alone children s := by
  simp [Alone, preorderAll, preorder, HoldsAlone]

/-- A slot is alone in inline markup if it is among the nodes in it. -/
theorem alone_inline {kind : InlineKind} :
    Alone [.inline kind children] s ↔ Alone children s := by
  simp [Alone, preorderAll, preorder, HoldsAlone]

/-- A slot is alone in a block if the block holds it alone, or a block inside does. -/
theorem alone_block {kind : BlockKind} : Alone [.block kind children] s ↔
    HoldsAlone s (.block kind children) ∨ Alone children s := by
  simp [Alone, preorderAll, preorder]

/-- What is below a node of a tree is in the tree. -/
theorem preorderAll_children_subset (mem : node ∈ preorderAll nodes) :
    preorderAll node.children ⊆ preorderAll nodes := by
  rw [← walk_eq_preorderAll nodes] at mem ⊢
  fun_induction walk nodes with
  | case1 => cases mem
  | case2 first stack ih =>
    rw [walk_eq_preorderAll, preorderAll_append] at mem ⊢
    rcases List.mem_cons.mp mem with rfl | below
    · exact List.subset_cons_of_subset _ (List.subset_append_left _ _)
    · rw [walk_eq_preorderAll, preorderAll_append] at ih
      exact List.subset_cons_of_subset _ (ih below)

/-- A slot that is alone is one of the slots of the tree. -/
theorem Alone.mem_slots (alone : Alone nodes s) : s ∈ slots nodes := by
  obtain ⟨node, mem, holds⟩ := alone
  cases node with
  | block kind children =>
    cases kind with
    | paragraph tight marked =>
      have inside : s ∈ slots children := by
        rw [slots_of_aloneIn holds]
        exact List.mem_singleton_self s
      exact Tree.mem_slots.mpr (preorderAll_children_subset mem (Tree.mem_slots.mp inside))
    | _ => cases holds
  | _ => cases holds

/-! ## Cutting -/

section Cutting

/-- Blanks are blanks without the first ones. -/
theorem allBlank_drop {value : Text} (count : Nat) (blank : Text.allBlank value = true) :
    Text.allBlank (value.drop count) = true := by
  simp only [Text.allBlank, List.all_eq_true] at blank ⊢
  exact fun c mem => blank c (List.mem_of_mem_drop mem)

/-- A slot stays alone where texts beside it are shortened. -/
theorem AloneIn.cutAll (alone : AloneIn s children) (count : Nat) :
    AloneIn s (cutAll count children).1 := by
  induction children generalizing count with
  | nil => cases alone
  | cons node nodes ih =>
    rw [Node.cutAll]
    split
    · exact alone
    · cases blank : node.isBlankText with
      | false =>
        obtain ⟨rfl, rest⟩ := (aloneIn_cons_other blank).mp alone
        simp only [cutNode, cutAll_zero]
        exact alone
      | true =>
        have later := (aloneIn_cons_blank blank).mp alone
        cases node with
        | text value =>
          simp only [cutNode]
          split
          · exact ih later _
          · have shorter : isBlankText (.text (value.drop count)) = true :=
              allBlank_drop count blank
            exact (aloneIn_cons_blank shorter).mpr (ih later _)
        | _ => cases blank

/-- Trimming the text in front leaves a slot alone. -/
theorem AloneIn.trimLeading (alone : AloneIn s children) : AloneIn s (trimLeading children) := by
  fun_induction Node.trimLeading children with
  | case1 value nodes blank ih =>
    refine ih ((aloneIn_cons_blank ?_).mp alone)
    exact List.all_eq_true.mpr (List.dropWhile_eq_nil_iff.mp blank)
  | case2 value nodes more =>
    cases blank : isBlankText (.text value) with
    | true => exact absurd (List.dropWhile_eq_nil_iff.mpr (List.all_eq_true.mp blank)) more
    | false => cases ((aloneIn_cons_other blank).mp alone).1
  | case3 kind children nodes isBreak ih => cases ((aloneIn_cons_other rfl).mp alone).1
  | case4 kind children nodes other => exact alone
  | case5 nodes => exact alone

mutual

/-- A slot that is alone in what is left of a node was alone in the node. -/
theorem alone_cutNode (count : Nat) (node : Node) (solid : Solid [node])
    (alone : Alone [node] s) : Alone (cutNode count node).1 s := by
  cases node with
  | text value => exact absurd alone alone_text
  | inline kind children =>
    have inside := alone_inline.mp alone
    have below := alone_cutAll count children (everywhere_inline.mp solid).2 inside
    -- Nothing stands below breaks and code, so no slot is alone there.
    have notSolid : kind.isSolid ≠ true := by
      intro isSolid
      rw [(everywhere_inline.mp solid).1 isSolid] at inside
      exact alone_nil inside
    cases kind with
    | softBreak => exact absurd rfl notSolid
    | hardBreak => exact absurd rfl notSolid
    | code content => exact absurd rfl notSolid
    | _ =>
      simp only [cutNode]
      split
      · rename_i empty
        rw [List.isEmpty_iff.mp empty] at below
        exact absurd below alone_nil
      · exact alone_inline.mpr below
  | block kind children =>
    have kept : HoldsAlone s (.block kind (cutAll count children).1) ∨
        Alone (cutAll count children).1 s := by
      refine (alone_block.mp alone).imp (fun own => ?_) fun inside =>
        alone_cutAll count children (everywhere_block.mp solid).2 inside
      cases kind with
      | paragraph tight marked => exact AloneIn.cutAll own count
      | _ => cases own
    simp only [cutNode]
    split
    · rename_i empty
      rw [List.isEmpty_iff.mp empty] at kept
      rcases kept with own | inside
      · cases kind <;> cases own
      · exact absurd inside alone_nil
    · exact alone_block.mpr kept
  | _ => exact alone

/-- A slot that is alone behind a cut was alone in front of it. -/
theorem alone_cutAll (count : Nat) (nodes : List Node) (solid : Solid nodes)
    (alone : Alone nodes s) : Alone (cutAll count nodes).1 s := by
  cases nodes with
  | nil => exact absurd alone alone_nil
  | cons node nodes =>
    rw [cutAll]
    split
    · exact alone
    · obtain ⟨solidHere, solidBehind⟩ := everywhere_cons.mp solid
      refine alone_append.mpr ((alone_cons.mp alone).imp ?_ ?_)
      · exact alone_cutNode count node solidHere
      · exact alone_cutAll _ nodes solidBehind

end

/-- A slot that is alone is alone in the trimmed nodes. -/
theorem alone_trimLeading (solid : Solid nodes) (alone : Alone nodes s) :
    Alone (trimLeading nodes) s := by
  fun_induction trimLeading nodes with
  | case1 value nodes blank ih =>
    exact ih (everywhere_cons.mp solid).2 ((alone_cons.mp alone).resolve_left alone_text)
  | case2 value nodes more =>
    exact alone_cons.mpr (.inr ((alone_cons.mp alone).resolve_left alone_text))
  | case3 kind children nodes isBreak ih =>
    obtain ⟨here, behind⟩ := everywhere_cons.mp solid
    refine ih behind ((alone_cons.mp alone).resolve_left fun inside => ?_)
    have isSolid : kind.isSolid = true := by cases kind <;> first | rfl | cases isBreak
    rw [(everywhere_inline.mp here).1 isSolid, alone_inline] at inside
    exact alone_nil inside
  | case4 kind children nodes other => exact alone
  | case5 nodes => exact alone

/-- Cutting a marker off a quote leaves a slot alone that was alone. -/
theorem alone_withoutMarker (count : Nat) (solid : Solid nodes) (alone : Alone nodes s) :
    Alone (withoutMarker count nodes) s := by
  have cut := alone_cutAll count nodes solid alone
  have solidCut := (cutAll_slots count nodes solid).2
  rw [withoutMarker]
  split
  · rename_i kind children rest same
    rw [same, alone_cons, alone_block] at cut
    rw [same] at solidCut
    have solidBelow := (everywhere_block.mp (everywhere_cons.mp solidCut).1).2
    have kept : (HoldsAlone s (.block kind (trimLeading children)) ∨
        Alone (trimLeading children) s) ∨ Alone rest s := by
      refine cut.imp_left (Or.imp (fun own => ?_) (alone_trimLeading solidBelow))
      cases kind with
      | paragraph tight marked => exact AloneIn.trimLeading own
      | _ => cases own
    split
    · rename_i empty
      rw [empty] at kept
      refine kept.resolve_left ?_
      rintro (own | inside)
      · cases kind <;> cases own
      · exact alone_nil inside
    · exact alone_cons.mpr (kept.imp_left alone_block.mpr)
  · exact cut

end Cutting

end Loremark.Tree
