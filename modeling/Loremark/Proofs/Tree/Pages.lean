import Loremark.Proofs.Tree.Slots
import Loremark.Tree.Page

/-!
# What a page is asked for

Writing a tree asks its page two things only: what stands in each slot, and how each gated region
is veiled. Two pages with the same answers for a tree write it the same (`html_congr`).
-/

set_option autoImplicit false

namespace Loremark.Tree

namespace Page

open Node

variable {page other : Page} {nodes : List Node}

/-- Two pages have the same answer for a node, if they are asked about it. -/
def AgreeHere (page other : Page) : Node → Prop
  | .slot s => page.slot s = other.slot s
  | .spoiler region _ => ∀ content, page.veil region content = other.veil region content
  | _ => True

/-- Two pages have the same answers for a tree. -/
def Agree (page other : Page) (nodes : List Node) : Prop := Everywhere (AgreeHere page other) nodes

/-- How a region is veiled depends on the decision about it and, where it is not revealed, on the
explanation over it. -/
theorem veil_congr {region : Spoiler.Region}
    (decision : page.gate.decide region = other.gate.decide region)
    (hint : page.gate.decide region ≠ .reveal →
      page.gate.overlayHint region = other.gate.overlayHint region) (content : Html.Fragment) :
    page.veil region content = other.veil region content := by
  cases decided : page.gate.decide region with
  | reveal => simp only [veil, ← decision, decided]
  | blur =>
    have explained := hint (by simp [decided])
    simp only [veil, overlay, ← decision, decided, explained]
  | hide =>
    have explained := hint (by simp [decided])
    simp only [veil, overlay, ← decision, decided, explained]

/-- The slots and the gated regions are all that two pages have to agree on. -/
theorem agree_of_forall (slots : ∀ s ∈ slots nodes, page.slot s = other.slot s)
    (veils : ∀ region ∈ regions nodes, ∀ content,
      page.veil region content = other.veil region content) :
    Agree page other nodes := by
  intro node mem
  rw [← walk_eq_preorderAll] at mem
  cases node with
  | slot s =>
    apply slots
    exact List.mem_filterMap.mpr ⟨_, mem, rfl⟩
  | spoiler region children =>
    apply veils
    exact List.mem_filterMap.mpr ⟨_, mem, rfl⟩
  | _ => trivial

mutual

/-- Pages with the same answers write a node the same. -/
theorem fragment_congr (node : Node) (agree : Agree page other [node]) :
    page.fragment node = other.fragment node := by
  cases node with
  | text value => simp only [fragment]
  | slot s =>
    have same : page.slot s = other.slot s := everywhere_slot.mp agree
    simp only [fragment, same]
  | raw html => simp only [fragment]
  | spoiler region children =>
    obtain ⟨here, below⟩ := everywhere_spoiler.mp agree
    have veiled : page.veil region = other.veil region := funext here
    have content := fragments_congr false children below
    simp only [fragment, veiled, content]
  | inline kind children =>
    obtain ⟨-, below⟩ := everywhere_inline.mp agree
    have content := fragments_congr false children below
    simp only [fragment, content]
  | block kind children =>
    obtain ⟨-, below⟩ := everywhere_block.mp agree
    have content := fragments_congr (kind == .listItem) children below
    simp only [fragment, content]

/-- Pages with the same answers write nodes in a list the same. -/
theorem fragments_congr (inItem : Bool) (nodes : List Node) (agree : Agree page other nodes) :
    page.fragments inItem nodes = other.fragments inItem nodes := by
  cases nodes with
  | nil => simp only [fragments]
  | cons node nodes =>
    obtain ⟨here, behind⟩ := everywhere_cons.mp agree
    have first := fragment_congr node here
    have rest := fragments_congr inItem nodes behind
    simp only [fragments, first, rest]

end

/-- A tree is written the same in two pages with the same answers for it. -/
theorem html_congr (agree : Agree page other nodes) : page.html nodes = other.html nodes := by
  simp only [html, fragments_congr false nodes agree]

end Page

end Loremark.Tree
