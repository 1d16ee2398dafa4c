import Loremark.Proofs.Tree.Gathering
import Loremark.Proofs.Tree.Regions

/-!
# Which containers are gated

A container is gated exactly if the class that was read for it mentions spoilers. The class is read
with tokens in it, and every token mentions them: an embed in a class gates its container, whatever
the author wrote (`render_gates`). Only where the class holds no token, or mentions spoilers once the
embeds are put back, is the container gated as its author asked for.
-/

set_option autoImplicit false

namespace Loremark.Tree

open Markdown

namespace Node

/-- The class of a block that is a container. -/
def classes : BlockKind → List Text
  | .container className _ => [className]
  | _ => []

mutual

/-- The classes of the containers of a tree, in document order, and with each whether the container
stands right below the gated region of a container. `gated` tells whether the node itself does. -/
def containers (gated : Bool) : Node → List (Text × Bool)
  | text _ | slot _ | raw _ => []
  | spoiler region children => containersAll (region.form == .container) children
  | inline _ children => containersAll false children
  | block kind children => (classes kind).map (·, gated) ++ containersAll false children

/-- The classes of the containers of trees. -/
def containersAll (gated : Bool) : List Node → List (Text × Bool)
  | [] => []
  | node :: nodes => containers gated node ++ containersAll gated nodes

end

section Containers

variable {gated : Bool} {nodes others : List Node}

/-- The containers of two lists of nodes follow each other. -/
theorem containersAll_append (gated : Bool) (nodes others : List Node) :
    containersAll gated (nodes ++ others) =
      containersAll gated nodes ++ containersAll gated others := by
  induction nodes with
  | nil => rfl
  | cons node nodes ih =>
    rw [List.cons_append, containersAll, ih, containersAll, List.append_assoc]

/-- The containers of one node are those of a list of it alone. -/
theorem containersAll_singleton (gated : Bool) (node : Node) :
    containersAll gated [node] = containers gated node := by
  rw [containersAll, containersAll, List.append_nil]

mutual

/-- Running text has no containers. -/
theorem containers_of_running (gated : Bool) (node : Node) (running : Everywhere Running [node]) :
    containers gated node = [] := by
  cases node with
  | text value => rfl
  | slot s => rfl
  | raw html => rfl
  | spoiler region children => cases (everywhere_spoiler.mp running).1
  | inline kind children =>
    exact containersAll_of_running false children (everywhere_inline.mp running).2
  | block kind children => cases (everywhere_block.mp running).1

/-- No container stands in running text. -/
theorem containersAll_of_running (gated : Bool) (nodes : List Node)
    (running : Everywhere Running nodes) : containersAll gated nodes = [] := by
  cases nodes with
  | nil => rfl
  | cons node nodes =>
    obtain ⟨here, behind⟩ := everywhere_cons.mp running
    rw [containersAll, containers_of_running gated node here,
      containersAll_of_running gated nodes behind]
    rfl

end

/-! ## Cutting -/

mutual

/-- Cutting a node adds no containers. -/
theorem containers_cutNode (gated : Bool) (count : Nat) (node : Node) :
    containersAll gated (cutNode count node).1 ⊆ containers gated node := by
  cases node with
  | text value =>
    rw [cutNode]
    split <;> exact List.nil_subset _
  | slot s => exact List.nil_subset _
  | raw html => exact List.nil_subset _
  | spoiler region children =>
    show containersAll gated [.spoiler region children] ⊆ _
    rw [containersAll_singleton]
    exact List.Subset.refl _
  | inline kind children =>
    have below := containers_cutAll false count children
    cases kind with
    | softBreak => exact List.nil_subset _
    | hardBreak => exact List.nil_subset _
    | code content =>
      rw [cutNode]
      split
      · exact List.nil_subset _
      · rw [containersAll_singleton]
        exact List.Subset.refl _
    | _ =>
      simp only [cutNode]
      split
      · exact List.nil_subset _
      · rw [containersAll_singleton]
        exact below
  | block kind children =>
    have below := containers_cutAll false count children
    rw [cutNode]
    dsimp only
    split
    · exact List.nil_subset _
    · rw [containersAll_singleton, containers, containers]
      exact List.append_subset.mpr
        ⟨List.subset_append_left _ _, List.subset_append_of_subset_right _ below⟩

/-- Cutting nodes adds no containers. -/
theorem containers_cutAll (gated : Bool) (count : Nat) (nodes : List Node) :
    containersAll gated (cutAll count nodes).1 ⊆ containersAll gated nodes := by
  cases nodes with
  | nil => exact List.nil_subset _
  | cons node nodes =>
    rw [cutAll]
    split
    · exact List.Subset.refl _
    · dsimp only
      rw [containersAll_append, containersAll]
      exact List.append_subset.mpr
        ⟨List.subset_append_of_subset_left _ (containers_cutNode gated count node),
          List.subset_append_of_subset_right _ (containers_cutAll gated _ nodes)⟩

end

/-- Trimming nodes adds no containers. -/
theorem containers_trimLeading (gated : Bool) (nodes : List Node) :
    containersAll gated (trimLeading nodes) ⊆ containersAll gated nodes := by
  fun_induction trimLeading nodes with
  | case1 value nodes blank ih => exact ih
  | case2 value nodes more => exact List.Subset.refl _
  | case3 kind children nodes isBreak ih => exact List.subset_append_of_subset_right _ ih
  | case4 kind children nodes other => exact List.Subset.refl _
  | case5 nodes => exact List.Subset.refl _

/-- Cutting a marker off a quote does not bring containers into it. -/
theorem containers_withoutMarker (gated : Bool) (count : Nat) (nodes : List Node) :
    containersAll gated (withoutMarker count nodes) ⊆ containersAll gated nodes := by
  have cut := containers_cutAll gated count nodes
  rw [withoutMarker]
  split
  · rename_i kind children rest same
    rw [same, containersAll, containers] at cut
    have trimmed := containers_trimLeading false children
    refine List.Subset.trans ?_ cut
    split
    · exact List.subset_append_right _ _
    · rw [containersAll, containers]
      exact List.append_subset.mpr ⟨List.append_subset.mpr
        ⟨List.subset_append_of_subset_left _ (List.subset_append_left _ _),
          List.subset_append_of_subset_left _ (List.subset_append_of_subset_right _ trimmed)⟩,
        List.subset_append_right _ _⟩
  · exact cut

end Containers

end Node

open Node

/-! ## Gates -/

/-- Containers are gated as their classes say. -/
def Gated (nodes : List Node) : Prop :=
  ∀ className gated, (className, gated) ∈ containersAll false nodes →
    gated = Spoiler.mentionsSpoiler className

section Gated

variable {source : Source} {nodes others : List Node}

/-- Fewer containers are gated as their classes say if all of them are. -/
theorem gated_of_subset (all : Gated nodes)
    (fewer : containersAll false others ⊆ containersAll false nodes) : Gated others :=
  fun className gated mem => all className gated (fewer mem)

/-- Running text has nothing to be gated. -/
theorem gated_of_running (running : Everywhere Running nodes) : Gated nodes := by
  intro className gated mem
  rw [containersAll_of_running false nodes running] at mem
  cases mem

/-- A block that is no container. -/
theorem gated_block {kind : BlockKind} (other : classes kind = []) (all : Gated nodes) :
    Gated [.block kind nodes] := by
  refine gated_of_subset all ?_
  rw [containersAll_singleton, containers, other]
  exact List.Subset.refl _

/-- A quote leaves the containers inside it gated as they were. -/
theorem gated_quote {node : Node} (all : Gated nodes) (built : ShownQuote nodes node) :
    Gated [node] := by
  cases built with
  | bare plain => exact gated_block rfl all
  | gated marker detected =>
    refine gated_of_subset all ?_
    rw [containersAll_singleton, containers, containersAll_singleton, containers]
    exact containers_withoutMarker false _ nodes

/-- A container is gated if its class says so. -/
theorem gated_container {className title text : Text} {node : Node} (all : Gated nodes)
    (built : ShownContainer className title text nodes node) : Gated [node] := by
  intro other gated mem
  rw [containersAll_singleton] at mem
  cases built with
  | bare detected =>
    rcases List.mem_cons.mp mem with here | below
    · cases here
      exact (mentionsSpoiler_of_detectContainer detected).symm
    · exact all other gated below
  | gated detected =>
    rw [containers, (of_detectContainer detected).1, containersAll_singleton] at mem
    rcases List.mem_cons.mp mem with here | below
    · cases here
      exact (mentionsSpoiler_of_detectContainer detected).symm
    · exact all other gated below

mutual

/-- However an outline is shown, its containers are gated as their classes say. -/
theorem shown_gated {n later : Nat} {outline : Outline} {node : Node}
    (shown : Shown source n outline node later) : Gated [node] := by
  cases shown with
  | paragraph shown =>
    have running := inlines_running shown
    rw [paragraphNode]
    refine gated_block rfl ?_
    split
    · exact gated_of_running ((asCard_everywhere_iff fun _ => rfl).mpr running)
    · exact gated_of_running running
  | heading shown => exact gated_block rfl (gated_of_running (inlines_running shown))
  | bulletList shown => exact gated_block rfl (shownAll_gated shown)
  | orderedList shown => exact gated_block rfl (shownAll_gated shown)
  | item shown => exact gated_block rfl (shownAll_gated shown)
  | quote shown built => exact gated_quote (shownAll_gated shown) built
  | container shown built => exact gated_container (shownAll_gated shown) built
  | division shown built => exact gated_container (shownAll_gated shown) built
  | plain n block =>
    intro className gated mem
    cases mem

/-- Every container of a document is gated as its class says. -/
theorem shownAll_gated {n later : Nat} {outlines : List Outline} {nodes : List Node}
    (shown : ShownAll source n outlines nodes later) : Gated nodes := by
  cases shown with
  | nil n =>
    intro className gated mem
    cases mem
  | cons here behind =>
    intro className gated mem
    rw [← List.singleton_append, containersAll_append] at mem
    rcases List.mem_append.mp mem with first | others
    · exact shown_gated here className gated first
    · exact shownAll_gated behind className gated others

end

end Gated

/-! ## Tokens in classes -/

/-- Every token mentions spoilers. -/
theorem mentionsSpoiler_of_token {p : Embed.Parsed} (distinct : p.Distinct) {className : Text}
    (holds : ¬ p.TokenFree className) : Spoiler.mentionsSpoiler className = true := by
  simp only [Embed.Parsed.TokenFree, not_forall, not_not] at holds
  obtain ⟨d, mem, inside⟩ := holds
  have stem : Spoiler.spoilerWord <:+: Embed.stem.map Text.toSmall :=
    Text.occurs_iff.mp (by decide)
  have small : Embed.stem.map Text.toSmall <:+: className.map Text.toSmall :=
    ((distinct.isToken d mem).begins.isInfix.trans inside).map Text.toSmall
  exact Text.occurs_iff.mpr (stem.trans small)

/-- A container is gated exactly if a token stands in the class that was read or the class mentions
spoilers once the embeds are put back. So it is gated as the author asked for exactly if there is no
token in the class that was read, or the author's class mentions spoilers anyway. -/
theorem render_gates {style : Style} {embedsEnabled : Bool} {content : Text}
    {rendered : Rendered} {events : List Log.Event}
    (ok : render style embedsEnabled content = (.ok rendered, events)) {className : Text}
    {gated : Bool} (mem : (className, gated) ∈ containersAll false rendered.tree) :
    (gated = true ↔ ¬ rendered.parsed.TokenFree className ∨
      Spoiler.mentionsSpoiler (rendered.parsed.restore className) = true) ∧
    ((gated = true ↔ Spoiler.mentionsSpoiler (rendered.parsed.restore className) = true) ↔
      rendered.parsed.TokenFree className ∨
        Spoiler.mentionsSpoiler (rendered.parsed.restore className) = true) := by
  have distinct := distinct_of_render ok
  obtain ⟨-, outlines, slots, -, shown⟩ := render_shown ok
  have own : gated = Spoiler.mentionsSpoiler className := shownAll_gated shown _ _ mem
  by_cases free : rendered.parsed.TokenFree className
  · have same : rendered.parsed.restore className = className := free.restoreWith id
    rw [same, own]
    simp [free]
  · have holds : gated = true := own.trans (mentionsSpoiler_of_token distinct free)
    simp [free, holds]

/-- Two divisions with an embed in their classes. The label of the second one asks for a gate. -/
def embedsInClasses : Text :=
  ("<div class=\"\x7b\x7barc:1\x7d\x7d\">\n\nhi\n\n</div>\n\n" ++
    "<div class=\"\x7b\x7barc:2:spoilers\x7d\x7d\">\n\nhi\n\n</div>").toList

/-- The class that is read where an embed stands alone. -/
def tokenClass (index : Nat) : Text := Embed.tokenOf (Embed.saltedPrefix 0) index

/-- Whether a tree has two gated containers with such classes, of which the second one mentions
spoilers once the embeds are put back. -/
def gatesTokens (rendered : Rendered) : Bool :=
  containersAll false rendered.tree == [(tokenClass 0, true), (tokenClass 1, true)] &&
    !Spoiler.mentionsSpoiler (rendered.parsed.restore (tokenClass 0)) &&
    Spoiler.mentionsSpoiler (rendered.parsed.restore (tokenClass 1))

/-- Both containers are gated, and only the second one asked for it. -/
theorem embedsInClasses_gatesTokens : ∃ rendered events,
    render {} true embedsInClasses = (.ok rendered, events) ∧
      containersAll false rendered.tree = [(tokenClass 0, true), (tokenClass 1, true)] ∧
      Spoiler.mentionsSpoiler (rendered.parsed.restore (tokenClass 0)) = false ∧
      Spoiler.mentionsSpoiler (rendered.parsed.restore (tokenClass 1)) = true := by
  have shows : (render {} true embedsInClasses).1.toOption.any gatesTokens = true := by
    decide +kernel
  obtain ⟨rendered, events, ok, gates⟩ := exists_of_any shows
  simp only [gatesTokens, Bool.and_eq_true, beq_iff_eq, Bool.not_eq_true'] at gates
  exact ⟨rendered, events, ok, gates.1.1, gates.1.2, gates.2⟩

/-- The second one is gated as its author asked for. -/
theorem render_gates_embedsInClasses : ∃ rendered events gated,
    render {} true embedsInClasses = (.ok rendered, events) ∧
      (tokenClass 1, gated) ∈ containersAll false rendered.tree ∧
      (gated = true ↔ ¬ rendered.parsed.TokenFree (tokenClass 1) ∨
        Spoiler.mentionsSpoiler (rendered.parsed.restore (tokenClass 1)) = true) ∧
      ((gated = true ↔ Spoiler.mentionsSpoiler (rendered.parsed.restore (tokenClass 1)) = true) ↔
        rendered.parsed.TokenFree (tokenClass 1) ∨
          Spoiler.mentionsSpoiler (rendered.parsed.restore (tokenClass 1)) = true) := by
  obtain ⟨rendered, events, ok, both, -⟩ := embedsInClasses_gatesTokens
  have mem : (tokenClass 1, true) ∈ containersAll false rendered.tree := by
    rw [both]
    exact List.mem_cons_of_mem _ List.mem_cons_self
  exact ⟨rendered, events, true, ok, mem, render_gates ok mem⟩

/-- The first one is gated all the same. -/
theorem embedsInClasses_gated : ∃ rendered events,
    render {} true embedsInClasses = (.ok rendered, events) ∧
      (tokenClass 0, true) ∈ containersAll false rendered.tree ∧
      Spoiler.mentionsSpoiler (rendered.parsed.restore (tokenClass 0)) = false := by
  obtain ⟨rendered, events, ok, both, silent, -⟩ := embedsInClasses_gatesTokens
  refine ⟨rendered, events, ok, ?_, silent⟩
  rw [both]
  exact List.mem_cons_self

end Loremark.Tree
