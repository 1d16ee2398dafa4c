import Loremark.Proofs.Tree.Framing

/-!
# Where gated regions come from

Nothing in running text is gated, so every gated region of a tree is the node of a quote with a
marker, of a container or of a division (`shownAll_origin`), whatever quotes stand around it: cutting
their markers off stops in front of it. In running text itself, nothing stands below markup whose
content is not written (`shownAll_hollow`), so that plain text is put together from all nodes
(`preorderAll_eq_spokenAll`).
-/

set_option autoImplicit false

namespace Loremark.Tree

open Markdown Node

namespace Outline

mutual

/-- An outline and the outlines inside it, in document order. -/
def every : Outline → List Outline
  | bulletList items => bulletList items :: everyAll items
  | orderedList start items => orderedList start items :: everyAll items
  | item children => item children :: everyAll children
  | quote children => quote children :: everyAll children
  | container info children => container info children :: everyAll children
  | division className children => division className children :: everyAll children
  | paragraph tight content => [paragraph tight content]
  | heading level content => [heading level content]
  | plain written => [plain written]

/-- All outlines of a document, in document order. -/
def everyAll : List Outline → List Outline
  | [] => []
  | outline :: outlines => every outline ++ everyAll outlines

end

end Outline

/-! ## Running text -/

/-- A piece of running text: not a block, and with something below it only if that is written. -/
def Running : Node → Prop
  | .inline kind children => kind.holds = false → children = []
  | node => node.isBlock = false

section Running

variable {source : Source}

/-- The pieces of a text are running text. -/
theorem pieces_running {n later : Nat} {pieces : List Embed.Segment} {nodes : List Node}
    (shown : ShownPieces source n pieces nodes later) : Everywhere Running nodes := by
  induction shown with
  | nil n => exact everywhere_nil
  | literal text behind ih => exact everywhere_cons.mpr ⟨everywhere_text.mpr rfl, ih⟩
  | embed descriptor behind ih => exact everywhere_cons.mpr ⟨everywhere_slot.mpr rfl, ih⟩

/-- A text is shown as running text. -/
theorem text_running {live : Bool} {n later : Nat} {value : Text} {nodes : List Node}
    (shown : ShownText source live n value nodes later) : Everywhere Running nodes := by
  cases shown with
  | empty live n => exact everywhere_nil
  | restored nonempty whole => exact everywhere_text.mpr rfl
  | split nonempty embeds pieces => exact pieces_running pieces

mutual

/-- Running text is shown as running text. -/
theorem inline_running {live : Bool} {n later : Nat} {piece : Inline} {nodes : List Node}
    (shown : ShownInline source live n piece nodes later) : Everywhere Running nodes := by
  cases shown with
  | text shown => exact text_running shown
  | leaf leaf => exact everywhere_inline.mpr ⟨fun _ => rfl, everywhere_nil⟩
  | span shown =>
    rename_i kind pieces inner
    have holds : (spanKind kind).holds = true := by cases kind <;> rfl
    refine everywhere_inline.mpr ⟨?_, inlines_running shown⟩
    intro empty
    rw [holds] at empty
    cases empty
  | link shown =>
    refine everywhere_inline.mpr ⟨?_, inlines_running shown⟩
    intro empty
    cases empty

/-- The nodes of running text are pieces of running text. -/
theorem inlines_running {live : Bool} {n later : Nat} {pieces : List Inline} {nodes : List Node}
    (shown : ShownInlines source live n pieces nodes later) : Everywhere Running nodes := by
  cases shown with
  | nil live n => exact everywhere_nil
  | cons here behind =>
    exact everywhere_append.mpr ⟨inline_running here, inlines_running behind⟩

end

/-- A paragraph is a block around running text. -/
theorem paragraph_running {tight : Bool} {children : List Node}
    (running : Everywhere Running children) : ∃ kind others,
      paragraphNode source tight children = .block kind others ∧ Everywhere Running others := by
  rw [paragraphNode]
  refine ⟨_, _, rfl, ?_⟩
  split
  · exact (asCard_everywhere_iff fun _ => rfl).mpr running
  · exact running

end Running

/-! ## Nothing below what is not written -/

/-- Nothing stands below inline markup whose content is not written. -/
def HollowHere : Node → Prop
  | .inline kind children => kind.holds = false → children = []
  | _ => True

/-- Nothing stands below such markup in a tree. -/
def Hollow (nodes : List Node) : Prop := Everywhere HollowHere nodes

section Hollow

variable {source : Source}

/-- Running text is hollow. -/
theorem hollow_of_running {nodes : List Node} (running : Everywhere Running nodes) :
    Hollow nodes := by
  intro node mem
  have own := running node mem
  cases node <;> first | exact own | trivial

/-- Hollow nodes can be cut. -/
theorem cuttable_hollow : Cuttable HollowHere where
  text _ _ := trivial
  code _ own := own
  inline still own empty := still (own empty)
  block _ := trivial

/-- Building nodes from outlines leaves them hollow. -/
theorem built_hollow : Built source (fun _ => True) HollowHere where
  text _ := trivial
  slot _ := trivial
  spoiler _ _ := trivial
  block _ _ _ := trivial
  cuttable := cuttable_hollow
  plain _ := trivial
  running shown _ := hollow_of_running (inlines_running shown)

/-- The tree of an outline has nothing below inline markup whose content is not written. -/
theorem shownAll_hollow {n later : Nat} {outlines : List Outline} {nodes : List Node}
    (shown : ShownAll source n outlines nodes later) : Hollow nodes :=
  shownAll_everywhere built_hollow shown fun _ _ => trivial

end Hollow

mutual

/-- In hollow nodes the plain text is put together from all of them. -/
theorem preorder_eq_spoken (node : Node) (hollow : Hollow [node]) : preorder node = spoken node := by
  cases node with
  | text value => rfl
  | slot s => rfl
  | raw html => rfl
  | spoiler region children =>
    rw [preorder, spoken, preorderAll_eq_spokenAll children (everywhere_spoiler.mp hollow).2]
  | inline kind children =>
    obtain ⟨own, below⟩ := everywhere_inline.mp hollow
    have same := preorderAll_eq_spokenAll children below
    cases kind with
    | softBreak => rw [own rfl]; rfl
    | hardBreak => rw [own rfl]; rfl
    | code content => rw [own rfl]; rfl
    | _ => exact congrArg (List.cons _) same
  | block kind children =>
    rw [preorder, spoken, preorderAll_eq_spokenAll children (everywhere_block.mp hollow).2]

/-- Plain text is put together from all nodes of such a tree. -/
theorem preorderAll_eq_spokenAll (nodes : List Node) (hollow : Hollow nodes) :
    preorderAll nodes = spokenAll nodes := by
  cases nodes with
  | nil => rfl
  | cons node nodes =>
    obtain ⟨here, behind⟩ := everywhere_cons.mp hollow
    rw [preorderAll, spokenAll, preorder_eq_spoken node here, preorderAll_eq_spokenAll nodes behind]

end

/-! ## Gated regions -/

/-- What is known of the gated region of a container. -/
theorem of_detectContainer {text className : Text} {region : Spoiler.Region}
    (detected : Spoiler.detectContainer text (some className) = .ok (some region)) :
    region.form = .container ∧ region.inner = text ∧
      Spoiler.chapterOf (Spoiler.firstMention? text) = .ok region.threshold := by
  rw [Spoiler.detectContainer] at detected
  split at detected
  · cases chapter : Spoiler.chapterOf (Spoiler.firstMention? text) with
    | error cause =>
      rw [chapter] at detected
      cases detected
    | ok threshold =>
      rw [chapter] at detected
      cases detected
      exact ⟨rfl, rfl, rfl⟩
  · cases detected

/-- A gated region is the node of a quote, a container or a division of a document. -/
inductive Origin (source : Source) (outlines : List Outline) (region : Spoiler.Region)
    (content : List Node) : Prop
  | quote {n later : Nat} {inside : List Outline} {children : List Node}
      (among : .quote inside ∈ outlines) (shown : ShownAll source n inside children later)
      (built : ShownQuote children (.spoiler region content))
  | container {n later : Nat} {info : Text} {inside : List Outline} {children : List Node}
      (among : .container info inside ∈ outlines) (shown : ShownAll source n inside children later)
      (built : ShownContainer containerName (fencedTitle info)
        (Text.trim info ++ '\n' :: flatten children) children (.spoiler region content))
  | division {n later : Nat} {className : Text} {inside : List Outline} {children : List Node}
      (among : .division className inside ∈ outlines)
      (shown : ShownAll source n inside children later)
      (built : ShownContainer className [] (flatten children) children (.spoiler region content))

/-- A node that is a gated region comes from an outline. -/
def HasOrigin (source : Source) (outlines : List Outline) : Node → Prop
  | .spoiler region content => Origin source outlines region content
  | _ => True

section Origin

variable {source : Source} {outlines more : List Outline} {nodes : List Node}

/-- A region that comes from some outlines comes from more of them. -/
theorem Origin.mono {region : Spoiler.Region} {content : List Node}
    (origin : Origin source outlines region content) (fewer : outlines ⊆ more) :
    Origin source more region content := by
  cases origin with
  | quote among shown built => exact .quote (fewer among) shown built
  | container among shown built => exact .container (fewer among) shown built
  | division among shown built => exact .division (fewer among) shown built

/-- Regions that come from some outlines come from more of them. -/
theorem hasOrigin_mono (all : Everywhere (HasOrigin source outlines) nodes)
    (fewer : outlines ⊆ more) : Everywhere (HasOrigin source more) nodes := by
  intro node mem
  have own := all node mem
  cases node with
  | spoiler region content => exact Origin.mono own fewer
  | _ => trivial

/-- Running text has no regions. -/
theorem hasOrigin_of_running (running : Everywhere Running nodes) :
    Everywhere (HasOrigin source outlines) nodes := by
  intro node mem
  have own := running node mem
  cases node with
  | spoiler region content => cases own
  | _ => trivial

/-- Cutting regions leaves them where they come from. -/
theorem cuttable_hasOrigin : Cuttable (HasOrigin source outlines) where
  text _ _ := trivial
  code _ _ := trivial
  inline _ _ := trivial
  block _ := trivial

/-- The region of a quote comes from the quote. -/
theorem quote_hasOrigin {n later : Nat} {inside : List Outline} {node : Node}
    (among : .quote inside ∈ outlines) (shown : ShownAll source n inside nodes later)
    (built : ShownQuote nodes node) (below : Everywhere (HasOrigin source outlines) nodes) :
    Everywhere (HasOrigin source outlines) [node] := by
  cases built with
  | bare plain => exact everywhere_block.mpr ⟨trivial, below⟩
  | gated marker detected =>
    refine everywhere_spoiler.mpr ⟨.quote among shown (.gated marker detected), ?_⟩
    refine everywhere_block.mpr ⟨trivial, ?_⟩
    exact everywhere_withoutMarker cuttable_hasOrigin _ nodes below

/-- The region of a container comes from the container. -/
theorem container_hasOrigin {className title text : Text} {node : Node}
    (built : ShownContainer className title text nodes node)
    (origin : ∀ region content, node = .spoiler region content →
      Origin source outlines region content)
    (below : Everywhere (HasOrigin source outlines) nodes) :
    Everywhere (HasOrigin source outlines) [node] := by
  cases built with
  | bare detected => exact everywhere_block.mpr ⟨trivial, below⟩
  | gated detected =>
    exact everywhere_spoiler.mpr
      ⟨origin _ _ rfl, everywhere_block.mpr ⟨trivial, below⟩⟩

mutual

/-- However an outline is shown, its regions come from it. -/
theorem shown_origin {n later : Nat} {outline : Outline} {node : Node}
    (shown : Shown source n outline node later) :
    Everywhere (HasOrigin source outline.every) [node] := by
  have inside {outline : Outline} {others : List Outline} {nodes : List Node}
      (same : outline.every = outline :: Outline.everyAll others)
      (all : Everywhere (HasOrigin source (Outline.everyAll others)) nodes) :
      Everywhere (HasOrigin source outline.every) nodes := by
    rw [same]
    exact hasOrigin_mono all (List.subset_cons_self _ _)
  cases shown with
  | paragraph shown =>
    obtain ⟨kind, others, same, running⟩ := paragraph_running (inlines_running shown)
    rw [same]
    exact everywhere_block.mpr ⟨trivial, hasOrigin_of_running running⟩
  | heading shown =>
    exact everywhere_block.mpr ⟨trivial, hasOrigin_of_running (inlines_running shown)⟩
  | bulletList shown => exact everywhere_block.mpr ⟨trivial, inside rfl (shownAll_origin shown)⟩
  | orderedList shown => exact everywhere_block.mpr ⟨trivial, inside rfl (shownAll_origin shown)⟩
  | item shown => exact everywhere_block.mpr ⟨trivial, inside rfl (shownAll_origin shown)⟩
  | quote shown built =>
    exact quote_hasOrigin List.mem_cons_self shown built (inside rfl (shownAll_origin shown))
  | container shown built =>
    refine container_hasOrigin built ?_ (inside rfl (shownAll_origin shown))
    rintro region content rfl
    exact .container List.mem_cons_self shown built
  | division shown built =>
    refine container_hasOrigin built ?_ (inside rfl (shownAll_origin shown))
    rintro region content rfl
    exact .division List.mem_cons_self shown built
  | plain n block => exact everywhere_raw.mpr trivial

/-- Every gated region of the tree of a document comes from an outline of it. -/
theorem shownAll_origin {n later : Nat} {outlines : List Outline} {nodes : List Node}
    (shown : ShownAll source n outlines nodes later) :
    Everywhere (HasOrigin source (Outline.everyAll outlines)) nodes := by
  cases shown with
  | nil n => exact everywhere_nil
  | cons here behind =>
    exact everywhere_cons.mpr
      ⟨hasOrigin_mono (shown_origin here) (List.subset_append_left _ _),
        hasOrigin_mono (shownAll_origin behind) (List.subset_append_right _ _)⟩

end

end Origin

end Loremark.Tree
