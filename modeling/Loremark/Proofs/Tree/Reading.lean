import Loremark.Proofs.Tree.Pages

/-!
# Reading on

A reader who goes on reading is shown more of a tree, never less. A place in a tree is the list of
numbers that leads to it; `Writes` says which node a page writes at a place, and `Reveals` that it
is a region that the page shows openly. Under a tolerance the chapter that the reader has reached
is not looked at, and without one a region that is revealed at a chapter is revealed at all later
ones (`reveals_mono`). What else changes between two chapters are the regions with a threshold: one
that is passed in between, and one that is gated at both, since its overlay tells the chapter
(`reading_on`).
-/

set_option autoImplicit false

namespace Loremark.Spoiler.Gate

variable {gate : Gate} {region : Region} {p q : Int}

/-- The gate of a reader who has reached a chapter. -/
def atChapter (gate : Gate) (chapter : Int) : Gate := { gate with progress := chapter }

/-- Under a tolerance the chapter that the reader has reached is not looked at. -/
theorem effectiveProgress_of_pos (tolerance : 0 < gate.settings.tolerance) (p : Int) :
    (gate.atChapter p).effectiveProgress = gate.settings.tolerance := by
  simp only [effectiveProgress, atChapter]
  exact if_pos tolerance

/-- Without a tolerance, progress counts as it is. -/
theorem effectiveProgress_of_le (tolerance : gate.settings.tolerance ≤ 0) (p : Int) :
    (gate.atChapter p).effectiveProgress = p := by
  simp only [effectiveProgress, atChapter]
  exact if_neg (Int.not_lt.mpr tolerance)

/-- Gates with the same settings decide on a region in the same way if its threshold is beyond both
of them or neither. -/
theorem decide_congr {other : Gate} (settings : gate.settings = other.settings)
    (beyond : ∀ t, region.threshold = some t → gate.isBeyond t = other.isBeyond t) :
    gate.decide region = other.decide region := by
  have hidden : gate.hidden = other.hidden := by rw [Gate.hidden, Gate.hidden, settings]
  rw [decide, decide, settings, hidden]
  cases threshold : region.threshold with
  | none => rfl
  | some t => simp only [beyond t threshold]

/-- A region whose chapter has been reached is revealed. -/
theorem decide_of_not_beyond {t : Int} (threshold : region.threshold = some t)
    (reached : gate.isBeyond t = false) : gate.decide region = .reveal := by
  simp [decide, threshold, reached]

/-- A region whose threshold is not passed between two chapters is treated in the same way at
both. -/
theorem decide_eq_of_not_passed (tolerance : gate.settings.tolerance ≤ 0) (later : p ≤ q)
    (notPassed : ∀ t, region.threshold = some t → ¬ (p < t ∧ t ≤ q)) :
    (gate.atChapter q).decide region = (gate.atChapter p).decide region := by
  have settings : (gate.atChapter q).settings = (gate.atChapter p).settings := rfl
  apply decide_congr settings
  intro t threshold
  have outside := notPassed t threshold
  have same : q < t ↔ p < t := by omega
  simp only [isBeyond, effectiveProgress_of_le tolerance, gt_iff_lt, same]

/-- A region that is treated in another way at a later chapter is revealed there. -/
theorem decide_of_le (tolerance : gate.settings.tolerance ≤ 0) (later : p ≤ q) :
    (gate.atChapter q).decide region = (gate.atChapter p).decide region ∨
      (gate.atChapter q).decide region = .reveal := by
  by_cases passed : ∃ t, region.threshold = some t ∧ p < t ∧ t ≤ q
  · obtain ⟨t, threshold, -, reached⟩ := passed
    right
    apply decide_of_not_beyond threshold
    simp only [isBeyond, effectiveProgress_of_le tolerance]
    simpa using reached
  · left
    apply decide_eq_of_not_passed tolerance later
    intro t threshold between
    exact passed ⟨t, threshold, between⟩

end Loremark.Spoiler.Gate

namespace Loremark.Tree

open Html Markup

namespace Page

variable {page : Page} {region : Spoiler.Region} {nodes : List Node} {node inner : Node}
  {path : List Nat} {p q : Int}

/-- The page of a reader who has reached a chapter. -/
def atChapter (page : Page) (chapter : Int) : Page :=
  { page with gate := page.gate.atChapter chapter }

/-! ## What is written -/

/-- The nodes below a node that are written. -/
def written (page : Page) : Node → List Node
  | .spoiler region children => if page.gate.decide region = .hide then [] else children
  | .inline kind children => if kind.holds then children else []
  | .block _ children => children
  | .text _ | .slot _ | .raw _ => []

/-- A node stands at a place of a tree, and the page writes it. -/
inductive Writes (page : Page) : List Node → List Nat → Node → Prop
  | here {nodes : List Node} {n : Nat} {node : Node} (there : nodes[n]? = some node) :
    Writes page nodes [n] node
  | inside {nodes : List Node} {n : Nat} {node inner : Node} {path : List Nat}
    (there : nodes[n]? = some node) (deeper : Writes page (page.written node) path inner) :
    Writes page nodes (n :: path) inner

/-- A region in its open form. -/
def revealed (region : Spoiler.Region) (content : Fragment) : Fragment :=
  block .div (cssClass "sd-spoiler sd-revealed" :: chapterAttribute region) content

/-- The page writes a region in its open form at a place of a tree. -/
def Reveals (page : Page) (nodes : List Node) (path : List Nat) : Prop :=
  ∃ region children, page.Writes nodes path (.spoiler region children) ∧
    page.veil region = revealed region

/-- A region is written in its open form exactly if the gate reveals it. -/
theorem veil_eq_revealed_iff :
    page.veil region = revealed region ↔ page.gate.decide region = .reveal := by
  constructor
  · intro same
    have empty : page.veil region [] = revealed region [] := congrFun same []
    cases decision : page.gate.decide region with
    | reveal => rfl
    | hide =>
      simp only [veil, decision, revealed, block, line, cssClass, fixed] at empty
      simp at empty
    | blur =>
      simp only [veil, decision, revealed, block, line, cssClass, fixed] at empty
      simp at empty
  · intro reveal
    funext content
    simp only [veil, reveal]
    rfl

/-! ## Where it stands in the output -/

/-- Two fragments are written one behind the other. -/
theorem writeAll_append (first rest : Fragment) :
    writeAll (first ++ rest) = writeAll first ++ writeAll rest := by
  induction first with
  | nil => rfl
  | cons piece pieces ih => rw [List.cons_append, writeAll, writeAll, ih, List.append_assoc]

/-- The body of an element stands in what is written. -/
theorem infix_element (tag : Tag) (attrs : List Attribute) (body : Fragment) :
    writeAll body <:+: writeAll [.element tag attrs body] := by
  refine ⟨'<' :: tag.name ++ writtenAttributes attrs ++ ['>'], '<' :: '/' :: tag.name ++ ['>'], ?_⟩
  simp only [writeAll, write, List.append_nil, List.append_assoc, List.cons_append,
    List.nil_append]

/-- What is in a line is written in it. -/
theorem infix_line (tag : Tag) (attrs : List Attribute) (body : Fragment) :
    writeAll body <:+: writeAll (line tag attrs body) := by
  have front : writeAll (line tag attrs body) =
      writeAll [.element tag attrs body] ++ writeAll [.newline] := writeAll_append [_] [_]
  rw [front]
  exact (infix_element tag attrs body).trans (List.prefix_append _ _).isInfix

/-- What is in a block is written in it. -/
theorem infix_block (tag : Tag) (attrs : List Attribute) (body : Fragment) :
    writeAll body <:+: writeAll (block tag attrs body) := by
  have behind : writeAll body <:+ writeAll (newline :: body) := List.suffix_append _ _
  exact behind.isInfix.trans (infix_line tag attrs (newline :: body))

/-- The content of a region stands in what is written for it, unless the region is left out. -/
theorem infix_veil (shows : page.gate.decide region ≠ .hide) (content : Fragment) :
    writeAll content <:+: writeAll (page.veil region content) := by
  cases decision : page.gate.decide region with
  | hide => exact absurd decision shows
  | reveal =>
    simp only [veil, decision]
    exact infix_block _ _ _
  | blur =>
    simp only [veil, decision]
    refine List.IsInfix.trans ?_ (infix_block _ _ _)
    rw [writeAll_append]
    exact (infix_block _ _ _).trans (List.prefix_append _ _).isInfix

/-- The content of a block is written in the block. -/
theorem infix_blockFragment {kind : BlockKind} {content own : Fragment}
    (ok : blockFragment kind content = .ok own) : writeAll content <:+: writeAll own := by
  cases kind with
  | paragraph tight hasEmbeds =>
    cases tight with
    | true =>
      cases ok
      exact List.infix_refl _
    | false =>
      cases hasEmbeds <;>
        (cases ok; exact infix_line _ _ _)
  | heading level =>
    cases ok
    exact infix_line _ _ _
  | orderedList start =>
    cases start <;>
      (cases ok; exact infix_block _ _ _)
  | listItem =>
    cases ok
    exact infix_line _ _ _
  | other name => cases ok
  | _ =>
    cases ok
    exact infix_block _ _ _

/-- The content of inline markup is written in it, if the markup holds any. -/
theorem infix_inlineFragment {kind : InlineKind} (holds : kind.holds = true)
    {content own : Fragment} (ok : inlineFragment kind content = .ok own) :
    writeAll content <:+: writeAll own := by
  cases kind with
  | emphasis | strong | strikethrough | link =>
    cases ok
    exact infix_element _ _ _
  | _ => cases holds

/-- What a node leaves to write stands in what is written for the node. -/
theorem infix_fragment {own : Fragment} (ok : page.fragment node = .ok own) :
    ∃ inItem content, page.fragments inItem (page.written node) = .ok content ∧
      writeAll content <:+: writeAll own := by
  -- Where nothing is left to write, there is nothing to be found.
  have nothing : page.written node = [] → ∃ inItem content,
      page.fragments inItem (page.written node) = .ok content ∧
        writeAll content <:+: writeAll own := by
    intro none
    rw [none]
    exact ⟨false, [], rfl, List.nil_infix⟩
  cases node with
  | text value => exact nothing rfl
  | slot s => exact nothing rfl
  | raw html => exact nothing rfl
  | spoiler region children =>
    by_cases hides : page.gate.decide region = .hide
    · exact nothing (if_pos hides)
    · have left : page.written (.spoiler region children) = children := if_neg hides
      rw [left]
      simp only [fragment] at ok
      obtain ⟨content, below, same⟩ := of_except_bind ok
      cases same
      exact ⟨false, content, below, infix_veil hides content⟩
  | inline kind children =>
    by_cases holds : kind.holds = true
    · have left : page.written (.inline kind children) = children := if_pos holds
      rw [left]
      simp only [fragment, holds, if_true] at ok
      obtain ⟨content, below, own⟩ := of_except_bind ok
      exact ⟨false, content, below, infix_inlineFragment holds own⟩
    · exact nothing (if_neg holds)
  | block kind children =>
    simp only [fragment] at ok
    split at ok
    · obtain ⟨content, below, own⟩ := of_except_bind ok
      exact ⟨_, content, below, infix_blockFragment own⟩
    · rename_i unknown
      cases kind with
      | other name => cases ok
      | _ => exact absurd rfl unknown

/-- Each of some nodes is written among them. -/
theorem infix_fragments {inItem : Bool} {content : Fragment} {n : Nat}
    (ok : page.fragments inItem nodes = .ok content) (there : nodes[n]? = some node) :
    ∃ own, page.fragment node = .ok own ∧ writeAll own <:+: writeAll content := by
  induction nodes generalizing n content with
  | nil => cases there
  | cons first others ih =>
    simp only [fragments] at ok
    obtain ⟨own, head, ok⟩ := of_except_bind ok
    obtain ⟨rest, tail, same⟩ := of_except_bind ok
    cases same
    rw [writeAll_append, writeAll_append]
    cases n with
    | zero =>
      cases there
      refine ⟨own, head, ?_⟩
      rw [List.append_assoc]
      exact (List.prefix_append _ _).isInfix
    | succ n =>
      obtain ⟨deeper, written, part⟩ := ih tail there
      exact ⟨deeper, written, part.trans (List.suffix_append _ _).isInfix⟩

/-- What is written at a place stands in the output. -/
theorem Writes.stands {inItem : Bool} {content : Fragment} (writes : page.Writes nodes path node)
    (ok : page.fragments inItem nodes = .ok content) :
    ∃ own, page.fragment node = .ok own ∧ writeAll own <:+: writeAll content := by
  induction writes generalizing inItem content with
  | here there => exact infix_fragments ok there
  | inside there deeper ih =>
    obtain ⟨outer, written, outerPart⟩ := infix_fragments ok there
    obtain ⟨_, below, belowOk, belowPart⟩ := infix_fragment written
    obtain ⟨own, ownOk, ownPart⟩ := ih belowOk
    exact ⟨own, ownOk, ownPart.trans (belowPart.trans outerPart)⟩

/-- A region that is revealed stands in the output in its open form, around what is written for its
content. -/
theorem Reveals.stands {text : Text} (reveals : page.Reveals nodes path)
    (ok : page.html nodes = .ok text) :
    ∃ region children content, page.Writes nodes path (.spoiler region children) ∧
      page.fragments false children = .ok content ∧
      writeAll (revealed region content) <:+: text := by
  obtain ⟨region, children, writes, shown⟩ := reveals
  rw [html] at ok
  obtain ⟨whole, written, same⟩ := of_except_bind ok
  cases same
  obtain ⟨own, ownOk, part⟩ := writes.stands written
  simp only [fragment] at ownOk
  obtain ⟨content, below, sameOwn⟩ := of_except_bind ownOk
  cases sameOwn
  rw [shown] at part
  exact ⟨region, children, content, writes, below, part⟩

/-! ## Two chapters -/

/-- Nothing is written of no nodes. -/
theorem not_writes_nil : ¬ page.Writes [] path node := by
  intro writes
  cases writes with
  | here there => cases there
  | inside there _ => cases there

/-- At a later chapter a node leaves the same nodes to write, if it left any. -/
theorem written_of_le (tolerance : page.gate.settings.tolerance ≤ 0) (later : p ≤ q)
    (node : Node) :
    (page.atChapter q).written node = (page.atChapter p).written node ∨
      (page.atChapter p).written node = [] := by
  cases node with
  | spoiler region children =>
    have decisions : (page.gate.atChapter q).decide region = (page.gate.atChapter p).decide region ∨
        (page.gate.atChapter q).decide region = .reveal :=
      Spoiler.Gate.decide_of_le tolerance later
    by_cases hides : (page.gate.atChapter p).decide region = .hide
    · right
      simp only [written, atChapter, hides, if_true]
    · left
      have shows : (page.gate.atChapter q).decide region ≠ .hide := by
        rcases decisions with same | reveal
        · rwa [same]
        · simp [reveal]
      simp only [written, atChapter, hides, shows, if_false]
  | _ => exact .inl rfl

/-- What is written at a chapter is written at later ones. -/
theorem Writes.mono (tolerance : page.gate.settings.tolerance ≤ 0) (later : p ≤ q)
    (writes : (page.atChapter p).Writes nodes path node) :
    (page.atChapter q).Writes nodes path node := by
  induction writes with
  | here there => exact .here there
  | inside there deeper ih =>
    rename_i outer inner below
    rcases written_of_le tolerance later outer with same | none
    · rw [← same] at ih
      exact .inside there ih
    · rw [none] at deeper
      exact absurd deeper not_writes_nil

/-- A region that is written in its open form at a chapter is so at later ones. -/
theorem veil_mono (tolerance : page.gate.settings.tolerance ≤ 0) (later : p ≤ q)
    (shown : (page.atChapter p).veil region = revealed region) :
    (page.atChapter q).veil region = revealed region := by
  have decisions : (page.gate.atChapter q).decide region = (page.gate.atChapter p).decide region ∨
      (page.gate.atChapter q).decide region = .reveal :=
    Spoiler.Gate.decide_of_le tolerance later
  rw [veil_eq_revealed_iff] at shown ⊢
  rcases decisions with same | reveal
  · exact same.trans shown
  · exact reveal

/-- What is revealed at a chapter is revealed at later ones. -/
theorem Reveals.mono (tolerance : page.gate.settings.tolerance ≤ 0) (later : p ≤ q)
    (reveals : (page.atChapter p).Reveals nodes path) : (page.atChapter q).Reveals nodes path := by
  obtain ⟨region, children, writes, shown⟩ := reveals
  exact ⟨region, children, writes.mono tolerance later, veil_mono tolerance later shown⟩

/-- A tree in which no threshold is passed between two chapters, and no region with a threshold is
gated, is written the same at both. -/
theorem html_eq_of_not_passed (tolerance : page.gate.settings.tolerance ≤ 0) (later : p ≤ q)
    (steady : ∀ region ∈ Node.regions nodes, ∀ t, region.threshold = some t →
      ¬ (p < t ∧ t ≤ q) ∧ ¬ ((page.atChapter p).gate.decide region ≠ .reveal ∧
        (page.atChapter q).gate.decide region ≠ .reveal)) :
    (page.atChapter q).html nodes = (page.atChapter p).html nodes := by
  apply html_congr
  apply agree_of_forall
  · intro s _
    rfl
  · intro region mem content
    have decision : (page.atChapter q).gate.decide region =
        (page.atChapter p).gate.decide region :=
      Spoiler.Gate.decide_eq_of_not_passed tolerance later fun t threshold =>
        (steady region mem t threshold).1
    apply veil_congr decision
    intro gated
    cases threshold : region.threshold with
    | none => simp only [Spoiler.Gate.overlayHint, threshold]
    | some t =>
      have gatedBefore := gated
      rw [decision] at gatedBefore
      exact absurd ⟨gatedBefore, gated⟩ (steady region mem t threshold).2

/-- Under a tolerance a tree is written the same at all chapters. -/
theorem html_eq_of_tolerance (tolerance : 0 < page.gate.settings.tolerance) (p q : Int) :
    (page.atChapter p).html nodes = (page.atChapter q).html nodes := by
  have same : (page.atChapter p).gate.effectiveProgress =
      (page.atChapter q).gate.effectiveProgress :=
    (Spoiler.Gate.effectiveProgress_of_pos tolerance p).trans
      (Spoiler.Gate.effectiveProgress_of_pos tolerance q).symm
  have settings : (page.atChapter p).gate.settings = (page.atChapter q).gate.settings := rfl
  apply html_congr
  apply agree_of_forall
  · intro s _
    rfl
  · intro region _ content
    apply veil_congr
    · apply Spoiler.Gate.decide_congr settings
      intro t _
      rw [Spoiler.Gate.isBeyond, Spoiler.Gate.isBeyond, same]
    · intro _
      rw [Spoiler.Gate.overlayHint, Spoiler.Gate.overlayHint, same]

/-- Reading on hides nothing. Without a tolerance every region that is written in its open form at a
chapter is so at later ones, at whatever place of the tree it is revealed, and the output is the
same if no threshold is passed in between and no region with a threshold is gated at both chapters.
Under a tolerance the output does not depend on the chapter. What is revealed stands in the
output. -/
theorem reading_on (page : Page) (nodes : List Node) :
    (page.gate.settings.tolerance ≤ 0 → ∀ p q, p ≤ q →
      (∀ region, (page.atChapter p).veil region = revealed region →
        (page.atChapter q).veil region = revealed region) ∧
      (∀ path, (page.atChapter p).Reveals nodes path → (page.atChapter q).Reveals nodes path) ∧
      ((∀ region ∈ Node.regions nodes, ∀ t, region.threshold = some t →
          ¬ (p < t ∧ t ≤ q) ∧ ¬ ((page.atChapter p).gate.decide region ≠ .reveal ∧
            (page.atChapter q).gate.decide region ≠ .reveal)) →
        (page.atChapter q).html nodes = (page.atChapter p).html nodes)) ∧
    (0 < page.gate.settings.tolerance →
      ∀ p q, (page.atChapter p).html nodes = (page.atChapter q).html nodes) ∧
    ∀ path text, page.Reveals nodes path → page.html nodes = .ok text →
      ∃ region children content, page.Writes nodes path (.spoiler region children) ∧
        page.fragments false children = .ok content ∧
        writeAll (revealed region content) <:+: text := by
  refine ⟨?_, ?_, ?_⟩
  · intro tolerance p q later
    refine ⟨?_, ?_, ?_⟩
    · intro region shown
      exact veil_mono tolerance later shown
    · intro path reveals
      exact reveals.mono tolerance later
    · intro steady
      exact html_eq_of_not_passed tolerance later steady
  · intro tolerance p q
    exact html_eq_of_tolerance tolerance p q
  · intro path text reveals ok
    exact reveals.stands ok

/-- A page for a reader at chapter three, with a tolerance, whose gate leaves out what is beyond. -/
def tolerantPage (tolerance : Int) : Page :=
  { gate := { progress := 3, settings := { tolerance, hiddenStyle := Spoiler.hideStyle } } }

/-- A region of chapter five inside a region of chapter three. -/
def nestedRegions : List Node :=
  [.spoiler ⟨some 3, [], .blockquote⟩
    [.text "the duel".toList, .spoiler ⟨some 5, [], .blockquote⟩ [.text "who won".toList]]]

/-- The outer region is revealed at chapter three and in the output, and still at chapter six; from
chapter five on nothing changes; and under a tolerance nothing changes at all. -/
theorem reading_on_nestedRegions :
    ((tolerantPage 0).Reveals nestedRegions [0] ∧
      ((tolerantPage 0).atChapter 6).Reveals nestedRegions [0]) ∧
    ((tolerantPage 0).atChapter 6).html nestedRegions =
      ((tolerantPage 0).atChapter 5).html nestedRegions ∧
    ((tolerantPage 4).atChapter 1).html nestedRegions =
      ((tolerantPage 4).atChapter 9).html nestedRegions ∧
    ∃ text region content, (tolerantPage 0).html nestedRegions = .ok text ∧
      writeAll (revealed region content) <:+: text := by
  obtain ⟨onward, -, output⟩ := reading_on (tolerantPage 0) nestedRegions
  obtain ⟨-, tolerant, -⟩ := reading_on (tolerantPage 4) nestedRegions
  have outer : (tolerantPage 0).Reveals nestedRegions [0] :=
    ⟨_, _, .here rfl, veil_eq_revealed_iff.mpr (by decide)⟩
  obtain ⟨-, places, -⟩ := onward (by decide) 3 6 (by decide)
  obtain ⟨-, -, same⟩ := onward (by decide) 5 6 (by decide)
  refine ⟨⟨outer, places [0] outer⟩, same ?_, tolerant (by decide) 1 9, ?_⟩
  · have regions : Node.regions nestedRegions =
        [⟨some 3, [], .blockquote⟩, ⟨some 5, [], .blockquote⟩] := by decide +kernel
    intro region mem t threshold
    rw [regions] at mem
    simp only [List.mem_cons, List.not_mem_nil, or_false] at mem
    rcases mem with rfl | rfl <;> cases threshold <;> decide
  · have ok : ∃ text, (tolerantPage 0).html nestedRegions = .ok text := ⟨_, rfl⟩
    obtain ⟨text, ok⟩ := ok
    obtain ⟨region, children, content, -, -, part⟩ := output [0] text outer ok
    exact ⟨text, region, content, ok, part⟩

end Page

end Loremark.Tree
