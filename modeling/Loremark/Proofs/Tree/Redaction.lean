import Loremark.Tree.Page

/-!
# What a page leaves out

A page is written for one reader, and the gate of the page leaves some regions out. `Node.redact`
empties every region that is left out, at any depth. A page that can be written is written the same
after its regions have been emptied, so nothing below a region that is left out has a bearing on
the output: two documents that agree once these regions are empty give the same text.
-/

set_option autoImplicit false

namespace Loremark.Tree

namespace Node

mutual

/-- A node in which the regions that a gate leaves out are empty. -/
def redact (gate : Spoiler.Gate) : Node → Node
  | text value => text value
  | slot s => slot s
  | raw html => raw html
  | spoiler region children =>
    spoiler region (if gate.decide region = .hide then [] else redactAll gate children)
  | inline kind children => inline kind (redactAll gate children)
  | block kind children => block kind (redactAll gate children)

/-- Nodes in which the regions that a gate leaves out are empty. -/
def redactAll (gate : Spoiler.Gate) : List Node → List Node
  | [] => []
  | node :: nodes => redact gate node :: redactAll gate nodes

end

/-- Emptying regions makes no item tight. -/
@[simp] theorem isTight_redact (gate : Spoiler.Gate) (node : Node) :
    (node.redact gate).isTight = node.isTight := by
  cases node with
  | block kind children => cases kind <;> rfl
  | _ => rfl

/-- Emptying regions leaves as many nodes as there are. -/
@[simp] theorem redactAll_isEmpty (gate : Spoiler.Gate) (nodes : List Node) :
    (redactAll gate nodes).isEmpty = nodes.isEmpty := by
  cases nodes <;> rfl

end Node

namespace Page

/-- A region that is left out is written without its content. -/
theorem veil_eq_of_hide (page : Page) {region : Spoiler.Region}
    (hide : page.gate.decide region = .hide) (content other : Html.Fragment) :
    page.veil region content = page.veil region other := by
  simp only [veil, hide]

mutual

/-- What a node gives in a page does not change when the regions that are left out are emptied. -/
theorem fragment_redact (page : Page) (node : Node) {written : Html.Fragment}
    (ok : page.fragment node = .ok written) :
    page.fragment (node.redact page.gate) = .ok written := by
  cases node with
  | text value => exact ok
  | slot s => exact ok
  | raw html => exact ok
  | spoiler region children =>
    simp only [fragment] at ok
    cases below : page.fragments false children with
    | error cause => rw [below] at ok; cases ok
    | ok content =>
      rw [below] at ok
      have veiled : page.veil region content = written := Except.ok.inj ok
      by_cases hide : page.gate.decide region = .hide
      · -- The content was built, but the veil does not look at it.
        have same := page.veil_eq_of_hide hide content []
        simp only [Node.redact, hide, if_true, fragment, fragments, ← veiled, same]
        rfl
      · have kept := fragments_redact page false children below
        simp only [Node.redact, hide, if_false, fragment, kept, ← veiled]
        rfl
  | inline kind children =>
    simp only [fragment] at ok
    by_cases holds : kind.holds = true
    · rw [if_pos holds] at ok
      cases below : page.fragments false children with
      | error cause => rw [below] at ok; cases ok
      | ok content =>
        rw [below] at ok
        have kept := fragments_redact page false children below
        simp only [Node.redact, fragment, holds, if_true, kept]
        exact ok
    · simp only [Node.redact, fragment, holds]
      rw [if_neg holds] at ok
      exact ok
  | block kind children =>
    simp only [fragment] at ok
    by_cases known : kind.isKnown = true
    · rw [if_pos known] at ok
      cases below : page.fragments (kind == .listItem) children with
      | error cause => rw [below] at ok; cases ok
      | ok content =>
        rw [below] at ok
        have kept := fragments_redact page _ children below
        simp only [Node.redact, fragment, known, if_true, kept]
        exact ok
    · simp only [Node.redact, fragment, known]
      rw [if_neg known] at ok
      exact ok

/-- What nodes give in a page does not change when the regions that are left out are emptied. -/
theorem fragments_redact (page : Page) (inItem : Bool) (nodes : List Node)
    {written : Html.Fragment} (ok : page.fragments inItem nodes = .ok written) :
    page.fragments inItem (Node.redactAll page.gate nodes) = .ok written := by
  cases nodes with
  | nil => exact ok
  | cons node nodes =>
    simp only [fragments] at ok
    cases first : page.fragment node with
    | error cause => rw [first] at ok; cases ok
    | ok head =>
      cases rest : page.fragments inItem nodes with
      | error cause => rw [first, rest] at ok; cases ok
      | ok tail =>
        rw [first, rest] at ok
        have head_kept := fragment_redact page node first
        have tail_kept := fragments_redact page inItem nodes rest
        simp only [Node.redactAll, fragments, head_kept, tail_kept, Node.isTight_redact,
          Node.redactAll_isEmpty]
        exact ok

end

/-- A document that can be written gives the same text when the content of every region that the
gate leaves out is taken away, and so do two documents that then are the same. -/
theorem html_redact (page : Page) (nodes : List Node) (text : Text)
    (ok : page.html nodes = .ok text) :
    page.html (Node.redactAll page.gate nodes) = .ok text ∧
      ∀ (others : List Node) (otherText : Text),
        Node.redactAll page.gate others = Node.redactAll page.gate nodes →
        page.html others = .ok otherText → otherText = text := by
  have redacted : ∀ (nodes : List Node) (text : Text), page.html nodes = .ok text →
      page.html (Node.redactAll page.gate nodes) = .ok text := by
    intro nodes text ok
    simp only [html] at ok ⊢
    cases written : page.fragments false nodes with
    | error cause => rw [written] at ok; cases ok
    | ok fragment =>
      rw [written] at ok
      rw [fragments_redact page false nodes written]
      exact ok
  refine ⟨redacted nodes text ok, ?_⟩
  intro others otherText same otherOk
  have emptied := redacted others otherText otherOk
  rw [same, redacted nodes text ok] at emptied
  exact (Except.ok.inj emptied).symm

/-- A page for a reader at chapter three whose gate leaves out what is beyond. -/
def thirdChapter : Page :=
  { gate := { progress := 3, settings := { hiddenStyle := Spoiler.hideStyle } } }

/-- A quote with a secret of chapter nine, inside an emphasis and inside a region of chapter
one. -/
def ninthChapterSecret (secret : Text) : List Node :=
  [.block (.quote []) [.spoiler ⟨some 9, [], .blockquote⟩
    [.inline .emphasis [.text secret], .spoiler ⟨some 1, [], .blockquote⟩ [.text secret]]]]

/-- At chapter three the text of a quote with a secret of chapter nine has one form, whatever the
secret is. -/
theorem html_redact_ninthChapterSecret :
    ∃ text, thirdChapter.html (ninthChapterSecret "who won".toList) = .ok text ∧
      thirdChapter.html (Node.redactAll thirdChapter.gate
        (ninthChapterSecret "who won".toList)) = .ok text ∧
      thirdChapter.html (ninthChapterSecret "no one did".toList) = .ok text := by
  have ok : ∃ text, thirdChapter.html (ninthChapterSecret "who won".toList) = .ok text := ⟨_, rfl⟩
  have otherOk : ∃ text, thirdChapter.html (ninthChapterSecret "no one did".toList) = .ok text :=
    ⟨_, rfl⟩
  obtain ⟨text, ok⟩ := ok
  obtain ⟨otherText, otherOk⟩ := otherOk
  obtain ⟨emptied, unique⟩ := html_redact thirdChapter _ text ok
  have same : otherText = text := unique _ otherText rfl otherOk
  exact ⟨text, ok, emptied, same ▸ otherOk⟩

end Page

end Loremark.Tree
