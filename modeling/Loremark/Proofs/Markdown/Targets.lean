import Loremark.Markdown.Inline.Parse
import Loremark.Proofs.Markdown.Places
import Loremark.Proofs.Markdown.Spans

/-!
# Where links and images lead

The addresses of links and images are tested where they are read: those in parentheses and in angle
brackets on the spot, and those of labels where the label is defined. So if the targets that labels
stand for have been tested, everything that is read from a text leads to addresses that have been
(`readInline_checked`).
-/

set_option autoImplicit false

namespace Loremark.Markdown

/-- Targets with an address that may be linked to. -/
def Target.Checked (target : Target) : Prop := isAllowedAddress target.address = true

/-- Labels that stand for such targets. -/
def References.Checked (references : References) : Prop := ∀ entry ∈ references, entry.2.Checked

/-- Pieces with links and images that lead to such targets. -/
inductive Inline.Checked : Inline → Prop
  | text (value : Text) : Checked (.text value)
  | code (content : Text) : Checked (.code content)
  | html (content : Text) : Checked (.html content)
  | softBreak : Checked .softBreak
  | hardBreak : Checked .hardBreak
  | span {children : List Inline} (kind : SpanKind) (inside : ∀ child ∈ children, Checked child) :
      Checked (.span kind children)
  | link {target : Target} {children : List Inline} (leads : target.Checked)
      (inside : ∀ child ∈ children, Checked child) : Checked (.link target children)
  | image {target : Target} (label alt : Text) (leads : target.Checked) :
      Checked (.image target label alt)

/-- Running text with such links and images only. -/
def AllChecked (pieces : List Inline) : Prop := ∀ piece ∈ pieces, piece.Checked

/-- No pieces lead anywhere. -/
theorem allChecked_nil : AllChecked [] := List.forall_mem_nil _

/-- Pieces are checked if the first one is and the others are. -/
theorem allChecked_cons {piece : Inline} {pieces : List Inline} :
    AllChecked (piece :: pieces) ↔ piece.Checked ∧ AllChecked pieces :=
  List.forall_mem_cons

/-- Two rows of pieces are checked if each of them is. -/
theorem allChecked_append {pieces others : List Inline} :
    AllChecked (pieces ++ others) ↔ AllChecked pieces ∧ AllChecked others :=
  List.forall_mem_append

/-- Pieces are checked in any order. -/
theorem allChecked_reverse {pieces : List Inline} :
    AllChecked pieces.reverse ↔ AllChecked pieces := by
  simp only [AllChecked, List.mem_reverse]

/-! ## Targets -/

/-- Two lists of labels are checked if each of them is. -/
theorem References.Checked.append {references others : References} (first : references.Checked)
    (second : others.Checked) : (references ++ others).Checked :=
  List.forall_mem_append.mpr ⟨first, second⟩

/-- What a checked label stands for is checked. -/
theorem References.Checked.find? {references : References} (checked : references.Checked)
    {label : Text} {target : Target} (found : references.find? label = some target) :
    target.Checked := by
  obtain ⟨entry, first, rfl⟩ := Option.map_eq_some_iff.mp found
  exact checked entry (List.mem_of_find?_eq_some first)

/-- A destination that may not be linked to leaves an empty address. -/
theorem target?_checked {text rest : Text} {target : Target}
    (found : target? text = some (target, rest)) : target.Checked := by
  have checked {address title behind : Text} (allowed : isAllowedAddress address = true)
      (same : some ((⟨address, title⟩ : Target), behind) = some (target, rest)) :
      target.Checked := by
    obtain ⟨rfl, -⟩ := Prod.mk.inj (Option.some.inj same)
    exact allowed
  rw [target?] at found
  split at found
  · cases found
  · dsimp only at found
    -- Whatever stands behind the destination, its address stays.
    split at found
    · split at found
      · exact checked rfl found
      · split at found
        · exact checked rfl found
        · exact checked rfl found
    · split at found
      · rename_i allowed
        split at found
        · exact checked allowed found
        · split at found
          · exact checked allowed found
          · exact checked allowed found
      · split at found
        · exact checked rfl found
        · split at found
          · exact checked rfl found
          · exact checked rfl found

section Brackets

variable {references : References} (checked : references.Checked) (skip : Skip)

include checked

/-- A reference leads where its label does. -/
theorem reference?_checked (label : Text) (after next : Place) :
    Always (reference? skip references label after next) fun found =>
      ∀ f ∈ found, f.target.Checked := by
  have resolved (key : Text) (behind : Place) :
      ∀ f ∈ (references.find? key).map fun target => (⟨label, target, behind⟩ : Found),
        f.target.Checked := by
    intro f mem
    obtain ⟨target, known, rfl⟩ := Option.map_eq_some_iff.mp mem
    exact checked.find? known
  rw [reference?]
  split
  · exact always_pure (by simp)
  · dsimp only
    split
    · exact always_bind (always_of_forall fun second => always_pure (resolved _ _))
    · exact always_pure (resolved _ _)

/-- A link leads to an address that has been tested. -/
theorem link?_checked (p : Place) :
    Always (link? skip references p) fun found => ∀ f ∈ found, f.target.Checked := by
  rw [link?]
  refine always_bind (always_of_forall fun label => ?_)
  split
  · exact always_pure (by simp)
  · split
    · split
      · exact always_pure (by simp)
      · rename_i read
        exact always_pure (by simpa using target?_checked read)
      · exact reference?_checked checked skip _ _ _
    · exact reference?_checked checked skip _ _ _

/-- An image leads to an address that has been tested. -/
theorem image?_checked (p : Place) :
    Always (image? skip references p) fun found => ∀ f ∈ found, f.target.Checked := by
  rw [image?.eq_def]
  split
  · refine always_bind (always_of_forall fun label => ?_)
    split
    · exact always_pure (by simp)
    · split
      · split
        · rename_i read
          exact always_pure (by simpa using target?_checked read)
        · exact always_pure (by simp)
      · exact reference?_checked checked skip _ _ _
  · exact always_pure (by simp)

end Brackets

/-! ## Pieces -/

/-- An address in angle brackets has been tested. -/
theorem autolink?_checked {address shown : Text} {piece : Inline}
    (found : autolink? address shown = some piece) : piece.Checked := by
  rw [autolink?] at found
  split at found
  · rename_i allowed
    obtain rfl := Option.some.inj found
    exact .link allowed (allChecked_cons.mpr ⟨.text _, allChecked_nil⟩)
  · cases found

/-- What stands in angle brackets leads to an address that has been tested. -/
theorem angled?_checked {text behind : Text} {piece : Inline}
    (found : angled? text = some (piece, behind)) : piece.Checked := by
  rw [angled?] at found
  split at found
  · obtain ⟨other, isLink, same⟩ := Option.map_eq_some_iff.mp found
    obtain ⟨rfl, -⟩ := Prod.mk.inj same
    split at isLink
    · exact autolink?_checked isLink
    · split at isLink
      · exact autolink?_checked isLink
      · cases isLink
  · cases found

/-- What a backslash escapes leads nowhere. -/
theorem escape?_checked {text behind : Text} {piece : Inline}
    (found : escape? text = some (piece, behind)) : piece.Checked := by
  cases text with
  | nil => cases found
  | cons c text =>
    rw [escape?] at found
    split at found
    · obtain ⟨rfl, -⟩ := Prod.mk.inj (Option.some.inj found)
      exact .hardBreak
    · split at found
      · obtain ⟨rfl, -⟩ := Prod.mk.inj (Option.some.inj found)
        exact .text _
      · obtain ⟨rfl, -⟩ := Prod.mk.inj (Option.some.inj found)
        exact .text _

/-- Of the pieces that depend on nothing else, only addresses in angle brackets are links. -/
theorem leaf?_checked {text behind : Text} {piece : Inline}
    (found : leaf? text = some (piece, behind)) : piece.Checked := by
  rw [leaf?.eq_def] at found
  split at found
  · exact escape?_checked found
  · rw [Option.orElse_eq_orElse, Option.orElse_eq_or, Option.or_eq_some_iff] at found
    rcases found with isLink | ⟨-, isTag⟩
    · exact angled?_checked isLink
    · obtain ⟨tag, -, same⟩ := Option.map_eq_some_iff.mp isTag
      obtain ⟨rfl, -⟩ := Prod.mk.inj same
      exact .html _
  · obtain ⟨chars, -, same⟩ := Option.map_eq_some_iff.mp found
    obtain ⟨rfl, -⟩ := Prod.mk.inj same
    exact .text _
  · cases found

/-- Code leads nowhere. -/
theorem code_checked (text : Text) : (code text).1.Checked := by
  rw [code]
  split
  · exact .code _
  · exact .text _

/-- A line break leads nowhere. -/
theorem lineBreak_checked (pending : Text) : (lineBreak pending).1.Checked := by
  rw [lineBreak.eq_def]
  split
  · exact .hardBreak
  · exact .softBreak
  · exact .softBreak

/-- Pieces that have been checked before spans are formed. -/
def Piece.Checked : Piece → Prop
  | .leaf piece => piece.Checked
  | _ => True

/-- What is pending leads nowhere when it is written out. -/
theorem flush_checked {pieces : List Piece} (checked : ∀ piece ∈ pieces, piece.Checked)
    (pending : Text) : ∀ piece ∈ flush pending pieces, piece.Checked := by
  rw [flush]
  split
  · exact checked
  · exact List.forall_mem_cons.mpr ⟨.text _, checked⟩

/-- A run of marks leads nowhere. -/
theorem runPieces_checked (marker : Char) (length place : Nat) (before after : Char) :
    ∀ piece ∈ runPieces marker length place before after, piece.Checked := by
  have marks (count : Nat) (m : Mark) :
      ∀ piece ∈ List.replicate count (Piece.mark m), piece.Checked := by
    intro piece mem
    rw [List.eq_of_mem_replicate mem]
    trivial
  rw [runPieces]
  dsimp only
  split
  · split
    · exact List.forall_mem_singleton.mpr (.text _)
    · refine List.forall_mem_append.mpr ⟨?_, marks _ _⟩
      split
      · exact List.forall_mem_singleton.mpr trivial
      · exact List.forall_mem_nil _
  · exact marks _ _

section Reading

variable (readers : Readers) (skip : Skip) (references : readers.references.Checked)
  (label : ∀ p, Always (readers.label p) AllChecked)

include references label

/-- The pieces that are read from a place on are leaves, marks, links that have been checked, and
images that have been. -/
theorem pieces_checked (fuel : Nat) (pending : Text) (p : Place) :
    Always (pieces readers skip fuel pending p) fun found => ∀ piece ∈ found, piece.Checked := by
  have nothing : ∀ piece ∈ ([] : List Piece), piece.Checked := List.forall_mem_nil _
  induction fuel generalizing pending p with
  | zero => exact always_pure (flush_checked nothing pending)
  | succ fuel ih =>
    have onward {piece : Inline} (kept : Text) (next : Place)
        (checked : (Piece.leaf piece).Checked) :
        Always (do return flush kept (.leaf piece :: (← pieces readers skip fuel [] next)))
          fun found => ∀ piece ∈ found, piece.Checked := by
      refine always_bind ((ih [] next).mono fun found behind => always_pure ?_)
      exact flush_checked (List.forall_mem_cons.mpr ⟨checked, behind⟩) kept
    rw [pieces.eq_def]
    dsimp only
    split
    · exact always_pure (flush_checked nothing pending)
    · exact onward _ _ (lineBreak_checked pending)
    · refine always_bind ((link?_checked references skip p).mono fun found leads => ?_)
      cases found with
      | none => exact ih _ _
      | some link =>
        refine always_bind ((label _).mono fun children inside => ?_)
        exact onward _ _ (.link (leads link rfl) inside)
    · refine always_bind ((image?_checked references skip p).mono fun found leads => ?_)
      cases found with
      | none => exact ih _ _
      | some image => exact onward _ _ (.image _ _ (leads image rfl))
    · exact onward _ _ (code_checked _)
    · rename_i c rest _ _ _ _ _
      split
      · split
        · exact ih _ _
        · refine always_bind ((ih [] _).mono fun found behind => always_pure ?_)
          exact flush_checked
            (List.forall_mem_append.mpr ⟨runPieces_checked _ _ _ _ _, behind⟩) pending
      · split
        · rename_i found
          exact onward _ _ (leaf?_checked found)
        · exact ih _ _

end Reading

/-! ## Spans -/

/-- Events whose leaves have been checked. -/
def Event.Checked : Event → Prop
  | .leaf piece => piece.Checked
  | _ => True

/-- The events of checked pieces are checked. -/
theorem events_checked (roles : List (Nat × Role)) (n : Nat) (pieces : List Piece)
    (checked : ∀ piece ∈ pieces, piece.Checked) :
    ∀ event ∈ events roles n pieces, event.Checked := by
  fun_induction events roles n pieces with
  | case1 n => exact List.forall_mem_nil _
  | case2 n piece pieces ih =>
    obtain ⟨here, behind⟩ := List.forall_mem_cons.mp checked
    exact List.forall_mem_cons.mpr ⟨here, ih behind⟩
  | case3 n pieces ih =>
    obtain ⟨-, behind⟩ := List.forall_mem_cons.mp checked
    exact List.forall_mem_cons.mpr ⟨trivial, ih behind⟩
  | case4 n pieces m ih =>
    obtain ⟨-, behind⟩ := List.forall_mem_cons.mp checked
    refine List.forall_mem_append.mpr ⟨?_, ih behind⟩
    split
    · exact List.forall_mem_singleton.mpr (.text _)
    · exact List.forall_mem_singleton.mpr trivial
    · exact List.forall_mem_singleton.mpr trivial
    · exact List.forall_mem_nil _

/-- Placing odd marks keeps events checked. -/
theorem placeOdd_checked (events : List Event) (checked : ∀ event ∈ events, event.Checked) :
    ∀ event ∈ placeOdd events, event.Checked := by
  fun_induction placeOdd events with
  | case1 => exact checked
  | case2 rest ih =>
    simp only [List.forall_mem_cons] at checked ih ⊢
    exact ⟨trivial, ih ⟨trivial, checked.2.2⟩⟩
  | case3 rest _ ih =>
    simp only [List.forall_mem_cons] at checked ⊢
    exact ⟨.text _, ih checked.2⟩
  | case4 event rest _ _ ih =>
    simp only [List.forall_mem_cons] at checked ⊢
    exact ⟨checked.1, ih checked.2⟩

/-- Spans that are given up leave checked pieces. -/
theorem giveUp_checked (spans : OpenSpans) (done : List Inline)
    (outer : ∀ entry ∈ spans, AllChecked entry.2) (checked : AllChecked done) :
    AllChecked (giveUp spans done) := by
  fun_induction giveUp spans done with
  | case1 done => exact allChecked_reverse.mpr checked
  | case2 done kind own spans ih =>
    obtain ⟨here, behind⟩ := List.forall_mem_cons.mp outer
    exact ih behind (allChecked_append.mpr ⟨checked, here⟩)

/-- Forming spans keeps the pieces, those of open spans included. -/
theorem nest_checked (spans : OpenSpans) (done : List Inline) (events : List Event)
    (outer : ∀ entry ∈ spans, AllChecked entry.2) (checked : AllChecked done)
    (all : ∀ event ∈ events, event.Checked) : AllChecked (nest spans done events) := by
  fun_induction nest spans done events with
  | case1 spans done => exact giveUp_checked spans done outer checked
  | case2 spans done piece rest ih =>
    obtain ⟨here, behind⟩ := List.forall_mem_cons.mp all
    exact ih outer (allChecked_cons.mpr ⟨here, checked⟩) behind
  | case3 spans done rest ih =>
    obtain ⟨-, behind⟩ := List.forall_mem_cons.mp all
    exact ih outer (allChecked_cons.mpr ⟨.text _, checked⟩) behind
  | case4 spans done kind rest ih =>
    obtain ⟨-, behind⟩ := List.forall_mem_cons.mp all
    exact ih (List.forall_mem_cons.mpr ⟨checked, outer⟩) allChecked_nil behind
  | case5 kind own spans done other rest ih =>
    obtain ⟨around, further⟩ := List.forall_mem_cons.mp outer
    obtain ⟨-, behind⟩ := List.forall_mem_cons.mp all
    have span : (Inline.span kind done.reverse).Checked :=
      .span kind (allChecked_reverse.mpr checked)
    exact ih further (allChecked_cons.mpr ⟨span, around⟩) behind
  | case6 done kind rest ih =>
    obtain ⟨-, behind⟩ := List.forall_mem_cons.mp all
    exact ih outer checked behind

/-- The spans of checked pieces are checked. -/
theorem spans_checked {pieces : List Piece} (checked : ∀ piece ∈ pieces, piece.Checked) :
    AllChecked (spans pieces) := by
  rw [spans]
  refine nest_checked _ _ _ (List.forall_mem_nil _) allChecked_nil ?_
  exact placeOdd_checked _ (events_checked _ _ _ checked)

/-! ## Texts -/

/-- A text in front of pieces leads nowhere. -/
theorem putText_checked (value : Text) {pieces : List Inline} (checked : AllChecked pieces) :
    AllChecked (Inline.putText value pieces) := by
  rw [Inline.putText.eq_def]
  split
  · exact allChecked_cons.mpr ⟨.text _, (allChecked_cons.mp checked).2⟩
  · split
    · exact checked
    · exact allChecked_cons.mpr ⟨.text _, checked⟩

mutual

/-- Joining the texts inside a piece keeps it checked. -/
theorem joinedPiece_checked (piece : Inline) (checked : piece.Checked) :
    (Inline.joinedPiece piece).Checked := by
  cases checked with
  | span kind inside =>
    rw [Inline.joinedPiece]
    exact .span kind (joined_checked _ inside)
  | link leads inside =>
    rw [Inline.joinedPiece]
    exact .link leads (joined_checked _ inside)
  | text value => exact .text value
  | code content => exact .code content
  | html content => exact .html content
  | softBreak => exact .softBreak
  | hardBreak => exact .hardBreak
  | image label alt leads => exact .image label alt leads

/-- Joining texts keeps pieces checked. -/
theorem joined_checked (pieces : List Inline) (checked : AllChecked pieces) :
    AllChecked (Inline.joined pieces) := by
  cases pieces with
  | nil => exact allChecked_nil
  | cons piece pieces =>
    obtain ⟨here, behind⟩ := allChecked_cons.mp checked
    have later := joined_checked pieces behind
    have own := joinedPiece_checked piece here
    cases piece with
    | text value =>
      rw [Inline.joined]
      exact putText_checked value later
    | _ =>
      rw [Inline.joined]
      · exact allChecked_cons.mpr ⟨own, later⟩
      · simp

end

section Texts

variable {references : References} (checked : references.Checked) (alt : Text → Text)

include checked

/-- With room for any number of brackets, the labels of links included. -/
theorem readLine_checked (room : Nat) (p : Place) :
    Always (readLine references alt room p) AllChecked := by
  induction room generalizing p with
  | zero =>
    refine always_pure ?_
    split
    · exact allChecked_nil
    · exact allChecked_cons.mpr ⟨.text _, allChecked_nil⟩
  | succ room ih =>
    refine always_bind ((pieces_checked _ _ checked ih _ _ p).mono fun found read => ?_)
    exact always_pure (spans_checked read)

/-- Everything that is read from a text leads to addresses that may be linked to, if the labels in
it do. -/
theorem readInline_checked (text : Text) : AllChecked (readInline references text) := by
  refine joined_checked _ ?_
  exact readLine_checked checked _ bracketLimit ⟨0, ' ', text⟩ ∅

end Texts

end Loremark.Markdown
