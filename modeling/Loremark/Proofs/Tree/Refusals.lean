import Loremark.Proofs.Embed.Readable
import Loremark.Proofs.Tree.Building

/-!
# Texts that cannot be rendered

A render stops at an embed whose number has too many digits, where reading blocks stops, and at a
region whose chapter number has too many digits. `Oversized` says that an outline holds such a
region; an outline is shown as one node at most (`shown_unique`), and not at all if it is oversized.
A text is rendered exactly if none of the three occurs (`exists_render_iff`).
-/

set_option autoImplicit false

namespace Loremark.Tree

open Markdown

variable {source : Source} {s t : Progress}

/-! ## One node for an outline -/

/-- The pieces of a text are shown in one way. -/
theorem shownPieces_unique {n later other : Nat} {pieces : List Embed.Segment}
    {nodes nodes' : List Node} (shown : ShownPieces source n pieces nodes later)
    (again : ShownPieces source n pieces nodes' other) : nodes = nodes' ∧ later = other := by
  induction shown generalizing nodes' with
  | nil n =>
    cases again
    exact ⟨rfl, rfl⟩
  | literal text behind ih =>
    cases again with
    | literal _ behind' =>
      obtain ⟨rfl, rfl⟩ := ih behind'
      exact ⟨rfl, rfl⟩
  | embed descriptor behind ih =>
    cases again with
    | embed _ behind' =>
      obtain ⟨rfl, rfl⟩ := ih behind'
      exact ⟨rfl, rfl⟩

/-- A text is shown in one way. -/
theorem shownText_unique {live : Bool} {n later other : Nat} {value : Text}
    {nodes nodes' : List Node} (shown : ShownText source live n value nodes later)
    (again : ShownText source live n value nodes' other) : nodes = nodes' ∧ later = other := by
  cases shown with
  | empty =>
    cases again with
    | empty => exact ⟨rfl, rfl⟩
    | restored nonempty => exact absurd rfl nonempty
    | split nonempty => exact absurd rfl nonempty
  | restored nonempty whole =>
    cases again with
    | empty => exact absurd rfl nonempty
    | restored => exact ⟨rfl, rfl⟩
    | split _ embeds =>
      rcases whole with dead | none
      · cases dead
      · exact absurd none embeds
  | split nonempty embeds pieces =>
    cases again with
    | empty => exact absurd rfl nonempty
    | restored _ whole =>
      rcases whole with dead | none
      · cases dead
      · exact absurd none embeds
    | split _ _ pieces' => exact shownPieces_unique pieces pieces'

mutual

/-- A piece of running text is shown in one way. -/
theorem shownInline_unique {live : Bool} {n later other : Nat} {piece : Inline}
    {nodes nodes' : List Node} (shown : ShownInline source live n piece nodes later)
    (again : ShownInline source live n piece nodes' other) : nodes = nodes' ∧ later = other := by
  cases shown with
  | text shown =>
    cases again with
    | text shown' => exact shownText_unique shown shown'
    | leaf leaf => cases leaf
  | leaf leaf =>
    cases again with
    | leaf leaf' =>
      obtain rfl := Option.some.inj (leaf.symm.trans leaf')
      exact ⟨rfl, rfl⟩
    | _ => cases leaf
  | span shown =>
    cases again with
    | leaf leaf => cases leaf
    | span shown' =>
      obtain ⟨rfl, rfl⟩ := shownInlines_unique shown shown'
      exact ⟨rfl, rfl⟩
  | link shown =>
    cases again with
    | leaf leaf => cases leaf
    | link shown' =>
      obtain ⟨rfl, rfl⟩ := shownInlines_unique shown shown'
      exact ⟨rfl, rfl⟩

/-- Running text is shown in one way. -/
theorem shownInlines_unique {live : Bool} {n later other : Nat} {pieces : List Inline}
    {nodes nodes' : List Node} (shown : ShownInlines source live n pieces nodes later)
    (again : ShownInlines source live n pieces nodes' other) :
    nodes = nodes' ∧ later = other := by
  cases shown with
  | nil =>
    cases again
    exact ⟨rfl, rfl⟩
  | cons here behind =>
    cases again with
    | cons here' behind' =>
      obtain ⟨rfl, rfl⟩ := shownInline_unique here here'
      obtain ⟨rfl, rfl⟩ := shownInlines_unique behind behind'
      exact ⟨rfl, rfl⟩

end

/-- A container is shown in one way. -/
theorem shownContainer_unique {className title text : Text} {children : List Node}
    {node node' : Node} (shown : ShownContainer className title text children node)
    (again : ShownContainer className title text children node') : node = node' := by
  cases shown with
  | bare detected =>
    cases again with
    | bare => rfl
    | gated detected' => cases detected.symm.trans detected'
  | gated detected =>
    cases again with
    | bare detected' => cases detected.symm.trans detected'
    | gated detected' =>
      obtain rfl := Option.some.inj (Except.ok.inj (detected.symm.trans detected'))
      rfl

/-- A quote is shown in one way. -/
theorem shownQuote_unique {children : List Node} {node node' : Node}
    (shown : ShownQuote children node) (again : ShownQuote children node') : node = node' := by
  cases shown with
  | bare plain =>
    cases again with
    | bare => rfl
    | gated marker => cases plain.symm.trans marker
  | gated marker detected =>
    cases again with
    | bare plain => cases plain.symm.trans marker
    | gated marker' detected' =>
      obtain rfl := Option.some.inj (Except.ok.inj (detected.symm.trans detected'))
      obtain ⟨-, rfl⟩ := Prod.mk.inj (Option.some.inj (marker.symm.trans marker'))
      rfl

mutual

/-- An outline is shown as one node at most, with the slots behind it numbered from one number. -/
theorem shown_unique {n later other : Nat} {outline : Outline} {node node' : Node}
    (shown : Shown source n outline node later) (again : Shown source n outline node' other) :
    node = node' ∧ later = other := by
  cases shown with
  | paragraph shown =>
    cases again with
    | paragraph shown' =>
      obtain ⟨rfl, rfl⟩ := shownInlines_unique shown shown'
      exact ⟨rfl, rfl⟩
  | heading shown =>
    cases again with
    | heading shown' =>
      obtain ⟨rfl, rfl⟩ := shownInlines_unique shown shown'
      exact ⟨rfl, rfl⟩
  | bulletList shown =>
    cases again with
    | bulletList shown' =>
      obtain ⟨rfl, rfl⟩ := shownAll_unique shown shown'
      exact ⟨rfl, rfl⟩
  | orderedList shown =>
    cases again with
    | orderedList shown' =>
      obtain ⟨rfl, rfl⟩ := shownAll_unique shown shown'
      exact ⟨rfl, rfl⟩
  | item shown =>
    cases again with
    | item shown' =>
      obtain ⟨rfl, rfl⟩ := shownAll_unique shown shown'
      exact ⟨rfl, rfl⟩
  | quote shown built =>
    cases again with
    | quote shown' built' =>
      obtain ⟨rfl, rfl⟩ := shownAll_unique shown shown'
      exact ⟨shownQuote_unique built built', rfl⟩
  | container shown built =>
    cases again with
    | container shown' built' =>
      obtain ⟨rfl, rfl⟩ := shownAll_unique shown shown'
      exact ⟨shownContainer_unique built built', rfl⟩
  | division shown built =>
    cases again with
    | division shown' built' =>
      obtain ⟨rfl, rfl⟩ := shownAll_unique shown shown'
      exact ⟨shownContainer_unique built built', rfl⟩
  | plain =>
    cases again
    exact ⟨rfl, rfl⟩

/-- Outlines are shown in one way. -/
theorem shownAll_unique {n later other : Nat} {outlines : List Outline}
    {nodes nodes' : List Node} (shown : ShownAll source n outlines nodes later)
    (again : ShownAll source n outlines nodes' other) : nodes = nodes' ∧ later = other := by
  cases shown with
  | nil =>
    cases again
    exact ⟨rfl, rfl⟩
  | cons here behind =>
    cases again with
    | cons here' behind' =>
      obtain ⟨rfl, rfl⟩ := shown_unique here here'
      obtain ⟨rfl, rfl⟩ := shownAll_unique behind behind'
      exact ⟨rfl, rfl⟩

end

/-! ## Numbers that are too long -/

/-- The outlines inside an outline. -/
def Outline.inside : Outline → List Outline
  | .bulletList children | .orderedList _ children | .item children | .quote children
  | .container _ children | .division _ children => children
  | .paragraph .. | .heading .. | .plain _ => []

/-- A marker at the beginning of a text has more digits than are read. -/
def LongMarker (text : Text) : Prop :=
  ∃ digits rest, Spoiler.marker? text = some (some digits, rest) ∧
    Text.digitLimit < digits.length

/-- A class gates a container, and the first mention of a chapter in its text has more digits than
are read. -/
def LongMention (className text : Text) : Prop :=
  Spoiler.mentionsSpoiler className = true ∧
    ∃ digits, Spoiler.firstMention? text = some digits ∧ Text.digitLimit < digits.length

mutual

/-- An outline holds a region whose number is too long to be read, and everything in front of that
region is shown. -/
inductive Oversized (source : Source) : Nat → Outline → Prop
  | inside {n : Nat} {outline : Outline} (among : OversizedAmong source n outline.inside) :
      Oversized source n outline
  | quote {n later : Nat} {children : List Outline} {nodes : List Node}
      (shown : ShownAll source n children nodes later) (long : LongMarker (Node.flatten nodes)) :
      Oversized source n (.quote children)
  | container {n later : Nat} {info : Text} {children : List Outline} {nodes : List Node}
      (shown : ShownAll source n children nodes later)
      (long : LongMention containerName (Text.trim info ++ '\n' :: Node.flatten nodes)) :
      Oversized source n (.container info children)
  | division {n later : Nat} {className : Text} {children : List Outline} {nodes : List Node}
      (shown : ShownAll source n children nodes later)
      (long : LongMention className (Node.flatten nodes)) :
      Oversized source n (.division className children)

/-- One of several outlines is oversized. -/
inductive OversizedAmong (source : Source) : Nat → List Outline → Prop
  | here {n : Nat} {outline : Outline} {outlines : List Outline}
      (first : Oversized source n outline) : OversizedAmong source n (outline :: outlines)
  | behind {n middle : Nat} {outline : Outline} {outlines : List Outline} {node : Node}
      (shown : Shown source n outline node middle)
      (later : OversizedAmong source middle outlines) :
      OversizedAmong source n (outline :: outlines)

end

/-- A marker is refused exactly if it has too many digits. -/
theorem detectQuote_error_iff (text : Text) :
    (∃ cause, Spoiler.detectQuote text = .error cause) ↔ LongMarker text := by
  rw [Spoiler.detectQuote, LongMarker]
  cases marker : Spoiler.marker? text with
  | none =>
    constructor
    · rintro ⟨_, same⟩
      cases same
    · rintro ⟨_, _, same, -⟩
      cases same
  | some cut =>
    obtain ⟨_ | digits, rest⟩ := cut
    · constructor
      · rintro ⟨_, same⟩
        cases same
      · rintro ⟨_, _, same, -⟩
        cases same
    · dsimp only [Spoiler.chapterOf, Text.readDigits]
      split
      · rename_i long
        exact ⟨fun _ => ⟨digits, rest, rfl, long⟩, fun _ => ⟨_, rfl⟩⟩
      · rename_i short
        constructor
        · rintro ⟨_, same⟩
          cases same
        · rintro ⟨_, _, same, long⟩
          cases same
          exact absurd long short

/-- A container is refused exactly if its first mention has too many digits. -/
theorem detectContainer_error_iff (className text : Text) :
    (∃ cause, Spoiler.detectContainer text (some className) = .error cause) ↔
      LongMention className text := by
  rw [Spoiler.detectContainer, LongMention, Spoiler.isSpoilerClass]
  split
  · rename_i gated
    rw [and_iff_right gated]
    cases mention : Spoiler.firstMention? text with
    | none =>
      constructor
      · rintro ⟨_, same⟩
        cases same
      · rintro ⟨_, same, -⟩
        cases same
    | some digits =>
      dsimp only [Spoiler.chapterOf, Text.readDigits]
      split
      · rename_i long
        exact ⟨fun _ => ⟨digits, rfl, long⟩, fun _ => ⟨_, rfl⟩⟩
      · rename_i short
        constructor
        · rintro ⟨_, same⟩
          cases same
        · rintro ⟨_, same, long⟩
          cases same
          exact absurd long short
  · rename_i bare
    constructor
    · rintro ⟨_, same⟩
      cases same
    · exact fun ⟨gated, _⟩ => absurd gated bare

/-- A quote that is shown has no long marker. -/
theorem ShownQuote.not_long {children : List Node} {node : Node}
    (shown : ShownQuote children node) : ¬ LongMarker (Node.flatten children) := by
  cases shown with
  | bare plain =>
    rintro ⟨digits, rest, marker, -⟩
    rw [plain] at marker
    cases marker
  | gated marker detected =>
    intro long
    obtain ⟨cause, failed⟩ := (detectQuote_error_iff _).mpr long
    cases detected.symm.trans failed

/-- A container that is shown has no long mention. -/
theorem ShownContainer.not_long {className title text : Text} {children : List Node} {node : Node}
    (shown : ShownContainer className title text children node) :
    ¬ LongMention className text := by
  intro long
  obtain ⟨cause, failed⟩ := (detectContainer_error_iff _ _).mpr long
  cases shown with
  | bare detected => cases detected.symm.trans failed
  | gated detected => cases detected.symm.trans failed

mutual

/-- An outline that is shown is not oversized. -/
theorem Shown.not_oversized {n later : Nat} {outline : Outline} {node : Node}
    (shown : Shown source n outline node later) : ¬ Oversized source n outline := by
  intro oversized
  cases shown with
  | paragraph shown => cases oversized with | inside among => cases among
  | heading shown => cases oversized with | inside among => cases among
  | plain => cases oversized with | inside among => cases among
  | bulletList shown => cases oversized with | inside among => exact shown.not_oversized among
  | orderedList shown => cases oversized with | inside among => exact shown.not_oversized among
  | item shown => cases oversized with | inside among => exact shown.not_oversized among
  | quote shown built =>
    cases oversized with
    | inside among => exact shown.not_oversized among
    | quote shown' long =>
      obtain ⟨rfl, -⟩ := shownAll_unique shown shown'
      exact built.not_long long
  | container shown built =>
    cases oversized with
    | inside among => exact shown.not_oversized among
    | container shown' long =>
      obtain ⟨rfl, -⟩ := shownAll_unique shown shown'
      exact built.not_long long
  | division shown built =>
    cases oversized with
    | inside among => exact shown.not_oversized among
    | division shown' long =>
      obtain ⟨rfl, -⟩ := shownAll_unique shown shown'
      exact built.not_long long

/-- Outlines that are shown are not oversized. -/
theorem ShownAll.not_oversized {n later : Nat} {outlines : List Outline} {nodes : List Node}
    (shown : ShownAll source n outlines nodes later) : ¬ OversizedAmong source n outlines := by
  intro oversized
  cases shown with
  | nil => cases oversized
  | cons here behind =>
    cases oversized with
    | here first => exact here.not_oversized first
    | behind shown' later =>
      obtain ⟨rfl, rfl⟩ := shown_unique here shown'
      exact behind.not_oversized later

end

/-! ## Steps that fail -/

/-- A step of a render fails. -/
def Fails {α : Type} (step : Build α) (before : Progress) : Prop :=
  ∃ cause behind, step.run.run before = (.error cause, behind)

section Fails

variable {α β : Type}

/-- A value that is there already does not fail. -/
theorem not_fails_pure {value : α} : ¬ Fails (pure value) s := by
  rintro ⟨_, _, same⟩
  cases same

/-- Two steps fail exactly if the first one does, or the second one behind it. -/
theorem fails_bind {step : Build α} {next : α → Build β} :
    Fails (step >>= next) s ↔ Fails step s ∨ ∃ a u, Gives step s a u ∧ Fails (next a) u := by
  simp only [Fails, Gives, ExceptT.run_bind, StateT.run_bind]
  cases ran : step.run.run s with
  | mk result u =>
    cases result with
    | ok a =>
      constructor
      · exact fun later => .inr ⟨a, u, rfl, later⟩
      · rintro (⟨_, _, same⟩ | ⟨_, _, same, later⟩)
        · cases same
        · cases same
          exact later
    | error cause =>
      constructor
      · exact fun _ => .inl ⟨cause, u, rfl⟩
      · exact fun _ => ⟨cause, u, rfl⟩

/-- A function of a value fails where the value does. -/
theorem fails_map {step : Build α} {f : α → β} :
    Fails (step >>= fun a => pure (f a)) s ↔ Fails step s := by
  rw [fails_bind]
  exact ⟨fun fails => fails.resolve_right fun ⟨_, _, _, later⟩ => not_fails_pure later, .inl⟩

/-- A step gives something or fails. -/
theorem gives_or_fails (step : Build α) (s : Progress) :
    (∃ a t, Gives step s a t) ∨ Fails step s := by
  cases ran : step.run.run s with
  | mk result t =>
    cases result with
    | ok a => exact .inl ⟨a, t, ran⟩
    | error cause => exact .inr ⟨cause, t, ran⟩

/-- A step that gives something does not fail. -/
theorem Gives.not_fails {step : Build α} {a : α} (gives : Gives step s a t) : ¬ Fails step s := by
  rintro ⟨_, _, failed⟩
  cases gives.symm.trans failed

/-- A result fails only where it is an error. -/
theorem fails_orFail {result : Except Text.NumeralError α} (fails : Fails (orFail result) s) :
    ∃ cause, result = .error cause := by
  cases result with
  | ok value => exact absurd fails not_fails_pure
  | error cause => exact ⟨cause, rfl⟩

/-- A change of the progress does not fail. -/
theorem not_fails_modify {change : Progress → Progress} : ¬ Fails (modify change) s := by
  rintro ⟨_, _, same⟩
  cases same

/-- Reporting a region does not fail. -/
theorem not_fails_reportSpoiler {region : Spoiler.Region} : ¬ Fails (reportSpoiler region) s :=
  not_fails_modify

end Fails

/-- Building a quote fails only because of a long marker. -/
theorem quoteNode_fails {children : List Node} (fails : Fails (quoteNode children) s) :
    LongMarker (Node.flatten children) := by
  rw [quoteNode] at fails
  rcases fails_bind.mp fails with tried | ⟨found, u, -, later⟩
  · exact (detectQuote_error_iff _).mp (fails_orFail tried)
  · exfalso
    dsimp only at later
    split at later
    · exact not_fails_reportSpoiler (fails_map.mp later)
    · exact not_fails_pure later

/-- Building a container fails only because of a long mention. -/
theorem containerNode_fails {className title text : Text} {children : List Node}
    (fails : Fails (containerNode className title text children) s) :
    LongMention className text := by
  rw [containerNode] at fails
  rcases fails_bind.mp fails with tried | ⟨found, u, -, later⟩
  · exact (detectContainer_error_iff _ _).mp (fails_orFail tried)
  · exfalso
    cases found with
    | none => exact not_fails_pure later
    | some region => exact not_fails_reportSpoiler (fails_map.mp later)

/-! ## Running text -/

/-- Steps none of which fails do not fail one behind the other. -/
theorem not_fails_mapM {α β : Type} {f : α → Build β}
    (never : ∀ a (s : Progress), ¬ Fails (f a) s) (as : List α) (s : Progress) :
    ¬ Fails (as.mapM f) s := by
  induction as generalizing s with
  | nil => exact not_fails_pure
  | cons a as ih =>
    intro fails
    rw [List.mapM_cons] at fails
    rcases fails_bind.mp fails with here | ⟨_, _, -, later⟩
    · exact never a s here
    · exact ih _ (fails_map.mp later)

/-- Building a text does not fail. -/
theorem not_fails_textNodes {live : Bool} {value : Text} :
    ¬ Fails (textNodes source live value) s := by
  intro fails
  rw [textNodes] at fails
  split at fails
  · exact not_fails_pure fails
  · split at fails
    · exact not_fails_pure fails
    · refine not_fails_mapM (fun piece s => ?_) _ _ fails
      cases piece with
      | literal text => exact not_fails_pure
      | embed descriptor =>
        rintro ⟨_, _, failed⟩
        cases failed

mutual

/-- Building a piece of running text does not fail. -/
theorem not_fails_inlineNode {live : Bool} (piece : Inline) {s : Progress} :
    ¬ Fails (inlineNode source live piece) s := by
  intro fails
  cases piece with
  | text value => exact not_fails_textNodes fails
  | softBreak => exact not_fails_pure fails
  | hardBreak => exact not_fails_pure fails
  | code content => exact not_fails_pure fails
  | html content => exact not_fails_pure fails
  | image target label alt => exact not_fails_pure fails
  | span kind children =>
    rw [inlineNode] at fails
    exact not_fails_inlineNodes children (fails_map.mp fails)
  | link target children =>
    rw [inlineNode] at fails
    exact not_fails_inlineNodes children (fails_map.mp fails)

/-- Building running text does not fail. -/
theorem not_fails_inlineNodes {live : Bool} (pieces : List Inline) {s : Progress} :
    ¬ Fails (inlineNodes source live pieces) s := by
  intro fails
  cases pieces with
  | nil => exact not_fails_pure fails
  | cons piece pieces =>
    rw [inlineNodes] at fails
    rcases fails_bind.mp fails with here | ⟨_, _, -, later⟩
    · exact not_fails_inlineNode piece here
    · exact not_fails_inlineNodes pieces (fails_map.mp later)

end

/-! ## Blocks -/

/-- Where reading gives outlines and building fails, an outline is oversized. -/
def Stumbles (source : Source) (build : Build (List Node)) (read : Reading (List Outline)) : Prop :=
  ∀ (s : Progress) (outlines : List Outline) (references : References), Fails build s →
    read s.references = .ok (outlines, references) → OversizedAmong source s.slots outlines

/-- Reading a text inside a block fails only where the text cannot be read. -/
theorem readInside_fails {text : Text} (fails : Fails (readInside text) s) :
    ∃ cause, readText text s.references = .error cause := by
  rw [readInside] at fails
  obtain ⟨progress, u, got, later⟩ :=
    (fails_bind.mp fails).resolve_left (Gives.not_fails (gives_get.mpr ⟨rfl, rfl⟩))
  obtain ⟨rfl, rfl⟩ := gives_get.mp got
  rw [readText]
  split at later
  · rename_i cause failed
    exact ⟨cause, by rw [failed]; rfl⟩
  · exact absurd (fails_map.mp later) not_fails_modify

section Blocks

variable {deeper : Blocks → Build (List Node)} {read : Blocks → Reading (List Outline)}
  {references : References}

/-- A division that is read and not built is oversized. -/
theorem divisionNode_fails (shows : ∀ blocks, Shows source (deeper blocks) (read blocks))
    (stumbles : ∀ blocks, Stumbles source (deeper blocks) (read blocks)) {start : DivisionStart}
    {blocks : Blocks} {outline : Outline} (fails : Fails (divisionNode deeper start blocks) s)
    (ok : outlineDivision read start blocks s.references = .ok (outline, references)) :
    Oversized source s.slots outline := by
  -- The content of the division behind what is read from the rest of its first piece.
  have inside {first : Blocks} {u : Progress} (fails : Fails (do
        let children ← deeper (first ++ blocks.take start.inside)
        containerNode start.className [] (Node.flatten children) children) u)
      (ok : (do
        let children ← read (first ++ blocks.take start.inside)
        pure (Outline.division start.className children) : Reading Outline) u.references =
          .ok (outline, references)) : Oversized source u.slots outline := by
    obtain ⟨outlines, readOk, rfl⟩ := of_reading_map ok
    rcases fails_bind.mp fails with content | ⟨children, v, content, later⟩
    · exact .inside (stumbles _ _ _ _ content readOk)
    · obtain ⟨outlines', readOk', shown⟩ := shows _ _ _ _ content
      obtain ⟨rfl, -⟩ := Prod.mk.inj (Except.ok.inj (readOk.symm.trans readOk'))
      exact .division shown (containerNode_fails later)
  rw [divisionNode] at fails
  rw [outlineDivision] at ok
  split at fails
  · rename_i blank
    rw [if_pos blank] at ok
    exact inside fails ok
  · rename_i more
    rw [if_neg more] at ok
    obtain ⟨first, middle, readFirst, later⟩ := of_reading_bind ok
    rcases fails_bind.mp fails with began | ⟨first', u, began, failed⟩
    · obtain ⟨cause, stopped⟩ := readInside_fails began
      cases stopped.symm.trans readFirst
    · obtain ⟨readFirst', slots⟩ := readInside_gives began
      obtain ⟨rfl, rfl⟩ := Prod.mk.inj (Except.ok.inj (readFirst.symm.trans readFirst'))
      exact slots ▸ inside failed later

mutual

/-- A block that is read and not built is oversized. -/
theorem blockNode_fails (shows : ∀ blocks, Shows source (deeper blocks) (read blocks))
    (stumbles : ∀ blocks, Stumbles source (deeper blocks) (read blocks))
    (block : Block (List Inline)) {s : Progress} {outline : Outline} {references : References}
    (fails : Fails (blockNode deeper source block) s)
    (ok : outlineBlock read block s.references = .ok (outline, references)) :
    Oversized source s.slots outline := by
  cases block with
  | paragraph tight content =>
    rw [blockNode] at fails
    exact absurd (fails_map.mp fails) (not_fails_inlineNodes content)
  | heading level content =>
    rw [blockNode] at fails
    exact absurd (fails_map.mp fails) (not_fails_inlineNodes content)
  | bulletList items =>
    rw [blockNode] at fails
    rw [outlineBlock] at ok
    obtain ⟨outlines, readOk, rfl⟩ := of_reading_map ok
    exact .inside (blockNodes_fails shows stumbles 0 items _ _ _ (fails_map.mp fails) readOk)
  | orderedList start items =>
    rw [blockNode] at fails
    rw [outlineBlock] at ok
    obtain ⟨outlines, readOk, rfl⟩ := of_reading_map ok
    exact .inside (blockNodes_fails shows stumbles 0 items _ _ _ (fails_map.mp fails) readOk)
  | item children =>
    rw [blockNode] at fails
    rw [outlineBlock] at ok
    obtain ⟨outlines, readOk, rfl⟩ := of_reading_map ok
    exact .inside (blockNodes_fails shows stumbles 0 children _ _ _ (fails_map.mp fails) readOk)
  | quote children =>
    rw [blockNode] at fails
    rw [outlineBlock] at ok
    obtain ⟨outlines, readOk, rfl⟩ := of_reading_map ok
    -- Building fails inside the quote, or its marker is too long once the inside has been built.
    rcases fails_bind.mp fails with inside | ⟨nodes, u, inside, built⟩
    · exact .inside (blockNodes_fails shows stumbles 0 children _ _ _ inside readOk)
    · obtain ⟨outlines', readOk', shown⟩ := blockNodes_shown shows 0 children _ _ _ inside
      obtain ⟨rfl, -⟩ := Prod.mk.inj (Except.ok.inj (readOk.symm.trans readOk'))
      exact .quote shown (quoteNode_fails built)
  | container info children =>
    rw [blockNode] at fails
    rw [outlineBlock] at ok
    obtain ⟨outlines, readOk, rfl⟩ := of_reading_map ok
    rcases fails_bind.mp fails with inside | ⟨nodes, u, inside, built⟩
    · exact .inside (blockNodes_fails shows stumbles 0 children _ _ _ inside readOk)
    · obtain ⟨outlines', readOk', shown⟩ := blockNodes_shown shows 0 children _ _ _ inside
      obtain ⟨rfl, -⟩ := Prod.mk.inj (Except.ok.inj (readOk.symm.trans readOk'))
      exact .container shown (containerNode_fails built)
  | _ => exact absurd fails not_fails_pure

/-- Blocks that are read and not built are oversized. -/
theorem blockNodes_fails (shows : ∀ blocks, Shows source (deeper blocks) (read blocks))
    (stumbles : ∀ blocks, Stumbles source (deeper blocks) (read blocks)) (skip : Nat)
    (blocks : Blocks) :
    Stumbles source (blockNodes deeper source skip blocks) (outlineBlocks read skip blocks) := by
  intro s outlines references fails ok
  cases blocks with
  | nil => cases skip <;> exact absurd fails not_fails_pure
  | cons block blocks =>
    cases skip with
    | succ skip => exact blockNodes_fails shows stumbles skip blocks s outlines _ fails ok
    | zero =>
      rw [blockNodes] at fails
      rw [outlineBlocks] at ok
      split at fails
      · rename_i start found
        rw [found] at ok
        obtain ⟨outline, middle, first, others⟩ := of_reading_bind ok
        obtain ⟨later, readOthers, rfl⟩ := of_reading_map others
        rcases fails_bind.mp fails with here | ⟨node, u, here, behind⟩
        · exact .here (divisionNode_fails shows stumbles here first)
        · obtain ⟨outline', first', shown⟩ := divisionNode_shown shows here
          obtain ⟨rfl, rfl⟩ := Prod.mk.inj (Except.ok.inj (first.symm.trans first'))
          exact .behind shown (blockNodes_fails shows stumbles start.used blocks _ _ _
            (fails_map.mp behind) readOthers)
      · rename_i plain
        rw [plain] at ok
        obtain ⟨outline, middle, first, others⟩ := of_reading_bind ok
        obtain ⟨later, readOthers, rfl⟩ := of_reading_map others
        rcases fails_bind.mp fails with here | ⟨node, u, here, behind⟩
        · exact .here (blockNode_fails shows stumbles block here first)
        · obtain ⟨outline', first', shown⟩ := blockNode_shown shows block here
          obtain ⟨rfl, rfl⟩ := Prod.mk.inj (Except.ok.inj (first.symm.trans first'))
          exact .behind shown (blockNodes_fails shows stumbles 0 blocks _ _ _
            (fails_map.mp behind) readOthers)

end

end Blocks

/-- Blocks that are read and not built are oversized, however deep. -/
theorem nodesOf_fails (fuel : Nat) (blocks : Blocks) :
    Stumbles source (nodesOf source fuel blocks) (outlinesOf fuel blocks) := by
  have nothing (blocks : Blocks) : Shows source (pure []) (pure []) := by
    intro s nodes t gives
    obtain ⟨rfl, rfl⟩ := gives_pure.mp gives
    exact ⟨[], rfl, .nil t.slots⟩
  induction fuel generalizing blocks with
  | zero =>
    exact blockNodes_fails nothing (fun _ _ _ _ fails _ => absurd fails not_fails_pure) 0 blocks
  | succ fuel ih => exact blockNodes_fails (nodesOf_shown fuel) ih 0 blocks

/-! ## Renders -/

/-- The text that a render reads, with the embeds cut out if they are enabled. -/
def extracted (embedsEnabled : Bool) (content : Text) : Except Text.NumeralError Embed.Parsed :=
  if embedsEnabled then Embed.extract (Text.unifyNewlines content)
  else .ok ⟨Text.unifyNewlines content, []⟩

/-- A text is rendered if its embeds are cut out and its tree is built. -/
theorem exists_render_iff_gives (style : Style) (embedsEnabled : Bool) (content : Text) :
    (∃ rendered, (render style embedsEnabled content).1 = .ok rendered) ↔
      ∃ parsed, extracted embedsEnabled content = .ok parsed ∧
        ∃ nodes progress, Gives (build ⟨parsed, style⟩) {} nodes progress := by
  rw [render, extracted]
  dsimp only
  split
  · rename_i cause stopped
    rw [stopped]
    constructor
    · rintro ⟨_, same⟩
      cases same
    · rintro ⟨_, same, -⟩
      cases same
  · rename_i parsed cut
    rw [cut]
    cases built : (build ⟨parsed, style⟩).run.run {} with
    | mk result progress =>
      cases result with
      | error cause =>
        constructor
        · rintro ⟨_, same⟩
          cases same
        · rintro ⟨_, same, nodes, behind, gives⟩
          cases same
          cases built.symm.trans gives
      | ok nodes => exact ⟨fun _ => ⟨parsed, rfl, nodes, progress, built⟩, fun _ => ⟨_, rfl⟩⟩

/-- A tree is built exactly if the outline of the text is read and holds no number that is too
long. -/
theorem exists_build_iff (source : Source) :
    (∃ nodes progress, Gives (build source) {} nodes progress) ↔
      ∃ outlines, outlineOf source.parsed = .ok outlines ∧ ¬ OversizedAmong source 0 outlines := by
  constructor
  · rintro ⟨nodes, progress, gives⟩
    obtain ⟨outlines, readOk, shown⟩ := build_shown gives
    exact ⟨outlines, readOk, shown.not_oversized⟩
  · rintro ⟨outlines, readOk, fine⟩
    refine (gives_or_fails (build source) {}).resolve_right fun fails => fine ?_
    obtain ⟨⟨blocks, references⟩, readBlocks, later⟩ := of_except_bind readOk
    obtain ⟨⟨_, last⟩, readOutlines, same⟩ := of_except_bind later
    cases same
    rw [build] at fails
    rcases fails_bind.mp fails with began | ⟨blocks', u, began, failed⟩
    · obtain ⟨cause, stopped⟩ := readInside_fails began
      cases readBlocks.symm.trans stopped
    · obtain ⟨readBlocks', slots⟩ := readInside_gives began
      obtain ⟨rfl, rfl⟩ := Prod.mk.inj (Except.ok.inj (readBlocks.symm.trans readBlocks'))
      have oversized := nodesOf_fails _ _ _ _ _ failed readOutlines
      have unnumbered : u.slots = 0 := slots
      rwa [unnumbered] at oversized

/-- A text is rendered exactly if none of its embeds has too many digits, its blocks and those of
its divisions can be read, and no region that is gated in it has a chapter number with too many
digits. -/
theorem exists_render_iff (style : Style) (embedsEnabled : Bool) (content : Text) :
    (∃ rendered, (render style embedsEnabled content).1 = .ok rendered) ↔
      (embedsEnabled = true →
        ∀ w ∈ Embed.writtenIn 0 (Text.unifyNewlines content), w.Readable) ∧
      ∀ parsed, extracted embedsEnabled content = .ok parsed →
        ∃ outlines, outlineOf parsed = .ok outlines ∧
          ¬ OversizedAmong ⟨parsed, style⟩ 0 outlines := by
  have cut : (∃ parsed, extracted embedsEnabled content = .ok parsed) ↔
      (embedsEnabled = true →
        ∀ w ∈ Embed.writtenIn 0 (Text.unifyNewlines content), w.Readable) := by
    rw [extracted, ← Embed.exists_extract_iff]
    split
    · rename_i enabled
      exact ⟨fun found _ => found, fun found => found enabled⟩
    · rename_i disabled
      exact ⟨fun _ enabled => absurd enabled disabled, fun _ => ⟨_, rfl⟩⟩
  rw [exists_render_iff_gives]
  constructor
  · rintro ⟨parsed, ok, built⟩
    refine ⟨cut.mp ⟨parsed, ok⟩, fun parsed' ok' => ?_⟩
    obtain rfl := Except.ok.inj (ok.symm.trans ok')
    exact (exists_build_iff ⟨parsed, style⟩).mp built
  · rintro ⟨short, fine⟩
    obtain ⟨parsed, ok⟩ := cut.mpr short
    exact ⟨parsed, ok, (exists_build_iff ⟨parsed, style⟩).mpr (fine parsed ok)⟩

/-- A text that is one embed, of an arc, with a number that is too long is not rendered. -/
theorem not_exists_render_arc {style : Style} {digits : Text}
    (all : ∀ c ∈ digits, Text.isDigit c = true) (long : Text.digitLimit < digits.length) :
    ¬ ∃ rendered, (render style true (Embed.Written.mk .arc digits none).toText).1 =
      .ok rendered := by
  let w : Embed.Written := ⟨.arc, digits, none⟩
  have wellFormed : w.WellFormed := by
    refine ⟨List.ne_nil_of_length_pos (Nat.zero_lt_of_lt long), all, ?_⟩
    exact fun _ none => absurd none (Option.not_mem_none _)
  have noReturn : '\r' ∉ w.toText := by
    have noDigit : '\r' ∉ digits := fun mem => by cases all _ mem
    have front : '\r' ∉ Embed.opening ++ Kind.arc.name ++ [':'] := by decide
    have behind : '\r' ∉ Embed.closing := by decide
    rw [Embed.Written.toText]
    simp_all [w]
  rw [exists_render_iff_gives, extracted, if_pos rfl, Text.unifyNewlines_of_not_mem noReturn]
  rintro ⟨parsed, cut, -⟩
  have readable := (Embed.exists_extract_iff w.toText).mp ⟨parsed, cut⟩
  have written := Embed.writtenIn_toText wellFormed []
  rw [List.append_nil] at written
  rw [written] at readable
  exact Nat.not_le.mpr long (readable w List.mem_cons_self)

/-- A number with one digit more than is read stops the render of its embed. -/
theorem not_exists_render_longArc :
    ¬ ∃ rendered, (render {} true
      (Embed.Written.mk .arc (List.replicate (Text.digitLimit + 1) '1') none).toText).1 =
        .ok rendered := by
  refine not_exists_render_arc (fun c mem => ?_) ?_
  · rw [List.eq_of_mem_replicate mem]
    rfl
  · rw [List.length_replicate]
    exact Nat.lt_succ_self _

end Loremark.Tree
