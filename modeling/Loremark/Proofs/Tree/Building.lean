import Loremark.Proofs.Markdown.PlainText
import Loremark.Proofs.Results
import Loremark.Proofs.Tree.Outline

/-!
# Building shows the outline

Every step of a render that succeeds is taken apart by `gives_bind`. Going through the steps of
`blockNodes` beside those of `outlineBlocks` gives that the nodes of a document are those that its
outline is shown as (`nodesOf_shown`, `render_shown`).
-/

set_option autoImplicit false

namespace Loremark.Tree

open Markdown

/-! ## Steps that succeed -/

/-- A step of a render gives a value, and `behind` has happened then. -/
def Gives {α : Type} (step : Build α) (before : Progress) (value : α) (behind : Progress) : Prop :=
  step.run.run before = (.ok value, behind)

section Gives

variable {α β : Type} {s t : Progress} {a : α} {b : β}

/-- A value that is there already is given without doing anything. -/
theorem gives_pure {value : α} : Gives (pure value) s a t ↔ a = value ∧ t = s := by
  rw [Gives, ExceptT.run_pure, StateT.run_pure]
  constructor
  · intro same
    cases same
    exact ⟨rfl, rfl⟩
  · rintro ⟨rfl, rfl⟩
    rfl

/-- Two steps succeed exactly if the first one does and the second one does behind it. -/
theorem gives_bind {step : Build α} {next : α → Build β} :
    Gives (step >>= next) s b t ↔ ∃ a u, Gives step s a u ∧ Gives (next a) u b t := by
  simp only [Gives, ExceptT.run_bind, StateT.run_bind]
  cases ran : step.run.run s with
  | mk result u =>
    cases result with
    | ok a =>
      constructor
      · intro later
        exact ⟨a, u, rfl, later⟩
      · rintro ⟨_, _, same, later⟩
        cases same
        exact later
    | error cause =>
      constructor
      · intro failed
        cases failed
      · rintro ⟨_, _, same, _⟩
        cases same

/-- A step whose value is put into another one. -/
theorem gives_map {step : Build α} {f : α → β} :
    Gives (step >>= fun a => pure (f a)) s b t ↔ ∃ a, Gives step s a t ∧ b = f a := by
  rw [gives_bind]
  constructor
  · rintro ⟨a, u, here, done⟩
    obtain ⟨rfl, rfl⟩ := gives_pure.mp done
    exact ⟨a, here, rfl⟩
  · rintro ⟨a, here, rfl⟩
    exact ⟨a, t, here, gives_pure.mpr ⟨rfl, rfl⟩⟩

/-- The progress that is asked for is the present one. -/
theorem gives_get {value : Progress} : Gives get s value t ↔ value = s ∧ t = s := by
  constructor
  · intro same
    cases same
    exact ⟨rfl, rfl⟩
  · rintro ⟨rfl, rfl⟩
    rfl

/-- A change of the progress gives nothing but the change. -/
theorem gives_modify {change : Progress → Progress} {value : Unit} :
    Gives (modify change) s value t ↔ t = change s := by
  constructor
  · intro same
    cases same
    rfl
  · rintro rfl
    rfl

/-- A failure gives nothing. -/
theorem not_gives_throw {cause : BuildError} : ¬ Gives (throw cause) s a t := by
  intro same
  cases same

/-- A result that may be an error is given where it is none. -/
theorem gives_orFail {result : Except Text.NumeralError α} :
    Gives (orFail result) s a t ↔ result = .ok a ∧ t = s := by
  cases result with
  | ok value =>
    rw [orFail, gives_pure, Except.ok.injEq, eq_comm]
  | error cause =>
    constructor
    · intro failed
      exact absurd failed not_gives_throw
    · rintro ⟨same, -⟩
      cases same

/-- Events do not matter to what comes next. -/
theorem gives_reportSpoiler {region : Spoiler.Region} {value : Unit}
    (gives : Gives (reportSpoiler region) s value t) :
    t.slots = s.slots ∧ t.references = s.references := by
  rw [reportSpoiler, gives_modify] at gives
  rw [gives]
  exact ⟨rfl, rfl⟩

end Gives

variable {source : Source} {s t : Progress}

/-! ## Running text -/

/-- A new slot is the next one, and takes one number. -/
theorem newSlot_gives {descriptor : Embed.Descriptor} {node : Node}
    (gives : Gives (newSlot source descriptor) s node t) :
    node = slotNode source s.slots descriptor ∧ t.slots = s.slots + 1 ∧
      t.references = s.references := by
  obtain ⟨progress, u, got, changed⟩ := gives_bind.mp gives
  obtain ⟨rfl, rfl⟩ := gives_get.mp got
  obtain ⟨_, v, counted, made⟩ := gives_bind.mp changed
  obtain ⟨rfl, rfl⟩ := gives_pure.mp made
  rw [gives_modify.mp counted]
  exact ⟨rfl, rfl, rfl⟩

/-- The nodes of the pieces of a live text. -/
theorem pieces_shown {pieces : List Embed.Segment} {nodes : List Node}
    (gives : Gives (pieces.mapM fun piece =>
      match piece with
      | .literal text => pure (.text text)
      | .embed descriptor => newSlot source descriptor) s nodes t) :
    ShownPieces source s.slots pieces nodes t.slots ∧ t.references = s.references := by
  induction pieces generalizing s nodes with
  | nil =>
    obtain ⟨rfl, rfl⟩ := gives_pure.mp gives
    exact ⟨.nil t.slots, rfl⟩
  | cons piece pieces ih =>
    rw [List.mapM_cons] at gives
    obtain ⟨node, u, here, later⟩ := gives_bind.mp gives
    obtain ⟨others, behind, rfl⟩ := gives_map.mp later
    obtain ⟨shown, same⟩ := ih behind
    cases piece with
    | literal text =>
      obtain ⟨rfl, rfl⟩ := gives_pure.mp here
      exact ⟨.literal text shown, same⟩
    | embed descriptor =>
      obtain ⟨rfl, slots, references⟩ := newSlot_gives here
      rw [slots] at shown
      exact ⟨.embed descriptor shown, same.trans references⟩

/-- A text is built as it is shown. -/
theorem textNodes_shown {live : Bool} {value : Text} {nodes : List Node}
    (gives : Gives (textNodes source live value) s nodes t) :
    ShownText source live s.slots value nodes t.slots ∧ t.references = s.references := by
  rw [textNodes] at gives
  split at gives
  · rename_i empty
    obtain ⟨rfl, rfl⟩ := gives_pure.mp gives
    rw [List.isEmpty_iff.mp empty]
    exact ⟨.empty live t.slots, rfl⟩
  · rename_i nonempty
    have value_ne : value ≠ [] := fun empty => nonempty (List.isEmpty_iff.mpr empty)
    split at gives
    · rename_i whole
      obtain ⟨rfl, rfl⟩ := gives_pure.mp gives
      refine ⟨.restored value_ne ?_, rfl⟩
      simpa using whole
    · rename_i split
      obtain ⟨shown, same⟩ := pieces_shown gives
      simp only [Bool.or_eq_true, Bool.not_eq_true', List.isEmpty_iff, not_or,
        Bool.not_eq_false] at split
      obtain ⟨rfl, embeds⟩ := split
      exact ⟨.split value_ne embeds shown, same⟩

/-- The nodes of a piece that holds no others. -/
theorem leaf_shown {live : Bool} {piece : Inline} {kind : InlineKind} {nodes : List Node}
    (leaf : leafKind? source.parsed piece = some kind)
    (gives : Gives (pure [Node.inline kind []]) s nodes t) :
    ShownInline source live s.slots piece nodes t.slots ∧ t.references = s.references := by
  obtain ⟨rfl, rfl⟩ := gives_pure.mp gives
  exact ⟨.leaf leaf, rfl⟩

mutual

/-- A piece of running text is built as it is shown. -/
theorem inlineNode_shown {live : Bool} (piece : Inline) {s t : Progress} {nodes : List Node}
    (gives : Gives (inlineNode source live piece) s nodes t) :
    ShownInline source live s.slots piece nodes t.slots ∧ t.references = s.references := by
  cases piece with
  | text value =>
    obtain ⟨shown, same⟩ := textNodes_shown gives
    exact ⟨.text shown, same⟩
  | softBreak => exact leaf_shown rfl gives
  | hardBreak => exact leaf_shown rfl gives
  | code content => exact leaf_shown rfl gives
  | html content => exact leaf_shown rfl gives
  | image target label alt => exact leaf_shown rfl gives
  | span kind children =>
    rw [inlineNode] at gives
    obtain ⟨inner, read, rfl⟩ := gives_map.mp gives
    obtain ⟨shown, same⟩ := inlineNodes_shown children read
    exact ⟨.span shown, same⟩
  | link target children =>
    rw [inlineNode] at gives
    obtain ⟨inner, read, rfl⟩ := gives_map.mp gives
    obtain ⟨shown, same⟩ := inlineNodes_shown children read
    exact ⟨.link shown, same⟩

/-- Running text is built as it is shown. -/
theorem inlineNodes_shown {live : Bool} (pieces : List Inline) {s t : Progress}
    {nodes : List Node} (gives : Gives (inlineNodes source live pieces) s nodes t) :
    ShownInlines source live s.slots pieces nodes t.slots ∧ t.references = s.references := by
  cases pieces with
  | nil =>
    obtain ⟨rfl, rfl⟩ := gives_pure.mp gives
    exact ⟨.nil live t.slots, rfl⟩
  | cons piece pieces =>
    rw [inlineNodes] at gives
    obtain ⟨first, u, here, later⟩ := gives_bind.mp gives
    obtain ⟨rest, behind, rfl⟩ := gives_map.mp later
    obtain ⟨shown, same⟩ := inlineNode_shown piece here
    obtain ⟨others, sameBehind⟩ := inlineNodes_shown pieces behind
    exact ⟨.cons shown others, sameBehind.trans same⟩

end

/-! ## Gated nodes -/

/-- Without a spoiler in its text, a quote has no marker. -/
theorem marker?_eq_none_of_detectQuote {text : Text}
    (detected : Spoiler.detectQuote text = .ok none) : Spoiler.marker? text = none := by
  rw [Spoiler.detectQuote] at detected
  split at detected
  · assumption
  · rename_i digits rest marker
    cases number : Spoiler.chapterOf digits with
    | error cause => rw [number] at detected; cases detected
    | ok chapter => rw [number] at detected; cases detected

/-- A quote is built as it is shown, and takes no numbers. -/
theorem quoteNode_shown {children : List Node} {node : Node}
    (gives : Gives (quoteNode children) s node t) :
    ShownQuote children node ∧ t.slots = s.slots ∧ t.references = s.references := by
  rw [quoteNode] at gives
  obtain ⟨found, u, tried, later⟩ := gives_bind.mp gives
  obtain ⟨detected, rfl⟩ := gives_orFail.mp tried
  cases marker : Spoiler.marker? (Node.flatten children) with
  | none =>
    rw [marker] at later
    obtain ⟨rfl, rfl⟩ := gives_pure.mp later
    exact ⟨.bare marker, rfl, rfl⟩
  | some cut =>
    cases found with
    | none =>
      rw [marker?_eq_none_of_detectQuote detected] at marker
      cases marker
    | some region =>
      rw [marker] at later
      obtain ⟨_, reported, rfl⟩ := gives_map.mp later
      exact ⟨.gated marker detected, gives_reportSpoiler reported⟩

/-- A container is built as it is shown, and takes no numbers. -/
theorem containerNode_shown {className title text : Text} {children : List Node} {node : Node}
    (gives : Gives (containerNode className title text children) s node t) :
    ShownContainer className title text children node ∧ t.slots = s.slots ∧
      t.references = s.references := by
  rw [containerNode] at gives
  obtain ⟨found, u, tried, later⟩ := gives_bind.mp gives
  obtain ⟨detected, rfl⟩ := gives_orFail.mp tried
  cases found with
  | none =>
    obtain ⟨rfl, rfl⟩ := gives_pure.mp later
    exact ⟨.bare detected, rfl, rfl⟩
  | some region =>
    obtain ⟨_, reported, rfl⟩ := gives_map.mp later
    exact ⟨.gated detected, gives_reportSpoiler reported⟩

/-! ## Blocks -/

/-- What the steps of building give is what the steps of reading give, shown as nodes. -/
def Shows (source : Source) (build : Build (List Node)) (read : Reading (List Outline)) : Prop :=
  ∀ (s : Progress) (nodes : List Node) (t : Progress), Gives build s nodes t →
    ∃ outlines, read s.references = .ok (outlines, t.references) ∧
      ShownAll source s.slots outlines nodes t.slots

/-- Reading a text inside a block takes no numbers. -/
theorem readInside_gives {text : Text} {blocks : Blocks}
    (gives : Gives (readInside text) s blocks t) :
    readText text s.references = .ok (blocks, t.references) ∧ t.slots = s.slots := by
  rw [readInside] at gives
  obtain ⟨progress, u, got, read⟩ := gives_bind.mp gives
  obtain ⟨rfl, rfl⟩ := gives_get.mp got
  rw [readText]
  split at read
  · exact absurd read not_gives_throw
  · rename_i document found
    obtain ⟨_, changed, rfl⟩ := gives_map.mp read
    rw [gives_modify.mp changed, found]
    exact ⟨rfl, rfl⟩

/-- Two steps of reading, one behind the other. -/
theorem reading_bind {α β : Type} {step : Reading α} {next : α → Reading β}
    {r middle later : References} {a : α} {b : β} (first : step r = .ok (a, middle))
    (second : next a middle = .ok (b, later)) : (step >>= next) r = .ok (b, later) := by
  change (step r >>= fun result => next result.1 result.2) = _
  rw [first]
  exact second

/-- A step that was read with another one behind it. -/
theorem of_reading_bind {α β : Type} {step : Reading α} {next : α → Reading β}
    {r later : References} {b : β} (ran : (step >>= next) r = .ok (b, later)) :
    ∃ a middle, step r = .ok (a, middle) ∧ next a middle = .ok (b, later) := by
  change (step r >>= fun result => next result.1 result.2) = _ at ran
  obtain ⟨⟨a, middle⟩, first, second⟩ := of_except_bind ran
  exact ⟨a, middle, first, second⟩

/-- Reading nothing changes no labels. -/
theorem eq_of_reading_pure {α : Type} {a b : α} {r later : References}
    (ran : (pure a : Reading α) r = .ok (b, later)) : b = a := by
  cases ran
  rfl

/-- A function of what is read is read as it is. -/
theorem of_reading_map {α β : Type} {step : Reading α} {f : α → β} {r later : References} {b : β}
    (ran : (step >>= fun a => pure (f a)) r = .ok (b, later)) :
    ∃ a, step r = .ok (a, later) ∧ b = f a := by
  obtain ⟨a, middle, first, made⟩ := of_reading_bind ran
  cases made
  exact ⟨a, first, rfl⟩

section Blocks

variable {deeper : Blocks → Build (List Node)} {read : Blocks → Reading (List Outline)}

/-- A division is built as its outline is shown. -/
theorem divisionNode_shown (shows : ∀ blocks, Shows source (deeper blocks) (read blocks))
    {start : DivisionStart} {blocks : Blocks} {node : Node}
    (gives : Gives (divisionNode deeper start blocks) s node t) :
    ∃ outline, outlineDivision read start blocks s.references = .ok (outline, t.references) ∧
      Shown source s.slots outline node t.slots := by
  -- The content of the division behind what is read from the rest of its first piece.
  have inside {first : Blocks} {u : Progress}
      (gives : Gives (do
        let children ← deeper (first ++ blocks.take start.inside)
        containerNode start.className [] (Node.flatten children) children) u node t) :
      ∃ outlines, read (first ++ blocks.take start.inside) u.references =
          .ok (outlines, t.references) ∧
        Shown source u.slots (.division start.className outlines) node t.slots := by
    obtain ⟨children, v, content, built⟩ := gives_bind.mp gives
    obtain ⟨outlines, readOk, shown⟩ := shows _ _ _ _ content
    obtain ⟨container, slots, references⟩ := containerNode_shown built
    rw [slots, references]
    exact ⟨outlines, readOk, .division shown container⟩
  rw [divisionNode] at gives
  rw [outlineDivision]
  split at gives
  · rename_i blank
    obtain ⟨outlines, readOk, shown⟩ := inside gives
    refine ⟨_, ?_, shown⟩
    rw [if_pos blank]
    exact reading_bind rfl (reading_bind readOk rfl)
  · rename_i more
    obtain ⟨first, u, began, later⟩ := gives_bind.mp gives
    obtain ⟨readFirst, slots⟩ := readInside_gives began
    obtain ⟨outlines, readOk, shown⟩ := inside later
    rw [slots] at shown
    refine ⟨_, ?_, shown⟩
    rw [if_neg more]
    exact reading_bind readFirst (reading_bind readOk rfl)

mutual

/-- A block is built as its outline is shown. -/
theorem blockNode_shown (shows : ∀ blocks, Shows source (deeper blocks) (read blocks))
    (block : Block (List Inline)) {s t : Progress} {node : Node}
    (gives : Gives (blockNode deeper source block) s node t) :
    ∃ outline, outlineBlock read block s.references = .ok (outline, t.references) ∧
      Shown source s.slots outline node t.slots := by
  cases block with
  | paragraph tight content =>
    rw [blockNode] at gives
    obtain ⟨nodes, inside, rfl⟩ := gives_map.mp gives
    obtain ⟨shown, same⟩ := inlineNodes_shown content inside
    exact ⟨.paragraph tight content, same ▸ rfl, .paragraph shown⟩
  | heading level content =>
    rw [blockNode] at gives
    obtain ⟨nodes, inside, rfl⟩ := gives_map.mp gives
    obtain ⟨shown, same⟩ := inlineNodes_shown content inside
    exact ⟨.heading level content, same ▸ rfl, .heading shown⟩
  | bulletList items =>
    rw [blockNode] at gives
    obtain ⟨nodes, inside, rfl⟩ := gives_map.mp gives
    obtain ⟨outlines, readOk, shown⟩ := blockNodes_shown shows 0 items _ _ _ inside
    exact ⟨.bulletList outlines, reading_bind readOk rfl, .bulletList shown⟩
  | orderedList start items =>
    rw [blockNode] at gives
    obtain ⟨nodes, inside, rfl⟩ := gives_map.mp gives
    obtain ⟨outlines, readOk, shown⟩ := blockNodes_shown shows 0 items _ _ _ inside
    exact ⟨.orderedList start outlines, reading_bind readOk rfl, .orderedList shown⟩
  | item children =>
    rw [blockNode] at gives
    obtain ⟨nodes, inside, rfl⟩ := gives_map.mp gives
    obtain ⟨outlines, readOk, shown⟩ := blockNodes_shown shows 0 children _ _ _ inside
    exact ⟨.item outlines, reading_bind readOk rfl, .item shown⟩
  | quote children =>
    rw [blockNode] at gives
    obtain ⟨nodes, u, inside, built⟩ := gives_bind.mp gives
    obtain ⟨outlines, readOk, shown⟩ := blockNodes_shown shows 0 children _ _ _ inside
    obtain ⟨quote, slots, references⟩ := quoteNode_shown built
    rw [slots, references]
    exact ⟨.quote outlines, reading_bind readOk rfl, .quote shown quote⟩
  | container info children =>
    rw [blockNode] at gives
    obtain ⟨nodes, u, inside, built⟩ := gives_bind.mp gives
    obtain ⟨outlines, readOk, shown⟩ := blockNodes_shown shows 0 children _ _ _ inside
    obtain ⟨container, slots, references⟩ := containerNode_shown built
    rw [slots, references]
    exact ⟨.container info outlines, reading_bind readOk rfl, .container shown container⟩
  -- The other blocks are plain: nothing inside them is read again.
  | code content =>
    obtain ⟨rfl, rfl⟩ := gives_pure.mp gives
    exact ⟨_, rfl, .plain _ _⟩
  | fence info content =>
    obtain ⟨rfl, rfl⟩ := gives_pure.mp gives
    exact ⟨_, rfl, .plain _ _⟩
  | html content =>
    obtain ⟨rfl, rfl⟩ := gives_pure.mp gives
    exact ⟨_, rfl, .plain _ _⟩
  | rule =>
    obtain ⟨rfl, rfl⟩ := gives_pure.mp gives
    exact ⟨_, rfl, .plain _ _⟩
  | table columns header rows =>
    obtain ⟨rfl, rfl⟩ := gives_pure.mp gives
    exact ⟨_, rfl, .plain _ _⟩
  | definition label target =>
    obtain ⟨rfl, rfl⟩ := gives_pure.mp gives
    exact ⟨_, rfl, .plain _ _⟩

/-- Blocks are built as their outlines are shown. -/
theorem blockNodes_shown (shows : ∀ blocks, Shows source (deeper blocks) (read blocks))
    (skip : Nat) (blocks : Blocks) :
    Shows source (blockNodes deeper source skip blocks) (outlineBlocks read skip blocks) := by
  intro s nodes t gives
  cases blocks with
  | nil =>
    have given : Gives (pure []) s nodes t := by
      cases skip <;> exact gives
    obtain ⟨rfl, rfl⟩ := gives_pure.mp given
    refine ⟨[], ?_, .nil t.slots⟩
    cases skip <;> rfl
  | cons block blocks =>
    cases skip with
    | succ skip => exact blockNodes_shown shows skip blocks s nodes t gives
    | zero =>
      rw [blockNodes] at gives
      rw [outlineBlocks]
      split at gives
      · rename_i start found
        rw [found]
        obtain ⟨node, u, here, later⟩ := gives_bind.mp gives
        obtain ⟨others, behind, rfl⟩ := gives_map.mp later
        obtain ⟨outline, readOk, shown⟩ := divisionNode_shown shows here
        obtain ⟨outlines, readOthers, shownOthers⟩ :=
          blockNodes_shown shows start.used blocks _ _ _ behind
        exact ⟨outline :: outlines, reading_bind readOk (reading_bind readOthers rfl),
          .cons shown shownOthers⟩
      · rename_i plain
        rw [plain]
        obtain ⟨node, u, here, later⟩ := gives_bind.mp gives
        obtain ⟨others, behind, rfl⟩ := gives_map.mp later
        obtain ⟨outline, readOk, shown⟩ := blockNode_shown shows block here
        obtain ⟨outlines, readOthers, shownOthers⟩ :=
          blockNodes_shown shows 0 blocks _ _ _ behind
        exact ⟨outline :: outlines, reading_bind readOk (reading_bind readOthers rfl),
          .cons shown shownOthers⟩

end

end Blocks

/-- The nodes of blocks are those that their outline is shown as. -/
theorem nodesOf_shown (fuel : Nat) (blocks : Blocks) :
    Shows source (nodesOf source fuel blocks) (outlinesOf fuel blocks) := by
  induction fuel generalizing blocks with
  | zero =>
    refine blockNodes_shown (fun _ => ?_) 0 blocks
    intro s nodes t gives
    obtain ⟨rfl, rfl⟩ := gives_pure.mp gives
    exact ⟨[], rfl, .nil t.slots⟩
  | succ fuel ih => exact blockNodes_shown ih 0 blocks

/-! ## Renders -/

/-- A document that is built shows the outline of its text. -/
theorem build_shown {nodes : List Node} {progress : Progress}
    (gives : Gives (build source) {} nodes progress) :
    ∃ outlines, outlineOf source.parsed = .ok outlines ∧
      ShownAll source 0 outlines nodes progress.slots := by
  rw [build] at gives
  obtain ⟨blocks, u, began, later⟩ := gives_bind.mp gives
  obtain ⟨readBlocks, slots⟩ := readInside_gives began
  obtain ⟨outlines, readOk, shown⟩ := nodesOf_shown _ _ _ _ _ later
  have unnumbered : u.slots = 0 := slots
  rw [unnumbered] at shown
  refine ⟨outlines, ?_, shown⟩
  have readBlocks : readText (withLineBreaks source.parsed.rewritten) [] =
    .ok (blocks, u.references) := readBlocks
  simp only [outlineOf, readBlocks, readOk, bind, Except.bind, pure, Except.pure]

/-- A text that is rendered with embeds has been extracted, one that is rendered without has no
embeds, and the tree shows the outline of what has been extracted. -/
theorem render_shown {style : Style} {embedsEnabled : Bool} {content : Text}
    {rendered : Rendered} {events : List Log.Event}
    (ok : render style embedsEnabled content = (.ok rendered, events)) :
    (if embedsEnabled then Embed.extract (Text.unifyNewlines content) = .ok rendered.parsed
      else rendered.parsed = ⟨Text.unifyNewlines content, []⟩) ∧
    ∃ outlines slots, outlineOf rendered.parsed = .ok outlines ∧
      ShownAll ⟨rendered.parsed, style⟩ 0 outlines rendered.tree slots := by
  rw [render] at ok
  split at ok
  · cases ok
  · rename_i parsed extracted
    have parsedOk : if embedsEnabled then Embed.extract (Text.unifyNewlines content) = .ok parsed
        else parsed = ⟨Text.unifyNewlines content, []⟩ := by
      split at extracted
      · rename_i enabled
        rw [if_pos enabled]
        exact extracted
      · rename_i disabled
        rw [if_neg disabled]
        exact (Except.ok.inj extracted).symm
    cases built : (build ⟨parsed, style⟩).run.run {} with
    | mk result progress =>
      rw [built] at ok
      cases result with
      | error cause => cases ok
      | ok tree =>
        obtain ⟨outlines, readOk, shown⟩ := build_shown built
        cases ok
        exact ⟨parsedOk, outlines, progress.slots, readOk, shown⟩

/-- A text whose tree passes a check is rendered. -/
theorem exists_of_any {style : Style} {embedsEnabled : Bool} {content : Text}
    {check : Rendered → Bool}
    (passes : (render style embedsEnabled content).1.toOption.any check = true) :
    ∃ rendered events, render style embedsEnabled content = (.ok rendered, events) ∧
      check rendered = true := by
  cases ran : render style embedsEnabled content with
  | mk result events =>
    rw [ran] at passes
    cases result with
    | error cause => cases passes
    | ok rendered => exact ⟨rendered, events, rfl, passes⟩

/-! ## One line -/

/-- The nodes of a plain line make up a paragraph. -/
theorem build_line (plain : PlainLine source.parsed.rewritten) {nodes : List Node}
    {behind : Progress}
    (gives : Gives (textNodes source true source.parsed.rewritten) {} nodes behind) :
    Gives (build source) {} [paragraphNode source false nodes] behind := by
  let line := source.parsed.rewritten
  have began : Gives (readInside (withLineBreaks line)) {} [.paragraph false [.text line]] {} := by
    rw [readInside]
    refine gives_bind.mpr ⟨{}, {}, gives_get.mpr ⟨rfl, rfl⟩, ?_⟩
    rw [read_line plain]
    exact gives_bind.mpr ⟨(), {}, gives_modify.mpr rfl, gives_pure.mpr ⟨rfl, rfl⟩⟩
  have inlines : Gives (inlineNodes source true [.text line]) {} nodes behind := by
    rw [inlineNodes, inlineNodes, inlineNode]
    refine gives_bind.mpr ⟨nodes, behind, gives, ?_⟩
    refine gives_bind.mpr ⟨[], behind, gives_pure.mpr ⟨rfl, rfl⟩, ?_⟩
    exact gives_pure.mpr ⟨(List.append_nil nodes).symm, rfl⟩
  have paragraph (deeper : Blocks → Build (List Node)) :
      Gives (blockNodes deeper source 0 [.paragraph false [.text line]]) {}
        [paragraphNode source false nodes] behind := by
    rw [blockNodes, blockNodes]
    refine gives_bind.mpr ⟨paragraphNode source false nodes, behind, ?_, ?_⟩
    · rw [blockNode]
      exact gives_bind.mpr ⟨nodes, behind, inlines, gives_pure.mpr ⟨rfl, rfl⟩⟩
    · exact gives_bind.mpr ⟨[], behind, gives_pure.mpr ⟨rfl, rfl⟩, gives_pure.mpr ⟨rfl, rfl⟩⟩
  rw [build]
  refine gives_bind.mpr ⟨_, {}, began, ?_⟩
  cases (withLineBreaks line).count '<' with
  | zero => exact paragraph _
  | succ fuel => exact paragraph _

/-- A text of one plain line is rendered as a paragraph. -/
theorem render_line {style : Style} {embedsEnabled : Bool} {content : Text} {parsed : Embed.Parsed}
    (extracted : (if embedsEnabled then Embed.extract (Text.unifyNewlines content)
      else .ok ⟨Text.unifyNewlines content, []⟩) = .ok parsed)
    (plain : PlainLine parsed.rewritten) {nodes : List Node} {behind : Progress}
    (gives : Gives (textNodes ⟨parsed, style⟩ true parsed.rewritten) {} nodes behind) :
    ∃ events, render style embedsEnabled content =
      (.ok ⟨[paragraphNode ⟨parsed, style⟩ false nodes], parsed, embedsEnabled⟩, events) := by
  have built : Gives (build ⟨parsed, style⟩) {} [paragraphNode ⟨parsed, style⟩ false nodes]
      behind := build_line plain gives
  rw [Gives] at built
  rw [render, extracted]
  dsimp only
  rw [built]
  exact ⟨_, rfl⟩

end Loremark.Tree
