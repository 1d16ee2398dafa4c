import Loremark.Proofs.Document.FailedUpdate
import Loremark.Proofs.Tree.Output
import Loremark.Proofs.Tree.Pages

/-!
# Placeholders

A document shows its sheet, filled in with its previews. The sheet (`Sheet`) is the part of a
document that no lookup has a bearing on: its text, its options and its tree. Only updates change
it, and they change it in the same way whatever the previews are doing (`sheet_after`).

So a document all of whose previews are still loading, be it that they have not been mounted, that
their lookups are under way or that they have been disposed of, is written like a document without
a store that has been updated in the same way (`html_of_loading`).
-/

set_option autoImplicit false

namespace Loremark.Document

variable {d e : Document}

/-! ## Sheets -/

/-- What a document shows, apart from its previews. -/
structure Sheet where
  content : Text
  options : Options
  rendered : Tree.Rendered

/-- The sheet of a document. -/
def sheet (d : Document) : Sheet := ⟨d.content, d.options, d.rendered⟩

/-- The sheet behind an update. The tree stays if the text cannot be rendered. -/
def Sheet.update (sheet : Sheet) (content : Option Text) (embedsEnabled : Option Bool) : Sheet :=
  let content := content.getD sheet.content
  let options := { sheet.options with
    embedsEnabled := embedsEnabled.getD sheet.options.embedsEnabled }
  match (Tree.render options.style options.embedsEnabled content).1 with
  | .ok rendered => { content, options, rendered }
  | .error _ => { content, options, rendered := sheet.rendered }

/-- The sheet behind a move. -/
def Sheet.behind (sheet : Sheet) : Move → Sheet
  | .step (.update content embedsEnabled) => sheet.update content embedsEnabled
  | _ => sheet

/-- Whether a move is an update. -/
def Move.isUpdate : Move → Bool
  | .step (.update ..) => true
  | _ => false

/-- Only updates change the sheet. -/
theorem Sheet.behind_of_not_isUpdate (sheet : Sheet) {move : Move}
    (other : ¬ move.isUpdate = true) : sheet.behind move = sheet := by
  cases move with
  | turn number => rfl
  | cancel number => rfl
  | step step =>
    cases step with
    | update content embedsEnabled => exact absurd rfl other
    | _ => rfl

/-! ## Moves on a sheet -/

/-- Mounting all previews leaves the sheet as it is. -/
theorem mountAll_sheet (d : Document) : d.mountAll.1.sheet = d.sheet := by
  rw [mountAll]
  dsimp only
  split
  · rfl
  · split <;> rfl

/-- Resolving all previews leaves the sheet as it is. -/
theorem resolveAll_sheet (d : Document) : d.resolveAll.1.sheet = d.sheet := by
  have mounts : d.release.mountAll.1.sheet = d.release.sheet := mountAll_sheet d.release
  rw [resolveAll]
  split <;> rename_i ran <;> rw [ran] at mounts <;> exact mounts

/-- An update changes the sheet as it does without previews. -/
theorem update_sheet (d : Document) (content : Option Text) (embedsEnabled : Option Bool) :
    (d.update content embedsEnabled).1.sheet = d.sheet.update content embedsEnabled := by
  cases ran : Tree.render d.options.style (embedsEnabled.getD d.options.embedsEnabled)
      (content.getD d.content) with
  | mk result events =>
    have before : Tree.render (d.cleared content embedsEnabled).options.style
        (d.cleared content embedsEnabled).options.embedsEnabled
        (d.cleared content embedsEnabled).content = (result, events) := ran
    cases result with
    | error cause =>
      rw [update_of_error ran]
      simp only [Sheet.update, sheet, ran]
      rfl
    | ok rendered =>
      have behind : d.sheet.update content embedsEnabled =
          ⟨content.getD d.content, (d.cleared content embedsEnabled).options, rendered⟩ := by
        simp only [Sheet.update, sheet, ran]
        rfl
      rw [update_eq, render_eq before, behind]
      dsimp only
      split
      · generalize reported : Document.report _ _ = f
        have mounts := mountAll_sheet f
        rw [← reported] at mounts ⊢
        split <;> rename_i ran <;> rw [ran] at mounts <;> exact mounts
      · rfl

/-- A step changes the sheet exactly if it is an update. -/
theorem act_sheet (d : Document) (step : Step) :
    (d.act step).1.sheet = d.sheet.behind (.step step) := by
  cases step with
  | mountAll =>
    have mounts := mountAll_sheet d
    rw [act]
    split <;> rename_i ran <;> rw [ran] at mounts <;> exact mounts
  | unmountAll => rfl
  | tick => rfl
  | release => rfl
  | resolveAll =>
    have resolves := resolveAll_sheet d
    rw [act]
    split <;> rename_i ran <;> rw [ran] at resolves <;> exact resolves
  | update content embedsEnabled =>
    rw [act_update]
    exact update_sheet d content embedsEnabled
  | listen name => rfl
  | html =>
    rw [act, html]
    cases d.page.html d.rendered.tree <;> rfl

/-- A move changes the sheet exactly if it is an update. -/
theorem move_sheet (d : Document) (move : Move) : (d.move move).1.sheet = d.sheet.behind move := by
  cases move with
  | turn number => rfl
  | cancel number => rfl
  | step step => exact act_sheet d step

/-- The sheet behind moves depends on the sheet before them and on the updates among them. -/
theorem sheet_after (d : Document) (moves : List Move) :
    (d.after moves).sheet = (moves.filter Move.isUpdate).foldl Sheet.behind d.sheet := by
  induction moves generalizing d with
  | nil => rfl
  | cons move moves ih =>
    have next : (d.after (move :: moves)).sheet =
        (moves.filter Move.isUpdate).foldl Sheet.behind (d.sheet.behind move) := by
      rw [← move_sheet]
      exact ih (d.move move).1
    by_cases updates : move.isUpdate = true
    · rw [next, List.filter_cons_of_pos updates, List.foldl_cons]
    · rw [next, List.filter_cons_of_neg updates, d.sheet.behind_of_not_isUpdate updates]

/-! ## Sheets can be written -/

/-- The tree of a sheet has been rendered from a text. -/
def Sheet.IsDrawn (sheet : Sheet) : Prop :=
  ∃ style embedsEnabled content events,
    Tree.render style embedsEnabled content = (.ok sheet.rendered, events)

/-- An updated sheet shows the render of its text. -/
theorem Sheet.IsDrawn.update {sheet : Sheet} (drawn : sheet.IsDrawn) (content : Option Text)
    (embedsEnabled : Option Bool) : (sheet.update content embedsEnabled).IsDrawn := by
  rw [Sheet.update]
  dsimp only
  split
  · rename_i rendered ran
    exact ⟨_, _, _, _, Prod.ext ran rfl⟩
  · exact drawn

/-- A sheet behind any moves shows the render of its text. -/
theorem Sheet.IsDrawn.foldl_behind {sheet : Sheet} (drawn : sheet.IsDrawn) (moves : List Move) :
    (moves.foldl Sheet.behind sheet).IsDrawn := by
  induction moves generalizing sheet with
  | nil => exact drawn
  | cons move moves ih =>
    rw [List.foldl_cons]
    apply ih
    by_cases updates : move.isUpdate = true
    · match move, updates with
      | .step (.update content embedsEnabled), _ => exact drawn.update content embedsEnabled
    · rw [sheet.behind_of_not_isUpdate updates]
      exact drawn

/-- A document that shows the render of its text can be written. -/
theorem exists_html (drawn : d.sheet.IsDrawn) : ∃ text, d.page.html d.rendered.tree = .ok text := by
  obtain ⟨style, embedsEnabled, content, events, ok⟩ := drawn
  obtain ⟨-, outlines, slots, -, shown⟩ := Tree.render_shown ok
  have shaped := Tree.shownAll_shaped (Tree.distinct_of_render ok) shown
  have sound : d.page.Sound false := by
    intro key shown found
    obtain ⟨preview, -, rfl⟩ := Option.map_eq_some_iff.mp found
    exact preview.markup_sound
  obtain ⟨text, written, -⟩ := Tree.Page.html_wellNested sound shaped
  exact ⟨text, written⟩

/-! ## Loading previews -/

/-- A preview that is loading looks like the placeholder of its slot. -/
theorem Matches.markup_of_loading {p : Preview} {s : Tree.Slot} (shows : Matches p s)
    (loading : p.state = .loading) : p.markup = s.request.loading s.mode := by
  have kind : p.kind? = some s.descriptor.kind := by
    rw [Preview.kind?, shows.kindName, Kind.ofName?_eq_some_iff]
  simp only [Preview.markup, kind, loading, Tree.Slot.request, shows.entity, shows.label,
    shows.mode]

/-- A document with a filled slot fills all slots of its tree. -/
theorem filled_eq_of_mem {s : Tree.Slot} (mem : s ∈ d.filled) :
    d.filled = Tree.Node.slots d.rendered.tree := by
  rw [filled] at mem ⊢
  split at mem
  · rw [if_pos ‹_›]
  · cases mem

/-- A slot shows its placeholder as long as the current previews are loading. -/
theorem Mirrors.slot_of_loading (mirrors : d.Mirrors)
    (loading : ∀ p ∈ d.current, p.state = .loading) {s : Tree.Slot}
    (mem : s ∈ Tree.Node.slots d.rendered.tree) : d.page.slot s = s.request.loading s.mode := by
  rw [Tree.Page.slot]
  cases found : d.current.find? fun p => p.key == s.key with
  | none =>
    have none : d.page.previews s.key = none := congrArg (Option.map Preview.markup) found
    rw [none, Option.getD_none]
  | some p =>
    have some : d.page.previews s.key = some p.markup :=
      congrArg (Option.map Preview.markup) found
    have current : p ∈ d.current := List.mem_of_find?_eq_some found
    have key : p.key = s.key := by simpa using List.find?_some found
    obtain ⟨n, bound, rfl⟩ := List.getElem_of_mem current
    have inside : n < d.filled.length := mirrors.each.length_eq ▸ bound
    have shows : Matches d.current[n] d.filled[n] :=
      (List.forall₂_iff_get.mp mirrors.each).2 n bound inside
    -- The preview shows some slot of the tree, and no other slot has the key of that one.
    have shown : d.filled[n] ∈ d.filled := List.getElem_mem inside
    have same : d.filled[n] = s := by
      apply List.inj_on_of_nodup_map mirrors.distinct shown
      · rw [filled_eq_of_mem shown]
        exact mem
      · rw [← shows.key, key]
    rw [some, Option.getD_some, ← same]
    exact shows.markup_of_loading (loading _ current)

/-- A document without a store has no current previews. -/
theorem Mirrors.current_eq_nil (mirrors : d.Mirrors) (bare : d.hasStore = false) :
    d.current = [] := by
  have each := mirrors.each
  rw [filled, bare] at each
  exact List.forall₂_nil_right_iff.mp each

/-! ## Documents without a store -/

/-- A document can be opened with a store exactly if it can be opened without one, and on the same
sheet. -/
theorem open?_none {options : Options} {store : Option Preview.Script} {content : Text}
    (ok : open? options store content = .ok d) :
    ∃ bare, open? options none content = .ok bare ∧ bare.sheet = d.sheet ∧ d.sheet.IsDrawn := by
  rw [open?, render] at ok
  cases ran : Tree.render options.style options.embedsEnabled content with
  | mk result events =>
    rw [ran] at ok
    cases result with
    | error cause => cases ok
    | ok rendered =>
      cases ok
      rw [open?, render, ran]
      exact ⟨_, rfl, rfl, _, _, _, _, ran⟩

/-- As long as the previews of a document are loading, it is written like a document without a
store in which the same updates have taken place. -/
theorem html_of_loading {options : Options} {store : Option Preview.Script} {content : Text}
    (ok : open? options store content = .ok d) (moves : List Move)
    (loading : ∀ p ∈ (d.after moves).current, p.state = .loading) :
    ∃ bare text, open? options none content = .ok bare ∧
      (d.after moves).html.2 = .ok text ∧
      ∀ others, others.filter Move.isUpdate = moves.filter Move.isUpdate →
        (bare.after others).html.2 = .ok text := by
  obtain ⟨bare, opened, sameSheet, drawn⟩ := open?_none ok
  obtain ⟨text, written⟩ : ∃ text, (d.after moves).page.html (d.after moves).rendered.tree =
      .ok text := by
    apply exists_html
    rw [sheet_after]
    exact drawn.foldl_behind _
  refine ⟨bare, text, opened, written, ?_⟩
  intro others sameUpdates
  have same : (bare.after others).sheet = (d.after moves).sheet := by
    rw [sheet_after, sheet_after, sameSheet, sameUpdates]
  have rendered : (bare.after others).rendered = (d.after moves).rendered :=
    congrArg Sheet.rendered same
  have gate : (bare.after others).page.gate = (d.after moves).page.gate :=
    congrArg (fun sheet => sheet.options.gate) same
  obtain ⟨between, -⟩ := open?_between ok
  obtain ⟨stillBetween, -⟩ := between.after moves
  obtain ⟨bareBetween, hasStore⟩ := open?_between opened
  obtain ⟨stillBare, sameStore, -⟩ := bareBetween.after others
  have none : (bare.after others).current = [] :=
    stillBare.mirrors.current_eq_nil (sameStore.trans hasStore)
  have agree : Tree.Page.Agree (bare.after others).page (d.after moves).page
      (d.after moves).rendered.tree := by
    apply Tree.Page.agree_of_forall
    · intro s mem
      have shown : (d.after moves).page.slot s = s.request.loading s.mode :=
        stillBetween.mirrors.slot_of_loading loading mem
      rw [← rendered] at mem
      rw [shown, stillBare.mirrors.slot_of_loading _ mem]
      rw [none]
      exact List.forall_mem_nil _
    · intro region _ content
      apply Tree.Page.veil_congr
      · rw [gate]
      · intro _
        rw [gate]
  calc (bare.after others).html.2
    _ = (bare.after others).page.html (d.after moves).rendered.tree := by rw [html, rendered]
    _ = (d.after moves).page.html (d.after moves).rendered.tree := Tree.Page.html_congr agree
    _ = .ok text := written

/-- Moves of a document of two arcs: none, then moves after which one lookup is under way, and then
the disposal of the previews as well. -/
def unfinished : List (List Move) :=
  [[], [.step .mountAll, .turn 0], [.step .mountAll, .turn 0, .step .unmountAll]]

/-- In each of the unfinished histories all current previews are loading, and nothing is updated. -/
theorem loading_unfinished {moves : List Move} (mem : moves ∈ unfinished) :
    (∀ p ∈ ((ofArcs heldScript).after moves).current, p.state = .loading) ∧
      moves.filter Move.isUpdate = [] := by
  have states : ((ofArcs heldScript).after moves).current.map (·.state) = [.loading, .loading] ∧
      moves.filter Move.isUpdate = [] := by
    simp only [unfinished, List.mem_cons, List.not_mem_nil, or_false] at mem
    rcases mem with rfl | rfl | rfl <;> exact ⟨rfl, rfl⟩
  refine ⟨?_, states.2⟩
  intro p inside
  have state : p.state ∈ [.loading, .loading] := states.1 ▸ List.mem_map_of_mem inside
  simpa using state

/-- Two arcs are written the same before their previews are mounted, while a lookup is under way,
when it has been cut off, and without a store. -/
theorem html_of_loading_twoArcs :
    ∃ bare text, open? {} none twoArcs = .ok bare ∧ bare.html.2 = .ok text ∧
      ∀ moves ∈ unfinished, ((ofArcs heldScript).after moves).html.2 = .ok text := by
  have ok := open?_twoArcs heldScript
  have first : [] ∈ unfinished := List.mem_cons_self
  obtain ⟨bare, text, opened, -, written⟩ := html_of_loading ok [] (loading_unfinished first).1
  refine ⟨bare, text, opened, written [] rfl, ?_⟩
  intro moves mem
  obtain ⟨loading, noUpdate⟩ := loading_unfinished mem
  obtain ⟨other, otherText, otherOpened, otherWritten, same⟩ := html_of_loading ok moves loading
  obtain rfl : other = bare := Except.ok.inj (otherOpened.symm.trans opened)
  have texts : Except.ok otherText = Except.ok text :=
    (same [] noUpdate.symm).symm.trans (written [] rfl)
  rw [otherWritten, texts]

end Loremark.Document
