import Loremark.Proofs.Document.Resolution
import Loremark.Proofs.Preview.Stretches

/-!
# Updates that fail

An update renders its text behind the disposal of the previews. Where the text is rendered the
update succeeds (`update_of_ok`); where it is not, the previews have been disposed of by then, the
text is the new one and the document is not mounted any more, and only the tree and the list of
previews stay (`update_error_sameAs_iff`).
-/

set_option autoImplicit false

namespace Loremark.Document

variable {d : Document} {content : Option Text} {embedsEnabled : Option Bool}

/-- What is seen of a document from outside is the same at two moments: its text, whether embeds
are cut out, the tree, the previews with their states and lookups, and whether it is mounted. -/
structure SameAs (d e : Document) : Prop where
  content : e.content = d.content
  embedsEnabled : e.options.embedsEnabled = d.options.embedsEnabled
  rendered : e.rendered = d.rendered
  first : e.first = d.first
  current : e.current = d.current
  mounted : e.mounted = d.mounted

/-- The current previews stand behind those of earlier renders, and what is put in their place is
current then. -/
theorem exists_previews_eq (d : Document) :
    ∃ done, d.session.previews = done ++ d.current ∧
      d.numbers = List.range' done.length d.current.length ∧
      ∀ ps : List Preview, ps.length = d.current.length → (done ++ ps).drop d.first = ps := by
  refine ⟨d.session.previews.take d.first, (List.take_append_drop _ _).symm, ?_⟩
  rw [numbers_eq_range']
  cases none : d.current with
  | nil =>
    refine ⟨rfl, fun ps empty => ?_⟩
    rw [List.eq_nil_of_length_eq_zero empty, List.append_nil]
    exact List.drop_take_self
  | cons p ps =>
    have bound : d.first ≤ d.session.previews.length := by
      by_contra beyond
      rw [current, List.drop_eq_nil_of_le (Nat.le_of_not_le beyond)] at none
      cases none
    have length := List.length_take_of_le bound
    exact ⟨by rw [length], fun qs _ => List.drop_left' length⟩

/-- The current previews behind an unmount are the old ones, each of them unmounted. -/
theorem unmountAll_current (d : Document) :
    d.unmountAll.current = d.current.map (·.unmount.1) := by
  obtain ⟨done, previews, numbers, behind⟩ := d.exists_previews_eq
  have unmounted := Preview.Session.unmountEach_behind previews
  rw [← numbers] at unmounted
  exact (congrArg (List.drop d.first) unmounted).trans (behind _ (List.length_map _))

/-- A document none of whose previews has been disposed of can be mounted. -/
theorem mountAll_live (live : ∀ p ∈ d.current, p.disposed = false) :
    d.mountAll.2 = .ok d.numbers.length ∧ d.mountAll.1.current =
      d.current.map fun p => { p with lookup := some (p.lookup.getD .due) } := by
  obtain ⟨done, previews, numbers, behind⟩ := d.exists_previews_eq
  obtain ⟨session, ran, mounted⟩ := Preview.Session.mountEach_live previews live
  have there := (congrArg (List.drop d.first) mounted).trans (behind _ (List.length_map _))
  rw [← numbers] at ran
  rw [mountAll]
  dsimp only
  rw [ran]
  dsimp only
  split
  · rename_i none
    rw [List.isEmpty_iff.mp none]
    exact ⟨rfl, there⟩
  · exact ⟨rfl, there⟩

/-! ## Updates -/

/-- The previews for the slots of a tree. -/
def previewsFor (d : Document) (rendered : Tree.Rendered) : List Preview :=
  if d.hasStore then (Tree.Node.slots rendered.tree).map (previewOf d.options.cards) else []

/-- The previews for a rendered text are untouched. -/
theorem previewsFor_untouched (d : Document) (rendered : Tree.Rendered) :
    ∀ p ∈ d.previewsFor rendered, p.IsUntouched := by
  rw [previewsFor]
  split
  · intro p mem
    obtain ⟨s, -, rfl⟩ := List.mem_map.mp mem
    exact ⟨rfl, rfl⟩
  · exact List.forall_mem_nil _

/-- A document that is rendered has previews with which nothing has been done. -/
theorem exists_render {rendered : Tree.Rendered} {events : List Log.Event}
    (ran : Tree.render d.options.style d.options.embedsEnabled d.content = (.ok rendered, events)) :
    ∃ e, d.render = (e, none) ∧ e.rendered = rendered ∧ e.current = d.previewsFor rendered :=
  ⟨_, render_eq ran, rfl, List.drop_left⟩

/-- An update whose text cannot be rendered stops behind the disposal of the previews. -/
theorem update_of_error {cause : Tree.BuildError} {events : List Log.Event}
    (ran : Tree.render d.options.style (embedsEnabled.getD d.options.embedsEnabled)
      (content.getD d.content) = (.error cause, events)) :
    d.update content embedsEnabled =
      ({ d.cleared content embedsEnabled with
        session := (d.cleared content embedsEnabled).session.note { events } },
        .error (.render cause)) := by
  have failed : (d.cleared content embedsEnabled).render =
      ({ d.cleared content embedsEnabled with
        session := (d.cleared content embedsEnabled).session.note { events } }, some cause) := by
    have before : Tree.render (d.cleared content embedsEnabled).options.style
        (d.cleared content embedsEnabled).options.embedsEnabled
        (d.cleared content embedsEnabled).content = (.error cause, events) := ran
    rw [render, before]
  rw [update_eq, failed]

/-- An update whose text is rendered succeeds: its previews are those for the slots of the new
tree, and are mounted if the document was. -/
theorem update_of_ok {rendered : Tree.Rendered} {events : List Log.Event}
    (ran : Tree.render d.options.style (embedsEnabled.getD d.options.embedsEnabled)
      (content.getD d.content) = (.ok rendered, events)) :
    (d.update content embedsEnabled).2 = .ok rendered.tree.length ∧
      (d.update content embedsEnabled).1.current = (d.previewsFor rendered).map fun p =>
        if d.mounted then { p with lookup := some .due } else p := by
  have before : Tree.render (d.cleared content embedsEnabled).options.style
      (d.cleared content embedsEnabled).options.embedsEnabled
      (d.cleared content embedsEnabled).content = (.ok rendered, events) := ran
  obtain ⟨e, fine, tree, there⟩ := exists_render before
  rw [update_eq, fine]
  dsimp only
  generalize reported : e.report _ = f
  have current : f.current = d.previewsFor rendered := by
    rw [← reported]
    exact there
  have rendered_eq : f.rendered = rendered := by
    rw [← reported]
    exact tree
  -- No new preview has been disposed of, so mounting them is not refused.
  by_cases mounted : d.mounted = true
  · have fresh : ∀ p ∈ f.current, p.IsUntouched := current ▸ previewsFor_untouched d rendered
    obtain ⟨count, begun⟩ := mountAll_live fun p mem => (fresh p mem).live
    simp only [if_pos mounted]
    cases ran : f.mountAll with
    | mk g answer =>
      rw [ran] at count begun
      cases count
      refine ⟨by rw [rendered_eq], begun.trans ?_⟩
      rw [← current]
      exact List.map_congr_left fun p mem => by rw [(fresh p mem).unmounted]; rfl
  · simp only [if_neg mounted]
    exact ⟨by rw [rendered_eq], current.trans (List.map_id' _).symm⟩

/-- An update fails exactly where its text cannot be rendered. -/
theorem render_of_update_error {cause : UpdateError}
    (failed : (d.update content embedsEnabled).2 = .error cause) :
    ∃ reason events, cause = .render reason ∧
      Tree.render d.options.style (embedsEnabled.getD d.options.embedsEnabled)
        (content.getD d.content) = (.error reason, events) := by
  cases ran : Tree.render d.options.style (embedsEnabled.getD d.options.embedsEnabled)
      (content.getD d.content) with
  | mk result events =>
    cases result with
    | ok rendered =>
      rw [(update_of_ok ran).1] at failed
      cases failed
    | error reason =>
      rw [update_of_error ran] at failed
      exact ⟨reason, events, (Except.error.inj failed).symm, rfl⟩

/-- Unmounting changes no preview exactly if all of them are disposed of. -/
theorem map_unmount_eq_self_iff (ps : List Preview) :
    ps.map (·.unmount.1) = ps ↔ ∀ p ∈ ps, p.disposed = true :=
  calc ps.map (·.unmount.1) = ps
    _ ↔ ps.map (·.unmount.1) = ps.map id := by rw [List.map_id]
    _ ↔ ∀ p ∈ ps, p.unmount.1 = p := List.map_inj_left
    _ ↔ ∀ p ∈ ps, p.disposed = true := forall₂_congr fun _ _ => Preview.unmount_eq_self_iff

/-- An update that fails has failed to render its text. It leaves the tree and the list of previews,
but the previews have been disposed of, the text and the choice about embeds are the new ones, and
the document is not mounted any more. So the document is as it was exactly if it was not mounted,
its previews had been disposed of before, and the update asked for nothing new. -/
theorem update_error_sameAs_iff {cause : UpdateError}
    (failed : (d.update content embedsEnabled).2 = .error cause) :
    let e := (d.update content embedsEnabled).1
    (∃ reason, cause = .render reason) ∧
      (e.rendered = d.rendered ∧ e.first = d.first ∧
        e.current = d.current.map (·.unmount.1) ∧ e.content = content.getD d.content ∧
        e.options = { d.options with
          embedsEnabled := embedsEnabled.getD d.options.embedsEnabled } ∧ e.mounted = false) ∧
      (SameAs d e ↔ content.getD d.content = d.content ∧
        embedsEnabled.getD d.options.embedsEnabled = d.options.embedsEnabled ∧
        d.mounted = false ∧ ∀ p ∈ d.current, p.disposed = true) := by
  obtain ⟨reason, events, rfl, ran⟩ := render_of_update_error failed
  have stopped := update_of_error ran
  intro e
  have left : e = _ := congrArg Prod.fst stopped
  have current : e.current = d.current.map (·.unmount.1) := by
    rw [left]
    exact d.unmountAll_current
  have tree : e.rendered = d.rendered ∧ e.first = d.first := by
    rw [left]
    exact ⟨rfl, rfl⟩
  have taken : e.content = content.getD d.content ∧ e.options = { d.options with
      embedsEnabled := embedsEnabled.getD d.options.embedsEnabled } ∧ e.mounted = false := by
    rw [left]
    exact ⟨rfl, rfl, rfl⟩
  obtain ⟨rendered, first⟩ := tree
  obtain ⟨text, options, unmounted⟩ := taken
  refine ⟨⟨reason, rfl⟩, ⟨rendered, first, current, text, options, unmounted⟩, fun same => ?_,
    fun ⟨sameText, sameChoice, wasUnmounted, disposed⟩ => ?_⟩
  · have stays := same.current
    rw [current, map_unmount_eq_self_iff] at stays
    have choice := same.embedsEnabled
    rw [options] at choice
    exact ⟨text.symm.trans same.content, choice, same.mounted.symm.trans unmounted, stays⟩
  · exact {
      content := text.trans sameText
      embedsEnabled := (congrArg Options.embedsEnabled options).trans sameChoice
      rendered
      first
      current := current.trans ((map_unmount_eq_self_iff _).mpr disposed)
      mounted := unmounted.trans wasUnmounted.symm }

/-- A quote with a container that nothing closes before the text ends with a blank line. -/
def unclosedContainer : Text := "> ::: spoiler\n>".toList

/-- A container in a quote that ends the text makes rendering fail. -/
theorem exists_render_unclosedContainer :
    ∃ cause events, Tree.render {} true unclosedContainer = (.error cause, events) := by
  have none : (Tree.render {} true unclosedContainer).1.toOption.isNone = true := by
    decide +kernel
  cases ran : Tree.render {} true unclosedContainer with
  | mk result events =>
    rw [ran] at none
    cases result with
    | ok rendered => cases none
    | error cause => exact ⟨cause, events, rfl⟩

/-- A reply for the first of two arcs that is held back. -/
def heldScript : Preview.Script :=
  .ofReplies [(⟨.arc, 1⟩, { held := true, outcome := .payload .null })]

/-- The document of the two arcs while the lookup of the first one is under way. -/
def lookingUp : Document := (ofArcs heldScript).after [.step .mountAll, .step .tick]

/-- An update to that text fails, and leaves the document cleared. -/
theorem exists_update_lookingUp : ∃ cause events,
    lookingUp.update (some unclosedContainer) none =
      ({ lookingUp.cleared (some unclosedContainer) none with
        session := (lookingUp.cleared (some unclosedContainer) none).session.note { events } },
        .error (.render cause)) := by
  obtain ⟨cause, events, ran⟩ := exists_render_unclosedContainer
  exact ⟨cause, events, update_of_error ran⟩

/-- The failed update of a mounted document disposes of its previews and unmounts it. -/
theorem update_error_sameAs_iff_lookingUp :
    (∃ cause, (lookingUp.update (some unclosedContainer) none).2 = .error cause) ∧
      (lookingUp.update (some unclosedContainer) none).1.current =
        lookingUp.current.map (·.unmount.1) ∧
      ¬ SameAs lookingUp (lookingUp.update (some unclosedContainer) none).1 := by
  obtain ⟨cause, events, updated⟩ := exists_update_lookingUp
  have failed : (lookingUp.update (some unclosedContainer) none).2 = .error (.render cause) := by
    rw [updated]
  obtain ⟨-, ⟨-, -, current, -⟩, same⟩ := update_error_sameAs_iff failed
  refine ⟨⟨_, failed⟩, current, fun unchanged => ?_⟩
  obtain ⟨-, -, unmounted, -⟩ := same.mp unchanged
  have mounted : lookingUp.mounted = true := rfl
  rw [mounted] at unmounted
  cases unmounted

/-- A document that can be reached and an update that fails and does not leave it as it was: the
text is the new one beside the old tree, the lookup of the first arc has been told to stop and its
preview disposed of, and the document is not mounted any more. -/
theorem update_error_not_sameAs :
    open? {} (some heldScript) twoArcs = .ok (ofArcs heldScript) ∧
      ∃ e cause, lookingUp.update (some unclosedContainer) none = (e, .error cause) ∧
        ¬ SameAs lookingUp e ∧ e.content = unclosedContainer ∧
        e.rendered = lookingUp.rendered ∧ e.mounted = false ∧
        (lookingUp.session.preview 0).isInFlight = true ∧
        (e.session.preview 0).lookup = some .stopping ∧ (e.session.preview 0).disposed = true := by
  obtain ⟨cause, events, updated⟩ := exists_update_lookingUp
  refine ⟨open?_twoArcs heldScript, _, _, updated, fun same => ?_, rfl, rfl, rfl, rfl, rfl, rfl⟩
  have mounted : false = lookingUp.mounted := same.mounted
  cases mounted

end Loremark.Document
