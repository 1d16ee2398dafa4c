import Loremark.Proofs.Document.FailedUpdate

/-!
# Mounting that is refused

Mounting fails at a preview that has been disposed of. By then nothing has happened to any preview,
because whatever happens to a document its previews have all been dealt with, or none of them has
(`Even`). But the document counts as mounted from there on, so that the next update mounts its
previews (`refused_sameAs_iff`).
-/

set_option autoImplicit false

namespace Loremark.Document

open Preview.Session (Goes Quiet)

variable {d e : Document} {content : Option Text} {embedsEnabled : Option Bool}

/-- All the current previews have been dealt with. -/
def DealtWith (d : Document) : Prop := ∀ p ∈ d.current, p.IsDealtWith

/-- Mounting a document all of whose previews have been dealt with is refused if one of them has
been disposed of, and does nothing to them. -/
theorem mountAll_dealtWith (dealt : d.DealtWith) {cause : Preview.Unmounted}
    (refused : d.mountAll.2 = .error cause) : d.mountAll.1 = { d with mounted := true } := by
  obtain ⟨done, previews, numbers, -⟩ := d.exists_previews_eq
  have ran := Preview.Session.mountEach_dealtWith previews dealt
  rw [← numbers] at ran
  rw [mountAll] at refused ⊢
  dsimp only at refused ⊢
  rw [ran] at refused ⊢
  split at refused
  · rename_i found
    obtain ⟨rfl, -⟩ := Prod.mk.inj found
    rfl
  · split at refused <;> cases refused

/-- The current previews have all been dealt with, or none of them has. -/
def Even (d : Document) : Prop := d.DealtWith ∨ ∀ p ∈ d.current, p.IsUntouched

/-- A document whose previews were dealt with stays so under steps that only lead previews onward.
-/
theorem Keeps.dealtWith (keeps : Keeps Goes d e) (dealt : d.DealtWith) : e.DealtWith := by
  intro q mem
  have each := List.forall₂_drop d.first keeps.session.forall₂
  rw [current, keeps.first] at mem
  obtain ⟨n, there⟩ := List.getElem?_of_mem mem
  obtain ⟨bound, here⟩ := List.getElem?_eq_some_iff.mp there
  obtain ⟨trace, advances⟩ := (List.forall₂_iff_get.mp each).2 n (each.length_eq ▸ bound) bound
  rw [← here]
  exact advances.isDealtWith (dealt _ (List.getElem_mem _))

/-- Unmounting all previews deals with every one of them. -/
theorem unmountAll_dealtWith (d : Document) : d.unmountAll.DealtWith := by
  intro q mem
  rw [unmountAll_current] at mem
  obtain ⟨p, -, rfl⟩ := List.mem_map.mp mem
  exact .inl Preview.unmount_disposed

section Even

variable (coherent : d.session.Coherent) (even : d.Even)
include coherent even

/-- Turns of the loop keep documents even. -/
theorem run_even : d.run.Even :=
  even.imp (run_keeps coherent).dealtWith fun untouched => by
    rw [show d.run.current = d.current from Preview.Session.drop_run untouched]
    exact untouched

/-- Mounting all previews of an even document deals with every one of them, whether it fails or not.
-/
theorem mountAll_dealsWith : d.mountAll.1.DealtWith := by
  rcases even with dealt | untouched
  · exact (mountAll_keeps coherent).goes.dealtWith dealt
  · obtain ⟨-, begun⟩ := mountAll_live fun p mem => (untouched p mem).live
    intro q mem
    rw [begun] at mem
    obtain ⟨p, -, rfl⟩ := List.mem_map.mp mem
    exact .inr rfl

/-- Resolving all previews of an even document deals with every one of them, whether it fails or
not. -/
theorem resolveAll_dealsWith : d.resolveAll.1.DealtWith := by
  have released := release_keeps coherent
  have mounts := mountAll_dealsWith released.session.coherent even
  have later := (mountAll_keeps released.session.coherent).session.coherent
  rw [resolveAll]
  cases ran : d.release.mountAll with
  | mk e answer =>
    rw [ran] at mounts later
    cases answer with
    | error cause => exact mounts
    | ok count => exact (run_keeps later).dealtWith mounts

end Even

/-- Behind an update the previews are new or have all been dealt with. -/
theorem update_even (d : Document) (content : Option Text) (embedsEnabled : Option Bool) :
    (d.update content embedsEnabled).1.Even := by
  cases ran : Tree.render d.options.style (embedsEnabled.getD d.options.embedsEnabled)
      (content.getD d.content) with
  | mk result events =>
    cases result with
    | error cause =>
      rw [update_of_error ran]
      exact .inl d.unmountAll_dealtWith
    | ok rendered =>
      obtain ⟨-, current⟩ := update_of_ok ran
      rw [Even, DealtWith, current]
      cases d.mounted with
      | true => exact .inl (List.forall_mem_map.mpr fun p _ => .inr rfl)
      | false => exact .inr (List.forall_mem_map.mpr (previewsFor_untouched d rendered))

/-- Every step keeps documents even. -/
theorem act_even (coherent : d.session.Coherent) (even : d.Even) (step : Step) :
    (d.act step).1.Even := by
  cases step with
  | mountAll =>
    have mounts := mountAll_dealsWith coherent even
    rw [act]
    split <;> rename_i ran <;> rw [ran] at mounts <;> exact .inl mounts
  | unmountAll => exact .inl d.unmountAll_dealtWith
  | tick => exact run_even coherent even
  | release => exact run_even (release_keeps coherent).session.coherent even
  | resolveAll =>
    have resolves := resolveAll_dealsWith coherent even
    rw [act]
    split <;> rename_i ran <;> rw [ran] at resolves <;> exact .inl resolves
  | update content embedsEnabled =>
    rw [act_update]
    exact update_even d content embedsEnabled
  | listen name => exact even
  | html =>
    rw [act, html]
    cases d.page.html d.rendered.tree <;> exact even

/-- Every move keeps documents even. -/
theorem move_even (coherent : d.session.Coherent) (even : d.Even) (move : Move) :
    (d.move move).1.Even := by
  cases move with
  | step step => exact act_even coherent even step
  | turn number =>
    have idle : d.session.Quiet d.session := .of_same coherent rfl rfl
    have keeps : Keeps Goes d { d with session := d.session.take number } :=
      ⟨idle.toGoes.take number, rfl, rfl, rfl⟩
    refine even.imp keeps.dealtWith fun untouched => ?_
    rw [show (d.move (.turn number)).1.current = d.current from
      Preview.Session.drop_take untouched number]
    exact untouched
  | cancel number =>
    have keeps : Keeps Quiet d { d with session := d.session.cancel number } :=
      ⟨Preview.Session.cancel_quiet coherent number, rfl, rfl, rfl⟩
    refine even.imp keeps.goes.dealtWith fun untouched => ?_
    rw [show (d.move (.cancel number)).1.current = d.current from
      Preview.Session.drop_cancel untouched number]
    exact untouched

/-- A document that has just been opened is even. -/
theorem open?_even {options : Options} {store : Option Preview.Script} {text : Text}
    (ok : open? options store text = .ok d) : d.Even := by
  rw [open?] at ok
  let blank : Document :=
    { content := text, options, hasStore := store.isSome, session := { script := store.getD {} } }
  cases ran : Tree.render options.style options.embedsEnabled text with
  | mk result events =>
    cases result with
    | error cause =>
      have failed : blank.render = ({ blank with
          session := blank.session.note { events } }, some cause) := by
        rw [render, ran]
      rw [failed] at ok
      cases ok
    | ok rendered =>
      obtain ⟨e, fine, -, current⟩ := exists_render (d := blank) ran
      rw [fine] at ok
      cases ok
      exact .inr (current ▸ previewsFor_untouched blank rendered)

/-- Whatever has happened to a document, its current previews have all been dealt with, or none of
them has. -/
theorem even_after (between : d.Between) (even : d.Even) (moves : List Move) :
    (d.after moves).Even := by
  induction moves generalizing d with
  | nil => exact even
  | cons move moves ih =>
    exact ih (move_leads between move).between (move_even between.coherent even move)

/-- Mounting a document fails only if its previews have been dealt with, and then changes nothing
but that the document counts as mounted. -/
theorem mountAll_error (even : d.Even) {cause : Preview.Unmounted}
    (refused : d.mountAll.2 = .error cause) : d.mountAll.1 = { d with mounted := true } := by
  rcases even with dealt | untouched
  · exact mountAll_dealtWith dealt refused
  · rw [(mountAll_live fun p mem => (untouched p mem).live).1] at refused
    cases refused

/-- Whether an update starts a lookup. -/
def Starts (d : Document) (content : Option Text) (embedsEnabled : Option Bool) : Prop :=
  ∃ p ∈ (d.update content embedsEnabled).1.current, p.mounted = true

/-- Whether the text of an update is rendered and gives the document previews. -/
def GetsPreviews (d : Document) (content : Option Text) (embedsEnabled : Option Bool) : Prop :=
  ∃ rendered, (Tree.render d.options.style (embedsEnabled.getD d.options.embedsEnabled)
    (content.getD d.content)).1 = .ok rendered ∧ d.previewsFor rendered ≠ []

/-- An update starts lookups exactly if the document counts as mounted and gets previews. -/
theorem starts_iff (d : Document) (content : Option Text) (embedsEnabled : Option Bool) :
    d.Starts content embedsEnabled ↔
      d.mounted = true ∧ d.GetsPreviews content embedsEnabled := by
  rw [Starts, GetsPreviews]
  cases ran : Tree.render d.options.style (embedsEnabled.getD d.options.embedsEnabled)
      (content.getD d.content) with
  | mk result events =>
    cases result with
    | error cause =>
      -- An update that fails has unmounted every preview, so no lookup is started.
      have current : (d.update content embedsEnabled).1.current =
          d.current.map (·.unmount.1) := by
        rw [update_of_error ran]
        exact d.unmountAll_current
      rw [current]
      constructor
      · rintro ⟨p, mem, mounted⟩
        obtain ⟨q, -, rfl⟩ := List.mem_map.mp mem
        rw [Preview.mounted, Preview.unmount_disposed, Bool.not_true, Bool.and_false] at mounted
        cases mounted
      · rintro ⟨-, rendered, ok, -⟩
        cases ok
    | ok rendered =>
      obtain ⟨-, current⟩ := update_of_ok ran
      rw [current]
      constructor
      · rintro ⟨p, mem, mounted⟩
        obtain ⟨q, there, rfl⟩ := List.mem_map.mp mem
        split at mounted
        · rename_i was
          exact ⟨was, rendered, rfl, List.ne_nil_of_mem there⟩
        · rw [Preview.mounted, (previewsFor_untouched d rendered q there).unmounted] at mounted
          cases mounted
      · rintro ⟨was, _, ok, some⟩
        cases ok
        obtain ⟨q, there⟩ := List.exists_mem_of_ne_nil _ some
        refine ⟨_, List.mem_map_of_mem there, ?_⟩
        rw [if_pos was, Preview.mounted, (previewsFor_untouched d rendered q there).live]
        rfl

/-- The step that mounts is refused only where mounting is. -/
theorem act_mountAll_unmounted {cause : Preview.Unmounted}
    (refused : d.act .mountAll = (e, .unmounted cause)) : d.mountAll = (e, .error cause) := by
  rw [act] at refused
  split at refused
  · cases refused
  · rename_i ran
    cases refused
    exact ran

/-- The step that resolves is refused only where mounting behind the release is. -/
theorem act_resolveAll_unmounted {cause : Preview.Unmounted}
    (refused : d.act .resolveAll = (e, .unmounted cause)) :
    d.release.mountAll = (e, .error cause) := by
  rw [act] at refused
  split at refused
  · cases refused
  · rename_i ran
    cases refused
    rw [resolveAll] at ran
    split at ran
    · rename_i mounts
      cases ran
      exact mounts
    · cases ran

/-- Mounting or resolving a document is refused if one of its previews has been disposed of. That
changes nothing about the text, the tree and the previews, but the document counts as mounted from
there on: it is as it was exactly if it counted as mounted before. An update behind it starts
lookups where it would not have, except if the document counted as mounted before or the update
gives it no previews. -/
theorem refused_sameAs_iff {options : Options} {store : Option Preview.Script} {text : Text}
    (ok : open? options store text = .ok d) (moves : List Move) {step : Step}
    (mounts : step = .mountAll ∨ step = .resolveAll) {cause : Preview.Unmounted}
    (refused : (d.after moves).act step = (e, .unmounted cause)) :
    SameAs { d.after moves with mounted := true } e ∧
      e.session.previews = (d.after moves).session.previews ∧
      (SameAs (d.after moves) e ↔ (d.after moves).mounted = true) ∧
      ∀ content embedsEnabled,
        ((e.Starts content embedsEnabled ↔ (d.after moves).Starts content embedsEnabled) ↔
          ((d.after moves).mounted = true ∨
            ¬ (d.after moves).GetsPreviews content embedsEnabled)) := by
  have even : (d.after moves).Even := even_after (open?_between ok).1 (open?_even ok) moves
  generalize d.after moves = f at refused even ⊢
  -- Being refused changes nothing but that the document counts as mounted.
  have stays : SameAs { f with mounted := true } e ∧ e.session.previews = f.session.previews ∧
      e.options = f.options ∧ e.hasStore = f.hasStore := by
    rcases mounts with rfl | rfl
    · have ran := act_mountAll_unmounted refused
      have left := mountAll_error even (congrArg Prod.snd ran)
      rw [ran] at left
      rw [show e = _ from left]
      exact ⟨⟨rfl, rfl, rfl, rfl, rfl, rfl⟩, rfl, rfl, rfl⟩
    · have ran := act_resolveAll_unmounted refused
      have left := mountAll_error (d := f.release) even (congrArg Prod.snd ran)
      rw [ran] at left
      rw [show e = _ from left]
      exact ⟨⟨rfl, rfl, rfl, rfl, rfl, rfl⟩, rfl, rfl, rfl⟩
  obtain ⟨same, previews, options, hasStore⟩ := stays
  refine ⟨same, previews, ⟨fun unchanged => ?_, fun was => ?_⟩, fun content embedsEnabled => ?_⟩
  · exact unchanged.mounted.symm.trans same.mounted
  · exact { same with mounted := same.mounted.trans was.symm }
  · have gets : e.GetsPreviews content embedsEnabled ↔ f.GetsPreviews content embedsEnabled := by
      have text : e.content = f.content := same.content
      simp only [GetsPreviews, previewsFor, options, hasStore, text]
    have mounted : e.mounted = true := same.mounted
    rw [starts_iff, starts_iff, gets, mounted]
    tauto

/-- The document of the two arcs behind the unmounting of its previews. -/
def letGo : Document := (ofArcs heldScript).after [.step .unmountAll]

/-- Mounting the two previews that were let go is refused, and the document counts as mounted. -/
theorem act_letGo : letGo.act .mountAll =
    ({ letGo with mounted := true }, .unmounted ⟨"embed-0".toList⟩) := rfl

/-- An update of that document to its own text would give it previews. -/
theorem letGo_getsPreviews : letGo.GetsPreviews none none := by
  obtain ⟨events, ran⟩ := render_twoArcs
  refine ⟨renderedArcs, congrArg Prod.fst ran, ?_⟩
  rw [previewsFor, if_pos (show letGo.hasStore = true from rfl), slots_renderedArcs]
  exact List.cons_ne_nil _ _

/-- A document whose previews have been unmounted refuses to be mounted, and counts as mounted
all the same. -/
theorem refused_sameAs_iff_letGo :
    open? {} (some heldScript) twoArcs = .ok (ofArcs heldScript) ∧
      letGo.act .mountAll = ({ letGo with mounted := true }, .unmounted ⟨"embed-0".toList⟩) ∧
      ¬ SameAs letGo { letGo with mounted := true } ∧ letGo.GetsPreviews none none := by
  have ok := open?_twoArcs heldScript
  obtain ⟨-, -, same, -⟩ := refused_sameAs_iff ok [.step .unmountAll] (.inl rfl) act_letGo
  refine ⟨ok, act_letGo, fun unchanged => ?_, letGo_getsPreviews⟩
  cases same.mp unchanged

/-- A document that can be reached, and a refusal to mount it that does not leave it as it was: an
update behind it starts lookups, and starts none without it. -/
theorem refused_starts : open? {} (some heldScript) twoArcs = .ok (ofArcs heldScript) ∧
    letGo = (ofArcs heldScript).after [.step .unmountAll] ∧
    ∃ e, letGo.act .mountAll = (e, .unmounted ⟨"embed-0".toList⟩) ∧ ¬ SameAs letGo e ∧
      e.Starts none none ∧ ¬ letGo.Starts none none := by
  refine ⟨open?_twoArcs heldScript, rfl, _, act_letGo, fun same => ?_, ?_, fun starts => ?_⟩
  · have mounted : true = letGo.mounted := same.mounted
    cases mounted
  · exact (starts_iff _ _ _).mpr ⟨rfl, letGo_getsPreviews⟩
  · cases ((starts_iff _ _ _).mp starts).1

end Loremark.Document
