import Loremark.Document.Steps
import Loremark.Proofs.Preview.Sessions
import Loremark.Proofs.Tree.Slots

/-!
# Documents at every moment

Steps are taken with a document, and in between the lookups of its previews go on by turns, in any
order, or are cancelled from outside (`Move`); waiting until all previews have settled is mounting
them and then turns, whatever else happens in between. At every moment the current previews are
those for the slots of the tree, the previews of earlier renders are disposed of and do not change
any more, and the listeners of the document are told of current previews only.
-/

set_option autoImplicit false

namespace Loremark.Document

open Preview.Session (Goes Quiet)

/-- What can happen to a document. -/
inductive Move where
  | step (step : Step)
  /-- The lookup of a preview goes on, be it a current one or not. -/
  | turn (number : Nat)
  /-- The lookup of a preview is cancelled from outside. -/
  | cancel (number : Nat)
  deriving DecidableEq, Repr, Inhabited

/-- The document behind a move, with the row that tells what was done in it. -/
def move (d : Document) : Move → Document × Row
  | .step step => d.step step
  | .turn number => ({ d with session := d.session.take number } : Document).row .nothing
  | .cancel number => ({ d with session := d.session.cancel number } : Document).row .nothing

/-- The document behind moves. -/
def after (d : Document) (moves : List Move) : Document :=
  moves.foldl (fun d move => (d.move move).1) d

/-- A preview that shows a slot. -/
structure Matches (p : Preview) (s : Tree.Slot) : Prop where
  key : p.key = s.key
  kindName : p.kindName = s.descriptor.kind.name
  entity : p.entity = s.descriptor.entity
  label : p.label = s.descriptor.label
  mode : p.mode = s.mode

/-- The slots that a document has previews for. -/
def filled (d : Document) : List Tree.Slot :=
  if d.hasStore then Tree.Node.slots d.rendered.tree else []

/-- The current previews show the slots of the tree in document order, each under a key of its
own. -/
structure Mirrors (d : Document) : Prop where
  each : List.Forall₂ Matches d.current d.filled
  distinct : (d.filled.map Tree.Slot.key).Nodup

/-- What the listeners are to be told at a moment: each of them once of every current preview that
was loading at an earlier moment and is not any more. -/
def noticesSince (earlier d : Document) : List Notice :=
  d.numbers.flatMap fun n =>
    if (earlier.session.preview n).state.isLoading && !(d.session.preview n).state.isLoading then
      d.listeners.map fun listener =>
        ⟨listener, (d.session.preview n).key, (d.session.preview n).state⟩
    else []

/-- What holds of a document at every moment. -/
structure Sound (d : Document) : Prop where
  first_le : d.first ≤ d.session.previews.length
  mirrors : d.Mirrors
  coherent : d.session.Coherent
  replaced : ∀ n, n < d.first → (d.session.preview n).disposed = true
  listening : ∀ n, n < d.session.previews.length → (d.session.preview n).disposed = false →
    (d.session.preview n).listeners = [self]

variable {d e f : Document}

/-! ## Going on -/

/-- A document at a later moment, with the render that it had; `R` relates the sessions. -/
structure Keeps (R : Preview.Session → Preview.Session → Prop) (d e : Document) : Prop where
  session : R d.session e.session
  first : e.first = d.first
  rendered : e.rendered = d.rendered
  hasStore : e.hasStore = d.hasStore

/-- What two steps in a row keep, the two together keep. -/
theorem Keeps.trans {R S T : Preview.Session → Preview.Session → Prop}
    (first : Keeps R d e) (second : Keeps S e f)
    (glue : ∀ {s t u : Preview.Session}, R s t → S t u → T s u) : Keeps T d f where
  session := glue first.session second.session
  first := second.first.trans first.first
  rendered := second.rendered.trans first.rendered
  hasStore := second.hasStore.trans first.hasStore

/-- What is quiet leads the previews onward. -/
theorem Keeps.goes (keeps : Keeps Quiet d e) : Keeps Goes d e :=
  ⟨keeps.session.toGoes, keeps.first, keeps.rendered, keeps.hasStore⟩

/-- The numbers of the current previews stay where previews only go on. -/
theorem Keeps.numbers_eq (keeps : Keeps Goes d e) : e.numbers = d.numbers := by
  rw [numbers, numbers, current, current, keeps.first, List.length_drop, List.length_drop,
    keeps.session.length]

/-- A preview that goes on still shows the slot that it was made for. -/
theorem Matches.advances {p q : Preview} {trace : Preview.Trace} {s : Tree.Slot}
    (shows : Matches p s) (advances : p.Advances trace q) : Matches q s := by
  rw [advances.same]
  exact ⟨shows.key, shows.kindName, shows.entity, shows.label, shows.mode⟩

/-- Previews that go on still show the slots that they were made for, each its own. -/
theorem forall₂_matches {ps qs : List Preview} {slots : List Tree.Slot}
    (each : List.Forall₂ Matches ps slots)
    (onward : List.Forall₂ (fun p q => ∃ trace, Preview.Advances p trace q) ps qs) :
    List.Forall₂ Matches qs slots := by
  induction each generalizing qs with
  | nil =>
    cases onward
    exact .nil
  | cons here behind ih =>
    cases onward with
    | cons first rest =>
      obtain ⟨trace, advances⟩ := first
      exact .cons (here.advances advances) (ih rest)

/-- The filled slots stay where previews only go on. -/
theorem Keeps.filled_eq (keeps : Keeps Goes d e) : e.filled = d.filled := by
  rw [filled, filled, keeps.hasStore, keeps.rendered]

/-- A document stays sound where previews only go on. -/
theorem Keeps.sound (keeps : Keeps Goes d e) (sound : d.Sound) : e.Sound where
  first_le := by
    rw [keeps.first, keeps.session.length]
    exact sound.first_le
  mirrors := {
    each := by
      rw [keeps.filled_eq, current, keeps.first]
      exact forall₂_matches sound.mirrors.each (List.forall₂_drop d.first keeps.session.forall₂)
    distinct := by
      rw [keeps.filled_eq]
      exact sound.mirrors.distinct }
  coherent := keeps.session.coherent
  replaced := by
    intro n earlier
    rw [keeps.first] at earlier
    obtain ⟨trace, advances⟩ := keeps.session.advances n
    exact advances.disposed (sound.replaced n earlier)
  listening := by
    intro n bound live
    rw [keeps.session.length] at bound
    obtain ⟨trace, advances⟩ := keeps.session.advances n
    rw [advances.listeners live]
    exact sound.listening n bound (advances.live live)

/-- The numbers of previews are those of earlier renders and then the current ones. -/
theorem Sound.range_eq (sound : d.Sound) :
    List.range d.session.previews.length = List.range d.first ++ d.numbers := by
  have parts : d.session.previews.length = d.first + d.current.length := by
    rw [current, List.length_drop]
    exact (Nat.add_sub_cancel' sound.first_le).symm
  rw [parts, List.range_add, numbers]

/-- The listeners of a sound document hear of a preview exactly if it stops loading. -/
theorem Sound.passOn_noticesOf (sound : d.Sound) {n : Nat} (bound : n < d.session.previews.length)
    {q : Preview} {trace : Preview.Trace} (advances : (d.session.preview n).Advances trace q)
    (listeners : List Text) :
    passOn listeners (Preview.noticesOf (d.session.preview n) q) =
      if (d.session.preview n).state.isLoading && !q.state.isLoading then
        listeners.map fun listener => ⟨listener, q.key, q.state⟩
      else [] := by
  rw [Preview.noticesOf]
  split
  · rename_i settled
    rw [Bool.and_eq_true, Preview.State.isLoading_iff, Bool.not_eq_true',
      Bool.eq_false_iff, Ne, Preview.State.isLoading_iff] at settled
    have live : q.disposed = false := by
      rcases advances.state with same | ⟨-, live, -⟩
      · exact absurd (same.trans settled.1) settled.2
      · exact live
    rw [sound.listening n bound (advances.live live), passOn, advances.key]
    simp
  · rfl

/-- Notices that previews gave to the document are passed on to its listeners. -/
theorem Keeps.notices (keeps : Keeps Goes d e) (sound : d.Sound)
    (silent : d.session.trace.notices = []) :
    (passOn e.listeners e.session.trace.notices).Perm (noticesSince d e) := by
  have given : e.session.trace.notices.Perm ((List.range d.session.previews.length).flatMap
      fun n => Preview.noticesOf (d.session.preview n) (e.session.preview n)) := by
    have notices := keeps.session.notices
    rw [silent, List.nil_append] at notices
    exact notices
  refine (List.Perm.flatMap_right _ given).trans (.of_eq ?_)
  have earlier : (List.range d.first).flatMap (fun n => passOn e.listeners
      (Preview.noticesOf (d.session.preview n) (e.session.preview n))) = [] := by
    refine List.flatMap_eq_nil_iff.mpr fun n mem => ?_
    obtain ⟨trace, advances⟩ := keeps.session.advances n
    have disposed := advances.disposed (sound.replaced n (List.mem_range.mp mem))
    rw [Preview.noticesOf_eq_nil (advances.of_disposed disposed).1]
    rfl
  rw [List.flatMap_assoc, sound.range_eq, List.flatMap_append]
  refine (congrArg (· ++ _) earlier).trans ?_
  rw [List.nil_append, noticesSince, keeps.numbers_eq]
  refine List.flatMap_congr fun n mem => ?_
  obtain ⟨trace, advances⟩ := keeps.session.advances n
  have bound : n < d.session.previews.length := by
    rw [← List.mem_range, sound.range_eq]
    exact List.mem_append_right _ mem
  exact sound.passOn_noticesOf bound advances e.listeners

/-! ## Operations -/

section Operations

variable (coherent : d.session.Coherent)
include coherent

/-- Reporting an event is quiet. -/
theorem report_keeps (event : Log.Event) : Keeps Quiet d (d.report event) :=
  ⟨Preview.Session.note_quiet coherent [event], rfl, rfl, rfl⟩

/-- Releasing what is held is quiet. -/
theorem release_keeps : Keeps Quiet d d.release :=
  ⟨Preview.Session.release_quiet coherent, rfl, rfl, rfl⟩

/-- Turns of the loop lead the previews onward. -/
theorem run_keeps : Keeps Goes d d.run := ⟨Preview.Session.run_goes coherent, rfl, rfl, rfl⟩

/-- Mounting all previews is quiet. -/
theorem mountAll_keeps : Keeps Quiet d d.mountAll.1 := by
  have quiet := Preview.Session.mountEach_quiet coherent d.numbers
  rw [mountAll]
  dsimp only
  cases ran : d.session.mountEach d.numbers with
  | mk session refused =>
    rw [ran] at quiet
    have mounts : Keeps Quiet d { d with mounted := true, session } := ⟨quiet, rfl, rfl, rfl⟩
    cases refused with
    | some cause => exact mounts
    | none =>
      dsimp only
      split
      · exact mounts
      · exact mounts.trans (report_keeps quiet.coherent _) Quiet.trans

/-- Unmounting all previews is quiet, and disposes of every current one. -/
theorem unmountAll_keeps : Keeps Quiet d d.unmountAll ∧ ∀ n ∈ d.numbers,
    n < d.session.previews.length → (d.unmountAll.session.preview n).disposed = true := by
  obtain ⟨quiet, disposed⟩ := Preview.Session.unmountEach_quiet coherent d.numbers
  exact ⟨⟨quiet, rfl, rfl, rfl⟩, disposed⟩

/-- Resolving all previews leads them onward. -/
theorem resolveAll_keeps : Keeps Goes d d.resolveAll.1 := by
  have released := release_keeps coherent
  have mounts := mountAll_keeps released.session.coherent
  have both := released.trans mounts Quiet.trans
  rw [resolveAll]
  cases ran : d.release.mountAll with
  | mk e answer =>
    rw [ran] at both
    cases answer with
    | error cause => exact both.goes
    | ok count => exact both.trans (run_keeps both.session.coherent) Quiet.goes_trans

/-- Every step but an update leads the previews onward. -/
theorem act_keeps {step : Step}
    (stays : ∀ content embedsEnabled, step ≠ .update content embedsEnabled) :
    Keeps Goes d (d.act step).1 := by
  have idle : Keeps Quiet d d := ⟨.of_same coherent rfl rfl, rfl, rfl, rfl⟩
  cases step with
  | mountAll =>
    have mounts := mountAll_keeps coherent
    rw [act]
    split <;> rename_i ran <;> rw [ran] at mounts <;> exact mounts.goes
  | unmountAll => exact (unmountAll_keeps coherent).1.goes
  | tick => exact run_keeps coherent
  | release =>
    have released := release_keeps coherent
    exact released.trans (run_keeps released.session.coherent) Quiet.goes_trans
  | resolveAll =>
    have resolves := resolveAll_keeps coherent
    rw [act]
    split <;> rename_i ran <;> rw [ran] at resolves <;> exact resolves
  | update content embedsEnabled => exact absurd rfl (stays content embedsEnabled)
  | listen name => exact ⟨idle.session.toGoes, rfl, rfl, rfl⟩
  | html =>
    have quiet := Preview.Session.note_quiet coherent
      (gateEvents d.options.gate (Tree.Node.regions d.rendered.tree))
    rw [act, html]
    cases d.page.html d.rendered.tree <;> exact ⟨quiet.toGoes, rfl, rfl, rfl⟩

end Operations

/-! ## Rendering -/

/-- A document that has been rendered anew: its previews come behind those that it had. -/
structure Renews (d e : Document) : Prop where
  previews : e.session.previews =
    d.session.previews ++ e.filled.map (previewOf d.options.cards)
  first : e.first = d.session.previews.length
  distinct : (e.filled.map Tree.Slot.key).Nodup
  hasStore : e.hasStore = d.hasStore
  notices : e.session.trace.notices = d.session.trace.notices

/-- A render that succeeds puts its tree and new previews in the place of the old ones. -/
theorem render_eq {rendered : Tree.Rendered} {events : List Log.Event}
    (ran : Tree.render d.options.style d.options.embedsEnabled d.content = (.ok rendered, events)) :
    d.render = ({ d with
      rendered
      first := d.session.previews.length
      session := { d.session.note { events } with
        previews := d.session.previews ++
          if d.hasStore then (Tree.Node.slots rendered.tree).map (previewOf d.options.cards)
          else [] } }, none) := by
  rw [render, ran]
  rfl

/-- A text is rendered, or cannot be rendered and nothing changes. -/
theorem render_keeps_or_renews (coherent : d.session.Coherent) :
    (∃ cause, d.render.2 = some cause ∧ Keeps Quiet d d.render.1) ∨
      d.render.2 = none ∧ Renews d d.render.1 := by
  cases ran : Tree.render d.options.style d.options.embedsEnabled d.content with
  | mk result events =>
    cases result with
    | error cause =>
      rw [render, ran]
      exact .inl ⟨cause, rfl, Preview.Session.note_quiet coherent events, rfl, rfl, rfl⟩
    | ok rendered =>
      rw [render_eq ran]
      refine .inr ⟨rfl, ?_, rfl, ?_, rfl, List.append_nil _⟩
      · simp only [filled]
        cases d.hasStore <;> rfl
      · simp only [filled]
        split
        · obtain ⟨count, keys⟩ := Tree.render_keys ran
          rw [keys]
          exact Tree.keysFrom_nodup
        · exact List.nodup_nil

/-- A preview behind a render is one that was there before, one for a slot, or nobody. -/
theorem Renews.preview (renews : Renews d e) (n : Nat) :
    n < d.session.previews.length ∧ e.session.preview n = d.session.preview n ∨
      d.session.previews.length ≤ n ∧
        ((∃ s, e.session.preview n = previewOf d.options.cards s) ∨
          e.session.previews.length ≤ n ∧ e.session.preview n = default) := by
  rcases Nat.lt_or_ge n d.session.previews.length with old | new
  · refine .inl ⟨old, ?_⟩
    rw [Preview.Session.preview, Preview.Session.preview, renews.previews,
      List.getD_eq_getElem?_getD, List.getElem?_append_left old, ← List.getD_eq_getElem?_getD]
  · refine .inr ⟨new, ?_⟩
    cases there : e.session.previews[n]? with
    | none =>
      exact .inr ⟨List.getElem?_eq_none_iff.mp there, Preview.Session.preview_of_none there⟩
    | some p =>
      have mem := List.mem_of_getElem? there
      rw [Preview.Session.preview_eq there]
      rw [renews.previews, List.getElem?_append_right new] at there
      obtain ⟨s, -, same⟩ := List.mem_map.mp (List.mem_of_getElem? there)
      exact .inl ⟨s, same.symm⟩

/-- A preview that has just been made is coherent. -/
theorem coherent_previewOf (cards : Entity.CardOptions) (s : Tree.Slot) :
    (previewOf cards s).Coherent where
  disposed_not_due := fun disposed => by cases disposed
  ended_or_loading := .inr rfl
  kind_of_held := fun held => by cases held

/-- A preview that has just been made shows its slot. -/
theorem matches_previewOf (cards : Entity.CardOptions) (s : Tree.Slot) :
    Matches (previewOf cards s) s := ⟨rfl, rfl, rfl, rfl, rfl⟩

/-- A document with new previews is sound if all the earlier ones are disposed of. -/
theorem Renews.sound (renews : Renews d e) (coherent : d.session.Coherent)
    (disposed : ∀ n, n < d.session.previews.length → (d.session.preview n).disposed = true) :
    e.Sound where
  first_le := by
    rw [renews.first, renews.previews, List.length_append]
    exact Nat.le_add_right _ _
  mirrors := {
    each := by
      rw [current, renews.first, renews.previews, List.drop_left, List.forall₂_map_left_iff]
      exact List.forall₂_same.mpr fun s _ => matches_previewOf d.options.cards s
    distinct := renews.distinct }
  coherent := by
    intro n
    rcases renews.preview n with ⟨-, same⟩ | ⟨-, ⟨s, same⟩ | ⟨-, same⟩⟩ <;> rw [same]
    · exact coherent n
    · exact coherent_previewOf d.options.cards s
    · exact Preview.coherent_default
  replaced := by
    intro n earlier
    rw [renews.first] at earlier
    rcases renews.preview n with ⟨-, same⟩ | ⟨new, -⟩
    · rw [same]
      exact disposed n earlier
    · omega
  listening := by
    intro n bound live
    rcases renews.preview n with ⟨old, same⟩ | ⟨-, ⟨s, same⟩ | ⟨none, -⟩⟩
    · rw [same, disposed n old] at live
      cases live
    · rw [same]
      rfl
    · omega

/-! ## Moves -/

/-- A document between two moves. -/
structure Between (d : Document) : Prop extends Sound d where
  silent : d.session.trace.notices = []

/-- What one move can do to a document, and what its listeners are told in it. -/
structure Leads (d : Document) (notices : List Notice) (e : Document) : Prop where
  between : e.Between
  hasStore : e.hasStore = d.hasStore
  told : notices.Perm (noticesSince d e)
  /-- Nobody is told anything in a move that changes which previews are current. -/
  current : notices = [] ∨ e.numbers = d.numbers
  /-- In such a move all the previews that there were become earlier ones. -/
  first : e.first = d.first ∨ e.first = d.session.previews.length
  frozen : ∀ n, (d.session.preview n).disposed = true →
    (e.session.preview n).disposed = true ∧
      (e.session.preview n).state = (d.session.preview n).state

/-- What is noted in a row is forgotten behind it. -/
theorem row_leads (sound : e.Sound) (hasStore : e.hasStore = d.hasStore)
    (told : (passOn e.listeners e.session.trace.notices).Perm (noticesSince d e))
    (current : e.session.trace.notices = [] ∨ e.numbers = d.numbers)
    (first : e.first = d.first ∨ e.first = d.session.previews.length)
    (frozen : ∀ n, (d.session.preview n).disposed = true →
      (e.session.preview n).disposed = true ∧
        (e.session.preview n).state = (d.session.preview n).state) (answer : Answer) :
    Leads d (e.row answer).2.notices (e.row answer).1 where
  between := {
    first_le := sound.first_le
    mirrors := ⟨sound.mirrors.each, sound.mirrors.distinct⟩
    coherent := sound.coherent
    replaced := sound.replaced
    listening := sound.listening
    silent := rfl }
  hasStore := hasStore
  told := told
  current := current.imp_left fun silent => by
    rw [show (e.row answer).2.notices = passOn e.listeners e.session.trace.notices from rfl, silent]
    rfl
  first := first
  frozen := frozen

/-- A preview that is disposed of stays so, in the state that it has. -/
theorem Keeps.frozen (keeps : Keeps Goes d e) (n : Nat)
    (disposed : (d.session.preview n).disposed = true) :
    (e.session.preview n).disposed = true ∧
      (e.session.preview n).state = (d.session.preview n).state := by
  obtain ⟨trace, advances⟩ := keeps.session.advances n
  have still := advances.disposed disposed
  exact ⟨still, (advances.of_disposed still).1⟩

/-- Where previews only go on, what was the case between two steps leads to what is the case behind
them. -/
theorem Keeps.leads (keeps : Keeps Goes d e) (between : d.Between) (answer : Answer) :
    Leads d (e.row answer).2.notices (e.row answer).1 :=
  row_leads (keeps.sound between.toSound) keeps.hasStore
    (keeps.notices between.toSound between.silent) (.inr keeps.numbers_eq) (.inl keeps.first)
    keeps.frozen answer

/-- The document of an update before it is rendered. -/
def cleared (d : Document) (content : Option Text) (embedsEnabled : Option Bool) : Document :=
  { d.unmountAll with
    content := content.getD d.content
    options := { d.options with
      embedsEnabled := embedsEnabled.getD d.options.embedsEnabled } }

/-- Clearing a document for an update is quiet. -/
theorem cleared_keeps (coherent : d.session.Coherent) (content : Option Text)
    (embedsEnabled : Option Bool) : Keeps Quiet d (d.cleared content embedsEnabled) := by
  obtain ⟨unmounts, -⟩ := unmountAll_keeps coherent
  exact ⟨unmounts.session, unmounts.first, unmounts.rendered, unmounts.hasStore⟩

/-- An update clears the document and renders it, and mounts the new previews if the document was
mounted. -/
theorem update_eq (d : Document) (content : Option Text) (embedsEnabled : Option Bool) :
    d.update content embedsEnabled = match (d.cleared content embedsEnabled).render with
      | (e, some cause) => (e, .error (.render cause))
      | (e, none) =>
        let f := e.report (Log.event .debug reporter "document_rerendered"
          [("widgets", .int e.current.length), ("mounted", .bool d.mounted)])
        if d.mounted then
          match f.mountAll with
          | (g, .error cause) => (g, .error (.mount cause))
          | (g, .ok _) => (g, .ok f.rendered.tree.length)
        else (f, .ok f.rendered.tree.length) := rfl

/-- The step that updates is the update. -/
theorem act_update (d : Document) (content : Option Text) (embedsEnabled : Option Bool) :
    (d.act (.update content embedsEnabled)).1 = (d.update content embedsEnabled).1 := by
  rw [act]
  split <;> rename_i ran <;> rw [ran]

/-- An update renders the document after its previews have been disposed of. A text that cannot be
rendered leaves it at that. -/
theorem update_cases (coherent : d.session.Coherent) (content : Option Text)
    (embedsEnabled : Option Bool) :
    Keeps Quiet (d.cleared content embedsEnabled) (d.update content embedsEnabled).1 ∨
      ∃ e, Renews (d.cleared content embedsEnabled) e ∧
        (e.session.Coherent → Keeps Quiet e (d.update content embedsEnabled).1) := by
  have clears := cleared_keeps coherent content embedsEnabled
  rw [update_eq]
  rcases render_keeps_or_renews clears.session.coherent with
    ⟨cause, failed, keeps⟩ | ⟨fine, renews⟩
  · left
    cases ran : (d.cleared content embedsEnabled).render with
    | mk e refused =>
      rw [ran] at failed keeps
      cases failed
      exact keeps
  · right
    cases ran : (d.cleared content embedsEnabled).render with
    | mk e refused =>
      rw [ran] at fine renews
      cases fine
      refine ⟨e, renews, fun coherent => ?_⟩
      have reports := report_keeps coherent (Log.event .debug reporter "document_rerendered"
        [("widgets", .int e.current.length), ("mounted", .bool d.mounted)])
      have mounts := reports.trans (mountAll_keeps reports.session.coherent) Quiet.trans
      dsimp only
      split
      · split <;> rename_i mounted <;> rw [mounted] at mounts <;> exact mounts
      · exact reports

/-- Before a document is rendered anew all the previews that it has ever had are disposed of. -/
theorem cleared_disposed (sound : d.Sound) (content : Option Text) (embedsEnabled : Option Bool)
    (n : Nat) (bound : n < (d.cleared content embedsEnabled).session.previews.length) :
    ((d.cleared content embedsEnabled).session.preview n).disposed = true := by
  have clears := cleared_keeps sound.coherent content embedsEnabled
  rw [clears.session.length] at bound
  have mem := List.mem_range.mpr bound
  rw [sound.range_eq, List.mem_append, List.mem_range] at mem
  rcases mem with earlier | current
  · exact (clears.goes.frozen n (sound.replaced n earlier)).1
  · exact (unmountAll_keeps sound.coherent).2 n current bound

/-- Nobody is to be told of anything when a document has been rendered anew: what is new is loading,
and what was there has not gone on. -/
theorem Renews.noticesSince_eq_nil {earlier : Document} (renews : Renews d e)
    (before : Keeps Quiet earlier d) (keeps : Keeps Quiet e f) : noticesSince earlier f = [] := by
  refine List.flatMap_eq_nil_iff.mpr fun n _ => if_neg ?_
  have state : (e.session.preview n).state = (earlier.session.preview n).state ∨
      (e.session.preview n).state = .loading := by
    rcases renews.preview n with ⟨-, same⟩ | ⟨-, ⟨s, same⟩ | ⟨-, same⟩⟩ <;> rw [same]
    · exact .inl (before.session.same n)
    · exact .inr rfl
    · exact .inr rfl
  rw [keeps.session.same n]
  rcases state with same | loading
  · simp [same]
  · simp [loading, Preview.State.isLoading]

/-- A preview that has been disposed of stays as it is when the document is rendered anew. -/
theorem Renews.frozen (renews : Renews d e) (n : Nat)
    (disposed : (d.session.preview n).disposed = true) :
    e.session.preview n = d.session.preview n := by
  rcases renews.preview n with ⟨-, same⟩ | ⟨new, -⟩
  · exact same
  · rw [Preview.Session.preview_of_none (List.getElem?_eq_none new)] at disposed
    cases disposed

/-- An update leads from what was the case before it to what is the case behind it. -/
theorem update_leads (between : d.Between) (content : Option Text) (embedsEnabled : Option Bool)
    (answer : Answer) :
    Leads d ((d.update content embedsEnabled).1.row answer).2.notices
      ((d.update content embedsEnabled).1.row answer).1 := by
  have clears := cleared_keeps between.coherent content embedsEnabled
  rcases update_cases between.coherent content embedsEnabled with keeps | ⟨e, renews, further⟩
  · exact (clears.trans keeps Quiet.trans).goes.leads between answer
  · have sound := renews.sound clears.session.coherent
      (cleared_disposed between.toSound content embedsEnabled)
    have keeps := further sound.coherent
    have silent : (d.update content embedsEnabled).1.session.trace.notices = [] := by
      refine keeps.session.notices_eq (renews.notices.trans ?_)
      exact clears.session.notices_eq between.silent
    refine row_leads (keeps.goes.sound sound)
      (keeps.hasStore.trans (renews.hasStore.trans clears.hasStore)) ?_ (.inl silent) (.inr ?_)
      (fun n was => ?_) answer
    · rw [silent, renews.noticesSince_eq_nil clears keeps]
      exact .refl _
    · rw [keeps.first, renews.first, clears.session.length]
    · obtain ⟨still, state⟩ := clears.goes.frozen n was
      have same := renews.frozen n still
      rw [← same] at still
      obtain ⟨stillBehind, stateBehind⟩ := keeps.goes.frozen n still
      exact ⟨stillBehind, by rw [stateBehind, same, state]⟩

/-- Every move leads from a document that is sound to another one. -/
theorem move_leads (between : d.Between) (move : Move) :
    Leads d (d.move move).2.notices (d.move move).1 := by
  cases move with
  | turn number =>
    have idle : d.session.Quiet d.session := .of_same between.coherent rfl rfl
    have keeps : Keeps Goes d { d with session := d.session.take number } :=
      ⟨idle.toGoes.take number, rfl, rfl, rfl⟩
    exact keeps.leads between .nothing
  | cancel number =>
    have keeps : Keeps Quiet d { d with session := d.session.cancel number } :=
      ⟨Preview.Session.cancel_quiet between.coherent number, rfl, rfl, rfl⟩
    exact keeps.goes.leads between .nothing
  | step step =>
    by_cases renders : ∃ content embedsEnabled, step = .update content embedsEnabled
    · obtain ⟨content, embedsEnabled, rfl⟩ := renders
      have leads := update_leads between content embedsEnabled
        (d.act (.update content embedsEnabled)).2
      rw [← act_update] at leads
      exact leads
    · have stays : ∀ content embedsEnabled, step ≠ .update content embedsEnabled :=
        fun content embedsEnabled same => renders ⟨content, embedsEnabled, same⟩
      exact (act_keeps between.coherent stays).leads between (d.act step).2

/-! ## From an open document on -/

/-- A document that has just been opened is as it should be between two steps. -/
theorem open?_between {options : Options} {store : Option Preview.Script} {content : Text}
    (ok : open? options store content = .ok d) : d.Between ∧ d.hasStore = store.isSome := by
  rw [open?] at ok
  let blank : Document :=
    { content, options, hasStore := store.isSome, session := { script := store.getD {} } }
  have coherent : blank.session.Coherent := fun n => by
    rw [Preview.Session.preview_of_none rfl]
    exact Preview.coherent_default
  rcases render_keeps_or_renews coherent with ⟨cause, failed, -⟩ | ⟨fine, renews⟩
  · cases ran : blank.render with
    | mk e refused =>
      rw [ran] at failed
      cases failed
      rw [ran] at ok
      cases ok
  · cases ran : blank.render with
    | mk e refused =>
      rw [ran] at fine renews
      cases fine
      rw [ran] at ok
      cases ok
      have sound := renews.sound coherent fun n bound => absurd bound (Nat.not_lt_zero n)
      exact ⟨⟨sound, renews.notices⟩, renews.hasStore⟩

/-- Behind any moves a document is as it should be between two steps, has a store if it had one, and
the previews that were disposed of are frozen. -/
theorem Between.after (between : d.Between) (moves : List Move) :
    (d.after moves).Between ∧ (d.after moves).hasStore = d.hasStore ∧
      ∀ n, (d.session.preview n).disposed = true →
        ((d.after moves).session.preview n).disposed = true ∧
          ((d.after moves).session.preview n).state = (d.session.preview n).state := by
  induction moves generalizing d with
  | nil => exact ⟨between, rfl, fun n disposed => ⟨disposed, rfl⟩⟩
  | cons move moves ih =>
    have leads := move_leads between move
    obtain ⟨behind, hasStore, frozen⟩ := ih leads.between
    refine ⟨behind, hasStore.trans leads.hasStore, fun n disposed => ?_⟩
    obtain ⟨still, state⟩ := leads.frozen n disposed
    obtain ⟨stillBehind, stateBehind⟩ := frozen n still
    exact ⟨stillBehind, stateBehind.trans state⟩

/-- At every moment of a document the current previews show the slots of its tree, the previews of
earlier renders are disposed of and never change again, and in whatever comes next the listeners are
told of each current preview that settles, and of nothing else. -/
theorem previews_follow_render {options : Options} {store : Option Preview.Script}
    {content : Text} (ok : open? options store content = .ok d) (moves : List Move) :
    (d.after moves).Mirrors ∧ (d.after moves).hasStore = store.isSome ∧
      (∀ n, n < (d.after moves).first → ∀ more,
        (((d.after moves).after more).session.preview n).disposed = true ∧
          (((d.after moves).after more).session.preview n).state =
            ((d.after moves).session.preview n).state) ∧
      ∀ move, ((d.after moves).move move).2.notices.Perm
          (noticesSince (d.after moves) ((d.after moves).move move).1) ∧
        (((d.after moves).move move).2.notices = [] ∨
          ((d.after moves).move move).1.numbers = (d.after moves).numbers) ∧
        (((d.after moves).move move).1.first = (d.after moves).first ∨
          ((d.after moves).move move).1.first = (d.after moves).session.previews.length) := by
  obtain ⟨opened, hasStore⟩ := open?_between ok
  obtain ⟨between, same, -⟩ := opened.after moves
  refine ⟨between.mirrors, same.trans hasStore, fun n earlier more => ?_, fun move => ?_⟩
  · obtain ⟨-, -, frozen⟩ := between.after more
    exact frozen n (between.replaced n earlier)
  · have leads := move_leads between move
    exact ⟨leads.told, leads.current, leads.first⟩

/-! ## Two arcs -/

/-- A text with a slot for each of two arcs. -/
def twoArcs : Text := "\x7b\x7barc:1\x7d\x7d \x7b\x7barc:2\x7d\x7d".toList

/-- The slots of that text. -/
def arcSlots : List Tree.Slot :=
  [⟨"embed-0".toList, ⟨0, .arc, 1, none, "SPOILERDOWNEMBEDQ0E".toList,
      "\x7b\x7barc:1\x7d\x7d".toList⟩, .inline⟩,
    ⟨"embed-1".toList, ⟨1, .arc, 2, none, "SPOILERDOWNEMBEDQ1E".toList,
      "\x7b\x7barc:2\x7d\x7d".toList⟩, .inline⟩]

/-- The render of that text. -/
def renderedArcs : Tree.Rendered where
  tree := [.block (.paragraph false true) [.slot arcSlots[0], .text [' '], .slot arcSlots[1]]]
  parsed := ⟨"SPOILERDOWNEMBEDQ0E SPOILERDOWNEMBEDQ1E".toList, arcSlots.map (·.descriptor)⟩

/-- The document of the text, with a script for its store. -/
def ofArcs (script : Preview.Script) : Document where
  content := twoArcs
  options := {}
  hasStore := true
  rendered := renderedArcs
  session := {
    previews := arcSlots.map (previewOf {})
    script
    trace := { events := (Tree.render {} true twoArcs).2 } }

/-- The text with two arcs is rendered as two slots. -/
theorem render_twoArcs :
    ∃ events, Tree.render {} true twoArcs = (.ok renderedArcs, events) := by
  have extracted : (if true then Embed.extract (Text.unifyNewlines twoArcs)
      else .ok ⟨Text.unifyNewlines twoArcs, []⟩) = .ok renderedArcs.parsed := by
    decide +kernel
  have plain : Markdown.PlainLine renderedArcs.parsed.rewritten :=
    { chars := List.all_eq_true.mp (by decide +kernel)
      first := ⟨'S', "POILERDOWNEMBEDQ0E SPOILERDOWNEMBEDQ1E".toList, by decide +kernel, rfl⟩
      last := ⟨"SPOILERDOWNEMBEDQ0E SPOILERDOWNEMBEDQ1".toList, 'E', by decide +kernel, rfl⟩ }
  have gives : Tree.Gives (Tree.textNodes ⟨renderedArcs.parsed, {}⟩ true
      renderedArcs.parsed.rewritten) {}
      [.slot arcSlots[0], .text [' '], .slot arcSlots[1]] { slots := 2 } := rfl
  exact Tree.render_line extracted plain gives

/-- The slots of that tree are those of the two arcs. -/
theorem slots_renderedArcs : Tree.Node.slots renderedArcs.tree = arcSlots := by
  decide +kernel

/-- The document of that text opens with a preview for each arc. -/
theorem open?_twoArcs (script : Preview.Script) :
    open? {} (some script) twoArcs = .ok (ofArcs script) := by
  obtain ⟨events, ran⟩ := render_twoArcs
  simp only [open?, render, ofArcs, ran, Option.isSome_some, if_true, slots_renderedArcs]
  rfl

/-- Replies for the arcs: the first one is held back, and its lookup goes on although it is
cancelled. -/
def arcReplies : List (Preview.Call × Preview.Reply) :=
  [(⟨.arc, 1⟩, { held := true, persists := true, outcome := .payload (.int 7) }),
    (⟨.arc, 2⟩, { outcome := .refused "gone".toList none })]

/-- The script with those replies. -/
def arcScript : Preview.Script := .ofReplies arcReplies

/-- Moves after which the first arc has not been settled yet. -/
def arcMoves : List Move := [.step (.listen ['a']), .step .mountAll, .step .tick]

/-- Where an update is the last move, the current previews begin where the update lets them begin.
-/
theorem first_after_concat (d : Document) (moves : List Move) (content : Option Text)
    (embedsEnabled : Option Bool) :
    (d.after (moves ++ [.step (.update content embedsEnabled)])).first =
      ((d.after moves).update content embedsEnabled).1.first := by
  rw [after, List.foldl_append]
  change ((d.after moves).act (.update content embedsEnabled)).1.first = _
  rw [act_update]

/-- Behind an update the two previews that there were are earlier ones. -/
theorem first_after_update :
    ((ofArcs arcScript).after (arcMoves ++ [.step (.update none none)])).first = 2 := by
  obtain ⟨events, ran⟩ := render_twoArcs
  have before : Tree.render (((ofArcs arcScript).after arcMoves).cleared none none).options.style
      (((ofArcs arcScript).after arcMoves).cleared none none).options.embedsEnabled
      (((ofArcs arcScript).after arcMoves).cleared none none).content =
        (.ok renderedArcs, events) := ran
  rw [first_after_concat, update_eq, render_eq before, slots_renderedArcs]
  rfl

/-- The first arc is told of when its reply comes, and where an update comes first its preview stays
disposed of. -/
theorem previews_follow_render_twoArcs :
    open? {} (some arcScript) twoArcs = .ok (ofArcs arcScript) ∧
      (((ofArcs arcScript).after arcMoves).move (.turn 0)).2.notices.Perm
        [⟨['a'], "embed-0".toList, .failed "invalid payload".toList⟩] ∧
      ((ofArcs arcScript).after (arcMoves ++ [.step (.update none none)])).Mirrors ∧
      (((((ofArcs arcScript).after (arcMoves ++ [.step (.update none none)])).after
        [.turn 0]).session.preview 0).disposed = true) := by
  have ok := open?_twoArcs arcScript
  obtain ⟨-, -, -, told⟩ := previews_follow_render ok arcMoves
  obtain ⟨mirrors, -, replaced, -⟩ :=
    previews_follow_render ok (arcMoves ++ [.step (.update none none)])
  have earlier :
      0 < ((ofArcs arcScript).after (arcMoves ++ [.step (.update none none)])).first := by
    rw [first_after_update]
    decide
  exact ⟨ok, (told (.turn 0)).1, mirrors, (replaced 0 earlier [.turn 0]).1⟩

end Loremark.Document
