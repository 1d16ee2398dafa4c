import Loremark.Proofs.Document.Moves
import Loremark.Proofs.Preview.Asking

/-!
# Resolving all previews

A document that has just been opened resolves to one entry for each slot of its tree. Each entity is
asked for once, in document order, and what becomes of a preview depends on the reply to its own
call, whatever the order in which replies that are held back go on. Resolving once more changes
nothing.
-/

set_option autoImplicit false

namespace Loremark.Document

/-- Lets lookups go on by turns. -/
def proceed (d : Document) (order : List Nat) : Document :=
  { d with session := order.foldl Preview.Session.take d.session }

/-- Mounts the current previews and lets the lookups that are due take their turns; then replies
that are held back go on in an order. The answer is what has become of each preview. -/
def resolveIn (d : Document) (order : List Nat) :
    Document × Except Preview.Unmounted (List (Text × Preview.State)) :=
  match d.mountAll with
  | (d, .error cause) => (d, .error cause)
  | (d, .ok _) =>
    let d := d.run.proceed order
    (d, .ok (d.current.map fun p => (p.key, p.state)))

/-- Resolving all previews is resolving them after replies have been released, so that none is held
back. -/
theorem resolveAll_eq (d : Document) : d.resolveAll = d.release.resolveIn [] := rfl

/-- The state that the end of a lookup leads to. -/
inductive Ends (kind : Kind) : Preview.Outcome → Preview.State → Prop
  | missing {value : Value} (falsy : value.truthy = false) :
      Ends kind (.payload value) (.failed "not found".toList)
  | invalid {value : Value} {faults : List Entity.Fault} (truthy : value.truthy = true)
      (parsed : Entity.parseRecord kind value = .error faults) :
      Ends kind (.payload value) (.failed "invalid payload".toList)
  | loaded {value : Value} {record : Entity.Record} (truthy : value.truthy = true)
      (parsed : Entity.parseRecord kind value = .ok record) :
      Ends kind (.payload value) (.loaded record)
  | refused (reason : Text) (status : Option Int) :
      Ends kind (.refused reason status) (.failed reason)
  | broken (sort : Text) {message : Text} (told : message ≠ []) :
      Ends kind (.broken sort message) (.failed message)
  | untold (sort : Text) : Ends kind (.broken sort []) (.failed sort)

/-- The entity that a slot shows. -/
def callOf (s : Tree.Slot) : Preview.Call := ⟨s.descriptor.kind, s.descriptor.entity⟩

/-- The entries for slots whose calls got replies. -/
def entriesOf (slots : List Tree.Slot) (replies : List Preview.Reply) :
    List (Text × Preview.State) :=
  (slots.zip replies).map fun (s, reply) =>
    (s.key, (reply.outcome.verdict s.descriptor.kind s.descriptor.entity).1)

/-- Previews have been resolved: the answer tells of each of them, and calls have been made. -/
structure Resolves (calls : List Preview.Call) (entries : List (Text × Preview.State))
    (result : Document × Except Preview.Unmounted (List (Text × Preview.State))) : Prop where
  answer : result.2 = .ok entries
  calls : result.1.session.trace.calls = calls

variable {d : Document}

open Preview (Asking)

/-! ## States -/

/-- The verdict on an outcome is the state in which a lookup with that outcome should end. -/
theorem ends_verdict (kind : Kind) (entity : Int) (outcome : Preview.Outcome) :
    Ends kind outcome (outcome.verdict kind entity).1 := by
  cases outcome with
  | payload value =>
    rw [Preview.Outcome.verdict]
    split
    · rename_i truthy
      split
      · rename_i record parsed
        exact .loaded truthy parsed
      · rename_i faults parsed
        exact .invalid truthy parsed
    · rename_i falsy
      exact .missing (Bool.eq_false_iff.mpr falsy)
  | refused reason status => exact .refused reason status
  | broken sort message =>
    cases message with
    | nil => exact .untold sort
    | cons c message => exact .broken sort (List.cons_ne_nil c message)

/-- A lookup that has ended is not loading. -/
theorem Ends.isLoading {kind : Kind} {outcome : Preview.Outcome} {state : Preview.State}
    (ends : Ends kind outcome state) : state.isLoading = false := by
  cases ends <;> rfl

/-! ## One resolution -/

/-- Where every preview can be mounted, mounting them all reports how many there are. -/
theorem mountAll_of_mountEach {session : Preview.Session}
    (ran : d.session.mountEach d.numbers = (session, none)) :
    ∃ count events, d.mountAll = ({ d with mounted := true, session := session.note { events } },
      .ok count) := by
  rw [mountAll]
  dsimp only
  rw [ran]
  dsimp only
  split
  · refine ⟨0, [], ?_⟩
    rw [Preview.Session.note]
    simp
  · exact ⟨_, _, rfl⟩

/-- What resolving comes to once all the previews have been mounted. -/
theorem resolveIn_of_mountEach {session : Preview.Session}
    (ran : d.session.mountEach d.numbers = (session, none)) (order : List Nat) :
    ∃ events, d.resolveIn order =
      let e : Document := { d with
        mounted := true
        session := order.foldl Preview.Session.take (session.note { events }).run }
      (e, .ok (e.current.map fun p => (p.key, p.state))) := by
  obtain ⟨count, events, mounts⟩ := mountAll_of_mountEach ran
  refine ⟨events, ?_⟩
  rw [resolveIn, mounts]
  rfl

/-- The numbers of the current previews follow one another. -/
theorem numbers_eq_range' : d.numbers = List.range' d.first d.current.length := by
  rw [numbers, List.range'_eq_map_range]

/-- A document whose previews are all about to ask. -/
structure IsFresh (d : Document) (asking : List Asking) : Prop where
  first : d.first = 0
  idle : d.session.due = []
  previews : d.session.previews = asking.map (·.preview)
  sound : ∀ a ∈ asking, a.Sound
  answers : d.session.script.answers (asking.map Asking.call) = asking.map (·.reply)

/-- Every preview has ended behind a resolution in which every reply that is held back goes on. -/
theorem IsFresh.resolveIn {asking : List Asking} (fresh : d.IsFresh asking) (order : List Nat)
    (complete : ∀ (n : Nat) a, asking[n]? = some a → a.reply.held = true →
      d.session.released = false → n ∈ order) :
    Resolves (d.session.trace.calls ++ asking.map Asking.call)
        (asking.map fun a => (a.preview.key, a.ended.state)) (d.resolveIn order) ∧
      (d.resolveIn order).1.session.previews = asking.map Asking.ended := by
  have numbers : d.numbers = List.range' 0 asking.length := by
    rw [numbers_eq_range', fresh.first, current, fresh.previews, fresh.first, List.drop_zero,
      List.length_map]
  have before : d.session.previews = [] ++ asking.map (·.preview) := fresh.previews
  have mounted := Preview.Session.mountEach_asking fresh.sound before
  rw [List.length_nil, ← numbers] at mounted
  obtain ⟨events, resolved⟩ := resolveIn_of_mountEach mounted order
  have due : d.session.due ++ d.numbers = List.range' 0 asking.length := by
    rw [fresh.idle, numbers, List.nil_append]
  obtain ⟨previews, calls⟩ := Preview.Session.previews_foldl_take_run
    (s := Preview.Session.note { d.session with
      previews := [] ++ asking.map Asking.due, due := d.session.due ++ d.numbers } { events })
    fresh.sound rfl due fresh.answers order complete
  have noted : (d.session.trace ++ ({ events } : Preview.Trace)).calls = d.session.trace.calls :=
    List.append_nil _
  rw [resolved]
  refine ⟨⟨?_, calls.trans (congrArg (· ++ _) noted)⟩, previews⟩
  dsimp only [current]
  rw [previews, fresh.first, List.drop_zero, List.map_map]
  rfl

/-! ## Resolving once more -/

/-- Previews that have ended are settled. -/
theorem settled_of_ended {asking : List Asking} (sound : ∀ a ∈ asking, a.Sound)
    {session : Preview.Session} (previews : session.previews = asking.map Asking.ended) :
    session.Settled := by
  intro p mem
  rw [previews] at mem
  obtain ⟨a, inside, rfl⟩ := List.mem_map.mp mem
  exact ⟨(sound a inside).live, rfl⟩

/-- Where every lookup has ended, resolving asks for nothing and the answer is what is there. -/
theorem resolveIn_settled (settled : d.session.Settled) (order : List Nat) :
    Resolves d.session.trace.calls (d.current.map fun p => (p.key, p.state))
      (d.resolveIn order) := by
  obtain ⟨events, resolved⟩ :=
    resolveIn_of_mountEach (Preview.Session.mountEach_settled settled d.numbers) order
  let idle : Preview.Session := { d.session.note { events } with due := [] }
  have quiet : idle.Settled := settled
  have still : order.foldl Preview.Session.take (d.session.note { events }).run = idle :=
    (congrArg (order.foldl Preview.Session.take)
      (Preview.Session.foldl_take_settled quiet _)).trans
      (Preview.Session.foldl_take_settled quiet order)
  rw [resolved]
  dsimp only
  rw [still]
  exact ⟨rfl, List.append_nil _⟩

/-- What resolving answers is the keys and the states of the current previews behind it. -/
theorem current_of_resolveIn {order : List Nat} {entries : List (Text × Preview.State)}
    (answer : (d.resolveIn order).2 = .ok entries) :
    (d.resolveIn order).1.current.map (fun p => (p.key, p.state)) = entries := by
  rw [resolveIn] at answer ⊢
  cases ran : d.mountAll with
  | mk e mounts =>
    rw [ran] at answer
    cases mounts with
    | error cause => cases answer
    | ok count => exact Except.ok.inj answer

/-- Resolving once more, be it with replies held back or not, comes to the same. -/
theorem Resolves.again {calls : List Preview.Call} {entries : List (Text × Preview.State)}
    {order : List Nat} (resolves : Resolves calls entries (d.resolveIn order))
    (settled : (d.resolveIn order).1.session.Settled) (later : List Nat) :
    Resolves calls entries ((d.resolveIn order).1.resolveIn later) ∧
      Resolves calls entries (d.resolveIn order).1.resolveAll := by
  have here := current_of_resolveIn resolves.answer
  have once := resolveIn_settled settled later
  have released := resolveIn_settled (d := (d.resolveIn order).1.release) settled []
  rw [here, resolves.calls] at once
  refine ⟨once, ?_⟩
  rw [resolveAll_eq]
  exact ⟨released.answer.trans (congrArg Except.ok here), released.calls.trans resolves.calls⟩

/-! ## From an open document on -/

/-- The previews of slots, which are about to ask and get replies. -/
def askingOf (cards : Entity.CardOptions) (slots : List Tree.Slot)
    (replies : List Preview.Reply) : List Asking :=
  (slots.zip replies).map fun (s, reply) => ⟨previewOf cards s, s.descriptor.kind, reply⟩

/-- What is said of a preview by its slot alone. -/
theorem map_askingOf {α : Type} {cards : Entity.CardOptions} {slots : List Tree.Slot}
    {replies : List Preview.Reply} (same : replies.length = slots.length) {f : Asking → α}
    {g : Tree.Slot → α}
    (tells : ∀ s reply, f ⟨previewOf cards s, s.descriptor.kind, reply⟩ = g s) :
    (askingOf cards slots replies).map f = slots.map g :=
  calc (askingOf cards slots replies).map f
    _ = ((slots.zip replies).map Prod.fst).map g := by
      rw [askingOf, List.map_map, List.map_map]
      exact List.map_congr_left fun (s, reply) _ => tells s reply
    _ = slots.map g := by rw [List.map_fst_zip (Nat.le_of_eq same.symm)]

/-- The replies to the questions of slots are the replies that were given for them. -/
theorem reply_askingOf {cards : Entity.CardOptions} {slots : List Tree.Slot}
    {replies : List Preview.Reply} (same : replies.length = slots.length) :
    (askingOf cards slots replies).map (·.reply) = replies := by
  rw [askingOf, List.map_map]
  exact List.map_snd_zip (Nat.le_of_eq same)

/-- The keys and states in which the questions of slots end are the entries of these slots. -/
theorem entries_askingOf (cards : Entity.CardOptions) (slots : List Tree.Slot)
    (replies : List Preview.Reply) :
    (askingOf cards slots replies).map (fun a => (a.preview.key, a.ended.state)) =
      entriesOf slots replies := by
  rw [askingOf, List.map_map]
  rfl

/-- A document that has just been opened with a script asks for its slots, if no reply unmounts its
preview. -/
theorem open?_isFresh {options : Options} {script : Preview.Script} {content : Text}
    (ok : open? options (some script) content = .ok d) {replies : List Preview.Reply}
    (answers : script.answers ((Tree.Node.slots d.rendered.tree).map callOf) = replies)
    (keeps : ∀ reply ∈ replies, reply.unmounts = false) :
    d.IsFresh (askingOf options.cards (Tree.Node.slots d.rendered.tree) replies) ∧
      d.session.held = [] ∧ d.session.trace.calls = [] := by
  have same : replies.length = (Tree.Node.slots d.rendered.tree).length := by
    rw [← answers, Preview.Script.length_answers, List.length_map]
  have sound : ∀ a ∈ askingOf options.cards (Tree.Node.slots d.rendered.tree) replies,
      a.Sound := by
    intro a mem
    obtain ⟨⟨s, reply⟩, inside, rfl⟩ := List.mem_map.mp mem
    exact ⟨rfl, rfl, Kind.ofName?_eq_some_iff.mpr rfl, keeps reply (List.of_mem_zip inside).2⟩
  rw [open?, render] at ok
  cases ran : Tree.render options.style options.embedsEnabled content with
  | mk result events =>
    rw [ran] at ok
    cases result with
    | error cause => cases ok
    | ok rendered =>
      cases ok
      have calls : (askingOf options.cards _ replies).map Asking.call = _ :=
        map_askingOf (g := callOf) same fun s reply => rfl
      exact ⟨⟨rfl, rfl, (map_askingOf same fun s reply => rfl).symm, sound,
        by rw [calls, reply_askingOf same]; exact answers⟩, rfl, rfl⟩

/-- A result that stays, however often the previews are resolved again. -/
structure ResolvesForGood (calls : List Preview.Call) (entries : List (Text × Preview.State))
    (result : Document × Except Preview.Unmounted (List (Text × Preview.State))) : Prop where
  now : Resolves calls entries result
  again : ∀ order, Resolves calls entries (result.1.resolveIn order)
  released : Resolves calls entries result.1.resolveAll

/-- A document that has asked for nothing resolves for good, in any order in which the held lookups
are released. -/
theorem IsFresh.resolvesForGood {asking : List Asking} (fresh : d.IsFresh asking)
    (order : List Nat)
    (complete : ∀ (n : Nat) a, asking[n]? = some a → a.reply.held = true →
      d.session.released = false → n ∈ order) :
    ResolvesForGood (d.session.trace.calls ++ asking.map Asking.call)
      (asking.map fun a => (a.preview.key, a.ended.state)) (d.resolveIn order) := by
  obtain ⟨now, previews⟩ := fresh.resolveIn order complete
  have settled := settled_of_ended fresh.sound previews
  exact ⟨now, fun later => (now.again settled later).1, (now.again settled []).2⟩

/-- Resolving a document that has just been opened, in whichever order its replies come, where no
reply unmounts its preview: one entry for each slot, in the order and under the key of the slot,
that is not loading and is what the reply to the slot's own call leads to. Each entity is asked for
once. Resolving again asks for nothing and comes to the same. -/
theorem resolve_settles {options : Options} {script : Preview.Script} {content : Text}
    (ok : open? options (some script) content = .ok d) {replies : List Preview.Reply}
    (answers : script.answers ((Tree.Node.slots d.rendered.tree).map callOf) = replies)
    (keeps : ∀ reply ∈ replies, reply.unmounts = false) {order : List Nat}
    (complete : ∀ (n : Nat) reply, replies[n]? = some reply → reply.held = true → n ∈ order) :
    let slots := Tree.Node.slots d.rendered.tree
    let calls := slots.map callOf
    let entries := entriesOf slots replies
    (entries.map Prod.fst = slots.map Tree.Slot.key ∧ (slots.map Tree.Slot.key).Nodup) ∧
      List.Forall₂ (fun (s, reply) entry =>
        Ends s.descriptor.kind reply.outcome entry.2 ∧ entry.2.isLoading = false)
        (slots.zip replies) entries ∧
      ResolvesForGood calls entries (d.resolveIn order) ∧
      ResolvesForGood calls entries d.resolveAll := by
  intro slots calls entries
  have same : replies.length = slots.length := by
    rw [← answers, Preview.Script.length_answers, List.length_map]
  obtain ⟨fresh, held, none⟩ := open?_isFresh ok answers keeps
  let asking := askingOf options.cards slots replies
  have calls_eq : d.session.trace.calls ++ asking.map Asking.call = calls := by
    rw [none, List.nil_append]
    exact map_askingOf same fun s reply => rfl
  have entries_eq : asking.map (fun a => (a.preview.key, a.ended.state)) = entries :=
    entries_askingOf options.cards slots replies
  have distinct : (slots.map Tree.Slot.key).Nodup := by
    obtain ⟨between, hasStore⟩ := open?_between ok
    have filled_eq : d.filled = slots := if_pos hasStore
    exact filled_eq ▸ between.mirrors.distinct
  have keys : entries.map Prod.fst = slots.map Tree.Slot.key := by
    rw [← entries_eq, List.map_map]
    exact map_askingOf same fun s reply => rfl
  refine ⟨⟨keys, distinct⟩, ?_, ?_, ?_⟩
  · refine List.forall₂_map_right_iff.mpr (List.forall₂_same.mpr fun (s, reply) _ => ?_)
    have ends := ends_verdict s.descriptor.kind s.descriptor.entity reply.outcome
    exact ⟨ends, ends.isLoading⟩
  · rw [← calls_eq, ← entries_eq]
    refine fresh.resolvesForGood order fun n a place holds _ => complete n a.reply ?_ holds
    rw [← reply_askingOf same, List.getElem?_map, place]
    rfl
  · -- Behind a release no reply is held back.
    have released : d.release.IsFresh asking :=
      ⟨fresh.first, by rw [release, Preview.Session.release, fresh.idle, held]; rfl,
        fresh.previews, fresh.sound, fresh.answers⟩
    rw [← calls_eq, ← entries_eq, resolveAll_eq]
    exact released.resolvesForGood [] fun n a place holds isReleased => by cases isReleased

/-- Two arcs, of which the first one has a reply that is held back. -/
theorem resolve_settles_twoArcs :
    ResolvesForGood [⟨.arc, 1⟩, ⟨.arc, 2⟩]
      [("embed-0".toList, .failed "invalid payload".toList),
        ("embed-1".toList, .failed "gone".toList)] ((ofArcs arcScript).resolveIn [0]) := by
  have slots : Tree.Node.slots (ofArcs arcScript).rendered.tree = arcSlots := slots_renderedArcs
  have answers : arcScript.answers
      ((Tree.Node.slots (ofArcs arcScript).rendered.tree).map callOf) =
        arcReplies.map Prod.snd := by
    rw [slots]
    exact Preview.Script.answers_ofReplies arcReplies
  have keeps : ∀ reply ∈ arcReplies.map Prod.snd, reply.unmounts = false := by
    simp [arcReplies]
  have complete (n : Nat) (reply : Preview.Reply)
      (there : (arcReplies.map Prod.snd)[n]? = some reply) (held : reply.held = true) :
      n ∈ [0] := by
    match n with
    | 0 => exact List.mem_singleton_self 0
    | 1 =>
      cases there
      cases held
  obtain ⟨-, -, resolves, -⟩ := resolve_settles (open?_twoArcs arcScript) answers keeps complete
  rw [slots] at resolves
  exact resolves

end Loremark.Document
