import Loremark.Proofs.Preview.Scripts
import Loremark.Proofs.Preview.Sessions

/-!
# Lookups of a whole session

Previews that have been mounted together ask in the order in which they stand, each of them once,
and the script has a reply for each of the calls (`Script.answers`). Whatever the order in which
replies that are held back go on, a preview ends in the state that its own reply leads to
(`foldl_take_answered`). Once every lookup has ended nothing changes any more (`Settled`).
-/

set_option autoImplicit false

namespace Loremark.Preview

/-- A preview that is about to ask for an entity of a kind, and the reply that it is going to
get. -/
structure Asking where
  preview : Preview
  kind : Kind
  reply : Reply
  deriving Inhabited

namespace Asking

variable (a : Asking)

/-- The call that the preview makes. -/
def call : Call := ⟨a.kind, a.preview.entity⟩

/-- The preview while it waits for its first turn. -/
def due : Preview := { a.preview with lookup := some .due }

/-- The preview while its reply is held back. -/
def held : Preview := { a.preview with lookup := some (.held a.reply) }

/-- The preview behind the end of its lookup. -/
def ended : Preview :=
  { a.preview with
    lookup := some .ended
    state := (a.reply.outcome.verdict a.kind a.preview.entity).1 }

/-- The preview has not been mounted yet and is of the kind, and the reply does not unmount it. -/
structure Sound : Prop where
  live : a.preview.disposed = false
  unmounted : a.preview.lookup = none
  known : a.preview.kind? = some a.kind
  keeps : a.reply.unmounts = false

/-- A preview that has asked: its lookup has ended, or its reply is held back. -/
inductive Answered : Preview → Prop
  | held : Answered a.held
  | ended : Answered a.ended

end Asking

variable {a : Asking} {p : Preview}

/-- A lookup that ends on a preview that is still there settles it. -/
theorem finish_of_live (live : p.disposed = false) {reply : Reply} (keeps : reply.unmounts = false)
    (kind : Kind) :
    (p.finish kind reply).1 =
      { p with lookup := some .ended, state := (reply.outcome.verdict kind p.entity).1 } := by
  simp only [finish, keeps, Bool.false_eq_true, if_false, settle_of_live live]

/-- The first turn: the preview asks, and goes on to its end unless the reply is held back. -/
theorem turn_asking (sound : a.Sound) (released : Bool) {script : Script}
    (answers : (script.answer a.call).1 = a.reply) :
    turn released script a.due =
      ((if a.reply.held && !released then a.held else a.ended), (script.answer a.call).2,
        (turn released script a.due).2.2) ∧
      (turn released script a.due).2.2.calls = [a.call] := by
  have known : a.due.kind? = some a.kind := sound.known
  have finished := finish_of_live (p := a.due) sound.live sound.keeps a.kind
  obtain ⟨-, none⟩ := a.due.finish_ended a.kind a.reply
  have asks : script.answer ⟨a.kind, a.due.entity⟩ = (a.reply, (script.answer a.call).2) := by
    rw [← answers]
    rfl
  have due : a.due.lookup = some .due := rfl
  simp only [turn, due, known, asks]
  split
  · exact ⟨rfl, rfl⟩
  · rw [finished]
    exact ⟨rfl, by rw [Trace.calls_append, none]; rfl⟩

/-- Behind the first turn a preview goes on to its end, or is there already. -/
theorem turn_answered (sound : a.Sound) (answered : a.Answered p) (released : Bool)
    (script : Script) :
    (turn released script p).1 = a.ended ∧ (turn released script p).2.2.calls = [] := by
  cases answered with
  | ended => rw [turn_idle rfl]; exact ⟨rfl, rfl⟩
  | held =>
    have known : a.held.kind? = some a.kind := sound.known
    have held : a.held.lookup = some (.held a.reply) := rfl
    have finished := finish_of_live (p := a.held) sound.live sound.keeps a.kind
    obtain ⟨-, none⟩ := a.held.finish_ended a.kind a.reply
    simp only [turn, held, known]
    exact ⟨finished, none⟩

namespace Session

variable {s t : Session} {number : Nat} {asking : List Asking} {done : List Preview}

/-- The preview behind those that are done has their number. -/
theorem getElem?_behind {q : Preview} {more : List Preview}
    (previews : s.previews = done ++ q :: more) : s.previews[done.length]? = some q := by
  rw [previews, List.getElem?_append_right (Nat.le_refl _), Nat.sub_self]
  rfl

/-- The preview behind those that are done is replaced, and the others stay. -/
theorem set_behind {q r : Preview} {more : List Preview}
    (previews : s.previews = done ++ q :: more) :
    s.previews.set done.length r = done ++ r :: more := by
  rw [previews, List.set_append_right _ _ (Nat.le_refl _), Nat.sub_self]
  rfl

/-! ## Mounting and the first turns -/

/-- Previews that are about to ask are mounted, all of them, and wait for their turns. -/
theorem mountEach_asking (sound : ∀ a ∈ asking, a.Sound)
    (previews : s.previews = done ++ asking.map (·.preview)) :
    s.mountEach (List.range' done.length asking.length) =
      ({ s with
        previews := done ++ asking.map Asking.due
        due := s.due ++ List.range' done.length asking.length }, none) := by
  induction asking generalizing s done with
  | nil =>
    rw [List.map_nil, List.append_nil, List.length_nil, List.range'_zero, List.append_nil,
      mountEach]
    rw [List.map_nil, List.append_nil] at previews
    rw [← previews]
  | cons a asking ih =>
    obtain ⟨here, behind⟩ := List.forall_mem_cons.mp sound
    have ok : s.mount done.length = .ok { s with
        previews := done ++ a.due :: asking.map (·.preview)
        due := s.due ++ [done.length] } := by
      rw [mount_eq (getElem?_behind previews), mount_of_live here.live, here.unmounted]
      dsimp only [Except.map]
      rw [set_behind previews]
      rfl
    have split : done ++ a.due :: asking.map (·.preview) =
        (done ++ [a.due]) ++ asking.map (·.preview) := by
      rw [List.append_assoc, List.singleton_append]
    -- The preview that has been mounted joins those in front of the others.
    have rest := ih (s := { s with
      previews := done ++ a.due :: asking.map (·.preview)
      due := s.due ++ [done.length] }) behind split
    rw [List.length_append, List.length_singleton] at rest
    rw [List.length_cons, List.range'_succ, mountEach, ok]
    dsimp only
    rw [rest, List.append_assoc, List.append_assoc]
    rfl

/-- In its turn a preview asks, and ends unless its reply is held back. -/
theorem take_asking (sound : a.Sound) {more : List Preview}
    (previews : s.previews = done ++ a.due :: more)
    (answers : (s.script.answer a.call).1 = a.reply) :
    (s.take done.length).previews =
        done ++ (if a.reply.held && !s.released then a.held else a.ended) :: more ∧
      (s.take done.length).script = (s.script.answer a.call).2 ∧
      (s.take done.length).trace.calls = s.trace.calls ++ [a.call] := by
  obtain ⟨turned, calls⟩ := turn_asking sound s.released answers
  rw [take_eq (getElem?_behind previews), turned, set_behind previews]
  exact ⟨rfl, rfl, by rw [Trace.calls_append, calls]⟩

/-- After the first turns every preview has asked, in the order in which they stand. -/
theorem foldl_take_asking (sound : ∀ a ∈ asking, a.Sound)
    (previews : s.previews = done ++ asking.map Asking.due)
    (answers : s.script.answers (asking.map Asking.call) = asking.map (·.reply)) :
    ((List.range' done.length asking.length).foldl take s).previews = done ++ asking.map
        (fun a => if a.reply.held && !s.released then a.held else a.ended) ∧
      ((List.range' done.length asking.length).foldl take s).trace.calls =
        s.trace.calls ++ asking.map Asking.call := by
  induction asking generalizing s done with
  | nil =>
    rw [List.map_nil, List.append_nil] at previews
    exact ⟨by rw [List.map_nil, List.append_nil]; exact previews, (List.append_nil _).symm⟩
  | cons a asking ih =>
    obtain ⟨here, behind⟩ := List.forall_mem_cons.mp sound
    rw [List.map_cons, List.map_cons, Script.answers, List.cons.injEq] at answers
    obtain ⟨turned, script, calls⟩ := take_asking here previews answers.1
    have split : (s.take done.length).previews =
        (done ++ [if a.reply.held && !s.released then a.held else a.ended]) ++
          asking.map Asking.due := by
      rw [turned, List.append_assoc, List.singleton_append]
    obtain ⟨rest, restCalls⟩ := ih behind split (by rw [script]; exact answers.2)
    rw [List.length_append, List.length_singleton] at rest restCalls
    rw [List.length_cons, List.range'_succ, List.foldl_cons, rest, restCalls, calls, take_released]
    refine ⟨?_, ?_⟩
    · rw [List.append_assoc, List.singleton_append, List.map_cons]
    · rw [List.append_assoc, List.singleton_append, List.map_cons]

/-! ## Going on -/

/-- A preview in its place has asked what was to be asked there. -/
theorem exists_of_forall₂ {ps : List Preview} (each : List.Forall₂ Asking.Answered asking ps)
    {p : Preview} (there : ps[number]? = some p) :
    ∃ a, asking[number]? = some a ∧ a.Answered p := by
  induction each generalizing number with
  | nil => cases there
  | cons here behind ih =>
    cases number with
    | zero =>
      cases there
      exact ⟨_, rfl, here⟩
    | succ number => exact ih there

/-- A preview that has asked may take the place of one that has. -/
theorem forall₂_set {q : Preview} {ps : List Preview}
    (each : List.Forall₂ Asking.Answered asking ps)
    (put : ∀ a, asking[number]? = some a → a.Answered q) :
    List.Forall₂ Asking.Answered asking (ps.set number q) := by
  induction each generalizing number with
  | nil => exact .nil
  | cons here behind ih =>
    cases number with
    | zero => exact .cons (put _ rfl) behind
    | succ number => exact .cons here (ih put)

/-- A turn of a preview that has asked ends its lookup, and leaves the others alone. -/
theorem take_answered (sound : ∀ a ∈ asking, a.Sound)
    (each : List.Forall₂ Asking.Answered asking s.previews) (number : Nat) :
    List.Forall₂ Asking.Answered asking (s.take number).previews ∧
      (s.take number).trace.calls = s.trace.calls ∧
      ∀ n q, (s.take number).previews[n]? = some q → isHeld q = true →
        n ≠ number ∧ s.previews[n]? = some q := by
  cases there : s.previews[number]? with
  | none =>
    rw [take_of_none there]
    refine ⟨each, rfl, fun n q found held => ⟨?_, found⟩⟩
    rintro rfl
    rw [there] at found
    cases found
  | some p =>
    obtain ⟨a, place, answered⟩ := exists_of_forall₂ each there
    obtain ⟨turned, none⟩ := turn_answered (sound a (List.mem_of_getElem? place)) answered
      s.released s.script
    rw [take_eq there, turned]
    refine ⟨forall₂_set each fun other found => ?_, ?_, fun n q found held => ?_⟩
    · rw [place] at found
      cases found
      exact .ended
    · rw [Trace.calls_append, none, List.append_nil]
    · rcases getElem?_set_cases there found with ⟨-, rfl⟩ | elsewhere
      · cases held
      · exact elsewhere

/-- Whoever goes on in any order, the previews have asked, nothing more is asked for, and only
replies that have not gone on are held. -/
theorem foldl_take_answered (sound : ∀ a ∈ asking, a.Sound)
    (each : List.Forall₂ Asking.Answered asking s.previews) (order : List Nat) :
    List.Forall₂ Asking.Answered asking (order.foldl take s).previews ∧
      (order.foldl take s).trace.calls = s.trace.calls ∧
      ∀ n q, (order.foldl take s).previews[n]? = some q → isHeld q = true →
        n ∉ order ∧ s.previews[n]? = some q := by
  -- A preview whose reply is still held back has its turn in what is left of the order.
  let Left (later : List Nat) (t : Session) : Prop :=
    List.Forall₂ Asking.Answered asking t.previews ∧ t.trace.calls = s.trace.calls ∧
      ∀ n q, t.previews[n]? = some q → isHeld q = true →
        (n ∈ order → n ∈ later) ∧ s.previews[n]? = some q
  have onward (number : Nat) (later : List Nat) (t : Session) (left : Left (number :: later) t) :
      Left later (t.take number) := by
    obtain ⟨each, calls, held⟩ := left
    obtain ⟨eachBehind, callsBehind, heldBehind⟩ := take_answered sound each number
    refine ⟨eachBehind, callsBehind.trans calls, fun n q found isHeld => ?_⟩
    obtain ⟨other, before⟩ := heldBehind n q found isHeld
    obtain ⟨waits, start⟩ := held n q before isHeld
    exact ⟨fun mem => List.mem_of_ne_of_mem other (waits mem), start⟩
  have start : Left order s := ⟨each, rfl, fun n q found _ => ⟨id, found⟩⟩
  obtain ⟨eachBehind, calls, held⟩ := foldl_take onward start
  refine ⟨eachBehind, calls, fun n q found isHeld => ?_⟩
  obtain ⟨waits, start⟩ := held n q found isHeld
  exact ⟨fun mem => List.not_mem_nil (waits mem), start⟩

/-- Previews that have asked and hold no reply have ended. -/
theorem previews_eq_of_forall₂ {ps : List Preview}
    (each : List.Forall₂ Asking.Answered asking ps) (none : ∀ p ∈ ps, isHeld p = false) :
    ps = asking.map Asking.ended := by
  induction each with
  | nil => rfl
  | cons here behind ih =>
    obtain ⟨free, rest⟩ := List.forall_mem_cons.mp none
    rw [List.map_cons, ← ih rest]
    cases here with
    | ended => rfl
    | held => cases free

/-- When all the first turns have been taken and then replies have gone on, in any order that leaves
no reply held back, every preview has ended. -/
theorem previews_foldl_take_run (sound : ∀ a ∈ asking, a.Sound)
    (previews : s.previews = asking.map Asking.due)
    (due : s.due = List.range' 0 asking.length)
    (answers : s.script.answers (asking.map Asking.call) = asking.map (·.reply))
    (order : List Nat) (complete : ∀ (n : Nat) a, asking[n]? = some a → a.reply.held = true →
      s.released = false → n ∈ order) :
    (order.foldl take s.run).previews = asking.map Asking.ended ∧
      (order.foldl take s.run).trace.calls = s.trace.calls ++ asking.map Asking.call := by
  let first (a : Asking) : Preview := if a.reply.held && !s.released then a.held else a.ended
  have before : ({ s with due := [] } : Session).previews = [] ++ asking.map Asking.due := previews
  obtain ⟨asked, calls⟩ := foldl_take_asking sound before answers
  have ran : s.run.previews = asking.map first := by
    rw [run, due]
    exact asked
  have made : s.run.trace.calls = s.trace.calls ++ asking.map Asking.call := by
    rw [run, due]
    exact calls
  have each : List.Forall₂ Asking.Answered asking s.run.previews := by
    rw [ran, List.forall₂_map_right_iff]
    refine List.forall₂_same.mpr fun a _ => ?_
    dsimp only [first]
    split
    · exact .held
    · exact .ended
  obtain ⟨eachBehind, callsBehind, left⟩ := foldl_take_answered sound each order
  refine ⟨previews_eq_of_forall₂ eachBehind fun p mem => ?_, callsBehind.trans made⟩
  rw [Bool.eq_false_iff]
  intro held
  obtain ⟨n, found⟩ := List.getElem?_of_mem mem
  obtain ⟨absent, start⟩ := left n p found held
  rw [ran, List.getElem?_map, Option.map_eq_some_iff] at start
  obtain ⟨a, place, rfl⟩ := start
  dsimp only [first] at held
  split at held
  · rename_i holds
    rw [Bool.and_eq_true, Bool.not_eq_true'] at holds
    exact absent (complete n a place holds.1 holds.2)
  · cases held

/-! ## Nothing more to do -/

/-- All the previews are mounted and their lookups have ended. -/
def Settled (s : Session) : Prop := ∀ p ∈ s.previews, p.disposed = false ∧ p.lookup = some .ended

/-- A turn changes nothing once everything is settled. -/
theorem take_settled (settled : s.Settled) (number : Nat) : s.take number = s := by
  cases there : s.previews[number]? with
  | none => exact take_of_none there
  | some p =>
    obtain ⟨-, ended⟩ := settled p (List.mem_of_getElem? there)
    have idle : p.isInFlight = false := by rw [isInFlight, ended]; rfl
    have free : isHeld p = false := by rw [isHeld, ended]
    obtain ⟨bound, here⟩ := List.getElem?_eq_some_iff.mp there
    rw [take_eq there, turn_idle idle, free, ← here, List.set_getElem_self]
    simp

/-- No turns change anything once everything is settled. -/
theorem foldl_take_settled (settled : s.Settled) (order : List Nat) : order.foldl take s = s := by
  induction order with
  | nil => rfl
  | cons number order ih => rw [List.foldl_cons, take_settled settled, ih]

/-- Mounting changes nothing once everything is settled. -/
theorem mountEach_settled (settled : s.Settled) (numbers : List Nat) :
    s.mountEach numbers = (s, none) := by
  induction numbers with
  | nil => rfl
  | cons number numbers ih =>
    have ok : s.mount number = .ok s := by
      cases there : s.previews[number]? with
      | none => rw [mount, there]
      | some p =>
        obtain ⟨live, ended⟩ := settled p (List.mem_of_getElem? there)
        obtain ⟨bound, here⟩ := List.getElem?_eq_some_iff.mp there
        have same : p.mount = .ok p := by
          rw [Preview.mount, if_neg (by simp [live]), ended]
        rw [mount_eq there, same, ended]
        dsimp only [Except.map]
        rw [← here, List.set_getElem_self]
        simp
    rw [mountEach, ok]
    exact ih

end Session

end Loremark.Preview
