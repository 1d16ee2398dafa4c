import Loremark.Proofs.Preview.Turns
import Mathlib.Data.List.Forall2
import Mathlib.Data.List.Perm.Basic

/-!
# Sessions of many previews

What is done in a session is done to one preview at a time, and the others stay as they are
(`Changes`). So a session goes on as each of its previews does, and the notices are those of each of
them, in the order of the turns (`Goes`). Mounting and unmounting leave every state as it is
(`Quiet`); only turns end lookups.
-/

set_option autoImplicit false

namespace Loremark.Preview

/-- A preview that has nothing to do is coherent. -/
theorem coherent_default : (default : Preview).Coherent where
  disposed_not_due := fun disposed => by cases disposed
  ended_or_loading := .inr rfl
  kind_of_held := fun held => by cases held

namespace Session

variable {s t u : Session} {number : Nat} {trace : Trace} {p q : Preview}

/-- The preview of a number; one that has nothing to do if there is none. -/
def preview (s : Session) (number : Nat) : Preview := s.previews.getD number default

/-- The preview of a number is the one that stands there. -/
theorem preview_eq (there : s.previews[number]? = some p) : s.preview number = p := by
  rw [preview, List.getD_eq_getElem?_getD, there, Option.getD_some]

/-- Where no preview stands, the one with nothing to do is meant. -/
theorem preview_of_none (missing : s.previews[number]? = none) :
    s.preview number = default := by
  rw [preview, List.getD_eq_getElem?_getD, missing, Option.getD_none]

/-! ## One preview at a time -/

/-- Something is done to the preview of a number. -/
structure Changes (s : Session) (number : Nat) (trace : Trace) (t : Session) : Prop where
  length : t.previews.length = s.previews.length
  others : ∀ n, n ≠ number → t.preview n = s.preview n
  advances : (s.preview number).Advances trace (t.preview number)
  noted : t.trace = s.trace ++ trace

/-- Doing nothing is something that is done to a preview. -/
theorem Changes.refl (coherent : (s.preview number).Coherent) : s.Changes number {} s where
  length := rfl
  others := fun _ _ => rfl
  advances := .refl coherent
  noted := (Trace.append_empty _).symm

/-- Putting a preview that has gone on in its place is something that is done to it. -/
theorem Changes.put (there : s.previews[number]? = some p) (advances : p.Advances trace q)
    (previews : t.previews = s.previews.set number q) (noted : t.trace = s.trace ++ trace) :
    s.Changes number trace t ∧ t.preview number = q := by
  have bound := (List.getElem?_eq_some_iff.mp there).1
  have put : t.preview number = q := by
    rw [preview, previews, List.getD_eq_getElem?_getD, List.getElem?_set_self bound,
      Option.getD_some]
  refine ⟨{
    length := by rw [previews, List.length_set]
    others := fun n other => ?_
    advances := by rw [preview_eq there, put]; exact advances
    noted }, put⟩
  rw [preview, preview, previews, List.getD_eq_getElem?_getD, List.getD_eq_getElem?_getD,
    List.getElem?_set_ne (Ne.symm other)]

/-- A turn is something that is done to the preview of its number, and nothing if no lookup is under
way. -/
theorem take_changes (coherent : (s.preview number).Coherent) :
    ∃ trace, s.Changes number trace (s.take number) ∧
      ((s.preview number).isInFlight = false →
        (s.take number).preview number = s.preview number) := by
  cases there : s.previews[number]? with
  | none =>
    rw [take_of_none there]
    exact ⟨{}, .refl coherent, fun _ => rfl⟩
  | some p =>
    rw [preview_eq there] at coherent ⊢
    obtain ⟨changes, put⟩ := Changes.put there (turn_advances coherent s.released s.script)
      (t := s.take number) (by rw [take_eq there]) (by rw [take_eq there])
    exact ⟨_, changes, fun idle => by rw [put, turn_idle idle]⟩

/-- Mounting is something that is done to the preview of its number, and keeps its state. -/
theorem mount_changes (coherent : (s.preview number).Coherent) (ok : s.mount number = .ok t) :
    s.Changes number {} t ∧ (t.preview number).state = (s.preview number).state := by
  cases there : s.previews[number]? with
  | none =>
    rw [mount, there] at ok
    cases ok
    exact ⟨.refl coherent, rfl⟩
  | some p =>
    rw [preview_eq there] at coherent ⊢
    rw [mount_eq there] at ok
    cases disposed : p.disposed with
    | true =>
      rw [mount_of_disposed disposed] at ok
      cases ok
    | false =>
      rw [mount_of_live disposed] at ok
      cases ok
      obtain ⟨changes, put⟩ := Changes.put there (begin_advances coherent disposed)
        (t := { s with
          previews := s.previews.set number { p with lookup := some (p.lookup.getD .due) }
          due := s.due ++ if p.lookup.isNone then [number] else [] })
        rfl (Trace.append_empty _).symm
      exact ⟨changes, by rw [put]⟩

/-- Unmounting is something that is done to the preview of its number, keeps its state and disposes
of it. -/
theorem unmount_changes (coherent : (s.preview number).Coherent) :
    ∃ trace, s.Changes number trace (s.unmount number) ∧
      ((s.unmount number).preview number).state = (s.preview number).state ∧
      (number < s.previews.length →
        ((s.unmount number).preview number).disposed = true) := by
  cases there : s.previews[number]? with
  | none =>
    rw [unmount_of_none there]
    refine ⟨{}, .refl coherent, rfl, fun bound => ?_⟩
    rw [List.getElem?_eq_getElem bound] at there
    cases there
  | some p =>
    rw [preview_eq there] at coherent ⊢
    have advances := unmount_advances coherent
    obtain ⟨changes, put⟩ := Changes.put there advances
      (t := s.unmount number) (by rw [unmount_eq there]) (by rw [unmount_eq there])
    rw [put]
    exact ⟨_, changes, (advances.of_disposed unmount_disposed).1, fun _ => unmount_disposed⟩

/-! ## A session goes on -/

/-- What holds of every preview of a session at every moment. -/
def Coherent (s : Session) : Prop := ∀ n, (s.preview n).Coherent

/-- A session at a later moment. -/
structure Goes (s t : Session) : Prop where
  length : t.previews.length = s.previews.length
  advances : ∀ n, ∃ trace, (s.preview n).Advances trace (t.preview n)
  notices : t.trace.notices.Perm (s.trace.notices ++
    (List.range s.previews.length).flatMap fun n => noticesOf (s.preview n) (t.preview n))

/-- A session at a later moment, when no lookup has ended in between. -/
structure Quiet (s t : Session) : Prop extends Goes s t where
  same : ∀ n, (t.preview n).state = (s.preview n).state

/-- A session that has gone on is coherent. -/
theorem Goes.coherent (goes : Goes s t) : t.Coherent := by
  intro n
  obtain ⟨trace, advances⟩ := goes.advances n
  exact advances.coherent

/-- A session goes on as each of its previews does. -/
theorem Goes.forall₂ (goes : Goes s t) :
    List.Forall₂ (fun p q => ∃ trace, Advances p trace q) s.previews t.previews := by
  refine List.forall₂_iff_get.mpr ⟨goes.length.symm, fun n here there => ?_⟩
  have advances := goes.advances n
  rw [preview_eq (List.getElem?_eq_getElem here), preview_eq (List.getElem?_eq_getElem there)]
    at advances
  exact advances

/-- Nobody is told of states that have not changed. -/
theorem flatMap_noticesOf (same : ∀ n, (t.preview n).state = (s.preview n).state) :
    (List.range s.previews.length).flatMap (fun n => noticesOf (s.preview n) (t.preview n)) =
      [] :=
  List.flatMap_eq_nil_iff.mpr fun n _ => noticesOf_eq_nil (same n)

/-- A session with the same previews and notices is quiet. -/
theorem Quiet.of_same (coherent : s.Coherent) (previews : t.previews = s.previews)
    (notices : t.trace.notices = s.trace.notices) : Quiet s t where
  length := by rw [previews]
  advances := fun n => ⟨{}, by rw [preview, preview, previews]; exact .refl (coherent n)⟩
  notices := by
    have same (n : Nat) : (t.preview n).state = (s.preview n).state := by
      rw [preview, preview, previews]
    rw [flatMap_noticesOf same, List.append_nil, notices]
  same := fun n => by rw [preview, preview, previews]

/-- A session that has gone on goes on, unless a preview settles first and is disposed of after
that. -/
theorem Goes.trans (first : Goes s t) (second : Goes t u)
    (kept : ∀ n, (t.preview n).state = (s.preview n).state ∨
      (u.preview n).disposed = (t.preview n).disposed) : Goes s u where
  length := second.length.trans first.length
  advances := by
    intro n
    obtain ⟨trace, here⟩ := first.advances n
    obtain ⟨later, there⟩ := second.advances n
    exact ⟨_, here.trans there (kept n)⟩
  notices := by
    have split (n : Nat) : noticesOf (s.preview n) (t.preview n) ++
        noticesOf (t.preview n) (u.preview n) = noticesOf (s.preview n) (u.preview n) := by
      obtain ⟨trace, here⟩ := first.advances n
      obtain ⟨later, there⟩ := second.advances n
      exact here.noticesOf_trans there
    refine second.notices.trans ((first.notices.append_right _).trans ?_)
    rw [first.length, List.append_assoc]
    refine (List.flatMap_append_perm _ _ _).append_left _ |>.trans ?_
    simp only [split]
    exact .refl _

/-- Of a list of lists of which at most one is not empty only that one is left. -/
theorem flatMap_range_of_others {α : Type} {f : Nat → List α} (count : Nat)
    (others : ∀ n, n ≠ number → f n = []) (outside : count ≤ number → f number = []) :
    (List.range count).flatMap f = f number := by
  induction count with
  | zero => exact (outside (Nat.zero_le _)).symm
  | succ count ih =>
    rw [List.range_succ, List.flatMap_append, List.flatMap_singleton]
    by_cases last : count = number
    · have before : (List.range count).flatMap f = [] := by
        refine List.flatMap_eq_nil_iff.mpr fun n mem => others n ?_
        exact Nat.ne_of_lt (last ▸ List.mem_range.mp mem)
      rw [before, last, List.nil_append]
    · rw [others count last, List.append_nil]
      exact ih fun bound => outside (Nat.succ_le_of_lt (Nat.lt_of_le_of_ne bound last))

/-- A session goes on when something is done to one preview. -/
theorem Changes.goes (coherent : s.Coherent) (changes : s.Changes number trace t) : Goes s t where
  length := changes.length
  advances := by
    intro n
    by_cases here : n = number
    · exact ⟨trace, here ▸ changes.advances⟩
    · exact ⟨{}, by rw [changes.others n here]; exact .refl (coherent n)⟩
  notices := by
    have others (n : Nat) (other : n ≠ number) :
        noticesOf (s.preview n) (t.preview n) = [] :=
      noticesOf_eq_nil (by rw [changes.others n other])
    have outside (bound : s.previews.length ≤ number) :
        noticesOf (s.preview number) (t.preview number) = [] := by
      refine noticesOf_eq_nil ?_
      rw [preview_of_none (List.getElem?_eq_none bound),
        preview_of_none (List.getElem?_eq_none (changes.length ▸ bound))]
    rw [flatMap_range_of_others _ others outside, changes.noted, Trace.notices_append,
      changes.advances.notices]

/-- A session is quiet when something is done to one preview that keeps its state. -/
theorem Changes.quiet (coherent : s.Coherent) (changes : s.Changes number trace t)
    (same : (t.preview number).state = (s.preview number).state) : Quiet s t where
  toGoes := changes.goes coherent
  same := by
    intro n
    by_cases here : n = number
    · exact here ▸ same
    · rw [changes.others n here]

/-- What follows a stretch in which no lookup has ended. -/
theorem Quiet.goes_trans (first : Quiet s t) (second : Goes t u) : Goes s u :=
  first.toGoes.trans second fun n => .inl (first.same n)

/-- One quiet moment after another is quiet. -/
theorem Quiet.trans (first : Quiet s t) (second : Quiet t u) : Quiet s u where
  toGoes := first.goes_trans second.toGoes
  same := fun n => (second.same n).trans (first.same n)

/-- Nobody has been told of anything behind a quiet moment, if nobody had before. -/
theorem Quiet.notices_eq (quiet : Quiet s t) (silent : s.trace.notices = []) :
    t.trace.notices = [] := by
  have notices := quiet.notices
  rw [flatMap_noticesOf quiet.same, silent] at notices
  exact notices.eq_nil

/-! ## Operations -/

/-- A lookup that has ended keeps its preview from being disposed of in a turn. -/
theorem Goes.take (goes : Goes s t) (number : Nat) : Goes s (t.take number) := by
  obtain ⟨trace, changes, idle⟩ := take_changes (goes.coherent number)
  refine goes.trans (changes.goes goes.coherent) fun n => ?_
  by_cases here : n = number
  · obtain ⟨trace, advances⟩ := goes.advances n
    exact advances.same_or_over.imp_right fun finished => by rw [here, idle (here ▸ finished)]
  · exact .inr (by rw [changes.others n here])

/-- A session goes on when everyone who is due has a turn. -/
theorem run_goes (coherent : s.Coherent) : Goes s s.run := by
  have idle : Quiet s { s with due := [] } := .of_same coherent rfl rfl
  exact foldl_take (P := fun _ t => Goes s t) (fun number _ _ goes => goes.take number) idle.toGoes

/-- Cancelling a lookup is quiet. -/
theorem cancel_quiet (coherent : s.Coherent) (number : Nat) : Quiet s (s.cancel number) := by
  cases there : s.previews[number]? with
  | none =>
    rw [cancel_of_none there]
    exact .of_same coherent rfl rfl
  | some p =>
    have found := preview_eq there
    obtain ⟨changes, put⟩ := Changes.put there (cancel_advances (found ▸ coherent number))
      (t := s.cancel number) (by rw [cancel_eq there])
      (by rw [cancel_eq there]; exact (Trace.append_empty _).symm)
    exact changes.quiet coherent (by rw [put, found]; rfl)

/-- Releasing replies is quiet. -/
theorem release_quiet (coherent : s.Coherent) : Quiet s s.release := .of_same coherent rfl rfl

/-- Noting events is quiet. -/
theorem note_quiet (coherent : s.Coherent) (events : List Log.Event) :
    Quiet s (s.note { events }) :=
  .of_same coherent rfl (List.append_nil _)

/-- Mounting previews one after another is quiet. -/
theorem mountEach_quiet (coherent : s.Coherent) (numbers : List Nat) :
    Quiet s (s.mountEach numbers).1 := by
  induction numbers generalizing s with
  | nil => exact .of_same coherent rfl rfl
  | cons number numbers ih =>
    rw [mountEach]
    cases ok : s.mount number with
    | error cause => exact .of_same coherent rfl rfl
    | ok t =>
      obtain ⟨changes, same⟩ := mount_changes (coherent number) ok
      have first := changes.quiet coherent same
      exact first.trans (ih first.coherent)

/-- Unmounting previews one after another is quiet, and disposes of them all. -/
theorem unmountEach_quiet (coherent : s.Coherent) (numbers : List Nat) :
    Quiet s (s.unmountEach numbers) ∧ ∀ n ∈ numbers, n < s.previews.length →
      ((s.unmountEach numbers).preview n).disposed = true := by
  induction numbers generalizing s with
  | nil => exact ⟨.of_same coherent rfl rfl, fun n mem => absurd mem List.not_mem_nil⟩
  | cons number numbers ih =>
    obtain ⟨trace, changes, same, disposed⟩ := unmount_changes (coherent number)
    have first := changes.quiet coherent same
    obtain ⟨rest, disposedRest⟩ := ih first.coherent
    refine ⟨first.trans rest, fun n mem bound => ?_⟩
    rcases List.mem_cons.mp mem with rfl | later
    · obtain ⟨_, advances⟩ := rest.advances n
      exact advances.disposed (disposed bound)
    · exact disposedRest n later (first.length.symm ▸ bound)

end Session

end Loremark.Preview
