import Loremark.Proofs.Preview.Asking

/-!
# Stretches of previews

What mounting and unmounting do to previews that stand one behind another. Mounting previews that
are not disposed of is never refused (`mountEach_live`), and mounting previews that have all been
dealt with changes nothing (`mountEach_dealtWith`). Turns pass over previews with which nothing has
been done (`drop_run`).
-/

set_option autoImplicit false

namespace Loremark.Preview

variable {p q : Preview}

/-- Mounting a preview changes nothing: it has been disposed of, or its lookup has begun. -/
def IsDealtWith (p : Preview) : Prop := p.disposed = true ∨ p.lookup.isSome = true

/-- Nothing has been done with a preview. -/
structure IsUntouched (p : Preview) : Prop where
  live : p.disposed = false
  unmounted : p.lookup = none

/-- A preview that has been dealt with stays so. -/
theorem Advances.isDealtWith {trace : Trace} (advances : p.Advances trace q)
    (dealt : p.IsDealtWith) : q.IsDealtWith :=
  dealt.imp advances.disposed advances.begun

/-- No lookup of a preview with which nothing has been done is under way. -/
theorem IsUntouched.isInFlight (untouched : p.IsUntouched) : p.isInFlight = false := by
  rw [Preview.isInFlight, untouched.unmounted]
  rfl

/-- Cancelling does nothing to a preview with which nothing has been done. -/
theorem IsUntouched.cancel (untouched : p.IsUntouched) : p.cancel = p := by
  rw [Preview.cancel, untouched.unmounted, Option.map_none, ← untouched.unmounted]

/-- Unmounting changes a preview unless it has been disposed of. -/
theorem unmount_eq_self_iff : p.unmount.1 = p ↔ p.disposed = true := by
  constructor
  · intro same
    rw [← same]
    exact unmount_disposed
  · intro disposed
    rw [unmount, if_pos disposed]

namespace Session

variable {s : Session} {done ps : List Preview}

/-- A stretch of previews is unmounted one by one, and those in front of it stay. -/
theorem unmountEach_behind (previews : s.previews = done ++ ps) :
    (s.unmountEach (List.range' done.length ps.length)).previews =
      done ++ ps.map (·.unmount.1) := by
  induction ps generalizing s done with
  | nil => exact previews
  | cons p ps ih =>
    have here : (s.unmount done.length).previews = (done ++ [p.unmount.1]) ++ ps := by
      rw [unmount_eq (getElem?_behind previews), List.append_assoc]
      exact set_behind previews
    have rest := ih here
    rw [List.length_append, List.length_singleton] at rest
    rw [List.length_cons, List.range'_succ, unmountEach, List.foldl_cons]
    rw [unmountEach] at rest
    rw [rest, List.append_assoc, List.map_cons]
    rfl

/-- Previews that are not disposed of are mounted without a refusal. -/
theorem mountEach_live (previews : s.previews = done ++ ps)
    (live : ∀ p ∈ ps, p.disposed = false) :
    ∃ t, s.mountEach (List.range' done.length ps.length) = (t, none) ∧
      t.previews = done ++ ps.map fun p => { p with lookup := some (p.lookup.getD .due) } := by
  induction ps generalizing s done with
  | nil => exact ⟨s, rfl, previews⟩
  | cons p ps ih =>
    obtain ⟨here, behind⟩ := List.forall_mem_cons.mp live
    let begun : Preview := { p with lookup := some (p.lookup.getD .due) }
    let t : Session := { s with
      previews := done ++ begun :: ps
      due := s.due ++ if p.lookup.isNone then [done.length] else [] }
    have ok : s.mount done.length = .ok t := by
      rw [mount_eq (getElem?_behind previews), mount_of_live here]
      dsimp only [Except.map]
      rw [set_behind previews]
    have split : t.previews = (done ++ [begun]) ++ ps := by
      rw [List.append_assoc]
      rfl
    obtain ⟨u, rest, there⟩ := ih split behind
    rw [List.length_append, List.length_singleton] at rest
    refine ⟨u, ?_, ?_⟩
    · rw [List.length_cons, List.range'_succ, mountEach, ok]
      exact rest
    · rw [there, List.append_assoc, List.map_cons]
      rfl

/-- Mounting previews that have all been dealt with changes nothing; it is refused if one of them
has been disposed of. -/
theorem mountEach_dealtWith (previews : s.previews = done ++ ps)
    (dealt : ∀ p ∈ ps, p.IsDealtWith) :
    s.mountEach (List.range' done.length ps.length) =
      (s, (ps.find? (·.disposed)).map fun p => ⟨p.key⟩) := by
  induction ps generalizing done with
  | nil => rfl
  | cons p ps ih =>
    obtain ⟨here, behind⟩ := List.forall_mem_cons.mp dealt
    have there := getElem?_behind previews
    rw [List.length_cons, List.range'_succ, mountEach, mount_eq there]
    cases disposed : p.disposed with
    | true =>
      rw [mount_of_disposed disposed, List.find?_cons_of_pos disposed]
      rfl
    | false =>
      obtain ⟨stage, begun⟩ := Option.isSome_iff_exists.mp
        (here.resolve_left (by rw [disposed]; exact Bool.false_ne_true))
      have same : { p with lookup := some (p.lookup.getD .due) } = p := by
        rw [begun, Option.getD_some, ← begun]
      have split : s.previews = (done ++ [p]) ++ ps := by
        rw [List.append_assoc]
        exact previews
      have rest := ih split behind
      rw [List.length_append, List.length_singleton] at rest
      rw [mount_of_live disposed, same, begun, List.find?_cons_of_neg (by simp [disposed])]
      dsimp only [Except.map]
      rw [set_behind previews, ← previews]
      simpa using rest

/-- Turns pass over previews with which nothing has been done. -/
theorem drop_take {k : Nat} (untouched : ∀ p ∈ s.previews.drop k, p.IsUntouched)
    (number : Nat) : (s.take number).previews.drop k = s.previews.drop k := by
  cases there : s.previews[number]? with
  | none => rw [take_of_none there]
  | some p =>
    rw [take_eq there, List.drop_set]
    split
    · rfl
    · rename_i behind
      have place : (s.previews.drop k)[number - k]? = some p := by
        rw [List.getElem?_drop, Nat.add_sub_cancel' (Nat.le_of_not_lt behind), there]
      have idle := (untouched p (List.mem_of_getElem? place)).isInFlight
      obtain ⟨bound, here⟩ := List.getElem?_eq_some_iff.mp place
      rw [turn_idle idle, ← here]
      exact List.set_getElem_self bound

/-- Turns leave the end of a session alone if nothing has been done with the previews there. -/
theorem drop_run {k : Nat} (untouched : ∀ p ∈ s.previews.drop k, p.IsUntouched) :
    s.run.previews.drop k = s.previews.drop k :=
  foldl_take (P := fun _ later => later.previews.drop k = s.previews.drop k)
    (fun number _ _ same => (drop_take (same ▸ untouched) number).trans same) rfl

/-- Cancelling leaves the end of a session alone if nothing has been done with the previews there.
-/
theorem drop_cancel {k : Nat} (untouched : ∀ p ∈ s.previews.drop k, p.IsUntouched)
    (number : Nat) : (s.cancel number).previews.drop k = s.previews.drop k := by
  cases there : s.previews[number]? with
  | none => rw [cancel_of_none there]
  | some p =>
    rw [cancel_eq there, List.drop_set]
    split
    · rfl
    · rename_i behind
      have place : (s.previews.drop k)[number - k]? = some p := by
        rw [List.getElem?_drop, Nat.add_sub_cancel' (Nat.le_of_not_lt behind), there]
      obtain ⟨bound, here⟩ := List.getElem?_eq_some_iff.mp place
      rw [(untouched p (List.mem_of_getElem? place)).cancel, ← here]
      exact List.set_getElem_self bound

end Session

end Loremark.Preview
