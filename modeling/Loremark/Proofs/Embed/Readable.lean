import Loremark.Proofs.Embed.Rescan

/-!
# Texts whose embeds can be read

The scan of a text stops at nothing but an embed whose number has too many digits. `writtenIn` lists
the embeds that a scan comes by, without reading their numbers; a text is extracted exactly if all
of them are short enough (`exists_extract_iff`).
-/

set_option autoImplicit false

namespace Loremark.Embed

/-- An embed whose number is short enough to be read. -/
def Written.Readable (w : Written) : Prop := w.digits.length ≤ Text.digitLimit

/-- The embeds of a text in order. `skip` characters of the text belong to an embed in front. -/
def writtenIn : (skip : Nat) → Text → List Written
  | _, [] => []
  | skip + 1, _ :: text => writtenIn skip text
  | 0, c :: text =>
    match match? (c :: text) with
    | none => writtenIn 0 text
    | some (w, _) => w :: writtenIn (w.toText.length - 1) text

/-- Digits can be read exactly if they are not too many. -/
theorem exists_readDigits_iff (digits : Text) :
    (∃ n, Text.readDigits digits = .ok n) ↔ digits.length ≤ Text.digitLimit := by
  simp only [Text.readDigits_eq_ok_iff, exists_and_left, exists_eq, and_true]

/-- A step whose result is put into something else succeeds exactly if it does by itself. -/
theorem exists_map_ok_iff {ε α β : Type} (step : Except ε α) (f : α → β) :
    (∃ b, (do let a ← step; pure (f a)) = (.ok b : Except ε β)) ↔ ∃ a, step = .ok a := by
  cases step with
  | error cause =>
    constructor <;> (rintro ⟨_, same⟩; cases same)
  | ok a => exact ⟨fun _ => ⟨a, rfl⟩, fun _ => ⟨f a, rfl⟩⟩

/-- A scan succeeds exactly if it comes by no embed with too many digits. -/
theorem exists_scan_iff (start : Text) (text : Text) (index skip : Nat) :
    (∃ p, scan start index skip text = .ok p) ↔ ∀ w ∈ writtenIn skip text, w.Readable := by
  induction text generalizing index skip with
  | nil =>
    have empty : scan start index skip [] = .ok ⟨[], []⟩ := by cases skip <;> rfl
    have none : writtenIn skip [] = [] := by cases skip <;> rfl
    rw [none]
    exact ⟨fun _ => List.forall_mem_nil _, fun _ => ⟨_, empty⟩⟩
  | cons c text ih =>
    cases skip with
    | succ skip => exact ih index skip
    | zero =>
      rw [scan, writtenIn]
      cases found : match? (c :: text) with
      | none =>
        dsimp only
        rw [exists_map_ok_iff]
        exact ih index 0
      | some cut =>
        obtain ⟨w, rest⟩ := cut
        dsimp only
        rw [List.forall_mem_cons, Written.Readable, ← exists_readDigits_iff]
        cases number : Text.readDigits w.digits with
        | error cause =>
          constructor
          · rintro ⟨_, same⟩
            cases same
          · rintro ⟨⟨_, same⟩, -⟩
            cases same
        | ok entity =>
          -- What follows the embed decides, whether the embed is cut out or has the number zero.
          have read : ∃ n, (.ok entity : Except Text.NumeralError Nat) = .ok n := ⟨entity, rfl⟩
          rw [and_iff_right read]
          change (∃ p, (if entity == 0 then _ else _) = Except.ok p) ↔ _
          split
          · rw [exists_map_ok_iff]
            exact ih index _
          · rw [exists_map_ok_iff]
            exact ih (index + 1) _

/-- A text without two opening braces in a row has no embeds. -/
theorem writtenIn_of_not_opening {text : Text} (free : ¬ opening <:+: text) :
    writtenIn 0 text = [] := by
  induction text with
  | nil => rfl
  | cons c text ih =>
    rw [List.infix_cons_iff, not_or] at free
    have plain : match? (c :: text) = none := by
      rw [match?, Text.after?_eq_none_iff.mpr free.1]
      rfl
    rw [writtenIn, plain]
    exact ih free.2

/-- A text is extracted exactly if none of its embeds has too many digits. -/
theorem exists_extract_iff (text : Text) :
    (∃ p, extract text = .ok p) ↔ ∀ w ∈ writtenIn 0 text, w.Readable := by
  rw [extract]
  split
  · exact exists_scan_iff (freshPrefix text) text 0 0
  · rename_i free
    have none := writtenIn_of_not_opening fun occurs => free (Text.occurs_iff.mpr occurs)
    rw [none]
    exact ⟨fun _ => List.forall_mem_nil _, fun _ => ⟨_, rfl⟩⟩

/-- The first embed of a text that begins with one. -/
theorem writtenIn_toText {w : Written} (wellFormed : w.WellFormed) (text : Text) :
    writtenIn 0 (w.toText ++ text) = w :: writtenIn 0 text := by
  obtain ⟨tail, source⟩ := w.toText_eq_cons
  have found := match?_toText wellFormed text
  have skipped (front behind : Text) :
      writtenIn front.length (front ++ behind) = writtenIn 0 behind := by
    induction front with
    | nil => rfl
    | cons c front ih => exact ih
  rw [source, List.cons_append] at found ⊢
  rw [writtenIn, found]
  dsimp only
  rw [source, List.length_cons, Nat.add_sub_cancel, skipped]

end Loremark.Embed
