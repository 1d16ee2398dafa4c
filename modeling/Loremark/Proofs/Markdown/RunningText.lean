import Loremark.Markdown.Inline.Parse
import Loremark.Proofs.Markdown.Places
import Loremark.Proofs.Markdown.Spans

/-!
# The words of a text that is read

Reading running text brings no words that are not in the text, unless a character reference writes a
character of a word (`readInline_sublist`). What is read between two texts becomes a gap, and only a
backslash in front of a letter joins a text again.
-/

set_option autoImplicit false

namespace Loremark.Markdown

open Text (Vocabulary)

/-! ## Character references -/

/-- The character references in a text stand for characters that are in no word. -/
def PlainReferences (v : Vocabulary) (text : Text) : Prop :=
  ∀ rest chars behind, '&' :: rest <:+ text → charRef? rest = some (chars, behind) →
    ∀ c ∈ chars, v.Separates c

variable {v : Vocabulary}

/-- The character references at the end of a text are among those of the text. -/
theorem PlainReferences.of_suffix {text rest : Text} (plain : PlainReferences v text)
    (part : rest <:+ text) : PlainReferences v rest :=
  fun body chars behind inside => plain body chars behind (inside.trans part)

/-- A name stands for at least one character. -/
theorem named?_ne_nil {name chars : Text} (found : named? name = some chars) : chars ≠ [] := by
  have pairs (words : List Text) : ∀ entry ∈ Text.namedPairs words, entry.2 ≠ [] := by
    fun_induction Text.namedPairs words with
    | case1 name codes words ih =>
      intro entry mem
      rcases List.mem_cons.mp mem with rfl | later
      · exact List.map_eq_nil_iff.not.mpr (Text.splitOn_ne_nil '+' codes)
      · exact ih entry later
    | case2 => simp
  obtain ⟨entry, first, rfl⟩ := Option.map_eq_some_iff.mp found
  obtain ⟨row, -, mem⟩ := List.mem_flatMap.mp (List.mem_of_find?_eq_some first)
  exact pairs _ entry mem

/-- A character reference stands for at least one character. -/
theorem charRef?_ne_nil {text chars behind : Text} (found : charRef? text = some (chars, behind)) :
    chars ≠ [] := by
  rw [charRef?.eq_def] at found
  split at found
  · simp only [Option.bind_eq_bind, Option.bind_eq_some_iff] at found
    obtain ⟨⟨body, rest⟩, -, code, -, same⟩ := found
    rw [← (Prod.mk.inj (Option.some.inj same)).1]
    exact List.cons_ne_nil _ _
  · simp only [Option.bind_eq_bind, Option.bind_eq_some_iff] at found
    obtain ⟨⟨body, rest⟩, -, other, named, same⟩ := found
    rw [← (Prod.mk.inj (Option.some.inj same)).1]
    exact named?_ne_nil named

/-! ## Leaves -/

/-- A piece that stands between two texts. -/
def Parts (v : Vocabulary) (piece : Inline) : Prop :=
  spell piece ≠ [] ∧ ∀ d ∈ spell piece, v.Separates d

section Leaves

variable (wordlike : Wordlike v)

include wordlike

/-- A piece that spells a line end stands between two texts. -/
theorem parts_of_lineEnd {piece : Inline} (same : spell piece = ['\n']) : Parts v piece := by
  rw [Parts, same]
  exact ⟨List.cons_ne_nil _ _, by simpa using wordlike.lineEnd⟩

/-- Code stands between two texts. -/
theorem code_parts (text : Text) : Parts v (code ('\x60' :: text)).1 := by
  rw [code]
  split
  · exact parts_of_lineEnd wordlike rfl
  · have tick : v.Separates '\x60' := wordlike.punctuation _ (by decide)
    refine ⟨by simp [spell], fun d mem => ?_⟩
    rw [spell] at mem
    have same := List.all_eq_true.mp (List.all_takeWhile (p := (· == '\x60'))) d mem
    rw [beq_iff_eq.mp same]
    exact tick

/-- What stands in angle brackets stands between two texts. -/
theorem angled?_parts {text behind : Text} {piece : Inline}
    (found : angled? text = some (piece, behind)) : Parts v piece := by
  have link {address shown : Text} {piece : Inline} (found : autolink? address shown = some piece) :
      Parts v piece := by
    rw [autolink?] at found
    split at found
    · obtain rfl := Option.some.inj found
      exact parts_of_lineEnd wordlike rfl
    · cases found
  rw [angled?] at found
  split at found
  · obtain ⟨other, isLink, same⟩ := Option.map_eq_some_iff.mp found
    obtain ⟨rfl, -⟩ := Prod.mk.inj same
    split at isLink
    · exact link isLink
    · split at isLink
      · exact link isLink
      · cases isLink
  · cases found

/-- A backslash stands between two texts, or is kept with the character behind it. -/
theorem escape?_parts {text behind : Text} {piece : Inline}
    (found : escape? text = some (piece, behind)) :
    Parts v piece ∨ ∃ c, piece = .text ['\\', c] ∧ text = c :: behind := by
  cases text with
  | nil => cases found
  | cons c text =>
    rw [escape?] at found
    split at found
    · obtain ⟨rfl, -⟩ := Prod.mk.inj (Option.some.inj found)
      exact .inl (parts_of_lineEnd wordlike rfl)
    · split at found
      · rename_i punctuation
        obtain ⟨rfl, -⟩ := Prod.mk.inj (Option.some.inj found)
        have separates : v.Separates c := wordlike.punctuation c punctuation
        exact .inl ⟨List.cons_ne_nil _ _, by simpa [spell] using separates⟩
      · obtain ⟨rfl, rfl⟩ := Prod.mk.inj (Option.some.inj found)
        exact .inr ⟨c, rfl, rfl⟩

/-- A piece that depends on nothing else parts the texts around it, but for a backslash that
stays. -/
theorem leaf?_parts {text behind : Text} {piece : Inline} (plain : PlainReferences v text)
    (found : leaf? text = some (piece, behind)) :
    Parts v piece ∨ ∃ c, piece = .text ['\\', c] ∧ text = '\\' :: c :: behind := by
  rw [leaf?.eq_def] at found
  split at found
  · rename_i text
    refine (escape?_parts wordlike found).imp_right fun ⟨c, same, split⟩ => ⟨c, same, ?_⟩
    rw [split]
  · rw [Option.orElse_eq_orElse, Option.orElse_eq_or, Option.or_eq_some_iff] at found
    rcases found with isLink | ⟨-, isTag⟩
    · exact .inl (angled?_parts wordlike isLink)
    · obtain ⟨tag, -, same⟩ := Option.map_eq_some_iff.mp isTag
      obtain ⟨rfl, -⟩ := Prod.mk.inj same
      exact .inl (parts_of_lineEnd wordlike rfl)
  · rename_i text
    obtain ⟨⟨chars, rest⟩, isReference, same⟩ := Option.map_eq_some_iff.mp found
    obtain ⟨rfl, -⟩ := Prod.mk.inj same
    exact .inl ⟨charRef?_ne_nil isReference,
      plain text chars rest (List.suffix_refl _) isReference⟩
  · cases found

end Leaves

/-! ## Pieces -/

/-- Places that grow from one on grow from any smaller one on. -/
theorem Orderly.mono {least more : Nat} {pieces : List Piece} (orderly : Orderly more pieces)
    (le : least ≤ more) : Orderly least pieces := by
  induction orderly with
  | nil more => exact .nil least
  | leaf piece behind ih => exact .leaf piece (ih le)
  | odd behind ih => exact .odd (ih le)
  | run m count marker place behind _ => exact .run m count marker (Nat.le_trans le place) behind

/-- Writing out what is pending keeps the order of the places. -/
theorem Orderly.flush {least : Nat} {pieces : List Piece} (orderly : Orderly least pieces)
    (pending : Text) : Orderly least (flush pending pieces) := by
  rw [Markdown.flush]
  split
  · exact orderly
  · exact .leaf _ orderly

/-- Writing out what is pending spells it in front of the pieces. -/
theorem spelledPieces_flush (pending : Text) (pieces : List Piece) :
    spelledPieces (flush pending pieces) = pending.reverse ++ spelledPieces pieces := by
  rw [flush]
  split
  · rename_i empty
    rw [List.isEmpty_iff.mp empty]
    rfl
  · rfl

/-- A run becomes a text, or marks of its place with at most one odd mark in front. -/
theorem runPieces_cases (marker : Char) {length : Nat} (place : Nat) (before after : Char)
    (positive : 0 < length) :
    (∃ piece, runPieces marker length place before after = [.leaf piece]) ∨
      ∃ odd m more, (odd = [] ∨ odd = [.odd]) ∧ m.marker = marker ∧ m.run = place ∧
        runPieces marker length place before after =
          odd ++ List.replicate (more + 1) (.mark m) := by
  rw [runPieces]
  dsimp only
  split
  · split
    · exact .inl ⟨_, rfl⟩
    · obtain ⟨more, half⟩ : ∃ more, length / 2 = more + 1 := ⟨length / 2 - 1, by omega⟩
      rw [half]
      refine .inr ⟨_, ⟨marker, place, 0, _, _⟩, more, ?_, rfl, rfl, rfl⟩
      split
      · exact .inr rfl
      · exact .inl rfl
  · obtain ⟨more, rfl⟩ := Nat.exists_eq_add_of_lt positive
    rw [Nat.zero_add]
    exact .inr ⟨[], ⟨marker, place, _, _, _⟩, more, .inl rfl, rfl, rfl, rfl⟩

/-- A line break spells a line end and leaves the beginning of what is pending. -/
theorem lineBreak_cases (pending : Text) : spell (lineBreak pending).1 = ['\n'] ∧
    (lineBreak pending).2.reverse <+: pending.reverse := by
  rw [List.reverse_prefix, lineBreak.eq_def]
  split
  · exact ⟨rfl, (List.dropWhile_suffix _).trans
      ((List.suffix_cons _ _).trans (List.suffix_cons _ _))⟩
  · exact ⟨rfl, List.suffix_cons _ _⟩
  · exact ⟨rfl, List.suffix_refl _⟩

/-- Pieces that are read from a place on, behind a pending text. -/
structure ReadFrom (v : Vocabulary) (pending : Text) (p : Place) (found : List Piece) : Prop where
  orderly : Orderly p.index found
  within : v.Within (spelledPieces found) (pending.reverse ++ p.rest)

namespace ReadFrom

variable {pending : Text} {p next : Place} {found : List Piece}

/-- Where nothing more is read, what is pending is all. -/
theorem pending_only (pending : Text) (p : Place) : ReadFrom v pending p (flush pending []) where
  orderly := (Orderly.nil _).flush pending
  within := by
    rw [spelledPieces_flush, spelledPieces, List.flatMap_nil, List.append_nil]
    exact Vocabulary.within_append_right pending.reverse p.rest

/-- A piece that parts texts, behind some of the pending text. -/
theorem piece {kept : Text} {piece : Inline} (parts : Parts v piece)
    (begins : kept.reverse <+: pending.reverse) (ahead : p.Ahead next)
    (behind : ReadFrom v [] next found) :
    ReadFrom v pending p (flush kept (.leaf piece :: found)) where
  orderly := (Orderly.leaf piece (behind.orderly.mono ahead.index_le)).flush kept
  within := by
    rw [spelledPieces_flush]
    refine Vocabulary.within_prefix_gap begins parts.1 parts.2 (behind.within.hits.trans ?_)
    exact Vocabulary.hits_suffix_sublist ahead.suffix

/-- A character that is no markup joins the pending text. -/
theorem plain {c : Char} {rest : Text} (here : p.rest = c :: rest)
    (behind : ReadFrom v (c :: pending) (p.move 1) found) : ReadFrom v pending p found where
  orderly := behind.orderly.mono (Place.ahead_move 1 p).index_le
  within := by
    have within := behind.within
    rw [Place.rest_move, here, List.reverse_cons, List.append_assoc] at within
    rwa [here]

/-- A backslash that stays, and the character behind it. -/
theorem escape {c : Char} {rest : Text} (here : p.rest = '\\' :: c :: rest)
    (behind : ReadFrom v [] (p.at rest) found) :
    ReadFrom v pending p (flush pending (.leaf (.text ['\\', c]) :: found)) where
  orderly := (Orderly.leaf _ (behind.orderly.mono (Place.ahead_at rest p).index_le)).flush pending
  within := by
    have next : (p.at rest).rest = rest := by
      have two : p.rest.length - rest.length = 2 := by
        rw [here, List.length_cons, List.length_cons]
        omega
      rw [Place.at, two, Place.rest_move, here]
      rfl
    have within := behind.within
    rw [next] at within
    rw [spelledPieces_flush, here]
    exact (within.append_left ['\\', c]).append_left pending.reverse

/-- The marks of a run part the texts around it. -/
theorem run (wordlike : Wordlike v) {odd : List Piece} {m : Mark} {more length : Nat}
    (isOdd : odd = [] ∨ odd = [.odd]) (marker : m.marker ∈ ['*', '_', '~'])
    (here : m.run = p.index) (positive : 0 < length) (fits : length ≤ p.rest.length)
    (behind : ReadFrom v [] (p.move length) found) :
    ReadFrom v pending p
      (flush pending (odd ++ List.replicate (more + 1) (.mark m) ++ found)) where
  orderly := by
    have index := Place.index_move length p fits
    have later : Orderly (m.run + 1) found := behind.orderly.mono (by omega)
    have marks : Orderly p.index (List.replicate (more + 1) (.mark m) ++ found) :=
      .run m more marker (Nat.le_of_eq here.symm) later
    refine Orderly.flush ?_ pending
    rcases isOdd with rfl | rfl
    · exact marks
    · exact .odd marks
  within := by
    -- Odd marks and marks are punctuation, which no word holds.
    have separates : ∀ d ∈ spelledPieces (odd ++ List.replicate (more + 1) (.mark m)),
        v.Separates d := by
      intro d mem
      obtain ⟨piece, inRun, spelled⟩ := List.mem_flatMap.mp mem
      rcases List.mem_append.mp inRun with inOdd | inMarks
      · rcases isOdd with rfl | rfl
        · cases inOdd
        · rw [List.mem_singleton.mp inOdd] at spelled
          rw [List.mem_singleton.mp spelled]
          exact wordlike.punctuation '~' (by decide)
      · rw [List.eq_of_mem_replicate inMarks] at spelled
        exact Mark.separates_text wordlike marker d spelled
    rw [spelledPieces_flush, spelledPieces_append]
    refine Vocabulary.within_prefix_gap (List.prefix_refl _) ?_ separates
      (behind.within.hits.trans ?_)
    · rw [spelledPieces_append]
      refine List.append_ne_nil_of_right_ne_nil _ ?_
      exact List.append_ne_nil_of_left_ne_nil m.text_ne_nil _
    · exact Vocabulary.hits_suffix_sublist (Place.ahead_move length p).suffix

end ReadFrom

section Reading

variable (wordlike : Wordlike v) (readers : Readers) {skip : Skip} (forward : Forward skip)

include wordlike forward

/-- Whatever is pending, the pieces that are read from a place on bring no words that are not in
the text. -/
theorem pieces_readFrom (fuel : Nat) (pending : Text) (p : Place)
    (plain : PlainReferences v p.rest) :
    Always (pieces readers skip fuel pending p) (ReadFrom v pending p) := by
  induction fuel generalizing pending p with
  | zero => exact always_pure (.pending_only pending p)
  | succ fuel ih =>
    -- A piece is put behind what is pending, or one more character is pending: each case below is
    -- one of the two, but for runs of marks and for a backslash in front of a letter.
    have onward {kept : Text} {piece : Inline} {next : Place} (parts : Parts v piece)
        (begins : kept.reverse <+: pending.reverse) (ahead : p.Ahead next) :
        Always (do return flush kept (.leaf piece :: (← pieces readers skip fuel [] next)))
          (ReadFrom v pending p) := by
      refine always_bind ((ih [] next (plain.of_suffix ahead.suffix)).mono fun found behind => ?_)
      exact always_pure (behind.piece parts begins ahead)
    have plainly {c : Char} {rest : Text} (here : p.rest = c :: rest) :
        Always (pieces readers skip fuel (c :: pending) (p.move 1)) (ReadFrom v pending p) := by
      have later := plain.of_suffix (Place.ahead_move 1 p).suffix
      exact (ih (c :: pending) (p.move 1) later).mono fun found behind => behind.plain here
    have gap {piece : Inline} (same : spell piece = ['\n']) : Parts v piece :=
      parts_of_lineEnd wordlike same
    rw [pieces.eq_def]
    dsimp only
    split
    · exact always_pure (.pending_only pending p)
    · obtain ⟨isBreak, begins⟩ := lineBreak_cases pending
      exact onward (gap isBreak) begins (Place.ahead_at _ p)
    · rename_i rest here
      refine always_bind ((link?_ahead forward readers.references p).mono fun found reached => ?_)
      cases found with
      | none => exact plainly here
      | some link =>
        refine always_bind fun memo => ?_
        exact onward (gap rfl) (List.prefix_refl _) (reached link rfl)
    · rename_i rest here
      refine always_bind ((image?_ahead forward readers.references p).mono fun found reached => ?_)
      cases found with
      | none => exact plainly here
      | some image => exact onward (gap rfl) (List.prefix_refl _) (reached image rfl)
    · rename_i rest here
      have parts := code_parts wordlike rest
      rw [← here] at parts
      exact onward parts (List.prefix_refl _) (Place.ahead_at _ p)
    · rename_i c rest _ _ _ _ here
      split
      · rename_i isMarker
        have marker : c ∈ ['*', '_', '~'] := by simpa [or_assoc] using isMarker
        generalize ran : (c :: rest).takeWhile (· == c) = run
        have fits : run.length ≤ p.rest.length := by
          rw [← ran, here]
          exact (List.takeWhile_prefix _).length_le
        have positive : 0 < run.length := by simp [← ran]
        have behind := ih [] (p.move run.length) (plain.of_suffix (Place.ahead_move _ p).suffix)
        split
        · exact plainly here
        · rename_i several
          rcases runPieces_cases c p.index p.before ((p.move run.length).rest.headD ' ') positive
            with ⟨piece, alone⟩ | ⟨odd, m, more, isOdd, same, own, marks⟩
          · exact absurd alone (several piece)
          · rw [marks]
            refine always_bind (behind.mono fun found read => always_pure ?_)
            exact read.run wordlike isOdd (same.symm ▸ marker) own positive fits
      · split
        · rename_i piece behind found
          rcases leaf?_parts wordlike (here ▸ plain) found with parts | ⟨d, rfl, same⟩
          · exact onward parts (List.prefix_refl _) (Place.ahead_at _ p)
          · have later := plain.of_suffix (Place.ahead_at behind p).suffix
            refine always_bind ((ih [] (p.at behind) later).mono fun found read => ?_)
            exact always_pure (read.escape (here.trans same))
        · exact plainly here

end Reading

/-- Reading running text brings no words that are not in the text. -/
theorem readInline_sublist (wordlike : Wordlike v) (references : References) {text : Text}
    (plain : PlainReferences v text) :
    (v.hits (spellAll (readInline references text))).Sublist (v.hits text) := by
  have read := pieces_readFrom wordlike
    ⟨references, readLine references (imageAlt references text.length) 19,
      imageAlt references text.length⟩
    (skipPiece_forward references 20) (text.length + 1) [] ⟨0, ' ', text⟩ plain ∅
  rw [readInline, spellAll_joined]
  exact ((spans_within wordlike read.orderly).trans read.within).hits

end Loremark.Markdown
