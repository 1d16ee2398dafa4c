import Loremark.Proofs.Markdown.Pairs
import Loremark.Proofs.Text.Vocabulary

/-!
# The words of running text

Running text spells a text again: its texts stay, and anything else is a line end. Forming spans
brings no words that the pieces do not spell (`spans_within`): a mark that gets no span stays as it
was typed, and where marks vanish another mark of their run opens or closes a span.
-/

set_option autoImplicit false

namespace Loremark.Markdown

open Text (Vocabulary)

mutual

/-- What a piece spells. -/
def spell : Inline → Text
  | .text value => value
  | .span _ children => '\n' :: (spellAll children ++ ['\n'])
  | _ => ['\n']

/-- What pieces spell. -/
def spellAll : List Inline → Text
  | [] => []
  | piece :: pieces => spell piece ++ spellAll pieces

end

/-- Two rows of pieces spell one behind the other. -/
theorem spellAll_append (pieces others : List Inline) :
    spellAll (pieces ++ others) = spellAll pieces ++ spellAll others := by
  induction pieces with
  | nil => rfl
  | cons piece pieces ih => rw [List.cons_append, spellAll, spellAll, ih, List.append_assoc]

/-- A piece behind others spells behind them. -/
theorem spellAll_reverse_cons (piece : Inline) (done : List Inline) :
    spellAll (piece :: done).reverse = spellAll done.reverse ++ spell piece := by
  rw [List.reverse_cons, spellAll_append, spellAll, spellAll, List.append_nil]

/-- A text put in front of pieces is spelled in front of them. -/
theorem spellAll_putText (value : Text) (pieces : List Inline) :
    spellAll (Inline.putText value pieces) = value ++ spellAll pieces := by
  rw [Inline.putText.eq_def]
  split
  · rw [spellAll, spellAll, spell, spell, List.append_assoc]
  · split
    · rename_i empty
      rw [List.isEmpty_iff.mp empty, List.nil_append]
    · rw [spellAll, spell]

mutual

/-- A joined piece spells what the piece spells. -/
theorem spell_joinedPiece (piece : Inline) : spell (Inline.joinedPiece piece) = spell piece := by
  cases piece with
  | span kind children => rw [Inline.joinedPiece, spell, spell, spellAll_joined children]
  | _ => rfl

/-- Joining neighbouring texts does not change what is spelled. -/
theorem spellAll_joined (pieces : List Inline) :
    spellAll (Inline.joined pieces) = spellAll pieces := by
  cases pieces with
  | nil => rfl
  | cons piece pieces =>
    cases piece with
    | text value =>
      rw [Inline.joined, spellAll_putText, spellAll, spell, spellAll_joined pieces]
    | _ =>
      rw [Inline.joined, spellAll, spellAll, spell_joinedPiece, spellAll_joined pieces]
      simp

end

/-! ## Events -/

/-- What an event spells. -/
def Event.spelled : Event → Text
  | .leaf piece => spell piece
  | .opens _ => ['\n']
  | .closes _ => ['\n']
  | .odd => ['~']

/-- What events spell. -/
def spelledEvents (events : List Event) : Text := events.flatMap Event.spelled

/-- What is spelled up to a place inside open spans. -/
def spelledOpen : OpenSpans → (done : List Inline) → Text
  | [], done => spellAll done.reverse
  | (_, outer) :: spans, done => spelledOpen spans outer ++ '\n' :: spellAll done.reverse

/-- A piece inside open spans spells behind what is done. -/
theorem spelledOpen_cons (spans : OpenSpans) (piece : Inline) (done : List Inline) :
    spelledOpen spans (piece :: done) = spelledOpen spans done ++ spell piece := by
  cases spans with
  | nil => exact spellAll_reverse_cons piece done
  | cons span spans =>
    rw [spelledOpen, spelledOpen, spellAll_reverse_cons, List.append_assoc, List.cons_append]

/-- Balanced events spell what their spans spell. -/
theorem spellAll_nest (spans : OpenSpans) (done : List Inline) (events : List Event)
    (balanced : Balanced spans.length events) :
    spellAll (nest spans done events) = spelledOpen spans done ++ spelledEvents events := by
  fun_induction nest spans done events with
  | case1 spans done =>
    cases spans with
    | nil => exact (List.append_nil _).symm
    | cons span spans => cases balanced
  | case2 spans done piece rest ih =>
    rw [ih balanced, spelledOpen_cons, List.append_assoc]
    rfl
  | case3 spans done rest ih =>
    rw [ih balanced, spelledOpen_cons, List.append_assoc]
    rfl
  | case4 spans done kind rest ih =>
    rw [ih balanced, spelledOpen, List.append_assoc]
    rfl
  | case5 done kind outer spans other rest ih =>
    rw [ih balanced, spelledOpen_cons, spelledOpen, spell]
    simp [spelledEvents, Event.spelled]
  | case6 done kind rest ih => exact absurd balanced id

/-- Moving odd tildes keeps the balance. -/
theorem balanced_placeOdd (depth : Nat) (events : List Event) :
    Balanced depth (placeOdd events) ↔ Balanced depth events := by
  fun_induction placeOdd events generalizing depth with
  | case1 => rfl
  | case2 rest ih =>
    cases depth with
    | zero => rfl
    | succ depth => exact ih depth
  | case3 rest _ ih => exact ih depth
  | case4 event rest _ _ ih =>
    cases event with
    | leaf piece => exact ih depth
    | odd => exact ih depth
    | opens kind => exact ih (depth + 1)
    | closes kind =>
      cases depth with
      | zero => rfl
      | succ depth => exact ih depth

/-! ## Words -/

/-- Words without line ends and marks of punctuation. -/
structure Wordlike (v : Vocabulary) : Prop where
  lineEnd : v.Separates '\n'
  punctuation : ∀ c, Text.isAsciiPunctuation c = true → v.Separates c

variable {v : Vocabulary}

/-- Placing odd marks brings no words. -/
theorem placeOdd_within (wordlike : Wordlike v) (events : List Event) :
    v.Within (spelledEvents (placeOdd events)) (spelledEvents events) := by
  have tilde : v.Separates '~' := wordlike.punctuation '~' (by decide)
  fun_induction placeOdd events with
  | case1 => exact .refl _
  | case2 rest ih =>
    refine Vocabulary.within_cons wordlike.lineEnd (ih.hits.trans ?_)
    have same : v.hits (spelledEvents (.odd :: rest)) =
        v.hits (spelledEvents (.odd :: .closes .strikethrough :: rest)) := by
      change v.hits ('~' :: spelledEvents rest) = v.hits ('~' :: '\n' :: spelledEvents rest)
      rw [Vocabulary.hits_cons tilde, Vocabulary.hits_cons tilde,
        Vocabulary.hits_cons wordlike.lineEnd]
    rw [same]
  | case3 rest _ ih => exact ih.append_left ['~']
  | case4 event rest _ _ ih => exact ih.append_left event.spelled

/-! ## Runs -/

/-- Pieces whose runs have growing places, from the least on. -/
inductive Orderly : (least : Nat) → List Piece → Prop
  | nil (least : Nat) : Orderly least []
  | leaf {least : Nat} {pieces : List Piece} (piece : Inline) (behind : Orderly least pieces) :
      Orderly least (.leaf piece :: pieces)
  | odd {least : Nat} {pieces : List Piece} (behind : Orderly least pieces) :
      Orderly least (.odd :: pieces)
  | run {least : Nat} {pieces : List Piece} (m : Mark) (more : Nat)
      (marker : m.marker ∈ ['*', '_', '~']) (place : least ≤ m.run)
      (behind : Orderly (m.run + 1) pieces) :
      Orderly least (List.replicate (more + 1) (.mark m) ++ pieces)

/-- Repeated marks are marks as often as they are repeated. -/
theorem marksOf_replicate (count : Nat) (m : Mark) :
    marksOf (List.replicate count (.mark m)) = List.replicate count m := by
  induction count with
  | zero => rfl
  | succ count ih => rw [List.replicate_succ, List.replicate_succ, marksOf, ih]

/-- No run has a smaller place than the least one. -/
theorem Orderly.least_le {least : Nat} {pieces : List Piece} (orderly : Orderly least pieces) :
    ∀ m ∈ marksOf pieces, least ≤ m.run := by
  induction orderly with
  | nil least => simp [marksOf]
  | leaf piece behind ih => exact ih
  | odd behind ih => exact ih
  | @run least pieces m more marker place behind ih =>
    intro other mem
    rw [marksOf_append, marksOf_replicate, List.mem_append] at mem
    rcases mem with here | later
    · rw [List.eq_of_mem_replicate here]
      exact place
    · exact Nat.le_trans place (Nat.le_of_succ_le (ih other later))

/-- What a piece spells before its spans are formed. -/
def Piece.spelled : Piece → Text
  | .leaf piece => spell piece
  | .mark m => m.text
  | .odd => ['~']

/-- What pieces spell before their spans are formed. -/
def spelledPieces (pieces : List Piece) : Text := pieces.flatMap Piece.spelled

/-- A mark has a text. -/
theorem Mark.text_ne_nil (m : Mark) : m.text ≠ [] := by
  rw [Mark.text]
  split <;> exact List.cons_ne_nil _ _

/-- The characters of marks separate words. -/
theorem Mark.separates_text (wordlike : Wordlike v) {m : Mark}
    (marker : m.marker ∈ ['*', '_', '~']) : ∀ d ∈ m.text, v.Separates d := by
  have punctuation : Text.isAsciiPunctuation m.marker = true := by
    simp only [List.mem_cons, List.not_mem_nil, or_false] at marker
    rcases marker with same | same | same <;> rw [same] <;> decide
  intro d mem
  rw [Mark.text] at mem
  have isMarker : d = m.marker := by
    split at mem
    · rename_i tilde
      rw [beq_iff_eq.mp tilde]
      simpa using mem
    · exact List.mem_singleton.mp mem
  rw [isMarker]
  exact wordlike.punctuation m.marker punctuation

/-- The events of a run. -/
def eventsOfRun (roles : List (Nat × Role)) (m : Mark) : (n count : Nat) → List Event
  | _, 0 => []
  | n, count + 1 => eventOf m (entryAt? roles n) ++ eventsOfRun roles m (n + 1) count

/-- The marks of a run become its events, in front of those of the pieces behind them. -/
theorem events_run (roles : List (Nat × Role)) (n count : Nat) (m : Mark) (pieces : List Piece) :
    events roles n (List.replicate count (.mark m) ++ pieces) =
      eventsOfRun roles m n count ++ events roles (n + count) pieces := by
  induction count generalizing n with
  | zero => rfl
  | succ count ih =>
    rw [List.replicate_succ, List.cons_append, events_mark, ih, eventsOfRun, List.append_assoc,
      Nat.add_right_comm, Nat.add_assoc]

/-- Two rows of events spell one behind the other. -/
theorem spelledEvents_append (events others : List Event) :
    spelledEvents (events ++ others) = spelledEvents events ++ spelledEvents others :=
  List.flatMap_append

/-- The events of a run spell separators only. -/
theorem separates_eventsOfRun (wordlike : Wordlike v) (roles : List (Nat × Role)) {m : Mark}
    (marker : m.marker ∈ ['*', '_', '~']) (n count : Nat) :
    ∀ d ∈ spelledEvents (eventsOfRun roles m n count), v.Separates d := by
  have lineEnd : ∀ d ∈ ['\n'], v.Separates d := by simpa using wordlike.lineEnd
  induction count generalizing n with
  | zero =>
    intro d mem
    cases mem
  | succ count ih =>
    intro d mem
    rw [eventsOfRun, spelledEvents_append, List.mem_append] at mem
    rcases mem with here | later
    · cases role : entryAt? roles n with
      | none =>
        rw [role] at here
        refine Mark.separates_text wordlike marker d ?_
        simpa [eventOf, spelledEvents, Event.spelled, spell] using here
      | some role' =>
        rw [role] at here
        cases role' with
        | absorbed => cases here
        | opens kind => exact lineEnd d here
        | closes kind => exact lineEnd d here
    · exact ih (n + 1) d later

/-- A run does not vanish if its first mark is not absorbed, or the second one is not. -/
theorem spelled_eventsOfRun_ne_nil {roles : List (Nat × Role)} {m : Mark} {n more : Nat}
    (stays : entryAt? roles n = some .absorbed →
      ∃ kind, 0 < more ∧ entryAt? roles (n + 1) = some (.opens kind)) :
    spelledEvents (eventsOfRun roles m n (more + 1)) ≠ [] := by
  rw [eventsOfRun, spelledEvents_append]
  cases role : entryAt? roles n with
  | none =>
    refine List.append_ne_nil_of_left_ne_nil ?_ _
    simpa [eventOf, spelledEvents, Event.spelled, spell] using m.text_ne_nil
  | some role' =>
    cases role' with
    | opens kind => exact List.cons_ne_nil _ _
    | closes kind => exact List.cons_ne_nil _ _
    | absorbed =>
      obtain ⟨kind, positive, opens⟩ := stays role
      obtain ⟨more, rfl⟩ := Nat.exists_eq_add_of_lt positive
      rw [Nat.zero_add, eventsOfRun, opens]
      exact List.cons_ne_nil _ _

/-- Two rows of pieces spell one behind the other before their spans are formed, too. -/
theorem spelledPieces_append (pieces others : List Piece) :
    spelledPieces (pieces ++ others) = spelledPieces pieces ++ spelledPieces others :=
  List.flatMap_append

section Runs

variable (front pieces : List Piece)

/-- The run of a mark behind others is found behind them. -/
theorem runOf?_behind (n : Nat) :
    runOf? (numbered (front ++ pieces)) ((marksOf front).length + n) =
      (marksOf pieces)[n]?.map Mark.run := by
  rw [runOf?_numbered, marksOf_append, List.getElem?_append_right (Nat.le_add_right _ _),
    Nat.add_sub_cancel_left]

/-- The run of a mark in front of others is that of one of the marks in front. -/
theorem runOf?_front {n : Nat} (inFront : n < (marksOf front).length) :
    ∃ m ∈ marksOf front, runOf? (numbered (front ++ pieces)) n = some m.run := by
  refine ⟨(marksOf front)[n], List.getElem_mem inFront, ?_⟩
  rw [runOf?_numbered, marksOf_append, List.getElem?_append_left inFront,
    List.getElem?_eq_getElem inFront]
  rfl

end Runs

/-- If the first mark of a run is absorbed, the second one opens a span. -/
theorem opens_behind_absorbed {front pieces : List Piece} {pairs : List (Nat × Nat)}
    {roles : List (Nat × Role)} {m : Mark} {more : Nat}
    (assigned : Assigned
      (numbered (front ++ (List.replicate (more + 1) (.mark m) ++ pieces))) pairs roles)
    (distinct : (roles.map Prod.fst).Nodup) (behind : Orderly (m.run + 1) pieces)
    (older : ∀ other ∈ marksOf front, other.run < m.run)
    (absorbed : entryAt? roles (marksOf front).length = some .absorbed) :
    ∃ kind, 0 < more ∧ entryAt? roles ((marksOf front).length + 1) = some (.opens kind) := by
  have marks : marksOf (List.replicate (more + 1) (.mark m) ++ pieces) =
      m :: (List.replicate more m ++ marksOf pieces) := by
    rw [marksOf_append, marksOf_replicate, List.replicate_succ, List.cons_append]
  have own := runOf?_behind front (List.replicate (more + 1) (.mark m) ++ pieces) 0
  have next := runOf?_behind front (List.replicate (more + 1) (.mark m) ++ pieces) 1
  rw [marks] at own next
  rcases assigned.absorbed (mem_of_entryAt? absorbed) with ⟨same, opens⟩ | ⟨j, atEnd, same⟩
  · refine ⟨.strong, ?_, entryAt?_eq_some distinct opens⟩
    rw [Nat.pos_iff_ne_zero]
    rintro rfl
    -- The next mark would be of a later run.
    rw [← Nat.add_zero (marksOf front).length, own, Nat.add_zero, next] at same
    obtain ⟨other, found, sameRun⟩ := Option.map_eq_some_iff.mp same.symm
    have later := behind.least_le other (List.mem_of_getElem? found)
    omega
  · have less : j < (marksOf front).length := by omega
    obtain ⟨other, inFront, found⟩ :=
      runOf?_front front (List.replicate (more + 1) (.mark m) ++ pieces) less
    rw [← Nat.add_zero (marksOf front).length, own, found] at same
    have earlier := older other inFront
    have sameRun : m.run = other.run := Option.some.inj same
    omega

/-- Events bring no words that their pieces do not bring: if the first mark of a run is absorbed,
the next one belongs to the run and opens a span. -/
theorem spelledEvents_within (wordlike : Wordlike v) {whole : List Piece} {pairs : List (Nat × Nat)}
    {roles : List (Nat × Role)} (assigned : Assigned (numbered whole) pairs roles)
    (distinct : (roles.map Prod.fst).Nodup) {least : Nat} {pieces : List Piece}
    (orderly : Orderly least pieces) (front : List Piece) (split : whole = front ++ pieces)
    (older : ∀ m ∈ marksOf front, m.run < least) :
    v.Within (spelledEvents (events roles (marksOf front).length pieces))
      (spelledPieces pieces) := by
  induction orderly generalizing front with
  | nil least => exact .refl _
  | @leaf least pieces piece behind ih =>
    have same : marksOf (front ++ [.leaf piece]) = marksOf front := by
      rw [marksOf_append, marksOf, marksOf, List.append_nil]
    have later := ih (front ++ [.leaf piece]) (by simp [split]) (by rwa [same])
    rw [same] at later
    exact later.append_left (spell piece)
  | @odd least pieces behind ih =>
    have same : marksOf (front ++ [.odd]) = marksOf front := by
      rw [marksOf_append, marksOf, marksOf, List.append_nil]
    have later := ih (front ++ [.odd]) (by simp [split]) (by rwa [same])
    rw [same] at later
    exact later.append_left ['~']
  | @run least pieces m more marker place behind ih =>
    have marks : marksOf (front ++ List.replicate (more + 1) (.mark m)) =
        marksOf front ++ List.replicate (more + 1) m := by
      rw [marksOf_append, marksOf_replicate]
    have later := ih (front ++ List.replicate (more + 1) (.mark m))
      (by rw [split, List.append_assoc]) (by
        intro other mem
        rw [marks, List.mem_append] at mem
        rcases mem with inFront | here
        · exact Nat.lt_of_lt_of_le (older other inFront) (Nat.le_succ_of_le place)
        · rw [List.eq_of_mem_replicate here]
          exact Nat.lt_succ_self _)
    rw [marks, List.length_append, List.length_replicate] at later
    -- What the run leaves behind is a gap, unless all of its marks vanish.
    rw [events_run, spelledEvents_append]
    refine Vocabulary.within_gap (spelled_eventsOfRun_ne_nil ?_)
      (separates_eventsOfRun wordlike roles marker _ _) (later.hits.trans ?_)
    · intro absorbed
      rw [split] at assigned
      exact opens_behind_absorbed assigned distinct behind
        (fun other mem => Nat.lt_of_lt_of_le (older other mem) place) absorbed
    · rw [spelledPieces_append]
      exact Vocabulary.hits_suffix_sublist (List.suffix_append _ _)

/-- Forming spans brings no words that the pieces do not bring. -/
theorem spans_within (wordlike : Wordlike v) {least : Nat} {pieces : List Piece}
    (orderly : Orderly least pieces) :
    v.Within (spellAll (spans pieces)) (spelledPieces pieces) := by
  obtain ⟨pairs, roles, formed, assigned, paired⟩ := exists_roles pieces
  have distinct : (roles.map Prod.fst).Nodup := paired.nodup.sublist assigned.sublist
  have all : ∀ k ∈ roles.map Prod.fst, k < 0 + (marksOf pieces).length := by
    intro k mem
    rw [Nat.zero_add]
    exact List.mem_range.mp (paired.among (assigned.sublist.subset mem))
  have balanced := balanced_events assigned paired.ordered distinct pieces 0 0 all (by
    simp [countBelow])
  have placed := (balanced_placeOdd 0 _).mpr balanced
  rw [formed, spellAll_nest [] [] _ placed]
  have moved := placeOdd_within wordlike (events roles 0 pieces)
  have formed := spelledEvents_within wordlike assigned distinct orderly [] rfl (by simp [marksOf])
  exact moved.trans formed

end Loremark.Markdown
