import Loremark.Markdown.Inline.Emphasis
import Mathlib.Data.List.Nodup

/-!
# Pairs of marks

Every mark of a text is in at most one pair, and the opening mark of a pair stands in front of the
closing one. So the events of a text are balanced: each closing event ends a span that is open, and
no span is open at the end (`balanced_events`).
-/

set_option autoImplicit false

namespace Loremark.Markdown

/-! ## Pairing -/

/-- The numbers of the marks in pairs. -/
def endpoints (pairs : List (Nat × Nat)) : List Nat := pairs.flatMap fun pair => [pair.1, pair.2]

/-- Pairs of different marks of a text, each from front to back. -/
structure Paired (numbers : List Nat) (pairs : List (Nat × Nat)) : Prop where
  ordered : ∀ pair ∈ pairs, pair.1 < pair.2
  nodup : (endpoints pairs).Nodup
  among : endpoints pairs ⊆ numbers

/-- Numbers that wait in front of those that are still to be read. -/
structure InFront (waiting numbers : List Nat) : Prop where
  nodup : waiting.Nodup
  increasing : numbers.Pairwise (· < ·)
  before : ∀ w ∈ waiting, ∀ n ∈ numbers, w < n

/-- No pairs are pairs of any marks. -/
theorem paired_nil (numbers : List Nat) : Paired numbers [] where
  ordered := by simp
  nodup := List.nodup_nil
  among := List.nil_subset _

/-- Pairs of some marks are pairs of more of them. -/
theorem Paired.mono {numbers others : List Nat} {pairs : List (Nat × Nat)}
    (paired : Paired numbers pairs) (more : numbers ⊆ others) : Paired others pairs :=
  ⟨paired.ordered, paired.nodup, fun _ mem => more (paired.among mem)⟩

/-- Pairs can be listed in another order. -/
theorem Paired.perm {numbers : List Nat} {pairs others : List (Nat × Nat)}
    (paired : Paired numbers pairs) (perm : others.Perm pairs) : Paired numbers others where
  ordered := fun pair mem => paired.ordered pair (perm.subset mem)
  nodup := (perm.flatMap_right _).nodup_iff.mpr paired.nodup
  among := fun _ mem => paired.among ((perm.flatMap_right _).subset mem)

namespace InFront

variable {waiting numbers : List Nat} {n : Nat}

/-- Fewer numbers wait in front as well. -/
theorem sublist {fewer : List Nat} (inFront : InFront waiting (n :: numbers))
    (isSublist : fewer.Sublist waiting) : InFront fewer numbers where
  nodup := inFront.nodup.sublist isSublist
  increasing := inFront.increasing.of_cons
  before := fun w mem m later =>
    inFront.before w (isSublist.subset mem) m (List.mem_cons_of_mem n later)

/-- A mark that is passed waits in front of the others. -/
theorem keep (inFront : InFront waiting (n :: numbers)) : InFront (n :: waiting) numbers where
  nodup := by
    refine List.nodup_cons.mpr ⟨fun mem => ?_, inFront.nodup⟩
    exact absurd (inFront.before n mem n List.mem_cons_self) (Nat.lt_irrefl n)
  increasing := inFront.increasing.of_cons
  before := by
    intro w mem m later
    rcases List.mem_cons.mp mem with rfl | older
    · exact List.rel_of_pairwise_cons inFront.increasing later
    · exact inFront.before w older m (List.mem_cons_of_mem n later)

/-- A pair of a waiting number with the next one, and pairs of what waits in front of it and what
follows. -/
theorem pair {opener : Nat} {fewer : List Nat} {pairs : List (Nat × Nat)}
    (inFront : InFront waiting (n :: numbers)) (isSublist : (opener :: fewer).Sublist waiting)
    (paired : Paired (fewer ++ numbers) pairs) :
    Paired (waiting ++ n :: numbers) ((opener, n) :: pairs) := by
  have fresh : (opener :: fewer).Nodup := inFront.nodup.sublist isSublist
  have waits : opener ∈ waiting := isSublist.subset List.mem_cons_self
  have less : opener < n := inFront.before opener waits n List.mem_cons_self
  -- No other pair has one of the two numbers.
  have bounds : ∀ e ∈ endpoints pairs, e ≠ opener ∧ e ≠ n := by
    intro e mem
    rcases List.mem_append.mp (paired.among mem) with older | later
    · have own : e < n := inFront.before e (isSublist.subset (List.mem_cons_of_mem _ older)) n
        List.mem_cons_self
      refine ⟨?_, Nat.ne_of_lt own⟩
      rintro rfl
      exact (List.nodup_cons.mp fresh).1 older
    · have behind : n < e := List.rel_of_pairwise_cons inFront.increasing later
      exact ⟨Nat.ne_of_gt (Nat.lt_trans less behind), Nat.ne_of_gt behind⟩
  constructor
  · intro other mem
    rcases List.mem_cons.mp mem with rfl | later
    · exact less
    · exact paired.ordered other later
  · have different : opener ∉ n :: endpoints pairs := by
      intro mem
      rcases List.mem_cons.mp mem with rfl | later
      · exact Nat.lt_irrefl _ less
      · exact (bounds opener later).1 rfl
    have own : n ∉ endpoints pairs := fun mem => (bounds n mem).2 rfl
    exact List.nodup_cons.mpr ⟨different, List.nodup_cons.mpr ⟨own, paired.nodup⟩⟩
  · intro e mem
    rcases List.mem_cons.mp mem with rfl | mem
    · exact List.mem_append_left _ waits
    rcases List.mem_cons.mp mem with rfl | later
    · exact List.mem_append_right _ List.mem_cons_self
    · rcases List.mem_append.mp (paired.among later) with older | behind
      · exact List.mem_append_left _ (isSublist.subset (List.mem_cons_of_mem _ older))
      · exact List.mem_append_right _ (List.mem_cons_of_mem n behind)

end InFront

/-- The opening mark that is found was waiting, and so were those that go on waiting. -/
theorem opener?_sublist {closer : Mark} {waiting others : List Numbered} {opener : Nat}
    (found : opener? closer waiting = some (opener, others)) :
    (opener :: others.map Prod.fst).Sublist (waiting.map Prod.fst) := by
  induction waiting with
  | nil => cases found
  | cons entry waiting ih =>
    rw [opener?] at found
    split at found
    · obtain ⟨rfl, rfl⟩ := Prod.mk.inj (Option.some.inj found)
      exact List.Sublist.refl _
    · exact (ih found).cons _

/-- The pairs of marks of which some wait. -/
theorem paired_pairMarks (run : Option Nat) (waiting here marks : List Numbered)
    (inFront : InFront ((here ++ waiting).map Prod.fst) (marks.map Prod.fst)) :
    Paired ((here ++ waiting).map Prod.fst ++ marks.map Prod.fst)
      (pairMarks run waiting here marks) := by
  induction marks generalizing run waiting here with
  | nil => exact paired_nil _
  | cons entry marks ih =>
    obtain ⟨n, m⟩ := entry
    rw [pairMarks]
    -- A new run makes the marks of the one in front wait.
    generalize state : (if run == some m.run then (waiting, here) else (here ++ waiting, [])) =
      waits
    obtain ⟨waiting', here'⟩ := waits
    have same : here ++ waiting = here' ++ waiting' := by
      split at state <;> obtain ⟨rfl, rfl⟩ := Prod.mk.inj state <;> rfl
    rw [same] at inFront ⊢
    dsimp only
    have kept : Paired ((here' ++ waiting').map Prod.fst ++ n :: marks.map Prod.fst)
        (pairMarks (some m.run) waiting' (if m.opens then (n, m) :: here' else here') marks) := by
      split
      · refine (ih _ waiting' ((n, m) :: here') inFront.keep).mono ?_
        exact List.perm_middle.symm.subset
      · refine (ih _ _ _ (inFront.sublist (List.Sublist.refl _))).mono ?_
        exact ((List.sublist_cons_self n _).append_left _).subset
    split
    · split
      · rename_i opener others found
        have isSublist : (opener :: others.map Prod.fst).Sublist
            ((here' ++ waiting').map Prod.fst) := by
          rw [List.map_append]
          exact (opener?_sublist found).trans (List.sublist_append_right _ _)
        have fewer : InFront (([] ++ others).map Prod.fst) (marks.map Prod.fst) :=
          inFront.sublist ((List.sublist_cons_self _ _).trans isSublist)
        exact inFront.pair isSublist (ih _ _ _ fewer)
      · exact kept
    · exact kept

/-! ## Roles -/

section Entries

variable {α : Type} {entries : List (Nat × α)} {n : Nat} {value : α}

/-- The first value with a number. -/
def entryAt? (entries : List (Nat × α)) (n : Nat) : Option α :=
  (entries.find? (·.1 == n)).map (·.2)

/-- A number that is not listed has no value. -/
theorem entryAt?_eq_none (absent : n ∉ entries.map Prod.fst) : entryAt? entries n = none := by
  rw [entryAt?, Option.map_eq_none_iff, List.find?_eq_none]
  intro entry mem same
  rw [beq_iff_eq] at same
  exact absent (List.mem_map.mpr ⟨entry, mem, same⟩)

/-- A value that is listed once is found under its number. -/
theorem entryAt?_eq_some (distinct : (entries.map Prod.fst).Nodup) (mem : (n, value) ∈ entries) :
    entryAt? entries n = some value := by
  induction entries with
  | nil => cases mem
  | cons entry entries ih =>
    obtain ⟨absent, distinct⟩ := List.nodup_cons.mp distinct
    rw [entryAt?, List.find?_cons]
    rcases List.mem_cons.mp mem with rfl | later
    · simp
    · have other : (entry.1 == n) = false := by
        rw [beq_eq_false_iff_ne]
        rintro rfl
        exact absent (List.mem_map.mpr ⟨_, later, rfl⟩)
      rw [other]
      exact ih distinct later

/-- What is found under a number is listed. -/
theorem mem_of_entryAt? (found : entryAt? entries n = some value) : (n, value) ∈ entries := by
  obtain ⟨entry, first, rfl⟩ := Option.map_eq_some_iff.mp found
  have same : (entry.1 == n) = true := List.find?_some (p := fun e : Nat × α => e.1 == n) first
  rw [← beq_iff_eq.mp same]
  exact List.mem_of_find?_eq_some first

end Entries

/-- The run of the mark with a number. -/
def runOf? (marks : List Numbered) (n : Nat) : Option Nat := (entryAt? marks n).map Mark.run

/-- The roles of the marks of pairs: a pair makes a span, or two of them that stand next to each
other on both sides make a strong one. -/
inductive Assigned (marks : List Numbered) : List (Nat × Nat) → List (Nat × Role) → Prop
  | nil : Assigned marks [] []
  | skip (pair : Nat × Nat) {pairs : List (Nat × Nat)} {roles : List (Nat × Role)}
      (behind : Assigned marks pairs roles) : Assigned marks (pair :: pairs) roles
  | span (kind : SpanKind) (opener closer : Nat) {pairs : List (Nat × Nat)}
      {roles : List (Nat × Role)} (behind : Assigned marks pairs roles) :
      Assigned marks ((opener, closer) :: pairs)
        ((opener, .opens kind) :: (closer, .closes kind) :: roles)
  | strong (outer closer : Nat) {pairs : List (Nat × Nat)} {roles : List (Nat × Role)}
      (opening : runOf? marks outer = runOf? marks (outer + 1))
      (closing : runOf? marks (closer + 1) = runOf? marks closer)
      (behind : Assigned marks pairs roles) :
      Assigned marks ((outer + 1, closer) :: (outer, closer + 1) :: pairs)
        ((outer + 1, .opens .strong) :: (closer, .closes .strong) :: (outer, .absorbed) ::
          (closer + 1, .absorbed) :: roles)

/-- The roles of pairs are assigned to their marks. -/
theorem assigned_rolesOf (marks : List Numbered) (pairs : List (Nat × Nat)) :
    Assigned marks pairs (rolesOf marks pairs) := by
  fun_induction rolesOf marks pairs with
  | case1 => exact .nil
  | case2 opener closer pairs find none ih => exact .skip _ ih
  | case3 opener closer pairs find m found tilde ih => exact .span _ _ _ ih
  | case4 opener closer find m found tilde => exact .span _ _ _ .nil
  | case5 opener closer find m found tilde outer outerCloser more adjacent ih =>
    simp only [Bool.and_eq_true, beq_iff_eq] at adjacent
    obtain ⟨⟨⟨rfl, rfl⟩, opening⟩, closing⟩ := adjacent
    refine .strong _ _ ?_ closing ih
    exact opening.trans (congrArg (Option.map Mark.run) found).symm
  | case6 opener closer find m found tilde outer outerCloser more adjacent ih =>
    exact .span _ _ _ ih

namespace Assigned

variable {marks : List Numbered} {pairs : List (Nat × Nat)} {roles : List (Nat × Role)}

/-- Only marks of the pairs have roles. -/
theorem sublist (assigned : Assigned marks pairs roles) :
    (roles.map Prod.fst).Sublist (endpoints pairs) := by
  induction assigned with
  | nil => exact List.Sublist.refl _
  | skip pair behind ih => exact ih.trans (List.sublist_append_right _ _)
  | span kind opener closer behind ih => exact (ih.cons_cons _).cons_cons _
  | strong outer closer opening closing behind ih =>
    exact (((ih.cons_cons _).cons_cons _).cons_cons _).cons_cons _

/-- A mark that is absorbed stands behind or in front of another one of its run that is not. -/
theorem absorbed (assigned : Assigned marks pairs roles) {n : Nat} (mem : (n, .absorbed) ∈ roles) :
    (runOf? marks n = runOf? marks (n + 1) ∧ (n + 1, .opens .strong) ∈ roles) ∨
      ∃ m, n = m + 1 ∧ runOf? marks n = runOf? marks m := by
  induction assigned with
  | nil => cases mem
  | skip pair behind ih => exact ih mem
  | span kind opener closer behind ih =>
    simp only [List.mem_cons, Prod.mk.injEq, reduceCtorEq, and_false, false_or] at mem
    refine (ih mem).imp_left fun ⟨same, opens⟩ => ⟨same, ?_⟩
    exact List.mem_cons_of_mem _ (List.mem_cons_of_mem _ opens)
  | strong outer closer opening closing behind ih =>
    simp only [List.mem_cons, Prod.mk.injEq, reduceCtorEq, and_false, and_true, false_or] at mem
    rcases mem with rfl | rfl | later
    · exact .inl ⟨opening, List.mem_cons_self⟩
    · exact .inr ⟨closer, rfl, closing⟩
    · refine (ih later).imp_left fun ⟨same, opens⟩ => ⟨same, ?_⟩
      simp [opens]

end Assigned

/-! ## Balance -/

/-- Whether a mark opens a span. -/
def Role.isOpening : Role → Bool
  | .opens _ => true
  | .closes _ => false
  | .absorbed => false

/-- Whether a mark closes a span. -/
def Role.isClosing : Role → Bool
  | .opens _ => false
  | .closes _ => true
  | .absorbed => false

/-- The number of roles of a kind that the marks below a number have. -/
def countBelow (isKind : Role → Bool) (n : Nat) (roles : List (Nat × Role)) : Nat :=
  roles.countP fun entry => entry.1 < n && isKind entry.2

section Counting

variable {roles : List (Nat × Role)} {n : Nat}

/-- Roles are counted mark by mark. -/
theorem countBelow_succ (distinct : (roles.map Prod.fst).Nodup) (isKind : Role → Bool) (n : Nat) :
    countBelow isKind (n + 1) roles =
      countBelow isKind n roles + if (entryAt? roles n).any isKind then 1 else 0 := by
  induction roles with
  | nil => rfl
  | cons entry roles ih =>
    obtain ⟨k, role⟩ := entry
    obtain ⟨absent, distinct⟩ := List.nodup_cons.mp distinct
    have behind := ih distinct
    rw [countBelow, countBelow] at behind ⊢
    rw [List.countP_cons, List.countP_cons, behind]
    by_cases same : k = n
    · subst same
      have none : entryAt? roles k = none := entryAt?_eq_none absent
      have here : entryAt? ((k, role) :: roles) k = some role := by simp [entryAt?]
      rw [none, here]
      simp
    · have other : entryAt? ((k, role) :: roles) n = entryAt? roles n := by
        rw [entryAt?, List.find?_cons_of_neg (by simpa using same), entryAt?]
      rw [other, Nat.add_right_comm]
      have less : decide (k < n + 1) = decide (k < n) := decide_eq_decide.mpr (by omega)
      simp only [less]

/-- Below a number that is greater than all of them, all roles are counted. -/
theorem countBelow_of_lt (isKind : Role → Bool) (all : ∀ k ∈ roles.map Prod.fst, k < n) :
    countBelow isKind n roles = roles.countP fun entry => isKind entry.2 := by
  rw [countBelow]
  refine List.countP_congr fun entry mem => ?_
  have less : entry.1 < n := all _ (List.mem_map_of_mem mem)
  simp [less]

end Counting

namespace Assigned

variable {marks : List Numbered} {pairs : List (Nat × Nat)} {roles : List (Nat × Role)}

/-- As many marks close spans as open them. -/
theorem countP_eq (assigned : Assigned marks pairs roles) :
    roles.countP (fun entry => entry.2.isClosing) =
      roles.countP fun entry => entry.2.isOpening := by
  induction assigned with
  | nil => rfl
  | skip pair behind ih => exact ih
  | span kind opener closer behind ih =>
    simp only [List.countP_cons, ih]
    rfl
  | strong outer closer opening closing behind ih =>
    simp only [List.countP_cons, ih]
    rfl

/-- A mark that closes a span stands behind one that opens it. -/
theorem countBelow_le (assigned : Assigned marks pairs roles)
    (ordered : ∀ pair ∈ pairs, pair.1 < pair.2) (n : Nat) :
    countBelow Role.isClosing (n + 1) roles ≤ countBelow Role.isOpening n roles := by
  induction assigned with
  | nil => exact Nat.le_refl _
  | skip pair behind ih => exact ih fun other mem => ordered other (List.mem_cons_of_mem pair mem)
  | span kind opener closer behind ih =>
    have less : opener < closer := ordered _ List.mem_cons_self
    have behind := ih fun other mem => ordered other (List.mem_cons_of_mem _ mem)
    simp only [countBelow, List.countP_cons, Role.isClosing, Role.isOpening] at behind ⊢
    grind
  | strong outer closer opening closing behind ih =>
    have less : outer + 1 < closer := ordered _ List.mem_cons_self
    have behind := ih fun other mem =>
      ordered other (List.mem_cons_of_mem _ (List.mem_cons_of_mem _ mem))
    simp only [countBelow, List.countP_cons, Role.isClosing, Role.isOpening] at behind ⊢
    grind

end Assigned

/-- With some spans open, each closing event ends one, and none is open at the end. -/
def Balanced : (depth : Nat) → List Event → Prop
  | depth, [] => depth = 0
  | depth, .opens _ :: events => Balanced (depth + 1) events
  | 0, .closes _ :: _ => False
  | depth + 1, .closes _ :: events => Balanced depth events
  | depth, .leaf _ :: events => Balanced depth events
  | depth, .odd :: events => Balanced depth events

/-- The marks among pieces. -/
def marksOf : List Piece → List Mark
  | [] => []
  | .leaf _ :: pieces => marksOf pieces
  | .odd :: pieces => marksOf pieces
  | .mark m :: pieces => m :: marksOf pieces

/-- The event that a mark becomes. -/
def eventOf (m : Mark) : Option Role → List Event
  | none => [.leaf (.text m.text)]
  | some (.opens kind) => [.opens kind]
  | some (.closes kind) => [.closes kind]
  | some .absorbed => []

/-- A mark becomes its event, in front of those of the other pieces. -/
theorem events_mark (roles : List (Nat × Role)) (n : Nat) (m : Mark) (pieces : List Piece) :
    events roles n (.mark m :: pieces) =
      eventOf m (entryAt? roles n) ++ events roles (n + 1) pieces := by
  rw [events]
  rfl

/-- The events of pieces are balanced when their roles come from pairs. -/
theorem balanced_events {marks : List Numbered} {pairs : List (Nat × Nat)}
    {roles : List (Nat × Role)} (assigned : Assigned marks pairs roles)
    (ordered : ∀ pair ∈ pairs, pair.1 < pair.2) (distinct : (roles.map Prod.fst).Nodup)
    (pieces : List Piece) (n depth : Nat)
    (all : ∀ k ∈ roles.map Prod.fst, k < n + (marksOf pieces).length)
    (deep : depth + countBelow Role.isClosing n roles = countBelow Role.isOpening n roles) :
    Balanced depth (events roles n pieces) := by
  -- The spans that are open are those opened and not closed below the number of the next mark.
  induction pieces generalizing n depth with
  | nil =>
    change ∀ k ∈ roles.map Prod.fst, k < n at all
    rw [countBelow_of_lt _ all, countBelow_of_lt _ all, assigned.countP_eq] at deep
    change depth = 0
    omega
  | cons piece pieces ih =>
    cases piece with
    | leaf piece => exact ih n depth all deep
    | odd => exact ih n depth all deep
    | mark m =>
      have later : ∀ k ∈ roles.map Prod.fst, k < n + 1 + (marksOf pieces).length := by
        intro k mem
        have less := all k mem
        rw [marksOf, List.length_cons] at less
        omega
      have opened := countBelow_succ distinct Role.isOpening n
      have closed := countBelow_succ distinct Role.isClosing n
      have le := assigned.countBelow_le ordered n
      rw [events_mark]
      cases role : entryAt? roles n with
      | none =>
        rw [role] at opened closed
        exact ih (n + 1) depth later (by rw [opened, closed]; exact deep)
      | some role' =>
        rw [role] at opened closed
        cases role' with
        | opens kind =>
          simp only [Option.any_some, Role.isOpening, Role.isClosing, Bool.false_eq_true, ↓reduceIte,
            Nat.add_zero] at opened closed
          exact ih (n + 1) (depth + 1) later (by omega)
        | closes kind =>
          simp only [Option.any_some, Role.isOpening, Role.isClosing, Bool.false_eq_true, ↓reduceIte,
            Nat.add_zero] at opened closed
          cases depth with
          | zero => omega
          | succ depth => exact ih (n + 1) depth later (by omega)
        | absorbed =>
          simp only [Option.any_some, Role.isOpening, Role.isClosing, Bool.false_eq_true, ↓reduceIte,
            Nat.add_zero] at opened closed
          exact ih (n + 1) depth later (by omega)

/-! ## The marks of a text -/

/-- The marks of two lists of pieces follow each other. -/
theorem marksOf_append (pieces others : List Piece) :
    marksOf (pieces ++ others) = marksOf pieces ++ marksOf others := by
  fun_induction marksOf pieces <;> simp_all [marksOf]

/-- The marks of pieces are numbered in order. -/
theorem numbered_eq (pieces : List Piece) :
    numbered pieces = (marksOf pieces).mapIdx fun n m => (n, m) := by
  rw [numbered]
  congr 1
  fun_induction marksOf pieces <;> simp_all

/-- The numbers of marks are those below their count. -/
theorem numbered_fst (pieces : List Piece) :
    (numbered pieces).map Prod.fst = List.range (marksOf pieces).length := by
  rw [numbered_eq]
  refine List.ext_getElem (by simp) fun n _ _ => by simp

/-- The run of a mark is found under its number. -/
theorem runOf?_numbered (pieces : List Piece) (n : Nat) :
    runOf? (numbered pieces) n = (marksOf pieces)[n]?.map Mark.run := by
  rw [runOf?]
  congr 1
  cases found : (marksOf pieces)[n]? with
  | none =>
    rw [List.getElem?_eq_none_iff] at found
    refine entryAt?_eq_none ?_
    rw [numbered_fst, List.mem_range]
    omega
  | some m =>
    obtain ⟨less, rfl⟩ := List.getElem?_eq_some_iff.mp found
    refine entryAt?_eq_some ?_ ?_
    · rw [numbered_fst]
      exact List.nodup_range
    · rw [numbered_eq, List.mem_mapIdx]
      exact ⟨n, less, rfl⟩

/-- The roles that the marks of a text get. -/
theorem exists_roles (pieces : List Piece) : ∃ pairs roles,
    spans pieces = nest [] [] (placeOdd (events roles 0 pieces)) ∧
      Assigned (numbered pieces) pairs roles ∧
      Paired (List.range (marksOf pieces).length) pairs := by
  have inFront : InFront [] ((numbered pieces).map Prod.fst) := by
    rw [numbered_fst]
    exact ⟨List.nodup_nil, List.pairwise_lt_range, by simp⟩
  have paired := paired_pairMarks none [] [] (numbered pieces) inFront
  rw [numbered_fst, List.append_nil, List.map_nil, List.nil_append] at paired
  exact ⟨_, _, rfl, assigned_rolesOf _ _, paired.perm (List.mergeSort_perm _ _)⟩

end Loremark.Markdown
