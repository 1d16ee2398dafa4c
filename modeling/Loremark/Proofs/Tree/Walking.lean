import Loremark.Proofs.Tree.Slots
import Mathlib.Logic.Function.Iterate

/-!
# Walking a tree with a stack

A walk keeps the nodes that are to come on a stack. Every turn lists the topmost node and puts its
children in its place, so what has been listed and what the stack still owes make up the recursive
listing of the tree all the time, and the nodes below the stack are one fewer after every turn. The
walk ends after as many turns as the tree has nodes.

What the listing says about the tree does not depend on how it is made: a place in a tree is the
list of numbers that leads to it, and a listing in document order names what stands at every place,
once, in the order of the places. There is one such listing of the nodes, of the slots and of the
gated regions, and walking finds it (`walk_inDocumentOrder`).
-/

set_option autoImplicit false

namespace Loremark.Tree

namespace Node

/-! ## Turn by turn -/

/-- A walk under way: the nodes that have been listed, and the stack of what is to come, topmost
node first. -/
structure Walk where
  listed : List Node
  stack : List Node

/-- A turn lists the topmost node, and its children take its place. A walk with an empty stack has
ended. -/
def Walk.turn : Walk → Walk
  | ⟨listed, []⟩ => ⟨listed, []⟩
  | ⟨listed, node :: stack⟩ => ⟨listed ++ [node], node.children ++ stack⟩

/-- The walk of some trees after a number of turns. -/
def walkAfter (nodes : List Node) (turns : Nat) : Walk := Walk.turn^[turns] ⟨[], nodes⟩

section Turns

variable {nodes : List Node}

/-- A listing has as many nodes as the trees. -/
theorem length_preorderAll (nodes : List Node) : (preorderAll nodes).length = sizeAll nodes := by
  rw [← walk_eq_preorderAll]
  fun_induction walk nodes with
  | case1 => rfl
  | case2 node stack ih =>
    rw [List.length_cons, ih, sizeAll_append, sizeAll, size_eq]
    omega

/-- Only no trees have no nodes. -/
theorem sizeAll_eq_zero_iff : sizeAll nodes = 0 ↔ nodes = [] := by
  cases nodes with
  | nil => exact ⟨fun _ => rfl, fun _ => rfl⟩
  | cons node nodes => simp [sizeAll, size_eq]

/-- A turn moves one node from what the stack owes to what has been listed. -/
theorem Walk.turn_listing (w : Walk) :
    w.turn.listed ++ preorderAll w.turn.stack = w.listed ++ preorderAll w.stack := by
  obtain ⟨listed, stack⟩ := w
  cases stack with
  | nil => rfl
  | cons node stack =>
    rw [turn, preorderAll_append, preorderAll, preorder_eq, List.append_assoc]
    rfl

/-- A turn leaves one node fewer below the stack. -/
theorem Walk.turn_size (w : Walk) : sizeAll w.turn.stack = sizeAll w.stack - 1 := by
  obtain ⟨listed, stack⟩ := w
  cases stack with
  | nil => rfl
  | cons node stack =>
    rw [turn, sizeAll_append, sizeAll, size_eq]
    omega

/-- One more turn is a turn of the walk so far. -/
theorem walkAfter_succ (nodes : List Node) (turns : Nat) :
    walkAfter nodes (turns + 1) = (walkAfter nodes turns).turn :=
  Function.iterate_succ_apply' _ _ _

/-- What has been listed and what the stack owes are the recursive listing at any time. -/
theorem walkAfter_listing (nodes : List Node) (turns : Nat) :
    (walkAfter nodes turns).listed ++ preorderAll (walkAfter nodes turns).stack =
      preorderAll nodes := by
  induction turns with
  | zero => rfl
  | succ turns ih => rw [walkAfter_succ, Walk.turn_listing, ih]

/-- After some turns as many nodes are gone from the stack. -/
theorem walkAfter_size (nodes : List Node) (turns : Nat) :
    sizeAll (walkAfter nodes turns).stack = sizeAll nodes - turns := by
  induction turns with
  | zero => rfl
  | succ turns ih => rw [walkAfter_succ, Walk.turn_size, ih, Nat.sub_sub]

/-- The walk has ended exactly if there were as many turns as nodes. -/
theorem walkAfter_stack_eq_nil_iff (nodes : List Node) (turns : Nat) :
    (walkAfter nodes turns).stack = [] ↔ sizeAll nodes ≤ turns := by
  rw [← sizeAll_eq_zero_iff, walkAfter_size, Nat.sub_eq_zero_iff_le]

/-- Every turn that finds a node lists the next one of the recursive listing. -/
theorem walkAfter_listed (nodes : List Node) (turns : Nat) :
    (walkAfter nodes turns).listed = (preorderAll nodes).take turns := by
  have whole := walkAfter_listing nodes turns
  -- Either nothing is owed any more, or as many nodes have been listed as there were turns.
  by_cases ended : sizeAll nodes ≤ turns
  · have empty := (walkAfter_stack_eq_nil_iff nodes turns).mpr ended
    rw [empty, preorderAll, List.append_nil] at whole
    rw [whole, List.take_of_length_le ((length_preorderAll nodes).trans_le ended)]
  · have count := congrArg List.length whole
    rw [List.length_append, length_preorderAll, length_preorderAll, walkAfter_size] at count
    have length : (walkAfter nodes turns).listed.length = turns := by omega
    rw [← whole, List.take_left' length]

end Turns

/-! ## Document order -/

/-- A node stands at a place of a tree. -/
inductive StandsAt : List Node → List Nat → Node → Prop
  | here {nodes : List Node} {n : Nat} {node : Node} (there : nodes[n]? = some node) :
    StandsAt nodes [n] node
  | inside {nodes : List Node} {n : Nat} {node inner : Node} {path : List Nat}
    (there : nodes[n]? = some node) (deeper : StandsAt node.children path inner) :
    StandsAt nodes (n :: path) inner

/-- A listing names what is found at every place, once, a place in front of those inside it and
behind it. -/
def InDocumentOrder {α : Type} (found : List Nat → α → Prop) (listing : List α) : Prop :=
  ∃ places : List (List Nat × α), places.map Prod.snd = listing ∧
    places.Pairwise (fun a b => a.1 < b.1) ∧ ∀ path a, (path, a) ∈ places ↔ found path a

namespace InDocumentOrder

variable {α β : Type} {found other : List Nat → α → Prop} {listing others : List α}

/-- Where nothing is found, nothing is listed. -/
theorem nil (none : ∀ path a, ¬ found path a) : InDocumentOrder found [] :=
  ⟨[], rfl, .nil, fun path a => ⟨nofun, fun some => absurd some (none path a)⟩⟩

/-- What is found at one place is listed alone. -/
theorem singleton (path : List Nat) (a : α) :
    InDocumentOrder (fun p b => p = path ∧ b = a) [a] :=
  ⟨[(path, a)], rfl, List.pairwise_singleton _ _, fun p b => by simp⟩

/-- A listing depends on what is found at the places only. -/
theorem congr (same : ∀ path a, found path a ↔ other path a)
    (order : InDocumentOrder found listing) : InDocumentOrder other listing := by
  obtain ⟨places, listed, sorted, complete⟩ := order
  exact ⟨places, listed, sorted, fun path a => (complete path a).trans (same path a)⟩

/-- One listing goes on with another if all its places are in front. -/
theorem append (first : InDocumentOrder found listing) (rest : InDocumentOrder other others)
    (front : ∀ path a path' a', found path a → other path' a' → path < path') :
    InDocumentOrder (fun path a => found path a ∨ other path a) (listing ++ others) := by
  obtain ⟨places, rfl, sorted, complete⟩ := first
  obtain ⟨behind, rfl, behindSorted, behindComplete⟩ := rest
  refine ⟨places ++ behind, List.map_append, ?_, ?_⟩
  · refine List.pairwise_append.mpr ⟨sorted, behindSorted, ?_⟩
    rintro ⟨path, a⟩ mem ⟨path', a'⟩ mem'
    exact front path a path' a' ((complete path a).mp mem) ((behindComplete path' a').mp mem')
  · intro path a
    rw [List.mem_append, complete, behindComplete]

/-- The places may move as long as their order stays. -/
theorem move (order : InDocumentOrder found listing) (shift : List Nat → List Nat)
    (mono : ∀ {p q}, p < q → shift p < shift q) :
    InDocumentOrder (fun path a => ∃ p, shift p = path ∧ found p a) listing := by
  obtain ⟨places, rfl, sorted, complete⟩ := order
  refine ⟨places.map fun place => (shift place.1, place.2), ?_, ?_, ?_⟩
  · rw [List.map_map]
    rfl
  · exact List.pairwise_map.mpr (sorted.imp mono)
  · intro path a
    simp only [List.mem_map, Prod.exists, Prod.mk.injEq]
    constructor
    · rintro ⟨p, b, mem, rfl, rfl⟩
      exact ⟨p, rfl, (complete p b).mp mem⟩
    · rintro ⟨p, rfl, some⟩
      exact ⟨p, a, (complete p a).mpr some, rfl, rfl⟩

/-- What a listing leaves out is left out of the places. -/
theorem filterMap (pick : α → Option β) (order : InDocumentOrder found listing) :
    InDocumentOrder (fun path b => ∃ a, found path a ∧ pick a = some b)
      (listing.filterMap pick) := by
  obtain ⟨places, rfl, sorted, complete⟩ := order
  refine ⟨places.filterMap fun place => (pick place.2).map (place.1, ·), ?_, ?_, ?_⟩
  · rw [List.map_filterMap, List.filterMap_map]
    refine List.filterMap_congr fun place _ => ?_
    simp
  · refine List.pairwise_filterMap.mpr (sorted.imp ?_)
    rintro ⟨p, a⟩ ⟨q, b⟩ before c picked d picked'
    obtain ⟨_, -, rfl⟩ := Option.map_eq_some_iff.mp picked
    obtain ⟨_, -, rfl⟩ := Option.map_eq_some_iff.mp picked'
    exact before
  · intro path b
    simp only [List.mem_filterMap, Prod.exists, Option.map_eq_some_iff, Prod.mk.injEq]
    constructor
    · rintro ⟨p, a, mem, c, picked, rfl, rfl⟩
      exact ⟨a, (complete p a).mp mem, picked⟩
    · rintro ⟨a, some, picked⟩
      exact ⟨path, a, (complete path a).mpr some, b, picked, rfl, rfl⟩

/-- There is at most one listing in document order. -/
theorem unique (first : InDocumentOrder found listing) (second : InDocumentOrder found others) :
    listing = others := by
  obtain ⟨places, rfl, sorted, complete⟩ := first
  obtain ⟨again, rfl, againSorted, againComplete⟩ := second
  -- Ascending places do not repeat, so they are the same places, and their order is no choice.
  have apart {p q : List Nat × α} (before : p.1 < q.1) : p ≠ q := by
    rintro rfl
    exact List.lt_irrefl _ before
  have same : places.Perm again :=
    (List.perm_ext_iff_of_nodup (sorted.imp apart) (againSorted.imp apart)).mpr
      fun place => (complete _ _).trans (againComplete _ _).symm
  rw [same.eq_of_pairwise (fun p q _ _ before after => absurd after (List.lt_asymm before)) sorted
    againSorted]

/-- There is one listing in document order. -/
theorem iff_eq (order : InDocumentOrder found listing) :
    InDocumentOrder found others ↔ others = listing :=
  ⟨fun other => other.unique order, fun same => same ▸ order⟩

end InDocumentOrder

section Order

variable {nodes : List Node} {node inner : Node} {path : List Nat}

/-- A node stands below the list of trees itself. -/
theorem not_standsAt_nil_path : ¬ StandsAt nodes [] inner := nofun

/-- No node stands among no trees. -/
theorem not_standsAt_nil : ¬ StandsAt [] path inner := by
  intro stands
  cases stands with
  | here there => cases there
  | inside there deeper => cases there

/-- The place behind the first tree. -/
def nextTree : List Nat → List Nat
  | [] => []
  | n :: path => (n + 1) :: path

/-- Moving on behind the first tree keeps the order of places. -/
theorem nextTree_lt {p q : List Nat} (before : p < q) : nextTree p < nextTree q := by
  cases before with
  | nil => exact List.nil_lt_cons _ _
  | rel smaller => exact List.Lex.rel (Nat.succ_lt_succ smaller)
  | cons behind => exact List.Lex.cons behind

/-- What stands in some trees is the first one, stands inside it, or stands in the other ones. -/
theorem standsAt_cons : StandsAt (node :: nodes) path inner ↔
    (path = [0] ∧ inner = node) ∨ (∃ p, 0 :: p = path ∧ StandsAt node.children p inner) ∨
      ∃ p, nextTree p = path ∧ StandsAt nodes p inner := by
  constructor
  · intro stands
    cases stands with
    | @here _ n _ there =>
      cases n with
      | zero => exact .inl ⟨rfl, (Option.some.inj there).symm⟩
      | succ n => exact .inr (.inr ⟨[n], rfl, .here there⟩)
    | @inside _ n _ _ path there deeper =>
      cases n with
      | zero =>
        obtain rfl := Option.some.inj there
        exact .inr (.inl ⟨path, rfl, deeper⟩)
      | succ n => exact .inr (.inr ⟨n :: path, rfl, .inside there deeper⟩)
  · rintro (⟨rfl, rfl⟩ | ⟨p, rfl, deeper⟩ | ⟨p, rfl, behind⟩)
    · exact .here rfl
    · exact .inside rfl deeper
    · cases behind with
      | here there => exact .here there
      | inside there deeper => exact .inside there deeper

/-- Whatever stands in the first tree is in front of what stands in the other ones. -/
theorem lt_nextTree (p : List Nat) {q : List Nat} (stands : StandsAt nodes q inner) :
    0 :: p < nextTree q := by
  cases q with
  | nil => exact absurd stands not_standsAt_nil_path
  | cons n q => exact List.Lex.rel (Nat.succ_pos n)

/-- A tree is listed in front of what stands inside it, and that in front of the other trees. -/
theorem inDocumentOrder_cons {listing others : List Node}
    (below : InDocumentOrder (StandsAt node.children) listing)
    (behind : InDocumentOrder (StandsAt nodes) others) :
    InDocumentOrder (StandsAt (node :: nodes)) (node :: listing ++ others) := by
  have first : InDocumentOrder (fun p a => p = [0] ∧ a = node) [node] := .singleton [0] node
  have inside := below.move (0 :: ·) List.Lex.cons
  have rest := behind.move nextTree nextTree_lt
  refine ((first.append inside ?_).append rest ?_).congr fun path inner => ?_
  · rintro _ _ _ _ ⟨rfl, -⟩ ⟨p, rfl, stands⟩
    cases p with
    | nil => exact absurd stands not_standsAt_nil_path
    | cons n p => exact List.Lex.cons (List.nil_lt_cons n p)
  · rintro _ _ _ _ (⟨rfl, -⟩ | ⟨p, rfl, -⟩) ⟨q, rfl, stands⟩
    · exact lt_nextTree [] stands
    · exact lt_nextTree p stands
  · rw [standsAt_cons, or_assoc]

/-- The recursive listing is in document order. -/
theorem inDocumentOrder_preorderAll (nodes : List Node) :
    InDocumentOrder (StandsAt nodes) (preorderAll nodes) := by
  match nodes with
  | [] => exact .nil fun path inner => not_standsAt_nil
  | node :: nodes =>
    rw [preorderAll, preorder_eq]
    exact inDocumentOrder_cons (inDocumentOrder_preorderAll node.children)
      (inDocumentOrder_preorderAll nodes)
termination_by sizeAll nodes
decreasing_by
  all_goals
    simp only [sizeAll, size_eq node]
    omega

/-- A walk lists the nodes in document order. -/
theorem inDocumentOrder_walk (nodes : List Node) :
    InDocumentOrder (StandsAt nodes) (walk nodes) := by
  rw [walk_eq_preorderAll]
  exact inDocumentOrder_preorderAll nodes

/-- Nodes of one form are listed in document order by picking them from a walk. -/
theorem inDocumentOrder_picked {β : Type} {pick : Node → Option β} {form : β → Node}
    (picks : ∀ node b, pick node = some b ↔ node = form b) (nodes : List Node) :
    InDocumentOrder (fun path b => StandsAt nodes path (form b)) ((walk nodes).filterMap pick) := by
  refine ((inDocumentOrder_walk nodes).filterMap pick).congr fun path b => ?_
  constructor
  · rintro ⟨node, stands, picked⟩
    rw [(picks node b).mp picked] at stands
    exact stands
  · exact fun stands => ⟨form b, stands, (picks _ b).mpr rfl⟩

/-- Only a slot is a slot. -/
theorem slot?_eq_some_iff {s : Slot} : node.slot? = some s ↔ node = .slot s := by
  cases node <;> simp [slot?]

/-- Only a gated region is a spoiler. -/
theorem spoiler?_eq_some_iff {gated : Spoiler.Region × List Node} :
    node.spoiler? = some gated ↔ node = .spoiler gated.1 gated.2 := by
  cases node <;> simp [spoiler?, Prod.ext_iff]

/-- The regions are those of the spoilers. -/
theorem regions_eq_map_spoilers (nodes : List Node) :
    regions nodes = (spoilers nodes).map Prod.fst := by
  rw [regions, spoilers, List.map_filterMap]
  refine List.filterMap_congr fun node _ => ?_
  cases node <;> rfl

end Order

/-- Walking with a stack ends after as many turns as a tree has nodes, and lists the nodes one by
one as the recursion on the tree does. The nodes it lists, the slots and the gated regions with
their content are each the one listing in document order of what stands in the tree. -/
theorem walk_inDocumentOrder (nodes : List Node) :
    (∀ turns, (walkAfter nodes turns).listed = (walk nodes).take turns ∧
      ((walkAfter nodes turns).stack = [] ↔ sizeAll nodes ≤ turns)) ∧
    walk nodes = preorderAll nodes ∧
    (∀ listing, InDocumentOrder (StandsAt nodes) listing ↔ listing = walk nodes) ∧
    (∀ listing, InDocumentOrder (fun path s => StandsAt nodes path (.slot s)) listing ↔
      listing = slots nodes) ∧
    (∀ listing, InDocumentOrder
        (fun path gated => StandsAt nodes path (.spoiler gated.1 gated.2)) listing ↔
      listing = spoilers nodes) ∧
    regions nodes = (spoilers nodes).map Prod.fst := by
  have each := inDocumentOrder_walk nodes
  have slotEach := inDocumentOrder_picked (fun _ _ => slot?_eq_some_iff) nodes
  have spoilerEach := inDocumentOrder_picked (fun _ _ => spoiler?_eq_some_iff) nodes
  refine ⟨fun turns => ⟨?_, walkAfter_stack_eq_nil_iff nodes turns⟩,
    walk_eq_preorderAll nodes, fun _ => each.iff_eq, fun _ => slotEach.iff_eq,
    fun _ => spoilerEach.iff_eq, regions_eq_map_spoilers nodes⟩
  rw [walk_eq_preorderAll]
  exact walkAfter_listed nodes turns

end Node

end Loremark.Tree
