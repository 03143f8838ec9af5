import Vynkor.Data.DashMap
import Vynkor.Data.History
import Mathlib.Data.Fintype.Card
import Mathlib.Data.Fintype.EquivFin
import Mathlib.Data.Fintype.Sets

/-! Kahn's algorithm. A node waits in the queue once all that it requires is placed;
placing a node counts down those that require it. A node on a cycle is never placed. -/

namespace Kahn
variable {α : Type} [DecidableEq α]

def tally (table : DashMap α Nat) (keys : List α) : DashMap α Nat :=
  keys.foldl (fun table key => table.insert key ((table.get key).getD 0 + 1)) table

def group (table : DashMap α (List α)) (pairs : List (α × α)) : DashMap α (List α) :=
  pairs.foldl (fun table pair => table.insert pair.1 ((table.get pair.1).getD [] ++ [pair.2])) table

theorem get_tally (table : DashMap α Nat) (keys : List α) (key : α) :
    ((tally table keys).get key).getD 0 = (table.get key).getD 0 + keys.count key := by
  induction keys generalizing table with
  | nil => rfl
  | cons first rest ih =>
    rw [tally, List.foldl_cons, ← tally, ih, DashMap.get_insert, List.count_cons]
    by_cases same : key = first
    · subst key
      simp
      omega
    · simp [same, Ne.symm same]

theorem get_group (table : DashMap α (List α)) (pairs : List (α × α)) (key : α) :
    ((group table pairs).get key).getD [] =
      (table.get key).getD [] ++ (pairs.filter fun pair => pair.1 = key).map Prod.snd := by
  induction pairs generalizing table with
  | nil => simp [group]
  | cons first rest ih =>
    rw [group, List.foldl_cons, ← group, ih, DashMap.get_insert]
    by_cases same : key = first.1
    · subst key
      simp
    · simp [same, Ne.symm same]

/-- The nodes, and what each of them requires. -/
structure Graph (α : Type) where
  nodes : List α
  requires : α → List α

namespace Graph
variable (graph : Graph α)

def edges : List (α × α) :=
  graph.nodes.flatMap fun node => (graph.requires node).map fun requirement => (requirement, node)

def inDegree : DashMap α Nat :=
  tally (graph.nodes.foldl (fun table node => table.insert node 0) ∅) (graph.edges.map Prod.snd)

def rev : DashMap α (List α) := group ∅ graph.edges

def dependants (node : α) : List α := (graph.rev.get node).getD []

end Graph

structure State (α : Type) where
  inDegree : DashMap α Nat
  queue : List α
  order : List α := []

namespace State
variable (state : State α)

def remaining (node : α) : Nat := (state.inDegree.get node).getD 0

def countDown (dependant : α) : State α :=
  let count := state.remaining dependant - 1
  let inDegree := state.inDegree.insert dependant count
  if count = 0 then { state with inDegree, queue := state.queue ++ [dependant] } else { state with inDegree }

def place (dependants : α → List α) (node : α) (rest : List α) : State α :=
  (dependants node).foldl countDown { state with queue := rest, order := state.order ++ [node] }

/-- Places nodes until the queue is empty; `none` if that takes too long. -/
def loop (dependants : α → List α) (state : State α) : Nat → Option (List α)
  | 0 =>
    match state.queue with
    | [] => some state.order
    | _ :: _ => none
  | fuel + 1 =>
    match state.queue with
    | [] => some state.order
    | node :: rest => loop dependants (state.place dependants node rest) fuel

end State

namespace Graph
variable (graph : Graph α)

def start : State α where
  inDegree := graph.inDegree
  queue := graph.nodes.filter fun node => (graph.inDegree.get node).getD 0 = 0

def sort (fuel : Nat) : Option (List α) := graph.start.loop graph.dependants fuel

end Graph

section Tables
variable {graph : Graph α} {node requirement : α}

theorem count_edges {nodes : List α} (requires : α → List α) (keep : α → Bool) (node : α) (distinct : nodes.Nodup) :
    (((nodes.flatMap fun node => (requires node).map fun requirement => (requirement, node)).filter
        fun edge => keep edge.1).map Prod.snd).count node =
      if node ∈ nodes then (requires node).countP keep else 0 := by
  induction nodes with
  | nil => rfl
  | cons first rest ih =>
    obtain ⟨fresh, distinct⟩ := List.nodup_cons.mp distinct
    have own : (((requires first).map fun requirement => (requirement, first)).filter fun edge => keep edge.1).map
        Prod.snd = List.replicate ((requires first).countP keep) first := by
      rw [List.filter_map, List.map_map, List.countP_eq_length_filter]
      exact List.map_const'
    rw [List.flatMap_cons, List.filter_append, List.map_append, List.count_append, own, ih distinct,
      List.count_replicate]
    by_cases same : node = first
    · subst node
      simp [fresh]
    · simp [same, Ne.symm same]

theorem inDegree_eq (distinct : graph.nodes.Nodup) (member : node ∈ graph.nodes) :
    (graph.inDegree.get node).getD 0 = (graph.requires node).length := by
  have zeros : ∀ (nodes : List α) (table : DashMap α Nat), (table.get node).getD 0 = 0 →
      ((nodes.foldl (fun table node => table.insert node 0) table).get node).getD 0 = 0 := by
    intro nodes
    induction nodes with
    | nil => exact fun _ zero => zero
    | cons first rest ih =>
      intro table zero
      apply ih
      rw [DashMap.get_insert]
      split
      · rfl
      · exact zero
  have counted := count_edges graph.requires (fun _ => true) node distinct
  simp only [List.filter_true, if_pos member, List.countP_true] at counted
  rw [Graph.inDegree, get_tally, zeros _ _ rfl, Graph.edges, counted, Nat.zero_add]

theorem count_dependants (distinct : graph.nodes.Nodup) :
    (graph.dependants requirement).count node =
      if node ∈ graph.nodes then (graph.requires node).count requirement else 0 := by
  rw [Graph.dependants, Graph.rev, get_group]
  simp only [DashMap.get_empty, Option.getD_none, List.nil_append, Graph.edges]
  exact count_edges graph.requires (fun other => other = requirement) node distinct

end Tables

/-- Every node of the order comes after all that it requires. -/
def Ordered (graph : Graph α) (order : List α) : Prop :=
  History.Always order fun before node => ∀ requirement ∈ graph.requires node, requirement ∈ before

/-- The counts are of what is not placed yet, except that those of the nodes still to
be counted down are too high. -/
structure Placed (graph : Graph α) (todo : List α) (state : State α) : Prop where
  counts : ∀ node ∈ graph.nodes,
    state.remaining node = (graph.requires node).countP (· ∉ state.order) + todo.count node
  settled : ∀ node, node ∈ state.queue ++ state.order ↔ node ∈ graph.nodes ∧ state.remaining node = 0
  distinct : (state.queue ++ state.order).Nodup
  ordered : Ordered graph state.order

section Loop
variable {graph : Graph α} {state : State α} {todo rest order : List α} {node : α} {fuel : Nat}

theorem placed_start (distinct : graph.nodes.Nodup) : Placed graph [] graph.start where
  counts := by
    intro node member
    have all : (graph.requires node).countP (fun requirement => decide (requirement ∉ ([] : List α))) =
        (graph.requires node).length := by simp
    rw [State.remaining, Graph.start, inDegree_eq distinct member, all]
    rfl
  settled := by
    intro node
    simp [Graph.start, State.remaining]
  distinct := by
    simpa [Graph.start] using distinct.filter _
  ordered := History.always_nil

theorem remaining_insert (count : Nat) (queue : List α) (other : α) :
    ({ state with inDegree := state.inDegree.insert node count, queue } : State α).remaining other =
      if other = node then count else state.remaining other := by
  rw [State.remaining, DashMap.get_insert]
  split <;> rfl

theorem Placed.countDown (placed : Placed graph (node :: todo) state) (member : node ∈ graph.nodes) :
    Placed graph todo (state.countDown node) := by
  obtain ⟨counts, settled, distinct, ordered⟩ := placed
  have count := counts node member
  rw [List.count_cons_self] at count
  have unsettled : node ∉ state.queue ++ state.order := by
    intro inside
    have zero := ((settled node).mp inside).2
    omega
  have counted : ∀ queue, ∀ other ∈ graph.nodes,
      ({ state with inDegree := state.inDegree.insert node (state.remaining node - 1), queue } : State α).remaining other =
        (graph.requires other).countP (· ∉ state.order) + todo.count other := by
    intro queue other inside
    rw [remaining_insert]
    split
    next same =>
      subst other
      omega
    next different =>
      rw [counts other inside, List.count_cons_of_ne (Ne.symm different)]
  simp only [State.countDown]
  split
  next last =>
    refine ⟨counted _, ?_, ?_, ordered⟩
    · intro other
      rw [remaining_insert]
      have before := settled other
      by_cases same : other = node
      · subst other
        simp [member, last]
      · simpa [same] using before
    · have fresh : (state.queue ++ [node] ++ state.order).Perm (node :: (state.queue ++ state.order)) := by
        rw [List.append_assoc]
        exact List.perm_middle
      exact fresh.nodup_iff.mpr (List.nodup_cons.mpr ⟨unsettled, distinct⟩)
  next more =>
    refine ⟨counted _, ?_, distinct, ordered⟩
    intro other
    have before := settled other
    rw [remaining_insert]
    by_cases same : other = node
    · subst other
      simp [more, unsettled]
    · simpa [same] using before

theorem Placed.countDownAll (placed : Placed graph todo state) (members : ∀ node ∈ todo, node ∈ graph.nodes) :
    Placed graph [] (todo.foldl State.countDown state) := by
  induction todo generalizing state with
  | nil => exact placed
  | cons first rest ih =>
    apply ih (placed.countDown (members first List.mem_cons_self))
    exact fun node later => members node (List.mem_cons_of_mem _ later)

theorem countP_unplaced (requirements : List α) (fresh : node ∉ order) :
    requirements.countP (· ∉ order) = requirements.countP (· ∉ order ++ [node]) + requirements.count node := by
  induction requirements with
  | nil => rfl
  | cons first rest ih =>
    rw [List.countP_cons, List.countP_cons, List.count_cons, ih]
    by_cases same : first = node
    · subst first
      simp [fresh]
      omega
    · simp [same]
      omega

theorem Placed.place (distinct : graph.nodes.Nodup) (placed : Placed graph [] state) (front : state.queue = node :: rest) :
    Placed graph [] (state.place graph.dependants node rest) := by
  obtain ⟨counts, settled, single, ordered⟩ := placed
  rw [front] at settled single
  obtain ⟨member, ready⟩ := (settled node).mp (by simp)
  have unplaced : node ∉ state.order := by
    intro inside
    have apart := (List.nodup_cons.mp single).1
    simp [inside] at apart
  have met : ∀ requirement ∈ graph.requires node, requirement ∈ state.order := by
    have none := counts node member
    rw [ready, List.count_nil, Nat.add_zero] at none
    simpa using List.countP_eq_zero.mp none.symm
  have moved : (rest ++ (state.order ++ [node])).Perm (node :: (rest ++ state.order)) := by
    rw [← List.append_assoc]
    exact List.perm_append_singleton node _
  apply Placed.countDownAll
  · refine ⟨?_, ?_, moved.nodup_iff.mpr single, ordered.snoc met⟩
    · intro other inside
      rw [count_dependants distinct, if_pos inside, ← countP_unplaced _ unplaced]
      exact counts other inside
    · intro other
      exact moved.mem_iff.trans (settled other)
  · intro other dependant
    have positive := List.count_pos_iff.mpr dependant
    rw [count_dependants distinct] at positive
    by_contra outside
    simp [outside] at positive

/-- What the sort returns: every node comes after what it requires, and a node that is
missing requires one that is missing. -/
structure Sorted (graph : Graph α) (order : List α) : Prop where
  distinct : order.Nodup
  ordered : Ordered graph order
  members : ∀ node ∈ order, node ∈ graph.nodes
  blocked : ∀ node ∈ graph.nodes, node ∉ order → ∃ requirement ∈ graph.requires node, requirement ∉ order

theorem Placed.sorted (placed : Placed graph [] state) (done : state.queue = []) : Sorted graph state.order := by
  obtain ⟨counts, settled, distinct, ordered⟩ := placed
  rw [done, List.nil_append] at distinct
  simp only [done, List.nil_append] at settled
  refine ⟨distinct, ordered, fun node inside => ((settled node).mp inside).1, ?_⟩
  intro node member missing
  have waits : state.remaining node ≠ 0 := fun zero => missing ((settled node).mpr ⟨member, zero⟩)
  rw [counts node member, List.count_nil, Nat.add_zero] at waits
  simpa using List.countP_pos_iff.mp (Nat.pos_of_ne_zero waits)

theorem Placed.loop (distinct : graph.nodes.Nodup) (placed : Placed graph [] state)
    (returned : state.loop graph.dependants fuel = some order) : Sorted graph order := by
  induction fuel generalizing state with
  | zero =>
    simp only [State.loop] at returned
    split at returned
    next done =>
      cases returned
      exact placed.sorted done
    · cases returned
  | succ fuel ih =>
    simp only [State.loop] at returned
    split at returned
    next done =>
      cases returned
      exact placed.sorted done
    next front => exact ih (placed.place distinct front) returned

theorem countDown_order (state : State α) (node : α) : (state.countDown node).order = state.order := by
  simp only [State.countDown]
  split <;> rfl

theorem place_order (state : State α) (dependants : α → List α) :
    (state.place dependants node rest).order = state.order ++ [node] := by
  have kept : ∀ (todo : List α) (state : State α), (todo.foldl State.countDown state).order = state.order := by
    intro todo
    induction todo with
    | nil => exact fun _ => rfl
    | cons first rest ih =>
      intro state
      rw [List.foldl_cons, ih, countDown_order]
  exact kept _ _

/-- Every node is placed once at most, so one round for each is enough. -/
theorem Placed.returns (distinct : graph.nodes.Nodup) (placed : Placed graph [] state)
    (enough : graph.nodes.length ≤ state.order.length + fuel) :
    ∃ order, state.loop graph.dependants fuel = some order := by
  induction fuel generalizing state with
  | zero =>
    have inside : (state.queue ++ state.order).length ≤ graph.nodes.length := by
      apply List.Subperm.length_le
      apply List.subperm_of_subset placed.distinct
      exact fun node settled => ((placed.settled node).mp settled).1
    cases waiting : state.queue with
    | nil => exact ⟨state.order, by simp [State.loop, waiting]⟩
    | cons node rest =>
      simp [waiting] at inside
      omega
  | succ fuel ih =>
    cases waiting : state.queue with
    | nil => exact ⟨state.order, by simp [State.loop, waiting]⟩
    | cons node rest =>
      simp only [State.loop, waiting]
      apply ih (placed.place distinct waiting)
      rw [place_order, List.length_append, List.length_singleton]
      omega

theorem sort_sorted (distinct : graph.nodes.Nodup) (returned : graph.sort fuel = some order) : Sorted graph order :=
  (placed_start distinct).loop distinct returned

theorem sort_returns (distinct : graph.nodes.Nodup) (enough : graph.nodes.length ≤ fuel) :
    ∃ order, graph.sort fuel = some order :=
  (placed_start distinct).returns distinct (by simpa [Graph.start] using enough)

end Loop

def Needs (graph : Graph α) (requirement node : α) : Prop := node ∈ graph.nodes ∧ requirement ∈ graph.requires node

/-- Nothing requires itself, not even by way of others. -/
def Acyclic (graph : Graph α) : Prop := ∀ node, ¬Relation.TransGen (Needs graph) node node

/-- The node is on a cycle, or requires one by way of others. -/
def Stuck (graph : Graph α) (node : α) : Prop :=
  ∃ origin, Relation.TransGen (Needs graph) origin origin ∧ Relation.ReflTransGen (Needs graph) origin node

section Cycles
variable {graph : Graph α} {order : List α} {node requirement : α}

theorem Ordered.lower (ordered : Ordered graph order) (placed : node ∈ order)
    (required : requirement ∈ graph.requires node) :
    requirement ∈ order ∧ order.idxOf requirement < order.idxOf node := by
  obtain ⟨before, after, rfl, first⟩ := List.eq_append_cons_of_mem placed
  have earlier := ordered before node after rfl requirement required
  refine ⟨List.mem_append_left _ earlier, ?_⟩
  rw [List.idxOf_append_of_mem earlier, List.idxOf_append_of_notMem first, List.idxOf_cons_self]
  have inside := List.idxOf_lt_length_of_mem earlier
  omega

theorem Ordered.descends (ordered : Ordered graph order) {origin : α} (path : Relation.TransGen (Needs graph) origin node)
    (placed : node ∈ order) : origin ∈ order ∧ order.idxOf origin < order.idxOf node := by
  induction path with
  | single edge => exact ordered.lower placed edge.2
  | tail _ edge ih =>
    obtain ⟨between, last⟩ := ordered.lower placed edge.2
    obtain ⟨first, descent⟩ := ih between
    exact ⟨first, Nat.lt_trans descent last⟩

theorem Ordered.unstuck (ordered : Ordered graph order) (placed : node ∈ order) : ¬Stuck graph node := by
  rintro ⟨origin, cycle, path⟩
  have member : origin ∈ order := by
    rcases Relation.reflTransGen_iff_eq_or_transGen.mp path with rfl | path
    · exact placed
    · exact (ordered.descends path placed).1
  exact Nat.lt_irrefl _ (ordered.descends cycle member).2

section
variable (sorted : Sorted graph order)
  (resolved : ∀ node ∈ graph.nodes, ∀ requirement ∈ graph.requires node, requirement ∈ graph.nodes)
include sorted resolved

theorem Sorted.placed (member : node ∈ graph.nodes) (free : ¬Stuck graph node) : node ∈ order := by
  classical
  let below (first second : { other // other ∈ graph.nodes }) : Prop :=
    Relation.TransGen (Needs graph) first.1 second.1 ∧ Relation.ReflTransGen (Needs graph) second.1 node
  have trans : IsTrans _ below := ⟨fun _ _ _ left right => ⟨left.1.trans right.1, right.2⟩⟩
  have irrefl : Std.Irrefl below := ⟨fun other loop => free ⟨other.1, loop.1, loop.2⟩⟩
  have wellFounded : WellFounded below := Finite.wellFounded_of_trans_of_irrefl below
  -- by induction on what is required: a node that is missing requires one that is missing
  have settled : ∀ other : { other // other ∈ graph.nodes }, Relation.ReflTransGen (Needs graph) other.1 node →
      other.1 ∈ order := by
    intro other
    induction other using wellFounded.induction with
    | _ other ih =>
      intro path
      by_contra missing
      obtain ⟨requirement, required, unplaced⟩ := sorted.blocked other.1 other.2 missing
      have edge : Needs graph requirement other.1 := ⟨other.2, required⟩
      exact unplaced (ih ⟨requirement, resolved _ other.2 _ required⟩ ⟨.single edge, path⟩ (.head edge path))
  exact settled ⟨node, member⟩ .refl

theorem Sorted.missing_iff (member : node ∈ graph.nodes) : node ∉ order ↔ Stuck graph node := by
  constructor
  · intro missing
    by_contra free
    exact missing (sorted.placed resolved member free)
  · intro stuck placed
    exact sorted.ordered.unstuck placed stuck

theorem Sorted.complete_iff : (∀ node ∈ graph.nodes, node ∈ order) ↔ Acyclic graph := by
  constructor
  · intro complete node cycle
    have member : node ∈ graph.nodes := by
      cases cycle with
      | single edge => exact edge.1
      | tail _ edge => exact edge.1
    exact sorted.ordered.unstuck (complete node member) ⟨node, cycle, .refl⟩
  · intro acyclic node member
    apply sorted.placed resolved member
    rintro ⟨origin, cycle, _⟩
    exact acyclic origin cycle

end

end Cycles
end Kahn
