import GrowthGrammar.Proofs.Graph.Ancestry
import GrowthGrammar.Proofs.Graph.Run

/-!
Lifting: a node that is removed leaves its children to its parent. What lay below what stays that
way among all other nodes, and nothing but the node and its edges is gone.
-/
namespace GrowthGrammar

open Relation

namespace Forest

variable {f : Forest}

/-! ### The way up past a node that goes -/

/-- A way up after the removal is one before, or takes two steps at once where the node was. -/
theorem child_remove_iff (h : Mutual f) (acyclic : Acyclic f) {id child parent : Int} :
    (f.remove id).Child child parent ↔ child ≠ id ∧
      (f.Child child parent ∧ parent ≠ id ∨ f.Child child id ∧ f.Child id parent) := by
  unfold Child
  rw [h.parent?_remove]
  by_cases here : id = child
  · simp [here]
  · rw [if_neg here, and_iff_right (Ne.symm here)]
    by_cases below : f.parent? child = some id
    · rw [if_pos below, heirOf_eq_some]
      constructor
      · rintro ⟨above, -⟩
        exact .inr ⟨below, above⟩
      · rintro (⟨known, apart⟩ | ⟨-, above⟩)
        · exact absurd (Option.some.inj (known.symm.trans below)) apart
        · refine ⟨above, ?_⟩
          rintro rfl
          exact acyclic id (.head above (.single below))
    · rw [if_neg below]
      constructor
      · intro known
        refine .inl ⟨known, ?_⟩
        rintro rfl
        exact below known
      · rintro (⟨known, -⟩ | ⟨known, -⟩)
        · exact known
        · exact absurd known below

theorem below_of_below_remove (h : Mutual f) (acyclic : Acyclic f) {id low high : Int}
    (way : (f.remove id).Below low high) : f.Below low high := by
  refine TransGen.closed (fun child parent step => ?_) low high way
  obtain ⟨-, ⟨known, -⟩ | ⟨first, second⟩⟩ := (child_remove_iff h acyclic).mp step
  · exact .single known
  · exact .head first (.single second)

/-- By induction on the way from its lower end. At the node that goes it is its children that have
to find the rest of the way. -/
theorem below_remove (h : Mutual f) (acyclic : Acyclic f) {id low high : Int} (other : high ≠ id)
    (way : f.Below low high) (apart : low ≠ id) : (f.remove id).Below low high := by
  suffices found : (low ≠ id → (f.remove id).Below low high) ∧
      (low = id → ∀ child, f.Child child id → (f.remove id).Below child high) from found.1 apart
  have up {child parent : Int} : (f.remove id).Child child parent ↔ child ≠ id ∧
      (f.Child child parent ∧ parent ≠ id ∨ f.Child child id ∧ f.Child id parent) :=
    child_remove_iff h acyclic
  have fresh {child : Int} (step : f.Child child id) : child ≠ id := by
    rintro rfl
    exact acyclic child (.single step)
  clear apart
  induction way using TransGen.head_induction_on with
  | @single low step =>
    refine ⟨fun apart => .single (up.mpr ⟨apart, .inl ⟨step, other⟩⟩), ?_⟩
    rintro rfl child first
    exact .single (up.mpr ⟨fresh first, .inr ⟨first, step⟩⟩)
  | @head low next step _ ih =>
    refine ⟨fun apart => ?_, ?_⟩
    · by_cases here : next = id
      · exact ih.2 here low (here ▸ step)
      · exact .head (up.mpr ⟨apart, .inl ⟨step, here⟩⟩) (ih.1 here)
    · rintro rfl child first
      have beyond : next ≠ low := by
        rintro rfl
        exact acyclic next (.single step)
      exact .head (up.mpr ⟨fresh first, .inr ⟨first, step⟩⟩) (ih.1 beyond)

/-! ### Names -/

/-- The ids that occur in a forest, those of children and of parents, on either side. -/
def Mentions (f : Forest) (id : Int) : Prop :=
  f.parents.contains id = true ∨ (∃ child, f.parent? child = some id) ∨
    f.children.contains id = true ∨ ∃ parent, id ∈ f.childrenOf parent

theorem not_mentions_remove (h : Mutual f) (acyclic : Acyclic f) (id : Int) :
    ¬ (f.remove id).Mentions id := by
  have own : f.parent? id ≠ some id := fun step => acyclic id (.single step)
  have agree := remove_mutual h own
  have top : (f.remove id).parent? id = none := by
    rw [h.parent?_remove, if_pos rfl]
  have dropped : (f.remove id).children.get? id = none := by
    have released : (f.release id none).children.get? id = none := by
      rw [get?_children_release, if_pos rfl]
    unfold remove detach
    split
    · rw [get?_dropChild]
      change (if _ then (f.release id none).children.get? id >>= _
        else (f.release id none).children.get? id) = none
      rw [released]
      exact ite_self none
    · exact released
  rintro (grown | ⟨child, step⟩ | bearing | ⟨parent, member⟩)
  · rw [Table.contains_eq_isSome_get?] at grown
    rw [parent?] at top
    rw [top] at grown
    cases grown
  · have member := (agree child id).mpr step
    rw [childrenOf, dropped] at member
    cases member
  · rw [Table.contains_eq_isSome_get?, dropped] at bearing
    cases bearing
  · rw [agree id parent, top] at member
    cases member

end Forest

namespace Graph

variable {g : Graph}

/-! ### The edges that go -/

theorem removeEdge_stored {e : Edge} (stored : g.edges.contains e = true) :
    (g.removeEdge e.low e.high).2 = g.cut e := by
  unfold removeEdge
  rw [Edge.between_low_high, if_pos stored]

/-- Edges of a list that are all there are all there until their turn comes. -/
theorem stored_cut {e : Edge} {rest : List Edge} (distinct : (e :: rest).Nodup)
    (stored : ∀ key ∈ e :: rest, g.edges.contains key = true) :
    ∀ key ∈ rest, (g.cut e).edges.contains key = true := by
  intro key member
  have different : e ≠ key := fun same => (List.nodup_cons.mp distinct).1 (same ▸ member)
  rw [cut_contains, decide_eq_false different]
  exact stored key (List.mem_cons_of_mem _ member)

theorem adjacency_removeEdges {id key : Int} (other : key ≠ id) {edges : List Edge}
    (distinct : edges.Nodup) (stored : ∀ e ∈ edges, g.edges.contains e = true)
    (touches : ∀ e ∈ edges, e.touches id = true) :
    (g.removeEdges edges).2.adjacency.get? key =
      if Edge.between key id ∈ edges then (g.adjacency.get? key).map (·.erase id)
      else g.adjacency.get? key := by
  induction edges generalizing g with
  | nil => rfl
  | cons e rest ih =>
    have later := List.nodup_cons.mp distinct
    rw [removeEdges_cons, removeEdge_stored (stored e List.mem_cons_self),
      ih later.2 (stored_cut distinct stored) fun e member =>
        touches e (List.mem_cons_of_mem _ member),
      show (g.cut e).adjacency.get? key = _ from get?_mapEnds g.adjacency e _ key]
    by_cases here : Edge.between key id = e
    · subst here
      rw [if_neg later.1, if_pos (Edge.touches_between key id), Edge.opposite_between,
        if_pos List.mem_cons_self]
    · have apart : ¬ e.touches key = true := by
        intro near
        refine here (Edge.between_eq_iff.mpr ⟨near, ?_⟩)
        have far := touches e List.mem_cons_self
        simp only [Edge.touches, Bool.or_eq_true, decide_eq_true_eq] at near far
        unfold Edge.opposite
        split <;> omega
      rw [if_neg apart]
      simp [here]

theorem edgeStamp_removeEdges {edges : List Edge} (distinct : edges.Nodup)
    (stored : ∀ e ∈ edges, g.edges.contains e = true) (key : Edge) :
    (g.removeEdges edges).2.edgeStamps.get? key =
      if key ∈ edges then none else g.edgeStamps.get? key := by
  induction edges generalizing g with
  | nil => rfl
  | cons e rest ih =>
    have later := List.nodup_cons.mp distinct
    rw [removeEdges_cons, removeEdge_stored (stored e List.mem_cons_self),
      ih later.2 (stored_cut distinct stored),
      show (g.cut e).edgeStamps.get? key = _ from Table.get?_erase g.edgeStamps e key]
    by_cases here : e = key
    · simp [here]
    · simp [here, Ne.symm here]

/-! ### The whole removal -/

/-- A graph from which a node has been removed. With it are gone its edges and its place among its
neighbours, and its children have gone to its parent. -/
structure Lifted (g : Graph) (id : Int) (g' : Graph) : Prop where
  agree : g'.forest.Mutual
  acyclic : g'.forest.Acyclic
  unmentioned : ¬ g'.forest.Mentions id
  below_iff : ∀ a b, a ≠ id → b ≠ id → (g'.forest.Below b a ↔ g.forest.Below b a)
  hasNode_iff : ∀ key, g'.hasNode key = true ↔ key ≠ id ∧ g.hasNode key = true
  edges_iff : ∀ e, g'.edges.contains e = true ↔
    e.touches id = false ∧ g.edges.contains e = true
  adjacency : ∀ key, g'.adjacency.get? key =
    if id = key then none
    else if g.hasEdge key id then (g.adjacency.get? key).map (·.erase id)
    else g.adjacency.get? key
  nodeStamp : ∀ key, g'.nodeStamps.get? key =
    if id = key then none else g.nodeStamps.get? key
  edgeStamp : ∀ e, g'.edgeStamps.get? e =
    if g.edges.contains e && e.touches id then none else g.edgeStamps.get? e
  clock : g'.clock = g.clock
  nextId : g'.nextId = g.nextId

/-- In whatever graph, if both sides of the forest agree and no way up comes back, the removal of a
node takes away the node and its edges, and leaves all that lay below each other that way. -/
theorem removeNode_lifts {g : Graph} {id : Int} (agree : g.forest.Mutual)
    (acyclic : g.forest.Acyclic) (there : g.hasNode id = true) :
    (g.removeNode id).1 = 1 ∧ Lifted g id (g.removeNode id).2 := by
  have removed : g.removeNode id = (1, (g.removeEdgesWith id).2.displace id) := if_pos there
  have distinct : (g.edgesAt id).Nodup := g.edges.keys_nodup.filter _
  have stored : ∀ e ∈ g.edgesAt id, g.edges.contains e = true :=
    fun e member => (mem_edgesAt.mp member).1
  have touches : ∀ e ∈ g.edgesAt id, e.touches id = true :=
    fun e member => (mem_edgesAt.mp member).2
  have forest : (g.removeNode id).2.forest = g.forest.remove id := by
    rw [removeNode_forest, if_pos there]
  have own : g.forest.parent? id ≠ some id := fun step => acyclic id (.single step)
  obtain ⟨edges, adjacency, edgeStamps, framed⟩ := g.removeEdges_frame (g.edgesAt id)
  rw [← removeEdgesWith] at framed
  refine ⟨congrArg Prod.fst removed, ?_⟩
  exact {
    agree := forest ▸ Forest.remove_mutual agree own
    acyclic := fun key cycle =>
      acyclic key (Forest.below_of_below_remove agree acyclic (forest ▸ cycle))
    unmentioned := forest ▸ Forest.not_mentions_remove agree acyclic id
    below_iff := fun a b first second => by
      rw [forest]
      exact ⟨Forest.below_of_below_remove agree acyclic,
        fun way => Forest.below_remove agree acyclic first way second⟩
    hasNode_iff := fun key => by
      rw [hasNode_removeNode, Bool.and_eq_true, Bool.not_eq_true', decide_eq_false_iff_not, eq_comm]
    edges_iff := fun e => by
      rw [removed]
      show (g.removeEdgesWith id).2.edges.contains e = true ↔ _
      rw [removeEdgesWith_contains, Bool.and_eq_true, Bool.not_eq_true']
    adjacency := fun key => by
      rw [removed, show ((g.removeEdgesWith id).2.displace id).adjacency.get? key = _ from
        Table.get?_erase (g.removeEdgesWith id).2.adjacency id key]
      by_cases here : id = key
      · rw [if_pos here, if_pos here]
      · rw [if_neg here, if_neg here, removeEdgesWith,
          adjacency_removeEdges (Ne.symm here) distinct stored touches]
        have near : Edge.between key id ∈ g.edgesAt id ↔ g.hasEdge key id = true := by
          rw [mem_edgesAt, hasEdge, Edge.between_comm]
          exact and_iff_left (Edge.touches_between id key)
        simp only [near]
    nodeStamp := fun key => by
      rw [removed, framed]
      exact Table.get?_erase g.nodeStamps id key
    edgeStamp := fun e => by
      rw [removed]
      show (g.removeEdgesWith id).2.edgeStamps.get? e = _
      rw [removeEdgesWith, edgeStamp_removeEdges distinct stored]
      simp only [mem_edgesAt, Bool.and_eq_true]
    clock := by
      rw [removed, framed]
      rfl
    nextId := g.removeNode_nextId id }

/-- A root with one child, which has two of its own and an edge to every node, itself included. -/
def branching : Graph :=
  empty.run [.addNode, .addNode, .addNode, .addNode, .addEdge 0 1, .addEdge 1 2, .addEdge 1 3,
    .addEdge 1 1, .attach 1 0, .attach 2 1, .attach 3 1]

theorem branching_lifts :
    branching.forest.Mutual ∧ branching.forest.Acyclic ∧ branching.hasNode 1 = true ∧
      (branching.removeNode 1).1 = 1 ∧ Lifted branching 1 (branching.removeNode 1).2 := by
  have grown : branching.forest = ((empty.forest.attach 1 0).attach 2 1).attach 3 1 := by rfl
  have agree : branching.forest.Mutual := by
    rw [grown]
    have first := Forest.attach_mutual Forest.empty_coherent.mutual 1 0
    exact Forest.attach_mutual (Forest.attach_mutual first 2 1) 3 1
  have acyclic : branching.forest.Acyclic := by
    refine Forest.acyclic_of_lt fun child parent step => ?_
    rw [Forest.Child, grown] at step
    simp only [Forest.parent?_attach] at step
    split_ifs at step <;> cases step <;> omega
  have there : branching.hasNode 1 = true := by rfl
  exact ⟨agree, acyclic, there, removeNode_lifts agree acyclic there⟩

end Graph

end GrowthGrammar
