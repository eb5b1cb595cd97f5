import GrowthGrammar.Proofs.Graph.Incidence
import GrowthGrammar.Proofs.Graph.FreeIds
import GrowthGrammar.Proofs.Work

/-!
Runs: operations on a graph, one after the other from the empty graph on. An operation may stop at
a fault; the run goes on with the graph that it leaves.
-/
namespace GrowthGrammar.Graph

inductive Operation where
  | addNode
  | addNodeWith (id : Int)
  | addEdge (a b : Int)
  | removeEdge (a b : Int)
  | removeEdgesWith (id : Int)
  | removeNode (id : Int)
  | advance
  | touchNode (id : Int)
  | touchEdge (a b : Int)
  | attach (child parent : Int)
  | detach (child : Int)
  | release (id : Int) (heir : Option Int)
  deriving DecidableEq

namespace Operation

/-- The operation as work on a graph. Its answer is left out. -/
def work : Operation → GraphWork Unit
  | .addNode => modify fun g => g.addNode.2
  | .addNodeWith id => Graph.addNodeWith id
  | .addEdge a b => Graph.addEdge a b
  | .removeEdge a b => modify fun g => (g.removeEdge a b).2
  | .removeEdgesWith id => modify fun g => (g.removeEdgesWith id).2
  | .removeNode id => modify fun g => (g.removeNode id).2
  | .advance => modify fun g => g.advance
  | .touchNode id => modify fun g => g.touchNode id
  | .touchEdge a b => modify fun g => g.touchEdge a b
  | .attach child parent => modify fun g => g.attach child parent
  | .detach child => modify fun g => g.detach child
  | .release id heir => modify fun g => g.release id heir

/-- The graph that the operation leaves, be it done or refused. -/
def after (op : Operation) (g : Graph) : Graph := (op.work.run g).2

end Operation

def run (g : Graph) (ops : List Operation) : Graph := ops.foldl (fun g op => op.after g) g

theorem run_concat (g : Graph) (ops : List Operation) (op : Operation) :
    g.run (ops ++ [op]) = op.after (g.run ops) := by
  simp only [run, List.foldl_append, List.foldl_cons, List.foldl_nil]

/-- What every operation keeps, every run keeps. -/
theorem run_keeps {P : Graph → Prop} (step : ∀ g (op : Operation), P g → P (op.after g))
    (ops : List Operation) {g : Graph} (start : P g) : P (g.run ops) := by
  induction ops generalizing g with
  | nil => exact start
  | cons op rest ih => exact ih (step g op start)

/-! ### Operations that may be refused -/

theorem addNodeWith_run (g : Graph) (id : Int) :
    (addNodeWith id).run g =
      if g.hasNode id then (.error (.duplicate id), g) else (.ok (), g.place id) := by
  unfold addNodeWith
  rw [Work.run_bind, Work.run_get]
  dsimp only
  split
  · rfl
  · rfl

theorem require_run (g : Graph) (id : Int) :
    (require id).run g = if g.hasNode id then (.ok (), g) else (.error (.missing id), g) := by
  unfold require
  rw [Work.run_bind, Work.run_get]
  cases there : g.hasNode id <;> simp only [there] <;> rfl

/-- What `addEdge` leaves when both nodes are there. -/
def withEdge (g : Graph) (e : Edge) : Graph :=
  (if g.edges.contains e then g else g.join e).stampEdge e

theorem withEdge_nodes (g : Graph) (e : Edge) : (g.withEdge e).nodes = g.nodes := by
  unfold withEdge
  split <;> rfl

theorem withEdge_nextId (g : Graph) (e : Edge) : (g.withEdge e).nextId = g.nextId := by
  unfold withEdge
  split <;> rfl

theorem withEdge_forest (g : Graph) (e : Edge) : (g.withEdge e).forest = g.forest := by
  unfold withEdge
  split <;> rfl

theorem addEdge_run (g : Graph) (a b : Int) :
    (addEdge a b).run g =
      if !g.hasNode a then (.error (.missing a), g)
      else if !g.hasNode b then (.error (.missing b), g)
      else (.ok (), g.withEdge (.between a b)) := by
  unfold addEdge withEdge
  rw [Work.run_bind, require_run]
  cases first : g.hasNode a with
  | false => rfl
  | true =>
    simp only [↓reduceIte, Bool.not_true, Bool.false_eq_true]
    rw [Work.run_bind, require_run]
    cases second : g.hasNode b with
    | false => rfl
    | true =>
      simp only [↓reduceIte, Bool.not_true, Bool.false_eq_true]
      rw [Work.run_bind, Work.run_get]
      cases stored : Table.contains g.edges (.between a b) <;> simp only [stored] <;> rfl

theorem done_or_unchanged (g : Graph) (op : Operation) :
    (op.work.run g).1 = .ok () ∨ op.after g = g := by
  cases op with
  | addNodeWith id =>
    rw [Operation.after, Operation.work, addNodeWith_run]
    split
    · exact .inr rfl
    · exact .inl rfl
  | addEdge a b =>
    rw [Operation.after, Operation.work, addEdge_run]
    split
    · exact .inr rfl
    · split
      · exact .inr rfl
      · exact .inl rfl
  | _ => exact .inl rfl

/-! ### What operations leave alone -/

theorem touchNode_forest (g : Graph) (id : Int) : (g.touchNode id).forest = g.forest := by
  obtain ⟨_, framed⟩ := g.touchNode_frame id
  rw [framed]

theorem advance_forest (g : Graph) : g.advance.forest = g.forest := by
  unfold advance
  split <;> rfl

theorem advance_nodes (g : Graph) : g.advance.nodes = g.nodes := by
  unfold advance
  split <;> rfl

theorem advance_nextId (g : Graph) : g.advance.nextId = g.nextId := by
  unfold advance
  split <;> rfl

theorem removeEdges_forest (g : Graph) (edges : List Edge) :
    (g.removeEdges edges).2.forest = g.forest := by
  obtain ⟨_, _, _, framed⟩ := g.removeEdges_frame edges
  rw [framed]

theorem removeNode_forest (g : Graph) (id : Int) :
    (g.removeNode id).2.forest = if g.hasNode id then g.forest.remove id else g.forest := by
  unfold removeNode
  split
  · exact congrArg (Forest.remove · id) (g.removeEdges_forest (g.edgesAt id))
  · rfl

/-! ### Consistency of runs -/

variable {g : Graph}

theorem withEdge_consistent (h : Consistent g) {a b : Int} (first : g.hasNode a = true)
    (second : g.hasNode b = true) : Consistent (g.withEdge (.between a b)) := by
  have ends : ∀ id, (Edge.between a b).touches id = true → g.hasNode id = true := by
    intro id touches
    rcases Edge.touches_between_iff.mp touches with rfl | rfl
    · exact first
    · exact second
  unfold withEdge
  split
  · rename_i stored
    exact stampEdge_consistent h stored
  · rename_i fresh
    refine join_consistent h (ends _ ?_) (ends _ ?_) (eq_false_of_ne_true fresh)
    · simp [Edge.touches]
    · simp [Edge.touches]

theorem addNode_consistent (h : Consistent g) : Consistent g.addNode.2 :=
  { place_consistent h g.addNode_fresh with }

theorem after_consistent (g : Graph) (op : Operation) (h : Consistent g) :
    Consistent (op.after g) := by
  cases op with
  | addNode => exact addNode_consistent h
  | addNodeWith id =>
    rw [Operation.after, Operation.work, addNodeWith_run]
    split
    · exact h
    · rename_i fresh
      exact place_consistent h (eq_false_of_ne_true fresh)
  | addEdge a b =>
    rw [Operation.after, Operation.work, addEdge_run]
    cases first : g.hasNode a with
    | false => exact h
    | true =>
      cases second : g.hasNode b with
      | false => exact h
      | true => exact withEdge_consistent h first second
  | removeEdge a b => exact removeEdge_consistent h a b
  | removeEdgesWith id => exact removeEdges_consistent h (g.edgesAt id)
  | removeNode id => exact removeNode_consistent h id
  | advance => exact advance_consistent h
  | touchNode id => exact touchNode_consistent h id
  | touchEdge a b => exact touchEdge_consistent h a b
  | attach child parent => exact forest_consistent h (g.forest.attach child parent)
  | detach child => exact forest_consistent h (g.forest.detach child)
  | release id heir => exact forest_consistent h (g.forest.release id heir)

/-- The questions about a graph are answered by its set of edges. -/
structure Answers (g : Graph) : Prop where
  canonical : ∀ e ∈ g.edges.keys, e.low ≤ e.high ∧ e.low ∈ g.ids ∧ e.high ∈ g.ids
  hasEdge_iff : ∀ a b, g.hasEdge a b = true ↔
    ∃ e ∈ g.edges.keys, e.low = min a b ∧ e.high = max a b
  neighbors : ∀ id ∈ g.ids, ∃ around, g.neighbors id = .ok around ∧
    g.degree id = .ok around.length ∧ around.Nodup ∧
    (∀ other, other ∈ around ↔ g.hasEdge id other = true) ∧
    around.length = (g.edgesAt id).length
  missing : ∀ id, id ∉ g.ids →
    g.neighbors id = .error (.missing id) ∧ g.degree id = .error (.missing id)
  size : (g.ids.map fun id => (g.neighborList id).length).sum +
    (g.edges.keys.filter (·.isLoop)).length = 2 * g.size

theorem Consistent.answers (h : Consistent g) : Answers g where
  canonical := fun e member => by
    rw [mem_ids, mem_ids]
    exact ⟨e.low_le_high, h.endpoints e (Table.mem_keys.mp member)⟩
  hasEdge_iff := fun a b => by
    constructor
    · intro joined
      exact ⟨_, Table.mem_keys.mpr joined, Edge.between_low a b, Edge.between_high a b⟩
    · rintro ⟨e, member, low, high⟩
      have same : Edge.between a b = e := by
        rw [← Edge.between_low_high e, low, high, ← Edge.between_low, ← Edge.between_high,
          Edge.between_low_high]
      rw [hasEdge, same]
      exact Table.mem_keys.mp member
  neighbors := fun id member => by
    rw [mem_ids] at member
    have around : g.neighbors id = .ok (g.neighborList id) := by
      rw [Graph.neighbors, if_pos member]
    refine ⟨g.neighborList id, around, ?_, h.neighbors_nodup id, h.mem_neighbors id,
      h.length_neighborList id⟩
    rw [degree, around]
    rfl
  missing := fun id absent => by
    rw [mem_ids] at absent
    have none : g.neighbors id = .error (.missing id) := by
      rw [Graph.neighbors, if_neg absent]
    refine ⟨none, ?_⟩
    rw [degree, none]
    rfl
  size := h.sum_degrees

/-- Whatever is done to a graph from the empty one on, its maps agree, its questions are answered
alike, and what is refused changes nothing. -/
theorem run_coherent (ops : List Operation) :
    Consistent (empty.run ops) ∧ Answers (empty.run ops) ∧
      ∀ op : Operation, (op.work.run (empty.run ops)).1 = .ok () ∨
        (op.work.run (empty.run ops)).2 = empty.run ops := by
  have consistent := run_keeps after_consistent ops empty_consistent
  exact ⟨consistent, consistent.answers, done_or_unchanged (empty.run ops)⟩

end GrowthGrammar.Graph
