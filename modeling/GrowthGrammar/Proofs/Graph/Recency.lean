import GrowthGrammar.Proofs.Graph.Dirtiness
import Mathlib.Data.List.Induction

/-!
Recency: dirtiness is a question about the history of a graph. What is dirty is there and was made
or marked since the clock moved on last. The clock starts again over and over, and the stamps never
show it.
-/
namespace GrowthGrammar.Graph

namespace Operation

/-- Whether the operation makes a node or marks it. What is refused does neither. -/
def marksNode (id : Int) (g : Graph) : Operation → Bool
  | .addNode => g.addNode.1 = id
  | .addNodeWith made => made = id && !g.hasNode id
  | .touchNode marked => marked = id && g.hasNode id
  | _ => false

/-- Whether the operation adds an edge, adds it once more or marks it. -/
def marksEdge (e : Edge) (g : Graph) : Operation → Bool
  | .addEdge a b => e = .between a b && g.hasNode a && g.hasNode b
  | .touchEdge a b => e = .between a b && g.edges.contains e
  | _ => false

end Operation

/-- Whether one of the operations of a run did something, and the clock did not move on after it. -/
def SinceTick (does : Graph → Operation → Bool) (ops : List Operation) : Prop :=
  ∃ earlier op later, ops = earlier ++ op :: later ∧ .advance ∉ later ∧
    does (empty.run earlier) op = true

theorem sinceTick_concat {does : Graph → Operation → Bool} {ops : List Operation}
    {op : Operation} : SinceTick does (ops ++ [op]) ↔
      does (empty.run ops) op = true ∨ op ≠ .advance ∧ SinceTick does ops := by
  constructor
  · rintro ⟨earlier, done, later, split, still, did⟩
    rcases List.eq_nil_or_concat later with rfl | ⟨before, last, rfl⟩
    · obtain ⟨rfl, same⟩ := List.append_inj' split rfl
      obtain rfl : op = done := by simpa using same
      exact .inl did
    · rw [List.concat_eq_append, ← List.cons_append, ← List.append_assoc] at split
      obtain ⟨rfl, same⟩ := List.append_inj' split rfl
      obtain rfl : op = last := by simpa using same
      simp only [List.concat_eq_append, List.mem_append, List.mem_singleton, not_or] at still
      exact .inr ⟨Ne.symm still.2, earlier, done, before, rfl, still.1, did⟩
  · rintro (did | ⟨moved, earlier, done, later, rfl, still, did⟩)
    · exact ⟨ops, op, [], rfl, List.not_mem_nil, did⟩
    · refine ⟨earlier, done, later ++ [op], by simp, ?_, did⟩
      simp only [List.mem_append, List.mem_singleton, not_or]
      exact ⟨still, Ne.symm moved⟩

/-- What every operation tells of its marks, a run tells of those since the clock moved on. -/
theorem dirty_iff_sinceTick (there dirty : Graph → Bool) {marks : Graph → Operation → Bool}
    (start : there empty = false) (clean : dirty empty = false)
    (step : ∀ g op, Consistent g → dirty (op.after g) =
      (there (op.after g) && (marks g op || !decide (op = .advance) && dirty g)))
    (appears : ∀ g op, there (op.after g) = true → marks g op = true ∨ there g = true)
    (ops : List Operation) :
    dirty (empty.run ops) = true ↔ there (empty.run ops) = true ∧ SinceTick marks ops := by
  -- Over the history from its last operation backwards, since what came before a tick is forgotten.
  induction ops using List.reverseRecOn with
  | nil =>
    have none : there (empty.run []) = false := start
    have idle : dirty (empty.run []) = false := clean
    simp [none, idle]
  | append_singleton ops op ih =>
    have consistent := run_keeps after_consistent ops empty_consistent
    rw [run_concat, step _ op consistent, sinceTick_concat]
    simp only [Bool.and_eq_true, Bool.or_eq_true, Bool.not_eq_true', decide_eq_false_iff_not, ih]
    constructor
    · rintro ⟨present, marked | ⟨moved, -, since⟩⟩
      · exact ⟨present, .inl marked⟩
      · exact ⟨present, .inr ⟨moved, since⟩⟩
    · rintro ⟨present, marked | ⟨moved, since⟩⟩
      · exact ⟨present, .inl marked⟩
      · rcases appears _ op present with marked | before
        · exact ⟨present, .inl marked⟩
        · exact ⟨present, .inr ⟨moved, before, since⟩⟩

/-! ### Nodes -/

theorem addEdge_after (g : Graph) (a b : Int) :
    (Operation.addEdge a b).after g =
      if g.hasNode a && g.hasNode b then g.withEdge (.between a b) else g := by
  rw [Operation.after, Operation.work, addEdge_run]
  cases g.hasNode a <;> cases g.hasNode b <;> rfl

theorem addNodeWith_after (g : Graph) (id : Int) :
    (Operation.addNodeWith id).after g = if g.hasNode id then g else g.place id := by
  rw [Operation.after, Operation.work, addNodeWith_run]
  split <;> rfl

theorem hasNode_and_dirty (g : Graph) (id : Int) :
    (g.hasNode id && g.nodeIsDirty id) = g.nodeIsDirty id := by
  unfold nodeIsDirty
  rw [← Bool.and_assoc, Bool.and_self]

theorem hasNode_addNode (g : Graph) (key : Int) :
    g.addNode.2.hasNode key = (decide (g.addNode.1 = key) || g.hasNode key) :=
  g.hasNode_place g.addNode.1 key

theorem hasNode_addNodeWith (g : Graph) (made key : Int) :
    ((Operation.addNodeWith made).after g).hasNode key =
      (decide (made = key) || g.hasNode key) := by
  rw [addNodeWith_after]
  split
  · rename_i taken
    by_cases here : made = key
    · rw [← here, taken, Bool.or_true]
    · rw [decide_eq_false here, Bool.false_or]
  · rw [hasNode_place]

theorem nodeIsDirty_addNodeWith (g : Graph) (made key : Int) :
    ((Operation.addNodeWith made).after g).nodeIsDirty key =
      (decide (made = key) && !g.hasNode key || g.nodeIsDirty key) := by
  rw [addNodeWith_after]
  by_cases here : made = key
  · subst here
    cases there : g.hasNode made <;> simp [nodeIsDirty_place]
  · split <;> simp [here, nodeIsDirty_place]

theorem hasNode_touchNode (g : Graph) (id key : Int) :
    (g.touchNode id).hasNode key = g.hasNode key := by
  obtain ⟨_, framed⟩ := g.touchNode_frame id
  rw [framed]
  rfl

theorem nodeIsDirty_touch (g : Graph) (marked key : Int) :
    (g.touchNode marked).nodeIsDirty key =
      (decide (marked = key) && g.hasNode key || g.nodeIsDirty key) := by
  cases there : g.hasNode marked with
  | true =>
    rw [nodeIsDirty_touchNode there]
    by_cases here : marked = key
    · rw [← here, there, Bool.and_true]
    · rw [decide_eq_false here, Bool.false_and]
  | false =>
    have idle : g.touchNode marked = g := by simp [touchNode, there]
    rw [idle]
    by_cases here : marked = key
    · rw [← here, there, Bool.and_false, Bool.false_or]
    · rw [decide_eq_false here, Bool.false_and, Bool.false_or]

/-- An operation that leaves a node alone is no event in its history. -/
theorem nodeIsDirty_of_same {g g' : Graph} {id : Int} (present : g'.hasNode id = g.hasNode id)
    (stays : g'.nodeIsDirty id = g.nodeIsDirty id) :
    g'.nodeIsDirty id = (g'.hasNode id && (false || !false && g.nodeIsDirty id)) := by
  rw [present, stays, Bool.not_false, Bool.true_and, Bool.false_or, hasNode_and_dirty]

theorem nodeIsDirty_after (id : Int) (g : Graph) (op : Operation) (h : Consistent g) :
    (op.after g).nodeIsDirty id = ((op.after g).hasNode id &&
      (op.marksNode id g || !decide (op = .advance) && g.nodeIsDirty id)) := by
  cases op with
  | addNode =>
    show g.addNode.2.nodeIsDirty id = (g.addNode.2.hasNode id &&
      (decide (g.addNode.1 = id) || g.nodeIsDirty id))
    rw [nodeIsDirty_addNode, hasNode_addNode, ← Bool.or_and_distrib_left, hasNode_and_dirty]
  | addNodeWith made =>
    rw [nodeIsDirty_addNodeWith, hasNode_addNodeWith]
    show _ = (_ && (decide (made = id) && !g.hasNode id || g.nodeIsDirty id))
    rw [← hasNode_and_dirty]
    cases g.hasNode id <;> cases decide (made = id) <;> rfl
  | touchNode marked =>
    show (g.touchNode marked).nodeIsDirty id = ((g.touchNode marked).hasNode id &&
      (decide (marked = id) && g.hasNode id || g.nodeIsDirty id))
    rw [nodeIsDirty_touch, hasNode_touchNode, ← hasNode_and_dirty]
    cases g.hasNode id <;> cases decide (marked = id) <;> rfl
  | removeNode gone =>
    show (g.removeNode gone).2.nodeIsDirty id =
      ((g.removeNode gone).2.hasNode id && (false || !false && g.nodeIsDirty id))
    rw [nodeIsDirty_removeNode, hasNode_removeNode, Bool.not_false, Bool.true_and, Bool.false_or,
      Bool.and_assoc, hasNode_and_dirty]
  | advance =>
    have clean : (Operation.advance.after g).nodeIsDirty id = false := nodeIsDirty_advance h id
    rw [clean, decide_eq_true rfl]
    exact (Bool.and_false _).symm
  | addEdge a b =>
    rw [addEdge_after]
    split
    · refine nodeIsDirty_of_same ?_ (nodeIsDirty_withEdge g _ id)
      rw [hasNode, withEdge_nodes, hasNode]
    · exact nodeIsDirty_of_same rfl rfl
  | removeEdge a b =>
    refine nodeIsDirty_of_same (congrArg (·.contains id) (removeEdge_nodes g a b)) ?_
    show (g.removeEdge a b).2.nodeIsDirty id = _
    unfold removeEdge
    dsimp only
    split <;> rfl
  | removeEdgesWith other =>
    exact nodeIsDirty_of_same (congrArg (·.contains id) (removeEdges_nodes g _))
      (nodeIsDirty_removeEdges g _ id)
  | touchEdge a b =>
    obtain ⟨edgeStamps, framed⟩ := g.touchEdge_frame a b
    have framed : (Operation.touchEdge a b).after g = { g with edgeStamps } := framed
    rw [framed]
    exact nodeIsDirty_of_same rfl rfl
  | attach child parent => exact nodeIsDirty_of_same rfl rfl
  | detach child => exact nodeIsDirty_of_same rfl rfl
  | release gone heir => exact nodeIsDirty_of_same rfl rfl

theorem hasNode_appears (id : Int) (g : Graph) (op : Operation)
    (there : (op.after g).hasNode id = true) : op.marksNode id g = true ∨ g.hasNode id = true := by
  cases op with
  | addNode =>
    have made : g.addNode.2.hasNode id = true := there
    rwa [hasNode_addNode, Bool.or_eq_true] at made
  | addNodeWith made =>
    rw [hasNode_addNodeWith, Bool.or_eq_true, decide_eq_true_eq] at there
    cases before : g.hasNode id with
    | true => exact .inr rfl
    | false => exact .inl (by simpa [Operation.marksNode, before] using there)
  | touchNode marked =>
    have stays : (g.touchNode marked).hasNode id = true := there
    exact .inr (hasNode_touchNode g marked id ▸ stays)
  | removeNode gone =>
    have kept : (g.removeNode gone).2.hasNode id = true := there
    rw [hasNode_removeNode, Bool.and_eq_true] at kept
    exact .inr kept.2
  | addEdge a b =>
    rw [addEdge_after] at there
    split at there
    · rw [hasNode, withEdge_nodes] at there
      exact .inr there
    · exact .inr there
  | removeEdge a b =>
    have stays : (g.removeEdge a b).2.nodes.contains id = true := there
    rw [removeEdge_nodes] at stays
    exact .inr stays
  | removeEdgesWith other =>
    have stays : (g.removeEdges (g.edgesAt other)).2.nodes.contains id = true := there
    rw [removeEdges_nodes] at stays
    exact .inr stays
  | advance =>
    have stays : g.advance.hasNode id = true := there
    unfold advance at stays
    split at stays <;> exact .inr stays
  | touchEdge a b =>
    have stays : (g.touchEdge a b).hasNode id = true := there
    obtain ⟨_, framed⟩ := g.touchEdge_frame a b
    rw [framed] at stays
    exact .inr stays
  | attach child parent => exact .inr there
  | detach child => exact .inr there
  | release gone heir => exact .inr there

/-! ### Edges -/

theorem hasEdge_and_dirty (g : Graph) (a b : Int) :
    (g.hasEdge a b && g.edgeIsDirty a b) = g.edgeIsDirty a b := by
  unfold edgeIsDirty hasEdge
  rw [← Bool.and_assoc, Bool.and_self]

theorem hasEdge_withEdge (g : Graph) (e : Edge) (a b : Int) :
    (g.withEdge e).hasEdge a b = (decide (e = .between a b) || g.hasEdge a b) := by
  unfold withEdge
  split
  · rename_i stored
    show g.hasEdge a b = _
    by_cases here : e = .between a b
    · rw [hasEdge, ← here, stored, Bool.or_true]
    · rw [decide_eq_false here, Bool.false_or]
  · exact join_hasEdge g e a b

theorem edgeIsDirty_stampEdge {g : Graph} {e : Edge} (stored : g.edges.contains e = true)
    (a b : Int) :
    (g.stampEdge e).edgeIsDirty a b = (decide (e = .between a b) || g.edgeIsDirty a b) := by
  show (g.edges.contains (.between a b) &&
    decide (g.clock ≤ ((g.edgeStamps.insert e g.clock).get? (.between a b)).getD 0)) = _
  rw [Table.get?_insert]
  by_cases here : e = .between a b
  · simp [← here, stored]
  · simp [here, edgeIsDirty]

theorem edgeIsDirty_withEdge (g : Graph) (e : Edge) (a b : Int) :
    (g.withEdge e).edgeIsDirty a b = (decide (e = .between a b) || g.edgeIsDirty a b) := by
  unfold withEdge
  split
  · rename_i stored
    exact edgeIsDirty_stampEdge stored a b
  · have joined : (g.join e).edges.contains e = true := by
      show (g.edges.insert e ()).contains e = true
      rw [Table.contains_insert, decide_eq_true rfl, Bool.true_or]
    rw [edgeIsDirty_stampEdge joined]
    by_cases here : e = .between a b
    · rw [decide_eq_true here, Bool.true_or, Bool.true_or]
    · show (_ || ((g.edges.insert e ()).contains _ && _)) = _
      rw [Table.contains_insert, decide_eq_false here, Bool.false_or]
      rfl

theorem edgeIsDirty_removeEdge (g : Graph) (e : Edge) (a b : Int) :
    (g.removeEdge e.low e.high).2.edgeIsDirty a b =
      (!decide (e = .between a b) && g.edgeIsDirty a b) := by
  unfold removeEdge
  rw [Edge.between_low_high]
  dsimp only
  split
  · show ((g.edges.erase e).contains _ &&
      decide (g.clock ≤ ((g.edgeStamps.erase e).get? (.between a b)).getD 0)) = _
    rw [Table.contains_erase, Table.get?_erase]
    by_cases here : e = .between a b <;> simp [here, edgeIsDirty]
  · rename_i missing
    by_cases here : e = .between a b
    · simp [edgeIsDirty, ← here, missing]
    · rw [decide_eq_false here, Bool.not_false, Bool.true_and]

theorem edgeIsDirty_removeEdges (g : Graph) (edges : List Edge) (a b : Int) :
    (g.removeEdges edges).2.edgeIsDirty a b =
      (!decide (.between a b ∈ edges) && g.edgeIsDirty a b) := by
  induction edges generalizing g with
  | nil => rfl
  | cons e rest ih =>
    rw [removeEdges_cons, ih, edgeIsDirty_removeEdge, ← Bool.and_assoc]
    congr 1
    by_cases here : e = .between a b <;> by_cases later : .between a b ∈ rest <;>
      simp [here, later, eq_comm (b := e)]

/-- Edges that are taken away are no longer there to be dirty, and the others stay as they were. -/
theorem edgeIsDirty_of_removed (g : Graph) (edges : List Edge) (a b : Int) :
    (g.removeEdges edges).2.edgeIsDirty a b =
      ((g.removeEdges edges).2.hasEdge a b && g.edgeIsDirty a b) := by
  rw [edgeIsDirty_removeEdges, hasEdge, removeEdges_contains, Bool.and_assoc]
  exact congrArg _ (hasEdge_and_dirty g a b).symm

theorem edgeIsDirty_advance {g : Graph} (h : Consistent g) (a b : Int) :
    g.advance.edgeIsDirty a b = false := by
  unfold edgeIsDirty advance
  split
  · have stamp : ((g.edgeStamps.map fun _ _ => 0).get? (.between a b)).getD 0 = 0 := by
      rw [Table.get?_map]
      cases g.edgeStamps.get? (.between a b) <;> rfl
    dsimp only
    rw [stamp]
    exact Bool.and_false _
  · have behind : (g.edgeStamps.get? (.between a b)).getD 0 < g.clock + 1 := by
      cases found : g.edgeStamps.get? (.between a b) with
      | none => exact Nat.succ_pos _
      | some stamp => exact Nat.lt_succ_of_le (h.edgeStamp_le _ stamp found)
    dsimp only
    rw [Bool.and_eq_false_iff]
    exact .inr (decide_eq_false (Nat.not_le.mpr behind))

theorem edgeIsDirty_of_same {g g' : Graph} {a b : Int} (present : g'.hasEdge a b = g.hasEdge a b)
    (stays : g'.edgeIsDirty a b = g.edgeIsDirty a b) :
    g'.edgeIsDirty a b = (g'.hasEdge a b && (false || !false && g.edgeIsDirty a b)) := by
  rw [present, stays, Bool.not_false, Bool.true_and, Bool.false_or, hasEdge_and_dirty]

theorem edgeIsDirty_after (a b : Int) (g : Graph) (op : Operation) (h : Consistent g) :
    (op.after g).edgeIsDirty a b = ((op.after g).hasEdge a b &&
      (op.marksEdge (.between a b) g || !decide (op = .advance) && g.edgeIsDirty a b)) := by
  have removed := fun edges => edgeIsDirty_of_removed g edges a b
  cases op with
  | addEdge c d =>
    rw [addEdge_after]
    cases ends : g.hasNode c && g.hasNode d with
    | true =>
      rw [if_pos rfl, edgeIsDirty_withEdge, hasEdge_withEdge, ← hasEdge_and_dirty]
      simp only [Operation.marksEdge, Bool.and_assoc, ends, eq_comm (a := Edge.between a b)]
      cases g.hasEdge a b <;> cases decide (Edge.between c d = .between a b) <;> rfl
    | false =>
      rw [if_neg Bool.false_ne_true, ← hasEdge_and_dirty]
      simp only [Operation.marksEdge, Bool.and_assoc, ends]
      cases g.hasEdge a b <;> simp
  | touchEdge c d =>
    show (g.touchEdge c d).edgeIsDirty a b = ((g.touchEdge c d).hasEdge a b &&
      (decide (Edge.between a b = .between c d) && g.hasEdge a b || g.edgeIsDirty a b))
    unfold touchEdge
    dsimp only
    split
    · rename_i stored
      have stays : (g.stampEdge (.between c d)).hasEdge a b = g.hasEdge a b := rfl
      rw [edgeIsDirty_stampEdge stored, stays, ← hasEdge_and_dirty]
      by_cases here : Edge.between c d = .between a b
      · have there : g.hasEdge a b = true := by rw [hasEdge, ← here, stored]
        simp [here, there]
      · simp [here, Ne.symm here]
    · rename_i missing
      by_cases here : Edge.between a b = .between c d
      · simp [hasEdge, edgeIsDirty, here, missing]
      · simp [here, hasEdge_and_dirty]
  | advance =>
    have clean : (Operation.advance.after g).edgeIsDirty a b = false := edgeIsDirty_advance h a b
    rw [clean, decide_eq_true rfl]
    exact (Bool.and_false _).symm
  | removeEdge c d =>
    have single := removed [.between c d]
    have same : (g.removeEdges [.between c d]).2 = (g.removeEdge c d).2 := by
      rw [removeEdges_cons, removeEdge, removeEdge, Edge.between_low_high]
      rfl
    rw [same] at single
    exact single
  | removeEdgesWith id => exact removed (g.edgesAt id)
  | removeNode id =>
    show (g.removeNode id).2.edgeIsDirty a b = _
    unfold Operation.after Operation.work
    show _ = ((g.removeNode id).2.hasEdge a b && g.edgeIsDirty a b)
    unfold removeNode
    split
    · exact removed (g.edgesAt id)
    · exact (hasEdge_and_dirty g a b).symm
  | addNodeWith made =>
    rw [addNodeWith_after]
    split <;> exact edgeIsDirty_of_same rfl rfl
  | touchNode marked =>
    obtain ⟨nodeStamps, framed⟩ := g.touchNode_frame marked
    have framed : (Operation.touchNode marked).after g = { g with nodeStamps } := framed
    rw [framed]
    exact edgeIsDirty_of_same rfl rfl
  | addNode => exact edgeIsDirty_of_same rfl rfl
  | attach child parent => exact edgeIsDirty_of_same rfl rfl
  | detach child => exact edgeIsDirty_of_same rfl rfl
  | release gone heir => exact edgeIsDirty_of_same rfl rfl

theorem hasEdge_appears (a b : Int) (g : Graph) (op : Operation)
    (there : (op.after g).hasEdge a b = true) :
    op.marksEdge (.between a b) g = true ∨ g.hasEdge a b = true := by
  have removed : ∀ edges, (g.removeEdges edges).2.hasEdge a b = true → g.hasEdge a b = true := by
    intro edges kept
    rw [hasEdge, removeEdges_contains, Bool.and_eq_true] at kept
    exact kept.2
  cases op with
  | addEdge c d =>
    rw [addEdge_after] at there
    split at there
    · rename_i ends
      rw [hasEdge_withEdge, Bool.or_eq_true, decide_eq_true_eq] at there
      rcases there with here | before
      · refine .inl ?_
        simp only [Operation.marksEdge, Bool.and_assoc, ends, here, decide_true, Bool.and_self]
      · exact .inr before
    · exact .inr there
  | removeEdge c d =>
    have kept : (g.removeEdge c d).2.hasEdge a b = true := there
    refine .inr (removed [.between c d] ?_)
    rw [removeEdges_cons, removeEdge, Edge.between_low_high]
    exact kept
  | removeEdgesWith id => exact .inr (removed (g.edgesAt id) there)
  | removeNode id =>
    have kept : (g.removeNode id).2.hasEdge a b = true := there
    unfold removeNode at kept
    split at kept
    · exact .inr (removed (g.edgesAt id) kept)
    · exact .inr kept
  | addNodeWith made =>
    rw [addNodeWith_after] at there
    split at there <;> exact .inr there
  | touchNode marked =>
    have stays : (g.touchNode marked).hasEdge a b = true := there
    obtain ⟨_, framed⟩ := g.touchNode_frame marked
    rw [framed] at stays
    exact .inr stays
  | touchEdge c d =>
    have stays : (g.touchEdge c d).hasEdge a b = true := there
    obtain ⟨_, framed⟩ := g.touchEdge_frame c d
    rw [framed] at stays
    exact .inr stays
  | advance =>
    have stays : g.advance.hasEdge a b = true := there
    unfold advance at stays
    split at stays <;> exact .inr stays
  | addNode => exact .inr there
  | attach child parent => exact .inr there
  | detach child => exact .inr there
  | release gone heir => exact .inr there

/-! ### The clock -/

theorem removeEdges_clock (g : Graph) (edges : List Edge) :
    (g.removeEdges edges).2.clock = g.clock := by
  obtain ⟨_, _, _, framed⟩ := g.removeEdges_frame edges
  rw [framed]

theorem after_clock (g : Graph) {op : Operation} (other : op ≠ .advance) :
    (op.after g).clock = g.clock := by
  cases op with
  | advance => exact absurd rfl other
  | addEdge a b =>
    rw [addEdge_after]
    split
    · unfold withEdge
      split <;> rfl
    · rfl
  | addNodeWith made =>
    rw [addNodeWith_after]
    split <;> rfl
  | removeEdge a b =>
    show (g.removeEdge a b).2.clock = g.clock
    unfold removeEdge
    dsimp only
    split <;> rfl
  | removeEdgesWith id => exact g.removeEdges_clock (g.edgesAt id)
  | removeNode id =>
    show (g.removeNode id).2.clock = g.clock
    unfold removeNode
    split
    · exact g.removeEdges_clock (g.edgesAt id)
    · rfl
  | touchNode id =>
    obtain ⟨_, framed⟩ := g.touchNode_frame id
    show (g.touchNode id).clock = g.clock
    rw [framed]
  | touchEdge a b =>
    obtain ⟨_, framed⟩ := g.touchEdge_frame a b
    show (g.touchEdge a b).clock = g.clock
    rw [framed]
  | addNode => rfl
  | attach child parent => rfl
  | detach child => rfl
  | release gone heir => rfl

theorem advance_clock (g : Graph) :
    g.advance.clock = if g.clock + 1 = clockLimit then 1 else g.clock + 1 := by
  unfold advance
  split <;> rfl

/-- The clock counts ticks and starts again after so many of them that a stamp fits a byte. -/
theorem run_clock (ops : List Operation) :
    (empty.run ops).clock = 1 + ops.count .advance % 254 := by
  induction ops using List.reverseRecOn with
  | nil => rfl
  | append_singleton ops op ih =>
    rw [run_concat, List.count_append, List.count_singleton]
    by_cases moves : op = .advance
    · have ticks : (op.after (empty.run ops)).clock = (empty.run ops).advance.clock := by
        rw [moves]
        rfl
      have limit : clockLimit = 255 := rfl
      rw [ticks, advance_clock, moves, BEq.rfl, if_pos rfl]
      split <;> omega
    · have still : (op == .advance) = false := beq_false_of_ne moves
      rw [after_clock _ moves, ih, still, if_neg Bool.false_ne_true, Nat.add_zero]

/-! ### Dirtiness and history -/

theorem nodeIsDirty_iff_stamp {g : Graph} (h : Consistent g) {id : Int} {stamp : Nat}
    (found : g.stamp? id = some stamp) : g.nodeIsDirty id = true ↔ stamp = g.clock := by
  have there : g.hasNode id = true := by
    rw [← h.nodeStamps_keys]
    exact Table.contains_iff.mpr ⟨stamp, found⟩
  have bound := h.nodeStamp_le id stamp found
  rw [nodeIsDirty, there, show g.nodeStamps.get? id = some stamp from found]
  simp only [Option.getD_some, Bool.true_and, decide_eq_true_eq]
  omega

theorem edgeIsDirty_iff_stamp {g : Graph} (h : Consistent g) {a b : Int} {stamp : Nat}
    (found : g.edgeStamps.get? (.between a b) = some stamp) :
    g.edgeIsDirty a b = true ↔ stamp = g.clock := by
  have there : g.edges.contains (.between a b) = true := by
    rw [← h.edgeStamps_keys]
    exact Table.contains_iff.mpr ⟨stamp, found⟩
  have bound := h.edgeStamp_le _ stamp found
  rw [edgeIsDirty, there, found]
  simp only [Option.getD_some, Bool.true_and, decide_eq_true_eq]
  omega

/-- After any run from the empty graph on, a node is dirty exactly if it is there and was made or
marked since the clock moved on last, and so is an edge that was added, added again or marked. The
clock has started again after every 254 ticks by then; still a stamp equals it exactly if it was set
in this tick. -/
theorem run_dirty_iff_sinceTick (ops : List Operation) :
    (∀ id, (empty.run ops).nodeIsDirty id = true ↔
      (empty.run ops).hasNode id = true ∧ SinceTick (Operation.marksNode id) ops) ∧
    (∀ a b, (empty.run ops).edgeIsDirty a b = true ↔
      (empty.run ops).hasEdge a b = true ∧ SinceTick (Operation.marksEdge (.between a b)) ops) ∧
    (empty.run ops).clock = 1 + ops.count .advance % 254 ∧
    (∀ id stamp, (empty.run ops).stamp? id = some stamp →
      (stamp = (empty.run ops).clock ↔ SinceTick (Operation.marksNode id) ops)) ∧
    (∀ a b stamp, (empty.run ops).edgeStamps.get? (.between a b) = some stamp →
      (stamp = (empty.run ops).clock ↔ SinceTick (Operation.marksEdge (.between a b)) ops)) := by
  have consistent := run_keeps after_consistent ops empty_consistent
  have nodes : ∀ id, (empty.run ops).nodeIsDirty id = true ↔
      (empty.run ops).hasNode id = true ∧ SinceTick (Operation.marksNode id) ops :=
    fun id => dirty_iff_sinceTick (·.hasNode id) (·.nodeIsDirty id) rfl rfl (nodeIsDirty_after id)
      (hasNode_appears id) ops
  have edges : ∀ a b, (empty.run ops).edgeIsDirty a b = true ↔
      (empty.run ops).hasEdge a b = true ∧ SinceTick (Operation.marksEdge (.between a b)) ops :=
    fun a b => dirty_iff_sinceTick (·.hasEdge a b) (·.edgeIsDirty a b) rfl rfl
      (edgeIsDirty_after a b) (hasEdge_appears a b) ops
  refine ⟨nodes, edges, run_clock ops, fun id stamp found => ?_, fun a b stamp found => ?_⟩
  · have there : (empty.run ops).hasNode id = true := by
      rw [← consistent.nodeStamps_keys]
      exact Table.contains_iff.mpr ⟨stamp, found⟩
    rw [← nodeIsDirty_iff_stamp consistent found, nodes]
    exact and_iff_right there
  · have there : (empty.run ops).hasEdge a b = true := by
      rw [hasEdge, ← consistent.edgeStamps_keys]
      exact Table.contains_iff.mpr ⟨stamp, found⟩
    rw [← edgeIsDirty_iff_stamp consistent found, edges]
    exact and_iff_right there

end GrowthGrammar.Graph
