import GrowthGrammar.Proofs.Graph.Recency

/-!
Given ids: the ids that a graph gives to new nodes in the course of its history. Each is above all
that were given before it, whatever nodes the caller has put in the way, and none comes back when its
node is gone.
-/
namespace GrowthGrammar.Graph

/-! ### The search for a free id -/

theorem firstFree_le (start : Int) (ids : List Int) : firstFree start ids ≤ start + ids.length := by
  induction ids generalizing start with
  | nil => exact Int.le_of_eq (Int.add_zero start).symm
  | cons id rest ih =>
    rw [firstFree_cons, List.length_cons]
    split
    · have bound := ih (start + 1)
      omega
    · have bound := ih start
      omega

theorem mem_of_lt_firstFree {start n : Int} {ids : List Int} (first : start ≤ n)
    (before : n < firstFree start ids) : n ∈ ids := by
  induction ids generalizing start with
  | nil =>
    have before : n < start := before
    omega
  | cons id rest ih =>
    rw [firstFree_cons] at before
    split at before
    · rename_i taken
      rcases Int.lt_or_eq_of_le first with later | here
      · exact List.mem_cons_of_mem id (ih later before)
      · rw [← here, taken]
        exact List.mem_cons_self
    · exact List.mem_cons_of_mem id (ih first before)

/-- Asks for one number after the other whether a node has it, but not for more than so many. -/
def seek (g : Graph) : Nat → Int → Option Int
  | 0, _ => none
  | tries + 1, next => if g.hasNode next then g.seek tries (next + 1) else some next

theorem seek_eq_some {g : Graph} {tries : Nat} {next last : Int} (first : next ≤ last)
    (taken : ∀ n, next ≤ n → n < last → g.hasNode n = true) (free : g.hasNode last = false)
    (enough : last < next + tries) : g.seek tries next = some last := by
  induction tries generalizing next with
  | zero => omega
  | succ tries ih =>
    rw [seek]
    rcases Int.lt_or_eq_of_le first with before | rfl
    · rw [if_pos (taken next (Int.le_refl next) before)]
      refine ih (by omega) (fun n low high => taken n (by omega) high) ?_
      omega
    · rw [free, if_neg Bool.false_ne_true]

/-- The search comes to an end after one number for each node, and one more. -/
theorem seek_addNode (g : Graph) : g.seek (g.order + 1) g.nextId = some g.addNode.1 := by
  have counted : g.ids.length = g.order := List.length_map _
  have bound : g.addNode.1 ≤ g.nextId + g.ids.length := firstFree_le g.nextId g.ids
  refine seek_eq_some (le_firstFree g.nextId g.ids) (fun n low high => ?_) g.addNode_fresh ?_
  · exact mem_ids.mp (mem_of_lt_firstFree low high)
  · omega

/-! ### What one operation gives -/

namespace Operation

/-- The ids that the operation gives to new nodes. One that the caller chose was not given. -/
def given (g : Graph) : Operation → List Int
  | .addNode => [g.addNode.1]
  | _ => []

end Operation

theorem after_nextId (g : Graph) (op : Operation) :
    g.nextId ≤ (op.after g).nextId ∧
      ∀ id ∈ op.given g, g.nextId ≤ id ∧ id < (op.after g).nextId := by
  have onward : g.nextId ≤ g.addNode.1 := le_firstFree g.nextId g.ids
  have still {g' : Graph} (same : g'.nextId = g.nextId) : g.nextId ≤ g'.nextId ∧
      ∀ id ∈ ([] : List Int), g.nextId ≤ id ∧ id < g'.nextId :=
    ⟨Int.le_of_eq same.symm, fun _ member => absurd member List.not_mem_nil⟩
  cases op with
  | addNode =>
    have counted : ((Operation.addNode).after g).nextId = g.addNode.1 + 1 := rfl
    rw [counted]
    refine ⟨by omega, fun id member => ?_⟩
    obtain rfl : id = g.addNode.1 := List.mem_singleton.mp member
    omega
  | addNodeWith id =>
    rw [addNodeWith_after]
    split
    · exact still rfl
    · exact still rfl
  | addEdge a b =>
    rw [addEdge_after]
    split
    · exact still (g.withEdge_nextId (.between a b))
    · exact still rfl
  | removeEdge a b =>
    refine still ?_
    obtain ⟨_, _, _, framed⟩ := g.removeEdge_frame a b
    show (g.removeEdge a b).2.nextId = g.nextId
    rw [framed]
  | removeEdgesWith id => exact still (g.removeEdges_nextId (g.edgesAt id))
  | removeNode id => exact still (g.removeNode_nextId id)
  | advance => exact still g.advance_nextId
  | touchNode id =>
    refine still ?_
    obtain ⟨_, framed⟩ := g.touchNode_frame id
    show (g.touchNode id).nextId = g.nextId
    rw [framed]
  | touchEdge a b =>
    refine still ?_
    obtain ⟨_, framed⟩ := g.touchEdge_frame a b
    show (g.touchEdge a b).nextId = g.nextId
    rw [framed]
  | attach child parent => exact still rfl
  | detach child => exact still rfl
  | release id heir => exact still rfl

theorem after_hasNode {g : Graph} {op : Operation} (unchosen : ∀ id, op ≠ .addNodeWith id) {id : Int}
    (there : (op.after g).hasNode id = true) : id ∈ op.given g ∨ g.hasNode id = true := by
  rcases hasNode_appears id g op there with marked | before
  · cases op with
    | addNode => exact .inl (List.mem_singleton.mpr (of_decide_eq_true marked).symm)
    | addNodeWith made => exact absurd rfl (unchosen made)
    | touchNode touched => exact .inr (Bool.and_eq_true_iff.mp marked).2
    | _ => cases marked
  · exact .inr before

/-! ### What a run gives -/

/-- The ids that a run gives to new nodes, in the order in which it gives them. -/
def given (g : Graph) : List Operation → List Int
  | [] => []
  | op :: rest => op.given g ++ (op.after g).given rest

/-- The counter never goes back, and passes every id that is given. -/
theorem given_bounds (g : Graph) (ops : List Operation) :
    g.nextId ≤ (g.run ops).nextId ∧
      ∀ id ∈ g.given ops, g.nextId ≤ id ∧ id < (g.run ops).nextId := by
  induction ops generalizing g with
  | nil => exact ⟨Int.le_refl g.nextId, fun _ member => absurd member List.not_mem_nil⟩
  | cons op rest ih =>
    obtain ⟨step, here⟩ := g.after_nextId op
    obtain ⟨onward, later⟩ := ih (op.after g)
    refine ⟨Int.le_trans step onward, fun id member => ?_⟩
    rcases List.mem_append.mp member with new | new
    · obtain ⟨low, high⟩ := here id new
      exact ⟨low, Int.lt_of_lt_of_le high onward⟩
    · obtain ⟨low, high⟩ := later id new
      exact ⟨Int.le_trans step low, high⟩

theorem given_ascending (g : Graph) (ops : List Operation) : (g.given ops).Pairwise (· < ·) := by
  induction ops generalizing g with
  | nil => exact .nil
  | cons op rest ih =>
    have here : (op.given g).Pairwise (· < ·) := by
      cases op with
      | addNode => exact List.pairwise_singleton _ _
      | _ => exact .nil
    refine List.pairwise_append.mpr ⟨here, ih (op.after g), fun id first other second => ?_⟩
    have below := ((g.after_nextId op).2 id first).2
    have above := ((op.after g).given_bounds rest).2 other second
    omega

theorem run_hasNode {g : Graph} {ops : List Operation} (unchosen : ∀ id, .addNodeWith id ∉ ops)
    {id : Int} (there : (g.run ops).hasNode id = true) : id ∈ g.given ops ∨ g.hasNode id = true := by
  induction ops generalizing g with
  | nil => exact .inr there
  | cons op rest ih =>
    have unchosenHere : ∀ id, op ≠ .addNodeWith id := by
      rintro id rfl
      exact unchosen id List.mem_cons_self
    have unchosenLater : ∀ id, .addNodeWith id ∉ rest :=
      fun id member => unchosen id (List.mem_cons_of_mem op member)
    rcases ih unchosenLater there with later | stayed
    · exact .inl (List.mem_append_right _ later)
    · rcases after_hasNode unchosenHere stayed with new | before
      · exact .inl (List.mem_append_left _ new)
      · exact .inr before

/-! ### What adding a node does -/

/-- An isolated node is there that was not, stamped with the tick, and the counter is past its id.
Nothing else is different. -/
structure AddsIsolated (g : Graph) (id : Int) (g' : Graph) : Prop where
  fresh : g.hasNode id = false
  hasNode_iff : ∀ key, g'.hasNode key = true ↔ key = id ∨ g.hasNode key = true
  adjacency : ∀ key, g'.adjacency.get? key = if id = key then some [] else g.adjacency.get? key
  nodeStamp : ∀ key, g'.nodeStamps.get? key =
    if id = key then some g.clock else g.nodeStamps.get? key
  isolated : ∀ e, g'.edges.contains e = true → e.touches id = false
  edges : g'.edges = g.edges
  edgeStamps : g'.edgeStamps = g.edgeStamps
  forest : g'.forest = g.forest
  clock : g'.clock = g.clock
  nextId : g'.nextId = id + 1

theorem addNode_addsIsolated {g : Graph} (h : Consistent g) :
    AddsIsolated g g.addNode.1 g.addNode.2 where
  fresh := g.addNode_fresh
  hasNode_iff := fun key => by
    rw [hasNode_addNode, Bool.or_eq_true, decide_eq_true_eq, eq_comm]
  adjacency := fun key => Table.get?_insert g.adjacency g.addNode.1 key []
  nodeStamp := fun key => Table.get?_insert g.nodeStamps g.addNode.1 key g.clock
  isolated := fun e stored => by
    by_contra touches
    have there := h.hasNode_of_touches stored (eq_true_of_ne_false touches)
    rw [g.addNode_fresh] at there
    exact Bool.false_ne_true there
  edges := rfl
  edgeStamps := rfl
  forest := rfl
  clock := rfl
  nextId := rfl

/-- However a graph came about from the empty one, the search for a free id ends. What it finds is no
node's, so that it is not refused, and is above all ids that were given before. The new node is all
that changes but for the counter. And if the caller never chose an id, then no id was given twice, and
every node has one that was given, below the counter. -/
theorem run_gives_fresh (ops : List Operation) :
    let g := empty.run ops
    (g.seek (g.order + 1) g.nextId = some g.addNode.1 ∧
      (addNodeWith g.addNode.1).run g = (.ok (), g.place g.addNode.1) ∧
      (∀ id ∈ empty.given ops, id < g.addNode.1) ∧
      AddsIsolated g g.addNode.1 g.addNode.2) ∧
    ((∀ id, .addNodeWith id ∉ ops) → (empty.given ops).Nodup ∧
      ∀ id, g.hasNode id = true → id ∈ empty.given ops ∧ id < g.nextId) := by
  intro g
  have consistent : Consistent g := run_keeps after_consistent ops empty_consistent
  obtain ⟨-, bounds⟩ := empty.given_bounds ops
  have onward : g.nextId ≤ g.addNode.1 := le_firstFree g.nextId g.ids
  refine ⟨⟨g.seek_addNode, ?_, fun id member => ?_, addNode_addsIsolated consistent⟩,
    fun unchosen => ⟨?_, fun id there => ?_⟩⟩
  · rw [addNodeWith_run, g.addNode_fresh, if_neg Bool.false_ne_true]
  · exact Int.lt_of_lt_of_le (bounds id member).2 onward
  · exact (empty.given_ascending ops).imp fun below => Int.ne_of_lt below
  · rcases run_hasNode unchosen there with new | before
    · exact ⟨new, (bounds id new).2⟩
    · cases before

def replanting : List Operation := [.addNode, .addNode, .removeNode 1, .addNode]

theorem replanting_gives_fresh :
    (∀ id, .addNodeWith id ∉ replanting) ∧ empty.given replanting = [0, 1, 2] ∧
      (empty.given replanting).Nodup ∧ ∀ id, (empty.run replanting).hasNode id = true →
        id ∈ empty.given replanting ∧ id < (empty.run replanting).nextId := by
  have unchosen : ∀ id, .addNodeWith id ∉ replanting := fun id => by simp [replanting]
  have given : empty.given replanting = [0, 1, 2] := by decide
  exact ⟨unchosen, given, (run_gives_fresh replanting).2 unchosen⟩

/-- The search goes past the ids that the caller chose, for good. -/
example : empty.given [.addNodeWith 1, .addNode, .addNode, .removeNode 1, .addNode] = [0, 2, 3] := by
  decide

end GrowthGrammar.Graph
