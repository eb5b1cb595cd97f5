import GrowthGrammar.Proofs.Graph.Run

/-!
Dirtiness: the stamps tell which nodes were touched since the clock moved on last. A new tick starts
with no dirty node, also when the clock starts again.
-/
namespace GrowthGrammar.Graph

theorem hasNode_of_nodeIsDirty {g : Graph} {id : Int} (dirty : g.nodeIsDirty id = true) :
    g.hasNode id = true := (Bool.and_eq_true_iff.mp dirty).1

theorem nodeIsDirty_place (g : Graph) (id key : Int) :
    (g.place id).nodeIsDirty key = (decide (id = key) || g.nodeIsDirty key) := by
  unfold nodeIsDirty
  rw [hasNode_place]
  show (_ && decide (g.clock ≤ ((g.nodeStamps.insert id g.clock).get? key).getD 0)) = _
  rw [Table.get?_insert]
  by_cases same : id = key <;> simp [same]

theorem nodeIsDirty_addNode (g : Graph) (key : Int) :
    g.addNode.2.nodeIsDirty key = (decide (g.addNode.1 = key) || g.nodeIsDirty key) :=
  g.nodeIsDirty_place g.addNode.1 key

theorem nodeIsDirty_withEdge (g : Graph) (e : Edge) (key : Int) :
    (g.withEdge e).nodeIsDirty key = g.nodeIsDirty key := by
  unfold withEdge
  split <;> rfl

theorem nodeIsDirty_removeEdges (g : Graph) (edges : List Edge) (key : Int) :
    (g.removeEdges edges).2.nodeIsDirty key = g.nodeIsDirty key := by
  induction edges generalizing g with
  | nil => rfl
  | cons e rest ih =>
    rw [removeEdges_cons, ih, removeEdge]
    split <;> rfl

theorem nodeIsDirty_displace (g : Graph) (id key : Int) :
    (g.displace id).nodeIsDirty key = (!decide (id = key) && g.nodeIsDirty key) := by
  show ((g.nodes.erase id).contains key &&
    decide (g.clock ≤ ((g.nodeStamps.erase id).get? key).getD 0)) = _
  rw [Table.contains_erase, Table.get?_erase]
  by_cases same : id = key
  · simp [same]
  · simp [same, nodeIsDirty, hasNode]

theorem nodeIsDirty_removeNode (g : Graph) (id key : Int) :
    (g.removeNode id).2.nodeIsDirty key = (!decide (id = key) && g.nodeIsDirty key) := by
  unfold removeNode
  split
  · rw [nodeIsDirty_displace]
    congr 1
    exact g.nodeIsDirty_removeEdges (g.edgesAt id) key
  · rename_i absent
    by_cases same : id = key
    · -- A node that is not there is not dirty in the first place.
      have clean : g.nodeIsDirty key = false :=
        eq_false_of_ne_true fun dirty => absent (same ▸ hasNode_of_nodeIsDirty dirty)
      rw [clean, Bool.and_false]
    · rw [decide_eq_false same]
      rfl

theorem nodeIsDirty_touchNode {g : Graph} {id : Int} (there : g.hasNode id = true) (key : Int) :
    (g.touchNode id).nodeIsDirty key = (decide (id = key) || g.nodeIsDirty key) := by
  unfold touchNode
  rw [if_pos there]
  show (g.hasNode key && decide (g.clock ≤ ((g.nodeStamps.insert id g.clock).get? key).getD 0)) = _
  rw [Table.get?_insert]
  by_cases same : id = key
  · simp [← same, there]
  · simp [same, nodeIsDirty]

/-- A new tick starts clean: either the clock passes all stamps, or it starts again and all stamps
are taken back behind it. -/
theorem nodeIsDirty_advance {g : Graph} (h : Consistent g) (id : Int) :
    g.advance.nodeIsDirty id = false := by
  unfold nodeIsDirty advance
  split
  · have stamp : ((g.nodeStamps.map fun _ _ => 0).get? id).getD 0 = 0 := by
      rw [Table.get?_map]
      cases g.nodeStamps.get? id <;> rfl
    rw [stamp]
    exact Bool.and_false _
  · have behind : (g.nodeStamps.get? id).getD 0 < g.clock + 1 := by
      cases found : g.nodeStamps.get? id with
      | none => exact Nat.succ_pos _
      | some stamp => exact Nat.lt_succ_of_le (h.nodeStamp_le id stamp found)
    rw [Bool.and_eq_false_iff]
    exact .inr (decide_eq_false (Nat.not_le.mpr behind))

end GrowthGrammar.Graph
