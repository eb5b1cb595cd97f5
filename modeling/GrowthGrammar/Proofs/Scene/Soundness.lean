import GrowthGrammar.Proofs.Graph.Kinship
import GrowthGrammar.Proofs.Scene.Balance

/-!
Soundness: a scene has attributes for exactly the nodes of its graph, and the maps of the graph
agree. A planted scene has a forest, too, that names its nodes only. The operations on scenes keep
both.
-/
namespace GrowthGrammar

namespace Scene

/-- Attributes are there for exactly the nodes of the graph, whose maps agree. -/
structure Sound (s : Scene) : Prop where
  inStep : s.InStep
  consistent : s.graph.Consistent

/-- The forest of a sound scene tells the same from both sides, names nodes of the scene only, and
makes no node the parent of itself. -/
structure Planted (s : Scene) : Prop extends Sound s where
  coherent : s.graph.forest.Coherent
  parent_ne : ∀ id, s.graph.forest.parent? id ≠ some id
  live : ∀ child parent, s.graph.forest.parent? child = some parent →
    s.contains child = true ∧ s.contains parent = true

variable {s t : Scene}

theorem empty_sound : Sound empty := ⟨fun _ => rfl, Graph.empty_consistent⟩

theorem empty_planted : Planted empty :=
  { empty_sound with
    coherent := Forest.empty_coherent
    parent_ne := fun _ own => by cases own
    live := fun _ _ step => by cases step }

/-- Whoever keeps the forest and the nodes keeps the scene planted. -/
theorem Planted.of_forest_eq (h : Planted s) (sound : Sound t)
    (forest : t.graph.forest = s.graph.forest)
    (stays : ∀ id, s.contains id = true → t.contains id = true) : Planted t :=
  { sound with
    coherent := by
      rw [forest]
      exact h.coherent
    parent_ne := by
      rw [forest]
      exact h.parent_ne
    live := by
      rw [forest]
      intro child parent step
      obtain ⟨first, second⟩ := h.live child parent step
      exact ⟨stays child first, stays parent second⟩ }

/-! ### Changes of the nodes -/

theorem insert_sound (h : Sound s) (node : Node) : Sound (s.insert node).2 :=
  ⟨(insert_balance h.inStep node).inStep, Graph.addNode_consistent h.consistent⟩

theorem contains_insert (s : Scene) (node : Node) (id : Int) :
    (s.insert node).2.contains id = (decide ((s.insert node).1 = id) || s.contains id) :=
  Catalog.contains_put s.nodes (s.insert node).1 id node

theorem insert_planted (h : Planted s) (node : Node) : Planted (s.insert node).2 := by
  refine h.of_forest_eq (insert_sound h.toSound node) rfl fun id there => ?_
  rw [contains_insert, there, Bool.or_true]

theorem place_sound (h : Sound s) {id : Int} (free : s.graph.hasNode id = false) (node : Node) :
    Sound ⟨s.graph.place id, s.nodes.put id node⟩ := by
  refine ⟨fun key => ?_, Graph.place_consistent h.consistent free⟩
  show (s.nodes.put id node).contains key = (s.graph.place id).hasNode key
  rw [Catalog.contains_put, Graph.hasNode_place, ← h.inStep]
  rfl

theorem place_planted (h : Planted s) {id : Int} (free : s.graph.hasNode id = false)
    (node : Node) : Planted ⟨s.graph.place id, s.nodes.put id node⟩ := by
  refine h.of_forest_eq (place_sound h.toSound free node) rfl fun key there => ?_
  show (s.nodes.put id node).contains key = true
  rw [Catalog.contains_put, show s.nodes.contains key = true from there, Bool.or_true]

theorem contains_remove (s : Scene) (id key : Int) :
    (s.remove id).2.contains key = (!decide (id = key) && s.contains key) :=
  Catalog.contains_erase s.nodes id key

theorem remove_sound (h : Sound s) (id : Int) : Sound (s.remove id).2 :=
  ⟨remove_inStep h.inStep id, Graph.removeNode_consistent h.consistent id⟩

/-- The node is gone from the forest, and its children have gone to its parent. Of a node that is
not there the forest does not know. -/
theorem Planted.parent?_remove (h : Planted s) (id key : Int) :
    (s.remove id).2.graph.forest.parent? key =
      if id = key then none
      else if s.graph.forest.parent? key = some id then
        Forest.heirOf (s.graph.forest.parent? id) key
      else s.graph.forest.parent? key := by
  show (s.graph.removeNode id).2.forest.parent? key = _
  rw [Graph.removeNode_forest, ← h.inStep]
  split
  · exact h.coherent.parent?_remove id key
  · rename_i absent
    have unknown : ∀ other, s.graph.forest.parent? id ≠ some other := fun other step =>
      absent (h.live id other step).1
    split
    · rename_i same
      rw [← same]
      exact Option.eq_none_iff_forall_ne_some.mpr unknown
    · rw [if_neg fun step => absent (h.live key id step).2]

theorem remove_planted (h : Planted s) (id : Int) : Planted (s.remove id).2 :=
  { remove_sound h.toSound id with
    coherent := by
      show (s.graph.removeNode id).2.forest.Coherent
      rw [Graph.removeNode_forest]
      split
      · exact Forest.remove_coherent h.coherent (h.parent_ne id)
      · exact h.coherent
    parent_ne := by
      intro key own
      rw [h.parent?_remove] at own
      split at own
      · cases own
      · split at own
        · exact (Forest.heirOf_eq_some.mp own).2 rfl
        · exact h.parent_ne key own
    live := by
      intro child parent step
      rw [h.parent?_remove] at step
      rw [contains_remove, contains_remove]
      split at step
      · cases step
      · rename_i other
        rw [decide_eq_false other]
        split at step
        · rename_i below
          obtain ⟨above, -⟩ := Forest.heirOf_eq_some.mp step
          have different : id ≠ parent := fun same => h.parent_ne id (same ▸ above)
          rw [decide_eq_false different]
          exact ⟨(h.live child id below).1, (h.live id parent above).2⟩
        · rename_i apart
          have different : id ≠ parent := fun same => apart (same ▸ step)
          rw [decide_eq_false different]
          exact h.live child parent step }

/-! ### Changes that leave the nodes -/

theorem put_sound (h : Sound s) {id : Int} (there : s.contains id = true) (node : Node) :
    Sound { s with nodes := s.nodes.put id node } := by
  refine ⟨fun key => ?_, h.consistent⟩
  show (s.nodes.put id node).contains key = s.graph.hasNode key
  rw [Catalog.contains_put, ← h.inStep]
  by_cases same : id = key
  · rw [← same, there, decide_eq_true rfl, Bool.true_or]
  · rw [decide_eq_false same, Bool.false_or]
    rfl

theorem put_planted (h : Planted s) {id : Int} (there : s.contains id = true) (node : Node) :
    Planted { s with nodes := s.nodes.put id node } := by
  refine h.of_forest_eq (put_sound h.toSound there node) rfl fun key known => ?_
  show (s.nodes.put id node).contains key = true
  rw [Catalog.contains_put, show s.nodes.contains key = true from known, Bool.or_true]

/-- A change of the graph that leaves its nodes keeps the scene sound if it keeps the maps. -/
theorem mapGraph_sound (h : Sound s) {f : Graph → Graph}
    (consistent : (f s.graph).Consistent) (nodes : (f s.graph).nodes = s.graph.nodes) :
    Sound (s.mapGraph f) := by
  refine ⟨fun id => ?_, consistent⟩
  show s.contains id = (f s.graph).nodes.contains id
  rw [nodes]
  exact h.inStep id

theorem mapGraph_planted (h : Planted s) {f : Graph → Graph}
    (consistent : (f s.graph).Consistent) (nodes : (f s.graph).nodes = s.graph.nodes)
    (forest : (f s.graph).forest = s.graph.forest) : Planted (s.mapGraph f) :=
  h.of_forest_eq (mapGraph_sound h.toSound consistent nodes) forest fun _ there => there

theorem withEdge_sound (h : Sound s) {a b : Int} (first : s.contains a = true)
    (second : s.contains b = true) : Sound (s.mapGraph (·.withEdge (.between a b))) := by
  rw [h.inStep] at first second
  exact mapGraph_sound h (Graph.withEdge_consistent h.consistent first second)
    (Graph.withEdge_nodes ..)

theorem withEdge_planted (h : Planted s) {a b : Int} (first : s.contains a = true)
    (second : s.contains b = true) : Planted (s.mapGraph (·.withEdge (.between a b))) :=
  h.of_forest_eq (withEdge_sound h.toSound first second) (Graph.withEdge_forest ..)
    fun _ there => there

theorem touchNode_nodes (g : Graph) (id : Int) : (g.touchNode id).nodes = g.nodes := by
  obtain ⟨_, framed⟩ := g.touchNode_frame id
  rw [framed]

theorem touchNode_sound (h : Sound s) (id : Int) : Sound (s.mapGraph (·.touchNode id)) :=
  mapGraph_sound h (Graph.touchNode_consistent h.consistent id) (touchNode_nodes s.graph id)

theorem touchNode_planted (h : Planted s) (id : Int) : Planted (s.mapGraph (·.touchNode id)) :=
  h.of_forest_eq (touchNode_sound h.toSound id) (s.graph.touchNode_forest id)
    fun _ there => there

theorem advance_planted (h : Planted s) : Planted (s.mapGraph Graph.advance) :=
  mapGraph_planted h (Graph.advance_consistent h.consistent) s.graph.advance_nodes
    s.graph.advance_forest

/-! ### Changes of the forest -/

/-- Attributes and maps have nothing to do with the forest. -/
theorem forest_sound (h : Sound s) (forest : Forest) :
    Sound { s with graph := { s.graph with forest } } :=
  ⟨h.inStep, Graph.forest_consistent h.consistent forest⟩

theorem attach_planted (h : Planted s) {child parent : Int} (different : child ≠ parent)
    (first : s.contains child = true) (second : s.contains parent = true) :
    Planted (s.mapGraph (·.attach child parent)) :=
  { forest_sound h.toSound (s.graph.forest.attach child parent) with
    coherent := Forest.attach_coherent h.coherent child parent
    parent_ne := by
      intro key own
      change (s.graph.forest.attach child parent).parent? key = some key at own
      rw [Forest.parent?_attach] at own
      split at own
      · rename_i same
        exact different (same.trans (Option.some.inj own).symm)
      · exact h.parent_ne key own
    live := by
      intro key above step
      change (s.graph.forest.attach child parent).parent? key = some above at step
      rw [Forest.parent?_attach] at step
      split at step
      · rename_i same
        obtain rfl := Option.some.inj step
        exact ⟨same ▸ first, second⟩
      · exact h.live key above step }

theorem release_planted (h : Planted s) {id heir : Int} (different : heir ≠ id)
    (there : s.contains heir = true) : Planted (s.mapGraph (·.release id (some heir))) :=
  { forest_sound h.toSound (s.graph.forest.release id (some heir)) with
    coherent := by
      refine Forest.release_coherent h.coherent (some heir) fun same => ?_
      exact different (Option.some.inj same)
    parent_ne := by
      intro key own
      change (s.graph.forest.release id (some heir)).parent? key = some key at own
      rw [h.coherent.parent?_release] at own
      split at own
      · exact (Forest.heirOf_eq_some.mp own).2 rfl
      · exact h.parent_ne key own
    live := by
      intro key above step
      change (s.graph.forest.release id (some heir)).parent? key = some above at step
      rw [h.coherent.parent?_release] at step
      split at step
      · rename_i below
        obtain ⟨same, -⟩ := Forest.heirOf_eq_some.mp step
        obtain rfl : heir = above := Option.some.inj same
        exact ⟨(h.live key id below).1, there⟩
      · exact h.live key above step }

end Scene

end GrowthGrammar
