import GrowthGrammar.Proofs.Graph.Run
import GrowthGrammar.Scene.Basic

/-!
Balances: which nodes a change of a scene took away and which it gave. A node that is there after
it was there before or was given, and an id may be given again after its node was taken.
-/
namespace GrowthGrammar.Scene

/-- Attributes are there for exactly the nodes of the graph. -/
def InStep (s : Scene) : Prop := ∀ id, s.contains id = s.graph.hasNode id

/-- The counter of the graph has passed every id in use. -/
def Covered (s : Scene) : Prop := ∀ id, s.contains id = true → id < s.graph.nextId

/-- How often a node is there. -/
def live (s : Scene) (id : Int) : Nat := if s.contains id then 1 else 0

/-- What a change of a scene took away and what it gave. New ids come from the counter. -/
structure Balance (s s' : Scene) (removed added : List Int) : Prop where
  live : ∀ id, s'.live id + removed.count id = s.live id + added.count id
  fresh : ∀ id ∈ added, s.graph.nextId ≤ id ∧ id < s'.graph.nextId
  nextId_le : s.graph.nextId ≤ s'.graph.nextId
  inStep : s'.InStep

/-- The same nodes are there, and the counter stands where it stood. -/
structure SameNodes (s s' : Scene) : Prop where
  contains : ∀ id, s'.contains id = s.contains id
  hasNode : ∀ id, s'.graph.hasNode id = s.graph.hasNode id
  nextId : s'.graph.nextId = s.graph.nextId

variable {s t u : Scene} {removed removed' added added' : List Int}

theorem SameNodes.refl (s : Scene) : SameNodes s s := ⟨fun _ => rfl, fun _ => rfl, rfl⟩

theorem SameNodes.trans (h : SameNodes s t) (h' : SameNodes t u) : SameNodes s u where
  contains id := (h'.contains id).trans (h.contains id)
  hasNode id := (h'.hasNode id).trans (h.hasNode id)
  nextId := h'.nextId.trans h.nextId

theorem SameNodes.balance (h : SameNodes s t) (inStep : s.InStep) : Balance s t [] [] where
  live id := by rw [live, h.contains, live]
  fresh id member := absurd member List.not_mem_nil
  nextId_le := Int.le_of_eq h.nextId.symm
  inStep id := by rw [h.contains, h.hasNode, inStep]

theorem Balance.trans (h : Balance s t removed added) (h' : Balance t u removed' added') :
    Balance s u (removed ++ removed') (added ++ added') where
  live id := by
    have first := h.live id
    have second := h'.live id
    rw [List.count_append, List.count_append]
    omega
  fresh id member := by
    have first := h.nextId_le
    have second := h'.nextId_le
    rcases List.mem_append.mp member with member | member
    · have bounds := h.fresh id member
      omega
    · have bounds := h'.fresh id member
      omega
  nextId_le := Int.le_trans h.nextId_le h'.nextId_le
  inStep := h'.inStep

theorem live_pos_iff {id : Int} : 0 < s.live id ↔ s.contains id = true := by
  unfold live
  split <;> simp_all

theorem live_le_one (s : Scene) (id : Int) : s.live id ≤ 1 := by
  unfold live
  split <;> omega

theorem Balance.covered (h : Balance s t removed added) (covered : s.Covered) : t.Covered := by
  intro id there
  have counts := h.live id
  have now := live_pos_iff.mpr there
  have later := h.nextId_le
  by_cases before : s.contains id = true
  · have below := covered id before
    omega
  · have given : 0 < added.count id := by
      have absent : ¬ 0 < s.live id := fun some => before (live_pos_iff.mp some)
      omega
    exact (h.fresh id (List.count_pos_iff.mp given)).2

/-- A node that was there is gone exactly if it was taken away more often than it was given. -/
theorem Balance.gone_iff (h : Balance s t removed added) {id : Int} (there : s.contains id = true) :
    t.contains id = false ↔ added.count id < removed.count id := by
  have counts := h.live id
  have here := live_pos_iff.mpr there
  have once := s.live_le_one id
  have most := t.live_le_one id
  rw [← Bool.not_eq_true, ← live_pos_iff]
  omega

/-! ### The changes themselves -/

theorem insert_balance (inStep : s.InStep) (node : Node) :
    Balance s (s.insert node).2 [] [(s.insert node).1] := by
  have absent : s.contains (s.insert node).1 = false := (inStep _).trans s.graph.addNode_fresh
  have contains (id : Int) : (s.insert node).2.contains id =
      (decide ((s.insert node).1 = id) || s.contains id) :=
    Catalog.contains_put s.nodes (s.insert node).1 id node
  constructor
  · intro id
    rw [live, live, contains, List.count_nil, List.count_singleton]
    by_cases same : (s.insert node).1 = id
    · rw [same] at absent
      simp [same, absent]
    · simp [same]
  · intro id member
    obtain rfl := List.mem_singleton.mp member
    refine ⟨Graph.le_firstFree _ _, ?_⟩
    show (s.insert node).1 < (s.insert node).1 + 1
    omega
  · show s.graph.nextId ≤ Graph.firstFree s.graph.nextId s.graph.ids + 1
    have above := Graph.le_firstFree s.graph.nextId s.graph.ids
    omega
  · intro id
    rw [contains, inStep]
    exact (Graph.hasNode_place s.graph _ id).symm

theorem remove_inStep (inStep : s.InStep) (id : Int) : (s.remove id).2.InStep := by
  intro key
  show (s.nodes.erase id).contains key = (s.graph.removeNode id).2.hasNode key
  rw [Catalog.contains_erase, Graph.hasNode_removeNode, ← inStep]
  rfl

theorem remove_balance (inStep : s.InStep) {id : Int} (there : s.contains id = true) :
    Balance s (s.remove id).2 [id] [] := by
  have contains (key : Int) : (s.remove id).2.contains key =
      (!decide (id = key) && s.contains key) := Catalog.contains_erase s.nodes id key
  refine ⟨fun key => ?_, fun key member => absurd member List.not_mem_nil, ?_,
    remove_inStep inStep id⟩
  · rw [live, live, contains, List.count_nil, List.count_singleton]
    by_cases same : id = key
    · subst same
      simp [there]
    · simp [same]
  · exact Int.le_of_eq (s.graph.removeNode_nextId id).symm

theorem remove_covered (covered : s.Covered) (id : Int) : (s.remove id).2.Covered := by
  intro key there
  have before : s.contains key = true := by
    rw [contains, remove, Catalog.contains_erase, Bool.and_eq_true] at there
    exact there.2
  show key < (s.graph.removeNode id).2.nextId
  rw [s.graph.removeNode_nextId]
  exact covered key before

/-! ### Changes that leave the nodes -/

theorem mapGraph_sameNodes {f : Graph → Graph} (nodes : (f s.graph).nodes = s.graph.nodes)
    (nextId : (f s.graph).nextId = s.graph.nextId) : SameNodes s (s.mapGraph f) where
  contains _ := rfl
  hasNode id := by
    show (f s.graph).nodes.contains id = s.graph.nodes.contains id
    rw [nodes]
  nextId := nextId

theorem touchNode_sameNodes (s : Scene) (id : Int) : SameNodes s (s.mapGraph (·.touchNode id)) := by
  apply mapGraph_sameNodes <;> unfold Graph.touchNode <;> split <;> rfl

theorem attach_sameNodes (s : Scene) (child parent : Int) :
    SameNodes s (s.mapGraph (·.attach child parent)) := mapGraph_sameNodes rfl rfl

theorem release_sameNodes (s : Scene) (id : Int) (heir : Option Int) :
    SameNodes s (s.mapGraph (·.release id heir)) := mapGraph_sameNodes rfl rfl

theorem onGraph_run {α : Type} (work : GraphWork α) (s : Scene) :
    (SceneWork.onGraph work).run s =
      ((work.run s.graph).1, { s with graph := (work.run s.graph).2 }) := rfl

theorem addEdge_sameNodes (s : Scene) (a b : Int) : SameNodes s ((addEdge a b).run s).2 := by
  rw [addEdge, onGraph_run, Graph.addEdge_run]
  cases s.graph.hasNode a with
  | false => exact .refl s
  | true =>
    cases s.graph.hasNode b with
    | false => exact .refl s
    | true =>
      exact mapGraph_sameNodes (f := (·.withEdge (.between a b))) (Graph.withEdge_nodes ..)
        (Graph.withEdge_nextId ..)

theorem replace_run (s : Scene) (id : Int) (node : Node) :
    (replace id node).run s =
      if s.contains id then (.ok (), { s with nodes := s.nodes.put id node })
      else (.error (.missing id), s) := by
  unfold replace
  rw [Work.run_bind, Work.run_get]
  cases there : s.contains id <;> simp only [there] <;> rfl

theorem replace_sameNodes (s : Scene) (id : Int) (node : Node) :
    SameNodes s ((replace id node).run s).2 := by
  rw [replace_run]
  split
  · rename_i there
    refine ⟨fun key => ?_, fun _ => rfl, rfl⟩
    show (s.nodes.put id node).contains key = s.nodes.contains key
    rw [Catalog.contains_put]
    by_cases same : id = key
    · subst same
      rw [show s.nodes.contains id = true from there, Bool.or_true]
    · simp [same]
  · exact .refl s

end GrowthGrammar.Scene
