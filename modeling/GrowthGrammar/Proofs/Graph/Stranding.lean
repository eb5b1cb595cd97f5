import GrowthGrammar.Proofs.Graph.Kinship
import GrowthGrammar.Proofs.Graph.Run

/-!
Stranding: when the children of a node are sent to that very node, they have it for a parent and it
counts them no more. Such a child is stranded until it is attached or detached or removed. Of every
other child both sides of a forest tell the same, after every run.
-/
namespace GrowthGrammar

namespace Forest

/-- A child has a parent that does not count it. -/
def Forgotten (f : Forest) (child parent : Int) : Prop :=
  f.parent? child = some parent ∧ child ∉ f.childrenOf parent

variable {f : Forest}

theorem Acknowledged.agree_iff (h : Acknowledged f) (child parent : Int) :
    (f.parent? child = some parent ↔ child ∈ f.childrenOf parent) ↔
      ¬ f.Forgotten child parent := by
  constructor
  · rintro agree ⟨known, absent⟩
    exact absent (agree.mp known)
  · intro counted
    refine ⟨fun known => ?_, h child parent⟩
    by_contra absent
    exact counted ⟨known, absent⟩

/-! ### What operations forget -/

theorem forgotten_attach (h : Acknowledged f) (moved heir child parent : Int) :
    (f.attach moved heir).Forgotten child parent ↔
      moved ≠ child ∧ f.Forgotten child parent := by
  unfold Forgotten
  rw [parent?_attach, mem_childrenOf_attach h]
  by_cases here : moved = child
  · simp [here]
  · simp [here]

theorem forgotten_detach (h : Acknowledged f) (moved child parent : Int) :
    (f.detach moved).Forgotten child parent ↔ moved ≠ child ∧ f.Forgotten child parent := by
  unfold Forgotten
  rw [parent?_detach, mem_childrenOf_detach h]
  by_cases here : moved = child
  · simp [here]
  · simp [here]

/-- A release forgets the children that it sends to the node which it takes them from. -/
theorem forgotten_release (h : Acknowledged f) (id : Int) (heir : Option Int)
    (child parent : Int) : (f.release id heir).Forgotten child parent ↔
      f.Forgotten child parent ∨
        f.successor id heir = some parent ∧ id = parent ∧ child ∈ f.childrenOf id ∧
          child ≠ id := by
  unfold Forgotten
  rw [parent?_release, mem_childrenOf_release h]
  by_cases moved : child ∈ f.childrenOf id
  · have known := h child id moved
    have stays : ¬ (f.parent? child = some parent ∧ child ∉ f.childrenOf parent) := by
      rintro ⟨found, absent⟩
      obtain rfl : id = parent := Option.some.inj (known.symm.trans found)
      exact absent moved
    rw [if_pos moved, if_pos moved, heirOf_eq_some, or_iff_right stays]
    constructor
    · rintro ⟨found, elsewhere⟩
      have here : id = parent := by
        by_contra apart
        exact elsewhere ⟨apart, found⟩
      exact ⟨found.1, here, moved, here ▸ found.2.symm⟩
    · rintro ⟨found, rfl, -, apart⟩
      exact ⟨⟨found, apart.symm⟩, fun both => both.1 rfl⟩
  · rw [if_neg moved, if_neg moved]
    constructor
    · rintro ⟨known, absent⟩
      refine .inl ⟨known, fun member => absent ⟨?_, member⟩⟩
      rintro rfl
      exact moved member
    · rintro (⟨known, absent⟩ | ⟨-, -, member, -⟩)
      · exact ⟨known, fun both => absent both.2⟩
      · exact absurd member moved

theorem forgotten_remove (h : Acknowledged f) (id child parent : Int) :
    (f.remove id).Forgotten child parent ↔ id ≠ child ∧ (f.Forgotten child parent ∨
      f.parent? id = some parent ∧ id = parent ∧ child ∈ f.childrenOf id ∧ child ≠ id) := by
  rw [remove, forgotten_detach (release_acknowledged h id none), forgotten_release h]
  rfl

end Forest

namespace Graph

/-! ### Operations -/

namespace Operation

/-- The forest that the operation leaves. -/
def regrown (g : Graph) : Operation → Forest
  | .removeNode id => if g.hasNode id then g.forest.remove id else g.forest
  | .attach child parent => g.forest.attach child parent
  | .detach child => g.forest.detach child
  | .release id heir => g.forest.release id heir
  | _ => g.forest

/-- Whose children the operation takes away, and who gets them. -/
def moves? (g : Graph) : Operation → Option (Int × Option Int)
  | .removeNode id => if g.hasNode id then some (id, g.forest.parent? id) else none
  | .release id heir => some (id, g.forest.successor id heir)
  | _ => none

/-- The operation sends a child to the parent that it takes it from. -/
def Strands (g : Graph) (op : Operation) (child parent : Int) : Prop :=
  op.moves? g = some (parent, some parent) ∧ child ∈ g.forest.childrenOf parent ∧ child ≠ parent

/-- Whether the operation is told to find a place for the child, under a parent or as a root. -/
def settles (g : Graph) (child : Int) : Operation → Bool
  | .removeNode id => id = child && g.hasNode id
  | .attach moved _ => moved = child
  | .detach moved => moved = child
  | _ => false

end Operation

theorem after_forest (g : Graph) (op : Operation) : (op.after g).forest = op.regrown g := by
  cases op with
  | addNodeWith id =>
    rw [Operation.after, Operation.work, addNodeWith_run]
    split <;> rfl
  | addEdge a b =>
    rw [Operation.after, Operation.work, addEdge_run]
    split
    · rfl
    · split
      · rfl
      · exact g.withEdge_forest (.between a b)
  | removeEdge a b =>
    show (g.removeEdge a b).2.forest = g.forest
    obtain ⟨_, _, _, framed⟩ := g.removeEdge_frame a b
    rw [framed]
  | removeEdgesWith id => exact g.removeEdges_forest (g.edgesAt id)
  | removeNode id => exact g.removeNode_forest id
  | advance => exact g.advance_forest
  | touchNode id => exact g.touchNode_forest id
  | touchEdge a b =>
    show (g.touchEdge a b).forest = g.forest
    obtain ⟨_, framed⟩ := g.touchEdge_frame a b
    rw [framed]
  | _ => rfl

open Forest

theorem regrown_acknowledged (g : Graph) (op : Operation) (h : Acknowledged g.forest) :
    Acknowledged (op.regrown g) := by
  cases op with
  | removeNode id =>
    show Acknowledged (if g.hasNode id then g.forest.remove id else g.forest)
    split
    · exact remove_acknowledged h id
    · exact h
  | attach child parent => exact attach_acknowledged h child parent
  | detach child => exact detach_acknowledged h child
  | release id heir => exact release_acknowledged h id heir
  | _ => exact h

/-- A child is forgotten by the operation that strands it, and then until one finds it a place. -/
theorem forgotten_regrown (g : Graph) (op : Operation) (h : Acknowledged g.forest)
    (child parent : Int) : (op.regrown g).Forgotten child parent ↔
      op.Strands g child parent ∨
        g.forest.Forgotten child parent ∧ op.settles g child = false := by
  cases op with
  | removeNode id =>
    show (if g.hasNode id then g.forest.remove id else g.forest).Forgotten child parent ↔
      ((if g.hasNode id then some (id, g.forest.parent? id) else none) = some (parent, some parent) ∧
        child ∈ g.forest.childrenOf parent ∧ child ≠ parent) ∨
      g.forest.Forgotten child parent ∧ (decide (id = child) && g.hasNode id) = false
    cases g.hasNode id with
    | false => simp
    | true =>
      simp only [↓reduceIte, forgotten_remove h, Option.some.injEq, Prod.mk.injEq, Bool.and_true,
        decide_eq_false_iff_not]
      constructor
      · rintro ⟨apart, forgotten | ⟨own, rfl, member, other⟩⟩
        · exact .inr ⟨forgotten, apart⟩
        · exact .inl ⟨⟨rfl, own⟩, member, other⟩
      · rintro (⟨⟨rfl, own⟩, member, other⟩ | ⟨forgotten, apart⟩)
        · exact ⟨other.symm, .inr ⟨own, rfl, member, other⟩⟩
        · exact ⟨apart, .inl forgotten⟩
  | attach moved heir =>
    simp [Operation.regrown, Operation.Strands, Operation.moves?, Operation.settles,
      forgotten_attach h, and_comm]
  | detach moved =>
    simp [Operation.regrown, Operation.Strands, Operation.moves?, Operation.settles,
      forgotten_detach h, and_comm]
  | release id heir =>
    simp only [Operation.regrown, Operation.Strands, Operation.moves?, Operation.settles,
      forgotten_release h, Option.some.injEq, Prod.mk.injEq, and_true]
    constructor
    · rintro (forgotten | ⟨own, rfl, member, other⟩)
      · exact .inr forgotten
      · exact .inl ⟨⟨rfl, own⟩, member, other⟩
    · rintro (⟨⟨rfl, own⟩, member, other⟩ | forgotten)
      · exact .inr ⟨own, rfl, member, other⟩
      · exact .inl forgotten
  | _ => simp [Operation.regrown, Operation.Strands, Operation.moves?, Operation.settles]

/-! ### Runs -/

/-- A child that some operation of a run has stranded and that no later one has found a place for.
Runs start from the empty graph. -/
inductive Stranded : List Operation → Int → Int → Prop where
  | left {ops : List Operation} {op : Operation} {child parent : Int} :
      op.Strands (empty.run ops) child parent → Stranded (ops ++ [op]) child parent
  | still {ops : List Operation} {op : Operation} {child parent : Int} :
      Stranded ops child parent → op.settles (empty.run ops) child = false →
      Stranded (ops ++ [op]) child parent

theorem stranded_concat {ops : List Operation} {op : Operation} {child parent : Int} :
    Stranded (ops ++ [op]) child parent ↔ op.Strands (empty.run ops) child parent ∨
      Stranded ops child parent ∧ op.settles (empty.run ops) child = false := by
  constructor
  · intro stranded
    generalize same : ops ++ [op] = history at stranded
    cases stranded with
    | left strands =>
      obtain ⟨rfl, last⟩ := List.append_inj' same rfl
      obtain rfl := List.singleton_inj.mp last
      exact .inl strands
    | still before apart =>
      obtain ⟨rfl, last⟩ := List.append_inj' same rfl
      obtain rfl := List.singleton_inj.mp last
      exact .inr ⟨before, apart⟩
  · rintro (strands | ⟨before, apart⟩)
    · exact .left strands
    · exact .still before apart

theorem not_stranded_nil (child parent : Int) : ¬ Stranded [] child parent := by
  intro stranded
  generalize same : ([] : List Operation) = history at stranded
  cases stranded with
  | left _ => simp at same
  | still _ _ => simp at same

theorem run_acknowledged (ops : List Operation) : Acknowledged (empty.run ops).forest := by
  refine run_keeps (P := fun g => Acknowledged g.forest) (fun g op h => ?_) ops ?_
  · rw [after_forest]
    exact regrown_acknowledged g op h
  · exact empty_coherent.mutual.acknowledged

theorem forgotten_run_iff (ops : List Operation) (child parent : Int) :
    (empty.run ops).forest.Forgotten child parent ↔ Stranded ops child parent := by
  induction ops using List.reverseRecOn with
  | nil =>
    refine iff_of_false ?_ (not_stranded_nil child parent)
    rintro ⟨known, -⟩
    cases known
  | append_singleton ops op ih =>
    rw [run_concat, after_forest, forgotten_regrown _ op (run_acknowledged ops), ih,
      stranded_concat]

/-- Nobody is counted by a node that has been released, so that whoever has it for a parent is
forgotten. -/
theorem parent?_release_iff (ops : List Operation) (id : Int) (heir : Option Int) (child : Int) :
    ((empty.run ops).forest.release id heir).parent? child = some id ↔
      Stranded ops child id ∨ (empty.run ops).forest.successor id heir = some id ∧
        child ∈ (empty.run ops).forest.childrenOf id ∧ child ≠ id := by
  have acknowledged := run_acknowledged ops
  have forgotten := forgotten_release acknowledged id heir child id
  rw [forgotten_run_iff] at forgotten
  have uncounted : child ∉ ((empty.run ops).forest.release id heir).childrenOf id := by
    intro member
    exact ((mem_childrenOf_release acknowledged id heir id child).mp member).1 rfl
  rw [Forgotten, and_iff_left uncounted] at forgotten
  simpa using forgotten

/-- After every run, both sides of the forest tell the same of a child and a parent exactly if the
child is not stranded there. A node whose children are taken away is the parent of those alone that
are stranded with it or were sent back to it. What is not there is not removed. -/
theorem run_agrees_iff (ops : List Operation) :
    (∀ child parent,
      ((empty.run ops).forest.parent? child = some parent ↔
        child ∈ (empty.run ops).forest.childrenOf parent) ↔ ¬ Stranded ops child parent) ∧
    (∀ id heir child,
      ((empty.run ops).release id heir).forest.parent? child = some id ↔
        Stranded ops child id ∨ (empty.run ops).forest.successor id heir = some id ∧
          child ∈ (empty.run ops).forest.childrenOf id ∧ child ≠ id) ∧
    (∀ id child,
      ((empty.run ops).removeNode id).2.forest.parent? child = some id ↔
        if (empty.run ops).hasNode id then
          child ≠ id ∧ (Stranded ops child id ∨ (empty.run ops).forest.parent? id = some id ∧
            child ∈ (empty.run ops).forest.childrenOf id)
        else (empty.run ops).forest.parent? child = some id) := by
  refine ⟨fun child parent => ?_, parent?_release_iff ops, fun id child => ?_⟩
  · rw [(run_acknowledged ops).agree_iff, forgotten_run_iff]
  · rw [removeNode_forest]
    split
    · rw [Forest.remove, parent?_detach]
      by_cases here : id = child
      · simp [here]
      · rw [if_neg here, parent?_release_iff ops id none child]
        simp [successor, Ne.symm here]
    · rfl

/-- The child of a node is sent to that very node. -/
def sentBack : List Operation := [.addNode, .addNode, .attach 1 0, .release 0 (some 0)]

/-- A node has grown out of itself and has a child besides, and is removed. -/
def ownParent : List Operation :=
  [.addNode, .addNode, .attach 0 0, .attach 1 0, .removeNode 0]

theorem sentBack_disagrees :
    ((empty.run sentBack).forest.parent? 1 = some 0 ∧
      1 ∉ (empty.run sentBack).forest.childrenOf 0) ∧
    ((empty.run ownParent).hasNode 0 = false ∧
      (empty.run ownParent).forest.parent? 1 = some 0) := by
  decide

end Graph

end GrowthGrammar
