import GrowthGrammar.Graph.Basic

/-!
Free ids: the id that a graph gives to a new node is the first one from its counter on that no node
has.
-/
namespace GrowthGrammar.Graph

theorem firstFree_cons (start id : Int) (rest : List Int) :
    firstFree start (id :: rest) = firstFree (if id = start then start + 1 else start) rest := rfl

theorem le_firstFree (start : Int) (ids : List Int) : start ≤ firstFree start ids := by
  induction ids generalizing start with
  | nil => exact Int.le_refl start
  | cons id rest ih =>
    rw [firstFree_cons]
    refine Int.le_trans ?_ (ih _)
    split <;> omega

theorem firstFree_of_lt {start : Int} {ids : List Int} (above : ∀ id ∈ ids, start < id) :
    firstFree start ids = start := by
  induction ids with
  | nil => rfl
  | cons id rest ih =>
    have different : id ≠ start := Int.ne_of_gt (above id List.mem_cons_self)
    rw [firstFree_cons, if_neg different]
    exact ih fun other member => above other (List.mem_cons_of_mem _ member)

theorem firstFree_not_mem {start : Int} {ids : List Int} (ascending : ids.Pairwise (· < ·)) :
    firstFree start ids ∉ ids := by
  induction ids generalizing start with
  | nil => exact List.not_mem_nil
  | cons id rest ih =>
    obtain ⟨first, later⟩ := List.pairwise_cons.mp ascending
    rw [firstFree_cons]
    intro member
    rcases List.mem_cons.mp member with here | there
    · split at here
      · have bound := le_firstFree (start + 1) rest
        omega
      · -- A higher head leaves no id of the rest at the start, so the start itself is free.
        rename_i different
        have bound := le_firstFree start rest
        have above : ∀ other ∈ rest, start < other := fun other member => by
          have after := first other member
          omega
        have same := firstFree_of_lt above
        omega
    · exact ih later there

theorem ids_ascending (g : Graph) : g.ids.Pairwise (· < ·) :=
  g.nodes.keys_ordered.imp fun precedes => of_decide_eq_true precedes

theorem mem_ids {g : Graph} {id : Int} : id ∈ g.ids ↔ g.hasNode id = true := Table.mem_keys

theorem addNode_fresh (g : Graph) : g.hasNode g.addNode.1 = false := by
  have absent : g.addNode.1 ∉ g.ids := firstFree_not_mem g.ids_ascending
  rw [mem_ids] at absent
  exact eq_false_of_ne_true absent

end GrowthGrammar.Graph
