import Mathlib
import GrowthGrammar.Proofs.Graph.Consistency

/-!
Incidence: the neighbours of a node are the other ends of its edges, so that the degrees of all
nodes count every edge twice, and every loop once.
-/
namespace GrowthGrammar.Graph

variable {g : Graph}

theorem between_injective (id : Int) : Function.Injective (Edge.between id) := fun b c same => by
  rw [← Edge.opposite_between id b, same, Edge.opposite_between]

theorem mem_edgesAt {id : Int} {e : Edge} :
    e ∈ g.edgesAt id ↔ g.edges.contains e = true ∧ e.touches id = true := by
  rw [edgesAt, List.mem_filter, Table.mem_keys]

/-- A node has as many neighbours as edges. -/
theorem Consistent.neighbors_perm_edgesAt (h : Consistent g) (id : Int) :
    ((g.neighborList id).map (Edge.between id)).Perm (g.edgesAt id) := by
  have edges_nodup : (g.edgesAt id).Nodup := g.edges.keys_nodup.filter _
  have joined_nodup := List.Nodup.map (between_injective id) (h.neighbors_nodup id)
  refine (List.perm_ext_iff_of_nodup joined_nodup edges_nodup).mpr fun e => ?_
  rw [mem_edgesAt, List.mem_map]
  constructor
  · rintro ⟨b, member, rfl⟩
    exact ⟨(h.mem_neighbors id b).mp member, Edge.touches_between id b⟩
  · rintro ⟨stored, touches⟩
    refine ⟨e.opposite id, (h.mem_neighbors id _).mpr ?_, Edge.between_opposite touches⟩
    rwa [hasEdge, Edge.between_opposite touches]

theorem Consistent.length_neighborList (h : Consistent g) (id : Int) :
    (g.neighborList id).length = (g.edgesAt id).length := by
  rw [← (h.neighbors_perm_edgesAt id).length_eq, List.length_map]

theorem sum_filter_cons {α β : Type} (r : α → β → Bool) (x : α) (rest : List α) (ys : List β) :
    (ys.map fun y => ((x :: rest).filter (r · y)).length).sum =
      (ys.filter (r x)).length + (ys.map fun y => (rest.filter (r · y)).length).sum := by
  induction ys with
  | nil => rfl
  | cons y ys ih =>
    rw [List.map_cons, List.sum_cons, ih, List.map_cons, List.sum_cons, List.filter_cons,
      List.filter_cons]
    cases r x y <;> simp only [Bool.false_eq_true, ↓reduceIte, List.length_cons] <;> omega

/-- Pairs that a relation picks may be counted from either side. -/
theorem sum_filter_swap {α β : Type} (r : α → β → Bool) (xs : List α) (ys : List β) :
    (xs.map fun x => (ys.filter (r x)).length).sum =
      (ys.map fun y => (xs.filter (r · y)).length).sum := by
  induction xs with
  | nil => simp
  | cons x rest ih => rw [List.map_cons, List.sum_cons, ih, sum_filter_cons]

theorem Consistent.length_ends (h : Consistent g) {e : Edge} (stored : g.edges.contains e = true) :
    (g.ids.filter fun id => e.touches id).length = if e.isLoop then 1 else 2 := by
  obtain ⟨low, high⟩ := h.endpoints e stored
  have nodup : (g.ids.filter fun id => e.touches id).Nodup := g.nodes.keys_nodup.filter _
  have ends : (g.ids.filter fun id => e.touches id).Perm
      (if e.isLoop then [e.low] else [e.low, e.high]) := by
    refine (List.perm_ext_iff_of_nodup nodup ?_).mpr fun id => ?_
    · split
      · exact List.nodup_singleton _
      · rename_i noLoop
        simpa [Edge.isLoop] using noLoop
    · rw [List.mem_filter, ids, Table.mem_keys]
      simp only [Edge.touches, Edge.isLoop, Bool.or_eq_true, decide_eq_true_eq]
      split
      · rename_i loop
        rw [List.mem_singleton, ← loop, or_self]
        exact ⟨fun found => found.2.symm, fun same => ⟨same ▸ low, same.symm⟩⟩
      · rw [List.mem_pair]
        constructor
        · rintro ⟨-, rfl | rfl⟩
          · exact .inl rfl
          · exact .inr rfl
        · rintro (rfl | rfl)
          · exact ⟨low, .inl rfl⟩
          · exact ⟨high, .inr rfl⟩
  rw [ends.length_eq]
  split <;> rfl

/-- The degrees count every edge at both of its ends, and a loop only once. -/
theorem Consistent.sum_degrees (h : Consistent g) :
    (g.ids.map fun id => (g.neighborList id).length).sum +
      (g.edges.keys.filter (·.isLoop)).length = 2 * g.size := by
  have ends : (g.ids.map fun id => (g.neighborList id).length).sum =
      (g.edges.keys.map fun e => if e.isLoop then 1 else 2).sum := by
    rw [List.map_congr_left fun id _ => h.length_neighborList id]
    refine (sum_filter_swap (fun id e => Edge.touches e id) g.ids g.edges.keys).trans ?_
    refine congrArg List.sum (List.map_congr_left fun e member => ?_)
    exact h.length_ends (Table.mem_keys.mp member)
  have counted : ∀ edges : List Edge,
      (edges.map fun e => if e.isLoop then 1 else 2).sum + (edges.filter (·.isLoop)).length =
        2 * edges.length := by
    intro edges
    induction edges with
    | nil => rfl
    | cons e rest ih =>
      rw [List.map_cons, List.sum_cons, List.filter_cons, List.length_cons]
      split
      · rw [List.length_cons]
        omega
      · omega
  have size : g.size = g.edges.keys.length := (List.length_map _).symm
  rw [ends, counted, size]

end GrowthGrammar.Graph
