import GrowthGrammar.Proofs.Graph.Recency
import GrowthGrammar.Proofs.Rule.Fate
import GrowthGrammar.Proofs.Rule.Rooted

/-!
Merging: what a merge leaves, in closed form. The nodes that it draws together may be joined to each
other, share neighbours, have loops and have grown out of each other; the survivor ends up with the
edges that lead out of all of them and with the children of all of them, whatever the order in which
the others go.
-/
namespace GrowthGrammar

/-! ### Edges of a graph -/

namespace Graph

variable {g : Graph} {ids : List Int}

/-- With a node go exactly the edges at it. -/
theorem hasEdge_removeNode (h : g.Consistent) (id a b : Int) :
    (g.removeNode id).2.hasEdge a b = true ↔ g.hasEdge a b = true ∧ a ≠ id ∧ b ≠ id := by
  unfold removeNode
  split
  · show (g.removeEdgesWith id).2.edges.contains (.between a b) = true ↔ _
    rw [removeEdgesWith_contains, Bool.and_eq_true, Bool.not_eq_true', ← Bool.not_eq_true,
      Edge.touches_between_iff, not_or, and_comm, ne_comm, ne_comm (a := b)]
    rfl
  · rename_i absent
    constructor
    · intro joined
      obtain ⟨first, second⟩ := h.hasNode_of_hasEdge joined
      exact ⟨joined, fun same => absent (same ▸ first), fun same => absent (same ▸ second)⟩
    · exact And.left

theorem hasEdge_touchNode (g : Graph) (id a b : Int) :
    (g.touchNode id).hasEdge a b = g.hasEdge a b := by
  obtain ⟨_, framed⟩ := g.touchNode_frame id
  rw [framed]
  rfl

/-- Around some nodes lie the other ends of their edges, but none of themselves. -/
theorem mem_around (h : g.Consistent) {other : Int} :
    other ∈ g.around ids ↔ other ∉ ids ∧ ∃ id ∈ ids, g.hasEdge id other = true := by
  rw [around, List.mem_eraseDups, List.mem_filter, List.mem_flatten, decide_eq_true_eq, and_comm]
  refine and_congr_right fun _ => ?_
  constructor
  · rintro ⟨near, listed, member⟩
    obtain ⟨id, within, rfl⟩ := List.mem_map.mp listed
    exact ⟨id, within, (h.mem_neighbors id other).mp member⟩
  · rintro ⟨id, within, joined⟩
    exact ⟨_, List.mem_map_of_mem within, (h.mem_neighbors id other).mpr joined⟩

end Graph

namespace Scene

variable {s : Scene} {ids : List Int} {survivor : Int}

theorem hasEdge_joinAll (s : Scene) (id : Int) (others : List Int) (a b : Int) :
    (s.joinAll id others).graph.hasEdge a b = true ↔
      s.graph.hasEdge a b = true ∨ ∃ other ∈ others, Edge.between id other = .between a b := by
  induction others generalizing s with
  | nil => simp [joinAll]
  | cons other rest ih =>
    have first : (s.mapGraph (·.withEdge (.between id other))).graph.hasEdge a b = true ↔
        Edge.between id other = .between a b ∨ s.graph.hasEdge a b = true := by
      rw [mapGraph, Graph.hasEdge_withEdge, Bool.or_eq_true, decide_eq_true_eq]
    show ((s.mapGraph (·.withEdge (.between id other))).joinAll id rest).graph.hasEdge a b = true
      ↔ _
    rw [ih, first, List.exists_mem_cons_iff, or_comm (b := s.graph.hasEdge a b = true), or_assoc]

theorem hasEdge_adopt (s : Scene) (child : Int) (parent : Option Int) (a b : Int) :
    (s.adopt child parent).graph.hasEdge a b = s.graph.hasEdge a b := by
  cases parent <;> rfl

theorem node?_joinAll (s : Scene) (id : Int) (others : List Int) (key : Int) :
    (s.joinAll id others).node? key = s.node? key := by
  induction others generalizing s with
  | nil => rfl
  | cons other rest ih => exact ih _

theorem node?_adopt (s : Scene) (child : Int) (parent : Option Int) (key : Int) :
    (s.adopt child parent).node? key = s.node? key := by
  cases parent <;> rfl

/-! ### Nodes that are taken away one by one -/

open Procedure

theorem hasEdge_absorb (h : s.Sound) (survivor id a b : Int) :
    (absorb survivor s id).graph.hasEdge a b = true ↔
      s.graph.hasEdge a b = true ∧ a ≠ id ∧ b ≠ id :=
  Graph.hasEdge_removeNode
    (forest_sound h (s.graph.forest.release id (some survivor))).consistent id a b

theorem hasEdge_absorbAll (h : s.Sound) (survivor : Int) (ids : List Int) (a b : Int) :
    (ids.foldl (absorb survivor) s).graph.hasEdge a b = true ↔
      s.graph.hasEdge a b = true ∧ a ∉ ids ∧ b ∉ ids := by
  induction ids generalizing s with
  | nil => simp
  | cons id rest ih =>
    rw [List.foldl_cons, ih (absorb_sound survivor h id), hasEdge_absorb h, List.mem_cons,
      List.mem_cons, not_or, not_or]
    constructor
    · rintro ⟨⟨joined, first, second⟩, later, later'⟩
      exact ⟨joined, ⟨first, later⟩, second, later'⟩
    · rintro ⟨joined, ⟨first, later⟩, second, later'⟩
      exact ⟨⟨joined, first, second⟩, later, later'⟩

theorem node?_absorbAll (survivor : Int) (s : Scene) (ids : List Int) (key : Int) :
    (ids.foldl (absorb survivor) s).node? key = if key ∈ ids then none else s.node? key := by
  induction ids generalizing s with
  | nil => rfl
  | cons id rest ih =>
    have first : (absorb survivor s id).node? key = if id = key then none else s.node? key :=
      Catalog.get?_erase s.nodes id key
    rw [List.foldl_cons, ih, first]
    by_cases here : id = key
    · simp [here]
    · simp [Ne.symm here, here]

/-! ### Nodes drawn together -/

/-- What is left after some nodes have been drawn together into one of them. An edge within them
goes, unless it is the survivor's own loop, and so do those that lead to the others. -/
structure Merged (s : Scene) (ids : List Int) (survivor : Int) (t : Scene) : Prop
    extends Planted t where
  contains_iff : ∀ id, t.contains id = true ↔
    s.contains id = true ∧ id ∉ ids.filter (· ≠ survivor)
  hasNode_iff : ∀ id, t.graph.hasNode id = true ↔
    s.graph.hasNode id = true ∧ id ∉ ids.filter (· ≠ survivor)
  node?_eq : ∀ id, t.contains id = true → t.node? id = s.node? id
  hasEdge_apart : ∀ a b, a ∉ ids → b ∉ ids → t.graph.hasEdge a b = s.graph.hasEdge a b
  hasEdge_survivor : ∀ other, other ∉ ids →
    (t.graph.hasEdge survivor other = true ↔ ∃ id ∈ ids, s.graph.hasEdge id other = true)
  hasEdge_loop : t.graph.hasEdge survivor survivor = s.graph.hasEdge survivor survivor
  edges_live : ∀ e, t.graph.edges.contains e = true →
    ∀ id ∈ ids.filter (· ≠ survivor), e.touches id = false
  parent_others : ∀ id, t.contains id = true → id ≠ survivor → t.graph.forest.parent? id =
    (s.graph.forest.parent? id).map fun above => if above ∈ ids then survivor else above
  parent_survivor : t.graph.forest.parent? survivor =
    ids.findSome? fun id => (s.graph.forest.parent? id).filter fun above => above ∉ ids

theorem hasEdge_collapse (h : s.Sound) (ids : List Int) (survivor a b : Int) :
    (s.collapse ids survivor).graph.hasEdge a b = true ↔
      (s.graph.hasEdge a b = true ∧ a ∉ ids.filter (· ≠ survivor) ∧
        b ∉ ids.filter (· ≠ survivor)) ∨
      ∃ other ∈ s.graph.around ids, Edge.between survivor other = .between a b := by
  rw [collapse]
  show (Graph.touchNode _ survivor).hasEdge a b = true ↔ _
  rw [Graph.hasEdge_touchNode, hasEdge_adopt, hasEdge_joinAll, gather, hasEdge_absorbAll h]

theorem node?_collapse (s : Scene) (ids : List Int) (survivor key : Int) :
    (s.collapse ids survivor).node? key =
      if key ∈ ids.filter (· ≠ survivor) then none else s.node? key := by
  rw [collapse]
  show (adopt _ survivor _).node? key = _
  rw [node?_adopt, node?_joinAll, gather, node?_absorbAll]

theorem contains_collapse (s : Scene) (ids : List Int) (survivor id : Int) :
    (s.collapse ids survivor).contains id = true ↔
      s.contains id = true ∧ id ∉ ids.filter (· ≠ survivor) := by
  rw [contains, contains, Catalog.contains_eq_isSome_get?, Catalog.contains_eq_isSome_get?]
  show ((s.collapse ids survivor).node? id).isSome = true ↔ (s.node? id).isSome = true ∧ _
  rw [node?_collapse]
  by_cases gone : id ∈ ids.filter (· ≠ survivor)
  · rw [if_pos gone]
    exact ⟨fun there => Bool.noConfusion there, fun there => absurd gone there.2⟩
  · rw [if_neg gone]
    exact (and_iff_left gone).symm

section Collapse

variable (h : s.Sound)

include h

/-- Two nodes that are not drawn together keep to themselves. -/
theorem hasEdge_collapse_apart (among : survivor ∈ ids) {a b : Int} (first : a ∉ ids)
    (second : b ∉ ids) :
    (s.collapse ids survivor).graph.hasEdge a b = s.graph.hasEdge a b := by
  rw [Bool.eq_iff_iff, hasEdge_collapse h]
  constructor
  · rintro (⟨joined, -⟩ | ⟨other, -, same⟩)
    · exact joined
    · rcases Edge.between_eq_between_iff.mp same with ⟨rfl, -⟩ | ⟨rfl, -⟩
      · exact absurd among first
      · exact absurd among second
  · intro joined
    exact .inl ⟨joined, fun member => first (List.mem_of_mem_filter member),
      fun member => second (List.mem_of_mem_filter member)⟩

/-- The survivor gets the edges of all that lead out, its own and those of the others. -/
theorem hasEdge_collapse_survivor (among : survivor ∈ ids) {other : Int} (outside : other ∉ ids) :
    (s.collapse ids survivor).graph.hasEdge survivor other = true ↔
      ∃ id ∈ ids, s.graph.hasEdge id other = true := by
  rw [hasEdge_collapse h]
  constructor
  · rintro (⟨joined, -⟩ | ⟨near, around, same⟩)
    · exact ⟨survivor, among, joined⟩
    · obtain ⟨-, id, within, joined⟩ := (Graph.mem_around h.consistent).mp around
      rcases Edge.between_eq_between_iff.mp same with ⟨-, rfl⟩ | ⟨rfl, -⟩
      · exact ⟨id, within, joined⟩
      · exact absurd among outside
  · rintro ⟨id, within, joined⟩
    exact .inr ⟨other, (Graph.mem_around h.consistent).mpr ⟨outside, id, within, joined⟩, rfl⟩

/-- No loop comes about, even if a node that is taken away has one or is joined to the survivor. -/
theorem hasEdge_collapse_loop (among : survivor ∈ ids) :
    (s.collapse ids survivor).graph.hasEdge survivor survivor =
      s.graph.hasEdge survivor survivor := by
  rw [Bool.eq_iff_iff, hasEdge_collapse h]
  constructor
  · rintro (⟨joined, -⟩ | ⟨other, around, same⟩)
    · exact joined
    · have outside := ((Graph.mem_around h.consistent).mp around).1
      rcases Edge.between_eq_between_iff.mp same with ⟨-, rfl⟩ | ⟨-, rfl⟩ <;>
        exact absurd among outside
  · intro joined
    exact .inl ⟨joined, by simp, by simp⟩

end Collapse

theorem Planted.merged (h : s.Planted) (after : (s.collapse ids survivor).Planted)
    (there : s.contains survivor = true) (among : survivor ∈ ids) :
    s.Merged ids survivor (s.collapse ids survivor) := by
  have nodes := contains_collapse s ids survivor
  have graphNodes (id : Int) : (s.collapse ids survivor).graph.hasNode id = true ↔
      s.graph.hasNode id = true ∧ id ∉ ids.filter (· ≠ survivor) := by
    rw [← after.inStep, ← h.inStep]
    exact nodes id
  have parents := Procedure.parent?_collapse h there among
  exact { after with
    contains_iff := nodes
    hasNode_iff := graphNodes
    node?_eq := fun id left => by
      rw [node?_collapse, if_neg ((nodes id).mp left).2]
    hasEdge_apart := fun a b => hasEdge_collapse_apart h.toSound among
    hasEdge_survivor := fun other => hasEdge_collapse_survivor h.toSound among
    hasEdge_loop := hasEdge_collapse_loop h.toSound among
    edges_live := fun e stored id gone => by
      refine eq_false_of_ne_true fun touches => ?_
      have left := after.consistent.hasNode_of_touches stored touches
      exact ((graphNodes id).mp left).2 gone
    parent_others := fun id left other => by
      have outside : id ∉ ids := fun member =>
        ((nodes id).mp left).2 (List.mem_filter.mpr ⟨member, decide_eq_true other⟩)
      rw [parents, Forest.drawnTogether, if_neg other, if_neg outside]
    parent_survivor := by
      rw [parents, Forest.drawnTogether, if_pos rfl]
      rfl }

end Scene

namespace Procedure

variable {s : Scene} {b : Bindings} {references ids targets : List Int} {survivor id : Int}

theorem exists_resolved (live : (references.all fun n => (b.live? s n).isSome) = true) :
    ∃ ids, resolve s b references = .ok ids := by
  cases resolved : resolve s b references with
  | ok ids => exact ⟨ids, rfl⟩
  | error missing =>
    obtain ⟨named, absent⟩ := resolve_error resolved
    rw [not_all_live named absent] at live
    cases live

theorem map_get?_of_live (live : references.map (b.live? s) = ids.map some) :
    references.map b.get? = ids.map some := by
  induction references generalizing ids with
  | nil => exact live
  | cons n rest ih =>
    cases ids with
    | nil => cases live
    | cons id others =>
      obtain ⟨found, later⟩ := List.cons_eq_cons.mp live
      rw [List.map_cons, List.map_cons, (Bindings.live?_eq_some_iff.mp found).1, ih later]

theorem entries_foldl_erase (b : Bindings) (absorbed : List (Int × Int)) :
    (absorbed.foldl (fun b e => b.erase e.1) b).entries =
      b.entries.filter fun e => e.1 ∉ absorbed.map (·.1) := by
  induction absorbed generalizing b with
  | nil => simp
  | cons e rest ih =>
    rw [List.foldl_cons, ih]
    show (b.entries.filter fun other => other.1 ≠ e.1).filter _ = _
    rw [List.filter_filter]
    refine List.filter_congr fun other _ => ?_
    rw [Bool.eq_iff_iff]
    simp only [Bool.and_eq_true, decide_eq_true_eq, List.map_cons, List.mem_cons, not_or]
    exact and_comm

/-- The pattern ids that a merge consumes are those of the nodes that it takes away. -/
theorem mem_absorbed_iff (live : references.map (b.live? s) = ids.map some)
    (injective : b.values.Nodup) (bound : b.get? survivor = some id) {e : Int × Int}
    (stored : e ∈ b.entries) :
    e.1 ∈ references.filter (· ≠ survivor) ↔ e.2 ∈ ids.filter (· ≠ id) := by
  have own : b.get? e.1 = some e.2 := Catalog.get?_eq_some_iff.mpr stored
  have listed := map_get?_of_live live
  have named : e.1 ∈ references ↔ e.2 ∈ ids := by
    constructor
    · intro member
      have found : b.get? e.1 ∈ ids.map some := listed ▸ List.mem_map_of_mem member
      rw [own] at found
      simpa using found
    · intro member
      have found : some e.2 ∈ references.map b.get? := listed ▸ List.mem_map_of_mem member
      obtain ⟨n, within, same⟩ := List.mem_map.mp found
      exact Bindings.key_eq_of_get? injective own same ▸ within
  have kept : e.1 = survivor ↔ e.2 = id := by
    constructor
    · intro same
      rw [same, bound] at own
      exact (Option.some.inj own).symm
    · intro same
      exact Bindings.key_eq_of_get? injective (same ▸ own) bound
  simp only [List.mem_filter, decide_eq_true_eq, named, kept, ne_eq]

/-- From the empty scene on, whatever has been done: a merge whose nodes are all bound, to different
nodes, and there draws these nodes together into the survivor. The outcome names the others once
each, in the order of the pattern ids, and the bindings lose exactly their pattern ids. -/
theorem merge_draws_together (ops : List Scene.Operation) (source : Source) (notes : List Note)
    (injective : b.values.Nodup)
    (live : (merge targets survivor).targetsLive b (Scene.empty.run ops) = true) :
    ∃ ids id b' t, (merge targets survivor).references.map b.get? = ids.map some ∧
      b.get? survivor = some id ∧ id ∈ ids ∧ ids.Nodup ∧
      ((merge targets survivor).apply b).run ⟨Scene.empty.run ops, source, notes⟩ =
        (.ok (.removed (ids.filter (· ≠ id)), b'), ⟨t, source, notes⟩) ∧
      b'.entries = b.entries.filter (fun e => e.2 ∉ ids.filter (· ≠ id)) ∧
      (Scene.empty.run ops).Merged ids id t := by
  have planted := Scene.run_planted ops Scene.empty_planted
  generalize Scene.empty.run ops = s at live planted ⊢
  obtain ⟨ids, resolved⟩ := exists_resolved live
  have found := resolve_ok resolved
  obtain ⟨id, member, here⟩ :=
    List.mem_map.mp (found ▸ List.mem_map_of_mem (survivor_mem_references targets survivor))
  obtain ⟨bound, there⟩ := Bindings.live?_eq_some_iff.mp here.symm
  have sound : (Site.mk s source notes).scene.Sound := planted.toSound
  refine ⟨ids, id, _, _, map_get?_of_live found, bound, member,
    nodup_of_resolve found injective (nodup_references_merge targets survivor),
    merge_run sound resolved bound member, ?_, ?_⟩
  · rw [entries_foldl_erase, map_fst_absorbed found injective bound]
    refine List.filter_congr fun e stored => ?_
    rw [decide_eq_decide, mem_absorbed_iff found injective bound stored]
  · have does : Does s b (merge targets survivor) _ _ (s.collapse ids id) := .merge found bound
    exact planted.merged (does.planted planted) there member

/-- A node grows out of another one. -/
def sproutFrom (id : Int) : Scene.Operation :=
  .edit (.apply (.add [0] { name := "n" }) (.ofList [(0, id)]) .unseeded)

/-- Five nodes in one line of growth, the last four joined among each other so that they share
neighbours and have loops. -/
def tangled : List Scene.Operation :=
  [.edit (.insert {}), sproutFrom 0, sproutFrom 1, sproutFrom 2, sproutFrom 3,
    .edit (.addEdge 1 3), .edit (.addEdge 1 4), .edit (.addEdge 2 2), .edit (.addEdge 2 4)]

def tangledMatch : Bindings := .ofList [(5, 1), (6, 2), (7, 3), (8, 4)]

/-- The parent and the child of the survivor are merged into it. Both are its neighbours and joined
to each other, and the survivor has a loop. -/
theorem tangled_drawn_together :
    ∃ b' t, ((merge [5, 7, 5] 6).apply tangledMatch).run
        ⟨Scene.empty.run tangled, .unseeded, []⟩ =
          (.ok (.removed [1, 3], b'), ⟨t, .unseeded, []⟩) ∧
      b'.entries = [(6, 2), (8, 4)] ∧ (Scene.empty.run tangled).Merged [1, 3, 2] 2 t := by
  obtain ⟨ids, id, b', t, listed, bound, -, -, ran, entries, merged⟩ :=
    @merge_draws_together tangledMatch [5, 7, 5] 6 tangled .unseeded [] (by decide)
      (by decide +kernel)
  obtain rfl : [1, 3, 2] = ids := (Option.some_injective Int).list_map listed
  obtain rfl : 2 = id := Option.some.inj bound
  exact ⟨b', t, ran, entries, merged⟩

end Procedure

end GrowthGrammar
