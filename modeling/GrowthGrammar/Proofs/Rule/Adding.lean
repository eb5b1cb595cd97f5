import GrowthGrammar.Proofs.Graph.Recency
import GrowthGrammar.Proofs.Rule.Merging

/-!
Adding: what an addition leaves, map by map and key by key. Its neighbours may be named more than
once; the new node has each of them once, in the order in which they are named first.
-/
namespace GrowthGrammar

/-! ### One edge -/

namespace Graph

/-- An edge changes three of the maps and nothing else. -/
theorem withEdge_frame (g : Graph) (e : Edge) : ∃ edges adjacency edgeStamps,
    g.withEdge e = { g with edges, adjacency, edgeStamps } := by
  unfold withEdge
  split <;> exact ⟨_, _, _, rfl⟩

theorem contains_withEdge (g : Graph) (e key : Edge) :
    (g.withEdge e).edges.contains key = (decide (e = key) || g.edges.contains key) := by
  have joined := hasEdge_withEdge g e key.low key.high
  rwa [hasEdge, hasEdge, Edge.between_low_high] at joined

theorem edgeStamp_withEdge (g : Graph) (e key : Edge) :
    (g.withEdge e).edgeStamps.get? key =
      if e = key then some g.clock else g.edgeStamps.get? key := by
  unfold withEdge
  split <;> exact Table.get?_insert _ e key g.clock

/-- A list with one more member, at the end unless it is there already. -/
def withMember (around : List Int) (other : Int) : List Int :=
  if other ∈ around then around else around ++ [other]

theorem mem_withMember {around : List Int} {other far : Int} :
    far ∈ withMember around other ↔ other = far ∨ far ∈ around := by
  unfold withMember
  split
  · rename_i known
    exact (or_iff_right_of_imp fun here => here ▸ known).symm
  · rw [List.mem_append, List.mem_singleton, eq_comm, or_comm]

theorem foldl_withMember (around others : List Int) :
    others.foldl withMember around = around ++ (others.filter (· ∉ around)).eraseDups := by
  induction others generalizing around with
  | nil => simp
  | cons other rest ih =>
    rw [List.foldl_cons, ih, withMember]
    split
    · rename_i known
      rw [List.filter_cons_of_neg (by simpa using known)]
    · rename_i unknown
      rw [List.filter_cons_of_pos (by simpa using unknown), List.eraseDups_cons,
        List.filter_filter, List.append_assoc, List.singleton_append]
      congr 3
      refine List.filter_congr fun far _ => ?_
      by_cases here : far = other <;> simp [here]

/-- An edge tells each of its ends of the other one, unless they know each other. -/
theorem adjacency_withEdge {g : Graph} {id other : Int} {around : List Int}
    (own : g.adjacency.get? id = some around)
    (wired : ∀ far, g.hasEdge id far = true ↔ far ∈ around) (key : Int) :
    (g.withEdge (.between id other)).adjacency.get? key =
      if id = key then some (withMember around other)
      else (g.adjacency.get? key).map fun near =>
        if other = key ∧ key ∉ around then near ++ [id] else near := by
  unfold withEdge withMember
  by_cases known : other ∈ around
  · have there : g.edges.contains (.between id other) = true := (wired other).mpr known
    rw [if_pos there, if_pos known]
    show g.adjacency.get? key = _
    split
    · rename_i here
      rw [← here, own]
    · by_cases here : other = key
      · simp [← here, known]
      · simp [here]
  · have fresh : ¬ g.edges.contains (.between id other) = true := fun there =>
      known ((wired other).mp there)
    rw [if_neg fresh, if_neg known]
    show (mapEnds g.adjacency (.between id other) _).get? key = _
    rw [get?_mapEnds]
    by_cases first : id = key
    · rw [← first, if_pos (Edge.touches_between id other), if_pos rfl, Edge.opposite_between, own]
      rfl
    · rw [if_neg first]
      by_cases second : other = key
      · rw [← second, Edge.between_comm, if_pos (Edge.touches_between other id),
          Edge.opposite_between]
        simp [known]
      · rw [if_neg (by simp [Edge.touches_between_iff, Ne.symm first, Ne.symm second])]
        simp [second]

end Graph

/-! ### Edges to several nodes -/

namespace Scene

variable {s t : Scene} {node : Node} {id : Int} {others around : List Int}

theorem joinAll_frame (s : Scene) (id : Int) (others : List Int) :
    ∃ edges adjacency edgeStamps, s.joinAll id others =
      { s with graph := { s.graph with edges, adjacency, edgeStamps } } := by
  induction others generalizing s with
  | nil => exact ⟨_, _, _, rfl⟩
  | cons other rest ih =>
    obtain ⟨edges, adjacency, edgeStamps, first⟩ := s.graph.withEdge_frame (.between id other)
    obtain ⟨edges', adjacency', edgeStamps', later⟩ := ih (s.mapGraph (·.withEdge (.between id other)))
    refine ⟨edges', adjacency', edgeStamps', later.trans ?_⟩
    rw [mapGraph, first]

theorem contains_joinAll (s : Scene) (id : Int) (others : List Int) (e : Edge) :
    (s.joinAll id others).graph.edges.contains e = true ↔
      s.graph.edges.contains e = true ∨ e ∈ others.map (Edge.between id) := by
  induction others generalizing s with
  | nil => simp [joinAll]
  | cons other rest ih =>
    show ((s.mapGraph (·.withEdge (.between id other))).joinAll id rest).graph.edges.contains e =
      true ↔ _
    rw [ih, mapGraph, Graph.contains_withEdge, Bool.or_eq_true, decide_eq_true_eq, List.map_cons,
      List.mem_cons, eq_comm (a := e)]
    exact or_assoc.trans or_left_comm

theorem edgeStamp_joinAll (s : Scene) (id : Int) (others : List Int) (e : Edge) :
    (s.joinAll id others).graph.edgeStamps.get? e =
      if e ∈ others.map (Edge.between id) then some s.graph.clock
      else s.graph.edgeStamps.get? e := by
  induction others generalizing s with
  | nil => rfl
  | cons other rest ih =>
    obtain ⟨edges, adjacency, edgeStamps, first⟩ := s.graph.withEdge_frame (.between id other)
    have clock : (s.graph.withEdge (.between id other)).clock = s.graph.clock := by rw [first]
    show ((s.mapGraph (·.withEdge (.between id other))).joinAll id rest).graph.edgeStamps.get? e = _
    rw [ih, mapGraph, Graph.edgeStamp_withEdge, clock]
    by_cases here : Edge.between id other = e
    · simp [here]
    · simp [here, Ne.symm here]

/-- A node is told of its new neighbours in their order, and each of these is told of it. -/
theorem adjacency_joinAll (own : s.graph.adjacency.get? id = some around)
    (wired : ∀ far, s.graph.hasEdge id far = true ↔ far ∈ around) (key : Int) :
    (s.joinAll id others).graph.adjacency.get? key =
      if id = key then some (others.foldl Graph.withMember around)
      else (s.graph.adjacency.get? key).map fun near =>
        if key ∈ others ∧ key ∉ around then near ++ [id] else near := by
  induction others generalizing s around with
  | nil =>
    show s.graph.adjacency.get? key = _
    split
    · rename_i here
      rw [← here, own]
      rfl
    · simp
  | cons other rest ih =>
    have step := @Graph.adjacency_withEdge s.graph id other around own wired
    have own' := (step id).trans (if_pos rfl)
    have wired' (far : Int) : (s.graph.withEdge (.between id other)).hasEdge id far = true ↔
        far ∈ Graph.withMember around other := by
      rw [Graph.hasEdge_withEdge, Bool.or_eq_true, decide_eq_true_eq,
        (Graph.between_injective id).eq_iff, wired, Graph.mem_withMember]
    refine (@ih (s.mapGraph (·.withEdge (.between id other))) _ own' wired').trans ?_
    show (if id = key then _ else
      ((s.graph.withEdge (.between id other)).adjacency.get? key).map _) = _
    rw [step]
    split
    · rfl
    · rw [Option.map_map]
      refine congrArg (Option.map · _) (funext fun near => ?_)
      by_cases known : key ∈ around
      · simp [known, Graph.mem_withMember]
      · by_cases here : other = key
        · simp [here, known, Graph.mem_withMember]
        · simp [here, Ne.symm here, known, Graph.mem_withMember]

/-! ### A whole addition -/

/-- A scene to which a node has been added with edges to some nodes, as a child of the first. -/
structure Sprouted (s : Scene) (node : Node) (ids : List Int) (id : Int) (t : Scene) : Prop where
  unused : s.contains id = false ∧ s.graph.hasNode id = false
  entries : t.nodes.entries = s.nodes.entries ++ [(id, node)]
  hasNode_iff : ∀ key, t.graph.hasNode key = true ↔ key = id ∨ s.graph.hasNode key = true
  nodeStamp : ∀ key, t.graph.nodeStamps.get? key =
    if id = key then some s.graph.clock else s.graph.nodeStamps.get? key
  unlisted : ∀ key, id ∉ s.graph.neighborList key
  adjacency : ∀ key, t.graph.adjacency.get? key =
    if id = key then some ids.eraseDups
    else (s.graph.adjacency.get? key).map fun near => if key ∈ ids then near ++ [id] else near
  unjoined : ∀ e ∈ ids.map (Edge.between id), s.graph.edges.contains e = false
  edges_iff : ∀ e, t.graph.edges.contains e = true ↔
    s.graph.edges.contains e = true ∨ e ∈ ids.map (Edge.between id)
  edgeStamp : ∀ e, t.graph.edgeStamps.get? e =
    if e ∈ ids.map (Edge.between id) then some s.graph.clock else s.graph.edgeStamps.get? e
  parent : ∀ key, t.graph.forest.parent? key =
    if id = key then ids.head? else s.graph.forest.parent? key
  children : ∀ key, t.graph.forest.children.get? key =
    if ids.head? = some key then
      some (((s.graph.forest.children.get? key).getD .empty).insert id ())
    else s.graph.forest.children.get? key
  childless : t.graph.forest.childrenOf id = []
  clock : t.graph.clock = s.graph.clock
  nextId : t.graph.nextId = id + 1

theorem adopt_eq (s : Scene) (child : Int) (parent : Option Int) :
    s.adopt child parent = { s with graph := { s.graph with
      forest := parent.elim s.graph.forest (s.graph.forest.attach child) } } := by
  cases parent <;> rfl

/-- The edges change three of the maps, the parent changes the forest, and everything else is what
the node alone makes of it. -/
theorem grow_frame (s : Scene) (node : Node) (ids : List Int) :
    ∃ edges adjacency edgeStamps, s.grow node ids =
      ⟨{ s.graph.addNode.2 with
          edges, adjacency, edgeStamps,
          forest := ids.head?.elim s.graph.forest (s.graph.forest.attach (s.insert node).1) },
        s.nodes.put (s.insert node).1 node⟩ := by
  obtain ⟨edges, adjacency, edgeStamps, joined⟩ :=
    (s.insert node).2.joinAll_frame (s.insert node).1 ids
  refine ⟨edges, adjacency, edgeStamps, ?_⟩
  rw [grow, adopt_eq, joined]
  rfl

theorem grow_graph (s : Scene) (node : Node) (ids : List Int) :
    (s.grow node ids).graph = { ((s.insert node).2.joinAll (s.insert node).1 ids).graph with
      forest := (s.grow node ids).graph.forest } := by
  rw [grow, adopt_eq]

theorem Sound.insert_unused (h : s.Sound) (node : Node) :
    s.contains (s.insert node).1 = false ∧ s.graph.hasNode (s.insert node).1 = false :=
  have free : s.graph.hasNode (s.insert node).1 = false := s.graph.addNode_fresh
  ⟨(h.inStep _).trans free, free⟩

/-- What is no node has no edges. -/
theorem Sound.hasEdge_of_absent (h : s.Sound) (free : s.graph.hasNode id = false) (other : Int) :
    s.graph.hasEdge id other = false := by
  refine eq_false_of_ne_true fun joined => ?_
  exact Bool.noConfusion (free.symm.trans (h.consistent.hasNode_of_hasEdge joined).1)

theorem Sound.adjacency_grow (h : s.Sound) (node : Node) (ids : List Int) (key : Int) :
    (s.grow node ids).graph.adjacency.get? key =
      if (s.insert node).1 = key then some ids.eraseDups
      else (s.graph.adjacency.get? key).map fun near =>
        if key ∈ ids then near ++ [(s.insert node).1] else near := by
  have placed (key : Int) : (s.insert node).2.graph.adjacency.get? key =
      if (s.insert node).1 = key then some [] else s.graph.adjacency.get? key :=
    Table.get?_insert s.graph.adjacency _ key []
  have own := (placed (s.insert node).1).trans (if_pos rfl)
  have wired (other : Int) : (s.insert node).2.graph.hasEdge (s.insert node).1 other = true ↔
      other ∈ ([] : List Int) := by
    rw [show (s.insert node).2.graph.hasEdge _ other = _ from
      h.hasEdge_of_absent (h.insert_unused node).2 other]
    simp
  rw [grow_graph]
  refine (adjacency_joinAll own wired key).trans ?_
  rw [placed, Graph.foldl_withMember]
  by_cases here : (s.insert node).1 = key
  · simp [here]
  · simp [here]

/-- What is no node has grown out of nothing, and nothing out of it. -/
theorem Planted.alone (h : s.Planted) (absent : s.contains id = false) :
    s.graph.forest.parent? id = none ∧ s.graph.forest.childrenOf id = [] := by
  constructor
  · refine Option.eq_none_iff_forall_ne_some.mpr fun parent step => ?_
    exact Bool.noConfusion (absent.symm.trans (h.live id parent step).1)
  · refine List.eq_nil_iff_forall_not_mem.mpr fun child member => ?_
    have step := (h.coherent.mem_childrenOf child id).mp member
    exact Bool.noConfusion (absent.symm.trans (h.live child id step).2)

theorem parent?_grow (alone : s.graph.forest.parent? (s.insert node).1 = none) (ids : List Int)
    (key : Int) :
    (s.grow node ids).graph.forest.parent? key =
      if (s.insert node).1 = key then ids.head? else s.graph.forest.parent? key := by
  obtain ⟨edges, adjacency, edgeStamps, framed⟩ := s.grow_frame node ids
  rw [framed]
  dsimp only
  cases ids.head? with
  | none =>
    split
    · rename_i here
      exact here ▸ alone
    · rfl
  | some first => exact Forest.parent?_attach s.graph.forest (s.insert node).1 first key

theorem children_grow (alone : s.graph.forest.parent? (s.insert node).1 = none) (ids : List Int)
    (key : Int) :
    (s.grow node ids).graph.forest.children.get? key =
      if ids.head? = some key then
        some (((s.graph.forest.children.get? key).getD .empty).insert (s.insert node).1 ())
      else s.graph.forest.children.get? key := by
  obtain ⟨edges, adjacency, edgeStamps, framed⟩ := s.grow_frame node ids
  rw [framed]
  dsimp only
  cases ids.head? with
  | none => rfl
  | some first =>
    show (s.graph.forest.attach (s.insert node).1 first).children.get? key = _
    rw [Forest.attach_eq, Forest.leaving, alone, Table.get?_insert]
    by_cases here : first = key
    · simp [here]
    · simp [here]

theorem Planted.sprouted (h : s.Planted) (node : Node) {ids : List Int}
    (there : ∀ other ∈ ids, s.contains other = true) :
    s.Sprouted node ids (s.insert node).1 (s.grow node ids) := by
  obtain ⟨absent, free⟩ := h.insert_unused node
  obtain ⟨alone, childless⟩ := h.alone absent
  have apart : (s.insert node).1 ∉ ids := fun member =>
    Bool.noConfusion (absent.symm.trans (there _ member))
  have unjoined (other : Int) := h.hasEdge_of_absent free other
  obtain ⟨edges, adjacency, edgeStamps, framed⟩ := s.grow_frame node ids
  exact {
    unused := ⟨absent, free⟩
    entries := by
      rw [framed]
      refine Catalog.entries_put (fun member => ?_) node
      exact Bool.noConfusion (absent.symm.trans (Catalog.contains_iff.mpr member))
    hasNode_iff := fun key => by
      rw [framed]
      show (s.graph.place (s.insert node).1).hasNode key = true ↔ _
      rw [Graph.hasNode_place, Bool.or_eq_true, decide_eq_true_eq, eq_comm]
    nodeStamp := fun key => by
      rw [framed]
      exact Table.get?_insert s.graph.nodeStamps _ key s.graph.clock
    unlisted := fun key member => by
      have joined := (h.consistent.mem_neighbors key _).mp member
      exact Bool.noConfusion (free.symm.trans (h.consistent.hasNode_of_hasEdge joined).2)
    adjacency := h.adjacency_grow node ids
    unjoined := fun e member => by
      obtain ⟨other, -, rfl⟩ := List.mem_map.mp member
      exact unjoined other
    edges_iff := fun e => by
      rw [grow_graph]
      exact contains_joinAll _ _ ids e
    edgeStamp := fun e => by
      rw [grow_graph]
      exact edgeStamp_joinAll _ _ ids e
    parent := parent?_grow alone ids
    children := children_grow alone ids
    childless := by
      rw [Forest.childrenOf, children_grow alone, if_neg fun first => apart (List.mem_of_head? first)]
      exact childless
    clock := by
      rw [framed]
      rfl
    nextId := by
      rw [framed]
      rfl }

end Scene

namespace Procedure

variable {s : Scene} {b : Bindings} {references neighbors ids : List Int} {template : Template}
  {node : Node}

/-- Pattern ids that are bound to nodes that are there are resolved. -/
theorem resolve_of_bound (bound : references.map b.get? = ids.map some)
    (there : ∀ id ∈ ids, s.contains id = true) : resolve s b references = .ok ids := by
  have live : references.map (b.live? s) = ids.map some := by
    have filtered : (references.map b.get?).map (Option.filter s.contains) =
        (ids.map some).map (Option.filter s.contains) := congrArg _ bound
    rw [List.map_map, List.map_map] at filtered
    refine filtered.trans (List.map_congr_left fun id member => ?_)
    exact Option.filter_some_pos (there id member)
  obtain ⟨found, resolved⟩ := exists_resolved (all_live_of_resolve live)
  have same := (Option.some_injective Int).list_map ((resolve_ok resolved).symm.trans live)
  exact same ▸ resolved

/-- From the empty scene on, whatever has been done: an addition whose neighbours are bound to nodes
that are there, be they named once or more often, adds one node with edges to them if its template
gives one. The template sees the first neighbour, which the node is a child of. -/
theorem add_grows (ops : List Scene.Operation) (source after : Source) (notes : List Note)
    (bound : neighbors.map b.get? = ids.map some)
    (there : ∀ id ∈ ids, (Scene.empty.run ops).contains id = true)
    (made : template.eval (ids.head?.bind (Scene.empty.run ops).node?) source = (.ok node, after)) :
    ∃ id t, ((Procedure.add neighbors template).apply b).run
        ⟨Scene.empty.run ops, source, notes⟩ = (.ok (.added [id], b), ⟨t, after, notes⟩) ∧
      (Scene.empty.run ops).Sprouted node ids id t := by
  have planted := Scene.run_planted ops Scene.empty_planted
  generalize Scene.empty.run ops = s at planted there made ⊢
  have ran := @add_run b ⟨s, source, notes⟩ ids neighbors template node after planted.toSound
    (resolve_of_bound bound there) made
  exact ⟨_, _, ran, planted.sprouted node there⟩

/-- A node without bounds. -/
def vast : Node := ⟨"stem", .ofList [("x", .float (.infinite false))]⟩

/-- The counter stands at an id that is in use, and an id below it is free again. -/
def scattered : List Scene.Operation :=
  [.edit (.insert {}), .edit (.insertAt 1 {}), .edit (.insertAt 3 vast), .edit (.remove 0)]

def scatteredMatch : Bindings := .ofList [(8, 3), (9, 1)]

/-- A leaf of the size of what it grows out of. -/
def sizedLeaf : Template := ⟨"leaf", .ofList [("size", "x")]⟩

theorem sizedLeaf_added :
    ∃ t, ((Procedure.add [8, 9, 8] sizedLeaf).apply scatteredMatch).run
        ⟨Scene.empty.run scattered, .unseeded, []⟩ =
          (.ok (.added [2], scatteredMatch), ⟨t, .unseeded, []⟩) ∧
      (Scene.empty.run scattered).Sprouted
        ⟨"leaf", .ofList [("size", .float (.infinite false))]⟩ [3, 1, 3] 2 t ∧
      t.graph.adjacency.get? 2 = some [3, 1] := by
  have bound : [8, 9, 8].map scatteredMatch.get? = [3, 1, 3].map some := by decide
  have there : ∀ id ∈ [3, 1, 3], (Scene.empty.run scattered).contains id = true := by
    decide +kernel
  have made : sizedLeaf.eval (([3, 1, 3] : List Int).head?.bind (Scene.empty.run scattered).node?)
      .unseeded = (.ok ⟨"leaf", .ofList [("size", .float (.infinite false))]⟩, .unseeded) := by
    rfl
  obtain ⟨id, t, ran, sprouted⟩ := add_grows scattered .unseeded .unseeded [] bound there made
  have told : Except.ok (Outcome.added [2], scatteredMatch) =
      (Except.ok (Outcome.added [id], scatteredMatch) : Except PassFault _) := congrArg Prod.fst ran
  obtain rfl : 2 = id := by
    simpa using told
  exact ⟨t, ran, sprouted, sprouted.adjacency 2⟩

end Procedure

end GrowthGrammar
