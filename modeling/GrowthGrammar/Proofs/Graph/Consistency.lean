import GrowthGrammar.Graph.Basic

/-!
Consistency of graphs: five maps tell of nodes, edges, neighbours and stamps, and what one of them
says the others say too. Every operation keeps it that way, so every run of operations does.
-/
namespace GrowthGrammar.Graph

/-- The five maps of a graph agree, and no stamp is ahead of the clock. -/
structure Consistent (g : Graph) : Prop where
  endpoints : ∀ e, g.edges.contains e = true → g.hasNode e.low = true ∧ g.hasNode e.high = true
  adjacency_keys : ∀ id, g.adjacency.contains id = g.hasNode id
  neighbors_nodup : ∀ id, (g.neighborList id).Nodup
  mem_neighbors : ∀ a b, b ∈ g.neighborList a ↔ g.hasEdge a b = true
  nodeStamps_keys : ∀ id, g.nodeStamps.contains id = g.hasNode id
  edgeStamps_keys : ∀ e, g.edgeStamps.contains e = g.edges.contains e
  clock_pos : 1 ≤ g.clock
  clock_lt : g.clock < clockLimit
  nodeStamp_le : ∀ id stamp, g.nodeStamps.get? id = some stamp → stamp ≤ g.clock
  edgeStamp_le : ∀ e stamp, g.edgeStamps.get? e = some stamp → stamp ≤ g.clock

theorem empty_consistent : Consistent empty where
  endpoints := fun _ h => Bool.noConfusion h
  adjacency_keys := fun _ => rfl
  neighbors_nodup := fun _ => List.nodup_nil
  mem_neighbors := fun _ _ => by
    constructor
    · intro h
      exact absurd h List.not_mem_nil
    · intro h
      exact Bool.noConfusion h
  nodeStamps_keys := fun _ => rfl
  edgeStamps_keys := fun _ => rfl
  clock_pos := Nat.le_refl 1
  clock_lt := by decide
  nodeStamp_le := fun _ _ h => by cases h
  edgeStamp_le := fun _ _ h => by cases h

variable {g : Graph}

/-! ### What consistency says about single nodes and edges -/

theorem Consistent.hasNode_of_touches (h : Consistent g) {e : Edge} {id : Int}
    (stored : g.edges.contains e = true) (touches : e.touches id = true) :
    g.hasNode id = true := by
  obtain ⟨low, high⟩ := h.endpoints e stored
  simp only [Edge.touches, Bool.or_eq_true, decide_eq_true_eq] at touches
  rcases touches with rfl | rfl
  · exact low
  · exact high

theorem Consistent.hasNode_of_hasEdge (h : Consistent g) {a b : Int}
    (joined : g.hasEdge a b = true) : g.hasNode a = true ∧ g.hasNode b = true := by
  refine ⟨h.hasNode_of_touches joined (Edge.touches_between a b), ?_⟩
  rw [hasEdge, Edge.between_comm] at joined
  exact h.hasNode_of_touches joined (Edge.touches_between b a)

theorem Consistent.neighborList_of_absent (h : Consistent g) {id : Int}
    (absent : g.hasNode id = false) : g.neighborList id = [] := by
  apply List.eq_nil_iff_forall_not_mem.mpr
  intro other member
  have joined := (h.mem_neighbors id other).mp member
  rw [(h.hasNode_of_hasEdge joined).1] at absent
  exact Bool.noConfusion absent

/-! ### Nodes -/

theorem hasNode_place (g : Graph) (id key : Int) :
    (g.place id).hasNode key = (decide (id = key) || g.hasNode key) :=
  Table.contains_insert g.nodes id key ()

theorem neighborList_place (g : Graph) (id key : Int) :
    (g.place id).neighborList key = if id = key then [] else g.neighborList key := by
  unfold neighborList place
  rw [Table.get?_insert]
  split <;> rfl

theorem stamp_insert_le {κ : Type} [DecidableEq κ] [Key κ] {stamps : Table κ Nat} {clock : Nat}
    (h : ∀ key stamp, stamps.get? key = some stamp → stamp ≤ clock) (touched key : κ) (stamp : Nat)
    (found : (stamps.insert touched clock).get? key = some stamp) : stamp ≤ clock := by
  rw [Table.get?_insert] at found
  split at found
  · exact Nat.le_of_eq (Option.some.inj found).symm
  · exact h key stamp found

theorem place_consistent (h : Consistent g) {id : Int} (fresh : g.hasNode id = false) :
    Consistent (g.place id) where
  endpoints := fun e stored => by
    obtain ⟨low, high⟩ := h.endpoints e stored
    rw [hasNode_place, hasNode_place, low, high, Bool.or_true, Bool.or_true]
    exact ⟨rfl, rfl⟩
  adjacency_keys := fun key => by
    rw [hasNode_place, ← h.adjacency_keys]
    exact Table.contains_insert g.adjacency id key []
  neighbors_nodup := fun key => by
    rw [neighborList_place]
    split
    · exact List.nodup_nil
    · exact h.neighbors_nodup key
  mem_neighbors := fun a b => by
    rw [neighborList_place, ← show g.hasEdge a b = (g.place id).hasEdge a b from rfl,
      ← h.mem_neighbors]
    split
    · rename_i same
      rw [← same, h.neighborList_of_absent fresh]
    · rfl
  nodeStamps_keys := fun key => by
    rw [hasNode_place, ← h.nodeStamps_keys]
    exact Table.contains_insert g.nodeStamps id key g.clock
  edgeStamps_keys := h.edgeStamps_keys
  clock_pos := h.clock_pos
  clock_lt := h.clock_lt
  nodeStamp_le := stamp_insert_le h.nodeStamp_le id
  edgeStamp_le := h.edgeStamp_le

/-! ### Edges -/

theorem contains_mapEnds (adjacency : Table Int (List Int)) (e : Edge)
    (f : Int → List Int → List Int) (key : Int) :
    (mapEnds adjacency e f).contains key = adjacency.contains key := by
  unfold mapEnds
  dsimp only
  split
  · rw [Table.contains_modify]
  · rw [Table.contains_modify, Table.contains_modify]

/-- Each end of an edge is told of the other one, and a node with a loop of itself only once. -/
theorem get?_mapEnds (adjacency : Table Int (List Int)) (e : Edge)
    (f : Int → List Int → List Int) (key : Int) :
    (mapEnds adjacency e f).get? key =
      if e.touches key then (adjacency.get? key).map (f (e.opposite key))
      else adjacency.get? key := by
  unfold mapEnds Edge.isLoop Edge.touches Edge.opposite
  simp only [decide_eq_true_eq, Bool.or_eq_true]
  split
  · rename_i loop
    simp only [Table.get?_modify, ← loop, or_self]
    split <;> rfl
  · rename_i noLoop
    simp only [Table.get?_modify]
    by_cases atLow : e.low = key
    · have notHigh : e.high ≠ key := fun atHigh => noLoop (atLow.trans atHigh.symm)
      simp only [atLow, notHigh, ↓reduceIte, or_false]
    · by_cases atHigh : e.high = key
      · simp only [atLow, atHigh, ↓reduceIte, or_true]
      · simp only [atLow, atHigh, ↓reduceIte, or_self]

theorem Consistent.has_adjacency (h : Consistent g) {id : Int} (there : g.hasNode id = true) :
    g.adjacency.contains id = true := (h.adjacency_keys id).trans there

theorem Consistent.getD_mapEnds (h : Consistent g) {e : Edge} (low : g.hasNode e.low = true)
    (high : g.hasNode e.high = true) (f : Int → List Int → List Int) (key : Int) :
    ((mapEnds g.adjacency e f).get? key).getD [] =
      if e.touches key then f (e.opposite key) (g.neighborList key) else g.neighborList key := by
  rw [get?_mapEnds]
  split
  · rename_i touches
    have there : g.hasNode key = true := by
      simp only [Edge.touches, Bool.or_eq_true, decide_eq_true_eq] at touches
      rcases touches with rfl | rfl
      · exact low
      · exact high
    obtain ⟨around, found⟩ := Table.contains_iff.mp (h.has_adjacency there)
    rw [neighborList, found]
    rfl
  · rfl

theorem neighborList_join (h : Consistent g) {e : Edge} (low : g.hasNode e.low = true)
    (high : g.hasNode e.high = true) (key : Int) :
    (g.join e).neighborList key =
      if e.touches key then g.neighborList key ++ [e.opposite key] else g.neighborList key :=
  h.getD_mapEnds low high _ key

theorem join_hasEdge (g : Graph) (e : Edge) (a b : Int) :
    (g.join e).hasEdge a b = (decide (e = .between a b) || g.hasEdge a b) :=
  Table.contains_insert g.edges e (.between a b) ()

theorem mem_neighbors_join (h : Consistent g) {e : Edge} (low : g.hasNode e.low = true)
    (high : g.hasNode e.high = true) (a b : Int) :
    b ∈ (g.join e).neighborList a ↔ (g.join e).hasEdge a b = true := by
  rw [neighborList_join h low high, join_hasEdge, Bool.or_eq_true, decide_eq_true_eq,
    eq_comm (a := e), Edge.between_eq_iff, ← h.mem_neighbors]
  split
  · rename_i touches
    rw [List.mem_append, List.mem_singleton]
    constructor
    · rintro (old | new)
      · exact .inr old
      · exact .inl ⟨touches, new.symm⟩
    · rintro (⟨-, new⟩ | old)
      · exact .inr new.symm
      · exact .inl old
  · rename_i apart
    constructor
    · exact .inr
    · rintro (⟨touches, -⟩ | old)
      · exact absurd touches apart
      · exact old

theorem neighbors_nodup_join (h : Consistent g) {e : Edge} (low : g.hasNode e.low = true)
    (high : g.hasNode e.high = true) (fresh : g.edges.contains e = false) (id : Int) :
    ((g.join e).neighborList id).Nodup := by
  rw [neighborList_join h low high]
  split
  · rename_i touches
    have absent : e.opposite id ∉ g.neighborList id := by
      intro member
      have joined := (h.mem_neighbors id (e.opposite id)).mp member
      rw [hasEdge, Edge.between_opposite touches, fresh] at joined
      exact Bool.noConfusion joined
    refine List.nodup_append.mpr ⟨h.neighbors_nodup id, by simp, ?_⟩
    intro old member new single same
    rw [List.mem_singleton.mp single] at same
    exact absent (same ▸ member)
  · exact h.neighbors_nodup id

theorem stampEdge_contains (g : Graph) (e key : Edge) :
    (g.stampEdge e).edgeStamps.contains key = (decide (e = key) || g.edgeStamps.contains key) :=
  Table.contains_insert g.edgeStamps e key g.clock

theorem join_consistent (h : Consistent g) {e : Edge} (low : g.hasNode e.low = true)
    (high : g.hasNode e.high = true) (fresh : g.edges.contains e = false) :
    Consistent ((g.join e).stampEdge e) where
  endpoints := fun key stored => by
    rw [show ((g.join e).stampEdge e).edges.contains key = (g.edges.insert e ()).contains key
      from rfl, Table.contains_insert, Bool.or_eq_true, decide_eq_true_eq] at stored
    rcases stored with rfl | old
    · exact ⟨low, high⟩
    · exact h.endpoints key old
  adjacency_keys := fun id => (contains_mapEnds g.adjacency e _ id).trans (h.adjacency_keys id)
  neighbors_nodup := neighbors_nodup_join h low high fresh
  mem_neighbors := mem_neighbors_join h low high
  nodeStamps_keys := h.nodeStamps_keys
  edgeStamps_keys := fun key => by
    rw [stampEdge_contains, show (g.join e).edgeStamps.contains key = g.edgeStamps.contains key
      from rfl, h.edgeStamps_keys]
    exact (Table.contains_insert g.edges e key ()).symm
  clock_pos := h.clock_pos
  clock_lt := h.clock_lt
  nodeStamp_le := h.nodeStamp_le
  edgeStamp_le := stamp_insert_le h.edgeStamp_le e

theorem stampEdge_consistent (h : Consistent g) {e : Edge} (stored : g.edges.contains e = true) :
    Consistent (g.stampEdge e) :=
  { h with
    edgeStamps_keys := fun key => by
      rw [stampEdge_contains, h.edgeStamps_keys,
        ← show g.edges.contains key = (g.stampEdge e).edges.contains key from rfl]
      by_cases same : e = key
      · rw [← same, stored, Bool.or_true]
      · rw [decide_eq_false same, Bool.false_or]
    edgeStamp_le := stamp_insert_le h.edgeStamp_le e }

/-! ### Edges that go -/

theorem Consistent.neighborList_cut (h : Consistent g) {e : Edge}
    (stored : g.edges.contains e = true) (key : Int) :
    (g.cut e).neighborList key =
      if e.touches key then (g.neighborList key).erase (e.opposite key)
      else g.neighborList key := by
  obtain ⟨low, high⟩ := h.endpoints e stored
  exact h.getD_mapEnds low high _ key

theorem cut_contains (g : Graph) (e key : Edge) :
    (g.cut e).edges.contains key = (!decide (e = key) && g.edges.contains key) :=
  Table.contains_erase g.edges e key

theorem mem_neighbors_cut (h : Consistent g) {e : Edge} (stored : g.edges.contains e = true)
    (a b : Int) : b ∈ (g.cut e).neighborList a ↔ (g.cut e).hasEdge a b = true := by
  rw [h.neighborList_cut stored, hasEdge, cut_contains, Bool.and_eq_true, Bool.not_eq_true',
    decide_eq_false_iff_not, eq_comm (a := e), Edge.between_eq_iff,
    ← show g.hasEdge a b = g.edges.contains (.between a b) from rfl, ← h.mem_neighbors]
  split
  · rename_i touches
    rw [(h.neighbors_nodup a).mem_erase_iff]
    constructor
    · rintro ⟨different, old⟩
      exact ⟨fun same => different same.2.symm, old⟩
    · rintro ⟨different, old⟩
      exact ⟨fun same => different ⟨touches, same.symm⟩, old⟩
  · rename_i apart
    constructor
    · intro old
      exact ⟨fun same => apart same.1, old⟩
    · exact And.right

theorem cut_consistent (h : Consistent g) {e : Edge} (stored : g.edges.contains e = true) :
    Consistent (g.cut e) where
  endpoints := fun key kept => by
    rw [cut_contains, Bool.and_eq_true] at kept
    exact h.endpoints key kept.2
  adjacency_keys := fun id => (contains_mapEnds g.adjacency e _ id).trans (h.adjacency_keys id)
  neighbors_nodup := fun id => by
    rw [h.neighborList_cut stored]
    split
    · exact (h.neighbors_nodup id).erase _
    · exact h.neighbors_nodup id
  mem_neighbors := mem_neighbors_cut h stored
  nodeStamps_keys := h.nodeStamps_keys
  edgeStamps_keys := fun key => by
    rw [cut_contains, ← h.edgeStamps_keys]
    exact Table.contains_erase g.edgeStamps e key
  clock_pos := h.clock_pos
  clock_lt := h.clock_lt
  nodeStamp_le := h.nodeStamp_le
  edgeStamp_le := fun key stamp found => by
    rw [show (g.cut e).edgeStamps.get? key = (g.edgeStamps.erase e).get? key from rfl,
      Table.get?_erase] at found
    split at found
    · cases found
    · exact h.edgeStamp_le key stamp found

theorem removeEdge_consistent (h : Consistent g) (a b : Int) : Consistent (g.removeEdge a b).2 := by
  unfold removeEdge
  dsimp only
  split
  · rename_i stored
    exact cut_consistent h stored
  · exact h

theorem removeEdges_cons (g : Graph) (e : Edge) (rest : List Edge) :
    (g.removeEdges (e :: rest)).2 = ((g.removeEdge e.low e.high).2.removeEdges rest).2 := rfl

theorem removeEdges_consistent (h : Consistent g) (edges : List Edge) :
    Consistent (g.removeEdges edges).2 := by
  induction edges generalizing g with
  | nil => exact h
  | cons e rest ih => exact ih (removeEdge_consistent h e.low e.high)

/-- Removing an edge changes three of the maps at most. -/
theorem removeEdge_frame (g : Graph) (a b : Int) : ∃ edges adjacency edgeStamps,
    (g.removeEdge a b).2 = { g with edges, adjacency, edgeStamps } := by
  unfold removeEdge
  dsimp only
  split <;> exact ⟨_, _, _, rfl⟩

theorem removeEdges_frame (g : Graph) (gone : List Edge) : ∃ edges adjacency edgeStamps,
    (g.removeEdges gone).2 = { g with edges, adjacency, edgeStamps } := by
  induction gone generalizing g with
  | nil => exact ⟨_, _, _, rfl⟩
  | cons e rest ih =>
    obtain ⟨edges, adjacency, edgeStamps, first⟩ := g.removeEdge_frame e.low e.high
    rw [removeEdges_cons, first]
    exact ih { g with edges, adjacency, edgeStamps }

theorem removeEdge_nodes (g : Graph) (a b : Int) : (g.removeEdge a b).2.nodes = g.nodes := by
  obtain ⟨_, _, _, framed⟩ := g.removeEdge_frame a b
  rw [framed]

theorem removeEdges_nodes (g : Graph) (edges : List Edge) :
    (g.removeEdges edges).2.nodes = g.nodes := by
  obtain ⟨_, _, _, framed⟩ := g.removeEdges_frame edges
  rw [framed]

theorem removeEdge_contains (g : Graph) (e key : Edge) :
    (g.removeEdge e.low e.high).2.edges.contains key =
      (!decide (e = key) && g.edges.contains key) := by
  unfold removeEdge
  rw [Edge.between_low_high]
  dsimp only
  split
  · exact cut_contains g e key
  · rename_i missing
    by_cases same : e = key
    · rw [← same, eq_false_of_ne_true missing, Bool.and_false]
    · rw [decide_eq_false same, Bool.not_false, Bool.true_and]

theorem removeEdges_contains (g : Graph) (edges : List Edge) (key : Edge) :
    (g.removeEdges edges).2.edges.contains key =
      (!decide (key ∈ edges) && g.edges.contains key) := by
  induction edges generalizing g with
  | nil => rfl
  | cons e rest ih =>
    rw [removeEdges_cons, ih, removeEdge_contains, ← Bool.and_assoc]
    congr 1
    by_cases here : e = key <;> by_cases later : key ∈ rest <;>
      simp [here, later, eq_comm (a := key)]

/-- No edge is left at a node, and all other edges stay. -/
theorem removeEdgesWith_contains (g : Graph) (id : Int) (key : Edge) :
    (g.removeEdgesWith id).2.edges.contains key =
      (!key.touches id && g.edges.contains key) := by
  unfold removeEdgesWith
  rw [removeEdges_contains]
  unfold edgesAt
  simp only [List.mem_filter, Table.mem_keys]
  cases g.edges.contains key <;> cases key.touches id <;> rfl

/-! ### Nodes that go -/

theorem hasNode_displace (g : Graph) (id key : Int) :
    (g.displace id).hasNode key = (!decide (id = key) && g.hasNode key) :=
  Table.contains_erase g.nodes id key

theorem neighborList_displace (g : Graph) (id key : Int) :
    (g.displace id).neighborList key = if id = key then [] else g.neighborList key := by
  unfold neighborList displace
  rw [Table.get?_erase]
  split <;> rfl

theorem hasNode_removeNode (g : Graph) (id key : Int) :
    (g.removeNode id).2.hasNode key = (!decide (id = key) && g.hasNode key) := by
  unfold removeNode
  split
  · rw [hasNode_displace, removeEdgesWith, hasNode, removeEdges_nodes]
    rfl
  · rename_i absent
    by_cases same : id = key
    · subst same
      simpa using absent
    · simp [same]

theorem removeEdges_nextId (g : Graph) (edges : List Edge) :
    (g.removeEdges edges).2.nextId = g.nextId := by
  obtain ⟨_, _, _, framed⟩ := g.removeEdges_frame edges
  rw [framed]

theorem removeNode_nextId (g : Graph) (id : Int) : (g.removeNode id).2.nextId = g.nextId := by
  unfold removeNode
  split
  · exact g.removeEdges_nextId (g.edgesAt id)
  · rfl

theorem displace_consistent (h : Consistent g) {id : Int}
    (isolated : ∀ e, g.edges.contains e = true → e.touches id = false) :
    Consistent (g.displace id) where
  endpoints := fun e stored => by
    obtain ⟨low, high⟩ := h.endpoints e stored
    have apart := isolated e stored
    simp only [Edge.touches, Bool.or_eq_false_iff, decide_eq_false_iff_not] at apart
    rw [hasNode_displace, hasNode_displace, low, high]
    simp [Ne.symm apart.1, Ne.symm apart.2]
  adjacency_keys := fun key => by
    rw [hasNode_displace, ← h.adjacency_keys]
    exact Table.contains_erase g.adjacency id key
  neighbors_nodup := fun key => by
    rw [neighborList_displace]
    split
    · exact List.nodup_nil
    · exact h.neighbors_nodup key
  mem_neighbors := fun a b => by
    rw [neighborList_displace, ← show g.hasEdge a b = (g.displace id).hasEdge a b from rfl,
      ← h.mem_neighbors]
    split
    · rename_i same
      have none : b ∉ g.neighborList a := by
        intro member
        have joined := (h.mem_neighbors a b).mp member
        have apart := isolated _ joined
        rw [same, Edge.touches_between] at apart
        exact Bool.noConfusion apart
      exact ⟨fun member => absurd member List.not_mem_nil, fun member => absurd member none⟩
    · rfl
  nodeStamps_keys := fun key => by
    rw [hasNode_displace, ← h.nodeStamps_keys]
    exact Table.contains_erase g.nodeStamps id key
  edgeStamps_keys := h.edgeStamps_keys
  clock_pos := h.clock_pos
  clock_lt := h.clock_lt
  nodeStamp_le := fun key stamp found => by
    rw [show (g.displace id).nodeStamps.get? key = (g.nodeStamps.erase id).get? key from rfl,
      Table.get?_erase] at found
    split at found
    · cases found
    · exact h.nodeStamp_le key stamp found
  edgeStamp_le := h.edgeStamp_le

theorem removeNode_consistent (h : Consistent g) (id : Int) : Consistent (g.removeNode id).2 := by
  unfold removeNode
  split
  · refine displace_consistent (removeEdges_consistent h _) fun e stored => ?_
    rw [show (g.removeEdges (g.edgesAt id)).2 = (g.removeEdgesWith id).2 from rfl,
      removeEdgesWith_contains, Bool.and_eq_true, Bool.not_eq_true'] at stored
    exact stored.1
  · exact h

/-! ### Ticks and stamps -/

theorem advance_consistent (h : Consistent g) : Consistent g.advance := by
  unfold advance
  split
  · exact
      { h with
        nodeStamps_keys := fun id => (Table.contains_map ..).trans (h.nodeStamps_keys id)
        edgeStamps_keys := fun e => (Table.contains_map ..).trans (h.edgeStamps_keys e)
        clock_pos := Nat.le_refl 1
        clock_lt := (by decide : 1 < clockLimit)
        nodeStamp_le := fun id stamp found => by
          rw [Table.get?_map, Option.map_eq_some_iff] at found
          obtain ⟨_, -, rfl⟩ := found
          exact Nat.zero_le 1
        edgeStamp_le := fun e stamp found => by
          rw [Table.get?_map, Option.map_eq_some_iff] at found
          obtain ⟨_, -, rfl⟩ := found
          exact Nat.zero_le 1 }
  · rename_i before
    have small := h.clock_lt
    exact
      { h with
        clock_pos := Nat.le_add_left 1 g.clock
        clock_lt := by
          show g.clock + 1 < clockLimit
          omega
        nodeStamp_le := fun id stamp found => Nat.le_succ_of_le (h.nodeStamp_le id stamp found)
        edgeStamp_le := fun e stamp found => Nat.le_succ_of_le (h.edgeStamp_le e stamp found) }

theorem stampNode_consistent (h : Consistent g) {id : Int} (there : g.hasNode id = true) :
    Consistent (g.stampNode id) :=
  { h with
    nodeStamps_keys := fun key => by
      rw [← show g.hasNode key = (g.stampNode id).hasNode key from rfl, ← h.nodeStamps_keys,
        show (g.stampNode id).nodeStamps = g.nodeStamps.insert id g.clock from rfl,
        Table.contains_insert]
      by_cases same : id = key
      · rw [← same, h.nodeStamps_keys, there, Bool.or_true]
      · rw [decide_eq_false same, Bool.false_or]
    nodeStamp_le := stamp_insert_le h.nodeStamp_le id }

/-- Marking changes stamps at most. -/
theorem touchNode_frame (g : Graph) (id : Int) :
    ∃ nodeStamps, g.touchNode id = { g with nodeStamps } := by
  unfold touchNode
  split <;> exact ⟨_, rfl⟩

theorem touchEdge_frame (g : Graph) (a b : Int) :
    ∃ edgeStamps, g.touchEdge a b = { g with edgeStamps } := by
  unfold touchEdge
  dsimp only
  split <;> exact ⟨_, rfl⟩

theorem touchNode_consistent (h : Consistent g) (id : Int) : Consistent (g.touchNode id) := by
  unfold touchNode
  split
  · rename_i there
    exact stampNode_consistent h there
  · exact h

theorem touchEdge_consistent (h : Consistent g) (a b : Int) : Consistent (g.touchEdge a b) := by
  unfold touchEdge
  dsimp only
  split
  · rename_i stored
    exact stampEdge_consistent h stored
  · exact h

/-- The forest has no say in the other maps. -/
theorem forest_consistent (h : Consistent g) (forest : Forest) :
    Consistent { g with forest } :=
  { h with }

end GrowthGrammar.Graph
