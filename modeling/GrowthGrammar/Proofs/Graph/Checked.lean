import GrowthGrammar.Proofs.Scene.Soundness

/-!
Checked operations: the operations of graphs and scenes that ask for the key of a map or for the
member of a list, with a lapse as their answer where it is missing. What the plain operations do
there is of no concern: in a sound scene nothing is missing, and both do the same.
-/
namespace GrowthGrammar

/-- What is not where it has to be: a key of bindings, of a symmetry, of the tables that the search
for symmetries makes for the declared ids, of the pattern nodes, of attributes or of neighbours, or
a member of a list of neighbours. An operation may refuse its operands, too. -/
inductive Lapse where
  | unbound (patternId : Int)
  | unmapped (patternId : Int)
  | undeclared (patternId : Int)
  | noPatternNode (cursor : Int)
  | noAttributes (id : Int)
  | noNeighbors (id : Int)
  | unlisted (neighbor : Int)
  | refused (fault : GraphFault)

namespace Graph.Checked

/-! ### Operations with checks -/

def neighborList (g : Graph) (id : Int) : Except Lapse (List Int) :=
  match g.adjacency.get? id with
  | some around => .ok around
  | none => .error (.noNeighbors id)

def neighbors (g : Graph) (id : Int) : Except Lapse (List Int) :=
  if g.hasNode id then neighborList g id else .error (.refused (.missing id))

/-- Changes the neighbours of a node. -/
def changeEnd (adjacency : Table Int (List Int)) (id : Int)
    (f : List Int → Except Lapse (List Int)) : Except Lapse (Table Int (List Int)) :=
  match adjacency.get? id with
  | some around => (f around).map (adjacency.insert id)
  | none => .error (.noNeighbors id)

/-- Changes the neighbours at both ends of an edge. What changes them is told of the other end. -/
def changeEnds (adjacency : Table Int (List Int)) (e : Edge)
    (f : Int → List Int → Except Lapse (List Int)) : Except Lapse (Table Int (List Int)) := do
  let adjacency ← changeEnd adjacency e.low (f e.high)
  if e.isLoop then return adjacency else changeEnd adjacency e.high (f e.low)

def join (g : Graph) (e : Edge) : Except Lapse Graph := do
  let adjacency ← changeEnds g.adjacency e fun other around => .ok (around ++ [other])
  return { g with edges := g.edges.insert e (), adjacency }

def withEdge (g : Graph) (e : Edge) : Except Lapse Graph := do
  let joined ← if g.edges.contains e then pure g else join g e
  return joined.stampEdge e

def addEdge (g : Graph) (a b : Int) : Except Lapse Graph :=
  if !g.hasNode a then .error (.refused (.missing a))
  else if !g.hasNode b then .error (.refused (.missing b))
  else withEdge g (.between a b)

/-- Takes a neighbour out of a list. -/
def takeOut (other : Int) (around : List Int) : Except Lapse (List Int) :=
  if other ∈ around then .ok (around.erase other) else .error (.unlisted other)

def cut (g : Graph) (e : Edge) : Except Lapse Graph := do
  let adjacency ← changeEnds g.adjacency e takeOut
  return { g with edges := g.edges.erase e, adjacency, edgeStamps := g.edgeStamps.erase e }

def removeEdge (g : Graph) (a b : Int) : Except Lapse Graph :=
  let e := Edge.between a b
  if g.edges.contains e then cut g e else .ok g

def removeEdges (g : Graph) (edges : List Edge) : Except Lapse Graph :=
  edges.foldlM (fun g e => removeEdge g e.low e.high) g

def removeNode (g : Graph) (id : Int) : Except Lapse Graph := do
  if g.hasNode id then return (← removeEdges g (g.edgesAt id)).displace id else return g

def addNode (g : Graph) : Except Lapse (Int × Graph) :=
  let id := firstFree g.nextId g.ids
  if g.hasNode id then .error (.refused (.duplicate id))
  else .ok (id, { g.place id with nextId := id + 1 })

/-! ### Nothing is missing -/

variable {g : Graph} {adjacency : Table Int (List Int)} {id : Int} {e : Edge}

theorem neighbors_ok (h : Consistent g) (there : g.hasNode id = true) :
    neighbors g id = .ok (g.neighborList id) := by
  obtain ⟨around, found⟩ := Table.contains_iff.mp (h.has_adjacency there)
  rw [neighbors, if_pos there, neighborList, Graph.neighborList, found]
  rfl

theorem changeEnd_ok {f : List Int → Except Lapse (List Int)} {change : List Int → List Int}
    (there : adjacency.contains id = true)
    (changed : ∀ around, adjacency.get? id = some around → f around = .ok (change around)) :
    changeEnd adjacency id f = .ok (adjacency.modify id change) := by
  obtain ⟨around, found⟩ := Table.contains_iff.mp there
  rw [changeEnd, Table.modify, found]
  dsimp only
  rw [changed around found]
  rfl

/-- The second end is asked for when the first one has changed already, but that is another node. -/
theorem changeEnds_ok {f : Int → List Int → Except Lapse (List Int)}
    (change : Int → List Int → List Int) (low : adjacency.contains e.low = true)
    (high : adjacency.contains e.high = true)
    (changed : ∀ id around, e.touches id = true → adjacency.get? id = some around →
      f (e.opposite id) around = .ok (change (e.opposite id) around)) :
    changeEnds adjacency e f = .ok (mapEnds adjacency e change) := by
  have atLow : ∀ around, adjacency.get? e.low = some around →
      f e.high around = .ok (change e.high around) := by
    intro around found
    simpa [Edge.opposite] using changed e.low around (by simp [Edge.touches]) found
  unfold changeEnds mapEnds
  rw [changeEnd_ok low atLow]
  show (if e.isLoop then _ else _) = _
  split
  · rfl
  · rename_i noLoop
    have different : e.low ≠ e.high := of_decide_eq_false (eq_false_of_ne_true noLoop)
    refine changeEnd_ok ((Table.contains_modify ..).trans high) fun around found => ?_
    rw [Table.get?_modify, if_neg different] at found
    simpa [Edge.opposite, different] using changed e.high around (by simp [Edge.touches]) found

theorem join_ok (h : Consistent g) (low : g.hasNode e.low = true) (high : g.hasNode e.high = true) :
    join g e = .ok (g.join e) := by
  rw [join, changeEnds_ok (fun other around => around ++ [other]) (h.has_adjacency low)
    (h.has_adjacency high) fun _ _ _ _ => rfl]
  rfl

theorem addEdge_ok {a b : Int} (h : Consistent g) (first : g.hasNode a = true)
    (second : g.hasNode b = true) : addEdge g a b = .ok (g.withEdge (.between a b)) := by
  have ends : ∀ id, (Edge.between a b).touches id = true → g.hasNode id = true := by
    intro id touches
    rcases Edge.touches_between_iff.mp touches with rfl | rfl
    · exact first
    · exact second
  have joined : join g (.between a b) = .ok (g.join (.between a b)) :=
    join_ok h (ends _ (by simp [Edge.touches])) (ends _ (by simp [Edge.touches]))
  rw [addEdge, first, second]
  show withEdge g (.between a b) = _
  unfold withEdge Graph.withEdge
  rw [joined]
  split <;> rfl

theorem cut_ok (h : Consistent g) (stored : g.edges.contains e = true) :
    cut g e = .ok (g.cut e) := by
  obtain ⟨low, high⟩ := h.endpoints e stored
  have changed : changeEnds g.adjacency e takeOut =
      .ok (mapEnds g.adjacency e fun other around => around.erase other) := by
    refine changeEnds_ok (fun other around => around.erase other) (h.has_adjacency low)
      (h.has_adjacency high) fun id around touches found => if_pos ?_
    have joined : g.hasEdge id (e.opposite id) = true := by
      rwa [hasEdge, Edge.between_opposite touches]
    have listed := (h.mem_neighbors id (e.opposite id)).mpr joined
    rwa [Graph.neighborList, found] at listed
  rw [cut, changed]
  rfl

theorem removeEdge_ok (h : Consistent g) (a b : Int) :
    removeEdge g a b = .ok (g.removeEdge a b).2 := by
  unfold removeEdge Graph.removeEdge
  dsimp only
  split
  · rename_i stored
    exact cut_ok h stored
  · rfl

theorem removeEdges_ok (h : Consistent g) (edges : List Edge) :
    removeEdges g edges = .ok (g.removeEdges edges).2 := by
  induction edges generalizing g with
  | nil => rfl
  | cons e rest ih =>
    rw [removeEdges, List.foldlM_cons, removeEdge_ok h, removeEdges_cons]
    exact ih (removeEdge_consistent h e.low e.high)

theorem removeNode_ok (h : Consistent g) (id : Int) :
    removeNode g id = .ok (g.removeNode id).2 := by
  unfold removeNode Graph.removeNode
  split
  · rw [removeEdges_ok h]
    rfl
  · rfl

/-- Where the maps of a graph disagree there are lapses: here the ends of an edge have no neighbours.
-/
example : removeNode { nodes := Table.empty.insert 0 (), edges := Table.empty.insert (.between 0 0) () }
    0 = .error (.noNeighbors 0) := rfl

theorem addNode_ok (g : Graph) : addNode g = .ok g.addNode :=
  if_neg (ne_true_of_eq_false g.addNode_fresh)

end Graph.Checked

namespace Scene.Checked

def attributes (s : Scene) (id : Int) : Except Lapse Node :=
  match s.node? id with
  | some node => .ok node
  | none => .error (.noAttributes id)

def insert (s : Scene) (node : Node) : Except Lapse (Int × Scene) := do
  let (id, graph) ← Graph.Checked.addNode s.graph
  return (id, ⟨graph, s.nodes.put id node⟩)

def remove (s : Scene) (id : Int) : Except Lapse Scene := do
  return ⟨← Graph.Checked.removeNode s.graph id, s.nodes.erase id⟩

def replace (s : Scene) (id : Int) (node : Node) : Except Lapse Scene :=
  if s.contains id then .ok { s with nodes := s.nodes.put id node }
  else .error (.refused (.missing id))

def addEdge (s : Scene) (a b : Int) : Except Lapse Scene := do
  return { s with graph := ← Graph.Checked.addEdge s.graph a b }

variable {s : Scene} {id : Int}

theorem attributes_ok (there : s.contains id = true) :
    ∃ node, s.node? id = some node ∧ attributes s id = .ok node := by
  rw [Scene.contains, Catalog.contains_eq_isSome_get?, Option.isSome_iff_exists] at there
  obtain ⟨node, found⟩ := there
  have known : s.node? id = some node := found
  refine ⟨node, known, ?_⟩
  rw [attributes, known]

theorem insert_ok (s : Scene) (node : Node) : insert s node = .ok (s.insert node) := by
  rw [insert, Graph.Checked.addNode_ok]
  rfl

theorem remove_ok (h : s.Sound) (id : Int) : remove s id = .ok (s.remove id).2 := by
  rw [remove, Graph.Checked.removeNode_ok h.consistent]
  rfl

theorem addEdge_ok {a b : Int} (h : s.Sound) (first : s.contains a = true)
    (second : s.contains b = true) :
    addEdge s a b = .ok (s.mapGraph (·.withEdge (.between a b))) := by
  rw [h.inStep] at first second
  rw [addEdge, Graph.Checked.addEdge_ok h.consistent first second]
  rfl

end Scene.Checked

end GrowthGrammar
