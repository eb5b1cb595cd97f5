import GrowthGrammar.Graph.Edge
import GrowthGrammar.Graph.Forest

/-!
Graphs: nodes, the undirected edges between them, and the forest of who grew out of whom. A clock
counts the ticks of the growth, and every node and edge is stamped with the tick that touched it
last.
-/
namespace GrowthGrammar

/-- The neighbours of a node stand in the order in which its edges were made. `nextId` is where the
search for a free id starts. -/
structure Graph where
  nodes : KeySet Int := .empty
  edges : KeySet Edge := .empty
  adjacency : Table Int (List Int) := .empty
  nodeStamps : Table Int Nat := .empty
  edgeStamps : Table Edge Nat := .empty
  forest : Forest := {}
  nextId : Int := 0
  clock : Nat := 1

/-- Why a graph refuses an operation. The last one tells of a node that is in a graph but has no
attributes. -/
inductive GraphFault where
  | missing (id : Int)
  | duplicate (id : Int)
  | noAttributes (id : Int)
  deriving DecidableEq

def GraphFault.message : GraphFault → String
  | .missing id => s!"Missing node {id}"
  | .duplicate id => s!"Duplicate node {id}"
  | .noAttributes id => toString id

/-- Work on a graph may stop at a fault, and what was done before stays done. -/
abbrev GraphWork (α : Type) := ExceptT GraphFault (StateM Graph) α

namespace Graph

def empty : Graph := {}

/-! ### Questions -/

/-- The ids of the nodes, ascending. -/
def ids (g : Graph) : List Int := g.nodes.keys

def isEmpty (g : Graph) : Bool := g.nodes.isEmpty

/-- The number of nodes. -/
def order (g : Graph) : Nat := g.nodes.size

/-- The number of edges. -/
def size (g : Graph) : Nat := g.edges.size

def hasNode (g : Graph) (id : Int) : Bool := g.nodes.contains id

def hasEdge (g : Graph) (a b : Int) : Bool := g.edges.contains (.between a b)

def neighborList (g : Graph) (id : Int) : List Int := (g.adjacency.get? id).getD []

def neighbors (g : Graph) (id : Int) : Except GraphFault (List Int) :=
  if g.hasNode id then .ok (g.neighborList id) else .error (.missing id)

def degree (g : Graph) (id : Int) : Except GraphFault Nat := (g.neighbors id).map List.length

def roots (g : Graph) : List Int := g.ids.filter fun id => (g.forest.parent? id).isNone

def summary (g : Graph) : String :=
  s!"DirtyGraph(order={g.order}, size={g.size}, generation={g.clock})"

/-! ### Nodes and edges -/

/-- The first free id from a number on, given the ids in use in ascending order. -/
def firstFree (start : Int) (ids : List Int) : Int :=
  ids.foldl (fun next id => if id = next then next + 1 else next) start

/-- Puts an isolated node under an id. -/
def place (g : Graph) (id : Int) : Graph :=
  { g with
    nodes := g.nodes.insert id (),
    adjacency := g.adjacency.insert id [],
    nodeStamps := g.nodeStamps.insert id g.clock }

/-- Adds an isolated node under an id of the caller's choice. -/
def addNodeWith (id : Int) : GraphWork Unit := do
  if (← get).hasNode id then throw (.duplicate id)
  modify (·.place id)

/-- Adds an isolated node under a free id. The search for one never goes back, even if nodes are
removed. -/
def addNode (g : Graph) : Int × Graph :=
  let id := firstFree g.nextId g.ids
  (id, { g.place id with nextId := id + 1 })

/-- Changes the neighbours at both ends of an edge. What changes them is told of the other end. -/
def mapEnds (adjacency : Table Int (List Int)) (e : Edge) (f : Int → List Int → List Int) :
    Table Int (List Int) :=
  let adjacency := adjacency.modify e.low (f e.high)
  if e.isLoop then adjacency else adjacency.modify e.high (f e.low)

/-- Joins two nodes by an edge that is not there yet. -/
def join (g : Graph) (e : Edge) : Graph :=
  { g with
    edges := g.edges.insert e (),
    adjacency := mapEnds g.adjacency e fun other around => around ++ [other] }

def stampNode (g : Graph) (id : Int) : Graph :=
  { g with nodeStamps := g.nodeStamps.insert id g.clock }

def stampEdge (g : Graph) (e : Edge) : Graph :=
  { g with edgeStamps := g.edgeStamps.insert e g.clock }

def require (id : Int) : GraphWork Unit := do
  if !(← get).hasNode id then throw (.missing id)

/-- Adds an edge. One that is there already is only stamped anew. -/
def addEdge (a b : Int) : GraphWork Unit := do
  require a
  require b
  let e := Edge.between a b
  if !(← get).edges.contains e then modify (·.join e)
  modify (·.stampEdge e)

def cut (g : Graph) (e : Edge) : Graph :=
  { g with
    edges := g.edges.erase e,
    adjacency := mapEnds g.adjacency e fun other around => around.erase other,
    edgeStamps := g.edgeStamps.erase e }

/-- Removes an edge, if it is there, and tells how many edges are gone. -/
def removeEdge (g : Graph) (a b : Int) : Nat × Graph :=
  let e := Edge.between a b
  if g.edges.contains e then (1, g.cut e) else (0, g)

def removeEdges (g : Graph) : List Edge → Nat × Graph
  | [] => (0, g)
  | e :: rest =>
    let (removed, g) := g.removeEdge e.low e.high
    let (others, g) := removeEdges g rest
    (removed + others, g)

def edgesAt (g : Graph) (id : Int) : List Edge := g.edges.keys.filter (·.touches id)

def removeEdgesWith (g : Graph) (id : Int) : Nat × Graph := g.removeEdges (g.edgesAt id)

/-- Takes a node without edges out of the graph. Its children go to its parent. -/
def displace (g : Graph) (id : Int) : Graph :=
  { g with
    nodes := g.nodes.erase id,
    adjacency := g.adjacency.erase id,
    nodeStamps := g.nodeStamps.erase id,
    forest := g.forest.remove id }

/-- Removes a node with its edges, if it is there, and tells how many nodes are gone. -/
def removeNode (g : Graph) (id : Int) : Nat × Graph :=
  if g.hasNode id then (1, (g.removeEdgesWith id).2.displace id) else (0, g)

/-! ### Ticks -/

/-- The clock starts again before it gets here, so that a stamp fits a byte. -/
def clockLimit : Nat := 255

/-- Starts a new tick. When the clock starts again, all stamps are taken back to zero. -/
def advance (g : Graph) : Graph :=
  if g.clock + 1 = clockLimit then
    { g with
      nodeStamps := g.nodeStamps.map fun _ _ => 0,
      edgeStamps := g.edgeStamps.map fun _ _ => 0,
      clock := 1 }
  else { g with clock := g.clock + 1 }

def stamp? (g : Graph) (id : Int) : Option Nat := g.nodeStamps.get? id

/-- Whether a node was touched in this tick. -/
def nodeIsDirty (g : Graph) (id : Int) : Bool :=
  g.hasNode id && decide (g.clock ≤ (g.nodeStamps.get? id).getD 0)

def edgeIsDirty (g : Graph) (a b : Int) : Bool :=
  let e := Edge.between a b
  g.edges.contains e && decide (g.clock ≤ (g.edgeStamps.get? e).getD 0)

def touchNode (g : Graph) (id : Int) : Graph := if g.hasNode id then g.stampNode id else g

def touchEdge (g : Graph) (a b : Int) : Graph :=
  let e := Edge.between a b
  if g.edges.contains e then g.stampEdge e else g

/-! ### The forest -/

def attach (g : Graph) (child parent : Int) : Graph :=
  { g with forest := g.forest.attach child parent }

def detach (g : Graph) (child : Int) : Graph := { g with forest := g.forest.detach child }

def release (g : Graph) (id : Int) (heir : Option Int) : Graph :=
  { g with forest := g.forest.release id heir }

end Graph

end GrowthGrammar
