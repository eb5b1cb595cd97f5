import GrowthGrammar.Graph.Basic
import GrowthGrammar.Graph.Node

/-!
Scenes: a graph together with what its nodes carry. The operations here change both together, so
that a scene that only they have made has attributes for exactly the nodes of its graph.
-/
namespace GrowthGrammar

structure Scene where
  graph : Graph := {}
  nodes : Catalog Int Node := .empty

/-- Work on a scene may stop at a fault, and what was done before stays done. -/
abbrev SceneWork (α : Type) := ExceptT GraphFault (StateM Scene) α

def SceneWork.onGraph {α : Type} (work : GraphWork α) : SceneWork α :=
  ExceptT.mk <| modifyGet fun s =>
    let (result, graph) := work.run s.graph
    (result, { s with graph })

namespace Scene

def empty : Scene := {}

/-! ### Questions -/

/-- Whether the scene has attributes for a node. -/
def contains (s : Scene) (id : Int) : Bool := s.nodes.contains id

def node? (s : Scene) (id : Int) : Option Node := s.nodes.get? id

def getNode (s : Scene) (id : Int) : Except GraphFault Node :=
  match s.node? id with
  | some node => .ok node
  | none => .error (.missing id)

def order (s : Scene) : Nat := s.graph.order

def summary (s : Scene) : String := s!"RggGraph(order={s.order}, size={s.graph.size})"

/-! ### Changes -/

def insert (s : Scene) (node : Node) : Int × Scene :=
  let (id, graph) := s.graph.addNode
  (id, ⟨graph, s.nodes.put id node⟩)

/-- Adds a node under an id of the caller's choice. -/
def insertAt (id : Int) (node : Node) : SceneWork Unit := do
  SceneWork.onGraph (Graph.addNodeWith id)
  modify fun s => { s with nodes := s.nodes.put id node }

/-- Removes a node, if it is there, and tells how many nodes are gone. -/
def remove (s : Scene) (id : Int) : Nat × Scene :=
  let (count, graph) := s.graph.removeNode id
  (count, ⟨graph, s.nodes.erase id⟩)

/-- Gives a node other attributes. Its edges stay. -/
def replace (id : Int) (node : Node) : SceneWork Unit := do
  if !(← get).contains id then throw (.missing id)
  modify fun s => { s with nodes := s.nodes.put id node }

def addEdge (a b : Int) : SceneWork Unit := SceneWork.onGraph (Graph.addEdge a b)

def mapGraph (s : Scene) (f : Graph → Graph) : Scene := { s with graph := f s.graph }

end Scene

end GrowthGrammar
