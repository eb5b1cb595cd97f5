import GrowthGrammar.Scene.Basic

/-!
The hierarchy: the nodes of a graph in the order of its forest, each before its children, and the
drawing of a scene that follows that order.
-/
namespace GrowthGrammar

namespace Graph

/-- Walks the forest depth first, through those of the remaining nodes that are reached from the
pending ones. Every node is met once at most, whatever the forest says. -/
def walk (g : Graph) (remaining pending : List Int) : List Int :=
  match pending with
  | [] => []
  | id :: pending =>
    if id ∈ remaining then id :: g.walk (remaining.erase id) (g.forest.childrenOf id ++ pending)
    else g.walk remaining pending
termination_by (remaining.length, pending.length)
decreasing_by
  · rename_i member
    have shorter := List.length_erase_of_mem member
    have nonempty := List.length_pos_of_mem member
    exact Prod.Lex.left _ _ (by omega)
  · exact Prod.Lex.right _ (by simp)

/-- All nodes: the roots ascending, each followed by its descendants, children ascending. Nodes that
no root leads to come last. -/
def hierarchy (g : Graph) : List Int :=
  let reached := g.walk g.ids g.roots
  reached ++ g.ids.filter fun id => id ∉ reached

end Graph

namespace Scene

def quotedName (name : Spelling) : Spelling :=
  .ofPoints (name.points.flatMap fun point =>
    if point = .char '"' then [.char '\\', point] else [point])

def dotNode (s : Scene) (id : Int) : Except GraphFault Spelling :=
  match s.node? id with
  | some node =>
    .ok (.plain s!"    {id} [label=\"" ++ quotedName node.name ++ .plain "\"];")
  | none => .error (.noAttributes id)

/-- The scene as a drawing: the nodes, the edges and, dashed, who grew out of whom. -/
def dot (s : Scene) : Except GraphFault Spelling := do
  let ids := s.graph.hierarchy
  let nodes ← ids.mapM s.dotNode
  let edges := s.graph.edges.keys.map fun e => Spelling.plain s!"    {e.low} -- {e.high};"
  let ancestry := ids.filterMap fun id =>
    (s.graph.forest.parent? id).map fun parent =>
      Spelling.plain s!"    {parent} -- {id} [style=dashed];"
  let head := Spelling.plain "graph \x7b"
  return .intercalate "\n" (head :: nodes ++ edges ++ ancestry ++ [Spelling.plain "\x7d"])

end Scene

end GrowthGrammar
