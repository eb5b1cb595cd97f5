import GrowthGrammar.Data.Number
import GrowthGrammar.Graph.Catalog

/-!
Nodes: what a node of a graph carries, a name and attributes.
-/
namespace GrowthGrammar

structure Node where
  name : Spelling := ""
  attributes : Catalog Spelling Scalar := .empty

namespace Node

/-- The node with the given numbers as attributes. -/
def ofNumbers (name : Spelling) (numbers : List (Spelling × Data)) : Except NumberFault Node := do
  let attributes ← numbers.mapM fun (key, number) => return (key, ← number.toScalar)
  return ⟨name, .ofList attributes⟩

def get? (node : Node) (key : Spelling) : Option Scalar := node.attributes.get? key

def put (node : Node) (key : Spelling) (value : Scalar) : Node :=
  { node with attributes := node.attributes.put key value }

def toData (node : Node) : Data :=
  .map [(.text "name", .text node.name),
    (.text "values", .map (node.attributes.entries.map fun (key, v) => (.text key, v.toData)))]

end Node

end GrowthGrammar
