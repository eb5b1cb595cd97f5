import GrowthGrammar.Graph.Table

/-!
Forests: who grew out of whom. Every node has one parent at most, and a parent's children are found
in ascending order. A forest may name nodes that no graph has.
-/
namespace GrowthGrammar

structure Forest where
  parents : Table Int Int := .empty
  children : Table Int (KeySet Int) := .empty

namespace Forest

def empty : Forest := {}

def parent? (f : Forest) (id : Int) : Option Int := f.parents.get? id

/-- The children of a node, ascending. -/
def childrenOf (f : Forest) (id : Int) : List Int :=
  match f.children.get? id with
  | some set => set.keys
  | none => []

/-- Takes a child from the children of a parent. No empty set of children is kept. -/
def dropChild (f : Forest) (parent child : Int) : Forest :=
  match f.children.get? parent with
  | none => f
  | some set =>
    let rest := set.erase child
    if rest.isEmpty then { f with children := f.children.erase parent }
    else { f with children := f.children.insert parent rest }

/-- Makes a node the child of another, and of that one only. -/
def attach (f : Forest) (child parent : Int) : Forest :=
  let f := match f.parent? child with
    | some old => if old = parent then f else f.dropChild old child
    | none => f
  let set := (f.children.get? parent).getD .empty
  { parents := f.parents.insert child parent,
    children := f.children.insert parent (set.insert child ()) }

/-- Makes a node a root. -/
def detach (f : Forest) (child : Int) : Forest :=
  match f.parent? child with
  | some parent => { f with parents := f.parents.erase child }.dropChild parent child
  | none => f

/-- Sends the children of a node to a new parent. A child never becomes its own. -/
def moveChildren (f : Forest) (heir : Option Int) (children : List Int) : Forest :=
  children.foldl
    (fun f child =>
      match heir with
      | some parent => if parent = child then f.detach child else f.attach child parent
      | none => f.detach child)
    f

/-- Takes all children from a node. They go to the given heir, or else to the node's own parent, or
else become roots. -/
def release (f : Forest) (id : Int) (heir : Option Int) : Forest :=
  let f := f.moveChildren (heir.orElse fun _ => f.parent? id) (f.childrenOf id)
  { f with children := f.children.erase id }

/-- Takes a node out: its children go to its parent. -/
def remove (f : Forest) (id : Int) : Forest := (f.release id none).detach id

end Forest

end GrowthGrammar
