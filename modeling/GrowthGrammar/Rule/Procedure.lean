import GrowthGrammar.Rule.Site

/-!
Procedures: what a rule does with each of its matches. A procedure names nodes by their pattern ids
and looks them up in the bindings of the match; one that takes a node away takes its pattern id from
the bindings too. It fails, and changes nothing, if one of its nodes is not bound or not there.
-/
namespace GrowthGrammar

inductive Procedure where
  | delete (target : Int)
  | replace (target : Int) (replacement : Template)
  | add (neighbors : List Int) (node : Template)
  | merge (targets : List Int) (survivor : Int)

/-- The node that a pattern id is bound to, if that node is there. -/
def Bindings.live? (b : Bindings) (s : Scene) (patternId : Int) : Option Int :=
  (b.get? patternId).filter s.contains

namespace Procedure

def kind : Procedure → String
  | .delete _ => "delete"
  | .replace .. => "replace"
  | .add .. => "add"
  | .merge .. => "merge"

/-- The pattern ids that the procedure names. Those of a merge are named once each, the survivor
last unless it is among the targets. -/
def references : Procedure → List Int
  | .delete target | .replace target _ => [target]
  | .add neighbors _ => neighbors
  | .merge targets survivor =>
    let targets := targets.eraseDups
    if survivor ∈ targets then targets else targets ++ [survivor]

def targetsBound (p : Procedure) (b : Bindings) : Bool :=
  p.references.all fun patternId => (b.get? patternId).isSome

def targetsLive (p : Procedure) (b : Bindings) (s : Scene) : Bool :=
  p.references.all fun patternId => (b.live? s patternId).isSome

/-! ### Single procedures -/

/-- The nodes bound to pattern ids, or the first pattern id without one. -/
def resolve (s : Scene) (b : Bindings) (patternIds : List Int) : Except Int (List Int) :=
  patternIds.mapM fun patternId =>
    match b.live? s patternId with
    | some id => .ok id
    | none => .error patternId

def delete? (target : Int) (b : Bindings) : SiteWork (Outcome × Bindings) := do
  match b.live? (← SiteWork.scene) target with
  | none =>
    SiteWork.note (.unbound "Delete" target b)
    return (.failed, b)
  | some id =>
    SiteWork.change fun s => (s.remove id).2
    return (.removed [id], b.erase target)

/-- Puts a new node in the place of a node. The formulas see the old one. -/
def replace? (target : Int) (replacement : Template) (b : Bindings) :
    SiteWork (Outcome × Bindings) := do
  let s ← SiteWork.scene
  match b.live? s target with
  | none =>
    SiteWork.note (.unbound "Replace" target b)
    return (.failed, b)
  | some id =>
    let node ← SiteWork.make replacement (s.node? id)
    SiteWork.onScene (Scene.replace id node)
    SiteWork.change fun s => s.mapGraph (·.touchNode id)
    return (.modified [id], b)

/-- Adds a node with edges to its neighbours. It is a child of the first neighbour, which the
formulas see. -/
def add? (neighbors : List Int) (node : Template) (b : Bindings) :
    SiteWork (Outcome × Bindings) := do
  let s ← SiteWork.scene
  match resolve s b neighbors with
  | .error patternId =>
    SiteWork.note (.noNeighbor patternId b)
    return (.failed, b)
  | .ok ids =>
    let node ← SiteWork.make node (ids.head?.bind s.node?)
    let id ← SiteWork.insert node
    ids.forM fun neighbor => SiteWork.onScene (Scene.addEdge id neighbor)
    if let some parent := ids.head? then
      SiteWork.change fun s => s.mapGraph (·.attach id parent)
    return (.added [id], b)

/-- The neighbours of some nodes that are none of them, each once, in the order in which they are
met. -/
def outerNeighbors (g : Graph) (ids : List Int) : Except GraphFault (List Int) := do
  let around ← ids.mapM g.neighbors
  return (around.flatten.filter fun id => id ∉ ids).eraseDups

/-- The first parent of some nodes that is none of them. -/
def outerParent? (g : Graph) (ids : List Int) : Option Int :=
  ids.findSome? fun id => (g.forest.parent? id).filter fun parent => parent ∉ ids

/-- Removes a node. Its children go to the survivor. -/
def absorb (survivor : Int) (s : Scene) (id : Int) : Scene :=
  ((s.mapGraph (·.release id (some survivor))).remove id).2

/-- Collapses nodes into one of them, which takes over the edges and children of all and is a child
of the first parent found. -/
def merge? (references : List Int) (survivor : Int) (b : Bindings) :
    SiteWork (Outcome × Bindings) := do
  let s ← SiteWork.scene
  match resolve s b references, b.get? survivor with
  | .error patternId, _ =>
    SiteWork.note (.unbound "Merge" patternId b)
    return (.failed, b)
  | .ok _, none =>
    SiteWork.note (.unbound "Merge" survivor b)
    return (.failed, b)
  | .ok ids, some survivorId =>
    let neighbors ← SiteWork.ask (outerNeighbors s.graph ids)
    let parent := outerParent? s.graph ids
    let absorbed := (references.zip ids).filter fun (_, id) => id ≠ survivorId
    let removed := absorbed.map (·.2)
    SiteWork.change fun s => removed.foldl (absorb survivorId) s
    neighbors.forM fun neighbor => SiteWork.onScene (Scene.addEdge survivorId neighbor)
    if let some parent := parent then
      SiteWork.change fun s => s.mapGraph (·.attach survivorId parent)
    SiteWork.change fun s => s.mapGraph (·.touchNode survivorId)
    return (.removed removed, absorbed.foldl (fun b (patternId, _) => b.erase patternId) b)

def apply (p : Procedure) (b : Bindings) : SiteWork (Outcome × Bindings) :=
  match p with
  | .delete target => delete? target b
  | .replace target replacement => replace? target replacement b
  | .add neighbors node => add? neighbors node b
  | .merge _ survivor => merge? p.references survivor b

/-- The procedure as it is written in rule files. A merge names its survivor first. -/
def toData : Procedure → Data
  | .delete target => .map [(.text "delete", .int target)]
  | .replace target replacement =>
    .map [(.text "replace", .map [(.text "target", .int target),
      (.text "with", replacement.toData)])]
  | .add neighbors node =>
    .map [(.text "add", .map [(.text "neighbors", .list (neighbors.map .int)),
      (.text "node", node.toData)])]
  | .merge targets survivor => .map [(.text "merge", .list (.int survivor :: targets.map .int))]

end Procedure

end GrowthGrammar
