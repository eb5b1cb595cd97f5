import GrowthGrammar.Graph.Edge
import GrowthGrammar.Graph.Node
import GrowthGrammar.Pattern.Condition
import GrowthGrammar.Report

/-!
Patterns: the nodes that a rule looks for, under ids of their own, and the edges that have to be
between them.
-/
namespace GrowthGrammar

/-- A pattern node without a name accepts any. -/
structure PatternNode where
  id : Int
  name? : Option Spelling := none
  conditions : Catalog Spelling Condition := .empty

/-- Whether a node is one that the pattern node looks for. Conditions count only where values are
checked; a condition on an attribute that is not there fails. -/
def PatternNode.accepts (p : PatternNode) (node : Node) (checkValues : Bool) : Bool :=
  (match p.name? with
    | some name => name == node.name
    | none => true) &&
  (!checkValues || p.conditions.entries.all fun (key, condition) =>
    match node.get? key with
    | some v => condition.holds v
    | none => false)

/-- The nodes stand in the order of their declaration. -/
structure Pattern where
  nodes : List PatternNode
  edges : List (Int × Int)
  distinct : (nodes.map (·.id)).Nodup
  declared : ∀ e ∈ edges, e.1 ∈ nodes.map (·.id) ∧ e.2 ∈ nodes.map (·.id)

inductive PatternFault where
  | duplicate (id : Int)
  | undeclared (edge : Int × Int) (id : Int)
  deriving DecidableEq

/-- An edge as it was given. -/
def writePair (a b : Int) : Except NumberFault String := do
  let a ← Numeral.write a
  let b ← Numeral.write b
  return s!"({a}, {b})"

/-- The report names the id, which fails if the id has too many digits. -/
def PatternFault.report : PatternFault → Except NumberFault Report
  | .duplicate id => do
    let shown ← Numeral.write id
    return ⟨"duplicate_pattern_id", s!"Pattern id {shown} declared twice",
      [("pattern_id", .ok shown)]⟩
  | .undeclared (a, b) id => do
    let shown ← Numeral.write id
    return ⟨"unknown_pattern_id", s!"Pattern edge references undeclared id {shown}",
      [("edge", writePair a b), ("pattern_id", .ok shown)]⟩

namespace Pattern

def ids (p : Pattern) : List Int := p.nodes.map (·.id)

/-- The first id that stands in the list a second time. -/
def firstRepeated? (seen : List Int) : List Int → Option Int
  | [] => none
  | id :: rest => if id ∈ seen then some id else firstRepeated? (id :: seen) rest

theorem nodup_of_firstRepeated? {seen ids : List Int} (h : firstRepeated? seen ids = none) :
    ids.Nodup ∧ ∀ id ∈ ids, id ∉ seen := by
  induction ids generalizing seen with
  | nil => simp
  | cons id rest ih =>
    unfold firstRepeated? at h
    split at h
    · simp at h
    · rename_i absent
      obtain ⟨distinct, apart⟩ := ih h
      refine ⟨List.nodup_cons.mpr ⟨fun member => apart id member List.mem_cons_self, distinct⟩, ?_⟩
      intro other member
      rcases List.mem_cons.mp member with rfl | member
      · exact absent
      · exact fun seenOther => apart other member (List.mem_cons_of_mem _ seenOther)

/-- The first endpoint of an edge that is not among the ids, with its edge. -/
def firstUndeclared? (ids : List Int) : List (Int × Int) → Option ((Int × Int) × Int)
  | [] => none
  | (a, b) :: rest =>
    if a ∉ ids then some ((a, b), a)
    else if b ∉ ids then some ((a, b), b)
    else firstUndeclared? ids rest

theorem declared_of_firstUndeclared? {ids : List Int} {edges : List (Int × Int)}
    (h : firstUndeclared? ids edges = none) : ∀ e ∈ edges, e.1 ∈ ids ∧ e.2 ∈ ids := by
  induction edges with
  | nil => simp
  | cons head rest ih =>
    obtain ⟨a, b⟩ := head
    unfold firstUndeclared? at h
    split at h
    · simp at h
    · rename_i first
      split at h
      · simp at h
      · rename_i second
        intro e member
        rcases List.mem_cons.mp member with rfl | member
        · exact ⟨by simpa using first, by simpa using second⟩
        · exact ih h e member

/-- The pattern of these nodes and edges, if the ids are distinct and the edges join declared ones.
-/
def ofParts? (nodes : List PatternNode) (edges : List (Int × Int)) : Except PatternFault Pattern :=
  match distinct : firstRepeated? [] (nodes.map (·.id)) with
  | some id => .error (.duplicate id)
  | none =>
    match declared : firstUndeclared? (nodes.map (·.id)) edges with
    | some (edge, id) => .error (.undeclared edge id)
    | none =>
      .ok ⟨nodes, edges, (nodup_of_firstRepeated? distinct).1,
        declared_of_firstUndeclared? declared⟩

def hasEdge (p : Pattern) (a b : Int) : Bool :=
  p.edges.any fun e => Edge.between e.1 e.2 = Edge.between a b

/-- The edges, each once, in ascending order. -/
def edgeSet (p : Pattern) : KeySet Edge :=
  p.edges.foldl (fun set (a, b) => set.insert (.between a b) ()) .empty

/-- How many nodes of the pattern a node has an edge to, itself included if it has a loop. -/
def degree (p : Pattern) (id : Int) : Nat := (p.ids.filter (p.hasEdge id)).length

def node? (p : Pattern) (id : Int) : Option PatternNode := p.nodes.find? fun node => node.id = id

end Pattern

end GrowthGrammar
