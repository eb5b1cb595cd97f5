/-!
Outcomes: what procedures did to a graph, one by one and summed up.
-/
namespace GrowthGrammar

/-- What one procedure did, and to which nodes. -/
inductive Outcome where
  | removed (ids : List Int)
  | added (ids : List Int)
  | modified (ids : List Int)
  | failed
  | nothing
  deriving DecidableEq

namespace Outcome

def name : Outcome → String
  | .removed _ => "removed"
  | .added _ => "added"
  | .modified _ => "modified"
  | .failed => "failed"
  | .nothing => "none"

/-- The outcome of a name. Failures, and outcomes that did nothing, leave the nodes out. -/
def ofName? (name : String) (ids : List Int) : Option Outcome :=
  [.removed ids, .added ids, .modified ids, .failed, .nothing].find? fun o => o.name == name

def ids : Outcome → List Int
  | .removed ids | .added ids | .modified ids => ids
  | .failed | .nothing => []

def isFailure : Outcome → Bool
  | .failed => true
  | _ => false

end Outcome

/-- How many of each there are. -/
structure Tally where
  removed : Nat
  added : Nat
  modified : Nat
  failures : Nat
  deriving DecidableEq

def Tally.text (t : Tally) : String :=
  s!"\x7b'removed': {t.removed}, 'added': {t.added}, 'modified': {t.modified}, " ++
  s!"'failures': {t.failures}\x7d"

/-- The nodes that one or more passes touched, in the order in which they did. -/
structure PassResult where
  removed : List Int := []
  added : List Int := []
  modified : List Int := []
  failures : Nat := 0
  deriving DecidableEq

namespace PassResult

def record (r : PassResult) : Outcome → PassResult
  | .removed ids => { r with removed := r.removed ++ ids }
  | .added ids => { r with added := r.added ++ ids }
  | .modified ids => { r with modified := r.modified ++ ids }
  | .failed => { r with failures := r.failures + 1 }
  | .nothing => r

def add (r other : PassResult) : PassResult where
  removed := r.removed ++ other.removed
  added := r.added ++ other.added
  modified := r.modified ++ other.modified
  failures := r.failures + other.failures

/-- Whether no node was touched. Failures touch none. -/
def isEmpty (r : PassResult) : Bool :=
  r.removed.isEmpty && r.added.isEmpty && r.modified.isEmpty

def tally (r : PassResult) : Tally :=
  ⟨r.removed.length, r.added.length, r.modified.length, r.failures⟩

end PassResult

end GrowthGrammar
