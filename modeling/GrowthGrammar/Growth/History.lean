import GrowthGrammar.Rule.Outcome

/-!
Histories: what happened in each tick of a growth.
-/
namespace GrowthGrammar

/-- A tick that changed the graph, or was allowed not to, with the size of the graph after it. -/
structure Tick where
  result : PassResult
  order : Nat
  size : Nat

/-- The fingerprints are those of the graph before the first tick and after every tick, if they are
recorded at all. The latest entry stands last. -/
structure History where
  ticks : List Tick := []
  fingerprints : List String := []

namespace History

def iterations (h : History) : Nat := h.ticks.length

/-- All ticks taken together. -/
def total (h : History) : PassResult := h.ticks.foldl (fun total tick => total.add tick.result) {}

def addTick (h : History) (tick : Tick) : History := { h with ticks := h.ticks ++ [tick] }

def addFingerprint (h : History) (fingerprint : String) : History :=
  { h with fingerprints := h.fingerprints ++ [fingerprint] }

end History

end GrowthGrammar
