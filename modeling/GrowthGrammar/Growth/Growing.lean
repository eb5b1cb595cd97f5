import GrowthGrammar.Growth.Config
import GrowthGrammar.Growth.History
import GrowthGrammar.Rule.Engine
import GrowthGrammar.Scene.Fingerprint

/-!
Growing: rules applied to a scene tick after tick, until the scene is large enough, no rule changes
it any more, or the ticks are used up.
-/
namespace GrowthGrammar

inductive GrowthFault where
  | pass (fault : PassFault)
  | number (fault : NumberFault)

def GrowthFault.message : GrowthFault → Except NumberFault Spelling
  | .pass fault => fault.message
  | .number fault => .ok fault.message

abbrev GrowthWork (α : Type) := ExceptT GrowthFault (StateM Workshop) α

namespace GrowthWork

def note (n : Note) : GrowthWork Unit := modify fun w => { w with notes := n :: w.notes }

def ofEngine {α : Type} (work : EngineWork α) : GrowthWork α := ExceptT.adapt .pass work

def ask {α : Type} : Except GraphFault α → GrowthWork α
  | .ok a => pure a
  | .error fault => throw (.pass (.graph fault))

def askNumber {α : Type} : Except NumberFault α → GrowthWork α
  | .ok a => pure a
  | .error fault => throw (.number fault)

end GrowthWork

namespace Growth

/-- Adds the fingerprint of the scene to the history, if fingerprints are recorded. -/
def recordFingerprint (config : GrowthConfig) (h : History) : GrowthWork History := do
  if config.recordsFingerprints then
    let s := (← get).scene
    return h.addFingerprint (← GrowthWork.ask (s.fingerprint Scene.usualRounds))
  else return h

def isFull (config : GrowthConfig) : GrowthWork Bool := do
  match config.maxOrder with
  | none => return false
  | some limit =>
    let s := (← get).scene
    if (← GrowthWork.askNumber limit.order) ≤ s.order then
      GrowthWork.note (.sizeReached s.order limit.given)
      return true
    else return false

/-- Starts a new tick and applies every rule once. -/
def applyRules (config : GrowthConfig) (rules : List Rule) : GrowthWork PassResult := do
  if config.advancesClock then
    modify fun w => { w with scene := w.scene.mapGraph Graph.advance }
  GrowthWork.ofEngine (Rule.runAll config.skipsDirty {} rules)

/-- Lets the scene grow for a number of ticks at most. -/
def run (config : GrowthConfig) (rules : List Rule) : Nat → History → GrowthWork History
  | 0, h => pure h
  | ticks + 1, h => do
    if ← isFull config then return h
    let result ← applyRules config rules
    if result.isEmpty && config.stopsWhenQuiet then
      GrowthWork.note .quiescence
      return h
    let s := (← get).scene
    let h ← recordFingerprint config (h.addTick ⟨result, s.order, s.graph.size⟩)
    run config rules ticks h

/-- Lets the scene grow as the configuration says, and gives the history of it. -/
def grow (config : GrowthConfig) (rules : List Rule) : GrowthWork History := do
  run config rules config.maxIterations.toNat (← recordFingerprint config {})

end Growth

end GrowthGrammar
