import GrowthGrammar.Random.Streams
import GrowthGrammar.Rule.Pass

/-!
Engines: rules applied one after the other, each drawing from a stream of its own.
-/
namespace GrowthGrammar

/-- What an engine works on. Without streams the rules draw from a source without a seed. -/
structure Workshop where
  scene : Scene
  streams : Option Streams := none
  notes : List Note := []

abbrev EngineWork (α : Type) := ExceptT PassFault (StateM Workshop) α

namespace EngineWork

/-- Works on the site of a context: the scene, with the stream of the context as the source. -/
def inContext {α : Type} (context : String) (work : SiteWork α) : EngineWork α := do
  let result ← modifyGet fun w =>
    let source := match w.streams with
      | some streams => streams.source context
      | none => .unseeded
    let (result, site) := work.run ⟨w.scene, source, w.notes⟩
    let streams := w.streams.map fun streams => streams.setSource context site.source
    (result, ⟨site.scene, streams, site.notes⟩)
  match result with
  | .ok a => pure a
  | .error fault => throw fault

end EngineWork

namespace Rule

/-- Whether a match binds no node that this tick touched. -/
def isClean (s : Scene) (b : Bindings) : Bool := !(b.values.any s.graph.nodeIsDirty)

/-- The context of the rule's own stream. Where there are no streams none is needed. -/
def context (r : Rule) (w : Workshop) : Except PassFault String :=
  match w.streams with
  | some streams => (r.id.context streams.seed).mapError .ruleId
  | none => .ok ""

/-- Applies a rule to the matches that a filter keeps, with the rule's own stream. -/
def runWhere (r : Rule) (keeps : Scene → Bindings → Bool) : EngineWork PassResult := do
  match r.context (← get) with
  | .ok context => EngineWork.inContext context (r.applyWhere keeps)
  | .error fault => throw fault

/-- Applies a rule; matches with nodes that this tick touched may be left out. -/
def run (r : Rule) (skipDirty : Bool) : EngineWork PassResult :=
  r.runWhere fun s b => !skipDirty || isClean s b

def runAll (skipDirty : Bool) : PassResult → List Rule → EngineWork PassResult
  | total, [] => pure total
  | total, r :: rest => do runAll skipDirty (total.add (← r.run skipDirty)) rest

end Rule

end GrowthGrammar
