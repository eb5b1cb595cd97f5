import GrowthGrammar.Rule.Note
import GrowthGrammar.Rule.Template

/-!
Sites: where rules are applied. A site is a scene, the source that its formulas draw from, and the
notes taken so far. Work on a site may stop at a fault, and what was done before stays done.
-/
namespace GrowthGrammar

/-- The latest note comes first. -/
structure Site where
  scene : Scene
  source : Source
  notes : List Note := []

inductive PassFault where
  | formula (fault : FormulaFault)
  | graph (fault : GraphFault)
  | ruleId (fault : RuleIdFault)

def PassFault.message : PassFault → Except NumberFault Spelling
  | .formula fault => fault.message
  | .graph fault => .ok fault.message
  | .ruleId fault => .ok fault.message

abbrev SiteWork (α : Type) := ExceptT PassFault (StateM Site) α

namespace SiteWork

def note (n : Note) : SiteWork Unit := modify fun site => { site with notes := n :: site.notes }

def scene : SiteWork Scene := return (← get).scene

def change (f : Scene → Scene) : SiteWork Unit :=
  modify fun site => { site with scene := f site.scene }

/-- The answer of a question that may fail. -/
def ask {α : Type} : Except GraphFault α → SiteWork α
  | .ok a => pure a
  | .error fault => throw (.graph fault)

def onScene {α : Type} (work : SceneWork α) : SiteWork α := do
  let result ← modifyGet fun site =>
    let (result, scene) := work.run site.scene
    (result, { site with scene })
  ask result

def insert (node : Node) : SiteWork Int :=
  modifyGet fun site =>
    let (id, scene) := site.scene.insert node
    (id, { site with scene })

def make (t : Template) (base : Option Node) : SiteWork Node := do
  let result ← modifyGet fun site =>
    let (result, source) := t.eval base site.source
    (result, { site with source })
  match result with
  | .ok node => pure node
  | .error fault => throw (.formula fault)

end SiteWork

end GrowthGrammar
