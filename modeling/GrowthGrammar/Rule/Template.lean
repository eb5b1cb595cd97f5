import GrowthGrammar.Formula.Evaluation
import GrowthGrammar.Graph.Node

/-!
Templates: nodes to be made, with formulas in the place of numbers. The formulas see the attributes
of a base node as variables.
-/
namespace GrowthGrammar

structure Template where
  name : Spelling
  formulas : Catalog Spelling Spelling := .empty

namespace Template

/-- The template of data: the text of each is the name, the key or the formula. -/
def ofEntries (name : Data) (entries : List (Data × Data)) : Except NumberFault Template := do
  let name ← name.toText
  let formulas ← entries.mapM fun (key, d) => return (← key.toText, ← d.toText)
  return ⟨name, .ofList formulas⟩

/-- Finds the first formula that is none. -/
def validate (t : Template) : Except FormulaFault Unit :=
  t.formulas.values.forM fun text => do let _ ← Formula.parse text

/-- The variables that a base node gives: its attributes as floats. Draws hide an attribute of their
name. -/
def environment (base : Option Node) : Environment :=
  let attributes := match base with
    | some node => node.attributes.entries.map fun (key, v) => (key, Operand.float v.toDouble)
    | none => []
  (.plain Formula.drawName, .draw) :: attributes

/-- The attributes that formulas give, each a float scalar. -/
def evalFormulas (env : Environment) :
    List (Spelling × Spelling) → Source →
      Except FormulaFault (List (Spelling × Scalar)) × Source
  | [], source => (.ok [], source)
  | (key, text) :: rest, source =>
    match Formula.evaluate text env source with
    | (.error fault, source) => (.error fault, source)
    | (.ok x, source) =>
      match Scalar.ofDouble x with
      | .error _ => (.error (.outsideSingle key text), source)
      | .ok v =>
        match evalFormulas env rest source with
        | (.error fault, source) => (.error fault, source)
        | (.ok values, source) => (.ok ((key, v) :: values), source)

/-- Makes the node. Draws that were made before a fault stay made. -/
def eval (t : Template) (base : Option Node) (source : Source) :
    Except FormulaFault Node × Source :=
  match evalFormulas (environment base) t.formulas.entries source with
  | (.error fault, source) => (.error fault, source)
  | (.ok values, source) => (.ok ⟨t.name, .ofList values⟩, source)

def toData (t : Template) : Data :=
  .map [(.text "name", .text t.name),
    (.text "values", .map (t.formulas.entries.map fun (key, text) => (.text key, .text text)))]

end Template

end GrowthGrammar
