import GrowthGrammar.Random.Sha256
import GrowthGrammar.Scene.Basic
import GrowthGrammar.Text.Json

/-!
Fingerprints: short texts that are the same for scenes which differ only in the ids of their nodes.
Every node gets a label from what it carries; then each round makes a new label from the old one and
those of the neighbours.
-/
namespace GrowthGrammar.Scene

def insertText (text : String) : List String → List String
  | [] => [text]
  | t :: rest => if text < t then text :: t :: rest else t :: insertText text rest

def sortTexts (texts : List String) : List String :=
  texts.foldl (fun sorted text => insertText text sorted) []

/-- The texts ascending, with commas between. -/
def sortedLine (texts : List String) : String := ",".intercalate (sortTexts texts)

/-! ### What a node carries -/

/-- A number in interchange notation. -/
def numberText : Scalar → String
  | .int n => toString n.toInt
  | .float x =>
    match x with
    | .nan _ => "NaN"
    | .infinite negative => if negative then "-Infinity" else "Infinity"
    | .finite .. => Binary.toText (x.convert .binary64)

def insertAttribute (entry : Spelling × Scalar) :
    List (Spelling × Scalar) → List (Spelling × Scalar)
  | [] => [entry]
  | e :: rest => if entry.1 < e.1 then entry :: e :: rest else e :: insertAttribute entry rest

/-- The attributes by the alphabetical order of their names. -/
def sortedAttributes (node : Node) : List (Spelling × Scalar) :=
  node.attributes.entries.foldl (fun sorted entry => insertAttribute entry sorted) []

def attributeText (key : Spelling) (v : Scalar) : String :=
  s!"[{Text.Json.string key},{Text.Json.string v.kind.name},{numberText v}]"

def nodeText (node : Node) : String :=
  let attributes := (sortedAttributes node).map fun (key, v) => attributeText key v
  "[" ++ Text.Json.string node.name ++ ",[" ++ ",".intercalate attributes ++ "]]"

/-! ### Labels -/

/-- Labels by node. -/
abbrev Labels := Catalog Int String

def labelOf (labels : Labels) (id : Int) : Except GraphFault String :=
  match labels.get? id with
  | some label => .ok label
  | none => .error (.noAttributes id)

def nextLabel (digest : String → String) (g : Graph) (labels : Labels) (id : Int) (label : String) :
    Except GraphFault String := do
  let around ← (← g.neighbors id).mapM (labelOf labels)
  return digest (label ++ "|" ++ sortedLine around)

def nextLabels (digest : String → String) (g : Graph) (labels : Labels) :
    Except GraphFault Labels := do
  let next ← labels.entries.mapM fun (id, label) =>
    return (id, ← nextLabel digest g labels id label)
  return .ofList next

def refine (digest : String → String) (g : Graph) : Nat → Labels → Except GraphFault Labels
  | 0, labels => .ok labels
  | rounds + 1, labels => do refine digest g rounds (← nextLabels digest g labels)

/-- The fingerprint after a number of rounds, with a digest of the caller's choice. -/
def fingerprintWith (digest : String → String) (s : Scene) (rounds : Int) :
    Except GraphFault String := do
  let labels ← refine digest s.graph rounds.toNat (s.nodes.map fun node => digest (nodeText node))
  return digest (s!"{s.order}:{s.graph.size}:" ++ sortedLine labels.values)

def usualRounds : Int := 3

def fingerprint (s : Scene) (rounds : Int) : Except GraphFault String :=
  s.fingerprintWith Sha256.shortHex rounds

end GrowthGrammar.Scene
