import GrowthGrammar.Rule.Basic

/-!
Saving: rules as plain data, in the form in which they are loaded.
-/
namespace GrowthGrammar

def PatternNode.toData (p : PatternNode) : Data :=
  let name := match p.name? with
    | some name => [(Data.text "name", Data.text name)]
    | none => []
  let conditions := p.conditions.entries.map fun (key, c) => (Data.text key, c.toData)
  let values := if conditions.isEmpty then [] else [(Data.text "values", Data.map conditions)]
  .map ([(.text "id", .int p.id)] ++ name ++ values)

def Pattern.toData (p : Pattern) : Data :=
  .map [(.text "nodes", .list (p.nodes.map PatternNode.toData)),
    (.text "edges", .list (p.edges.map fun (a, b) => .list [.int a, .int b]))]

/-- A rule can be saved if its id can be written out. -/
def Rule.toData (r : Rule) : Except NumberFault Data := do
  let id ← r.id.text
  return .map [(.text "id", .text id), (.text "from", r.pattern.toData),
    (.text "to", .list (r.procedures.map Procedure.toData)),
    (.text "match_values", .bool r.checkValues),
    (.text "symmetry_breaking", .bool r.symmetryBreaking)]

end GrowthGrammar
