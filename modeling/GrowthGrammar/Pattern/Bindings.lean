import GrowthGrammar.Graph.Catalog

/-!
Bindings: which node of a graph stands for which node of a pattern, in the order in which they were
bound.
-/
namespace GrowthGrammar

abbrev Bindings := Catalog Int Int

namespace Bindings

def text (b : Bindings) : String :=
  let shown := b.entries.map fun (patternId, id) => s!"{patternId}: {id}"
  "\x7b" ++ ", ".intercalate shown ++ "\x7d"

/-- The entries by ascending pattern id. -/
def insertAscending (entry : Int × Int) : List (Int × Int) → List (Int × Int)
  | [] => [entry]
  | e :: rest => if entry.1 < e.1 then entry :: e :: rest else e :: insertAscending entry rest

def ascending (b : Bindings) : List (Int × Int) :=
  b.entries.foldl (fun sorted entry => insertAscending entry sorted) []

/-- The same ids, looked at through a permutation of the pattern ids. -/
def through (b : Bindings) (permutation : List (Int × Int)) : Bindings :=
  .ofList (permutation.filterMap fun (patternId, image) => (b.get? image).map (patternId, ·))

end Bindings

end GrowthGrammar
