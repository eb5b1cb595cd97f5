/-!
Sets of characters given as ranges of code points.
-/
namespace GrowthGrammar.Text

/-- Inclusive ranges of code points. -/
abbrev Ranges := List (Nat × Nat)

def Ranges.contains (ranges : Ranges) (c : Char) : Bool :=
  ranges.any fun (low, high) => low ≤ c.toNat && c.toNat ≤ high

end GrowthGrammar.Text
