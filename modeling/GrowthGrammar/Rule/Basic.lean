import GrowthGrammar.Rule.Procedure

/-!
Rules: a pattern to look for and the procedures that are done with every match.
-/
namespace GrowthGrammar

/-- Values are those of the conditions in the pattern. With symmetry breaking, matches that differ
only by a symmetry of the pattern count as one. -/
structure Rule where
  pattern : Pattern
  procedures : List Procedure
  id : RuleId := .generated
  checkValues : Bool := false
  symmetryBreaking : Bool := true

namespace Rule

def matcher (r : Rule) (s : Scene) : Matcher :=
  .ofPattern s r.pattern r.checkValues r.symmetryBreaking

/-- Whether a match has lost a node that one of the procedures names. -/
def isStale (r : Rule) (s : Scene) (b : Bindings) : Bool :=
  !(r.procedures.all fun p => p.targetsLive b s)

end Rule

end GrowthGrammar
