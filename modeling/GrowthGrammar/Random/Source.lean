import GrowthGrammar.Random.Twister

/-!
Sources of random numbers. A source is a stream of draws; without a seed the draws are fixed, and
nobody may rely on them.
-/
namespace GrowthGrammar

inductive Source where
  | unseeded
  | stream (t : Twister)

namespace Source

/-- One half, which every unseeded draw gives. -/
def half : Double := .round false (Nat.pow 2 (FloatFormat.binary64.scale - 1)) 1

def draw : Source → Double × Source
  | .unseeded => (half, .unseeded)
  | .stream t =>
    let (x, t) := t.draw
    (x, .stream t)

end Source

end GrowthGrammar
