import GrowthGrammar.Pattern.Basic

/-!
Symmetries of a pattern: the permutations of its ids under which nobody could tell it from itself.
They are found in the order of the images, the identity first.
-/
namespace GrowthGrammar

/-- Ids with their images, in the order of their declaration. -/
abbrev Permutation := List (Int × Int)

namespace Pattern

/-- Whether two pattern nodes look for the same, conditions in whatever order. -/
def alike (checkValues : Bool) (m n : PatternNode) : Bool :=
  m.name? == n.name? && (!checkValues || m.conditions.sameEntries n.conditions)

def alikeIds (p : Pattern) (checkValues : Bool) (a b : Int) : Bool :=
  match p.node? a, p.node? b with
  | some m, some n => alike checkValues m n
  | _, _ => false

/-- Whether an id may be mapped to a candidate, given the images of the ids before it. -/
def mayMap (p : Pattern) (checkValues : Bool) (images : Permutation) (id candidate : Int) : Bool :=
  !(images.any fun e => e.2 = candidate) &&
  p.alikeIds checkValues candidate id &&
  p.degree candidate == p.degree id &&
  images.all (fun e => p.hasEdge candidate e.2 == p.hasEdge id e.1) &&
  p.hasEdge candidate candidate == p.hasEdge id id

/-- All ways to extend the images by those of further ids. -/
def extendImages (p : Pattern) (checkValues : Bool) (images : Permutation) :
    List Int → List Permutation
  | [] => [images]
  | id :: rest =>
    p.ids.flatMap fun candidate =>
      if p.mayMap checkValues images id candidate then
        p.extendImages checkValues (images ++ [(id, candidate)]) rest
      else []

def symmetries (p : Pattern) (checkValues : Bool) : List Permutation :=
  p.extendImages checkValues [] p.ids

end Pattern

end GrowthGrammar
