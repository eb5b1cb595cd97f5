import GrowthGrammar.Formula.Token

/-!
Expression trees. The part of the language that formulas may use is kept in full; of everything else
only the kind is kept, which is what a report names.
-/
namespace GrowthGrammar.Formula

/-- A binary operator. An operator that is no arithmetic is known by its name. -/
inductive BinaryOperator where
  | add
  | sub
  | mul
  | div
  | floorDiv
  | mod
  | pow
  | foreign (kind : String)
  deriving DecidableEq, Repr

inductive UnaryOperator where
  | plus
  | minus
  | foreign (kind : String)
  deriving DecidableEq, Repr

/-- `constant` is a literal that is no integer or float. `foreign` is an element outside arithmetic;
`assignable` says whether it could stand as the target of a loop. -/
inductive Tree where
  | int (n : Nat)
  | float (x : Double)
  | constant
  | name (s : String)
  | unary (op : UnaryOperator) (operand : Tree)
  | binary (op : BinaryOperator) (left right : Tree)
  | call (function : Tree) (arguments : List Tree) (keywords : Bool)
  | foreign (kind : String) (assignable : Bool)

namespace Tree

def assignable : Tree → Bool
  | .name _ => true
  | .foreign _ assignable => assignable
  | _ => false

def ofNumber : NumberLiteral → Tree
  | .int n => .int n
  | .float x => .float x
  | .imaginary => .constant

end Tree

end GrowthGrammar.Formula
