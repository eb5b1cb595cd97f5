import GrowthGrammar.Formula.Tree

/-!
Formulas: the expressions that templates may use. They are arithmetic on numbers, names and random
draws. A tree is searched for elements outside arithmetic level by level; if there are none, it is a
formula. Powers of formulas are always powers of floats.
-/
namespace GrowthGrammar

/-- The operators that integers and floats share. -/
inductive Arithmetic where
  | add
  | sub
  | mul
  | div
  | floorDiv
  | mod
  deriving DecidableEq, Repr

inductive Formula where
  | int (n : Nat)
  | float (x : Double)
  | name (s : String)
  | positive (operand : Formula)
  | negative (operand : Formula)
  | arithmetic (op : Arithmetic) (left right : Formula)
  | power (base exponent : Formula)
  | random (low high : Formula)

namespace Formula

def names : Formula → List String
  | .int _ | .float _ => []
  | .name s => [s]
  | .positive operand | .negative operand => operand.names
  | .arithmetic _ left right | .power left right | .random left right => left.names ++ right.names

/-- The function that draws a number between two bounds. -/
def drawName : String := "rand"

/-- Why a tree is no formula. -/
inductive SafetyFault where
  | element (kind : String)
  | literal
  | call
  | arguments
  deriving DecidableEq

def SafetyFault.message : SafetyFault → String
  | .element kind => s!"Unsupported element {kind} in expression"
  | .literal => "Only numeric literals are allowed"
  | .call => "Unknown function call"
  | .arguments => s!"{drawName}() takes 2 positional arguments"

namespace Tree

def isDraw : Tree → Bool
  | .name s => s == drawName
  | _ => false

/-- What is wrong with the root of a tree. -/
def rootFault? : Tree → Option SafetyFault
  | .constant => some .literal
  | .foreign kind _ => some (.element kind)
  | .call function arguments keywords =>
    if !function.isDraw then some .call
    else if keywords || arguments.length != 2 then some .arguments
    else none
  | _ => none

/-- An operator that is no arithmetic, as an element of its own. -/
def ofForeign (kind : String) : List Tree := [.foreign kind false]

/-- The elements right below the root, in the order in which they are written. -/
def children : Tree → List Tree
  | .unary (.foreign kind) operand => ofForeign kind ++ [operand]
  | .unary _ operand => [operand]
  | .binary (.foreign kind) left right => left :: ofForeign kind ++ [right]
  | .binary _ left right => [left, right]
  | .call function arguments _ => function :: arguments
  | _ => []

def level : Nat → Tree → List Tree
  | 0, t => [t]
  | depth + 1, t => t.children.flatMap (level depth)

mutual

def height : Tree → Nat
  | .unary _ operand => operand.height + 1
  | .binary _ left right => max left.height right.height + 1
  | .call function arguments _ => max function.height (heights arguments) + 1
  | _ => 1

def heights : List Tree → Nat
  | [] => 0
  | t :: ts => max t.height (heights ts)

end

/-- The first fault, by level and then from left to right. -/
def fault? (t : Tree) : Option SafetyFault :=
  (List.range (t.height + 1)).findSome? fun depth => (t.level depth).findSome? rootFault?

mutual

/-- The formula of a tree without faults. Where there is a fault the formula has no meaning. -/
def toFormula : Tree → Formula
  | .int n => .int n
  | .float x => .float x
  | .name s => .name s
  | .unary op operand =>
    match op with
    | .plus => .positive operand.toFormula
    | .minus => .negative operand.toFormula
    | .foreign _ => .int 0
  | .binary op left right =>
    match op with
    | .add => .arithmetic .add left.toFormula right.toFormula
    | .sub => .arithmetic .sub left.toFormula right.toFormula
    | .mul => .arithmetic .mul left.toFormula right.toFormula
    | .div => .arithmetic .div left.toFormula right.toFormula
    | .floorDiv => .arithmetic .floorDiv left.toFormula right.toFormula
    | .mod => .arithmetic .mod left.toFormula right.toFormula
    | .pow => .power left.toFormula right.toFormula
    | .foreign _ => .int 0
  | .call _ arguments _ =>
    match toFormulas arguments with
    | [low, high] => .random low high
    | _ => .int 0
  | _ => .int 0

def toFormulas : List Tree → List Formula
  | [] => []
  | t :: ts => t.toFormula :: toFormulas ts

end

def compile (t : Tree) : Except SafetyFault Formula :=
  match t.fault? with
  | some fault => .error fault
  | none => .ok t.toFormula

end Tree

end Formula

end GrowthGrammar
