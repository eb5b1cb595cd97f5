import GrowthGrammar.Data.Number

/-!
Conditions on attributes: a comparison with a bound, or a range between two. Numbers are compared by
their exact values, so that integers and floats mix freely; nothing holds of what is not a number.
-/
namespace GrowthGrammar

/-- The order in which the number and the bound have to stand. -/
inductive Comparison where
  | equals
  | lessThan
  | greaterThan
  | lessOrEqual
  | greaterOrEqual
  deriving DecidableEq

inductive ConditionKind where
  | single (c : Comparison)
  | range
  deriving DecidableEq

namespace ConditionKind

def all : List ConditionKind :=
  [.single .equals, .single .lessThan, .single .greaterThan, .single .lessOrEqual,
    .single .greaterOrEqual, .range]

def designator : ConditionKind → String
  | .single .equals => "eq"
  | .single .lessThan => "lt"
  | .single .greaterThan => "gt"
  | .single .lessOrEqual => "lte"
  | .single .greaterOrEqual => "gte"
  | .range => "range"

def name : ConditionKind → String
  | .single .equals => "EQUALS"
  | .single .lessThan => "LESS_THAN"
  | .single .greaterThan => "GREATER_THAN"
  | .single .lessOrEqual => "LESS_OR_EQUAL"
  | .single .greaterOrEqual => "GREATER_OR_EQUAL"
  | .range => "RANGE"

def ofDesignator? (word : Spelling) : Option ConditionKind :=
  all.find? fun kind => Spelling.plain kind.designator = word

end ConditionKind

/-- A range includes both of its ends. -/
inductive Condition where
  | single (c : Comparison) (bound : Scalar)
  | range (low high : Scalar)
  deriving DecidableEq

inductive ConditionFault where
  | needsUpper
  | takesSingle (kind : ConditionKind)
  | unknownKind (literal : String)
  | missing (maker : String) (bounds : List String)
  | tooMany (maker limit : String) (given : Nat)
  | number (fault : NumberFault)

def ConditionFault.message : ConditionFault → String
  | .needsUpper => "RANGE condition requires an upper bound"
  | .takesSingle kind => s!"{kind.name} condition takes a single bound"
  | .unknownKind literal => s!"{literal} is not a valid ConditionKind"
  | .missing maker bounds =>
    let plural := if bounds.length = 1 then "" else "s"
    s!"Condition.{maker}() missing {bounds.length} required positional argument{plural}: " ++
      " and ".intercalate (bounds.map fun name => s!"'{name}'")
  | .tooMany maker limit given =>
    s!"Condition.{maker}() takes {limit} positional arguments but {given} were given"
  | .number fault => fault.message

/-- Two data that no comparison orders. -/
structure ComparisonFault where
  sign : String
  leftType : String
  rightType : String

def ComparisonFault.message (fault : ComparisonFault) : String :=
  s!"'{fault.sign}' not supported between instances of '{fault.leftType}' and '{fault.rightType}'"

namespace Comparison

def sign : Comparison → String
  | .equals => "=="
  | .lessThan => "<"
  | .greaterThan => ">"
  | .lessOrEqual => "<="
  | .greaterOrEqual => ">="

def holds : Comparison → Binary.Extended → Binary.Extended → Bool
  | .equals, x, bound => x.eq bound
  | .lessThan, x, bound => x.lt bound
  | .greaterThan, x, bound => bound.lt x
  | .lessOrEqual, x, bound => x.le bound
  | .greaterOrEqual, x, bound => bound.le x

end Comparison

namespace Condition

/-! ### Making -/

/-- The condition of a kind, with a second bound exactly if it is a range. -/
def ofBounds : ConditionKind → Scalar → Option Scalar → Except ConditionFault Condition
  | .single c, bound, none => .ok (.single c bound)
  | .single c, _, some _ => .error (.takesSingle (.single c))
  | .range, low, some high => .ok (.range low high)
  | .range, _, none => .error .needsUpper

/-- The name under which conditions of a kind are made, and the names of the bounds they take. -/
def maker : ConditionKind → String × List String
  | .single .equals => ("equals", ["value"])
  | .single .lessThan => ("less_than", ["value"])
  | .single .greaterThan => ("greater_than", ["value"])
  | .single .lessOrEqual => ("less_or_equal", ["value"])
  | .single .greaterOrEqual => ("greater_or_equal", ["value"])
  | .range => ("range", ["low", "high"])

/-- The condition with the given numbers as bounds. -/
def ofNumbers (kind : ConditionKind) (bound : Data) (upper : Option Data) :
    Except ConditionFault Condition := do
  let number (d : Data) : Except ConditionFault Scalar := d.toScalar.mapError .number
  let low ← number bound
  match upper with
  | none => ofBounds kind low none
  | some d => ofBounds kind low (some (← number d))

/-- The condition of a kind from all bounds that are given for it. What makes conditions counts
itself among its arguments. -/
def ofArguments (kind : ConditionKind) (bounds : List Data) : Except ConditionFault Condition :=
  let (name, expected) := maker kind
  match bounds, expected with
  | [bound], [_] => ofNumbers kind bound none
  | [low, high], [_, _] => ofNumbers kind low (some high)
  | _, _ =>
    if bounds.length < expected.length then .error (.missing name (expected.drop bounds.length))
    else .error (.tooMany name (toString (expected.length + 1)) (bounds.length + 1))

/-- The condition of a kind from scalars. The second one may be left out. -/
def ofScalars (kind : ConditionKind) (bounds : List Scalar) : Except ConditionFault Condition :=
  match bounds with
  | [] => .error (.missing "__init__" ["bound"])
  | [bound] => ofBounds kind bound none
  | [low, high] => ofBounds kind low (some high)
  | _ => .error (.tooMany "__init__" "from 3 to 4" (bounds.length + 2))

def kind : Condition → ConditionKind
  | .single c _ => .single c
  | .range _ _ => .range

def bounds : Condition → List Scalar
  | .single _ bound => [bound]
  | .range low high => [low, high]

/-! ### Checking -/

def holdsOf (c : Condition) (x : Binary.Extended) : Bool :=
  match c with
  | .single c bound => c.holds x bound.toDouble.toExtended
  | .range low high =>
    low.toDouble.toExtended.le x && x.le high.toDouble.toExtended

def holds (c : Condition) (v : Scalar) : Bool := c.holdsOf v.toDouble.toExtended

/-- The number that a datum is checked as. Floats are rounded to single precision first, as bounds
are, unless that makes them infinite. -/
def checked? : Data → Option Binary.Extended
  | .scalar v => some v.toDouble.toExtended
  | .float x =>
    match Scalar.ofDouble x with
    | .ok v => some v.toDouble.toExtended
    | .error _ => some x.toExtended
  | d => d.toExtended?

/-- Checks any datum. One that is no number equals no bound, and cannot be ordered. -/
def check (c : Condition) (d : Data) : Except ComparisonFault Bool :=
  match checked? d with
  | some x => .ok (c.holdsOf x)
  | none =>
    match c with
    | .single .equals _ => .ok false
    | .single c _ => .error ⟨c.sign, d.typeName, "float"⟩
    | .range _ _ => .error ⟨"<=", "float", d.typeName⟩

def toData (c : Condition) : Data :=
  .list (.text c.kind.designator :: c.bounds.map Scalar.toData)

end Condition

end GrowthGrammar
