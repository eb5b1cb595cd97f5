import GrowthGrammar.Data

/-!
Numbers read from data: the integer or float that a datum stands for, and the scalar made from it.
-/
namespace GrowthGrammar.Data

def wholePart (x : Double) : Except NumberFault Int :=
  match x with
  | .nan _ => .error .undefinedInteger
  | .infinite _ => .error .infiniteInteger
  | .finite .. => .ok x.truncate

def nearestDouble (n : Int) : Except NumberFault Double :=
  let x : Double := .ofInt n
  if x.isInfinite then .error .outsideDouble else .ok x

/-- The integer that a datum stands for. Floats lose their places, strings are read. -/
def toInteger : Data → Except NumberFault Int
  | .bool b => .ok (if b then 1 else 0)
  | .int n => .ok n
  | .float x => wholePart x
  | .text s =>
    match Numeral.integer s.legible with
    | .value n => .ok n
    | .malformed => .error (.malformedInteger s)
    | .tooLong digits => .error (.tooManyDigits digits)
  | d => .error (.noInteger d.typeName)

def toFloat : Data → Except NumberFault Double
  | .bool b => nearestDouble (if b then 1 else 0)
  | .int n => nearestDouble n
  | .float x => .ok x
  | .text s =>
    match Numeral.float? s.legible with
    | some x => .ok x
    | none => .error (.malformedFloat s)
  | d => .error (.noFloat d.typeName)

/-! ### Scalars -/

/-- The integer scalar of a datum. A float has to be a whole number. -/
def toIntScalar : Data → Except NumberFault Scalar
  | .float x => Scalar.ofWhole x
  | d => do Scalar.ofInt (← d.toInteger)

def toFloatScalar (d : Data) : Except NumberFault Scalar := do Scalar.ofDouble (← d.toFloat)

/-- The scalar of a number, of the kind that the number has. -/
def toScalar : Data → Except NumberFault Scalar
  | .scalar v => .ok v
  | .bool b => Scalar.ofInt (if b then 1 else 0)
  | .int n => Scalar.ofInt n
  | .float x => Scalar.ofDouble x
  | d => .error (.notNumber d.typeName)

end GrowthGrammar.Data

namespace GrowthGrammar

def Scalar.toData : Scalar → Data
  | .int n => .int n.toInt
  | .float x => .float (x.convert .binary64)

end GrowthGrammar
