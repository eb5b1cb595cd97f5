import GrowthGrammar.Formula.Filling
import GrowthGrammar.Number.Power
import GrowthGrammar.Text.Clip

/-!
Operations on operands. Integers are computed with exactly; a float with an integer is computed with
as two floats. Strings and lists are concatenated and repeated, and a remainder of a string fills
its placeholders.
-/
namespace GrowthGrammar

inductive EvaluationFault where
  | unknownVariable (name : String)
  | divisionByZero
  | integerByZero
  | integerModuloByZero
  | floatByZero
  | floatFloorByZero
  | floatModuloByZero
  | outsideDouble
  | quotientOutsideDouble
  | power (fault : PowerFault)
  | noUnary (sign typeName : String)
  | noBinary (sign leftType rightType : String)
  | noConcatenation (typeName otherType : String)
  | noRepetition (typeName : String)
  | repetitionTooLarge
  | repetitionTooLong
  | filling (fault : FillingFault)
  | outOfMemory
  | notReal (typeName : String)
  | notCallable (typeName : String)

/-- Names in messages are no longer than this, in bytes. -/
def shownNameSize : Nat := 200

def EvaluationFault.message : EvaluationFault → String
  | .unknownVariable name => s!"name '{Text.clip shownNameSize name}' is not defined"
  | .divisionByZero => "division by zero"
  | .integerByZero => "integer division or modulo by zero"
  | .integerModuloByZero => "integer modulo by zero"
  | .floatByZero => "float division by zero"
  | .floatFloorByZero => "float floor division by zero"
  | .floatModuloByZero => "float modulo"
  | .outsideDouble => "int too large to convert to float"
  | .quotientOutsideDouble => "integer division result too large for a float"
  | .power .domain => "math domain error"
  | .power .range => "math range error"
  | .noUnary sign typeName => s!"bad operand type for unary {sign}: '{typeName}'"
  | .noBinary sign leftType rightType =>
    s!"unsupported operand type(s) for {sign}: '{leftType}' and '{rightType}'"
  | .noConcatenation typeName otherType =>
    s!"can only concatenate {typeName} (not \"{otherType}\") to {typeName}"
  | .noRepetition typeName => s!"can't multiply sequence by non-int of type '{typeName}'"
  | .repetitionTooLarge => "cannot fit 'int' into an index-sized integer"
  | .repetitionTooLong => "repeated string is too long"
  | .filling fault => fault.message
  | .outOfMemory => ""
  | .notReal typeName => s!"must be real number, not {typeName}"
  | .notCallable typeName => s!"'{typeName}' object is not callable"

def Arithmetic.sign : Arithmetic → String
  | .add => "+"
  | .sub => "-"
  | .mul => "*"
  | .div => "/"
  | .floorDiv => "//"
  | .mod => "%"

/-! ### Floats -/

namespace Binary

variable {f : FloatFormat}

def signsDiffer (r y : Binary f) : Bool := y.lt (zero false) != r.lt (zero false)

/-- The remainder with the sign of the divisor, for a divisor that is not zero. -/
def floorMod (x y : Binary f) : Binary f :=
  let r := x.rem y
  if r.isZero then withSign y.isNegative (zero false)
  else if signsDiffer r y then r.add y
  else r

/-- The quotient rounded down, for a divisor that is not zero. It is found from the remainder, so
that the two fit together, and snapped to the nearest whole number. -/
def floorDiv (x y : Binary f) : Binary f :=
  let r := x.rem y
  let quotient := (x.sub r).div y
  let quotient := if !r.isZero && signsDiffer r y then quotient.sub (ofInt 1) else quotient
  if quotient.isZero then withSign (x.div y).isNegative (zero false)
  else
    let whole := quotient.floor
    let half := (ofInt 1 : Binary f).div (ofInt 2)
    if half.lt (quotient.sub whole) then whole.add (ofInt 1) else whole

end Binary

namespace Operand

/-! ### Numbers -/

def Number.toDouble : Number → Except EvaluationFault Double
  | .int n =>
    let x : Double := .ofInt n
    if x.isInfinite then .error .outsideDouble else .ok x
  | .float x => .ok x

def quotient (m n : Int) : Except EvaluationFault Double :=
  if n = 0 then .error .divisionByZero
  else
    let x : Double :=
      .round (decide (m < 0) != decide (n < 0)) (m.natAbs * FloatFormat.binary64.one) n.natAbs
    if x.isInfinite then .error .quotientOutsideDouble else .ok x

def ofIntegers (op : Arithmetic) (m n : Int) : Except EvaluationFault Operand :=
  match op with
  | .add => .ok (int (m + n))
  | .sub => .ok (int (m - n))
  | .mul => .ok (int (m * n))
  | .div => (quotient m n).map float
  | .floorDiv => if n = 0 then .error .integerByZero else .ok (int (m.fdiv n))
  | .mod => if n = 0 then .error .integerModuloByZero else .ok (int (m.fmod n))

def ofFloats (op : Arithmetic) (x y : Double) : Except EvaluationFault Double :=
  match op with
  | .add => .ok (x.add y)
  | .sub => .ok (x.sub y)
  | .mul => .ok (x.mul y)
  | .div => if y.isZero then .error .floatByZero else .ok (x.div y)
  | .floorDiv => if y.isZero then .error .floatFloorByZero else .ok (x.floorDiv y)
  | .mod => if y.isZero then .error .floatModuloByZero else .ok (x.floorMod y)

def ofNumbers (op : Arithmetic) (x y : Number) : Except EvaluationFault Operand :=
  match x, y with
  | .int m, .int n => ofIntegers op m n
  | _, _ => do
    let a ← x.toDouble
    let b ← y.toDouble
    return float (← ofFloats op a b)

/-! ### Other data -/

/-- Counts of repetitions are below this, and so are the lengths of texts. -/
def maxCount : Int := 9223372036854775808

/-- A rope, repeated. A count below zero leaves nothing of it. Each item takes `size` bytes. -/
def repeated {α : Type} (size : Nat) (rope : Rope α) (count : Operand) :
    Except EvaluationFault (Rope α) :=
  match count.number? with
  | some (.int n) =>
    if maxCount ≤ n || n < -maxCount then .error .repetitionTooLarge
    else if size = 1 && maxCount ≤ rope.length * n then .error .repetitionTooLong
    else if maxBytes < rope.length * n.toNat * size then .error .outOfMemory
    else .ok (.repeated rope n.toNat)
  | _ => .error (.noRepetition count.typeName)

def product (a b : Operand) : Except EvaluationFault Operand :=
  match a.text?, a.list?, b.text?, b.list? with
  | some points, _, _, _ => (repeated 1 points b).map text
  | _, some items, _, _ => (repeated 8 items b).map list
  | _, _, some points, _ => (repeated 1 points a).map text
  | _, _, _, some items => (repeated 8 items a).map list
  | _, _, _, _ => .error (.noBinary "*" a.typeName b.typeName)

def concatenation (a b : Operand) : Except EvaluationFault Operand :=
  match a.text?, a.list?, b.text?, b.list? with
  | some s, _, some t, _ => .ok (text (s ++ t))
  | _, some xs, _, some ys => .ok (list (xs ++ ys))
  | none, none, _, _ => .error (.noBinary "+" a.typeName b.typeName)
  | _, _, _, _ => .error (.noConcatenation a.typeName b.typeName)

def remainder (a b : Operand) : Except EvaluationFault Operand :=
  match a.text? with
  | some s => ((fill s b).map text).mapError .filling
  | none => .error (.noBinary "%" a.typeName b.typeName)

def ofOthers (op : Arithmetic) (a b : Operand) : Except EvaluationFault Operand :=
  match op with
  | .add => concatenation a b
  | .mul => product a b
  | .mod => remainder a b
  | _ => .error (.noBinary op.sign a.typeName b.typeName)

/-! ### Operations -/

def arithmetic (op : Arithmetic) (a b : Operand) : Except EvaluationFault Operand :=
  match a.number?, b.number? with
  | some x, some y => ofNumbers op x y
  | _, _ => ofOthers op a b

def positive (a : Operand) : Except EvaluationFault Operand :=
  match a.number? with
  | some (.int n) => .ok (int n)
  | some (.float x) => .ok (float x)
  | none => .error (.noUnary "+" a.typeName)

def negative (a : Operand) : Except EvaluationFault Operand :=
  match a.number? with
  | some (.int n) => .ok (int (-n))
  | some (.float x) => .ok (float x.negate)
  | none => .error (.noUnary "-" a.typeName)

def toDouble (a : Operand) : Except EvaluationFault Double :=
  match a.number? with
  | some x => x.toDouble
  | none => .error (.notReal a.typeName)

def floatPower (a b : Operand) : Except EvaluationFault Operand := do
  let x ← a.toDouble
  let y ← b.toDouble
  match x.power y with
  | .ok r => .ok (float r)
  | .error fault => .error (.power fault)

end Operand

end GrowthGrammar
