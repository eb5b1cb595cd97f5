import GrowthGrammar.Number.Arithmetic

/-!
Powers of floats. The finite case is left to the machine; the rules for infinities and for results
that are not finite are stated here.
-/
namespace GrowthGrammar

namespace Double

/-- The machine float with the same bits. -/
def toMachine (x : Double) : Float := Float.ofBits (UInt64.ofNat x.toBits)

def ofMachine (x : Float) : Double := .ofBits x.toBits.toNat

def one : Double := .ofInt 1

end Double

inductive PowerFault where
  | domain
  | range
  deriving DecidableEq

namespace Binary

def isOdd (x : Double) : Bool := x.isIntegral && x.truncate % 2 == 1

def infinitePower (negative : Bool) (y : Double) : Double :=
  let sign := negative && y.isOdd
  if y.isZero then Double.one
  else if y.isNegative then zero sign
  else .infinite sign

def powerOfInfinite (x : Double) (negative : Bool) : Double :=
  let size := x.magnitude
  if size.equals Double.one then Double.one
  else if Double.one.lt size != negative then .infinite false
  else zero false

/-- The power of two finite floats. A result that is infinite or undefined is a fault. -/
def finitePower (x y : Double) : Except PowerFault Double :=
  match Double.ofMachine (Float.pow x.toMachine y.toMachine) with
  | .nan _ => .error .domain
  | .infinite _ => .error (if x.isZero then .domain else .range)
  | r => .ok r

/-- The power of two floats. One to any power and any number to the power zero are one, even if the
other operand is not a number. -/
def power (x y : Double) : Except PowerFault Double :=
  match x, y with
  | .nan sign, _ => .ok (if y.isZero then Double.one else .nan sign)
  | _, .nan sign => .ok (if x.equals Double.one then Double.one else .nan sign)
  | .infinite negative, _ => .ok (infinitePower negative y)
  | _, .infinite negative => .ok (powerOfInfinite x negative)
  | _, _ => finitePower x y

end Binary

end GrowthGrammar
