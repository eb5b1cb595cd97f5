import GrowthGrammar.Number.Binary

/-!
Arithmetic on floats. Each operation finds the exact result as a quotient of integers and rounds it
once. Zero results carry the sign that the standard gives them; an undefined result is not a number.
-/
namespace GrowthGrammar.Binary

variable {f : FloatFormat}

def negate : Binary f → Binary f
  | .nan negative => .nan !negative
  | .infinite negative => .infinite !negative
  | .finite negative rank => .finite (!negative) rank

def magnitude : Binary f → Binary f
  | .nan _ => .nan false
  | .infinite _ => .infinite false
  | .finite _ rank => .finite false rank

def withSign (negative : Bool) (x : Binary f) : Binary f :=
  if negative then x.magnitude.negate else x.magnitude

/-- A zero sum is negative only if both terms are. -/
def add (x y : Binary f) : Binary f :=
  match x, y with
  | .nan negative, _ | _, .nan negative => .nan negative
  | .infinite a, .infinite b => if a = b then .infinite a else .nan true
  | .infinite a, _ | _, .infinite a => .infinite a
  | .finite a _, .finite b _ => ofUnits (a && b) (x.toUnits + y.toUnits)

def sub (x y : Binary f) : Binary f := x.add y.negate

def mul (x y : Binary f) : Binary f :=
  let negative := x.isNegative != y.isNegative
  match x, y with
  | .nan sign, _ | _, .nan sign => .nan sign
  | .infinite _, z | z, .infinite _ => if z.isZero then .nan true else .infinite negative
  | .finite _ i, .finite _ j => round negative (f.units i * f.units j) f.one

def div (x y : Binary f) : Binary f :=
  let negative := x.isNegative != y.isNegative
  match x, y with
  | .nan sign, _ | _, .nan sign => .nan sign
  | .infinite _, .infinite _ => .nan true
  | .infinite _, .finite .. => .infinite negative
  | .finite .., .infinite _ => zero negative
  | .finite _ i, .finite _ j =>
    if j.val = 0 then if i.val = 0 then .nan true else .infinite negative
    else round negative (f.units i * f.one) (f.units j)

/-- What is left of `x` after the largest whole multiple of `y` toward zero. It is always exact and
has the sign of `x`. -/
def rem (x y : Binary f) : Binary f :=
  match x, y with
  | .nan sign, _ | _, .nan sign => .nan sign
  | .infinite _, _ => .nan true
  | .finite .., .infinite _ => x
  | .finite a i, .finite _ j =>
    if j.val = 0 then .nan true else round a (f.units i % f.units j) 1

/-- The largest whole number that is not above `x`. -/
def floor (x : Binary f) : Binary f :=
  match x with
  | .finite negative _ => ofUnits negative (x.toUnits.fdiv f.one * f.one)
  | _ => x

/-! ### Comparison -/

/-- An exact number, in least units of a fixed format, or one of the values that are none. -/
inductive Extended where
  | nan
  | least
  | value (units : Int)
  | greatest

def toExtended (x : Binary f) : Extended :=
  match x with
  | .nan _ => .nan
  | .infinite true => .least
  | .infinite false => .greatest
  | .finite .. => .value x.toUnits

namespace Extended

/-- An integer counted in the least units of a format. -/
def ofInt (f : FloatFormat) (n : Int) : Extended := .value (n * f.one)

/-- Not a number is below nothing, and nothing is below it. -/
def lt : Extended → Extended → Bool
  | .nan, _ | _, .nan => false
  | .least, .least => false
  | .least, _ => true
  | .value _, .least => false
  | .value m, .value n => m < n
  | .value _, .greatest => true
  | .greatest, _ => false

/-- Not a number equals nothing, itself included. -/
def eq : Extended → Extended → Bool
  | .least, .least | .greatest, .greatest => true
  | .value m, .value n => m = n
  | _, _ => false

def le (x y : Extended) : Bool := x.lt y || x.eq y

end Extended

def lt (x y : Binary f) : Bool := x.toExtended.lt y.toExtended

def equals (x y : Binary f) : Bool := x.toExtended.eq y.toExtended

end GrowthGrammar.Binary
