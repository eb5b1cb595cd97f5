/-!
Binary floating-point numbers. The finite magnitudes of a format are numbered by rank, in increasing
order, so two floats are equal exactly if they are the same float, and rounding is the choice of a
rank. Every magnitude is a whole number of least units, so the exact value of a finite float is an
integer.
-/
namespace GrowthGrammar

/-- `fraction` bits are stored of each magnitude, `binades` exponent codes hold finite numbers, and
one is `2 ^ scale` least units. -/
structure FloatFormat where
  fraction : Nat
  binades : Nat
  scale : Nat
  deriving DecidableEq, Repr

namespace FloatFormat

def binary64 : FloatFormat := ⟨52, 2047, 1074⟩

def binary32 : FloatFormat := ⟨23, 255, 149⟩

/-- The number of magnitudes in a binade. -/
def step (f : FloatFormat) : Nat := Nat.pow 2 f.fraction

/-- The number of finite magnitudes, which is also the rank that infinity would have. -/
def limit (f : FloatFormat) : Nat := f.binades * f.step

def one (f : FloatFormat) : Nat := Nat.pow 2 f.scale

/-- The magnitude of a rank, counted in least units. Ranks below `step` are the subnormal
magnitudes; from there on each block of `step` ranks is one binade. -/
def units (f : FloatFormat) (rank : Nat) : Nat :=
  let code := rank / f.step
  let low := rank % f.step
  if code = 0 then low else (f.step + low) * Nat.pow 2 (code - 1)

/-- The largest rank whose magnitude is at most `n` least units. -/
def rankBelow (f : FloatFormat) (n : Nat) : Nat :=
  let shift := (n / f.step).log2
  shift * f.step + n / Nat.pow 2 shift

/-- The rank whose magnitude is nearest to `num / den` least units. Halfway between two magnitudes
the even rank is taken, which is the one with an even significand. -/
def nearest (f : FloatFormat) (num den : Nat) : Nat :=
  let rank := f.rankBelow (num / den)
  let halfway := (f.units rank + f.units (rank + 1)) * den
  if 2 * num < halfway then rank
  else if halfway < 2 * num then rank + 1
  else rank + rank % 2

end FloatFormat

/-- The payload of not-a-number is dropped, of which the sign alone is kept. So equality of such floats,
and of the scalars that hold them, is coarser than that of the bits which are stored for them. -/
inductive Binary (f : FloatFormat) where
  | nan (negative : Bool)
  | infinite (negative : Bool)
  | finite (negative : Bool) (rank : Fin f.limit)
  deriving DecidableEq

abbrev Double := Binary .binary64

abbrev Single := Binary .binary32

namespace Binary

variable {f : FloatFormat}

instance : Inhabited (Binary f) := ⟨.nan false⟩

/-- The float of a rank; a rank past the last finite one is infinity. -/
def ofRank (negative : Bool) (rank : Nat) : Binary f :=
  if h : rank < f.limit then .finite negative ⟨rank, h⟩ else .infinite negative

def zero (negative : Bool) : Binary f := ofRank negative 0

/-- The float nearest to `num / den` least units, infinite where no finite float is nearest. -/
def round (negative : Bool) (num den : Nat) : Binary f := ofRank negative (f.nearest num den)

/-- The float nearest to an integer number of least units. Zero takes the sign asked for. -/
def ofUnits (negativeZero : Bool) (n : Int) : Binary f :=
  if n = 0 then zero negativeZero else round (n < 0) n.natAbs 1

def ofInt (n : Int) : Binary f := ofUnits false (n * f.one)

def isNegative : Binary f → Bool
  | .nan negative | .infinite negative | .finite negative _ => negative

def isZero : Binary f → Bool
  | .finite _ rank => rank.val == 0
  | _ => false

def isNaN : Binary f → Bool
  | .nan _ => true
  | _ => false

def isInfinite : Binary f → Bool
  | .infinite _ => true
  | _ => false

def isFinite : Binary f → Bool
  | .finite .. => true
  | _ => false

/-- The exact value of a finite float in least units; zero where there is none. -/
def toUnits : Binary f → Int
  | .finite false rank => f.units rank
  | .finite true rank => -f.units rank
  | _ => 0

def isIntegral (x : Binary f) : Bool := x.isFinite && x.toUnits % f.one == 0

/-- The whole part of a finite float, which is the value rounded toward zero. -/
def truncate (x : Binary f) : Int := x.toUnits.tdiv f.one

/-- The float of another format that is nearest to the exact value. -/
def convert (g : FloatFormat) : Binary f → Binary g
  | .nan negative => .nan negative
  | .infinite negative => .infinite negative
  | .finite negative rank => round negative (f.units rank * g.one) f.one

/-! ### Interchange bits -/

/-- The weight of the sign bit. -/
def signWeight (f : FloatFormat) : Nat := (f.binades + 1) * f.step

/-- A not-a-number is written with the first fraction bit alone. -/
def toBits (x : Binary f) : Nat :=
  (if x.isNegative then signWeight f else 0) +
    match x with
    | .finite _ rank => rank
    | .infinite _ => f.limit
    | .nan _ => f.limit + f.step / 2

def ofBits (bits : Nat) : Binary f :=
  let negative := bits / signWeight f % 2 == 1
  let magnitude := bits % signWeight f
  if magnitude ≤ f.limit then ofRank negative magnitude else .nan negative

end Binary

end GrowthGrammar
