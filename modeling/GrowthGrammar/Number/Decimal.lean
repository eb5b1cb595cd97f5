import GrowthGrammar.Number.Binary

/-!
Decimal text of floats. Reading takes the float nearest to the decimal; writing takes the fewest
digits that read back as the same float and, among those, the ones nearest to its value.
-/
namespace GrowthGrammar

/-- The number of decimal digits; zero has one. -/
def digitCount (n : Nat) : Nat := (Nat.toDigits 10 n).length

/-- `digits * 10 ^ exponent`. -/
structure Decimal where
  digits : Nat
  exponent : Int
  deriving DecidableEq, Repr

namespace Decimal

def nearestRank (f : FloatFormat) (d : Decimal) : Nat :=
  if 0 ≤ d.exponent then f.nearest (d.digits * Nat.pow 10 d.exponent.toNat * f.one) 1
  else f.nearest (d.digits * f.one) (Nat.pow 10 d.exponent.natAbs)

/-- The float nearest to a decimal. Decimals far outside the range of the format are settled by
their order of magnitude, before any power of ten is computed. -/
def toBinary (f : FloatFormat) (negative : Bool) (d : Decimal) : Binary f :=
  let order : Int := digitCount d.digits + d.exponent
  if d.digits = 0 then .zero negative
  else if (f.binades : Int) < order then .infinite negative
  else if order < -(f.scale : Int) then .zero negative
  else .ofRank negative (d.nearestRank f)

/-- The exponent of the first significant digit of the positive number `num / den`. -/
def leadingExponent (num den : Nat) : Int :=
  if den ≤ num then digitCount (num / den) - 1 else -(digitCount ((den - 1) / num) : Int)

/-- The two neighbours of a rank's magnitude on the grid of multiples of `10 ^ exponent`, the nearer
one first; at equal distance the even one comes first. -/
def neighbours (f : FloatFormat) (rank : Nat) (exponent : Int) : List Decimal :=
  let num := f.units rank * Nat.pow 10 (-exponent).toNat
  let den := f.one * Nat.pow 10 exponent.toNat
  let low := num / den
  let past := num % den
  let below := 2 * past < den || (2 * past == den && low % 2 == 0)
  if below then [⟨low, exponent⟩, ⟨low + 1, exponent⟩] else [⟨low + 1, exponent⟩, ⟨low, exponent⟩]

/-- The most significant digits that any magnitude of the format needs. -/
def maxDigits (f : FloatFormat) : Nat := (f.fraction + 1) * 301 / 1000 + 2

/-- The shortest decimal that reads back as the rank, and the nearest of those. -/
def shortest (f : FloatFormat) (rank : Nat) : Decimal :=
  let lead := leadingExponent (f.units rank) f.one
  let grids := (List.range (maxDigits f)).map fun (n : Nat) => lead - n
  let found := grids.findSome? fun exponent =>
    (neighbours f rank exponent).find? fun d => d.nearestRank f == rank
  found.getD ⟨f.units rank, 0⟩

end Decimal

/-! ### The written form -/

/-- Where a number turns from positional to exponent notation, as powers of ten: positional from
`10 ^ low` up to and without `10 ^ high`. An exponent is signed and has at least `width` digits. -/
structure DecimalLayout where
  low : Int
  high : Int
  width : Nat

/-- Numbers are positional from a ten-thousandth up to ten to the sixteenth, exponents have a sign
and two digits. -/
def DecimalLayout.standard : DecimalLayout := ⟨-4, 16, 2⟩

namespace DecimalLayout

/-- Places the point after the first `point` of the digits. A whole number keeps one place. -/
def positional (digits : List Char) (point : Int) : List Char :=
  if point ≤ 0 then '0' :: '.' :: (List.replicate point.natAbs '0' ++ digits)
  else
    let whole := digits.take point.toNat
    let places := digits.drop point.toNat
    whole ++ List.replicate (point.toNat - digits.length) '0' ++ '.' ::
      (if places.isEmpty then ['0'] else places)

def scientific (layout : DecimalLayout) (digits : List Char) (exponent : Int) : List Char :=
  let places := digits.drop 1
  let power := Nat.toDigits 10 exponent.natAbs
  digits.take 1 ++ (if places.isEmpty then [] else '.' :: places) ++ 'e' ::
    (if exponent < 0 then '-' else '+') ::
      (List.replicate (layout.width - power.length) '0' ++ power)

def write (layout : DecimalLayout) (d : Decimal) : List Char :=
  let all := Nat.toDigits 10 d.digits
  let digits := (all.reverse.dropWhile (· == '0')).reverse
  let lead : Int := all.length + d.exponent - 1
  if d.digits = 0 then positional ['0'] 1
  else if layout.low ≤ lead && lead < layout.high then positional digits (lead + 1)
  else layout.scientific digits lead

end DecimalLayout

def Binary.toText {f : FloatFormat} : Binary f → String
  | .nan _ => "nan"
  | .infinite negative => if negative then "-inf" else "inf"
  | .finite negative rank =>
    let decimal := if rank.val = 0 then ⟨0, 0⟩ else Decimal.shortest f rank
    (if negative then "-" else "") ++ String.ofList (DecimalLayout.standard.write decimal)

end GrowthGrammar
