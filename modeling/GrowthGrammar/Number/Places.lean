import GrowthGrammar.Number.Decimal
import GrowthGrammar.Rope

/-!
Numbers written with a chosen number of digits: floats rounded to places after the point, or to
significant digits, and integers in a base. Floats are rounded from their exact value, and a tie
goes to the even digit.
-/
namespace GrowthGrammar

/-! ### Rounding -/

/-- The nearest multiple of `10 ^ exponent`. -/
def Decimal.nearestOn (f : FloatFormat) (rank : Nat) (exponent : Int) : Decimal :=
  (Decimal.neighbours f rank exponent).headD ⟨0, exponent⟩

/-- Digits of a magnitude, where the first one stands for tens to the power `lead`. Digits that are
left out are zeros. -/
structure LeadingDigits where
  digits : List Char
  lead : Int

/-- A magnitude rounded to a number of significant digits. No float has places beyond the scale of
its format. -/
def LeadingDigits.ofRank (f : FloatFormat) (rank count : Nat) : LeadingDigits :=
  if rank = 0 then ⟨['0'], 0⟩
  else
    let lead := Decimal.leadingExponent (f.units rank) f.one
    let exponent := max (lead - count + 1) (-(f.scale : Int))
    let rounded := Nat.toDigits 10 (Decimal.nearestOn f rank exponent).digits
    ⟨rounded.take count, rounded.length + exponent - 1⟩

/-! ### Texts -/

/-- How many digits a float is written with, and where. -/
inductive DigitStyle where
  /-- A number of places after the point. -/
  | fixed
  /-- A number of places, after one digit before the point and with an exponent. -/
  | scientific
  /-- A number of significant digits without trailing zeros, with an exponent where the number is
  very small or needs more digits before the point. -/
  | general
  deriving DecidableEq

namespace DigitStyle

/-- Digits around a point, with zeros after them. The point is left out if nothing follows it,
unless it is kept. -/
def pointed (keepPoint : Bool) (whole places : List Char) (zeros : Nat) : Rope Char :=
  let point := if places.isEmpty && zeros = 0 && !keepPoint then [] else ['.']
  .piece (whole ++ point ++ places) ++ .repeated (.piece ['0']) zeros

def zeroFilled (width : Nat) (digits : List Char) : List Char :=
  List.replicate (width - digits.length) '0' ++ digits

/-- An exponent has a sign and at least two digits. -/
def exponentText (exponent : Int) : List Char :=
  'e' :: (if exponent < 0 then '-' else '+') :: zeroFilled 2 (Nat.toDigits 10 exponent.natAbs)

def fixedText (f : FloatFormat) (keepPoint : Bool) (rank places : Nat) : Rope Char :=
  let exact := min places f.scale
  let digits := zeroFilled (exact + 1)
    (Nat.toDigits 10 (Decimal.nearestOn f rank (-(exact : Int))).digits)
  let point := digits.length - exact
  pointed keepPoint (digits.take point) (digits.drop point) (places - exact)

def scientificText (keepPoint : Bool) (number : LeadingDigits) (places : Nat) :
    Rope Char :=
  let shown := number.digits.drop 1
  pointed keepPoint (number.digits.take 1) shown (places - shown.length) ++
    .piece (exponentText number.lead)

/-- A number written positionally, up to a number of significant digits. -/
def positionalText (keepPoint : Bool) (number : LeadingDigits) (count : Nat) :
    Rope Char :=
  if number.lead < 0 then
    let gap := number.lead.natAbs - 1
    pointed keepPoint ['0'] (List.replicate gap '0' ++ number.digits) (count - number.digits.length)
  else
    let point := number.lead.toNat + 1
    let whole := number.digits.take point
    let places := number.digits.drop point
    pointed keepPoint (whole ++ List.replicate (point - whole.length) '0') places
      (count - max point number.digits.length)

/-- With the point kept, general style keeps trailing zeros too. -/
def generalText (f : FloatFormat) (keepPoint : Bool) (rank count : Nat) : Rope Char :=
  let count := max 1 count
  let rounded := LeadingDigits.ofRank f rank count
  let number : LeadingDigits :=
    ⟨(rounded.digits.reverse.dropWhile (· == '0')).reverse, rounded.lead⟩
  let number : LeadingDigits := if number.digits.isEmpty then ⟨['0'], rounded.lead⟩ else number
  let shown := if keepPoint then count else number.digits.length
  if number.lead < -4 || count ≤ number.lead then scientificText keepPoint number (shown - 1)
  else positionalText keepPoint number shown

/-- The magnitude of a float as text. -/
def write {f : FloatFormat} (style : DigitStyle) (keepPoint : Bool) (count : Nat) :
    Binary f → Rope Char
  | .nan _ => .ofString "nan"
  | .infinite _ => .ofString "inf"
  | .finite _ rank =>
    match style with
    | .fixed => fixedText f keepPoint rank count
    | .scientific =>
      scientificText keepPoint (LeadingDigits.ofRank f rank (count + 1)) count
    | .general => generalText f keepPoint rank count

end DigitStyle

end GrowthGrammar
