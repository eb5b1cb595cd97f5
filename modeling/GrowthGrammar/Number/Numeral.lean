import GrowthGrammar.Number.Decimal
import GrowthGrammar.Text.Blank
import GrowthGrammar.Text.Digit

/-!
Numbers written as text. The digits may be of any script, a single underscore may stand between two
digits, and white space around a number does not count.
-/
namespace GrowthGrammar.Numeral

open Text

/-- Integers are read and written with this many decimal digits at most. -/
def maxDigits : Nat := 4300

/-- Whether the decimal digits of an integer are more than may be written. -/
def isTooLong (n : Int) : Bool := Nat.pow 10 maxDigits ≤ n.natAbs

/-- What is said of an integer with too many digits, and of their number if it is known. -/
def overLimit (known : String) : String :=
  s!"Exceeds the limit ({maxDigits} digits) for integer string conversion{known}; " ++
    "use sys.set_int_max_str_digits() to increase the limit"

/-- White space around a number. The information separators are no part of it. -/
def isGap (c : Char) : Bool := isBlank c && !('\x1c' ≤ c && c ≤ '\x1f')

def skipGaps (cs : List Char) : List Char := cs.dropWhile isGap

def trimGaps (cs : List Char) : List Char := (skipGaps (skipGaps cs).reverse).reverse

/-- A leading minus sign, and what follows an optional sign. -/
def splitSign : List Char → Bool × List Char
  | '-' :: cs => (true, cs)
  | '+' :: cs => (false, cs)
  | cs => (false, cs)

def ofDigits (digits : List Nat) : Nat := digits.foldl (fun n d => 10 * n + d) 0

/-- The digits of a non-empty run, without the single underscores between them. -/
def groupedDigits? : List Char → Option (List Nat)
  | [] => none
  | [c] => do return [← digitValue? c]
  | c :: '_' :: cs => do return (← digitValue? c) :: (← groupedDigits? cs)
  | c :: cs => do return (← digitValue? c) :: (← groupedDigits? cs)

/-! ### Integers -/

inductive IntegerReading where
  | value (n : Int)
  | malformed
  | tooLong (digits : Nat)
  deriving DecidableEq, Repr

def isDigitOrSeparator (c : Char) : Bool := c == '_' || (digitValue? c).isSome

/-- Reads an integer. Too many digits are found before anything else that may follow them. -/
def integer (s : String) : IntegerReading :=
  let (negative, cs) := splitSign (skipGaps s.toList)
  match groupedDigits? (cs.takeWhile isDigitOrSeparator) with
  | none => .malformed
  | some digits =>
    if maxDigits < digits.length then .tooLong digits.length
    else if !(cs.dropWhile isDigitOrSeparator).all isGap then .malformed
    else .value (if negative then -(ofDigits digits : Int) else ofDigits digits)

/-! ### Floats -/

/-- The text without its underscores, if each stands between two digits. -/
def dropSeparators? : List Char → Option (List Char)
  | [] => some []
  | c :: '_' :: d :: cs =>
    if c.isDigit && d.isDigit then (dropSeparators? (d :: cs)).map (c :: ·) else none
  | c :: cs => if c == '_' then none else (dropSeparators? cs).map (c :: ·)

def latinDigits (cs : List Char) : List Nat := cs.map fun c => c.toNat - '0'.toNat

/-- The exponent after the digits: nothing, or the letter e with an optional sign and digits. -/
def exponent? : List Char → Option Int
  | [] => some 0
  | c :: cs =>
    let (negative, digits) := splitSign cs
    if (c == 'e' || c == 'E') && !digits.isEmpty && digits.all Char.isDigit then
      let n := ofDigits (latinDigits digits)
      some (if negative then -(n : Int) else n)
    else none

/-- Digits with an optional point, of which at least one digit, and an optional exponent. -/
def decimal? (cs : List Char) : Option Decimal :=
  let whole := cs.takeWhile Char.isDigit
  let rest := cs.dropWhile Char.isDigit
  let (places, rest) := match rest with
    | '.' :: tail => (tail.takeWhile Char.isDigit, tail.dropWhile Char.isDigit)
    | _ => ([], rest)
  let digits := whole ++ places
  if digits.isEmpty then none
  else (exponent? rest).map fun exponent =>
    ⟨ofDigits (latinDigits digits), exponent - places.length⟩

/-- A float without sign: a decimal, or infinity or not-a-number by name in any case. -/
def unsignedFloat? (negative : Bool) (cs : List Char) : Option Double :=
  let name := String.ofList (cs.map Char.toLower)
  if name == "inf" || name == "infinity" then some (.infinite negative)
  else if name == "nan" then some (.nan negative)
  else (decimal? cs).map (·.toBinary .binary64 negative)

def float? (s : String) : Option Double := do
  let cs ← dropSeparators? ((trimGaps s.toList).map latinDigit)
  let (negative, cs) := splitSign cs
  unsignedFloat? negative cs

end GrowthGrammar.Numeral
