import GrowthGrammar.Number.Arithmetic
import GrowthGrammar.Number.Numeral
import GrowthGrammar.Text.Spelling

/-!
Scalars: the numbers that nodes carry. A scalar is a 32-bit integer or a single-precision float and
never changes its kind by itself; two scalars are equal if kind and bits are.
-/
namespace GrowthGrammar

inductive ScalarKind where
  | int
  | float
  deriving DecidableEq, Repr

def ScalarKind.name : ScalarKind → String
  | .int => "int"
  | .float => "float"

/-- Why a number could not be made or read. -/
inductive NumberFault where
  | notIntegral (x : Double)
  | outsideInteger (n : Int)
  | outsideSingle
  | outsideDouble
  | infiniteInteger
  | undefinedInteger
  | malformedInteger (text : Spelling)
  | tooManyDigits (digits : Nat)
  | unwritable
  | malformedFloat (text : Spelling)
  | notNumber (typeName : String)
  | noInteger (typeName : String)
  | noFloat (typeName : String)
  | otherKind (stored requested : ScalarKind)
  deriving DecidableEq

/-- Malformed integers are shown by this many characters at most, the opening quote included. -/
def shownIntegerSize : Nat := 200

def NumberFault.message : NumberFault → String
  | .notIntegral x => s!"Integer value expected, got {x.toText}"
  | .outsideInteger n =>
    -- The message itself has to be written first.
    if Numeral.isTooLong n then Numeral.overLimit ""
    else s!"Integer value {n} outside the 32-bit range"
  | .outsideSingle => "float too large to pack with f format"
  | .outsideDouble => "int too large to convert to float"
  | .infiniteInteger => "cannot convert float infinity to integer"
  | .undefinedInteger => "cannot convert float NaN to integer"
  | .malformedInteger text =>
    let shown := String.ofList (text.quoted.toList.take shownIntegerSize)
    s!"invalid literal for int() with base 10: {shown}"
  | .tooManyDigits digits => Numeral.overLimit s!": value has {digits} digits"
  | .unwritable => Numeral.overLimit ""
  | .malformedFloat text => s!"could not convert string to float: {text.quoted}"
  | .notNumber typeName => s!"Cannot build a Value from {typeName}"
  | .noInteger typeName =>
    "int() argument must be a string, a bytes-like object or a real number, not " ++
    s!"'{typeName}'"
  | .noFloat typeName => s!"float() argument must be a string or a real number, not '{typeName}'"
  | .otherKind stored requested => s!"Value stores {stored.name}, requested {requested.name}"

/-- The decimal digits of an integer, after its sign. -/
def Numeral.write (n : Int) : Except NumberFault String :=
  if isTooLong n then .error .unwritable else .ok (toString n)

inductive Scalar where
  | int (n : Int32)
  | float (x : Single)
  deriving DecidableEq

namespace Scalar

def kind : Scalar → ScalarKind
  | .int _ => .int
  | .float _ => .float

def ofInt (n : Int) : Except NumberFault Scalar :=
  if -2147483648 ≤ n ∧ n ≤ 2147483647 then .ok (.int (Int32.ofInt n))
  else .error (.outsideInteger n)

/-- Rounds to single precision. A finite number must stay finite. -/
def ofDouble (x : Double) : Except NumberFault Scalar :=
  let single : Single := x.convert .binary32
  if x.isFinite && single.isInfinite then .error .outsideSingle else .ok (.float single)

/-- The integer scalar of a float that is a whole number. -/
def ofWhole (x : Double) : Except NumberFault Scalar :=
  if x.isIntegral then ofInt x.truncate else .error (.notIntegral x)

def toDouble : Scalar → Double
  | .int n => .ofInt n.toInt
  | .float x => x.convert .binary64

def toInt? : Scalar → Except NumberFault Int
  | .int n => .ok n.toInt
  | .float _ => .error (.otherKind .float .int)

def toFloat? : Scalar → Except NumberFault Double
  | .float x => .ok (x.convert .binary64)
  | .int _ => .error (.otherKind .int .float)

def numberText : Scalar → String
  | .int n => toString n.toInt
  | .float x => Binary.toText (x.convert .binary64)

def literal (v : Scalar) : String := s!"Value.{v.kind.name}({v.numberText})"

def parseFloat (text : Spelling) : Except NumberFault Scalar :=
  match Numeral.float? text.legible with
  | some x => ofDouble x
  | none => .error (.malformedFloat text)

/-- Reads an integer where the text is one that fits, and a float otherwise. -/
def parse (s : Spelling) : Except NumberFault Scalar :=
  let text := s.trim
  match Numeral.integer text.legible with
  | .value n =>
    match ofInt n with
    | .ok v => .ok v
    | .error _ => parseFloat text
  | _ => parseFloat text

end Scalar

end GrowthGrammar
