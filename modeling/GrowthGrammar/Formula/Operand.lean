import GrowthGrammar.Data.Number
import GrowthGrammar.Formula.Safe
import GrowthGrammar.Rope

/-!
What formulas compute with. Operands are numbers as a rule, but the variables of a formula may hold
any data, and the two functions that formulas call are operands too.
-/
namespace GrowthGrammar

/-- Texts and lists that formulas put together are kept as ropes. -/
inductive Operand where
  | data (d : Data)
  | text (points : Rope CodePoint)
  | list (items : Rope Data)
  | draw
  | power

namespace Operand

/-- No text or list takes more bytes than this. -/
def maxBytes : Nat := 8589934592

def typeName : Operand → String
  | .data d => d.typeName
  | .text _ => (Data.text (.plain "")).typeName
  | .list _ => (Data.list []).typeName
  | .draw => "function"
  | .power => "builtin_function_or_method"

def int (n : Int) : Operand := .data (.int n)

def float (x : Double) : Operand := .data (.float x)

def text? : Operand → Option (Rope CodePoint)
  | .data (.text s) => some (.piece s.points)
  | .text points => some points
  | _ => none

def list? : Operand → Option (Rope Data)
  | .data (.list items) => some (.piece items)
  | .list items => some items
  | _ => none

/-! ### Numbers -/

/-- The numbers among the operands; truth values count as integers. -/
inductive Number where
  | int (n : Int)
  | float (x : Double)

def number? : Operand → Option Number
  | .data (.bool b) => some (.int (if b then 1 else 0))
  | .data (.int n) => some (.int n)
  | .data (.float x) => some (.float x)
  | _ => none

end Operand

end GrowthGrammar
