import GrowthGrammar.Scalar

/-!
Plain data: what a decoded rule file holds. Mappings keep the order of their entries, and their keys
need not be strings.
-/
namespace GrowthGrammar

inductive Data where
  | null
  | bool (b : Bool)
  | int (n : Int)
  | float (x : Double)
  | text (s : Spelling)
  | list (items : List Data)
  | map (entries : List (Data × Data))
  | scalar (v : Scalar)
  deriving Inhabited

namespace Data

def typeName : Data → String
  | .null => "NoneType"
  | .bool _ => "bool"
  | .int _ => "int"
  | .float _ => "float"
  | .text _ => "str"
  | .list _ => "list"
  | .map _ => "dict"
  | .scalar _ => "Value"

/-! ### Text -/

mutual

/-- The datum written out, unless there is an integer of too many digits in it. -/
def literal : Data → Except NumberFault String
  | .null => .ok "None"
  | .bool b => .ok (if b then "True" else "False")
  | .int n => Numeral.write n
  | .float x => .ok x.toText
  | .text s => .ok s.quoted
  | .list items => do return "[" ++ ", ".intercalate (← literals items) ++ "]"
  | .map entries => do
    return "\x7b" ++ ", ".intercalate (← entryLiterals entries) ++ "\x7d"
  | .scalar v => .ok v.literal

def literals : List Data → Except NumberFault (List String)
  | [] => .ok []
  | item :: items => do return (← item.literal) :: (← literals items)

def entryLiterals : List (Data × Data) → Except NumberFault (List String)
  | [] => .ok []
  | (key, value) :: entries => do
    return ((← key.literal) ++ ": " ++ (← value.literal)) :: (← entryLiterals entries)

end

/-- The datum as text: a string is itself, anything else is written out. -/
def toText : Data → Except NumberFault Spelling
  | .text s => .ok s
  | d => return .plain (← d.literal)

/-! ### Equality and order -/

/-- The exact number that a boolean, integer or float stands for. -/
def toExtended? : Data → Option Binary.Extended
  | .bool b => some (.ofInt .binary64 (if b then 1 else 0))
  | .int n => some (.ofInt .binary64 n)
  | .float x => some x.toExtended
  | _ => none

/-- Equality of two data that are no lists or mappings. Numbers are equal if their values are. -/
def leafEquals : Data → Data → Bool
  | .null, .null => true
  | .text s, .text t => s == t
  | .scalar v, .scalar w => v == w
  | x, y =>
    match x.toExtended?, y.toExtended? with
    | some m, some n => m.eq n
    | _, _ => false

mutual

/-- Equality as keys and answers see it. The order of a mapping does not count. -/
def equals : Data → Data → Bool
  | .list xs, .list ys => listEquals xs ys
  | .map xs, .map ys => xs.length == ys.length && entriesIn xs ys
  | x, y => leafEquals x y

def listEquals : List Data → List Data → Bool
  | [], [] => true
  | x :: xs, y :: ys => x.equals y && listEquals xs ys
  | _, _ => false

def entriesIn : List (Data × Data) → List (Data × Data) → Bool
  | [], _ => true
  | (key, value) :: xs, ys =>
    (ys.any fun (key', value') => key.equals key' && value.equals value') && entriesIn xs ys

end

/-- Whether a datum equals itself: not-a-number does not, but all that holds it does. -/
def equalsItself : Data → Bool
  | .float x => !x.isNaN
  | _ => true

/-- Whether the first datum comes before the second, if the two can be ordered. -/
def before? : Data → Data → Option Bool
  | .text s, .text t => some (s < t)
  | x, y => do return (← x.toExtended?).lt (← y.toExtended?)

/-! ### Parts -/

/-- Whether the datum counts as present: nothing, false, zero and all that is empty do not. -/
def isTruthy : Data → Bool
  | .null => false
  | .bool b => b
  | .int n => n != 0
  | .float x => !x.isZero
  | .text s => !s.isEmpty
  | .list items => !items.isEmpty
  | .map entries => !entries.isEmpty
  | .scalar _ => true

/-- The parts that a datum is gone through by: the items of a list, the characters of a string, the
keys of a mapping. -/
def parts? : Data → Option (List Data)
  | .list items => some items
  | .text s => some (s.points.map fun point => .text (.ofPoints [point]))
  | .map entries => some (entries.map (·.1))
  | _ => none

/-- Whether the datum may be the key of an entry. -/
def isKey : Data → Bool
  | .list _ | .map _ => false
  | _ => true

/-- Sets an entry: the value of an equal key is replaced in its place, a new key comes last. -/
def putEntry (entries : List (Data × Data)) (key value : Data) : List (Data × Data) :=
  match entries with
  | [] => [(key, value)]
  | (k, v) :: rest => if k.equals key then (k, value) :: rest else (k, v) :: putEntry rest key value

/-- The mapping of a list of entries, later ones overriding earlier ones. -/
def ofEntries (entries : List (Data × Data)) : Data :=
  .map (entries.foldl (fun m (key, value) => putEntry m key value) [])

def isText (name : Spelling) : Data → Bool
  | .text s => s == name
  | _ => false

def entry? (entries : List (Data × Data)) (name : Spelling) : Option Data :=
  (entries.find? fun (key, _) => key.isText name).map (·.2)

def isNull : Data → Bool
  | .null => true
  | _ => false

end Data

end GrowthGrammar
