import GrowthGrammar.Data

/-!
Reports: what the user is told when rules, nodes or formulas are not valid. A report has a code for
programs, a message for people and details by name. Details are written out when the report is shown,
which fails where one of them has an integer of too many digits in it.
-/
namespace GrowthGrammar

/-- A detail of a report: its name, and what it is written as. -/
abbrev Detail := Spelling × Except NumberFault String

structure Report where
  code : Spelling
  message : Spelling
  details : List Detail := []

namespace Report

def detail (name : Spelling) (d : Data) : Detail := (name, d.literal)

/-- Inserts a detail by the alphabetical order of names, after those of the same name. -/
def insertSorted (entry : Detail) : List Detail → List Detail
  | [] => [entry]
  | e :: rest => if entry.1 < e.1 then entry :: e :: rest else e :: insertSorted entry rest

def sortedDetails (report : Report) : List Detail :=
  report.details.foldl (fun sorted entry => insertSorted entry sorted) []

def text (report : Report) : Except NumberFault Spelling := do
  let shown ← report.sortedDetails.mapM fun (name, value) =>
    return name ++ Spelling.plain "=" ++ Spelling.plain (← value)
  let head := Spelling.plain "[" ++ report.code ++ Spelling.plain "] " ++ report.message
  if shown.isEmpty then return head
  else
    return head ++ Spelling.plain " (" ++ Spelling.intercalate ", " shown ++ Spelling.plain ")"

/-! ### Details from data -/

/-- Why a mapping cannot be the details of a report. -/
inductive DetailFault where
  | unnamed
  | takenName (name : String)

def DetailFault.message : DetailFault → String
  | .unnamed => "keywords must be strings"
  | .takenName name => s!"ValidationError.__init__() got multiple values for argument '{name}'"

/-- Names that no detail may have. -/
def takenNames : List String := ["self", "code", "message"]

/-- A report with the entries of a mapping as details. -/
def ofEntries (code message : Spelling) (entries : List (Data × Data)) :
    Except DetailFault Report := do
  let details ← entries.mapM fun (key, value) =>
    match key with
    | .text name => .ok (detail name value)
    | _ => .error DetailFault.unnamed
  let isName (detail : Detail) (name : String) : Bool := detail.1 == Spelling.plain name
  match details.findSome? fun detail => takenNames.find? (isName detail) with
  | some name => .error (.takenName name)
  | none => .ok ⟨code, message, details⟩

end Report

end GrowthGrammar
