import GrowthGrammar.Hash.Scatter
import GrowthGrammar.Rule.Basic
import GrowthGrammar.RunSort

/-!
Loading: rules and their parts from plain data. Everything is checked here, in the order in which it
stands in the data. Strict loading also refuses mappings with fields that mean nothing. Names, keys
and formulas are written out as they are loaded, and so is what messages show.
-/
namespace GrowthGrammar

/-- Why data cannot be loaded. All but the first two are faults of data that no rule file would
have. -/
inductive LoadFault where
  | report (r : Report)
  | formula (fault : FormulaFault)
  | number (fault : NumberFault)
  | noParts (typeName : String)
  | noKey (typeName : String)
  | unordered (leftType rightType : String)

namespace LoadFault

def report? : LoadFault → Option Report
  | .report r => some r
  | .formula fault => fault.report?
  | _ => none

def message : LoadFault → Except NumberFault Spelling
  | .report r => r.text
  | .formula fault => fault.message
  | .number fault => .ok fault.message
  | .noParts typeName => .ok s!"'{typeName}' object is not iterable"
  | .noKey typeName => .ok s!"unhashable type: '{typeName}'"
  | .unordered leftType rightType =>
    .ok s!"'<' not supported between instances of '{leftType}' and '{rightType}'"

end LoadFault

/-- A load gives what was loaded, or why it was not. -/
abbrev Load (α : Type) := Except LoadFault α

namespace Load

/-- The datum as text. -/
def text (d : Data) : Load Spelling := d.toText.mapError .number

/-- The datum as messages show it. -/
def shown (d : Data) : Load String := d.literal.mapError .number

/-- Refuses with a report that shows data. -/
def refuse {α : Type} (code message : String) (details : List (String × Data)) : Load α :=
  .error (.report ⟨code, message, details.map fun (name, d) => Report.detail name d⟩)

/-! ### Mappings -/

abbrev Fields := List (Data × Data)

def mapping (what : String) : Data → Load Fields
  | .map fields => .ok fields
  | d => refuse ("invalid_" ++ what) (what ++ " must be a mapping") [("value", d)]

def before (x y : Data) : Load Bool :=
  match x.before? y with
  | some answer => .ok answer
  | none => .error (.unordered x.typeName y.typeName)

/-- Whether a key is one of some names. -/
def isAmong (names : List String) (key : Data) : Bool := names.any fun name => key.isText name

/-- Refuses fields that are not among the allowed ones. -/
def checkFields (strict : Bool) (fields : Fields) (allowed : List String) (what : String) :
    Load Unit := do
  if strict then
    let extras := (Scatter.ofList (fields.map (·.1))).difference allowed.length (isAmong allowed)
    if extras.used != 0 then
      let sorted := Data.list (← runSort before extras.toList)
      let line ← shown sorted
      refuse "unknown_field" s!"Unknown fields in {what}: {line}" [("extras", sorted)]

/-- The parts of a field that holds several. A field that is missing or empty has none. -/
def parts (fields : Fields) (name : String) : Load (List Data) :=
  match Data.entry? fields name with
  | none => .ok []
  | some d =>
    if !d.isTruthy then .ok []
    else match d.parts? with
      | some items => .ok items
      | none => .error (.noParts d.typeName)

/-- The fields of a field that holds a mapping. A field that is missing or empty has none. -/
def inner (fields : Fields) (name : String) : Load Fields :=
  match Data.entry? fields name with
  | none => .ok []
  | some d => if d.isTruthy then mapping "node" d else .ok []

def patternId (what : String) : Data → Load Int
  | .int n => .ok n
  | d => refuse "invalid_procedure" (what ++ " must be an integer pattern id") [("value", d)]

end Load

/-! ### Scalars and conditions -/

def Scalar.load (d : Data) : Load Scalar :=
  let refuse {α : Type} (message : String) : Load α :=
    Load.refuse "invalid_value" message [("value", d)]
  match d with
  | .scalar v => .ok v
  | .bool _ => refuse "Booleans are not numeric values"
  | .int _ | .float _ =>
    match d.toScalar with
    | .ok v => .ok v
    | .error fault => refuse fault.message
  | .text s =>
    match Scalar.parse s with
    | .ok v => .ok v
    | .error _ => refuse s!"Not an int or float: {s.quoted}"
  | _ => refuse s!"Unsupported value type {d.typeName}"

namespace Condition

def boundCount : ConditionKind → Nat
  | .single _ => 1
  | .range => 2

/-- The kind that a word stands for. A list or mapping cannot be looked up at all. -/
def loadKind (word : Data) : Load ConditionKind :=
  let unknown : Load ConditionKind := do
    let shown ← Load.shown word
    Load.refuse "unknown_condition" s!"Unknown designator {shown}" [("designator", word)]
  match word with
  | .text s =>
    match ConditionKind.ofDesignator? s with
    | some kind => .ok kind
    | none => unknown
  | _ => if word.isKey then unknown else .error (.noKey word.typeName)

/-- A condition is a list: the word for its kind, then its bounds. -/
def load (d : Data) : Load Condition :=
  match d with
  | .list (word :: bounds) => do
    let kind ← loadKind word
    match kind, bounds with
    | .single c, [bound] => return .single c (← Scalar.load bound)
    | .range, [low, high] => return .range (← Scalar.load low) (← Scalar.load high)
    | _, _ =>
      let shown ← Load.shown word
      Load.refuse "invalid_condition" s!"{shown} takes {boundCount kind} value(s)"
        [("designator", word), ("value", d)]
  | _ =>
    Load.refuse "invalid_condition" "A condition is a designator followed by one or two values"
      [("value", d)]

end Condition

/-! ### Nodes and templates -/

def Node.load (strict : Bool) (d : Data) : Load Node := do
  let fields ← Load.mapping "node" d
  Load.checkFields strict fields ["name", "values"] "node"
  let name ← Load.text ((Data.entry? fields "name").getD (.text ""))
  let values ← (← Load.inner fields "values").mapM fun (key, value) =>
    return (← Load.text key, ← Scalar.load value)
  return ⟨name, .ofList values⟩

def Template.load (strict : Bool) (d : Data) : Load Template := do
  let fields ← Load.mapping "node" d
  Load.checkFields strict fields ["name", "values"] "node template"
  match Data.entry? fields "name" with
  | none => Load.refuse "invalid_node" "Node template requires a name" [("value", d)]
  | some name =>
    let values ← Load.inner fields "values"
    let template ← (Template.ofEntries name values).mapError LoadFault.number
    template.validate.mapError .formula
    return template

/-! ### Patterns -/

/-- The name that a node is to have, if any. -/
def PatternNode.loadName? : Option Data → Load (Option Spelling)
  | none | some .null => return none
  | some name => return some (← Load.text name)

def PatternNode.load (strict : Bool) (d : Data) : Load PatternNode := do
  let fields ← Load.mapping "node" d
  Load.checkFields strict fields ["id", "name", "values"] "pattern node"
  match Data.entry? fields "id" with
  | none => Load.refuse "invalid_node" "Pattern node requires an id" [("value", d)]
  | some id =>
    let conditions ← Load.inner fields "values"
    let id ← Load.patternId "Pattern node id" id
    let name? ← loadName? (Data.entry? fields "name")
    let conditions ← conditions.mapM fun (key, condition) =>
      return (← Load.text key, ← Condition.load condition)
    return { id, name?, conditions := .ofList conditions }

namespace Pattern

def loadEdge (d : Data) : Load (Int × Int) :=
  match d with
  | .list [a, b] => do
    let a ← Load.patternId "Edge endpoint" a
    let b ← Load.patternId "Edge endpoint" b
    return (a, b)
  | _ => Load.refuse "invalid_pattern" "Pattern edges are pairs of pattern ids" [("edge", d)]

def load (strict : Bool) (d : Data) : Load Pattern := do
  let fields ← Load.mapping "pattern" d
  Load.checkFields strict fields ["nodes", "edges"] "pattern"
  let edges ← (← Load.parts fields "edges").mapM loadEdge
  let nodes ← (← Load.parts fields "nodes").mapM (PatternNode.load strict)
  match ofParts? nodes edges with
  | .ok pattern => return pattern
  | .error fault => .error (.report (← fault.report.mapError .number))

end Pattern

/-! ### Procedures -/

namespace Procedure

def loadReplace (strict : Bool) (d : Data) : Load Procedure := do
  let fields ← Load.mapping "procedure" d
  Load.checkFields strict fields ["target", "with", "replace"] "replace"
  let given := (Data.entry? fields "with").orElse fun _ => Data.entry? fields "replace"
  let template := given.getD .null
  match Data.entry? fields "target", template.isNull with
  | some target, false =>
    return .replace (← Load.patternId "replace target" target) (← Template.load strict template)
  | _, _ =>
    Load.refuse "invalid_procedure" "replace requires 'target' and 'with'" [("value", d)]

def loadAdd (strict : Bool) (d : Data) : Load Procedure := do
  let fields ← Load.mapping "procedure" d
  Load.checkFields strict fields ["neighbors", "node"] "add"
  match Data.entry? fields "node" with
  | none => Load.refuse "invalid_procedure" "add requires 'node'" [("value", d)]
  | some node =>
    let neighbors ← (← Load.parts fields "neighbors").mapM (Load.patternId "add neighbor")
    return .add neighbors (← Template.load strict node)

/-- A merge is a mapping, or a list of pattern ids of which the first survives. -/
def loadMerge (strict : Bool) (d : Data) : Load Procedure :=
  match d with
  | .map fields => do
    Load.checkFields strict fields ["targets", "final_node"] "merge"
    let survivor ← Load.patternId "merge final node" ((Data.entry? fields "final_node").getD .null)
    let targets ← (← Load.parts fields "targets").mapM (Load.patternId "merge target")
    return .merge targets survivor
  | .list (survivor :: target :: targets) => do
    let survivor ← Load.patternId "merge target" survivor
    return .merge (← (target :: targets).mapM (Load.patternId "merge target")) survivor
  | _ =>
    Load.refuse "invalid_procedure" "merge takes at least 2 pattern ids, the survivor first"
      [("value", d)]

/-- A procedure is a mapping with one field, which is named for the kind. -/
def load (strict : Bool) (d : Data) : Load Procedure :=
  match d with
  | .map [(kind, body)] =>
    match kind with
    | .text (.plain "delete") => do return .delete (← Load.patternId "delete target" body)
    | .text (.plain "replace") => loadReplace strict body
    | .text (.plain "add") => loadAdd strict body
    | .text (.plain "merge") => loadMerge strict body
    | _ => do
      let shown ← Load.shown kind
      Load.refuse "unknown_procedure" s!"Unknown procedure {shown}" [("procedure", kind)]
  | _ =>
    Load.refuse "invalid_procedure"
      "A procedure is a mapping with exactly one of delete/replace/add/merge" [("value", d)]

end Procedure

/-! ### Rules -/

namespace Rule

/-- Refuses procedures that name pattern ids which the pattern does not have. -/
def checkReferences (pattern : Pattern) (procedures : List Procedure) : Load Unit :=
  procedures.forM fun p => p.references.forM fun id =>
    if id ∈ pattern.ids then pure ()
    else do
      let shown ← Load.shown (.int id)
      Load.refuse "unknown_pattern_id"
        s!"{p.kind} references pattern id {shown} not declared in 'from'"
        [("pattern_id", .int id), ("procedure", .text p.kind)]

def load (strict : Bool) (d : Data) : Load Rule := do
  let fields ← Load.mapping "rule" d
  Load.checkFields strict fields ["id", "from", "to", "match_values", "symmetry_breaking"] "rule"
  match Data.entry? fields "from" with
  | none => Load.refuse "invalid_rule" "Rule requires a 'from' pattern" [("value", d)]
  | some pattern =>
    let pattern ← Pattern.load strict pattern
    let procedures ← (← Load.parts fields "to").mapM (Procedure.load strict)
    checkReferences pattern procedures
    return {
      pattern, procedures
      id := match Data.entry? fields "id" with
        | some id => .given id
        | none => .generated
      checkValues := ((Data.entry? fields "match_values").getD (.bool false)).isTruthy
      symmetryBreaking := ((Data.entry? fields "symmetry_breaking").getD (.bool true)).isTruthy }

def loadAll (strict : Bool) : Data → Load (List Rule)
  | .list items => items.mapM (Rule.load strict)
  | d =>
    Load.refuse "invalid_rule" "Rule collection must be a list" [("value", .text d.typeName)]

end Rule

end GrowthGrammar
