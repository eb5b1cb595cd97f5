import GrowthGrammar.Formula.Grammar
import GrowthGrammar.Formula.Operation
import GrowthGrammar.Random.Source
import GrowthGrammar.Report

/-!
Evaluation of formulas. Operands are evaluated from left to right, and draws that were made before a
fault stay made.
-/
namespace GrowthGrammar

/-- The variables of a formula. -/
abbrev Environment := List (Spelling × Operand)

/-- An evaluation draws from a source and may fail. -/
abbrev Evaluation (α : Type) := ExceptT EvaluationFault (StateM Source) α

namespace Evaluation

def ofExcept {α : Type} : Except EvaluationFault α → Evaluation α
  | .ok a => pure a
  | .error fault => throw fault

def draw : Evaluation Double := modifyGet Source.draw

/-- The value of `low + (high - low) * r` for a draw `r`, which is made after the width is known. -/
def uniform (low high : Operand) : Evaluation Operand := do
  let width ← ofExcept (Operand.arithmetic .sub high low)
  let r ← draw
  let part ← ofExcept (Operand.arithmetic .mul width (.float r))
  ofExcept (Operand.arithmetic .add low part)

def call (function a b : Operand) : Evaluation Operand :=
  match function with
  | .draw => uniform a b
  | .power => ofExcept (Operand.floatPower a b)
  | _ => throw (.notCallable function.typeName)

end Evaluation

namespace Formula

def powerName : String := "__pow"

/-- The value of a name: a fixed one, the variable of that name, or one that is there by default. -/
def lookup (env : Environment) (name : String) : Except EvaluationFault Operand :=
  if name == "__debug__" then .ok (.data (.bool true))
  else match env.lookup (.plain name) with
    | some value => .ok value
    | none =>
      if name == powerName then .ok .power
      else if name == "__builtins__" then .ok (.data (.map []))
      else .error (.unknownVariable name)

def eval (env : Environment) : Formula → Evaluation Operand
  | .int n => pure (.int n)
  | .float x => pure (.float x)
  | .name s => Evaluation.ofExcept (lookup env s)
  | .positive operand => do Evaluation.ofExcept (← operand.eval env).positive
  | .negative operand => do Evaluation.ofExcept (← operand.eval env).negative
  | .arithmetic op left right => do
    let a ← left.eval env
    let b ← right.eval env
    Evaluation.ofExcept (Operand.arithmetic op a b)
  | .power base exponent => do
    let function ← Evaluation.ofExcept (lookup env powerName)
    let a ← base.eval env
    let b ← exponent.eval env
    Evaluation.call function a b
  | .random low high => do
    let function ← Evaluation.ofExcept (lookup env drawName)
    let a ← low.eval env
    let b ← high.eval env
    Evaluation.call function a b

end Formula

/-! ### Formulas as text -/

/-- Why the text of a formula has no value. The first four are no reports to the user but faults of
their own, and so are a missing key and want of memory in an evaluation. -/
inductive FormulaFault where
  | unencodable (fault : Spelling.EncodingFault)
  | nullCharacter
  | constantName (name : String)
  | outsideDouble
  | malformed (text : Spelling)
  | notSafe (fault : Formula.SafetyFault) (text : Spelling)
  | evaluation (fault : EvaluationFault) (text : Spelling)
  | noNumber (text : Spelling)
  | outsideSingle (key text : Spelling)

namespace FormulaFault

def ofText (code : String) (message text : Spelling) : Report :=
  ⟨code, message, [Report.detail "expr" (.text text)]⟩

def report? : FormulaFault → Option Report
  | .unencodable _ | .nullCharacter | .constantName _ | .outsideDouble
  | .evaluation (.filling (.missingKey _)) _ | .evaluation (.filling .outOfMemory) _
  | .evaluation .outOfMemory _ => none
  | .malformed text => some (ofText "expression_error" (.plain "Invalid expression: " ++ text) text)
  | .notSafe fault text => some (ofText "unsafe_expression" fault.message text)
  | .evaluation fault text =>
    let head := match fault with
      | .unknownVariable _ => "Unknown variable in expression"
      | _ => "Expression evaluation failed"
    some (ofText "expression_error" (head ++ ": " ++ fault.message) text)
  | .noNumber text => some (ofText "expression_error" "Expression did not produce a number" text)
  | .outsideSingle key text =>
    some (ofText "expression_error"
      s!"Result of {key.quoted} does not fit a 32-bit float" text)

def message (fault : FormulaFault) : Except NumberFault Spelling :=
  match fault.report? with
  | some report => report.text
  | none =>
    match fault with
    | .unencodable fault => .ok fault.message
    | .nullCharacter => .ok "source code string cannot contain null bytes"
    | .constantName name => .ok s!"identifier field can't represent '{name}' constant"
    | .evaluation fault _ => .ok fault.message
    | _ => .ok EvaluationFault.outsideDouble.message

end FormulaFault

namespace Formula

/-- Words for constants. A name may become one of these by its normal form only, and means nothing
then. -/
def constantNames : List String := ["None", "True", "False"]

/-- The formula that a text spells. White space around it does not count. -/
def parse (text : Spelling) : Except FormulaFault Formula :=
  match text.trim.encode with
  | .error fault => .error (.unencodable fault)
  | .ok source =>
    if source.toList.contains '\x00' then .error .nullCharacter
    else match Tree.ofText? source with
      | none => .error (.malformed text)
      | some t =>
        match t.compile with
        | .ok formula =>
          match formula.names.find? constantNames.contains with
          | some word => .error (.constantName word)
          | none => .ok formula
        | .error fault => .error (.notSafe fault text)

/-- The value of an evaluation as a float. -/
def toResult (text : Spelling) : Operand → Except FormulaFault Double
  | .data (.int n) =>
    match Data.nearestDouble n with
    | .ok x => .ok x
    | .error _ => .error .outsideDouble
  | .data (.float x) => .ok x
  | _ => .error (.noNumber text)

/-- Evaluates the text of a formula, and gives the source as the draws leave it. -/
def evaluate (text : Spelling) (env : Environment) (source : Source) :
    Except FormulaFault Double × Source :=
  match parse text with
  | .error fault => (.error fault, source)
  | .ok formula =>
    match (formula.eval env).run source with
    | (.error fault, source) => (.error (.evaluation fault text), source)
    | (.ok operand, source) => (toResult text operand, source)

end Formula

end GrowthGrammar
