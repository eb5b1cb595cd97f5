import GrowthGrammar.Formula.Evaluation
import GrowthGrammar.Proofs.Number.Rounding
import GrowthGrammar.Proofs.Work

/-!
Evaluation over numbers. Where the variables of a formula are numbers, it computes with numbers and
with the few other operands that names stand for, never with a text or a list. Whatever stops it is
then reported, and it ends with a float unless its value is an integer that no double is nearest to.
-/
namespace GrowthGrammar

/-! ### Outcomes -/

/-- An operand that is neither a text nor a list. -/
structure Operand.Atomic (a : Operand) : Prop where
  text : a.text? = none
  list : a.list? = none

/-- A fault that is no matter of texts or lists. -/
def EvaluationFault.Told : EvaluationFault → Prop
  | .filling _ | .outOfMemory => False
  | _ => True

/-- A fault that the user is told of as one of an expression. -/
def FormulaFault.IsReported (fault : FormulaFault) : Prop :=
  ∃ report, fault.report? = some report ∧ report.code = "expression_error"

theorem FormulaFault.isReported_evaluation {fault : EvaluationFault} (told : fault.Told)
    (text : Spelling) : (FormulaFault.evaluation fault text).IsReported := by
  cases fault with
  | filling | outOfMemory => exact told.elim
  | _ => exact ⟨_, rfl, rfl⟩

namespace Operand

variable {α β : Type} {P : α → Prop} {Q : β → Prop}

/-- A result of some kind, or a fault that is told. -/
def Answers (P : α → Prop) : Except EvaluationFault α → Prop
  | .ok a => P a
  | .error fault => fault.Told

theorem Answers.bind {answer : Except EvaluationFault α} {f : α → Except EvaluationFault β}
    (first : Answers P answer) (second : ∀ a, P a → Answers Q (f a)) :
    Answers Q (answer >>= f) := by
  cases answer with
  | ok a => exact second a first
  | error fault => exact first

/-! ### Operations -/

theorem atomic_int (n : Int) : (int n).Atomic := ⟨rfl, rfl⟩

theorem atomic_float (x : Double) : (float x).Atomic := ⟨rfl, rfl⟩

variable {a b : Operand}

theorem atomic_of_number (numeric : a.number?.isSome = true) : a.Atomic := by
  cases a with
  | data d => cases d <;> first | exact ⟨rfl, rfl⟩ | cases numeric
  | text | list | draw | power => cases numeric

theorem number_answers (x : Number) : Answers (fun _ => True) x.toDouble := by
  cases x with
  | int n =>
    unfold Number.toDouble
    dsimp only
    split <;> trivial
  | float x => trivial

theorem ofIntegers_answers (op : Arithmetic) (m n : Int) : Answers Atomic (ofIntegers op m n) := by
  cases op with
  | add | sub | mul => exact atomic_int _
  | div =>
    unfold ofIntegers quotient
    dsimp only
    split
    · trivial
    · split
      · trivial
      · exact atomic_float _
  | floorDiv | mod =>
    unfold ofIntegers
    dsimp only
    split
    · trivial
    · exact atomic_int _

theorem ofFloats_answers (op : Arithmetic) (x y : Double) :
    Answers (fun _ => True) (ofFloats op x y) := by
  cases op with
  | add | sub | mul => trivial
  | div | floorDiv | mod =>
    unfold ofFloats
    dsimp only
    split <;> trivial

theorem ofNumbers_answers (op : Arithmetic) (x y : Number) : Answers Atomic (ofNumbers op x y) := by
  have floats : Answers Atomic (do
      let a ← x.toDouble
      let b ← y.toDouble
      return float (← ofFloats op a b)) :=
    (number_answers x).bind fun _ _ => (number_answers y).bind fun _ _ =>
      (ofFloats_answers op _ _).bind fun _ _ => atomic_float _
  cases x with
  | int m =>
    cases y with
    | int n => exact ofIntegers_answers op m n
    | float y => exact floats
  | float x => exact floats

/-- Operands that are no numbers are refused, texts and lists apart. -/
theorem ofOthers_answers (op : Arithmetic) (first : a.Atomic) (second : b.Atomic) :
    Answers Atomic (ofOthers op a b) := by
  cases op with
  | add =>
    simp only [ofOthers, concatenation, first.text, first.list]
    trivial
  | mul =>
    simp only [ofOthers, product, first.text, first.list, second.text, second.list]
    trivial
  | mod =>
    simp only [ofOthers, remainder, first.text]
    trivial
  | sub | div | floorDiv => trivial

theorem arithmetic_answers (op : Arithmetic) (first : a.Atomic) (second : b.Atomic) :
    Answers Atomic (arithmetic op a b) := by
  unfold arithmetic
  split
  · exact ofNumbers_answers op _ _
  · exact ofOthers_answers op first second

theorem positive_answers (a : Operand) : Answers Atomic a.positive := by
  unfold positive
  split
  · exact atomic_int _
  · exact atomic_float _
  · trivial

theorem negative_answers (a : Operand) : Answers Atomic a.negative := by
  unfold negative
  split
  · exact atomic_int _
  · exact atomic_float _
  · trivial

theorem toDouble_answers (a : Operand) : Answers (fun _ => True) a.toDouble := by
  unfold toDouble
  split
  · exact number_answers _
  · trivial

theorem floatPower_answers (a b : Operand) : Answers Atomic (floatPower a b) := by
  refine (toDouble_answers a).bind fun x _ => (toDouble_answers b).bind fun y _ => ?_
  split
  · exact atomic_float _
  · trivial

end Operand

/-! ### Evaluations -/

/-- Numbers for variables, and the function that draws. -/
def Environment.Numeric (env : Environment) : Prop :=
  ∀ entry ∈ env, entry.2.number?.isSome = true ∨ entry.2 = .draw

namespace Evaluation

open Operand

variable {α β : Type} {P : α → Prop} {Q : β → Prop} {a b : Operand}

/-- Whatever is drawn, the evaluation gives a result of some kind, or a fault that is told. -/
def Answers (P : α → Prop) (w : Evaluation α) : Prop :=
  ∀ source, Operand.Answers P (w.run source).1

theorem Answers.bind {w : Evaluation α} {f : α → Evaluation β} (first : w.Answers P)
    (second : ∀ a, P a → (f a).Answers Q) : (w >>= f).Answers Q := by
  intro source
  have answer := first source
  rw [Work.run_bind]
  split
  · rename_i a after ran
    rw [ran] at answer
    exact second a answer after
  · rename_i fault after ran
    rw [ran] at answer
    exact answer

theorem answers_pure {a : α} (good : P a) : Answers P (pure a) := fun _ => good

theorem answers_ofExcept {answer : Except EvaluationFault α} (good : Operand.Answers P answer) :
    Answers P (ofExcept answer) := by
  intro source
  cases answer <;> exact good

theorem draw_answers : draw.Answers fun _ => True := fun _ => trivial

theorem uniform_answers (low : a.Atomic) (high : b.Atomic) : (uniform a b).Answers Atomic := by
  refine (answers_ofExcept (arithmetic_answers .sub high low)).bind fun width wide => ?_
  refine draw_answers.bind fun r _ => ?_
  refine (answers_ofExcept (arithmetic_answers .mul wide (atomic_float r))).bind fun part some => ?_
  exact answers_ofExcept (arithmetic_answers .add low some)

theorem call_answers (function : Operand) (first : a.Atomic) (second : b.Atomic) :
    (call function a b).Answers Atomic := by
  unfold call
  split
  · exact uniform_answers first second
  · exact answers_ofExcept (floatPower_answers a b)
  · exact fun _ => trivial

end Evaluation

namespace Formula

open Evaluation

variable {env : Environment}

theorem lookup_answers (numeric : env.Numeric) (name : String) :
    Operand.Answers Operand.Atomic (lookup env name) := by
  unfold lookup
  split
  · exact ⟨rfl, rfl⟩
  · split
    · rename_i value found
      obtain ⟨before, after, rfl, -⟩ := List.lookup_eq_some_iff.mp found
      have member : (Spelling.plain name, value) ∈ before ++ (.plain name, value) :: after := by
        simp
      rcases numeric _ member with number | draws
      · exact Operand.atomic_of_number number
      · obtain rfl : value = .draw := draws
        exact ⟨rfl, rfl⟩
    · split
      · exact ⟨rfl, rfl⟩
      · split
        · exact ⟨rfl, rfl⟩
        · trivial

theorem eval_answers (numeric : env.Numeric) (formula : Formula) :
    (formula.eval env).Answers Operand.Atomic := by
  induction formula with
  | int n => exact answers_pure (Operand.atomic_int n)
  | float x => exact answers_pure (Operand.atomic_float x)
  | name s => exact answers_ofExcept (lookup_answers numeric s)
  | positive operand ih =>
    exact ih.bind fun a _ => answers_ofExcept (Operand.positive_answers a)
  | negative operand ih =>
    exact ih.bind fun a _ => answers_ofExcept (Operand.negative_answers a)
  | arithmetic op left right ihl ihr =>
    exact ihl.bind fun a first => ihr.bind fun b second =>
      answers_ofExcept (Operand.arithmetic_answers op first second)
  | power base exponent ihb ihe =>
    exact (answers_ofExcept (lookup_answers numeric _)).bind fun function _ =>
      ihb.bind fun a first => ihe.bind fun b second => call_answers function first second
  | random low high ihl ihh =>
    exact (answers_ofExcept (lookup_answers numeric _)).bind fun function _ =>
      ihl.bind fun a first => ihh.bind fun b second => call_answers function first second

/-! ### Results -/

/-- A text that is a formula has an integer for its value that no double is nearest to. -/
def Overflows (text : Spelling) (env : Environment) (source : Source) : Prop :=
  ∃ formula n, parse text = .ok formula ∧ ((formula.eval env).run source).1 = .ok (.int n) ∧
    2 ^ 1024 - 2 ^ 970 ≤ n.natAbs

/-- A result of some kind, or a fault that the user is told of. -/
inductive Settles {α : Type} (P : α → Prop) : Except FormulaFault α → Prop
  | ok {a : α} : P a → Settles P (.ok a)
  | error {fault : FormulaFault} : fault.IsReported → Settles P (.error fault)

variable {text : Spelling} {source : Source}

theorem not_settles_outsideDouble {α : Type} {P : α → Prop} :
    ¬ Settles P (.error .outsideDouble) := by
  rintro (_ | ⟨report, told, -⟩)
  cases told

theorem toResult_int (text : Spelling) (n : Int) :
    toResult text (.int n) =
      if 2 ^ 1024 - 2 ^ 970 ≤ n.natAbs then .error .outsideDouble else .ok (.ofInt n) := by
  unfold toResult Operand.int Data.nearestDouble
  dsimp only
  have infinite := Binary.isInfinite_ofInt n
  cases known : (Binary.ofInt n : Double).isInfinite with
  | true =>
    rw [if_pos (infinite.mp known)]
    rfl
  | false =>
    rw [if_neg fun large => Bool.false_ne_true (known.symm.trans (infinite.mpr large))]
    rfl

theorem toResult_settles {a : Operand}
    (fits : ∀ n, a = .int n → ¬ 2 ^ 1024 - 2 ^ 970 ≤ n.natAbs) :
    Settles (fun _ => True) (toResult text a) := by
  by_cases integer : ∃ n, a = .int n
  · obtain ⟨n, rfl⟩ := integer
    rw [toResult_int, if_neg (fits n rfl)]
    exact .ok trivial
  · unfold toResult
    split
    · rename_i n
      exact absurd ⟨n, rfl⟩ integer
    · exact .ok trivial
    · exact .error ⟨_, rfl, rfl⟩

theorem evaluate_of_overflows (overflows : Overflows text env source) :
    (evaluate text env source).1 = .error .outsideDouble := by
  obtain ⟨formula, n, parsed, value, large⟩ := overflows
  rw [evaluate, parsed]
  dsimp only
  cases ran : (formula.eval env).run source with
  | mk answer after =>
    rw [ran] at value
    cases value
    exact (toResult_int text n).trans (if_pos large)

theorem evaluate_settles {formula : Formula} (parsed : parse text = .ok formula)
    (numeric : env.Numeric) (fits : ¬ Overflows text env source) :
    Settles (fun _ => True) (evaluate text env source).1 := by
  have answer := eval_answers numeric formula source
  rw [evaluate, parsed]
  dsimp only
  cases ran : (formula.eval env).run source with
  | mk result after =>
    rw [ran] at answer
    cases result with
    | error fault => exact .error (FormulaFault.isReported_evaluation answer text)
    | ok a =>
      have fitting : Settles (fun _ => True) (toResult text a) :=
        toResult_settles fun n same large =>
          fits ⟨formula, n, parsed, (congrArg Prod.fst ran).trans (congrArg _ same), large⟩
      exact fitting

/-- The text of a formula over numbers gives a float, or a fault that is reported, unless it
overflows. -/
theorem settles_evaluate_iff {formula : Formula} (parsed : parse text = .ok formula)
    (numeric : env.Numeric) :
    Settles (fun _ => True) (evaluate text env source).1 ↔ ¬ Overflows text env source := by
  refine ⟨fun settled overflows => ?_, evaluate_settles parsed numeric⟩
  rw [evaluate_of_overflows overflows] at settled
  exact not_settles_outsideDouble settled

end Formula

end GrowthGrammar
