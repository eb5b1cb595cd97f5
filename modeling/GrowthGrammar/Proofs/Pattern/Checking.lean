import GrowthGrammar.Pattern.Condition
import GrowthGrammar.Proofs.Number.Loading
import GrowthGrammar.Proofs.Number.Order

/-!
Checking numbers against conditions. A condition compares the exact numbers that data and bounds stand
for, whatever they are written as, so conditions order numbers as their values do.
-/
namespace GrowthGrammar

namespace Data

/-- Numbers that can be ordered: all but those that are not a number. -/
def IsOrdered : Data → Prop
  | .bool _ | .int _ => True
  | .float x => x.isNaN = false
  | .scalar v => v.isNaN = false
  | _ => False

/-- The exact number that a datum is checked as. What is no number is given as zero. -/
def number : Data → ExactNumber
  | .bool b => .ofRat (if b then 1 else 0 : Int)
  | .int n => .ofRat n
  | .float x => x.readNumber
  | .scalar v => v.number
  | _ => .ofRat 0

theorem checked?_of_ordered {d : Data} (ordered : d.IsOrdered) :
    ∃ x, Condition.checked? d = some x ∧ x ≠ .nan ∧ x.number = d.number := by
  cases d with
  | bool b => exact ⟨_, rfl, nofun, Scalar.number_ofInt _⟩
  | int n => exact ⟨_, rfl, nofun, Scalar.number_ofInt n⟩
  | scalar v => exact ⟨_, rfl, Scalar.toDouble_ne_nan ordered, v.number_toDouble⟩
  | float x =>
    unfold Condition.checked? number Binary.readNumber
    dsimp only
    cases single : Scalar.ofDouble x with
    | ok v =>
      obtain rfl := Scalar.eq_float_of_ofDouble single
      have single : Scalar.isNaN (.float (x.convert .binary32)) = false :=
        x.isNaN_convert.trans ordered
      exact ⟨_, rfl, Scalar.toDouble_ne_nan single, Scalar.number_toDouble _⟩
    | error fault => exact ⟨_, rfl, Binary.toExtended_ne_nan ordered, x.number_toExtended⟩
  | _ => exact ordered.elim

/-- A number that becomes a scalar is checked as that scalar is. -/
theorem checked?_of_toScalar {d : Data} {v : Scalar} (made : d.toScalar = .ok v) :
    Condition.checked? d = Condition.checked? (.scalar v) := by
  have integer {n : Int} (made : Scalar.ofInt n = .ok v) :
      some (Binary.Extended.ofInt .binary64 n) = Condition.checked? (.scalar v) := by
    by_cases fits : FitsInteger n
    · rw [Scalar.ofInt_of_fits fits] at made
      cases made
      have stored : (Int32.ofInt n).toInt = n :=
        Int32.toInt_ofInt_of_le fits.1 (Int.lt_add_one_of_le fits.2)
      rw [Condition.checked?, Scalar.toExtended_toDouble_int, stored]
    · rw [Scalar.ofInt_of_not_fits fits] at made
      cases made
  cases d with
  | bool b => exact integer made
  | int n => exact integer made
  | float x =>
    have single : Scalar.ofDouble x = .ok v := made
    simp only [Condition.checked?, single]
  | scalar w =>
    cases made
    rfl
  | _ => cases made

end Data

/-- What a comparison means for exact numbers. -/
def Comparison.Relates : Comparison → ExactNumber → ExactNumber → Prop
  | .equals, p, q => p = q
  | .lessThan, p, q => p < q
  | .greaterThan, p, q => q < p
  | .lessOrEqual, p, q => p ≤ q
  | .greaterOrEqual, p, q => q ≤ p

theorem Comparison.holds_iff (c : Comparison) {x bound : Binary.Extended} (left : x ≠ .nan)
    (right : bound ≠ .nan) : c.holds x bound = true ↔ c.Relates x.number bound.number := by
  cases c with
  | equals => exact Binary.Extended.eq_iff left right
  | lessThan => exact Binary.Extended.lt_iff left right
  | greaterThan => exact Binary.Extended.lt_iff right left
  | lessOrEqual => exact Binary.Extended.le_iff left right
  | greaterOrEqual => exact Binary.Extended.le_iff right left

theorem Comparison.holds_nan (c : Comparison) (x : Binary.Extended) : c.holds x .nan = false := by
  cases c <;> cases x <;> rfl

namespace Condition

/-- The check comes out true. -/
def Accepts (c : Condition) (d : Data) : Prop := c.check d = .ok true

theorem check_of_checked? {c : Condition} {d : Data} {x : Binary.Extended}
    (checked : checked? d = some x) : c.check d = .ok (c.holdsOf x) := by
  unfold check
  rw [checked]

/-- A check of a number has an answer, which is about exact numbers. -/
theorem check_single {c : Comparison} {bound : Scalar} {d : Data} (numeric : bound.isNaN = false)
    (ordered : d.IsOrdered) : ∃ answer, check (.single c bound) d = .ok answer ∧
      (answer = true ↔ c.Relates d.number bound.number) := by
  obtain ⟨x, checked, number, same⟩ := Data.checked?_of_ordered ordered
  refine ⟨_, check_of_checked? checked, ?_⟩
  rw [← same, ← bound.number_toDouble]
  exact c.holds_iff number (Scalar.toDouble_ne_nan numeric)

theorem accepts_single_iff {c : Comparison} {bound : Scalar} {d : Data}
    (numeric : bound.isNaN = false) (ordered : d.IsOrdered) :
    Accepts (.single c bound) d ↔ c.Relates d.number bound.number := by
  obtain ⟨answer, given, means⟩ := check_single (c := c) numeric ordered
  rw [Accepts, given, ← means, Except.ok.injEq]

theorem accepts_range_iff (low high : Scalar) (d : Data) :
    Accepts (.range low high) d ↔
      Accepts (.single .greaterOrEqual low) d ∧ Accepts (.single .lessOrEqual high) d := by
  unfold Accepts
  cases checked : checked? d with
  | some x =>
    rw [check_of_checked? checked, check_of_checked? checked, check_of_checked? checked]
    simp only [Except.ok.injEq, holdsOf, Comparison.holds, Bool.and_eq_true]
  | none =>
    simp only [check, checked]
    refine iff_of_false nofun ?_
    rintro ⟨accepted, -⟩
    cases accepted

/-- Not a number is no bound that anything is within. -/
theorem not_accepts_of_isNaN {c : Comparison} {bound : Scalar} (missing : bound.isNaN = true)
    (x : Double) : ¬ Accepts (.single c bound) (.float x) := by
  obtain ⟨negative, rfl⟩ : ∃ negative, bound = .float (.nan negative) := by
    cases bound with
    | int n => cases missing
    | float y =>
      cases y with
      | nan negative => exact ⟨negative, rfl⟩
      | infinite negative => cases missing
      | finite negative rank => cases missing
  obtain ⟨y, checked⟩ : ∃ y, checked? (.float x) = some y := by
    unfold checked?
    dsimp only
    split <;> exact ⟨_, rfl⟩
  rw [Accepts, check_of_checked? checked, holdsOf]
  have never : c.holds y (Scalar.float (.nan negative)).toDouble.toExtended = false :=
    c.holds_nan y
  rw [never]
  exact nofun

/-- Where a smaller float is checked, what is true of a larger one because it is small stays true, and
likewise the other way round. -/
theorem accepts_of_le (bound : Scalar) {x y : Double} (le : x.toExtended.le y.toExtended = true) :
    (Accepts (.single .lessThan bound) (.float y) → Accepts (.single .lessThan bound) (.float x)) ∧
    (Accepts (.single .lessOrEqual bound) (.float y) →
      Accepts (.single .lessOrEqual bound) (.float x)) ∧
    (Accepts (.single .greaterThan bound) (.float x) →
      Accepts (.single .greaterThan bound) (.float y)) ∧
    (Accepts (.single .greaterOrEqual bound) (.float x) →
      Accepts (.single .greaterOrEqual bound) (.float y)) := by
  cases numeric : bound.isNaN with
  | true =>
    have never (c : Comparison) (z : Double) := not_accepts_of_isNaN (c := c) numeric z
    exact ⟨fun accepted => absurd accepted (never _ _), fun accepted => absurd accepted (never _ _),
      fun accepted => absurd accepted (never _ _), fun accepted => absurd accepted (never _ _)⟩
  | false =>
    obtain ⟨left, right⟩ := Binary.isNaN_eq_false_of_le le
    have order : x.number ≤ y.number := by
      rwa [Binary.Extended.le_iff (Binary.toExtended_ne_nan left) (Binary.toExtended_ne_nan right),
        Binary.number_toExtended, Binary.number_toExtended] at le
    have read : x.readNumber ≤ y.readNumber := Binary.readNumber_mono left right order
    have means (c : Comparison) (z : Double) (ordered : z.isNaN = false) :
        Accepts (.single c bound) (.float z) ↔ c.Relates z.readNumber bound.number :=
      accepts_single_iff numeric ordered
    rw [means _ x left, means _ x left, means _ x left, means _ x left, means _ y right,
      means _ y right, means _ y right, means _ y right]
    exact ⟨lt_of_le_of_lt read, le_trans read, fun above => lt_of_lt_of_le above read,
      fun above => le_trans above read⟩

/-- Conditions order all numbers alike. A number is checked as the scalar that it becomes. Where
neither a number nor a bound is not a number, each comparison has an answer, which is that of their
exact values, so exactly one of equal, less and greater holds, and the weak comparisons are what they
are made of. A range is a lower and an upper bound. And floats are checked in their order, also where
some of them are too large for single precision and others are rounded to it. -/
theorem check_orders_numbers :
    (∀ (c : Condition) (d : Data) (v : Scalar), d.toScalar = .ok v →
      c.check d = c.check (.scalar v)) ∧
    (∀ (bound : Scalar) (d : Data), bound.isNaN = false → d.IsOrdered →
      let holds (c : Comparison) : Prop := Accepts (.single c bound) d
      (∀ c, ∃ answer, check (.single c bound) d = .ok answer ∧
        (answer = true ↔ c.Relates d.number bound.number)) ∧
      (holds .equals ∧ ¬ holds .lessThan ∧ ¬ holds .greaterThan ∨
        ¬ holds .equals ∧ holds .lessThan ∧ ¬ holds .greaterThan ∨
        ¬ holds .equals ∧ ¬ holds .lessThan ∧ holds .greaterThan) ∧
      (holds .lessOrEqual ↔ holds .lessThan ∨ holds .equals) ∧
      (holds .greaterOrEqual ↔ holds .greaterThan ∨ holds .equals)) ∧
    (∀ (low high : Scalar) (d : Data), Accepts (.range low high) d ↔
      Accepts (.single .greaterOrEqual low) d ∧ Accepts (.single .lessOrEqual high) d) ∧
    ∀ (bound : Scalar) (x y : Double), x.toExtended.le y.toExtended = true →
      (Accepts (.single .lessThan bound) (.float y) →
        Accepts (.single .lessThan bound) (.float x)) ∧
      (Accepts (.single .lessOrEqual bound) (.float y) →
        Accepts (.single .lessOrEqual bound) (.float x)) ∧
      (Accepts (.single .greaterThan bound) (.float x) →
        Accepts (.single .greaterThan bound) (.float y)) ∧
      (Accepts (.single .greaterOrEqual bound) (.float x) →
        Accepts (.single .greaterOrEqual bound) (.float y)) := by
  refine ⟨fun c d v made => ?_, fun bound d numeric ordered => ?_, accepts_range_iff,
    fun bound x y le => accepts_of_le bound le⟩
  · have same := Data.checked?_of_toScalar made
    obtain ⟨x, checked⟩ : ∃ x, checked? (.scalar v) = some x := ⟨_, rfl⟩
    rw [check_of_checked? checked, check_of_checked? (same.trans checked)]
  · intro holds
    have means (c : Comparison) : holds c ↔ c.Relates d.number bound.number :=
      accepts_single_iff numeric ordered
    refine ⟨fun c => check_single numeric ordered, ?_, ?_, ?_⟩
    · rw [means, means, means]
      rcases lt_trichotomy d.number bound.number with less | same | greater
      · exact .inr (.inl ⟨less.ne, less, less.asymm⟩)
      · exact .inl ⟨same, same.not_lt, same.not_gt⟩
      · exact .inr (.inr ⟨greater.ne', greater.asymm, greater⟩)
    · rw [means, means, means]
      exact le_iff_lt_or_eq
    · rw [means, means, means]
      exact le_iff_lt_or_eq.trans (or_congr_right eq_comm)

/-- A tenth, which no float is. -/
def tenth : Double := .ofBits 0x3fb999999999999a

/-- A finite double that is past single precision. -/
def pastSingle : Double := .ofBits 0x7e37e43c8800759c

/-- A tenth is equal to the bound that it becomes, though it is rounded; a large integer is greater
than one; and a float that cannot be rounded is not below a bound that a tenth is not below. -/
theorem tenth_checked_as_stored :
    ∃ stored, (Data.float tenth).toScalar = .ok stored ∧
      check (.single .equals stored) (.float tenth) = .ok true ∧
      Scalar.isNaN (.int 1) = false ∧ (Data.int (10 ^ 40)).IsOrdered ∧
      Accepts (.single .greaterThan (.int 1)) (.int (10 ^ 40)) ∧
      tenth.toExtended.le pastSingle.toExtended = true ∧
      (Accepts (.single .lessThan stored) (.float pastSingle) →
        Accepts (.single .lessThan stored) (.float tenth)) := by
  obtain ⟨asStored, ordered, -, monotone⟩ := check_orders_numbers
  have made : (Data.float tenth).toScalar = .ok (.float (tenth.convert .binary32)) := by
    rw [Data.toScalar, Scalar.ofDouble, if_neg (by decide +kernel)]
  have numeric : Scalar.isNaN (.int 1) = false := rfl
  have larger : (Data.int (10 ^ 40)).IsOrdered := trivial
  have le : tenth.toExtended.le pastSingle.toExtended = true := by decide +kernel
  refine ⟨_, made, ?_, numeric, larger, ?_, le, (monotone _ _ _ le).1⟩
  · rw [asStored _ _ _ made]
    exact congrArg Except.ok (by decide +kernel)
  · obtain ⟨answer, given, means⟩ := (ordered _ _ numeric larger).1 .greaterThan
    have above : Comparison.greaterThan.Relates (Data.int (10 ^ 40)).number
        (Scalar.int 1).number := ExactNumber.ofRat_lt_ofRat.mpr (Int.cast_lt.mpr (by decide))
    rw [Accepts, given, means.mpr above]

end Condition

end GrowthGrammar
