import GrowthGrammar.Proofs.Number.Integers
import Mathlib.Algebra.Order.Field.Rat
import Mathlib.Data.Int.CharZero
import Mathlib.Order.WithBot
import Mathlib.Tactic.Linarith

/-!
The order of exact numbers. What a float stands for is a rational number or infinite, and floats are
compared as these are. Reading a float in single precision keeps the order, whether it is rounded or
too large to be.
-/
namespace GrowthGrammar

/-- Rational numbers, with one below and one above them all. -/
abbrev ExactNumber := WithBot (WithTop ℚ)

namespace ExactNumber

def ofRat (q : ℚ) : ExactNumber := ((q : WithTop ℚ) : WithBot (WithTop ℚ))

theorem ofRat_lt_ofRat {p q : ℚ} : ofRat p < ofRat q ↔ p < q :=
  WithBot.coe_lt_coe.trans WithTop.coe_lt_coe

theorem ofRat_le_ofRat {p q : ℚ} : ofRat p ≤ ofRat q ↔ p ≤ q :=
  WithBot.coe_le_coe.trans WithTop.coe_le_coe

theorem ofRat_inj {p q : ℚ} : ofRat p = ofRat q ↔ p = q :=
  WithBot.coe_inj.trans WithTop.coe_inj

theorem bot_lt_ofRat (q : ℚ) : (⊥ : ExactNumber) < ofRat q := WithBot.bot_lt_coe _

theorem ofRat_lt_top (q : ℚ) : ofRat q < (⊤ : ExactNumber) :=
  WithBot.coe_lt_coe.mpr (WithTop.coe_lt_top q)

end ExactNumber

open FloatFormat

namespace Binary

/-- The exact number that a float stands for. What is not a number stands for nothing, and is given
as zero. -/
def number {f : FloatFormat} (x : Binary f) : ExactNumber :=
  match x with
  | .nan _ => .ofRat 0
  | .infinite true => ⊥
  | .infinite false => ⊤
  | .finite .. => .ofRat (x.toUnits / f.one)

namespace Extended

def number : Extended → ExactNumber
  | .nan => .ofRat 0
  | .least => ⊥
  | .value n => .ofRat (n / binary64.one)
  | .greatest => ⊤

variable {x y z : Extended}

theorem lt_iff (left : x ≠ .nan) (right : y ≠ .nan) : x.lt y = true ↔ x.number < y.number := by
  have one : (0 : ℚ) < binary64.one := Nat.cast_pos.mpr binary64.one_pos
  cases x with
  | nan => exact absurd rfl left
  | least =>
    cases y with
    | nan => exact absurd rfl right
    | least => exact iff_of_false Bool.false_ne_true (lt_irrefl _)
    | value n => exact iff_of_true rfl (ExactNumber.bot_lt_ofRat _)
    | greatest => exact iff_of_true rfl bot_lt_top
  | value m =>
    cases y with
    | nan => exact absurd rfl right
    | least => exact iff_of_false Bool.false_ne_true not_lt_bot
    | value n =>
      show decide (m < n) = true ↔ ExactNumber.ofRat _ < ExactNumber.ofRat _
      rw [decide_eq_true_iff, ExactNumber.ofRat_lt_ofRat, div_lt_div_iff_of_pos_right one,
        Int.cast_lt]
    | greatest => exact iff_of_true rfl (ExactNumber.ofRat_lt_top _)
  | greatest =>
    cases y with
    | nan => exact absurd rfl right
    | _ => exact iff_of_false Bool.false_ne_true not_top_lt

theorem eq_iff (left : x ≠ .nan) (right : y ≠ .nan) : x.eq y = true ↔ x.number = y.number := by
  have one : (binary64.one : ℚ) ≠ 0 := Nat.cast_ne_zero.mpr binary64.one_pos.ne'
  cases x with
  | nan => exact absurd rfl left
  | least =>
    cases y with
    | nan => exact absurd rfl right
    | least => exact iff_of_true rfl rfl
    | value n => exact iff_of_false Bool.false_ne_true (ExactNumber.bot_lt_ofRat _).ne
    | greatest => exact iff_of_false Bool.false_ne_true bot_lt_top.ne
  | value m =>
    cases y with
    | nan => exact absurd rfl right
    | least => exact iff_of_false Bool.false_ne_true (ExactNumber.bot_lt_ofRat _).ne'
    | value n =>
      show decide (m = n) = true ↔ ExactNumber.ofRat _ = ExactNumber.ofRat _
      rw [decide_eq_true_iff, ExactNumber.ofRat_inj, div_left_inj' one, Int.cast_inj]
    | greatest => exact iff_of_false Bool.false_ne_true (ExactNumber.ofRat_lt_top _).ne
  | greatest =>
    cases y with
    | nan => exact absurd rfl right
    | least => exact iff_of_false Bool.false_ne_true bot_lt_top.ne'
    | value n => exact iff_of_false Bool.false_ne_true (ExactNumber.ofRat_lt_top _).ne'
    | greatest => exact iff_of_true rfl rfl

theorem le_iff (left : x ≠ .nan) (right : y ≠ .nan) : x.le y = true ↔ x.number ≤ y.number := by
  rw [le, Bool.or_eq_true, lt_iff left right, eq_iff left right, le_iff_lt_or_eq]

end Extended

theorem number_toExtended (x : Double) : x.toExtended.number = x.number := by
  cases x with
  | nan negative => rfl
  | infinite negative => cases negative <;> rfl
  | finite negative rank => rfl

theorem toExtended_ne_nan {x : Double} (ordered : x.isNaN = false) : x.toExtended ≠ .nan := by
  cases x with
  | nan negative => cases ordered
  | infinite negative => cases negative <;> exact nofun
  | finite negative rank => exact nofun

/-- Whatever is ordered is a number. -/
theorem isNaN_eq_false_of_le {x y : Double} (le : x.toExtended.le y.toExtended = true) :
    x.isNaN = false ∧ y.isNaN = false := by
  cases x with
  | nan negative => cases le
  | infinite negative =>
    cases y with
    | nan other => cases negative <;> cases le
    | _ => exact ⟨rfl, rfl⟩
  | finite negative rank =>
    cases y with
    | nan other => cases le
    | _ => exact ⟨rfl, rfl⟩

variable {f g : FloatFormat}

/-- A magnitude with a sign. -/
def signed (negative : Bool) (n : Nat) : ℚ := if negative then -n else n

theorem toUnits_finite (negative : Bool) (rank : Fin f.limit) :
    ((finite negative rank).toUnits : ℚ) = signed negative (f.units rank) := by
  cases negative with
  | false => rw [toUnits, signed, Int.cast_natCast]; rfl
  | true => rw [toUnits, signed, Int.cast_neg, Int.cast_natCast]; rfl

theorem number_finite (negative : Bool) (rank : Fin f.limit) :
    (finite negative rank).number = .ofRat (signed negative (f.units rank) / f.one) := by
  rw [number, toUnits_finite]

theorem signed_div_eq {a b : Nat} {m n : Nat} (first : 0 < m) (second : 0 < n)
    (same : a * n = b * m) (negative : Bool) : signed negative a / m = signed negative b / n := by
  have cast : (a : ℚ) * n = b * m := by exact_mod_cast same
  have m_ne : (m : ℚ) ≠ 0 := Nat.cast_ne_zero.mpr first.ne'
  have n_ne : (n : ℚ) ≠ 0 := Nat.cast_ne_zero.mpr second.ne'
  rw [div_eq_div_iff m_ne n_ne]
  cases negative with
  | false => exact cast
  | true =>
    show -(a : ℚ) * n = -(b : ℚ) * m
    rw [neg_mul, neg_mul, cast]

theorem isNaN_convert (x : Binary f) : (x.convert g).isNaN = x.isNaN := by
  cases x with
  | nan negative => rfl
  | infinite negative => rfl
  | finite negative rank =>
    rw [convert, round, ofRank]
    split <;> rfl

/-- A wider format keeps the exact number. -/
theorem number_convert (within : f.Within g) (x : Binary f) :
    (x.convert g).number = x.number := by
  cases x with
  | nan negative => rfl
  | infinite negative => cases negative <;> rfl
  | finite negative rank =>
    obtain ⟨wide, converted, same⟩ := exists_convert_eq within negative rank
    rw [converted, number_finite, number_finite, signed_div_eq g.one_pos f.one_pos same]

end Binary

namespace Scalar

/-- The exact number that a scalar is. -/
def number : Scalar → ExactNumber
  | .int n => .ofRat n.toInt
  | .float x => x.number

def isNaN : Scalar → Bool
  | .int _ => false
  | .float x => x.isNaN

theorem toExtended_toDouble_int (n : Int32) :
    (toDouble (.int n)).toExtended = .ofInt .binary64 n.toInt := by
  have low := n.le_toInt
  have high := n.toInt_lt
  exact Binary.toExtended_ofInt (by omega)

theorem number_ofInt (n : Int) :
    (Binary.Extended.ofInt binary64 n).number = .ofRat (n : ℚ) := by
  have one : (binary64.one : ℚ) ≠ 0 := Nat.cast_ne_zero.mpr binary64.one_pos.ne'
  rw [Binary.Extended.ofInt, Binary.Extended.number, Int.cast_mul, Int.cast_natCast,
    mul_div_cancel_right₀ _ one]

theorem number_toDouble (v : Scalar) : v.toDouble.toExtended.number = v.number := by
  cases v with
  | int n => rw [toExtended_toDouble_int, number_ofInt]; rfl
  | float x => exact (Binary.number_toExtended _).trans (Binary.number_convert binary32_within x)

theorem toDouble_ne_nan {v : Scalar} (ordered : v.isNaN = false) :
    v.toDouble.toExtended ≠ .nan := by
  cases v with
  | int n =>
    rw [toExtended_toDouble_int]
    exact nofun
  | float x => exact Binary.toExtended_ne_nan (x.isNaN_convert.trans ordered)

end Scalar

namespace Binary

/-- The number that a double is read as: the one nearest to it in single precision, or its own where
that would not be finite. -/
def readNumber (x : Double) : ExactNumber :=
  match Scalar.ofDouble x with
  | .ok v => v.number
  | .error _ => x.number

/-- The magnitude that a double is read as, in least units of both formats. -/
def readUnits (rank : Nat) : Nat :=
  let single := binary32.nearest (binary64.units rank * binary32.one) binary64.one
  if single < binary32.limit then binary32.units single * binary64.one
  else binary64.units rank * binary32.one

theorem readUnits_zero : readUnits 0 = 0 := by
  have empty : binary64.units 0 = 0 := units_of_lt binary64.step_pos
  have single : binary32.nearest 0 binary64.one = 0 := by
    have own := binary32.nearest_units 0 binary64.one_pos
    rwa [units_of_lt binary32.step_pos, Nat.zero_mul] at own
  rw [readUnits, empty, Nat.zero_mul, single, units_of_lt binary32.step_pos, Nat.zero_mul, ite_self]

/-- Magnitudes that are too large for single precision are above all that is rounded. -/
theorem readUnits_mono {i j : Nat} (le : i ≤ j) : readUnits i ≤ readUnits j := by
  have units : binary64.units i * binary32.one ≤ binary64.units j * binary32.one :=
    Nat.mul_le_mul_right _ (binary64.units_strictMono.monotone le)
  have single := nearest_mono (f := binary32) binary64.one_pos units
  unfold readUnits
  dsimp only
  split
  · rename_i first
    split
    · exact Nat.mul_le_mul_right _ (binary32.units_strictMono.monotone single)
    · rename_i second
      exact units_le_of_lt_nearest binary64.one_pos (Nat.lt_of_lt_of_le first (Nat.not_lt.mp second))
  · rename_i first
    rw [if_neg (fun second => first (Nat.lt_of_le_of_lt single second))]
    exact units

theorem readNumber_finite (negative : Bool) (rank : Fin binary64.limit) :
    readNumber (finite negative rank) =
      .ofRat (signed negative (readUnits rank) / (binary64.one * binary32.one : Nat)) := by
  have both : 0 < binary64.one * binary32.one := Nat.mul_pos binary64.one_pos binary32.one_pos
  have single : (finite negative rank : Double).convert binary32 = ofRank negative
    (binary32.nearest (binary64.units rank * binary32.one) binary64.one) := rfl
  rw [readNumber, readUnits, Scalar.ofDouble, single, ofRank]
  by_cases within : binary32.nearest (binary64.units rank * binary32.one) binary64.one <
      binary32.limit
  · have finite : (finite negative ⟨_, within⟩ : Single).isInfinite = false := rfl
    rw [dif_pos within, if_pos within, finite, Bool.and_false, if_neg Bool.false_ne_true]
    dsimp only
    rw [Scalar.number, number_finite, signed_div_eq binary32.one_pos both (by rw [Nat.mul_assoc])]
  · have outside : ((finite negative rank : Double).isFinite &&
        (infinite negative : Single).isInfinite) = true := rfl
    rw [dif_neg within, if_neg within, if_pos outside]
    dsimp only
    rw [number_finite, signed_div_eq binary64.one_pos both]
    rw [Nat.mul_assoc, Nat.mul_comm binary32.one]

theorem signed_le_signed {a b m : Nat} {negative other : Bool} (pos : 0 < m) :
    signed negative a / m ≤ signed other b / m ↔
      match negative, other with
      | false, false => a ≤ b
      | true, true => b ≤ a
      | true, false => True
      | false, true => a = 0 ∧ b = 0 := by
  have weight : (0 : ℚ) < m := Nat.cast_pos.mpr pos
  rw [div_le_div_iff_of_pos_right weight]
  have first : (0 : ℚ) ≤ a := Nat.cast_nonneg a
  have second : (0 : ℚ) ≤ b := Nat.cast_nonneg b
  cases negative <;> cases other
  · exact Nat.cast_le
  · show (a : ℚ) ≤ -b ↔ _
    constructor
    · intro le
      have zeros : (a : ℚ) = 0 ∧ (b : ℚ) = 0 := by constructor <;> linarith
      exact ⟨Nat.cast_eq_zero.mp zeros.1, Nat.cast_eq_zero.mp zeros.2⟩
    · rintro ⟨rfl, rfl⟩
      simp
  · refine iff_of_true ?_ trivial
    show -(a : ℚ) ≤ b
    linarith
  · exact neg_le_neg_iff.trans Nat.cast_le

/-- Reading in single precision keeps the order. -/
theorem readNumber_mono {x y : Double} (left : x.isNaN = false) (right : y.isNaN = false)
    (le : x.number ≤ y.number) : x.readNumber ≤ y.readNumber := by
  cases x with
  | nan negative => cases left
  | infinite negative =>
    cases negative with
    | true => exact bot_le
    | false =>
      obtain top := top_le_iff.mp le
      cases y with
      | nan negative => cases right
      | infinite negative =>
        cases negative with
        | false => exact le_rfl
        | true => exact absurd top bot_lt_top.ne
      | finite negative rank =>
        rw [number_finite] at top
        exact absurd top (ExactNumber.ofRat_lt_top _).ne
  | finite negative i =>
    cases y with
    | nan negative => cases right
    | infinite other =>
      cases other with
      | false => exact le_top
      | true =>
        rw [number_finite] at le
        exact absurd le (not_le.mpr (ExactNumber.bot_lt_ofRat _))
    | finite other j =>
      have both : 0 < binary64.one * binary32.one := Nat.mul_pos binary64.one_pos binary32.one_pos
      rw [number_finite, number_finite, ExactNumber.ofRat_le_ofRat,
        signed_le_signed binary64.one_pos] at le
      rw [readNumber_finite, readNumber_finite, ExactNumber.ofRat_le_ofRat, signed_le_signed both]
      have ranks {i j : Nat} (le : binary64.units i ≤ binary64.units j) :
          readUnits i ≤ readUnits j :=
        readUnits_mono (binary64.units_strictMono.le_iff_le.mp le)
      have vanish {i : Nat} (zero : binary64.units i = 0) : readUnits i = 0 := by
        have below : i ≤ 0 := binary64.units_strictMono.le_iff_le.mp (zero.trans_le (Nat.zero_le _))
        rw [Nat.le_zero.mp below, readUnits_zero]
      cases negative <;> cases other
      · exact ranks le
      · exact ⟨vanish le.1, vanish le.2⟩
      · trivial
      · exact ranks le

end Binary

end GrowthGrammar
