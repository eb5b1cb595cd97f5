import GrowthGrammar.Proofs.Number.Loading
import GrowthGrammar.Proofs.Number.Order
import Mathlib.Algebra.Order.Field.Basic

/-!
Stored numbers. A double is kept as the nearest float of single precision, or refused where that would
not be finite. Once kept it does not move any more: the number that a scalar is written out as is read
as the same scalar again, bit by bit.
-/
namespace GrowthGrammar

namespace FloatFormat

variable {f : FloatFormat}

theorem units_zero (f : FloatFormat) : f.units 0 = 0 := units_of_lt f.step_pos

/-- A number that lies between the middles to both sides of a member of a growing sequence is closer to
that one than to any other. Where it lies in a middle, the member is even. -/
theorem closest_of_between {w : Nat → Nat} (grows : StrictMono w) {num rank : Nat}
    (before : ∀ last, rank = last + 1 →
      w last + w rank < 2 * num ∨ w last + w rank = 2 * num ∧ last % 2 = 1)
    (after : 2 * num < w rank + w (rank + 1) ∨ 2 * num = w rank + w (rank + 1) ∧ rank % 2 = 0)
    (other : Nat) : ((num : Int) - w rank).natAbs ≤ ((num : Int) - w other).natAbs ∧
      (other ≠ rank → ((num : Int) - w other).natAbs = ((num : Int) - w rank).natAbs →
        rank % 2 = 0) := by
  rcases Nat.lt_trichotomy other rank with below | rfl | above
  · obtain ⟨last, rfl⟩ : ∃ last, rank = last + 1 := ⟨rank - 1, by omega⟩
    have past := before last rfl
    have under : w other ≤ w last := grows.monotone (Nat.le_of_lt_succ below)
    have step : w last < w (last + 1) := grows (Nat.lt_add_one last)
    exact ⟨by omega, fun _ _ => by omega⟩
  · exact ⟨Nat.le_refl _, fun different => absurd rfl different⟩
  · have beyond : w (rank + 1) ≤ w other := grows.monotone above
    have step : w rank < w (rank + 1) := grows (Nat.lt_add_one rank)
    exact ⟨by omega, fun _ _ => by omega⟩

/-- No magnitude is closer to a number than the one that it is rounded to, and an odd one has no
other as close. -/
theorem nearest_closest (num other : Nat) {den : Nat} (pos : 0 < den) :
    ((num : Int) - (f.units (f.nearest num den) * den : Nat)).natAbs ≤
        ((num : Int) - (f.units other * den : Nat)).natAbs ∧
      (other ≠ f.nearest num den →
        ((num : Int) - (f.units other * den : Nat)).natAbs =
          ((num : Int) - (f.units (f.nearest num den) * den : Nat)).natAbs →
        f.nearest num den % 2 = 0) := by
  have grows : StrictMono fun rank => f.units rank * den := fun _ _ less =>
    Nat.mul_lt_mul_of_pos_right (f.units_strictMono less) pos
  refine closest_of_between grows (fun last next => ?_) ?_ other
  · have past := (lt_nearest_iff last num pos).mp (next ▸ Nat.lt_add_one last)
    rwa [Nat.add_mul, ← next] at past
  · have stuck := mt (lt_nearest_iff (f.nearest num den) num pos).mpr (Nat.lt_irrefl _)
    rw [Nat.add_mul] at stuck
    show 2 * num < f.units _ * den + f.units _ * den ∨ _
    omega

end FloatFormat

open FloatFormat

namespace Binary

variable {f g : FloatFormat}

/-! ### Bit patterns -/

theorem limit_lt_signWeight (f : FloatFormat) : f.limit + f.step = signWeight f := by
  rw [limit, signWeight, Nat.add_mul, Nat.one_mul]

theorem ofBits_of_lt {magnitude : Nat} (low : magnitude < signWeight f) (negative : Bool) :
    (ofBits ((if negative then signWeight f else 0) + magnitude) : Binary f) =
      if magnitude ≤ f.limit then ofRank negative magnitude else .nan negative := by
  have weight : 0 < signWeight f := Nat.lt_of_le_of_lt (Nat.zero_le _) low
  cases negative with
  | false =>
    rw [ofBits, if_neg Bool.false_ne_true, Nat.zero_add, Nat.div_eq_of_lt low,
      Nat.mod_eq_of_lt low]
    rfl
  | true =>
    rw [ofBits, if_pos rfl, Nat.add_div_left _ weight, Nat.div_eq_of_lt low, Nat.add_mod_left,
      Nat.mod_eq_of_lt low]
    rfl

theorem ofBits_toBits (fine : 2 ≤ f.step) (x : Binary f) : ofBits x.toBits = x := by
  have room := limit_lt_signWeight f
  cases x with
  | nan negative =>
    have half : 0 < f.step / 2 := Nat.div_pos fine Nat.two_pos
    have low : f.limit + f.step / 2 < signWeight f := by omega
    have past : ¬ f.limit + f.step / 2 ≤ f.limit := by omega
    exact (ofBits_of_lt low negative).trans (if_neg past)
  | infinite negative =>
    have low : f.limit < signWeight f := by omega
    have last : (ofRank negative f.limit : Binary f) = .infinite negative :=
      dif_neg (Nat.lt_irrefl f.limit)
    exact ((ofBits_of_lt low negative).trans (if_pos (Nat.le_refl f.limit))).trans last
  | finite negative rank =>
    have finite := rank.isLt
    have low : rank.val < signWeight f := by omega
    exact ((ofBits_of_lt low negative).trans (if_pos (Nat.le_of_lt finite))).trans
      (ofRank_val negative rank)

theorem toBits_ofRank {rank : Nat} (low : rank ≤ f.limit) (negative : Bool) :
    (ofRank negative rank : Binary f).toBits = (if negative then signWeight f else 0) + rank := by
  rw [ofRank]
  split
  · rfl
  · rename_i infinite
    rw [Nat.le_antisymm low (Nat.not_lt.mp infinite)]
    rfl

theorem toBits_ofBits {bits : Nat} (low : bits < 2 * signWeight f)
    (numeric : (ofBits bits : Binary f).isNaN = false) : (ofBits bits : Binary f).toBits = bits := by
  have split := Nat.div_add_mod bits (signWeight f)
  have weight : 0 < signWeight f := by omega
  have sign : bits / signWeight f < 2 := (Nat.div_lt_iff_lt_mul weight).mpr low
  have same : (ofBits bits : Binary f) =
      if bits % signWeight f ≤ f.limit then
        ofRank (bits / signWeight f % 2 == 1) (bits % signWeight f)
      else .nan (bits / signWeight f % 2 == 1) := rfl
  rw [same] at numeric ⊢
  split at numeric
  · rename_i number
    rw [if_pos number, toBits_ofRank number]
    rcases Nat.lt_succ_iff_lt_or_eq.mp sign with none | one
    · rw [Nat.lt_one_iff.mp none] at split ⊢
      rwa [Nat.mul_zero] at split
    · rw [one] at split ⊢
      rwa [Nat.mul_one] at split
  · cases numeric

/-- Every float has a pattern of bits of its own, and every pattern that is a number is that of a float.
-/
structure FaithfulBits (f : FloatFormat) (width : Nat) : Prop where
  ofBits_toBits : ∀ x : Binary f, ofBits x.toBits = x
  toBits_ofBits : ∀ bits < 2 ^ width, (ofBits bits : Binary f).isNaN = false →
    (ofBits bits : Binary f).toBits = bits

theorem faithfulBits {width : Nat} (fine : 2 ≤ f.step) (weight : 2 ^ width = 2 * signWeight f) :
    FaithfulBits f width where
  ofBits_toBits := ofBits_toBits fine
  toBits_ofBits _ low := toBits_ofBits (weight ▸ low)

/-! ### Exact values -/

/-- The exact value of a finite float. -/
def value (x : Binary f) : ℚ := x.toUnits / f.one

theorem value_finite (negative : Bool) (rank : Fin f.limit) :
    (finite negative rank).value = signed negative (f.units rank) / f.one := by
  rw [value, toUnits_finite]

theorem abs_value_finite (negative : Bool) (rank : Fin f.limit) :
    |(finite negative rank).value| = f.units rank / f.one := by
  have one : (0 : ℚ) < f.one := Nat.cast_pos.mpr f.one_pos
  have units : (0 : ℚ) ≤ f.units rank := Nat.cast_nonneg _
  rw [value_finite, abs_div, abs_of_pos one]
  cases negative with
  | false => rw [signed, if_neg Bool.false_ne_true, abs_of_nonneg units]
  | true => rw [signed, if_pos rfl, abs_neg, abs_of_nonneg units]

def largest : Binary f := ofRank false (f.limit - 1)

theorem abs_value_le_largest {x : Binary f} (finite : x.isFinite = true) :
    |x.value| ≤ (largest : Binary f).value := by
  cases x with
  | nan negative => cases finite
  | infinite negative => cases finite
  | finite negative rank =>
    have last : f.limit - 1 < f.limit := Nat.sub_lt (Nat.zero_lt_of_lt rank.isLt) Nat.one_pos
    have top : (largest : Binary f) = .finite false ⟨f.limit - 1, last⟩ := ofRank_val false ⟨_, last⟩
    have one : (0 : ℚ) < f.one := Nat.cast_pos.mpr f.one_pos
    have units : f.units rank ≤ f.units (f.limit - 1) :=
      f.units_strictMono.monotone (Nat.le_sub_one_of_lt rank.isLt)
    rw [abs_value_finite, top, value_finite, signed, if_neg Bool.false_ne_true,
      div_le_div_iff_of_pos_right one]
    exact Nat.cast_le.mpr units

/-! ### Rounding to the nearest float -/

/-- No finite float is closer to a number, and where another one is as close, the last bit of this one
is zero. -/
structure IsNearest (q : ℚ) (y : Binary f) : Prop where
  isFinite : y.isFinite = true
  closest : ∀ z : Binary f, z.isFinite = true → |q - y.value| ≤ |q - z.value|
  even : ∀ z : Binary f, z.isFinite = true → z.value ≠ y.value →
    |q - z.value| = |q - y.value| → y.toBits % 2 = 0

/-- How far apart two magnitudes are, and if their signs differ, how far apart across zero. -/
def distance (negative other : Bool) (m n : Nat) : Nat :=
  if negative = other then ((m : Int) - n).natAbs else m + n

theorem abs_signed_sub (negative other : Bool) (m n : Nat) :
    |signed negative m - signed other n| = distance negative other m n := by
  have apart : |(m : ℚ) - n| = ((m : Int) - n).natAbs := by
    rw [Nat.cast_natAbs, Int.cast_abs, Int.cast_sub, Int.cast_natCast, Int.cast_natCast]
  have across : |(m : ℚ) + n| = (m + n : Nat) := by
    rw [abs_of_nonneg (add_nonneg (Nat.cast_nonneg m) (Nat.cast_nonneg n)), Nat.cast_add]
  cases negative <;> cases other
  · exact apart
  · show |(m : ℚ) - -n| = _
    rw [sub_neg_eq_add]
    exact across
  · show |-(m : ℚ) - n| = _
    rw [← abs_neg, neg_sub, sub_neg_eq_add, add_comm]
    exact across
  · show |-(m : ℚ) - -n| = _
    rw [← abs_neg, neg_sub_neg, neg_sub]
    exact apart

theorem abs_value_sub (negative other : Bool) (i : Fin f.limit) (j : Fin g.limit) :
    |(finite negative i : Binary f).value - (finite other j : Binary g).value| =
      distance negative other (f.units i * g.one) (g.units j * f.one) / (f.one * g.one : Nat) := by
  have both : 0 < f.one * g.one := Nat.mul_pos f.one_pos g.one_pos
  have weight : (0 : ℚ) < (f.one * g.one : Nat) := Nat.cast_pos.mpr both
  have first : signed negative (f.units i) / f.one =
      signed negative (f.units i * g.one) / (f.one * g.one : Nat) :=
    signed_div_eq f.one_pos both (by rw [Nat.mul_assoc, Nat.mul_comm g.one]) negative
  have second : signed other (g.units j) / g.one =
      signed other (g.units j * f.one) / (f.one * g.one : Nat) :=
    signed_div_eq g.one_pos both (by rw [Nat.mul_assoc]) other
  rw [value_finite, value_finite, first, second, ← sub_div, abs_div, abs_of_pos weight,
    abs_signed_sub]

/-- Rounding a magnitude under its sign finds the closest number of either sign. -/
theorem distance_nearest (negative other : Bool) (num rank : Nat) {den : Nat} (pos : 0 < den) :
    distance negative negative num (f.units (f.nearest num den) * den) ≤
        distance negative other num (f.units rank * den) ∧
      ((negative = other → rank ≠ f.nearest num den) →
        distance negative other num (f.units rank * den) =
          distance negative negative num (f.units (f.nearest num den) * den) →
        f.nearest num den % 2 = 0) := by
  obtain ⟨closest, even⟩ := nearest_closest (f := f) num rank pos
  unfold distance
  rw [if_pos rfl]
  split
  · rename_i same
    exact ⟨closest, fun different => even (different same)⟩
  · -- Zero lies between the number and one with the other sign.
    obtain ⟨nearer, evenOverZero⟩ := nearest_closest (f := f) num 0 pos
    rw [f.units_zero, Nat.zero_mul] at nearer evenOverZero
    refine ⟨by omega, fun _ tie => ?_⟩
    by_cases zero : f.nearest num den = 0
    · rw [zero]
    · exact evenOverZero (Ne.symm zero) (by omega)

theorem toBits_mod_two (even : f.step % 2 = 0) (negative : Bool) (rank : Fin f.limit) :
    (finite negative rank).toBits % 2 = rank.val % 2 := by
  have weight : signWeight f % 2 = 0 := by rw [signWeight, Nat.mul_mod, even, Nat.mul_zero]
  show ((if negative then signWeight f else 0) + rank.val) % 2 = rank.val % 2
  split <;> omega

theorem isNearest_convert (even : g.step % 2 = 0) {x : Binary f} (numeric : x.isFinite = true)
    (stays : (x.convert g).isFinite = true) : IsNearest x.value (x.convert g) := by
  cases x with
  | nan negative => cases numeric
  | infinite negative => cases numeric
  | finite negative i =>
    have weight : (0 : ℚ) < (f.one * g.one : Nat) :=
      Nat.cast_pos.mpr (Nat.mul_pos f.one_pos g.one_pos)
    have converted : (finite negative i).convert g =
      ofRank negative (g.nearest (f.units i * g.one) f.one) := rfl
    rw [converted, ofRank] at stays ⊢
    split at stays
    · rename_i within
      rw [dif_pos within]
      refine ⟨rfl, fun z there => ?_, fun z there different tie => ?_⟩
      · cases z with
        | nan other => cases there
        | infinite other => cases there
        | finite other j =>
          rw [abs_value_sub, abs_value_sub, div_le_div_iff_of_pos_right weight]
          exact Nat.cast_le.mpr (distance_nearest negative other _ j f.one_pos).1
      · cases z with
        | nan other => cases there
        | infinite other => cases there
        | finite other j =>
          rw [abs_value_sub, abs_value_sub, div_left_inj' weight.ne', Nat.cast_inj] at tie
          rw [toBits_mod_two even]
          refine (distance_nearest negative other _ j f.one_pos).2 (fun same rank => ?_) tie
          subst same
          exact different (congrArg (fun r => (Binary.finite negative r).value) (Fin.ext rank))
    · cases stays

/-! ### What is refused -/

theorem value_largest : (largest : Single).value = 2 ^ 128 - 2 ^ 104 := by
  have one : (binary32.one : ℚ) ≠ 0 := Nat.cast_ne_zero.mpr binary32.one_pos.ne'
  have units : binary32.units (binary32.limit - 1) = (2 ^ 128 - 2 ^ 104) * binary32.one := by
    decide +kernel
  have top : (largest : Single) = .finite false ⟨binary32.limit - 1, by decide⟩ :=
    ofRank_val false ⟨_, by decide⟩
  rw [top, value_finite, signed, if_neg Bool.false_ne_true, units, Nat.cast_mul,
    mul_div_cancel_right₀ _ one]
  norm_num

/-- The finite doubles that no finite float of single precision is nearest to. The bound is halfway
from the largest one to the power of two that would follow it. -/
theorem isInfinite_single_iff {x : Double} (numeric : x.isFinite = true) :
    (x.convert .binary32).isInfinite = true ↔
      ((largest : Single).value + 2 ^ 128) / 2 ≤ |x.value| := by
  have halfway : ((largest : Single).value + 2 ^ 128) / 2 = (2 ^ 128 - 2 ^ 103 : Nat) := by
    rw [value_largest]
    norm_num
  cases x with
  | nan negative => cases numeric
  | infinite negative => cases numeric
  | finite negative rank =>
    have one : (0 : ℚ) < binary64.one := Nat.cast_pos.mpr binary64.one_pos
    rw [isInfinite_convert_iff, abs_value_finite, halfway, le_div_iff₀ one, ← Nat.cast_mul,
      Nat.cast_le]

theorem isNegative_convert (x : Binary f) : (x.convert g).isNegative = x.isNegative := by
  cases x with
  | nan negative => rfl
  | infinite negative => rfl
  | finite negative rank =>
    rw [convert, round, ofRank]
    split <;> rfl

/-- What a double becomes when it is kept: a float of the same sign, which is not a number or infinite
only if the double is, and else the nearest one. -/
structure KeptAs (x : Double) (y : Single) : Prop where
  isNegative : y.isNegative = x.isNegative
  isNaN : y.isNaN = x.isNaN
  isInfinite : y.isInfinite = x.isInfinite
  nearest : x.isFinite = true → IsNearest x.value y

end Binary

namespace Scalar

open Binary

theorem ofDouble_eq_error_iff_value (x : Double) (fault : NumberFault) :
    ofDouble x = .error fault ↔ fault = .outsideSingle ∧ x.isFinite = true ∧
      ((largest : Single).value + 2 ^ 128) / 2 ≤ |x.value| := by
  rw [ofDouble_eq_error_iff]
  refine and_congr_right fun _ => and_congr_right fun numeric => ?_
  exact isInfinite_single_iff numeric

theorem keptAs_of_ofDouble {x : Double} {v : Scalar} (made : ofDouble x = .ok v) :
    ∃ y, v = .float y ∧ KeptAs x y := by
  have inside : x.isFinite = true → (x.convert .binary32).isInfinite = false := by
    intro numeric
    by_contra outside
    have refused := ofDouble_eq_error_iff.mpr ⟨rfl, numeric, eq_true_of_ne_false outside⟩
    cases made.symm.trans refused
  refine ⟨x.convert .binary32, eq_float_of_ofDouble made, ?_⟩
  cases x with
  | nan negative => exact ⟨rfl, rfl, rfl, nofun⟩
  | infinite negative => exact ⟨rfl, rfl, rfl, nofun⟩
  | finite negative rank =>
    have numeric : (Binary.finite negative rank : Double).isFinite = true := rfl
    have ordered := isNaN_convert (g := binary32) (Binary.finite negative rank : Double)
    have bounded := inside numeric
    refine ⟨isNegative_convert _, ordered, bounded, fun _ => isNearest_convert (by decide) numeric ?_⟩
    generalize (Binary.finite negative rank : Double).convert binary32 = y at ordered bounded ⊢
    cases y with
    | nan other => cases ordered
    | infinite other => cases bounded
    | finite other place => rfl

theorem ofDouble_toDouble {x : Double} {v : Scalar} (made : ofDouble x = .ok v) :
    ofDouble v.toDouble = .ok v := by
  obtain rfl := eq_float_of_ofDouble made
  exact ofDouble_convert (x.convert .binary32)

theorem toDouble_le_of_le {x y : Double} {v w : Scalar} (first : ofDouble x = .ok v)
    (second : ofDouble y = .ok w) (le : x.toExtended.le y.toExtended = true) :
    v.toDouble.toExtended.le w.toDouble.toExtended = true := by
  obtain ⟨left, right⟩ := isNaN_eq_false_of_le le
  have read := readNumber_mono left right (by
    rwa [Extended.le_iff (toExtended_ne_nan left) (toExtended_ne_nan right), number_toExtended,
      number_toExtended] at le)
  have leftKept : v.isNaN = false := by
    rw [eq_float_of_ofDouble first]
    exact x.isNaN_convert.trans left
  have rightKept : w.isNaN = false := by
    rw [eq_float_of_ofDouble second]
    exact y.isNaN_convert.trans right
  rw [readNumber, readNumber, first, second] at read
  rwa [Extended.le_iff (toDouble_ne_nan leftKept) (toDouble_ne_nan rightKept), number_toDouble,
    number_toDouble]

/-! ### Equality of scalars -/

/-- The bits that scalars of a kind are told apart by. -/
def bits : Scalar → Int
  | .int n => n.toInt
  | .float x => x.toBits

theorem eq_iff_bits (v w : Scalar) : v = w ↔ v.kind = w.kind ∧ v.bits = w.bits := by
  constructor
  · rintro rfl
    exact ⟨rfl, rfl⟩
  · rintro ⟨kind, bits⟩
    cases v with
    | int n =>
      cases w with
      | int m => rw [Int32.toInt_inj.mp bits]
      | float y => cases kind
    | float x =>
      cases w with
      | int m => cases kind
      | float y =>
        have same : x.toBits = y.toBits := Int.ofNat_inj.mp bits
        rw [← ofBits_toBits (by decide) x, same, ofBits_toBits (by decide) y]

theorem equals_iff (v w : Scalar) :
    Data.equals (.scalar v) (.scalar w) = true ↔ v.kind = w.kind ∧ v.bits = w.bits := by
  have leaf : Data.equals (.scalar v) (.scalar w) = (v == w) := by
    simp only [Data.equals, Data.leafEquals]
  rw [leaf, beq_iff_eq, eq_iff_bits]

theorem not_equals_of_kind {v w : Scalar} (different : v.kind ≠ w.kind) :
    Data.equals (.scalar v) (.scalar w) = false :=
  eq_false_of_ne_true fun same => different ((equals_iff v w).mp same).1

/-- What holds of stored numbers. -/
structure StorageLaws : Prop where
  doubles : FaithfulBits binary64 64
  singles : FaithfulBits binary32 32
  bounded : ∀ y : Single, y.isFinite = true → |y.value| ≤ (largest : Single).value
  /-- A double is refused exactly if it is finite and no nearer to the largest single-precision float
  than to the power of two past it. -/
  refused : ∀ (x : Double) (fault : NumberFault), ofDouble x = .error fault ↔
    fault = .outsideSingle ∧ x.isFinite = true ∧
      ((largest : Single).value + 2 ^ 128) / 2 ≤ |x.value|
  kept : ∀ (x : Double) (v : Scalar), ofDouble x = .ok v → ∃ y, v = .float y ∧ KeptAs x y
  /-- What was kept stays as it is. -/
  stays : ∀ (x : Double) (v : Scalar), ofDouble x = .ok v → ofDouble v.toDouble = .ok v
  monotone : ∀ (x y : Double) (v w : Scalar), ofDouble x = .ok v → ofDouble y = .ok w →
    x.toExtended.le y.toExtended = true → v.toDouble.toExtended.le w.toDouble.toExtended = true
  /-- Every scalar is read and loaded again from the number that it is written out as. -/
  reloaded : ∀ v : Scalar, v.toData.toScalar = .ok v ∧ load v.toData = .ok v
  equals : ∀ v w : Scalar, Data.equals (.scalar v) (.scalar w) = true ↔
    v.kind = w.kind ∧ v.bits = w.bits
  apart : ∀ (n : Int32) (x : Single), Data.equals (.scalar (.int n)) (.scalar (.float x)) = false ∧
    Data.equals (.scalar (.float x)) (.scalar (.int n)) = false

/-- Floats are told from each other by their bits, and a number is kept as the nearest float of single
precision, which stays as it is. -/
theorem storage_stable : StorageLaws where
  doubles := faithfulBits (by decide) (by decide)
  singles := faithfulBits (by decide) (by decide)
  bounded _ := abs_value_le_largest
  refused := ofDouble_eq_error_iff_value
  kept _ _ := keptAs_of_ofDouble
  stays _ _ := ofDouble_toDouble
  monotone _ _ _ _ := toDouble_le_of_le
  reloaded v := ⟨v.toScalar_toData, v.load_toData⟩
  equals := equals_iff
  apart _ _ := ⟨not_equals_of_kind nofun, not_equals_of_kind nofun⟩

/-- Halfway from negative zero to the first float below it. -/
def deepTie : Double := .ofBits 0xb690000000000000

def lastKept : Double := .ofBits 0x47efffffefffffff

/-- A tie goes to the even side, which is negative zero here, and zero stays negative; the last double
that is kept is kept as the largest float; and the next one is refused. -/
theorem deepTie_kept :
    ofDouble deepTie = .ok (.float (.zero true)) ∧ ofDouble lastKept = .ok (.float largest) ∧
      deepTie.toExtended.le lastKept.toExtended = true ∧
      (∃ y, Scalar.float (.zero true) = .float y ∧ KeptAs deepTie y) ∧
      ofDouble (toDouble (.float (.zero true))) = .ok (.float (.zero true)) ∧
      (toDouble (.float (.zero true))).toExtended.le (toDouble (.float largest)).toExtended = true ∧
      ofDouble (.ofBits 0x47effffff0000000) = .error .outsideSingle := by
  have first : ofDouble deepTie = .ok (.float (.zero true)) := by
    have zero : deepTie.convert .binary32 = .zero true := by decide +kernel
    rw [ofDouble, zero]
    rfl
  have second : ofDouble lastKept = .ok (.float largest) := by
    have top : lastKept.convert .binary32 = largest := by decide +kernel
    rw [ofDouble, top]
    rfl
  have le : deepTie.toExtended.le lastKept.toExtended = true := by decide +kernel
  refine ⟨first, second, le, storage_stable.kept _ _ first, storage_stable.stays _ _ first,
    storage_stable.monotone _ _ _ _ first second le, ?_⟩
  rw [ofDouble_eq_error_iff]
  exact ⟨rfl, by decide +kernel, by decide +kernel⟩

end Scalar

end GrowthGrammar
