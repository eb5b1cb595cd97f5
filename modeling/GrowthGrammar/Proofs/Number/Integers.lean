import GrowthGrammar.Proofs.Number.Rounding

/-!
Whole numbers as floats. Those of few bits are floats themselves. Of the others a double is taken,
and for that a single-precision float; where the bounds lie past which there is none is a matter of
two roundings.
-/
namespace GrowthGrammar

namespace FloatFormat

variable {f : FloatFormat}

theorem one_eq (f : FloatFormat) : f.one = 2 ^ f.scale := rfl

/-- A significand that fits, with an exponent in the range of a format, is a magnitude of it. -/
theorem exists_rank_of_significand {m e : Nat} (small : m < 2 ^ (f.fraction + 1))
    (room : e + 2 ≤ f.binades) : ∃ rank < f.limit, f.units rank = m * 2 ^ e := by
  have exponent := log2_le_of_significand (e := e) (g := f) small
  have divides : 2 ^ (m * 2 ^ e / f.step).log2 ∣ m * 2 ^ e :=
    Dvd.dvd.mul_left (pow_dvd_pow 2 (by omega)) m
  refine ⟨f.rankBelow (m * 2 ^ e), rankBelow_lt_limit (by omega), ?_⟩
  rw [(f.units_rankBelow _).1, Nat.div_mul_cancel divides]

end FloatFormat

namespace Binary

open FloatFormat

theorem ofInt_eq_ofRank (f : FloatFormat) (n : Int) :
    (ofInt n : Binary f) = ofRank (n < 0) (f.nearest (n.natAbs * f.one) 1) := by
  have pos : (0 : Int) < f.one := Int.natCast_pos.mpr f.one_pos
  unfold ofInt ofUnits
  split
  · rename_i zero
    obtain rfl : n = 0 := (Int.mul_eq_zero.mp zero).resolve_right (Int.ne_of_gt pos)
    have own := f.nearest_units 0 Nat.one_pos
    rw [units_of_lt f.step_pos] at own
    rw [Int.natAbs_zero, Nat.zero_mul, own]
    rfl
  · have sign : n * f.one < 0 ↔ n < 0 :=
      ⟨fun negative => by_contra fun other => by
        have := Int.mul_nonneg (Int.not_lt.mp other) (Int.le_of_lt pos)
        omega, fun negative => Int.mul_neg_of_neg_of_pos negative pos⟩
    rw [round, Int.natAbs_mul, Int.natAbs_natCast, decide_eq_decide.mpr sign]

/-- A whole number of 53 bits is a double. -/
theorem toExtended_ofInt {n : Int} (small : n.natAbs < 2 ^ 53) :
    (ofInt n : Double).toExtended = .ofInt .binary64 n := by
  obtain ⟨rank, finite, exact⟩ :=
    exists_rank_of_significand (f := binary64) (e := binary64.scale) small (by decide)
  have units : binary64.units rank = n.natAbs * binary64.one := by rw [exact, one_eq]
  have nearest : binary64.nearest (n.natAbs * binary64.one) 1 = rank := by
    have own := binary64.nearest_units rank Nat.one_pos
    rwa [Nat.mul_one, units] at own
  rw [ofInt_eq_ofRank, nearest, ofRank, dif_pos finite]
  rcases Int.lt_or_le n 0 with negative | positive
  · rw [decide_eq_true negative]
    simp only [toExtended, toUnits, units, Extended.ofInt]
    rw [Int.natCast_mul, Int.ofNat_natAbs_of_nonpos (Int.le_of_lt negative), Int.neg_mul, Int.neg_neg]
  · rw [decide_eq_false (Int.not_lt.mpr positive)]
    simp only [toExtended, toUnits, units, Extended.ofInt]
    rw [Int.natCast_mul, Int.natAbs_of_nonneg positive]

/-- The doubles that no finite single-precision float is nearest to. -/
theorem isInfinite_convert_iff (negative : Bool) (rank : Fin binary64.limit) :
    ((finite negative rank : Double).convert .binary32).isInfinite = true ↔
      (2 ^ 128 - 2 ^ 103) * binary64.one ≤ binary64.units rank := by
  have limit : binary32.limit = (binary32.limit - 1) + 1 := by decide
  have odd : (binary32.limit - 1) % 2 = 1 := by decide
  have midpoint : binary32.units (binary32.limit - 1) +
      binary32.units ((binary32.limit - 1) + 1) =
        2 * ((2 ^ 128 - 2 ^ 103) * binary32.one) := by decide +kernel
  have bound := limit_le_nearest_iff (binary64.units rank * binary32.one) limit odd
    binary64.one_pos
  generalize 2 ^ 128 - 2 ^ 103 = least at midpoint ⊢
  rw [midpoint, Nat.mul_assoc, Nat.mul_le_mul_left_iff Nat.two_pos, Nat.mul_right_comm,
    Nat.mul_le_mul_right_iff binary32.one_pos] at bound
  rw [convert, isInfinite_round]
  exact bound

end Binary

namespace Scalar

theorem ofDouble_eq_error_iff {x : Double} {fault : NumberFault} :
    ofDouble x = .error fault ↔
      fault = .outsideSingle ∧ x.isFinite = true ∧ (x.convert .binary32).isInfinite = true := by
  unfold ofDouble
  dsimp only
  split
  · rename_i outside
    rw [Bool.and_eq_true] at outside
    constructor
    · rintro ⟨⟩
      exact ⟨rfl, outside⟩
    · rintro ⟨rfl, -⟩
      rfl
  · rename_i inside
    rw [Bool.and_eq_true] at inside
    constructor
    · rintro ⟨⟩
    · rintro ⟨-, outside⟩
      exact absurd outside inside

theorem eq_float_of_ofDouble {x : Double} {v : Scalar} (made : ofDouble x = .ok v) :
    v = .float (x.convert .binary32) := by
  unfold ofDouble at made
  dsimp only at made
  split at made
  · cases made
  · cases made
    rfl

open FloatFormat in
/-- The whole numbers whose double is too large for single precision. Half a unit in the last place
of the double is enough to bring a number up to the bound. -/
theorem ofDouble_ofInt_eq_error_iff (n : Int) :
    ofDouble (.ofInt n) = .error .outsideSingle ↔
      2 ^ 128 - 2 ^ 103 - 2 ^ 74 ≤ n.natAbs ∧ n.natAbs < 2 ^ 1024 - 2 ^ 970 := by
  -- The bound is a double itself, and the one before it is odd, so that a tie goes to the bound.
  let last := 1151 * 2 ^ 52 - 2 ^ 28 - 1
  have bound : binary64.units (last + 1) = (2 ^ 128 - 2 ^ 103) * binary64.one := by decide +kernel
  have midpoint : binary64.units last + binary64.units (last + 1) =
      2 * ((2 ^ 128 - 2 ^ 103 - 2 ^ 74) * binary64.one) := by decide +kernel
  have odd : last % 2 = 1 := by decide
  have reached : last < binary64.nearest (n.natAbs * binary64.one) 1 ↔
      2 ^ 128 - 2 ^ 103 - 2 ^ 74 ≤ n.natAbs := by
    have past := lt_nearest_iff (f := binary64) last (n.natAbs * binary64.one) Nat.one_pos
    generalize 2 ^ 128 - 2 ^ 103 - 2 ^ 74 = least at midpoint ⊢
    rw [midpoint, Nat.mul_one] at past
    rw [past, ← Nat.mul_le_mul_right_iff binary64.one_pos]
    omega
  have finite := not_congr (Binary.isInfinite_ofInt n)
  rw [Nat.not_le] at finite
  rw [ofDouble_eq_error_iff, and_iff_right rfl, ← reached, ← finite, Binary.ofInt_eq_ofRank,
    Binary.ofRank]
  split
  · rw [Binary.isInfinite_convert_iff, ← bound, binary64.units_strictMono.le_iff_le]
    exact ⟨fun past => ⟨past.2, Bool.false_ne_true⟩, fun past => ⟨rfl, past.1⟩⟩
  · exact ⟨fun past => absurd past.1 Bool.false_ne_true, fun past => absurd rfl past.2⟩

end Scalar

end GrowthGrammar
