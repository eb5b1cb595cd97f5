import GrowthGrammar.Data.Number
import Mathlib.Algebra.Order.Ring.Nat

/-!
Exact rounding. A number that is a magnitude of a format is rounded to itself, so a float can be
taken to a format that holds all its magnitudes and back without a change. In particular a scalar is
what its number, written out in double precision, is read as.
-/
namespace GrowthGrammar

namespace FloatFormat

variable {f g : FloatFormat}

theorem step_pos (f : FloatFormat) : 0 < f.step := Nat.pow_pos Nat.two_pos

theorem one_pos (f : FloatFormat) : 0 < f.one := Nat.pow_pos Nat.two_pos

/-! ### Ranks and their magnitudes -/

theorem units_of_lt {rank : Nat} (subnormal : rank < f.step) : f.units rank = rank := by
  rw [units, Nat.div_eq_of_lt subnormal, if_pos rfl, Nat.mod_eq_of_lt subnormal]

theorem units_binade {low : Nat} (inside : low < f.step) (e : Nat) :
    f.units ((e + 1) * f.step + low) = (f.step + low) * 2 ^ e := by
  have code : ((e + 1) * f.step + low) / f.step = e + 1 := by
    rw [Nat.mul_comm, Nat.mul_add_div f.step_pos, Nat.div_eq_of_lt inside, Nat.add_zero]
  have rest : ((e + 1) * f.step + low) % f.step = low := by
    rw [Nat.mul_add_mod', Nat.mod_eq_of_lt inside]
  rw [units, code, rest, if_neg (Nat.succ_ne_zero e), Nat.add_sub_cancel]
  rfl

/-- A rank is subnormal, or it stands at some place of a binade. -/
theorem rank_cases (f : FloatFormat) (rank : Nat) :
    rank < f.step ∨ ∃ e low, low < f.step ∧ rank = (e + 1) * f.step + low := by
  rcases Nat.lt_or_ge rank f.step with subnormal | normal
  · exact .inl subnormal
  · right
    have code : 1 ≤ rank / f.step := (Nat.one_le_div_iff f.step_pos).mpr normal
    refine ⟨rank / f.step - 1, rank % f.step, Nat.mod_lt rank f.step_pos, ?_⟩
    rw [Nat.sub_add_cancel code, Nat.div_add_mod']

/-- The first normal magnitude follows the subnormal ones without a gap. -/
theorem units_of_le {rank : Nat} (low : rank ≤ f.step) : f.units rank = rank := by
  rcases Nat.lt_or_eq_of_le low with subnormal | rfl
  · exact units_of_lt subnormal
  · have first := units_binade f.step_pos 0
    rwa [Nat.zero_add, Nat.one_mul, Nat.add_zero, pow_zero, Nat.mul_one] at first

theorem units_binade_succ {low : Nat} (inside : low < f.step) (e : Nat) :
    f.units ((e + 1) * f.step + low + 1) = (f.step + low + 1) * 2 ^ e := by
  rcases Nat.lt_or_ge (low + 1) f.step with next | last
  · rw [Nat.add_assoc, units_binade next, ← Nat.add_assoc]
  · have first : (e + 1) * f.step + low + 1 = (e + 1 + 1) * f.step + 0 := by
      rw [Nat.succ_mul (e + 1)]
      omega
    have double : f.step + low + 1 = f.step * 2 := by omega
    rw [first, units_binade f.step_pos, Nat.add_zero, double, pow_succ', Nat.mul_assoc]

theorem units_strictMono (f : FloatFormat) : StrictMono f.units := by
  refine strictMono_nat_of_lt_succ fun rank => ?_
  rcases f.rank_cases rank with subnormal | ⟨e, low, inside, rfl⟩
  · rw [units_of_lt subnormal, units_of_le subnormal]
    exact Nat.lt_succ_self rank
  · rw [units_binade inside, units_binade_succ inside]
    exact Nat.mul_lt_mul_of_pos_right (Nat.lt_succ_self _) (Nat.two_pow_pos e)

/-- The magnitudes on both sides of a number of least units differ from it in its lowest bits, past
the precision. -/
theorem units_rankBelow (f : FloatFormat) (n : Nat) :
    f.units (f.rankBelow n) = n / 2 ^ (n / f.step).log2 * 2 ^ (n / f.step).log2 ∧
    f.units (f.rankBelow n + 1) = (n / 2 ^ (n / f.step).log2 + 1) * 2 ^ (n / f.step).log2 := by
  have rank : f.rankBelow n = (n / f.step).log2 * f.step + n / 2 ^ (n / f.step).log2 := rfl
  rcases Nat.lt_or_ge n f.step with subnormal | normal
  · have none : (n / f.step).log2 = 0 := by rw [Nat.div_eq_of_lt subnormal, Nat.log2_zero]
    rw [rank, none, Nat.zero_mul, Nat.zero_add, pow_zero, Nat.div_one, Nat.mul_one, Nat.mul_one]
    exact ⟨units_of_lt subnormal, units_of_le subnormal⟩
  · have some : n / f.step ≠ 0 := (Nat.div_pos normal f.step_pos).ne'
    obtain ⟨atLeast, below⟩ := (Nat.log2_eq_iff some).mp rfl
    generalize (n / f.step).log2 = e at *
    have weight : 0 < 2 ^ e := Nat.two_pow_pos e
    -- The significand has the leading bit that every normal magnitude has.
    have low : f.step ≤ n / 2 ^ e := by
      rw [Nat.le_div_iff_mul_le weight, Nat.mul_comm]
      exact (Nat.le_div_iff_mul_le f.step_pos).mp atLeast
    have high : n / 2 ^ e < f.step + f.step := by
      rw [Nat.div_lt_iff_lt_mul weight, ← Nat.two_mul, Nat.mul_right_comm, ← pow_succ']
      exact (Nat.div_lt_iff_lt_mul f.step_pos).mp below
    have place : f.rankBelow n = (e + 1) * f.step + (n / 2 ^ e - f.step) := by
      rw [rank, Nat.succ_mul]
      omega
    rw [place, units_binade (by omega), units_binade_succ (by omega), Nat.add_sub_cancel' low]
    exact ⟨rfl, rfl⟩

/-- Rounding down finds the largest magnitude that is not above a number. -/
theorem rankBelow_spec (f : FloatFormat) (n : Nat) :
    f.units (f.rankBelow n) ≤ n ∧ n < f.units (f.rankBelow n + 1) := by
  obtain ⟨down, up⟩ := f.units_rankBelow n
  rw [down, up]
  exact ⟨Nat.div_mul_le_self _ _,
    (Nat.div_lt_iff_lt_mul (Nat.two_pow_pos _)).mp (Nat.lt_add_one _)⟩

theorem rankBelow_units (f : FloatFormat) (rank : Nat) : f.rankBelow (f.units rank) = rank := by
  obtain ⟨down, up⟩ := f.rankBelow_spec (f.units rank)
  have atMost := f.units_strictMono.le_iff_le.mp down
  have atLeast := f.units_strictMono.lt_iff_lt.mp up
  omega

/-- A magnitude is nearest to itself. -/
theorem nearest_units (f : FloatFormat) (rank : Nat) {den : Nat} (pos : 0 < den) :
    f.nearest (f.units rank * den) den = rank := by
  have less : 2 * (f.units rank * den) < (f.units rank + f.units (rank + 1)) * den := by
    rw [← Nat.mul_assoc]
    have above := f.units_strictMono (Nat.lt_add_one rank)
    exact Nat.mul_lt_mul_of_pos_right (by omega) pos
  rw [nearest, Nat.mul_div_cancel _ pos, rankBelow_units]
  exact if_pos less

/-- A number is rounded past a magnitude once it is past the middle to the next one. In the middle it
goes up from the odd magnitudes. -/
theorem lt_nearest_iff (rank num : Nat) {den : Nat} (pos : 0 < den) :
    rank < f.nearest num den ↔
      (f.units rank + f.units (rank + 1)) * den < 2 * num ∨
        (f.units rank + f.units (rank + 1)) * den = 2 * num ∧ rank % 2 = 1 := by
  have down := (Nat.le_div_iff_mul_le pos).mp (f.rankBelow_spec (num / den)).1
  have up := (Nat.div_lt_iff_lt_mul pos).mp (f.rankBelow_spec (num / den)).2
  have order := Nat.mul_lt_mul_of_pos_right (f.units_strictMono (Nat.lt_add_one rank)) pos
  rw [Nat.add_mul]
  unfold nearest
  generalize f.rankBelow (num / den) = found at down up ⊢
  dsimp only
  rw [Nat.add_mul]
  rcases Nat.lt_trichotomy found rank with below | rfl | above
  · have under : f.units (found + 1) * den ≤ f.units rank * den :=
      Nat.mul_le_mul_right den (f.units_strictMono.monotone below)
    refine iff_of_false ?_ ?_
    · split_ifs <;> omega
    · omega
  · split_ifs <;> omega
  · have beyond : f.units (rank + 1) * den ≤ f.units found * den :=
      Nat.mul_le_mul_right den (f.units_strictMono.monotone above)
    refine iff_of_true ?_ ?_
    · split_ifs <;> omega
    · omega

/-- A magnitude below the nearest one is no larger than the number. -/
theorem units_le_of_lt_nearest {rank num den : Nat} (pos : 0 < den)
    (below : rank < f.nearest num den) : f.units rank * den ≤ num := by
  have past := (lt_nearest_iff rank num pos).mp below
  have order := Nat.mul_lt_mul_of_pos_right (f.units_strictMono (Nat.lt_add_one rank)) pos
  rw [Nat.add_mul] at past
  omega

theorem nearest_mono {num other den : Nat} (pos : 0 < den) (le : num ≤ other) :
    f.nearest num den ≤ f.nearest other den := by
  by_contra greater
  have past := (lt_nearest_iff (f.nearest other den) num pos).mp (Nat.not_le.mp greater)
  have stuck := mt (lt_nearest_iff (f.nearest other den) other pos).mpr (Nat.lt_irrefl _)
  omega

/-- A number is past all finite magnitudes once it is no nearer to the last of them than to the one
that would follow: that one is even, so that a tie goes to it. -/
theorem limit_le_nearest_iff (num : Nat) {last den : Nat} (follows : f.limit = last + 1)
    (odd : last % 2 = 1) (pos : 0 < den) :
    f.limit ≤ f.nearest num den ↔ (f.units last + f.units (last + 1)) * den ≤ 2 * num := by
  have past := lt_nearest_iff (f := f) last num pos
  rw [follows]
  omega

/-! ### Formats within one another -/

/-- Every finite magnitude of the first format is one of the second. -/
structure Within (f g : FloatFormat) : Prop where
  fraction_le : f.fraction ≤ g.fraction
  scale_le : f.scale ≤ g.scale
  normal : 2 ≤ f.binades
  binades_le : f.binades ≤ g.binades
  range_le : f.binades + (g.scale - f.scale) ≤ g.binades + (g.fraction - f.fraction)

theorem binary32_within : Within binary32 binary64 := ⟨by decide, by decide, by decide, by decide,
  by decide⟩

/-- A finite magnitude as a significand and an exponent. -/
theorem exists_significand (normal : 2 ≤ f.binades) {rank : Nat} (finite : rank < f.limit) :
    ∃ m e, f.units rank = m * 2 ^ e ∧ m < 2 ^ (f.fraction + 1) ∧ e + 2 ≤ f.binades := by
  have double : 2 ^ (f.fraction + 1) = f.step + f.step := by
    rw [pow_succ, Nat.mul_two]
    rfl
  rcases f.rank_cases rank with subnormal | ⟨e, low, inside, rfl⟩
  · exact ⟨rank, 0, by rw [units_of_lt subnormal, pow_zero, Nat.mul_one], by omega, by omega⟩
  · refine ⟨f.step + low, e, units_binade inside e, by omega, ?_⟩
    have code : (e + 1) * f.step < f.binades * f.step := Nat.lt_of_le_of_lt (by omega) finite
    exact Nat.lt_of_mul_lt_mul_right code

/-- The binade of a significand with an exponent in another format. -/
theorem log2_le_of_significand {m e : Nat} (small : m < 2 ^ (f.fraction + 1)) :
    (m * 2 ^ e / g.step).log2 = 0 ∨
      (m * 2 ^ e / g.step).log2 + g.fraction ≤ f.fraction + e := by
  by_cases none : m * 2 ^ e / g.step = 0
  · left
    rw [none]
    rfl
  · right
    have atLeast := ((Nat.log2_eq_iff none).mp rfl).1
    generalize (m * 2 ^ e / g.step).log2 = shift at atLeast
    rw [Nat.le_div_iff_mul_le g.step_pos] at atLeast
    have above : 2 ^ (shift + g.fraction) ≤ m * 2 ^ e := pow_add 2 shift _ ▸ atLeast
    have below : m * 2 ^ e < 2 ^ (f.fraction + 1 + e) :=
      pow_add 2 (f.fraction + 1) e ▸ Nat.mul_lt_mul_of_pos_right small (Nat.two_pow_pos e)
    have exponents := (Nat.pow_lt_pow_iff_right Nat.one_lt_two).mp (Nat.lt_of_le_of_lt above below)
    omega

theorem rankBelow_lt_limit {n : Nat} (room : (n / f.step).log2 + 2 ≤ f.binades) :
    f.rankBelow n < f.limit := by
  have below : n / 2 ^ (n / f.step).log2 < 2 * f.step := by
    rw [Nat.div_lt_iff_lt_mul (Nat.two_pow_pos _), Nat.mul_right_comm, ← pow_succ']
    exact (Nat.div_lt_iff_lt_mul f.step_pos).mp Nat.lt_log2_self
  have enough := Nat.mul_le_mul_right f.step room
  rw [Nat.add_mul] at enough
  exact Nat.lt_of_lt_of_le (Nat.add_lt_add_left below _) enough

/-- A rank with the same exact value in a format that has the first one within. -/
theorem exists_rank (within : Within f g) {rank : Nat} (finite : rank < f.limit) :
    ∃ r < g.limit, g.units r * f.one = f.units rank * g.one := by
  obtain ⟨m, e, eq, small, code⟩ := exists_significand within.normal finite
  obtain ⟨fraction_le, scale_le, normal, binades_le, range_le⟩ := within
  obtain ⟨shift, scale⟩ := Nat.exists_eq_add_of_le scale_le
  -- The wider format drops no bit of the significand: its shift is at most the exponent.
  have exponent := log2_le_of_significand (e := e + shift) (g := g) small
  have divides : 2 ^ (m * 2 ^ (e + shift) / g.step).log2 ∣ m * 2 ^ (e + shift) :=
    Dvd.dvd.mul_left (pow_dvd_pow 2 (by omega)) m
  refine ⟨g.rankBelow (m * 2 ^ (e + shift)), rankBelow_lt_limit (by omega), ?_⟩
  have one : g.one = 2 ^ shift * f.one := by
    change 2 ^ g.scale = 2 ^ shift * 2 ^ f.scale
    rw [scale, pow_add, Nat.mul_comm]
  rw [(g.units_rankBelow _).1, Nat.div_mul_cancel divides, eq, one, pow_add, ← Nat.mul_assoc,
    ← Nat.mul_assoc]

end FloatFormat

namespace Binary

variable {f g : FloatFormat}

theorem ofRank_val (negative : Bool) (rank : Fin f.limit) :
    ofRank negative rank.val = .finite negative rank := dif_pos rank.isLt

theorem isInfinite_ofRank {negative : Bool} {rank : Nat} :
    (ofRank negative rank : Binary f).isInfinite = true ↔ f.limit ≤ rank := by
  rw [ofRank]
  split
  · rename_i finite
    exact iff_of_false Bool.false_ne_true (Nat.not_le.mpr finite)
  · rename_i infinite
    exact iff_of_true rfl (Nat.not_lt.mp infinite)

theorem isInfinite_round {negative : Bool} {num den : Nat} :
    (round negative num den : Binary f).isInfinite = true ↔ f.limit ≤ f.nearest num den :=
  isInfinite_ofRank

/-- The whole numbers that no finite double is nearest to. The bound is as far from the last finite
double as from the power of two that would follow it. -/
theorem isInfinite_ofInt (n : Int) :
    (ofInt n : Double).isInfinite = true ↔ 2 ^ 1024 - 2 ^ 970 ≤ n.natAbs := by
  have limit : FloatFormat.binary64.limit = (FloatFormat.binary64.limit - 1) + 1 := by decide
  have odd : (FloatFormat.binary64.limit - 1) % 2 = 1 := by decide
  have midpoint : FloatFormat.binary64.units (FloatFormat.binary64.limit - 1) +
      FloatFormat.binary64.units ((FloatFormat.binary64.limit - 1) + 1) =
        2 * ((2 ^ 1024 - 2 ^ 970) * FloatFormat.binary64.one) := by decide +kernel
  have bound := FloatFormat.limit_le_nearest_iff (n.natAbs * FloatFormat.binary64.one) limit odd
    Nat.one_pos
  rw [midpoint, Nat.mul_one, Nat.mul_le_mul_left_iff Nat.two_pos,
    Nat.mul_le_mul_right_iff FloatFormat.binary64.one_pos] at bound
  rw [ofInt, ofUnits]
  split
  · rename_i zero
    have none : n = 0 := (Int.mul_eq_zero.mp zero).resolve_right
      (Int.natCast_ne_zero.mpr FloatFormat.binary64.one_pos.ne')
    subst none
    exact iff_of_false Bool.false_ne_true (by decide +kernel)
  · rw [isInfinite_round, Int.natAbs_mul, Int.natAbs_natCast]
    exact bound

/-- A finite float has the same exact value in a format that has its own within. -/
theorem exists_convert_eq (within : f.Within g) (negative : Bool) (rank : Fin f.limit) :
    ∃ wide : Fin g.limit, (finite negative rank).convert g = finite negative wide ∧
      g.units wide * f.one = f.units rank * g.one := by
  obtain ⟨r, there, same⟩ := FloatFormat.exists_rank within rank.isLt
  refine ⟨⟨r, there⟩, ?_, same⟩
  rw [convert, round, ← same, g.nearest_units r f.one_pos]
  exact ofRank_val negative ⟨r, there⟩

/-- A float goes through a format that has its own within, and back, without a change. -/
theorem convert_convert (within : f.Within g) (x : Binary f) : (x.convert g).convert f = x := by
  cases x with
  | nan negative => rfl
  | infinite negative => rfl
  | finite negative rank =>
    obtain ⟨wide, converted, same⟩ := exists_convert_eq within negative rank
    rw [converted, convert, round, same, f.nearest_units rank g.one_pos, ofRank_val]

end Binary

namespace Scalar

/-- A single-precision float is read back from its double. -/
theorem ofDouble_convert (x : Single) : ofDouble (x.convert .binary64) = .ok (.float x) := by
  have stays : ((x.convert .binary64).isFinite && x.isInfinite) = false := by
    cases x with
    | nan negative => rfl
    | infinite negative => rfl
    | finite negative rank => exact Bool.and_false _
  rw [ofDouble, x.convert_convert FloatFormat.binary32_within]
  exact if_neg (by rw [stays]; exact Bool.false_ne_true)

theorem ofInt_toInt (n : Int32) : ofInt n.toInt = .ok (.int n) := by
  have low := n.le_toInt
  have high := n.toInt_lt
  rw [ofInt, if_pos (by omega), Int32.ofInt_toInt]

/-- A scalar is what the number it is written out as is read as. -/
theorem toScalar_toData (v : Scalar) : v.toData.toScalar = .ok v := by
  cases v with
  | int n => exact ofInt_toInt n
  | float x => exact ofDouble_convert x

end Scalar

end GrowthGrammar
