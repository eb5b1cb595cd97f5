import GrowthGrammar.Proofs.Number.Integers
import GrowthGrammar.Scalar
import Mathlib.Data.List.TakeWhile

/-!
Reading whole numbers. The decimal digits of a number are read as the integer that it is, if they are
not too many, and as the float nearest to it.
-/
namespace GrowthGrammar

/-- A digit is no character of another kind. -/
theorem Char.ne_of_isDigit {c d : Char} (digit : c.isDigit = true) (other : d.isDigit = false) :
    c ≠ d := by
  rintro rfl
  exact Bool.false_ne_true (other.symm.trans digit)

namespace Text

theorem isBlank_of_isDigit {c : Char} (digit : c.isDigit = true) : isBlank c = false := by
  obtain ⟨low, high⟩ := Char.isDigit_iff_toNat.mp digit
  have low : 48 ≤ c.toNat := low
  have high : c.toNat ≤ 57 := high
  simp [isBlank, Ranges.contains, blanks]
  omega

/-- Nothing is trimmed where both ends are no blanks. -/
theorem trim_of_ends {cs : List Char} (first : ∀ c, cs.head? = some c → isBlank c = false)
    (last : ∀ c, cs.getLast? = some c → isBlank c = false) : trim cs = cs := by
  have keeps {cs : List Char} (first : ∀ c, cs.head? = some c → isBlank c = false) :
      cs.dropWhile isBlank = cs := by
    cases cs with
    | nil => rfl
    | cons c rest => exact List.dropWhile_cons_of_neg (ne_true_of_eq_false (first c rfl))
  rw [trim, keeps first, keeps fun c head => last c (by rwa [List.head?_reverse] at head),
    List.reverse_reverse]

theorem trim_digits {digits : List Char} (all : ∀ c ∈ digits, c.isDigit = true) :
    trim digits = digits :=
  trim_of_ends (fun c head => isBlank_of_isDigit (all c (List.mem_of_mem_head? head)))
    fun c last => isBlank_of_isDigit (all c (List.mem_of_mem_getLast? last))

theorem digitValue?_of_isDigit {c : Char} (digit : c.isDigit = true) :
    digitValue? c = some (c.toNat - '0'.toNat) := by
  obtain ⟨low, high⟩ := Char.isDigit_iff_toNat.mp digit
  have low : 48 ≤ c.toNat := low
  have high : c.toNat ≤ 57 := high
  have first : (decide (48 ≤ c.toNat) && decide (c.toNat < 48 + 10)) = true := by simp; omega
  rw [digitValue?, zeros, List.find?_cons_of_pos (by exact first)]
  rfl

theorem toLower_of_isDigit {c : Char} (digit : c.isDigit = true) : c.toLower = c := by
  have high : c.toNat ≤ '9'.toNat := (Char.isDigit_iff_toNat.mp digit).2
  refine dif_neg ?_
  rintro ⟨upper, -⟩
  have upper : 'A'.toNat ≤ c.toNat := upper
  exact absurd (Nat.le_trans upper high) (by decide)

theorem latinDigit_of_isDigit {c : Char} (digit : c.isDigit = true) : latinDigit c = c := by
  obtain ⟨low, high⟩ := Char.isDigit_iff_toNat.mp digit
  have low : 48 ≤ c.toNat := low
  have high : c.toNat ≤ 57 := high
  have written : ∀ n < 10, Nat.digitChar n = Char.ofNat (48 + n) := by decide
  have value : 48 + (c.toNat - 48) = c.toNat := by omega
  have same := written (c.toNat - 48) (by omega)
  rw [value, Char.ofNat_toNat] at same
  rw [latinDigit, digitValue?_of_isDigit digit]
  exact same

end Text

theorem Decimal.nearestRank_whole (f : FloatFormat) (n : Nat) :
    nearestRank f ⟨n, 0⟩ = f.nearest (n * f.one) 1 := by
  show f.nearest (n * 1 * f.one) 1 = _
  rw [Nat.mul_one]

open FloatFormat in
/-- Whole numbers settled by their order of magnitude are indeed too large. -/
theorem Decimal.toBinary_whole (negative : Bool) (n : Nat) :
    toBinary binary64 negative ⟨n, 0⟩ =
      .ofRank negative (binary64.nearest (n * binary64.one) 1) := by
  unfold toBinary
  dsimp only
  split
  · rename_i zero
    subst zero
    have own := binary64.nearest_units 0 Nat.one_pos
    rw [units_of_lt binary64.step_pos] at own
    rw [Nat.zero_mul, own]
    rfl
  · split
    · rename_i many
      have digits : 2047 < (Nat.toDigits 10 n).length := by
        have : (2047 : Int) < (Nat.toDigits 10 n).length + 0 := many
        omega
      have large : 10 ^ 2047 ≤ n := by
        by_contra small
        have few := (Nat.length_toDigits_le_iff (by decide) (by decide)).mpr (Nat.not_le.mp small)
        omega
      have powers {a b : Nat} (le : a ≤ b) : 2 ^ a ≤ 10 ^ b :=
        Nat.le_trans (Nat.pow_le_pow_left (by decide) a) (Nat.pow_le_pow_right (by decide) le)
      have past : 2 ^ 1024 - 2 ^ 970 ≤ n :=
        Nat.le_trans (Nat.sub_le_of_le_add (Nat.le_add_right_of_le (powers (by decide)))) large
      have infinite := (Binary.isInfinite_ofInt n).mpr past
      rw [Binary.ofInt_eq_ofRank, Binary.isInfinite_ofRank, Int.natAbs_natCast] at infinite
      rw [Binary.ofRank, dif_neg (Nat.not_lt.mpr infinite)]
    · split
      · rename_i small
        have none : ¬ ((digitCount n : Int) + 0 < -(binary64.scale : Int)) := by omega
        exact absurd small none
      · rw [nearestRank_whole]

namespace Numeral

open Text

variable {digits : List Char}

/-- A number with the sign in front of its digits. -/
def withSign (negative : Bool) (digits : List Char) : List Char :=
  if negative then '-' :: digits else digits

theorem toList_toString (n : Int) :
    (toString n).toList = withSign (n < 0) (Nat.toDigits 10 n.natAbs) := by
  cases n with
  | ofNat m => exact Nat.toList_repr
  | negSucc m =>
    have below := Int.negSucc_lt_zero m
    show ("-" ++ (m + 1).repr).toList = _
    rw [String.toList_append, Nat.toList_repr, withSign, decide_eq_true below]
    rfl

theorem ofDigits_latinDigits (n : Nat) : ofDigits (latinDigits (Nat.toDigits 10 n)) = n := by
  rw [ofDigits, latinDigits, List.foldl_map]
  exact Nat.ofDigitChars_ten_toDigits

theorem dropSeparators?_of_absent {cs : List Char} (absent : '_' ∉ cs) :
    dropSeparators? cs = some cs := by
  induction cs with
  | nil => rfl
  | cons c rest ih =>
    obtain ⟨other, later⟩ := not_or.mp (mt List.mem_cons.mpr absent)
    rw [dropSeparators?, ih later, if_neg]
    · rfl
    · simpa using Ne.symm other
    · rintro _ _ rfl
      exact absurd (List.mem_cons_self) later

theorem skipGaps_of_unblank {cs : List Char} (none : ∀ c ∈ cs, isBlank c = false) :
    skipGaps cs = cs := by
  cases cs with
  | nil => rfl
  | cons c rest =>
    refine List.dropWhile_cons_of_neg ?_
    simp [isGap, none c List.mem_cons_self]

theorem trimGaps_of_unblank {cs : List Char} (none : ∀ c ∈ cs, isBlank c = false) :
    trimGaps cs = cs := by
  have reversed : ∀ c ∈ cs.reverse, isBlank c = false := fun c member =>
    none c (List.mem_reverse.mp member)
  rw [trimGaps, skipGaps_of_unblank none, skipGaps_of_unblank reversed, List.reverse_reverse]

section Digits

variable (all : ∀ c ∈ digits, c.isDigit = true)

include all

theorem not_isBlank_withSign (negative : Bool) : ∀ c ∈ withSign negative digits,
    isBlank c = false := by
  intro c member
  cases negative with
  | false => exact isBlank_of_isDigit (all c member)
  | true =>
    rcases List.mem_cons.mp member with rfl | member
    · decide
    · exact isBlank_of_isDigit (all c member)

theorem trim_withSign (negative : Bool) :
    trim (withSign negative digits) = withSign negative digits :=
  trim_of_ends
    (fun c head => not_isBlank_withSign all negative c (List.mem_of_mem_head? head))
    fun c last => not_isBlank_withSign all negative c (List.mem_of_mem_getLast? last)

theorem splitSign_withSign (negative : Bool) :
    splitSign (withSign negative digits) = (negative, digits) := by
  cases negative with
  | true => rfl
  | false =>
    cases digits with
    | nil => rfl
    | cons c rest =>
      have digit := all c List.mem_cons_self
      have minus : c ≠ '-' := Char.ne_of_isDigit digit rfl
      have plus : c ≠ '+' := Char.ne_of_isDigit digit rfl
      show splitSign (c :: rest) = _
      unfold splitSign
      split
      · rename_i same
        exact absurd (List.cons.inj same).1 minus
      · rename_i same
        exact absurd (List.cons.inj same).1 plus
      · rfl

theorem groupedDigits?_digits (present : digits ≠ []) :
    groupedDigits? digits = some (latinDigits digits) := by
  induction digits with
  | nil => exact absurd rfl present
  | cons c rest ih =>
    have value := digitValue?_of_isDigit (all c List.mem_cons_self)
    cases rest with
    | nil =>
      rw [groupedDigits?, value]
      rfl
    | cons d rest =>
      have later := ih (fun e member => all e (List.mem_cons_of_mem c member)) (by simp)
      have digit := all d (List.mem_cons_of_mem c List.mem_cons_self)
      rw [groupedDigits?, value, later]
      · rfl
      · exact nofun
      · rintro _ ⟨⟩
        exact absurd digit (by decide)

/-- Digits are read as an integer if they are not too many. -/
theorem integer_withSign {s : String} {negative : Bool}
    (spelled : s.toList = withSign negative digits) (present : digits ≠ []) :
    integer s = if maxDigits < digits.length then .tooLong digits.length else
      .value (if negative then -(ofDigits (latinDigits digits) : Int)
        else ofDigits (latinDigits digits)) := by
  have counts : ∀ c ∈ digits, isDigitOrSeparator c = true := by
    intro c member
    simp [isDigitOrSeparator, digitValue?_of_isDigit (all c member)]
  have length : (latinDigits digits).length = digits.length := List.length_map _
  unfold integer
  rw [spelled, skipGaps_of_unblank (not_isBlank_withSign all negative), splitSign_withSign all]
  dsimp only
  rw [List.takeWhile_eq_self_iff.mpr counts, List.dropWhile_eq_nil_iff.mpr counts,
    groupedDigits?_digits all present]
  dsimp only
  rw [length]
  rfl

/-! ### Floats -/

theorem decimal?_digits (present : digits ≠ []) :
    decimal? digits = some ⟨ofDigits (latinDigits digits), 0⟩ := by
  unfold decimal?
  dsimp only
  rw [List.takeWhile_eq_self_iff.mpr all, List.dropWhile_eq_nil_iff.mpr all]
  dsimp only
  rw [List.append_nil, if_neg (by simpa using present)]
  rfl

/-- Digits are no name of a float. -/
theorem unsignedFloat?_digits (present : digits ≠ []) (negative : Bool) :
    unsignedFloat? negative digits =
      some (Decimal.toBinary .binary64 negative ⟨ofDigits (latinDigits digits), 0⟩) := by
  have lower : digits.map Char.toLower = digits :=
    (List.map_congr_left fun c member => toLower_of_isDigit (all c member)).trans (List.map_id _)
  have unnamed {name : String} (letter : name.toList.head?.any Char.isDigit = false) :
      (String.ofList digits == name) = false := by
    refine beq_false_of_ne fun same => ?_
    have spelled : name.toList = digits := by rw [← same, String.toList_ofList]
    obtain ⟨first, rest, rfl⟩ := List.exists_cons_of_ne_nil present
    rw [spelled] at letter
    have digit := all first List.mem_cons_self
    exact Bool.false_ne_true (letter.symm.trans digit)
  unfold unsignedFloat?
  dsimp only
  rw [lower, unnamed rfl, unnamed rfl, unnamed rfl]
  rw [decimal?_digits all present]
  rfl

theorem map_latinDigit_withSign (negative : Bool) :
    (withSign negative digits).map latinDigit = withSign negative digits := by
  have same : digits.map latinDigit = digits :=
    (List.map_congr_left fun c member => latinDigit_of_isDigit (all c member)).trans (List.map_id _)
  cases negative with
  | false => exact same
  | true =>
    show latinDigit '-' :: digits.map latinDigit = '-' :: digits
    rw [same]
    congr 1

theorem not_mem_withSign (negative : Bool) : '_' ∉ withSign negative digits := by
  intro member
  have none : '_' ∉ digits := fun member => absurd (all _ member) (by decide)
  cases negative with
  | false => exact none member
  | true =>
    rcases List.mem_cons.mp member with minus | member
    · exact absurd minus (by decide)
    · exact none member

/-- Digits are read as the float nearest to them. -/
theorem float?_withSign {s : String} {negative : Bool}
    (spelled : s.toList = withSign negative digits) (present : digits ≠ []) :
    float? s = some (Decimal.toBinary .binary64 negative ⟨ofDigits (latinDigits digits), 0⟩) := by
  unfold float?
  rw [spelled, trimGaps_of_unblank (not_isBlank_withSign all negative),
    map_latinDigit_withSign all, dropSeparators?_of_absent (not_mem_withSign all negative)]
  have split := splitSign_withSign all negative
  show unsignedFloat? (splitSign (withSign negative digits)).1
    (splitSign (withSign negative digits)).2 = _
  rw [split]
  exact unsignedFloat?_digits all present negative

end Digits

/-! ### The text of a number -/

theorem isDigit_of_mem_toDigits (n : Nat) : ∀ c ∈ Nat.toDigits 10 n, c.isDigit = true :=
  fun _ member => Nat.isDigit_of_mem_toDigits (by decide) (by decide) member

theorem trim_toString (n : Int) : trim (toString n).toList = (toString n).toList := by
  rw [toList_toString]
  exact trim_withSign (isDigit_of_mem_toDigits _) _

theorem integer_toString (n : Int) :
    integer (toString n) = if maxDigits < digitCount n.natAbs then .tooLong (digitCount n.natAbs)
      else .value n := by
  rw [integer_withSign (isDigit_of_mem_toDigits _) (toList_toString n) Nat.toDigits_ne_nil,
    ofDigits_latinDigits]
  have value : (if decide (n < 0) = true then -(n.natAbs : Int) else n.natAbs) = n := by
    split
    · rename_i negative
      have := of_decide_eq_true negative
      omega
    · rename_i positive
      have := of_decide_eq_false (Bool.eq_false_of_not_eq_true positive)
      omega
  rw [value]
  rfl

theorem float?_toString (n : Int) : float? (toString n) = some (.ofInt n) := by
  rw [float?_withSign (isDigit_of_mem_toDigits _) (toList_toString n) Nat.toDigits_ne_nil,
    ofDigits_latinDigits, Decimal.toBinary_whole, Binary.ofInt_eq_ofRank]

end Numeral

end GrowthGrammar
