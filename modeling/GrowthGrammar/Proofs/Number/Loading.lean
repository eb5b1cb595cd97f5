import GrowthGrammar.Proofs.Number.Reading
import GrowthGrammar.Rule.Loading

/-!
Whole numbers in rule data. A number may be written as such or as text. Both are the same integer
scalar as long as it has 32 bits; past that a number is refused, whereas its text is read as a float,
which most of the time there is.
-/
namespace GrowthGrammar

open Load

/-- Whole numbers of 32 bits, which are scalars as they are. -/
def FitsInteger (n : Int) : Prop := -2147483648 ≤ n ∧ n ≤ 2147483647

instance (n : Int) : Decidable (FitsInteger n) := inferInstanceAs (Decidable (_ ∧ _))

namespace Scalar

variable {n : Int}

theorem ofInt_of_fits (fits : FitsInteger n) : ofInt n = .ok (.int (Int32.ofInt n)) := if_pos fits

theorem ofInt_of_not_fits (outside : ¬ FitsInteger n) : ofInt n = .error (.outsideInteger n) :=
  if_neg outside

/-- A number with too many digits to be read as an integer does not fit anyway. -/
theorem digitCount_le_of_fits (fits : FitsInteger n) :
    digitCount n.natAbs ≤ Numeral.maxDigits := by
  have small : n.natAbs < 10 ^ 10 := by
    obtain ⟨low, high⟩ := fits
    omega
  have digits : digitCount n.natAbs ≤ 10 :=
    (Nat.length_toDigits_le_iff (by decide) (by decide)).mpr small
  exact Nat.le_trans digits (by decide)

/-- The text of a number is an integer if it fits, and a float if not. -/
theorem parse_toString (n : Int) :
    parse (toString n) =
      if FitsInteger n then .ok (.int (Int32.ofInt n)) else ofDouble (.ofInt n) := by
  unfold parse
  dsimp only
  rw [Spelling.trim_plain, Numeral.trim_toString, String.ofList_toList, parseFloat,
    Spelling.legible_plain, Numeral.integer_toString, Numeral.float?_toString]
  by_cases fits : FitsInteger n
  · have few := digitCount_le_of_fits fits
    rw [if_neg (Nat.not_lt.mpr few), if_pos fits]
    dsimp only
    rw [ofInt_of_fits fits]
  · rw [if_neg fits]
    split
    · rename_i value
      split at value
      · cases value
      · cases value
        rw [ofInt_of_not_fits fits]
    · rfl

/-- Loading is refused because of the value. -/
def Refused (w : Load Scalar) : Prop :=
  ∃ report, w = .error (.report report) ∧ report.code = "invalid_value"

theorem refused_refuse (message : String) (details : List (String × Data)) :
    Refused (refuse "invalid_value" message details) := ⟨_, rfl, rfl⟩

theorem load_int_of_fits (fits : FitsInteger n) : load (.int n) = .ok (.int (Int32.ofInt n)) := by
  simp only [load, Data.toScalar, ofInt_of_fits fits]

theorem load_int_refused (outside : ¬ FitsInteger n) : Refused (load (.int n)) := by
  simp only [load, Data.toScalar, ofInt_of_not_fits outside]
  exact refused_refuse _ _

theorem load_text_of_fits (fits : FitsInteger n) :
    load (.text (toString n)) = .ok (.int (Int32.ofInt n)) := by
  simp only [load, parse_toString, if_pos fits]

/-- The text of a number that does not fit is refused where no float is near enough. -/
theorem load_text_of_not_fits (outside : ¬ FitsInteger n) :
    (ofDouble (.ofInt n) = .error .outsideSingle ∧ Refused (load (.text (toString n)))) ∨
      (ofDouble (.ofInt n) ≠ .error .outsideSingle ∧
        load (.text (toString n)) = .ok (.float ((Binary.ofInt n : Double).convert .binary32))) := by
  simp only [load, parse_toString, if_neg outside]
  cases single : ofDouble (.ofInt n) with
  | error fault =>
    obtain rfl := (ofDouble_eq_error_iff.mp single).1
    exact .inl ⟨rfl, refused_refuse _ _⟩
  | ok v =>
    obtain rfl := eq_float_of_ofDouble single
    exact .inr ⟨nofun, rfl⟩

/-- A scalar is loaded from the number that it is written out as. -/
theorem load_toData (v : Scalar) : load v.toData = .ok v := by
  have read := v.toScalar_toData
  cases v with
  | int n => simp only [load, toData] at read ⊢; rw [read]
  | float x => simp only [load, toData] at read ⊢; rw [read]

/-- A number and its text are both the integer that the number is, or they are both refused. -/
def ReadsAlike (n : Int) : Prop :=
  (∃ i : Int32, i.toInt = n ∧ load (.int n) = .ok (.int i) ∧
    load (.text (toString n)) = .ok (.int i)) ∨
  (Refused (load (.int n)) ∧ Refused (load (.text (toString n))))

theorem not_readsAlike_of_float {x : Single} (text : load (.text (toString n)) = .ok (.float x)) :
    ¬ ReadsAlike n := by
  rintro (⟨i, -, -, read⟩ | ⟨-, report, read, -⟩)
  · cases text.symm.trans read
  · cases text.symm.trans read

/-- A number and its text are read alike if it has 32 bits, or else if its double is finite and too
large for single precision. Any other number is refused, but its text is the float that is nearest
to the double nearest to it. -/
theorem readsAlike_iff (n : Int) :
    (ReadsAlike n ↔ FitsInteger n ∨
      2 ^ 128 - 2 ^ 103 - 2 ^ 74 ≤ n.natAbs ∧ n.natAbs < 2 ^ 1024 - 2 ^ 970) ∧
    (ReadsAlike n ∨ Refused (load (.int n)) ∧
      load (.text (toString n)) = .ok (.float ((Binary.ofInt n : Double).convert .binary32))) := by
  by_cases fits : FitsInteger n
  · have stored : (Int32.ofInt n).toInt = n :=
      Int32.toInt_ofInt_of_le fits.1 (Int.lt_add_one_of_le fits.2)
    have alike : ReadsAlike n := .inl ⟨_, stored, load_int_of_fits fits, load_text_of_fits fits⟩
    exact ⟨iff_of_true alike (.inl fits), .inl alike⟩
  · have number := load_int_refused fits
    rw [or_iff_right fits, ← ofDouble_ofInt_eq_error_iff]
    rcases load_text_of_not_fits fits with ⟨past, text⟩ | ⟨near, text⟩
    · have alike : ReadsAlike n := .inr ⟨number, text⟩
      exact ⟨iff_of_true alike past, .inl alike⟩
    · exact ⟨iff_of_false (not_readsAlike_of_float text) near, .inr ⟨number, text⟩⟩

/-- The first number past 32 bits is refused, but not its text. -/
theorem pastInteger_not_alike :
    ¬ ReadsAlike 2147483648 ∧ Refused (load (.int 2147483648)) ∧
      ∃ x, load (.text "2147483648") = .ok (.float x) := by
  have outside : ¬ FitsInteger 2147483648 := by decide
  have near : ofDouble (.ofInt 2147483648) ≠ .error .outsideSingle := by
    rw [Ne, ofDouble_ofInt_eq_error_iff]
    decide
  rcases load_text_of_not_fits outside with ⟨past, -⟩ | ⟨-, text⟩
  · exact absurd past near
  · exact ⟨not_readsAlike_of_float text, load_int_refused outside, _, text⟩

end Scalar

end GrowthGrammar
