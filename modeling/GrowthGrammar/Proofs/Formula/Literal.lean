import GrowthGrammar.Formula.Evaluation
import GrowthGrammar.Proofs.Number.Reading
import Mathlib

/-!
Integers as formulas: the decimal digits of a number are a formula with the number for its value, as
long as there are not too many of them.
-/
namespace GrowthGrammar

namespace Formula

variable {digits : List Char}

namespace NumberLiteral

theorem run?_digits (all : ∀ c ∈ digits, c.isDigit = true) :
    run? Char.isDigit digits = some (digits, []) := by
  induction digits with
  | nil => rfl
  | cons c rest ih =>
    have digit := all c List.mem_cons_self
    have word : c ≠ '_' := Char.ne_of_isDigit digit rfl
    have later := ih fun d member => all d (List.mem_cons_of_mem c member)
    rw [run?, if_pos digit, later]
    · rfl
    · exact fun same _ => word same
    · exact fun _ _ same _ => word same

/-- Digits without a leading zero are an integer. -/
theorem read?_digits {first : Char} (all : ∀ c ∈ first :: digits, c.isDigit = true)
    (leading : first ≠ '0') (few : (first :: digits).length ≤ Numeral.maxDigits) :
    read? (first :: digits) = some (.int (ofDigits 10 (first :: digits)), []) := by
  have run := run?_digits all
  have allowed : zeroAllowed (first :: digits) [] = true := by simp [zeroAllowed, leading]
  have room : ¬ Numeral.maxDigits < (first :: digits).length := Nat.not_lt.mpr few
  have value : value? (first :: digits) false [] [] =
      some (.int (ofDigits 10 (first :: digits))) := by
    rw [value?, if_neg (by decide), decide_eq_false room]
    rfl
  have decimal : decimal? (first :: digits) =
      some (.int (ofDigits 10 (first :: digits)), []) := by
    unfold decimal?
    rw [run]
    show (if !zeroAllowed (first :: digits) [] then none else _) = _
    rw [allowed]
    show (Option.map _ (value? (first :: digits) false [] [])).bind _ = _
    rw [value]
    rfl
  rw [read?]
  · exact decimal
  · rintro _ _ ⟨⟩
    exact absurd rfl leading

end NumberLiteral

namespace Token

theorem unifyLineEnds_digits (all : ∀ c ∈ digits, c.isDigit = true) :
    unifyLineEnds digits = digits := by
  induction digits with
  | nil => rfl
  | cons c rest ih =>
    have digit := all c List.mem_cons_self
    have later := ih fun d member => all d (List.mem_cons_of_mem c member)
    have inside : c ≠ '\r' := Char.ne_of_isDigit digit rfl
    rw [unifyLineEnds, later]
    · exact fun _ same _ => inside same
    · exact fun same => inside same

theorem indent?_digit {first : Char} (digit : first.isDigit = true) (fuel column : Nat) :
    indent? (fuel + 1) column (first :: digits) = some (column, first :: digits) := by
  rw [indent?]
  · rintro _ ⟨⟩
    exact absurd digit (by decide)
  · rintro _ ⟨⟩
    exact absurd digit (by decide)
  · rintro _ ⟨⟩
    exact absurd digit (by decide)
  · rintro _ _ ⟨⟩
    exact absurd digit (by decide)

theorem split?_fresh {first : Char} (digit : first.isDigit = true) (fuel : Nat) :
    split? (fuel + 1) 0 true (first :: digits) = split? fuel 0 false (first :: digits) := by
  rw [split?, indent?_digit digit]
  simp only [Option.bind_eq_bind, Option.bind_some]
  split
  · rename_i same
    cases same
  · rename_i same
    cases same
    exact absurd digit (by decide)
  · rename_i same
    cases same
    exact absurd digit (by decide)
  · exact if_pos trivial

theorem ofText?_digits {first : Char} (all : ∀ c ∈ first :: digits, c.isDigit = true)
    (leading : first ≠ '0') (few : (first :: digits).length ≤ Numeral.maxDigits) :
    ofText? (first :: digits) =
      some [.number (.int (NumberLiteral.ofDigits 10 (first :: digits)))] := by
  have digit := all first List.mem_cons_self
  have differs {d : Char} (other : d.isDigit = false) : first ≠ d := Char.ne_of_isDigit digit other
  have literal := NumberLiteral.read?_digits all leading few
  have fuel : 2 * (first :: digits).length + 2 = 2 * digits.length + 1 + 1 + 1 + 1 := by
    rw [List.length_cons]
    omega
  rw [ofText?, unifyLineEnds_digits all, fuel, split?_fresh digit, split?]
  · have blank : (first == ' ' || first == '\t' || first == '\x0c') = false := by
      simp [differs (d := ' ') rfl, differs (d := '\t') rfl, differs (d := '\x0c') rfl]
    have comment : (first == '#') = false := beq_false_of_ne (differs rfl)
    rw [blank, comment, digit, literal]
    rfl
  · exact fun same => differs rfl same
  · exact fun _ _ same _ => differs rfl same

end Token

/-! ### Numbers as formulas -/

theorem ofDigits_toDigits (n : Nat) : NumberLiteral.ofDigits 10 (Nat.toDigits 10 n) = n := by
  refine Eq.trans ?_ (Nat.ofDigitChars_ten_toDigits (n := n))
  refine List.foldl_ext _ _ 0 fun value c member => ?_
  have digit : c.isDigit = true := Nat.isDigit_of_mem_toDigits (by decide) (by decide) member
  rw [NumberLiteral.digitValue, if_pos digit]

theorem head?_toDigits {n : Nat} (positive : 0 < n) : (Nat.toDigits 10 n).head? ≠ some '0' := by
  induction n using Nat.base_induction 10 (by decide) with
  | single m small =>
    rw [Nat.toDigits_of_lt_base small]
    decide +revert
  | digit m k small more ih =>
    rw [← Nat.toDigits_append_toDigits (by decide) more small,
      List.head?_append_of_ne_nil _ Nat.toDigits_ne_nil]
    exact ih more

/-- The digits of a number are a formula, the number itself. -/
theorem parse_toString {n : Nat} (few : n < 10 ^ Numeral.maxDigits) :
    parse (toString n) = .ok (.int n) := by
  rcases Nat.eq_zero_or_pos n with rfl | positive
  · rfl
  have all : ∀ c ∈ Nat.toDigits 10 n, c.isDigit = true := fun c member =>
    Nat.isDigit_of_mem_toDigits (by decide) (by decide) member
  have short : (Nat.toDigits 10 n).length ≤ Numeral.maxDigits :=
    (Nat.length_toDigits_le_iff (by decide) (by decide)).mpr few
  have leading := head?_toDigits positive
  have value := ofDigits_toDigits n
  have spelled : (toString n).toList = Nat.toDigits 10 n := Nat.toList_repr
  cases digits : Nat.toDigits 10 n with
  | nil => exact absurd digits Nat.toDigits_ne_nil
  | cons first rest =>
    rw [digits] at all short leading value spelled
    have tokens := Token.ofText?_digits all (fun same => leading (congrArg some same)) short
    have clean : (first :: rest).contains '\x00' = false := Bool.eq_false_iff.mpr fun there =>
      absurd (all _ (List.contains_iff_mem.mp there)) (by decide)
    have tree : Tree.ofText? (toString n) = some (.int n) := by
      rw [Tree.ofText?, spelled, tokens, value]
      rfl
    rw [parse, Spelling.trim_plain, spelled, Text.trim_digits all, ← spelled, String.ofList_toList,
      Spelling.encode_plain]
    dsimp only
    rw [spelled, clean, tree]
    rfl

end Formula

end GrowthGrammar
