import GrowthGrammar.Text.Quoted

/-!
Code points. Most of them are characters. Surrogates are none, but a text that is put together from
code points may hold some.
-/
namespace GrowthGrammar

inductive CodePoint where
  | char (c : Char)
  | surrogate (n : Nat) (range : 0xD800 ≤ n ∧ n < 0xE000)
  deriving DecidableEq

namespace CodePoint

/-- The code point of a number, unless it is too large for one. -/
def ofNat? (n : Nat) : Option CodePoint :=
  if range : 0xD800 ≤ n ∧ n < 0xE000 then some (.surrogate n range)
  else if n.isValidChar then some (.char (Char.ofNat n)) else none

def toNat : CodePoint → Nat
  | .char c => c.toNat
  | .surrogate n _ => n

def char? : CodePoint → Option Char
  | .char c => some c
  | .surrogate .. => none

def isSurrogate : CodePoint → Bool
  | .char _ => false
  | .surrogate .. => true

def isChar (test : Char → Bool) : CodePoint → Bool
  | .char c => test c
  | .surrogate .. => false

def ofString (s : String) : List CodePoint := s.toList.map .char

def escape (quote : Char) : CodePoint → List Char
  | .char c => Text.escapeChar quote c
  | .surrogate n _ => Text.escapeCode n

/-- Code points between quotes, as `Text.quoted` has it; no surrogate is printable. -/
def quoted (points : List CodePoint) : String :=
  let quote := Text.quoteFor (points.filterMap char?)
  String.ofList (quote :: points.flatMap (escape quote) ++ [quote])

theorem toNat_inj {p q : CodePoint} (same : p.toNat = q.toNat) : p = q := by
  have apart (c : Char) {n : Nat} (range : 0xD800 ≤ n ∧ n < 0xE000) : c.toNat ≠ n := by
    rintro rfl
    obtain small | ⟨large, -⟩ := c.valid
    · exact absurd range.1 (Nat.not_le.mpr small)
    · exact absurd range.2 (Nat.not_lt.mpr large)
  cases p with
  | char c =>
    cases q with
    | char d => rw [Char.toNat_inj.mp same]
    | surrogate n range => exact absurd same (apart c range)
  | surrogate n range =>
    cases q with
    | char d => exact absurd same.symm (apart d range)
    | surrogate m => cases same; rfl

theorem filterMap_char?_ofString (s : String) : (ofString s).filterMap char? = s.toList := by
  rw [ofString, List.filterMap_map]
  exact List.filterMap_some

theorem any_isSurrogate_ofString (s : String) : (ofString s).any isSurrogate = false :=
  List.any_eq_false.mpr fun point member => by
    obtain ⟨c, -, rfl⟩ := List.mem_map.mp member
    exact Bool.false_ne_true

theorem map_char_filterMap {points : List CodePoint} (whole : ¬ points.any isSurrogate = true) :
    (points.filterMap char?).map .char = points := by
  induction points with
  | nil => rfl
  | cons point rest ih =>
    rw [List.any_cons, Bool.or_eq_true, not_or] at whole
    cases point with
    | char c => exact congrArg (.char c :: ·) (ih whole.2)
    | surrogate n range => exact absurd rfl whole.1

/-- A text is quoted as its code points are. -/
theorem quoted_ofString (s : String) : quoted (ofString s) = Text.quoted s := by
  rw [quoted, filterMap_char?_ofString, Text.quoted, ofString, List.flatMap_map]
  rfl

end CodePoint

end GrowthGrammar
