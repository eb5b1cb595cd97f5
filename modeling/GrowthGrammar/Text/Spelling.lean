import GrowthGrammar.Text.Blank
import GrowthGrammar.Text.CodePoint

/-!
Spellings: texts as data hold them. Most are strings. A text that was decoded from escapes may hold
lone surrogates, which no string does; such a text is kept by its code points. It has no encoding.
-/
namespace GrowthGrammar

inductive Spelling where
  | plain (s : String)
  | broken (points : List CodePoint) (lone : points.any CodePoint.isSurrogate = true)
  deriving DecidableEq

namespace Spelling

instance : Coe String Spelling := ⟨plain⟩

instance : Inhabited Spelling := ⟨plain ""⟩

def points : Spelling → List CodePoint
  | .plain s => CodePoint.ofString s
  | .broken points _ => points

def ofPoints (points : List CodePoint) : Spelling :=
  if lone : points.any CodePoint.isSurrogate = true then .broken points lone
  else .plain (String.ofList (points.filterMap CodePoint.char?))

theorem points_inj {s t : Spelling} (same : s.points = t.points) : s = t := by
  cases s with
  | plain s =>
    cases t with
    | plain t =>
      have chars := congrArg (List.filterMap CodePoint.char?) same
      simp only [points, CodePoint.filterMap_char?_ofString] at chars
      rw [String.toList_inj.mp chars]
    | broken points lone =>
      obtain rfl : CodePoint.ofString s = points := same
      exact absurd lone (by simp [CodePoint.any_isSurrogate_ofString])
  | broken points lone =>
    cases t with
    | plain t =>
      obtain rfl : points = CodePoint.ofString t := same
      exact absurd lone (by simp [CodePoint.any_isSurrogate_ofString])
    | broken points' lone' =>
      obtain rfl : points = points' := same
      rfl

@[simp]
theorem points_ofPoints (points : List CodePoint) : (ofPoints points).points = points := by
  rw [ofPoints]
  split
  · rfl
  · rename_i whole
    show CodePoint.ofString _ = _
    rw [CodePoint.ofString, String.toList_ofList]
    exact CodePoint.map_char_filterMap whole

def isEmpty : Spelling → Bool
  | .plain s => s.isEmpty
  | .broken .. => false

/-- The text between quotes. Surrogates are written by code point. -/
def quoted : Spelling → String
  | .plain s => Text.quoted s
  | .broken points _ => CodePoint.quoted points

theorem quoted_eq (s : Spelling) : s.quoted = CodePoint.quoted s.points := by
  cases s with
  | plain s => exact (CodePoint.quoted_ofString s).symm
  | broken => rfl

/-- The text as numbers are read from it. A surrogate is no part of any, as little as a replacement
character. -/
def legible : Spelling → String
  | .plain s => s
  | .broken points _ => String.ofList (points.map fun point => point.char?.getD '\uFFFD')

def trim : Spelling → Spelling
  | .plain s => .plain (String.ofList (Text.trim s.toList))
  | .broken points _ =>
    let isBlank := CodePoint.isChar Text.isBlank
    ofPoints ((points.dropWhile isBlank).reverse.dropWhile isBlank).reverse

@[simp]
theorem legible_plain (s : String) : (plain s).legible = s := rfl

@[simp]
theorem trim_plain (s : String) : (plain s).trim = plain (String.ofList (Text.trim s.toList)) := rfl

/-! ### Order -/

def codes (s : Spelling) : List Nat := s.points.map CodePoint.toNat

/-- Texts are ordered by their code points. -/
instance : LT Spelling := ⟨fun s t => s.codes < t.codes⟩

instance (s t : Spelling) : Decidable (s < t) := inferInstanceAs (Decidable (s.codes < t.codes))

theorem codes_inj {s t : Spelling} (same : s.codes = t.codes) : s = t :=
  points_inj ((List.map_inj_right fun _ _ => CodePoint.toNat_inj).mp same)

/-! ### Putting together -/

def append : Spelling → Spelling → Spelling
  | .plain s, .plain t => .plain (s ++ t)
  | s, t => ofPoints (s.points ++ t.points)

instance : Append Spelling := ⟨append⟩

/-- The texts, each after the first with a separator in front of it. -/
def intercalate (separator : String) : List Spelling → Spelling
  | [] => ""
  | s :: rest => rest.foldl (fun line t => line ++ plain separator ++ t) s

/-! ### Encoding -/

/-- Why a text has no encoding: surrogates, from a place in it on. -/
structure EncodingFault where
  code : Nat
  place : Nat
  count : Nat

def EncodingFault.message (fault : EncodingFault) : String :=
  let last := fault.place + fault.count - 1
  let shown :=
    if fault.count = 1 then
      s!"character '{String.ofList (Text.escapeCode fault.code)}' in position {fault.place}"
    else s!"characters in position {fault.place}-{last}"
  s!"'utf-8' codec can't encode {shown}: surrogates not allowed"

/-- The first surrogates of a text. -/
def EncodingFault.ofPoints (points : List CodePoint) : EncodingFault :=
  let place := (points.takeWhile fun point => !point.isSurrogate).length
  let surrogates := (points.drop place).takeWhile CodePoint.isSurrogate
  ⟨(surrogates.head?.map CodePoint.toNat).getD 0, place, surrogates.length⟩

/-- The string that is encoded. -/
def encode : Spelling → Except EncodingFault String
  | .plain s => .ok s
  | .broken points _ => .error (.ofPoints points)

@[simp]
theorem encode_plain (s : String) : (plain s).encode = .ok s := rfl

end Spelling

end GrowthGrammar
