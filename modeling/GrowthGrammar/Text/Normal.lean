import GrowthGrammar.Text.CombiningClass
import GrowthGrammar.Text.Compatibility

/-!
Normal form of names: characters that stand for others are replaced by them, marks are put into
their order, and letters are joined with their marks. Names that look alike are the same name by
that.
-/
namespace GrowthGrammar.Text

/-- Takes a character apart. Composed characters are nested a few deep. -/
def decompose : Nat → Nat → List Nat
  | 0, n => [n]
  | depth + 1, n =>
    if isSyllable n then syllableParts n
    else match parts? n with
      | some (a, b) => decompose depth a ++ [b]
      | none => standsFor n

/-- No composed character is nested deeper than this. -/
def decomposeDepth : Nat := 4

/-! ### Order -/

/-- Inserts a mark after those of its class and of lower ones. -/
def insertMark (mark : Nat) : List Nat → List Nat
  | [] => [mark]
  | m :: marks =>
    if combiningClass mark < combiningClass m then mark :: m :: marks
    else m :: insertMark mark marks

/-- Puts the marks between characters of class zero into their order. -/
def orderMarks (marks : List Nat) : List Nat → List Nat
  | [] => marks
  | n :: rest =>
    if combiningClass n = 0 then marks ++ n :: orderMarks [] rest
    else orderMarks (insertMark n marks) rest

/-! ### Composition -/

/-- Joins the characters after a starter with it, as long as no mark that stays is in the way. The
marks that stay are given last first. -/
def composeAfter (starter : Nat) (staying : List Nat) : List Nat → List Nat
  | [] => starter :: staying.reverse
  | n :: rest =>
    let blocked := match staying with
      | [] => false
      | last :: _ => combiningClass n ≤ combiningClass last
    match if blocked then none else compose? starter n with
    | some composed => composeAfter composed staying rest
    | none =>
      if combiningClass n = 0 then starter :: staying.reverse ++ composeAfter n [] rest
      else composeAfter starter (n :: staying) rest

/-- Joins characters with the starters before them. Marks without a starter stay as they are. -/
def composeAll : List Nat → List Nat
  | [] => []
  | n :: rest => if combiningClass n = 0 then composeAfter n [] rest else n :: composeAll rest

def normalName (name : String) : String :=
  if name.toList.all (·.toNat < 128) then name
  else
    let apart := name.toList.flatMap fun c => decompose decomposeDepth c.toNat
    String.ofList ((composeAll (orderMarks [] apart)).map Char.ofNat)

end GrowthGrammar.Text
