import GrowthGrammar.Text.Ranges

/-!
White space: the characters that are trimmed from the ends of numbers and formulas.
-/
namespace GrowthGrammar.Text

/-- The white space characters of the character database, with the four information separators. -/
def blanks : Ranges :=
  [(0x9, 0xd), (0x1c, 0x20), (0x85, 0x85), (0xa0, 0xa0), (0x1680, 0x1680), (0x2000, 0x200a),
   (0x2028, 0x2029), (0x202f, 0x202f), (0x205f, 0x205f), (0x3000, 0x3000)]

def isBlank (c : Char) : Bool := blanks.contains c

def trim (cs : List Char) : List Char :=
  ((cs.dropWhile isBlank).reverse.dropWhile isBlank).reverse

end GrowthGrammar.Text
