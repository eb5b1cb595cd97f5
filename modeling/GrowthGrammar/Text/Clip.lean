/-!
Clipped text: the start of a text, as far as it fits into a number of bytes.
-/
namespace GrowthGrammar.Text

/-- The characters that fit into the bytes left, with a replacement character for one that is cut.
-/
def clipChars : Nat → List Char → List Char
  | _, [] => []
  | 0, _ :: _ => []
  | room + 1, c :: cs =>
    if c.utf8Size ≤ room + 1 then c :: clipChars (room + 1 - c.utf8Size) cs else ['\uFFFD']

/-- The start of a text that fits into a number of bytes. -/
def clip (bytes : Nat) (s : String) : String := String.ofList (clipChars bytes s.toList)

end GrowthGrammar.Text
