import GrowthGrammar.Text.NameTape
import GrowthGrammar.Text.Ranges

/-!
Characters given by name. Most names stand on the tapes and may be written in capital or small
letters; those of unified ideographs and of Hangul syllables follow from their parts and have to be
written in capitals.
-/
namespace GrowthGrammar.Text

/-- Whether a tape holds a name. The name sought and the one so far are read from their ends, and
`complete` says that the name so far was just added to. -/
def tapeHolds (name : List Char) (complete : Bool) (last : List Char) : List Char → Bool
  | [] => last == name
  | c :: cs =>
    if c.isLower then
      (complete && last == name) || tapeHolds name false (last.drop (c.toNat - 'a'.toNat)) cs
    else tapeHolds name true (c :: last) cs

def isOnTape (name : List Char) : Bool :=
  match name with
  | [] => false
  | c :: _ =>
    match nameTapes.lookup c with
    | some lines => tapeHolds name.reverse false [] (String.join lines).toList
    | none => false

/-! ### Ideographs -/

def unifiedIdeographs : Ranges :=
  [(0x3400, 0x4dbf), (0x4e00, 0x9fff), (0x20000, 0x2a6df), (0x2a700, 0x2b738), (0x2b740, 0x2b81d),
   (0x2b820, 0x2cea1), (0x2ceb0, 0x2ebe0), (0x30000, 0x3134a)]

def isHexDigit (c : Char) : Bool := c.isDigit || ('A' ≤ c && c ≤ 'F')

def hexDigitValue (c : Char) : Nat :=
  if c.isDigit then c.toNat - '0'.toNat else c.toNat - 'A'.toNat + 10

/-- Whether this is the code point of an ideograph, in four or five digits. -/
def isIdeographCode (digits : List Char) : Bool :=
  let n := digits.foldl (fun n c => 16 * n + hexDigitValue c) 0
  4 ≤ digits.length && digits.length ≤ 5 && digits.all isHexDigit &&
    unifiedIdeographs.any fun (low, high) => low ≤ n && n ≤ high

/-! ### Syllables -/

def syllableLeads : List String :=
  ["G", "GG", "N", "D", "DD", "R", "M", "B", "BB", "S", "SS", "", "J", "JJ", "C", "K", "T", "P",
   "H"]

def syllableVowels : List String :=
  ["A", "AE", "YA", "YAE", "EO", "E", "YEO", "YE", "O", "WA", "WAE", "OE", "YO", "U", "WEO", "WE",
   "WI", "YU", "EU", "YI", "I"]

def syllableTrails : List String :=
  ["", "G", "GG", "GS", "N", "NJ", "NH", "D", "L", "LG", "LM", "LB", "LS", "LT", "LP", "LH", "M",
   "B", "BS", "S", "SS", "NG", "J", "C", "K", "T", "P", "H"]

def isSpelledSyllable (sounds : List Char) : Bool :=
  syllableLeads.any fun lead => syllableVowels.any fun vowel => syllableTrails.any fun trail =>
    (lead ++ vowel ++ trail).toList == sounds

/-! ### Names -/

def ideographHead : List Char := "CJK UNIFIED IDEOGRAPH-".toList

def syllableHead : List Char := "HANGUL SYLLABLE ".toList

def isCharacterName (name : List Char) : Bool :=
  if syllableHead.isPrefixOf name then isSpelledSyllable (name.drop syllableHead.length)
  else if ideographHead.isPrefixOf name then isIdeographCode (name.drop ideographHead.length)
  else isOnTape (name.map Char.toUpper)

end GrowthGrammar.Text
