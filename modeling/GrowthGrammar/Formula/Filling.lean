import GrowthGrammar.Formula.Operand
import GrowthGrammar.Number.Places

/-!
Texts with placeholders. A percent sign in a text starts a placeholder: flags, a width and a
precision, and a letter that says how an argument is written in its place. A placeholder may name
the entry of a mapping that it takes; without a name it takes the argument itself, once. Doubled
percent signs stand for one.
-/
namespace GrowthGrammar

/-- Why the placeholders of a text cannot be filled. -/
inductive FillingFault where
  | tooFew
  | tooMany
  | noMapping
  | listKey
  | missingKey (key : List CodePoint)
  | openKey
  | openEnd
  | noCount
  | widthOutside
  | precisionOutside
  | widthTooBig
  | precisionTooBig
  | precisionTooLarge
  | unknownLetter (letter : CodePoint) (index : Nat)
  | noReal (letter : Char) (typeName : String)
  | noInteger (letter : Char) (typeName : String)
  | noFloat (typeName : String)
  | noCharacter
  | outsideCharacters
  | number (fault : NumberFault)
  | outOfMemory

/-- A letter of the basic alphabet as it is shown in messages; others are not shown. -/
def FillingFault.shown (letter : CodePoint) : Char :=
  (letter.char?.filter fun c => 31 ≤ c.toNat && c.toNat < 127).getD '?'

def FillingFault.message : FillingFault → String
  | .tooFew => "not enough arguments for format string"
  | .tooMany => "not all arguments converted during string formatting"
  | .noMapping => "format requires a mapping"
  | .listKey => "list indices must be integers or slices, not str"
  | .missingKey key => CodePoint.quoted key
  | .openKey => "incomplete format key"
  | .openEnd => "incomplete format"
  | .noCount => "* wants int"
  | .widthOutside => "Python int too large to convert to C ssize_t"
  | .precisionOutside => "Python int too large to convert to C int"
  | .widthTooBig => "width too big"
  | .precisionTooBig => "precision too big"
  | .precisionTooLarge => "precision too large"
  | .unknownLetter letter index =>
    s!"unsupported format character '{shown letter}' " ++
      s!"(0x{String.ofList (Text.hex 1 letter.toNat)}) at index {index}"
  | .noReal letter typeName => s!"%{letter} format: a real number is required, not {typeName}"
  | .noInteger letter typeName => s!"%{letter} format: an integer is required, not {typeName}"
  | .noFloat typeName => s!"must be real number, not {typeName}"
  | .noCharacter => "%c requires int or char"
  | .outsideCharacters => "%c arg not in range(0x110000)"
  | .number fault => fault.message
  | .outOfMemory => ""

/-! ### The written operand -/

namespace Operand

/-- What is written for an operand that is no text, and for a text between quotes. -/
def literal (a : Operand) : Except FillingFault String :=
  match a.text?, a.list?, a with
  | some points, _, _ => .ok (CodePoint.quoted points.toList)
  | _, some items, _ => (Data.list items.toList).literal.mapError .number
  | _, _, .data d => d.literal.mapError .number
  | _, _, .power => .ok "<built-in function pow>"
  | _, _, _ => .ok "<function rand>"

def toText (a : Operand) : Except FillingFault (Rope CodePoint) :=
  match a.text? with
  | some points => .ok points
  | none => a.literal.map fun s => .piece (CodePoint.ofString s)

def whole? (a : Operand) : Option (Except NumberFault Int) :=
  match a.number? with
  | some (.int n) => some (.ok n)
  | some (.float x) => some (Data.wholePart x)
  | none => none

def nearestFloat (a : Operand) : Except FillingFault Double :=
  match a.number? with
  | some (.int n) => (Data.nearestDouble n).mapError .number
  | some (.float x) => .ok x
  | none => .error (.noFloat a.typeName)

end Operand

/-! ### Placeholders -/

structure Placeholder where
  left : Bool := false
  signed : Bool := false
  spaced : Bool := false
  alternate : Bool := false
  zeros : Bool := false
  width : Nat := 0
  precision? : Option Nat := none

namespace Placeholder

def isFlag (p : CodePoint) : Bool := p.isChar ['-', '+', ' ', '#', '0'].contains

def ofFlags (flags : List CodePoint) : Placeholder :=
  let given (c : Char) : Bool := flags.contains (.char c)
  { left := given '-', signed := given '+', spaced := given ' ', alternate := given '#',
    zeros := given '0' }

/-- Fills a text up to the width. Zeros stand between the lead, which is a sign or the mark of a
base, and the body. -/
def padded (p : Placeholder) (zeros : Bool) (lead : List Char) (body : Rope CodePoint) :
    Rope CodePoint :=
  let room := p.width - (lead.length + body.length)
  let lead : Rope CodePoint := .piece (lead.map .char)
  let filled (c : Char) : Rope CodePoint := .repeated (.piece [.char c]) room
  if p.left then lead ++ body ++ filled ' '
  else if zeros then lead ++ filled '0' ++ body
  else filled ' ' ++ lead ++ body

/-- The sign of a number: minus, or what the flags ask for. -/
def sign (p : Placeholder) (negative : Bool) : List Char :=
  if negative then ['-'] else if p.signed then ['+'] else if p.spaced then [' '] else []

def ofText (p : Placeholder) (points : Rope CodePoint) : Rope CodePoint :=
  match p.precision? with
  | some n => p.padded false [] (points.take n)
  | none => p.padded false [] points

/-- The base of the letters for integers, and the mark before the digits in that base. -/
def base (letter : Char) : Nat × List Char :=
  if letter == 'o' then (8, ['0', 'o'])
  else if letter == 'x' then (16, ['0', 'x'])
  else if letter == 'X' then (16, ['0', 'X'])
  else (10, [])

def maxIntegerPrecision : Nat := 2147483644

/-- An integer, with at least as many digits as the precision. -/
def ofInteger (p : Placeholder) (letter : Char) (n : Int) :
    Except FillingFault (Rope CodePoint) :=
  let (base, mark) := base letter
  let precision := p.precision?.getD 0
  if maxIntegerPrecision < precision then .error .precisionTooLarge
  else if base = 10 && Numeral.isTooLong n then .error (.number .unwritable)
  else
    let digits := Nat.toDigits base n.natAbs
    let digits := if letter == 'X' then digits.map Char.toUpper else digits
    let lead := p.sign (n < 0) ++ (if p.alternate then mark else [])
    let zeros : Rope Char := .repeated (.piece ['0']) (precision - digits.length)
    .ok (p.padded p.zeros lead ((zeros ++ .piece digits).map .char))

/-- A float with the places or digits of the precision, six unless another is given. Upper-case
letters give upper-case text. -/
def ofFloat (p : Placeholder) (style : DigitStyle) (letter : Char) (x : Double) :
    Rope CodePoint :=
  let written := style.write p.alternate (p.precision?.getD 6) x
  let shown (c : Char) : CodePoint := .char (if letter.isUpper then c.toUpper else c)
  p.padded p.zeros (p.sign (!x.isNaN && x.isNegative)) (written.map shown)

/-- A character, given as such or by its code point. -/
def ofCharacter (p : Placeholder) (a : Operand) : Except FillingFault (Rope CodePoint) :=
  match a.text?, a.number? with
  | some s, _ => if s.length = 1 then .ok (p.padded false [] s) else .error .noCharacter
  | none, some (.int n) =>
    match if n < 0 then none else CodePoint.ofNat? n.toNat with
    | some point => .ok (p.padded false [] (.piece [point]))
    | none => .error .outsideCharacters
  | _, _ => .error .noCharacter

def floatStyle? (letter : Char) : Option DigitStyle :=
  [('e', DigitStyle.scientific), ('f', .fixed), ('g', .general)].lookup letter.toLower

/-- The text with characters outside the first 128 by their code points. -/
def escapeWide (s : String) : String :=
  String.ofList (s.toList.flatMap fun c => if c.toNat < 128 then [c] else Text.escapeCode c.toNat)

/-- The argument as the letter of the placeholder asks for, unless the letter means nothing. -/
def write? (p : Placeholder) (letter : Char) (a : Operand) :
    Option (Except FillingFault (Rope CodePoint)) :=
  if letter == 's' then some (a.toText.map p.ofText)
  else if letter == 'r' || letter == 'a' then
    some (a.literal.map fun s =>
      p.ofText (.piece (CodePoint.ofString (if letter == 'a' then escapeWide s else s))))
  else if letter == 'c' then some (p.ofCharacter a)
  else if letter == 'd' || letter == 'i' || letter == 'u' then
    some <| match a.whole? with
      | some (.ok n) => p.ofInteger letter n
      | some (.error fault) => .error (.number fault)
      | none => .error (.noReal letter a.typeName)
  else if letter == 'o' || letter == 'x' || letter == 'X' then
    some <| match a.number? with
      | some (.int n) => p.ofInteger letter n
      | _ => .error (.noInteger letter a.typeName)
  else (floatStyle? letter).map fun style => a.nearestFloat.map (p.ofFloat style letter)

end Placeholder

/-! ### Filling -/

/-- What placeholders are filled with: an argument that was not taken yet, and what keys are looked
up in. -/
structure Supply where
  next? : Option Operand
  keyed? : Option Operand

namespace Supply

def ofOperand (a : Operand) : Supply :=
  match a with
  | .data (.map _) => ⟨some a, some a⟩
  | _ => ⟨some a, if a.list?.isSome then some a else none⟩

/-- The entry of a key becomes the argument. -/
def select (supply : Supply) (key : List CodePoint) : Except FillingFault Supply :=
  match supply.keyed? with
  | some (.data (.map entries)) =>
    match Data.entry? entries (.ofPoints key) with
    | some d => .ok { supply with next? := some (.data d) }
    | none => .error (.missingKey key)
  | some _ => .error .listKey
  | none => .error .noMapping

end Supply

/-- Filling takes arguments from a supply and may fail. -/
abbrev Filling (α : Type) := StateT Supply (Except FillingFault) α

namespace Filling

def take : Filling Operand := do
  match (← get).next? with
  | some a => do
    modify ({ · with next? := none })
    return a
  | none => throw .tooFew

/-- The key after an opening parenthesis, up to the one that closes it, and what follows. Keys are
no longer than the text. -/
def key? : Nat → Nat → Rope CodePoint → Option (List CodePoint × Rope CodePoint)
  | 0, _, _ => none
  | fuel + 1, depth, text => do
    let (point, rest) ← text.next?
    let opened (depth : Nat) : Option (List CodePoint × Rope CodePoint) :=
      (key? fuel depth rest).map fun (key, rest) => (point :: key, rest)
    if point == .char ')' then
      match depth with
      | 0 => some ([], rest)
      | depth + 1 => opened depth
    else opened (if point == .char '(' then depth + 1 else depth)

/-- Selects the entry that a placeholder names, if it names one. -/
def readKey (size : Nat) (text : Rope CodePoint) : Filling (Rope CodePoint) :=
  match text.next? with
  | some (.char '(', rest) => do
    if (← get).keyed?.isNone then throw .noMapping
    match key? size 0 rest with
    | none => throw .openKey
    | some (key, rest) =>
      set (← (← get).select key)
      return rest
  | _ => return text

/-- An argument that stands for a width or precision. -/
def takeCount : Filling Int := do
  match (← take).number? with
  | some (.int n) => return n
  | _ => throw .noCount

def widthLimit : Nat := 9223372036854775808

def precisionLimit : Nat := 2147483648

def leadingNumber (text : Rope CodePoint) : Nat × Rope CodePoint :=
  let (digits, rest) := text.span (CodePoint.isChar Char.isDigit)
  (Numeral.ofDigits (Numeral.latinDigits (digits.toList.filterMap CodePoint.char?)), rest)

def readWidth (p : Placeholder) (text : Rope CodePoint) :
    Filling (Placeholder × Rope CodePoint) :=
  match text.next? with
  | some (.char '*', rest) => do
    let n ← takeCount
    if (widthLimit : Int) ≤ n || n < -(widthLimit : Int) then throw .widthOutside
    return ({ p with left := p.left || n < 0, width := n.natAbs }, rest)
  | _ => do
    let (n, rest) := leadingNumber text
    if widthLimit ≤ n then throw .widthTooBig
    return ({ p with width := n }, rest)

/-- A precision comes after a point. A negative one counts as zero. -/
def readPrecision (p : Placeholder) (text : Rope CodePoint) :
    Filling (Placeholder × Rope CodePoint) :=
  match text.next? with
  | some (.char '.', rest) =>
    match rest.next? with
    | some (.char '*', rest) => do
      let n ← takeCount
      if (precisionLimit : Int) ≤ n || n < -(precisionLimit : Int) then throw .precisionOutside
      return ({ p with precision? := some n.toNat }, rest)
    | _ => do
      let (n, rest) := leadingNumber rest
      if precisionLimit ≤ n then throw .precisionTooBig
      return ({ p with precision? := some n }, rest)
  | _ => return (p, text)

def skipSize (text : Rope CodePoint) : Rope CodePoint :=
  match text.next? with
  | some (letter, rest) => if letter.isChar ['h', 'l', 'L'].contains then rest else text
  | none => text

/-- Fills the placeholder that starts after a percent sign. `size` is the length of the whole
text. -/
def fillNext (size : Nat) (text : Rope CodePoint) :
    Filling (Rope CodePoint × Rope CodePoint) := do
  let (flags, text) := (← readKey size text).span Placeholder.isFlag
  let (p, text) ← readWidth (.ofFlags flags.toList) text
  let (p, text) ← readPrecision p text
  match (skipSize text).next? with
  | none => throw .openEnd
  | some (letter, rest) =>
    let a ← take
    let isTooWide := Operand.maxBytes < p.width
    let p := if isTooWide then { p with width := 0 } else p
    match letter.char?.bind fun c => p.write? c a with
    | none => throw (.unknownLetter letter (size - rest.length - 1))
    | some written =>
      let part ← written
      if isTooWide then throw .outOfMemory
      return (part, rest)

/-- Fills all placeholders of a text. What is done so far is kept in parts, the last one first. -/
def fillAll (size : Nat) : Nat → List (Rope CodePoint) → Rope CodePoint →
    Filling (List (Rope CodePoint))
  | 0, done, _ => return done
  | fuel + 1, done, text =>
    let (plain, text) := text.span (· != .char '%')
    let done := plain :: done
    match text.next? with
    | none => return done
    | some (_, text) =>
      match text.next? with
      | some (.char '%', rest) => fillAll size fuel (.piece [.char '%'] :: done) rest
      | _ => do
        let (part, rest) ← fillNext size text
        fillAll size fuel (part :: done) rest

end Filling

/-- The text with its placeholders filled. An argument that nothing is looked up in has to be
used. -/
def Operand.fill (text : Rope CodePoint) (a : Operand) :
    Except FillingFault (Rope CodePoint) := do
  let size := text.length
  let (parts, supply) ← (Filling.fillAll size (size + 1) [] text).run (.ofOperand a)
  if supply.next?.isSome && supply.keyed?.isNone then .error .tooMany
  else .ok (.concat parts.reverse)

end GrowthGrammar
