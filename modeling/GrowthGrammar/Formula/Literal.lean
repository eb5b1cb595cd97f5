import GrowthGrammar.Number.Numeral
import GrowthGrammar.Text.CharacterName

/-!
Literals in formulas: the numbers a formula computes with, and the string literals of the wider
expression language, which have to be told apart from text that is no expression at all.
-/
namespace GrowthGrammar.Formula

/-- Letters, digits, the underscore and every character outside the first 128. -/
def isWordChar (c : Char) : Bool := c.isAlphanum || c == '_' || 128 ≤ c.toNat

inductive NumberLiteral where
  | int (n : Nat)
  | float (x : Double)
  | imaginary
  deriving DecidableEq

namespace NumberLiteral

/-- The longest run of digits, without the underscores between them. An underscore has to be
followed by a digit. -/
def run? (isDigit : Char → Bool) : List Char → Option (List Char × List Char)
  | [] => some ([], [])
  | ['_'] => none
  | '_' :: c :: cs =>
    if isDigit c then (run? isDigit cs).map fun (digits, rest) => (c :: digits, rest) else none
  | c :: cs =>
    if isDigit c then (run? isDigit cs).map fun (digits, rest) => (c :: digits, rest)
    else some ([], c :: cs)

/-- The words that may follow a number without a space between. -/
def followers : List String := ["and", "else", "for", "if", "in", "is", "not", "or"]

def mayEndBefore (cs : List Char) : Bool :=
  (followers.any fun word => word.toList.isPrefixOf cs) ||
    match cs with
    | [] => true
    | c :: _ => !isWordChar c

def digitValue (c : Char) : Nat :=
  if c.isDigit then c.toNat - '0'.toNat else 10 + (c.toLower.toNat - 'a'.toNat)

def ofDigits (base : Nat) (digits : List Char) : Nat :=
  digits.foldl (fun n c => base * n + digitValue c) 0

/-- An integer in another base, after its mark. -/
def based? (base : Nat) (isDigit : Char → Bool) (cs : List Char) :
    Option (NumberLiteral × List Char) := do
  let (digits, rest) ← run? isDigit cs
  if digits.isEmpty || !mayEndBefore rest then none
  else some (.int (ofDigits base digits), rest)

def isHexDigit (c : Char) : Bool := c.isDigit || ('a' ≤ c.toLower && c.toLower ≤ 'f')

def isOctalDigit (c : Char) : Bool := '0' ≤ c && c ≤ '7'

def isBinaryDigit (c : Char) : Bool := c == '0' || c == '1'

/-- The exponent of a number: its text, empty if the letter e starts a word instead. -/
def exponent? (cs : List Char) : Option (List Char × List Char) :=
  match cs with
  | c :: rest =>
    if c == 'e' || c == 'E' then
      match rest with
      | sign :: d :: tail =>
        if (sign == '+' || sign == '-') && d.isDigit then
          (run? Char.isDigit (d :: tail)).map fun (digits, after) => ('e' :: sign :: digits, after)
        else if sign == '+' || sign == '-' then none
        else if sign.isDigit then
          (run? Char.isDigit rest).map fun (digits, after) => ('e' :: digits, after)
        else some ([], cs)
      | [d] =>
        if d.isDigit then some (['e', d], [])
        else if d == '+' || d == '-' then none
        else some ([], cs)
      | [] => some ([], cs)
    else some ([], cs)
  | [] => some ([], [])

def places? (cs : List Char) : Option (List Char × List Char) :=
  match cs with
  | c :: _ => if c.isDigit then run? Char.isDigit cs else some ([], cs)
  | [] => some ([], [])

/-- A leading zero is only for zero itself, for numbers with a point or an exponent and for
imaginary ones. -/
def zeroAllowed (whole rest : List Char) : Bool :=
  whole.head? != some '0' || whole.all (· == '0') ||
    match rest with
    | c :: _ => ['.', 'e', 'E', 'j', 'J'].contains c
    | [] => false

/-- The value of a decimal number from its parts. Integers have a limited number of digits. -/
def value? (whole : List Char) (point : Bool) (places exponent : List Char) :
    Option NumberLiteral :=
  if point || !exponent.isEmpty then
    (Numeral.decimal? (whole ++ '.' :: places ++ exponent)).map fun decimal =>
      .float (decimal.toBinary .binary64 false)
  else if Numeral.maxDigits < whole.length && whole.head? != some '0' then none
  else some (.int (ofDigits 10 whole))

def decimal? (cs : List Char) : Option (NumberLiteral × List Char) := do
  let (whole, rest) ← run? Char.isDigit cs
  if !zeroAllowed whole rest then none
  let point := rest.head? == some '.'
  let (places, rest) ← if point then places? (rest.drop 1) else some ([], rest)
  let (exponent, rest) ← exponent? rest
  let (value, rest) ← match rest with
    | 'j' :: after | 'J' :: after => some (.imaginary, after)
    | _ => (value? whole point places exponent).map fun value => (value, rest)
  if mayEndBefore rest then some (value, rest) else none

/-- The number at the start of a text that starts with a digit, or with a point and a digit. -/
def read? (cs : List Char) : Option (NumberLiteral × List Char) :=
  match cs with
  | '0' :: mark :: rest =>
    if mark == 'x' || mark == 'X' then based? 16 isHexDigit rest
    else if mark == 'o' || mark == 'O' then based? 8 isOctalDigit rest
    else if mark == 'b' || mark == 'B' then based? 2 isBinaryDigit rest
    else decimal? cs
  | _ => decimal? cs

end NumberLiteral

/-! ### Strings -/

/-- A string literal. A formatted one holds the expressions between its braces. -/
inductive StringLiteral where
  | text
  | bytes
  | formatted (sources : List (List Char))

namespace StringLiteral

/-- The marks that may stand before the quote, in lower case. -/
def marks : List String := ["", "b", "u", "r", "f", "br", "rb", "fr", "rf"]

/-- The content of a string up to its closing quote. Such a string ends on its own line. -/
def single? (quote : Char) : List Char → Option (List Char × List Char)
  | [] => none
  | ['\\'] => none
  | '\\' :: c :: cs => (single? quote cs).map fun (content, rest) => ('\\' :: c :: content, rest)
  | c :: cs =>
    if c == quote then some ([], cs)
    else if c == '\n' then none
    else (single? quote cs).map fun (content, rest) => (c :: content, rest)

/-- The content of a string up to three closing quotes. -/
def triple? (quote : Char) : List Char → Option (List Char × List Char)
  | [] => none
  | ['\\'] => none
  | '\\' :: c :: cs => (triple? quote cs).map fun (content, rest) => ('\\' :: c :: content, rest)
  | c :: cs =>
    if c == quote && cs.take 2 == [quote, quote] then some ([], cs.drop 2)
    else (triple? quote cs).map fun (content, rest) => (c :: content, rest)

def content? (quote : Char) (cs : List Char) : Option (List Char × List Char) :=
  match cs with
  | a :: b :: rest =>
    if a == quote && b == quote then triple? quote rest else single? quote cs
  | _ => single? quote cs

def hexFollows (n : Nat) (cs : List Char) : Bool :=
  (cs.take n).length == n && (cs.take n).all NumberLiteral.isHexDigit

def nameFollows : List Char → Bool
  | '{' :: cs => cs.contains '}' && Text.isCharacterName (cs.takeWhile (· != '}'))
  | _ => false

def escapesValid (bytes : Bool) : List Char → Bool
  | [] => true
  | ['\\'] => true
  | '\\' :: c :: cs =>
    let valid :=
      if c == 'x' then hexFollows 2 cs
      else if bytes then true
      else if c == 'u' then hexFollows 4 cs
      else if c == 'U' then
        hexFollows 8 cs && NumberLiteral.ofDigits 16 (cs.take 8) ≤ 0x10ffff
      else if c == 'N' then nameFollows cs
      else true
    valid && escapesValid bytes cs
  | _ :: cs => escapesValid bytes cs

/-! ### Formatted strings -/

/-- The end of a literal part: at the end of the text, before an expression, or after a doubled
brace. -/
inductive PartEnd where
  | finished
  | brace
  | doubled

/-- The text of a literal part up to a single brace or past a doubled one. Inside a format
specification (`nested`) braces are never doubled, and a closing brace ends the specification. -/
def literalPart? (raw nested : Bool) : Nat → List Char → Option (List Char × PartEnd × List Char)
  | 0, _ => none
  | _ + 1, [] => some ([], .finished, [])
  | fuel + 1, c :: cs =>
    let onward (taken rest : List Char) :=
      (literalPart? raw nested fuel rest).map fun (part, ending, rest) =>
        (taken ++ part, ending, rest)
    let atBrace (taken : List Char) (c : Char) (cs : List Char) :=
      if !nested && cs.head? == some c then some (taken ++ [c], PartEnd.doubled, cs.drop 1)
      else if !nested && c == '}' then none
      else some (taken, PartEnd.brace, c :: cs)
    if !raw && c == '\\' then
      match cs with
      | 'N' :: '{' :: rest =>
        let name := rest.takeWhile (· != '}')
        let after := rest.dropWhile (· != '}')
        onward ('\\' :: 'N' :: '{' :: name ++ after.take 1) (after.drop 1)
      | d :: rest =>
        if d == '{' || d == '}' then atBrace ['\\'] d rest else onward ['\\', d] rest
      | [] => onward ['\\'] []
    else if c == '{' || c == '}' then atBrace [] c cs
    else onward [c] cs

/-- The string that an embedded expression is inside of: its quote, and whether the quote is
tripled. -/
structure OpenQuote where
  quote : Char
  tripled : Bool

def closes (opening closing : Char) : Bool :=
  (opening == '(' && closing == ')') || (opening == '[' && closing == ']') ||
    (opening == '{' && closing == '}')

/-- The source of an embedded expression, up to the character that ends it. -/
def source? : Nat → Option OpenQuote → List Char → List Char → Option (List Char × List Char)
  | 0, _, _, _ => none
  | _ + 1, _, _, [] => none
  | fuel + 1, inside, brackets, c :: cs =>
    let onward (taken : List Char) (inside : Option OpenQuote) (brackets rest : List Char) :=
      (source? fuel inside brackets rest).map fun (source, rest) => (taken ++ source, rest)
    if c == '\\' then none
    else match inside with
    | some q =>
      if c != q.quote then onward [c] inside brackets cs
      else if !q.tripled then onward [c] none brackets cs
      else if cs.take 2 == [c, c] then onward [c, c, c] none brackets (cs.drop 2)
      else onward [c] inside brackets cs
    | none =>
      if c == '\'' || c == '"' then
        if cs.take 2 == [c, c] then onward [c, c, c] (some ⟨c, true⟩) brackets (cs.drop 2)
        else onward [c] (some ⟨c, false⟩) brackets cs
      else if c == '(' || c == '[' || c == '{' then
        if 200 ≤ brackets.length then none else onward [c] none (c :: brackets) cs
      else if c == '#' then none
      else if brackets.isEmpty && ['!', ':', '}', '=', '>', '<'].contains c then
        if ['!', '=', '<', '>'].contains c && cs.head? == some '=' then
          onward [c, '='] none brackets (cs.drop 1)
        else if c == '>' || c == '<' then onward [c] none brackets cs
        else some ([], c :: cs)
      else if c == ')' || c == ']' || c == '}' then
        match brackets with
        | opening :: outer => if closes opening c then onward [c] none outer cs else none
        | [] => none
      else onward [c] none brackets cs

def isSpace (c : Char) : Bool := c == ' ' || c == '\t' || c == '\n' || c == '\x0c'

/-- The equals sign after an expression, which asks for its source to be shown. -/
def skipEcho (cs : List Char) : List Char :=
  match cs with
  | '=' :: rest => rest.dropWhile fun c => isSpace c || c == '\x0b' || c == '\r'
  | _ => cs

def skipConversion? (cs : List Char) : Option (List Char) :=
  match cs with
  | '!' :: c :: rest => if ['s', 'r', 'a'].contains c then some rest else none
  | ['!'] => none
  | _ => some cs

/-- The sources of the expressions in a formatted string. Specifications nest twice at most, and the
innermost holds no expressions. -/
def sources? (raw : Bool) : Nat → Nat → List Char → Option (List (List Char) × List Char)
  | 0, _, _ => none
  | fuel + 1, level, cs => do
    let (part, ending, rest) ← literalPart? raw (level != 0) (cs.length + 1) cs
    if !raw && !escapesValid false part then none
    match ending, rest with
    | .finished, rest => some ([], rest)
    | .doubled, rest => sources? raw fuel level rest
    | .brace, '{' :: rest =>
      if 2 ≤ level then none
      let (source, rest) ← source? (rest.length + 1) none [] rest
      if source.all isSpace then none
      let rest ← skipConversion? (skipEcho rest)
      let (inner, rest) ← match rest with
        | ':' :: rest => sources? raw fuel (level + 1) rest
        | rest => some ([], rest)
      match rest with
      | '}' :: rest =>
        let (others, rest) ← sources? raw fuel level rest
        some (source :: inner ++ others, rest)
      | _ => none
    | .brace, rest => some ([], rest)

def ofContent? (mark : List Char) (content : List Char) : Option StringLiteral :=
  let raw := mark.contains 'r'
  if mark.contains 'f' then
    match sources? raw (content.length + 1) 0 content with
    | some (sources, []) => some (.formatted sources)
    | _ => none
  else if mark.contains 'b' then
    if content.all (·.toNat < 128) && (raw || escapesValid true content) then some .bytes else none
  else if raw || escapesValid false content then some .text
  else none

end StringLiteral

end GrowthGrammar.Formula
