import GrowthGrammar.Formula.Literal
import GrowthGrammar.Text.Word

/-!
The tokens of a formula. Line ends count only outside of brackets, where they end the formula.
-/
namespace GrowthGrammar.Formula

inductive Token where
  | number (literal : NumberLiteral)
  | string (literal : StringLiteral)
  | word (s : String)
  | sign (s : String)
  | lineEnd

namespace Token

def reserved : List String :=
  ["False", "None", "True", "and", "as", "assert", "async", "await", "break", "class", "continue",
    "def", "del", "elif", "else", "except", "finally", "for", "from", "global", "if", "import",
    "in", "is", "lambda", "nonlocal", "not", "or", "pass", "raise", "return", "try", "while",
    "with", "yield"]

/-- The signs of the language, longer ones before those they start with. -/
def signs : List String :=
  ["**=", "//=", ">>=", "<<=", "...", "**", "//", ">>", "<<", "<=", ">=", "==", "!=", "->", "+=",
    "-=", "*=", "/=", "%=", "&=", "|=", "^=", "@=", ":=", "<>", "+", "-", "*", "/", "%", "@", "&",
    "|", "^", "~", "<", ">", "(", ")", "[", "]", "\x7b", "\x7d", ",", ":", ".", ";", "="]

/-- Brackets nest at most this deep. -/
def maxDepth : Nat := 200

def sign? (cs : List Char) : Option (String × List Char) :=
  (signs.find? fun s => s.toList.isPrefixOf cs).map fun s => (s, cs.drop s.length)

def wordOrString? (cs : List Char) : Option (Token × List Char) :=
  let word := cs.takeWhile isWordChar
  let mark := word.map Char.toLower
  match cs.dropWhile isWordChar with
  | c :: rest =>
    if (c == '\'' || c == '"') && StringLiteral.marks.contains (String.ofList mark) then do
      let (content, rest) ← StringLiteral.content? c rest
      let literal ← StringLiteral.ofContent? mark content
      some (.string literal, rest)
    else if Text.isWord word then some (.word (String.ofList word), c :: rest)
    else none
  | [] => if Text.isWord word then some (.word (String.ofList word), []) else none

/-- The blanks at the start of a line: how far they indent it, and the rest of the line. -/
def indent? : Nat → Nat → List Char → Option (Nat × List Char)
  | 0, _, _ => none
  | fuel + 1, column, cs =>
    match cs with
    | ' ' :: rest => indent? fuel (column + 1) rest
    | '\t' :: rest => indent? fuel ((column / 8 + 1) * 8) rest
    | '\x0c' :: rest => indent? fuel 0 rest
    | '\\' :: '\n' :: c :: rest =>
      (indent? fuel 0 (c :: rest)).map fun (inner, rest) =>
        (if column = 0 then inner else column, rest)
    | _ => some (column, cs)

/-- Splits a text into tokens. `depth` counts the open brackets, `fresh` says that the line has no
token yet. A line may not be indented. -/
def split? : Nat → Nat → Bool → List Char → Option (List Token)
  | 0, _, _, _ => none
  | fuel + 1, depth, true, cs => do
    let (column, rest) ← indent? (cs.length + 1) 0 cs
    match rest with
    | [] => some []
    | '#' :: _ => split? fuel depth true ((rest.dropWhile (· != '\n')).drop 1)
    | '\n' :: rest => split? fuel depth true rest
    | _ => if column = 0 then split? fuel depth false rest else none
  | fuel + 1, depth, false, cs =>
    match cs with
    | [] => if depth = 0 then some [] else none
    | '\n' :: rest =>
      if depth = 0 then (split? fuel 0 true rest).map (.lineEnd :: ·)
      else split? fuel depth false rest
    | '\\' :: '\n' :: c :: rest => split? fuel depth false (c :: rest)
    | c :: rest =>
      if c == ' ' || c == '\t' || c == '\x0c' then split? fuel depth false rest
      else if c == '#' then split? fuel depth false (rest.dropWhile (· != '\n'))
      else if c.isDigit || (c == '.' && (rest.head?.any Char.isDigit)) then do
        let (literal, rest) ← NumberLiteral.read? cs
        (split? fuel depth false rest).map (.number literal :: ·)
      else if isWordChar c || c == '\'' || c == '"' then do
        let (token, rest) ← wordOrString? cs
        (split? fuel depth false rest).map (token :: ·)
      else do
        let (s, rest) ← sign? cs
        let opening := s == "(" || s == "[" || s == "\x7b"
        let closing := s == ")" || s == "]" || s == "\x7d"
        if (opening && maxDepth ≤ depth) || (closing && depth = 0) then none
        let depth := if opening then depth + 1 else if closing then depth - 1 else depth
        (split? fuel depth false rest).map (.sign s :: ·)

def unifyLineEnds : List Char → List Char
  | '\r' :: '\n' :: cs => '\n' :: unifyLineEnds cs
  | '\r' :: cs => '\n' :: unifyLineEnds cs
  | c :: cs => c :: unifyLineEnds cs
  | [] => []

def ofText? (cs : List Char) : Option (List Token) :=
  let text := unifyLineEnds cs
  split? (2 * text.length + 2) 0 true text

end Token

end GrowthGrammar.Formula
