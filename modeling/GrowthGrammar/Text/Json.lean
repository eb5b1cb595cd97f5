import GrowthGrammar.Text.Spelling

/-!
Strings in compact interchange notation: between double quotes, in the printable characters of the
Latin alphabet only. Other characters are written as the units of their two-byte encoding.
-/
namespace GrowthGrammar.Text.Json

/-- The two-byte units of a code point: itself, or a surrogate pair past the first 65536. -/
def units (n : Nat) : List Nat :=
  if n < 0x10000 then [n]
  else [0xD800 + (n - 0x10000) / 0x400, 0xDC00 + (n - 0x10000) % 0x400]

def escapeChar (c : Char) : List Char :=
  if c == '"' || c == '\\' then ['\\', c]
  else if c == '\n' then ['\\', 'n']
  else if c == '\r' then ['\\', 'r']
  else if c == '\t' then ['\\', 't']
  else if c == '\x08' then ['\\', 'b']
  else if c == '\x0c' then ['\\', 'f']
  else if ' ' ≤ c && c ≤ '~' then [c]
  else (units c.toNat).flatMap fun unit => '\\' :: 'u' :: hex 4 unit

/-- Surrogates are written as units of their own. -/
def escape : CodePoint → List Char
  | .char c => escapeChar c
  | .surrogate n _ => '\\' :: 'u' :: hex 4 n

def string (s : Spelling) : String :=
  String.ofList ('"' :: s.points.flatMap escape ++ ['"'])

end GrowthGrammar.Text.Json
