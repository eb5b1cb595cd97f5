import GrowthGrammar.Formula.Tree
import GrowthGrammar.Text.Blank
import GrowthGrammar.Text.Normal

/-!
The grammar of expressions. Formulas use only its arithmetic, but the whole grammar is read, because
an expression that is not arithmetic is reported otherwise than a text that is no expression.

Each phrase of the grammar has a rule that refers to other phrases through a parameter; `phrase`
ties the rules together, going one level deeper with each reference.
-/
namespace GrowthGrammar.Formula

/-- Reads a part of the tokens and gives the rest. -/
abbrev Reader (α : Type) := List Token → Option (α × List Token)

/-- The phrases that other phrases refer to. -/
inductive Phrase where
  | expression
  | disjunction
  | inversion
  | bitOr
  | factor
  | primary

namespace Grammar

def atSign (s : String) : List Token → Bool
  | .sign t :: _ => s == t
  | _ => false

def atWord (s : String) : List Token → Bool
  | .word t :: _ => s == t
  | _ => false

def sign (s : String) : Reader Unit := fun ts => if atSign s ts then some ((), ts.drop 1) else none

def word (s : String) : Reader Unit := fun ts => if atWord s ts then some ((), ts.drop 1) else none

/-- A name, in its normal form. Only a word as it is written can be a reserved one. -/
def name : Reader String
  | .word s :: ts => if Token.reserved.contains s then none else some (Text.normalName s, ts)
  | _ => none

/-- Whether the tokens start with a name and this sign. -/
def atNameAnd (s : String) (ts : List Token) : Bool :=
  match name ts with
  | some (_, ts) => atSign s ts
  | none => false

/-- Reads an item, then further items as long as each is announced by a separator. -/
def chain {α β : Type} (item : Reader α) (separator : Reader β) (join : α → β → α → α) :
    Reader α := fun ts => do
  let (first, ts) ← item ts
  let rec more : Nat → α → Reader α
    | 0, _, _ => none
    | fuel + 1, left, ts =>
      match separator ts with
      | none => some (left, ts)
      | some (s, ts) => do
        let (right, ts) ← item ts
        more fuel (join left s right) ts
  more (ts.length + 1) first ts

/-- Reads the items after the first, each after a comma. A comma may come last, where `stop` holds.
-/
def itemsAfter {α : Type} (item : Reader α) (stop : List Token → Bool) :
    Nat → α → Reader (List α × Bool)
  | 0, _, _ => none
  | fuel + 1, first, ts =>
    if !atSign "," ts then some (([first], false), ts)
    else if stop (ts.drop 1) then some (([first], true), ts.drop 1)
    else do
      let (next, ts) ← item (ts.drop 1)
      let ((rest, _), ts) ← itemsAfter item stop fuel next ts
      some ((first :: rest, true), ts)

/-- Reads one item or more with commas between them, and says whether there was a comma. -/
def items {α : Type} (item : Reader α) (stop : List Token → Bool) : Reader (List α × Bool) :=
  fun ts => do
    let (first, ts) ← item ts
    itemsAfter item stop (ts.length + 1) first ts

/-! ### Operators -/

def operator (table : List (String × BinaryOperator)) : Reader BinaryOperator
  | .sign s :: ts => (table.lookup s).map fun op => (op, ts)
  | _ => none

def binaryChain (operand : Reader Tree) (table : List (String × BinaryOperator)) : Reader Tree :=
  chain operand (operator table) fun left op right => .binary op left right

def terms (factor : Reader Tree) : Reader Tree :=
  binaryChain factor [("*", .mul), ("/", .div), ("//", .floorDiv), ("%", .mod),
    ("@", .foreign "MatMult")]

def sums (factor : Reader Tree) : Reader Tree :=
  binaryChain (terms factor) [("+", .add), ("-", .sub)]

def shifts (factor : Reader Tree) : Reader Tree :=
  binaryChain (sums factor) [("<<", .foreign "LShift"), (">>", .foreign "RShift")]

def bitOrs (factor : Reader Tree) : Reader Tree :=
  let ands := binaryChain (shifts factor) [("&", .foreign "BitAnd")]
  let exclusives := binaryChain ands [("^", .foreign "BitXor")]
  binaryChain exclusives [("|", .foreign "BitOr")]

def comparator : Reader Unit := fun ts =>
  match ts with
  | .sign s :: rest =>
    if ["==", "!=", "<=", "<", ">=", ">"].contains s then some ((), rest) else none
  | .word "in" :: rest => some ((), rest)
  | .word "not" :: .word "in" :: rest => some ((), rest)
  | .word "is" :: .word "not" :: rest => some ((), rest)
  | .word "is" :: rest => some ((), rest)
  | _ => none

def element (kind : String) : Tree := .foreign kind false

def comparison (operand : Reader Tree) : Reader Tree :=
  chain operand comparator fun _ _ _ => element "Compare"

def inversion (self : Phrase → Reader Tree) : Reader Tree := fun ts =>
  match ts with
  | .word "not" :: rest => do
    let (operand, ts) ← self .inversion rest
    some (.unary (.foreign "Not") operand, ts)
  | _ => comparison (self .bitOr) ts

def disjunction (self : Phrase → Reader Tree) : Reader Tree :=
  let conjunction := chain (self .inversion) (word "and") fun _ _ _ => element "BoolOp"
  chain conjunction (word "or") fun _ _ _ => element "BoolOp"

def factor (self : Phrase → Reader Tree) : Reader Tree := fun ts =>
  let signed (op : UnaryOperator) : Option (Tree × List Token) := do
    let (operand, ts) ← self .factor (ts.drop 1)
    some (.unary op operand, ts)
  if atSign "+" ts then signed .plus
  else if atSign "-" ts then signed .minus
  else if atSign "~" ts then signed (.foreign "Invert")
  else do
    let (base, ts) ←
      if atWord "await" ts then do
        let (_, ts) ← self .primary (ts.drop 1)
        some (element "Await", ts)
      else self .primary ts
    if !atSign "**" ts then some (base, ts)
    else
      let (exponent, ts) ← self .factor (ts.drop 1)
      some (.binary .pow base exponent, ts)

/-! ### Parameters of anonymous functions -/

/-- What may still come in a parameter list: positional parameters, before or after the first
default; parameters by name, with at least one of them `due` after a bare star; nothing. -/
inductive ParameterStage where
  | positional (count : Nat) (defaulted slashed : Bool)
  | named (due : Bool)
  | closed

def parameterDefault (self : Phrase → Reader Tree) : Reader Bool := fun ts =>
  if atSign "=" ts then do
    let (_, ts) ← self .expression (ts.drop 1)
    some (true, ts)
  else some (false, ts)

/-- One parameter or mark, and the stage after it. -/
def parameter (self : Phrase → Reader Tree) (stage : ParameterStage) : Reader ParameterStage :=
  fun ts =>
    if atSign "/" ts then
      match stage with
      | .positional (count + 1) defaulted false =>
        some (.positional (count + 1) defaulted true, ts.drop 1)
      | _ => none
    else if atSign "*" ts then
      match stage with
      | .positional .. =>
        match name (ts.drop 1) with
        | some (_, ts) => some (.named false, ts)
        | none => some (.named true, ts.drop 1)
      | _ => none
    else if atSign "**" ts then
      match stage with
      | .closed | .named true => none
      | _ => (name (ts.drop 1)).map fun (_, ts) => (.closed, ts)
    else do
      let (_, ts) ← name ts
      let (hasDefault, ts) ← parameterDefault self ts
      match stage with
      | .positional count defaulted slashed =>
        if defaulted && !hasDefault then none
        else some (.positional (count + 1) hasDefault slashed, ts)
      | .named _ => some (.named false, ts)
      | .closed => none

def parameters (self : Phrase → Reader Tree) : Nat → ParameterStage → Reader Unit
  | 0, _, _ => none
  | fuel + 1, stage, ts => do
    let (stage, ts) ← parameter self stage ts
    let bare := match stage with
      | .named true => true
      | _ => false
    if atSign "," ts then
      if atSign ":" (ts.drop 1) then if bare then none else some ((), ts.drop 1)
      else parameters self fuel stage (ts.drop 1)
    else if bare then none
    else some ((), ts)

def anonymousFunction (self : Phrase → Reader Tree) : Reader Tree := fun ts => do
  let (_, ts) ← word "lambda" ts
  let (_, ts) ←
    if atSign ":" ts then some ((), ts)
    else parameters self (ts.length + 1) (.positional 0 false false) ts
  let (_, ts) ← sign ":" ts
  let (_, ts) ← self .expression ts
  some (element "Lambda", ts)

/-! ### Expressions and what they are made of -/

def expression (self : Phrase → Reader Tree) : Reader Tree := fun ts =>
  if atWord "lambda" ts then anonymousFunction self ts
  else do
    let (value, ts) ← self .disjunction ts
    if !atWord "if" ts then some (value, ts)
    else
      let (_, ts) ← self .disjunction (ts.drop 1)
      let (_, ts) ← word "else" ts
      let (_, ts) ← self .expression ts
      some (element "IfExp", ts)

def named (self : Phrase → Reader Tree) : Reader Tree := fun ts =>
  if atNameAnd ":=" ts then do
    let (_, ts) ← self .expression (ts.drop 2)
    some (element "NamedExpr", ts)
  else self .expression ts

def starred (self : Phrase → Reader Tree) (operand : Phrase) : Reader Tree := fun ts => do
  let (_, ts) ← sign "*" ts
  let (value, ts) ← self operand ts
  some (.foreign "Starred" value.assignable, ts)

def starNamed (self : Phrase → Reader Tree) : Reader Tree := fun ts =>
  if atSign "*" ts then starred self .bitOr ts else named self ts

def starExpression (self : Phrase → Reader Tree) : Reader Tree := fun ts =>
  if atSign "*" ts then starred self .bitOr ts else self .expression ts

def target (self : Phrase → Reader Tree) : Reader Unit := fun ts => do
  let (value, ts) ← self .primary (if atSign "*" ts then ts.drop 1 else ts)
  if value.assignable then some ((), ts) else none

def atLoop (ts : List Token) : Bool := atWord "for" ts || atWord "async" ts

def conditions (self : Phrase → Reader Tree) : Nat → Reader Unit
  | 0, _ => none
  | fuel + 1, ts =>
    if atWord "if" ts then do
      let (_, ts) ← self .disjunction (ts.drop 1)
      conditions self fuel ts
    else some ((), ts)

/-- The loops of a comprehension: at least one, each with its conditions. -/
def loops (self : Phrase → Reader Tree) : Nat → Reader Unit
  | 0, _ => none
  | fuel + 1, ts => do
    let (_, ts) ← word "for" (if atWord "async" ts then ts.drop 1 else ts)
    let (_, ts) ← items (target self) (atWord "in") ts
    let (_, ts) ← word "in" ts
    let (_, ts) ← self .disjunction ts
    let (_, ts) ← conditions self (ts.length + 1) ts
    if atLoop ts then loops self fuel ts else some ((), ts)

/-- The loops of a comprehension, its closing bracket, and the tree of its kind. -/
def comprehension (self : Phrase → Reader Tree) (closing kind : String) : Reader Tree :=
  fun ts => do
    let (_, ts) ← loops self (ts.length + 1) ts
    let (_, ts) ← sign closing ts
    some (element kind, ts)

/-! ### Brackets -/

def yield (self : Phrase → Reader Tree) : Reader Tree := fun ts => do
  let (_, ts) ← word "yield" ts
  if atWord "from" ts then
    let (_, ts) ← self .expression (ts.drop 1)
    some (element "YieldFrom", ts)
  else if atSign ")" ts then some (element "Yield", ts)
  else
    let (_, ts) ← items (starExpression self) (atSign ")") ts
    some (element "Yield", ts)

/-- A tuple or list with these members. -/
def sequence (kind : String) (members : List Tree) : Tree :=
  .foreign kind (members.all Tree.assignable)

def isStarred : Tree → Bool
  | .foreign kind _ => kind == "Starred"
  | _ => false

def parenthesized (self : Phrase → Reader Tree) : Reader Tree := fun ts =>
  if atSign ")" ts then some (sequence "Tuple" [], ts.drop 1)
  else if atWord "yield" ts then do
    let (value, ts) ← yield self ts
    let (_, ts) ← sign ")" ts
    some (value, ts)
  else do
    let star := atSign "*" ts
    let (first, rest) ← starNamed self ts
    if atSign "," rest then
      let ((members, _), ts) ←
        itemsAfter (starNamed self) (atSign ")") (rest.length + 1) first rest
      let (_, ts) ← sign ")" ts
      some (sequence "Tuple" members, ts)
    else if star then none
    else if atLoop rest then comprehension self ")" "GeneratorExp" rest
    else
      let (_, ts) ← sign ")" rest
      some (first, ts)

def listDisplay (self : Phrase → Reader Tree) : Reader Tree := fun ts =>
  if atSign "]" ts then some (sequence "List" [], ts.drop 1)
  else do
    let (first, rest) ← starNamed self ts
    if atLoop rest && !isStarred first then comprehension self "]" "ListComp" rest
    else
      let ((members, _), ts) ←
        itemsAfter (starNamed self) (atSign "]") (rest.length + 1) first rest
      let (_, ts) ← sign "]" ts
      some (sequence "List" members, ts)

def entry (self : Phrase → Reader Tree) : Reader Unit := fun ts => do
  if atSign "**" ts then
    let (_, ts) ← self .bitOr (ts.drop 1)
    some ((), ts)
  else
    let (_, ts) ← self .expression ts
    let (_, ts) ← sign ":" ts
    let (_, ts) ← self .expression ts
    some ((), ts)

def entriesAfter (self : Phrase → Reader Tree) : Reader Tree := fun ts => do
  let (_, ts) ← itemsAfter (entry self) (atSign "\x7d") (ts.length + 1) () ts
  let (_, ts) ← sign "\x7d" ts
  some (element "Dict", ts)

def braced (self : Phrase → Reader Tree) : Reader Tree := fun ts =>
  if atSign "\x7d" ts then some (element "Dict", ts.drop 1)
  else if atSign "**" ts then do
    let (_, ts) ← entry self ts
    entriesAfter self ts
  else do
    let (first, rest) ← starNamed self ts
    if atSign ":" rest && !isStarred first && !atNameAnd ":=" ts then
      let (_, ts) ← self .expression (rest.drop 1)
      if atLoop ts then comprehension self "\x7d" "DictComp" ts else entriesAfter self ts
    else if atLoop rest && !isStarred first then comprehension self "\x7d" "SetComp" rest
    else
      let (_, ts) ← itemsAfter (starNamed self) (atSign "\x7d") (rest.length + 1) first rest
      let (_, ts) ← sign "\x7d" ts
      some (element "Set", ts)

/-! ### Calls and subscripts -/

/-- What may still come among arguments: any, none having come before; any; no more without a name;
none but by name or unpacked mapping. -/
inductive ArgumentStage where
  | first
  | any
  | named
  | mapped

/-- The arguments of a call up to its closing bracket, and whether any is passed by name. A lone
generator needs no brackets of its own. -/
def arguments (self : Phrase → Reader Tree) : Nat → ArgumentStage → Reader (List Tree × Bool)
  | 0, _, _ => none
  | fuel + 1, stage, ts =>
    if atSign ")" ts then some (([], false), ts.drop 1)
    else
      let onward (stage : ArgumentStage) (argument : Option Tree) (ts : List Token) :
          Option ((List Tree × Bool) × List Token) := do
        let ((rest, keywords), ts) ←
          if atSign "," ts then arguments self fuel stage (ts.drop 1)
          else if atSign ")" ts then some (([], false), ts.drop 1)
          else none
        some ((argument.toList ++ rest, keywords || argument.isNone), ts)
      if atSign "**" ts then do
        let (_, ts) ← self .expression (ts.drop 1)
        onward .mapped none ts
      else if atNameAnd "=" ts then do
        let (_, ts) ← self .expression (ts.drop 2)
        onward (match stage with | .mapped => .mapped | _ => .named) none ts
      else if atSign "*" ts then
        match stage with
        | .mapped => none
        | .named => do
          let (value, ts) ← starred self .expression ts
          onward .named (some value) ts
        | _ => do
          let (value, ts) ← starred self .expression ts
          onward .any (some value) ts
      else
        match stage with
        | .first => do
          let (value, rest) ← named self ts
          if atLoop rest then
            let (value, ts) ← comprehension self ")" "GeneratorExp" rest
            some (([value], false), ts)
          else onward .any (some value) rest
        | .any => do
          let (value, ts) ← named self ts
          onward .any (some value) ts
        | _ => none

/-- The end of a slice: an optional bound, then optionally a colon and an optional step. -/
def sliceRest (self : Phrase → Reader Tree) : Reader Unit := fun ts =>
  let optional (ts : List Token) : Option (List Token) :=
    if atSign ":" ts || atSign "," ts || atSign "]" ts then some ts
    else (self .expression ts).map (·.2)
  do
    let ts ← optional ts
    if atSign ":" ts then
      let ts ← if atSign ":" (ts.drop 1) then none else optional (ts.drop 1)
      some ((), ts)
    else some ((), ts)

def subscript (self : Phrase → Reader Tree) : Reader Unit := fun ts =>
  if atSign "*" ts then (starred self .expression ts).map fun (_, ts) => ((), ts)
  else if atSign ":" ts then sliceRest self (ts.drop 1)
  else if atNameAnd ":=" ts then (named self ts).map fun (_, ts) => ((), ts)
  else do
    let (_, ts) ← self .expression ts
    if atSign ":" ts then sliceRest self (ts.drop 1) else some ((), ts)

/-! ### Atoms -/

/-- Adjacent strings are one string. Bytes do not mix with text. -/
def strings : List Token → List StringLiteral × List Token
  | .string literal :: ts =>
    let (rest, ts) := strings ts
    (literal :: rest, ts)
  | ts => ([], ts)

def isBytes : StringLiteral → Bool
  | .bytes => true
  | _ => false

def sourcesOf : StringLiteral → List (List Char)
  | .formatted sources => sources
  | _ => []

def isFormatted : StringLiteral → Bool
  | .formatted _ => true
  | _ => false

/-- Whether an embedded source is an expression, once put in brackets. -/
def isExpression (self : Phrase → Reader Tree) (source : List Char) : Bool :=
  match Token.ofText? ('(' :: source ++ [')']) with
  | some ts =>
    match self .expression ts with
    | some (_, []) => true
    | _ => false
  | none => false

def stringAtom (self : Phrase → Reader Tree) : Reader Tree := fun ts =>
  let (literals, ts) := strings ts
  if literals.any isBytes && !literals.all isBytes then none
  else if !(literals.flatMap sourcesOf).all (isExpression self) then none
  else if literals.any isFormatted then some (element "JoinedStr", ts)
  else some (.constant, ts)

def atom (self : Phrase → Reader Tree) : Reader Tree := fun ts =>
  match ts with
  | .number literal :: rest => some (Tree.ofNumber literal, rest)
  | .string _ :: _ => stringAtom self ts
  | .word s :: rest =>
    if ["None", "True", "False"].contains s then some (.constant, rest)
    else if Token.reserved.contains s then none
    else some (.name (Text.normalName s), rest)
  | .sign s :: rest =>
    if s == "(" then parenthesized self rest
    else if s == "[" then listDisplay self rest
    else if s == "\x7b" then braced self rest
    else if s == "..." then some (.constant, rest)
    else none
  | _ => none

def trailers (self : Phrase → Reader Tree) : Nat → Tree → Reader Tree
  | 0, _, _ => none
  | fuel + 1, value, ts =>
    if atSign "." ts then do
      let (_, ts) ← name (ts.drop 1)
      trailers self fuel (.foreign "Attribute" true) ts
    else if atSign "(" ts then do
      let ((arguments, keywords), ts) ← arguments self (ts.length + 1) .first (ts.drop 1)
      trailers self fuel (.call value arguments keywords) ts
    else if atSign "[" ts then do
      let (_, ts) ← items (subscript self) (atSign "]") (ts.drop 1)
      let (_, ts) ← sign "]" ts
      trailers self fuel (.foreign "Subscript" true) ts
    else some (value, ts)

def primary (self : Phrase → Reader Tree) : Reader Tree := fun ts => do
  let (value, ts) ← atom self ts
  trailers self (ts.length + 1) value ts

def rule (self : Phrase → Reader Tree) : Phrase → Reader Tree
  | .expression => expression self
  | .disjunction => disjunction self
  | .inversion => inversion self
  | .bitOr => bitOrs (self .factor)
  | .factor => factor self
  | .primary => primary self

/-- Reads a phrase, following references between phrases to the given depth. -/
def phrase : Nat → Phrase → Reader Tree
  | 0 => fun _ _ => none
  | depth + 1 => rule (phrase depth)

/-- An expression, or several with commas between them, with nothing after it but line ends. -/
def whole (self : Phrase → Reader Tree) (ts : List Token) : Option Tree := do
  let ended (ts : List Token) : Bool := ts.all fun
    | .lineEnd => true
    | _ => false
  let ((members, comma), ts) ← items (self .expression) ended ts
  if !ended ts then none
  match members, comma with
  | [value], false => some value
  | _, _ => some (sequence "Tuple" members)

end Grammar

/-- The tree of an expression, if the text is one. -/
def Tree.ofText? (s : String) : Option Tree := do
  let cs := s.toList
  let ts ← Token.ofText? cs
  Grammar.whole (Grammar.phrase (8 * cs.length + 8)) ts

end GrowthGrammar.Formula
