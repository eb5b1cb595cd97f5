import GrowthGrammar.Number.Arithmetic

/-!
The Mersenne twister: 624 words of state, of which one is given out, tempered, for each step, and
which are all renewed when the last one is used up.
-/
namespace GrowthGrammar

/-- `position` is the index of the next word to give out. -/
structure Twister where
  words : Array UInt32
  position : Nat
  deriving DecidableEq

namespace Twister

def size : Nat := 624

/-! ### Seeding -/

/-- The state that a single word spreads to. -/
def spread (seed : UInt32) : Array UInt32 :=
  let step (words : Array UInt32) (i : Nat) : Array UInt32 :=
    let last : UInt32 := words.getD (i - 1) 0
    words.push ((last ^^^ (last >>> 30)) * 1812433253 + UInt32.ofNat i)
  (List.range' 1 (size - 1)).foldl step #[seed]

/-- A position that runs round the state and skips the first word. -/
def onward (words : Array UInt32) (i : Nat) : Array UInt32 × Nat :=
  if size ≤ i + 1 then (words.setIfInBounds 0 (words.getD (size - 1) 0), 1) else (words, i + 1)

/-- Mixes the words of a key into the state. -/
def mixKey (key : Array UInt32) (words : Array UInt32) : Array UInt32 × Nat :=
  let step (state : Array UInt32 × Nat) (k : Nat) : Array UInt32 × Nat :=
    let (words, i) := state
    let j := k % key.size
    let last : UInt32 := words.getD (i - 1) 0
    let mixed := (words.getD i 0 ^^^ ((last ^^^ (last >>> 30)) * 1664525)) + key.getD j 0 +
      UInt32.ofNat j
    onward (words.setIfInBounds i mixed) i
  (List.range (max size key.size)).foldl step (words, 1)

/-- Mixes the positions into the state. -/
def mixPositions (state : Array UInt32 × Nat) : Array UInt32 :=
  let step (state : Array UInt32 × Nat) (_ : Nat) : Array UInt32 × Nat :=
    let (words, i) := state
    let last : UInt32 := words.getD (i - 1) 0
    let mixed := (words.getD i 0 ^^^ ((last ^^^ (last >>> 30)) * 1566083941)) - UInt32.ofNat i
    onward (words.setIfInBounds i mixed) i
  ((List.range (size - 1)).foldl step state).1

/-- The state that a key of one word or more seeds. -/
def ofKey (key : Array UInt32) : Twister :=
  ⟨(mixPositions (mixKey key (spread 19650218))).setIfInBounds 0 0x80000000, size⟩

/-- The words of a number, lowest first; zero has one word. -/
def keyWords : Nat → Nat → List UInt32
  | 0, _ => []
  | count + 1, n =>
    UInt32.ofNat n :: if n / 4294967296 = 0 then [] else keyWords count (n / 4294967296)

/-- The generator of a seed below two to the sixty-fourth. -/
def ofSeed (seed : Nat) : Twister := ofKey (keyWords 2 seed).toArray

/-! ### Drawing -/

/-- Joins the top bit of one word and the rest of the next, shifts, and folds in the reduction. -/
def twist (high low : UInt32) : UInt32 :=
  let joined := (high &&& 0x80000000) ||| (low &&& 0x7fffffff)
  (joined >>> 1) ^^^ (if joined &&& 1 = 1 then 0x9908b0df else 0)

def renew (words : Array UInt32) : Array UInt32 :=
  let step (words : Array UInt32) (i : Nat) : Array UInt32 :=
    let next := words.getD ((i + 1) % size) 0
    let far := words.getD ((i + 397) % size) 0
    words.setIfInBounds i (far ^^^ twist (words.getD i 0) next)
  (List.range size).foldl step words

def temper (word : UInt32) : UInt32 :=
  let word := word ^^^ (word >>> 11)
  let word := word ^^^ ((word <<< 7) &&& 0x9d2c5680)
  let word := word ^^^ ((word <<< 15) &&& 0xefc60000)
  word ^^^ (word >>> 18)

def next (t : Twister) : UInt32 × Twister :=
  let t : Twister := if size ≤ t.position then ⟨renew t.words, 0⟩ else t
  (temper (t.words.getD t.position 0), { t with position := t.position + 1 })

/-- A number from zero to one: 53 bits, from two words. -/
def draw (t : Twister) : Double × Twister :=
  let (high, t) := t.next
  let (low, t) := t.next
  let bits := (high >>> 5).toNat * 67108864 + (low >>> 6).toNat
  (.round false (bits * Nat.pow 2 (FloatFormat.binary64.scale - 53)) 1, t)

end Twister

end GrowthGrammar
