/-!
The SipHash-1-3 hash of a byte string under the key zero.
-/
namespace GrowthGrammar.SipHash

/-- The four words of the hash state. -/
structure State where
  a : UInt64
  b : UInt64
  c : UInt64
  d : UInt64

/-- The state before any word, which is "somepseudorandomlygeneratedbytes" in four words. -/
def State.initial : State :=
  ⟨0x736f6d6570736575, 0x646f72616e646f6d, 0x6c7967656e657261, 0x7465646279746573⟩

def rotateLeft (x n : UInt64) : UInt64 := (x <<< n) ||| (x >>> (64 - n))

def round (s : State) : State :=
  let a := s.a + s.b
  let b := rotateLeft s.b 13 ^^^ a
  let c := s.c + s.d
  let d := rotateLeft s.d 16 ^^^ c
  let a := rotateLeft a 32
  let c := c + b
  let b := rotateLeft b 17 ^^^ c
  let a := a + d
  let d := rotateLeft d 21 ^^^ a
  ⟨a, b, rotateLeft c 32, d⟩

/-- Mixes a word in by one round. -/
def absorb (s : State) (word : UInt64) : State :=
  let s := round { s with d := s.d ^^^ word }
  { s with a := s.a ^^^ word }

/-- The number that bytes spell, the least significant one first. -/
def littleEndian (bytes : List UInt8) : UInt64 :=
  bytes.foldr (fun byte n => (n <<< 8) ||| byte.toUInt64) 0

/-- The words of a byte string: its bytes by eights, and a last word with what is left and the
length. -/
def words (length : Nat) : Nat → List UInt8 → List UInt64
  | 0, bytes => [littleEndian bytes ||| (UInt64.ofNat length <<< 56)]
  | count + 1, bytes => littleEndian (bytes.take 8) :: words length count (bytes.drop 8)

def digest (bytes : List UInt8) : UInt64 :=
  let s := (words bytes.length (bytes.length / 8) bytes).foldl absorb State.initial
  let s := round (round (round { s with c := s.c ^^^ 0xff }))
  s.a ^^^ s.b ^^^ s.c ^^^ s.d

end GrowthGrammar.SipHash
