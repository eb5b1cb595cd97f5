/-!
The SHA-256 digest of a byte string.
-/
namespace GrowthGrammar.Sha256

/-- The fractional parts of the cube roots of the first 64 primes. -/
def roundConstants : Array UInt32 :=
  #[0x428a2f98, 0x71374491, 0xb5c0fbcf, 0xe9b5dba5, 0x3956c25b, 0x59f111f1, 0x923f82a4, 0xab1c5ed5,
    0xd807aa98, 0x12835b01, 0x243185be, 0x550c7dc3, 0x72be5d74, 0x80deb1fe, 0x9bdc06a7, 0xc19bf174,
    0xe49b69c1, 0xefbe4786, 0x0fc19dc6, 0x240ca1cc, 0x2de92c6f, 0x4a7484aa, 0x5cb0a9dc, 0x76f988da,
    0x983e5152, 0xa831c66d, 0xb00327c8, 0xbf597fc7, 0xc6e00bf3, 0xd5a79147, 0x06ca6351, 0x14292967,
    0x27b70a85, 0x2e1b2138, 0x4d2c6dfc, 0x53380d13, 0x650a7354, 0x766a0abb, 0x81c2c92e, 0x92722c85,
    0xa2bfe8a1, 0xa81a664b, 0xc24b8b70, 0xc76c51a3, 0xd192e819, 0xd6990624, 0xf40e3585, 0x106aa070,
    0x19a4c116, 0x1e376c08, 0x2748774c, 0x34b0bcb5, 0x391c0cb3, 0x4ed8aa4a, 0x5b9cca4f, 0x682e6ff3,
    0x748f82ee, 0x78a5636f, 0x84c87814, 0x8cc70208, 0x90befffa, 0xa4506ceb, 0xbef9a3f7, 0xc67178f2]

structure State where
  a : UInt32
  b : UInt32
  c : UInt32
  d : UInt32
  e : UInt32
  f : UInt32
  g : UInt32
  h : UInt32

/-- The fractional parts of the square roots of the first eight primes. -/
def State.initial : State :=
  ⟨0x6a09e667, 0xbb67ae85, 0x3c6ef372, 0xa54ff53a, 0x510e527f, 0x9b05688c, 0x1f83d9ab, 0x5be0cd19⟩

def rotateRight (x : UInt32) (n : UInt32) : UInt32 := (x >>> n) ||| (x <<< (32 - n))

/-- The message with its closing bit, zeros and length in bits, a multiple of 64 bytes. -/
def pad (message : List UInt8) : List UInt8 :=
  let zeros := (119 - message.length % 64) % 64
  let bits := 8 * message.length
  let length := (List.range 8).map fun i => UInt8.ofNat (bits >>> (8 * (7 - i)))
  message ++ 0x80 :: List.replicate zeros 0 ++ length

/-- The big-endian words of a byte string. -/
def words : List UInt8 → List UInt32
  | a :: b :: c :: d :: rest =>
    ((a.toUInt32 <<< 24) ||| (b.toUInt32 <<< 16) ||| (c.toUInt32 <<< 8) ||| d.toUInt32) ::
      words rest
  | _ => []

/-- The word of the message schedule at index `t`, from the earlier ones. -/
def scheduled (w : Array UInt32) (t : Nat) : UInt32 :=
  let early := w.getD (t - 15) 0
  let late := w.getD (t - 2) 0
  let s0 := rotateRight early 7 ^^^ rotateRight early 18 ^^^ (early >>> 3)
  let s1 := rotateRight late 17 ^^^ rotateRight late 19 ^^^ (late >>> 10)
  w.getD (t - 16) 0 + s0 + w.getD (t - 7) 0 + s1

/-- The 64 words of the message schedule of a block. -/
def schedule (block : Array UInt32) : Array UInt32 :=
  (List.range' 16 48).foldl (fun w t => w.push (scheduled w t)) block

def round (s : State) (word constant : UInt32) : State :=
  let sum1 := rotateRight s.e 6 ^^^ rotateRight s.e 11 ^^^ rotateRight s.e 25
  let choice := (s.e &&& s.f) ^^^ ((~~~ s.e) &&& s.g)
  let t1 := s.h + sum1 + choice + constant + word
  let sum0 := rotateRight s.a 2 ^^^ rotateRight s.a 13 ^^^ rotateRight s.a 22
  let majority := (s.a &&& s.b) ^^^ (s.a &&& s.c) ^^^ (s.b &&& s.c)
  ⟨t1 + sum0 + majority, s.a, s.b, s.c, s.d + t1, s.e, s.f, s.g⟩

/-- Hashes one block of sixteen words. -/
def compress (s : State) (block : List UInt32) : State :=
  let w := schedule block.toArray
  let r := (List.range 64).foldl
    (fun s t => round s (w.getD t 0) (roundConstants.getD t 0)) s
  ⟨s.a + r.a, s.b + r.b, s.c + r.c, s.d + r.d, s.e + r.e, s.f + r.f, s.g + r.g, s.h + r.h⟩

def blocks : Nat → List UInt32 → List (List UInt32)
  | 0, _ => []
  | count + 1, ws => ws.take 16 :: blocks count (ws.drop 16)

/-- The digest as eight words. -/
def digest (message : List UInt8) : List UInt32 :=
  let ws := words (pad message)
  let s := (blocks (ws.length / 16) ws).foldl compress State.initial
  [s.a, s.b, s.c, s.d, s.e, s.f, s.g, s.h]

def hexWord (w : UInt32) : List Char :=
  let digits := Nat.toDigits 16 w.toNat
  List.replicate (8 - digits.length) '0' ++ digits

/-- The first sixteen hexadecimal digits of the digest of a text. -/
def shortHex (text : String) : String :=
  String.ofList (((digest text.toUTF8.toList).take 2).flatMap hexWord)

/-- The first eight bytes of the digest of a text, as a number. -/
def leading64 (text : String) : Nat :=
  ((digest text.toUTF8.toList).take 2).foldl (fun n w => n * 4294967296 + w.toNat) 0

end GrowthGrammar.Sha256
