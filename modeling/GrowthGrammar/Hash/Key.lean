import GrowthGrammar.Data
import GrowthGrammar.Hash.SipHash

/-!
Hashes of keys. Numbers that are equal have equal hashes, whatever their kind: the residue of their
value. Texts are hashed by their code points, and scalars by their kind and bits.
-/
namespace GrowthGrammar.Hash

/-- No key has all bits set as its hash. -/
def settled (h : UInt64) : UInt64 := if h + 1 = 0 then h - 1 else h

/-! ### Numbers -/

/-- Residues are taken by this prime, `2 ^ 61 - 1`. -/
def modulus : Nat := 2305843009213693951

/-- The residue of a magnitude, with the sign of the number. -/
def signed (negative : Bool) (magnitude : Nat) : UInt64 :=
  let residue := UInt64.ofNat (magnitude % modulus)
  settled (if negative then 0 - residue else residue)

def ofInt (n : Int) : UInt64 := signed (n < 0) n.natAbs

/-- What infinity is hashed as. -/
def infinity : Nat := 314159

/-- The residue of a float. A least unit is the inverse of a power of two, and as the powers of two
have the period 61, it is a power of two itself. -/
def ofDouble (x : Double) : UInt64 :=
  match x with
  | .nan _ => 0
  | .infinite negative => signed negative infinity
  | .finite negative rank =>
    signed negative (FloatFormat.binary64.units rank * Nat.pow 2 24)

/-! ### Texts -/

/-- A number in some bytes, the least significant one first. -/
def bytes : Nat → Nat → List UInt8
  | 0, _ => []
  | count + 1, n => UInt8.ofNat n :: bytes count (n / 256)

/-- The bytes that each code point of a text takes, as many as the widest one needs. -/
def width (codes : List Nat) : Nat :=
  if codes.all (· < 0x100) then 1 else if codes.all (· < 0x10000) then 2 else 4

def ofText (s : Spelling) : UInt64 :=
  let codes := s.codes
  if codes.isEmpty then 0
  else settled (SipHash.digest (codes.flatMap (bytes (width codes))))

/-! ### Pairs -/

/-- Mixes the hash of a part into the hash of a pair. -/
def mixed (acc part : UInt64) : UInt64 :=
  SipHash.rotateLeft (acc + part * 14029467366897019727) 31 * 11400714785074694791

def pair (left right : UInt64) : UInt64 :=
  let start : UInt64 := 2870177450012600261
  let h := mixed (mixed start left) right + (2 ^^^ start ^^^ 3527539)
  if h + 1 = 0 then 1546275796 else h

def ofScalar (v : Scalar) : UInt64 :=
  match v with
  | .int n => pair (ofText "INT") (ofInt n.toInt)
  | .float x => pair (ofText "FLOAT") (ofInt x.toBits)

/-! ### Keys -/

/-- The hash of nothing, which is a number like any other. -/
def ofNull : UInt64 := 0xa4f

/-- The hash of a key. Data that are no keys have none, and count as nothing. -/
def ofKey : Data → UInt64
  | .bool b => ofInt (if b then 1 else 0)
  | .int n => ofInt n
  | .float x => ofDouble x
  | .text s => ofText s
  | .scalar v => ofScalar v
  | _ => ofNull

end GrowthGrammar.Hash
