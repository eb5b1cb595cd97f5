import GrowthGrammar.Hash.Key

/-!
Scattered keys. A set of keys is kept in slots that are found by hash, so its members are gone
through in an order that depends on their hashes and only little on when they were added.
-/
namespace GrowthGrammar

/-- A number of slots, which is a power of two, of which at least one is empty. -/
structure Scatter where
  slots : Array (Option Data)
  used : Nat

namespace Scatter

/-- The number of slots at first. -/
def smallest : Nat := 8

def empty : Scatter := ⟨Array.replicate smallest none, 0⟩

/-- After the slot of its hash this many slots that follow are tried, unless they reach past the
last one. -/
def neighbours : Nat := 9

/-- The slots tried one after another from some slot on. -/
def stretch (size slot : Nat) : List Nat :=
  if slot + neighbours < size then (List.range (neighbours + 1)).map (slot + ·) else [slot]

/-- The first empty slot for a hash. Where a stretch is full, the search goes on at a slot that
takes in more bits of the hash. -/
def emptySlot? (slots : Array (Option Data)) : Nat → Nat → Nat → Option Nat
  | 0, _, _ => none
  | fuel + 1, slot, bits =>
    match (stretch slots.size slot).find? fun i => (slots.getD i none).isNone with
    | some i => some i
    | none =>
      let bits := bits / 32
      emptySlot? slots fuel ((slot * 5 + 1 + bits) % slots.size) bits

/-- Puts a key into the first empty slot of its hash. Once the bits of a hash are used up, the
search goes through all slots. -/
def place (s : Scatter) (key : Data) : Scatter :=
  let bits := (Hash.ofKey key).toNat
  match emptySlot? s.slots (s.slots.size + 13) (bits % s.slots.size) bits with
  | some i => ⟨s.slots.set! i (some key), s.used + 1⟩
  | none => s

def toList (s : Scatter) : List Data := s.slots.toList.filterMap id

/-- The least number of slots above a number. -/
def sizeAbove (n : Nat) : Nat → Nat → Nat
  | 0, size => size
  | fuel + 1, size => if size ≤ n then sizeAbove n fuel (2 * size) else size

/-- Adds a key that is not among the members. At three fifths full, the members move to four times
as many slots as there are members. -/
def insert (s : Scatter) (key : Data) : Scatter :=
  let s := s.place key
  if s.used * 5 < (s.slots.size - 1) * 3 then s
  else
    let size := sizeAbove (4 * s.used) s.used smallest
    s.toList.foldl place ⟨Array.replicate size none, 0⟩

def ofList (keys : List Data) : Scatter := keys.foldl insert empty

/-- The members that a test keeps, added in the order in which they stand. -/
def filter (keep : Data → Bool) (s : Scatter) : Scatter := ofList (s.toList.filter keep)

/-- A copy. It has no more slots than twice the members need, and where these are as many as before,
the members stay in their slots. -/
def copy (s : Scatter) : Scatter :=
  let size :=
    if s.used * 5 < (smallest - 1) * 3 then smallest else sizeAbove (2 * s.used) s.used smallest
  if size = s.slots.size then s
  else s.toList.foldl place ⟨Array.replicate size none, 0⟩

/-- Empties the slots of the members that a test does not keep. -/
def retain (keep : Data → Bool) (s : Scatter) : Scatter :=
  let slots := s.slots.map (Option.filter keep)
  ⟨slots, slots.countP Option.isSome⟩

/-- The members that are not taken away. If there are many members for each of the `count` that may
be taken away, a copy is emptied, or else the members that stay are gathered. -/
def difference (s : Scatter) (count : Nat) (isTaken : Data → Bool) : Scatter :=
  let keep := fun key => !isTaken key
  if count < s.used / 4 then s.copy.retain keep else s.filter keep

end Scatter

end GrowthGrammar
