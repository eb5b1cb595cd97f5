import GrowthGrammar.Hash.Scatter
import Mathlib.Data.Fintype.EquivFin
import Mathlib.RingTheory.ZMod.UnitsCyclic

/-!
Scattering loses no key. As long as there is an empty slot the search comes upon one, since it goes
through all slots in the end, and sets grow before their slots are full.
-/
namespace GrowthGrammar.Scatter

/-! ### Going through all slots -/

/-- The slot that is tried after another one when the bits of the hash are used up. -/
def following (size slot : Nat) : Nat := (slot * 5 + 1) % size

variable {k slot : Nat}

theorem iterate_following_lt (within : slot < 2 ^ k) (n : Nat) :
    (following (2 ^ k))^[n] slot < 2 ^ k := by
  cases n with
  | zero => exact within
  | succ n =>
    rw [Function.iterate_succ_apply']
    exact Nat.mod_lt _ (Nat.two_pow_pos k)

/-- Four times a slot and one: moving to the following slot multiplies this by five. -/
theorem following_weight (k slot : Nat) :
    ((4 * following (2 ^ k) slot + 1 : ℕ) : ZMod (2 ^ (k + 2))) =
      5 * ((4 * slot + 1 : ℕ) : ZMod (2 ^ (k + 2))) := by
  have scaled : 4 * following (2 ^ k) slot = 4 * (slot * 5 + 1) % 2 ^ (k + 2) := by
    rw [following, ← Nat.mul_mod_mul_left, Nat.pow_add, Nat.mul_comm (2 ^ k)]
  rw [scaled, Nat.cast_add, ZMod.natCast_mod]
  push_cast
  ring

theorem iterate_following_weight (k slot n : Nat) :
    ((4 * (following (2 ^ k))^[n] slot + 1 : ℕ) : ZMod (2 ^ (k + 2))) =
      5 ^ n * ((4 * slot + 1 : ℕ) : ZMod (2 ^ (k + 2))) := by
  induction n with
  | zero => rw [Function.iterate_zero_apply, pow_zero, one_mul]
  | succ n ih => rw [Function.iterate_succ_apply', following_weight, ih, ← mul_assoc, ← pow_succ']

theorem isUnit_odd (k : Nat) {n : Nat} (odd : Odd n) : IsUnit (n : ZMod (2 ^ k)) :=
  (ZMod.isUnit_iff_coprime n (2 ^ k)).mpr ((Nat.coprime_two_right.mpr odd).pow_right k)

/-- No slot comes twice before all have come, because five has as many powers. -/
theorem iterate_following_injOn (k slot : Nat) :
    Set.InjOn (fun n => (following (2 ^ k))^[n] slot) (Set.Iio (2 ^ k)) := by
  intro m first n second same
  obtain ⟨five, value⟩ := isUnit_odd (k + 2) (show Odd 5 by decide)
  have order : orderOf five = 2 ^ k := by
    rw [← orderOf_units, value]
    exact ZMod.orderOf_five k
  -- The weight of a slot is odd, so it can be cancelled.
  have weights : (5 : ZMod (2 ^ (k + 2))) ^ m = 5 ^ n := by
    have odd : Odd (4 * slot + 1) := ⟨2 * slot, by omega⟩
    refine (isUnit_odd (k + 2) odd).mul_right_cancel ?_
    rw [← iterate_following_weight, ← iterate_following_weight]
    exact congrArg (fun slot : Nat => ((4 * slot + 1 : ℕ) : ZMod (2 ^ (k + 2)))) same
  have powers : five ^ m = five ^ n := by
    apply Units.ext
    rw [Units.val_pow_eq_pow_val, Units.val_pow_eq_pow_val, value]
    exact weights
  rw [← order] at first second
  exact pow_injOn_Iio_orderOf first second powers

theorem exists_iterate_following (within : slot < 2 ^ k) {i : Nat} (there : i < 2 ^ k) :
    ∃ n < 2 ^ k, (following (2 ^ k))^[n] slot = i := by
  let course (n : Fin (2 ^ k)) : Fin (2 ^ k) := ⟨_, iterate_following_lt within n⟩
  have once : Function.Injective course := by
    intro m n same
    exact Fin.ext (iterate_following_injOn k slot m.isLt n.isLt (congrArg Fin.val same))
  obtain ⟨n, comes⟩ := Finite.injective_iff_surjective.mp once ⟨i, there⟩
  exact ⟨n, n.isLt, congrArg Fin.val comes⟩

/-! ### The search for an empty slot -/

variable {slots : Array (Option Data)} {fuel bits i : Nat}

theorem lt_of_mem_stretch {size : Nat} (within : slot < size) (member : i ∈ stretch size slot) :
    i < size := by
  unfold stretch at member
  split at member
  · obtain ⟨j, close, rfl⟩ := List.mem_map.mp member
    have few := List.mem_range.mp close
    omega
  · rwa [List.mem_singleton.mp member]

theorem mem_stretch (size slot : Nat) : slot ∈ stretch size slot := by
  unfold stretch
  split
  · exact List.mem_map.mpr ⟨0, List.mem_range.mpr (Nat.succ_pos _), rfl⟩
  · exact List.mem_singleton_self slot

theorem emptySlot?_empty (within : slot < slots.size)
    (found : emptySlot? slots fuel slot bits = some i) :
    i < slots.size ∧ slots.getD i none = none := by
  induction fuel generalizing slot bits with
  | zero => cases found
  | succ fuel ih =>
    unfold emptySlot? at found
    split at found
    · rename_i j first
      cases found
      have empty := List.find?_some first
      exact ⟨lt_of_mem_stretch within (List.mem_of_find?_eq_some first),
        Option.isNone_iff_eq_none.mp empty⟩
    · exact ih (Nat.mod_lt _ (Nat.zero_lt_of_lt within)) found

theorem full_of_emptySlot? (missed : emptySlot? slots (fuel + 1) slot bits = none) :
    slots.getD slot none ≠ none ∧
      emptySlot? slots fuel ((slot * 5 + 1 + bits / 32) % slots.size) (bits / 32) = none := by
  unfold emptySlot? at missed
  split at missed
  · cases missed
  · rename_i full
    refine ⟨fun empty => ?_, missed⟩
    have taken := List.find?_eq_none.mp full slot (mem_stretch _ _)
    rw [empty] at taken
    exact taken rfl

/-- The search goes on with fewer bits. -/
theorem exists_later (within : slot < slots.size) (n : Nat)
    (missed : emptySlot? slots (fuel + n) slot bits = none) :
    ∃ later < slots.size, emptySlot? slots fuel later (bits / 32 ^ n) = none := by
  induction n generalizing slot bits with
  | zero => exact ⟨slot, within, by rwa [Nat.pow_zero, Nat.div_one]⟩
  | succ n ih =>
    obtain ⟨-, rest⟩ := full_of_emptySlot? missed
    obtain ⟨later, there, full⟩ := ih (Nat.mod_lt _ (Nat.zero_lt_of_lt within)) rest
    rw [Nat.div_div_eq_div_mul, ← Nat.pow_succ'] at full
    exact ⟨later, there, full⟩

theorem full_along (missed : emptySlot? slots fuel slot 0 = none) {n : Nat} (soon : n < fuel) :
    slots.getD ((following slots.size)^[n] slot) none ≠ none := by
  induction n generalizing fuel slot with
  | zero =>
    obtain ⟨fuel, rfl⟩ := Nat.exists_eq_succ_of_ne_zero (Nat.ne_zero_of_lt soon)
    exact (full_of_emptySlot? missed).1
  | succ n ih =>
    obtain ⟨fuel, rfl⟩ := Nat.exists_eq_succ_of_ne_zero (Nat.ne_zero_of_lt soon)
    rw [Function.iterate_succ_apply]
    exact ih (full_of_emptySlot? missed).2 (Nat.lt_of_succ_lt_succ soon)

/-- An empty slot is found if there is one. The bits of a hash are used up after thirteen slots, and
then all slots are tried. -/
theorem exists_emptySlot? (size : slots.size = 2 ^ k) (there : i < slots.size)
    (empty : slots.getD i none = none) (few : bits < 2 ^ 64) :
    ∃ j, emptySlot? slots (slots.size + 13) (bits % slots.size) bits = some j := by
  rw [← Option.isSome_iff_exists, Option.isSome_iff_ne_none]
  intro missed
  have within : bits % slots.size < slots.size := Nat.mod_lt _ (Nat.zero_lt_of_lt there)
  obtain ⟨later, place, missed⟩ := exists_later within 13 missed
  have used : bits / 32 ^ 13 = 0 := Nat.div_eq_of_lt (few.trans (by decide))
  rw [used] at missed
  -- The bits are used up, so from here on each slot follows the one before.
  rw [size] at place there
  obtain ⟨n, soon, comes⟩ := exists_iterate_following place there
  rw [← size] at soon comes
  have full := full_along missed soon
  rw [comes] at full
  exact full empty

/-! ### Members -/

/-- A set of some number of slots that has exactly the given members. -/
structure Holds (s : Scatter) (size : Nat) (keys : List Data) : Prop where
  slots : s.slots.size = size
  used : s.used = keys.length
  members : s.toList.Perm keys

variable {s : Scatter} {size : Nat} {keys more : List Data}

theorem Holds.of_perm (holds : s.Holds size keys) (same : keys.Perm more) : s.Holds size more :=
  ⟨holds.slots, holds.used.trans same.length_eq, holds.members.trans same⟩

theorem holds_replicate (size : Nat) : Holds ⟨Array.replicate size none, 0⟩ size [] := by
  refine ⟨Array.size_replicate, rfl, ?_⟩
  simp [toList]

theorem toList_set_perm {slots : List (Option Data)} {i : Nat} (empty : slots[i]? = some none)
    (key : Data) : ((slots.set i (some key)).filterMap id).Perm (key :: slots.filterMap id) := by
  induction slots generalizing i with
  | nil => cases empty
  | cons slot rest ih =>
    cases i with
    | zero =>
      cases empty
      exact .refl _
    | succ i =>
      cases slot with
      | none => exact ih empty
      | some other => exact ((ih empty).cons other).trans (.swap key other _)

theorem exists_empty (room : s.toList.length < s.slots.size) :
    ∃ i < s.slots.size, s.slots.getD i none = none := by
  by_contra full
  push Not at full
  refine room.ne ?_
  rw [toList, ← Array.length_toList, List.filterMap_length_eq_length]
  intro slot member
  obtain ⟨i, there, rfl⟩ := List.mem_iff_getElem.mp member
  rw [Array.length_toList] at there
  have taken := full i there
  rw [Array.getD, dif_pos there] at taken
  exact Option.isSome_iff_ne_none.mpr taken

theorem place_holds (holds : s.Holds (2 ^ k) keys) (room : keys.length < 2 ^ k) (key : Data) :
    (s.place key).Holds (2 ^ k) (key :: keys) := by
  obtain ⟨size, used, members⟩ := holds
  obtain ⟨i, there, empty⟩ := exists_empty (s := s) (by rwa [size, members.length_eq])
  obtain ⟨j, found⟩ := exists_emptySlot? size there empty (Hash.ofKey key).toNat_lt
  obtain ⟨there, empty⟩ := emptySlot?_empty (Nat.mod_lt _ (Nat.zero_lt_of_lt there)) found
  have slot : s.slots.toList[j]? = some none := by
    rw [Array.getD, dif_pos there] at empty
    rw [Array.getElem?_toList, Array.getElem?_eq_getElem there]
    exact congrArg some empty
  unfold place
  simp only [found]
  refine ⟨by rw [Array.set!_eq_setIfInBounds, Array.size_setIfInBounds, size],
    congrArg (· + 1) used, ?_⟩
  rw [toList, Array.set!_eq_setIfInBounds, Array.toList_setIfInBounds]
  exact (toList_set_perm slot key).trans (members.cons key)

theorem foldl_place_holds (holds : s.Holds (2 ^ k) keys)
    (room : more.length + keys.length ≤ 2 ^ k) :
    (more.foldl place s).Holds (2 ^ k) (more ++ keys) := by
  induction more generalizing s keys with
  | nil => exact holds
  | cons key rest ih =>
    rw [List.length_cons] at room
    have placed := place_holds holds (by omega) key
    have moved := ih placed (by rw [List.length_cons]; omega)
    exact moved.of_perm List.perm_middle

/-- Members that move to other slots. -/
theorem moved_holds (room : keys.length ≤ 2 ^ k) :
    (keys.foldl place ⟨Array.replicate (2 ^ k) none, 0⟩).Holds (2 ^ k) keys := by
  have moved := foldl_place_holds (holds_replicate (2 ^ k))
    (show keys.length + ([] : List Data).length ≤ 2 ^ k from room)
  rwa [List.append_nil] at moved

/-! ### Sets that grow in time -/

theorem exists_sizeAbove (n fuel k : Nat) : ∃ l, sizeAbove n fuel (2 ^ k) = 2 ^ l := by
  induction fuel generalizing k with
  | zero => exact ⟨k, rfl⟩
  | succ fuel ih =>
    unfold sizeAbove
    split
    · rw [← Nat.pow_succ']
      exact ih (k + 1)
    · exact ⟨k, rfl⟩

theorem lt_sizeAbove {n fuel size : Nat} (enough : n < size * 2 ^ fuel) :
    n < sizeAbove n fuel size := by
  induction fuel generalizing size with
  | zero => simpa [sizeAbove] using enough
  | succ fuel ih =>
    unfold sizeAbove
    split
    · refine ih ?_
      rwa [Nat.mul_comm 2, Nat.mul_assoc, ← Nat.pow_succ']
    · omega

/-- The numbers of slots that sets move to are powers of two, and more than needed. -/
theorem exists_size (n : Nat) {factor : Nat} (small : factor ≤ 4) :
    ∃ k, sizeAbove (factor * n) n smallest = 2 ^ k ∧ factor * n < 2 ^ k := by
  obtain ⟨k, power⟩ := exists_sizeAbove (factor * n) n 3
  have enough : factor * n < 2 ^ 3 * 2 ^ n := by
    have exponential : n < 2 ^ n := Nat.lt_two_pow_self
    have bounded : factor * n ≤ 4 * n := Nat.mul_le_mul_right n small
    omega
  exact ⟨k, power, power ▸ lt_sizeAbove enough⟩

/-- A set that has exactly the given members and an empty slot besides. -/
def Roomy (s : Scatter) (keys : List Data) : Prop :=
  ∃ k, s.Holds (2 ^ k) keys ∧ keys.length < 2 ^ k

theorem Roomy.of_perm (roomy : s.Roomy keys) (same : keys.Perm more) : s.Roomy more := by
  obtain ⟨k, holds, room⟩ := roomy
  exact ⟨k, holds.of_perm same, same.length_eq ▸ room⟩

theorem insert_roomy (roomy : s.Roomy keys) (key : Data) : (s.insert key).Roomy (key :: keys) := by
  obtain ⟨k, holds, room⟩ := roomy
  have placed := place_holds holds room key
  have used : (s.place key).used = keys.length + 1 := placed.used
  unfold insert
  dsimp only
  split
  · rename_i sparse
    rw [placed.slots, used] at sparse
    exact ⟨k, placed, by rw [List.length_cons]; omega⟩
  · obtain ⟨l, size, enough⟩ := exists_size (s.place key).used (Nat.le_refl 4)
    have length : (s.place key).toList.length = keys.length + 1 := placed.members.length_eq
    rw [size]
    refine ⟨l, (moved_holds (by omega)).of_perm placed.members, ?_⟩
    rw [List.length_cons]
    omega

theorem ofList_roomy (keys : List Data) : (ofList keys).Roomy keys := by
  have gathered (more : List Data) : ∀ {s : Scatter} {keys : List Data}, s.Roomy keys →
      (more.foldl insert s).Roomy (more ++ keys) := by
    induction more with
    | nil => exact id
    | cons key rest ih =>
      intro s keys roomy
      exact (ih (insert_roomy roomy key)).of_perm List.perm_middle
  have start : empty.Roomy [] := ⟨3, holds_replicate smallest, by decide⟩
  have all := gathered keys start
  rwa [List.append_nil] at all

theorem copy_roomy (roomy : s.Roomy keys) : s.copy.Roomy keys := by
  obtain ⟨k, holds, room⟩ := roomy
  have length : s.toList.length = s.used := holds.members.length_eq.trans holds.used.symm
  have moved {l : Nat} (enough : s.used < 2 ^ l) :
      (s.toList.foldl place ⟨Array.replicate (2 ^ l) none, 0⟩).Roomy keys := by
    refine ⟨l, (moved_holds (by omega)).of_perm holds.members, ?_⟩
    rwa [← holds.used]
  unfold copy
  extract_lets size
  obtain ⟨l, power, enough⟩ : ∃ l, size = 2 ^ l ∧ s.used < 2 ^ l := by
    unfold size
    split
    · exact ⟨3, rfl, by unfold smallest at *; omega⟩
    · obtain ⟨l, power, enough⟩ := exists_size s.used (Nat.le_add_left 2 2)
      exact ⟨l, power, by omega⟩
  split
  · exact ⟨k, holds, room⟩
  · rw [power]
    exact moved enough

theorem toList_retain (keep : Data → Bool) (s : Scatter) :
    (s.retain keep).toList = s.toList.filter keep := by
  unfold retain toList
  rw [Array.toList_map]
  induction s.slots.toList with
  | nil => rfl
  | cons slot rest ih =>
    cases slot with
    | none => exact ih
    | some key =>
      cases kept : keep key <;> simp [Option.filter, kept] at ih ⊢ <;> exact ih

theorem retain_holds (holds : s.Holds size keys) (keep : Data → Bool) :
    (s.retain keep).Holds size (keys.filter keep) := by
  have members : (s.retain keep).toList.Perm (keys.filter keep) := by
    rw [toList_retain]
    exact holds.members.filter keep
  refine ⟨?_, ?_, members⟩
  · exact Array.size_map.trans holds.slots
  · rw [← members.length_eq, retain, toList, List.length_filterMap_eq_countP, Array.countP_toList]
    rfl

/-- What is left when some members are taken away are the others, each of them. -/
theorem difference_holds (roomy : s.Roomy keys) (count : Nat) (isTaken : Data → Bool) :
    ∃ size, (s.difference count isTaken).Holds size (keys.filter fun key => !isTaken key) := by
  unfold difference
  dsimp only
  split
  · obtain ⟨k, holds, -⟩ := copy_roomy roomy
    exact ⟨2 ^ k, retain_holds holds _⟩
  · obtain ⟨k, holds, -⟩ := roomy
    obtain ⟨l, kept, -⟩ := ofList_roomy (s.toList.filter fun key => !isTaken key)
    exact ⟨2 ^ l, kept.of_perm (holds.members.filter _)⟩

end GrowthGrammar.Scatter
