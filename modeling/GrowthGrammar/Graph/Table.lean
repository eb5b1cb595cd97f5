/-!
Tables: finite maps with their entries in the order of the keys. Two tables with the same entries
are the same table, and going through a table meets the keys in ascending order.
-/
namespace GrowthGrammar

/-- Keys come one before the other in a strict total order. -/
class Key (κ : Type) [DecidableEq κ] where
  before : κ → κ → Bool
  irrefl : ∀ a, before a a = false
  trans : ∀ {a b c}, before a b = true → before b c = true → before a c = true
  total : ∀ {a b}, before a b = false → a ≠ b → before b a = true

instance : Key Int where
  before a b := decide (a < b)
  irrefl a := by simp
  trans h h' := by simp only [decide_eq_true_eq] at *; omega
  total h h' := by simp only [decide_eq_true_eq, decide_eq_false_iff_not] at *; omega

structure Table (κ : Type) [DecidableEq κ] [Key κ] (α : Type) where
  entries : List (κ × α)
  ordered : entries.Pairwise fun a b => Key.before a.1 b.1 = true

namespace Table

variable {κ α β : Type} [DecidableEq κ] [Key κ]

@[ext]
theorem ext_entries {t u : Table κ α} (h : t.entries = u.entries) : t = u := by
  cases t; cases u; simp_all

def empty : Table κ α := ⟨[], .nil⟩

instance : Inhabited (Table κ α) := ⟨empty⟩

def keys (t : Table κ α) : List κ := t.entries.map (·.1)

def size (t : Table κ α) : Nat := t.entries.length

def isEmpty (t : Table κ α) : Bool := t.entries.isEmpty

def get? (t : Table κ α) (k : κ) : Option α := (t.entries.find? fun e => e.1 = k).map (·.2)

def contains (t : Table κ α) (k : κ) : Bool := t.entries.any fun e => e.1 = k

/-! ### Writing -/

/-- Puts an entry into its place, instead of one with the same key. -/
def insertEntry (k : κ) (v : α) : List (κ × α) → List (κ × α)
  | [] => [(k, v)]
  | e :: rest =>
    if Key.before k e.1 then (k, v) :: e :: rest
    else if k = e.1 then (k, v) :: rest
    else e :: insertEntry k v rest

theorem mem_insertEntry {k : κ} {v : α} {e : κ × α} {entries : List (κ × α)}
    (h : e ∈ insertEntry k v entries) : e = (k, v) ∨ e ∈ entries := by
  induction entries with
  | nil => simpa [insertEntry] using h
  | cons head rest ih =>
    unfold insertEntry at h
    split at h
    · simpa using h
    · split at h
      · rcases List.mem_cons.mp h with h | h
        · exact Or.inl h
        · exact Or.inr (List.mem_cons_of_mem _ h)
      · rcases List.mem_cons.mp h with h | h
        · exact Or.inr (h ▸ List.mem_cons_self)
        · exact (ih h).imp_right (List.mem_cons_of_mem _)

theorem insertEntry_ordered {k : κ} {v : α} {entries : List (κ × α)}
    (h : entries.Pairwise fun a b => Key.before a.1 b.1 = true) :
    (insertEntry k v entries).Pairwise fun a b => Key.before a.1 b.1 = true := by
  induction entries with
  | nil => simp [insertEntry]
  | cons head rest ih =>
    obtain ⟨first, later⟩ := List.pairwise_cons.mp h
    unfold insertEntry
    split
    · rename_i precedes
      refine List.pairwise_cons.mpr ⟨?_, h⟩
      intro e member
      rcases List.mem_cons.mp member with rfl | member
      · exact precedes
      · exact Key.trans precedes (first e member)
    · rename_i notBefore
      split
      · rename_i same
        subst same
        exact List.pairwise_cons.mpr ⟨first, later⟩
      · rename_i different
        refine List.pairwise_cons.mpr ⟨?_, ih later⟩
        intro e member
        rcases mem_insertEntry member with rfl | member
        · exact Key.total (by simpa using notBefore) different
        · exact first e member

def insert (t : Table κ α) (k : κ) (v : α) : Table κ α :=
  ⟨insertEntry k v t.entries, insertEntry_ordered t.ordered⟩

def erase (t : Table κ α) (k : κ) : Table κ α :=
  ⟨t.entries.filter fun e => e.1 ≠ k, t.ordered.filter _⟩

/-! ### What is read after writing -/

theorem find?_insertEntry {k key : κ} {v : α} {entries : List (κ × α)}
    (h : entries.Pairwise fun a b => Key.before a.1 b.1 = true) :
    (insertEntry k v entries).find? (fun e => e.1 = key) =
      if k = key then some (k, v) else entries.find? fun e => e.1 = key := by
  induction entries with
  | nil =>
    by_cases same : k = key <;> simp [insertEntry, same]
  | cons head rest ih =>
    obtain ⟨first, later⟩ := List.pairwise_cons.mp h
    unfold insertEntry
    split
    · by_cases same : k = key <;> simp [same]
    · split
      · rename_i same
        subst same
        by_cases here : head.1 = key <;> simp [here]
      · rename_i different
        by_cases here : head.1 = key
        · subst here
          simp [different]
        · simp [here, ih later]

theorem get?_insert (t : Table κ α) (k key : κ) (v : α) :
    (t.insert k v).get? key = if k = key then some v else t.get? key := by
  unfold get? insert
  rw [find?_insertEntry t.ordered]
  split <;> rfl

theorem get?_erase (t : Table κ α) (k key : κ) :
    (t.erase k).get? key = if k = key then none else t.get? key := by
  unfold get? erase
  rw [List.find?_filter]
  by_cases same : k = key
  · subst same
    simp
  · rw [if_neg same]
    congr 2
    funext e
    by_cases here : e.1 = key
    · simp [here, Ne.symm same]
    · simp [here]

theorem contains_eq_isSome_get? (t : Table κ α) (k : κ) : t.contains k = (t.get? k).isSome := by
  unfold contains get?
  rw [Option.isSome_map, Bool.eq_iff_iff, List.any_eq_true, List.find?_isSome]

def map (f : κ → α → β) (t : Table κ α) : Table κ β :=
  ⟨t.entries.map fun e => (e.1, f e.1 e.2), List.pairwise_map.mpr t.ordered⟩

/-- Changes the value of a key that is there. -/
def modify (t : Table κ α) (k : κ) (f : α → α) : Table κ α :=
  match t.get? k with
  | some v => t.insert k (f v)
  | none => t

theorem get?_map (f : κ → α → β) (t : Table κ α) (key : κ) :
    (t.map f).get? key = (t.get? key).map (f key) := by
  unfold get? map
  rw [List.find?_map, Option.map_map, Option.map_map]
  cases found : t.entries.find? fun e => e.1 = key with
  | none => simp [Function.comp_def, found]
  | some e =>
    have same : e.1 = key := by simpa using List.find?_some found
    simp [Function.comp_def, found, same]

theorem get?_modify (t : Table κ α) (k key : κ) (f : α → α) :
    (t.modify k f).get? key = if k = key then (t.get? key).map f else t.get? key := by
  unfold modify
  split
  · rename_i v found
    rw [get?_insert]
    split
    · rename_i same
      rw [← same, found, Option.map_some]
    · rfl
  · rename_i missing
    split
    · rename_i same
      rw [← same, missing, Option.map_none]
    · rfl

/-! ### Which keys there are -/

@[simp]
theorem contains_empty (k : κ) : (empty : Table κ α).contains k = false := rfl

@[simp]
theorem get?_empty (k : κ) : (empty : Table κ α).get? k = none := rfl

theorem contains_iff {t : Table κ α} {k : κ} : t.contains k = true ↔ ∃ v, t.get? k = some v := by
  rw [contains_eq_isSome_get?, Option.isSome_iff_exists]

theorem contains_insert (t : Table κ α) (k key : κ) (v : α) :
    (t.insert k v).contains key = (decide (k = key) || t.contains key) := by
  rw [contains_eq_isSome_get?, get?_insert, contains_eq_isSome_get?]
  by_cases same : k = key <;> simp [same]

theorem contains_erase (t : Table κ α) (k key : κ) :
    (t.erase k).contains key = (!decide (k = key) && t.contains key) := by
  rw [contains_eq_isSome_get?, get?_erase, contains_eq_isSome_get?]
  by_cases same : k = key <;> simp [same]

theorem contains_map (f : κ → α → β) (t : Table κ α) (key : κ) :
    (t.map f).contains key = t.contains key := by
  rw [contains_eq_isSome_get?, get?_map, Option.isSome_map, contains_eq_isSome_get?]

theorem contains_modify (t : Table κ α) (k key : κ) (f : α → α) :
    (t.modify k f).contains key = t.contains key := by
  rw [contains_eq_isSome_get?, get?_modify, contains_eq_isSome_get?]
  split
  · rw [Option.isSome_map]
  · rfl

theorem mem_keys {t : Table κ α} {k : κ} : k ∈ t.keys ↔ t.contains k = true := by
  unfold keys contains
  rw [List.mem_map, List.any_eq_true]
  constructor
  · rintro ⟨e, member, rfl⟩
    exact ⟨e, member, by simp⟩
  · rintro ⟨e, member, same⟩
    exact ⟨e, member, by simpa using same⟩

theorem keys_ordered (t : Table κ α) : t.keys.Pairwise fun a b => Key.before a b = true :=
  List.pairwise_map.mpr t.ordered

theorem keys_nodup (t : Table κ α) : t.keys.Nodup := by
  refine t.keys_ordered.imp fun {a b} precedes same => ?_
  rw [same, Key.irrefl] at precedes
  exact Bool.noConfusion precedes

end Table

/-- A set of keys, in ascending order. -/
abbrev KeySet (κ : Type) [DecidableEq κ] [Key κ] := Table κ Unit

end GrowthGrammar
