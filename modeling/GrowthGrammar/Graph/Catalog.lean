/-!
Catalogs: finite maps with their entries in the order in which the keys were first written. Writing
a key again changes its value and leaves its place.
-/
namespace GrowthGrammar

structure Catalog (κ α : Type) [DecidableEq κ] where
  entries : List (κ × α)
  distinct : (entries.map (·.1)).Nodup

namespace Catalog

variable {κ α β : Type} [DecidableEq κ]

@[ext]
theorem ext_entries {c d : Catalog κ α} (h : c.entries = d.entries) : c = d := by
  cases c; cases d; simp_all

def empty : Catalog κ α := ⟨[], .nil⟩

instance : Inhabited (Catalog κ α) := ⟨empty⟩

def keys (c : Catalog κ α) : List κ := c.entries.map (·.1)

def values (c : Catalog κ α) : List α := c.entries.map (·.2)

def size (c : Catalog κ α) : Nat := c.entries.length

def isEmpty (c : Catalog κ α) : Bool := c.entries.isEmpty

def get? (c : Catalog κ α) (k : κ) : Option α := (c.entries.find? fun e => e.1 = k).map (·.2)

def contains (c : Catalog κ α) (k : κ) : Bool := c.entries.any fun e => e.1 = k

/-! ### Writing -/

/-- Puts an entry in the place of one with the same key, or else at the end. -/
def putEntry (k : κ) (v : α) : List (κ × α) → List (κ × α)
  | [] => [(k, v)]
  | e :: rest => if e.1 = k then (k, v) :: rest else e :: putEntry k v rest

theorem mem_keys_putEntry {k key : κ} {v : α} {entries : List (κ × α)} :
    key ∈ (putEntry k v entries).map (·.1) ↔ key = k ∨ key ∈ entries.map (·.1) := by
  induction entries with
  | nil => simp [putEntry]
  | cons head rest ih =>
    unfold putEntry
    split
    · rename_i same
      simp [same]
    · simp only [List.map_cons, List.mem_cons, ih]
      exact or_left_comm

theorem putEntry_distinct {k : κ} {v : α} {entries : List (κ × α)}
    (h : (entries.map (·.1)).Nodup) : ((putEntry k v entries).map (·.1)).Nodup := by
  induction entries with
  | nil => simp [putEntry]
  | cons head rest ih =>
    obtain ⟨absent, later⟩ := List.nodup_cons.mp h
    unfold putEntry
    split
    · rename_i same
      exact List.nodup_cons.mpr ⟨same ▸ absent, later⟩
    · rename_i different
      refine List.nodup_cons.mpr ⟨?_, ih later⟩
      intro member
      rcases mem_keys_putEntry.mp member with same | member
      · exact different same
      · exact absent member

def put (c : Catalog κ α) (k : κ) (v : α) : Catalog κ α :=
  ⟨putEntry k v c.entries, putEntry_distinct c.distinct⟩

def erase (c : Catalog κ α) (k : κ) : Catalog κ α :=
  ⟨c.entries.filter fun e => e.1 ≠ k,
    List.Pairwise.sublist ((List.filter_sublist).map _) c.distinct⟩

/-! ### What is read after writing -/

theorem find?_putEntry {k key : κ} {v : α} {entries : List (κ × α)} :
    (putEntry k v entries).find? (fun e => e.1 = key) =
      if k = key then some (k, v) else entries.find? fun e => e.1 = key := by
  induction entries with
  | nil => by_cases same : k = key <;> simp [putEntry, same]
  | cons head rest ih =>
    unfold putEntry
    split
    · rename_i same
      subst same
      by_cases here : head.1 = key <;> simp [here]
    · rename_i different
      by_cases here : head.1 = key
      · subst here
        simp [Ne.symm different]
      · simp [here, ih]

theorem get?_put (c : Catalog κ α) (k key : κ) (v : α) :
    (c.put k v).get? key = if k = key then some v else c.get? key := by
  unfold get? put
  rw [find?_putEntry]
  split <;> rfl

theorem get?_erase (c : Catalog κ α) (k key : κ) :
    (c.erase k).get? key = if k = key then none else c.get? key := by
  unfold get? erase
  rw [List.find?_filter]
  by_cases same : k = key
  · subst same
    simp
  · rw [if_neg same]
    congr 2
    funext e
    by_cases here : e.1 = key
    · simp [here, Ne.symm same]
    · simp [here]

/-! ### The order of the entries -/

theorem putEntry_of_absent {k : κ} {v : α} {entries : List (κ × α)}
    (absent : k ∉ entries.map (·.1)) : putEntry k v entries = entries ++ [(k, v)] := by
  induction entries with
  | nil => rfl
  | cons head rest ih =>
    rw [List.map_cons, List.mem_cons, not_or] at absent
    rw [putEntry, if_neg (Ne.symm absent.1), ih absent.2, List.cons_append]

theorem entries_put {c : Catalog κ α} {k : κ} (absent : k ∉ c.keys) (v : α) :
    (c.put k v).entries = c.entries ++ [(k, v)] := putEntry_of_absent absent

theorem get?_eq_some_iff {c : Catalog κ α} {k : κ} {v : α} :
    c.get? k = some v ↔ (k, v) ∈ c.entries := by
  have distinct := c.distinct
  unfold get?
  generalize c.entries = entries at distinct
  induction entries with
  | nil => simp
  | cons head rest ih =>
    obtain ⟨absent, later⟩ := List.nodup_cons.mp distinct
    rw [List.find?_cons, List.mem_cons]
    by_cases here : head.1 = k
    · have elsewhere : (k, v) ∉ rest := fun member =>
        absent (List.mem_map.mpr ⟨_, member, here.symm⟩)
      simp only [here, decide_true, Option.map_some, Option.some.injEq, elsewhere, or_false]
      rw [Prod.ext_iff]
      simp only [here, true_and]
      exact eq_comm
    · have different : (k, v) ≠ head := fun same => here (congrArg Prod.fst same).symm
      simp only [here, decide_false, different, false_or]
      exact ih later

theorem get?_eq_none_iff {c : Catalog κ α} {k : κ} : c.get? k = none ↔ k ∉ c.keys := by
  constructor
  · intro missing member
    obtain ⟨⟨key, v⟩, there, rfl⟩ := List.mem_map.mp member
    rw [get?_eq_some_iff.mpr there] at missing
    cases missing
  · intro absent
    cases found : c.get? k with
    | none => rfl
    | some v => exact absurd (List.mem_map.mpr ⟨_, get?_eq_some_iff.mp found, rfl⟩) absent

theorem contains_iff {c : Catalog κ α} {k : κ} : c.contains k = true ↔ k ∈ c.keys := by
  rw [contains, List.any_eq_true, keys, List.mem_map]
  simp only [decide_eq_true_eq]

theorem contains_eq_isSome_get? (c : Catalog κ α) (k : κ) : c.contains k = (c.get? k).isSome := by
  rw [Bool.eq_iff_iff, contains_iff, Option.isSome_iff_ne_none, ne_eq, get?_eq_none_iff,
    Decidable.not_not]

theorem contains_put (c : Catalog κ α) (k key : κ) (v : α) :
    (c.put k v).contains key = (decide (k = key) || c.contains key) := by
  rw [contains_eq_isSome_get?, contains_eq_isSome_get?, get?_put]
  by_cases same : k = key <;> simp [same]

theorem contains_erase (c : Catalog κ α) (k key : κ) :
    (c.erase k).contains key = (!decide (k = key) && c.contains key) := by
  rw [contains_eq_isSome_get?, contains_eq_isSome_get?, get?_erase]
  by_cases same : k = key <;> simp [same]

theorem entries_eq_zip (c : Catalog κ α) : c.entries = c.keys.zip c.values := by
  rw [keys, values, List.zip_map']
  exact (List.map_id' c.entries).symm

/-! ### Whole catalogs -/

/-- The catalog of a list of entries; later ones override earlier ones. -/
def ofList (entries : List (κ × α)) : Catalog κ α :=
  entries.foldl (fun c (k, v) => c.put k v) empty

theorem entries_foldl_put {c : Catalog κ α} {entries : List (κ × α)}
    (distinct : (c.keys ++ entries.map (·.1)).Nodup) :
    (entries.foldl (fun c (k, v) => c.put k v) c).entries = c.entries ++ entries := by
  induction entries generalizing c with
  | nil => simp
  | cons e rest ih =>
    obtain ⟨k, v⟩ := e
    have absent : k ∉ c.keys := fun member =>
      (List.nodup_append.mp distinct).2.2 k member k (by simp) rfl
    have added := entries_put absent v
    rw [List.foldl_cons, ih, added, List.append_assoc, List.cons_append, List.nil_append]
    rw [keys, added, List.map_append, List.append_assoc]
    exact distinct

/-- Entries with different keys stay as they are. -/
theorem entries_ofList {entries : List (κ × α)} (distinct : (entries.map (·.1)).Nodup) :
    (ofList entries).entries = entries := entries_foldl_put distinct

/-- Changes every value. -/
def map (f : α → β) (c : Catalog κ α) : Catalog κ β :=
  ⟨c.entries.map fun e => (e.1, f e.2), by simpa [Function.comp_def] using c.distinct⟩

theorem get?_map (f : α → β) (c : Catalog κ α) (k : κ) : (c.map f).get? k = (c.get? k).map f := by
  unfold get? map
  rw [List.find?_map, Option.map_map, Option.map_map]
  rfl

/-- Whether two catalogs have the same values under the same keys, in whatever order. -/
def sameEntries [DecidableEq α] (c d : Catalog κ α) : Bool :=
  c.size == d.size && c.entries.all fun (k, v) => d.get? k == some v

end Catalog

end GrowthGrammar
