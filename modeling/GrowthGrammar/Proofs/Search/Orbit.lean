import GrowthGrammar.Proofs.Search.Enumeration
import GrowthGrammar.Proofs.Search.Symmetry

/-!
Orbits: the symmetries of a pattern act on its occurrences, and no occurrence stays where it is
under two of them. A search that breaks symmetry gives the first occurrence of every orbit.
-/
namespace GrowthGrammar

/-- Catalogs with the same keys in the same order and the same values under them are the same. -/
theorem Catalog.ext_get? {κ α : Type} [DecidableEq κ] {c d : Catalog κ α} (keys : c.keys = d.keys)
    (same : ∀ k ∈ c.keys, c.get? k = d.get? k) : c = d := by
  apply ext_entries
  rw [entries_eq_zip c, entries_eq_zip d, ← filterMap_get?_keys c, ← filterMap_get?_keys d, ← keys,
    List.filterMap_congr same]

namespace Permutation

variable {σ τ : Permutation} {p : Pattern} {checkValues : Bool} {id : Int}

def image (σ : Permutation) (id : Int) : Int := ((σ.find? fun e => e.1 = id).map (·.2)).getD id

theorem image_mem (member : id ∈ σ.map (·.1)) : (id, σ.image id) ∈ σ := by
  obtain ⟨e, there, rfl⟩ := List.mem_map.mp member
  cases found : σ.find? fun f => f.1 = e.1 with
  | none => simpa using List.find?_eq_none.mp found e there
  | some f =>
    have same : f.1 = e.1 := by simpa using List.find?_some found
    rw [image, found, ← same]
    exact List.mem_of_find?_eq_some found

theorem eq_image (distinct : (σ.map (·.1)).Nodup) {e : Int × Int} (member : e ∈ σ) :
    σ.image e.1 = e.2 := by
  have there := image_mem (List.mem_map_of_mem member)
  exact congrArg Prod.snd (List.inj_on_of_nodup_map distinct there member rfl)

theorem map_image (distinct : (σ.map (·.1)).Nodup) : (σ.map (·.1)).map σ.image = σ.map (·.2) := by
  rw [List.map_map]
  exact List.map_congr_left fun e member => eq_image distinct member

def followedBy (τ σ : Permutation) : Permutation := τ.map fun e => (e.1, σ.image e.2)

def swapped (σ : Permutation) : Permutation := σ.map fun e => (e.2, e.1)

def inverse (σ : Permutation) : Permutation :=
  (σ.map (·.1)).map fun id => (id, σ.swapped.image id)

theorem swapped_fst (σ : Permutation) : σ.swapped.map (·.1) = σ.map (·.2) := List.map_map ..

theorem swapped_snd (σ : Permutation) : σ.swapped.map (·.2) = σ.map (·.1) := List.map_map ..

/-! ### Symmetries form a group -/

theorem identity_isSymmetry (p : Pattern) (checkValues : Bool) :
    p.identity.IsSymmetry p checkValues := by
  rw [← Pattern.mem_symmetries, Pattern.symmetries_eq_cons]
  exact List.mem_cons_self

namespace IsSymmetry

variable (h : σ.IsSymmetry p checkValues)

include h

theorem distinct : (σ.map (·.1)).Nodup := h.domain ▸ p.nodup_ids

theorem distinct_images : (σ.map (·.2)).Nodup := h.images.nodup_iff.mpr p.nodup_ids

theorem image_mem_ids {e : Int × Int} (member : e ∈ σ) : e.2 ∈ p.ids :=
  h.images.mem_iff.mp (List.mem_map_of_mem member)

theorem entry (declared : id ∈ p.ids) : (id, σ.image id) ∈ σ := image_mem (h.domain ▸ declared)

theorem image_declared (declared : id ∈ p.ids) : σ.image id ∈ p.ids :=
  h.image_mem_ids (h.entry declared)

theorem eq_images : σ = p.ids.map fun id => (id, σ.image id) := by
  rw [← h.domain, List.map_map]
  refine (List.map_id σ).symm.trans (List.map_congr_left fun e member => ?_)
  exact Prod.ext rfl (eq_image h.distinct member).symm

theorem source (declared : id ∈ p.ids) : (σ.swapped.image id, id) ∈ σ := by
  have member : id ∈ σ.swapped.map (·.1) := by
    rw [swapped_fst]
    exact h.images.mem_iff.mpr declared
  obtain ⟨e, there, same⟩ := List.mem_map.mp (image_mem member)
  have entry : e = (σ.swapped.image id, id) :=
    Prod.ext (congrArg Prod.snd same) (congrArg Prod.fst same)
  exact entry ▸ there

theorem followedBy (h' : τ.IsSymmetry p checkValues) :
    (τ.followedBy σ).IsSymmetry p checkValues where
  domain := by
    rw [← h'.domain, Permutation.followedBy, List.map_map]
    rfl
  images := by
    have images : (τ.followedBy σ).map (·.2) = (τ.map (·.2)).map σ.image := by
      rw [Permutation.followedBy, List.map_map, List.map_map]
      rfl
    rw [images]
    refine (h'.images.map σ.image).trans ?_
    rw [← h.domain, map_image h.distinct, h.domain]
    exact h.images
  alike e member m hm n hn first last := by
    obtain ⟨f, there, rfl⟩ := List.mem_map.mp member
    have declared := h'.image_mem_ids there
    obtain ⟨middle, hk, same⟩ := Pattern.exists_node declared
    have one := h.alike _ (h.entry declared) m hm middle hk first same
    have two := h'.alike f there middle hk n hn same last
    exact ⟨one.1.trans two.1, fun checked key => (one.2 checked key).trans (two.2 checked key)⟩
  edges e member f member' := by
    obtain ⟨e, there, rfl⟩ := List.mem_map.mp member
    obtain ⟨f, there', rfl⟩ := List.mem_map.mp member'
    have one := h.edges _ (h.entry (h'.image_mem_ids there)) _ (h.entry (h'.image_mem_ids there'))
    exact one.trans (h'.edges e there f there')

theorem inverse : σ.inverse.IsSymmetry p checkValues where
  domain := by
    rw [Permutation.inverse, List.map_map, ← h.domain]
    exact List.map_id _
  images := by
    have distinct : (σ.swapped.map (·.1)).Nodup := swapped_fst σ ▸ h.distinct_images
    have images : σ.inverse.map (·.2) = (σ.map (·.1)).map σ.swapped.image := by
      rw [Permutation.inverse, List.map_map]
      rfl
    rw [images, h.domain]
    refine (h.images.symm.map σ.swapped.image).trans ?_
    rw [← swapped_fst, map_image distinct, swapped_snd, h.domain]
  alike e member m hm n hn first last := by
    obtain ⟨id, there, rfl⟩ := List.mem_map.mp member
    have alike := h.alike _ (h.source (h.domain ▸ there)) n hn m hm last first
    exact ⟨alike.1.symm, fun checked key => (alike.2 checked key).symm⟩
  edges e member f member' := by
    obtain ⟨a, there, rfl⟩ := List.mem_map.mp member
    obtain ⟨c, there', rfl⟩ := List.mem_map.mp member'
    exact (h.edges _ (h.source (h.domain ▸ there)) _ (h.source (h.domain ▸ there'))).symm

end IsSymmetry

end Permutation

/-! ### Bindings through a symmetry -/

namespace Bindings

variable {b c : Bindings} {σ τ : Permutation} {p : Pattern} {checkValues : Bool}

theorem entries_through (distinct : (σ.map (·.1)).Nodup) :
    (b.through σ).entries = σ.filterMap fun e => (b.get? e.2).map (e.1, ·) := by
  refine Catalog.entries_ofList (distinct.sublist ?_)
  rw [List.map_filterMap, ← List.filterMap_eq_map]
  induction σ with
  | nil => exact .slnil
  | cons e rest ih =>
    have ih := ih (List.nodup_cons.mp distinct).2
    cases found : b.get? e.2 with
    | none => simpa [found] using ih.cons e.1
    | some v => simpa [found] using ih.cons_cons e.1

/-- What stands under an id is what stood under its image. -/
theorem get?_through (distinct : (σ.map (·.1)).Nodup) {e : Int × Int} (member : e ∈ σ) :
    (b.through σ).get? e.1 = b.get? e.2 := by
  refine Option.ext fun v => ?_
  rw [Catalog.get?_eq_some_iff, entries_through distinct, List.mem_filterMap]
  constructor
  · rintro ⟨f, there, same⟩
    obtain ⟨w, found, entry⟩ := Option.map_eq_some_iff.mp same
    obtain ⟨key, rfl⟩ := Prod.mk.inj entry
    rw [← List.inj_on_of_nodup_map distinct there member key]
    exact found
  · intro found
    exact ⟨e, member, by rw [found]; rfl⟩

theorem keys_through (distinct : (σ.map (·.1)).Nodup) (bound : ∀ e ∈ σ, e.2 ∈ b.keys) :
    (b.through σ).keys = σ.map (·.1) := by
  rw [Catalog.keys, entries_through distinct, List.map_filterMap, ← List.filterMap_eq_map]
  refine List.filterMap_congr fun e member => ?_
  cases found : b.get? e.2 with
  | none => exact absurd (bound e member) (Catalog.get?_eq_none_iff.mp found)
  | some v => rfl

theorem values_through (distinct : (σ.map (·.1)).Nodup) :
    (b.through σ).values = (σ.map (·.2)).filterMap b.get? := by
  rw [Catalog.values, entries_through distinct, List.map_filterMap, List.filterMap_map]
  refine List.filterMap_congr fun e _ => ?_
  show ((b.get? e.2).map (e.1, ·)).map (·.2) = b.get? e.2
  rw [Option.map_map]
  exact Option.map_id' ..

section

variable (keys : b.keys = p.ids) (h : σ.IsSymmetry p checkValues)

include keys h

theorem keys_through_symmetry : (b.through σ).keys = p.ids := by
  rw [keys_through h.distinct fun e member => keys ▸ h.image_mem_ids member, h.domain]

theorem values_through_symmetry : (b.through σ).values.Perm b.values := by
  rw [values_through h.distinct, ← Catalog.filterMap_get?_keys b, keys]
  exact h.images.filterMap b.get?

theorem through_followedBy (h' : τ.IsSymmetry p checkValues) :
    (b.through σ).through τ = b.through (τ.followedBy σ) := by
  have keys' := keys_through_symmetry keys h
  have both := h.followedBy h'
  refine Catalog.ext_get? ?_ fun id declared => ?_
  · rw [keys_through_symmetry keys' h', keys_through_symmetry keys both]
  · rw [keys_through_symmetry keys' h'] at declared
    have there := h'.entry declared
    have combined : (id, σ.image (τ.image id)) ∈ τ.followedBy σ := List.mem_map_of_mem there
    calc ((b.through σ).through τ).get? id
      _ = (b.through σ).get? (τ.image id) := get?_through h'.distinct there
      _ = b.get? (σ.image (τ.image id)) :=
        get?_through h.distinct (h.entry (h'.image_declared declared))
      _ = (b.through (τ.followedBy σ)).get? id := (get?_through both.distinct combined).symm

theorem through_inverse : (b.through σ).through σ.inverse = b := by
  have keys' := keys_through_symmetry keys h
  refine Catalog.ext_get? ?_ fun id declared => ?_
  · rw [keys_through_symmetry keys' h.inverse, keys]
  · rw [keys_through_symmetry keys' h.inverse] at declared
    have there : (id, σ.swapped.image id) ∈ σ.inverse :=
      List.mem_map_of_mem (h.domain ▸ declared)
    rw [get?_through h.inverse.distinct there]
    exact get?_through h.distinct (h.source declared)

omit h in
theorem through_identity : b.through p.identity = b := by
  have sym := Permutation.identity_isSymmetry p false
  refine Catalog.ext_get? ?_ fun id declared => ?_
  · rw [keys_through_symmetry keys sym, keys]
  · rw [keys_through_symmetry keys sym] at declared
    have entry : (id, id) ∈ p.identity := List.mem_map_of_mem declared
    exact get?_through sym.distinct entry

/-- No bindings of different ids stay where they are under two symmetries. -/
theorem through_injective (injective : b.values.Nodup) (h' : τ.IsSymmetry p checkValues)
    (same : b.through σ = b.through τ) : σ = τ := by
  have images : ∀ id ∈ p.ids, σ.image id = τ.image id := by
    intro id declared
    have first := h.entry declared
    have second := h'.entry declared
    have found := get?_through (b := b) h.distinct first
    have found' := get?_through (b := b) h'.distinct second
    rw [same, found'] at found
    have bound : σ.image id ∈ b.keys := keys ▸ h.image_declared declared
    cases value : b.get? (σ.image id) with
    | none => exact absurd bound (Catalog.get?_eq_none_iff.mp value)
    | some v =>
      rw [value] at found
      exact key_eq_of_get? injective value found
  rw [h.eq_images, h'.eq_images]
  exact List.map_congr_left fun id declared => by rw [images id declared]

end

end Bindings

namespace Pattern

variable {p : Pattern} {s : Scene} {checkValues : Bool} {b c : Bindings} {σ τ : Permutation}

/-- Pattern nodes that look for the same accept the same. -/
theorem accepts_eq_of_looksLike {m n : PatternNode} (alike : m.LooksLike checkValues n)
    (node : Node) : m.accepts node checkValues = n.accepts node checkValues := by
  obtain ⟨name, conditions⟩ := alike
  have same (checked : checkValues = true) (f : Spelling × Condition → Bool) :
      m.conditions.entries.all f = n.conditions.entries.all f := by
    have entries (e : Spelling × Condition) :
        e ∈ m.conditions.entries ↔ e ∈ n.conditions.entries := by
      rw [← Catalog.get?_eq_some_iff, ← Catalog.get?_eq_some_iff, conditions checked]
    rw [Bool.eq_iff_iff, List.all_eq_true, List.all_eq_true]
    simp only [entries]
  rw [PatternNode.accepts, PatternNode.accepts, name]
  cases checkValues with
  | false => rfl
  | true => rw [same rfl]

theorem Occurs.hasEdge (h : p.Occurs s checkValues b) {x y v w : Int} (edge : p.hasEdge x y = true)
    (first : b.get? x = some v) (second : b.get? y = some w) : s.graph.hasEdge v w = true := by
  obtain ⟨e, member, same⟩ := List.any_eq_true.mp edge
  obtain ⟨v', w', first', second', there⟩ := h.edges e member
  rcases Edge.between_eq_between_iff.mp (of_decide_eq_true same) with ⟨one, two⟩ | ⟨one, two⟩
  · rw [one, first] at first'
    rw [two, second] at second'
    cases first'
    cases second'
    exact there
  · rw [one, second] at first'
    rw [two, first] at second'
    cases first'
    cases second'
    rwa [Graph.hasEdge, Edge.between_comm] at there

theorem Occurs.through (h : p.Occurs s checkValues b) (sym : σ.IsSymmetry p checkValues) :
    p.Occurs s checkValues (b.through σ) where
  keys := Bindings.keys_through_symmetry h.keys sym
  injective := (Bindings.values_through_symmetry h.keys sym).nodup_iff.mpr h.injective
  accepts n member := by
    have entry := sym.entry (List.mem_map_of_mem member)
    obtain ⟨m, member', same⟩ := exists_node (sym.image_mem_ids entry)
    obtain ⟨id, node, bound, known, there, suits⟩ := h.accepts m member'
    refine ⟨id, node, ?_, known, there, ?_⟩
    · rw [Bindings.get?_through sym.distinct entry, ← same]
      exact bound
    · rw [← accepts_eq_of_looksLike (sym.alike _ entry m member' n member same rfl)]
      exact suits
  edges e member := by
    obtain ⟨declared, declared'⟩ := p.declared e member
    have first := sym.entry declared
    have second := sym.entry declared'
    have bound {id : Int} (inside : id ∈ p.ids) : ∃ v, b.get? (σ.image id) = some v := by
      obtain ⟨m, there, same⟩ := exists_node (sym.image_declared inside)
      obtain ⟨v, -, found, -⟩ := h.accepts m there
      exact ⟨v, same ▸ found⟩
    obtain ⟨v, found⟩ := bound declared
    obtain ⟨w, found'⟩ := bound declared'
    have edge : p.hasEdge e.1 e.2 = true :=
      List.any_eq_true.mpr ⟨e, member, decide_eq_true rfl⟩
    have edge' : p.hasEdge (σ.image e.1) (σ.image e.2) = true :=
      (sym.edges _ first _ second).trans edge
    refine ⟨v, w, ?_, ?_, h.hasEdge edge' found found'⟩
    · rw [Bindings.get?_through sym.distinct first, found]
    · rw [Bindings.get?_through sym.distinct second, found']

/-! ### The first of an orbit -/

/-- No symmetry gives an earlier reading. -/
def IsFirst (p : Pattern) (checkValues : Bool) (b : Bindings) : Prop :=
  ∀ σ : Permutation, σ.IsSymmetry p checkValues → ¬ p.reading (b.through σ) < p.reading b

/-- The search tests just this, though it leaves the identity out. -/
theorem isCanonical_iff (h : p.Occurs s checkValues b) :
    (Matcher.ofPattern s p checkValues true).isCanonical b = true ↔ p.IsFirst checkValues b := by
  have value : ∀ σ ∈ p.symmetries checkValues,
      (b.through σ).values = p.reading (b.through σ) := fun σ member =>
    (h.through (mem_symmetries.mp member)).reading.symm
  have tested : (Matcher.ofPattern s p checkValues true).isCanonical b = true ↔
      ∀ σ ∈ (p.symmetries checkValues).drop 1, ¬ (b.through σ).values < p.reading b := by
    show ((p.symmetries checkValues).drop 1).all
      (fun σ => !decide ((b.through σ).values < p.reading b)) = true ↔ _
    simp only [List.all_eq_true, Bool.not_eq_true', decide_eq_false_iff_not]
  rw [tested]
  constructor
  · intro least σ sym
    have member := mem_symmetries.mpr sym
    rw [← value σ member]
    rw [symmetries_eq_cons] at member
    rcases List.mem_cons.mp member with rfl | later
    · rw [Bindings.through_identity h.keys, h.reading]
      exact List.lt_irrefl _
    · exact least σ later
  · intro first σ member
    have found := List.mem_of_mem_drop member
    rw [value σ found]
    exact first σ (mem_symmetries.mp found)

/-- Of two occurrences in an orbit that are both first, neither is before the other. -/
theorem IsFirst.eq_through (h : p.Occurs s checkValues b) (first : p.IsFirst checkValues b)
    (sym : σ.IsSymmetry p checkValues) (first' : p.IsFirst checkValues (b.through σ)) :
    b.through σ = b := by
  have back := first' σ.inverse sym.inverse
  rw [Bindings.through_inverse h.keys sym] at back
  have same : p.reading (b.through σ) = p.reading b := List.le_antisymm back (first σ sym)
  rw [(h.through sym).reading, h.reading] at same
  apply Catalog.ext_entries
  rw [Catalog.entries_eq_zip (b.through σ), Catalog.entries_eq_zip b, (h.through sym).keys, same,
    h.keys]

theorem exists_least {α : Type} (f : α → List Int) {l : List α} (nonempty : l ≠ []) :
    ∃ a ∈ l, ∀ b ∈ l, ¬ f b < f a := by
  induction l with
  | nil => exact absurd rfl nonempty
  | cons a rest ih =>
    by_cases alone : rest = []
    · refine ⟨a, List.mem_cons_self, fun b member => ?_⟩
      rw [alone] at member
      rw [List.mem_singleton.mp member]
      exact List.lt_irrefl _
    · obtain ⟨least, there, below⟩ := ih alone
      by_cases earlier : f a < f least
      · refine ⟨a, List.mem_cons_self, fun b member less => ?_⟩
        rcases List.mem_cons.mp member with rfl | later
        · exact List.lt_irrefl _ less
        · exact below b later (List.lt_trans less earlier)
      · refine ⟨least, List.mem_cons_of_mem _ there, fun b member => ?_⟩
        rcases List.mem_cons.mp member with rfl | later
        · exact earlier
        · exact below b later

theorem Occurs.exists_first (h : p.Occurs s checkValues b) :
    ∃ σ : Permutation, σ.IsSymmetry p checkValues ∧ p.IsFirst checkValues (b.through σ) := by
  have nonempty : p.symmetries checkValues ≠ [] := by
    rw [symmetries_eq_cons]
    exact List.cons_ne_nil _ _
  obtain ⟨σ, member, least⟩ := exists_least (fun σ => p.reading (b.through σ)) nonempty
  have sym := mem_symmetries.mp member
  refine ⟨σ, sym, fun τ sym' => ?_⟩
  rw [Bindings.through_followedBy h.keys sym sym']
  exact least _ (mem_symmetries.mpr (sym.followedBy sym'))

/-- Every occurrence is that of exactly one first one through one symmetry. -/
theorem Occurs.existsUnique_first (h : p.Occurs s checkValues b) :
    ∃! r : Bindings × Permutation, (p.Occurs s checkValues r.1 ∧ p.IsFirst checkValues r.1) ∧
      r.2.IsSymmetry p checkValues ∧ r.1.through r.2 = b := by
  obtain ⟨σ, sym, first⟩ := h.exists_first
  have occurs := h.through sym
  have back := Bindings.through_inverse h.keys sym
  refine ⟨(b.through σ, σ.inverse), ⟨⟨occurs, first⟩, sym.inverse, back⟩, ?_⟩
  rintro ⟨c, τ⟩ ⟨⟨occurs', first'⟩, sym', reached⟩
  have onward : c.through (σ.followedBy τ) = b.through σ := by
    rw [← Bindings.through_followedBy occurs'.keys sym' sym]
    exact congrArg (Bindings.through · σ) reached
  have same : b.through σ = c := by
    rw [← onward]
    exact first'.eq_through occurs' (sym'.followedBy sym) (onward ▸ first)
  have equal : τ = σ.inverse := by
    refine Bindings.through_injective occurs'.keys sym' occurs'.injective sym.inverse ?_
    rw [reached, ← same, back]
  rw [same, equal]

/-- What breaking the symmetry of a pattern keeps of all its matches. -/
structure OrbitFirsts (p : Pattern) (checkValues : Bool) (all kept : List Bindings) : Prop where
  sublist : kept.Sublist all
  closed : ∀ b ∈ all, ∀ σ : Permutation, σ.IsSymmetry p checkValues → b.through σ ∈ all
  mem_kept : ∀ b, b ∈ kept ↔ b ∈ all ∧ p.IsFirst checkValues b
  represented : ∀ b ∈ all, ∃! r : Bindings × Permutation,
    r.1 ∈ kept ∧ r.2.IsSymmetry p checkValues ∧ r.1.through r.2 = b
  unrelated : ∀ b ∈ kept, ∀ c ∈ kept, ∀ σ : Permutation, σ.IsSymmetry p checkValues →
    b.through σ = c → b = c
  length : all.length = kept.length * (p.symmetries checkValues).length

theorem find_eq (s : Scene) (p : Pattern) (checkValues symmetryBreaking : Bool) :
    (s.find p checkValues symmetryBreaking none).1 = (p.occurrences s checkValues).filter
      (Matcher.ofPattern s p checkValues symmetryBreaking).isCanonical := by
  rw [← Matcher.pending_ofPattern_eq]
  exact (Matcher.sound_ofPattern s p checkValues symmetryBreaking).rest s

theorem mem_find_unbroken : b ∈ (s.find p checkValues false none).1 ↔ p.Occurs s checkValues b := by
  rw [find_eq, List.mem_filter, mem_occurrences]
  exact and_iff_left rfl

theorem mem_find_broken : b ∈ (s.find p checkValues true none).1 ↔
    p.Occurs s checkValues b ∧ p.IsFirst checkValues b := by
  rw [find_eq, List.mem_filter, mem_occurrences]
  exact and_congr_right isCanonical_iff

theorem nodup_find (s : Scene) (p : Pattern) (checkValues symmetryBreaking : Bool) :
    (s.find p checkValues symmetryBreaking none).1.Nodup := by
  rw [find_eq]
  exact (p.nodup_occurrences s checkValues).filter _

/-- Neither is an occurrence in two orbits, nor is it reached twice within one. -/
theorem nodup_orbits (s : Scene) (p : Pattern) (checkValues : Bool) :
    ((s.find p checkValues true none).1.flatMap fun b =>
      (p.symmetries checkValues).map b.through).Nodup := by
  rw [List.nodup_flatMap]
  constructor
  · intro b member
    obtain ⟨occurs, -⟩ := mem_find_broken.mp member
    refine (p.nodup_symmetries checkValues).map_on fun σ found τ found' same => ?_
    exact Bindings.through_injective occurs.keys (mem_symmetries.mp found) occurs.injective
      (mem_symmetries.mp found') same
  · refine (nodup_find s p checkValues true).imp_of_mem ?_
    intro b c member member' different d reached reached'
    obtain ⟨σ, found, rfl⟩ := List.mem_map.mp reached
    obtain ⟨τ, found', same⟩ := List.mem_map.mp reached'
    have first := mem_find_broken.mp member
    have first' := mem_find_broken.mp member'
    have sym := mem_symmetries.mp found
    have unique : (b, σ) = (c, τ) := (first.1.through sym).existsUnique_first.unique
      ⟨first, sym, rfl⟩ ⟨first', mem_symmetries.mp found', same⟩
    exact different (congrArg Prod.fst unique)

/-- The orbits of the matches that are kept make up all matches. -/
theorem find_perm_orbits (s : Scene) (p : Pattern) (checkValues : Bool) :
    (s.find p checkValues false none).1.Perm ((s.find p checkValues true none).1.flatMap fun b =>
      (p.symmetries checkValues).map b.through) := by
  rw [List.perm_ext_iff_of_nodup (nodup_find s p checkValues false) (nodup_orbits s p checkValues)]
  intro b
  rw [mem_find_unbroken, List.mem_flatMap]
  constructor
  · intro occurs
    obtain ⟨⟨c, σ⟩, ⟨first, sym, reached⟩, -⟩ := occurs.existsUnique_first
    exact ⟨c, mem_find_broken.mpr first, List.mem_map.mpr ⟨σ, mem_symmetries.mpr sym, reached⟩⟩
  · rintro ⟨c, member, reached⟩
    obtain ⟨σ, found, rfl⟩ := List.mem_map.mp reached
    exact (mem_find_broken.mp member).1.through (mem_symmetries.mp found)

/-- Of all occurrences, in their order, a search that breaks symmetry keeps the one of every orbit
that reads first, so that each occurrence is one of them through exactly one symmetry. -/
theorem find_keeps_orbit_firsts (s : Scene) (p : Pattern) (checkValues : Bool) :
    (∀ σ, σ ∈ p.symmetries checkValues ↔ σ.IsSymmetry p checkValues) ∧
    (p.symmetries checkValues).Nodup ∧
    (∀ b, b ∈ (s.find p checkValues false none).1 ↔ p.Occurs s checkValues b) ∧
    p.OrbitFirsts checkValues (s.find p checkValues false none).1
      (s.find p checkValues true none).1 := by
  refine ⟨fun σ => mem_symmetries, p.nodup_symmetries checkValues, fun b => mem_find_unbroken, ?_⟩
  constructor
  · have all : (s.find p checkValues false none).1 = p.occurrences s checkValues := by
      rw [find_eq]
      exact List.filter_eq_self.mpr fun b _ => rfl
    rw [all, find_eq]
    exact List.filter_sublist
  · intro b member σ sym
    exact mem_find_unbroken.mpr ((mem_find_unbroken.mp member).through sym)
  · intro b
    rw [mem_find_broken, mem_find_unbroken]
  · intro b member
    simp only [mem_find_broken]
    exact (mem_find_unbroken.mp member).existsUnique_first
  · intro b member c member' σ sym reached
    obtain ⟨occurs, first⟩ := mem_find_broken.mp member
    obtain ⟨-, first'⟩ := mem_find_broken.mp member'
    rw [← reached] at first' ⊢
    exact (first.eq_through occurs sym first').symm
  · rw [(find_perm_orbits s p checkValues).length_eq, List.length_flatMap]
    simp only [List.length_map]
    rw [List.map_const', List.sum_replicate_nat]

end Pattern

end GrowthGrammar
