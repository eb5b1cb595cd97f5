import GrowthGrammar.Proofs.Search.Orbit
import Mathlib.Algebra.Group.End
import Mathlib.Algebra.Group.Subgroup.Defs

/-!
Automorphisms: the symmetries that are found for a pattern are the tables of a group of permutations
of its ids, each of them once.
-/
namespace GrowthGrammar

namespace Pattern

/-- The ids that the pattern declares. -/
abbrev Declared (p : Pattern) : Type := {id : Int // id ∈ p.ids}

/-- Some edge of the pattern is between the two, written in either direction. -/
def Joined (p : Pattern) (a b : Int) : Prop := (a, b) ∈ p.edges ∨ (b, a) ∈ p.edges

variable {p : Pattern} {checkValues : Bool} {σ : Permutation} {s t : Equiv.Perm p.Declared}

theorem hasEdge_iff {a b : Int} : p.hasEdge a b = true ↔ p.Joined a b := by
  simp only [hasEdge, List.any_eq_true, decide_eq_true_eq, Edge.between_eq_between_iff]
  constructor
  · rintro ⟨⟨x, y⟩, member, ⟨rfl, rfl⟩ | ⟨rfl, rfl⟩⟩
    · exact .inl member
    · exact .inr member
  · rintro (member | member)
    · exact ⟨_, member, .inl ⟨rfl, rfl⟩⟩
    · exact ⟨_, member, .inr ⟨rfl, rfl⟩⟩

/-- A permutation of the ids that keeps what is looked for under each of them, and which of them are
joined, loops included. -/
structure Preserves (p : Pattern) (checkValues : Bool) (s : Equiv.Perm p.Declared) : Prop where
  alike : ∀ a : p.Declared, ∀ m ∈ p.nodes, ∀ n ∈ p.nodes, m.id = s a → n.id = a →
    m.LooksLike checkValues n
  joined : ∀ a b : p.Declared, p.Joined (s a) (s b) ↔ p.Joined a b

theorem preserves_one : p.Preserves checkValues 1 where
  alike a m member n member' same same' := by
    obtain rfl : m = n := List.inj_on_of_nodup_map p.distinct member member' (same.trans same'.symm)
    exact ⟨rfl, fun _ _ => rfl⟩
  joined a b := Iff.rfl

theorem Preserves.mul (h : p.Preserves checkValues s) (h' : p.Preserves checkValues t) :
    p.Preserves checkValues (s * t) where
  alike a m member n member' same same' := by
    obtain ⟨k, between, middle⟩ := exists_node (t a).2
    have outer := h.alike (t a) m member k between same middle
    have inner := h'.alike a k between n member' middle same'
    exact ⟨outer.1.trans inner.1,
      fun checked key => (outer.2 checked key).trans (inner.2 checked key)⟩
  joined a b := (h.joined (t a) (t b)).trans (h'.joined a b)

theorem Preserves.inv (h : p.Preserves checkValues s) : p.Preserves checkValues s⁻¹ where
  alike a m member n member' same same' := by
    have back : (s (s⁻¹ a) : Int) = a := congrArg Subtype.val (s.apply_symm_apply a)
    have alike := h.alike (s⁻¹ a) n member' m member (same'.trans back.symm) same
    exact ⟨alike.1.symm, fun checked key => (alike.2 checked key).symm⟩
  joined a b := by
    have onward := h.joined (s⁻¹ a) (s⁻¹ b)
    rw [Equiv.Perm.inv_def, s.apply_symm_apply, s.apply_symm_apply] at onward
    exact onward.symm

def automorphisms (p : Pattern) (checkValues : Bool) : Subgroup (Equiv.Perm p.Declared) where
  carrier := {s | p.Preserves checkValues s}
  mul_mem' := Preserves.mul
  one_mem' := preserves_one
  inv_mem' := Preserves.inv

/-- The images of the ids, in the order of their declaration. -/
def table (s : Equiv.Perm p.Declared) : Permutation := p.ids.attach.map fun a => (a.1, (s a).1)

theorem mem_table {e : Int × Int} : e ∈ table s ↔ ∃ a : p.Declared, ((a : Int), (s a : Int)) = e := by
  simp [table]

theorem table_fst (s : Equiv.Perm p.Declared) : (table s).map (·.1) = p.ids := by
  rw [table, List.map_map]
  exact p.ids.attach_map_subtype_val

theorem table_snd_perm (s : Equiv.Perm p.Declared) : ((table s).map (·.2)).Perm p.ids := by
  have distinct : p.ids.attach.Nodup := List.nodup_attach.mpr p.nodup_ids
  have moved : (p.ids.attach.map s).Perm p.ids.attach := by
    rw [List.perm_ext_iff_of_nodup (distinct.map s.injective) distinct]
    intro a
    have reached : a ∈ p.ids.attach.map s :=
      List.mem_map.mpr ⟨s⁻¹ a, List.mem_attach _ _, s.apply_symm_apply a⟩
    exact iff_of_true reached (List.mem_attach _ a)
  have images : (table s).map (·.2) = (p.ids.attach.map s).map Subtype.val := by
    simp only [table, List.map_map, Function.comp_def]
  rw [images]
  have values := moved.map Subtype.val
  rwa [List.attach_map_subtype_val] at values

theorem table_one : table (1 : Equiv.Perm p.Declared) = p.identity := by
  show p.ids.attach.map ((fun id => (id, id)) ∘ Subtype.val) = _
  rw [← List.map_map, List.attach_map_subtype_val, identity]

/-- A table is a symmetry just if it is that of an automorphism. -/
theorem isSymmetry_table_iff :
    (table s).IsSymmetry p checkValues ↔ s ∈ p.automorphisms checkValues := by
  constructor
  · intro sym
    have entry (a : p.Declared) : ((a : Int), (s a : Int)) ∈ table s := mem_table.mpr ⟨a, rfl⟩
    refine ⟨fun a => sym.alike _ (entry a), fun a b => ?_⟩
    rw [← hasEdge_iff, ← hasEdge_iff, sym.edges _ (entry a) _ (entry b)]
  · intro preserves
    refine ⟨table_fst s, table_snd_perm s, ?_, ?_⟩
    · intro e member
      obtain ⟨a, rfl⟩ := mem_table.mp member
      exact preserves.alike a
    · intro e member f member'
      obtain ⟨a, rfl⟩ := mem_table.mp member
      obtain ⟨b, rfl⟩ := mem_table.mp member'
      rw [Bool.eq_iff_iff, hasEdge_iff, hasEdge_iff]
      exact preserves.joined a b

/-- Every symmetry is the table of a permutation. -/
theorem exists_table (h : σ.IsSymmetry p checkValues) :
    ∃ s : Equiv.Perm p.Declared, table s = σ := by
  have back : ∀ id ∈ p.ids, σ.swapped.image (σ.image id) = id := by
    intro id declared
    have source := h.source (h.image_declared declared)
    exact congrArg Prod.fst
      (List.inj_on_of_nodup_map h.distinct_images source (h.entry declared) rfl)
  have inside : ∀ id ∈ p.ids, σ.swapped.image id ∈ p.ids := by
    intro id declared
    have source := List.mem_map_of_mem (f := Prod.fst) (h.source declared)
    rwa [h.domain] at source
  let s : Equiv.Perm p.Declared :=
    { toFun := fun a => ⟨σ.image a, h.image_declared a.2⟩
      invFun := fun a => ⟨σ.swapped.image a, inside a a.2⟩
      left_inv := fun a => Subtype.ext (back a a.2)
      right_inv := fun a => Subtype.ext (Permutation.eq_image h.distinct (h.source a.2)) }
  refine ⟨s, ?_⟩
  calc table s
    _ = (p.ids.attach.map Subtype.val).map fun id => (id, σ.image id) := by
      rw [List.map_map]
      rfl
    _ = σ := by rw [List.attach_map_subtype_val, ← h.eq_images]

theorem table_mem_symmetries :
    table s ∈ p.symmetries checkValues ↔ s ∈ p.automorphisms checkValues :=
  mem_symmetries.trans isSymmetry_table_iff

/-- The symmetries found are the tables of the automorphisms, each once and that of the identity
first. With two of them there is their composite, and with each its inverse. -/
theorem symmetries_list_automorphisms (p : Pattern) (checkValues : Bool) :
    (p.symmetries checkValues).Nodup ∧
    (p.symmetries checkValues).head? = some (table (1 : Equiv.Perm p.Declared)) ∧
    (∀ σ, σ ∈ p.symmetries checkValues ↔ ∃ s ∈ p.automorphisms checkValues, table s = σ) ∧
    (∀ s t : Equiv.Perm p.Declared, table s ∈ p.symmetries checkValues →
      table t ∈ p.symmetries checkValues → table (s * t) ∈ p.symmetries checkValues) ∧
    (∀ s : Equiv.Perm p.Declared, table s ∈ p.symmetries checkValues →
      table s⁻¹ ∈ p.symmetries checkValues) := by
  refine ⟨p.nodup_symmetries checkValues, ?_, ?_, ?_, ?_⟩
  · rw [symmetries_eq_cons, table_one, List.head?_cons]
  · intro σ
    constructor
    · intro found
      obtain ⟨s, rfl⟩ := exists_table (mem_symmetries.mp found)
      exact ⟨s, table_mem_symmetries.mp found, rfl⟩
    · rintro ⟨s, automorphism, rfl⟩
      exact table_mem_symmetries.mpr automorphism
  · intro s t found found'
    rw [table_mem_symmetries] at *
    exact mul_mem found found'
  · intro s found
    rw [table_mem_symmetries] at *
    exact inv_mem found

end Pattern

end GrowthGrammar
