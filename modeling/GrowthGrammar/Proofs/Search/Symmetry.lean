import GrowthGrammar.Pattern.Symmetry
import Mathlib.Data.List.Nodup
import Mathlib.Data.List.Perm.Subperm

/-!
Symmetries found: the search for the symmetries of a pattern gives each permutation of its ids that
keeps what the nodes look for and which of them have edges, and it gives the identity first.
-/
namespace GrowthGrammar

/-- Two pattern nodes look for the same: the name, and where values are checked the condition on
every attribute. -/
def PatternNode.LooksLike (checkValues : Bool) (m n : PatternNode) : Prop :=
  m.name? = n.name? ∧ (checkValues = true → ∀ key, m.conditions.get? key = n.conditions.get? key)

/-- A permutation of the ids of a pattern under which nobody could tell it from itself. -/
structure Permutation.IsSymmetry (σ : Permutation) (p : Pattern) (checkValues : Bool) : Prop where
  domain : σ.map (·.1) = p.ids
  images : (σ.map (·.2)).Perm p.ids
  alike : ∀ e ∈ σ, ∀ m ∈ p.nodes, ∀ n ∈ p.nodes, m.id = e.2 → n.id = e.1 →
    m.LooksLike checkValues n
  edges : ∀ e ∈ σ, ∀ f ∈ σ, p.hasEdge e.2 f.2 = p.hasEdge e.1 f.1

namespace Catalog

variable {κ α : Type} [DecidableEq κ]

theorem sameEntries_iff [DecidableEq α] {c d : Catalog κ α} :
    c.sameEntries d = true ↔ ∀ k, c.get? k = d.get? k := by
  have nodup (c : Catalog κ α) : c.entries.Nodup := List.Nodup.of_map _ c.distinct
  have same (c : Catalog κ α) (k : κ) (v : α) : c.get? k = some v ↔ (k, v) ∈ c.entries :=
    get?_eq_some_iff
  rw [sameEntries, Bool.and_eq_true, beq_iff_eq, List.all_eq_true]
  constructor
  · rintro ⟨size, found⟩ k
    have subset : c.entries ⊆ d.entries := fun e member =>
      (same d e.1 e.2).mp (by simpa using found e member)
    have perm : c.entries.Perm d.entries :=
      (List.subperm_of_subset (nodup c) subset).perm_of_length_le (Nat.le_of_eq size.symm)
    refine Option.ext fun v => ?_
    rw [same, same, perm.mem_iff]
  · intro equal
    have perm : c.entries.Perm d.entries := by
      rw [List.perm_ext_iff_of_nodup (nodup c) (nodup d)]
      rintro ⟨k, v⟩
      rw [← same, ← same, equal k]
    refine ⟨perm.length_eq, ?_⟩
    rintro ⟨k, v⟩ member
    rw [beq_iff_eq, ← equal k]
    exact (same c k v).mpr member

end Catalog

namespace Pattern

variable {p : Pattern} {checkValues : Bool}

theorem alike_iff {m n : PatternNode} :
    alike checkValues m n = true ↔ m.LooksLike checkValues n := by
  rw [alike, Bool.and_eq_true, beq_iff_eq, Bool.or_eq_true, Catalog.sameEntries_iff,
    PatternNode.LooksLike]
  cases checkValues <;> simp

theorem node?_eq_some_iff {id : Int} {n : PatternNode} :
    p.node? id = some n ↔ n ∈ p.nodes ∧ n.id = id := by
  have byId : ∀ m ∈ p.nodes, ∀ n ∈ p.nodes, m.id = n.id → m = n :=
    fun m hm n hn => List.inj_on_of_nodup_map p.distinct hm hn
  constructor
  · intro found
    exact ⟨List.mem_of_find?_eq_some found, by simpa using List.find?_some found⟩
  · rintro ⟨member, rfl⟩
    cases found : p.node? n.id with
    | none => simpa using List.find?_eq_none.mp found n member
    | some m =>
      have same : m.id = n.id := by simpa using List.find?_some found
      rw [byId m (List.mem_of_find?_eq_some found) n member same]

theorem exists_node {id : Int} (declared : id ∈ p.ids) : ∃ n ∈ p.nodes, n.id = id :=
  List.mem_map.mp declared

theorem alikeIds_iff {a b : Int} : p.alikeIds checkValues a b = true ↔
    a ∈ p.ids ∧ b ∈ p.ids ∧ ∀ m ∈ p.nodes, ∀ n ∈ p.nodes, m.id = a → n.id = b →
      m.LooksLike checkValues n := by
  constructor
  · intro alike
    unfold alikeIds at alike
    split at alike
    · rename_i m n first second
      obtain ⟨member, rfl⟩ := node?_eq_some_iff.mp first
      obtain ⟨member', rfl⟩ := node?_eq_some_iff.mp second
      refine ⟨List.mem_map_of_mem member, List.mem_map_of_mem member', ?_⟩
      intro m' hm n' hn same same'
      rw [node?_eq_some_iff.mpr ⟨hm, same⟩] at first
      rw [node?_eq_some_iff.mpr ⟨hn, same'⟩] at second
      cases first
      cases second
      exact alike_iff.mp alike
    · exact absurd alike Bool.false_ne_true
  · rintro ⟨first, second, looks⟩
    obtain ⟨m, member, same⟩ := exists_node first
    obtain ⟨n, member', same'⟩ := exists_node second
    rw [alikeIds, node?_eq_some_iff.mpr ⟨member, same⟩, node?_eq_some_iff.mpr ⟨member', same'⟩]
    exact alike_iff.mpr (looks m member n member' same same')

theorem hasEdge_comm (p : Pattern) (a b : Int) : p.hasEdge a b = p.hasEdge b a := by
  rw [hasEdge, hasEdge, Edge.between_comm a b]

/-! ### Images of the first ids -/

/-- What the images of some ids have to keep, the number of neighbours included. -/
structure Keeps (p : Pattern) (checkValues : Bool) (images : Permutation) : Prop where
  inside : ∀ e ∈ images, e.2 ∈ p.ids
  injective : (images.map (·.2)).Nodup
  alike : ∀ e ∈ images, p.alikeIds checkValues e.2 e.1 = true
  degrees : ∀ e ∈ images, p.degree e.2 = p.degree e.1
  edges : ∀ e ∈ images, ∀ f ∈ images, p.hasEdge e.2 f.2 = p.hasEdge e.1 f.1

variable {images later σ : Permutation} {id candidate : Int} {rest : List Int}

theorem keeps_nil : p.Keeps checkValues [] := by
  constructor <;> simp

theorem Keeps.left (h : p.Keeps checkValues (images ++ later)) : p.Keeps checkValues images where
  inside e member := h.inside e (List.mem_append_left _ member)
  injective := by
    have injective := h.injective
    rw [List.map_append] at injective
    exact (List.nodup_append.mp injective).1
  alike e member := h.alike e (List.mem_append_left _ member)
  degrees e member := h.degrees e (List.mem_append_left _ member)
  edges e member f member' :=
    h.edges e (List.mem_append_left _ member) f (List.mem_append_left _ member')

/-- The test for a candidate asks what one more image has to keep. -/
theorem mayMap_iff : p.mayMap checkValues images id candidate = true ↔
    (candidate ∉ images.map (·.2) ∧ p.alikeIds checkValues candidate id = true ∧
      p.degree candidate = p.degree id) ∧
    (∀ e ∈ images, p.hasEdge candidate e.2 = p.hasEdge id e.1) ∧
    p.hasEdge candidate candidate = p.hasEdge id id := by
  simp only [mayMap, Bool.and_eq_true, Bool.not_eq_true', List.any_eq_false, decide_eq_true_eq,
    beq_iff_eq, List.all_eq_true, List.mem_map, not_exists, not_and, and_assoc]

theorem keeps_append : p.Keeps checkValues (images ++ [(id, candidate)]) ↔
    p.Keeps checkValues images ∧ candidate ∈ p.ids ∧
      p.mayMap checkValues images id candidate = true := by
  rw [mayMap_iff]
  constructor
  · intro keeps
    have last : (id, candidate) ∈ images ++ [(id, candidate)] := by simp
    have injective := keeps.injective
    rw [List.map_append] at injective
    have unused : candidate ∉ images.map (·.2) := fun used =>
      (List.nodup_append.mp injective).2.2 candidate used candidate (List.mem_singleton_self _) rfl
    exact ⟨keeps.left, keeps.inside _ last, ⟨unused, keeps.alike _ last, keeps.degrees _ last⟩,
      fun e member => keeps.edges _ last e (List.mem_append_left _ member),
      keeps.edges _ last _ last⟩
  · rintro ⟨keeps, declared, ⟨unused, alike, degree⟩, edges, loop⟩
    have cases_of {P : Int × Int → Prop} (first : ∀ e ∈ images, P e) (last : P (id, candidate)) :
        ∀ e ∈ images ++ [(id, candidate)], P e := by
      intro e member
      rcases List.mem_append.mp member with member | member
      · exact first e member
      · rw [List.mem_singleton.mp member]
        exact last
    refine ⟨cases_of keeps.inside declared, ?_, cases_of keeps.alike alike,
      cases_of keeps.degrees degree, cases_of (fun e member => ?_) (cases_of edges loop)⟩
    · rw [List.map_append]
      refine List.nodup_append.mpr ⟨keeps.injective, List.nodup_singleton _, ?_⟩
      rintro a used b last rfl
      rw [List.mem_singleton.mp last] at used
      exact unused used
    · refine cases_of (keeps.edges e member) ?_
      show p.hasEdge e.2 candidate = p.hasEdge e.1 id
      rw [p.hasEdge_comm, edges e member, p.hasEdge_comm]

/-- All extensions are found that keep what they have to. -/
theorem mem_extendImages (keeps : p.Keeps checkValues images) :
    σ ∈ p.extendImages checkValues images rest ↔
      (∃ later, σ = images ++ later ∧ later.map (·.1) = rest) ∧ p.Keeps checkValues σ := by
  induction rest generalizing images with
  | nil =>
    rw [extendImages, List.mem_singleton]
    constructor
    · rintro rfl
      exact ⟨⟨[], (List.append_nil _).symm, rfl⟩, keeps⟩
    · rintro ⟨⟨later, rfl, nothing⟩, -⟩
      rw [List.map_eq_nil_iff.mp nothing, List.append_nil]
  | cons id rest ih =>
    rw [extendImages, List.mem_flatMap]
    constructor
    · rintro ⟨candidate, declared, member⟩
      split at member
      · rename_i may
        obtain ⟨⟨later, rfl, ids⟩, whole⟩ :=
          (ih (keeps_append.mpr ⟨keeps, declared, may⟩)).mp member
        refine ⟨⟨(id, candidate) :: later, ?_, by rw [List.map_cons, ids]⟩, whole⟩
        rw [List.append_assoc]
        rfl
      · exact absurd member List.not_mem_nil
    · rintro ⟨⟨later, rfl, ids⟩, whole⟩
      obtain ⟨⟨id, candidate⟩, later, rfl, rfl, tail⟩ := List.map_eq_cons_iff.mp ids
      have first : p.Keeps checkValues (images ++ [(id, candidate)]) := by
        rw [List.append_cons] at whole
        exact whole.left
      obtain ⟨-, declared, may⟩ := keeps_append.mp first
      refine ⟨candidate, declared, ?_⟩
      rw [if_pos may]
      exact (ih first).mpr ⟨⟨later, List.append_cons .., tail⟩, whole⟩

/-! ### All ids -/

theorem degree_image (h : σ.IsSymmetry p checkValues) {e : Int × Int} (member : e ∈ σ) :
    p.degree e.2 = p.degree e.1 := by
  have neighbors : σ.countP (fun f => p.hasEdge e.2 f.2) = σ.countP fun f => p.hasEdge e.1 f.1 :=
    List.countP_congr fun f there => by rw [h.edges e member f there]
  calc p.degree e.2
    _ = p.ids.countP (p.hasEdge e.2) := List.countP_eq_length_filter.symm
    _ = (σ.map (·.2)).countP (p.hasEdge e.2) := (h.images.countP_eq _).symm
    _ = σ.countP fun f => p.hasEdge e.2 f.2 := List.countP_map
    _ = σ.countP fun f => p.hasEdge e.1 f.1 := neighbors
    _ = p.ids.countP (p.hasEdge e.1) := by
      rw [← h.domain, List.countP_map]
      rfl
    _ = p.degree e.1 := List.countP_eq_length_filter

theorem nodup_ids (p : Pattern) : p.ids.Nodup := p.distinct

/-- The symmetries that are found are all that there are. -/
theorem mem_symmetries : σ ∈ p.symmetries checkValues ↔ σ.IsSymmetry p checkValues := by
  rw [symmetries, mem_extendImages keeps_nil]
  constructor
  · rintro ⟨⟨_, rfl, domain⟩, keeps⟩
    have inside : (σ.map (·.2)) ⊆ p.ids := by
      intro id member
      obtain ⟨e, there, rfl⟩ := List.mem_map.mp member
      exact keeps.inside e there
    have size : p.ids.length = (σ.map (·.2)).length := by
      rw [← domain, List.length_map, List.length_map]
    refine ⟨domain, ?_, ?_, keeps.edges⟩
    · exact (List.subperm_of_subset keeps.injective inside).perm_of_length_le (Nat.le_of_eq size)
    · exact fun e member => (alikeIds_iff.mp (keeps.alike e member)).2.2
  · intro h
    have declared : ∀ e ∈ σ, e.1 ∈ p.ids ∧ e.2 ∈ p.ids := fun e member =>
      ⟨h.domain ▸ List.mem_map_of_mem member, h.images.mem_iff.mp (List.mem_map_of_mem member)⟩
    refine ⟨⟨σ, rfl, h.domain⟩, fun e member => (declared e member).2,
      h.images.nodup_iff.mpr p.nodup_ids, fun e member => ?_, fun e => degree_image h, h.edges⟩
    exact alikeIds_iff.mpr ⟨(declared e member).2, (declared e member).1, h.alike e member⟩

theorem prefix_of_mem_extendImages (member : σ ∈ p.extendImages checkValues images rest) :
    images <+: σ := by
  induction rest generalizing images with
  | nil =>
    obtain rfl := List.mem_singleton.mp member
    exact List.prefix_refl _
  | cons id rest ih =>
    rw [extendImages, List.mem_flatMap] at member
    obtain ⟨candidate, -, member⟩ := member
    split at member
    · exact (List.prefix_append ..).trans (ih member)
    · exact absurd member List.not_mem_nil

theorem nodup_symmetries (p : Pattern) (checkValues : Bool) : (p.symmetries checkValues).Nodup := by
  suffices distinct : ∀ rest images, (p.extendImages checkValues images rest).Nodup from
    distinct p.ids []
  intro rest
  induction rest with
  | nil => exact fun _ => List.nodup_singleton _
  | cons id rest ih =>
    intro images
    rw [extendImages, List.nodup_flatMap]
    -- What is found for a candidate has it at the place of the id.
    have here : ∀ candidate, ∀ σ ∈ (if p.mayMap checkValues images id candidate then
        p.extendImages checkValues (images ++ [(id, candidate)]) rest else []),
        ∃ later, σ = images ++ (id, candidate) :: later := by
      intro candidate σ member
      split at member
      · obtain ⟨later, same⟩ := prefix_of_mem_extendImages member
        exact ⟨later, by rw [← same, List.append_assoc]; rfl⟩
      · exact absurd member List.not_mem_nil
    refine ⟨fun candidate _ => ?_, p.nodup_ids.imp fun {a b} different σ first second => ?_⟩
    · split
      · exact ih _
      · exact List.nodup_nil
    · obtain ⟨_, rfl⟩ := here a σ first
      obtain ⟨_, same⟩ := here b _ second
      rw [List.append_cancel_left_eq] at same
      exact different (congrArg Prod.snd (List.cons.inj same).1)

/-! ### The identity -/

def identity (p : Pattern) : Permutation := p.ids.map fun id => (id, id)

theorem mayMap_same {before : List Int} {id : Int} (declared : id ∈ p.ids) (new : id ∉ before) :
    p.mayMap checkValues (before.map fun id => (id, id)) id id = true := by
  rw [mayMap_iff, alikeIds_iff]
  refine ⟨⟨by simpa using new, ⟨declared, declared, ?_⟩, rfl⟩, ?_, rfl⟩
  · intro m member n member' same same'
    rw [List.inj_on_of_nodup_map p.distinct member member' (same.trans same'.symm)]
    exact ⟨rfl, fun _ _ => rfl⟩
  · intro e member
    obtain ⟨other, -, rfl⟩ := List.mem_map.mp member
    rfl

/-- The first images that are found for the ids are the ids themselves. -/
theorem head?_extendImages {before rest : List Int} (split : p.ids = before ++ rest) :
    (p.extendImages checkValues (before.map fun id => (id, id)) rest).head? = some p.identity := by
  induction rest generalizing before with
  | nil => rw [extendImages, identity, split, List.append_nil, List.head?_cons]
  | cons id rest ih =>
    have distinct := p.nodup_ids
    rw [split] at distinct
    have new : id ∉ before := fun member =>
      (List.nodup_append.mp distinct).2.2 id member id List.mem_cons_self rfl
    have declared : id ∈ p.ids := by
      rw [split]
      exact List.mem_append_right _ List.mem_cons_self
    have next : (p.extendImages checkValues ((before ++ [id]).map fun id => (id, id)) rest).head? =
        some p.identity := ih (by rw [split, List.append_cons])
    rw [extendImages, split, List.flatMap_append, List.flatMap_cons,
      if_pos (mayMap_same declared new)]
    have used : ∀ candidate ∈ before,
        p.mayMap checkValues (before.map fun id => (id, id)) id candidate = false := by
      intro candidate member
      refine eq_false_of_ne_true fun may => ?_
      exact (mayMap_iff.mp may).1.1 (by simpa using member)
    have nothing : (before.flatMap fun candidate =>
        if p.mayMap checkValues (before.map fun id => (id, id)) id candidate then
          p.extendImages checkValues ((before.map fun id => (id, id)) ++ [(id, candidate)]) rest
        else []) = [] := by
      refine List.flatMap_eq_nil_iff.mpr fun candidate member => ?_
      rw [used candidate member, if_neg Bool.false_ne_true]
    rw [List.map_append] at next
    rw [nothing, List.nil_append, List.head?_append]
    exact Option.or_eq_some_iff.mpr (.inl next)

theorem symmetries_eq_cons (p : Pattern) (checkValues : Bool) :
    p.symmetries checkValues = p.identity :: (p.symmetries checkValues).drop 1 := by
  have first : (p.symmetries checkValues).head? = some p.identity :=
    head?_extendImages (List.nil_append p.ids).symm
  rw [List.drop_one]
  exact (List.cons_head?_tail first).symm

end Pattern

end GrowthGrammar
