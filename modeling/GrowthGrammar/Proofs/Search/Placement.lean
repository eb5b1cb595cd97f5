import GrowthGrammar.Pattern.Matcher
import GrowthGrammar.Proofs.Graph.FreeIds
import Mathlib.Data.List.Nodup

/-!
Placements: all ways to bind the nodes of a pattern to different ids, by plain recursion, and those
among them that are occurrences of the pattern in a scene. They come in lexicographic order.
-/
namespace GrowthGrammar

/-- What it means for a pattern to occur in a scene under bindings. -/
structure Pattern.Occurs (p : Pattern) (s : Scene) (checkValues : Bool) (b : Bindings) : Prop where
  keys : b.keys = p.ids
  injective : b.values.Nodup
  accepts : ∀ n ∈ p.nodes, ∃ id node, b.get? n.id = some id ∧ id ∈ s.graph.ids ∧
    s.node? id = some node ∧ n.accepts node checkValues = true
  edges : ∀ e ∈ p.edges, ∃ x y, b.get? e.1 = some x ∧ b.get? e.2 = some y ∧
    s.graph.hasEdge x y = true

namespace Bindings

/-- All ways to bind further pattern nodes to ids that are not bound yet. -/
def placements (ids : List Int) (b : Bindings) : List PatternNode → List Bindings
  | [] => [b]
  | n :: rest =>
    ids.flatMap fun id => if id ∈ b.values then [] else placements ids (b.put n.id id) rest

def satisfies (b : Bindings) (s : Scene) (checkValues : Bool) (n : PatternNode) : Bool :=
  match (b.get? n.id).bind s.node? with
  | some node => n.accepts node checkValues
  | none => false

variable {ids : List Int} {b c : Bindings} {nodes : List PatternNode}

theorem values_put {n : Int} (absent : n ∉ b.keys) (id : Int) :
    (b.put n id).values = b.values ++ [id] := by
  rw [Catalog.values, Catalog.entries_put absent, List.map_append]
  rfl

theorem keys_put {n : Int} (absent : n ∉ b.keys) (id : Int) :
    (b.put n id).keys = b.keys ++ [n] := by
  rw [Catalog.keys, Catalog.entries_put absent, List.map_append]
  rfl

theorem nodup_values_put {n id : Int} (absent : n ∉ b.keys) (distinct : b.values.Nodup)
    (fresh : id ∉ b.values) : (b.put n id).values.Nodup := by
  rw [values_put absent]
  refine List.nodup_append.mpr ⟨distinct, by simp, ?_⟩
  intro old member new single same
  rw [List.mem_singleton.mp single] at same
  exact fresh (same ▸ member)

/-- Where the ids are different, an id tells its pattern node. -/
theorem key_eq_of_get? (injective : b.values.Nodup) {m n v : Int} (first : b.get? m = some v)
    (second : b.get? n = some v) : m = n := by
  have one := Catalog.get?_eq_some_iff.mp first
  have two := Catalog.get?_eq_some_iff.mp second
  exact congrArg Prod.fst (List.inj_on_of_nodup_map injective one two rfl)

/-- The ids of further pattern nodes are different from one another and from those bound. -/
def Further (b : Bindings) (nodes : List PatternNode) : Prop :=
  (b.keys ++ nodes.map (·.id)).Nodup

theorem Further.absent {n : PatternNode} (h : Further b (n :: nodes)) : n.id ∉ b.keys :=
  fun member => (List.nodup_append.mp h).2.2 n.id member n.id (by simp) rfl

theorem Further.put {n : PatternNode} (h : Further b (n :: nodes)) (id : Int) :
    Further (b.put n.id id) nodes := by
  unfold Further
  rw [keys_put h.absent, List.append_assoc]
  exact h

/-- A placement adds an entry for each of the further nodes, to ids that are different. -/
theorem mem_placements (further : Further b nodes) (distinct : b.values.Nodup) :
    c ∈ placements ids b nodes ↔
      ∃ chosen : List Int, chosen.length = nodes.length ∧ (∀ id ∈ chosen, id ∈ ids) ∧
        (b.values ++ chosen).Nodup ∧ c.entries = b.entries ++ (nodes.map (·.id)).zip chosen := by
  induction nodes generalizing b with
  | nil =>
    rw [placements, List.mem_singleton]
    constructor
    · rintro rfl
      exact ⟨[], rfl, by simp, by simpa using distinct, by simp⟩
    · rintro ⟨chosen, empty, -, -, same⟩
      rw [List.eq_nil_of_length_eq_zero empty] at same
      exact Catalog.ext_entries (by simpa using same)
  | cons n rest ih =>
    have absent := further.absent
    rw [placements, List.mem_flatMap]
    constructor
    · rintro ⟨id, known, member⟩
      split at member
      · simp at member
      · rename_i fresh
        obtain ⟨chosen, length, inside, nodup, entries⟩ :=
          (ih (further.put id) (nodup_values_put absent distinct fresh)).mp member
        refine ⟨id :: chosen, by simp [length], ?_, ?_, ?_⟩
        · simpa using ⟨known, inside⟩
        · rw [values_put absent, List.append_assoc] at nodup
          exact nodup
        · rw [entries, Catalog.entries_put absent, List.append_assoc]
          rfl
    · rintro ⟨chosen, length, inside, nodup, entries⟩
      obtain ⟨id, later, rfl⟩ := List.exists_cons_of_length_eq_add_one length
      have fresh : id ∉ b.values := fun member =>
        (List.nodup_append.mp nodup).2.2 id member id (by simp) rfl
      refine ⟨id, inside id List.mem_cons_self, ?_⟩
      rw [if_neg fresh]
      have split : b.values ++ id :: later = (b.put n.id id).values ++ later := by
        rw [values_put absent, List.append_assoc]
        rfl
      rw [split] at nodup
      refine (ih (further.put id) (List.nodup_append.mp nodup).1).mpr ⟨later, ?_, ?_, nodup, ?_⟩
      · simpa using length
      · exact fun other member => inside other (List.mem_cons_of_mem _ member)
      · rw [entries, Catalog.entries_put absent, List.append_assoc]
        rfl

theorem get?_of_mem_placements (further : Further b nodes) (member : c ∈ placements ids b nodes)
    {n : Int} (bound : n ∈ b.keys) : c.get? n = b.get? n := by
  induction nodes generalizing b with
  | nil => rw [List.mem_singleton.mp member]
  | cons m rest ih =>
    rw [placements, List.mem_flatMap] at member
    obtain ⟨id, -, member⟩ := member
    split at member
    · simp at member
    · have different : m.id ≠ n := fun same => further.absent (same ▸ bound)
      have later : n ∈ (b.put m.id id).keys := by
        rw [keys_put further.absent]
        exact List.mem_append_left _ bound
      rw [ih (further.put id) member later, Catalog.get?_put, if_neg different]

theorem values_of_mem_placements (further : Further b nodes) (member : c ∈ placements ids b nodes) :
    ∃ chosen, c.values = b.values ++ chosen := by
  induction nodes generalizing b with
  | nil => exact ⟨[], by rw [List.mem_singleton.mp member, List.append_nil]⟩
  | cons n rest ih =>
    rw [placements, List.mem_flatMap] at member
    obtain ⟨id, -, member⟩ := member
    split at member
    · simp at member
    · obtain ⟨chosen, values⟩ := ih (further.put id) member
      rw [values_put further.absent, List.append_assoc] at values
      exact ⟨[id] ++ chosen, values⟩

/-- Placements come in lexicographic order if the ids are ascending. -/
theorem placements_ascending (further : Further b nodes) (ascending : ids.Pairwise (· < ·)) :
    (placements ids b nodes).Pairwise fun c d => c.values < d.values := by
  induction nodes generalizing b with
  | nil => exact List.pairwise_singleton _ _
  | cons n rest ih =>
    rw [placements, List.pairwise_flatMap]
    refine ⟨fun id _ => ?_, ascending.imp fun {id later} before c first d second => ?_⟩
    · split
      · exact .nil
      · exact ih (further.put id)
    · -- The first ids that differ are those bound to this pattern node.
      split at first
      · simp at first
      · split at second
        · simp at second
        · obtain ⟨_, values⟩ := values_of_mem_placements (further.put id) first
          obtain ⟨_, values'⟩ := values_of_mem_placements (further.put later) second
          rw [values, values', values_put further.absent, values_put further.absent,
            List.append_assoc, List.append_assoc]
          exact List.append_left_lt (List.Lex.rel before)

end Bindings

namespace Pattern

variable {p : Pattern} {s : Scene} {checkValues : Bool}

/-- All placements of the pattern in a scene that pass the tests of its nodes and its edges. -/
def occurrences (p : Pattern) (s : Scene) (checkValues : Bool) : List Bindings :=
  (Bindings.placements s.graph.ids .empty p.nodes).filter fun b =>
    p.nodes.all (b.satisfies s checkValues) && p.edgesHold s b

theorem further_empty (p : Pattern) : Bindings.Further .empty p.nodes := p.distinct

theorem occurrences_ascending (p : Pattern) (s : Scene) (checkValues : Bool) :
    (p.occurrences s checkValues).Pairwise fun b c => b.values < c.values :=
  (Bindings.placements_ascending p.further_empty s.graph.ids_ascending).filter _

theorem nodup_occurrences (p : Pattern) (s : Scene) (checkValues : Bool) :
    (p.occurrences s checkValues).Nodup := by
  refine (p.occurrences_ascending s checkValues).imp ?_
  rintro b c less rfl
  exact List.lt_irrefl _ less

theorem satisfies_iff {b : Bindings} {n : PatternNode} :
    b.satisfies s checkValues n = true ↔
      ∃ id node, b.get? n.id = some id ∧ s.node? id = some node ∧
        n.accepts node checkValues = true := by
  unfold Bindings.satisfies
  cases b.get? n.id with
  | none => simp
  | some id =>
    rw [Option.bind_some]
    cases there : s.node? id <;> simp [there]

theorem edgesHold_iff {b : Bindings} :
    p.edgesHold s b = true ↔
      ∀ e ∈ p.edges, ∃ x y, b.get? e.1 = some x ∧ b.get? e.2 = some y ∧
        s.graph.hasEdge x y = true := by
  unfold edgesHold
  rw [List.all_eq_true]
  refine forall₂_congr fun e _ => ?_
  obtain ⟨x, y⟩ := e
  cases first : b.get? x <;> cases second : b.get? y <;> simp [first, second]

theorem Occurs.found {b : Bindings} (h : p.Occurs s checkValues b) {n id : Int}
    (bound : b.get? n = some id) : ∃ m ∈ p.nodes, m.id = n ∧ ∃ node, s.node? id = some node ∧
      m.accepts node checkValues = true ∧ id ∈ s.graph.ids := by
  have declared : n ∈ p.ids := h.keys ▸ List.mem_map_of_mem (Catalog.get?_eq_some_iff.mp bound)
  obtain ⟨m, there, rfl⟩ := List.mem_map.mp declared
  obtain ⟨other, node, bound', known, attributes, suits⟩ := h.accepts m there
  obtain rfl : id = other := Option.some.inj (bound.symm.trans bound')
  exact ⟨m, there, rfl, node, attributes, suits, known⟩

theorem mem_occurrences {b : Bindings} :
    b ∈ p.occurrences s checkValues ↔ p.Occurs s checkValues b := by
  rw [occurrences, List.mem_filter, Bindings.mem_placements p.further_empty List.nodup_nil,
    Bool.and_eq_true, List.all_eq_true, edgesHold_iff]
  simp only [satisfies_iff]
  constructor
  · rintro ⟨⟨chosen, length, inside, nodup, entries⟩, accepted, edges⟩
    have zipped : b.entries = p.ids.zip chosen := entries
    have length' : p.ids.length = chosen.length := by simp [ids, length]
    have values : b.values = chosen := by
      rw [Catalog.values, zipped]
      exact List.map_snd_zip (by omega)
    have keys : b.keys = p.ids := by
      rw [Catalog.keys, zipped]
      exact List.map_fst_zip (by omega)
    refine ⟨keys, values ▸ nodup, fun n member => ?_, edges⟩
    obtain ⟨id, node, bound, there, suits⟩ := accepted n member
    refine ⟨id, node, bound, inside id (values ▸ ?_), there, suits⟩
    exact List.mem_map_of_mem (Catalog.get?_eq_some_iff.mp bound)
  · intro occurs
    have lengths : b.values.length = p.ids.length := by
      rw [← occurs.keys, Catalog.values, Catalog.keys, List.length_map, List.length_map]
    refine ⟨⟨b.values, by simpa [ids] using lengths, ?_, occurs.injective, ?_⟩, ?_, occurs.edges⟩
    · intro id member
      obtain ⟨⟨n, id⟩, entry, rfl⟩ := List.mem_map.mp member
      obtain ⟨-, -, -, -, -, -, known⟩ := occurs.found (Catalog.get?_eq_some_iff.mpr entry)
      exact known
    · show b.entries = p.ids.zip b.values
      rw [← occurs.keys, ← Catalog.entries_eq_zip]
    · intro n member
      obtain ⟨id, node, bound, -, there, suits⟩ := occurs.accepts n member
      exact ⟨id, node, bound, there, suits⟩

end Pattern

end GrowthGrammar
