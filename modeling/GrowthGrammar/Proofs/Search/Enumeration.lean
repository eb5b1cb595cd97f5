import GrowthGrammar.Proofs.Search.Pending
import Mathlib.Data.List.Basic
import Mathlib.Logic.ExistsUnique

/-!
Enumeration: a search that is resumed again and again, in a scene that stays as it is, gives the
occurrences of the pattern one by one in lexicographic order, and then nothing any more.
-/
namespace GrowthGrammar

/-- The ids that the pattern nodes are bound to, in the order of their declaration. -/
def Pattern.reading (p : Pattern) (b : Bindings) : List Int := p.ids.filterMap b.get?

theorem Catalog.filterMap_get?_keys {κ α : Type} [DecidableEq κ] (c : Catalog κ α) :
    c.keys.filterMap c.get? = c.values := by
  rw [keys, values, List.filterMap_map]
  have found : ∀ e ∈ c.entries, (c.get? ∘ Prod.fst) e = some e.2 := fun e member =>
    get?_eq_some_iff.mpr member
  rw [List.filterMap_congr found]
  exact congrFun List.filterMap_eq_map c.entries

theorem Pattern.Occurs.reading {p : Pattern} {s : Scene} {checkValues : Bool} {b : Bindings}
    (h : p.Occurs s checkValues b) : p.reading b = b.values := by
  rw [Pattern.reading, ← h.keys, Catalog.filterMap_get?_keys]

namespace Query

variable {q : Query} {s : Scene}

/-- The completions are the placements whose new nodes are those looked for, and that are accepted
as a whole. -/
theorem completions_eq {b : Bindings} {nodes : List PatternNode} (further : b.Further nodes) :
    q.completions s b nodes = (b.placements q.snapshot nodes).filter fun c =>
      nodes.all (c.satisfies s q.checkValues) && q.accepts s c := by
  induction nodes generalizing b with
  | nil =>
    rw [completions, Bindings.placements]
    cases accepted : q.accepts s b <;> simp [accepted]
  | cons n rest ih =>
    rw [completions, Bindings.placements, List.filter_flatMap]
    refine List.flatMap_congr fun id _ => ?_
    by_cases taken : id ∈ b.values
    · simp [suits, taken]
    · rw [if_neg taken]
      -- All placements of the rest bind this node to the same id.
      have here : ∀ c ∈ Bindings.placements q.snapshot (b.put n.id id) rest,
          c.satisfies s q.checkValues n = q.suits s n b id := by
        intro c member
        have bound : n.id ∈ (b.put n.id id).keys := by
          rw [Bindings.keys_put further.absent]
          exact List.mem_append_right _ (List.mem_singleton_self _)
        have found := Bindings.get?_of_mem_placements (further.put id) member bound
        rw [Catalog.get?_put, if_pos rfl] at found
        cases there : s.node? id <;> simp [Bindings.satisfies, suits, found, taken, there]
      cases fits : q.suits s n b id with
      | false =>
        rw [if_neg Bool.false_ne_true]
        refine (List.filter_eq_nil_iff.mpr fun c member => ?_).symm
        rw [List.all_cons, here c member, fits]
        exact Bool.false_ne_true
      | true =>
        rw [if_pos rfl, ih (further.put id)]
        refine List.filter_congr fun c member => ?_
        rw [List.all_cons, here c member, fits, Bool.true_and]

end Query

namespace Matcher

/-- The matcher after some calls for the next match. -/
def after (m : Matcher) (s : Scene) : Nat → Matcher
  | 0 => m
  | calls + 1 => (m.next s).2.after s calls

/-- The answer to the call after so many others. -/
def answer (m : Matcher) (s : Scene) (calls : Nat) : Option Bindings := ((m.after s calls).next s).1

variable {m : Matcher} {s : Scene}

theorem Sound.answer (h : Sound m) (s : Scene) (calls : Nat) :
    m.answer s calls = (m.pending s)[calls]? := by
  obtain ⟨first, later, sound⟩ := h.next s
  induction calls generalizing m with
  | zero => rw [← List.head?_eq_getElem?, ← first]; rfl
  | succ calls ih =>
    obtain ⟨first', later', sound'⟩ := sound.next s
    rw [← List.getElem?_tail, ← later]
    exact ih sound first' later' sound'

theorem Sound.rest (h : Sound m) (s : Scene) : (m.rest s).1 = m.pending s := by
  suffices taken : ∀ count, (takeUntil s (fun _ => false) count m).1 = m.pending s from taken 0
  intro count
  fun_induction takeUntil s (fun _ => false) count m with
  | case1 count m m' found =>
    obtain ⟨first, -, -⟩ := h.next s
    rw [found] at first
    exact (List.head?_eq_none_iff.mp first.symm).symm
  | case2 count m b m' found enough => exact absurd enough Bool.false_ne_true
  | case3 count m b m' found _ rest m'' taken ih =>
    obtain ⟨first, later, sound⟩ := h.next s
    rw [found] at first later sound
    rw [taken] at ih
    show b :: rest = m.pending s
    rw [show rest = _ from ih sound, later]
    exact List.cons_head?_tail first.symm

/-- What a search gives: the occurrences that no symmetry brings before themselves. -/
theorem pending_ofPattern_eq (s : Scene) (p : Pattern) (checkValues symmetryBreaking : Bool) :
    (ofPattern s p checkValues symmetryBreaking).pending s =
      (p.occurrences s checkValues).filter
        (ofPattern s p checkValues symmetryBreaking).isCanonical := by
  rw [pending_ofPattern, Query.completions_eq p.further_empty, Pattern.occurrences,
    List.filter_filter]
  refine List.filter_congr fun b _ => ?_
  rw [Query.accepts, Bool.and_comm (Query.isCanonical _ b), Bool.and_assoc]
  rfl

theorem pending_unbroken (s : Scene) (p : Pattern) (checkValues : Bool) :
    (ofPattern s p checkValues false).pending s = p.occurrences s checkValues := by
  rw [pending_ofPattern_eq]
  exact List.filter_eq_self.mpr fun b _ => rfl

theorem sound_ofPattern (s : Scene) (p : Pattern) (checkValues symmetryBreaking : Bool) :
    Sound (ofPattern s p checkValues symmetryBreaking) :=
  .inr (searching_ofPattern s p checkValues symmetryBreaking)

/-- Without symmetry breaking the answers are the placements of the pattern that pass the tests of
its nodes and edges, in this order and with nothing after them. Every occurrence is the answer to
exactly one call, and later answers have later ids. -/
theorem answers_are_occurrences (p : Pattern) (s : Scene) (checkValues : Bool) :
    (∀ call, (ofPattern s p checkValues false).answer s call =
      (p.occurrences s checkValues)[call]?) ∧
    (∀ b, p.Occurs s checkValues b ↔
      ∃! call, (ofPattern s p checkValues false).answer s call = some b) ∧
    (∀ call later b c, call < later →
      (ofPattern s p checkValues false).answer s call = some b →
      (ofPattern s p checkValues false).answer s later = some c → p.reading b < p.reading c) ∧
    (∀ call later, call ≤ later → (ofPattern s p checkValues false).answer s call = none →
      (ofPattern s p checkValues false).answer s later = none) := by
  have listed : ∀ call, (ofPattern s p checkValues false).answer s call =
      (p.occurrences s checkValues)[call]? := fun call => by
    rw [(sound_ofPattern s p checkValues false).answer, pending_unbroken]
  have ascending := p.occurrences_ascending s checkValues
  refine ⟨listed, fun b => ?_, fun call later b c before => ?_, fun call later before => ?_⟩
  · simp only [listed]
    rw [← Pattern.mem_occurrences, List.mem_iff_getElem?]
    refine ⟨fun ⟨call, here⟩ => ⟨call, here, fun other there => ?_⟩, fun ⟨call, here, _⟩ =>
      ⟨call, here⟩⟩
    obtain ⟨within, -⟩ := List.getElem?_eq_some_iff.mp there
    have distinct := p.nodup_occurrences s checkValues
    exact (List.getElem?_inj within distinct).mp (there.trans here.symm)
  · rw [listed, listed]
    intro first second
    have occurs := Pattern.mem_occurrences.mp (List.mem_of_getElem? first)
    have occurs' := Pattern.mem_occurrences.mp (List.mem_of_getElem? second)
    obtain ⟨_, rfl⟩ := List.getElem?_eq_some_iff.mp first
    obtain ⟨_, rfl⟩ := List.getElem?_eq_some_iff.mp second
    rw [occurs.reading, occurs'.reading]
    exact List.pairwise_iff_getElem.mp ascending call later _ _ before
  · rw [listed, listed, List.getElem?_eq_none_iff, List.getElem?_eq_none_iff]
    omega

end Matcher

end GrowthGrammar
