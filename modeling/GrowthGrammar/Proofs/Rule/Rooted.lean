import GrowthGrammar.Proofs.Graph.Ancestry
import GrowthGrammar.Proofs.Rule.Run

/-!
Rooted runs: what edits do to the ways up the forest. Removing a node shortens ways and adding one
makes a leaf. A merge closes a way if the parent that it finds for the survivor has itself grown out
of one of the nodes that are merged; no other edit does.
-/
namespace GrowthGrammar

open Relation Scene

namespace Procedure

variable {b b' : Bindings} {s t : Scene} {p : Procedure} {o : Outcome} {survivor : Int}
  {ids : List Int}

/-! ### Parents after a change -/

/-- A node that is absorbed is gone from the forest, and the survivor has its children. -/
theorem parent?_absorb (h : s.Planted) {id : Int} (different : survivor ≠ id)
    (there : s.contains survivor = true) (key : Int) :
    (absorb survivor s id).graph.forest.parent? key =
      if id = key then none
      else if s.graph.forest.parent? key = some id then Forest.heirOf (some survivor) key
      else s.graph.forest.parent? key := by
  have released (key : Int) : (s.mapGraph (·.release id (some survivor))).graph.forest.parent? key =
      if s.graph.forest.parent? key = some id then Forest.heirOf (some survivor) key
      else s.graph.forest.parent? key := h.coherent.parent?_release id (some survivor) key
  have childless : (s.mapGraph (·.release id (some survivor))).graph.forest.parent? key ≠
      some id := by
    rw [released]
    split
    · intro same
      exact different (Option.some.inj (Forest.heirOf_eq_some.mp same).1)
    · assumption
  rw [absorb, (release_planted h different there).parent?_remove, if_neg childless, released]

theorem parent?_absorbAll (h : s.Planted) (there : s.contains survivor = true) (ids : List Int)
    (different : survivor ∉ ids) (key : Int) :
    (ids.foldl (absorb survivor) s).graph.forest.parent? key =
      if key ∈ ids then none
      else (s.graph.forest.parent? key).bind fun above =>
        if above ∈ ids then Forest.heirOf (some survivor) key else some above := by
  induction ids generalizing s with
  | nil => simp
  | cons id rest ih =>
    obtain ⟨other, later⟩ := List.ne_and_not_mem_of_not_mem_cons different
    have stays : (absorb survivor s id).contains survivor = true := by
      rw [contains_absorb, there, decide_eq_false other.symm]
      rfl
    rw [List.foldl_cons, ih (absorb_planted h other there) stays later,
      parent?_absorb h other there]
    by_cases here : id = key
    · simp [here]
    · rw [if_neg here]
      by_cases below : s.graph.forest.parent? key = some id
      · -- The new parent is the survivor or none, and neither is absorbed later.
        have kept : ((Forest.heirOf (some survivor) key).bind fun above =>
            if above ∈ rest then Forest.heirOf (some survivor) key else some above) =
            Forest.heirOf (some survivor) key := by
          cases heir : Forest.heirOf (some survivor) key with
          | none => rfl
          | some above =>
            obtain rfl := Option.some.inj (Forest.heirOf_eq_some.mp heir).1
            rw [Option.bind_some, if_neg later]
        rw [if_pos below, kept, below]
        simp [Ne.symm here]
      · rw [if_neg below]
        cases found : s.graph.forest.parent? key with
        | none => simp [Ne.symm here]
        | some above =>
          have apart : above ≠ id := fun same => below (same ▸ found)
          simp [Ne.symm here, apart]

theorem parent?_collapse (h : s.Planted) (there : s.contains survivor = true)
    (among : survivor ∈ ids) (key : Int) :
    (s.collapse ids survivor).graph.forest.parent? key =
      s.graph.forest.drawnTogether ids survivor (outerParent? s.graph ids) key := by
  have others (id : Int) : id ∈ ids.filter (· ≠ survivor) ↔ id ∈ ids ∧ id ≠ survivor := by simp
  have gathered (key : Int) : (s.gather ids survivor).graph.forest.parent? key = _ :=
    parent?_absorbAll h there (ids.filter (· ≠ survivor)) (by simp) key
  rw [Scene.collapse]
  show (Graph.touchNode _ survivor).forest.parent? key = _
  rw [Graph.touchNode_forest, parent?_adopt, joinAll_forest, gathered, Forest.drawnTogether]
  by_cases here : survivor = key
  · subst here
    rw [if_pos rfl, if_pos rfl, if_neg fun member => ((others survivor).mp member).2 rfl]
    cases outer : outerParent? s.graph ids with
    | some parent => rfl
    | none =>
      -- Without a parent outside, the survivor's own is absorbed.
      cases found : s.graph.forest.parent? survivor with
      | none => rfl
      | some above =>
        have within : above ∈ ids := by
          have none := List.findSome?_eq_none_iff.mp outer survivor among
          rw [found] at none
          simpa [Option.filter] using none
        have different : above ≠ survivor := fun same => h.parent_ne survivor (same ▸ found)
        simp [within, different, Forest.heirOf, Option.filter]
  · rw [if_neg here, if_neg (Ne.symm here)]
    by_cases member : key ∈ ids
    · simp [member, Ne.symm here]
    · cases found : s.graph.forest.parent? key with
      | none => simp [member]
      | some above =>
        by_cases within : above ∈ ids
        · by_cases own : above = survivor
          · simp [member, own, among]
          · simp [member, within, own, here, Forest.heirOf, Option.filter]
        · simp [member, within]

/-! ### Closed ways -/

/-- The parent found for the survivor of a merge has grown out of one of the merged nodes. -/
def ClosesWay (s : Scene) (b : Bindings) : Procedure → Prop
  | .merge targets survivor => ∃ ids above,
      (merge targets survivor).references.map (b.live? s) = ids.map some ∧
      outerParent? s.graph ids = some above ∧ ∃ id ∈ ids, s.graph.forest.Below above id
  | _ => False

theorem remove_acyclic (h : s.Planted) (acyclic : s.graph.forest.Acyclic) (id : Int) :
    (s.remove id).2.graph.forest.Acyclic := by
  refine acyclic.of_below fun child parent step => ?_
  rw [Forest.Child, h.parent?_remove] at step
  split at step
  · cases step
  · split at step
    · rename_i below
      exact .head below (.single (Forest.heirOf_eq_some.mp step).1)
    · exact .single step

theorem grow_acyclic (h : s.Planted) (acyclic : s.graph.forest.Acyclic) (node : Node)
    (there : ∀ id ∈ ids, s.contains id = true) : (s.grow node ids).graph.forest.Acyclic := by
  have fresh : s.contains (s.insert node).1 = false := (h.inStep _).trans s.graph.addNode_fresh
  have parents (key : Int) : (s.grow node ids).graph.forest.parent? key =
      if (s.insert node).1 = key then ids.head?.or (s.graph.forest.parent? key)
      else s.graph.forest.parent? key := by
    rw [Scene.grow, parent?_adopt, joinAll_forest]
    rfl
  cases first : ids.head? with
  | none =>
    refine acyclic.of_below fun child parent step => .single ?_
    rwa [Forest.Child, parents, first, Option.none_or, ite_self] at step
  | some parent =>
    have different : (s.insert node).1 ≠ parent := by
      rintro rfl
      exact Bool.noConfusion ((there _ (List.mem_of_head? first)).symm.trans fresh)
    have childless : ∀ child, s.graph.forest.parent? child ≠ some (s.insert node).1 := by
      intro child step
      exact Bool.noConfusion ((h.live child _ step).2.symm.trans fresh)
    refine acyclic.leaf different childless fun key => ?_
    rw [parents, first]
    rfl

/-- A procedure that does its work keeps the ways up from coming back unless it closes one. -/
theorem Does.acyclic_iff (does : Does s b p o b' t) (h : s.Planted)
    (acyclic : s.graph.forest.Acyclic) : t.graph.forest.Acyclic ↔ ¬ p.ClosesWay s b := by
  cases does with
  | delete found => exact iff_of_true (remove_acyclic h acyclic _) id
  | replace node found =>
    refine iff_of_true ?_ id
    show (Graph.touchNode _ _).forest.Acyclic
    rw [Graph.touchNode_forest]
    exact acyclic
  | add node live =>
    exact iff_of_true (grow_acyclic h acyclic node fun _ => contains_of_resolve live) id
  | @merge targets ids survivor id live bound =>
    have among := mem_of_resolve live (survivor_mem_references targets survivor) bound
    rw [acyclic.drawnTogether_iff
      (parent?_collapse h (contains_of_resolve live among) among) among
      fun above found => (outerParent?_eq_some found).1]
    -- The nodes of a merge that resolves are those that it has resolved to.
    constructor
    · rintro apart ⟨others, above, live', found, member, within, below⟩
      obtain rfl : ids = others := (Option.some_injective Int).list_map (live.symm.trans live')
      exact apart above found member within below
    · intro open' above found member within below
      exact open' ⟨ids, above, live, found, member, within, below⟩

theorem Ends.acyclic_iff {answer : Except PassFault (Outcome × Bindings)}
    (ends : Ends s b p answer t) (h : s.Planted) (acyclic : s.graph.forest.Acyclic) :
    t.graph.forest.Acyclic ↔ ¬ p.ClosesWay s b := by
  cases ends with
  | failed missing =>
    refine iff_of_true acyclic fun closes => ?_
    cases p with
    | merge targets survivor =>
      obtain ⟨ids, above, live, -⟩ := closes
      rw [targetsLive, all_live_of_resolve live] at missing
      cases missing
    | _ => exact closes
  | faulted fault _ made =>
    refine iff_of_true acyclic fun closes => ?_
    cases p with
    | merge targets survivor => cases made
    | _ => exact closes
  | done _ does => exact does.acyclic_iff h acyclic

end Procedure

namespace Scene

variable {s t : Scene}

def Edit.ClosesWay (s : Scene) : Edit → Prop
  | .apply p b _ => p.ClosesWay s b
  | _ => False

theorem after_acyclic_iff (e : Edit) (h : s.Planted) (acyclic : s.graph.forest.Acyclic) :
    (e.after s).graph.forest.Acyclic ↔ ¬ e.ClosesWay s := by
  have leaves := after_leaves e h.toSound
  generalize e.after s = t at leaves ⊢
  cases leaves with
  | insert node => exact iff_of_true acyclic id
  | insertAt node free => exact iff_of_true acyclic id
  | remove id => exact iff_of_true (Procedure.remove_acyclic h acyclic id) fun closes => closes
  | replace node there => exact iff_of_true acyclic id
  | addEdge first second =>
    refine iff_of_true ?_ id
    show (Graph.withEdge _ _).forest.Acyclic
    rw [Graph.withEdge_forest]
    exact acyclic
  | apply source ends => exact ends.acyclic_iff h acyclic
  | refused other =>
    refine iff_of_true acyclic fun closes => ?_
    cases e with
    | apply p b source => exact other p b source rfl
    | _ => exact closes

theorem Planted.rooted_iff (h : s.Planted) : s.graph.Rooted ↔ s.graph.forest.Acyclic := by
  have planted (child parent : Int) (step : s.graph.forest.Child child parent) :
      parent ∈ s.graph.ids := by
    rw [Graph.mem_ids, ← h.inStep]
    exact (h.live child parent step).2
  exact ⟨Graph.Rooted.acyclic, Graph.rooted_of_acyclic h.coherent.mutual planted⟩

/-- The scene after the first edits of a list. -/
def edited (edits : List Edit) (n : Nat) : Scene := empty.run ((edits.take n).map .edit)

theorem edited_planted (edits : List Edit) (n : Nat) : (edited edits n).Planted :=
  run_planted _ empty_planted

theorem edited_succ {edits : List Edit} {n : Nat} {e : Edit} (next : edits[n]? = some e) :
    edited edits (n + 1) = e.after (edited edits n) := by
  rw [edited, List.take_add_one, next, Option.toList_some, List.map_append, run, List.foldl_append]
  rfl

/-- From the empty scene on, the trees are rooted after every edit exactly if no merge ever takes a
parent that has grown out of one of the nodes that it merges. -/
theorem rooted_iff_no_way_closes (edits : List Edit) :
    (∀ n, (edited edits n).graph.Rooted) ↔
      ∀ n (e : Edit), edits[n]? = some e → ¬ e.ClosesWay (edited edits n) := by
  have rooted (n : Nat) := (edited_planted edits n).rooted_iff
  constructor
  · intro always n e next
    have later := (rooted (n + 1)).mp (always (n + 1))
    rw [edited_succ next] at later
    exact (after_acyclic_iff e (edited_planted edits n) ((rooted n).mp (always n))).mp later
  · intro never n
    refine (rooted n).mpr ?_
    induction n with
    | zero => exact Forest.empty_acyclic
    | succ n ih =>
      cases next : edits[n]? with
      | none =>
        rw [edited, List.take_add_one, next, Option.toList_none, List.append_nil]
        exact ih
      | some e =>
        rw [edited_succ next]
        exact (after_acyclic_iff e (edited_planted edits n) ih).mpr (never n e next)

/-! ### A way that comes back -/

/-- Three nodes, each grown out of the one before, and then the last is merged into the first. The
parent that is found for the first is the one in the middle, its own child. -/
def bentBack : List Edit :=
  [.insert {},
    .apply (.add [0] { name := "n" }) ⟨[(0, 0)], by decide⟩ .unseeded,
    .apply (.add [1] { name := "n" }) ⟨[(1, 1)], by decide⟩ .unseeded,
    .apply (.merge [2] 0) ⟨[(0, 0), (2, 2)], by decide⟩ .unseeded]

/-- The merge of two nodes that are there, under different pattern ids, leaves two nodes that have
grown out of each other. No node is a root, and the hierarchy finds none from the roots. -/
theorem bentBack_not_rooted :
    (edited bentBack 3).graph.forest.parents.entries = [(1, 0), (2, 1)] ∧
    (edited bentBack 3).graph.ids = [0, 1, 2] ∧
    (edited bentBack 4).graph.forest.parents.entries = [(0, 1), (1, 0)] ∧
    (edited bentBack 4).graph.ids = [0, 1] ∧
    (edited bentBack 4).graph.forest.Below 0 0 ∧
    (edited bentBack 4).graph.roots = [] ∧
    (edited bentBack 4).graph.walk (edited bentBack 4).graph.ids (edited bentBack 4).graph.roots = []
    ∧ ¬ (edited bentBack 4).graph.Rooted := by
  have around : (edited bentBack 4).graph.forest.Below 0 0 :=
    .head (b := 1) rfl (.single rfl)
  have noRoots : (edited bentBack 4).graph.roots = [] := rfl
  refine ⟨rfl, rfl, rfl, rfl, around, noRoots, ?_, fun rooted => rooted.acyclic 0 around⟩
  rw [noRoots]
  unfold Graph.walk
  rfl

end Scene

end GrowthGrammar
