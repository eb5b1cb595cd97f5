import GrowthGrammar.Proofs.Graph.Dirtiness
import GrowthGrammar.Proofs.Rule.Share

/-!
Marks: a procedure marks exactly the nodes that it touches and leaves there, so that the dirty nodes
of a scene are those that were touched in this tick and are there still.
-/
namespace GrowthGrammar

/-! ### What changes of a scene mark -/

namespace Scene

/-- Of the nodes that are there, exactly those listed are dirty. -/
def Marks (s : Scene) (touched : List Int) : Prop :=
  ∀ id, s.graph.nodeIsDirty id = true ↔ s.contains id = true ∧ id ∈ touched

variable {s : Scene}

theorem advance_marks (h : s.Sound) : (s.mapGraph Graph.advance).Marks [] := by
  intro id
  show s.graph.advance.nodeIsDirty id = true ↔ _
  rw [Graph.nodeIsDirty_advance h.consistent]
  exact ⟨Bool.noConfusion, fun h => absurd h.2 List.not_mem_nil⟩

theorem nodeIsDirty_joinAll (s : Scene) (id : Int) (others : List Int) (key : Int) :
    (s.joinAll id others).graph.nodeIsDirty key = s.graph.nodeIsDirty key := by
  induction others generalizing s with
  | nil => rfl
  | cons other rest ih => exact (ih _).trans (s.graph.nodeIsDirty_withEdge _ key)

theorem nodeIsDirty_adopt (s : Scene) (child : Int) (parent : Option Int) (key : Int) :
    (s.adopt child parent).graph.nodeIsDirty key = s.graph.nodeIsDirty key := by
  cases parent <;> rfl

theorem nodeIsDirty_grow (s : Scene) (node : Node) (ids : List Int) (key : Int) :
    (s.grow node ids).graph.nodeIsDirty key =
      (decide ((s.insert node).1 = key) || s.graph.nodeIsDirty key) := by
  rw [grow, nodeIsDirty_adopt, nodeIsDirty_joinAll]
  exact s.graph.nodeIsDirty_addNode key

theorem nodeIsDirty_gather (s : Scene) (ids : List Int) (survivor key : Int) :
    (s.gather ids survivor).graph.nodeIsDirty key =
      (!decide (key ∈ ids.filter (· ≠ survivor)) && s.graph.nodeIsDirty key) := by
  rw [gather]
  induction ids.filter (· ≠ survivor) generalizing s with
  | nil => simp
  | cons id rest ih =>
    have first : (Procedure.absorb survivor s id).graph.nodeIsDirty key =
        (!decide (id = key) && s.graph.nodeIsDirty key) :=
      Graph.nodeIsDirty_removeNode (s.graph.release id (some survivor)) id key
    rw [List.foldl_cons, ih, first]
    by_cases here : key = id
    · simp [here]
    · simp [here, Ne.symm here]

theorem nodeIsDirty_collapse {ids : List Int} {survivor : Int} (h : s.Sound)
    (there : s.contains survivor = true) (key : Int) :
    (s.collapse ids survivor).graph.nodeIsDirty key =
      (decide (survivor = key) ||
        !decide (key ∈ ids.filter (· ≠ survivor)) && s.graph.nodeIsDirty key) := by
  let joined := ((s.gather ids survivor).joinAll survivor (s.graph.around ids)).adopt survivor
    (Procedure.outerParent? s.graph ids)
  have same : SameNodes (s.gather ids survivor) joined :=
    (joinAll_sameNodes _ survivor _).trans (adopt_sameNodes _ survivor _)
  have here : joined.graph.hasNode survivor = true := by
    rw [same.hasNode, ← (Procedure.gather_sound h ids survivor).inStep]
    exact (Procedure.contains_gather s ids survivor survivor).mpr ⟨there, fun _ => rfl⟩
  show (joined.graph.touchNode survivor).nodeIsDirty key = _
  rw [Graph.nodeIsDirty_touchNode here, nodeIsDirty_adopt, nodeIsDirty_joinAll, nodeIsDirty_gather]

end Scene

/-! ### What procedures mark -/

namespace Procedure

/-- The nodes that a procedure touches and leaves there: those that it makes anew or replaces, and
the one that others are drawn into. -/
def touched (b : Bindings) : Procedure → Outcome → List Int
  | .replace .., .modified ids => ids
  | .add .., .added ids => ids
  | .merge _ survivor, .removed _ => (b.get? survivor).toList
  | _, _ => []

variable {b b' : Bindings} {s t : Scene} {p : Procedure} {o : Outcome} {marked : List Int}

theorem Does.touches (does : Does s b p o b' t) (h : s.Sound) (key : Int) :
    t.graph.nodeIsDirty key = true ↔
      s.graph.nodeIsDirty key = true ∧ key ∉ o.removedIds ∨ key ∈ p.touched b o := by
  cases does with
  | @delete target id found =>
    show (s.graph.removeNode id).2.nodeIsDirty key = true ↔ _
    rw [Graph.nodeIsDirty_removeNode]
    simp [Outcome.removedIds, touched, and_comm, eq_comm (a := id)]
  | @replace target id replacement node found =>
    have here := (h.inStep id).symm.trans (Bindings.live?_eq_some_iff.mp found).2
    show (s.graph.touchNode id).nodeIsDirty key = true ↔ _
    rw [Graph.nodeIsDirty_touchNode here]
    simp [Outcome.removedIds, touched, or_comm, eq_comm (a := id)]
  | @add _ ids _ node live =>
    rw [Scene.nodeIsDirty_grow]
    simp [Outcome.removedIds, touched, or_comm, eq_comm (a := (s.insert node).1)]
  | @merge targets ids survivor id live bound =>
    have member := mem_of_resolve live (survivor_mem_references targets survivor) bound
    rw [Scene.nodeIsDirty_collapse h (contains_of_resolve live member)]
    simp only [Outcome.removedIds, touched, bound, Option.toList_some, List.mem_singleton,
      Bool.or_eq_true, Bool.and_eq_true, Bool.not_eq_true', decide_eq_true_eq,
      decide_eq_false_iff_not, eq_comm (a := id)]
    exact or_comm.trans (or_congr_left and_comm)

theorem Does.contains_of_touched (does : Does s b p o b' t) (h : s.Sound) {id : Int}
    (member : id ∈ p.touched b o) : t.contains id = true := by
  have dirty := (does.touches h id).mpr (.inr member)
  rw [(does.sound h).inStep]
  exact Graph.hasNode_of_nodeIsDirty dirty

theorem Does.addedIds_subset (does : Does s b p o b' t) : o.addedIds ⊆ p.touched b o := by
  cases does with
  | add node live => exact fun _ => id
  | _ => exact List.nil_subset _

theorem Does.marks (does : Does s b p o b' t) (h : s.Sound) (marks : s.Marks marked) :
    t.Marks (marked ++ p.touched b o) := by
  intro id
  rw [does.touches h, marks, List.mem_append, does.contains]
  constructor
  · rintro (⟨⟨there, old⟩, left⟩ | new)
    · exact ⟨.inl ⟨there, left⟩, .inl old⟩
    · exact ⟨(does.contains id).mp (does.contains_of_touched h new), .inr new⟩
  · rintro ⟨⟨there, left⟩ | given, old | new⟩
    · exact .inl ⟨⟨there, old⟩, left⟩
    · exact .inr new
    · exact .inr (does.addedIds_subset given)
    · exact .inr new

/-- What is bound afterwards was bound to the same node before. -/
theorem Does.get?_before (does : Does s b p o b' t) {n id : Int} (bound : b'.get? n = some id) :
    b.get? n = some id := by
  cases does with
  | delete found =>
    rw [Catalog.get?_erase] at bound
    split at bound
    · cases bound
    · exact bound
  | replace node found => exact bound
  | add node live => exact bound
  | merge live survives =>
    rw [get?_foldl_erase] at bound
    split at bound
    · cases bound
    · exact bound

/-- The node that others are drawn into is the one that the match has bound from its beginning on. -/
theorem Does.touched_eq {first : Bindings} (does : Does s b p o b' t)
    (before : ∀ n id, b.get? n = some id → first.get? n = some id) :
    p.touched b o = p.touched first o := by
  cases does with
  | @merge _ _ survivor id _ bound =>
    show (b.get? survivor).toList = (first.get? survivor).toList
    rw [bound, before survivor id bound]
  | _ => rfl

end Procedure

theorem PassResult.added_recordAll (r : PassResult) (outcomes : List Outcome) :
    (r.recordAll outcomes).added = r.added ++ outcomes.flatMap Outcome.addedIds := by
  induction outcomes generalizing r with
  | nil => exact (List.append_nil _).symm
  | cons o rest ih =>
    rw [recordAll, List.foldl_cons, ← recordAll, ih, List.flatMap_cons, ← List.append_assoc]
    cases o <;> simp [record, Outcome.addedIds]

/-! ### What matches and passes mark -/

namespace Rule

open Procedure

/-- The nodes that procedures touch which are done with one match. -/
def touchedWith (b : Bindings) (procedures : List Procedure) (share : List Outcome) : List Int :=
  (List.zipWith (Procedure.touched b) procedures share).flatten

/-- The nodes that a pass touches, from the outcomes of its matches. -/
def touchedBy (r : Rule) (found : List Bindings) (shares : List (Option (List Outcome))) :
    List Int :=
  (List.zipWith (fun b share => touchedWith b r.procedures (share.getD [])) found shares).flatten

variable {r : Rule} {b first : Bindings} {site after : Site} {procedures : List Procedure}
  {share : List Outcome} {found : List Bindings} {shares : List (Option (List Outcome))}
  {marked : List Int}

/-- What the procedures touch is marked, and all that they give is among it. -/
theorem outcomes_marks (h : site.scene.Sound) (marks : site.scene.Marks marked)
    (before : ∀ n id, b.get? n = some id → first.get? n = some id)
    (done : (outcomes b procedures).run site = (.ok share, after)) :
    after.scene.Marks (marked ++ touchedWith first procedures share) ∧
      share.flatMap Outcome.addedIds ⊆ touchedWith first procedures share := by
  induction procedures generalizing b site share marked with
  | nil =>
    cases done
    rw [touchedWith, List.zipWith_nil_left, List.flatten_nil, List.append_nil]
    exact ⟨marks, List.nil_subset _⟩
  | cons p rest ih =>
    obtain ⟨o, b', mid, later, ends, ran, rfl⟩ := outcomes_cons h done
    rw [touchedWith, List.zipWith_cons_cons, List.flatten_cons, ← List.append_assoc,
      List.flatMap_cons]
    obtain ⟨-, rfl, rfl, same⟩ | ⟨-, does⟩ := ends.of_ok
    · -- A procedure that has failed leaves all as it was.
      have none : p.touched first .failed = [] := by cases p <;> rfl
      rw [none, List.append_nil]
      exact ih (same ▸ h) (same ▸ marks) before ran
    · rw [← does.touched_eq before]
      obtain ⟨marks, given⟩ := ih (does.sound h) (does.marks h marks)
        (fun n id bound => before n id (does.get?_before bound)) ran
      exact ⟨marks, List.append_subset.mpr
        ⟨List.subset_append_of_subset_left _ does.addedIds_subset,
          List.subset_append_of_subset_right _ given⟩⟩

theorem shares_marks (h : site.scene.Sound) (marks : site.scene.Marks marked)
    (done : (r.shares found).run site = (.ok shares, after)) :
    after.scene.Marks (marked ++ r.touchedBy found shares) ∧
      (allOutcomes shares).flatMap Outcome.addedIds ⊆ r.touchedBy found shares := by
  induction found generalizing site shares marked with
  | nil =>
    cases done
    rw [touchedBy, List.zipWith_nil_left, List.flatten_nil, List.append_nil]
    exact ⟨marks, List.nil_subset _⟩
  | cons b rest ih =>
    obtain ⟨first, later, mid, rfl, ran, skipped | applied⟩ := shares_cons done
    all_goals rw [touchedBy, List.zipWith_cons_cons, List.flatten_cons, ← List.append_assoc]
    · obtain ⟨-, rfl, same⟩ := skipped
      have none : touchedWith b r.procedures [] = [] := by
        rw [touchedWith, List.zipWith_nil_right, List.flatten_nil]
      rw [Option.getD_none, none, List.append_nil]
      exact ih (same ▸ h) (same ▸ marks) ran
    · obtain ⟨-, share, rfl, first⟩ := applied
      have sound := Scene.sound_kept.outcomes b r.procedures site h
      rw [first] at sound
      obtain ⟨marks, given⟩ := outcomes_marks h marks (fun _ _ bound => bound) first
      obtain ⟨marks, others⟩ := ih sound marks ran
      refine ⟨marks, ?_⟩
      have split : allOutcomes (some share :: later) = share ++ allOutcomes later := rfl
      rw [split, List.flatMap_append]
      exact List.append_subset.mpr ⟨List.subset_append_of_subset_left _ given,
        List.subset_append_of_subset_right _ others⟩

end Rule

end GrowthGrammar
