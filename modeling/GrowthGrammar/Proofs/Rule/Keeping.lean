import GrowthGrammar.Proofs.Rule.Context
import GrowthGrammar.Proofs.Rule.Effect
import GrowthGrammar.Proofs.Rule.Staleness

/-!
Keeping: what no procedure takes from a sound scene, no pass and no engine takes from it, not even
one that stops at a fault. Procedures keep scenes sound and planted, whatever the bindings are.
-/
namespace GrowthGrammar

/-! ### Whole changes, part by part -/

namespace Scene

variable {s : Scene} {id child : Int} {others ids : List Int} {parent : Option Int}

theorem joinAll_sameNodes (s : Scene) (id : Int) (others : List Int) :
    SameNodes s (s.joinAll id others) := by
  induction others generalizing s with
  | nil => exact .refl s
  | cons other rest ih =>
    refine SameNodes.trans ?_ (ih _)
    exact mapGraph_sameNodes (Graph.withEdge_nodes ..) (Graph.withEdge_nextId ..)

theorem joinAll_forest (s : Scene) (id : Int) (others : List Int) :
    (s.joinAll id others).graph.forest = s.graph.forest := by
  induction others generalizing s with
  | nil => rfl
  | cons other rest ih => exact (ih _).trans (s.graph.withEdge_forest _)

theorem joinAll_sound (h : s.Sound) (here : s.contains id = true)
    (there : ∀ other ∈ others, s.contains other = true) : (s.joinAll id others).Sound := by
  induction others generalizing s with
  | nil => exact h
  | cons other rest ih =>
    exact ih (withEdge_sound h here (there other List.mem_cons_self)) here fun later member =>
      there later (List.mem_cons_of_mem _ member)

theorem joinAll_planted (h : s.Planted) (here : s.contains id = true)
    (there : ∀ other ∈ others, s.contains other = true) : (s.joinAll id others).Planted := by
  refine h.of_forest_eq (joinAll_sound h.toSound here there) (s.joinAll_forest id others) ?_
  exact fun key known => ((s.joinAll_sameNodes id others).contains key).trans known

theorem adopt_sameNodes (s : Scene) (child : Int) (parent : Option Int) :
    SameNodes s (s.adopt child parent) := by
  cases parent with
  | none => exact .refl s
  | some parent => exact s.attach_sameNodes child parent

theorem parent?_adopt (s : Scene) (child : Int) (parent : Option Int) (key : Int) :
    (s.adopt child parent).graph.forest.parent? key =
      if child = key then parent.or (s.graph.forest.parent? key)
      else s.graph.forest.parent? key := by
  cases parent with
  | none =>
    rw [Option.none_or, ite_self]
    rfl
  | some parent => exact s.graph.forest.parent?_attach child parent key

theorem adopt_sound (h : s.Sound) (child : Int) (parent : Option Int) :
    (s.adopt child parent).Sound := by
  cases parent with
  | none => exact h
  | some parent => exact forest_sound h (s.graph.forest.attach child parent)

theorem adopt_planted (h : s.Planted) (here : s.contains child = true)
    (above : ∀ key, parent = some key → child ≠ key ∧ s.contains key = true) :
    (s.adopt child parent).Planted := by
  cases parent with
  | none => exact h
  | some parent =>
    obtain ⟨different, there⟩ := above parent rfl
    exact attach_planted h different here there

theorem renew_sameNodes (there : s.contains id = true) (node : Node) :
    SameNodes s (s.renew id node) := by
  have replaced := replace_sameNodes s id node
  rw [replace_run, if_pos there] at replaced
  exact replaced.trans (touchNode_sameNodes _ id)

theorem grow_sameNodes (s : Scene) (node : Node) (ids : List Int) :
    SameNodes (s.insert node).2 (s.grow node ids) :=
  (joinAll_sameNodes _ _ ids).trans (adopt_sameNodes _ _ _)

theorem collapse_sameNodes (s : Scene) (ids : List Int) (survivor : Int) :
    SameNodes (s.gather ids survivor) (s.collapse ids survivor) :=
  ((joinAll_sameNodes _ survivor _).trans (adopt_sameNodes _ survivor _)).trans
    (touchNode_sameNodes _ survivor)

end Scene

namespace Procedure

variable {b b' : Bindings} {s t : Scene} {p : Procedure} {o : Outcome} {survivor : Int}
  {references ids : List Int}

open Scene

theorem nextId_gather (s : Scene) (ids : List Int) (survivor : Int) :
    (s.gather ids survivor).graph.nextId = s.graph.nextId := by
  rw [gather]
  induction ids.filter (· ≠ survivor) generalizing s with
  | nil => rfl
  | cons id rest ih => exact (ih _).trans (Graph.removeNode_nextId _ id)

theorem mem_of_resolve (resolved : references.map (b.live? s) = ids.map some) {n id : Int}
    (named : n ∈ references) (bound : b.get? n = some id) : id ∈ ids := by
  obtain ⟨other, member, found⟩ := List.mem_map.mp (resolved ▸ List.mem_map_of_mem named)
  have same := (Bindings.live?_eq_some_iff.mp found.symm).1
  rw [bound] at same
  exact Option.some.inj same ▸ member

theorem outerParent?_eq_some {g : Graph} {above : Int} (found : outerParent? g ids = some above) :
    above ∉ ids ∧ ∃ id ∈ ids, g.forest.parent? id = some above := by
  obtain ⟨id, member, first⟩ := List.exists_of_findSome?_eq_some found
  obtain ⟨step, outside⟩ := Option.filter_eq_some_iff.mp first
  exact ⟨of_decide_eq_true outside, id, member, step⟩

/-! ### What procedures keep -/

theorem Does.sound (does : Does s b p o b' t) (h : s.Sound) : t.Sound := by
  cases does with
  | delete found => exact remove_sound h _
  | replace node found =>
    exact touchNode_sound (put_sound h (Bindings.live?_eq_some_iff.mp found).2 node) _
  | @add _ ids _ node live =>
    refine adopt_sound (joinAll_sound (insert_sound h node) ?_ fun other member => ?_) _ _
    · rw [contains_insert, decide_eq_true rfl, Bool.true_or]
    · rw [contains_insert, contains_of_resolve live member, Bool.or_true]
  | @merge targets ids survivor id live bound =>
    have member := mem_of_resolve live (survivor_mem_references targets survivor) bound
    have here := (contains_gather s ids id id).mpr ⟨contains_of_resolve live member, fun _ => rfl⟩
    exact touchNode_sound (adopt_sound (joinAll_sound (gather_sound h ids id) here
      fun _ => contains_gather_of_around h) _ _) _

theorem absorb_planted (h : s.Planted) {id : Int} (different : survivor ≠ id)
    (there : s.contains survivor = true) : (absorb survivor s id).Planted :=
  remove_planted (release_planted h different there) id

theorem absorbAll_planted (h : s.Planted) (there : s.contains survivor = true) (ids : List Int)
    (different : survivor ∉ ids) : (ids.foldl (absorb survivor) s).Planted := by
  induction ids generalizing s with
  | nil => exact h
  | cons id rest ih =>
    obtain ⟨other, later⟩ := List.ne_and_not_mem_of_not_mem_cons different
    refine ih (absorb_planted h other there) ?_ later
    rw [contains_absorb, there, decide_eq_false other.symm]
    rfl

theorem Does.planted (does : Does s b p o b' t) (h : s.Planted) : t.Planted := by
  cases does with
  | delete found => exact remove_planted h _
  | replace node found =>
    exact touchNode_planted (put_planted h (Bindings.live?_eq_some_iff.mp found).2 node) _
  | @add _ ids _ node live =>
    have here : (s.insert node).2.contains (s.insert node).1 = true := by
      rw [contains_insert, decide_eq_true rfl, Bool.true_or]
    have there : ∀ other ∈ ids, (s.insert node).2.contains other = true := by
      intro other member
      rw [contains_insert, contains_of_resolve live member, Bool.or_true]
    have same := joinAll_sameNodes (s.insert node).2 (s.insert node).1 ids
    refine adopt_planted (joinAll_planted (insert_planted h node) here there)
      ((same.contains _).trans here) fun parent first => ?_
    have member := List.mem_of_head? first
    -- The new node is not its own neighbour, since its id was free.
    refine ⟨?_, (same.contains parent).trans (there parent member)⟩
    rintro rfl
    have known := contains_of_resolve live member
    rw [h.inStep] at known
    exact Bool.noConfusion (known.symm.trans s.graph.addNode_fresh)
  | @merge targets ids survivor id live bound =>
    have member := mem_of_resolve live (survivor_mem_references targets survivor) bound
    have there := contains_of_resolve live member
    have here := (contains_gather s ids id id).mpr ⟨there, fun _ => rfl⟩
    have gathered : (s.gather ids id).Planted := absorbAll_planted h there _ (by simp)
    have same := joinAll_sameNodes (s.gather ids id) id (s.graph.around ids)
    refine touchNode_planted (adopt_planted (joinAll_planted gathered here fun _ =>
      contains_gather_of_around h.toSound) ((same.contains id).trans here) fun parent found => ?_) id
    -- The new parent is none of the merged nodes, so it is not taken away with them.
    obtain ⟨outside, child, -, step⟩ := outerParent?_eq_some found
    refine ⟨fun own => outside (own ▸ member), (same.contains parent).trans ?_⟩
    refine (contains_gather s ids id parent).mpr ⟨(h.live child parent step).2, fun within => ?_⟩
    exact absurd within outside

/-- The nodes that are there afterwards are those that were not taken away and those given. -/
theorem Does.contains (does : Does s b p o b' t) (key : Int) :
    t.contains key = true ↔ s.contains key = true ∧ key ∉ o.removedIds ∨ key ∈ o.addedIds := by
  cases does with
  | @delete _ id found =>
    rw [contains_remove]
    by_cases same : id = key
    · simp [same, Outcome.removedIds, Outcome.addedIds]
    · simp [same, Ne.symm same, Outcome.removedIds, Outcome.addedIds]
  | replace node found =>
    rw [(renew_sameNodes (Bindings.live?_eq_some_iff.mp found).2 node).contains]
    simp [Outcome.removedIds, Outcome.addedIds]
  | @add _ ids _ node live =>
    rw [(grow_sameNodes s node ids).contains, contains_insert]
    by_cases same : (s.insert node).1 = key
    · simp [same, Outcome.removedIds, Outcome.addedIds]
    · simp [same, Ne.symm same, Outcome.removedIds, Outcome.addedIds]
  | @merge _ ids _ id live bound =>
    rw [(collapse_sameNodes s ids id).contains, contains_gather]
    simp [Outcome.removedIds, Outcome.addedIds]

/-- The counter never goes back, and has passed every node that is given. -/
theorem Does.nextId (does : Does s b p o b' t) :
    s.graph.nextId ≤ t.graph.nextId ∧ ∀ id ∈ o.addedIds, id < t.graph.nextId := by
  have none {id : Int} (member : id ∈ ([] : List Int)) : id < t.graph.nextId :=
    absurd member List.not_mem_nil
  cases does with
  | @delete _ id found =>
    exact ⟨Int.le_of_eq (s.graph.removeNode_nextId id).symm, fun _ => none⟩
  | replace node found =>
    have same := renew_sameNodes (Bindings.live?_eq_some_iff.mp found).2 node
    exact ⟨Int.le_of_eq same.nextId.symm, fun _ => none⟩
  | @add _ ids _ node live =>
    have counted : (s.grow node ids).graph.nextId = (s.insert node).1 + 1 :=
      (grow_sameNodes s node ids).nextId
    have above : s.graph.nextId ≤ (s.insert node).1 := Graph.le_firstFree _ _
    rw [counted]
    refine ⟨by omega, fun id member => ?_⟩
    obtain rfl := List.mem_singleton.mp member
    omega
  | @merge _ ids _ id live bound =>
    have counted := (collapse_sameNodes s ids id).nextId
    rw [nextId_gather] at counted
    exact ⟨Int.le_of_eq counted.symm, fun _ => none⟩

end Procedure

/-! ### What passes keep -/

/-- A property of sound scenes that no procedure takes away. -/
structure Scene.Kept (P : Scene → Prop) : Prop where
  sound : ∀ s, P s → s.Sound
  does : ∀ s b p o b' t, P s → Procedure.Does s b p o b' t → P t

theorem Scene.sound_kept : Scene.Kept Scene.Sound :=
  ⟨fun _ => id, fun _ _ _ _ _ _ h does => does.sound h⟩

theorem Scene.planted_kept : Scene.Kept Scene.Planted :=
  ⟨fun _ h => h.toSound, fun _ _ _ _ _ _ h does => does.planted h⟩

namespace SiteWork

variable {α β : Type} {P : Scene → Prop} {w : SiteWork α} {f : α → SiteWork β}

/-- Work that leaves a scene with a property, whether it ends well or not. -/
def Keeps (P : Scene → Prop) (w : SiteWork α) : Prop :=
  ∀ site : Site, P site.scene → P (w.run site).2.scene

theorem keeps_pure (a : α) : Keeps P (pure a) := fun _ start => start

theorem Keeps.bind (first : Keeps P w) (second : ∀ a, Keeps P (f a)) : Keeps P (w >>= f) := by
  intro site start
  have before := first site start
  rw [Work.run_bind]
  split
  · rename_i a mid ran
    rw [ran] at before
    exact second a mid before
  · rename_i fault mid ran
    rw [ran] at before
    exact before

theorem keeps_scene_bind {f : Scene → SiteWork β} (rest : ∀ s, Keeps P (f s)) :
    Keeps P (scene >>= f) := fun site start => rest site.scene site start

end SiteWork

namespace Scene.Kept

open SiteWork

variable {P : Scene → Prop}

theorem apply (kept : Kept P) (p : Procedure) (b : Bindings) : Keeps P (p.apply b) := by
  intro site start
  have ends := Procedure.apply_ends p b (kept.sound _ start)
  generalize ((p.apply b).run site).1 = answer, ((p.apply b).run site).2.scene = t at ends ⊢
  cases ends with
  | failed _ => exact start
  | faulted _ _ _ => exact start
  | done _ does => exact kept.does _ _ _ _ _ _ start does

theorem applyProcedures (kept : Kept P) (b : Bindings) (result : PassResult)
    (procedures : List Procedure) : Keeps P (Rule.applyProcedures b result procedures) := by
  induction procedures generalizing b result with
  | nil => exact keeps_pure result
  | cons p rest ih => exact (kept.apply p b).bind fun answer => ih answer.2 _

theorem applyMatches (kept : Kept P) (r : Rule) (result : PassResult) (found : List Bindings) :
    Keeps P (r.applyMatches result found) := by
  induction found generalizing result with
  | nil => exact keeps_pure result
  | cons b rest ih =>
    refine keeps_scene_bind fun s => ?_
    split
    · exact Keeps.bind (fun _ start => start) fun _ => ih result
    · exact (kept.applyProcedures b result r.procedures).bind ih

theorem applyWhere (kept : Kept P) (r : Rule) (keeps : Scene → Bindings → Bool) :
    Keeps P (r.applyWhere keeps) := by
  intro site start
  rw [(r.applyWhere_run keeps site).2]
  exact kept.applyMatches r {} _ (r.begun keeps site) start

/-! ### Engines -/

theorem run (kept : Kept P) (r : Rule) (skipDirty : Bool) (w : Workshop) (start : P w.scene) :
    P ((r.run skipDirty).run w).2.scene := by
  rw [Rule.run, Rule.runWhere_run]
  cases r.context w with
  | ok context => exact kept.applyWhere r _ (w.site context) start
  | error fault => exact start

theorem runAll (kept : Kept P) (skipDirty : Bool) (total : PassResult) (rules : List Rule)
    (w : Workshop) (start : P w.scene) :
    P ((Rule.runAll skipDirty total rules).run w).2.scene := by
  induction rules generalizing total w with
  | nil => exact start
  | cons r rest ih =>
    have passed := kept.run r skipDirty w start
    rw [Rule.runAll, Work.run_bind]
    split
    · rename_i result after ran
      rw [ran] at passed
      exact ih _ after passed
    · rename_i fault after ran
      rw [ran] at passed
      exact passed

end Scene.Kept

end GrowthGrammar
