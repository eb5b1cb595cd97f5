import GrowthGrammar.Proofs.Rule.Run
import GrowthGrammar.Proofs.Rule.Share

/-!
Mirrors: the lists of nodes in the result of a pass tell how the nodes of the graph have changed.
Counted with repetitions they always do. Where no id in use is of the caller's choice, nothing is
repeated, and somebody who follows the lists alone knows the nodes that are there.
-/
namespace GrowthGrammar

namespace Scene

variable {s t : Scene} {removed added : List Int}

/-! ### Numbers of nodes -/

theorem count_ids (inStep : s.InStep) (id : Int) : s.graph.ids.count id = s.live id := by
  have once : s.graph.ids.Nodup := s.graph.nodes.keys_nodup
  rw [once.count, live]
  exact if_congr (Graph.mem_ids.trans (by rw [inStep])) rfl rfl

theorem Balance.perm (h : s.Balance t removed added) (inStep : s.InStep) :
    (t.graph.ids ++ removed).Perm (s.graph.ids ++ added) := by
  rw [List.perm_iff_count]
  intro id
  rw [List.count_append, List.count_append, count_ids h.inStep, count_ids inStep]
  exact h.live id

theorem Balance.order (h : s.Balance t removed added) (inStep : s.InStep) :
    t.order + removed.length = s.order + added.length := by
  have lengths := (h.perm inStep).length_eq
  rw [List.length_append, List.length_append] at lengths
  have size (g : Graph) : g.ids.length = g.order := List.length_map _
  rwa [size, size] at lengths

/-! ### Changes without repetition -/

variable (h : s.Balance t removed added) (covered : s.Covered)

include h covered

/-- An id that the counter had passed is not given again. -/
theorem Balance.contains_of_mem_added {id : Int} (given : id ∈ added) : s.contains id = false := by
  have fresh := (h.fresh id given).1
  refine eq_false_of_ne_true fun there => ?_
  have below := covered id there
  omega

variable (old : ∀ id ∈ removed, s.contains id = true)

include old

/-- A node is taken away or given once at most, a node that was there only taken away and another
only given. -/
theorem Balance.counts (id : Int) :
    t.live id + removed.count id = s.live id + added.count id ∧ t.live id ≤ 1 ∧
      (s.live id = 1 ∧ added.count id = 0 ∨ s.live id = 0 ∧ removed.count id = 0) := by
  refine ⟨h.live id, t.live_le_one id, ?_⟩
  -- Only what was there is taken away, and only what was not there is given.
  cases there : s.contains id with
  | true =>
    refine .inl ⟨if_pos there, List.count_eq_zero.mpr fun given => ?_⟩
    exact Bool.noConfusion (there.symm.trans (h.contains_of_mem_added covered given))
  | false =>
    refine .inr ⟨if_neg (ne_true_of_eq_false there), List.count_eq_zero.mpr fun taken => ?_⟩
    exact Bool.noConfusion (there.symm.trans (old id taken))

theorem Balance.added_nodup : added.Nodup := by
  refine List.nodup_iff_count_le_one.mpr fun id => ?_
  obtain ⟨counts, most, known | unknown⟩ := h.counts covered old id <;> omega

theorem Balance.removed_nodup : removed.Nodup := by
  refine List.nodup_iff_count_le_one.mpr fun id => ?_
  obtain ⟨counts, most, known | unknown⟩ := h.counts covered old id <;> omega

theorem Balance.contains_iff (id : Int) :
    t.contains id = true ↔ s.contains id = true ∧ id ∉ removed ∨ id ∈ added := by
  rw [← live_pos_iff, ← live_pos_iff, ← List.count_eq_zero, ← List.count_pos_iff]
  obtain ⟨counts, most, known | unknown⟩ := h.counts covered old id <;> omega

end Scene

/-! ### Nodes that a pass touches -/

namespace PassResult

theorem removed_recordAll (r : PassResult) (outcomes : List Outcome) :
    (r.recordAll outcomes).removed = r.removed ++ outcomes.flatMap Outcome.removedIds := by
  induction outcomes generalizing r with
  | nil => exact (List.append_nil _).symm
  | cons o rest ih =>
    rw [recordAll, List.foldl_cons, ← recordAll, ih, List.flatMap_cons, ← List.append_assoc]
    cases o <;> simp [record, Outcome.removedIds]

theorem modified_recordAll (r : PassResult) (outcomes : List Outcome) :
    (r.recordAll outcomes).modified = r.modified ++ outcomes.flatMap Outcome.modifiedIds := by
  induction outcomes generalizing r with
  | nil => exact (List.append_nil _).symm
  | cons o rest ih =>
    rw [recordAll, List.foldl_cons, ← recordAll, ih, List.flatMap_cons, ← List.append_assoc]
    cases o <;> simp [record, Outcome.modifiedIds]

end PassResult

def Outcome.oldIds (o : Outcome) : List Int := o.removedIds ++ o.modifiedIds

theorem Bindings.mem_values_of_get? {b : Bindings} {n id : Int} (bound : b.get? n = some id) :
    id ∈ b.values :=
  List.mem_map_of_mem (Catalog.get?_eq_some_iff.mp bound)

theorem Procedure.Does.mem_values {s t : Scene} {b b' : Bindings} {p : Procedure} {o : Outcome}
    (does : Does s b p o b' t) {id : Int} (old : id ∈ o.oldIds) : id ∈ b.values := by
  rcases List.mem_append.mp old with taken | changed
  · obtain ⟨n, -, bound⟩ := does.removedIds taken
    exact Bindings.mem_values_of_get? bound
  · cases does with
    | replace node found =>
      obtain rfl := List.mem_singleton.mp changed
      exact Bindings.mem_values_of_get? (Bindings.live?_eq_some_iff.mp found).1
    | _ => exact absurd changed List.not_mem_nil

namespace Rule

variable {r : Rule} {keeps : Scene → Bindings → Bool} {start site after : Site} {b : Bindings}
  {procedures : List Procedure} {found : List Bindings} {result : PassResult} {id : Int}
  {share : List Outcome} {shares : List (Option (List Outcome))}

theorem mem_values_of_outcomes (sound : site.scene.Sound)
    (done : (outcomes b procedures).run site = (.ok share, after)) {o : Outcome}
    (member : o ∈ share) (old : id ∈ o.oldIds) : id ∈ b.values := by
  induction procedures generalizing b site share with
  | nil =>
    cases done
    exact absurd member List.not_mem_nil
  | cons p rest ih =>
    obtain ⟨first, b', mid, later, ends, ran, rfl⟩ := outcomes_cons sound done
    obtain ⟨-, rfl, rfl, same⟩ | ⟨-, does⟩ := ends.of_ok
    · rcases List.mem_cons.mp member with rfl | there
      · exact absurd old List.not_mem_nil
      · exact ih (same ▸ sound) ran there
    · rcases List.mem_cons.mp member with rfl | there
      · exact does.mem_values old
      · exact does.values_sublist.subset (ih (does.sound sound) ran there)

theorem mem_values_of_shares (sound : site.scene.Sound)
    (done : (r.shares found).run site = (.ok shares, after)) {o : Outcome}
    (member : o ∈ allOutcomes shares) (old : id ∈ o.oldIds) : ∃ b ∈ found, id ∈ b.values := by
  induction found generalizing site shares with
  | nil =>
    cases done
    exact absurd member List.not_mem_nil
  | cons b rest ih =>
    obtain ⟨first, later, mid, rfl, ran, own⟩ := shares_cons done
    have split : allOutcomes (first :: later) = first.getD [] ++ allOutcomes later := rfl
    have mid_sound : mid.scene.Sound := by
      obtain ⟨-, -, same⟩ | ⟨-, share, -, ran⟩ := own
      · exact same ▸ sound
      · have kept := Scene.sound_kept.outcomes b r.procedures site sound
        rwa [ran] at kept
    rw [split, List.mem_append] at member
    rcases member with here | there
    · obtain ⟨-, rfl, -⟩ | ⟨-, share, rfl, ran⟩ := own
      · exact absurd here List.not_mem_nil
      · exact ⟨b, List.mem_cons_self, mem_values_of_outcomes sound ran here old⟩
    · obtain ⟨c, listed, bound⟩ := ih mid_sound ran there
      exact ⟨c, List.mem_cons_of_mem _ listed, bound⟩

/-- What a pass takes away or changes was there when the pass began. -/
theorem contains_of_touched (sound : start.scene.Sound)
    (done : ((r.applyWhere keeps).run start).1 = .ok result)
    (touched : id ∈ result.removed ∨ id ∈ result.modified) : start.scene.contains id = true := by
  obtain ⟨shares, after, ran, -, rfl⟩ := exists_shares done
  have old : ∃ o ∈ allOutcomes shares, id ∈ o.oldIds := by
    rw [PassResult.removed_recordAll, PassResult.modified_recordAll] at touched
    rcases touched with taken | changed
    · obtain ⟨o, member, taken⟩ := List.mem_flatMap.mp taken
      exact ⟨o, member, List.mem_append_left _ taken⟩
    · obtain ⟨o, member, changed⟩ := List.mem_flatMap.mp changed
      exact ⟨o, member, List.mem_append_right _ changed⟩
  obtain ⟨o, member, old⟩ := old
  have begun : (r.begun keeps start).scene.Sound := sound
  obtain ⟨b, kept, value⟩ := mem_values_of_shares begun ran member old
  obtain ⟨⟨n, _⟩, entry, rfl⟩ := List.mem_map.mp value
  exact contains_of_bound kept (Catalog.get?_eq_some_iff.mpr entry)

/-! ### Passes and their results -/

theorem balance_of_done (inStep : start.scene.InStep)
    (done : ((r.applyWhere keeps).run start).1 = .ok result) :
    start.scene.Balance ((r.applyWhere keeps).run start).2.scene result.removed result.added := by
  obtain ⟨answer, scene⟩ := r.applyWhere_run keeps start
  rw [scene]
  exact balance_before inStep (List.append_nil _).symm (Prod.ext (answer.symm.trans done) rfl)

/-- The result of a pass mirrors how the nodes have changed: their number always, and, where no id
in use is of the caller's choice, each of them. -/
theorem pass_mirrors_nodes (sound : start.scene.Sound)
    (done : ((r.applyWhere keeps).run start).1 = .ok result) :
    ((r.applyWhere keeps).run start).2.scene.order + result.removed.length =
      start.scene.order + result.added.length ∧
    (start.scene.Unchosen ∨ start.scene.Covered →
      result.added.Nodup ∧ (∀ id ∈ result.added, id ∉ start.scene.graph.ids) ∧
      result.removed.Nodup ∧ (∀ id ∈ result.removed, id ∈ start.scene.graph.ids) ∧
      (∀ id ∈ result.modified, id ∈ start.scene.graph.ids) ∧
      ∀ id, id ∈ ((r.applyWhere keeps).run start).2.scene.graph.ids ↔
        id ∈ start.scene.graph.ids ∧ id ∉ result.removed ∨ id ∈ result.added) := by
  have balance := balance_of_done sound.inStep done
  generalize ((r.applyWhere keeps).run start).2.scene = t at balance ⊢
  refine ⟨balance.order sound.inStep, fun counted => ?_⟩
  have covered : start.scene.Covered :=
    counted.elim Scene.Unchosen.covered fun covered => covered
  have old : ∀ id ∈ result.removed, start.scene.contains id = true := fun _ taken =>
    contains_of_touched sound done (.inl taken)
  have there (id : Int) : id ∈ start.scene.graph.ids ↔ start.scene.contains id = true := by
    rw [Graph.mem_ids, sound.inStep]
  refine ⟨balance.added_nodup covered old, fun id given => ?_,
    balance.removed_nodup covered old, fun id taken => ?_, fun id changed => ?_, fun id => ?_⟩
  · rw [there, balance.contains_of_mem_added covered given]
    exact Bool.false_ne_true
  · exact (there id).mpr (old id taken)
  · exact (there id).mpr (contains_of_touched sound done (.inr changed))
  · rw [Graph.mem_ids, ← balance.inStep, there]
    exact balance.contains_iff covered old id

/-- Changes the first of two nodes, merges the second into it and adds one beside it. -/
def drawAndGive : Rule :=
  { takeAndGive with
    procedures := [.replace 0 { name := "" }, .merge [1] 0, .add [0] { name := "" }] }

theorem drawAndGive_mirrors_nodes :
    countedPair.Sound ∧ countedPair.Unchosen ∧
    (drawAndGive.apply.run ⟨countedPair, .unseeded, []⟩).1 =
      .ok { removed := [1], added := [2], modified := [0] } ∧
    (drawAndGive.apply.run ⟨countedPair, .unseeded, []⟩).2.scene.order + 1 = 2 + 1 ∧
    ∀ id, id ∈ (drawAndGive.apply.run ⟨countedPair, .unseeded, []⟩).2.scene.graph.ids ↔
      id ∈ countedPair.graph.ids ∧ id ∉ [1] ∨ id ∈ [2] := by
  have sound : countedPair.Sound := Scene.insert_sound (Scene.insert_sound Scene.empty_sound {}) {}
  have unchosen : countedPair.Unchosen := by
    refine ⟨[.edit (.insert {}), .edit (.insert {})], rfl, fun op member id chosen => ?_⟩
    have inserted : op = .edit (.insert {}) := by simpa using member
    rw [inserted] at chosen
    cases chosen
  have found : drawAndGive.kept (fun _ _ => true) countedPair = [forth, back] := by
    rw [kept_eq]
    rfl
  have done : (drawAndGive.apply.run ⟨countedPair, .unseeded, []⟩).1 =
      .ok { removed := [1], added := [2], modified := [0] } := by
    rw [apply, (drawAndGive.applyWhere_run _ _).1, show drawAndGive.kept (fun _ _ => true)
      (⟨countedPair, .unseeded, []⟩ : Site).scene = [forth, back] from found]
    rfl
  have start : (⟨countedPair, .unseeded, []⟩ : Site).scene.Sound := sound
  obtain ⟨order, each⟩ := pass_mirrors_nodes start done
  obtain ⟨-, -, -, -, -, ids⟩ := each (.inl unchosen)
  exact ⟨sound, unchosen, done, order, ids⟩

end Rule

end GrowthGrammar
