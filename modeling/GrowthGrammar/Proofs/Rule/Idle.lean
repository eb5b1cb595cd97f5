import GrowthGrammar.Proofs.Random.Streams
import GrowthGrammar.Proofs.Rule.Gate
import GrowthGrammar.Proofs.Rule.Rest

/-!
Idling: rules that rest, applied one after the other. What comes of it is that some nodes are dirty
which were not before; this makes other matches pass the gate no more, so the rules rest again.
-/
namespace GrowthGrammar

namespace Workshop

/-- All is the same but for clocks, stamps and notes, and every context draws from where it stood.
-/
structure Alike (w w' : Workshop) : Prop where
  scene : w.scene.Alike w'.scene
  seed : w'.seed? = w.seed?
  source : ∀ context, (w'.site context).source = (w.site context).source

/-- Nothing has come of work but more dirty nodes. -/
structure Calm (w w' : Workshop) : Prop extends Alike w w' where
  dirty : ∀ id, w.scene.graph.nodeIsDirty id = true → w'.scene.graph.nodeIsDirty id = true

variable {w w' w'' : Workshop}

theorem Alike.refl (w : Workshop) : Alike w w := ⟨.refl _, rfl, fun _ => rfl⟩

theorem Alike.trans (h : Alike w w') (h' : Alike w' w'') : Alike w w'' :=
  ⟨h.scene.trans h'.scene, h'.seed.trans h.seed,
    fun context => (h'.source context).trans (h.source context)⟩

theorem Calm.refl (w : Workshop) : Calm w w := ⟨.refl w, fun _ dirty => dirty⟩

theorem Calm.trans (h : Calm w w') (h' : Calm w' w'') : Calm w w'' :=
  ⟨h.toAlike.trans h'.toAlike, fun id dirty => h'.dirty id (h.dirty id dirty)⟩

/-- Work that has drawn nothing leaves all streams where they stood. -/
theorem leave_source {context : String} {site : Site}
    (same : site.source = (w.site context).source) (key : String) :
    ((w.leave context site).site key).source = (w.site key).source := by
  unfold leave
  rw [same]
  unfold Workshop.site
  dsimp only
  cases w.streams with
  | none => rfl
  | some streams =>
    show Source.stream ((streams.setStream context (streams.stream context)).stream key) =
      Source.stream (streams.stream key)
    rw [Streams.stream_setStream, Function.update_eq_self]

end Workshop

theorem Scene.exists_marks {s : Scene} (h : s.Sound) : ∃ marked, s.Marks marked := by
  refine ⟨s.graph.ids.filter s.graph.nodeIsDirty, fun id => ?_⟩
  rw [List.mem_filter, Graph.mem_ids, h.inStep]
  exact ⟨fun dirty => ⟨Graph.hasNode_of_nodeIsDirty dirty, Graph.hasNode_of_nodeIsDirty dirty,
    dirty⟩, fun known => known.2.2⟩

theorem PassResult.isEmpty_add (r other : PassResult) :
    (r.add other).isEmpty = true ↔ r.isEmpty = true ∧ other.isEmpty = true := by
  simp only [isEmpty, add, Bool.and_eq_true, List.isEmpty_iff, List.append_eq_nil_iff]
  tauto

namespace Rule

open Scene

variable {r : Rule} {rules : List Rule} {skipDirty : Bool} {w w' after : Workshop} {s t : Scene}
  {total result : PassResult} {marked : List Int}

/-! ### Matches that pass the gate in scenes that are alike -/

/-- The more nodes are dirty, the fewer matches pass. -/
theorem kept_gate_subset (alike : Alike s t)
    (dirty : ∀ id, s.graph.nodeIsDirty id = true → t.graph.nodeIsDirty id = true) :
    r.kept (gate skipDirty) t ⊆ r.kept (gate skipDirty) s := by
  intro b member
  rw [kept_eq_filter, List.mem_filter] at member ⊢
  obtain ⟨found, passes⟩ := member
  refine ⟨alike.kept r ▸ found, ?_⟩
  unfold gate isClean at passes ⊢
  rw [Bool.or_eq_true, Bool.not_eq_true' (b.values.any _), List.any_eq_false] at passes ⊢
  exact passes.imp_right fun clean id value marked => clean id value (dirty id marked)

theorem kept_gate_eq (alike : Alike s t) (marks : s.Marks marked) (marks' : t.Marks marked) :
    r.kept (gate skipDirty) t = r.kept (gate skipDirty) s := by
  have dirty (id : Int) : t.graph.nodeIsDirty id = s.graph.nodeIsDirty id := by
    rw [Bool.eq_iff_iff, marks, marks', alike.contains]
  have same : t.graph.nodeIsDirty = s.graph.nodeIsDirty := funext dirty
  rw [kept_eq_filter, alike.kept, kept_eq_filter (gate skipDirty) s]
  unfold gate isClean
  rw [same]

/-! ### Rules that rest one after the other -/

/-- Every rule rests when its turn comes. -/
def Idle (skipDirty : Bool) : List Rule → Workshop → Prop
  | [], _ => True
  | r :: rest, w =>
    (r.HasContext w ∧ r.Resting (gate skipDirty) w.scene) ∧
      Idle skipDirty rest ((r.run skipDirty).run w).2

theorem run_of_resting (h : w.scene.Planted) (has : r.HasContext w)
    (rests : r.Resting (gate skipDirty) w.scene) :
    (r.run skipDirty).run w = (.ok {}, ((r.run skipDirty).run w).2) ∧
      w.Calm ((r.run skipDirty).run w).2 ∧
      ∀ marked, w.scene.Marks marked → ((r.run skipDirty).run w).2.scene.Marks
        (marked ++ r.touchedBy (r.kept (gate skipDirty) w.scene)
          ((r.kept (gate skipDirty) w.scene).map (r.restShare w.scene))) := by
  obtain ⟨context, known⟩ := has
  have start : (w.site context).scene.Planted := h
  obtain ⟨t, notes, ran, alike, -, site, shared, same⟩ := applyWhere_of_resting start rests
  have begun : (r.begun (gate skipDirty) (w.site context)).scene.Sound := h.toSound
  have marks {marked : List Int} (before : w.scene.Marks marked) : t.Marks (marked ++
      r.touchedBy (r.kept (gate skipDirty) w.scene)
        ((r.kept (gate skipDirty) w.scene).map (r.restShare w.scene))) := by
    rw [← same]
    exact (shares_marks begun before shared).1
  rw [show r.run skipDirty = r.runWhere (gate skipDirty) from rfl, runWhere_of_context known, ran]
  refine ⟨rfl, ⟨⟨alike, w.seed?_leave _ _, Workshop.leave_source rfl⟩, fun id dirty => ?_⟩,
    fun _ => marks⟩
  obtain ⟨marked, before⟩ := exists_marks h.toSound
  obtain ⟨there, member⟩ := (before id).mp dirty
  exact (marks before id).mpr ⟨(alike.contains id).trans there, List.mem_append_left _ member⟩

theorem runAll_of_idle (h : w.scene.Planted) (idle : Idle skipDirty rules w) (total : PassResult) :
    (runAll skipDirty total rules).run w =
        (.ok total, ((runAll skipDirty total rules).run w).2) ∧
      w.Calm ((runAll skipDirty total rules).run w).2 := by
  induction rules generalizing w with
  | nil => exact ⟨rfl, .refl w⟩
  | cons r rest ih =>
    obtain ⟨⟨has, rests⟩, later⟩ := idle
    obtain ⟨first, calm, -⟩ := run_of_resting h has rests
    have planted := Scene.planted_kept.run r skipDirty w h
    obtain ⟨ran, calm'⟩ := ih planted later
    rw [runAll, Work.run_bind, first]
    dsimp only
    rw [total.add_empty]
    exact ⟨ran, calm.trans calm'⟩

theorem isEmpty_of_runAll (done : (runAll skipDirty total rules).run w = (.ok result, after))
    (empty : result.isEmpty = true) : total.isEmpty = true := by
  induction rules generalizing w total with
  | nil =>
    cases done
    exact empty
  | cons r rest ih =>
    obtain ⟨own, mid, -, later⟩ := Work.run_bind_ok done
    have both := ih later
    exact ((total.isEmpty_add own).mp both).1

/-- Where rules have touched nothing, all of them were resting. -/
theorem idle_of_isEmpty (h : w.scene.Sound)
    (done : (runAll skipDirty total rules).run w = (.ok result, after))
    (empty : result.isEmpty = true) : Idle skipDirty rules w := by
  induction rules generalizing w total with
  | nil => trivial
  | cons r rest ih =>
    rw [runAll] at done
    obtain ⟨own, mid, first, later⟩ := Work.run_bind_ok done
    have nothing := ((total.isEmpty_add own).mp (isEmpty_of_runAll later empty)).2
    have sound := Scene.sound_kept.run r skipDirty w h
    obtain ⟨context, known, passed, -⟩ := passed_of_run first
    have start : (w.site context).scene.Sound := h
    refine ⟨⟨⟨context, known⟩, resting_of_isEmpty start passed nothing⟩, ?_⟩
    rw [first] at sound ⊢
    exact ih sound later

/-! ### Rules that rest again -/

/-- Where the same nodes are dirty, the same rules rest: they find the same matches and mark the
same nodes. -/
theorem Idle.again (idle : Idle skipDirty rules w) (h : w.scene.Planted) (h' : w'.scene.Planted)
    (alike : w.scene.Alike w'.scene) (seed : w'.seed? = w.seed?) (marks : w.scene.Marks marked)
    (marks' : w'.scene.Marks marked) : Idle skipDirty rules w' := by
  induction rules generalizing w w' marked with
  | nil => trivial
  | cons r rest ih =>
    obtain ⟨⟨has, rests⟩, later⟩ := idle
    have has' := has.congr seed
    have same : r.kept (gate skipDirty) w'.scene = r.kept (gate skipDirty) w.scene :=
      kept_gate_eq alike marks marks'
    have rests' : r.Resting (gate skipDirty) w'.scene :=
      rests.mono alike fun b member => same ▸ member
    obtain ⟨-, calm, marked⟩ := run_of_resting h has rests
    obtain ⟨-, calm', marked'⟩ := run_of_resting h' has' rests'
    have share : r.restShare w'.scene = r.restShare w.scene := by
      funext b
      unfold restShare
      rw [alike.isStale]
    have marks' := marked' _ marks'
    rw [same, share] at marks'
    exact ⟨⟨has', rests'⟩, ih later (Scene.planted_kept.run r skipDirty w h)
      (Scene.planted_kept.run r skipDirty w' h')
      ((calm.scene.symm.trans alike).trans calm'.scene)
      ((calm'.seed.trans seed).trans calm.seed.symm) (marked _ marks) marks'⟩

/-- Rules that have rested one after the other all rest when they are through. -/
theorem Idle.resting (idle : Idle skipDirty rules w) (h : w.scene.Planted)
    (calm : ((runAll skipDirty total rules).run w).2.Calm after) :
    ∀ r ∈ rules, r.HasContext after ∧ r.Resting (gate skipDirty) after.scene := by
  induction rules generalizing w total with
  | nil => exact fun r member => absurd member List.not_mem_nil
  | cons r rest ih =>
    obtain ⟨⟨has, rests⟩, later⟩ := idle
    obtain ⟨first, own, -⟩ := run_of_resting h has rests
    have planted := Scene.planted_kept.run r skipDirty w h
    rw [runAll, Work.run_bind, first] at calm
    dsimp only at calm
    have through := (own.trans (runAll_of_idle planted later _).2).trans calm
    exact List.forall_mem_cons.mpr
      ⟨⟨has.congr through.seed,
          rests.mono through.scene (kept_gate_subset through.scene through.dirty)⟩,
        ih later planted calm⟩

theorem idle_of_resting {first : Workshop} (h : w.scene.Planted) (calm : first.Calm w)
    (rests : ∀ r ∈ rules, r.HasContext first ∧ r.Resting (gate skipDirty) first.scene) :
    Idle skipDirty rules w := by
  induction rules generalizing w with
  | nil => trivial
  | cons r rest ih =>
    obtain ⟨⟨has, own⟩, others⟩ := List.forall_mem_cons.mp rests
    have has' := has.congr calm.seed
    have here : r.Resting (gate skipDirty) w.scene :=
      own.mono calm.scene (kept_gate_subset calm.scene calm.dirty)
    obtain ⟨-, later, -⟩ := run_of_resting h has' here
    exact ⟨⟨has', here⟩, ih (Scene.planted_kept.run r skipDirty w h) (calm.trans later) others⟩

end Rule

end GrowthGrammar
