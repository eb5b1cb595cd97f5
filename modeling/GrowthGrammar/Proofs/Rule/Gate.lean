import GrowthGrammar.Proofs.Rule.Context
import GrowthGrammar.Proofs.Rule.Mark
import GrowthGrammar.Proofs.Rule.Run

/-!
Gates: an engine may leave out the matches with nodes that the tick has touched. It looks at the
dirty nodes only, and these are exactly the nodes that the earlier rules of the tick have made,
replaced or drawn others into.
-/
namespace GrowthGrammar

/-! ### Nodes that came up since -/

namespace Scene

/-- Whatever is there now was there at the start, unless it is dirty. -/
structure Grown (start s : Scene) : Prop extends Sound s where
  old : ∀ id, s.contains id = true →
    start.contains id = true ∨ s.graph.nodeIsDirty id = true

theorem grown_kept (start : Scene) : Kept (Grown start) where
  sound := fun _ h => h.toSound
  does := fun s b p o b' t h does => by
    refine { does.sound h.toSound with old := fun id there => ?_ }
    rw [does.touches h.toSound]
    obtain ⟨before, left⟩ | given := (does.contains id).mp there
    · exact (h.old id before).imp_right fun dirty => .inl ⟨dirty, left⟩
    · exact .inr (.inr (does.addedIds_subset given))

end Scene

namespace Rule

/-! ### What a tick has touched -/

/-- The matches that an engine lets through. -/
def gate (skipDirty : Bool) (s : Scene) (b : Bindings) : Bool := !skipDirty || isClean s b

/-- The nodes that a rule touches when an engine applies it. -/
def touchedIn (r : Rule) (skipDirty : Bool) (w : Workshop) : List Int :=
  let found := r.kept (gate skipDirty) w.scene
  match r.context w with
  | .error _ => []
  | .ok context =>
    match ((r.shares found).run (r.begun (gate skipDirty) (w.site context))).1 with
    | .ok shares => r.touchedBy found shares
    | .error _ => []

/-- The nodes that rules touch when an engine applies them one after the other. -/
def touchedAll (skipDirty : Bool) : List Rule → Workshop → List Int
  | [], _ => []
  | r :: rest, w =>
    r.touchedIn skipDirty w ++ touchedAll skipDirty rest ((r.run skipDirty).run w).2

variable {r : Rule} {rules : List Rule} {skipDirty : Bool} {w after : Workshop}
  {result total : PassResult} {marked : List Int} {s : Scene}

/-- A rule that has run well in an engine has passed over the site of its context, and has left the
scene of it. -/
theorem passed_of_run (done : (r.run skipDirty).run w = (.ok result, after)) :
    ∃ context, r.context w = .ok context ∧
      ((r.applyWhere (gate skipDirty)).run (w.site context)).1 = .ok result ∧
      after.scene = ((r.applyWhere (gate skipDirty)).run (w.site context)).2.scene := by
  have ran := r.runWhere_run (gate skipDirty) w
  rw [show r.runWhere (gate skipDirty) = r.run skipDirty from rfl, done] at ran
  cases known : r.context w with
  | error fault =>
    rw [known] at ran
    cases congrArg Prod.fst ran
  | ok context =>
    rw [known] at ran
    obtain ⟨answer, rfl⟩ := Prod.mk.inj ran
    exact ⟨context, rfl, answer.symm, rfl⟩

theorem run_marks (h : w.scene.Sound) (marks : w.scene.Marks marked)
    (done : (r.run skipDirty).run w = (.ok result, after)) :
    after.scene.Marks (marked ++ r.touchedIn skipDirty w) ∧
      result.added ⊆ r.touchedIn skipDirty w := by
  obtain ⟨context, known, answer, left⟩ := passed_of_run done
  obtain ⟨shares, last, listed, scene, rfl⟩ := exists_shares answer
  have touched : r.touchedIn skipDirty w =
      r.touchedBy (r.kept (gate skipDirty) w.scene) shares := by
    unfold touchedIn
    dsimp only
    rw [known]
    dsimp only
    rw [show r.kept (gate skipDirty) w.scene =
      r.kept (gate skipDirty) (w.site context).scene from rfl, listed]
  have begun : (r.begun (gate skipDirty) (w.site context)).scene = w.scene := rfl
  obtain ⟨marks, given⟩ := shares_marks (begun ▸ h) (begun ▸ marks) listed
  rw [touched]
  refine ⟨?_, ?_⟩
  · rw [left, scene]
    exact marks
  · rw [PassResult.added_recordAll]
    exact given

/-- After some rules the dirty nodes are those that they have touched, and all that they give is
among them. -/
theorem runAll_marks (h : w.scene.Sound) (marks : w.scene.Marks marked)
    (done : (runAll skipDirty total rules).run w = (.ok result, after)) :
    after.scene.Marks (marked ++ touchedAll skipDirty rules w) ∧
      ∀ id ∈ result.added, id ∈ total.added ∨ id ∈ touchedAll skipDirty rules w := by
  induction rules generalizing w total marked with
  | nil =>
    cases done
    rw [touchedAll, List.append_nil]
    exact ⟨marks, fun _ => .inl⟩
  | cons r rest ih =>
    rw [runAll] at done
    obtain ⟨own, mid, first, later⟩ := Work.run_bind_ok done
    have sound := Scene.sound_kept.run r skipDirty w h
    rw [first] at sound
    -- The others begin with what the first rule has marked.
    obtain ⟨marks, given⟩ := run_marks h marks first
    obtain ⟨marks, others⟩ := ih sound marks later
    rw [touchedAll, first, ← List.append_assoc]
    refine ⟨marks, fun id member => ?_⟩
    rcases others id member with sooner | later
    · rcases List.mem_append.mp sooner with old | new
      · exact .inl old
      · exact .inr (List.mem_append_left _ (given new))
    · exact .inr (List.mem_append_right _ later)

/-! ### What the gate lets through -/

theorem contains_of_mem_values {b : Bindings} {keeps : Scene → Bindings → Bool}
    (member : b ∈ r.kept keeps s) {id : Int} (value : id ∈ b.values) : s.contains id = true := by
  obtain ⟨⟨n, id⟩, entry, rfl⟩ := List.mem_map.mp value
  exact @contains_of_bound _ _ ⟨s, .unseeded, []⟩ _ member _ _ (Catalog.get?_eq_some_iff.mpr entry)

/-- Whether a match is clean can be told from the nodes that were touched. -/
theorem kept_gate (marks : s.Marks marked) :
    r.kept (gate true) s = r.kept (fun _ b => b.values.all fun id => id ∉ marked) s := by
  refine List.filter_congr fun b found => ?_
  have member : b ∈ r.kept (fun _ _ => true) s := List.mem_filter.mpr ⟨found, rfl⟩
  have there : ∀ id ∈ b.values, s.contains id = true := fun id => contains_of_mem_values member
  rw [Bool.eq_iff_iff]
  show (!b.values.any s.graph.nodeIsDirty) = true ↔ _
  rw [Bool.not_eq_true', List.any_eq_false, List.all_eq_true]
  refine forall₂_congr fun id value => ?_
  rw [marks, decide_eq_true_eq, not_and]
  exact ⟨fun clean => clean (there id value), fun clean _ => clean⟩

theorem kept_eq_filter (keeps : Scene → Bindings → Bool) (s : Scene) :
    r.kept keeps s = (r.kept (fun _ _ => true) s).filter (keeps s) := by
  unfold kept
  rw [List.filter_filter]
  simp only [Bool.and_true]

/-- A pass depends on its filter by the matches alone that it keeps. -/
theorem applyWhere_congr {keeps keeps' : Scene → Bindings → Bool} (site : Site)
    (same : r.kept keeps site.scene = r.kept keeps' site.scene) :
    (r.applyWhere keeps).run site = (r.applyWhere keeps').run site := by
  have begun : r.begun keeps site = r.begun keeps' site := by
    unfold Rule.begun
    rw [same]
  rw [applyWhere_begun, applyWhere_begun, begun, same]

/-- The gate is exact over a tick, whatever came before it. The matches with which a rule goes on
after others are those in the scene as it is then that bind no node which the others have made,
replaced or drawn others into. All nodes that they bind were there when the tick began. -/
theorem runAll_gates (ops : List Scene.Operation) {start : Workshop} {before : List Rule}
    (tick : start.scene = (Scene.empty.run ops).mapGraph Graph.advance)
    (done : (runAll true {} before).run start = (.ok total, w)) (r : Rule) (rest : List Rule) :
    (runAll true {} (before ++ r :: rest)).run start = (runAll true total (r :: rest)).run w ∧
    (r.run true).run w =
      (r.runWhere fun _ b => b.values.all fun id => id ∉ touchedAll true before start).run w ∧
    r.kept (gate true) w.scene = (r.kept (fun _ _ => true) w.scene).filter
      (fun b => b.values.all fun id => id ∉ touchedAll true before start) ∧
    total.added ⊆ touchedAll true before start ∧
    ∀ b ∈ r.kept (gate true) w.scene, ∀ id ∈ b.values,
      start.scene.contains id = true ∧ id ∉ total.added := by
  have reached := (Scene.run_planted ops Scene.empty_planted).toSound
  have sound : start.scene.Sound := by
    rw [tick]
    exact (Scene.advance_planted (Scene.run_planted ops Scene.empty_planted)).toSound
  have clean : start.scene.Marks [] := by
    rw [tick]
    exact Scene.advance_marks reached
  obtain ⟨marks, given⟩ := runAll_marks sound clean done
  rw [List.nil_append] at marks
  have added : total.added ⊆ touchedAll true before start := fun id member =>
    (given id member).resolve_left List.not_mem_nil
  have same : r.kept (gate true) w.scene =
      r.kept (fun _ b => b.values.all fun id => id ∉ touchedAll true before start) w.scene :=
    kept_gate marks
  refine ⟨?_, ?_, same.trans (kept_eq_filter _ _), added, fun b member id value => ?_⟩
  · rw [runAll_append_run, done]
  · rw [show r.run true = r.runWhere (gate true) from rfl, runWhere_run, runWhere_run]
    cases r.context w with
    | error fault => rfl
    | ok context => dsimp only; rw [applyWhere_congr (w.site context) same]
  · have grown := (Scene.grown_kept start.scene).runAll true {} before start
      { sound with old := fun _ => .inl }
    rw [done] at grown
    -- What was not there when the tick began is dirty, and dirty nodes were touched.
    have untouched : id ∉ touchedAll true before start := by
      rw [same] at member
      exact of_decide_eq_true
        (List.all_eq_true.mp (List.mem_filter.mp member).2 id value)
    have there := contains_of_mem_values member value
    refine ⟨(grown.old id there).resolve_right fun dirty => ?_, fun new => untouched (added new)⟩
    exact untouched ((marks id).mp dirty).2

/-- Grows a node beside every node. -/
def sprout : Rule := { takeAndMiss with procedures := [.add [0] { name := "" }] }

/-- One node, at the beginning of a tick. -/
def seedling : Workshop where
  scene := (Scene.empty.run [.edit (.insert {})]).mapGraph Graph.advance

theorem kept_sprout : sprout.kept (gate true) seedling.scene = [⟨[(0, 0)], by decide⟩] := by
  rw [kept_eq]
  rfl

theorem sprout_passed {site : Site} (here : site.scene = seedling.scene) :
    ((sprout.applyWhere (gate true)).run site).1 = .ok { added := [1] } := by
  rw [(sprout.applyWhere_run _ _).1, here, kept_sprout]
  obtain ⟨scene, source, notes⟩ := site
  obtain rfl : scene = seedling.scene := here
  rfl

/-- The second time the rule leaves out the node that it has grown the first time. -/
theorem sprout_leaves_out_its_node :
    ((runAll true {} [sprout]).run seedling).1 = .ok { added := [1] } ∧
    touchedAll true [sprout] seedling = [1] ∧
    sprout.kept (fun _ _ => true) ((runAll true {} [sprout]).run seedling).2.scene =
      [⟨[(0, 0)], by decide⟩, ⟨[(0, 1)], by decide⟩] ∧
    sprout.kept (gate true) ((runAll true {} [sprout]).run seedling).2.scene =
      [⟨[(0, 0)], by decide⟩] := by
  let left := ((sprout.applyWhere (gate true)).run (seedling.site "")).2
  let after := seedling.leave "" left
  have named : sprout.context seedling = .ok "" := rfl
  have found : sprout.kept (gate true) (seedling.site "").scene =
      [⟨[(0, 0)], by decide⟩] := kept_sprout
  have passed := sprout_passed (show (seedling.site "").scene = seedling.scene from rfl)
  have first : (sprout.run true).run seedling = (.ok { added := [1] }, after) := by
    rw [show sprout.run true = sprout.runWhere (gate true) from rfl,
      runWhere_of_context named, passed]
  have ran : (runAll true {} [sprout]).run seedling = (.ok { added := [1] }, after) := by
    rw [runAll, Work.run_bind, first]
    rfl
  have touched : touchedAll true [sprout] seedling = [1] := by
    rw [touchedAll, touchedIn, show sprout.kept (gate true) seedling.scene = _ from found]
    rfl
  obtain ⟨-, -, gated, -⟩ := runAll_gates [.edit (.insert {})] rfl ran sprout []
  have all : sprout.kept (fun _ _ => true) ((runAll true {} [sprout]).run seedling).2.scene =
      [⟨[(0, 0)], by decide⟩, ⟨[(0, 1)], by decide⟩] := by
    rw [ran, kept_eq, show after.scene = _ from (sprout.applyWhere_run _ _).2, found]
    rfl
  refine ⟨by rw [ran], touched, all, ?_⟩
  rw [ran] at all ⊢
  rw [gated, all, touched]
  rfl

end Rule

end GrowthGrammar
