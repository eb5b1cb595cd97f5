import GrowthGrammar.Growth.Growing
import GrowthGrammar.Proofs.Rule.Context
import GrowthGrammar.Proofs.Rule.Keeping
import GrowthGrammar.Proofs.Scene.Labelling

/-!
Turns: what one tick of a growth does, step by step. Its questions leave all but the notes, and on a
sound scene no fingerprint is missing.
-/
namespace GrowthGrammar

/-- Whether a graph with so many nodes is as large as it may get. -/
def GrowthConfig.isReached (config : GrowthConfig) (order : Nat) : Except NumberFault Bool :=
  match config.maxOrder with
  | none => .ok false
  | some limit => limit.order.map fun most => decide (most ≤ (order : Int))

namespace Workshop

def full (config : GrowthConfig) (w : Workshop) : Workshop :=
  match config.maxOrder with
  | none => w
  | some limit => { w with notes := .sizeReached w.scene.order limit.given :: w.notes }

def quiet (w : Workshop) : Workshop := { w with notes := .quiescence :: w.notes }

/-- The workshop in which the rules of a tick begin. -/
def turn (config : GrowthConfig) (w : Workshop) : Workshop :=
  if config.advancesClock then { w with scene := w.scene.mapGraph Graph.advance } else w

end Workshop

namespace History

/-- The history with the fingerprint of a scene, if fingerprints are recorded. -/
def recorded (config : GrowthConfig) (s : Scene) (h : History) : History :=
  if config.recordsFingerprints then
    h.addFingerprint ((s.fingerprint Scene.usualRounds).toOption.getD "")
  else h

theorem ticks_recorded (config : GrowthConfig) (s : Scene) (h : History) :
    (h.recorded config s).ticks = h.ticks := by
  unfold recorded
  split <;> rfl

theorem total_recorded (config : GrowthConfig) (s : Scene) (h : History) :
    (h.recorded config s).total = h.total := by
  unfold total
  rw [h.ticks_recorded]

theorem total_addTick (h : History) (tick : Tick) :
    (h.addTick tick).total = h.total.add tick.result := by
  unfold total addTick
  rw [List.foldl_append]
  rfl

end History

namespace Growth

variable {config : GrowthConfig} {rules : List Rule} {w : Workshop}

/-! ### Questions -/

/-- Whether the graph is full is told by its size alone. -/
theorem isFull_run (config : GrowthConfig) (w : Workshop) :
    (isFull config).run w =
      match config.isReached w.scene.order with
      | .error fault => (.error (.number fault), w)
      | .ok true => (.ok true, w.full config)
      | .ok false => (.ok false, w) := by
  unfold isFull GrowthConfig.isReached Workshop.full
  cases config.maxOrder with
  | none => rfl
  | some limit =>
    dsimp only
    rw [Work.run_bind, Work.run_get]
    dsimp only
    cases limit.order with
    | error fault => rfl
    | ok most =>
      rw [GrowthWork.askNumber, pure_bind, Except.map.eq_def]
      dsimp only
      by_cases reached : most ≤ w.scene.order
      · rw [if_pos reached, decide_eq_true reached]
        rfl
      · rw [if_neg reached, decide_eq_false reached]
        rfl

/-- A fingerprint is recorded without fault, and it depends on the scene alone. -/
theorem recordFingerprint_run (config : GrowthConfig) (h : History) (sound : w.scene.Sound) :
    (recordFingerprint config h).run w = (.ok (h.recorded config w.scene), w) := by
  obtain ⟨text, known⟩ := Scene.fingerprint_ok sound Scene.usualRounds
  unfold recordFingerprint History.recorded
  by_cases recorded : config.recordsFingerprints = true
  · rw [if_pos recorded, if_pos recorded, Work.run_bind, Work.run_get]
    dsimp only
    rw [known]
    rfl
  · rw [if_neg recorded, if_neg recorded]
    rfl

/-! ### The rules of a tick -/

theorem applyRules_run (config : GrowthConfig) (rules : List Rule) (w : Workshop) :
    (applyRules config rules).run w =
      match (Rule.runAll config.skipsDirty {} rules).run (w.turn config) with
      | (.ok result, after) => (.ok result, after)
      | (.error fault, after) => (.error (.pass fault), after) := by
  have begun : (applyRules config rules).run w =
      (GrowthWork.ofEngine (Rule.runAll config.skipsDirty {} rules)).run (w.turn config) := by
    unfold applyRules Workshop.turn
    by_cases advances : config.advancesClock = true
    · rw [if_pos advances, if_pos advances]
      rfl
    · rw [if_neg advances, if_neg advances]
  rw [begun]
  show (match (Rule.runAll config.skipsDirty {} rules).run (w.turn config) with
    | (answer, after) => (answer.mapError GrowthFault.pass, after)) = _
  cases (Rule.runAll config.skipsDirty {} rules).run (w.turn config) with
  | mk answer after => cases answer <;> rfl

/-- A tick leaves what its rules leave, whether they end well or not. -/
theorem applyRules_leaves (config : GrowthConfig) (rules : List Rule) (w : Workshop) :
    ((applyRules config rules).run w).2 =
      ((Rule.runAll config.skipsDirty {} rules).run (w.turn config)).2 := by
  rw [applyRules_run]
  split <;> rename_i ran <;> rw [ran]

theorem turn_planted (config : GrowthConfig) (planted : w.scene.Planted) :
    (w.turn config).scene.Planted := by
  unfold Workshop.turn
  split
  · exact Scene.advance_planted planted
  · exact planted

theorem applyRules_planted (config : GrowthConfig) (rules : List Rule) (planted : w.scene.Planted) :
    ((applyRules config rules).run w).2.scene.Planted := by
  rw [applyRules_leaves]
  exact Scene.planted_kept.runAll config.skipsDirty {} rules _ (turn_planted config planted)

/-! ### Whole ticks -/

/-- How a tick of a growth ends, and how the growth goes on after it. -/
theorem run_succ (config : GrowthConfig) (rules : List Rule) (ticks : Nat) (h : History)
    (planted : w.scene.Planted) :
    (run config rules (ticks + 1) h).run w =
      match config.isReached w.scene.order with
      | .error fault => (.error (.number fault), w)
      | .ok true => (.ok h, w.full config)
      | .ok false =>
        match (applyRules config rules).run w with
        | (.error fault, after) => (.error fault, after)
        | (.ok result, after) =>
          if result.isEmpty && config.stopsWhenQuiet then (.ok h, after.quiet)
          else (run config rules ticks ((h.addTick ⟨result, after.scene.order,
            after.scene.graph.size⟩).recorded config after.scene)).run after := by
  rw [run, Work.run_bind, isFull_run]
  cases config.isReached w.scene.order with
  | error fault => rfl
  | ok full =>
    cases full with
    | true => rfl
    | false =>
      have kept := applyRules_planted config rules planted
      dsimp only
      rw [if_neg Bool.false_ne_true, Work.run_bind]
      cases ran : (applyRules config rules).run w with
      | mk answer after =>
        rw [ran] at kept
        cases answer with
        | error fault => rfl
        | ok result =>
          dsimp only
          split
          · rfl
          · -- The scene is sound after the tick as well, so its fingerprint is there.
            rw [Work.run_bind, Work.run_get]
            dsimp only
            rw [Work.run_bind, recordFingerprint_run _ _ kept.toSound]

/-- A growth that ends well has had room or not. If it had, then a tick has come through, and the
growth has stopped after it or gone on. -/
theorem run_succ_ok {after : Workshop} {ticks : Nat} {h h' : History} (planted : w.scene.Planted)
    (done : (run config rules (ticks + 1) h).run w = (.ok h', after)) :
    (config.isReached w.scene.order = .ok true ∧ h' = h ∧ after = w.full config) ∨
    ∃ result mid, config.isReached w.scene.order = .ok false ∧
      (applyRules config rules).run w = (.ok result, mid) ∧ mid.scene.Planted ∧
      ((result.isEmpty && config.stopsWhenQuiet) = true ∧ h' = h ∧ after = mid.quiet ∨
        (result.isEmpty && config.stopsWhenQuiet) = false ∧
        (run config rules ticks ((h.addTick ⟨result, mid.scene.order,
          mid.scene.graph.size⟩).recorded config mid.scene)).run mid = (.ok h', after)) := by
  have kept := applyRules_planted config rules planted
  rw [run_succ config rules ticks h planted] at done
  cases room : config.isReached w.scene.order with
  | error fault =>
    rw [room] at done
    cases done
  | ok full =>
    rw [room] at done
    cases full with
    | true =>
      cases done
      exact .inl ⟨rfl, rfl, rfl⟩
    | false =>
      cases ran : (applyRules config rules).run w with
      | mk answer mid =>
        rw [ran] at done kept
        cases answer with
        | error fault => cases done
        | ok result =>
          refine .inr ⟨result, mid, rfl, rfl, kept, ?_⟩
          dsimp only at done
          split at done
          · rename_i stops
            cases done
            exact .inl ⟨stops, rfl, rfl⟩
          · rename_i goes
            exact .inr ⟨eq_false_of_ne_true goes, done⟩

end Growth

end GrowthGrammar
