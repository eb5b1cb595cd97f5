import GrowthGrammar.Proofs.Growth.Turn
import GrowthGrammar.Proofs.Rule.Idle
import GrowthGrammar.Proofs.Rule.Run

/-!
Standstill: a tick that touches no node is followed by ticks that touch none. So a growth that stops
there misses nothing that a growth which goes on would find.
-/
namespace GrowthGrammar

namespace Workshop

variable {config : GrowthConfig} {w : Workshop}

theorem turn_alike (config : GrowthConfig) (w : Workshop) : w.Alike (w.turn config) := by
  unfold turn
  split
  · exact ⟨Scene.advance_alike w.scene, rfl, fun _ => rfl⟩
  · exact .refl w

theorem turn_eq_self (holds : config.advancesClock = false) : w.turn config = w := by
  rw [turn, if_neg (ne_true_of_eq_false holds)]

theorem turn_marks (advances : config.advancesClock = true) (sound : w.scene.Sound) :
    (w.turn config).scene.Marks [] := by
  rw [turn, if_pos advances]
  exact Scene.advance_marks sound

end Workshop

namespace Growth

variable {config : GrowthConfig} {rules : List Rule} {w after : Workshop}
  {result : PassResult}

/-! ### Ticks that touch nothing -/

/-- All rules will rest in the next tick. -/
def AtRest (config : GrowthConfig) (rules : List Rule) (w : Workshop) : Prop :=
  Rule.Idle config.skipsDirty rules (w.turn config)

/-- A tick that has touched nothing was one at rest. -/
theorem atRest_of_isEmpty (planted : w.scene.Planted)
    (done : (applyRules config rules).run w = (.ok result, after))
    (empty : result.isEmpty = true) : AtRest config rules w := by
  rw [applyRules_run] at done
  cases ran : (Rule.runAll config.skipsDirty {} rules).run (w.turn config) with
  | mk answer last =>
    rw [ran] at done
    cases answer with
    | error fault => cases done
    | ok own =>
      cases done
      exact Rule.idle_of_isEmpty (turn_planted config planted).toSound ran empty

/-- A tick at rest leaves all as it was, and the next one is at rest again. -/
theorem applyRules_of_atRest (planted : w.scene.Planted) (rests : AtRest config rules w) :
    ∃ after, (applyRules config rules).run w = (.ok {}, after) ∧ w.Alike after ∧
      after.scene.Planted ∧
      ∀ later, after.Calm later → later.scene.Planted → AtRest config rules later := by
  have turned := turn_planted config planted
  obtain ⟨whole, calm⟩ := Rule.runAll_of_idle turned rests {}
  have kept := applyRules_planted config rules planted
  have ran : (applyRules config rules).run w =
      (.ok {}, ((Rule.runAll config.skipsDirty {} rules).run (w.turn config)).2) := by
    rw [applyRules_run, whole]
  rw [ran] at kept
  refine ⟨_, ran, (w.turn_alike config).trans calm.toAlike, kept, fun later onward planted' => ?_⟩
  unfold AtRest
  cases advances : config.advancesClock with
  | true =>
    -- Both ticks begin without dirty nodes.
    have alike := (calm.trans onward).toAlike.trans (later.turn_alike config)
    exact rests.again turned (turn_planted config planted') alike.scene alike.seed
      (Workshop.turn_marks advances planted.toSound) (Workshop.turn_marks advances planted'.toSound)
  | false =>
    -- The second tick begins with all nodes dirty that were so in the first.
    rw [Workshop.turn_eq_self advances]
    exact Rule.idle_of_resting planted' (.refl later) (rests.resting turned onward)

/-- Applies the rules tick after tick. -/
def ticks (config : GrowthConfig) (rules : List Rule) : Nat → GrowthWork (List PassResult)
  | 0 => pure []
  | more + 1 => do
    let result ← applyRules config rules
    return result :: (← ticks config rules more)

theorem ticks_of_atRest (planted : w.scene.Planted) (rests : AtRest config rules w) (more : Nat) :
    ∃ after, (ticks config rules more).run w = (.ok (List.replicate more {}), after) ∧
      w.Alike after := by
  induction more generalizing w with
  | zero => exact ⟨w, rfl, .refl w⟩
  | succ more ih =>
    obtain ⟨mid, first, alike, planted', again⟩ := applyRules_of_atRest planted rests
    obtain ⟨after, ran, alike'⟩ := ih planted' (again mid (.refl mid) planted')
    refine ⟨after, ?_, alike.trans alike'⟩
    rw [ticks, Work.run_bind, first]
    dsimp only
    rw [Work.run_bind, ran]
    rfl

/-! ### Growths that go on -/

/-- A growth that goes on at rest ends well and finds nothing. -/
theorem run_of_atRest (config : GrowthConfig) (loud : config.stopsWhenQuiet = false) (ticks : Nat)
    (h : History) (planted : w.scene.Planted) (room : config.isReached w.scene.order = .ok false)
    (rests : AtRest config rules w) :
    ∃ h' after, (run config rules ticks h).run w = (.ok h', after) ∧ w.Alike after ∧
      h'.total = h.total := by
  induction ticks generalizing w h with
  | zero => exact ⟨h, w, rfl, .refl w, rfl⟩
  | succ ticks ih =>
    obtain ⟨mid, first, alike, planted', again⟩ := applyRules_of_atRest planted rests
    have room' : config.isReached mid.scene.order = .ok false := by rw [alike.scene.order, room]
    obtain ⟨h', after, ran, alike', same⟩ := ih ((h.addTick ⟨{}, mid.scene.order,
      mid.scene.graph.size⟩).recorded config mid.scene) planted' room'
      (again mid (.refl mid) planted')
    refine ⟨h', after, ?_, alike.trans alike', same.trans ?_⟩
    · rw [run_succ config rules ticks h planted, room, first]
      dsimp only
      rw [loud, Bool.and_false, if_neg Bool.false_ne_true, ran]
    · rw [History.total_recorded, History.total_addTick, PassResult.add_empty]

/-- A growth that goes on where others stop ends well and finds nothing more. -/
theorem run_of_isEmpty (ticks : Nat) (h : History) (planted : w.scene.Planted)
    (room : config.isReached w.scene.order = .ok false)
    (ran : (applyRules config rules).run w = (.ok result, after))
    (empty : result.isEmpty = true) :
    ∃ whole later, (run { config with stopsWhenQuiet := false } rules ticks
        ((h.addTick ⟨result, after.scene.order, after.scene.graph.size⟩).recorded config
          after.scene)).run after = (.ok whole, later) ∧
      after.Alike later ∧ whole.total = h.total := by
  obtain ⟨own, first, alike, kept, again⟩ :=
    applyRules_of_atRest planted (atRest_of_isEmpty planted ran empty)
  rw [ran] at first
  cases first
  have room' : config.isReached after.scene.order = .ok false := by rw [alike.scene.order, room]
  obtain ⟨whole, later, gone, alike', same⟩ :=
    run_of_atRest { config with stopsWhenQuiet := false } rfl ticks
      ((h.addTick ⟨{}, after.scene.order, after.scene.graph.size⟩).recorded config after.scene)
      kept room' (again after (.refl after) kept)
  refine ⟨whole, later, gone, alike', same.trans ?_⟩
  rw [History.total_recorded, History.total_addTick, PassResult.add_empty]

/-- A tick is the same whether the growth stops at a standstill or not, up to what comes then. -/
theorem run_succ_stopping (stops : Bool) (ticks : Nat) (h : History) (planted : w.scene.Planted) :
    (run { config with stopsWhenQuiet := stops } rules (ticks + 1) h).run w =
      match config.isReached w.scene.order with
      | .error fault => (.error (.number fault), w)
      | .ok true => (.ok h, w.full config)
      | .ok false =>
        match (applyRules config rules).run w with
        | (.error fault, after) => (.error fault, after)
        | (.ok result, after) =>
          if result.isEmpty && stops then (.ok h, after.quiet)
          else (run { config with stopsWhenQuiet := stops } rules ticks ((h.addTick ⟨result,
            after.scene.order, after.scene.graph.size⟩).recorded config after.scene)).run after :=
  run_succ { config with stopsWhenQuiet := stops } rules ticks h planted

/-- A growth that stops at a standstill and one that goes on are the same up to there. -/
theorem run_stops_alike {stopped : History} (ticks : Nat) (h : History) (planted : w.scene.Planted)
    (done : (run { config with stopsWhenQuiet := true } rules ticks h).run w =
      (.ok stopped, after)) :
    ∃ whole later, (run { config with stopsWhenQuiet := false } rules ticks h).run w =
        (.ok whole, later) ∧ after.Alike later ∧ whole.total = stopped.total := by
  induction ticks generalizing w h with
  | zero =>
    cases done
    exact ⟨stopped, after, rfl, .refl after, rfl⟩
  | succ ticks ih =>
    rw [run_succ_stopping false ticks h planted]
    obtain ⟨reached, rfl, rfl⟩ | ⟨result, mid, room, ran, kept, ends⟩ := run_succ_ok planted done
    · rw [show config.isReached w.scene.order = .ok true from reached]
      exact ⟨_, w.full config, rfl, .refl _, rfl⟩
    · have room : config.isReached w.scene.order = .ok false := room
      have ran : (applyRules config rules).run w = (.ok result, mid) := ran
      rw [room, ran]
      dsimp only
      rw [Bool.and_false, if_neg Bool.false_ne_true]
      rcases ends with ⟨stops, rfl, rfl⟩ | ⟨-, onward⟩
      · -- The one stops here, and the other goes on with ticks at rest.
        obtain ⟨whole, later, gone, alike, same⟩ :=
          run_of_isEmpty ticks stopped planted room ran (Bool.and_eq_true_iff.mp stops).1
        exact ⟨whole, later, gone, ⟨alike.scene, alike.seed, alike.source⟩, same⟩
      · exact ih _ kept onward

/-- Stopping at a standstill changes nothing of what grows, however the growth is configured: if a
growth that stops there ends, then so does one that goes on, with the same nodes, edges, neighbours,
attributes and parents, the same counter, the same changes in total, and all streams where they
stood. For once a tick has touched no node, no later one touches any. -/
theorem grow_stops_alike (ops : List Scene.Operation) (config : GrowthConfig) (rules : List Rule)
    (streams : Option Streams) (notes : List Note) :
    (∀ stopped after, (grow { config with stopsWhenQuiet := true } rules).run
        ⟨Scene.empty.run ops, streams, notes⟩ = (.ok stopped, after) →
      ∃ whole later, (grow { config with stopsWhenQuiet := false } rules).run
          ⟨Scene.empty.run ops, streams, notes⟩ = (.ok whole, later) ∧
        after.Alike later ∧ whole.total = stopped.total) ∧
    (∀ result after, (applyRules config rules).run ⟨Scene.empty.run ops, streams, notes⟩ =
        (.ok result, after) → result.isEmpty = true →
      ∀ more, ∃ later, (ticks config rules more).run after =
          (.ok (List.replicate more {}), later) ∧ after.Alike later) := by
  have planted : (⟨Scene.empty.run ops, streams, notes⟩ : Workshop).scene.Planted :=
    Scene.run_planted ops Scene.empty_planted
  constructor
  · intro stopped after done
    unfold grow at done ⊢
    rw [Work.run_bind, recordFingerprint_run _ _ planted.toSound] at done ⊢
    exact run_stops_alike _ _ planted done
  · intro result after done empty more
    obtain ⟨mid, first, -, planted', again⟩ :=
      applyRules_of_atRest planted (atRest_of_isEmpty planted done empty)
    rw [done] at first
    cases first
    exact ticks_of_atRest planted' (again after (.refl after) planted') more

/-- Draws every node into itself. -/
def drawIn : Rule := { Rule.takeAndMiss with procedures := [.merge [0] 0] }

/-- A node with a child, both drawn into themselves again and again. -/
theorem drawIn_stops_alike :
    let ops : List Scene.Operation := [.edit (.insert {}),
      .edit (.apply (.add [0] { name := "" }) ⟨[(0, 0)], by decide⟩ .unseeded)]
    let config : GrowthConfig := { recordsFingerprints := false }
    ∃ after later,
      (grow { config with stopsWhenQuiet := true } [drawIn]).run ⟨Scene.empty.run ops, none, []⟩ =
        (.ok {}, after) ∧
      (∃ whole, (grow { config with stopsWhenQuiet := false } [drawIn]).run
          ⟨Scene.empty.run ops, none, []⟩ = (.ok whole, later) ∧ whole.total = {}) ∧
      after.scene.Alike later.scene ∧ later.scene.graph.forest.parent? 1 = some 0 := by
  intro ops config
  have planted : (⟨Scene.empty.run ops, none, []⟩ : Workshop).scene.Planted :=
    Scene.run_planted ops Scene.empty_planted
  have rests : AtRest config [drawIn] ⟨Scene.empty.run ops, none, []⟩ :=
    ⟨⟨⟨"", rfl⟩, .inr fun p member => List.mem_singleton.mp member ▸ rfl⟩, trivial⟩
  obtain ⟨mid, first, alike, -⟩ := applyRules_of_atRest planted rests
  have done : (grow { config with stopsWhenQuiet := true } [drawIn]).run
      ⟨Scene.empty.run ops, none, []⟩ = (.ok {}, mid.quiet) := by
    unfold grow
    rw [Work.run_bind, recordFingerprint_run _ _ planted.toSound]
    show (run { config with stopsWhenQuiet := true } [drawIn] (9 + 1) _).run _ = _
    rw [run_succ_stopping true 9 _ planted, show config.isReached _ = .ok false from rfl, first]
    rfl
  obtain ⟨whole, later, ran, same, total⟩ :=
    (grow_stops_alike ops config [drawIn] none []).1 {} mid.quiet done
  refine ⟨mid.quiet, later, done, ⟨whole, ran, total⟩, same.scene, ?_⟩
  rw [(alike.scene.trans same.scene).forest]
  rfl

end Growth

end GrowthGrammar
