import GrowthGrammar.Proofs.Growth.Turn
import GrowthGrammar.Proofs.Random.Streams
import GrowthGrammar.Proofs.Rule.Gate

/-!
Checkpoints: a growth may be left after some ticks and taken up again from what was kept of it, the
scene and where the streams stood. It ends like one that was never left.
-/
namespace GrowthGrammar

/-! ### Results that are added up -/

namespace History

/-- A history and what happened after it. -/
def append (h later : History) : History where
  ticks := h.ticks ++ later.ticks
  fingerprints := h.fingerprints ++ later.fingerprints

theorem addTick_append (h later : History) (tick : Tick) :
    (h.append later).addTick tick = h.append (later.addTick tick) := by
  simp only [append, addTick, List.append_assoc]

theorem recorded_append (config : GrowthConfig) (s : Scene) (h later : History) :
    (h.append later).recorded config s = h.append (later.recorded config s) := by
  unfold recorded
  split
  · simp only [append, addFingerprint, List.append_assoc]
  · rfl

theorem append_empty (h : History) : h.append {} = h := by
  simp only [append, List.append_nil]

theorem foldl_add (r : PassResult) (ticks : List Tick) :
    ticks.foldl (fun total tick => total.add tick.result) r =
      r.add (ticks.foldl (fun total tick => total.add tick.result) {}) := by
  induction ticks generalizing r with
  | nil => exact r.add_empty.symm
  | cons tick rest ih =>
    rw [List.foldl_cons, List.foldl_cons, ih, ih (PassResult.add {} _), PassResult.add_assoc,
      PassResult.empty_add]

theorem total_append (h later : History) : (h.append later).total = h.total.add later.total := by
  unfold total append
  rw [List.foldl_append, foldl_add]

end History

namespace Growth

variable {config : GrowthConfig} {rules : List Rule} {w after : Workshop} {h done : History}

/-! ### What stays over a growth -/

/-- The scene is planted, and there are streams to draw from. -/
structure Equipped (w : Workshop) : Prop where
  planted : w.scene.Planted
  streams : w.streams.isSome = true

theorem runAll_streams (skipDirty : Bool) (total : PassResult) (rules : List Rule) (w : Workshop) :
    ((Rule.runAll skipDirty total rules).run w).2.streams.isSome = w.streams.isSome := by
  induction rules generalizing total w with
  | nil => rfl
  | cons r rest ih =>
    have first : ((r.run skipDirty).run w).2.streams.isSome = w.streams.isSome := by
      have seed := congrArg Option.isSome (r.seed?_run skipDirty w)
      rwa [Workshop.seed?, Workshop.seed?, Option.isSome_map, Option.isSome_map] at seed
    rw [Rule.runAll, Work.run_bind]
    split
    · rename_i ran
      rw [ran] at first
      exact (ih _ _).trans first
    · rename_i ran
      rw [ran] at first
      exact first

theorem applyRules_equipped (config : GrowthConfig) (rules : List Rule) (h : Equipped w) :
    Equipped ((applyRules config rules).run w).2 := by
  refine ⟨applyRules_planted config rules h.planted, ?_⟩
  have turned : (w.turn config).streams = w.streams := by
    unfold Workshop.turn
    split <;> rfl
  rw [applyRules_leaves, runAll_streams, turned, h.streams]

theorem run_equipped (config : GrowthConfig) (rules : List Rule) (ticks : Nat) (h : History)
    (equipped : Equipped w) : Equipped ((run config rules ticks h).run w).2 := by
  induction ticks generalizing w h with
  | zero => exact equipped
  | succ ticks ih =>
    have kept := applyRules_equipped config rules equipped
    rw [run_succ config rules ticks h equipped.planted]
    split
    · exact equipped
    · unfold Workshop.full
      split <;> exact ⟨equipped.planted, equipped.streams⟩
    · split
      · rename_i ran
        rw [ran] at kept
        exact kept
      · rename_i ran
        rw [ran] at kept
        split
        · exact ⟨kept.planted, kept.streams⟩
        · exact ih _ kept

/-! ### Growths in two parts -/

theorem run_limit (limit : Int) (config : GrowthConfig) (rules : List Rule) (ticks : Nat)
    (h : History) : run { config with maxIterations := limit } rules ticks h =
      run config rules ticks h := by
  induction ticks generalizing h with
  | zero => rfl
  | succ ticks ih =>
    rw [run, run]
    simp only [ih]
    rfl

/-- What happened before does not matter for what happens next. -/
theorem run_append (config : GrowthConfig) (rules : List Rule) (ticks : Nat) (h later : History)
    (planted : w.scene.Planted) :
    (run config rules ticks (h.append later)).run w =
      (((run config rules ticks later).run w).1.map h.append,
        ((run config rules ticks later).run w).2) := by
  induction ticks generalizing w later with
  | zero => rfl
  | succ ticks ih =>
    have kept := applyRules_planted config rules planted
    rw [run_succ config rules ticks _ planted, run_succ config rules ticks _ planted]
    cases config.isReached w.scene.order with
    | error fault => rfl
    | ok full =>
      cases full with
      | true => rfl
      | false =>
        cases ran : (applyRules config rules).run w with
        | mk answer mid =>
          rw [ran] at kept
          cases answer with
          | error fault => rfl
          | ok result =>
            dsimp only
            split
            · rfl
            · rw [History.addTick_append, History.recorded_append, ih _ kept]

theorem run_from (config : GrowthConfig) (rules : List Rule) (ticks : Nat) (h : History)
    (planted : w.scene.Planted) :
    (run config rules ticks h).run w =
      (((run config rules ticks {}).run w).1.map h.append,
        ((run config rules ticks {}).run w).2) := by
  rw [← run_append config rules ticks h {} planted, h.append_empty]

/-- A growth that comes through some ticks goes on with the rest of them from there. -/
theorem run_add (ticks more : Nat) (planted : w.scene.Planted)
    (ran : (run config rules ticks h).run w = (.ok done, after))
    (through : done.iterations = h.iterations + ticks) :
    (run config rules (ticks + more) h).run w = (run config rules more done).run after := by
  induction ticks generalizing w h with
  | zero =>
    cases ran
    rw [Nat.zero_add]
  | succ ticks ih =>
    rw [Nat.succ_add, run_succ config rules (ticks + more) h planted]
    obtain ⟨-, rfl, -⟩ | ⟨result, mid, room, first, kept, ends⟩ := run_succ_ok planted ran
    · -- Here and at a standstill the growth ends before it has come through all ticks.
      omega
    · rcases ends with ⟨-, rfl, -⟩ | ⟨goes, onward⟩
      · omega
      · rw [room, first]
        dsimp only
        rw [goes, if_neg Bool.false_ne_true]
        refine ih kept onward ?_
        rw [through, History.iterations, History.iterations, History.ticks_recorded]
        show _ = (h.ticks ++ [_]).length + ticks
        rw [List.length_append, List.length_singleton]
        omega

/-- A growth of any limit is the same run, with as many ticks as the limit says. -/
theorem grow_limited (config : GrowthConfig) (rules : List Rule) (limit : Nat)
    (sound : w.scene.Sound) : (grow { config with maxIterations := limit } rules).run w =
      (run config rules limit (History.recorded config w.scene {})).run w := by
  unfold grow
  rw [Work.run_bind, recordFingerprint_run _ _ sound]
  show (run { config with maxIterations := (limit : Int) } rules limit _).run w = _
  rw [run_limit limit config]
  rfl

/-- A growth that has come through its ticks can be left: somebody who keeps the scene and where the
streams stood, and goes on from there with streams of any other seed that are put to where those
stood, ends exactly where a growth without the break ends, be it well or at a fault, with the ticks
of both parts. -/
theorem grow_resumes (ops : List Scene.Operation) (config : GrowthConfig) (rules : List Rule)
    (seed other : Int) (notes : List Note) {ticks : Nat} (more : Nat)
    (ran : (grow { config with maxIterations := ticks } rules).run
      ⟨Scene.empty.run ops, some (.ofSeed seed), notes⟩ = (.ok done, after))
    (through : done.iterations = ticks) :
    ∃ streams, after.streams = some streams ∧
      match (grow { config with maxIterations := more } rules).run
        { after with streams := some ((Streams.ofSeed other).restore streams.saved) } with
      | (.error fault, last) =>
        (grow { config with maxIterations := ticks + more } rules).run
          ⟨Scene.empty.run ops, some (.ofSeed seed), notes⟩ = (.error fault, last)
      | (.ok rest, last) =>
        ∃ whole, (grow { config with maxIterations := ticks + more } rules).run
            ⟨Scene.empty.run ops, some (.ofSeed seed), notes⟩ = (.ok whole, last) ∧
          whole.ticks = done.ticks ++ rest.ticks ∧
          whole.iterations = done.iterations + rest.iterations ∧
          whole.total = done.total.add rest.total := by
  let start : Workshop := ⟨Scene.empty.run ops, some (.ofSeed seed), notes⟩
  have equipped : Equipped start := ⟨Scene.run_planted ops Scene.empty_planted, rfl⟩
  rw [grow_limited config rules ticks equipped.planted.toSound] at ran
  have kept := run_equipped config rules ticks (History.recorded config start.scene {}) equipped
  rw [ran] at kept
  obtain ⟨streams, stood⟩ := Option.isSome_iff_exists.mp kept.streams
  have resumed : { after with streams := some ((Streams.ofSeed other).restore streams.saved) } =
      after := by
    rw [Streams.restore_saved, ← stood]
  have whole : (grow { config with maxIterations := (ticks + more : Nat) } rules).run start =
      (run config rules more done).run after := by
    rw [grow_limited config rules (ticks + more) equipped.planted.toSound]
    refine run_add ticks more equipped.planted ran ?_
    rw [through, History.iterations, History.ticks_recorded]
    exact (Nat.zero_add ticks).symm
  refine ⟨streams, stood, ?_⟩
  -- Both go on from the same workshop, with different histories behind them.
  rw [resumed, grow_limited config rules more kept.planted.toSound,
    run_from config rules more (History.recorded ..) kept.planted,
    show ((ticks : Int) + more) = (ticks + more : Nat) from rfl, whole,
    run_from config rules more done kept.planted]
  cases (run config rules more {}).run after with
  | mk answer last =>
    cases answer with
    | error fault => rfl
    | ok later =>
      have ticks : ((History.recorded config after.scene {}).append later).ticks = later.ticks := by
        rw [History.append, History.ticks_recorded]
        rfl
      refine ⟨done.append later, rfl, ?_, ?_, ?_⟩
      · rw [ticks]
        rfl
      · rw [History.iterations, History.iterations, History.iterations, ticks]
        exact List.length_append
      · rw [History.total_append]
        congr 1
        rw [History.total, History.total, ticks]

/-- A growth that has had one node grown is left with the streams of one seed and taken up with those
of another. -/
theorem sprout_resumes :
    let config : GrowthConfig := { skipsDirty := true, recordsFingerprints := false }
    let start : Workshop :=
      ⟨Scene.empty.run [.edit (.insert {})], some (.ofSeed 7), []⟩
    ∃ done after streams,
      (grow { config with maxIterations := (1 : Nat) } [Rule.sprout]).run start =
        (.ok done, after) ∧
      done.total = { added := [1] } ∧ after.streams = some streams ∧
      ∀ rest last, (grow { config with maxIterations := (2 : Nat) } [Rule.sprout]).run
          { after with streams := some ((Streams.ofSeed 8).restore streams.saved) } =
            (.ok rest, last) →
        ∃ whole, (grow { config with maxIterations := (1 : Nat) + (2 : Nat) } [Rule.sprout]).run
            start = (.ok whole, last) ∧
          whole.iterations = 1 + rest.iterations := by
  intro config start
  have planted : start.scene.Planted := Scene.run_planted _ Scene.empty_planted
  have first : ((applyRules config [Rule.sprout]).run start).1 = .ok { added := [1] } := by
    have named : Rule.sprout.context (start.turn config) =
      .ok (Streams.ruleContext "<uuid>") := rfl
    have passed := Rule.sprout_passed
      (show ((start.turn config).site (Streams.ruleContext "<uuid>")).scene =
        Rule.seedling.scene from rfl)
    rw [applyRules_run, show config.skipsDirty = true from rfl, Rule.runAll, Work.run_bind,
      show Rule.sprout.run true = Rule.sprout.runWhere (Rule.gate true) from rfl,
      Rule.runWhere_of_context named, passed]
    rfl
  have ticked : (applyRules config [Rule.sprout]).run start =
    (.ok { added := [1] }, ((applyRules config [Rule.sprout]).run start).2) := Prod.ext first rfl
  generalize ((applyRules config [Rule.sprout]).run start).2 = after at ticked
  have ran : (grow { config with maxIterations := (1 : Nat) } [Rule.sprout]).run start =
      (.ok (({} : History).addTick ⟨{ added := [1] }, after.scene.order,
        after.scene.graph.size⟩), after) := by
    rw [grow_limited config _ 1 planted.toSound, run_succ config _ 0 _ planted,
      show config.isReached _ = .ok false from rfl, ticked]
    rfl
  obtain ⟨streams, stood, resumed⟩ := grow_resumes [.edit (.insert {})] config [Rule.sprout] 7 8 []
    2 ran rfl
  refine ⟨_, after, streams, ran, rfl, stood, fun rest last gone => ?_⟩
  rw [gone] at resumed
  obtain ⟨whole, grown, -, iterations, -⟩ := resumed
  exact ⟨whole, grown, iterations⟩

end Growth

end GrowthGrammar
