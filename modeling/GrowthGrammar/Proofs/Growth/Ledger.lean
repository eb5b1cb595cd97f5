import GrowthGrammar.Proofs.Growth.Standstill
import GrowthGrammar.Proofs.Rule.Mirror

/-!
Ledgers: how a growth goes, tick by tick, up to what ends it. The nodes that its ticks have added and
removed account for the size of the graph at any time, and its history leaves out nothing but a last
tick in which nothing happened.
-/
namespace GrowthGrammar

/-- A graph of so many nodes has so many after what is tallied. -/
def Tally.Carries (t : Tally) (start final : Nat) : Prop := final + t.removed = start + t.added

theorem Tally.carries_zero (n : Nat) : (0 : Tally).Carries n n := rfl

theorem Tally.Carries.add {t u : Tally} {l m n : Nat} (h : t.Carries l m) (h' : u.Carries m n) :
    (t + u).Carries l n := by
  simp only [Carries, add_eq] at *
  omega

namespace GrowthConfig

variable {config : GrowthConfig} {order : Nat}

/-- A graph with so many nodes may go on to grow. -/
def HasRoom (config : GrowthConfig) (order : Nat) : Prop :=
  ∀ limit, config.maxOrder = some limit → ∃ most, limit.order = .ok most ∧ (order : Int) < most

/-- A graph with so many nodes is as large as a limit allows, or larger. -/
def IsFull (config : GrowthConfig) (order : Nat) : Prop :=
  ∃ limit most, config.maxOrder = some limit ∧ limit.order = .ok most ∧ most ≤ (order : Int)

theorem hasRoom_of_isReached (asked : config.isReached order = .ok false) :
    config.HasRoom order := by
  intro limit given
  simp only [isReached, given] at asked
  cases known : limit.order with
  | error fault => simp [known, Except.map] at asked
  | ok most =>
    refine ⟨most, rfl, ?_⟩
    simpa [known, Except.map] using asked

theorem isFull_of_isReached (asked : config.isReached order = .ok true) : config.IsFull order := by
  unfold isReached at asked
  split at asked
  · cases asked
  · rename_i limit given
    cases known : limit.order with
    | error fault => simp [known, Except.map] at asked
    | ok most =>
      refine ⟨limit, most, given, known, ?_⟩
      simpa [known, Except.map] using asked

end GrowthConfig

namespace History

/-- The ticks taken together, in numbers. -/
def tallied (ticks : List Tick) : Tally := (ticks.map fun tick => tick.result.tally).sum

theorem tallied_cons (tick : Tick) (ticks : List Tick) :
    tallied (tick :: ticks) = tick.result.tally + tallied ticks := List.sum_cons

theorem tally_total (h : History) : h.total.tally = tallied h.ticks := by
  have onward (r : PassResult) : (h.ticks.foldl (fun total tick => total.add tick.result) r).tally =
      r.tally + tallied h.ticks := by
    induction h.ticks generalizing r with
    | nil => exact (add_zero r.tally).symm
    | cons tick rest ih => rw [List.foldl_cons, ih, PassResult.tally_add, tallied_cons, add_assoc]
  exact (onward {}).trans (zero_add _)

theorem fingerprints_recorded (config : GrowthConfig) (s : Scene) (h : History) :
    (h.recorded config s).fingerprints.length =
      h.fingerprints.length + if config.recordsFingerprints then 1 else 0 := by
  unfold recorded addFingerprint
  split <;> simp

end History

/-! ### The nodes of a tick -/

/-- What rules add to a result is how the nodes change while they are applied. -/
theorem Rule.runAll_balance {rules : List Rule} {skipDirty : Bool} {total result : PassResult}
    {w after : Workshop} (inStep : w.scene.InStep)
    (done : (runAll skipDirty total rules).run w = (.ok result, after)) :
    ∃ own : PassResult, result = total.add own ∧
      w.scene.Balance after.scene own.removed own.added := by
  induction rules generalizing total w with
  | nil =>
    cases done
    exact ⟨{}, (PassResult.add_empty _).symm, (Scene.SameNodes.refl _).balance inStep⟩
  | cons r rest ih =>
    rw [runAll] at done
    obtain ⟨first, mid, passed, later⟩ := Work.run_bind_ok done
    obtain ⟨context, -, answer, left⟩ := passed_of_run passed
    have here : (w.site context).scene.InStep := inStep
    have balance := balance_of_done here answer
    rw [← left] at balance
    obtain ⟨own, rfl, balance'⟩ := ih balance.inStep later
    exact ⟨first.add own, total.add_assoc first own, balance.trans balance'⟩

namespace Growth

variable {config : GrowthConfig} {rules : List Rule} {w mid after : Workshop} {ticks : Nat}
  {result : PassResult} {last : Option PassResult} {counted later : List Tick}

theorem applyRules_carries (planted : w.scene.Planted)
    (done : (applyRules config rules).run w = (.ok result, after)) :
    result.tally.Carries w.scene.order after.scene.order := by
  have inStep : (w.turn config).scene.InStep := (turn_planted config planted).inStep
  have order : (w.turn config).scene.order = w.scene.order := (w.turn_alike config).scene.order
  rw [applyRules_run] at done
  cases ran : (Rule.runAll config.skipsDirty {} rules).run (w.turn config) with
  | mk answer left =>
    rw [ran] at done
    cases answer with
    | error fault => cases done
    | ok all =>
      cases done
      obtain ⟨own, rfl, balance⟩ := Rule.runAll_balance inStep ran
      have kept := balance.order inStep
      rw [order] at kept
      rwa [PassResult.empty_add]

/-- A tick in which no node was touched has nothing to report, failures included. -/
theorem eq_empty_of_isEmpty (planted : w.scene.Planted)
    (done : (applyRules config rules).run w = (.ok result, after))
    (empty : result.isEmpty = true) : result = {} := by
  obtain ⟨left, rested, -⟩ := applyRules_of_atRest planted (atRest_of_isEmpty planted done empty)
  rw [done] at rested
  cases rested
  rfl

/-! ### The course of a growth -/

/-- How a growth goes that has so many ticks left: the ticks that count, one that ends it because
nothing happened, if it ends so, and what it leaves. -/
inductive Course (config : GrowthConfig) (rules : List Rule) :
    Nat → Workshop → List Tick → Option PassResult → Workshop → Prop where
  | spent {w : Workshop} : Course config rules 0 w [] none w
  | full {ticks : Nat} {w : Workshop} (reached : config.isReached w.scene.order = .ok true) :
    Course config rules (ticks + 1) w [] none (w.full config)
  | quiet {ticks : Nat} {w mid : Workshop} {result : PassResult}
    (room : config.isReached w.scene.order = .ok false)
    (ran : (applyRules config rules).run w = (.ok result, mid)) (empty : result.isEmpty = true)
    (stops : config.stopsWhenQuiet = true) :
    Course config rules (ticks + 1) w [] (some result) mid.quiet
  | tick {ticks : Nat} {w mid after : Workshop} {result : PassResult} {later : List Tick}
    {last : Option PassResult} (room : config.isReached w.scene.order = .ok false)
    (ran : (applyRules config rules).run w = (.ok result, mid))
    (goes : (result.isEmpty && config.stopsWhenQuiet) = false)
    (onward : Course config rules ticks mid later last after) :
    Course config rules (ticks + 1) w (⟨result, mid.scene.order, mid.scene.graph.size⟩ :: later)
      last after

/-- A growth that ends well goes some course, and its history grows by the ticks that count and by a
fingerprint for each of them. -/
theorem exists_course {h h' : History} (planted : w.scene.Planted)
    (done : (run config rules ticks h).run w = (.ok h', after)) :
    ∃ counted last, Course config rules ticks w counted last after ∧
      h'.ticks = h.ticks ++ counted ∧
      h'.fingerprints.length =
        h.fingerprints.length + if config.recordsFingerprints then counted.length else 0 := by
  induction ticks generalizing w h with
  | zero =>
    cases done
    exact ⟨[], none, .spent, by simp, by simp⟩
  | succ ticks ih =>
    obtain ⟨reached, rfl, rfl⟩ | ⟨result, mid, room, ran, kept, ends⟩ := run_succ_ok planted done
    · exact ⟨[], none, .full reached, by simp, by simp⟩
    · rcases ends with ⟨stops, rfl, rfl⟩ | ⟨goes, onward⟩
      · obtain ⟨empty, quiet⟩ := Bool.and_eq_true_iff.mp stops
        exact ⟨[], some result, .quiet room ran empty quiet, by simp, by simp⟩
      · obtain ⟨counted, last, course, listed, marked⟩ := ih kept onward
        refine ⟨_ :: counted, last, .tick room ran goes course, ?_, ?_⟩
        · rw [listed, History.ticks_recorded, History.addTick, List.append_assoc]
          rfl
        · simp only [marked, History.fingerprints_recorded, History.addTick, List.length_cons]
          split <;> omega

/-! ### The books of a growth -/

/-- What the ticks of a growth tell of the size of its graph, from the first tick to the end. -/
structure Books (config : GrowthConfig) (ticks start : Nat) (counted : List Tick)
    (last : Option PassResult) (final : Nat) : Prop where
  within : counted.length ≤ ticks
  orders : ∀ i tick, counted[i]? = some tick →
    (History.tallied (counted.take (i + 1))).Carries start tick.order
  room : ∀ order ∈ (start :: counted.map (·.order)).take (counted.length + last.toList.length),
    config.HasRoom order
  whole : (History.tallied counted).Carries start final
  idle : ∀ result ∈ last, result = {}
  ending : counted.length < ticks →
    config.IsFull final ∨ config.stopsWhenQuiet = true ∧ last = some {}

/-- A tick enters the books before all that follow. -/
theorem Books.cons {start final : Nat} {tick : Tick} (room : config.HasRoom start)
    (carries : tick.result.tally.Carries start tick.order)
    (books : Books config ticks tick.order later last final) :
    Books config (ticks + 1) start (tick :: later) last final where
  within := Nat.succ_le_succ books.within
  orders i other found := by
    rw [List.take_succ_cons, History.tallied_cons]
    cases i with
    | zero =>
      obtain rfl : tick = other := by simpa using found
      simpa [History.tallied] using carries
    | succ i =>
      rw [List.getElem?_cons_succ] at found
      exact carries.add (books.orders i other found)
  room order member := by
    rw [List.length_cons, Nat.add_right_comm, List.take_succ_cons] at member
    rcases List.mem_cons.mp member with rfl | member
    · exact room
    · exact books.room order member
  whole := by
    rw [History.tallied_cons]
    exact carries.add books.whole
  idle := books.idle
  ending fewer := books.ending (Nat.lt_of_succ_lt_succ fewer)

theorem Course.books (course : Course config rules ticks w counted last after)
    (planted : w.scene.Planted) :
    Books config ticks w.scene.order counted last after.scene.order := by
  induction course with
  | spent =>
    exact ⟨Nat.le_refl 0, by simp, by simp, Tally.carries_zero _, by simp,
      fun fewer => absurd fewer (Nat.lt_irrefl 0)⟩
  | @full ticks w reached =>
    have same : (w.full config).scene = w.scene := by
      unfold Workshop.full
      split <;> rfl
    rw [same]
    exact ⟨Nat.zero_le _, by simp, by simp, Tally.carries_zero _, by simp,
      fun _ => .inl (GrowthConfig.isFull_of_isReached reached)⟩
  | @quiet ticks w mid result room ran empty stops =>
    obtain rfl := eq_empty_of_isEmpty planted ran empty
    refine ⟨Nat.zero_le _, by simp, ?_, applyRules_carries planted ran, ?_, ?_⟩
    · simpa using GrowthConfig.hasRoom_of_isReached room
    · intro result member
      exact (Option.mem_some.mp member).symm
    · exact fun _ => .inr ⟨stops, rfl⟩
  | tick room ran goes onward ih =>
    have kept := applyRules_planted config rules planted
    rw [ran] at kept
    exact .cons (GrowthConfig.hasRoom_of_isReached room) (applyRules_carries planted ran) (ih kept)

/-- A growth that ends well keeps its books. It has no more ticks than it may have, each begun while
there was room, and records a fingerprint before the first and after every one of them. All the
nodes that there are after a tick, and at the end, are those of the beginning and those that were
added, less those that were removed; in total it counts every tick, one that ended it included. And
if it ends early, then the graph is full or nothing happened in the last tick. -/
theorem grow_keeps_books (ops : List Scene.Operation) (config : GrowthConfig) (rules : List Rule)
    (streams : Option Streams) (notes : List Note) {h : History}
    (done : (grow config rules).run ⟨Scene.empty.run ops, streams, notes⟩ = (.ok h, after)) :
    ∃ last : Option PassResult,
      Course config rules config.maxIterations.toNat ⟨Scene.empty.run ops, streams, notes⟩
        h.ticks last after ∧
      (h.iterations : Int) ≤ max 0 config.maxIterations ∧
      h.fingerprints.length = (if config.recordsFingerprints then h.iterations + 1 else 0) ∧
      (∀ i tick, h.ticks[i]? = some tick →
        (History.tallied (h.ticks.take (i + 1))).Carries (Scene.empty.run ops).order tick.order) ∧
      (∀ order ∈ ((Scene.empty.run ops).order :: h.ticks.map (·.order)).take
        (h.iterations + last.toList.length), config.HasRoom order) ∧
      h.total.tally = ((h.ticks.map (·.result) ++ last.toList).map PassResult.tally).sum ∧
      h.total.tally.Carries (Scene.empty.run ops).order after.scene.order ∧
      ((h.iterations : Int) < config.maxIterations →
        config.IsFull after.scene.order ∨ config.stopsWhenQuiet = true ∧ last = some {}) := by
  let start : Workshop := ⟨Scene.empty.run ops, streams, notes⟩
  have planted : start.scene.Planted := Scene.run_planted ops Scene.empty_planted
  unfold grow at done
  rw [Work.run_bind, recordFingerprint_run _ _ planted.toSound] at done
  obtain ⟨counted, last, course, listed, marked⟩ := exists_course planted done
  rw [History.ticks_recorded, List.nil_append] at listed
  rw [History.fingerprints_recorded] at marked
  subst listed
  have books := course.books planted
  have total : h.total.tally = History.tallied h.ticks := h.tally_total
  refine ⟨last, course, ?_, ?_, books.orders, books.room, ?_, ?_, ?_⟩
  · have within := books.within
    unfold History.iterations
    omega
  · rw [marked]
    unfold History.iterations
    split <;> simp [Nat.add_comm]
  · have nothing : (last.toList.map PassResult.tally).sum = 0 := by
      cases last with
      | none => rfl
      | some result =>
        rw [books.idle result rfl]
        rfl
    rw [List.map_append, List.sum_append, nothing, add_zero, total, History.tallied, List.map_map]
    rfl
  · rw [total]
    exact books.whole
  · intro fewer
    refine books.ending ?_
    unfold History.iterations at fewer
    omega

/-- One node. -/
def sprig : Workshop := ⟨Scene.empty.run [.edit (.insert {})], none, []⟩

/-- The node is taken away in the first tick, and in the second one there is none. -/
theorem takeAndMiss_ticks : ∃ mid left,
    (applyRules {} [Rule.takeAndMiss]).run sprig =
      (.ok { removed := [0], failures := 1 }, mid) ∧
    (applyRules {} [Rule.takeAndMiss]).run mid = (.ok {}, left) := by
  let r := Rule.takeAndMiss
  let passed := (r.applyWhere (Rule.gate false)).run ((sprig.turn {}).site "")
  let mid := (sprig.turn {}).leave "" passed.2
  have named : r.context (sprig.turn {}) = .ok "" := rfl
  have planted : sprig.scene.Planted := Scene.run_planted _ Scene.empty_planted
  have found : r.kept (Rule.gate false) ((sprig.turn {}).site "").scene =
      [⟨[(0, 0)], by decide⟩] := by
    rw [Rule.kept_eq]
    rfl
  have answer : passed.1 = .ok { removed := [0], failures := 1 } := by
    rw [(r.applyWhere_run _ _).1, found]
    rfl
  have first : (applyRules {} [r]).run sprig = (.ok { removed := [0], failures := 1 }, mid) := by
    rw [applyRules_run, Rule.runAll, Work.run_bind,
      show r.run false = r.runWhere (Rule.gate false) from rfl, Rule.runWhere_of_context named,
      answer]
    rfl
  have kept := applyRules_planted {} [r] planted
  rw [first] at kept
  have nothing : r.kept (Rule.gate false) (mid.turn {}).scene = [] := by
    have left : passed.2.scene = _ := (r.applyWhere_run _ _).2
    rw [found] at left
    rw [Rule.kept_eq, show (mid.turn {}).scene = passed.2.scene.mapGraph Graph.advance from rfl,
      left]
    rfl
  have rests : AtRest {} [r] mid := by
    refine ⟨⟨⟨"", rfl⟩, .inl fun b member => ?_⟩, trivial⟩
    rw [show (mid.turn {}).scene = _ from rfl, nothing] at member
    cases member
  obtain ⟨left, second, -⟩ := applyRules_of_atRest kept rests
  exact ⟨mid, left, first, second⟩

theorem takeAndMiss_keeps_books : ∃ h after,
    (grow {} [Rule.takeAndMiss]).run sprig = (.ok h, after) ∧ h.iterations = 1 ∧
      h.fingerprints.length = 2 ∧ h.total.tally = ⟨1, 0, 0, 1⟩ ∧ after.scene.order = 0 := by
  obtain ⟨mid, left, first, second⟩ := takeAndMiss_ticks
  have planted : sprig.scene.Planted := Scene.run_planted _ Scene.empty_planted
  have kept := applyRules_planted {} [Rule.takeAndMiss] planted
  rw [first] at kept
  let begun : History := History.recorded {} sprig.scene {}
  let h : History := (begun.addTick ⟨{ removed := [0], failures := 1 }, mid.scene.order,
    mid.scene.graph.size⟩).recorded {} mid.scene
  have done : (grow {} [Rule.takeAndMiss]).run sprig = (.ok h, left.quiet) := by
    unfold grow
    rw [Work.run_bind, recordFingerprint_run _ _ planted.toSound]
    show (run {} _ (8 + 1 + 1) begun).run sprig = _
    rw [run_succ {} _ (8 + 1) begun planted,
      show GrowthConfig.isReached {} _ = .ok false from rfl, first]
    show (run {} _ (8 + 1) h).run mid = _
    rw [run_succ {} _ 8 h kept, show GrowthConfig.isReached {} _ = .ok false from rfl, second]
    rfl
  have ticks : h.ticks = [⟨{ removed := [0], failures := 1 }, mid.scene.order,
      mid.scene.graph.size⟩] := by
    rw [History.ticks_recorded, History.addTick, History.ticks_recorded]
    rfl
  have iterations : h.iterations = 1 := by rw [History.iterations, ticks, List.length_singleton]
  have total : h.total.tally = ⟨1, 0, 0, 1⟩ := by
    rw [h.tally_total, ticks]
    rfl
  obtain ⟨last, -, -, marked, -, -, -, carries, -⟩ := grow_keeps_books _ {} _ none [] done
  refine ⟨h, left.quiet, done, iterations, ?_, total, ?_⟩
  · rw [marked, iterations]
    rfl
  · rw [total] at carries
    have carried : left.quiet.scene.order + 1 = sprig.scene.order + 0 := carries
    rw [show sprig.scene.order = 1 from rfl] at carried
    omega

end Growth

end GrowthGrammar
