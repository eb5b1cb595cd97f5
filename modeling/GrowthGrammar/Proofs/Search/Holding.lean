import GrowthGrammar.Proofs.Rule.Run
import GrowthGrammar.Proofs.Search.Interleaving

/-!
Holding on: what becomes of nodes that are removed while a search is under way. A node is looked at
when it is chosen and not again, so an answer may hold on to one that is gone. That happens only if
an earlier call has chosen the node, and every answer since then has had it.
-/
namespace GrowthGrammar

/-- Every node that is bound is one of the scene, or it was bound so before, with all that are bound
ahead of it. -/
def Bindings.HoldsOn (b before : Bindings) (s : Scene) : Prop :=
  ∀ place n id, b.entries[place]? = some (n, id) →
    s.contains id = true ∨ b.firstFew (place + 1) = before.firstFew (place + 1)

namespace Bindings

variable {s : Scene} {b before : Bindings}

theorem holdsOn_refl (s : Scene) (b : Bindings) : b.HoldsOn b s := fun _ _ _ _ => .inr rfl

theorem holdsOn_empty (s : Scene) (before : Bindings) : HoldsOn .empty before s := by
  intro place n id found
  cases found

theorem HoldsOn.firstFew (h : b.HoldsOn before s) (count : Nat) :
    (b.firstFew count).HoldsOn before s := by
  intro place n id found
  have below : place < count := by
    have within := (List.getElem?_eq_some_iff.mp found).1
    rw [show (b.firstFew count).entries = b.entries.take count from rfl, List.length_take] at within
    omega
  rw [show (b.firstFew count).entries = b.entries.take count from rfl,
    List.getElem?_take_of_lt below] at found
  rw [Matcher.firstFew_firstFew b below]
  exact h place n id found

/-- Whoever binds a further pattern node to a node of the scene holds on to nothing more. -/
theorem HoldsOn.put (h : b.HoldsOn before s) {n id : Int} (absent : n ∉ b.keys)
    (there : s.contains id = true) : HoldsOn (b.put n id) before s := by
  intro place n' id' found
  rw [Catalog.entries_put absent] at found
  rcases Nat.lt_or_ge place b.entries.length with below | last
  · rw [List.getElem?_append_left below] at found
    have same : Bindings.firstFew (b.put n id) (place + 1) = b.firstFew (place + 1) := by
      apply Catalog.ext_entries
      show (Catalog.put b n id).entries.take (place + 1) = b.entries.take (place + 1)
      rw [Catalog.entries_put absent, List.take_append_of_le_length below]
    rw [same]
    exact h place n' id' found
  · rw [List.getElem?_append_right last] at found
    obtain ⟨-, rfl⟩ := Prod.mk.inj (List.mem_singleton.mp (List.mem_of_getElem? found))
    exact .inl there

end Bindings

theorem Query.contains_of_candidate? {q : Query} {s : Scene} {n : PatternNode} {b : Bindings}
    {start place : Nat} {id : Int} (found : q.candidate? s n b start = some (id, place)) :
    s.contains id = true := by
  have suits := List.find?_some found
  simp only [Query.suits, Bool.and_eq_true] at suits
  cases there : s.node? id with
  | none =>
    rw [there] at suits
    exact absurd suits.2 Bool.false_ne_true
  | some node =>
    show s.nodes.contains id = true
    rw [Catalog.contains_eq_isSome_get?, show s.nodes.get? id = some node from there]
    rfl

namespace Matcher

variable {m m' : Matcher} {s : Scene} {n : PatternNode} {cursor : Nat} {b before : Bindings}

/-! ### What a call holds on to -/

theorem Searching.holdsOn_tryNode (h : Searching m) (here : m.cursor = cursor)
    (found : m.pattern.nodes[cursor]? = some n) (holds : m.bound.HoldsOn before s) :
    (m.tryNode s n).bound.HoldsOn before s := by
  unfold Matcher.tryNode
  split
  · rename_i id place candidate
    rw [h.bound_bindTo here found]
    exact (holds.firstFew cursor).put (h.absent here found) (Query.contains_of_candidate? candidate)
  · unfold Matcher.backFrom
    split
    · exact Bindings.holdsOn_empty s before
    · show Bindings.HoldsOn (m.bound.erase n.id) before s
      rw [h.erase_eq_firstFew here found]
      exact holds.firstFew cursor

theorem Searching.holdsOn_move (h : Searching m) (holds : m.bound.HoldsOn before s) :
    (m.move s).2.bound.HoldsOn before s ∧ ∀ b, (m.move s).1 = some b → (m.move s).2.bound = b := by
  unfold Matcher.move
  split
  · exact ⟨Bindings.holdsOn_empty s before, fun b answer => by cases answer⟩
  · have here : m.cursor = m.cursor.toNat := by omega
    split
    · rename_i n found
      exact ⟨h.holdsOn_tryNode here found holds, fun b answer => by cases answer⟩
    · refine ⟨holds, fun b answer => ?_⟩
      simp only [Option.ite_none_right_eq_some, Option.some.injEq] at answer
      exact answer.2

/-- A call holds on to what was bound when it began, and what it gives stays bound. -/
theorem holdsOn_next (h : m.isEnded = true ∨ Tracked m) (holds : m.bound.HoldsOn before s) :
    (m.next s).2.bound.HoldsOn before s ∧ ∀ b, (m.next s).1 = some b → (m.next s).2.bound = b := by
  fun_induction Matcher.next m s with
  | case1 m ended => exact ⟨holds, fun b answer => by cases answer⟩
  | case2 m going b m' moved =>
    have step := (h.resolve_left going).toSearching.holdsOn_move holds
    rwa [moved] at step
  | case3 m going m' moved ih =>
    have tracked := h.resolve_left going
    have step := tracked.toSearching.holdsOn_move holds
    have sound := (tracked.move s).sound
    rw [moved] at step sound
    exact ih sound step.1

/-! ### What answers hold on to -/

/-- Since an earlier call all answers have bound the pattern node at a place, and those declared
ahead of it, as these bindings do. -/
structure HeldSince (m : Matcher) (scenes : Nat → Scene) (earlier call place : Nat)
    (b : Bindings) : Prop where
  before : earlier < call
  same : ∀ between, earlier ≤ between → between < call → ∃ c, m.answerAmid scenes between = some c ∧
    c.firstFew (place + 1) = b.firstFew (place + 1)

variable {scenes : Nat → Scene} {call place : Nat} {key id : Int}

theorem Tracked.bound_after (h : Tracked m) (answer : m.answerAmid scenes call = some b) :
    (m.amid scenes (call + 1)).bound = b :=
  (holdsOn_next (amid_sound h scenes call) (Bindings.holdsOn_refl _ _)).2 b answer

/-- A node that an answer binds is there, or the last answer has bound it too. -/
theorem Tracked.there_or_held (h : Tracked m) (fresh : m.bound = .empty)
    (answer : m.answerAmid scenes call = some b) (found : b.entries[place]? = some (key, id)) :
    (scenes call).contains id = true ∨ ∃ last c, call = last + 1 ∧
      m.answerAmid scenes last = some c ∧ c.firstFew (place + 1) = b.firstFew (place + 1) := by
  have holds := (holdsOn_next (s := scenes call) (amid_sound h scenes call)
    (Bindings.holdsOn_refl _ _)).1
  rw [show ((m.amid scenes call).next (scenes call)).2 = m.amid scenes (call + 1) from rfl,
    h.bound_after answer] at holds
  refine (holds place key id found).imp_right fun same => ?_
  cases call with
  | zero =>
    -- Nothing is bound before the first call.
    rw [show m.amid scenes 0 = m from rfl, fresh] at same
    have nothing : b.entries.take (place + 1) = [] := congrArg Catalog.entries same
    rw [List.take_eq_nil_iff] at nothing
    rw [nothing.resolve_left (Nat.succ_ne_zero place)] at found
    cases found
  | succ last =>
    cases given : m.answerAmid scenes last with
    | none =>
      rw [answerAmid_none m scenes (Nat.le_succ last) given] at answer
      cases answer
    | some c =>
      rw [h.bound_after given] at same
      exact ⟨last, c, rfl, given, same.symm⟩

theorem entry_of_firstFew {c : Bindings} (same : c.firstFew (place + 1) = b.firstFew (place + 1)) :
    c.entries[place]? = b.entries[place]? := by
  have taken : c.entries.take (place + 1) = b.entries.take (place + 1) :=
    congrArg Catalog.entries same
  rw [← List.getElem?_take_of_lt (Nat.lt_succ_self place), taken,
    List.getElem?_take_of_lt (Nat.lt_succ_self place)]

/-- An answer with a node that is gone has held on to it since a call at which it was there. -/
theorem Tracked.held_of_gone (h : Tracked m) (fresh : m.bound = .empty)
    (answer : m.answerAmid scenes call = some b) (found : b.entries[place]? = some (key, id))
    (gone : (scenes call).contains id = false) :
    ∃ earlier, (scenes earlier).contains id = true ∧ m.HeldSince scenes earlier call place b := by
  induction call generalizing b with
  | zero =>
    rcases h.there_or_held fresh answer found with there | ⟨last, c, first, -⟩
    · exact Bool.noConfusion (there.symm.trans gone)
    · exact absurd first.symm (Nat.succ_ne_zero last)
  | succ last ih =>
    rcases h.there_or_held fresh answer found with there | ⟨previous, c, next, given, same⟩
    · exact Bool.noConfusion (there.symm.trans gone)
    · obtain rfl := Nat.succ.inj next
      cases there : (scenes last).contains id with
      | true =>
        refine ⟨last, there, Nat.lt_succ_self last, fun between since before => ?_⟩
        obtain rfl : between = last := by omega
        exact ⟨c, given, same⟩
      | false =>
        obtain ⟨earlier, there, held⟩ := ih given ((entry_of_firstFew same).trans found) there
        refine ⟨earlier, there, Nat.lt_succ_of_lt held.before, fun between since before => ?_⟩
        rcases Nat.lt_succ_iff_lt_or_eq.mp before with sooner | rfl
        · obtain ⟨d, given', same'⟩ := held.same between since sooner
          exact ⟨d, given', same'.trans same⟩
        · exact ⟨c, given, same⟩

/-- A node with an edge is looked at again, for the edge, when all nodes are bound. -/
theorem Tracked.edgeless_of_gone (h : Tracked m) (consistent : (scenes call).graph.Consistent)
    (answer : m.answerAmid scenes call = some b) (found : b.entries[place]? = some (key, id))
    (gone : (scenes call).graph.hasNode id = false) :
    ∀ e ∈ m.pattern.edges, e.1 ≠ key ∧ e.2 ≠ key := by
  intro e member
  obtain ⟨_, given, -, -⟩ := h.answerAmid scenes answer
  obtain ⟨x, y, first, second, joined⟩ := Pattern.edgesHold_iff.mp given.edges e member
  have bound : b.get? key = some id := Catalog.get?_eq_some_iff.mpr (List.mem_of_getElem? found)
  obtain ⟨there, there'⟩ := consistent.hasNode_of_hasEdge joined
  constructor
  · rintro rfl
    obtain rfl := Option.some.inj (first.symm.trans bound)
    exact Bool.noConfusion (there.symm.trans gone)
  · rintro rfl
    obtain rfl := Option.some.inj (second.symm.trans bound)
    exact Bool.noConfusion (there'.symm.trans gone)

theorem Tracked.length_answer (h : Tracked m) (answer : m.answerAmid scenes call = some b) :
    b.entries.length = m.pattern.nodes.length := by
  obtain ⟨_, given, -, -⟩ := h.answerAmid scenes answer
  have keys := congrArg List.length given.keys
  rwa [Catalog.keys, Pattern.ids, List.length_map, List.length_map] at keys

/-- Two answers differ somewhere, so the node declared last is chosen anew for each of them. -/
theorem Tracked.not_last_of_held (h : Tracked m) (ascending : m.snapshot.Pairwise (· < ·))
    (answer : m.answerAmid scenes call = some b) {earlier : Nat}
    (held : m.HeldSince scenes earlier call place b) : place + 1 < m.pattern.nodes.length := by
  obtain ⟨c, given, same⟩ := held.same earlier (Nat.le_refl _) held.before
  by_contra last
  have whole : c = b := by
    have taken : c.entries.take (place + 1) = b.entries.take (place + 1) :=
      congrArg Catalog.entries same
    rw [List.take_of_length_le (by rw [h.length_answer given]; omega),
      List.take_of_length_le (by rw [h.length_answer answer]; omega)] at taken
    exact Catalog.ext_entries taken
  have later := h.answers_ascend ascending scenes held.before given answer
  rw [whole] at later
  exact List.lt_irrefl _ later

end Matcher

/-! ### Scenes that change between calls -/

namespace Scene

/-- The scene at each call, with operations ahead of every one of them. -/
def amid (s : Scene) (changes : Nat → List Operation) : Nat → Scene
  | 0 => s.run (changes 0)
  | call + 1 => (s.amid changes call).run (changes (call + 1))

theorem amid_planted {s : Scene} (h : s.Planted) (changes : Nat → List Operation) (call : Nat) :
    (s.amid changes call).Planted := by
  induction call with
  | zero => exact run_planted _ h
  | succ call ih => exact run_planted _ ih

end Scene

namespace Matcher

/-- Whatever is done to a scene between the calls, an answer has a node that is gone only if it was
there at an earlier call and all answers since then have bound it so. No pattern edge ends at such a
node, and it is not the one declared last. So where every pattern node but the last one has an edge,
all nodes of an answer are there. -/
theorem gone_only_if_held (ops : List Scene.Operation) (changes : Nat → List Scene.Operation)
    (p : Pattern) (checkValues symmetryBreaking : Bool) :
    let s := Scene.empty.run ops
    let m := ofPattern s p checkValues symmetryBreaking
    (∀ call b, m.answerAmid (s.amid changes) call = some b →
      ∀ place n id, b.entries[place]? = some (n, id) → id ∉ (s.amid changes call).graph.ids →
        (∀ e ∈ p.edges, e.1 ≠ n ∧ e.2 ≠ n) ∧ place + 1 < p.nodes.length ∧
        ∃ earlier, id ∈ (s.amid changes earlier).graph.ids ∧
          m.HeldSince (s.amid changes) earlier call place b) ∧
    ((∀ place n, p.ids[place]? = some n → place + 1 < p.nodes.length →
        ∃ e ∈ p.edges, e.1 = n ∨ e.2 = n) →
      ∀ call b, m.answerAmid (s.amid changes) call = some b →
        ∀ id ∈ b.values, id ∈ (s.amid changes call).graph.ids) := by
  intro s m
  have planted : ∀ call, (s.amid changes call).Planted := fun call =>
    Scene.amid_planted (Scene.run_planted ops Scene.empty_planted) changes call
  have tracked : Tracked m := tracked_ofPattern s p checkValues symmetryBreaking
  have there (call : Nat) (id : Int) : id ∈ (s.amid changes call).graph.ids ↔
      (s.amid changes call).contains id = true := by
    rw [Graph.mem_ids, (planted call).inStep]
  have held : ∀ call b, m.answerAmid (s.amid changes) call = some b →
      ∀ place n id, b.entries[place]? = some (n, id) → id ∉ (s.amid changes call).graph.ids →
        (∀ e ∈ p.edges, e.1 ≠ n ∧ e.2 ≠ n) ∧ place + 1 < p.nodes.length ∧
        ∃ earlier, id ∈ (s.amid changes earlier).graph.ids ∧
          m.HeldSince (s.amid changes) earlier call place b := by
    intro call b answer place n id found absent
    have gone : (s.amid changes call).contains id = false :=
      eq_false_of_ne_true fun known => absent ((there call id).mpr known)
    obtain ⟨earlier, known, since⟩ := tracked.held_of_gone rfl answer found gone
    refine ⟨?_, tracked.not_last_of_held s.graph.ids_ascending answer since, earlier,
      (there earlier id).mpr known, since⟩
    exact tracked.edgeless_of_gone (planted call).consistent answer found
      (((planted call).inStep id).symm.trans gone)
  refine ⟨held, fun joined call b answer id member => ?_⟩
  by_contra absent
  obtain ⟨⟨n, id⟩, entry, rfl⟩ := List.mem_map.mp member
  obtain ⟨place, found⟩ := List.mem_iff_getElem?.mp entry
  obtain ⟨edgeless, notLast, -⟩ := held call b answer place n id found absent
  have declared : p.ids[place]? = some n := by
    obtain ⟨_, given, -, -⟩ := tracked.answerAmid _ answer
    rw [show p.ids = b.keys from given.keys.symm, Catalog.keys, List.getElem?_map, found]
    rfl
  obtain ⟨e, edge, touched⟩ := joined place n declared notLast
  exact touched.elim (edgeless e edge).1 (edgeless e edge).2

/-- Two nodes that need not be joined. -/
def twoNodes : Pattern := ⟨[{ id := 1 }, { id := 2 }], [], by decide, by decide⟩

def threeNodes : List Scene.Operation :=
  [.edit (.insert {}), .edit (.insert {}), .edit (.insert {})]

/-- Of three nodes, the first is removed after the first call. -/
theorem removed_answered :
    let s := Scene.empty.run threeNodes
    let changes := fun call => if call = 1 then [Scene.Operation.edit (.remove 0)] else []
    let m := ofPattern s twoNodes false true
    m.answerAmid (s.amid changes) 0 = some ⟨[(1, 0), (2, 1)], by decide⟩ ∧
      m.answerAmid (s.amid changes) 1 = some ⟨[(1, 0), (2, 2)], by decide⟩ ∧
      0 ∉ (s.amid changes 1).graph.ids := by
  refine ⟨?_, ?_, ?_⟩
  · cbv
  · cbv
  · decide

end Matcher

end GrowthGrammar
