import GrowthGrammar.Proofs.Search.Placement

/-!
Pending matches: what a search under way has still to give. At every level of the search there are
ids left to try, from where the resume table says; together they are the part of the search tree
that was not yet looked at. A move takes from it at most the match that it gives.
-/
namespace GrowthGrammar

/-- The bindings of the pattern nodes that were bound first. -/
def Bindings.firstFew (b : Bindings) (count : Nat) : Bindings :=
  ⟨b.entries.take count, by
    rw [List.map_take]
    exact b.distinct.sublist (List.take_sublist ..)⟩

namespace Query

/-- All accepted ways to bind further pattern nodes, by plain recursion. -/
def completions (q : Query) (s : Scene) (b : Bindings) : List PatternNode → List Bindings
  | [] => if q.accepts s b then [b] else []
  | n :: rest =>
    q.snapshot.flatMap fun id =>
      if q.suits s n b id then completions q s (b.put n.id id) rest else []

/-- Those among them that bind the first of the pattern nodes to one of some ids. -/
def branches (q : Query) (s : Scene) (b : Bindings) (ids : List Int) :
    List PatternNode → List Bindings
  | [] => []
  | n :: rest =>
    ids.flatMap fun id => if q.suits s n b id then q.completions s (b.put n.id id) rest else []

theorem branches_snapshot (q : Query) (s : Scene) (b : Bindings) (n : PatternNode)
    (rest : List PatternNode) :
    q.branches s b q.snapshot (n :: rest) = q.completions s b (n :: rest) := rfl

theorem branches_of_none {q : Query} {s : Scene} {n : PatternNode} {b : Bindings} {start : Nat}
    (h : q.candidate? s n b start = none) (rest : List PatternNode) :
    q.branches s b (q.snapshot.drop start) (n :: rest) = [] := by
  refine List.flatMap_eq_nil_iff.mpr fun id member => if_neg ?_
  obtain ⟨place, here, rfl⟩ := List.mem_iff_getElem.mp member
  rw [List.length_drop] at here
  have listed : ((q.snapshot.drop start)[place], start + place) ∈ q.snapshot.zipIdx.drop start := by
    rw [List.mem_iff_getElem]
    exact ⟨place, by simpa using here, by simp⟩
  simpa using List.find?_eq_none.mp h _ listed

/-- The candidate comes first, and then what comes after its place. -/
theorem branches_of_some {q : Query} {s : Scene} {n : PatternNode} {b : Bindings}
    {start place : Nat} {id : Int} (h : q.candidate? s n b start = some (id, place))
    (rest : List PatternNode) :
    q.branches s b (q.snapshot.drop start) (n :: rest) =
      q.completions s (b.put n.id id) rest ++
        q.branches s b (q.snapshot.drop (place + 1)) (n :: rest) := by
  obtain ⟨suits, before, after, split, skipped⟩ := List.find?_eq_some_iff_append.mp h
  have ids : q.snapshot.drop start = before.map (·.1) ++ id :: after.map (·.1) := by
    have listed := congrArg (List.map (·.1)) split
    rwa [List.map_drop, List.map_append, List.map_cons, List.zipIdx_map_fst] at listed
  have later : q.snapshot.drop (place + 1) = after.map (·.1) := by
    have here : (q.snapshot.zipIdx.drop start)[before.length]? = some (id, place) := by
      rw [split, List.getElem?_append_right (Nat.le_refl _), Nat.sub_self, List.getElem?_cons_zero]
    rw [List.getElem?_drop, List.getElem?_zipIdx] at here
    obtain ⟨_, -, same⟩ := Option.map_eq_some_iff.mp here
    obtain ⟨-, rfl⟩ := Prod.mk.inj same
    rw [Nat.zero_add, Nat.add_assoc, ← List.drop_drop, ids, List.append_cons]
    exact List.drop_left' (by simp)
  have nothing : (before.map (·.1)).flatMap (fun id =>
      if q.suits s n b id then q.completions s (b.put n.id id) rest else []) = [] := by
    refine List.flatMap_eq_nil_iff.mpr fun other member => if_neg ?_
    obtain ⟨e, there, rfl⟩ := List.mem_map.mp member
    simpa using skipped e there
  rw [ids, later, branches, branches, List.flatMap_append, nothing, List.flatMap_cons, if_pos suits,
    List.nil_append]

end Query

namespace Matcher

/-- The matches that are still to be found at one level of the search. -/
def pendingAt (m : Matcher) (s : Scene) (level : Nat) : List Bindings :=
  m.branches s (m.bound.firstFew level) (m.snapshot.drop (m.resumeAt level))
    (m.pattern.nodes.drop level)

/-- Those at the first levels, the deepest of them first. -/
def pendingBelow (m : Matcher) (s : Scene) : Nat → List Bindings
  | 0 => []
  | level + 1 => m.pendingAt s level ++ m.pendingBelow s level

/-- What a matcher has still to give if the scene stays as it is. -/
def pending (m : Matcher) (s : Scene) : List Bindings :=
  if m.isEnded then []
  else
    (if m.cursor = m.pattern.nodes.length then m.completions s m.bound [] else []) ++
      m.pendingBelow s (m.cursor + 1).toNat

/-- The state of a search that has not ended: the pattern nodes before the cursor are bound, maybe
the one at the cursor too, and nothing was tried beyond. -/
structure Searching (m : Matcher) : Prop where
  going : m.isEnded = false
  cursor_le : m.cursor ≤ m.pattern.nodes.length
  keys : m.bound.keys = m.pattern.ids.take m.bound.size
  size : (m.bound.size : Int) = m.cursor ∨ (m.bound.size : Int) = m.cursor + 1
  ahead : ∀ level : Int, m.cursor < level → m.resumeAt level = 0
  beyond : m.resumeAt m.pattern.nodes.length = 0

theorem pendingBelow_congr {m m' : Matcher} (s : Scene) {levels : Nat}
    (query : m'.toQuery = m.toQuery)
    (bound : ∀ level < levels, m'.bound.firstFew level = m.bound.firstFew level)
    (resume : ∀ level : Nat, level < levels → m'.resumeAt level = m.resumeAt level) :
    m'.pendingBelow s levels = m.pendingBelow s levels := by
  induction levels with
  | zero => rfl
  | succ level ih =>
    have last := Nat.lt_succ_self level
    rw [pendingBelow, pendingBelow, ih (fun lower below => bound lower (by omega))
        fun lower below => resume lower (by omega),
      pendingAt, pendingAt, bound level last, resume level last, query]

/-! ### What is bound at a level -/

variable {m : Matcher} {s : Scene} {n : PatternNode} {cursor : Nat}

theorem Searching.size_bounds (h : Searching m) (here : m.cursor = cursor) :
    cursor ≤ m.bound.size ∧ m.bound.size ≤ cursor + 1 := by
  have size := h.size
  omega

theorem Searching.keys_firstFew (h : Searching m) (here : m.cursor = cursor) :
    (m.bound.firstFew cursor).keys = m.pattern.ids.take cursor := by
  have size := h.size_bounds here
  show (m.bound.entries.take cursor).map (·.1) = _
  rw [List.map_take, show m.bound.entries.map (·.1) = m.bound.keys from rfl, h.keys,
    List.take_take, Nat.min_eq_left size.1]

theorem ids_drop (found : m.pattern.nodes[cursor]? = some n) :
    m.pattern.ids.drop cursor = n.id :: m.pattern.ids.drop (cursor + 1) := by
  obtain ⟨within, rfl⟩ := List.getElem?_eq_some_iff.mp found
  rw [Pattern.ids, ← List.map_drop, ← List.map_drop, List.drop_eq_getElem_cons within,
    List.map_cons]

theorem id_not_mem_take (found : m.pattern.nodes[cursor]? = some n) :
    n.id ∉ m.pattern.ids.take cursor := by
  have distinct : m.pattern.ids.Nodup := m.pattern.distinct
  rw [← List.take_append_drop cursor m.pattern.ids, ids_drop found] at distinct
  intro member
  exact (List.nodup_append.mp distinct).2.2 n.id member n.id List.mem_cons_self rfl

theorem Searching.erase_eq_firstFew (h : Searching m) (here : m.cursor = cursor)
    (found : m.pattern.nodes[cursor]? = some n) :
    m.bound.erase n.id = m.bound.firstFew cursor := by
  apply Catalog.ext_entries
  show m.bound.entries.filter (fun e => e.1 ≠ n.id) = m.bound.entries.take cursor
  have kept : (m.bound.entries.take cursor).filter (fun e => e.1 ≠ n.id) =
      m.bound.entries.take cursor := by
    refine List.filter_eq_self.mpr fun e member => decide_eq_true fun same => ?_
    have key : e.1 ∈ (m.bound.firstFew cursor).keys := List.mem_map_of_mem member
    rw [h.keys_firstFew here, same] at key
    exact id_not_mem_take found key
  have freed : (m.bound.entries.drop cursor).filter (fun e => e.1 ≠ n.id) = [] := by
    refine List.filter_eq_nil_iff.mpr fun e member => ?_
    have size := h.size_bounds here
    have key : e.1 ∈ m.bound.keys.drop cursor := by
      rw [Catalog.keys, ← List.map_drop]
      exact List.mem_map_of_mem member
    rw [h.keys, List.drop_take, ids_drop found] at key
    have few : m.bound.size - cursor ≤ 1 := by omega
    have first := List.take_subset_take_left _ few key
    simpa using first
  conv => lhs; rw [← List.take_append_drop cursor m.bound.entries]
  rw [List.filter_append, kept, freed, List.append_nil]

/-! ### What a move takes from the pending matches -/

theorem firstFew_size (b : Bindings) : b.firstFew b.size = b :=
  Catalog.ext_entries (List.take_length ..)

theorem drop_nodes (found : m.pattern.nodes[cursor]? = some n) :
    m.pattern.nodes.drop cursor = n :: m.pattern.nodes.drop (cursor + 1) := by
  obtain ⟨within, rfl⟩ := List.getElem?_eq_some_iff.mp found
  exact List.drop_eq_getElem_cons within

theorem pending_of_within (going : m.isEnded = false) {levels : Nat} (here : m.cursor + 1 = levels)
    (within : levels ≤ m.pattern.nodes.length) : m.pending s = m.pendingBelow s levels := by
  rw [pending, going, if_neg Bool.false_ne_true, if_neg (by omega), List.nil_append, here,
    Int.toNat_natCast]

theorem pending_of_found (going : m.isEnded = false) (here : m.cursor = cursor)
    (found : m.pattern.nodes[cursor]? = some n) :
    m.pending s = m.pendingAt s cursor ++ m.pendingBelow s cursor := by
  have within := (List.getElem?_eq_some_iff.mp found).1
  exact pending_of_within going (show m.cursor + 1 = (cursor + 1 : Nat) by omega) within

/-- At a level where nothing was tried yet, all completions are pending. -/
theorem pending_of_untried (going : m.isEnded = false) (here : m.cursor = cursor)
    (within : cursor ≤ m.pattern.nodes.length) (size : m.bound.size = cursor)
    (untried : m.resumeAt cursor = 0) :
    m.pending s =
      m.completions s m.bound (m.pattern.nodes.drop cursor) ++ m.pendingBelow s cursor := by
  cases found : m.pattern.nodes[cursor]? with
  | some n =>
    rw [pending_of_found going here found, pendingAt, untried, List.drop_zero, drop_nodes found,
      Query.branches_snapshot, ← size, firstFew_size]
  | none =>
    have beyond := List.getElem?_eq_none_iff.mp found
    have nothing : m.pendingAt s cursor = [] := by
      rw [pendingAt, List.drop_eq_nil_of_le beyond]
      rfl
    rw [pending, going, if_neg Bool.false_ne_true, if_pos (by omega),
      show (m.cursor + 1).toNat = cursor + 1 by omega, pendingBelow, nothing, List.nil_append,
      List.drop_eq_nil_of_le beyond]

theorem firstFew_of_lt {b : Bindings} {n id : Int} {count level : Nat} (few : count ≤ b.size)
    (absent : n ∉ (b.firstFew count).keys) (below : level ≤ count) :
    Bindings.firstFew ((b.firstFew count).put n id) level = b.firstFew level := by
  apply Catalog.ext_entries
  show ((b.firstFew count).put n id).entries.take level = b.entries.take level
  have length : level ≤ (b.entries.take count).length := by
    rw [List.length_take]
    exact Nat.le_min.mpr ⟨below, Nat.le_trans below few⟩
  rw [Catalog.entries_put absent]
  show (b.entries.take count ++ [(n, id)]).take level = _
  rw [List.take_append_of_le_length length, List.take_take, Nat.min_eq_left below]

theorem Searching.bound_bindTo (h : Searching m) (here : m.cursor = cursor)
    (found : m.pattern.nodes[cursor]? = some n) (id : Int) (place : Nat) :
    (m.bindTo n id place).bound = (m.bound.firstFew cursor).put n.id id := by
  rw [bindTo, h.erase_eq_firstFew here found]

theorem Searching.absent (h : Searching m) (here : m.cursor = cursor)
    (found : m.pattern.nodes[cursor]? = some n) : n.id ∉ (m.bound.firstFew cursor).keys := by
  rw [h.keys_firstFew here]
  exact id_not_mem_take found

theorem resumeAt_bindTo (m : Matcher) (n : PatternNode) (id : Int) (place : Nat) (level : Int) :
    (m.bindTo n id place).resumeAt level =
      if m.cursor = level then place + 1 else m.resumeAt level :=
  resumeAt_insert m m.cursor level (place + 1)

theorem Searching.keys_bindTo (h : Searching m) (here : m.cursor = cursor)
    (found : m.pattern.nodes[cursor]? = some n) (id : Int) (place : Nat) :
    (m.bindTo n id place).bound.keys = m.pattern.ids.take (cursor + 1) := by
  rw [h.bound_bindTo here found, Bindings.keys_put (h.absent here found), h.keys_firstFew here,
    List.take_add, ids_drop found]
  rfl

theorem Searching.size_bindTo (h : Searching m) (here : m.cursor = cursor)
    (found : m.pattern.nodes[cursor]? = some n) (id : Int) (place : Nat) :
    (m.bindTo n id place).bound.size = cursor + 1 := by
  have within := (List.getElem?_eq_some_iff.mp found).1
  have length : (m.bindTo n id place).bound.keys.length = (m.bindTo n id place).bound.size :=
    List.length_map _
  rw [← length, h.keys_bindTo here found, List.length_take, Pattern.ids, List.length_map]
  omega

theorem cursor_bindTo (here : m.cursor = cursor) (n : PatternNode) (id : Int) (place : Nat) :
    (m.bindTo n id place).cursor = (cursor + 1 : Nat) := by
  show m.cursor + 1 = _
  omega

theorem Searching.bindTo (h : Searching m) (here : m.cursor = cursor)
    (found : m.pattern.nodes[cursor]? = some n) (id : Int) (place : Nat) :
    Searching (m.bindTo n id place) := by
  have within := (List.getElem?_eq_some_iff.mp found).1
  have size := h.size_bindTo here found id place
  have cursor' := cursor_bindTo here n id place
  refine ⟨h.going, ?_, ?_, .inl (by omega), fun level after => ?_, ?_⟩
  · show m.cursor + 1 ≤ m.pattern.nodes.length
    omega
  · rw [h.keys_bindTo here found, size]
    rfl
  · rw [resumeAt_bindTo, if_neg (by omega)]
    exact h.ahead level (by omega)
  · rw [resumeAt_bindTo]
    show (if m.cursor = m.pattern.nodes.length then _ else _) = _
    rw [if_neg (by omega)]
    exact h.beyond

theorem Searching.pending_bindTo (h : Searching m) (here : m.cursor = cursor)
    (found : m.pattern.nodes[cursor]? = some n) {id : Int} {place : Nat}
    (candidate : m.candidate? s n (m.bound.erase n.id) (m.resumeAt m.cursor) = some (id, place)) :
    (m.bindTo n id place).pending s = m.pending s := by
  have within := (List.getElem?_eq_some_iff.mp found).1
  have bound := h.bound_bindTo here found id place
  have size := h.size_bounds here
  have lower : ∀ level ≤ cursor,
      (m.bindTo n id place).bound.firstFew level = m.bound.firstFew level := fun level below => by
    rw [bound]
    exact firstFew_of_lt size.1 (h.absent here found) below
  have below : (m.bindTo n id place).pendingBelow s cursor = m.pendingBelow s cursor := by
    refine pendingBelow_congr s rfl (fun level below => lower level (Nat.le_of_lt below)) ?_
    intro level below
    rw [resumeAt_bindTo, if_neg (by omega)]
  have atCursor : m.pendingAt s cursor =
      m.completions s (m.bindTo n id place).bound (m.pattern.nodes.drop (cursor + 1)) ++
        (m.bindTo n id place).pendingAt s cursor := by
    rw [h.erase_eq_firstFew here found, here] at candidate
    rw [pendingAt, drop_nodes found, Query.branches_of_some candidate, bound, pendingAt,
      lower cursor (Nat.le_refl _), resumeAt_bindTo, if_pos here,
      show (m.bindTo n id place).toQuery = m.toQuery from rfl, drop_nodes found]
  have untried : (m.bindTo n id place).resumeAt (cursor + 1 : Nat) = 0 := by
    rw [resumeAt_bindTo, if_neg (by omega)]
    exact h.ahead _ (by omega)
  rw [pending_of_found h.going here found, atCursor, List.append_assoc, ← below]
  exact pending_of_untried h.going (cursor_bindTo here n id place) within
    (h.size_bindTo here found id place) untried

theorem resumeAt_backFrom (notFirst : m.cursor ≠ 0) (n : PatternNode) (level : Int) :
    (m.backFrom n).resumeAt level = if m.cursor = level then 0 else m.resumeAt level := by
  rw [backFrom, if_neg notFirst]
  exact resumeAt_erase m m.cursor level

theorem size_firstFew {b : Bindings} {count : Nat} (few : count ≤ b.size) :
    (b.firstFew count).size = count := by
  show (b.entries.take count).length = count
  rw [List.length_take]
  exact Nat.min_eq_left few

theorem firstFew_firstFew (b : Bindings) {count level : Nat} (below : level ≤ count) :
    (b.firstFew count).firstFew level = b.firstFew level := by
  apply Catalog.ext_entries
  show (b.entries.take count).take level = b.entries.take level
  rw [List.take_take, Nat.min_eq_left below]

/-- Going back frees the node at the cursor, and nothing else that counts changes. -/
theorem Searching.backFrom (h : Searching m) {level : Nat} (here : m.cursor = (level + 1 : Nat))
    (found : m.pattern.nodes[level + 1]? = some n) :
    Searching (m.backFrom n) ∧ (m.backFrom n).pending s = m.pendingBelow s (level + 1) := by
  have within := (List.getElem?_eq_some_iff.mp found).1
  have notFirst : m.cursor ≠ 0 := by omega
  have back : m.backFrom n =
      { m with
        bound := m.bound.firstFew (level + 1),
        resume := m.resume.erase m.cursor,
        cursor := m.cursor - 1 } := by
    rw [Matcher.backFrom, if_neg notFirst, h.erase_eq_firstFew here found]
  have resume := resumeAt_backFrom notFirst n
  have few := (h.size_bounds here).1
  rw [back] at resume ⊢
  constructor
  · refine ⟨h.going, ?_, ?_, .inr ?_, fun other after => ?_, ?_⟩
    · show m.cursor - 1 ≤ m.pattern.nodes.length
      omega
    · show (m.bound.firstFew (level + 1)).keys =
        m.pattern.ids.take (m.bound.firstFew (level + 1)).size
      rw [h.keys_firstFew here, size_firstFew few]
    · show ((m.bound.firstFew (level + 1)).size : Int) = m.cursor - 1 + 1
      rw [size_firstFew few]
      omega
    · rw [resume]
      split
      · rfl
      · rename_i different
        have after : m.cursor - 1 < other := after
        exact h.ahead other (by omega)
    · rw [resume]
      split
      · rfl
      · exact h.beyond
  · refine Eq.trans (pending_of_within ?_ ?_ (Nat.le_of_lt within))
      (pendingBelow_congr s rfl (fun lower below => ?_) fun lower below => ?_)
    · exact h.going
    · show m.cursor - 1 + 1 = (level + 1 : Nat)
      omega
    · exact firstFew_firstFew m.bound (Nat.le_of_lt below)
    · rw [resume, if_neg (by omega)]

/-- At a pattern node a move only turns to another place of the search. -/
theorem Searching.tryNode (h : Searching m) (here : m.cursor = cursor)
    (found : m.pattern.nodes[cursor]? = some n) :
    (m.tryNode s n).pending s = m.pending s ∧
      ((m.tryNode s n).isEnded = true ∨ Searching (m.tryNode s n)) := by
  unfold Matcher.tryNode
  split
  · rename_i id place candidate
    exact ⟨h.pending_bindTo here found candidate, .inr (h.bindTo here found id place)⟩
  · rename_i exhausted
    have nothing : m.pendingAt s cursor = [] := by
      rw [h.erase_eq_firstFew here found, here] at exhausted
      rw [pendingAt, drop_nodes found, Query.branches_of_none exhausted]
    rw [pending_of_found h.going here found, nothing, List.nil_append]
    cases cursor with
    | zero =>
      have first : m.cursor = 0 := here
      rw [Matcher.backFrom, if_pos first]
      exact ⟨rfl, .inl rfl⟩
    | succ level =>
      obtain ⟨searching, pending⟩ := h.backFrom here found
      exact ⟨pending, .inr searching⟩

/-- Behind the last pattern node a move gives the match that is bound, if it is accepted. -/
theorem Searching.leave (h : Searching m) (last : m.cursor = m.pattern.nodes.length) :
    Searching { m with cursor := m.cursor - 1 } ∧
      m.pending s = (if m.accepts s m.bound then [m.bound] else []) ++
        { m with cursor := m.cursor - 1 }.pending s := by
  have full : m.bound.size = m.pattern.nodes.length := by
    have size := h.size_bounds last
    have length : m.bound.keys.length = m.bound.size := List.length_map _
    rw [h.keys, List.length_take, Pattern.ids, List.length_map] at length
    omega
  constructor
  · refine ⟨h.going, ?_, h.keys, .inr ?_, fun level after => ?_, h.beyond⟩
    · show m.cursor - 1 ≤ m.pattern.nodes.length
      omega
    · show (m.bound.size : Int) = m.cursor - 1 + 1
      omega
    · have after : m.cursor - 1 < level := after
      rcases Int.lt_or_eq_of_le (show m.cursor ≤ level by omega) with ahead | same
      · exact h.ahead level ahead
      · rw [← same, last]
        exact h.beyond
  · have untried : m.resumeAt m.pattern.nodes.length = 0 := h.beyond
    have rest : { m with cursor := m.cursor - 1 }.pending s =
        m.pendingBelow s m.pattern.nodes.length := by
      refine Eq.trans (pending_of_within ?_ ?_ (Nat.le_refl _))
        (pendingBelow_congr s rfl (fun _ _ => rfl) fun _ _ => rfl)
      · exact h.going
      · show m.cursor - 1 + 1 = m.pattern.nodes.length
        omega
    rw [pending_of_untried h.going last (Nat.le_refl _) full untried, List.drop_length, rest]
    rfl

/-- Every move takes from the pending matches what it gives. -/
theorem Searching.move (h : Searching m) (s : Scene) :
    m.pending s = (m.move s).1.toList ++ (m.move s).2.pending s ∧
      ((m.move s).2.isEnded = true ∨ Searching (m.move s).2) := by
  unfold Matcher.move
  split
  · rename_i before
    have nothing : m.pending s = [] := by
      rw [pending, if_neg (by simp [h.going]), if_neg (by omega),
        show (m.cursor + 1).toNat = 0 by omega]
      rfl
    exact ⟨nothing, .inl rfl⟩
  · rename_i before
    have here : m.cursor = m.cursor.toNat := by omega
    split
    · rename_i n found
      obtain ⟨pending, outcome⟩ := h.tryNode (s := s) here found
      exact ⟨pending.symm, outcome⟩
    · rename_i beyond
      have last : m.cursor = m.pattern.nodes.length := by
        have le := h.cursor_le
        have ge := List.getElem?_eq_none_iff.mp beyond
        omega
      obtain ⟨searching, pending⟩ := h.leave (s := s) last
      refine ⟨?_, .inr searching⟩
      rw [pending]
      split <;> rfl

/-- A search that ended has nothing to give; any other is in order. -/
def Sound (m : Matcher) : Prop := m.isEnded = true ∨ Searching m

theorem pending_of_ended (ended : m.isEnded = true) (s : Scene) : m.pending s = [] := by
  rw [pending, if_pos ended]

/-- What the search gives next is the first of the pending matches, or there is none. -/
theorem Sound.next (h : Sound m) (s : Scene) :
    (m.next s).1 = (m.pending s).head? ∧ (m.next s).2.pending s = (m.pending s).tail ∧
      Sound (m.next s).2 := by
  fun_induction Matcher.next m s with
  | case1 m ended =>
    rw [pending_of_ended ended]
    exact ⟨rfl, rfl, h⟩
  | case2 m going b m' moved =>
    have searching := h.resolve_left going
    obtain ⟨pending, sound⟩ := searching.move s
    rw [moved] at pending sound
    rw [pending]
    exact ⟨rfl, rfl, sound⟩
  | case3 m going m' moved ih =>
    have searching := h.resolve_left going
    obtain ⟨pending, sound⟩ := searching.move s
    rw [moved] at pending sound
    rw [pending]
    exact ih sound

theorem move_toQuery (m : Matcher) (s : Scene) : (m.move s).2.toQuery = m.toQuery := by
  unfold Matcher.move
  split
  · rfl
  · split
    · unfold tryNode
      split
      · rfl
      · unfold backFrom
        split <;> rfl
    · rfl

theorem next_toQuery (m : Matcher) (s : Scene) : (m.next s).2.toQuery = m.toQuery := by
  fun_induction Matcher.next m s with
  | case1 => rfl
  | case2 m going b m' moved => rw [← move_toQuery m s, moved]
  | case3 m going m' moved ih => rw [ih, ← move_toQuery m s, moved]

/-- Behind the last pattern node all of them are bound. -/
theorem keys_of_last (h : Searching m) (last : m.cursor = m.pattern.nodes.length) :
    m.bound.keys = m.pattern.ids := by
  have size := (h.size_bounds last).1
  rw [h.keys, List.take_of_length_le]
  rwa [Pattern.ids, List.length_map]

/-- At its beginning a search has all completions of the empty bindings to give. -/
theorem searching_ofPattern (s : Scene) (p : Pattern) (checkValues symmetryBreaking : Bool) :
    Searching (ofPattern s p checkValues symmetryBreaking) := by
  have fresh : ∀ level : Int,
      (ofPattern s p checkValues symmetryBreaking).resumeAt level = 0 := fun level => by
    show ((Table.empty.insert (0 : Int) (0 : Nat)).get? level).getD 0 = 0
    rw [Table.get?_insert]
    split <;> rfl
  refine ⟨rfl, Int.natCast_nonneg _, rfl, .inl rfl, fun level _ => fresh level, fresh _⟩

theorem pending_ofPattern (s : Scene) (p : Pattern) (checkValues symmetryBreaking : Bool) :
    (ofPattern s p checkValues symmetryBreaking).pending s =
      (ofPattern s p checkValues symmetryBreaking).completions s .empty p.nodes := by
  have untried : (ofPattern s p checkValues symmetryBreaking).resumeAt (0 : Nat) = 0 := by
    show ((Table.empty.insert (0 : Int) (0 : Nat)).get? 0).getD 0 = 0
    rw [Table.get?_insert, if_pos rfl]
    rfl
  rw [pending_of_untried rfl rfl (Nat.zero_le _) rfl untried, pendingBelow, List.append_nil]
  rfl

end Matcher

end GrowthGrammar
