import GrowthGrammar.Proofs.Search.Enumeration
import Mathlib.Algebra.Order.Ring.Nat

/-!
Interleaving: a search that is resumed in scenes that change between the calls. Nothing is known of
them, so all that can be said comes from the snapshot and the resume table: every move puts the
search at a later place of the search tree.
-/
namespace GrowthGrammar

/-- An id that suits, its place, and that it was not tried before. -/
theorem Query.candidate?_spec {q : Query} {s : Scene} {n : PatternNode} {b : Bindings}
    {start place : Nat} {id : Int} (found : q.candidate? s n b start = some (id, place)) :
    start ≤ place ∧ q.snapshot[place]? = some id ∧ id ∉ b.values := by
  have bounds := Matcher.candidate?_bounds found
  have suits := List.find?_some found
  have member := List.mem_of_mem_drop (List.mem_of_find?_eq_some found)
  obtain ⟨index, here⟩ := List.mem_iff_getElem?.mp member
  rw [List.getElem?_zipIdx, Option.map_eq_some_iff] at here
  obtain ⟨other, there, same⟩ := here
  obtain ⟨rfl, rfl⟩ := Prod.mk.inj same
  simp only [Query.suits, Bool.and_eq_true, decide_eq_true_eq] at suits
  exact ⟨bounds.1, by simpa using there, suits.1⟩

namespace Matcher

/-! ### Where a search is -/

/-- The place of the snapshot that was tried last at a level. -/
def placeAt (m : Matcher) (level : Nat) : Nat := m.resumeAt level - 1

def placesBelow (m : Matcher) (level : Nat) : List Nat := (List.range level).map m.placeAt

/-- The places that the nodes below a level are bound at, and the first one to be tried there. -/
def frontier (m : Matcher) (level : Nat) : List Nat := m.placesBelow level ++ [m.resumeAt level]

theorem placesBelow_congr {m m' : Matcher} {level : Nat}
    (resume : ∀ l : Nat, l < level → m'.resumeAt l = m.resumeAt l) :
    m'.placesBelow level = m.placesBelow level :=
  List.map_congr_left fun l member => by
    rw [placeAt, placeAt, resume l (List.mem_range.mp member)]

theorem placesBelow_succ (m : Matcher) (level : Nat) :
    m.placesBelow (level + 1) = m.placesBelow level ++ [m.placeAt level] := by
  rw [placesBelow, List.range_succ, List.map_append]
  rfl

/-- The search is past a place of the search tree, unless it is over. -/
def IsPast (place : List Nat) (m : Matcher) : Prop :=
  m.isEnded = false → 0 ≤ m.cursor → place < m.frontier m.cursor.toNat

/-- What is bound at a level was found at the place before the one that is tried next there. -/
structure Tracked (m : Matcher) : Prop extends Searching m where
  injective : m.bound.values.Nodup
  found : ∀ (level : Nat) (id : Int), m.bound.values[level]? = some id →
    0 < m.resumeAt level ∧ m.snapshot[m.resumeAt level - 1]? = some id

variable {m m' : Matcher} {s : Scene} {n : PatternNode} {cursor : Nat}

theorem values_firstFew (b : Bindings) (count : Nat) :
    (b.firstFew count).values = b.values.take count := List.map_take

theorem Tracked.resumed (h : Tracked m) {level : Nat} (bound : level < m.bound.size) :
    0 < m.resumeAt level := by
  have within : level < m.bound.values.length := by
    rw [Catalog.values, List.length_map]
    exact bound
  exact (h.found level _ (List.getElem?_eq_getElem within)).1

theorem Tracked.bindTo (h : Tracked m) (here : m.cursor = cursor)
    (found : m.pattern.nodes[cursor]? = some n) {id : Int} {place : Nat}
    (candidate : m.candidate? s n (m.bound.erase n.id) (m.resumeAt m.cursor) = some (id, place)) :
    Tracked (m.bindTo n id place) ∧ IsPast (m.frontier cursor) (m.bindTo n id place) := by
  have few := (h.size_bounds here).1
  have bound := h.bound_bindTo here found id place
  have values : (m.bindTo n id place).bound.values = m.bound.values.take cursor ++ [id] := by
    rw [bound, Bindings.values_put (h.absent here found), values_firstFew]
  have length : (m.bound.values.take cursor).length = cursor := by
    rw [List.length_take, Catalog.values, List.length_map]
    exact Nat.min_eq_left few
  have resume := resumeAt_bindTo m n id place
  rw [h.erase_eq_firstFew here found, here] at candidate
  obtain ⟨later, inside, fresh⟩ := Query.candidate?_spec candidate
  rw [values_firstFew] at fresh
  refine ⟨⟨h.toSearching.bindTo here found id place, ?_, fun level other known => ?_⟩, ?_⟩
  · rw [values]
    refine List.nodup_append.mpr ⟨h.injective.sublist (List.take_sublist ..), by simp, ?_⟩
    intro old member new single same
    rw [List.mem_singleton.mp single] at same
    exact fresh (same ▸ member)
  · rw [values] at known
    rw [resume]
    rcases Nat.lt_trichotomy level cursor with below | same | above
    · rw [List.getElem?_append_left (by omega), List.getElem?_take_of_lt below] at known
      rw [if_neg (by omega)]
      exact h.found level other known
    · subst same
      rw [List.getElem?_append_right (by omega), length, Nat.sub_self, List.getElem?_cons_zero]
        at known
      rw [if_pos here, ← Option.some.inj known]
      exact ⟨Nat.succ_pos place, inside⟩
    · rw [List.getElem?_eq_none (by simp [length]; omega)] at known
      cases known
  · intro _ _
    have next : (m.bindTo n id place).cursor.toNat = cursor + 1 := by
      rw [cursor_bindTo here n id place, Int.toNat_natCast]
    have last : (m.bindTo n id place).placeAt cursor = place := by
      rw [placeAt, resume, if_pos here, Nat.add_sub_cancel]
    rw [next, frontier, frontier, placesBelow_succ, last, List.append_assoc,
      placesBelow_congr fun l below => by rw [resume, if_neg (by omega)]]
    apply List.append_left_lt
    -- The first place to be tried is left behind, or it is taken and the list grows longer.
    rcases Nat.lt_or_eq_of_le later with less | same
    · exact List.Lex.rel less
    · rw [← same]
      exact List.cons_lt_cons_self.mpr List.Lex.nil

/-- Any move back to a level at which a node is bound goes on after its place. -/
theorem Tracked.isPast_back (h : Tracked m) {level : Nat} (bound : level < m.bound.size)
    (back : m'.cursor = level)
    (resume : ∀ l : Nat, l ≤ level → m'.resumeAt l = m.resumeAt l) :
    IsPast (m.frontier (level + 1)) m' := by
  intro _ _
  have tried := h.resumed bound
  rw [back, Int.toNat_natCast, frontier, frontier, placesBelow_succ, List.append_assoc,
    placesBelow_congr fun l below => resume l (Nat.le_of_lt below), resume level (Nat.le_refl _)]
  apply List.append_left_lt
  refine List.Lex.rel ?_
  rw [placeAt]
  omega

theorem Tracked.backFrom (h : Tracked m) {level : Nat} (here : m.cursor = (level + 1 : Nat))
    (found : m.pattern.nodes[level + 1]? = some n) :
    Tracked (m.backFrom n) ∧ IsPast (m.frontier (level + 1)) (m.backFrom n) := by
  have few := (h.size_bounds here).1
  have notFirst : m.cursor ≠ 0 := by omega
  have resume := resumeAt_backFrom notFirst n
  have bound : (m.backFrom n).bound = m.bound.firstFew (level + 1) := by
    rw [Matcher.backFrom, if_neg notFirst, ← h.erase_eq_firstFew here found]
  have snapshot : (m.backFrom n).snapshot = m.snapshot := by
    rw [Matcher.backFrom, if_neg notFirst]
  have back : (m.backFrom n).cursor = level := by
    rw [Matcher.backFrom, if_neg notFirst]
    show m.cursor - 1 = level
    omega
  refine ⟨⟨(h.toSearching.backFrom (s := Scene.empty) here found).1, ?_, fun l id known => ?_⟩,
    h.isPast_back few back fun l below => by rw [resume, if_neg (by omega)]⟩
  · rw [bound, values_firstFew]
    exact h.injective.sublist (List.take_sublist ..)
  · rw [bound, values_firstFew] at known
    have below : l < level + 1 := by
      have within := (List.getElem?_eq_some_iff.mp known).1
      rw [List.length_take] at within
      omega
    rw [List.getElem?_take_of_lt below] at known
    rw [resume, if_neg (by omega), snapshot]
    exact h.found l id known

/-- At a pattern node the search goes on, to a later place or to its end. -/
theorem Tracked.tryNode (h : Tracked m) (here : m.cursor = cursor)
    (found : m.pattern.nodes[cursor]? = some n) :
    ((m.tryNode s n).isEnded = true ∨ Tracked (m.tryNode s n)) ∧
      IsPast (m.frontier cursor) (m.tryNode s n) := by
  unfold Matcher.tryNode
  split
  · rename_i id place candidate
    obtain ⟨tracked, past⟩ := h.bindTo here found candidate
    exact ⟨.inr tracked, past⟩
  · cases cursor with
    | zero =>
      have ended : (m.backFrom n).isEnded = true := by
        rw [Matcher.backFrom, if_pos (show m.cursor = 0 from here)]
        rfl
      refine ⟨.inl ended, fun going => ?_⟩
      rw [ended] at going
      cases going
    | succ level =>
      obtain ⟨tracked, past⟩ := h.backFrom here found
      exact ⟨.inr tracked, past⟩

theorem Tracked.size_of_last (h : Tracked m) (last : m.cursor = m.pattern.nodes.length) :
    m.bound.size = m.pattern.nodes.length := by
  have keys := congrArg List.length (keys_of_last h.toSearching last)
  rw [Catalog.keys, Pattern.ids, List.length_map, List.length_map] at keys
  exact keys

theorem Tracked.leave (h : Tracked m) (last : m.cursor = m.pattern.nodes.length) :
    Tracked { m with cursor := m.cursor - 1 } ∧
      IsPast (m.frontier m.pattern.nodes.length) { m with cursor := m.cursor - 1 } := by
  refine ⟨⟨(h.toSearching.leave (s := Scene.empty) last).1, h.injective, h.found⟩,
    fun going ahead => ?_⟩
  have inside : 0 ≤ m.cursor - 1 := ahead
  obtain ⟨level, levels⟩ : ∃ level, m.pattern.nodes.length = level + 1 :=
    Nat.exists_eq_succ_of_ne_zero (by omega)
  rw [levels]
  have back : m.cursor - 1 = level := by omega
  have bound : level < m.bound.size := by
    have full := h.size_of_last last
    omega
  exact h.isPast_back bound back (fun _ _ => rfl) going ahead

end Matcher

/-! ### What is given -/

/-- Bindings that a search gives in a scene, found at these places of the snapshot. -/
structure Query.Given (q : Query) (s : Scene) (b : Bindings) (places : List Nat) : Prop where
  keys : b.keys = q.pattern.ids
  injective : b.values.Nodup
  read : places.map (q.snapshot[·]?) = b.values.map some
  edges : q.pattern.edgesHold s b = true

namespace Matcher

variable {m m' : Matcher} {s : Scene}

theorem Tracked.given (h : Tracked m) (last : m.cursor = m.pattern.nodes.length)
    (accepted : m.accepts s m.bound = true) :
    m.Given s m.bound (m.placesBelow m.pattern.nodes.length) := by
  refine ⟨keys_of_last h.toSearching last, h.injective, List.ext_getElem? fun level => ?_,
    (Bool.and_eq_true_iff.mp accepted).1⟩
  have full := h.size_of_last last
  have length : m.bound.values.length = m.pattern.nodes.length := by
    rw [Catalog.values, List.length_map]
    exact full
  rw [List.getElem?_map, List.getElem?_map, placesBelow, List.getElem?_map]
  by_cases within : level < m.pattern.nodes.length
  · have bound := List.getElem?_eq_getElem (l := m.bound.values) (show level < _ by omega)
    rw [List.getElem?_range within, bound, Option.map_some, Option.map_some, Option.map_some]
    exact congrArg some (h.found level _ bound).2
  · rw [List.getElem?_eq_none (by rw [List.length_range]; omega),
      List.getElem?_eq_none (by omega)]
    rfl

theorem IsPast.trans {place : List Nat} (past : IsPast place m) (going : m.isEnded = false)
    (inside : 0 ≤ m.cursor) (next : IsPast (m.frontier m.cursor.toNat) m') : IsPast place m' :=
  fun going' inside' => List.lt_trans (past going inside) (next going' inside')

theorem isPast_of_ended {place : List Nat} (ended : m.isEnded = true) : IsPast place m :=
  fun going => absurd (going.symm.trans ended) Bool.false_ne_true

/-- What a step of a search leaves and what it may give: the search is past all that it was past
before, and past what it gives too. -/
structure Leads (m : Matcher) (s : Scene) (given : Option Bindings) (m' : Matcher) : Prop where
  sound : m'.isEnded = true ∨ Tracked m'
  keeps : ∀ place, IsPast place m → IsPast place m'
  gives : ∀ b, given = some b → ∃ places, m.Given s b places ∧
    (∀ place, IsPast place m → place < places ++ [0]) ∧ IsPast (places ++ [0]) m'

theorem Tracked.move (h : Tracked m) (s : Scene) : Leads m s (m.move s).1 (m.move s).2 := by
  unfold Matcher.move
  split
  · exact ⟨.inl rfl, fun _ _ => isPast_of_ended rfl, nofun⟩
  · have inside : 0 ≤ m.cursor := by omega
    have here : m.cursor = m.cursor.toNat := by omega
    split
    · rename_i n found
      obtain ⟨sound, past⟩ := h.tryNode (s := s) here found
      exact ⟨sound, fun _ before => before.trans h.going inside past, nofun⟩
    · rename_i beyond
      have last : m.cursor = m.pattern.nodes.length := by
        have le := h.cursor_le
        have ge := List.getElem?_eq_none_iff.mp beyond
        omega
      have level : m.cursor.toNat = m.pattern.nodes.length := by omega
      have start : m.frontier m.pattern.nodes.length =
          m.placesBelow m.pattern.nodes.length ++ [0] := by rw [frontier, h.beyond]
      obtain ⟨tracked, past⟩ := h.leave last
      refine ⟨.inr tracked, fun _ before => before.trans h.going inside ?_, fun b answer => ?_⟩
      · rwa [level]
      · simp only [Option.ite_none_right_eq_some, Option.some.injEq] at answer
        obtain ⟨accepted, rfl⟩ := answer
        refine ⟨_, h.given last accepted, fun place before => ?_, start ▸ past⟩
        have ahead := before h.going inside
        rwa [level, start] at ahead

/-- The call for the next match is a step as well: all moves but the last give nothing. -/
theorem next_leads (h : m.isEnded = true ∨ Tracked m) (s : Scene) :
    Leads m s (m.next s).1 (m.next s).2 := by
  fun_induction Matcher.next m s with
  | case1 m ended => exact ⟨.inl ended, fun _ before => before, fun b answer => by cases answer⟩
  | case2 m going b m' moved =>
    have step := (h.resolve_left going).move s
    rwa [moved] at step
  | case3 m going m' moved ih =>
    have step := (h.resolve_left going).move s
    rw [moved] at step
    have later := ih step.sound
    refine ⟨later.sound, fun place before => later.keeps place (step.keeps place before),
      fun b answer => ?_⟩
    obtain ⟨places, given, ahead, past⟩ := later.gives b answer
    have query : m'.toQuery = m.toQuery := by rw [← move_toQuery m s, moved]
    rw [query] at given
    exact ⟨places, given, fun place before => ahead place (step.keeps place before), past⟩

theorem ended_of_next_none (m : Matcher) (s : Scene) (none : (m.next s).1 = none) :
    (m.next s).2.isEnded = true := by
  fun_induction Matcher.next m s with
  | case1 m ended => exact ended
  | case2 m going b m' moved => cases none
  | case3 m going m' moved ih => exact ih none

/-! ### How long a call takes -/

/-- The loop of a call: so many moves in a scene, up to an answer. -/
inductive Takes (s : Scene) : Nat → Matcher → Option Bindings → Matcher → Prop
  | ended {m : Matcher} (finished : m.isEnded = true) : Takes s 0 m none m
  | found {m m' : Matcher} {b : Bindings} (going : m.isEnded = false)
      (moved : m.move s = (some b, m')) : Takes s 1 m (some b) m'
  | further {m m' m'' : Matcher} {moves : Nat} {answer : Option Bindings}
      (going : m.isEnded = false) (moved : m.move s = (none, m'))
      (rest : Takes s moves m' answer m'') : Takes s (moves + 1) m answer m''

/-- A call comes to its end, and its moves are paid for by the work that it takes off. -/
theorem next_takes (m : Matcher) (s : Scene) :
    ∃ moves, Takes s moves m (m.next s).1 (m.next s).2 ∧ moves + (m.next s).2.work ≤ m.work := by
  fun_induction Matcher.next m s with
  | case1 m ended => exact ⟨0, .ended ended, Nat.le_of_eq (Nat.zero_add _)⟩
  | case2 m going b m' moved =>
    have lower := move_work_lt s (eq_false_of_ne_true going)
    rw [moved] at lower
    exact ⟨1, .found (eq_false_of_ne_true going) moved, by dsimp only at lower ⊢; omega⟩
  | case3 m going m' moved ih =>
    have lower := move_work_lt s (eq_false_of_ne_true going)
    rw [moved] at lower
    obtain ⟨moves, taken, paid⟩ := ih
    exact ⟨moves + 1, .further (eq_false_of_ne_true going) moved taken,
      by dsimp only at lower; omega⟩

/-! ### Calls in changing scenes -/

/-- The matcher after some calls, each in the scene as it was then. -/
def amid (m : Matcher) (scenes : Nat → Scene) : Nat → Matcher
  | 0 => m
  | call + 1 => ((m.amid scenes call).next (scenes call)).2

/-- The answer to the call after so many others. -/
def answerAmid (m : Matcher) (scenes : Nat → Scene) (call : Nat) : Option Bindings :=
  ((m.amid scenes call).next (scenes call)).1

theorem amid_toQuery (m : Matcher) (scenes : Nat → Scene) (call : Nat) :
    (m.amid scenes call).toQuery = m.toQuery := by
  induction call with
  | zero => rfl
  | succ call ih => rw [amid, next_toQuery, ih]

theorem amid_sound (h : Tracked m) (scenes : Nat → Scene) (call : Nat) :
    (m.amid scenes call).isEnded = true ∨ Tracked (m.amid scenes call) := by
  induction call with
  | zero => exact .inr h
  | succ call ih => exact (next_leads ih (scenes call)).sound

theorem amid_isPast (h : Tracked m) (scenes : Nat → Scene) {place : List Nat} {call later : Nat}
    (after : call ≤ later) (past : IsPast place (m.amid scenes call)) :
    IsPast place (m.amid scenes later) := by
  induction after with
  | refl => exact past
  | step _ ih => exact (next_leads (amid_sound h scenes _) (scenes _)).keeps place ih

theorem amid_ended (m : Matcher) (scenes : Nat → Scene) {call later : Nat} (after : call ≤ later)
    (ended : (m.amid scenes call).isEnded = true) : (m.amid scenes later).isEnded = true := by
  induction after with
  | refl => exact ended
  | step _ ih =>
    rw [amid, Matcher.next, if_pos ih]
    exact ih

theorem answerAmid_none (m : Matcher) (scenes : Nat → Scene) {call later : Nat}
    (after : call ≤ later) (nothing : m.answerAmid scenes call = none) :
    m.answerAmid scenes later = none := by
  rcases Nat.lt_or_eq_of_le after with before | rfl
  · have finished : (m.amid scenes (call + 1)).isEnded = true := ended_of_next_none _ _ nothing
    rw [answerAmid, Matcher.next, if_pos (amid_ended m scenes before finished)]
  · exact nothing

/-- The moves of all calls are paid for by the work of the search at first. -/
theorem calls_take (m : Matcher) (scenes : Nat → Scene) :
    ∃ moves : Nat → Nat,
      (∀ call, Takes (scenes call) (moves call) (m.amid scenes call)
        (m.answerAmid scenes call) (m.amid scenes (call + 1))) ∧
      ∀ calls, ((List.range calls).map moves).sum ≤ m.work := by
  choose moves taken paid using fun call => next_takes (m.amid scenes call) (scenes call)
  refine ⟨moves, taken, fun calls => ?_⟩
  suffices together : ((List.range calls).map moves).sum + (m.amid scenes calls).work ≤ m.work by
    omega
  induction calls with
  | zero => exact Nat.le_of_eq (Nat.zero_add _)
  | succ calls ih =>
    have last : moves calls + (m.amid scenes (calls + 1)).work ≤ (m.amid scenes calls).work :=
      paid calls
    rw [List.range_succ, List.map_append, List.sum_append, List.map_singleton, List.sum_singleton]
    omega

/-- Later places of an ascending snapshot have later ids. -/
theorem lt_of_places {snapshot ids others : List Int} {places later : List Nat}
    (ascending : snapshot.Pairwise (· < ·)) (read : places.map (snapshot[·]?) = ids.map some)
    (read' : later.map (snapshot[·]?) = others.map some) (length : ids.length = others.length)
    (before : places ++ [0] < later ++ [0]) : ids < others := by
  induction places generalizing ids later others with
  | nil =>
    obtain rfl : ids = [] := by simpa using read.symm
    obtain rfl : others = [] := List.eq_nil_of_length_eq_zero length.symm
    obtain rfl : later = [] := by simpa using read'
    exact absurd before (List.lt_irrefl _)
  | cons place places ih =>
    cases ids with
    | nil => simp at read
    | cons id ids =>
      cases others with
      | nil => simp at length
      | cons other others =>
        cases later with
        | nil => simp at read'
        | cons place' later =>
          simp only [List.map_cons, List.cons.injEq] at read read'
          rcases List.cons_lt_cons_iff.mp before with less | ⟨rfl, rest⟩
          · obtain ⟨within, rfl⟩ := List.getElem?_eq_some_iff.mp read.1
            obtain ⟨within', rfl⟩ := List.getElem?_eq_some_iff.mp read'.1
            exact List.Lex.rel (List.pairwise_iff_getElem.mp ascending _ _ within within' less)
          · obtain rfl := Option.some.inj (read.1.symm.trans read'.1)
            exact List.cons_lt_cons_self.mpr
              (ih read.2 read'.2 (Nat.succ.inj length) rest)

theorem mem_of_places {snapshot ids : List Int} {places : List Nat}
    (read : places.map (snapshot[·]?) = ids.map some) {id : Int} (member : id ∈ ids) :
    id ∈ snapshot := by
  have known : some id ∈ places.map (snapshot[·]?) := read ▸ List.mem_map_of_mem member
  obtain ⟨place, -, found⟩ := List.mem_map.mp known
  exact List.mem_of_getElem? found

theorem tracked_ofPattern (s : Scene) (p : Pattern) (checkValues symmetryBreaking : Bool) :
    Tracked (ofPattern s p checkValues symmetryBreaking) :=
  ⟨searching_ofPattern s p checkValues symmetryBreaking, List.nodup_nil, fun _ _ known => by
    cases known⟩

theorem Tracked.answerAmid (h : Tracked m) (scenes : Nat → Scene) {call : Nat} {b : Bindings}
    (answer : m.answerAmid scenes call = some b) :
    ∃ places, m.Given (scenes call) b places ∧
      (∀ place, IsPast place (m.amid scenes call) → place < places ++ [0]) ∧
      IsPast (places ++ [0]) (m.amid scenes (call + 1)) := by
  have step := next_leads (amid_sound h scenes call) (scenes call)
  obtain ⟨places, given, ahead, past⟩ := step.gives b answer
  rw [amid_toQuery] at given
  exact ⟨places, given, ahead, past⟩

theorem Tracked.answers_ascend (h : Tracked m) (ascending : m.snapshot.Pairwise (· < ·))
    (scenes : Nat → Scene) {call later : Nat} {b c : Bindings} (before : call < later)
    (first : m.answerAmid scenes call = some b) (second : m.answerAmid scenes later = some c) :
    b.values < c.values := by
  obtain ⟨places, given, -, past⟩ := h.answerAmid scenes first
  obtain ⟨places', given', ahead, -⟩ := h.answerAmid scenes second
  have length : b.values.length = c.values.length := by
    have keys := congrArg List.length (given.keys.trans given'.keys.symm)
    rw [Catalog.keys, Catalog.keys, List.length_map, List.length_map] at keys
    rw [Catalog.values, Catalog.values, List.length_map, List.length_map, keys]
  exact lt_of_places ascending given.read given'.read length
    (ahead _ (amid_isPast h scenes before past))

/-- Whatever becomes of a scene between the calls, every call ends, and all of them together make
no more moves than the search had work at first. What is given binds exactly the nodes of the
pattern, to different ids of the scene at the beginning, with the edges of the scene as it is then;
it comes after everything given before in the order of the ids; and where nothing is given, nothing
is given ever after. -/
theorem answers_amid_changes (start : Scene) (p : Pattern) (checkValues symmetryBreaking : Bool)
    (scenes : Nat → Scene) :
    (∃ moves : Nat → Nat,
      (∀ call, Takes (scenes call) (moves call)
        ((ofPattern start p checkValues symmetryBreaking).amid scenes call)
        ((ofPattern start p checkValues symmetryBreaking).answerAmid scenes call)
        ((ofPattern start p checkValues symmetryBreaking).amid scenes (call + 1))) ∧
      ∀ calls, ((List.range calls).map moves).sum ≤
        (ofPattern start p checkValues symmetryBreaking).work) ∧
    (∀ call b,
      (ofPattern start p checkValues symmetryBreaking).answerAmid scenes call = some b →
      b.keys = p.ids ∧ b.values.Nodup ∧ (∀ id ∈ b.values, id ∈ start.graph.ids) ∧
        ∀ e ∈ p.edges, ∃ x y, b.get? e.1 = some x ∧ b.get? e.2 = some y ∧
          (scenes call).graph.hasEdge x y = true) ∧
    (∀ call later b c, call < later →
      (ofPattern start p checkValues symmetryBreaking).answerAmid scenes call = some b →
      (ofPattern start p checkValues symmetryBreaking).answerAmid scenes later = some c →
      p.reading b < p.reading c) ∧
    (∀ call later, call ≤ later →
      (ofPattern start p checkValues symmetryBreaking).answerAmid scenes call = none →
      (ofPattern start p checkValues symmetryBreaking).answerAmid scenes later = none) := by
  have tracked := tracked_ofPattern start p checkValues symmetryBreaking
  refine ⟨calls_take _ scenes, fun call b answer => ?_,
    fun call later b c before first second => ?_, fun call later => answerAmid_none _ scenes⟩
  · obtain ⟨places, given, -, -⟩ := tracked.answerAmid scenes answer
    exact ⟨given.keys, given.injective, fun id => mem_of_places given.read,
      Pattern.edgesHold_iff.mp given.edges⟩
  · obtain ⟨_, given, -, -⟩ := tracked.answerAmid scenes first
    obtain ⟨_, given', -, -⟩ := tracked.answerAmid scenes second
    have reading : ∀ {s : Scene} {d : Bindings} {places : List Nat},
        (ofPattern start p checkValues symmetryBreaking).Given s d places →
          p.reading d = d.values := fun {_ d _} known => by
      rw [Pattern.reading, ← Catalog.filterMap_get?_keys, known.keys]
      rfl
    rw [reading given, reading given']
    exact tracked.answers_ascend start.graph.ids_ascending scenes before first second

end Matcher

end GrowthGrammar
