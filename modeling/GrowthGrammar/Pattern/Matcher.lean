import GrowthGrammar.Pattern.Bindings
import GrowthGrammar.Pattern.Symmetry
import GrowthGrammar.Scene.Basic

/-!
Matchers: the search for a pattern in a scene, one match at a time. The pattern nodes are bound in
the order of their declaration, each to the ids of a snapshot in ascending order. A matcher stops
at every match and goes on from there in the scene as it is then: the cursor tells which pattern
node is bound next, and the resume table where in the snapshot the search for its ids goes on.
-/
namespace GrowthGrammar

/-- What is searched for and where. The snapshot holds the ids of the scene when the search began.
Symmetries are those under which a match has to be the first of its kind. -/
structure Query where
  pattern : Pattern
  checkValues : Bool
  snapshot : List Int
  symmetries : List Permutation

/-- A search under way. -/
structure Matcher extends Query where
  cursor : Int := 0
  bound : Bindings := .empty
  resume : Table Int Nat := Table.empty.insert 0 0
  isEnded : Bool := false

inductive SearchNote where
  | found (b : Bindings)
  | exhausted

def SearchNote.text : SearchNote → String
  | .found b => s!"Matched {b.text}"
  | .exhausted => "Search space exhausted"

/-- Whether the scene has the edges that the pattern asks for. -/
def Pattern.edgesHold (p : Pattern) (s : Scene) (b : Bindings) : Bool :=
  p.edges.all fun (x, y) =>
    match b.get? x, b.get? y with
    | some x, some y => s.graph.hasEdge x y
    | _, _ => false

/-! ### What a match is -/

namespace Query

/-- Whether a pattern node may be bound to an id, after others have been. -/
def suits (q : Query) (s : Scene) (p : PatternNode) (bound : Bindings) (id : Int) : Bool :=
  id ∉ bound.values &&
  match s.node? id with
  | some node => p.accepts node q.checkValues
  | none => false

/-- Whether no symmetry gives a match with earlier ids. -/
def isCanonical (q : Query) (b : Bindings) : Bool :=
  let current := q.pattern.ids.filterMap b.get?
  q.symmetries.all fun symmetry => !decide ((b.through symmetry).values < current)

def accepts (q : Query) (s : Scene) (b : Bindings) : Bool :=
  q.pattern.edgesHold s b && q.isCanonical b

/-- The first id of the snapshot from a place on that suits a pattern node, and its place. -/
def candidate? (q : Query) (s : Scene) (p : PatternNode) (bound : Bindings) (start : Nat) :
    Option (Int × Nat) :=
  (q.snapshot.zipIdx.drop start).find? fun (id, _) => q.suits s p bound id

end Query

namespace Matcher

def ofPattern (s : Scene) (pattern : Pattern) (checkValues symmetryBreaking : Bool) : Matcher where
  pattern
  checkValues
  snapshot := s.graph.ids
  symmetries := if symmetryBreaking then (pattern.symmetries checkValues).drop 1 else []

/-! ### Single moves -/

def finish (m : Matcher) : Matcher :=
  { m with bound := .empty, resume := .empty, isEnded := true }

/-- Where the search for the ids of a pattern node goes on. -/
def resumeAt (m : Matcher) (level : Int) : Nat := (m.resume.get? level).getD 0

/-- Binds a pattern node to the id at a place of the snapshot and turns to the one after it. -/
def bindTo (m : Matcher) (p : PatternNode) (id : Int) (place : Nat) : Matcher :=
  { m with
    bound := (m.bound.erase p.id).put p.id id,
    resume := m.resume.insert m.cursor (place + 1),
    cursor := m.cursor + 1 }

/-- Frees a pattern node and goes back to the one before it. At the first one the search ends. -/
def backFrom (m : Matcher) (p : PatternNode) : Matcher :=
  if m.cursor = 0 then m.finish
  else
    { m with
      bound := m.bound.erase p.id,
      resume := m.resume.erase m.cursor,
      cursor := m.cursor - 1 }

/-- Binds a pattern node to its next id, if there is one. -/
def tryNode (m : Matcher) (s : Scene) (p : PatternNode) : Matcher :=
  match m.candidate? s p (m.bound.erase p.id) (m.resumeAt m.cursor) with
  | some (id, place) => m.bindTo p id place
  | none => m.backFrom p

/-- One move of the search. It gives a match if one is complete and accepted. -/
def move (m : Matcher) (s : Scene) : Option Bindings × Matcher :=
  if m.cursor < 0 then (none, m.finish)
  else
    match m.pattern.nodes[m.cursor.toNat]? with
    | some p => (none, m.tryNode s p)
    | none =>
      (if m.accepts s m.bound then some m.bound else none, { m with cursor := m.cursor - 1 })

/-! ### The end of the search -/

/-- Counts what is left to try at the first levels of the search, as a number in positional notation
whose digits are the ids left at each level. -/
def weight (m : Matcher) : Nat → Nat
  | 0 => 0
  | level + 1 =>
    m.weight level * (m.snapshot.length + 2) + (m.snapshot.length - m.resumeAt level + 1)

/-- What a digit counts for with so many digits after it. -/
def digitValue (base : Nat) : Nat → Nat
  | 0 => 1
  | digits + 1 => base * digitValue base digits

theorem digitValue_pos {base : Nat} (wide : 0 < base) (digits : Nat) :
    0 < digitValue base digits := by
  induction digits with
  | zero => exact Nat.one_pos
  | succ digits ih => exact Nat.mul_pos wide ih

/-- A number that every move lowers. -/
def work (m : Matcher) : Nat :=
  if m.isEnded then 0
  else
    1 + m.weight (m.cursor + 1).toNat *
      digitValue (m.snapshot.length + 2) (m.pattern.nodes.length - m.cursor.toNat)

theorem weight_congr {m m' : Matcher} {levels : Nat} (snapshot : m'.snapshot = m.snapshot)
    (resume : ∀ level : Nat, level < levels → m'.resumeAt level = m.resumeAt level) :
    m'.weight levels = m.weight levels := by
  induction levels with
  | zero => rfl
  | succ level ih =>
    unfold weight
    rw [ih fun lower below => resume lower (by omega), resume level (by omega), snapshot]

theorem resumeAt_insert (m : Matcher) (level key : Int) (place : Nat) :
    { m with resume := m.resume.insert level place }.resumeAt key =
      if level = key then place else m.resumeAt key := by
  unfold resumeAt
  rw [Table.get?_insert]
  split <;> rfl

theorem resumeAt_erase (m : Matcher) (level key : Int) :
    { m with resume := m.resume.erase level }.resumeAt key =
      if level = key then 0 else m.resumeAt key := by
  unfold resumeAt
  rw [Table.get?_erase]
  split <;> rfl

theorem candidate?_bounds {q : Query} {s : Scene} {p : PatternNode} {bound : Bindings}
    {start place : Nat} {id : Int} (h : q.candidate? s p bound start = some (id, place)) :
    start ≤ place ∧ place < q.snapshot.length := by
  have member := List.mem_of_find?_eq_some h
  obtain ⟨i, here, found⟩ := List.mem_iff_getElem.mp member
  simp only [List.getElem_drop, List.getElem_zipIdx, Prod.mk.injEq] at found
  simp only [List.length_drop, List.length_zipIdx] at here
  omega

theorem weight_step_lt {high base digit digit' next rest : Nat} (lower : digit' < digit)
    (small : next < base) :
    ((high * base + digit') * base + next) * digitValue base rest <
      (high * base + digit) * digitValue base (rest + 1) := by
  have one : (high * base + digit') * base + next < (high * base + digit' + 1) * base := by
    rw [Nat.succ_mul]
    omega
  have two : (high * base + digit' + 1) * base ≤ (high * base + digit) * base :=
    Nat.mul_le_mul_right base (by omega)
  rw [digitValue, ← Nat.mul_assoc]
  exact Nat.mul_lt_mul_of_pos_right (Nat.lt_of_lt_of_le one two) (digitValue_pos (by omega) rest)

theorem weight_back_lt {high base digit levels cursor : Nat} (positive : 0 < digit)
    (wide : 0 < base) :
    high * digitValue base (levels - cursor) <
      (high * base + digit) * digitValue base (levels - (cursor + 1)) := by
  have value : digitValue base (levels - cursor) ≤
      base * digitValue base (levels - (cursor + 1)) := by
    rcases Nat.lt_or_ge cursor levels with before | beyond
    · have same : levels - cursor = levels - (cursor + 1) + 1 := by omega
      exact Nat.le_of_eq (congrArg (digitValue base) same)
    · rw [show levels - cursor = 0 by omega, show levels - (cursor + 1) = 0 by omega, digitValue]
      omega
  have some : 0 < digit * digitValue base (levels - (cursor + 1)) :=
    Nat.mul_pos positive (digitValue_pos wide _)
  have high_le := Nat.mul_le_mul_left high value
  rw [Nat.add_mul, Nat.mul_assoc]
  omega

theorem work_pos {m : Matcher} (going : m.isEnded = false) : 0 < m.work := by
  unfold work
  simp only [going, Bool.false_eq_true, ↓reduceIte]
  omega

/-- Going back a level lowers the work, whatever becomes of the resume table at the level left. -/
theorem work_back_lt {m m' : Matcher} {cursor : Nat} (going : m.isEnded = false)
    (here : m.cursor = cursor) (snapshot : m'.snapshot = m.snapshot)
    (pattern : m'.pattern = m.pattern) (back : m'.cursor = (cursor : Int) - 1)
    (resume : ∀ level : Nat, level < cursor → m'.resumeAt level = m.resumeAt level) :
    m'.work < m.work := by
  have lower := weight_congr snapshot resume
  unfold work
  split
  · simp only [going, Bool.false_eq_true, ↓reduceIte]
    omega
  · simp only [going, Bool.false_eq_true, ↓reduceIte, snapshot, pattern, back, here]
    rw [show ((cursor : Int) - 1 + 1).toNat = cursor by omega, lower,
      show ((cursor : Int) + 1).toNat = cursor + 1 by omega, Int.toNat_natCast, weight]
    have digit := Nat.succ_pos (m.snapshot.length - m.resumeAt cursor)
    cases cursor with
    | zero =>
      have value : 0 < digitValue (m.snapshot.length + 2) (m.pattern.nodes.length - 0) :=
        digitValue_pos (by omega) _
      have positive := Nat.mul_pos digit value
      rw [weight, Nat.zero_mul, Nat.zero_mul, Nat.zero_add]
      exact Nat.add_lt_add_left positive 1
    | succ level =>
      rw [show ((level + 1 : Nat) : Int) - 1 = (level : Nat) by omega, Int.toNat_natCast]
      exact Nat.add_lt_add_left (weight_back_lt digit (by omega)) 1

/-- Binding a pattern node lowers the work: fewer ids are left at its level. -/
theorem work_bind_lt {m m' : Matcher} {cursor place : Nat} (going : m.isEnded = false)
    (here : m.cursor = cursor) (within : cursor < m.pattern.nodes.length)
    (snapshot : m'.snapshot = m.snapshot) (pattern : m'.pattern = m.pattern)
    (ahead : m'.cursor = (cursor : Int) + 1)
    (bounds : m.resumeAt cursor ≤ place ∧ place < m.snapshot.length)
    (resume : ∀ level : Int,
      m'.resumeAt level = if (cursor : Int) = level then place + 1 else m.resumeAt level) :
    m'.work < m.work := by
  have lower : m'.weight cursor = m.weight cursor :=
    weight_congr snapshot fun level below => by rw [resume, if_neg (by omega)]
  unfold work
  split
  · simp only [going, Bool.false_eq_true, ↓reduceIte]
    omega
  · simp only [going, Bool.false_eq_true, ↓reduceIte, snapshot, pattern, ahead, here]
    rw [show ((cursor : Int) + 1 + 1).toNat = cursor + 1 + 1 by omega,
      show ((cursor : Int) + 1).toNat = cursor + 1 by omega, Int.toNat_natCast, weight, weight,
      weight, lower, snapshot, resume, if_pos rfl,
      show m.pattern.nodes.length - cursor = m.pattern.nodes.length - (cursor + 1) + 1 by omega]
    exact Nat.add_lt_add_left (weight_step_lt (by omega) (by omega)) 1

theorem bindTo_work_lt {m : Matcher} {p : PatternNode} {id : Int} {cursor place : Nat}
    (going : m.isEnded = false) (here : m.cursor = cursor)
    (within : cursor < m.pattern.nodes.length)
    (bounds : m.resumeAt cursor ≤ place ∧ place < m.snapshot.length) :
    (m.bindTo p id place).work < m.work := by
  refine work_bind_lt going here within rfl rfl ?_ bounds fun level => ?_
  · rw [← here]
    rfl
  · rw [← here]
    exact resumeAt_insert m m.cursor level (place + 1)

theorem backFrom_work_lt {m : Matcher} {p : PatternNode} {cursor : Nat}
    (going : m.isEnded = false) (here : m.cursor = cursor) : (m.backFrom p).work < m.work := by
  unfold backFrom
  split
  · exact work_pos going
  · refine work_back_lt going here rfl rfl ?_ fun level below => ?_
    · rw [← here]
    · exact (resumeAt_erase m m.cursor level).trans (if_neg (by omega))

theorem tryNode_work_lt {m : Matcher} {s : Scene} {p : PatternNode} {cursor : Nat}
    (going : m.isEnded = false) (here : m.cursor = cursor)
    (within : cursor < m.pattern.nodes.length) : (m.tryNode s p).work < m.work := by
  unfold tryNode
  split
  · rename_i id place found
    have bounds := candidate?_bounds found
    rw [here] at bounds
    exact bindTo_work_lt going here within bounds
  · exact backFrom_work_lt going here

theorem move_work_lt {m : Matcher} (s : Scene) (going : m.isEnded = false) :
    (m.move s).2.work < m.work := by
  unfold move
  split
  · exact work_pos going
  · have here : m.cursor = (m.cursor.toNat : Int) := by omega
    split
    · rename_i p found
      exact tryNode_work_lt going here (List.getElem?_eq_some_iff.mp found).1
    · exact work_back_lt going here rfl rfl (by rw [← here]) fun level below => rfl

/-! ### The search -/

/-- The next match, and the matcher that goes on after it. -/
def next (m : Matcher) (s : Scene) : Option Bindings × Matcher :=
  if m.isEnded then (none, m)
  else
    match _moved : m.move s with
    | (some b, m) => (some b, m)
    | (none, m) => m.next s
termination_by m.work
decreasing_by
  rename_i going
  have lower := move_work_lt s (eq_false_of_ne_true going)
  rwa [_moved] at lower

theorem next_work_lt {m m' : Matcher} {s : Scene} {b : Bindings} (h : m.next s = (some b, m')) :
    m'.work < m.work := by
  fun_induction next m s with
  | case1 => simp at h
  | case2 m going b moved move =>
    obtain ⟨-, rfl⟩ := Prod.mk.inj h
    have lower := move_work_lt s (eq_false_of_ne_true going)
    rwa [move] at lower
  | case3 m going moved move ih =>
    have lower := move_work_lt s (eq_false_of_ne_true going)
    rw [move] at lower
    exact Nat.lt_trans (ih h) lower

/-- Takes matches until there are none left or there are enough. -/
def takeUntil (s : Scene) (enough : Nat → Bool) (count : Nat) (m : Matcher) :
    List Bindings × Matcher :=
  match _found : m.next s with
  | (none, m) => ([], m)
  | (some b, m) =>
    if enough (count + 1) then ([b], m)
    else
      let (rest, m) := takeUntil s enough (count + 1) m
      (b :: rest, m)
termination_by m.work
decreasing_by
  exact next_work_lt _found

def rest (m : Matcher) (s : Scene) : List Bindings × Matcher := takeUntil s (fun _ => false) 0 m

/-- The matches to come up to a limit, but one at least if there is any. -/
def upTo (m : Matcher) (s : Scene) (limit : Int) : List Bindings × Matcher :=
  takeUntil s (fun count => limit ≤ count) 0 m

def notes (before after : Matcher) (found : List Bindings) : List SearchNote :=
  found.map .found ++
    if !before.isEnded && after.isEnded && !before.pattern.nodes.isEmpty then [.exhausted] else []

end Matcher

/-- All matches of a pattern in a scene, or as many as a limit admits. -/
def Scene.find (s : Scene) (pattern : Pattern) (checkValues symmetryBreaking : Bool)
    (limit : Option Int) : List Bindings × List SearchNote :=
  let m := Matcher.ofPattern s pattern checkValues symmetryBreaking
  let (found, after) := match limit with
    | some limit => m.upTo s limit
    | none => m.rest s
  (found, m.notes after found)

end GrowthGrammar
