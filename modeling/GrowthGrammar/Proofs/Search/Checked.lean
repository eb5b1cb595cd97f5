import GrowthGrammar.Proofs.Graph.Checked
import GrowthGrammar.Proofs.Search.Orbit

/-!
Checked searches: the search for a pattern with every lookup as one that may lapse. The ids of an
edge are declared, a search that has come to its end has bound all of them, and a symmetry maps each
of them to another, so that there is no lapse whatever the scene is.
-/
namespace GrowthGrammar

theorem Catalog.erase_put {κ α : Type} [DecidableEq κ] {c : Catalog κ α} {k : κ}
    (absent : k ∉ c.keys) (v : α) : (c.put k v).erase k = c := by
  apply ext_entries
  show (c.put k v).entries.filter (fun e => e.1 ≠ k) = c.entries
  have others : c.entries.filter (fun e => e.1 ≠ k) = c.entries :=
    List.filter_eq_self.mpr fun e member =>
      decide_eq_true fun same => absent (same ▸ List.mem_map_of_mem member)
  rw [entries_put absent, List.filter_append, others]
  simp

/-! ### Bindings -/

namespace Bindings

def fetch (b : Bindings) (patternId : Int) : Except Lapse Int :=
  match b.get? patternId with
  | some id => .ok id
  | none => .error (.unbound patternId)

/-- Takes a pattern id out of the bindings. -/
def free (b : Bindings) (patternId : Int) : Except Lapse Bindings :=
  if b.contains patternId then .ok (b.erase patternId) else .error (.unbound patternId)

variable {b : Bindings}

theorem free_ok {patternId : Int} (bound : patternId ∈ b.keys) :
    b.free patternId = .ok (b.erase patternId) := if_pos (Catalog.contains_iff.mpr bound)

theorem fetch_ok {patternId : Int} (bound : patternId ∈ b.keys) :
    ∃ id, b.get? patternId = some id ∧ b.fetch patternId = .ok id := by
  unfold fetch
  cases found : b.get? patternId with
  | none => exact absurd bound (Catalog.get?_eq_none_iff.mp found)
  | some id => exact ⟨id, rfl, rfl⟩

theorem mapM_fetch {patternIds : List Int} (bound : ∀ id ∈ patternIds, id ∈ b.keys) :
    patternIds.mapM b.fetch = .ok (patternIds.filterMap b.get?) := by
  induction patternIds with
  | nil => rfl
  | cons patternId rest ih =>
    obtain ⟨id, found, fetched⟩ := fetch_ok (bound patternId List.mem_cons_self)
    rw [List.mapM_cons, fetched, ih fun later member => bound later (List.mem_cons_of_mem _ member),
      List.filterMap_cons_some found]
    rfl

end Bindings

/-! ### Symmetries -/

namespace Pattern.Checked

/-- What is known of a pattern node is kept for the declared ids. -/
def declared (p : Pattern) (id : Int) : Except Lapse Unit :=
  if id ∈ p.ids then .ok () else .error (.undeclared id)

def mayMap (p : Pattern) (checkValues : Bool) (images : Bindings) (id candidate : Int) :
    Except Lapse Bool := do
  declared p candidate
  declared p id
  return p.mayMap checkValues images.entries id candidate

/-- All ways to extend the images by those of further ids. The whole search writes to one table of
images and takes back what it has tried. -/
def extendImages (p : Pattern) (checkValues : Bool) (images : Bindings) :
    List Int → Except Lapse (List Permutation × Bindings)
  | [] => .ok ([images.entries], images)
  | id :: rest =>
    p.ids.foldlM (fun (found, images) candidate => do
      if ← mayMap p checkValues images id candidate then
        let (more, images) ← extendImages p checkValues (images.put id candidate) rest
        return (found ++ more, ← images.free id)
      else return (found, images)) ([], images)

/-- Notes an edge at both of its ends. -/
def noteEdge (p : Pattern) (e : Int × Int) : Except Lapse PUnit := do
  declared p e.1
  declared p e.2

def symmetries (p : Pattern) (checkValues : Bool) : Except Lapse (List Permutation) := do
  p.edges.forM (noteEdge p)
  return (← extendImages p checkValues .empty p.ids).1

variable {p : Pattern} {checkValues : Bool} {images : Bindings} {ids : List Int}

theorem mayMap_ok {id candidate : Int} (inside : id ∈ p.ids) (inside' : candidate ∈ p.ids) :
    mayMap p checkValues images id candidate =
      .ok (p.mayMap checkValues images.entries id candidate) := by
  rw [mayMap, declared, declared, if_pos inside, if_pos inside']
  rfl

/-- The table of images is after the search for extensions what it was before. -/
theorem extendImages_ok (distinct : (images.keys ++ ids).Nodup) (inside : ∀ id ∈ ids, id ∈ p.ids) :
    extendImages p checkValues images ids =
      .ok (p.extendImages checkValues images.entries ids, images) := by
  induction ids generalizing images with
  | nil => rfl
  | cons id rest ih =>
    have absent : id ∉ images.keys := fun member =>
      (List.nodup_append.mp distinct).2.2 id member id List.mem_cons_self rfl
    have further (candidate : Int) : ((images.put id candidate).keys ++ rest).Nodup := by
      rw [Bindings.keys_put absent, List.append_assoc]
      exact distinct
    rw [extendImages, Pattern.extendImages]
    refine Work.foldlM_gather (fun candidate member found => ?_) []
    dsimp only
    rw [mayMap_ok (inside id List.mem_cons_self) member]
    show (if p.mayMap checkValues images.entries id candidate = true then _ else _) = _
    split
    · have there : id ∈ (images.put id candidate).keys := by
        rw [Bindings.keys_put absent]
        exact List.mem_append_right _ (List.mem_singleton_self id)
      -- The image is taken out as it was put in, so the next candidate finds the same table.
      rw [ih (further candidate) fun later member => inside later (List.mem_cons_of_mem _ member),
        Catalog.entries_put absent]
      show (Bindings.free (images.put id candidate) id).map _ = _
      rw [Bindings.free_ok there, Catalog.erase_put absent]
      rfl
    · rw [List.append_nil]
      rfl

theorem symmetries_ok (p : Pattern) (checkValues : Bool) :
    symmetries p checkValues = .ok (p.symmetries checkValues) := by
  have noted : p.edges.forM (noteEdge p) = .ok ⟨⟩ := Work.forM_ok fun e member => by
    obtain ⟨first, second⟩ := p.declared e member
    have first : e.1 ∈ p.ids := first
    have second : e.2 ∈ p.ids := second
    rw [noteEdge, declared, declared, if_pos first, if_pos second]
    rfl
  have distinct : ((.empty : Bindings).keys ++ p.ids).Nodup := p.nodup_ids
  have found : extendImages p checkValues .empty p.ids = .ok (p.symmetries checkValues, .empty) :=
    extendImages_ok distinct fun _ => id
  unfold symmetries
  rw [noted, found]
  rfl

end Pattern.Checked

/-! ### Tests of a match -/

namespace Permutation

def fetch (σ : Permutation) (id : Int) : Except Lapse Int :=
  match σ.find? fun e => e.1 = id with
  | some e => .ok e.2
  | none => .error (.unmapped id)

theorem IsSymmetry.mapM_fetch {σ : Permutation} {p : Pattern} {checkValues : Bool}
    (h : σ.IsSymmetry p checkValues) : p.ids.mapM σ.fetch = .ok (σ.map (·.2)) := by
  have fetched : ∀ id ∈ p.ids, σ.fetch id = .ok (σ.image id) := by
    intro id declared
    unfold fetch image
    cases found : σ.find? fun e => e.1 = id with
    | none => simpa using List.find?_eq_none.mp found _ (h.entry declared)
    | some e => rfl
  rw [Work.mapM_ok fetched, ← map_image h.distinct, h.domain]

end Permutation

/-- The symmetries of a search are those of its pattern. -/
def Query.Symmetric (q : Query) : Prop :=
  ∀ σ ∈ q.symmetries, σ.IsSymmetry q.pattern q.checkValues

namespace Query.Checked

def edgesHold (s : Scene) (b : Bindings) : List (Int × Int) → Except Lapse Bool
  | [] => .ok true
  | (x, y) :: rest => do
    if s.graph.hasEdge (← b.fetch x) (← b.fetch y) then edgesHold s b rest else return false

/-- The ids that the images of pattern ids are bound to. -/
def readThrough (patternIds : List Int) (b : Bindings) (σ : Permutation) :
    Except Lapse (List Int) := do
  (← patternIds.mapM σ.fetch).mapM b.fetch

/-- Whether none of the symmetries gives earlier ids than those that are bound. -/
def isFirst (patternIds : List Int) (b : Bindings) (bound : List Int) :
    List Permutation → Except Lapse Bool
  | [] => .ok true
  | σ :: rest => do
    if (← readThrough patternIds b σ) < bound then return false
    else isFirst patternIds b bound rest

def accepts (q : Query) (s : Scene) (b : Bindings) : Except Lapse Bool := do
  if ← edgesHold s b q.pattern.edges then
    isFirst q.pattern.ids b (← q.pattern.ids.mapM b.fetch) q.symmetries
  else return false

variable {p : Pattern} {q : Query} {b : Bindings} {checkValues : Bool}

theorem edgesHold_ok (s : Scene) (keys : b.keys = p.ids) :
    edgesHold s b p.edges = .ok (p.edgesHold s b) := by
  have bound : ∀ e ∈ p.edges, e.1 ∈ b.keys ∧ e.2 ∈ b.keys := keys ▸ p.declared
  unfold Pattern.edgesHold
  generalize p.edges = edges at bound
  induction edges with
  | nil => rfl
  | cons e rest ih =>
    obtain ⟨x, y⟩ := e
    obtain ⟨first, second⟩ := bound _ List.mem_cons_self
    obtain ⟨v, found, fetched⟩ := Bindings.fetch_ok first
    obtain ⟨w, found', fetched'⟩ := Bindings.fetch_ok second
    dsimp only at found found'
    rw [edgesHold, fetched, fetched', List.all_cons]
    show (if s.graph.hasEdge v w = true then _ else _) = _
    dsimp only
    rw [found, found']
    dsimp only
    cases s.graph.hasEdge v w with
    | false => rfl
    | true => exact ih fun later member => bound later (List.mem_cons_of_mem _ member)

theorem readThrough_ok {σ : Permutation} (keys : b.keys = p.ids)
    (sym : σ.IsSymmetry p checkValues) : readThrough p.ids b σ = .ok (b.through σ).values := by
  rw [readThrough, sym.mapM_fetch, Bindings.values_through sym.distinct]
  exact Bindings.mapM_fetch fun id member => keys ▸ sym.images.mem_iff.mp member

theorem isFirst_ok {symmetries : List Permutation} (bound : List Int) (keys : b.keys = p.ids)
    (symmetric : ∀ σ ∈ symmetries, σ.IsSymmetry p checkValues) :
    isFirst p.ids b bound symmetries =
      .ok (symmetries.all fun σ => !decide ((b.through σ).values < bound)) := by
  induction symmetries with
  | nil => rfl
  | cons σ rest ih =>
    rw [isFirst, readThrough_ok keys (symmetric σ List.mem_cons_self), List.all_cons]
    show (if (b.through σ).values < bound then _ else _) = _
    split
    · rename_i earlier
      rw [decide_eq_true earlier]
      rfl
    · rename_i later
      rw [decide_eq_false later]
      exact ih fun τ member => symmetric τ (List.mem_cons_of_mem _ member)

theorem accepts_ok (s : Scene) (keys : b.keys = q.pattern.ids) (symmetric : q.Symmetric) :
    accepts q s b = .ok (q.accepts s b) := by
  rw [accepts, edgesHold_ok s keys, Query.accepts]
  cases q.pattern.edgesHold s b with
  | false => rfl
  | true =>
    show (do isFirst q.pattern.ids b (← q.pattern.ids.mapM b.fetch) q.symmetries) = _
    rw [Bindings.mapM_fetch fun id member => keys ▸ member]
    exact isFirst_ok _ keys symmetric

end Query.Checked

/-! ### The search -/

namespace Matcher.Checked

def ofPattern (s : Scene) (pattern : Pattern) (checkValues symmetryBreaking : Bool) :
    Except Lapse Matcher := do
  let symmetries ←
    if symmetryBreaking then Pattern.Checked.symmetries pattern checkValues else pure []
  return { pattern, checkValues, snapshot := s.graph.ids, symmetries := symmetries.drop 1 }

def move (m : Matcher) (s : Scene) : Except Lapse (Option Bindings × Matcher) :=
  if m.cursor < 0 then .ok (none, m.finish)
  else if m.cursor = m.pattern.nodes.length then do
    let accepted ← Query.Checked.accepts m.toQuery s m.bound
    return (if accepted then some m.bound else none, { m with cursor := m.cursor - 1 })
  else
    match m.pattern.nodes[m.cursor.toNat]? with
    | some n => .ok (none, m.tryNode s n)
    | none => .error (.noPatternNode m.cursor)

/-- A move with checks goes where the move without them goes. -/
theorem move_snd {m m' : Matcher} {s : Scene} {found : Option Bindings}
    (moved : move m s = .ok (found, m')) : m' = (m.move s).2 := by
  unfold move at moved
  unfold Matcher.move
  split at moved
  · rename_i before
    rw [if_pos before]
    exact (congrArg Prod.snd (Except.ok.inj moved)).symm
  · rename_i notBefore
    rw [if_neg notBefore]
    split at moved
    · rename_i last
      have beyond : m.pattern.nodes[m.cursor.toNat]? = none :=
        List.getElem?_eq_none_iff.mpr (by omega)
      rw [beyond]
      cases accepted : Query.Checked.accepts m.toQuery s m.bound with
      | error lapse =>
        rw [accepted] at moved
        cases moved
      | ok answer =>
        rw [accepted] at moved
        exact (congrArg Prod.snd (Except.ok.inj moved)).symm
    · cases here : m.pattern.nodes[m.cursor.toNat]? with
      | none =>
        rw [here] at moved
        cases moved
      | some n =>
        rw [here] at moved
        exact (congrArg Prod.snd (Except.ok.inj moved)).symm

def next (m : Matcher) (s : Scene) : Except Lapse (Option Bindings × Matcher) :=
  if m.isEnded then .ok (none, m)
  else
    match _moved : move m s with
    | .error lapse => .error lapse
    | .ok (some b, m) => .ok (some b, m)
    | .ok (none, m) => next m s
termination_by m.work
decreasing_by
  rename_i going
  rw [move_snd _moved]
  exact move_work_lt s (eq_false_of_ne_true going)

theorem next_of_found {m m' : Matcher} {s : Scene} {b : Bindings} (going : ¬m.isEnded = true)
    (moved : move m s = .ok (some b, m')) : next m s = .ok (some b, m') := by
  rw [next, if_neg going]
  split <;> rename_i step <;> rw [moved] at step <;> cases step
  rfl

theorem next_of_none {m m' : Matcher} {s : Scene} (going : ¬m.isEnded = true)
    (moved : move m s = .ok (none, m')) : next m s = next m' s := by
  rw [next, if_neg going]
  split <;> rename_i step <;> rw [moved] at step <;> cases step
  rfl

theorem next_work_lt {m m' : Matcher} {s : Scene} {b : Bindings}
    (h : next m s = .ok (some b, m')) : m'.work < m.work := by
  fun_induction next m s with
  | case1 => cases h
  | case2 => cases h
  | case3 m going b m'' moved =>
    obtain ⟨-, rfl⟩ := Prod.mk.inj (Except.ok.inj h)
    rw [move_snd moved]
    exact move_work_lt s (eq_false_of_ne_true going)
  | case4 m going m'' moved ih =>
    refine Nat.lt_trans (ih h) ?_
    rw [move_snd moved]
    exact move_work_lt s (eq_false_of_ne_true going)

def rest (m : Matcher) (s : Scene) : Except Lapse (List Bindings × Matcher) :=
  match _found : next m s with
  | .error lapse => .error lapse
  | .ok (none, m) => .ok ([], m)
  | .ok (some b, m) => (rest m s).map fun (later, m) => (b :: later, m)
termination_by m.work
decreasing_by exact next_work_lt _found

theorem rest_of_none {m m' : Matcher} {s : Scene} (found : next m s = .ok (none, m')) :
    rest m s = .ok ([], m') := by
  rw [rest]
  split <;> rename_i step <;> rw [found] at step <;> cases step
  rfl

theorem rest_of_found {m m' : Matcher} {s : Scene} {b : Bindings}
    (found : next m s = .ok (some b, m')) :
    rest m s = (rest m' s).map fun (later, m) => (b :: later, m) := by
  rw [rest]
  split <;> rename_i step <;> rw [found] at step <;> cases step
  rfl

def search (s : Scene) (pattern : Pattern) (checkValues symmetryBreaking : Bool) :
    Except Lapse (List Bindings × Matcher) := do
  rest (← ofPattern s pattern checkValues symmetryBreaking) s

/-! ### No lapse in a search -/

variable {m : Matcher} {s : Scene}

theorem ofPattern_ok (s : Scene) (p : Pattern) (checkValues symmetryBreaking : Bool) :
    ofPattern s p checkValues symmetryBreaking =
      .ok (.ofPattern s p checkValues symmetryBreaking) := by
  unfold ofPattern Matcher.ofPattern
  cases symmetryBreaking with
  | false => rfl
  | true =>
    rw [if_pos rfl, if_pos rfl, Pattern.Checked.symmetries_ok]
    rfl

theorem move_ok (h : Searching m) (symmetric : m.Symmetric) : move m s = .ok (m.move s) := by
  unfold move Matcher.move
  split
  · rfl
  · have le := h.cursor_le
    split
    · rename_i last
      have beyond : m.pattern.nodes[m.cursor.toNat]? = none :=
        List.getElem?_eq_none_iff.mpr (by omega)
      rw [Query.Checked.accepts_ok s (keys_of_last h last) symmetric, beyond]
      rfl
    · rename_i notLast
      have within : m.cursor.toNat < m.pattern.nodes.length := by omega
      rw [List.getElem?_eq_getElem within]

theorem next_ok (h : Sound m) (symmetric : m.Symmetric) : next m s = .ok (m.next s) := by
  fun_induction Matcher.next m s with
  | case1 m ended => rw [next, if_pos ended]
  | case2 m going b m' moved =>
    have stepped := move_ok (s := s) (h.resolve_left going) symmetric
    rw [moved] at stepped
    exact next_of_found going stepped
  | case3 m going m' moved ih =>
    have searching := h.resolve_left going
    have stepped := move_ok (s := s) searching symmetric
    have sound := (searching.move s).2
    have query := move_toQuery m s
    rw [moved] at stepped sound query
    rw [next_of_none going stepped]
    refine ih sound ?_
    rwa [Query.Symmetric, query]

/-- The search for all matches that are left finds all it looks up. -/
theorem rest_ok (h : Sound m) (symmetric : m.Symmetric) : rest m s = .ok (m.rest s) := by
  -- Without a limit it does not matter how many matches were taken before.
  suffices taken : ∀ count, rest m s = .ok (takeUntil s (fun _ => false) count m) from taken 0
  intro count
  fun_induction takeUntil s (fun _ => false) count m with
  | case1 count m m' found =>
    have answer := next_ok (s := s) h symmetric
    rw [found] at answer
    exact rest_of_none answer
  | case2 count m b m' found enough => exact absurd enough Bool.false_ne_true
  | case3 count m b m' found _ later m'' taken ih =>
    have answer := next_ok (s := s) h symmetric
    have sound := (h.next s).2.2
    have query := next_toQuery m s
    rw [found] at answer sound query
    have symmetric' : m'.Symmetric := by rwa [Query.Symmetric, query]
    rw [rest_of_found answer, ih sound symmetric', taken]
    rfl

theorem symmetric_ofPattern (s : Scene) (p : Pattern) (checkValues symmetryBreaking : Bool) :
    (Matcher.ofPattern s p checkValues symmetryBreaking).Symmetric := by
  intro σ member
  cases symmetryBreaking with
  | false => exact absurd member List.not_mem_nil
  | true => exact Pattern.mem_symmetries.mp (List.mem_of_mem_drop member)

/-- No search for all matches lapses, from the symmetries of its pattern on. -/
theorem search_ok (s : Scene) (p : Pattern) (checkValues symmetryBreaking : Bool) :
    search s p checkValues symmetryBreaking =
      .ok ((Matcher.ofPattern s p checkValues symmetryBreaking).rest s) := by
  rw [search, ofPattern_ok]
  exact rest_ok (sound_ofPattern s p checkValues symmetryBreaking)
    (symmetric_ofPattern s p checkValues symmetryBreaking)

end Matcher.Checked

end GrowthGrammar
