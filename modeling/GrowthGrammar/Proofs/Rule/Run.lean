import GrowthGrammar.Proofs.Rule.Keeping

/-!
Runs: edits, passes and ticks, one after the other from the empty scene on. What is refused, and a
pass that stops at a fault, leaves a scene like all others, and the run goes on with it.
-/
namespace GrowthGrammar.Scene

/-- A change of a scene from outside of passes. The formulas of a procedure draw from a source. -/
inductive Edit where
  | insert (node : Node)
  | insertAt (id : Int) (node : Node)
  | remove (id : Int)
  | replace (id : Int) (node : Node)
  | addEdge (a b : Int)
  | apply (p : Procedure) (b : Bindings) (source : Source)

inductive Operation where
  | edit (e : Edit)
  | pass (r : Rule) (keeps : Scene → Bindings → Bool) (source : Source)
  | passes (rules : List Rule) (skipDirty : Bool) (streams : Option Streams)
  | advance

/-- The scene that the edit leaves, be it done or refused. -/
def Edit.after (e : Edit) (s : Scene) : Scene :=
  match e with
  | .insert node => (s.insert node).2
  | .insertAt id node => ((Scene.insertAt id node).run s).2
  | .remove id => (s.remove id).2
  | .replace id node => ((Scene.replace id node).run s).2
  | .addEdge a b => ((Scene.addEdge a b).run s).2
  | .apply p b source => ((p.apply b).run ⟨s, source, []⟩).2.scene

/-- The scene that the operation leaves, be it done, refused or stopped at a fault. -/
def Operation.after (op : Operation) (s : Scene) : Scene :=
  match op with
  | .edit e => e.after s
  | .pass r keeps source => ((r.applyWhere keeps).run ⟨s, source, []⟩).2.scene
  | .passes rules skipDirty streams =>
    ((Rule.runAll skipDirty {} rules).run ⟨s, streams, []⟩).2.scene
  | .advance => s.mapGraph Graph.advance

def run (s : Scene) (ops : List Operation) : Scene := ops.foldl (fun s op => op.after s) s

/-! ### Single edits -/

/-- What an edit leaves of a sound scene. -/
inductive Edit.Leaves (s : Scene) : Edit → Scene → Prop where
  | insert (node : Node) : Leaves s (.insert node) (s.insert node).2
  | insertAt {id : Int} (node : Node) : s.graph.hasNode id = false →
      Leaves s (.insertAt id node) ⟨s.graph.place id, s.nodes.put id node⟩
  | remove (id : Int) : Leaves s (.remove id) (s.remove id).2
  | replace {id : Int} (node : Node) : s.contains id = true →
      Leaves s (.replace id node) { s with nodes := s.nodes.put id node }
  | addEdge {a b : Int} : s.contains a = true → s.contains b = true →
      Leaves s (.addEdge a b) (s.mapGraph (·.withEdge (.between a b)))
  | apply {p : Procedure} {b : Bindings} {answer : Except PassFault (Outcome × Bindings)}
      {t : Scene} (source : Source) : Procedure.Ends s b p answer t →
      Leaves s (.apply p b source) t
  | refused {e : Edit} : (∀ p b source, e ≠ .apply p b source) → Leaves s e s

variable {s t : Scene}

theorem after_leaves (e : Edit) (h : s.Sound) : e.Leaves s (e.after s) := by
  cases e with
  | insert node => exact .insert node
  | insertAt id node =>
    rw [Edit.after, insertAt_run]
    split
    · exact .refused fun _ _ _ => Edit.noConfusion
    · rename_i free
      exact .insertAt node (eq_false_of_ne_true free)
  | remove id => exact .remove id
  | replace id node =>
    rw [Edit.after, replace_run]
    split
    · rename_i there
      exact .replace node there
    · exact .refused fun _ _ _ => Edit.noConfusion
  | addEdge a b =>
    rw [Edit.after, Scene.addEdge, onGraph_run, Graph.addEdge_run]
    cases first : s.graph.hasNode a with
    | false => exact .refused fun _ _ _ => Edit.noConfusion
    | true =>
      cases second : s.graph.hasNode b with
      | false => exact .refused fun _ _ _ => Edit.noConfusion
      | true => exact .addEdge ((h.inStep a).trans first) ((h.inStep b).trans second)
  | apply p b source =>
    have ends := @Procedure.apply_ends ⟨s, source, []⟩ p b h
    exact .apply source ends

theorem after_edit_planted (e : Edit) (h : s.Planted) : (e.after s).Planted := by
  have leaves := after_leaves e h.toSound
  generalize e.after s = t at leaves ⊢
  cases leaves with
  | insert node => exact insert_planted h node
  | insertAt node free => exact place_planted h free node
  | remove id => exact remove_planted h id
  | replace node there => exact put_planted h there node
  | addEdge first second => exact withEdge_planted h first second
  | apply source ends =>
    cases ends with
    | failed _ => exact h
    | faulted _ _ _ => exact h
    | done _ does => exact does.planted h
  | refused _ => exact h

/-! ### Whole runs -/

/-- What edits and ticks keep, passes keep as well if procedures do. -/
theorem after_keeps {P : Scene → Prop} (kept : Kept P) {op : Operation}
    (edit : ∀ e, op = .edit e → P (e.after s)) (tick : P (s.mapGraph Graph.advance)) (h : P s) :
    P (op.after s) := by
  cases op with
  | edit e => exact edit e rfl
  | pass r keeps source => exact kept.applyWhere r keeps ⟨s, source, []⟩ h
  | passes rules skipDirty streams => exact kept.runAll skipDirty {} rules ⟨s, streams, []⟩ h
  | advance => exact tick

theorem run_keeps {P : Scene → Prop} {ops : List Operation}
    (step : ∀ s, ∀ op ∈ ops, P s → P (op.after s)) (start : P s) : P (s.run ops) := by
  induction ops generalizing s with
  | nil => exact start
  | cons op rest ih =>
    refine ih (fun s op member => step s op (List.mem_cons_of_mem _ member)) ?_
    exact step s op List.mem_cons_self start

theorem run_planted (ops : List Operation) (h : s.Planted) : (s.run ops).Planted :=
  run_keeps (fun _ _ _ h =>
    after_keeps planted_kept (fun e _ => after_edit_planted e h) (advance_planted h) h) h

/-! ### The forest of a run -/

/-- The ids that occur in a forest, those of children and of parents, on either side. -/
def Names (s : Scene) (id : Int) : Prop :=
  id ∈ s.graph.forest.parents.keys ∨ (∃ child, s.graph.forest.parent? child = some id) ∨
    id ∈ s.graph.forest.children.keys ∨ ∃ parent, id ∈ s.graph.forest.childrenOf parent

theorem Planted.contains_of_names (h : s.Planted) {id : Int} (named : s.Names id) :
    s.contains id = true := by
  obtain grown | ⟨child, step⟩ | bearing | ⟨parent, member⟩ := named
  · obtain ⟨parent, step⟩ := Table.contains_iff.mp (Table.mem_keys.mp grown)
    exact (h.live id parent step).1
  · exact (h.live child id step).2
  · obtain ⟨set, found⟩ := Table.contains_iff.mp (Table.mem_keys.mp bearing)
    have nonempty := h.coherent.children_nonempty id set found
    rw [Table.isEmpty, List.isEmpty_eq_false_iff_exists_mem] at nonempty
    obtain ⟨e, stored⟩ := nonempty
    have member : e.1 ∈ s.graph.forest.childrenOf id := by
      rw [Forest.childrenOf, found]
      exact List.mem_map_of_mem stored
    exact (h.live e.1 id ((h.coherent.mem_childrenOf e.1 id).mp member)).2
  · exact (h.live id parent ((h.coherent.mem_childrenOf id parent).mp member)).1

/-- Whatever is done from the empty scene on, with passes that end and passes that stop at a fault,
attributes are there for exactly the nodes of the graph. The two sides of the forest agree, no empty
set of children is kept, no node is its own parent, and only nodes that are there are named. -/
theorem run_overlay (ops : List Operation) :
    (∀ id, id ∈ (empty.run ops).nodes.keys ↔ id ∈ (empty.run ops).graph.ids) ∧
    (∀ child parent, (empty.run ops).graph.forest.parent? child = some parent ↔
      child ∈ (empty.run ops).graph.forest.childrenOf parent) ∧
    (∀ parent set, (empty.run ops).graph.forest.children.get? parent = some set →
      set.isEmpty = false) ∧
    (∀ id, (empty.run ops).graph.forest.parent? id ≠ some id) ∧
    (∀ id, (empty.run ops).Names id →
      id ∈ (empty.run ops).nodes.keys ∧ id ∈ (empty.run ops).graph.ids) := by
  have planted := run_planted ops empty_planted
  have same (id : Int) : id ∈ (empty.run ops).nodes.keys ↔ id ∈ (empty.run ops).graph.ids := by
    rw [← Catalog.contains_iff, Graph.mem_ids, ← planted.inStep]
    rfl
  refine ⟨same, fun child parent => (planted.coherent.mem_childrenOf child parent).symm,
    planted.coherent.children_nonempty, planted.parent_ne, fun id named => ?_⟩
  have there := Catalog.contains_iff.mp (planted.contains_of_names named)
  exact ⟨there, (same id).mp there⟩

/-! ### Ids of the caller's choice -/

def Operation.chosen? : Operation → Option Int
  | .edit (.insertAt id _) => some id
  | _ => none

/-- The counter has passed all ids in use but for some that are known. -/
structure Counted (known : Int → Prop) (s : Scene) : Prop extends Sound s where
  counted : ∀ id, s.contains id = true → id < s.graph.nextId ∨ known id

variable {known : Int → Prop}

/-- New ids come from a counter that never goes back. -/
theorem Counted.of_counter (h : Counted known s) (sound : t.Sound)
    (onward : s.graph.nextId ≤ t.graph.nextId)
    (given : ∀ id, t.contains id = true → s.contains id = true ∨ id < t.graph.nextId) :
    Counted known t := by
  refine { sound with counted := fun id there => ?_ }
  rcases given id there with before | below
  · exact (h.counted id before).imp_left fun below => Int.lt_of_lt_of_le below onward
  · exact .inl below

theorem Counted.of_sameNodes (h : Counted known s) (sound : t.Sound) (same : SameNodes s t) :
    Counted known t :=
  h.of_counter sound (Int.le_of_eq same.nextId.symm) fun id there =>
    .inl ((same.contains id).symm.trans there)

theorem Counted.does (h : Counted known s) {p : Procedure} {b b' : Bindings} {o : Outcome}
    (does : Procedure.Does s b p o b' t) : Counted known t := by
  obtain ⟨onward, fresh⟩ := does.nextId
  refine h.of_counter (does.sound h.toSound) onward fun id there => ?_
  exact ((does.contains id).mp there).imp And.left (fresh id)

theorem counted_kept (known : Int → Prop) : Kept (Counted known) :=
  ⟨fun _ h => h.toSound, fun _ _ _ _ _ _ h does => h.does does⟩

theorem after_edit_counted (e : Edit) (h : Counted known s)
    (chosen : ∀ id, (Operation.edit e).chosen? = some id → known id) :
    Counted known (e.after s) := by
  have leaves := after_leaves e h.toSound
  generalize e.after s = t at leaves ⊢
  cases leaves with
  | insert node =>
    have balance := insert_balance h.inStep node
    refine h.of_counter (insert_sound h.toSound node) balance.nextId_le fun id there => ?_
    rw [contains_insert, Bool.or_eq_true, decide_eq_true_eq] at there
    refine there.symm.imp_right ?_
    rintro rfl
    exact (balance.fresh _ (List.mem_singleton_self _)).2
  | @insertAt id node free =>
    -- This is the one edit whose id the counter does not come to know.
    refine { place_sound h.toSound free node with counted := fun key there => ?_ }
    have before : id = key ∨ s.contains key = true := by
      have known := (Catalog.contains_put s.nodes id key node).symm.trans there
      rwa [Bool.or_eq_true, decide_eq_true_eq] at known
    rcases before with rfl | before
    · exact .inr (chosen id rfl)
    · exact h.counted key before
  | remove id =>
    refine h.of_counter (remove_sound h.toSound id)
      (Int.le_of_eq (s.graph.removeNode_nextId id).symm) fun key there => .inl ?_
    rw [contains_remove, Bool.and_eq_true] at there
    exact there.2
  | @replace id node there =>
    have same := replace_sameNodes s id node
    rw [replace_run, if_pos there] at same
    exact h.of_sameNodes (put_sound h.toSound there node) same
  | addEdge first second =>
    exact h.of_sameNodes (withEdge_sound h.toSound first second)
      (mapGraph_sameNodes (Graph.withEdge_nodes ..) (Graph.withEdge_nextId ..))
  | apply source ends =>
    cases ends with
    | failed _ => exact h
    | faulted _ _ _ => exact h
    | done _ does => exact h.does does
  | refused _ => exact h

/-- The counter has passed all ids but those that the caller has chosen. -/
theorem run_counted (ops : List Operation) :
    Counted (fun id => ∃ op ∈ ops, op.chosen? = some id) (empty.run ops) := by
  refine run_keeps (fun s op member h => ?_)
    { empty_sound with counted := fun _ there => Bool.noConfusion there }
  refine after_keeps (counted_kept _) (fun e same => ?_) ?_ h
  · refine after_edit_counted e h fun id chosen => ?_
    exact ⟨op, member, same ▸ chosen⟩
  · refine h.of_sameNodes (mapGraph_sound h.toSound (Graph.advance_consistent h.consistent)
      s.graph.advance_nodes) ?_
    exact mapGraph_sameNodes s.graph.advance_nodes s.graph.advance_nextId

/-- A scene that has come about so that no id in use is of the caller's choice. -/
def Unchosen (s : Scene) : Prop := ∃ ops : List Operation, s = empty.run ops ∧
  ∀ op ∈ ops, ∀ id, op.chosen? = some id → s.contains id = false

theorem Unchosen.covered (h : s.Unchosen) : s.Covered := by
  obtain ⟨ops, rfl, unused⟩ := h
  intro id there
  refine ((run_counted ops).counted id there).resolve_right ?_
  rintro ⟨op, member, chosen⟩
  exact Bool.noConfusion ((unused op member id chosen).symm.trans there)

end GrowthGrammar.Scene
