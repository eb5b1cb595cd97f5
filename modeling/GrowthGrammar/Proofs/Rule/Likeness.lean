import GrowthGrammar.Proofs.Rule.Keeping

/-!
Likeness: two scenes that differ in their clocks and stamps alone. Nothing that is found in one of
them is missed in the other. Putting things as they are leaves a scene like the one before.
-/
namespace GrowthGrammar

/-- Writing an entry that is there already changes nothing. -/
theorem Table.insert_of_get? {κ α : Type} [DecidableEq κ] [Key κ] {t : Table κ α} {k : κ} {v : α}
    (found : t.get? k = some v) : t.insert k v = t := by
  obtain ⟨entries, ordered⟩ := t
  apply Table.ext_entries
  show insertEntry k v entries = entries
  unfold get? at found
  dsimp only at found
  induction entries with
  | nil => cases found
  | cons head rest ih =>
    obtain ⟨first, later⟩ := List.pairwise_cons.mp ordered
    obtain ⟨key, value⟩ := head
    by_cases here : key = k
    · subst here
      rw [List.find?_cons_of_pos (by simp)] at found
      obtain rfl := Option.some.inj found
      rw [insertEntry, if_neg (ne_true_of_eq_false (Key.irrefl key)), if_pos rfl]
    · rw [List.find?_cons_of_neg (by simpa using here)] at found
      -- The key comes later, so it is not put before the head.
      have ahead : Key.before key k = true := by
        obtain ⟨entry, member, -⟩ := Option.map_eq_some_iff.mp found
        have same : entry.1 = k := by simpa using List.find?_some member
        exact same ▸ first entry (List.mem_of_find?_eq_some member)
      have behind : ¬Key.before k key = true := fun before =>
        Bool.noConfusion ((Key.irrefl key).symm.trans (Key.trans ahead before))
      rw [insertEntry, if_neg behind, if_neg (Ne.symm here), ih later found]

theorem Forest.Coherent.attach_self {f : Forest} (h : f.Coherent) {child parent : Int}
    (step : f.parent? child = some parent) : f.attach child parent = f := by
  have member := (h.mem_childrenOf child parent).mpr step
  unfold childrenOf at member
  cases bearing : f.children.get? parent with
  | none =>
    rw [bearing] at member
    exact absurd member List.not_mem_nil
  | some set =>
    rw [bearing] at member
    obtain ⟨⟨⟩, stored⟩ := Table.contains_iff.mp (Table.mem_keys.mp member)
    have parents : f.parents.insert child parent = f.parents := Table.insert_of_get? step
    unfold attach
    rw [step]
    dsimp only
    rw [if_pos rfl, bearing, Option.getD_some, Table.insert_of_get? stored,
      Table.insert_of_get? bearing, parents]

namespace Scene

/-- All is the same but for clocks and stamps. -/
structure Alike (s t : Scene) : Prop where
  attributes : t.nodes = s.nodes
  nodes : t.graph.nodes = s.graph.nodes
  edges : t.graph.edges = s.graph.edges
  adjacency : t.graph.adjacency = s.graph.adjacency
  forest : t.graph.forest = s.graph.forest
  nextId : t.graph.nextId = s.graph.nextId

variable {s t u : Scene}

theorem Alike.refl (s : Scene) : Alike s s := ⟨rfl, rfl, rfl, rfl, rfl, rfl⟩

theorem Alike.symm (h : Alike s t) : Alike t s :=
  ⟨h.attributes.symm, h.nodes.symm, h.edges.symm, h.adjacency.symm, h.forest.symm, h.nextId.symm⟩

theorem Alike.trans (h : Alike s t) (h' : Alike t u) : Alike s u where
  attributes := h'.attributes.trans h.attributes
  nodes := h'.nodes.trans h.nodes
  edges := h'.edges.trans h.edges
  adjacency := h'.adjacency.trans h.adjacency
  forest := h'.forest.trans h.forest
  nextId := h'.nextId.trans h.nextId

/-! ### What is found in scenes that are alike -/

theorem Alike.contains (h : Alike s t) (id : Int) : t.contains id = s.contains id := by
  unfold Scene.contains
  rw [h.attributes]

theorem Alike.order (h : Alike s t) : t.order = s.order := by
  unfold Scene.order Graph.order
  rw [h.nodes]

theorem Alike.live? (h : Alike s t) (b : Bindings) (n : Int) : b.live? t n = b.live? s n := by
  unfold Bindings.live?
  congr 1
  funext id
  exact h.contains id

theorem Alike.targetsLive (h : Alike s t) (p : Procedure) (b : Bindings) :
    p.targetsLive b t = p.targetsLive b s := by
  unfold Procedure.targetsLive
  simp only [h.live?]

theorem Alike.isStale (h : Alike s t) (r : Rule) (b : Bindings) : r.isStale t b = r.isStale s b := by
  unfold Rule.isStale
  simp only [h.targetsLive]

theorem Alike.occurrences (h : Alike s t) (p : Pattern) (checkValues : Bool) :
    p.occurrences t checkValues = p.occurrences s checkValues := by
  have node? : t.node? = s.node? := by
    unfold Scene.node?
    rw [h.attributes]
  have hasEdge : t.graph.hasEdge = s.graph.hasEdge := by
    unfold Graph.hasEdge
    rw [h.edges]
  unfold Pattern.occurrences Bindings.satisfies Pattern.edgesHold Graph.ids
  rw [h.nodes, node?, hasEdge]

/-- Where all matches are kept, the same are found. -/
theorem Alike.kept (h : Alike s t) (r : Rule) :
    r.kept (fun _ _ => true) t = r.kept (fun _ _ => true) s := by
  rw [Rule.kept_eq, Rule.kept_eq, h.occurrences]
  rfl

/-! ### Putting things as they are -/

theorem touchNode_alike (s : Scene) (id : Int) : Alike s (s.mapGraph (·.touchNode id)) := by
  constructor <;> unfold mapGraph Graph.touchNode <;> dsimp only <;> split <;> rfl

theorem advance_alike (s : Scene) : Alike s (s.mapGraph Graph.advance) := by
  constructor <;> unfold mapGraph Graph.advance <;> dsimp only <;> split <;> rfl

theorem withEdge_alike {e : Edge} (stored : s.graph.edges.contains e = true) :
    Alike s (s.mapGraph (·.withEdge e)) := by
  have same : s.mapGraph (·.withEdge e) = s.mapGraph (·.stampEdge e) := by
    show { s with graph := s.graph.withEdge e } = _
    rw [Graph.withEdge, if_pos stored]
    rfl
  rw [same]
  exact ⟨rfl, rfl, rfl, rfl, rfl, rfl⟩

theorem joinAll_alike {id : Int} {others : List Int}
    (joined : ∀ other ∈ others, s.graph.hasEdge id other = true) :
    Alike s (s.joinAll id others) := by
  induction others generalizing s with
  | nil => exact .refl s
  | cons other rest ih =>
    have first : Alike s (s.mapGraph (·.withEdge (.between id other))) :=
      withEdge_alike (joined other List.mem_cons_self)
    refine first.trans (ih fun later member => ?_)
    show (s.mapGraph _).graph.edges.contains _ = true
    rw [first.edges]
    exact joined later (List.mem_cons_of_mem _ member)

theorem adopt_alike (h : s.graph.forest.Coherent) {child : Int} {parent : Option Int}
    (step : ∀ above, parent = some above → s.graph.forest.parent? child = some above) :
    Alike s (s.adopt child parent) := by
  cases parent with
  | none => exact .refl s
  | some above =>
    have same : s.graph.forest.attach child above = s.graph.forest :=
      h.attach_self (step above rfl)
    exact ⟨rfl, rfl, rfl, rfl, same, rfl⟩

/-- A node that is drawn into itself alone keeps its edges and its parent. -/
theorem collapse_alike (h : s.Planted) (id : Int) : Alike s (s.collapse [id] id) := by
  have gathered : s.gather [id] id = s := by
    rw [gather, List.filter_cons_of_neg (by simp)]
    rfl
  have joined : Alike s (s.joinAll id (s.graph.around [id])) := by
    refine joinAll_alike fun other near => ?_
    rw [Graph.around, List.mem_eraseDups, List.mem_filter] at near
    obtain ⟨listed, -⟩ := near
    rw [List.map_singleton, List.flatten_singleton] at listed
    exact (h.consistent.mem_neighbors id other).mp listed
  have adopted : Alike (s.joinAll id (s.graph.around [id]))
      ((s.joinAll id (s.graph.around [id])).adopt id (Procedure.outerParent? s.graph [id])) := by
    refine adopt_alike (joined.forest ▸ h.coherent) fun above found => ?_
    obtain ⟨-, child, member, step⟩ := Procedure.outerParent?_eq_some found
    rw [joined.forest, ← List.mem_singleton.mp member]
    exact step
  unfold collapse
  rw [gathered]
  exact (joined.trans adopted).trans (touchNode_alike _ id)

end Scene

end GrowthGrammar
