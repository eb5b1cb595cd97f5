import GrowthGrammar.Proofs.Rule.Account
import GrowthGrammar.Proofs.Scene.Soundness

/-!
Effects: everything that a procedure can do to a sound scene. It fails and changes nothing where one
of its nodes is not bound or not there; a formula of its template may stop it before it has changed
anything; or it does its work to the end.
-/
namespace GrowthGrammar

/-! ### Whole changes of a scene -/

namespace Graph

/-- The neighbours of some nodes that are none of them, each once, in the order in which they are
met. -/
def around (g : Graph) (ids : List Int) : List Int :=
  ((ids.map g.neighborList).flatten.filter fun id => id ∉ ids).eraseDups

end Graph

namespace Scene

/-- Puts edges between a node and others. -/
def joinAll (s : Scene) (id : Int) (others : List Int) : Scene :=
  others.foldl (fun s other => s.mapGraph (·.withEdge (.between id other))) s

/-- Makes a node the child of another, if there is one. -/
def adopt (s : Scene) (child : Int) : Option Int → Scene
  | some parent => s.mapGraph (·.attach child parent)
  | none => s

/-- Adds a node with edges to its neighbours, as a child of the first. -/
def grow (s : Scene) (node : Node) (neighbors : List Int) : Scene :=
  ((s.insert node).2.joinAll (s.insert node).1 neighbors).adopt (s.insert node).1 neighbors.head?

/-- Takes nodes away, all but the survivor, which gets their children. -/
def gather (s : Scene) (ids : List Int) (survivor : Int) : Scene :=
  (ids.filter (· ≠ survivor)).foldl (Procedure.absorb survivor) s

/-- Draws nodes together into one of them. -/
def collapse (s : Scene) (ids : List Int) (survivor : Int) : Scene :=
  (((s.gather ids survivor).joinAll survivor (s.graph.around ids)).adopt survivor
    (Procedure.outerParent? s.graph ids)).mapGraph (·.touchNode survivor)

/-- Gives a node that is there other attributes. -/
def renew (s : Scene) (id : Int) (node : Node) : Scene :=
  ({ s with nodes := s.nodes.put id node } : Scene).mapGraph (·.touchNode id)

end Scene

namespace Procedure

/-- The template that the procedure makes a node from. -/
def template? : Procedure → Option Template
  | .replace _ replacement => some replacement
  | .add _ node => some node
  | _ => none

/-- What a procedure does to the end: with which outcome, which bindings it leaves and which scene.
-/
inductive Does (s : Scene) (b : Bindings) :
    Procedure → Outcome → Bindings → Scene → Prop where
  | delete {target id : Int} : b.live? s target = some id →
      Does s b (.delete target) (.removed [id]) (b.erase target) (s.remove id).2
  | replace {target id : Int} {replacement : Template} (node : Node) :
      b.live? s target = some id →
      Does s b (.replace target replacement) (.modified [id]) b (s.renew id node)
  | add {neighbors ids : List Int} {template : Template} (node : Node) :
      neighbors.map (b.live? s) = ids.map some →
      Does s b (.add neighbors template) (.added [(s.insert node).1]) b (s.grow node ids)
  | merge {targets ids : List Int} {survivor survivorId : Int} :
      (merge targets survivor).references.map (b.live? s) = ids.map some →
      b.get? survivor = some survivorId →
      Does s b (.merge targets survivor) (.removed (ids.filter (· ≠ survivorId)))
        ((((merge targets survivor).references.zip ids).filter fun e => e.2 ≠ survivorId).foldl
          (fun b e => b.erase e.1) b)
        (s.collapse ids survivorId)

/-- How a procedure ends, and the scene it leaves. -/
inductive Ends (s : Scene) (b : Bindings) (p : Procedure) :
    Except PassFault (Outcome × Bindings) → Scene → Prop where
  | failed : p.targetsLive b s = false → Ends s b p (.ok (.failed, b)) s
  | faulted (fault : FormulaFault) : p.targetsLive b s = true → p.template?.isSome = true →
      Ends s b p (.error (.formula fault)) s
  | done {o : Outcome} {b' : Bindings} {t : Scene} : p.targetsLive b s = true →
      Does s b p o b' t → Ends s b p (.ok (o, b')) t

variable {b : Bindings} {s : Scene} {site : Site} {references ids : List Int}

/-! ### Finding the nodes -/

theorem resolve_error {missing : Int} (resolved : resolve s b references = .error missing) :
    missing ∈ references ∧ b.live? s missing = none := by
  induction references with
  | nil => cases resolved
  | cons n rest ih =>
    rw [resolve, List.mapM_cons] at resolved
    cases found : b.live? s n with
    | none =>
      rw [found] at resolved
      cases resolved
      exact ⟨List.mem_cons_self, found⟩
    | some id =>
      rw [found] at resolved
      cases later : resolve s b rest with
      | error other =>
        have tail := later
        rw [resolve] at later
        rw [later] at resolved
        cases resolved
        obtain ⟨member, absent⟩ := ih tail
        exact ⟨List.mem_cons_of_mem _ member, absent⟩
      | ok others =>
        rw [resolve] at later
        rw [later] at resolved
        cases resolved

theorem all_live_of_resolve (resolved : references.map (b.live? s) = ids.map some) :
    (references.all fun n => (b.live? s n).isSome) = true := by
  rw [List.all_eq_true]
  intro n named
  have found : b.live? s n ∈ ids.map some := resolved ▸ List.mem_map_of_mem named
  obtain ⟨id, -, same⟩ := List.mem_map.mp found
  rw [← same]
  rfl

theorem not_all_live {n : Int} (named : n ∈ references) (absent : b.live? s n = none) :
    (references.all fun n => (b.live? s n).isSome) = false := by
  rw [List.all_eq_false]
  refine ⟨n, named, ?_⟩
  rw [absent]
  exact Bool.false_ne_true

theorem survivor_mem_references (targets : List Int) (survivor : Int) :
    survivor ∈ (merge targets survivor).references := by
  show survivor ∈ if survivor ∈ targets.eraseDups then targets.eraseDups
    else targets.eraseDups ++ [survivor]
  split
  · assumption
  · exact List.mem_append_right _ (List.mem_singleton_self _)

/-- Where all nodes of a merge are there, the survivor is bound to one of them. -/
theorem exists_survivor {targets : List Int} {survivor : Int}
    (live : (merge targets survivor).references.map (b.live? s) = ids.map some) :
    ∃ id ∈ ids, b.get? survivor = some id := by
  obtain ⟨id, member, found⟩ :=
    List.mem_map.mp (live ▸ List.mem_map_of_mem (survivor_mem_references targets survivor))
  exact ⟨id, member, (Bindings.live?_eq_some_iff.mp found.symm).1⟩

/-! ### Work that cannot fail -/

open SiteWork

theorem change_bind_run {β : Type} (f : Scene → Scene) (k : Unit → SiteWork β) (site : Site) :
    (change f >>= k).run site = (k ()).run { site with scene := f site.scene } := rfl

theorem insert_bind_run {β : Type} (node : Node) (k : Int → SiteWork β) (site : Site) :
    (insert node >>= k).run site =
      (k (site.scene.insert node).1).run { site with scene := (site.scene.insert node).2 } := rfl

theorem make_run (t : Template) (base : Option Node) (site : Site) :
    (make t base).run site =
      match t.eval base site.source with
      | (.ok node, source) => (.ok node, { site with source })
      | (.error fault, source) => (.error (.formula fault), { site with source }) := by
  unfold make
  rw [Work.run_bind, Work.run_modifyGet]
  cases t.eval base site.source with
  | mk result source => cases result <;> rfl

theorem onScene_run {α : Type} {work : SceneWork α} {a : α} {t : Scene} (site : Site)
    (ran : work.run site.scene = (.ok a, t)) :
    (onScene work).run site = (.ok a, { site with scene := t }) := by
  unfold onScene
  rw [Work.run_bind, Work.run_modifyGet, ran]
  rfl

theorem addEdges_run {id : Int} {others : List Int} (site : Site)
    (here : site.scene.graph.hasNode id = true)
    (there : ∀ other ∈ others, site.scene.graph.hasNode other = true) :
    (others.forM fun other => onScene (Scene.addEdge id other)).run site =
      (.ok ⟨⟩, { site with scene := site.scene.joinAll id others }) := by
  induction others generalizing site with
  | nil => rfl
  | cons other rest ih =>
    have added : (Scene.addEdge id other).run site.scene =
        (.ok (), site.scene.mapGraph (·.withEdge (.between id other))) := by
      rw [Scene.addEdge, Scene.onGraph_run, Graph.addEdge_run, here,
        there other List.mem_cons_self]
      rfl
    -- An edge leaves the nodes, so that the ends of the later ones are still there.
    have nodes (key : Int) : (site.scene.mapGraph (·.withEdge (.between id other))).graph.hasNode
        key = site.scene.graph.hasNode key := by
      show (site.scene.graph.withEdge _).nodes.contains key = _
      rw [Graph.withEdge_nodes]
      rfl
    show (onScene (Scene.addEdge id other) >>= fun _ =>
      rest.forM fun other => onScene (Scene.addEdge id other)).run site = _
    rw [Work.run_bind, onScene_run site added]
    refine ih _ ?_ fun later member => ?_
    · exact (nodes id).trans here
    · exact (nodes later).trans (there later (List.mem_cons_of_mem _ member))

theorem outerNeighbors_eq {g : Graph} (there : ∀ id ∈ ids, g.hasNode id = true) :
    outerNeighbors g ids = .ok (g.around ids) := by
  have known : ids.mapM g.neighbors = .ok (ids.map g.neighborList) :=
    Work.mapM_ok fun id member => if_pos (there id member)
  unfold outerNeighbors
  rw [known]
  rfl

/-! ### Nodes that are absorbed -/

theorem absorb_sound (survivor : Int) (h : s.Sound) (id : Int) : (absorb survivor s id).Sound :=
  Scene.remove_sound (Scene.forest_sound h (s.graph.forest.release id (some survivor))) id

theorem contains_absorb (survivor : Int) (s : Scene) (id key : Int) :
    (absorb survivor s id).contains key = (!decide (id = key) && s.contains key) :=
  Scene.contains_remove (s.mapGraph (·.release id (some survivor))) id key

theorem absorbAll_sound (survivor : Int) (h : s.Sound) (ids : List Int) :
    (ids.foldl (absorb survivor) s).Sound := by
  induction ids generalizing s with
  | nil => exact h
  | cons id rest ih => exact ih (absorb_sound survivor h id)

theorem contains_absorbAll (survivor : Int) (s : Scene) (ids : List Int) (key : Int) :
    (ids.foldl (absorb survivor) s).contains key = (!decide (key ∈ ids) && s.contains key) := by
  induction ids generalizing s with
  | nil => simp
  | cons id rest ih =>
    rw [List.foldl_cons, ih, contains_absorb]
    by_cases here : key = id
    · simp [here]
    · simp [here, Ne.symm here]

/-- The neighbours of nodes that are drawn together are nodes, and are none of them. -/
theorem contains_of_mem_around (h : s.Sound) {other : Int} (member : other ∈ s.graph.around ids) :
    s.contains other = true ∧ other ∉ ids := by
  rw [Graph.around, List.mem_eraseDups, List.mem_filter, List.mem_flatten] at member
  obtain ⟨⟨around, listed, near⟩, outside⟩ := member
  obtain ⟨id, -, rfl⟩ := List.mem_map.mp listed
  have joined := (h.consistent.mem_neighbors id other).mp near
  rw [h.inStep]
  exact ⟨(h.consistent.hasNode_of_hasEdge joined).2, of_decide_eq_true outside⟩

theorem gather_sound (h : s.Sound) (ids : List Int) (survivor : Int) :
    (s.gather ids survivor).Sound := absorbAll_sound survivor h _

theorem contains_gather (s : Scene) (ids : List Int) (survivor key : Int) :
    (s.gather ids survivor).contains key = true ↔
      s.contains key = true ∧ (key ∈ ids → key = survivor) := by
  rw [Scene.gather, contains_absorbAll, Bool.and_eq_true, Bool.not_eq_true',
    decide_eq_false_iff_not, List.mem_filter, not_and, decide_eq_true_eq, not_not, and_comm]

theorem contains_gather_of_around (h : s.Sound) {survivor other : Int}
    (near : other ∈ s.graph.around ids) : (s.gather ids survivor).contains other = true := by
  obtain ⟨known, outside⟩ := contains_of_mem_around h near
  exact (contains_gather s ids survivor other).mpr ⟨known, fun member => absurd member outside⟩

theorem contains_gather_survivor {survivor : Int} (there : s.contains survivor = true) :
    (s.gather ids survivor).contains survivor = true :=
  (contains_gather s ids survivor survivor).mpr ⟨there, fun _ => rfl⟩

/-! ### How procedures end -/

theorem delete_ends (target : Int) :
    Ends site.scene b (.delete target) ((delete? target b).run site).1
      ((delete? target b).run site).2.scene := by
  unfold delete?
  rw [scene_bind_run]
  cases found : b.live? site.scene target with
  | none => exact .failed (not_all_live List.mem_cons_self found)
  | some id =>
    have live : [target].map (b.live? site.scene) = [id].map some := congrArg (· :: []) found
    exact .done (all_live_of_resolve live) (.delete found)

theorem replace_ends (target : Int) (replacement : Template) :
    Ends site.scene b (.replace target replacement) ((replace? target replacement b).run site).1
      ((replace? target replacement b).run site).2.scene := by
  unfold replace?
  rw [scene_bind_run]
  cases found : b.live? site.scene target with
  | none => exact .failed (not_all_live List.mem_cons_self found)
  | some id =>
    have live : [target].map (b.live? site.scene) = [id].map some := congrArg (· :: []) found
    have there := (Bindings.live?_eq_some_iff.mp found).2
    dsimp only
    rw [Work.run_bind, make_run]
    cases replacement.eval (site.scene.node? id) site.source with
    | mk result source =>
      cases result with
      | error fault => exact .faulted fault (all_live_of_resolve live) rfl
      | ok node =>
        have renewed : (Scene.replace id node).run site.scene =
            (.ok (), { site.scene with nodes := site.scene.nodes.put id node }) := by
          rw [Scene.replace_run, if_pos there]
        dsimp only
        rw [Work.run_bind, onScene_run { site with source } renewed]
        exact .done (all_live_of_resolve live) (.replace node found)

/-- An addition whose neighbours are all there and whose template gives a node does all its work. -/
theorem add_run {neighbors : List Int} {template : Template} {node : Node} {source : Source}
    (h : site.scene.Sound) (resolved : resolve site.scene b neighbors = .ok ids)
    (made : template.eval (ids.head?.bind site.scene.node?) site.source = (.ok node, source)) :
    (add? neighbors template b).run site =
      (.ok (.added [(site.scene.insert node).1], b),
        { site with scene := site.scene.grow node ids, source }) := by
  have live := resolve_ok resolved
  let grown : Site := { site with scene := (site.scene.insert node).2, source }
  have sound : grown.scene.Sound := Scene.insert_sound h node
  have here : grown.scene.graph.hasNode (site.scene.insert node).1 = true := by
    rw [← sound.inStep, Scene.contains_insert, decide_eq_true rfl, Bool.true_or]
  have there : ∀ other ∈ ids, grown.scene.graph.hasNode other = true := by
    intro other member
    rw [← sound.inStep, Scene.contains_insert, contains_of_resolve live member, Bool.or_true]
  unfold add?
  rw [scene_bind_run, resolved]
  dsimp only
  rw [Work.run_bind, make_run, made]
  dsimp only
  rw [insert_bind_run, Work.run_bind, addEdges_run grown here there, Scene.grow]
  cases ids.head? <;> rfl

theorem add_ends (neighbors : List Int) (template : Template) (h : site.scene.Sound) :
    Ends site.scene b (.add neighbors template) ((add? neighbors template b).run site).1
      ((add? neighbors template b).run site).2.scene := by
  cases resolved : resolve site.scene b neighbors with
  | error missing =>
    obtain ⟨named, absent⟩ := resolve_error resolved
    unfold add?
    rw [scene_bind_run, resolved]
    exact .failed (not_all_live named absent)
  | ok ids =>
    have live := resolve_ok resolved
    cases made : template.eval (ids.head?.bind site.scene.node?) site.source with
    | mk result source =>
      cases result with
      | error fault =>
        unfold add?
        rw [scene_bind_run, resolved]
        dsimp only
        rw [Work.run_bind, make_run, made]
        exact .faulted fault (all_live_of_resolve live) rfl
      | ok node =>
        rw [add_run h resolved made]
        exact .done (all_live_of_resolve live) (.add node live)

theorem length_of_resolve (live : references.map (b.live? s) = ids.map some) :
    ids.length = references.length := by
  rw [← List.length_map (some : Int → Option Int), ← live, List.length_map]

theorem map_snd_absorbed (live : references.map (b.live? s) = ids.map some) (survivor : Int) :
    ((references.zip ids).filter fun e => e.2 ≠ survivor).map (·.2) =
      ids.filter (· ≠ survivor) := by
  conv => rhs; rw [← List.map_snd_zip (length_of_resolve live).le, List.filter_map]
  rfl

/-- A merge whose nodes are all there draws them together. -/
theorem merge_run {survivor id : Int} (h : site.scene.Sound)
    (resolved : resolve site.scene b references = .ok ids) (bound : b.get? survivor = some id)
    (member : id ∈ ids) :
    (merge? references survivor b).run site =
      (.ok (.removed (ids.filter (· ≠ id)),
          ((references.zip ids).filter fun e => e.2 ≠ id).foldl (fun b e => b.erase e.1) b),
        { site with scene := site.scene.collapse ids id }) := by
  have live := resolve_ok resolved
  have there : ∀ other ∈ ids, site.scene.contains other = true := fun _ => contains_of_resolve live
  have asked : (ask (outerNeighbors site.scene.graph ids) : SiteWork (List Int)).run site =
      (.ok (site.scene.graph.around ids), site) := by
    rw [outerNeighbors_eq fun other member => (h.inStep other).symm.trans (there other member)]
    rfl
  -- The edges are put when the other nodes are gone already, with the survivor and the neighbours
  -- still there.
  let gathered : Site := { site with scene := site.scene.gather ids id }
  have sound : gathered.scene.Sound := gather_sound h ids id
  have here : gathered.scene.graph.hasNode id = true := by
    rw [← sound.inStep]
    exact contains_gather_survivor (there id member)
  have near : ∀ other ∈ site.scene.graph.around ids,
      gathered.scene.graph.hasNode other = true := by
    intro other near
    rw [← sound.inStep]
    exact contains_gather_of_around h near
  have joined : ((site.scene.graph.around ids).forM fun other =>
      onScene (Scene.addEdge id other)).run
        { site with scene := (ids.filter (· ≠ id)).foldl (absorb id) site.scene } = _ :=
    addEdges_run gathered here near
  unfold merge?
  rw [scene_bind_run, resolved, bound]
  dsimp only
  rw [Work.run_bind, asked]
  dsimp only
  rw [change_bind_run, map_snd_absorbed live, Work.run_bind, joined, Scene.collapse]
  cases outerParent? site.scene.graph ids <;> rfl

theorem merge_ends (targets : List Int) (survivor : Int) (h : site.scene.Sound) :
    Ends site.scene b (.merge targets survivor)
      ((merge? (merge targets survivor).references survivor b).run site).1
      ((merge? (merge targets survivor).references survivor b).run site).2.scene := by
  cases resolved : resolve site.scene b (merge targets survivor).references with
  | error missing =>
    obtain ⟨named, absent⟩ := resolve_error resolved
    unfold merge?
    rw [scene_bind_run, resolved]
    exact .failed (not_all_live named absent)
  | ok ids =>
    have live := resolve_ok resolved
    obtain ⟨id, member, bound⟩ := exists_survivor live
    rw [merge_run h resolved bound member]
    exact .done (all_live_of_resolve live) (.merge live bound)

theorem apply_ends (p : Procedure) (b : Bindings) (h : site.scene.Sound) :
    Ends site.scene b p ((p.apply b).run site).1 ((p.apply b).run site).2.scene := by
  cases p with
  | delete target => exact delete_ends target
  | replace target replacement => exact replace_ends target replacement
  | add neighbors node => exact add_ends neighbors node h
  | merge targets survivor => exact merge_ends targets survivor h

end Procedure

end GrowthGrammar
