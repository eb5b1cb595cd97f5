import GrowthGrammar.Proofs.Rule.Keeping
import GrowthGrammar.Proofs.Search.Checked

/-!
Checked procedures: procedures with every lookup as one that may lapse. In a sound scene a procedure
with checks follows the one without them from step to step, whatever the bindings are.
-/
namespace GrowthGrammar

/-- Why checked work stops: a formula has a fault, a rule has no stream, or something is missing. -/
inductive Stop where
  | formula (fault : FormulaFault)
  | ruleId (fault : RuleIdFault)
  | lapse (lapse : Lapse)

def PassFault.stop : PassFault → Stop
  | .formula fault => .formula fault
  | .ruleId fault => .ruleId fault
  | .graph fault => .lapse (.refused fault)

abbrev CheckedWork (α : Type) := ExceptT Stop (StateM Site) α

namespace CheckedWork

variable {α β : Type}

/-- Work that looks nothing up. -/
def plain (w : SiteWork α) : CheckedWork α := fun site =>
  ((w.run site).1.mapError PassFault.stop, (w.run site).2)

def ask : Except Lapse α → CheckedWork α
  | .ok a => pure a
  | .error lapse => throw (.lapse lapse)

def scene : CheckedWork Scene := plain SiteWork.scene

def note (n : Note) : CheckedWork Unit := plain (SiteWork.note n)

def make (t : Template) (base : Option Node) : CheckedWork Node := plain (SiteWork.make t base)

def change (f : Scene → Except Lapse Scene) : CheckedWork Unit := do
  let s ← ask (f (← scene))
  plain (SiteWork.change fun _ => s)

def insert (node : Node) : CheckedWork Int := do
  let (id, s) ← ask (Scene.Checked.insert (← scene) node)
  plain (SiteWork.change fun _ => s)
  return id

/-! ### Following -/

/-- Checked work does on a site what the plain work does there, and ends in the same way. -/
def Follows (checked : CheckedWork α) (w : SiteWork α) (site : Site) : Prop :=
  checked.run site = (plain w).run site

variable {checked : CheckedWork α} {w : SiteWork α} {f : α → CheckedWork β} {g : α → SiteWork β}
  {site t : Site} {answer : Except PassFault α}

theorem plain_follows (w : SiteWork α) (site : Site) : Follows (plain w) w site := rfl

theorem plain_run (ran : w.run site = (answer, t)) :
    (plain w).run site = (answer.mapError PassFault.stop, t) := by
  show ((w.run site).1.mapError PassFault.stop, (w.run site).2) = _
  rw [ran]

theorem Follows.bind (first : Follows checked w site)
    (second : ∀ a t, w.run site = (.ok a, t) → Follows (f a) (g a) t) :
    Follows (checked >>= f) (w >>= g) site := by
  unfold Follows at first second ⊢
  rw [Work.run_bind, first]
  cases ran : w.run site with
  | mk answer t =>
    have both := Work.run_bind w g site
    rw [ran] at both
    rw [plain_run ran]
    cases answer with
    | error fault => exact (plain_run both).symm
    | ok a => exact (second a t ran).trans (plain_run both).symm

/-- Both kinds of work begin by looking at the scene. -/
theorem follows_scene_bind {f : Scene → CheckedWork β} {g : Scene → SiteWork β}
    (rest : Follows (f site.scene) (g site.scene) site) :
    Follows (scene >>= f) (SiteWork.scene >>= g) site := rest

theorem follows_ask_bind {γ : Type} {answer : Except Lapse γ} {c : γ} {f : γ → CheckedWork β}
    {w : SiteWork β} (known : answer = .ok c) (rest : Follows (f c) w site) :
    Follows (ask answer >>= f) w site := by
  rw [known]
  exact rest

theorem follows_ask {γ : Type} {answer : Except Lapse γ} {plainAnswer : Except GraphFault γ} {c : γ}
    (known : answer = .ok c) (plainly : plainAnswer = .ok c) :
    Follows (ask answer) (SiteWork.ask plainAnswer) site := by
  rw [known, plainly]
  rfl

theorem change_follows {f : Scene → Except Lapse Scene} {plainly : Scene → Scene}
    (known : f site.scene = .ok (plainly site.scene)) :
    Follows (change f) (SiteWork.change plainly) site := by
  refine follows_ask_bind (c := plainly site.scene) known ?_
  rfl

theorem insert_follows (node : Node) (site : Site) :
    Follows (insert node) (SiteWork.insert node) site :=
  follows_ask_bind (Scene.Checked.insert_ok site.scene node) rfl

theorem follows_onScene {work : SceneWork Unit} {f : Scene → Except Lapse Scene} {s : Scene}
    (ran : work.run site.scene = (.ok (), s)) (known : f site.scene = .ok s) :
    Follows (change f) (SiteWork.onScene work) site := by
  show Follows (ask (f site.scene) >>= fun s => plain (SiteWork.change fun _ => s)) _ site
  refine follows_ask_bind known ?_
  rw [Follows, plain_run (Procedure.onScene_run site ran)]
  rfl

/-- Edges from a node to others lapse nowhere if all of them are there. -/
theorem addEdges_follows {id : Int} {others : List Int} (h : site.scene.Sound)
    (here : site.scene.contains id = true)
    (there : ∀ other ∈ others, site.scene.contains other = true) :
    Follows (others.forM fun other => change fun s => Scene.Checked.addEdge s id other)
      (others.forM fun other => SiteWork.onScene (Scene.addEdge id other)) site := by
  induction others generalizing site with
  | nil => rfl
  | cons other rest ih =>
    have near := there other List.mem_cons_self
    have added : (Scene.addEdge id other).run site.scene =
        (.ok (), site.scene.mapGraph (·.withEdge (.between id other))) := by
      rw [Scene.addEdge, Scene.onGraph_run, Graph.addEdge_run, ← h.inStep, ← h.inStep, here, near]
      rfl
    refine Follows.bind (follows_onScene added (Scene.Checked.addEdge_ok h here near)) ?_
    intro _ t ran
    rw [Procedure.onScene_run site added] at ran
    cases ran
    exact ih (Scene.withEdge_sound h here near) here fun later member =>
      there later (List.mem_cons_of_mem _ member)

end CheckedWork

namespace Procedure.Checked

open CheckedWork

/-! ### Procedures with checks -/

def delete (target : Int) (b : Bindings) : CheckedWork (Outcome × Bindings) := do
  match b.live? (← scene) target with
  | none =>
    note (.unbound "Delete" target b)
    return (.failed, b)
  | some id =>
    change fun s => Scene.Checked.remove s id
    return (.removed [id], ← ask (b.free target))

def replace (target : Int) (replacement : Template) (b : Bindings) :
    CheckedWork (Outcome × Bindings) := do
  let s ← scene
  match b.live? s target with
  | none =>
    note (.unbound "Replace" target b)
    return (.failed, b)
  | some id =>
    let base ← ask (Scene.Checked.attributes s id)
    let node ← make replacement (some base)
    change fun s => Scene.Checked.replace s id node
    plain (SiteWork.change fun s => s.mapGraph (·.touchNode id))
    return (.modified [id], b)

/-- The attributes of the first of some nodes, if there is one. -/
def baseOf (s : Scene) : List Int → Except Lapse (Option Node)
  | [] => .ok none
  | id :: _ => (Scene.Checked.attributes s id).map some

def add (neighbors : List Int) (template : Template) (b : Bindings) :
    CheckedWork (Outcome × Bindings) := do
  let s ← scene
  match resolve s b neighbors with
  | .error patternId =>
    note (.noNeighbor patternId b)
    return (.failed, b)
  | .ok ids =>
    let base ← ask (baseOf s ids)
    let node ← make template base
    let id ← insert node
    ids.forM fun neighbor => change fun s => Scene.Checked.addEdge s id neighbor
    if let some parent := ids.head? then
      plain (SiteWork.change fun s => s.mapGraph (·.attach id parent))
    return (.added [id], b)

def outerNeighbors (g : Graph) (ids : List Int) : Except Lapse (List Int) := do
  let around ← ids.mapM (Graph.Checked.neighbors g)
  return (around.flatten.filter fun id => id ∉ ids).eraseDups

def absorb (survivor : Int) (s : Scene) (id : Int) : Except Lapse Scene :=
  Scene.Checked.remove (s.mapGraph (·.release id (some survivor))) id

def merge (references : List Int) (survivor : Int) (b : Bindings) :
    CheckedWork (Outcome × Bindings) := do
  let s ← scene
  match resolve s b references with
  | .error patternId =>
    note (.unbound "Merge" patternId b)
    return (.failed, b)
  | .ok ids =>
    let survivorId ← ask (b.fetch survivor)
    let neighbors ← ask (outerNeighbors s.graph ids)
    let parent := outerParent? s.graph ids
    let absorbed := (references.zip ids).filter fun (_, id) => id ≠ survivorId
    let removed := absorbed.map (·.2)
    change fun s => removed.foldlM (absorb survivorId) s
    neighbors.forM fun neighbor => change fun s => Scene.Checked.addEdge s survivorId neighbor
    if let some parent := parent then
      plain (SiteWork.change fun s => s.mapGraph (·.attach survivorId parent))
    plain (SiteWork.change fun s => s.mapGraph (·.touchNode survivorId))
    return (.removed removed, absorbed.foldl (fun b (patternId, _) => b.erase patternId) b)

def apply (p : Procedure) (b : Bindings) : CheckedWork (Outcome × Bindings) :=
  match p with
  | .delete target => delete target b
  | .replace target replacement => replace target replacement b
  | .add neighbors template => add neighbors template b
  | .merge _ survivor => merge p.references survivor b

/-! ### Each follows the procedure without checks -/

variable {b : Bindings} {s : Scene} {site t : Site} {references ids : List Int}

theorem mem_keys_of_live {patternId id : Int} (found : b.live? s patternId = some id) :
    patternId ∈ b.keys := by
  have bound := (Bindings.live?_eq_some_iff.mp found).1
  exact List.mem_map_of_mem (Catalog.get?_eq_some_iff.mp bound)

theorem scene_of_make {template : Template} {base : Option Node} {node : Node}
    (made : (SiteWork.make template base).run site = (.ok node, t)) : t.scene = site.scene := by
  rw [make_run] at made
  split at made <;> cases made
  rfl

theorem delete_follows (target : Int) (h : site.scene.Sound) :
    Follows (delete target b) (delete? target b) site := by
  refine follows_scene_bind ?_
  cases found : b.live? site.scene target with
  | none => exact (plain_follows _ _).bind fun _ _ _ => rfl
  | some id =>
    refine (change_follows (Scene.Checked.remove_ok h id)).bind fun _ t _ => ?_
    exact follows_ask_bind (Bindings.free_ok (mem_keys_of_live found)) rfl

theorem replace_follows (target : Int) (replacement : Template) :
    Follows (replace target replacement b) (replace? target replacement b) site := by
  refine follows_scene_bind ?_
  cases found : b.live? site.scene target with
  | none => exact (plain_follows _ _).bind fun _ _ _ => rfl
  | some id =>
    have there := (Bindings.live?_eq_some_iff.mp found).2
    obtain ⟨base, known, attributes⟩ := Scene.Checked.attributes_ok there
    refine follows_ask_bind attributes ?_
    dsimp only
    rw [known]
    refine (plain_follows _ _).bind fun node t made => ?_
    have same := scene_of_make made
    have renewed : (Scene.replace id node).run t.scene =
        (.ok (), { t.scene with nodes := t.scene.nodes.put id node }) := by
      rw [Scene.replace_run, same, if_pos there]
    refine (follows_onScene renewed ?_).bind fun _ _ _ => rfl
    rw [Scene.Checked.replace, same, if_pos there]

theorem baseOf_ok (there : ∀ id ∈ ids, s.contains id = true) :
    baseOf s ids = .ok (ids.head?.bind s.node?) := by
  cases ids with
  | nil => rfl
  | cons id rest =>
    obtain ⟨node, known, attributes⟩ := Scene.Checked.attributes_ok (there id List.mem_cons_self)
    rw [baseOf, attributes, List.head?_cons, Option.bind_some, known]
    rfl

theorem add_follows (neighbors : List Int) (template : Template) (h : site.scene.Sound) :
    Follows (add neighbors template b) (add? neighbors template b) site := by
  refine follows_scene_bind ?_
  cases resolved : resolve site.scene b neighbors with
  | error missing => exact (plain_follows _ _).bind fun _ _ _ => rfl
  | ok ids =>
    have there : ∀ id ∈ ids, site.scene.contains id = true := fun _ =>
      contains_of_resolve (resolve_ok resolved)
    refine follows_ask_bind (baseOf_ok there) ?_
    refine (plain_follows _ _).bind fun node t made => ?_
    have same := scene_of_make made
    -- The new node is there, and the others are still there beside it.
    refine (insert_follows node t).bind fun id u inserted => ?_
    cases inserted
    have sound : (t.scene.insert node).2.Sound := Scene.insert_sound (same ▸ h) node
    have here : (t.scene.insert node).2.contains (t.scene.insert node).1 = true := by
      rw [Scene.contains_insert, decide_eq_true rfl, Bool.true_or]
    have near : ∀ other ∈ ids, (t.scene.insert node).2.contains other = true := by
      intro other member
      rw [Scene.contains_insert, same, there other member, Bool.or_true]
    refine (addEdges_follows sound here near).bind fun _ u _ => ?_
    cases ids.head? <;> rfl

/-! ### Merging -/

theorem outerNeighbors_ok (h : s.Sound) (there : ∀ id ∈ ids, s.contains id = true) :
    outerNeighbors s.graph ids = .ok (s.graph.around ids) := by
  have known : ids.mapM (Graph.Checked.neighbors s.graph) = .ok (ids.map s.graph.neighborList) :=
    Work.mapM_ok fun id member =>
      Graph.Checked.neighbors_ok h.consistent ((h.inStep id).symm.trans (there id member))
  rw [outerNeighbors, known]
  rfl

theorem absorbAll_ok (survivor : Int) (h : s.Sound) (ids : List Int) :
    ids.foldlM (absorb survivor) s = .ok (ids.foldl (Procedure.absorb survivor) s) := by
  induction ids generalizing s with
  | nil => rfl
  | cons id rest ih =>
    have released := Scene.forest_sound h (s.graph.forest.release id (some survivor))
    have absorbed : absorb survivor s id = .ok (Procedure.absorb survivor s id) :=
      Scene.Checked.remove_ok released id
    rw [List.foldlM_cons, absorbed, List.foldl_cons]
    exact ih (absorb_sound survivor h id)

theorem merge_follows (targets : List Int) (survivor : Int) (h : site.scene.Sound) :
    Follows (merge (Procedure.merge targets survivor).references survivor b)
      (merge? (Procedure.merge targets survivor).references survivor b) site := by
  refine follows_scene_bind ?_
  cases resolved : resolve site.scene b (Procedure.merge targets survivor).references with
  | error missing =>
    cases b.get? survivor <;> exact (plain_follows _ _).bind fun _ _ _ => rfl
  | ok ids =>
    have live := resolve_ok resolved
    have there : ∀ id ∈ ids, site.scene.contains id = true := fun _ => contains_of_resolve live
    obtain ⟨id, member, bound⟩ := exists_survivor live
    have fetched : b.fetch survivor = .ok id := by
      rw [Bindings.fetch, bound]
    refine follows_ask_bind fetched ?_
    rw [bound]
    have around : Procedure.outerNeighbors site.scene.graph ids = .ok (site.scene.graph.around ids) :=
      outerNeighbors_eq fun other member => (h.inStep other).symm.trans (there other member)
    refine (follows_ask (outerNeighbors_ok h there) around).bind fun neighbors t asked => ?_
    rw [around] at asked
    cases asked
    dsimp only
    rw [map_snd_absorbed live]
    refine (change_follows (absorbAll_ok id h _)).bind fun _ t gathered => ?_
    cases gathered
    have sound : (site.scene.gather ids id).Sound := gather_sound h ids id
    have here : (site.scene.gather ids id).contains id = true :=
      contains_gather_survivor (there id member)
    refine (addEdges_follows sound here fun _ => contains_gather_of_around h).bind fun _ u _ => ?_
    cases outerParent? site.scene.graph ids <;> rfl

/-- In a sound scene a procedure with checks follows the one without them, whatever the bindings
are. -/
theorem apply_follows (p : Procedure) (b : Bindings) (h : site.scene.Sound) :
    Follows (apply p b) (p.apply b) site := by
  cases p with
  | delete target => exact delete_follows target h
  | replace target replacement => exact replace_follows target replacement
  | add neighbors template => exact add_follows neighbors template h
  | merge targets survivor => exact merge_follows targets survivor h

end Procedure.Checked

end GrowthGrammar
