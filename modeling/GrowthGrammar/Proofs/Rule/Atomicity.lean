import GrowthGrammar.Proofs.Rule.CheckedProcedures
import GrowthGrammar.Proofs.Rule.Fate
import GrowthGrammar.Proofs.Rule.Run

/-!
Atomicity: a procedure does all of its work or none. The bindings of a match are shared by all who
hold them, so a procedure changes them in place, step by step with the scene; what it has changed
before it stops stays changed. It stops only before its first change, and it fails without one.
-/
namespace GrowthGrammar

/-- Work on a site and on the bindings of a match, where every lookup may lapse. -/
abbrev HeldWork (α : Type) := ExceptT Stop (StateM (Site × Bindings)) α

namespace HeldWork

variable {α β : Type}

def onSite (w : CheckedWork α) : HeldWork α := fun (site, b) =>
  let (answer, site) := w.run site
  (answer, site, b)

def bindings : HeldWork Bindings := return (← get).2

/-- Takes a pattern id from the bindings, where it has to be. -/
def free (patternId : Int) : HeldWork Unit := do
  let b ← onSite (CheckedWork.ask ((← bindings).free patternId))
  modify fun (site, _) => (site, b)

/-- Takes a pattern id from the bindings if it is there. -/
def drop (patternId : Int) : HeldWork Unit :=
  modify fun (site, b) => (site, b.erase patternId)

/-! ### Runs -/

variable {w : CheckedWork α} {site t : Site} {b : Bindings}

theorem onSite_run (w : CheckedWork α) (site : Site) (b : Bindings) :
    (onSite w).run (site, b) = ((w.run site).1, (w.run site).2, b) := rfl

theorem onSite_bind_run {a : α} (ran : w.run site = (.ok a, t)) (f : α → HeldWork β) :
    (onSite w >>= f).run (site, b) = (f a).run (t, b) := by
  rw [Work.run_bind, onSite_run, ran]

theorem bindings_bind_run (f : Bindings → HeldWork β) :
    (bindings >>= f).run (site, b) = (f b).run (site, b) := rfl

theorem scene_bind_run (f : Scene → HeldWork β) :
    (onSite CheckedWork.scene >>= f).run (site, b) = (f site.scene).run (site, b) := rfl

theorem onSite_bind (w : CheckedWork α) (f : α → CheckedWork β) (held : Site × Bindings) :
    (onSite (w >>= f)).run held = (onSite w >>= fun a => onSite (f a)).run held := by
  obtain ⟨site, b⟩ := held
  rw [Work.run_bind, onSite_run, onSite_run, Work.run_bind]
  cases w.run site with
  | mk answer t => cases answer <;> rfl

/-- Work on the site that is repeated is repeated work on the site. -/
theorem onSite_forM {γ : Type} (w : γ → CheckedWork PUnit) (items : List γ)
    (held : Site × Bindings) :
    (items.forM fun c => onSite (w c)).run held = (onSite (items.forM w)).run held := by
  induction items generalizing held with
  | nil => rfl
  | cons c rest ih =>
    refine Eq.trans ?_ (onSite_bind (w c) (fun _ => rest.forM w) held).symm
    show (onSite (w c) >>= fun _ => rest.forM fun c => onSite (w c)).run held = _
    rw [Work.run_bind, Work.run_bind]
    split
    · exact ih _
    · rfl

end HeldWork

namespace Procedure

variable {s t : Scene} {b b' : Bindings} {p : Procedure} {o : Outcome}

theorem Does.finished (does : Does s b p o b' t) : o ≠ .failed := by
  cases does <;> exact Outcome.noConfusion

/-- A procedure that makes a node leaves the bindings alone. -/
theorem Does.bindings_eq (does : Does s b p o b' t) (makes : p.template?.isSome = true) :
    b' = b := by
  cases does with
  | replace | add => rfl
  | delete | merge => cases makes

theorem Ends.of_error {fault : PassFault} (ends : Ends s b p (.error fault) t) :
    p.targetsLive b s = true ∧ t = s ∧ ∃ stopped, fault = .formula stopped := by
  cases ends with
  | faulted stopped live => exact ⟨live, rfl, stopped, rfl⟩

theorem exists_gone_iff :
    p.targetsLive b s = false ↔ ∃ n ∈ p.references,
      b.get? n = none ∨ ∃ id, b.get? n = some id ∧ s.contains id = false := by
  rw [targetsLive_eq_false_iff]
  refine exists_congr fun n => and_congr_right fun _ => ?_
  cases b.get? n <;> simp

namespace InPlace

open HeldWork

def delete (target : Int) : HeldWork Outcome := do
  let b ← bindings
  match b.live? (← onSite CheckedWork.scene) target with
  | none =>
    onSite (CheckedWork.note (.unbound "Delete" target b))
    return .failed
  | some id =>
    onSite (CheckedWork.change fun s => Scene.Checked.remove s id)
    free target
    return .removed [id]

/-- Each node goes together with its pattern id. -/
def absorb (survivor : Int) (patternId id : Int) : HeldWork Unit := do
  onSite (CheckedWork.change fun s => Checked.absorb survivor s id)
  drop patternId

def merge (references : List Int) (survivor : Int) : HeldWork Outcome := do
  let b ← bindings
  let s ← onSite CheckedWork.scene
  match resolve s b references with
  | .error patternId =>
    onSite (CheckedWork.note (.unbound "Merge" patternId b))
    return .failed
  | .ok ids =>
    let survivorId ← onSite (CheckedWork.ask (b.fetch survivor))
    let neighbors ← onSite (CheckedWork.ask (Checked.outerNeighbors s.graph ids))
    let parent := outerParent? s.graph ids
    let absorbed := (references.zip ids).filter fun (_, id) => id ≠ survivorId
    absorbed.forM fun (patternId, id) => absorb survivorId patternId id
    neighbors.forM fun neighbor =>
      onSite (CheckedWork.change fun s => Scene.Checked.addEdge s survivorId neighbor)
    if let some parent := parent then
      onSite (CheckedWork.plain (SiteWork.change fun s => s.mapGraph (·.attach survivorId parent)))
    onSite (CheckedWork.plain (SiteWork.change fun s => s.mapGraph (·.touchNode survivorId)))
    return .removed (absorbed.map (·.2))

/-- The procedures that take no node away leave the bindings alone. -/
def apply : Procedure → HeldWork Outcome
  | .delete target => delete target
  | .replace target replacement => do
    return (← onSite (Checked.replace target replacement (← bindings))).1
  | .add neighbors template => do
    return (← onSite (Checked.add neighbors template (← bindings))).1
  | .merge targets survivor => merge (Procedure.merge targets survivor).references survivor

/-! ### What is done in place -/

/-- How held work ends if it does what plain work does that starts with the same bindings. After a
fault the bindings are the old ones. -/
def hold {α : Type} (b : Bindings) :
    Except PassFault (α × Bindings) × Site → Except Stop α × Site × Bindings
  | (.ok (a, b'), t) => (.ok a, t, b')
  | (.error fault, t) => (.error fault.stop, t, b)

variable {b : Bindings} {site : Site} {p : Procedure}

theorem change_run {f : Scene → Except Lapse Scene} {s : Scene} (known : f site.scene = .ok s) :
    (CheckedWork.change f).run site = (.ok (), { site with scene := s }) :=
  @CheckedWork.change_follows site f (fun _ => s) known

theorem free_run {target : Int} (bound : target ∈ b.keys) :
    (free target).run (site, b) = (.ok (), site, b.erase target) := by
  unfold free
  rw [bindings_bind_run, Bindings.free_ok bound]
  rfl

theorem delete_run (target : Int) (h : site.scene.Sound) :
    (delete target).run (site, b) = hold b ((delete? target b).run site) := by
  unfold delete delete?
  rw [bindings_bind_run, scene_bind_run, SiteWork.scene_bind_run]
  cases found : b.live? site.scene target with
  | none => rfl
  | some id =>
    have removed : (CheckedWork.change fun s => Scene.Checked.remove s id).run site =
        (.ok (), { site with scene := (site.scene.remove id).2 }) :=
      change_run (Scene.Checked.remove_ok h id)
    dsimp only
    rw [onSite_bind_run removed, Work.run_bind, free_run (Checked.mem_keys_of_live found)]
    rfl

/-! ### Merging -/

/-- A node goes from the scene at the same time as its pattern id from the bindings. -/
theorem absorbAll_run (survivor : Int) (absorbed : List (Int × Int)) (h : site.scene.Sound) :
    (absorbed.forM fun e => absorb survivor e.1 e.2).run (site, b) =
      (.ok ⟨⟩,
        { site with scene := (absorbed.map (·.2)).foldl (Procedure.absorb survivor) site.scene },
        absorbed.foldl (fun b e => b.erase e.1) b) := by
  induction absorbed generalizing site b with
  | nil => rfl
  | cons e rest ih =>
    have released := Scene.forest_sound h (site.scene.graph.forest.release e.2 (some survivor))
    have gone : (absorb survivor e.1 e.2).run (site, b) = (.ok (),
        { site with scene := Procedure.absorb survivor site.scene e.2 }, b.erase e.1) := by
      unfold absorb
      rw [onSite_bind_run (change_run (Scene.Checked.remove_ok released e.2))]
      rfl
    show (absorb survivor e.1 e.2 >>= fun _ =>
      rest.forM fun e => absorb survivor e.1 e.2).run (site, b) = _
    rw [Work.run_bind, gone]
    exact ih (absorb_sound survivor h e.2)

theorem joinAll_run {id : Int} {others : List Int} (h : site.scene.Sound)
    (here : site.scene.contains id = true)
    (there : ∀ other ∈ others, site.scene.contains other = true) :
    (others.forM fun other =>
      onSite (CheckedWork.change fun s => Scene.Checked.addEdge s id other)).run (site, b) =
      (.ok ⟨⟩, { site with scene := site.scene.joinAll id others }, b) := by
  have joined := CheckedWork.addEdges_follows h here there
  rw [CheckedWork.Follows, CheckedWork.plain_run (addEdges_run site ((h.inStep id).symm.trans here)
    fun other member => (h.inStep other).symm.trans (there other member))] at joined
  rw [onSite_forM, onSite_run, joined]
  rfl

theorem merge_run_held (targets : List Int) (survivor : Int) (h : site.scene.Sound) :
    (merge (Procedure.merge targets survivor).references survivor).run (site, b) =
      hold b ((merge? (Procedure.merge targets survivor).references survivor b).run site) := by
  cases resolved : resolve site.scene b (Procedure.merge targets survivor).references with
  | error missing =>
    unfold merge merge?
    rw [bindings_bind_run, scene_bind_run, SiteWork.scene_bind_run, resolved]
    rfl
  | ok ids =>
    have live := resolve_ok resolved
    have there : ∀ id ∈ ids, site.scene.contains id = true := fun _ => contains_of_resolve live
    obtain ⟨id, member, bound⟩ := exists_survivor live
    have fetched : (CheckedWork.ask (b.fetch survivor)).run site = (.ok id, site) := by
      rw [Bindings.fetch, bound]
      rfl
    have asked : (CheckedWork.ask (Checked.outerNeighbors site.scene.graph ids)).run site =
        (.ok (site.scene.graph.around ids), site) := by
      rw [Checked.outerNeighbors_ok h there]
      rfl
    let gathered : Site := { site with scene := site.scene.gather ids id }
    have here : gathered.scene.contains id = true := contains_gather_survivor (there id member)
    have joined (b' : Bindings) : ((site.scene.graph.around ids).forM fun other =>
        onSite (CheckedWork.change fun s => Scene.Checked.addEdge s id other)).run
          ({ site with scene := (ids.filter (· ≠ id)).foldl (Procedure.absorb id) site.scene }, b') =
        _ := @joinAll_run b' gathered id _ (gather_sound h ids id) here fun _ =>
          contains_gather_of_around h
    rw [merge_run h resolved bound member]
    unfold merge
    rw [bindings_bind_run, scene_bind_run, resolved]
    dsimp only
    rw [onSite_bind_run fetched, onSite_bind_run asked, Work.run_bind, absorbAll_run id _ h,
      map_snd_absorbed live]
    dsimp only
    rw [Work.run_bind, joined, Scene.collapse]
    cases outerParent? site.scene.graph ids <;> rfl

/-! ### All or nothing -/

/-- Where the bindings are left alone, they are held as they are. -/
theorem kept_run {checked : CheckedWork (Outcome × Bindings)} {w : SiteWork (Outcome × Bindings)}
    (follows : checked.Follows w site)
    (kept : ∀ o b', (w.run site).1 = .ok (o, b') → b' = b) :
    (do return (← onSite checked).1 : HeldWork Outcome).run (site, b) = hold b (w.run site) := by
  rw [Work.run_bind, onSite_run, show checked.run site = _ from follows]
  cases ran : w.run site with
  | mk answer t =>
    rw [CheckedWork.plain_run ran]
    cases answer with
    | error fault => rfl
    | ok given =>
      obtain ⟨o, b'⟩ := given
      rw [ran] at kept
      obtain rfl := kept o b' rfl
      rfl

/-- In a sound scene a procedure that works in place does what `Procedure.apply` does. -/
theorem apply_run (p : Procedure) (b : Bindings) (h : site.scene.Sound) :
    (apply p).run (site, b) = hold b ((p.apply b).run site) := by
  have kept (makes : p.template?.isSome = true) (o : Outcome) (b' : Bindings)
      (done : ((p.apply b).run site).1 = .ok (o, b')) : b' = b := by
    have ends := apply_ends p b h
    rw [done] at ends
    rcases ends.of_ok with ⟨-, -, same, -⟩ | ⟨-, does⟩
    · exact same
    · exact does.bindings_eq makes
  cases p with
  | delete target => exact delete_run target h
  | merge targets survivor => exact merge_run_held targets survivor h
  | replace target replacement =>
    exact kept_run (Checked.replace_follows target replacement) (kept rfl)
  | add neighbors template => exact kept_run (Checked.add_follows neighbors template h) (kept rfl)

end InPlace

/-- From the empty scene on, whatever has been done and whatever the bindings are: a procedure that
works in place, where every lookup may lapse, ends as the plain one does and leaves the same. It
fails exactly if one of its nodes is not bound or not there. Where it fails, and where it stops, the
scene and the bindings are as before; only a formula of its template stops it. -/
theorem apply_all_or_nothing (p : Procedure) (b : Bindings) (ops : List Scene.Operation)
    (source : Source) (notes : List Note) :
    ∃ answer after b',
      (InPlace.apply p).run (⟨Scene.empty.run ops, source, notes⟩, b) = (answer, after, b') ∧
      (CheckedWork.plain (p.apply b)).run ⟨Scene.empty.run ops, source, notes⟩ =
        (answer.map fun o => (o, b'), after) ∧
      (answer = .ok .failed ↔ ∃ n ∈ p.references, b.get? n = none ∨
        ∃ id, b.get? n = some id ∧ (Scene.empty.run ops).contains id = false) ∧
      (answer = .ok .failed ∨ (∃ stop, answer = .error stop) →
        after.scene = Scene.empty.run ops ∧ b' = b) ∧
      ∀ stop, answer = .error stop → ∃ fault, stop = .formula fault := by
  have sound := (Scene.run_planted ops Scene.empty_planted).toSound
  generalize Scene.empty.run ops = s at sound ⊢
  have ends := @apply_ends ⟨s, source, notes⟩ p b sound
  have ran := @InPlace.apply_run ⟨s, source, notes⟩ p b sound
  cases done : (p.apply b).run ⟨s, source, notes⟩ with
  | mk answer after =>
    rw [done] at ends ran
    have plain := CheckedWork.plain_run done
    cases answer with
    | error fault =>
      obtain ⟨live, same, stopped, rfl⟩ := ends.of_error
      refine ⟨_, after, b, ran, plain, ?_, fun _ => ⟨same, rfl⟩, ?_⟩
      · rw [← exists_gone_iff, live]
        exact iff_of_false nofun Bool.noConfusion
      · rintro stop ⟨⟩
        exact ⟨stopped, rfl⟩
    | ok given =>
      obtain ⟨o, b'⟩ := given
      refine ⟨_, after, b', ran, plain, ?_⟩
      rw [← exists_gone_iff]
      rcases ends.of_ok with ⟨missing, rfl, rfl, same⟩ | ⟨live, does⟩
      · exact ⟨iff_of_true rfl missing, fun _ => ⟨same, rfl⟩, fun _ other => by cases other⟩
      · have finished : Except.ok o ≠ (.ok .failed : Except Stop Outcome) := fun same =>
          does.finished (Except.ok.inj same)
        refine ⟨iff_of_false finished (live ▸ Bool.noConfusion), ?_, fun _ other => by cases other⟩
        rintro (same | ⟨stop, same⟩)
        · exact absurd same finished
        · cases same

/-- Two nodes, and a third pattern id whose node is not there. -/
def halfThere : Bindings := .ofList [(5, 0), (6, 1), (7, 2)]

def pair : List Scene.Operation := [.edit (.insert {}), .edit (.insert {})]

/-- A template with a variable that nothing gives. -/
def unfounded : Template := ⟨"leaf", .ofList [("x", "y")]⟩

/-- A merge fails at its last node, and a formula stops an addition. -/
theorem merge_fails_addition_stops :
    (∃ after, (InPlace.apply (.merge [5, 6, 7] 5)).run
        (⟨Scene.empty.run pair, .unseeded, []⟩, halfThere) = (.ok .failed, after, halfThere) ∧
      after.scene = Scene.empty.run pair) ∧
    ∃ after, (InPlace.apply (.add [6, 6] unfounded)).run
        (⟨Scene.empty.run pair, .unseeded, []⟩, halfThere) =
        (.error (.formula (.evaluation (.unknownVariable "y") "y")), after, halfThere) ∧
      after.scene = Scene.empty.run pair := by
  constructor
  · obtain ⟨answer, after, b', ran, -, failed, unchanged, -⟩ :=
      apply_all_or_nothing (.merge [5, 6, 7] 5) halfThere pair .unseeded []
    have stays : answer = .ok .failed :=
      failed.mpr ⟨7, by decide, .inr ⟨2, by decide, by decide +kernel⟩⟩
    obtain ⟨same, rfl⟩ := unchanged (.inl stays)
    exact ⟨after, stays ▸ ran, same⟩
  · obtain ⟨answer, after, b', ran, -, -, unchanged, -⟩ :=
      apply_all_or_nothing (.add [6, 6] unfounded) halfThere pair .unseeded []
    have stops : answer = .error (.formula (.evaluation (.unknownVariable "y") "y")) := by
      have first := congrArg Prod.fst ran
      exact first.symm.trans rfl
    obtain ⟨same, rfl⟩ := unchanged (.inr ⟨_, stops⟩)
    exact ⟨after, stops ▸ ran, same⟩

end Procedure

end GrowthGrammar
