import GrowthGrammar.Proofs.Rule.CheckedProcedures
import GrowthGrammar.Proofs.Rule.Run

/-!
Checked passes: passes with every lookup as one that may lapse, those of the search included. None
ever does, whatever was done to the scene before and whatever pattern ids the procedures name: a
pass gives a result, or a formula of one of its templates has a fault.
-/
namespace GrowthGrammar

/-! ### Faults of formulas -/

/-- The template of a procedure has a formula that a fault stops. -/
def Procedure.Raises (p : Procedure) (fault : FormulaFault) : Prop :=
  ∃ t, p.template? = some t ∧ ∃ base source after, t.eval base source = (.error fault, after)

namespace SiteWork

variable {α β γ : Type} {F : FormulaFault → Prop}

/-- The faults of formulas that stop the work, on whatever site, are among some. -/
def Raises (w : SiteWork α) (F : FormulaFault → Prop) : Prop :=
  ∀ site fault t, w.run site = (.error (.formula fault), t) → F fault

theorem raises_of_done {w : SiteWork α} (done : ∀ site, ∃ a, (w.run site).1 = .ok a) :
    w.Raises F := by
  intro site fault t ran
  obtain ⟨a, ended⟩ := done site
  rw [ran] at ended
  cases ended

theorem Raises.bind {w : SiteWork α} {f : α → SiteWork β} (first : w.Raises F)
    (second : ∀ a, (f a).Raises F) : (w >>= f).Raises F := by
  intro site fault t ran
  rw [Work.run_bind] at ran
  split at ran
  · rename_i a mid _
    exact second a mid fault t ran
  · rename_i stopped mid failed
    obtain ⟨same, -⟩ := Prod.mk.inj ran
    cases same
    exact first site fault mid failed

theorem raises_pure (a : α) : Raises (pure a) F := raises_of_done fun _ => ⟨a, rfl⟩

theorem raises_scene : Raises scene F := raises_of_done fun site => ⟨site.scene, rfl⟩

theorem raises_note (n : Note) : Raises (note n) F := raises_of_done fun _ => ⟨(), rfl⟩

theorem raises_change (f : Scene → Scene) : Raises (change f) F := raises_of_done fun _ => ⟨(), rfl⟩

theorem raises_insert (node : Node) : Raises (insert node) F :=
  raises_of_done fun site => ⟨(site.scene.insert node).1, rfl⟩

theorem raises_ask (answer : Except GraphFault α) : Raises (ask answer) F := by
  intro site fault t ran
  cases answer <;> cases congrArg Prod.fst ran

theorem raises_onScene (work : SceneWork α) : Raises (onScene work) F :=
  Raises.bind (raises_of_done fun site => ⟨(work.run site.scene).1, rfl⟩) raises_ask

theorem raises_forM {g : γ → SiteWork PUnit} (each : ∀ c, (g c).Raises F) (items : List γ) :
    Raises (items.forM g) F := by
  induction items with
  | nil => exact raises_pure _
  | cons c rest ih => exact (each c).bind fun _ => ih

theorem make_raises (t : Template) (base : Option Node) :
    (make t base).Raises fun fault => ∃ source after, t.eval base source = (.error fault, after) := by
  intro site fault after ran
  rw [Procedure.make_run] at ran
  split at ran
  · cases congrArg Prod.fst ran
  · rename_i _ source evaluated
    cases congrArg Prod.fst ran
    exact ⟨site.source, source, evaluated⟩

end SiteWork

namespace Procedure

open SiteWork

variable {F : FormulaFault → Prop}

theorem delete_raises (target : Int) (b : Bindings) : (delete? target b).Raises F := by
  refine raises_scene.bind fun s => ?_
  split
  · exact (raises_note _).bind fun _ => raises_pure _
  · exact (raises_change _).bind fun _ => raises_pure _

theorem replace_raises (target : Int) (replacement : Template) (b : Bindings) :
    (replace? target replacement b).Raises (Procedure.replace target replacement).Raises := by
  refine raises_scene.bind fun s => ?_
  split
  · exact (raises_note _).bind fun _ => raises_pure _
  · refine Raises.bind ?_ fun node =>
      (raises_onScene _).bind fun _ => (raises_change _).bind fun _ => raises_pure _
    exact fun site fault t ran => ⟨replacement, rfl, _, make_raises replacement _ site fault t ran⟩

theorem add_raises (neighbors : List Int) (template : Template) (b : Bindings) :
    (add? neighbors template b).Raises (Procedure.add neighbors template).Raises := by
  refine raises_scene.bind fun s => ?_
  split
  · exact (raises_note _).bind fun _ => raises_pure _
  · refine Raises.bind ?_ fun node => (raises_insert _).bind fun id =>
      (raises_forM (fun _ => raises_onScene _) _).bind fun _ => ?_
    · exact fun site fault t ran => ⟨template, rfl, _, make_raises template _ site fault t ran⟩
    · split
      · exact (raises_change _).bind fun _ => raises_pure _
      · exact raises_pure _

theorem merge_raises (references : List Int) (survivor : Int) (b : Bindings) :
    (merge? references survivor b).Raises F := by
  refine raises_scene.bind fun s => ?_
  split
  · exact (raises_note _).bind fun _ => raises_pure _
  · exact (raises_note _).bind fun _ => raises_pure _
  · refine (raises_ask _).bind fun neighbors => (raises_change _).bind fun _ =>
      (raises_forM (fun _ => raises_onScene _) _).bind fun _ => ?_
    split
    · exact (raises_change _).bind fun _ => (raises_change _).bind fun _ => raises_pure _
    · exact (raises_change _).bind fun _ => raises_pure _

theorem apply_raises (p : Procedure) (b : Bindings) : (p.apply b).Raises p.Raises := by
  cases p with
  | delete target => exact delete_raises target b
  | replace target replacement => exact replace_raises target replacement b
  | add neighbors template => exact add_raises neighbors template b
  | merge targets survivor => exact merge_raises _ survivor b

end Procedure

/-! ### Work that does not lapse -/

namespace CheckedWork

variable {α β : Type} {F G : FormulaFault → Prop} {checked : CheckedWork α} {w : SiteWork α}
  {f : α → CheckedWork β} {g : α → SiteWork β} {site : Site}

/-- On a site the work follows the plain work, and only certain faults of formulas stop it there. -/
structure Lapseless (checked : CheckedWork α) (w : SiteWork α) (F : FormulaFault → Prop)
    (site : Site) : Prop where
  follows : Follows checked w site
  stops : ∀ fault t, w.run site = (.error fault, t) → ∃ f, fault = .formula f ∧ F f

theorem Lapseless.imp (h : Lapseless checked w F site) (weaker : ∀ fault, F fault → G fault) :
    Lapseless checked w G site where
  follows := h.follows
  stops fault t ran := by
    obtain ⟨f, same, raised⟩ := h.stops fault t ran
    exact ⟨f, same, weaker f raised⟩

theorem Lapseless.bind (first : Lapseless checked w F site)
    (second : ∀ a t, w.run site = (.ok a, t) → Lapseless (f a) (g a) F t) :
    Lapseless (checked >>= f) (w >>= g) F site where
  follows := first.follows.bind fun a t ran => (second a t ran).follows
  stops fault t ran := by
    rw [Work.run_bind] at ran
    split at ran
    · rename_i a mid done
      exact (second a mid done).stops fault t ran
    · rename_i stopped mid failed
      obtain ⟨same, -⟩ := Prod.mk.inj ran
      cases same
      exact first.stops fault mid failed

theorem Lapseless.of_done {a : α} {t : Site} (follows : Follows checked w site)
    (done : w.run site = (.ok a, t)) : Lapseless checked w F site where
  follows := follows
  stops fault t failed := by cases done.symm.trans failed

theorem lapseless_pure (a : α) (site : Site) : Lapseless (pure a) (pure a) F site :=
  .of_done rfl rfl

theorem lapseless_note (n : Note) (site : Site) : Lapseless (note n) (SiteWork.note n) F site :=
  .of_done rfl rfl

theorem lapseless_scene_bind {f : Scene → CheckedWork β} {g : Scene → SiteWork β}
    (rest : Lapseless (f site.scene) (g site.scene) F site) :
    Lapseless (scene >>= f) (SiteWork.scene >>= g) F site := ⟨rest.follows, rest.stops⟩

end CheckedWork

/-! ### Passes with checks -/

namespace Rule

/-- The faults of formulas in the templates of the procedures. -/
def Raises (r : Rule) (fault : FormulaFault) : Prop := ∃ p ∈ r.procedures, p.Raises fault

namespace Checked

open CheckedWork

def applyProcedures (b : Bindings) (result : PassResult) : List Procedure → CheckedWork PassResult
  | [] => pure result
  | p :: rest => do
    let (outcome, b) ← Procedure.Checked.apply p b
    applyProcedures b (result.record outcome) rest

def applyMatches (r : Rule) (result : PassResult) : List Bindings → CheckedWork PassResult
  | [] => pure result
  | b :: rest => do
    if r.isStale (← scene) b then
      note (.stale r.id b)
      applyMatches r result rest
    else
      applyMatches r (← applyProcedures b result r.procedures) rest

def findMatches (r : Rule) : CheckedWork (List Bindings) := do
  let s ← scene
  let (found, after) ←
    ask (Matcher.Checked.search s r.pattern r.checkValues r.symmetryBreaking)
  plain (((r.matcher s).notes after found).forM fun n => SiteWork.note (.search n))
  return found

def applyWhere (r : Rule) (keeps : Scene → Bindings → Bool) : CheckedWork PassResult := do
  let found ← findMatches r
  let kept := found.filter (keeps (← scene))
  note (.matches r.id kept.length)
  let result ← applyMatches r {} kept
  if !result.isEmpty then note (.changed r.id result.tally)
  return result

variable {site : Site} {b : Bindings}

theorem apply_lapseless (p : Procedure) (b : Bindings) (h : site.scene.Sound) :
    Lapseless (Procedure.Checked.apply p b) (p.apply b) p.Raises site where
  follows := Procedure.Checked.apply_follows p b h
  stops fault t ran := by
    have ends := p.apply_ends b h
    rw [ran] at ends
    dsimp only at ends
    generalize t.scene = left at ends
    cases ends with
    | faulted fault _ _ => exact ⟨fault, rfl, p.apply_raises b site fault t ran⟩

theorem applyProcedures_lapseless (procedures : List Procedure) (result : PassResult)
    (h : site.scene.Sound) :
    Lapseless (applyProcedures b result procedures) (Rule.applyProcedures b result procedures)
      (fun fault => ∃ p ∈ procedures, p.Raises fault) site := by
  induction procedures generalizing b result site with
  | nil => exact lapseless_pure result site
  | cons p rest ih =>
    have first := (apply_lapseless p b h).imp (G := fun fault => ∃ q ∈ p :: rest, q.Raises fault)
      fun fault raised => ⟨p, List.mem_cons_self, raised⟩
    refine first.bind fun answer t ran => ?_
    have sound := Scene.sound_kept.apply p b site h
    rw [ran] at sound
    refine (ih (result.record answer.1) sound).imp fun fault raised => ?_
    obtain ⟨q, member, raised⟩ := raised
    exact ⟨q, List.mem_cons_of_mem p member, raised⟩

theorem applyMatches_lapseless (r : Rule) (result : PassResult) (found : List Bindings)
    (h : site.scene.Sound) :
    Lapseless (applyMatches r result found) (r.applyMatches result found) r.Raises site := by
  induction found generalizing result site with
  | nil => exact lapseless_pure result site
  | cons b rest ih =>
    refine lapseless_scene_bind ?_
    cases r.isStale site.scene b with
    | true =>
      refine (lapseless_note _ site).bind fun _ t noted => ?_
      cases noted
      exact ih result h
    | false =>
      refine (applyProcedures_lapseless r.procedures result h).bind fun later t ran => ?_
      have sound := Scene.sound_kept.applyProcedures b result r.procedures site h
      rw [ran] at sound
      exact ih later sound

theorem findMatches_lapseless (r : Rule) (site : Site) :
    Lapseless (findMatches r) r.findMatches r.Raises site := by
  refine .of_done ?_ (r.findMatches_run site)
  refine follows_scene_bind (follows_ask_bind (Matcher.Checked.search_ok ..) ?_)
  exact (plain_follows _ _).bind fun _ _ _ => rfl

theorem applyWhere_lapseless (r : Rule) (keeps : Scene → Bindings → Bool) (h : site.scene.Sound) :
    Lapseless (applyWhere r keeps) (r.applyWhere keeps) r.Raises site := by
  refine (findMatches_lapseless r site).bind fun found t searched => ?_
  rw [r.findMatches_run] at searched
  cases searched
  refine lapseless_scene_bind ((lapseless_note _ _).bind fun _ t noted => ?_)
  cases noted
  -- The matches are all found before the scene changes.
  refine (applyMatches_lapseless r {} _ ?_).bind fun result u _ => ?_
  · exact h
  split
  · exact (lapseless_note _ u).bind fun _ v _ => lapseless_pure result v
  · exact lapseless_pure result u

end Checked

/-- A pass over a scene, whatever was done to it from the empty one on, has nothing to look up that
is missing, and no operation of the graph refuses what the pass does. It gives a result, or it stops
at a formula of a template of the rule that cannot be evaluated. -/
theorem pass_never_lapses (ops : List Scene.Operation) (r : Rule)
    (keeps : Scene → Bindings → Bool) (source : Source) (notes : List Note) :
    (∃ result site, (Checked.applyWhere r keeps).run ⟨Scene.empty.run ops, source, notes⟩ =
        (.ok result, site) ∧
      (r.applyWhere keeps).run ⟨Scene.empty.run ops, source, notes⟩ = (.ok result, site)) ∨
    (∃ fault site, (Checked.applyWhere r keeps).run ⟨Scene.empty.run ops, source, notes⟩ =
        (.error (.formula fault), site) ∧
      (r.applyWhere keeps).run ⟨Scene.empty.run ops, source, notes⟩ =
        (.error (.formula fault), site) ∧ r.Raises fault) := by
  have planted := Scene.run_planted ops Scene.empty_planted
  have lapseless : CheckedWork.Lapseless (Checked.applyWhere r keeps) (r.applyWhere keeps) r.Raises
      ⟨Scene.empty.run ops, source, notes⟩ := Checked.applyWhere_lapseless r keeps planted.toSound
  have follows := lapseless.follows
  cases ran : (r.applyWhere keeps).run ⟨Scene.empty.run ops, source, notes⟩ with
  | mk answer site =>
    rw [CheckedWork.Follows, CheckedWork.plain_run ran] at follows
    cases answer with
    | ok result => exact .inl ⟨result, site, follows, rfl⟩
    | error fault =>
      obtain ⟨fault, rfl, raised⟩ := lapseless.stops fault site ran
      exact .inr ⟨fault, site, follows, rfl, raised⟩

end Rule

end GrowthGrammar
