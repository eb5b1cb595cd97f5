import GrowthGrammar.Proofs.Work
import GrowthGrammar.Rule.Engine

/-!
Contexts: how engines run. A rule works on the site of its context, unless its id names none where
there are streams. Rules applied one after the other can be cut in two.
-/
namespace GrowthGrammar

namespace Workshop

/-- What work in a context starts with. -/
def site (w : Workshop) (context : String) : Site where
  scene := w.scene
  source := match w.streams with
    | some streams => streams.source context
    | none => .unseeded
  notes := w.notes

/-- What work in a context leaves. -/
def leave (w : Workshop) (context : String) (site : Site) : Workshop where
  scene := site.scene
  streams := w.streams.map fun streams => streams.setSource context site.source
  notes := site.notes

/-- The common seed of the streams. It is all of the streams that the context of a rule depends on. -/
def seed? (w : Workshop) : Option Int := w.streams.map (·.seed)

theorem seed?_leave (w : Workshop) (context : String) (site : Site) :
    (w.leave context site).seed? = w.seed? := by
  obtain ⟨scene, streams, notes⟩ := w
  cases streams with
  | none => rfl
  | some streams =>
    obtain ⟨scene', source, notes'⟩ := site
    cases source <;> rfl

end Workshop

theorem EngineWork.inContext_run {α : Type} (context : String) (work : SiteWork α) (w : Workshop) :
    (inContext context work).run w =
      ((work.run (w.site context)).1, w.leave context (work.run (w.site context)).2) := by
  obtain ⟨scene, streams, notes⟩ := w
  unfold inContext
  rw [Work.run_bind, Work.run_modifyGet]
  cases streams with
  | none =>
    dsimp only [Workshop.site, Workshop.leave]
    generalize work.run _ = ran
    obtain ⟨answer, after⟩ := ran
    cases answer <;> rfl
  | some streams =>
    dsimp only [Workshop.site, Workshop.leave]
    generalize work.run _ = ran
    obtain ⟨answer, after⟩ := ran
    cases answer <;> rfl

namespace Rule

variable {r : Rule} {keeps : Scene → Bindings → Bool} {skipDirty : Bool} {w w' : Workshop}
  {context : String}

/-- There is a context for the rule to work in. -/
def HasContext (r : Rule) (w : Workshop) : Prop := ∃ context, r.context w = .ok context

theorem context_congr (same : w'.seed? = w.seed?) (r : Rule) : r.context w' = r.context w := by
  obtain ⟨scene, streams, notes⟩ := w
  obtain ⟨scene', streams', notes'⟩ := w'
  cases streams with
  | none =>
    cases streams' with
    | none => rfl
    | some streams' => cases same
  | some streams =>
    cases streams' with
    | none => cases same
    | some streams' =>
      have seed : streams'.seed = streams.seed := Option.some.inj same
      unfold context
      dsimp only
      rw [seed]

theorem HasContext.congr (has : r.HasContext w) (same : w'.seed? = w.seed?) : r.HasContext w' := by
  obtain ⟨context, known⟩ := has
  exact ⟨context, (context_congr same r).trans known⟩

/-- The rule works in its context, or not at all. -/
theorem runWhere_run (r : Rule) (keeps : Scene → Bindings → Bool) (w : Workshop) :
    (r.runWhere keeps).run w =
      match r.context w with
      | .ok context =>
        (((r.applyWhere keeps).run (w.site context)).1,
          w.leave context ((r.applyWhere keeps).run (w.site context)).2)
      | .error fault => (.error fault, w) := by
  rw [runWhere, Work.run_bind, Work.run_get]
  dsimp only
  cases r.context w with
  | ok context => exact EngineWork.inContext_run _ _ w
  | error fault => rfl

theorem runWhere_of_context (known : r.context w = .ok context) :
    (r.runWhere keeps).run w =
      (((r.applyWhere keeps).run (w.site context)).1,
        w.leave context ((r.applyWhere keeps).run (w.site context)).2) := by
  rw [runWhere_run, known]

theorem seed?_run (r : Rule) (skipDirty : Bool) (w : Workshop) :
    ((r.run skipDirty).run w).2.seed? = w.seed? := by
  rw [run, runWhere_run]
  cases r.context w with
  | ok context => exact w.seed?_leave _ _
  | error fault => rfl

theorem runAll_append_run (skipDirty : Bool) (total : PassResult) (before after : List Rule)
    (w : Workshop) :
    (runAll skipDirty total (before ++ after)).run w =
      match (runAll skipDirty total before).run w with
      | (.ok total, w) => (runAll skipDirty total after).run w
      | (.error fault, w) => (.error fault, w) := by
  induction before generalizing total w with
  | nil => rfl
  | cons r rest ih =>
    rw [List.cons_append, runAll, runAll, Work.run_bind, Work.run_bind]
    cases (r.run skipDirty).run w with
    | mk answer w =>
      cases answer with
      | error fault => rfl
      | ok result => exact ih (total.add result) w

end Rule

end GrowthGrammar
